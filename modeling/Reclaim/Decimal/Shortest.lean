/-!
# The shortest decimal of a binary number

A binary floating-point number `m * 2^q` stands for all reals that round to it. Of the decimals
among them with the fewest digits, the one nearest to the number itself is its shortest decimal.

* `Binary` : a positive number `m * 2^q`, with the width of its lower neighbourhood;
* `Binary.contains` : whether a decimal rounds to the number;
* `Binary.shortest` : the shortest decimal.
-/

namespace Reclaim.Decimal

/-- The decimal `digits * 10^exponent`. -/
structure Dec where
  digits : Nat
  exponent : Int
deriving DecidableEq, Repr, Inhabited

/-- The same decimal without zeros at the end of its digits, up to so many of them. -/
def Dec.strip : Nat → Dec → Dec
  | 0, d => d
  | fuel + 1, d =>
    if d.digits % 10 = 0 ∧ 0 < d.digits then Dec.strip fuel ⟨d.digits / 10, d.exponent + 1⟩ else d

/-- The positive number `m * 2^q`. -/
structure Binary where
  m : Nat
  q : Int
  /-- The next smaller number is only half as far away as the next greater one. -/
  narrowBelow : Bool
deriving DecidableEq, Repr, Inhabited

/-- `a * 2^x * 10^y` and `b * 2^u * 10^v` over a common denominator, for comparison. -/
def commonScale (a : Nat) (x y : Int) (b : Nat) (u v : Int) : Nat × Nat :=
  let two := min x u
  let ten := min y v
  (a * Nat.pow 2 (x - two).toNat * Nat.pow 10 (y - ten).toNat,
    b * Nat.pow 2 (u - two).toNat * Nat.pow 10 (v - ten).toNat)

namespace Binary

/-- The lower end of the reals that round to the number, in units of `2^(q - 2)`. -/
def low (b : Binary) : Nat := if b.narrowBelow then 4 * b.m - 1 else 4 * b.m - 2

/-- The upper end, in the same units. -/
def high (b : Binary) : Nat := 4 * b.m + 2

/-- Whether a decimal rounds to the number; the ends do so if the number is even. -/
def contains (b : Binary) (d : Dec) : Bool :=
  let (low, x) := commonScale b.low (b.q - 2) 0 d.digits 0 d.exponent
  let (high, y) := commonScale b.high (b.q - 2) 0 d.digits 0 d.exponent
  if b.m % 2 = 0 then low ≤ x && y ≤ high else low < x && y < high

/-- The distance of a decimal from the number, in units that depend on the exponents only. -/
def distance (b : Binary) (d : Dec) : Nat :=
  let (v, x) := commonScale b.m b.q 0 d.digits 0 d.exponent
  max v x - min v x

/-- The number rounded down to a multiple of `10^k`. -/
def floorAt (b : Binary) (k : Int) : Nat :=
  let (v, unit) := commonScale b.m b.q 0 1 0 k
  v / unit

/-- The least exponent `k` for which the number is below `10^k`, from a guess that is not above. -/
def magnitude (b : Binary) : Nat → Int → Int
  | 0, k => k
  | fuel + 1, k => if b.floorAt k = 0 then k else b.magnitude fuel (k + 1)

/-- The nearer of the two multiples of `10^k` around the number, of two equally near ones the greater,
if one of them rounds to the number. -/
def candidate? (b : Binary) (k : Int) : Option Dec :=
  let below : Dec := ⟨b.floorAt k, k⟩
  let above : Dec := ⟨b.floorAt k + 1, k⟩
  match b.contains below && 0 < below.digits, b.contains above with
  | true, true => some (if b.distance below < b.distance above then below else above)
  | true, false => some below
  | false, true => some above
  | false, false => none

/-- The first hit with `n` digits or more, for a number below `10^k`. -/
def search (b : Binary) (k : Int) : Nat → Nat → Dec
  | 0, n => ⟨b.floorAt (k - n), k - n⟩
  | fuel + 1, n =>
    match b.candidate? (k - n) with
    | some d => d
    | none => b.search k fuel (n + 1)

/-- The shortest decimal; seventeen digits are always enough. -/
def shortest (b : Binary) : Dec :=
  Dec.strip 17 (b.search (b.magnitude 700 (-330)) 17 1)

end Binary

end Reclaim.Decimal

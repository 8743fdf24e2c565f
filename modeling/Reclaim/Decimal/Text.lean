import Reclaim.Decimal.Shortest

/-!
# Floating-point numbers as text

* `Decimal.positional` : a decimal without an exponent;
* `Decimal.text` : the text of a floating-point number, shortest and without an exponent;
* `Decimal.read?` : the floating-point number that a text names.
-/

namespace Reclaim.Decimal

/-- Positive infinity. -/
def infinity : Float := 1 / 0

/-- The value of an undefined operation. -/
def notANumber : Float := 0 / 0

/-! ## Writing -/

/-- A decimal without an exponent; whole numbers have no point. -/
def positional (d : Dec) : String :=
  let digits := toString d.digits
  if 0 ≤ d.exponent then digits ++ "".pushn '0' d.exponent.toNat
  else
    let places := (-d.exponent).toNat
    if places < digits.length then
      let cs := digits.toList
      String.ofList (cs.take (cs.length - places)) ++ "."
        ++ String.ofList (cs.drop (cs.length - places))
    else "0." ++ "".pushn '0' (places - digits.length) ++ digits

/-- The number behind the bits of a positive finite floating-point number. -/
def binaryOfBits (bits : Nat) : Binary :=
  let fraction : Nat := bits % Nat.pow 2 52
  let biased : Nat := bits / Nat.pow 2 52 % Nat.pow 2 11
  if biased = 0 then ⟨fraction, -1074, false⟩
  else ⟨Nat.pow 2 52 + fraction, (biased : Int) - 1075, fraction == 0 && 1 < biased⟩

/-- The text of a floating-point number: the fewest digits that read back, never an exponent. -/
def text (x : Float) : String :=
  if x.isNaN then "NaN"
  else
    let bits := x.toBits.toNat
    let sign := if bits < Nat.pow 2 63 then "" else "-"
    let bits := bits % Nat.pow 2 63
    if x.isInf then sign ++ "inf"
    else if bits = 0 then sign ++ "0"
    else sign ++ positional (binaryOfBits bits).shortest

/-! ## Reading -/

/-- The value of a list of digits. -/
def digitsValue (cs : List Char) : Nat :=
  cs.foldl (fun n c => 10 * n + (c.toNat - 48)) 0

/-- A sign, and what follows it. -/
def readSign : List Char → Bool × List Char
  | '+' :: rest => (false, rest)
  | '-' :: rest => (true, rest)
  | rest => (false, rest)

/-- An exponent, or nothing at all. -/
def readExponent? : List Char → Option Int
  | [] => some 0
  | c :: rest =>
    if c = 'e' ∨ c = 'E' then
      let (negative, digits) := readSign rest
      if digits.isEmpty || !digits.all Char.isDigit then none
      else
        let n : Int := digitsValue digits
        some (if negative then -n else n)
    else none

/-- The floating-point number next to `n * 10^e`; beyond the range of exponents that any number
has, the result is infinite or zero. -/
def nearest (n : Nat) (e : Int) : Float :=
  let width : Int := (toString n).length
  if n = 0 then 0
  else if 400 < e + width then infinity
  else if e + width < -400 then 0
  else if 0 ≤ e then Float.ofScientific n false e.toNat
  else Float.ofScientific n true (-e).toNat

/-- A number without a sign. -/
def readUnsigned? (cs : List Char) : Option Float :=
  let name := String.ofList (cs.map Char.toLower)
  if name = "inf" ∨ name = "infinity" then some infinity
  else if name = "nan" then some notANumber
  else
    let whole := cs.takeWhile Char.isDigit
    let (places, rest) := match cs.dropWhile Char.isDigit with
      | '.' :: rest => (rest.takeWhile Char.isDigit, rest.dropWhile Char.isDigit)
      | rest => ([], rest)
    if whole.isEmpty && places.isEmpty then none
    else (readExponent? rest).map fun e =>
      nearest (digitsValue (whole ++ places)) (e - places.length)

/-- The floating-point number that a text names, rounded to nearest. -/
def read? (s : String) : Option Float :=
  let (negative, rest) := readSign s.toList
  (readUnsigned? rest).map fun x => if negative then -x else x

end Reclaim.Decimal

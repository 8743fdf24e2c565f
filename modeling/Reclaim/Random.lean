/-!
# Random numbers

A small generator of 64-bit words: the state walks through all words with a fixed stride, and each
word is mixed by a wide multiplication.

* `Rng.next` : a word; `Rng.bool` : its parity;
* `Rng.unit` : a number from 0 up to but not including 1;
* `Rng.below` : a number below a bound, every one equally likely.
-/

namespace Reclaim

/-- The state of the generator. -/
structure Rng where
  state : UInt64
deriving DecidableEq, Repr, Inhabited

namespace Rng

/-- The high and the low half of a product. -/
def wideMul (a b : UInt64) : UInt64 × UInt64 :=
  let product := a.toNat * b.toNat
  (UInt64.ofNat (product / Nat.pow 2 64), UInt64.ofNat product)

/-- The next word. -/
def next (r : Rng) : UInt64 × Rng :=
  let state := r.state + 0x2d358dccaa6c78a5
  let (high, low) := wideMul state (state ^^^ 0x8bb84b93962eacc9)
  (low ^^^ high, ⟨state⟩)

/-- Whether the next word is even. -/
def bool (r : Rng) : Bool × Rng :=
  let (word, r) := r.next
  (word % 2 == 0, r)

/-- The first number below 1 among so many draws. -/
def unitWithin : Nat → Rng → Float × Rng
  | 0, r => (0, r)
  | fuel + 1, r =>
    let (word, r) := r.next
    let x := (word >>> 1).toFloat.scaleB (-63)
    if x < 1 then (x, r) else unitWithin fuel r

/-- A number from 0 up to but not including 1; the generator repeats itself after `2^64` words. -/
def unit (r : Rng) : Float × Rng := unitWithin (Nat.pow 2 64) r

/-- The first draw that no bias falls on, among so many draws. -/
def fairWithin (n threshold : UInt64) : Nat → Rng → UInt64 × Rng
  | 0, r => (0, r)
  | fuel + 1, r =>
    let (word, r) := r.next
    let (high, low) := wideMul word n
    if low < threshold then fairWithin n threshold fuel r else (high, r)

/-- A number below `n`. Draws that would favour some of the numbers are thrown away. -/
def below (r : Rng) (n : UInt64) : UInt64 × Rng :=
  let (word, next) := r.next
  let (high, low) := wideMul word n
  if low < n then fairWithin n ((0 - n) % n) (Nat.pow 2 64) r else (high, next)

end Rng

end Reclaim

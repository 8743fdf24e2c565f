import Reclaim.Handle

/-!
# Release ledgers

A ledger has a slot for each of the addresses `1, 2, …, n` and counts the releases of each.

* `Ledger.record` : one release;
* `Ledger.violations` : the addresses that were not released exactly once.
-/

namespace Reclaim

/-- Releases per address, the slot of address 1 first. -/
structure Ledger where
  slots : Array Nat
deriving DecidableEq, Repr, Inhabited

namespace Ledger

/-- A ledger for the addresses up to `n`. -/
def empty (n : Nat) : Ledger := ⟨Array.replicate n 0⟩

/-- One release of an address; an address without a slot is not counted. -/
def record (l : Ledger) (address : Address) : Ledger :=
  if address = 0 then l else ⟨l.slots.modify (address.toNat - 1) (· + 1)⟩

/-- The releases of a list of addresses. -/
def recordAll (l : Ledger) (addresses : List Address) : Ledger := addresses.foldl record l

/-- The addresses whose count is not one, ascending, with their counts. -/
def violations (l : Ledger) : List (Nat × Nat) :=
  (l.slots.toList.zipIdx.map fun (n, i) => (i + 1, n)).filter fun e => e.2 != 1

end Ledger

end Reclaim

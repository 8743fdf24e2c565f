import Reclaim.Handle

/-!
# Probes

A probe hears of every callback that tells it: it counts the runs per address, keeps their order,
and fails on chosen addresses after it has counted.

* `Probe.record` : one run;
* `Probe.count`, `Probe.total`, `Probe.order`, `Probe.duplicates` : what it has heard.
-/

namespace Reclaim

/-- What a probe has heard. -/
structure Probe where
  /-- Runs per address, ascending by address. -/
  counts : List (Address × Nat) := []
  /-- All runs, the first at the end of the list. -/
  latest : List Address := []
  /-- Addresses whose runs fail. -/
  failing : List Address := []
deriving DecidableEq, Repr, Inhabited

namespace Probe

/-- One more for an address, in an ascending table. -/
def bump (address : Address) : List (Address × Nat) → List (Address × Nat)
  | [] => [(address, 1)]
  | (a, n) :: rest =>
    if address < a then (address, 1) :: (a, n) :: rest
    else if address = a then (a, n + 1) :: rest
    else (a, n) :: bump address rest

/-- From now on runs of the address fail. -/
def failOn (p : Probe) (address : Address) : Probe :=
  { p with failing := if p.failing.contains address then p.failing else address :: p.failing }

/-- One run; the flag tells whether it fails. -/
def record (p : Probe) (address : Address) : Probe × Bool :=
  ({ p with counts := bump address p.counts, latest := address :: p.latest },
    p.failing.contains address)

/-- The panic of a failing run. -/
def failure (address : Address) : Panic := .text ("native release failed for " ++ address.text)

/-- Runs of one address. -/
def count (p : Probe) (address : Address) : Nat := (p.counts.lookup address).getD 0

/-- All runs. -/
def total (p : Probe) : Nat := p.latest.length

/-- The addresses of all runs, in order. -/
def order (p : Probe) : List Address := p.latest.reverse

/-- The addresses run more than once, ascending. -/
def duplicates (p : Probe) : List Address :=
  (p.counts.filter fun entry => 1 < entry.2).map (·.1)

end Probe

end Reclaim

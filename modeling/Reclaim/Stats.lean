import Reclaim.Text.Quoted

/-!
# Counters of a guard

* `Stats` : five counters, of registrations and of the four ways an item ends;
* `Stats.totalReleased` : callbacks accounted for;
* `Stats.outstanding` : registrations not accounted for, never below zero.
-/

namespace Reclaim

/-- What has happened at a guard so far. -/
structure Stats where
  registered : Nat := 0
  /-- Explicit releases that won. -/
  released : Nat := 0
  /-- Releases by the worker whose callback returned. -/
  reclaimed : Nat := 0
  /-- Items that found nothing to release. -/
  discarded : Nat := 0
  /-- Releases by the worker whose callback panicked. -/
  releaseFailures : Nat := 0
deriving DecidableEq, Repr, Inhabited

namespace Stats

/-- All releases, by whichever path. -/
def totalReleased (s : Stats) : Nat := s.released + s.reclaimed + s.releaseFailures

/-- Registrations without a release. -/
def outstanding (s : Stats) : Nat := s.registered - s.totalReleased

/-- The text for logs. -/
def debug (s : Stats) : String :=
  Text.record "GuardStats"
    [("registered", toString s.registered), ("released", toString s.released),
      ("reclaimed", toString s.reclaimed), ("discarded", toString s.discarded),
      ("release_failures", toString s.releaseFailures)]

end Stats

end Reclaim

import Reclaim.Frame

/-!
# Starting guards

A guard starts with a worker of its own, on a new thread. It then goes into a variable, and the
guard that was there is dropped, which shuts it down.

* `StartRequest.advance` : a guard and its worker;
* `bindGuard` : the variable.
-/

namespace Reclaim

/-- A guard starts; `fresh` is the number that a new thread gets. -/
def StartRequest.advance (fresh : ThreadId) (s : Store) (q : StartRequest) : Store × Progress :=
  let (s, g) := s.addGuard q.config (q.kind.source q.panicsAt) fresh
  (s, .spawn (.worker q.config.threadName?) (.worker g .starting) (.bindGuard q.name g))

/-- A guard goes into a variable. The process-wide guard may be in several and is never dropped. -/
def bindGuard (s : Store) (name : String) (g : GuardId) : Store × Progress :=
  let old := s.guardNamed name
  let s := s.bindGuard name g
  match old with
  | .error _ => (s, .finish .ok)
  | .ok old =>
    if s.isProcessWide old then (s, .finish .ok)
    else (s, .call (.shutdown old .interrupt) (.give .ok))

end Reclaim

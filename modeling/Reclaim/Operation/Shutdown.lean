import Reclaim.Frame

/-!
# Shutting down

Shutting down interrupts the source and destroys the flush requests that were pending; the first to do
so waits for the worker's thread to end, unless it is that thread.

* `ShutdownPoint.advance` : the next action.
-/

namespace Reclaim

/-- One action of a shutdown on a thread. -/
def ShutdownPoint.advance (thread : ThreadId) (s : Store) (g : GuardId) :
    ShutdownPoint → Store × Progress
  | interrupt =>
      let (s, acks) := s.interrupt g
      (s, .goto (.shutdown g (discarding acks)))
  | discarding acks => discardNext s (fun acks => .shutdown g (discarding acks)) (.shutdown g claim) acks
  | claim =>
      match s.guard? g with
      | none => (s, .finish .done)
      | some guard =>
        if guard.joinable then
          let s := s.modifyGuard g fun guard => { guard with joinable := false }
          if guard.worker = thread then (s, .finish .done)
          else (s, .goto (.shutdown g joining))
        else (s, .finish .done)
  | joining =>
      match (s.guard? g).bind Guard.exit with
      | some .abnormal =>
        (s.log .error "reclaim worker terminated abnormally", .finish .done)
      | _ => (s, .finish .done)

end Reclaim

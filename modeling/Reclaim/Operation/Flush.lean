import Reclaim.Frame

/-!
# Flushing

A flush queues a request behind everything that is pending and waits until the worker answers it.
It is in vain when the worker has stopped, when the source is interrupted or hands the request
back, and when the request is destroyed unanswered.

* `FlushPoint.advance` : the next action.
-/

namespace Reclaim

/-- One action of a flush. -/
def FlushPoint.advance (s : Store) (g : GuardId) (patience : Patience) (gate : GateUse) :
    FlushPoint → Store × Progress
  | checkStopped =>
      match (s.guard? g).map Guard.state with
      | some .stopped => (s, .finish (.flag false))
      | _ => (s, .goto (.flush g patience gate checkInterrupted))
  | checkInterrupted =>
      match (s.guard? g).map fun guard => guard.source.isInterrupted with
      | some true => (s, .finish (.flag false))
      | _ => (s, .goto (.flush g patience gate request))
  | request =>
      let (s, ack) := s.newAck
      match s.enqueue g (.flush ack) with
      | (s, true) =>
        let s := match gate with
          | .opens => s.permitPending g
          | .leaves => s
        (s, .goto (.flush g patience gate (waiting ack)))
      | (s, false) => (s.closeAck ack, .finish (.flag false))
  | waiting ack =>
      let (s, answer) := s.takeAck ack
      match gate, (s.guard? g).bind fun guard => guard.source.gate with
      | .opens, some _ => (s, .goto (.rest g (.flag answer.isSome)))
      | _, _ => (s, .finish (.flag answer.isSome))

end Reclaim

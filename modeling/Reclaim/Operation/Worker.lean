import Reclaim.Frame

/-!
# The worker

The worker of a guard calls its source for items, one after the other, until the source is
interrupted or a call panics. For a dropped handle it says what it found, runs the callback, counts
the result and says what became of the resource. A panic of the callback is a result like any
other; a panic of the sink ends the item but not the worker.

* `WorkerPoint.advance` : the next action.
-/

namespace Reclaim

/-- What the worker says after a callback. -/
def Entry.announcement (e : Entry) : Option Panic → Diagnostic
  | none => .destroyed e.label e.address
  | some p => .releaseFailed e.address p.message

/-- One action of the worker of a guard. -/
def WorkerPoint.advance (s : Store) (g : GuardId) : WorkerPoint → Store × Progress
  | starting => (s.log .debug "reclaim worker started", .goto (.worker g calling))
  | calling =>
      match (s.setWorkerState g .waiting).callNext g with
      | (s, true) => (s, .goto (.worker g (leaving .abnormal)))
      | (s, false) => (s, .goto (.worker g polling))
  | polling =>
      match s.pollNext g with
      | (s, .interrupted) => (s, .goto (.worker g (leaving .regular)))
      | (s, .item item) => (s, .goto (.worker g (took item)))
      | (s, _) => (s, .goto (.worker g polling))
  | took item => (s.setWorkerState g .processing, .goto (.worker g (processing item)))
  | processing (.flush ack) => (s.answer ack, .goto (.worker g calling))
  | processing (.reclaim id) =>
      match s.takeActive g id with
      | (s, true) => (s, .goto (.worker g (reporting id)))
      | (s, false) => (s.countDiscarded g id, .goto (.worker g calling))
  | reporting id =>
      match s.resource? id with
      | none => (s, .goto (.worker g calling))
      | some e =>
        match s.emit g (.notProperlyClosed e.address) with
        | (s, some p) => (s, .goto (.worker g (aborted p)))
        | (s, none) => (s, .call (.callback id .enter) (.worker g (running id)))
  | running id => (s, .goto (.worker g (running id)))
  | settling id none => (s.countReclaimed g, .goto (.worker g (announcing id none)))
  | settling id (some p) => (s.countFailure g, .goto (.worker g (announcing id (some p))))
  | announcing id panic =>
      match s.resource? id with
      | none => (s, .goto (.worker g calling))
      | some e =>
        match s.emit g (e.announcement panic) with
        | (s, some p) => (s, .goto (.worker g (aborted p)))
        | (s, none) => (s, .goto (.worker g calling))
  | aborted p =>
      (s.log .error ("reclaim item aborted: " ++ p.message), .goto (.worker g calling))
  | leaving exit =>
      let (s, acks) := s.interrupt g
      (s, .goto (.worker g (discarding exit acks)))
  | discarding exit acks =>
      discardNext s (fun acks => .worker g (discarding exit acks)) (.worker g (farewell exit)) acks
  | farewell exit => ((s.emit g .interrupted).1, .goto (.worker g (stopping exit)))
  | stopping exit =>
      (s.modifyGuard g fun guard => { guard with state := .stopped, exit := some exit },
        .finish .done)

end Reclaim

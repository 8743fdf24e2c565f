import Reclaim.Frame

/-!
# Releasing

Releasing claims the handle first and runs the callback afterwards, on the thread that released:
whatever the callback does, it finds the handle released. A handle that has been claimed before is
left alone. Shares of the handle may be given up meanwhile; it is not gone before the release is
over.

* `ReleasePoint.outcome` : what a release comes to;
* `ReleasePoint.advance` : the next action of a release;
* `CallbackPoint.advance` : the next action of a callback.
-/

namespace Reclaim

/-- What a release comes to: whether it won, or the panic of the callback. -/
def ReleasePoint.outcome : ReleasePoint → Outcome
  | ran none => .flag true
  | ran (some p) => .panic p
  | _ => .flag false

/-- The end of a release with this outcome. A handle that nobody holds any more is dropped now. -/
def endRelease (s : Store) (id : HandleId) (outcome : Outcome) : Store × Progress :=
  match s.endUse id with
  | (s, true) => (s, .call (.drop id .check) (.give outcome))
  | (s, false) => (s, .finish outcome)

/-- One action of a release. -/
def ReleasePoint.advance (s : Store) (id : HandleId) : ReleasePoint → Store × Progress
  | retire =>
      match s.retire id with
      | (s, true) => (s, .goto (.release id count))
      | (s, false) => (s, .goto (.release id lost))
  | count => (s.countReleased id, .call (.callback id .enter) (.release id running))
  | running => (s, .goto (.release id running))
  | lost => endRelease s id lost.outcome
  | ran panic => endRelease s id (ran panic).outcome

/-- What a callback comes to after its commands. -/
def Callback.outcome (f : ReleaseFn) : Outcome :=
  match f.panic with
  | some p => .panic p
  | none => .done

/-- One action of a callback on a thread: the run is noted and the probe told, then the commands are
carried out, and at the end the callback returns or panics. A probe that fails the run ends it at
once. -/
def CallbackPoint.advance (thread : ThreadId) (s : Store) (id : HandleId) :
    CallbackPoint → Store × Progress
  | enter =>
      match s.resource? id with
      | none => (s, .finish .done)
      | some e =>
        let (s, call) := s.beginCall id e thread
        match s.tellProbe e with
        | (s, true) => (s, .finish (.panic (Probe.failure e.address)))
        | (s, false) =>
          match e.callback.body with
          | none => (s, .finish e.callback.outcome)
          | some body => (s, .call (.commands body []) (.callback id (running call)))
  | running call => (s, .goto (.callback id (running call)))
  | ran call replies =>
      match s.resource? id with
      | none => (s, .finish .done)
      | some e => (s.endCall call replies, .finish e.callback.outcome)

end Reclaim

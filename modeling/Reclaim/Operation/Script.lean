import Reclaim.Operation.ProcessWide
import Reclaim.Query

/-!
# Scripts

A script carries out its commands one by one. Carrying out a command begins with looking up what it
names: a command that names something unknown is answered at once, and so is a question; every other
command starts an operation.

* `Command.begin` : how a command starts;
* `Script.advance` : the next action of a script.
-/

namespace Reclaim

/-- How a command starts. -/
inductive Begin where
  | reply (reply : Reply)
  | operation (frame : Frame)

namespace Command

/-- A flush that leaves the gate as it is needs a gate. -/
def flushGuard (s : Store) (guard : String) : GateUse → Except Missing GuardId
  | .opens => s.guardNamed guard
  | .leaves => s.sourceNamed guard

/-- The start of a command that names nothing unknown. -/
def begin? (s : Store) : Command → Except Missing (Store × Begin)
  | register (.guard guard) handle r => do
      let g ← s.guardNamed guard
      return (s, .operation (.register ⟨g, handle, r, false⟩ .allocate))
  | register .processWide handle r => .ok (s, .operation (.processWide (.register handle r)))
  | acquire guard handle r => do
      let g ← s.guardNamed guard
      return (s, .operation (.register ⟨g, handle, r, true⟩ .allocate))
  | release handle via => do
      let id ← s.handleNamed handle
      if let some guard := via then
        let _ ← s.guardNamed guard
      return (s.beginUse id, .operation (.release id .retire))
  | drop handle => do
      let id ← s.handleNamed handle
      match s.dropShare id with
      | (s, true) => return (s, .operation (.drop id .check))
      | (s, false) => return (s, .reply .done)
  | inject guard handle => do
      let g ← s.sourceNamed guard
      let id ← s.idNamed handle
      let (s, accepted) := s.enqueue g (.reclaim id)
      return (s, .reply (.flag accepted))
  | flush guard patience gate => do
      let g ← flushGuard s guard gate
      return (s, .operation (.flush g patience gate .checkStopped))
  | letThrough guard n => do
      let g ← s.sourceNamed guard
      let n := min n (s.pendingAt g)
      return (s.permit g n, .operation (.rest g (.count n)))
  | interrupt guard => do
      let g ← s.sourceNamed guard
      let (s, acks) := s.interrupt g
      return (s, .operation (.discard g acks))
  | shutdown guard => do
      let g ← s.guardNamed guard
      return (s, .operation (.shutdown g .interrupt))
  | startGuard guard setup kind panicsAt =>
      match setup.config s.environment guard with
      | .error e => .ok (s, .reply (.error e))
      | .ok config => .ok (s, .operation (.start ⟨guard, config, kind, panicsAt⟩))
  | dropGuard guard => do
      let g ← s.guardNamed guard
      let s := s.forgetGuard guard
      if s.isProcessWide g then return (s, .reply .done)
      else return (s, .operation (.shutdown g .interrupt))
  | choose recorder setup =>
      match setup.config s.environment recorder with
      | .error e => .ok (s, .reply (.error e))
      | .ok config =>
        match s.choose config with
        | .error e => .ok (s, .reply (.error e))
        | .ok s => .ok (s, .reply (.text "ok"))
  | processWide guard insists => .ok (s, .operation (.processWide (.bind guard insists)))
  | setEnvironment environment => .ok ({ s with environment }, .reply .done)
  | failOn address =>
      .ok ({ s with probes := s.probes.modify 0 fun p => p.failOn address }, .reply .done)
  | ask query => .ok (s, .reply (query.answer s))

/-- The start of a command. -/
def begin (s : Store) (c : Command) : Store × Begin :=
  match c.begin? s with
  | .ok started => started
  | .error what => (s, .reply (.missing what))

end Command

/-- One action of a script. -/
def Script.advance (s : Store) : List Command → List Reply → Store × Progress
  | [], done => (s, .finish (.did done.reverse))
  | c :: todo, done =>
    match c.begin s with
    | (s, .reply reply) => (s, .goto (.commands todo (reply :: done)))
    | (s, .operation frame) => (s, .call frame (.commands todo done))

end Reclaim

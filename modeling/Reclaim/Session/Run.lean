import Reclaim.Session.Storm

/-!
# Running a session

* `Session.perform` : one step, until the system is at rest;
* `Session.step` : one step and what happened during it;
* `Session.run` : a list of steps.
-/

namespace Reclaim

namespace Session

/-- A step that names something unknown. -/
def missing (s : Session) (what : Missing) : Session × StepReply := (s, .reply (.missing what))

/-- Lets the worker of a guard take items until none is left; how many that were, at most. -/
def drain (s : Session) (guard : String) (g : GuardId) : Nat → Nat → Session × Nat
  | 0, sum => (s, sum)
  | fuel + 1, sum =>
    let n := s.store.pendingAt g
    if n = 0 then (s, sum)
    else (s.runCaller (.letThrough guard n)).1.drain guard g fuel (sum + n)

/-- The items given to the worker of a guard since the last question. -/
def delivered (s : Session) (g : GuardId) : Session × List String :=
  match s.store.guard? g with
  | none => (s, [])
  | some guard =>
    let items := guard.source.delivered.reverse
    let known := s.seen.delivered ++ List.replicate (g + 1 - s.seen.delivered.length) 0
    ({ s with seen.delivered := known.set g items.length },
      (items.drop (known.getD g 0)).map Item.debug)

/-! ## Steps -/

/-- One step, until the system is at rest. -/
def perform (s : Session) : Step → Session × StepReply
  | .command c =>
      let (s, reply) := s.runCaller c
      (s, .reply reply)
  | .drain guard =>
      match s.store.sourceNamed guard with
      | .error what => s.missing what
      | .ok g =>
        let (s, n) := s.drain guard g (s.system.work + 1) 0
        (s, .reply (.count n))
  | .delivered guard =>
      match s.store.sourceNamed guard with
      | .error what => s.missing what
      | .ok g =>
        let (s, texts) := s.delivered g
        (s, .texts texts)
  | .flushBegin guard flush =>
      match s.store.sourceNamed guard with
      | .error what => s.missing what
      | .ok g =>
        let (system, t) := s.system.spawn .helper (.flush g .unlimited .leaves .checkStopped)
        let flushes := (flush, t) :: s.flushes.filter fun f => f.1 != flush
        ({ s with system, flushes }.settle, .reply .done)
  | .flushEnd flush =>
      match s.flushes.lookup flush with
      | none => s.missing .flush
      | some t =>
        let reply := (s.system.replies t).headD .done
        ({ s with flushes := s.flushes.filter fun f => f.1 != flush }, .reply reply)
  | .race handle threads =>
      match s.race handle threads with
      | .error what => s.missing what
      | .ok (s, winners) => (s, .race winners threads)
  | .storm plan =>
      match s.storm plan with
      | .error what => s.missing what
      | .ok (s, report) => (s, .storm report)
  | .queue name step =>
      match s.bench.step s.store name step with
      | .error what => s.missing what
      | .ok (bench, reply, record) =>
        let s := { s with bench }
        match record with
        | none => (s, reply)
        | some (level, text) =>
          (s.withSystem { s.system with store := s.store.log level text }, reply)
  | .waitEnd wait =>
      match s.bench.waitEnd wait with
      | .error what => s.missing what
      | .ok (bench, reply) => ({ s with bench }, reply)

/-- A step's answer, and what happened during it. -/
structure Answer where
  reply : StepReply
  observation : Observation
deriving DecidableEq, Repr, Inhabited

/-- One step and what happened during it. -/
def step (s : Session) (step : Step) : Session × Answer :=
  let (s, reply) := s.perform step
  let (s, observation) := s.observe
  (s, ⟨reply, observation⟩)

/-- A list of steps, with the answers. -/
def run (s : Session) : List Step → List Answer
  | [] => []
  | step :: rest =>
    let (s, answer) := s.step step
    answer :: s.run rest

end Session

end Reclaim

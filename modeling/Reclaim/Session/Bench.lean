import Reclaim.Session.Step

/-!
# Bare queues on the bench

Queues of items without a guard, with threads that wait for an item.

* `Bench.step` : one step with a queue; `Bench.waitEnd` : what a waiting thread got.
-/

namespace Reclaim.Session

/-- A thread that waits for an item of a queue. -/
structure Waiting where
  name : String
  queue : String
  result : Option StepReply := none
deriving DecidableEq, Repr, Inhabited

/-- The queues, and the threads that wait. -/
structure Bench where
  queues : List (String × Queue Item) := []
  waits : List Waiting := []
deriving DecidableEq, Repr, Inhabited

namespace Bench

/-- What a consumer is told after an interruption. -/
def interruptedReply : StepReply := .interrupted "reclaim source interrupted"

/-- A queue under a name. -/
def put (b : Bench) (name : String) (q : Queue Item) : Bench :=
  { b with queues := (name, q) :: b.queues.filter fun e => e.1 != name }

/-- One call for an item: the answer, or nothing if the call has to wait. -/
def take (b : Bench) (name : String) (q : Queue Item) : Bench × Option StepReply :=
  match q.next with
  | .interrupted => (b, some interruptedReply)
  | .empty => (b, none)
  | .item item rest => (b.put name rest, some (.item item.debug))

/-- The first thread that waits for the queue gets what there is now. -/
def serve (name : String) : Bench → List Waiting → List Waiting → Bench
  | b, before, [] => { b with waits := before.reverse }
  | b, before, wait :: after =>
    if wait.queue = name ∧ wait.result = none then
      match b.queues.lookup name with
      | none => { b with waits := before.reverse ++ wait :: after }
      | some q =>
        let (b, result) := b.take name q
        serve name b ({ wait with result } :: before) after
    else serve name b (wait :: before) after

/-- Every thread that waits for the queue looks again. -/
def wake (b : Bench) (name : String) : Bench := serve name b [] b.waits

/-- One step with a queue, and the log record that it writes. -/
def step (s : Store) (b : Bench) (name : String) :
    QueueStep → Except Missing (Bench × StepReply × Option (Level × String))
  | .new => .ok (b.put name {}, .reply (.text "ok"), none)
  | queueStep =>
    match b.queues.lookup name with
    | none => .error .queue
    | some q =>
      match queueStep with
      | .new => .ok (b, .reply .done, none)
      | .push handle =>
          match s.idNamed handle with
          | .error what => .error what
          | .ok id =>
            match q.enqueue (.reclaim id) with
            | some q => .ok ((b.put name q).wake name, .reply (.text "ok"), none)
            | none => .ok (b, .handedBack (Item.reclaim id).debug, none)
      | .next =>
          let (b, result) := b.take name q
          .ok (b, result.getD (.reply (.text "would block")), none)
      | .waitBegin wait =>
          let (b, result) := b.take name q
          let waits := b.waits.filter (fun w => w.name != wait) ++ [⟨wait, name, result⟩]
          .ok ({ b with waits }, .reply .done, none)
      | .interrupt =>
          let (q, items) := q.interrupt
          let record :=
            if items.isEmpty then none
            else some (Level.debug, "reclaim source interrupted with " ++ toString items.length
              ++ " pending item(s)")
          .ok ((b.put name q).wake name, .reply .done, record)
      | .pending => .ok (b, .reply (.count q.pending), none)
      | .isInterrupted => .ok (b, .reply (.flag q.interrupted), none)
      | .debug => .ok (b, .reply (.text q.debug), none)

/-- What a waiting thread got. -/
def waitEnd (b : Bench) (wait : String) : Except Missing (Bench × StepReply) :=
  match b.waits.find? fun w => w.name == wait with
  | none => .error .wait
  | some w =>
    .ok ({ b with waits := b.waits.filter fun w => w.name != wait },
      w.result.getD (.reply (.text "would block")))

end Bench

end Reclaim.Session

import Reclaim.Operation.Drop
import Reclaim.Operation.Flush
import Reclaim.Operation.Register
import Reclaim.Operation.Release
import Reclaim.Operation.Script
import Reclaim.Operation.Shutdown
import Reclaim.Operation.Worker

/-!
# The system

A store and the threads that share it. A thread acts when the frame at its top can; which thread
acts next is a schedule's choice, and statements about all runs are statements about all schedules.

* `Frame.advance`, `Thread.act` : one action of a thread;
* `Move`, `System.move?` : the moves of a schedule;
* `System.run`, `System.Reachable` : the systems that schedules lead to;
* `System.spawn`, `System.startGuard` : new threads and guards.
-/

namespace Reclaim

/-- A thread: the frames under way, the top one first, and at the end what they came to. -/
structure Thread where
  name : ThreadName
  stack : List Frame
  outcome : Option Outcome := none

/-- One action of the frame at the top of a thread; `fresh` is the number that a new thread gets. -/
def Frame.advance (thread fresh : ThreadId) (s : Store) : Frame → Store × Progress
  | .commands todo done => Script.advance s todo done
  | .give outcome => (s, .finish outcome)
  | .rest _ reply => (s, .finish (.value reply))
  | .discard g acks => discardNext s (.discard g) (.rest g .done) acks
  | .register request point => point.advance s request
  | .release id point => point.advance s id
  | .callback id point => point.advance thread s id
  | .drop id point => point.advance s id
  | .flush g patience gate point => point.advance s g patience gate
  | .shutdown g point => point.advance thread s g
  | .start request => request.advance fresh s
  | .bindGuard name g => Reclaim.bindGuard s name g
  | .processWide purpose => purpose.advance fresh s
  | .worker g point => point.advance s g

/-- The thread that starts together with this progress. -/
def Progress.spawned : Progress → List Thread
  | .spawn name first _ => [⟨name, [first], none⟩]
  | _ => []

namespace Thread

/-- Whether the thread can act. -/
def isReady (s : Store) (t : Thread) : Bool :=
  match t.stack with
  | [] => false
  | frame :: _ => frame.isReady s

/-- The thread after its top frame has come to an end. -/
def deliver (t : Thread) (outcome : Outcome) : List Frame → Thread
  | [] => { t with stack := [], outcome := some outcome }
  | frame :: rest => { t with stack := frame.receive outcome :: rest }

/-- The thread after progress of its top frame. -/
def progress (t : Thread) (rest : List Frame) : Progress → Thread
  | .goto frame => { t with stack := frame :: rest }
  | .call callee caller => { t with stack := callee :: caller :: rest }
  | .spawn _ _ next => { t with stack := next :: rest }
  | .finish outcome => t.deliver outcome rest

/-- One action of the thread with this number, and the threads that it starts. -/
def act (self fresh : ThreadId) (s : Store) (t : Thread) : Store × Thread × List Thread :=
  match t.stack with
  | [] => (s, t, [])
  | frame :: rest =>
    let (s, progress) := frame.advance self fresh s
    (s, t.progress rest progress, progress.spawned)

/-- What the thread comes to when the deadline of its top frame passes. -/
def expired? (s : Store) (t : Thread) : Option Thread :=
  match t.stack with
  | [] => none
  | frame :: rest => (frame.expired? s).map fun outcome => t.deliver outcome rest

end Thread

/-- A store and the threads that share it. -/
structure System where
  store : Store := {}
  threads : Array Thread := #[]

/-- A choice of a schedule. -/
inductive Move where
  /-- A thread acts. -/
  | act (thread : ThreadId)
  /-- The deadline passes for which a thread is waiting. -/
  | expire (thread : ThreadId)
deriving DecidableEq, Repr, Inhabited

namespace System

/-- The thread with this number. -/
def thread? (w : System) (t : ThreadId) : Option Thread := w.threads[t]?

/-- Whether a thread can act. -/
def canAct (w : System) (t : ThreadId) : Bool :=
  match w.thread? t with
  | some thread => thread.isReady w.store
  | none => false

/-- A thread acts. -/
def act : System → ThreadId → System
  | ⟨store, threads⟩, t =>
    match threads[t]? with
    | none => ⟨store, threads⟩
    | some thread =>
      let (store, thread, started) := thread.act t threads.size store
      ⟨store, (threads.modify t fun _ => thread) ++ started⟩

/-- The system after a move, if the move is possible. -/
def move? (w : System) : Move → Option System
  | .act t => if w.canAct t then some (w.act t) else none
  | .expire t =>
      match (w.thread? t).bind (·.expired? w.store) with
      | some thread => some { w with threads := w.threads.modify t fun _ => thread }
      | none => none

/-- The system after a schedule; choices that are not possible are skipped. -/
def run (w : System) (schedule : List Move) : System :=
  schedule.foldl (fun w m => (w.move? m).getD w) w

/-- The systems that schedules lead to. -/
inductive Reachable (start : System) : System → Prop where
  | start : Reachable start start
  | move {w w' : System} {m : Move} :
      Reachable start w → w.move? m = some w' → Reachable start w'

/-! ## Threads and guards -/

/-- A new thread with one frame. -/
def spawn (w : System) (name : ThreadName) (frame : Frame) : System × ThreadId :=
  ({ w with threads := w.threads.push ⟨name, [frame], none⟩ }, w.threads.size)

/-- A thread that has nothing to do starts on a frame. -/
def assign (w : System) (t : ThreadId) (frame : Frame) : System :=
  { w with threads := w.threads.modify t fun thread =>
      { thread with stack := [frame], outcome := none } }

/-- A new guard over a source, with its worker. -/
def startGuard (w : System) (config : Config) (source : Source) : System × GuardId :=
  let (store, g) := w.store.addGuard config source w.threads.size
  (({ w with store }.spawn (.worker config.threadName?) (.worker g .starting)).1, g)

end System

end Reclaim

import Reclaim.Store

/-!
# Frames

A thread is a stack of frames. A frame is an operation together with the point that it has reached;
the points are chosen so that between two of them a thread does one action on the store.

* `RegisterPoint`, `ReleasePoint`, `CallbackPoint`, `DropPoint`, `FlushPoint`, `ShutdownPoint`,
  `WorkerPoint` : the points of each operation that has more than one;
* `Frame` : operations under way; `Outcome` : what one comes to;
* `Frame.receive` : a frame that waited for another, after the other's end;
* `Progress` : what becomes of the stack after an action;
* `discardNext` : the destruction of flush requests, one by one.
-/

namespace Reclaim

/-- What an operation comes to. -/
inductive Outcome where
  | value (reply : Reply)
  | panic (p : Panic)
  /-- The end of a script, with the answers to its commands. -/
  | did (replies : List Reply)
deriving DecidableEq, Repr, Inhabited

namespace Outcome

/-- The answer to a command that came to this. -/
def reply : Outcome → Reply
  | value reply => reply
  | panic p => .panicked p
  | did _ => .done

/-- Done, nothing to tell. -/
def done : Outcome := value .done

/-- Done, and worth saying so. -/
def ok : Outcome := value (.text "ok")

/-- Yes or no. -/
def flag (b : Bool) : Outcome := value (.flag b)

end Outcome

/-! ## Points -/

/-- What a registration was asked for. -/
structure RegisterRequest where
  guard : GuardId
  handle : String
  registration : Registration Command
  /-- A failure is a bug of the owner. -/
  mustSucceed : Bool := false

/-- Registering a resource and putting its handle into a variable. -/
inductive RegisterPoint where
  /-- About to check the registration and number the handle. -/
  | allocate
  /-- About to enter the registry. -/
  | track (id : HandleId)
  | count (id : HandleId)
  /-- About to go into the variable. -/
  | bind (id : HandleId)
  /-- The handle that was in the variable is being dropped. -/
  | dropping (id : HandleId)
  | report (id : HandleId)
deriving DecidableEq, Repr

/-- Releasing a handle. -/
inductive ReleasePoint where
  /-- About to claim the release. -/
  | retire
  /-- Claimed, not counted. -/
  | count
  /-- The callback is running. -/
  | running
  /-- The release had been claimed before. -/
  | lost
  /-- The callback has ended, by a panic if there is one. -/
  | ran (panic : Option Panic)
deriving DecidableEq, Repr

/-- Running a callback. -/
inductive CallbackPoint where
  | enter
  /-- The commands of the run are being carried out. -/
  | running (call : Nat)
  | ran (call : Nat) (replies : List Reply)
deriving DecidableEq, Repr

/-- Dropping a handle. -/
inductive DropPoint where
  /-- About to see whether the handle has been released. -/
  | check
  /-- Found active; about to be queued for the worker. -/
  | enqueue
  /-- Handed back by the source. -/
  | leak
deriving DecidableEq, Repr

/-- Waiting until everything queued so far is done. -/
inductive FlushPoint where
  | checkStopped
  | checkInterrupted
  /-- About to queue the request. -/
  | request
  | waiting (ack : Nat)
deriving DecidableEq, Repr

/-- Stopping a guard's worker. -/
inductive ShutdownPoint where
  | interrupt
  /-- The flush requests that were pending are being destroyed. -/
  | discarding (acks : List Nat)
  /-- About to see who waits for the worker's end. -/
  | claim
  | joining
deriving DecidableEq, Repr

/-- The worker's loop. -/
inductive WorkerPoint where
  | starting
  /-- About to call for an item. -/
  | calling
  /-- Within the call. -/
  | polling
  | took (item : Item)
  | processing (item : Item)
  /-- Claimed a handle that its owner dropped; about to say so. -/
  | reporting (id : HandleId)
  /-- The callback is running. -/
  | running (id : HandleId)
  /-- The callback has ended, by a panic if there is one; not counted. -/
  | settling (id : HandleId) (panic : Option Panic)
  /-- Counted; about to say what became of the resource. -/
  | announcing (id : HandleId) (panic : Option Panic)
  /-- The sink panicked. -/
  | aborted (panic : Panic)
  /-- About to interrupt the source. -/
  | leaving (exit : Exit)
  /-- The flush requests that were pending are being destroyed. -/
  | discarding (exit : Exit) (acks : List Nat)
  /-- About to say that the worker has ended. -/
  | farewell (exit : Exit)
  | stopping (exit : Exit)
deriving DecidableEq, Repr

/-- What a guard is started with, and the variable that it is for. -/
structure StartRequest where
  name : String
  config : Config
  kind : SourceKind
  /-- The call for an item that panics. -/
  panicsAt : Option Nat

/-- What the process-wide guard is wanted for. -/
inductive Purpose where
  /-- To be put into a variable; who insists takes a failed start for a bug. -/
  | bind (name : String) (insists : Bool)
  | register (handle : String) (registration : Registration Command)

/-! ## Frames -/

/-- An operation under way. -/
inductive Frame where
  /-- A script: commands to do, and the answers so far, the latest first. -/
  | commands (todo : List Command) (done : List Reply)
  /-- An operation whose outcome is known. -/
  | give (outcome : Outcome)
  /-- An operation whose answer is known, given when the worker of a guard is at rest. -/
  | rest (guard : GuardId) (reply : Reply)
  /-- The source of a guard was interrupted from outside; the flush requests that were pending are being
  destroyed. -/
  | discard (guard : GuardId) (acks : List Nat)
  | register (request : RegisterRequest) (point : RegisterPoint)
  | release (id : HandleId) (point : ReleasePoint)
  | callback (id : HandleId) (point : CallbackPoint)
  | drop (id : HandleId) (point : DropPoint)
  | flush (guard : GuardId) (patience : Patience) (gate : GateUse) (point : FlushPoint)
  | shutdown (guard : GuardId) (point : ShutdownPoint)
  /-- About to start a guard. -/
  | start (request : StartRequest)
  /-- About to put a guard into a variable. -/
  | bindGuard (name : String) (guard : GuardId)
  /-- About to ask for the process-wide guard. -/
  | processWide (purpose : Purpose)
  | worker (guard : GuardId) (point : WorkerPoint)

/-- The frame that waited for another, now that the other has come to an end. A script goes on after
a panic, and so does a worker; every other operation passes a panic on. -/
def Frame.receive : Frame → Outcome → Frame
  | .commands todo done, o => .commands todo (o.reply :: done)
  | .give outcome, .value _ => .give outcome
  | .register request (.dropping id), .value _ => .register request (.report id)
  | .release id .running, .panic p => .release id (.ran (some p))
  | .release id .running, _ => .release id (.ran none)
  | .callback id (.running call), .did replies => .callback id (.ran call replies)
  | .worker g (.running id), .panic p => .worker g (.settling id (some p))
  | .worker g (.running id), _ => .worker g (.settling id none)
  | _, o => .give o

/-- Which thread it is. -/
inductive ThreadName where
  /-- The thread that the process started with. -/
  | caller
  /-- A guard's worker, by its name if it has one. -/
  | worker (name : Option String)
  | helper
deriving DecidableEq, Repr, Inhabited

/-- What becomes of the frame at the top after an action. -/
inductive Progress where
  /-- It reaches another point. -/
  | goto (frame : Frame)
  /-- It waits for a new frame above it. -/
  | call (callee caller : Frame)
  /-- It reaches another point, and a new thread starts on a frame of its own. -/
  | spawn (name : ThreadName) (first next : Frame)
  | finish (outcome : Outcome)

/-- Destroys the first of some flush requests, with a frame for the others; when none is left, it goes on
with a frame. -/
def discardNext (s : Store) (again : List Nat → Frame) (next : Frame) : List Nat → Store × Progress
  | [] => (s, .goto next)
  | ack :: acks => (s.closeAck ack, .goto (again acks))

/-! ## Waiting -/

/-- Whether the frame at the top of a stack can act. A flush waits for the answer, a shutdown for
the worker's end, a worker for an item; a frame that waits for another is never at the top. -/
def Frame.isReady (s : Store) : Frame → Bool
  | .register _ (.dropping _) => false
  | .release _ .running => false
  | .callback _ (.running _) => false
  | .flush _ _ _ (.waiting ack) => !s.isAckPending ack
  | .rest g _ => s.isAtRest g
  | .shutdown g .joining =>
      match s.guard? g with
      | some guard => guard.exit.isSome
      | none => true
  | .worker g .polling => s.isSourceReady g
  | .worker _ (.running _) => false
  | _ => true

/-- A flush with a deadline may give up while its request is pending; the request stays queued. -/
def Frame.expired? (s : Store) : Frame → Option Outcome
  | .flush _ .deadline _ (.waiting ack) =>
      if s.isAckPending ack then some (.flag false) else none
  | _ => none

end Reclaim

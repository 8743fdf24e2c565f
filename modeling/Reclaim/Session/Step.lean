import Reclaim.Schedule

/-!
# Steps of a session

A session drives guards from one thread, the caller's, and sees what happens after each step.

* `Treatment`, `Storm` : many threads that register and let go at once;
* `QueueStep` : what can be done with a bare queue;
* `Step` : everything that a session can do; `StepReply` : what it answers.
-/

namespace Reclaim.Session

/-- What a storm does with a handle that it has registered. -/
inductive Treatment where
  | leak
  | release
  | releaseTwice
  | keep
deriving DecidableEq, Repr, Inhabited

/-- Threads that register resources side by side and treat them by a plan. -/
structure Storm where
  guard : String
  address : Address
  threads : Nat
  /-- Registrations per thread. -/
  per : Nat
  plan : List Treatment
  failing : List Address
deriving DecidableEq, Repr, Inhabited

/-- Something done with a bare queue. -/
inductive QueueStep where
  | new
  | push (handle : String)
  | next
  | waitBegin (wait : String)
  | interrupt
  | pending
  | isInterrupted
  | debug
deriving DecidableEq, Repr, Inhabited

/-- Something that a session does. -/
inductive Step where
  | command (c : Command)
  /-- Lets the worker of a guard take items until none is left. -/
  | drain (guard : String)
  /-- Asks for the items given to the worker of a guard since the last question. -/
  | delivered (guard : String)
  /-- Starts a flush on a thread of its own. -/
  | flushBegin (guard flush : String)
  | flushEnd (flush : String)
  /-- Threads that release one handle at once. -/
  | race (handle : String) (threads : Nat)
  | storm (storm : Storm)
  | queue (queue : String) (step : QueueStep)
  | waitEnd (wait : String)

/-- What a storm has led to. -/
structure StormReport where
  flushed : Bool
  live : Nat
  /-- Kept handles that the guard keeps track of. -/
  member : Nat
  /-- Callbacks run before the kept handles are released. -/
  total : Nat
  /-- Kept handles whose release won. -/
  freed : Nat
  /-- Callbacks run in all. -/
  after : Nat
  duplicates : List Address
  events : List (DiagnosticKind × Nat)
  ordered : Bool
  stats : Stats
deriving DecidableEq, Repr, Inhabited

/-- The answer to a step. -/
inductive StepReply where
  | reply (reply : Reply)
  | texts (texts : List String)
  | race (winners threads : Nat)
  | storm (report : StormReport)
  /-- An item taken from a bare queue. -/
  | item (text : String)
  /-- An item that a bare queue handed back. -/
  | handedBack (text : String)
  /-- A bare queue was interrupted. -/
  | interrupted (text : String)
deriving DecidableEq, Repr, Inhabited

end Reclaim.Session

import Reclaim.Handle
import Reclaim.Queue

/-!
# Reclaim sources

A guard's worker is fed by a source: a closable queue of items, with the ways in which a source may
depart from a plain queue. It may stand behind a gate that lets only so many items through, refuse
every item, swallow flush requests, or panic when it is asked for the n-th time.

* `Item` : a handle to reclaim, or a flush request to answer;
* `Source.enqueue`, `Source.ask`, `Source.poll`, `Source.interrupt` : the moves of both sides;
* `Source.permit`, `Source.permitPending` : the gate;
* `SourceKind.source` : a fresh source of a kind.
-/

namespace Reclaim

/-- What a worker is given to do. -/
inductive Item where
  | reclaim (id : HandleId)
  /-- A flush request, by the number of the cell that waits for the answer. -/
  | flush (ack : Nat)
deriving DecidableEq, Repr, Inhabited

namespace Item

/-- The text for logs. -/
def debug : Item → String
  | reclaim id => "Reclaim(" ++ id.debug ++ ")"
  | flush _ => "Flush(OneshotSender \x7b .. \x7d)"

/-- The cell that waits for an answer. -/
def ack? : Item → Option Nat
  | reclaim _ => none
  | flush ack => some ack

end Item

/-- What feeds a worker. -/
structure Source where
  queue : Queue Item := {}
  /-- How many items the worker may still take; `none` when there is no gate. -/
  gate : Option Nat := none
  /-- Every item is handed back. -/
  refuses : Bool := false
  /-- Flush requests are destroyed when their turn comes. -/
  swallowsFlushes : Bool := false
  /-- The call for an item that panics, counted from 1. -/
  panicsAt : Option Nat := none
  /-- Calls for an item so far. -/
  calls : Nat := 0
  /-- Items given to the worker, the latest first. -/
  delivered : List Item := []
deriving DecidableEq, Repr, Inhabited

/-- What a call for an item comes to. -/
inductive Poll where
  | interrupted
  | item (item : Item)
  /-- A flush request has been destroyed; the call goes on. -/
  | swallowed (ack : Nat)
  /-- Nothing may be taken yet. -/
  | wait
deriving DecidableEq, Repr, Inhabited

namespace Source

/-- A plain queue. -/
def plain : Source := {}

/-- The source with one item more, unless the item is handed back. -/
def enqueue (s : Source) (item : Item) : Option Source :=
  if s.refuses then none
  else
    match s.queue.enqueue item with
    | none => none
    | some queue => some { s with queue }

/-- How many items wait. -/
def pending (s : Source) : Nat := s.queue.pending

/-- Whether the source has been interrupted. -/
def isInterrupted (s : Source) : Bool := s.queue.interrupted

/-- Whether the gate lets an item through. -/
def isOpen (s : Source) : Bool :=
  match s.gate with
  | none => true
  | some n => 0 < n

/-- The worker calls for an item; the flag tells whether the call panics. -/
def ask (s : Source) : Source × Bool :=
  ({ s with calls := s.calls + 1 }, s.panicsAt == some (s.calls + 1))

/-- Whether a call for an item has panicked. -/
def hasPanicked (s : Source) : Bool := s.panicsAt == some s.calls && 0 < s.calls

/-- Whether a call for an item can come to an end. -/
def isReady (s : Source) : Bool :=
  s.isInterrupted || (0 < s.pending && s.isOpen)

/-- One look at the queue on behalf of a call for an item. -/
def poll (s : Source) : Source × Poll :=
  match s.queue.next with
  | .interrupted => (s, .interrupted)
  | .empty => (s, .wait)
  | .item item rest =>
    if s.isOpen then
      let s := { s with queue := rest, gate := s.gate.map (· - 1) }
      match s.swallowsFlushes, item with
      | true, .flush ack => (s, .swallowed ack)
      | _, item => ({ s with delivered := item :: s.delivered }, .item item)
    else (s, .wait)

/-- The interrupted source, and the items that it threw away. -/
def interrupt (s : Source) : Source × List Item :=
  let (queue, items) := s.queue.interrupt
  ({ s with queue }, items)

/-- The gate lets this many items through from now on. -/
def permit (s : Source) (n : Nat) : Source := { s with gate := s.gate.map fun _ => n }

/-- The gate lets through exactly what is pending. -/
def permitPending (s : Source) : Source := s.permit s.pending

end Source

/-- The kinds of sources. -/
inductive SourceKind where
  | gated
  | refusing
  | swallowing
  /-- A plain queue without a gate. -/
  | plain
deriving DecidableEq, Repr, Inhabited

/-- A source of the kind, its gate shut if it has one, with the call for an item that panics. -/
def SourceKind.source (panicsAt : Option Nat) : SourceKind → Source
  | gated => { gate := some 0, panicsAt }
  | refusing => { gate := some 0, refuses := true, panicsAt }
  | swallowing => { gate := some 0, swallowsFlushes := true, panicsAt }
  | plain => .plain

end Reclaim

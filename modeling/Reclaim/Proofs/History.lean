import Reclaim.System
import Mathlib.Data.List.Induction

/-!
# Histories

Everything that can happen to a process, and what it means for the handles.

* `Event` : a thread moves, a thread joins with a script of its own, an owner shares a handle, an
  outsider puts a handle's number into a source within reach;
* `System.after` : the system after a list of events, those that are not possible skipped;
* `Mark`, `Frame.marks` : what an action means for a handle; `System.history` : all of it, in order;
* `System.boot` : a process in which nothing has happened yet.

The numbers of handles are nobody's to make up: an outsider can put in any number that has been
given to a variable, as often as wanted, whatever has become of the handle since.
-/

namespace Reclaim

/-- Something that happens to a process. -/
inductive Event where
  | move (move : Move)
  /-- A thread joins and carries out a script. -/
  | join (name : ThreadName) (script : List Command)
  /-- A holder of a handle gives out more shares of it. -/
  | share (id : HandleId) (shares : Nat)
  /-- An outsider puts the number of a handle into a source. -/
  | inject (guard : GuardId) (id : HandleId)

/-- A thread has its turn so many times. -/
def turns (t : ThreadId) (n : Nat) : List Event := List.replicate n (.move (.act t))

/-- How the release of a handle can be claimed. -/
inductive Path where
  /-- By a call. -/
  | release
  /-- By the worker of a guard. -/
  | reclaim (guard : GuardId)
deriving DecidableEq, Repr

/-- What an action means for a handle. -/
inductive Mark where
  /-- A registration of this address has got the handle's number. -/
  | numbered (address : Address)
  /-- Somebody tried to claim the release. -/
  | claimed (path : Path) (won : Bool)
  /-- A call to release has come to its end, and answers so; it has won if it says so or passes on a panic. -/
  | returned (won : Bool)
  /-- The drop of the handle has put it into the source of its guard. -/
  | queued
  /-- The source has handed the handle back to its drop. -/
  | refused
  /-- The drop of the handle has offered the leak to the sink of its guard. -/
  | leaked
  /-- The worker of a guard has taken the handle from its source. -/
  | taken (guard : GuardId)
  /-- An interruption of the source of a guard has thrown the handle away. -/
  | thrown (guard : GuardId)
  /-- The sink of a guard has panicked at the news that the handle was not closed, which the worker has claimed. -/
  | aborted (guard : GuardId)
  /-- The worker of a guard has counted the run of the callback, as a failure if it panicked. -/
  | settled (guard : GuardId) (failed : Bool)
deriving DecidableEq, Repr

/-- What has happened to handles, in order. -/
abbrev History := List (HandleId × Mark)

/-! ## What actions mean -/

/-- The handle that an item is about. -/
def Item.id? : Item → Option HandleId
  | .reclaim id => some id
  | .flush _ => none

/-- Every handle that waits in a queue. -/
def Queue.ids (q : Queue Item) : List HandleId := q.items.filterMap Item.id?

/-- What an interruption of the source of a guard throws away. -/
def Store.thrownAway (s : Store) (g : GuardId) : History :=
  match s.guard? g with
  | none => []
  | some guard => guard.source.queue.ids.map fun id => (id, .thrown g)

/-- What a drop that finds its handle active comes to. -/
def Store.dropMark (s : Store) (id : HandleId) : Mark :=
  match s.resource? id with
  | none => .refused
  | some e => if (s.enqueue e.guard (.reclaim id)).2 then .queued else .refused

/-- What a look at the queue on behalf of a worker takes from it. -/
def Store.takenBy (s : Store) (g : GuardId) : History :=
  match (s.pollNext g).2 with
  | .item (.reclaim id) => [(id, .taken g)]
  | _ => []

/-- What it means for a handle that the sink of a guard is told that it was not closed. -/
def Store.abortedBy (s : Store) (g : GuardId) (id : HandleId) : History :=
  match s.resource? id with
  | none => []
  | some e => if (s.emit g (.notProperlyClosed e.address)).2.isSome then [(id, .aborted g)] else []

/-- Whether a call to release that comes to this has won. -/
def Outcome.wins : Outcome → Bool
  | value (.flag won) => won
  | panic _ => true
  | _ => false

/-- The answer of an operation that ends with this progress, or has only to let go of its handle. -/
def Progress.outcome? : Progress → Option Outcome
  | .finish outcome => some outcome
  | .call _ (.give outcome) => some outcome
  | _ => none

/-- What the next action of a release means for its handle, if it is the last one. -/
def Store.returnedBy (s : Store) (id : HandleId) (p : ReleasePoint) : History :=
  ((p.advance s id).2.outcome?.map fun outcome => (id, .returned outcome.wins)).toList

/-- What a command that acts at once means for handles. -/
def Command.marks (s : Store) : Command → History
  | .interrupt guard =>
    match s.sourceNamed guard with
    | .ok g => s.thrownAway g
    | .error _ => []
  | _ => []

/-- What the next action of a frame means for handles. -/
def Frame.marks (s : Store) : Frame → History
  | .commands (c :: _) _ => c.marks s
  | .register q .allocate =>
    match q.registration.check with
    | .ok f => [((s.allocate q.guard q.registration f).2, .numbered q.registration.address)]
    | .error _ => []
  | .release id .retire => [(id, .claimed .release (s.retire id).2)]
  | .release id .lost => s.returnedBy id .lost
  | .release id (.ran panic) => s.returnedBy id (.ran panic)
  | .drop id .enqueue => [(id, s.dropMark id)]
  | .drop id .leak => [(id, .leaked)]
  | .shutdown g .interrupt => s.thrownAway g
  | .worker g .polling => s.takenBy g
  | .worker g (.processing (.reclaim id)) => [(id, .claimed (.reclaim g) (s.takeActive g id).2)]
  | .worker g (.reporting id) => s.abortedBy g id
  | .worker g (.settling id panic) => [(id, .settled g panic.isSome)]
  | .worker g (.leaving _) => s.thrownAway g
  | _ => []

namespace System

/-- The frame at the top of a thread, if it can act. -/
def acting? (w : System) (t : ThreadId) : Option Frame :=
  match w.thread? t with
  | some ⟨_, frame :: _, _⟩ => if frame.isReady w.store then some frame else none
  | _ => none

/-- What an event means for handles. -/
def marks (w : System) : Event → History
  | .move (.act t) =>
    match w.acting? t with
    | some frame => frame.marks w.store
    | none => []
  | _ => []

/-! ## Events -/

/-- Whether a handle's number has been given to a variable. -/
def knows (w : System) (id : HandleId) : Bool := w.store.names.handles.any fun b => b.2 == id

/-- Whether the source of a guard is within an outsider's reach. -/
def isExposed (w : System) (g : GuardId) : Bool :=
  match w.store.guard? g with
  | some guard => guard.source.gate.isSome
  | none => false

/-- Whether somebody holds a handle. -/
def isHeld (w : System) (id : HandleId) : Bool :=
  match w.store.resource? id with
  | some e => 0 < e.owners
  | none => false

/-- The system after an event, or as it is if the event is not possible. -/
def occur (w : System) : Event → System
  | .move m => (w.move? m).getD w
  | .join name script => (w.spawn name (.commands script [])).1
  | .share id shares =>
    if w.isHeld id then
      { w with store := w.store.modifyEntry id fun e => { e with owners := e.owners + shares } }
    else w
  | .inject g id =>
    if w.knows id && w.isExposed g then { w with store := (w.store.enqueue g (.reclaim id)).1 }
    else w

/-- The system after a list of events. -/
def after (w : System) : List Event → System
  | [] => w
  | event :: events => (w.occur event).after events

/-- What a list of events means for handles. -/
def history (w : System) : List Event → History
  | [] => []
  | event :: events => w.marks event ++ (w.occur event).history events

/-- A process in which nothing has happened yet. -/
def boot (probes : Array Probe) (environment : Environment) (output : Output) : System :=
  { store := { probes, environment, output } }

/-! ## Lists of events -/

theorem after_append (w : System) (es es' : List Event) :
    w.after (es ++ es') = (w.after es).after es' := by
  induction es generalizing w with
  | nil => rfl
  | cons e es ih => exact ih (w.occur e)

theorem after_snoc (w : System) (es : List Event) (e : Event) :
    w.after (es ++ [e]) = (w.after es).occur e := after_append w es [e]

theorem history_append (w : System) (es es' : List Event) :
    w.history (es ++ es') = w.history es ++ (w.after es).history es' := by
  induction es generalizing w with
  | nil => rfl
  | cons e es ih =>
    simp only [List.cons_append, history, after, ih (w.occur e), List.append_assoc]

theorem history_snoc (w : System) (es : List Event) (e : Event) :
    w.history (es ++ [e]) = w.history es ++ (w.after es).marks e := by
  rw [history_append]
  simp [history]

/-- What holds at the start and survives every event holds after every list of events. -/
theorem after_induction (w : System) (P : System → History → Prop) (start : P w [])
    (step : ∀ w' h e, P w' h → P (w'.occur e) (h ++ w'.marks e)) (es : List Event) :
    P (w.after es) (w.history es) := by
  induction es using List.reverseRecOn with
  | nil => exact start
  | append_singleton es e ih =>
    rw [after_snoc, history_snoc]
    exact step _ _ _ ih

end System

end Reclaim

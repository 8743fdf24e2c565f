import Reclaim.Proofs.History

/-!
# Deeds

What a process does in the sight of others, in order: the items that sources accept and hand out, what
sinks are told, and the callbacks that run.

* `Deed` : something done; `Frame.deeds` : what the next action of a frame does;
* `System.deeds`, `System.trace` : what an event does, and a list of events;
* `Trace.of`, `Trace.ins`, `Trace.outs`, `Trace.words`, `Trace.aborted` : readings of a trace.
-/

namespace Reclaim

/-- Something that a process has done. -/
inductive Deed where
  /-- The source of a guard has accepted an item. -/
  | accepted (guard : GuardId) (item : Item)
  /-- The source of a guard has handed an item to the worker. -/
  | delivered (guard : GuardId) (item : Item)
  /-- The worker of a guard has found nothing to release for an item. -/
  | discarded (guard : GuardId) (id : HandleId)
  /-- The sink of a guard has been told something, which is about the handle if there is one; the flag
  tells whether the sink panicked at that. -/
  | said (guard : GuardId) (about : Option HandleId) (d : Diagnostic) (panicked : Bool)
  /-- The callback of a handle has started, for a call or for a worker. -/
  | began (path : Path) (id : HandleId)
  /-- The callback of a handle has ended, by a panic if there is one. -/
  | ended (path : Path) (id : HandleId) (panic : Option Panic)
deriving DecidableEq

/-- The guard whose source, sink or worker it was. -/
def Deed.guard? : Deed → Option GuardId
  | accepted g _ | delivered g _ | discarded g _ | said g _ _ _ => some g
  | began (.reclaim g) _ | ended (.reclaim g) _ _ => some g
  | began .release _ | ended .release _ _ => none

/-- What a process has done, in order. -/
abbrev Trace := List Deed

/-! ## What actions do -/

/-- The panic that an operation came to. -/
def Outcome.panic? : Outcome → Option Panic
  | panic p => some p
  | _ => none

/-- The end of a callback that has run for this path, if the progress is one. -/
def Progress.ends (path : Path) (id : HandleId) : Progress → Trace
  | .finish o => [.ended path id o.panic?]
  | _ => []

/-- What the source of a guard does when it is handed an item. -/
def Store.accepts (s : Store) (g : GuardId) (item : Item) : Trace :=
  if (s.enqueue g item).2 then [.accepted g item] else []

/-- What the source of a guard does when its worker looks for an item. -/
def Store.handsOut (s : Store) (g : GuardId) : Trace :=
  match (s.pollNext g).2 with
  | .item item => [.delivered g item]
  | _ => []

/-- What becomes of telling the sink of a guard something. -/
def Store.tells (s : Store) (g : GuardId) (about : Option HandleId) (d : Diagnostic) : Trace :=
  [.said g about d (s.emit g d).2.isSome]

/-- On whose behalf a callback runs, by the frames below it. -/
def Path.over : List Frame → Path
  | .worker g _ :: _ => .reclaim g
  | _ => .release

/-- What the next action of a frame does, which goes on with this progress; a callback runs for this
path. -/
def Frame.deeds (s : Store) (path : Path) (progress : Progress) : Frame → Trace
  | .commands (.inject guard handle :: _) _ =>
    match s.sourceNamed guard, s.idNamed handle with
    | .ok g, .ok id => s.accepts g (.reclaim id)
    | _, _ => []
  | .callback id .enter => .began path id :: progress.ends path id
  | .callback id (.ran _ _) => progress.ends path id
  | .drop id .enqueue =>
    match s.resource? id with
    | some e => s.accepts e.guard (.reclaim id)
    | none => []
  | .drop id .leak =>
    match s.resource? id with
    | some e => s.tells e.guard (some id) (.leakedAfterStop e.address)
    | none => []
  | .flush g _ _ .request => s.accepts g (.flush s.newAck.2)
  | .worker g .polling => s.handsOut g
  | .worker g (.processing (.reclaim id)) =>
    if (s.takeActive g id).2 then [] else [.discarded g id]
  | .worker g (.reporting id) =>
    match s.resource? id with
    | some e => s.tells g (some id) (.notProperlyClosed e.address)
    | none => []
  | .worker g (.announcing id panic) =>
    match s.resource? id with
    | some e => s.tells g (some id) (e.announcement panic)
    | none => []
  | .worker g (.farewell _) => s.tells g none .interrupted
  | _ => []

namespace System

/-- The frames below the top of a thread. -/
def below (w : System) (t : ThreadId) : List Frame :=
  match w.thread? t with
  | some ⟨_, _ :: rest, _⟩ => rest
  | _ => []

/-- What an event does. -/
def deeds (w : System) : Event → Trace
  | .move (.act t) =>
    match w.acting? t with
    | some frame =>
      frame.deeds w.store (.over (w.below t)) (frame.advance t w.threads.size w.store).2
    | none => []
  | .inject g id =>
    if w.knows id && w.isExposed g then w.store.accepts g (.reclaim id) else []
  | _ => []

/-- What a list of events does. -/
def trace (w : System) : List Event → Trace
  | [] => []
  | event :: events => w.deeds event ++ (w.occur event).trace events

theorem trace_append (w : System) (es es' : List Event) :
    w.trace (es ++ es') = w.trace es ++ (w.after es).trace es' := by
  induction es generalizing w with
  | nil => rfl
  | cons e es ih => simp only [List.cons_append, trace, after, ih (w.occur e), List.append_assoc]

theorem trace_snoc (w : System) (es : List Event) (e : Event) :
    w.trace (es ++ [e]) = w.trace es ++ (w.after es).deeds e := by
  rw [trace_append]
  simp [trace]

end System

/-! ## Readings -/

/-- The item that a source has accepted. -/
def Deed.accepted? : Deed → Option Item
  | accepted _ item => some item
  | _ => none

/-- The item that a source has handed out. -/
def Deed.delivered? : Deed → Option Item
  | delivered _ item => some item
  | _ => none

/-- What a sink has been told. -/
def Deed.said? : Deed → Option Diagnostic
  | said _ _ d _ => some d
  | _ => none

/-- Whether a sink has been told that a handle was not closed. -/
def Deed.isNews : Deed → Bool
  | said _ _ (.notProperlyClosed _) _ => true
  | _ => false

/-- Whether a sink has panicked at the news that a handle was not closed. -/
def Deed.isAbort : Deed → Bool
  | said _ _ (.notProperlyClosed _) panicked => panicked
  | _ => false

namespace Trace

/-- What the source, the sink and the worker of a guard have done. -/
def of (tr : Trace) (g : GuardId) : Trace := tr.filter fun d => d.guard? = some g

/-- The items that were accepted, in order. -/
def ins (tr : Trace) : List Item := tr.filterMap Deed.accepted?

/-- The items that were handed out, in order. -/
def outs (tr : Trace) : List Item := tr.filterMap Deed.delivered?

/-- What sinks were told, in order. -/
def words (tr : Trace) : List Diagnostic := tr.filterMap Deed.said?

/-- The items that the source of a guard has accepted, in order. -/
def accepted (tr : Trace) (g : GuardId) : List Item := (tr.of g).ins

/-- The items that the source of a guard has handed to the worker, in order. -/
def delivered (tr : Trace) (g : GuardId) : List Item := (tr.of g).outs

/-- What the sink of a guard has been told, in order. -/
def said (tr : Trace) (g : GuardId) : List Diagnostic := (tr.of g).words

/-- How many items the worker of a guard has given up because the sink panicked. -/
def aborted (tr : Trace) (g : GuardId) : Nat := (tr.of g).countP Deed.isAbort

theorem of_append (tr tr' : Trace) (g : GuardId) : of (tr ++ tr') g = tr.of g ++ tr'.of g :=
  List.filter_append ..

@[simp] theorem ins_append (tr tr' : Trace) : ins (tr ++ tr') = tr.ins ++ tr'.ins :=
  List.filterMap_append

@[simp] theorem outs_append (tr tr' : Trace) : outs (tr ++ tr') = tr.outs ++ tr'.outs :=
  List.filterMap_append

@[simp] theorem words_append (tr tr' : Trace) : words (tr ++ tr') = tr.words ++ tr'.words :=
  List.filterMap_append

theorem accepted_append (tr tr' : Trace) (g : GuardId) :
    accepted (tr ++ tr') g = tr.accepted g ++ tr'.accepted g := by
  rw [accepted, of_append, ins_append, accepted, accepted]

theorem delivered_append (tr tr' : Trace) (g : GuardId) :
    delivered (tr ++ tr') g = tr.delivered g ++ tr'.delivered g := by
  rw [delivered, of_append, outs_append, delivered, delivered]

theorem aborted_append (tr tr' : Trace) (g : GuardId) :
    aborted (tr ++ tr') g = tr.aborted g + tr'.aborted g := by
  rw [aborted, of_append, List.countP_append]
  rfl

end Trace

end Reclaim

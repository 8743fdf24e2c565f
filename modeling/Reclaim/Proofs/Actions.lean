import Reclaim.Proofs.History

/-!
# What actions change

Most actions on a store have nothing to do with any handle's life. What matters of a store is who
the handles are (`Store.resource?`), which names they were given, which callbacks have run, and of each
guard its `Gist`: what it keeps track of, what it has counted and what waits in its source.

* `Store.Alike` : two stores agree on all that; `Store.Quiet` : on names and runs;
* `Store.Touches` : one guard has changed, in a way that a function on its gist describes;
* `Store.Amends` : one handle's entry has changed; `Store.Claims` : its release has been claimed;
* `alike_*`, `touches_*`, `amends_*` : one lemma for each action;
* `Store.Reaches` : the guards that a name or the process leads to.
-/

namespace Reclaim

/-- What matters of a guard for the handles. -/
structure Gist where
  config : Config
  registry : Registry
  /-- The handles that wait in the source. -/
  waiting : List HandleId
  interrupted : Bool
  /-- The source is within an outsider's reach. -/
  exposed : Bool
  refuses : Bool
  stats : Stats
  /-- The leaks offered to the sink. -/
  leaks : List Address

/-- The address of a leak. -/
def Diagnostic.leak? : Diagnostic → Option Address
  | leakedAfterStop address => some address
  | _ => none

namespace Gist

/-- One handle more that is kept track of. -/
def insert (id : HandleId) (x : Gist) : Gist := { x with registry := x.registry.insert id }

/-- One handle less. -/
def erase (id : HandleId) (x : Gist) : Gist := { x with registry := x.registry.erase id }

/-- The counters have moved on. -/
def count (f : Stats → Stats) (x : Gist) : Gist := { x with stats := f x.stats }

/-- One leak more has been offered to the sink. -/
def leak (address : Address) (x : Gist) : Gist := { x with leaks := x.leaks ++ [address] }

/-- One handle more that waits. -/
def queue (id : HandleId) (x : Gist) : Gist := { x with waiting := x.waiting ++ [id] }

/-- The first handle that waited has been taken. -/
def next (x : Gist) : Gist := { x with waiting := x.waiting.tail }

/-- Nothing waits, for good. -/
def clear (x : Gist) : Gist := { x with waiting := [], interrupted := true }

end Gist

/-- What matters of a guard for the handles. -/
def Guard.gist (x : Guard) : Gist where
  config := x.config
  registry := x.registry
  waiting := x.source.queue.ids
  interrupted := x.source.isInterrupted
  exposed := x.source.gate.isSome
  refuses := x.source.refuses
  stats := x.stats
  leaks := x.offered.toList.filterMap Diagnostic.leak?

/-- A look at a source takes the first handle in it, or nothing that matters. -/
theorem Source.poll_cases (x : Source) :
    (∃ id rest, x.queue.items = .reclaim id :: rest ∧ x.isInterrupted = false ∧
      x.poll = ({ x with
        queue := { x.queue with items := rest }
        gate := x.gate.map (· - 1)
        delivered := .reclaim id :: x.delivered }, .item (.reclaim id))) ∨
    ((∀ id, x.poll.2 ≠ .item (.reclaim id)) ∧ x.poll.1.queue.ids = x.queue.ids ∧
      x.poll.1.isInterrupted = x.isInterrupted ∧ x.poll.1.gate.isSome = x.gate.isSome ∧
      x.poll.1.refuses = x.refuses) := by
  cases hi : x.queue.interrupted with
  | true =>
    right
    have hp : x.poll = (x, .interrupted) := by simp [poll, Queue.next, hi]
    simp [hp]
  | false =>
    cases hq : x.queue.items with
    | nil =>
      right
      have hp : x.poll = (x, .wait) := by simp [poll, Queue.next, hi, hq]
      simp [hp]
    | cons item rest =>
      by_cases ho : x.isOpen = true
      · cases item with
        | flush ack =>
          right
          have hids : ({ items := rest } : Queue Item).ids = x.queue.ids := by
            rw [Queue.ids, Queue.ids, hq]
            rfl
          cases hw : x.swallowsFlushes <;>
            simp [poll, Queue.next, hi, hq, ho, hw, isInterrupted, hids]
        | reclaim id =>
          left
          refine ⟨id, rest, rfl, hi, ?_⟩
          cases hw : x.swallowsFlushes <;> simp [poll, Queue.next, hi, hq, ho, hw]
      · right
        have hp : x.poll = (x, .wait) := by simp [poll, Queue.next, hi, hq, ho]
        simp [hp]

namespace Store

/-- What matters of a guard for the handles. -/
def gist? (s : Store) (g : GuardId) : Option Gist := (s.guard? g).map Guard.gist

/-- The guard is in a variable, or belongs to the process. -/
def Reaches (s : Store) (g : GuardId) : Prop :=
  (∃ name, (name, g) ∈ s.names.guards) ∨ s.processWide.running = some g

/-- The runs of callbacks so far, by handle and address. -/
def runs (s : Store) : List (HandleId × Address) := s.calls.toList.map fun c => (c.id, c.address)

/-! ## Single entries and guards -/

@[simp] theorem guard?_modifyGuard (s : Store) (g g' : GuardId) (f : Guard → Guard) :
    (s.modifyGuard g f).guard? g' = if g = g' then (s.guard? g').map f else s.guard? g' := by
  simp only [guard?, modifyGuard, Array.getElem?_modify]

theorem modifyGuard_eq_self {s : Store} {g : GuardId} {f : Guard → Guard}
    (hf : ∀ x, s.guard? g = some x → f x = x) : s.modifyGuard g f = s := by
  have hguards : s.guards.modify g f = s.guards := by
    apply Array.ext_getElem?
    intro i
    rw [Array.getElem?_modify]
    split
    · next heq =>
      subst heq
      cases hx : s.guards[g]? with
      | none => rfl
      | some x => rw [Option.map_some, hf x hx]
    · rfl
  unfold modifyGuard
  rw [hguards]

@[simp] theorem gist?_modifyGuard (s : Store) (g g' : GuardId) (f : Guard → Guard) :
    (s.modifyGuard g f).gist? g' =
      if g = g' then (s.guard? g').map fun x => (f x).gist else s.gist? g' := by
  simp only [gist?, guard?_modifyGuard]
  split <;> simp [Function.comp_def]

@[simp] theorem resource?_modifyEntry (s : Store) (id id' : HandleId) (f : Entry → Entry) :
    (s.modifyEntry id f).resource? id' =
      if id = id' then (s.resource? id').map f else s.resource? id' := by
  unfold modifyEntry resource?
  by_cases h : id = id'
  · subst h
    by_cases h0 : id.number = 0 <;> simp [h0, Array.getElem?_modify]
  · rw [if_neg h]
    by_cases h0 : id.number = 0
    · rw [if_pos h0]
    · rw [if_neg h0]
      by_cases h0' : id'.number = 0
      · rw [if_pos h0', if_pos h0']
      · -- numbers count from 1, so different handles have different places
        have hne : id.number - 1 ≠ id'.number - 1 := by
          intro he
          apply h
          cases id; cases id'
          simp only [HandleId.mk.injEq] at *
          omega
        simp [h0', Array.getElem?_modify, hne]

@[simp] theorem guard?_modifyEntry (s : Store) (id : HandleId) (f : Entry → Entry) (g : GuardId) :
    (s.modifyEntry id f).guard? g = s.guard? g := by
  unfold modifyEntry
  split <;> rfl

@[simp] theorem gist?_modifyEntry (s : Store) (id : HandleId) (f : Entry → Entry) (g : GuardId) :
    (s.modifyEntry id f).gist? g = s.gist? g := by
  simp [gist?]

/-! ## How stores compare -/

/-- The names of handles and the runs of callbacks are the same; names of guards may have been
forgotten. -/
structure Quiet (s s' : Store) : Prop where
  handles : s'.names.handles = s.names.handles
  runs : s'.runs = s.runs
  reaches : ∀ g, s'.Reaches g → s.Reaches g

/-- The stores agree on everything that matters for the handles. -/
structure Alike (s s' : Store) : Prop extends Quiet s s' where
  entry : ∀ id, s'.resource? id = s.resource? id
  gist : ∀ g, s'.gist? g = s.gist? g

/-- One guard has changed by a function. -/
structure Touches (s s' : Store) (g : GuardId) (f : Gist → Gist) : Prop extends Quiet s s' where
  entry : ∀ id, s'.resource? id = s.resource? id
  gist : ∀ g', s'.gist? g' = if g = g' then (s.gist? g').map f else s.gist? g'

/-- The entry of one handle has changed by a function. -/
structure Amends (s s' : Store) (id : HandleId) (f : Entry → Entry) : Prop extends Quiet s s' where
  entry : ∀ id', s'.resource? id' = if id = id' then (s.resource? id').map f else s.resource? id'
  gist : ∀ g, s'.gist? g = s.gist? g

/-- The release of a handle has been claimed, and a guard does not keep track of it any more. -/
structure Claims (s s' : Store) (g : GuardId) (id : HandleId) : Prop extends Quiet s s' where
  entry : ∀ id', s'.resource? id' =
    if id = id' then (s.resource? id').map fun e => { e with state := .released } else s.resource? id'
  gist : ∀ g', s'.gist? g' = if g = g' then (s.gist? g').map (Gist.erase id) else s.gist? g'

theorem Quiet.refl (s : Store) : Quiet s s := ⟨rfl, rfl, fun _ h => h⟩

theorem Quiet.trans {s₁ s₂ s₃ : Store} (h : Quiet s₁ s₂) (h' : Quiet s₂ s₃) : Quiet s₁ s₃ :=
  ⟨h'.handles.trans h.handles, h'.runs.trans h.runs, fun g hg => h.reaches g (h'.reaches g hg)⟩

theorem Alike.refl (s : Store) : Alike s s := ⟨.refl s, fun _ => rfl, fun _ => rfl⟩

theorem Alike.trans {s₁ s₂ s₃ : Store} (h : Alike s₁ s₂) (h' : Alike s₂ s₃) : Alike s₁ s₃ :=
  ⟨h.toQuiet.trans h'.toQuiet, fun id => (h'.entry id).trans (h.entry id),
    fun g => (h'.gist g).trans (h.gist g)⟩

theorem Touches.trans {s₁ s₂ s₃ : Store} {g : GuardId} {f : Gist → Gist} (h : Touches s₁ s₂ g f)
    (h' : Alike s₂ s₃) : Touches s₁ s₃ g f :=
  ⟨h.toQuiet.trans h'.toQuiet, fun id => (h'.entry id).trans (h.entry id),
    fun g' => (h'.gist g').trans (h.gist g')⟩

/-- Nothing to change. -/
theorem Touches.of_none {s : Store} {g : GuardId} {f : Gist → Gist} (hg : s.gist? g = none) :
    Touches s s g f := by
  refine ⟨.refl s, fun _ => rfl, fun g' => ?_⟩
  split
  · next h =>
    subst h
    simp [hg]
  · rfl

theorem Touches.gist_eq {s s' : Store} {g g' : GuardId} {f : Gist → Gist} {x x' : Gist}
    (h : Touches s s' g f) (hx : s.gist? g' = some x) (hx' : s'.gist? g' = some x') :
    x' = if g = g' then f x else x := by
  rw [h.gist, hx] at hx'
  split
  · next hg =>
    rw [if_pos hg] at hx'
    exact (Option.some.inj hx').symm
  · next hg =>
    rw [if_neg hg] at hx'
    exact (Option.some.inj hx').symm

theorem Claims.gist_eq {s s' : Store} {g g' : GuardId} {id : HandleId} {x x' : Gist}
    (h : Claims s s' g id) (hx : s.gist? g' = some x) (hx' : s'.gist? g' = some x') :
    x' = if g = g' then x.erase id else x := by
  rw [h.gist, hx] at hx'
  split
  · next hg =>
    rw [if_pos hg] at hx'
    exact (Option.some.inj hx').symm
  · next hg =>
    rw [if_neg hg] at hx'
    exact (Option.some.inj hx').symm

/-- A change to a guard that leaves its gist alone. -/
theorem alike_modifyGuard (s : Store) (g : GuardId) {f : Guard → Guard}
    (hf : ∀ x, (f x).gist = x.gist) : Alike s (s.modifyGuard g f) := by
  refine ⟨⟨rfl, rfl, fun _ h => h⟩, fun _ => rfl, fun g' => ?_⟩
  rw [gist?_modifyGuard]
  split
  · simp [gist?, hf]
  · rfl

/-- A change to a guard that does to its gist what `f` says. -/
theorem touches_modifyGuard {s : Store} {g : GuardId} {f : Guard → Guard} {f' : Gist → Gist}
    (hf : ∀ x, s.guard? g = some x → (f x).gist = f' x.gist) :
    Touches s (s.modifyGuard g f) g f' := by
  refine ⟨⟨rfl, rfl, fun _ h => h⟩, fun _ => rfl, fun g' => ?_⟩
  rw [gist?_modifyGuard]
  split
  · next h =>
    subst h
    cases hx : s.guard? g with
    | none => simp [gist?, hx]
    | some x => simp [gist?, hx, hf x hx]
  · rfl

theorem amends_modifyEntry (s : Store) (id : HandleId) (f : Entry → Entry) :
    Amends s (s.modifyEntry id f) id f := by
  refine ⟨?_, fun id' => resource?_modifyEntry s id id' f, gist?_modifyEntry s id f⟩
  unfold modifyEntry
  split
  · exact .refl s
  · exact ⟨rfl, rfl, fun _ h => h⟩

/-! ## Actions that leave handles alone -/

theorem alike_log (s : Store) (level : Level) (text : String) : Alike s (s.log level text) :=
  ⟨⟨rfl, rfl, fun _ h => h⟩, fun _ => rfl, fun _ => rfl⟩

theorem alike_setWorkerState (s : Store) (g : GuardId) (state : WorkerState) :
    Alike s (s.setWorkerState g state) := alike_modifyGuard s g fun _ => rfl

/-- A message that is not about a leak. -/
theorem alike_emit (s : Store) (g : GuardId) {d : Diagnostic} (hd : d.leak? = none) :
    Alike s (s.emit g d).1 := by
  unfold emit
  split
  · exact Alike.refl s
  · refine (alike_modifyGuard s g fun x => ?_).trans ⟨⟨rfl, rfl, fun _ h => h⟩, fun _ => rfl, fun _ => rfl⟩
    simp [Guard.gist, Guard.offer, Recorder.offer, Recorder.toList, hd]

theorem alike_newAck (s : Store) : Alike s s.newAck.1 :=
  ⟨⟨rfl, rfl, fun _ h => h⟩, fun _ => rfl, fun _ => rfl⟩

theorem alike_answer (s : Store) (ack : Nat) : Alike s (s.answer ack) :=
  ⟨⟨rfl, rfl, fun _ h => h⟩, fun _ => rfl, fun _ => rfl⟩

theorem alike_closeAck (s : Store) (ack : Nat) : Alike s (s.closeAck ack) :=
  ⟨⟨rfl, rfl, fun _ h => h⟩, fun _ => rfl, fun _ => rfl⟩

theorem alike_takeAck (s : Store) (ack : Nat) : Alike s (s.takeAck ack).1 := by
  unfold takeAck
  split
  · exact Alike.refl s
  · exact ⟨⟨rfl, rfl, fun _ h => h⟩, fun _ => rfl, fun _ => rfl⟩

theorem alike_permit (s : Store) (g : GuardId) (n : Nat) : Alike s (s.permit g n) := by
  refine alike_modifyGuard s g fun x => ?_
  simp [Guard.gist, Source.permit, Source.isInterrupted]

theorem alike_permitPending (s : Store) (g : GuardId) : Alike s (s.permitPending g) := by
  refine alike_modifyGuard s g fun x => ?_
  simp [Guard.gist, Source.permitPending, Source.permit, Source.isInterrupted]

/-- A source has changed in a way that does not matter. -/
theorem alike_modifySource {s : Store} {g : GuardId} {x : Guard} {source : Source}
    (hx : s.guard? g = some x) (hids : source.queue.ids = x.source.queue.ids)
    (hint : source.isInterrupted = x.source.isInterrupted)
    (hgate : source.gate.isSome = x.source.gate.isSome) (hrefuses : source.refuses = x.source.refuses) :
    Alike s (s.modifySource g fun _ => source) := by
  refine ⟨⟨rfl, rfl, fun _ h => h⟩, fun _ => rfl, fun g' => ?_⟩
  rw [modifySource, gist?_modifyGuard]
  split
  · next h =>
    subst h
    simp [gist?, hx, Guard.gist, hids, hint, hgate, hrefuses]
  · rfl

theorem alike_callNext (s : Store) (g : GuardId) : Alike s (s.callNext g).1 := by
  unfold callNext
  split
  · exact Alike.refl s
  · next x hx => exact alike_modifySource hx rfl rfl rfl rfl

theorem alike_tellProbe (s : Store) (e : Entry) : Alike s (s.tellProbe e).1 := by
  unfold tellProbe
  split
  · exact Alike.refl s
  · split
    · exact Alike.refl s
    · exact ⟨⟨rfl, rfl, fun _ h => h⟩, fun _ => rfl, fun _ => rfl⟩

theorem alike_endCall (s : Store) (call : Nat) (did : List Reply) : Alike s (s.endCall call did) := by
  refine ⟨⟨rfl, ?_, fun _ h => h⟩, fun _ => rfl, fun _ => rfl⟩
  apply List.ext_getElem?
  intro i
  simp only [runs, endCall, Array.toList_modify, List.getElem?_map, List.getElem?_modify]
  split
  · simp [Function.comp_def]
  · simp

theorem alike_enqueue_flush (s : Store) (g : GuardId) (ack : Nat) :
    Alike s (s.enqueue g (.flush ack)).1 := by
  unfold enqueue
  split
  · exact Alike.refl s
  · next source hs =>
    obtain ⟨x, hx, hs⟩ := Option.bind_eq_some_iff.mp hs
    unfold Source.enqueue at hs
    split at hs
    · cases hs
    · split at hs
      · cases hs
      · next queue hq =>
        unfold Queue.enqueue at hq
        split at hq
        · cases hq
        · cases hq
          cases hs
          exact alike_modifySource hx (by simp [Queue.ids, Item.id?]) rfl rfl rfl

theorem alike_forgetGuard (s : Store) (name : String) : Alike s (s.forgetGuard name) := by
  refine ⟨⟨rfl, rfl, ?_⟩, fun _ => rfl, fun _ => rfl⟩
  rintro g (⟨n, hn⟩ | hr)
  · exact Or.inl ⟨n, (List.mem_filter.mp hn).1⟩
  · exact Or.inr hr

/-! ## Actions on one guard -/

theorem touches_track (s : Store) (g : GuardId) (id : HandleId) :
    Touches s (s.track g id) g (Gist.insert id) := touches_modifyGuard fun _ _ => rfl

theorem touches_untrack (s : Store) (g : GuardId) (id : HandleId) :
    Touches s (s.untrack g id) g (Gist.erase id) := touches_modifyGuard fun _ _ => rfl

theorem touches_emit_leak (s : Store) (g : GuardId) (address : Address) :
    Touches s (s.emit g (.leakedAfterStop address)).1 g (Gist.leak address) := by
  have ht : Touches s (s.modifyGuard g (·.offer (.leakedAfterStop address))) g
      (Gist.leak address) := by
    refine touches_modifyGuard fun x _ => ?_
    simp [Guard.gist, Gist.leak, Guard.offer, Recorder.offer, Recorder.toList, Diagnostic.leak?]
  unfold emit
  split
  · next hg =>
    have hg : s.guard? g = none := Option.map_eq_none_iff.mp hg
    exact .of_none (by simp [gist?, hg])
  · exact ht.trans ⟨⟨rfl, rfl, fun _ h => h⟩, fun _ => rfl, fun _ => rfl⟩

theorem touches_modifyStats (s : Store) (g : GuardId) (f : Stats → Stats) :
    Touches s (s.modifyStats g f) g (Gist.count f) := touches_modifyGuard fun _ _ => rfl

/-- An item goes to the end of the source, unless the source refuses it or is interrupted. -/
theorem enqueue_cases (s : Store) (g : GuardId) (id : HandleId) :
    (∃ x, s.gist? g = some x ∧ x.interrupted = false ∧ x.refuses = false ∧
      (s.enqueue g (.reclaim id)).2 = true ∧
      Touches s (s.enqueue g (.reclaim id)).1 g (Gist.queue id)) ∨
    (s.enqueue g (.reclaim id) = (s, false) ∧
      ∀ x, s.gist? g = some x → x.interrupted = true ∨ x.refuses = true) := by
  cases hg : s.guard? g with
  | none =>
    right
    exact ⟨by simp [enqueue, hg], by simp [gist?, hg]⟩
  | some x =>
    by_cases hr : x.source.refuses = true
    · right
      exact ⟨by simp [enqueue, hg, Source.enqueue, hr], by simp [gist?, hg, Guard.gist, hr]⟩
    · by_cases hi : x.source.queue.interrupted = true
      · right
        exact ⟨by simp [enqueue, hg, Source.enqueue, hr, Queue.enqueue, hi],
          by simp [gist?, hg, Guard.gist, Source.isInterrupted, hi]⟩
      · left
        rw [Bool.not_eq_true] at hr hi
        have hs : x.source.enqueue (.reclaim id) = some { x.source with
            queue := { x.source.queue with items := x.source.queue.items ++ [.reclaim id] } } := by
          simp [Source.enqueue, hr, Queue.enqueue, hi]
        refine ⟨x.gist, by simp [gist?, hg], hi, hr, by simp [enqueue, hg, hs], ?_⟩
        simp only [enqueue, hg, Option.bind_some, hs, modifySource]
        refine touches_modifyGuard fun y hy => ?_
        cases hg.symm.trans hy
        simp [Guard.gist, Gist.queue, Queue.ids, Item.id?, Source.isInterrupted]

/-- An interruption empties the source for good. -/
theorem touches_interrupt (s : Store) (g : GuardId) : Touches s (s.interrupt g).1 g Gist.clear := by
  cases hg : s.guard? g with
  | none =>
    have : s.interrupt g = (s, []) := by simp only [interrupt, hg]
    rw [this]
    exact .of_none (by simp [gist?, hg])
  | some x =>
    have ht : Touches s (s.modifySource g fun _ => x.source.interrupt.1) g Gist.clear := by
      refine touches_modifyGuard fun y hy => ?_
      cases hg.symm.trans hy
      simp [Guard.gist, Gist.clear, Source.interrupt, Queue.interrupt, Queue.ids, Source.isInterrupted]
    simp only [interrupt, hg]
    refine ht.trans ?_
    split
    · exact Alike.refl _
    · exact alike_log _ _ _

/-- A worker that looks at its source takes the first handle in it, or nothing that matters. -/
theorem pollNext_cases (s : Store) (g : GuardId) :
    (∃ id x rest, (s.pollNext g).2 = .item (.reclaim id) ∧ s.gist? g = some x ∧
      x.waiting = id :: rest ∧ x.interrupted = false ∧
      Touches s (s.pollNext g).1 g Gist.next) ∨
    ((∀ id, (s.pollNext g).2 ≠ .item (.reclaim id)) ∧ Alike s (s.pollNext g).1) := by
  cases hg : s.guard? g with
  | none =>
    right
    have : s.pollNext g = (s, .wait) := by simp [pollNext, hg]
    rw [this]
    exact ⟨by simp, Alike.refl s⟩
  | some x =>
    obtain ⟨id, rest, hq, hi, hp⟩ | ⟨hp, hsame⟩ := x.source.poll_cases
    · left
      refine ⟨id, x.gist, rest.filterMap Item.id?, by simp [pollNext, hg, hp], by simp [gist?, hg],
        by simp [Guard.gist, Queue.ids, hq, Item.id?], hi, ?_⟩
      simp only [pollNext, hg, hp, modifySource]
      refine touches_modifyGuard fun y hy => ?_
      cases hg.symm.trans hy
      simp [Guard.gist, Gist.next, Queue.ids, hq, Item.id?, Source.isInterrupted]
    · right
      have hs := alike_modifySource hg hsame.1 hsame.2.1 hsame.2.2.1 hsame.2.2.2
      simp only [pollNext, hg]
      split
      · next ack hack => exact ⟨by simp [hack], hs.trans (alike_closeAck _ _)⟩
      · exact ⟨hp, hs⟩

theorem thrownAway_eq {s : Store} {g : GuardId} :
    s.thrownAway g = ((s.gist? g).map Gist.waiting |>.getD []).map fun id => (id, .thrown g) := by
  unfold thrownAway gist?
  cases s.guard? g <;> rfl

theorem gist?_addGuard (s : Store) (config : Config) (source : Source) (worker : ThreadId)
    (g : GuardId) :
    (s.addGuard config source worker).1.gist? g =
      if g = s.guards.size then some (Guard.gist { config, worker, source }) else s.gist? g := by
  simp only [addGuard, gist?, guard?, Array.getElem?_push]
  split <;> rfl

/-- A fresh source of any kind is empty and not interrupted, and refuses only within reach. -/
theorem gist_source (kind : SourceKind) (panicsAt : Option Nat) :
    (kind.source panicsAt).queue.ids = [] ∧ (kind.source panicsAt).isInterrupted = false ∧
      ((kind.source panicsAt).refuses = true → (kind.source panicsAt).gate.isSome = true) := by
  cases kind <;> simp [SourceKind.source, Source.plain, Queue.ids, Source.isInterrupted]

/-! ## Actions on one handle -/

theorem resource?_allocate (s : Store) (g : GuardId) (r : Registration Command) (f : ReleaseFn)
    (id : HandleId) :
    (s.allocate g r f).1.resource? id =
      if id = (s.allocate g r f).2 then
        some { guard := g, address := r.address, label := r.label, callback := f }
      else s.resource? id := by
  simp only [allocate, resource?]
  by_cases h0 : id.number = 0
  · have : id ≠ ⟨s.entries.size + 1⟩ := by
      rintro rfl
      simp at h0
    simp [h0, this]
  · by_cases h : id = ⟨s.entries.size + 1⟩
    · subst h
      simp
    · have hne : id.number - 1 ≠ s.entries.size := by
        intro he
        apply h
        cases id
        simp only [HandleId.mk.injEq] at *
        omega
      simp [h0, h, Array.getElem?_push, hne]

theorem resource?_allocate_new (s : Store) (g : GuardId) (r : Registration Command) (f : ReleaseFn) :
    (s.allocate g r f).1.resource? (s.allocate g r f).2 =
      some { guard := g, address := r.address, label := r.label, callback := f } := by
  rw [resource?_allocate, if_pos rfl]

/-- A new handle's number has not been given before. -/
theorem resource?_allocate_self (s : Store) (g : GuardId) (r : Registration Command) (f : ReleaseFn) :
    s.resource? (s.allocate g r f).2 = none := by
  simp [allocate, resource?]

theorem claims_markReleased (s : Store) (g : GuardId) (id : HandleId) :
    Claims s ((s.markReleased id).untrack g id) g id := by
  have ha := amends_modifyEntry s id fun e => { e with state := .released }
  have ht := touches_untrack (s.markReleased id) g id
  refine ⟨ha.toQuiet.trans ht.toQuiet, fun id' => (ht.entry id').trans (ha.entry id'),
    fun g' => ?_⟩
  rw [ht.gist g', markReleased, ha.gist g']

/-- A call claims a handle that is active. -/
theorem retire_eq {s : Store} {id : HandleId} {e : Entry} (he : s.resource? id = some e)
    (hactive : e.state = .active) : s.retire id = ((s.markReleased id).untrack e.guard id, true) := by
  simp only [retire, he, hactive]

/-- A worker claims a handle that is active, if its guard keeps track of it. -/
theorem takeActive_eq {s : Store} {g : GuardId} {id : HandleId} {e : Entry} {x : Guard} (hx : s.guard? g = some x)
    (hlisted : x.registry.contains id = true) (he : s.resource? id = some e) (hactive : e.state = .active) :
    s.takeActive g id = ((s.markReleased id).untrack g id, true) := by
  simp only [takeActive, hx, hlisted, if_true, he, hactive]

/-- Claiming by a call: it wins exactly if the handle is active. -/
theorem retire_cases {s : Store} {id : HandleId} {e : Entry} (he : s.resource? id = some e) :
    (e.state = .active ∧ (s.retire id).2 = true ∧ Claims s (s.retire id).1 e.guard id) ∨
    (e.state = .released ∧ s.retire id = (s, false)) := by
  cases hs : e.state with
  | active =>
    rw [retire_eq he hs]
    exact Or.inl ⟨rfl, rfl, claims_markReleased s e.guard id⟩
  | released => exact Or.inr ⟨rfl, by simp [retire, he, hs]⟩

/-- Claiming by a worker: it wins exactly if its guard keeps track of the handle and the handle is
active. -/
theorem takeActive_cases {s : Store} {g : GuardId} {id : HandleId} {e : Entry}
    (he : s.resource? id = some e) :
    (∃ x, s.gist? g = some x ∧ id ∈ x.registry.ids ∧ e.state = .active ∧
      (s.takeActive g id).2 = true ∧ Claims s (s.takeActive g id).1 g id) ∨
    ((∀ x, s.gist? g = some x → id ∈ x.registry.ids → e.state = .released) ∧
      s.takeActive g id = (s, false)) := by
  cases hg : s.guard? g with
  | none => exact Or.inr ⟨by simp [gist?, hg], by simp [takeActive, hg]⟩
  | some x =>
    by_cases hc : x.registry.contains id = true
    · have hm : id ∈ x.gist.registry.ids := by simpa [Registry.contains, Guard.gist] using hc
      cases hs : e.state with
      | active =>
        rw [takeActive_eq hg hc he hs]
        exact Or.inl ⟨x.gist, by simp [gist?, hg], hm, rfl, rfl, claims_markReleased s g id⟩
      | released => exact Or.inr ⟨fun _ _ _ => rfl, by simp [takeActive, hg, hc, he, hs]⟩
    · have hm : id ∉ x.gist.registry.ids := by simpa [Registry.contains, Guard.gist] using hc
      refine Or.inr ⟨fun y hy hin => ?_, by simp [takeActive, hg, hc]⟩
      have hxy : x.gist = y := by simpa [gist?, hg] using hy
      exact absurd (hxy ▸ hin) hm

/-- A share is given up; with the last one, unless a release is under way, the handle is gone. -/
theorem dropShare_amends {s : Store} {id : HandleId} {e : Entry} (he : s.resource? id = some e) :
    (s.dropShare id).2 = (e.owners == 1 && e.users == 0) ∧
      Amends s (s.dropShare id).1 id fun e => { e with owners := e.owners - 1 } := by
  have : s.dropShare id = (s.modifyEntry id fun e => { e with owners := e.owners - 1 },
    e.owners == 1 && e.users == 0) := by simp only [dropShare, he]
  rw [this]
  exact ⟨rfl, amends_modifyEntry s id _⟩

/-- A release is over; with the last one, unless a share is held, the handle is gone. -/
theorem endUse_amends {s : Store} {id : HandleId} {e : Entry} (he : s.resource? id = some e) :
    (s.endUse id).2 = (e.users == 1 && e.owners == 0) ∧
      Amends s (s.endUse id).1 id fun e => { e with users := e.users - 1 } := by
  have : s.endUse id = (s.modifyEntry id fun e => { e with users := e.users - 1 },
    e.users == 1 && e.owners == 0) := by simp only [endUse, he]
  rw [this]
  exact ⟨rfl, amends_modifyEntry s id _⟩

end Store

end Reclaim

import Reclaim.Proofs.Answers
import Reclaim.Proofs.Membership
import Reclaim.Proofs.Once

/-!
# Flushes are barriers

A flush that answers yes finds everything done that the source had accepted before its request, and one
that answers no finds the source interrupted for good.

* `System.asked_after` : a flush that waits has put in its request;
* `System.Passed` : what a yes amounts to; `System.Shut` : what a no amounts to;
* `Progress.answer?` : the answer of a flush; `System.flush_barrier`.
-/

namespace Reclaim

/-! ## Where waiting flushes come from -/

/-- A new cell does not matter to a source. -/
theorem Store.enqueue_newAck (s : Store) (g : GuardId) (item : Item) :
    (s.newAck.1.enqueue g item).2 = (s.enqueue g item).2 := by
  have hguard : s.newAck.1.guard? g = s.guard? g := rfl
  unfold enqueue
  rw [hguard]
  split <;> rfl

/-- A flush waits for the answer to a request that it has just put in. -/
theorem Frame.Goes.waiting {s : Store} {frame : Frame} {p : Progress} (h : frame.Goes s p) {g : GuardId}
    {patience : Patience} {gate : GateUse} {k : Nat}
    (hin : .flush g patience gate (.waiting k) ∈ p.frames) :
    frame = .flush g patience gate .request ∧ p.spawned = [] ∧
      s.accepts g (.flush s.newAck.2) = [.accepted g (.flush k)] := by
  have hcalm : ∀ {x : Frame}, x.isCalm = true → .flush g patience gate (.waiting k) ≠ x := by
    rintro _ hx rfl
    cases hx
  cases h with
  | did | finish => cases hin
  | goto _ hy => exact absurd (List.mem_singleton.mp hin) (hcalm hy)
  | call _ _ hy hz | spawn _ _ _ hy hz =>
    rcases List.mem_pair.mp hin with heq | heq
    · exact absurd heq (hcalm hy)
    · exact absurd heq (hcalm hz)
  | begins | counts | interrupts | throws => simp [Progress.frames] at hin
  | checks hp => rcases hp with rfl | rfl <;> simp [Progress.frames] at hin
  | discards _ hy =>
    cases List.mem_singleton.mp hin
    cases hy
  | asks hput =>
    cases List.mem_singleton.mp hin
    rw [s.enqueue_newAck] at hput
    exact ⟨rfl, rfl, if_pos hput⟩

/-- A flush on top of a thread has been there before, or the thread has got there by an action. -/
theorem Thread.progress_flush {th : Thread} {frame x : Frame} {rest rest' : List Frame} {p : Progress}
    (hs : Stacked (frame :: rest)) {g : GuardId} {patience : Patience} {gate : GateUse}
    {point : FlushPoint} (hx : x = .flush g patience gate point)
    (h : (th.progress rest p).stack = x :: rest') : x ∈ p.frames := by
  cases p with
  | goto y =>
    cases h
    exact List.mem_cons_self
  | call y z =>
    cases h
    exact List.mem_cons_self
  | spawn name y z =>
    cases h
    exact List.mem_cons_of_mem _ List.mem_cons_self
  | finish o =>
    cases rest with
    | nil => cases h
    | cons y rest =>
      cases h
      have hcalm := (y.calm_receive o (hs.waits y rfl)).2.1
      rw [hx] at hcalm
      cases hcalm

theorem Progress.spawned_frames {p : Progress} {th : Thread} {x : Frame} {rest : List Frame}
    (hth : th ∈ p.spawned) (hstack : th.stack = x :: rest) : x ∈ p.frames := by
  cases p with
  | spawn name y z =>
    rw [List.mem_singleton.mp hth] at hstack
    cases hstack
    exact List.mem_cons_self
  | _ => cases hth

namespace System
variable {w : System} {t : ThreadId} {g : GuardId} {patience : Patience} {gate : GateUse} {k : Nat}

/-- A flush that waits on a thread has waited there before, or the thread has just put in its request. -/
theorem asked_occur (hw : w.Disciplined) (e : Event) {th : Thread} {rest : List Frame}
    (hth : (w.occur e).thread? t = some th)
    (hstack : th.stack = .flush g patience gate (.waiting k) :: rest) :
    (∃ th', w.thread? t = some th' ∧ th'.stack = .flush g patience gate (.waiting k) :: rest) ∨
      (e = .move (.act t) ∧ w.acting? t = some (.flush g patience gate .request) ∧
        w.deeds e = [.accepted g (.flush k)]) := by
  have hsame : (w.occur e).thread? t = w.thread? t →
      ∃ th', w.thread? t = some th' ∧ th'.stack = .flush g patience gate (.waiting k) :: rest :=
    fun heq => ⟨th, heq.symm.trans hth, hstack⟩
  cases e with
  | move m =>
    cases m with
    | act t' =>
      cases ht : w.acting? t' with
      | none => exact .inl (hsame (by rw [occur_not_acting ht]))
      | some frame =>
        obtain ⟨th', below, hth', hstack', -, hthread⟩ := thread?_act ht
        rw [occur_acting ht, hthread] at hth
        split at hth
        · next heq =>
          subst heq
          cases hth
          have hstacked : Stacked (frame :: below) := hstack' ▸ hw th' (thread?_mem hth')
          obtain ⟨rfl, -, haccepts⟩ := (frame.advance_goes t' w.threads.size w.store).waiting
            (Thread.progress_flush hstacked rfl hstack)
          refine .inr ⟨rfl, ht, ?_⟩
          simp only [deeds, ht]
          exact haccepts
        · split at hth
          · exact .inl ⟨th, hth, hstack⟩
          · have hin := Progress.spawned_frames (List.mem_of_getElem? hth) hstack
            obtain ⟨-, hspawn, -⟩ := (frame.advance_goes t' w.threads.size w.store).waiting hin
            rw [hspawn] at hth
            cases hth
    | expire t' =>
      simp only [occur] at hth
      cases hmove : w.move? (.expire t') with
      | none => exact .inl ⟨th, by simpa [hmove] using hth, hstack⟩
      | some w' =>
        obtain ⟨th', g', gate', ack, below, hth', hstack', -, rfl⟩ := expire_cases hmove
        rw [hmove, Option.getD_some] at hth
        simp only [thread?, Array.getElem?_modify] at hth
        split at hth
        · next heq =>
          subst heq
          obtain ⟨_, -, rfl⟩ := Option.map_eq_some_iff.mp hth
          have hstacked := hstack' ▸ hw th' (thread?_mem hth')
          cases Thread.progress_flush hstacked rfl hstack
        · exact .inl ⟨th, hth, hstack⟩
  | join name script =>
    have hpush : (w.occur (.join name script)).thread? t =
        if t = w.threads.size then some ⟨name, [.commands script []], none⟩ else w.thread? t :=
      Array.getElem?_push
    rw [hpush] at hth
    split at hth
    · cases hth
      cases hstack
    · exact .inl ⟨th, hth, hstack⟩
  | share id shares =>
    refine .inl (hsame ?_)
    simp only [occur]
    split <;> rfl
  | inject g id =>
    refine .inl (hsame ?_)
    simp only [occur]
    split <;> rfl

/-- A flush that waits on a thread has put in its request there. -/
theorem asked_after (hnone : ∀ t, w.thread? t = none) {h : History} (hm : w.Manned h) (es : List Event)
    {th : Thread} {rest : List Frame} (hth : (w.after es).thread? t = some th)
    (hstack : th.stack = .flush g patience gate (.waiting k) :: rest) :
    ∃ es₁ es₂, es = es₁ ++ .move (.act t) :: es₂ ∧
      (w.after es₁).acting? t = some (.flush g patience gate .request) ∧
      (w.after es₁).deeds (.move (.act t)) = [.accepted g (.flush k)] := by
  induction es using List.reverseRecOn generalizing th with
  | nil =>
    rw [after, hnone] at hth
    cases hth
  | append_singleton es e ih =>
    rw [after_snoc] at hth
    obtain ⟨th', hth', hstack'⟩ | ⟨rfl, hacting, hdeeds⟩ :=
      asked_occur (hm.after es).orderly.1 e hth hstack
    · obtain ⟨es₁, es₂, rfl, hacting, hdeeds⟩ := ih hth' hstack'
      exact ⟨es₁, es₂ ++ [e], by simp, hacting, hdeeds⟩
    · exact ⟨es, [], rfl, hacting, hdeeds⟩

/-! ## For good -/

/-- A prefix with an item in it has all that comes before. -/
theorem concat_prefix_of_mem {all pre post done : List Item} {item : Item}
    (hall : all = pre ++ item :: post) (hdone : done <+: all) (hin : item ∈ done) (hfirst : item ∉ pre) :
    pre ++ [item] <+: done := by
  have hpre : pre ++ [item] <+: all := ⟨post, by simp [hall]⟩
  rcases List.prefix_or_prefix_of_prefix hpre hdone with h | h
  · exact h
  · rcases List.prefix_concat_iff.mp h with rfl | h
    · exact List.prefix_rfl
    · exact absurd (h.subset hin) hfirst

section Continues
variable {h : History} {a : Site} (hm : w.Manned h) (ha : w.site? g = some a)
include hm ha

/-- An interrupted source hands nothing out any more. -/
theorem Manned.silent (hint : a.source.isInterrupted = true) (es : List Event) :
    (w.trace es).delivered g = [] := by
  have hstays : ∃ a', (w.after es).site? g = some a' ∧ a'.source.isInterrupted = true ∧
      ((w.trace es).of g).outs = [] := by
    refine hm.site_continues (P := fun a _ tr => a.source.isInterrupted = true ∧ tr.outs = []) ha
      ⟨hint, rfl⟩ (fun h hs => ?_) (fun h => h) es
    obtain ⟨hint, houts⟩ := h
    refine ⟨hs.move.1.isInterrupted hint, ?_⟩
    rw [Trace.outs_append, houts, (hs.move.1.closed hint).2]
    rfl
  obtain ⟨-, -, -, houts⟩ := hstays
  exact houts

/-- What the worker is through with stays so. -/
theorem Manned.completed_continues (outs : List Item) (es : List Event) :
    ∃ a', (w.after es).site? g = some a' ∧
      a.stage.completed outs <+: a'.stage.completed (outs ++ (w.trace es).delivered g) := by
  refine hm.site_continues
    (P := fun a' _ tr => a.stage.completed outs <+: a'.stage.completed (outs ++ tr.outs)) ha ?_
    (fun h hs => ?_) (fun h => h) es
  · rw [show Trace.outs [] = [] from rfl, List.append_nil]
  · rw [Trace.outs_append, ← List.append_assoc]
    cases hs with
    | visit hv =>
      rw [hv.outs, List.append_nil]
      exact h
    | chore hc => exact h.trans (hc.completed _)

end Continues

/-! ## Answers -/

theorem site?_desk {a : Site} (ha : w.site? g = some a) : w.store.desk? g = some a.toDesk := by
  obtain ⟨d, hd, rfl⟩ := Option.map_eq_some_iff.mp ha
  exact hd

theorem site?_stakes {a : Site} (ha : w.site? g = some a) : a.stakes = w.tally (Frame.stakesAt g) := by
  obtain ⟨d, -, rfl⟩ := Option.map_eq_some_iff.mp ha
  rfl

/-- A flush on a thread waits at the site of its guard. -/
theorem waits_of_stack {a : Site} (ha : w.site? g = some a) {th : Thread} {rest : List Frame}
    (hth : w.thread? t = some th) (hstack : th.stack = .flush g patience gate (.waiting k) :: rest) :
    .answer k ∈ a.stakes := by
  rw [site?_stakes ha]
  exact mem_tally.mpr ⟨th, thread?_mem hth, _, by rw [hstack]; exact List.mem_cons_self,
    by simp [Frame.stakesAt]⟩

/-- What a guard is, by its site. -/
theorem guard?_site {a : Site} (ha : w.site? g = some a) :
    ∃ x, w.store.guard? g = some x ∧ x.state = a.state ∧ x.source = a.source := by
  obtain ⟨x, hx, hdesk⟩ := Store.guard_of_desk (site?_desk ha)
  exact ⟨x, hx, congrArg Desk.state hdesk, congrArg Desk.source hdesk⟩

/-- All of this has been handed to the worker of a guard, which is through with it, and the guard's
handles among it are released and out of the registry. -/
structure Through (w : System) (tr : Trace) (g : GuardId) (items : List Item) : Prop where
  completed : ∃ a, w.site? g = some a ∧ items <+: a.stage.completed (tr.delivered g)
  released : ∀ id e, .reclaim id ∈ items → w.store.resource? id = some e → e.guard = g →
    e.state = .released ∧ w.store.contains g id = false

/-- A thread has put in a request for a flush with this cell, and everything that the source had
accepted before is done with, for good. -/
def Passed (w : System) (es : List Event) (t : ThreadId) (g : GuardId) (patience : Patience)
    (gate : GateUse) (k : Nat) : Prop :=
  ∃ es₁ es₂, es = es₁ ++ .move (.act t) :: es₂ ∧
    (w.after es₁).acting? t = some (.flush g patience gate .request) ∧
    (w.after es₁).deeds (.move (.act t)) = [.accepted g (.flush k)] ∧
    ∀ es', Through (w.after (es ++ es')) (w.trace (es ++ es')) g ((w.trace es₁).accepted g ++ [.flush k])

/-- The source of a guard is interrupted, nothing is pending there, and nothing will be handed out any
more. -/
structure Shut (w : System) (es : List Event) (g : GuardId) : Prop where
  interrupted : ∃ a, (w.after es).site? g = some a ∧ a.source.isInterrupted = true ∧ a.source.pending = 0
  silent : ∀ es', (w.trace (es ++ es')).delivered g = (w.trace es).delivered g

variable (probes : Array Probe) (environment : Environment) (output : Output) (es : List Event)

theorem shown_after {a : Site} (ha : ((boot probes environment output).after es).site? g = some a) :
    a.Shown (((boot probes environment output).trace es).of g) :=
  site_after (P := fun a _ tr => a.Shown tr) probes environment output es (fun h => .fresh h)
    (fun h hs => (h.step hs).1) (fun h => ⟨h.said, h.state, h.exit, h.closed, h.farewells⟩) ha

theorem claimed_after {a : Site} (ha : ((boot probes environment output).after es).site? g = some a) :
    a.Claimed g ((boot probes environment output).history es)
      (((boot probes environment output).trace es).of g) :=
  site_after (P := fun a h tr => a.Claimed g h tr) probes environment output es (fun h => .fresh h)
    (fun h hs => h.step hs)
    (fun h => ⟨⟨h.queued.books, h.queued.hand, h.queued.busy⟩, fun id hin =>
      (h.tried id hin).imp fun _ => List.mem_append_left _⟩) ha

/-- A source that is interrupted is shut. -/
theorem shut_after {a : Site} (ha : ((boot probes environment output).after es).site? g = some a)
    (hint : a.source.isInterrupted = true) : (boot probes environment output).Shut es g := by
  have hqueued := (claimed_after probes environment output es ha).queued
  refine ⟨⟨a, ha, hint, ?_⟩, fun es' => ?_⟩
  · rw [Source.pending, Queue.pending, hqueued.books.closed hint, List.length_nil]
  · rw [trace_append, Trace.delivered_append,
      (manned_after probes environment output es).silent ha hint es', List.append_nil]

/-- What the worker of a guard is through with is released. -/
theorem through_after {a : Site} (ha : ((boot probes environment output).after es).site? g = some a)
    {items : List Item}
    (hitems : items <+: a.stage.completed (((boot probes environment output).trace es).delivered g)) :
    Through ((boot probes environment output).after es) ((boot probes environment output).trace es) g
      items := by
  refine ⟨⟨a, ha, hitems⟩, fun id e hin he hg => ?_⟩
  have hw := orderly_after probes environment output es
  have hr := regular_after probes environment output es
  obtain ⟨won, hclaim⟩ := (claimed_after probes environment output es ha).tried id
    ((hitems.trans (a.stage.completed_prefix_tried _)).subset hin)
  obtain ⟨x, hx⟩ := hw.2.entries id e he
  subst hg
  have hreleased : e.state = .released := by
    rcases hr.claims he hx with ⟨-, hnone⟩ | ⟨hreleased, -⟩
    · have hmark : .claimed (.reclaim e.guard) won ∈ History.of _ e.guard id :=
        List.mem_map.mpr ⟨_, List.mem_filter.mpr ⟨hclaim, by simp [Mark.Concerns]⟩, rfl⟩
      have hin : won ∈ History.claims _ e.guard id := List.mem_filterMap.mpr ⟨_, hmark, rfl⟩
      rw [hnone] at hin
      cases hin
    · exact hreleased
  refine ⟨hreleased, Bool.eq_false_iff.mpr fun hcontains => ?_⟩
  obtain ⟨guard, hguard, rfl⟩ := Option.map_eq_some_iff.mp hx
  have hin : id ∈ guard.registry.ids := by
    simpa [Store.contains, he, hguard, Registry.contains] using hcontains
  obtain ⟨e', he', -, hactive, -⟩ := (hw.mem_registry hr hx).mp hin
  cases he.symm.trans he'
  rw [hreleased] at hactive
  cases hactive

/-- Whatever was accepted before a request that the worker is through with, the worker is through with
that too, for good. -/
theorem passed_after {a : Site} (ha : ((boot probes environment output).after es).site? g = some a)
    (hswallows : a.source.swallowsFlushes = false)
    (ht : ((boot probes environment output).after es).acting? t =
      some (.flush g patience gate (.waiting k)))
    (hk : .flush k ∈ a.stage.completed (((boot probes environment output).trace es).delivered g)) :
    (boot probes environment output).Passed es t g patience gate k := by
  have hnone : ∀ t, (boot probes environment output).thread? t = none := fun t => by
    simp [boot, thread?]
  obtain ⟨th, rest, hth, hstack, -⟩ := thread?_act ht
  obtain ⟨es₁, es₂, rfl, hasked, hdeeds⟩ :=
    asked_after hnone (manned_boot probes environment output) es hth hstack
  refine ⟨es₁, es₂, rfl, hasked, hdeeds, fun es' => ?_⟩
  obtain ⟨hqueued, -, hdistinct, -⟩ := (answered_after probes environment output _).sites g a ha
  obtain ⟨a', ha', hcontinues⟩ :=
    (manned_after probes environment output _).completed_continues ha
      (((boot probes environment output).trace (es₁ ++ .move (.act t) :: es₂)).delivered g) es'
  rw [← after_append] at ha'
  rw [← Trace.delivered_append, ← trace_append] at hcontinues
  refine through_after probes environment output _ ha' (List.IsPrefix.trans ?_ hcontinues)
  have hsplit : ((boot probes environment output).trace (es₁ ++ .move (.act t) :: es₂)).accepted g =
      ((boot probes environment output).trace es₁).accepted g ++ .flush k ::
        ((((boot probes environment output).after es₁).occur (.move (.act t))).trace es₂).accepted g := by
    rw [trace_append, Trace.accepted_append, trace, hdeeds, Trace.accepted_append]
    simp [Trace.accepted, Trace.of, Trace.ins, Deed.guard?, Deed.accepted?]
  have hdone := (a.stage.completed_prefix _).trans
    ((List.prefix_append _ _).trans (hqueued.books.order hswallows))
  refine concat_prefix_of_mem hsplit hdone hk fun hin => ?_
  rw [Trace.asks, ← Trace.accepted, hsplit, List.filterMap_append, List.filterMap_cons] at hdistinct
  exact (List.nodup_append.mp hdistinct).2.2 k (Item.mem_acks.mpr hin) k List.mem_cons_self rfl

end System

/-- The answer of a flush, if the progress gives it. -/
def Progress.answer? : Progress → Option Bool
  | .finish (.value (.flag b)) | .goto (.rest _ (.flag b)) => some b
  | _ => none

/-- The flush that a frame carries out, and how far it has come. -/
def Frame.flush? : Frame → Option (GuardId × Patience × GateUse × FlushPoint)
  | .flush g patience gate p => some (g, patience, gate, p)
  | _ => none

theorem Frame.of_flush? {frame : Option Frame} {g : GuardId} {patience : Patience} {gate : GateUse}
    {p : FlushPoint} (h : frame.bind flush? = some (g, patience, gate, p)) :
    frame = some (.flush g patience gate p) := by
  obtain ⟨x, rfl, hx⟩ := Option.bind_eq_some_iff.mp h
  cases x <;> cases hx
  rfl

namespace FlushPoint
variable {s : Store} {g : GuardId} {patience : Patience} {gate : GateUse}

/-- A flush answers before it waits only if the worker has stopped, the source is interrupted, or the
source hands the request back; then the answer is no. -/
theorem answer_eq_some {p : FlushPoint} {d : Desk} (hd : s.desk? g = some d) {b : Bool}
    (h : (p.advance s g patience gate).2.answer? = some b) :
    (b = false ∧ (d.state = .stopped ∨ d.source.isInterrupted = true ∨ d.source.refuses = true)) ∨
      ∃ k, p = .waiting k ∧ b = (s.takeAck k).2.isSome := by
  obtain ⟨x, hx, rfl⟩ := Store.guard_of_desk hd
  cases p with
  | checkStopped =>
    simp only [advance, hx, Option.map_some] at h
    split at h
    · next hstate =>
      cases h
      exact .inl ⟨rfl, .inl (Option.some.inj hstate)⟩
    · cases h
  | checkInterrupted =>
    simp only [advance, hx, Option.map_some] at h
    split at h
    · next hint =>
      cases h
      exact .inl ⟨rfl, .inr (.inl (Option.some.inj hint))⟩
    · cases h
  | request =>
    simp only [advance] at h
    obtain ⟨source, -, htrue, -⟩ | ⟨hsource, heq⟩ := Store.sets_enqueue (s := s.newAck.1) hd
      (.flush s.newAck.2)
    · generalize s.newAck.1.enqueue g (.flush s.newAck.2) = r at h htrue
      obtain ⟨s', accepted⟩ := r
      obtain rfl : accepted = true := htrue
      cases h
    · rw [heq] at h
      cases h
      exact .inl ⟨rfl, .inr (Source.enqueue_eq_none hsource).symm⟩
  | waiting k =>
    refine .inr ⟨k, rfl, ?_⟩
    simp only [advance] at h
    split at h <;> exact (Option.some.inj h).symm

end FlushPoint

namespace System
variable {t : ThreadId} {g : GuardId} {patience : Patience} {gate : GateUse} {k : Nat}
variable (probes : Array Probe) (environment : Environment) (output : Output) (es : List Event)

/-- The answer that a flush waits for is a yes if the worker has come to its request, and a no if the
source was interrupted. -/
theorem answer_after {a : Site} (ha : ((boot probes environment output).after es).site? g = some a)
    (hswallows : a.source.swallowsFlushes = false)
    (ht : ((boot probes environment output).after es).acting? t =
      some (.flush g patience gate (.waiting k))) :
    if (((boot probes environment output).after es).store.takeAck k).2.isSome then
      (boot probes environment output).Passed es t g patience gate k
    else a.source.isInterrupted = true := by
  obtain ⟨th, rest, hth, hstack, -⟩ := thread?_act ht
  have hready := isReady_acting ht
  have hanswered := (answered_after probes environment output es).sites g a ha
  have hwaits := waits_of_stack ha hth hstack
  have hasked := hanswered.waits k hwaits
  obtain ⟨cell, hcell⟩ : ∃ cell, a.cells[k]? = some cell :=
    ⟨_, Array.getElem?_eq_getElem (hanswered.numbered k hasked)⟩
  have hstore : ((boot probes environment output).after es).store.acks[k]? = some cell := by
    rw [site?_cells ha, hcell]
  have htake : (((boot probes environment output).after es).store.takeAck k).2 = cell.take.2 := by
    rw [Store.takeAck, hstore]
  rw [htake]
  cases cell with
  | pending => simp [Frame.isReady, Store.isAckPending, hstore, Oneshot.isPending] at hready
  | ready value =>
    exact passed_after probes environment output es ha hswallows ht (hanswered.ready k hasked hcell)
  | consumed =>
    rcases hanswered.closed k hwaits hcell with h | h
    · rw [hswallows] at h
      cases h
    · exact h

/-- A flush whose patience has run out while nobody had answered its request, which was in the queue, in the
worker's hand, or in the hands of somebody who had interrupted the source and was about to destroy it. -/
structure TimedOut (w w' : System) (t : ThreadId) (a : Site) (k : Nat) : Prop where
  unanswered : a.cells[k]? = some .pending
  held : a.Holds k
  answers : ∃ th frame rest, w.thread? t = some th ∧ th.stack = frame :: rest ∧
    w'.thread? t = some (th.deliver (.flag false) rest)

/-- A flush is a barrier: at a guard whose source is a queue, which refuses nothing and swallows nothing,
a yes means that everything that the source had accepted before the request is done with, and a no that
the source is interrupted for good, or that a deadline has passed while the request was unanswered. -/
theorem flush_barrier {a : Site} (ha : ((boot probes environment output).after es).site? g = some a)
    (hrefuses : a.source.refuses = false) (hswallows : a.source.swallowsFlushes = false) :
    (∀ p b, ((boot probes environment output).after es).acting? t = some (.flush g patience gate p) →
      (p.advance ((boot probes environment output).after es).store g patience gate).2.answer? = some b →
      if b then ∃ k, p = .waiting k ∧ (boot probes environment output).Passed es t g patience gate k
      else (boot probes environment output).Shut es g) ∧
    ∀ th rest k w', ((boot probes environment output).after es).thread? t = some th →
      th.stack = .flush g patience gate (.waiting k) :: rest →
      ((boot probes environment output).after es).move? (.expire t) = some w' →
      TimedOut ((boot probes environment output).after es) w' t a k := by
  constructor
  · intro p b ht hb
    have hshut := shut_after probes environment output es ha
    obtain ⟨rfl, hcases⟩ | ⟨k, rfl, rfl⟩ := FlushPoint.answer_eq_some (site?_desk ha) hb
    · refine hshut ?_
      have hshown := shown_after probes environment output es ha
      rcases hcases with hstopped | hint | h
      · have hstate := hshown.state
        rw [show a.state = .stopped from hstopped] at hstate
        exact hshown.closed (by rw [Stage.states_eq_stopped hstate]; rfl)
      · exact hint
      · rw [hrefuses] at h
        cases h
    · have hanswer := answer_after probes environment output es ha hswallows ht
      split at hanswer
      · next hyes =>
        rw [if_pos hyes]
        exact ⟨k, rfl, hanswer⟩
      · next hno =>
        rw [if_neg hno]
        exact hshut hanswer
  · intro th rest k w' hth hstack hmove
    obtain ⟨th', g', gate', k', rest', hth', hstack', hpending, rfl⟩ := expire_cases hmove
    cases hth.symm.trans hth'
    obtain ⟨⟨rfl, -, rfl, ⟨rfl⟩⟩, rfl⟩ := by simpa using hstack.symm.trans hstack'
    have hanswered := (answered_after probes environment output es).sites g a ha
    have hwaits := waits_of_stack ha hth hstack
    have hcell : a.cells[k]? = some .pending := by
      rw [← site?_cells ha]
      unfold Store.isAckPending at hpending
      split at hpending
      · next cell hcell =>
        cases cell <;> first | exact hcell | cases hpending
      · cases hpending
    refine ⟨hcell, hanswered.held k (hanswered.waits k hwaits) hcell, th, _, rest, hth, hstack, ?_⟩
    simp only [thread?, Array.getElem?_modify, if_pos] at hth ⊢
    rw [hth]
    rfl

/-- A handle is dropped and its guard flushed; then the guard is shut down and flushed again. -/
def flushing (rounds : Nat) : List Event :=
  .join .caller
      [.startGuard "g" {} .plain none,
        .register (.guard "g") "x" { address := 7, callback := some {} }, .drop "x",
        .flush "g" .deadline .opens, .shutdown "g", .flush "g" .deadline .opens] ::
    (List.replicate rounds [.move (.act 0), .move (.act 1)]).flatten

theorem flush_barrier_flushing :
    (∃ k, (boot #[] none {}).Passed (flushing 22) 0 0 .deadline .opens k) ∧
      (boot #[] none {}).Shut (flushing 31) 0 ∧
      ∃ w' a k, ((boot #[] none {}).after (flushing 18)).move? (.expire 0) = some w' ∧
        TimedOut ((boot #[] none {}).after (flushing 18)) w' 0 a k := by
  have hsite : ∀ rounds ∈ [18, 22, 31], ∃ a, ((boot #[] none {}).after (flushing rounds)).site? 0 =
      some a ∧ a.source.refuses = false ∧ a.source.swallowsFlushes = false := by
    intro rounds hin
    have hrun : ∀ rounds ∈ [18, 22, 31], (((boot #[] none {}).after (flushing rounds)).site? 0).map
        (fun a => (a.source.refuses, a.source.swallowsFlushes)) = some (false, false) := by
      decide +kernel
    obtain ⟨a, ha, heq⟩ := Option.map_eq_some_iff.mp (hrun rounds hin)
    exact ⟨a, ha, Prod.mk.inj heq⟩
  have hyes : (((boot #[] none {}).after (flushing 22)).acting? 0).bind Frame.flush? =
      some (0, .deadline, .opens, .waiting 0) := by decide +kernel
  have hno : (((boot #[] none {}).after (flushing 31)).acting? 0).bind Frame.flush? =
      some (0, .deadline, .opens, .checkStopped) := by decide +kernel
  have hlate : ((((boot #[] none {}).after (flushing 18)).thread? 0).bind (·.stack.head?)).bind
      Frame.flush? = some (0, .deadline, .opens, .waiting 0) := by decide +kernel
  refine ⟨?_, ?_, ?_⟩
  · obtain ⟨a, ha, hrefuses, hswallows⟩ := hsite 22 (by decide)
    obtain ⟨k, -, hpassed⟩ := (flush_barrier #[] none {} (flushing 22) ha hrefuses hswallows).1
      (.waiting 0) true (Frame.of_flush? hyes) (by decide +kernel)
    exact ⟨k, hpassed⟩
  · obtain ⟨a, ha, hrefuses, hswallows⟩ := hsite 31 (by decide)
    exact (flush_barrier #[] none {} (flushing 31) ha hrefuses hswallows).1 .checkStopped false
      (Frame.of_flush? hno) (by decide +kernel)
  · obtain ⟨a, ha, hrefuses, hswallows⟩ := hsite 18 (by decide)
    have hmove : (((boot #[] none {}).after (flushing 18)).move? (.expire 0)).isSome = true := by
      decide +kernel
    obtain ⟨w', hmove⟩ := Option.isSome_iff_exists.mp hmove
    obtain ⟨th, hth, hhead⟩ := Option.bind_eq_some_iff.mp (Frame.of_flush? hlate)
    obtain ⟨rest, hstack⟩ := List.head?_eq_some_iff.mp hhead
    exact ⟨w', a, 0, hmove, (flush_barrier #[] none {} (flushing 18) ha hrefuses hswallows).2
      th rest 0 w' hth hstack hmove⟩

end System

end Reclaim

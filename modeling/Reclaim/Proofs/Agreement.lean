import Reclaim.Proofs.Endings
import Reclaim.Proofs.Verdicts

/-!
# Programs come to one end

However the threads of programs over a guard take turns with each other and with the worker, once they have
ended and a flush has answered, the guard has counted the same, and for the handle in every place there is
the same verdict. Only the numbers that handles got can differ, and the order of what concerns different
handles.

* `System.Ready.atRest`, `System.Completes.atRest` : nothing is under way at the start and at the end;
* `Plan.End`, `System.Completes.end` : where programs have come to;
* `Plan.Matches` : a handle of one run and the one in the same place in another;
* `Plan.End.verdict_eq`, `Plan.End.length_eq` : their verdicts agree, and so do the sums over all handles;
* `Plan.Agree`, `System.schedules_agree` : everything agrees but the numbers of handles.
-/

namespace Reclaim

namespace System
variable {w : System} {h : History} {guard : String} {g : GuardId}

/-! ## Nothing is under way -/

theorem tally_spots (w : System) : w.tally Frame.spots = w.spots := rfl

/-- Nothing is under way before programs run. -/
theorem Ready.atRest (hr : w.Ready guard g) (hm : w.Manned h) : w.AtRest g where
  spots := by
    rw [← w.tally_spots]
    refine hr.tally_eq_zero fun p hp => ?_
    cases p <;> first | rfl | cases hp
  plain := fun x hx => by
    obtain ⟨y, hy, hplain⟩ := hr.plain
    obtain ⟨y', hy', rfl⟩ := Option.map_eq_some_iff.mp hx
    cases hy.symm.trans hy'
    exact ⟨Option.isSome_eq_false_iff.mpr (by rw [hplain.gate]; rfl), hplain.opened, hplain.quiet⟩
  idle := fun a ha id hitem => by
    obtain ⟨d, hd, rfl⟩ := Option.map_eq_some_iff.mp ha
    obtain ⟨th, hth, -⟩ := hm.staffed.posted g d hd
    rw [stageAt, hth] at hitem
    rcases hr.idle th (thread?_mem hth) with hstack | ⟨p, hstack, hp⟩ <;> rw [Option.bind_some, hstack] at hitem
    · cases hitem
    · cases p with
      | starting | calling | polling => cases hitem
      | _ => cases hp

/-- A worker that waits for a callback is waited for. -/
theorem not_running (probes : Array Probe) (environment : Environment) (output : Output) (es : List Event)
    {a : Site} (ha : ((boot probes environment output).after es).site? g = some a) (id : HandleId) :
    a.stage ≠ .point (.running id) :=
  site_after (P := fun a _ _ => a.stage ≠ .point (.running id)) probes environment output es
    (fun hfresh => by rw [hfresh.stage]; nofun)
    (fun {_ _ a _ _ _ _} hne hs => by
      cases hs with
      | visit => exact hne
      | chore hc =>
        generalize a.stage = stage at hc
        cases hc <;> nofun)
    (fun hne => hne) ha

end System

/-- A worker's frame says how far the worker has come. -/
theorem duty_of_worker {stack : List Frame} (hn : Nested stack) (hs : Stacked stack) {g : GuardId}
    {p : WorkerPoint} (hx : .worker g p ∈ stack) : ∃ stage, duty stack = some (g, stage) ∧
      (stage = .point p ∨ ∃ id, p = .running id ∧ stage.item? = some (.reclaim id)) := by
  match stack with
  | [x] =>
    obtain rfl := List.mem_singleton.mp hx
    exact ⟨.point p, rfl, .inl rfl⟩
  | [x, y] =>
    rcases List.mem_cons.mp hx with rfl | hy
    · exact absurd rfl (hn.1.1 g)
    · obtain rfl := List.mem_singleton.mp hy
      have hwaits := hs.waits _ rfl
      cases p with
      | running id =>
        refine ⟨_, duty_running x g id, .inr ⟨id, rfl, ?_⟩⟩
        split <;> rfl
      | _ => cases hwaits
  | x :: y :: z :: rest =>
    rcases List.mem_cons.mp hx with rfl | hx
    · exact absurd rfl (hn.1.1 g)
    · rw [duty_cons]
      exact duty_of_worker hn.2 hs.2 hx

namespace System
variable {w : System} {h : History} {guard : String} {g : GuardId}
variable (probes : Array Probe) (environment : Environment) (output : Output) (es : List Event)

/-- A worker that is at no handle keeps no handle busy. -/
theorem Still.worker (hstill : ((boot probes environment output).after es).Still g) {th : Thread}
    (hth : th ∈ ((boot probes environment output).after es).threads) {p : WorkerPoint}
    (hx : .worker g p ∈ th.stack) :
    (Frame.worker g p).spots = 0 ∧ (Frame.worker g p).awaits? = none := by
  have hm := manned_after probes environment output es
  obtain ⟨t, hlt, rfl⟩ := Array.mem_iff_getElem.mp hth
  have hthread : ((boot probes environment output).after es).thread? t = some _ := Array.getElem?_eq_getElem hlt
  obtain ⟨stage, hduty, hstage⟩ := duty_of_worker (hm.nested _ hth) (hm.orderly.1 _ hth) hx
  obtain ⟨d, hd, rfl⟩ := hm.staffed.employed t _ g stage hthread hduty
  have hsite := site?_eq hd
  rw [stageAt_eq hthread hduty] at hsite
  have hidle := hstill.idle _ hsite
  have hnot := not_running probes environment output es hsite
  rcases hstage with rfl | ⟨id, rfl, hitem⟩
  · cases p with
    | took item | processing item =>
      cases item with
      | reclaim id => exact absurd rfl (hidle id)
      | flush k => exact ⟨rfl, rfl⟩
    | reporting id | settling id => exact absurd rfl (hidle id)
    | running id => exact absurd rfl (hnot id)
    | _ => exact ⟨rfl, rfl⟩
  · exact absurd hitem (hidle id)

/-- When all is still, nothing is under way. -/
theorem Still.spots (hstill : ((boot probes environment output).after es).Still g)
    (htame : ∀ th ∈ ((boot probes environment output).after es).threads, ∀ x ∈ th.stack, x.Tame guard g) :
    ((boot probes environment output).after es).spots = 0 := by
  refine Multiset.eq_zero_of_forall_notMem fun y hy => ?_
  obtain ⟨th, hth, x, hx, hin⟩ := mem_spots.mp hy
  have hlate := hstill.late th hth x hx
  suffices hzero : x.spots = 0 by rw [hzero] at hin; exact Multiset.notMem_zero y hin
  cases x with
  | worker g' p =>
    obtain ⟨rfl, -⟩ := htame th hth _ hx
    exact (hstill.worker probes environment output es hth hx).1
  | callback id p =>
    -- whoever waits for the callback is no call, and no worker
    obtain ⟨z, hz, hawaits⟩ := ((orderly_after probes environment output es).1 th hth).awaited hx rfl
    cases z with
    | release id' p' => exact nomatch hstill.late th hth _ hz
    | worker g' p' =>
      obtain ⟨rfl, -⟩ := htame th hth _ hz
      rw [(hstill.worker probes environment output es hth hz).2] at hawaits
      cases hawaits
    | _ => cases hawaits
  | commands | give | flush | rest => rfl
  | _ => cases hlate

/-- A completed run ends at rest. -/
theorem Completes.atRest {ps : List (List Deal)} {c : Plan.Schedule}
    (hr : ((boot probes environment output).after es).Ready guard g)
    (hp : Plan.Apt ((boot probes environment output).after es).store ps)
    (hc : ((boot probes environment output).after es).Completes guard ps c) :
    ((boot probes environment output).after (es ++ c.events guard ps)).AtRest g := by
  have hm := manned_after probes environment output es
  have hstill := hc.still probes environment output es hr hp
  obtain ⟨hend, -⟩ := hc.closed hr hp hm.orderly (regular_after probes environment output es)
  rw [← after_append] at hend
  refine ⟨hstill.spots probes environment output _ hend.tame, fun x hx => ?_, hstill.idle⟩
  obtain ⟨y, hy, rfl⟩ := Option.map_eq_some_iff.mp hx
  obtain ⟨y', hy', hopen, -, hquiet⟩ := hend.opens
  cases hy.symm.trans hy'
  refine ⟨?_, hopen, hquiet⟩
  -- nobody makes a source accessible that was not
  obtain ⟨a, ha, hplain⟩ := hr.source_after hm (c.events guard ps)
  rw [← after_append] at ha
  obtain ⟨y'', hy'', -, hsource⟩ := guard?_site ha
  cases hy.symm.trans hy''
  change y.source.gate.isSome = false
  rw [hsource, hplain.gate]
  rfl

end System

/-! ## Where programs end -/

/-- Where programs that were started over a guard have come to in the end. -/
structure Plan.End (start : Store) (before : History) (done : Trace) (plan : List Deal) (g : GuardId)
    (w : System) (h : History) (tr : Trace) : Prop where
  orderly : w.Orderly h
  regular : w.Regular h
  adds : w.AddsUp h tr
  spots : w.spots = 0
  guard : ∃ x, w.store.guard? g = some x ∧ x.gist.Counts w.store g h ∧ tr.aborted g = 0 ∧
    x.stats.discarded = 0
  /-- Handles are there still, -/
  old : ∀ id e, start.resource? id = some e → ∃ e', w.store.resource? id = some e' ∧ e.Later e'
  /-- and what has a new name was registered by a program, under that name. -/
  new : ∀ name, start.names.handles.lookup name = none → ∀ id, w.store.names.handles.lookup name = some id →
    ¬start.Known id ∧ ∃ r, .register name r ∈ plan ∧ r.Made g w.store id
  enrolled : ∀ name r f, .register name r ∈ plan → r.check = .ok f →
    ∃ id, w.store.names.handles.lookup name = some id
  /-- Every handle is in a place, -/
  placed : ∀ id e, w.store.resource? id = some e →
    ∃ k : Place, k.Valid start ∧ k.find w.store.names.handles = some id
  /-- and in one only. -/
  distinct : ∀ k k' : Place, k.Valid start → k'.Valid start → ∀ id, k.find w.store.names.handles = some id →
    k'.find w.store.names.handles = some id → k = k'
  counts : ∀ k : Place, k.Valid start → ∀ id e, k.find w.store.names.handles = some id →
    w.store.resource? id = some e →
      e.owners = Plan.left start plan k ∧ h.tries id = Plan.tries start before.tries plan k
  rested : ∀ id e, w.store.resource? id = some e → e.guard = g → e.Rested id h 0 (w.store.begun.count id)
  becomes : ∀ id e, w.store.resource? id = some e → e.guard = g → e.Becomes id h tr (e.verdict id h tr)
  /-- What became of a handle that the worker has released was said before, or the callback has ended as
  it had to. -/
  endings : ∀ id e panic, w.store.resource? id = some e → e.guard = g → .ended (.reclaim g) id panic ∈ tr →
    (start.Known id ∧ (id, .claimed (.reclaim g) true) ∈ before ∧
        (tr.of g).about id = (done.of g).about id) ∨
      ((id, .claimed (.reclaim g) true) ∉ before ∧ panic = start.ending e)

namespace System
variable {w : System} {h : History} {guard : String} {g : GuardId} {ps : List (List Deal)} {c : Plan.Schedule}

/-- Callbacks that end while programs and the flush run end as they have to. -/
theorem Ready.endings (hr : w.Ready guard g) (hp : Plan.Apt w.store ps) (hw : w.Orderly h)
    (hrg : w.Regular h) {path : Path} {id : HandleId} {panic : Option Panic}
    (hin : .ended path id panic ∈ w.trace (c.events guard ps)) :
    ∃ e, (w.after (c.events guard ps)).store.resource? id = some e ∧ panic = w.store.ending e := by
  obtain ⟨-, -, htrace⟩ := w.after_joins guard ps
  obtain ⟨hjoined, hjoined'⟩ := sound_joins hw hrg guard ps
  -- no callback is under way when the programs start
  have hspares : (w.after (Plan.joins guard ps)).Spares :=
    hr.forall_joins (P := fun stack => ∀ x ∈ stack, x.Spared _) (List.forall_mem_nil _)
      (fun _ _ => List.forall_mem_singleton.mpr trivial) fun _ _ => List.forall_mem_singleton.mpr trivial
  obtain ⟨hspares, hprograms⟩ := (hr.accounts hp hw hrg).ended_after hp.distinct hp.free hw.known hjoined hjoined'
    hspares c.programs
  rw [← after_append] at hspares hprograms
  obtain ⟨hasked, -⟩ := hr.joined hp hw hrg c
  have hspares' : (w.after (c.asked guard ps)).Spares := by
    rw [Plan.Schedule.asked, after_snoc]
    exact forall_stack_join (P := fun stack => ∀ x ∈ stack, x.Spared _) hspares _ _
      (List.forall_mem_singleton.mpr trivial)
  obtain ⟨-, hflush⟩ := hasked.ended_after hp.distinct hp.free hw.known (hw.after _) (hrg.after hw _) hspares'
    c.flush
  rw [Plan.Schedule.events, trace_append, Plan.Schedule.asked, trace_snoc, Plan.Schedule.work, trace_append,
    htrace, List.nil_append] at hin
  rcases List.mem_append.mp hin with hin | hin
  · rcases List.mem_append.mp hin with hin | hin
    · obtain ⟨e, he, rfl⟩ := hprograms path id panic hin
      obtain ⟨e', he', hl⟩ := (extends_after (hw.after (c.work guard ps))
        ([.join .helper [.flush guard c.patience .opens]] ++ c.flush.map .move)).entry id e he
      rw [← after_append, ← List.append_assoc] at he'
      exact ⟨e', he', (Store.ending_later hl).symm⟩
    · cases hin
  · obtain ⟨e, he, rfl⟩ := hflush path id panic hin
    rw [← after_append] at he
    exact ⟨e, he, rfl⟩

theorem Late.tally_eq_zero (hl : w.Late) {α : Type} {f : Frame → Multiset α}
    (hf : ∀ x : Frame, x.isLate = true → f x = 0) : w.tally f = 0 := by
  refine Multiset.eq_zero_of_forall_notMem fun a ha => ?_
  obtain ⟨th, hth, x, hx, hin⟩ := mem_tally.mp ha
  rw [hf x (hl th hth x hx)] at hin
  exact Multiset.notMem_zero a hin

/-- When there are late frames only, programs have nothing left to do. -/
theorem Late.books (hl : w.Late) (h : History) : (w.books h).deals = 0 ∧ (w.books h).enrols = 0 := by
  refine ⟨hl.tally_eq_zero fun x hx => ?_, hl.tally_eq_zero fun x hx => ?_⟩ <;> cases x with
  | commands todo done =>
    have hnil : todo.filterMap Command.deal? = [] := List.isEmpty_iff.mp hx
    simp [Frame.deals, Frame.dealList, Frame.enrols, hnil]
  | register => cases hx
  | _ => rfl

end System

/-- A name that is given once stands for what it was given to. -/
theorem lookup_of_mem {β : Type} {name : String} {b : β} {xs : List (String × β)}
    (hnodup : (xs.map Prod.fst).Nodup) (hin : (name, b) ∈ xs) : xs.lookup name = some b := by
  induction xs with
  | nil => cases hin
  | cons x xs ih =>
    obtain ⟨name', b'⟩ := x
    obtain ⟨hnot, hnodup⟩ := List.nodup_cons.mp hnodup
    rw [Books.lookup_cons_eq]
    rcases List.mem_cons.mp hin with heq | hin
    · obtain ⟨rfl, rfl⟩ := Prod.mk.inj heq
      rw [if_pos rfl]
    · rw [if_neg fun heq => hnot (List.mem_map.mpr ⟨_, hin, heq⟩), ih hnodup hin]

/-- In balanced books every handle has its place, old ones and those that have a name. -/
theorem Books.Balanced.placed {start : Store} {first : HandleId → Nat} {plan : List Deal} {b : Books}
    (hb : b.Balanced start first plan) (hnodup : (plan.filterMap Deal.enrols?).Nodup)
    (hfree : ∀ name ∈ plan.filterMap Deal.enrols?, start.names.handles.lookup name = none)
    (hknown : ∀ name id, (name, id) ∈ start.names.handles → start.Known id) {id : HandleId}
    (hid : id ∈ b.names.map Prod.snd) : ∃ k : Place, k.Valid start ∧ k.find b.names = some id := by
  obtain ⟨⟨name, id⟩, hin, rfl⟩ := List.mem_map.mp hid
  obtain ⟨new, hnames, hle⟩ := hb.names
  rw [hnames] at hin ⊢
  rcases List.mem_append.mp hin with hin | hin
  · have hsub : ((new.map Prod.fst : List String) : Multiset String) ≤
        (plan.filterMap Deal.enrols? : List String) :=
      le_trans (Multiset.le_add_right _ _) hle
    have hnew : (new.map Prod.fst).Nodup :=
      Multiset.coe_nodup.mp (Multiset.nodup_of_le hsub (Multiset.coe_nodup.mpr hnodup))
    have hname : name ∈ plan.filterMap Deal.enrols? :=
      Multiset.mem_coe.mp (Multiset.mem_of_le hsub (Multiset.mem_coe.mpr (List.mem_map.mpr ⟨_, hin, rfl⟩)))
    refine ⟨.new name, hfree name hname, ?_⟩
    rw [Place.find, Books.lookup_append, lookup_of_mem hnew hin, Option.some_or]
  · exact ⟨.old id, hknown name id hin, rfl⟩

namespace System
variable {guard : String} {g : GuardId} {ps : List (List Deal)} {c : Plan.Schedule}
variable (probes : Array Probe) (environment : Environment) (output : Output) (es : List Event)
  (hr : ((boot probes environment output).after es).Ready guard g)
  (hp : Plan.Apt ((boot probes environment output).after es).store ps)
  (hc : ((boot probes environment output).after es).Completes guard ps c)
include hr hp hc

/-- What was said of a handle that the worker had released before is all that is said of it, and the
callbacks of others end as they have to. -/
theorem Completes.said {id : HandleId} {e : Entry} {panic : Option Panic}
    (he : ((boot probes environment output).after (es ++ c.events guard ps)).store.resource? id = some e)
    (hg : e.guard = g)
    (hin : .ended (.reclaim g) id panic ∈ (boot probes environment output).trace (es ++ c.events guard ps)) :
    (((boot probes environment output).after es).store.Known id ∧
        (id, .claimed (.reclaim g) true) ∈ (boot probes environment output).history es ∧
        (((boot probes environment output).trace (es ++ c.events guard ps)).of g).about id =
          (((boot probes environment output).trace es).of g).about id) ∨
      ((id, .claimed (.reclaim g) true) ∉ (boot probes environment output).history es ∧
        panic = ((boot probes environment output).after es).store.ending e) := by
  have hm := manned_after probes environment output es
  have hrg := regular_after probes environment output es
  by_cases hclaimed : (id, .claimed (.reclaim g) true) ∈ (boot probes environment output).history es
  · left
    obtain ⟨e₀, he₀, hg₀⟩ := hm.orderly.2.marks id _ hclaimed
    have hlater : (id, .claimed (.reclaim g) true) ∈
        (boot probes environment output).history (es ++ c.events guard ps) := by
      rw [history_append]
      exact List.mem_append_left _ hclaimed
    subst hg
    obtain ⟨p₀, hbefore, -⟩ := (becomes_after probes environment output es he₀
      (hg₀.symm ▸ hr.atRest hm)).of_claimed (hg₀.symm ▸ hclaimed)
    obtain ⟨p, hafter, -⟩ := (becomes_after probes environment output _ he
      (hc.atRest probes environment output es hr hp)).of_claimed hlater
    refine ⟨⟨e₀, he₀⟩, hclaimed, ?_⟩
    -- two diagnostics are all there can be, and there were two
    have hsaid := congrArg (fun v : Verdict => v.said.length) hbefore
    have hsaid' := congrArg (fun v : Verdict => v.said.length) hafter
    simp only [Entry.verdict, Verdict.reclaimed, List.length_cons, List.length_nil] at hsaid hsaid'
    rw [trace_append, Trace.of_append, Trace.about_append] at hsaid' ⊢
    rw [hg₀] at hsaid
    rw [List.length_append, hsaid] at hsaid'
    exact (List.append_right_eq_self.mpr (List.eq_nil_of_length_eq_zero (Nat.add_left_cancel hsaid')))
  · right
    refine ⟨hclaimed, ?_⟩
    rw [trace_append] at hin
    rcases List.mem_append.mp hin with hin | hin
    · exact absurd (ended_claimed probes environment output es hin) hclaimed
    · obtain ⟨e', he', heq⟩ := hr.endings hp hm.orderly hrg hin
      rw [← after_append] at he'
      cases he.symm.trans he'
      exact heq

theorem Completes.end : Plan.End ((boot probes environment output).after es).store
    ((boot probes environment output).history es) ((boot probes environment output).trace es) ps.flatten g
    ((boot probes environment output).after (es ++ c.events guard ps))
    ((boot probes environment output).history (es ++ c.events guard ps))
    ((boot probes environment output).trace (es ++ c.events guard ps)) := by
  have hm := manned_after probes environment output es
  have hw := orderly_after probes environment output (es ++ c.events guard ps)
  have hrg := regular_after probes environment output (es ++ c.events guard ps)
  have hadds := addsUp_after probes environment output (es ++ c.events guard ps)
  have hstill := hc.still probes environment output es hr hp
  have hrest := hc.atRest probes environment output es hr hp
  obtain ⟨hend, -⟩ := hc.closed hr hp hm.orderly (regular_after probes environment output es)
  rw [← after_append, ← history_append] at hend
  obtain ⟨hdeals, henrols⟩ := hstill.late.books
    ((boot probes environment output).history (es ++ c.events guard ps))
  have hrested : ∀ id e, ((boot probes environment output).after
      (es ++ c.events guard ps)).store.resource? id = some e → e.guard = g →
      e.Rested id ((boot probes environment output).history (es ++ c.events guard ps)) 0
        (((boot probes environment output).after (es ++ c.events guard ps)).store.begun.count id) := by
    rintro id e he rfl
    obtain ⟨x, hx⟩ := hw.2.entries id e he
    obtain ⟨a, -, hspeech⟩ := hrest.speech probes environment output _ hx
    have hrested := hrest.rested hrg he hx
      (untried_after probes environment output _ he hx (hrest.plain x hx).1)
      (hadds.never_aborted hspeech.rounds id)
    rwa [hstill.waiting x hx, List.count_nil] at hrested
  exact
    { orderly := hw
      regular := hrg
      adds := hadds
      spots := hrest.spots
      guard := by
        obtain ⟨x, hx, -⟩ := hend.opens
        have hgist : ((boot probes environment output).after (es ++ c.events guard ps)).store.gist? g =
            some x.gist := by
          rw [Store.gist?, hx]
          rfl
        obtain ⟨a, ha, hspeech⟩ := hrest.speech probes environment output _ hgist
        have hcounts := counts_after probes environment output _ hgist
        exact ⟨x, hx, hcounts, hspeech.rounds.aborted,
          (hw.losesNone hrg hgist hcounts (hrest.plain _ hgist).1).found.2⟩
      old := fun id e he => by
        have := (extends_after hm.orderly (c.events guard ps)).entry id e he
        rwa [← after_append] at this
      new := fun name hnone id hid =>
        ⟨hend.balanced.fresh name id hnone hid, hend.made name id hnone hid⟩
      enrolled := fun name r f hr hf => (hend.balanced.kept name r f hr hf).resolve_left fun hin => by
        rw [henrols] at hin
        exact Multiset.notMem_zero name hin
      placed := fun id e he => by
        obtain ⟨x, hx⟩ := hw.2.entries id e he
        have honce := (hrg id e x he hx).sound.once
        have hon : ∀ y : Spot, (((boot probes environment output).after (es ++ c.events guard ps)).life
            ((boot probes environment output).history (es ++ c.events guard ps)) id e x).on y = 0 := fun y => by
          rw [Life.on, life, Store.life, hrest.spots]
          exact Multiset.count_zero y
        rw [hon, hon, hon, zero_add, zero_add, zero_add] at honce
        refine hend.balanced.placed hp.distinct hp.free hm.orderly.known (List.count_pos_iff.mp ?_)
        exact Nat.lt_of_lt_of_eq Nat.zero_lt_one honce.symm
      distinct := fun k k' hk hk' id hid hid' => hend.balanced.find_inj hk hk' hid hid'
      counts := fun k hk id e hid he => by
        obtain ⟨howners, htries⟩ := hend.balanced.places k id hk hid
        simp only [System.books, he, Option.map_some, Option.some.injEq] at howners
        simp only [System.books, hrest.spots, Multiset.count_zero] at htries
        simp only [System.books] at hdeals
        rw [hdeals, Multiset.countP_zero] at howners htries
        exact ⟨howners, htries⟩
      rested := hrested
      becomes := fun id e he hg => becomes_after probes environment output _ he (hg ▸ hrest)
      endings := fun id e panic he hg hin => hc.said probes environment output es hr hp he hg hin }

end System

/-! ## Two ends -/

/-- The handle of one end is in the same place as that of another. -/
def Plan.Matches (start : Store) (w w' : System) (id id' : HandleId) : Prop :=
  ∃ k : Place, k.Valid start ∧ k.find w.store.names.handles = some id ∧
    k.find w'.store.names.handles = some id'

theorem Plan.Matches.symm {start : Store} {w w' : System} {id id' : HandleId} (h : Plan.Matches start w w' id id') :
    Plan.Matches start w' w id' id :=
  h.imp fun _ hk => ⟨hk.1, hk.2.2, hk.2.1⟩

/-- Lists whose elements are paired off, each pair in them equally often, are of one length. -/
theorem length_eq_of_pairs {α : Type} [DecidableEq α] {xs ys : List α} (R : α → α → Prop)
    (left : ∀ x ∈ xs, ∃ y ∈ ys, R x y) (right : ∀ y ∈ ys, ∃ x ∈ xs, R x y)
    (inj : ∀ x x' y, R x y → R x' y → x = x') (func : ∀ x y y', R x y → R x y' → y = y')
    (count : ∀ x ∈ xs, ∀ y, R x y → xs.count x = ys.count y) : xs.length = ys.length := by
  choose! f hf hR using left
  rw [← List.sum_toFinset_count_eq_length xs, ← List.sum_toFinset_count_eq_length ys]
  refine Finset.sum_nbij f (fun x hx => ?_) (fun x hx x' hx' heq => ?_) (fun y hy => ?_) fun x hx => ?_
  · exact List.mem_toFinset.mpr (hf x (List.mem_toFinset.mp hx))
  · have hx := hR x (List.mem_toFinset.mp hx)
    have hx' := hR x' (List.mem_toFinset.mp hx')
    rw [← heq] at hx'
    exact inj x x' _ hx hx'
  · obtain ⟨x, hx, hxy⟩ := right y (List.mem_toFinset.mp hy)
    exact ⟨x, List.mem_toFinset.mpr hx, func x _ _ (hR x hx) hxy⟩
  · exact count x (List.mem_toFinset.mp hx) _ (hR x (List.mem_toFinset.mp hx))

namespace Plan.End
variable {start : Store} {before : History} {done : Trace} {plan : List Deal} {g : GuardId}
  {w w' : System} {h h' : History} {tr tr' : Trace} {id id' : HandleId} {e e' : Entry}
  (a : Plan.End start before done plan g w h tr) (b : Plan.End start before done plan g w' h' tr')

/-- A place has one handle at the end. -/
theorem matches_unique (a : Plan.End start before done plan g w h tr) {id'' : HandleId}
    (hm : Plan.Matches start w w' id id') (hm' : Plan.Matches start w w' id id'') : id' = id'' := by
  obtain ⟨k, hk, hid, hid'⟩ := hm
  obtain ⟨k', hk', hid₁, hid''⟩ := hm'
  obtain rfl := a.distinct k k' hk hk' id hid hid₁
  exact Option.some.inj (hid'.symm.trans hid'')

/-- The verdict is a matter of how often it was tried to release the handle and of how many hold it. -/
theorem verdict_cases (a : Plan.End start before done plan g w h tr) (he : w.store.resource? id = some e)
    (hg : e.guard = g) :
    (h.tries id ≠ 0 ∧ e.verdict id h tr = .called (h.tries id)) ∨
    (h.tries id = 0 ∧ e.owners ≠ 0 ∧ e.verdict id h tr = .untouched) ∨
    (h.tries id = 0 ∧ e.owners = 0 ∧ ∃ panic, e.verdict id h tr = .reclaimed e panic ∧
      .ended (.reclaim g) id panic ∈ tr) := by
  have hrested := a.rested id e he hg
  have hbecomes := a.becomes id e he hg
  have hstate : (e.verdict id h tr).state = e.state := rfl
  generalize e.verdict id h tr = v at hbecomes hstate
  cases hbecomes with
  | untouched htries =>
    have hzero : e.state.claims = 0 := by rw [← hstate]; rfl
    exact .inr (.inl ⟨htries, (hrested.active hzero).2.resolve_right fun h => h rfl, rfl⟩)
  | called hclaimed =>
    have hpos := List.count_pos_iff.mpr hclaimed
    exact .inl ⟨by rw [History.tries]; omega, rfl⟩
  | reclaimed htries hclaimed panic hended =>
    obtain ⟨-, howners⟩ := hrested.reclaimed (List.count_pos_iff.mpr hclaimed).ne'
    exact .inr (.inr ⟨htries, howners, panic, rfl, hg ▸ hended⟩)

include a b

/-- A place that has a handle at one end has one at the other. -/
theorem matched (he : w.store.resource? id = some e) :
    ∃ id', Plan.Matches start w w' id id' := by
  obtain ⟨k, hk, hid⟩ := a.placed id e he
  cases k with
  | old id' => exact ⟨id', .old id', hk, hid, rfl⟩
  | new name =>
    obtain ⟨-, r, hr, f, -, hf, -⟩ := a.new name hk id hid
    obtain ⟨id', hid'⟩ := b.enrolled name r f hr hf
    exact ⟨id', .new name, hk, hid, hid'⟩

/-- The handles in a place are the same but for their numbers. -/
theorem entry (hnodup : (plan.filterMap Deal.enrols?).Nodup) (hm : Plan.Matches start w w' id id')
    (he : w.store.resource? id = some e) : ∃ e', w'.store.resource? id' = some e' ∧ e'.guard = e.guard ∧
      e'.address = e.address ∧ e'.label = e.label ∧ e'.callback = e.callback := by
  obtain ⟨k, hk, hid, hid'⟩ := hm
  cases k with
  | old id₀ =>
    cases hid
    cases hid'
    obtain ⟨e₀, he₀⟩ := hk
    obtain ⟨e₁, he₁, hl⟩ := a.old _ e₀ he₀
    cases he.symm.trans he₁
    obtain ⟨e', he', hl'⟩ := b.old _ e₀ he₀
    exact ⟨e', he', hl'.guard.trans hl.guard.symm, hl'.address.trans hl.address.symm,
      hl'.label.trans hl.label.symm, hl'.callback.trans hl.callback.symm⟩
  | new name =>
    obtain ⟨-, r, hr, f, e₁, hf, he₁, hg, haddress, hlabel, hcallback⟩ := a.new name hk id hid
    cases he.symm.trans he₁
    obtain ⟨-, r', hr', f', e', hf', he', hg', haddress', hlabel', hcallback'⟩ := b.new name hk id' hid'
    obtain rfl := Books.register_unique hnodup hr hr'
    cases hf.symm.trans hf'
    exact ⟨e', he', hg'.trans hg.symm, haddress'.trans haddress.symm, hlabel'.trans hlabel.symm,
      hcallback'.trans hcallback.symm⟩

/-- The worker says the same of the handles in a place that it has released. -/
theorem said_eq (hnodup : (plan.filterMap Deal.enrols?).Nodup) (hm : Plan.Matches start w w' id id')
    (he : w.store.resource? id = some e) (hg : e.guard = g) (he' : w'.store.resource? id' = some e')
    {panic panic' : Option Panic} (hv : e.verdict id h tr = .reclaimed e panic)
    (hv' : e'.verdict id' h' tr' = .reclaimed e' panic') (hin : .ended (.reclaim g) id panic ∈ tr)
    (hin' : .ended (.reclaim g) id' panic' ∈ tr') :
    (Verdict.reclaimed e panic).said = (Verdict.reclaimed e' panic').said := by
  obtain ⟨e₁, he₁, hg', haddress, hlabel, hcallback⟩ := a.entry b hnodup hm he
  cases he'.symm.trans he₁
  have hending : start.ending e' = start.ending e := by
    simp only [Store.ending, Store.tellProbe_eq, hcallback, haddress]
  have hword : panic = panic' → (Verdict.reclaimed e panic).said = (Verdict.reclaimed e' panic').said := by
    rintro rfl
    cases panic <;> simp only [Verdict.reclaimed, Entry.announcement, haddress, hlabel]
  obtain ⟨k, hk, hid, hid'⟩ := hm
  rcases a.endings id e panic he hg hin with ⟨hstart, hclaimed, habout⟩ | ⟨hclaimed, hpanic⟩ <;>
    rcases b.endings id' e' panic' he' (hg'.trans hg) hin' with
      ⟨hstart', hclaimed', habout'⟩ | ⟨hclaimed', hpanic'⟩
  · cases k with
    | old id₀ =>
      cases hid
      cases hid'
      rw [← hv, ← hv', Entry.verdict, Entry.verdict, hg', hg, habout, habout']
    | new name => exact absurd hstart (a.new name hk id hid).1
  · cases k with
    | old id₀ =>
      cases hid
      cases hid'
      exact absurd hclaimed hclaimed'
    | new name => exact absurd hstart (a.new name hk id hid).1
  · cases k with
    | old id₀ =>
      cases hid
      cases hid'
      exact absurd hclaimed' hclaimed
    | new name => exact absurd hstart' (b.new name hk id' hid').1
  · exact hword (by rw [hpanic, hpanic', hending])

/-- The verdicts on the handles in a place agree. -/
theorem verdict_eq (hnodup : (plan.filterMap Deal.enrols?).Nodup) (hm : Plan.Matches start w w' id id')
    (he : w.store.resource? id = some e) (hg : e.guard = g) (he' : w'.store.resource? id' = some e') :
    e.verdict id h tr = e'.verdict id' h' tr' := by
  obtain ⟨e₁, he₁, hg', -⟩ := a.entry b hnodup hm he
  cases he'.symm.trans he₁
  have hcounts : e'.owners = e.owners ∧ h'.tries id' = h.tries id := by
    obtain ⟨k, hk, hid, hid'⟩ := hm
    obtain ⟨howners, htries⟩ := a.counts k hk id e hid he
    obtain ⟨howners', htries'⟩ := b.counts k hk id' e' hid' he'
    exact ⟨howners'.trans howners.symm, htries'.trans htries.symm⟩
  have hcases := b.verdict_cases he' (hg'.trans hg)
  rw [hcounts.1, hcounts.2] at hcases
  rcases a.verdict_cases he hg with
      ⟨htries, hv⟩ | ⟨htries, howners, hv⟩ | ⟨htries, howners, panic, hv, hin⟩ <;>
    rcases hcases with ⟨htries', hv'⟩ | ⟨htries', howners', hv'⟩ | ⟨htries', howners', panic', hv', hin'⟩
  case inl.inl | inr.inl.inr.inl => rw [hv, hv']
  case inr.inr.inr.inr =>
    rw [hv, hv']
    exact Verdict.reclaimed_inj hg' (a.said_eq b hnodup hm he hg he' hv hv' hin hin')
  all_goals contradiction

/-- What the verdicts on all handles come to, each counted as often as its verdict says, is the same. -/
theorem length_eq (hnodup : (plan.filterMap Deal.enrols?).Nodup) {xs ys : List HandleId} (f : Verdict → Nat)
    (hxs : ∀ id ∈ xs, w.store.Owns g id) (hys : ∀ id ∈ ys, w'.store.Owns g id)
    (hf : ∀ id e, w.store.resource? id = some e → e.guard = g → xs.count id = f (e.verdict id h tr))
    (hf' : ∀ id e, w'.store.resource? id = some e → e.guard = g → ys.count id = f (e.verdict id h' tr')) :
    xs.length = ys.length := by
  have hcount : ∀ id id', Plan.Matches start w w' id id' → w.store.Owns g id → xs.count id = ys.count id' := by
    rintro id id' hm ⟨e, he, hg⟩
    obtain ⟨e', he', hg', -⟩ := a.entry b hnodup hm he
    rw [hf id e he hg, hf' id' e' he' (hg'.trans hg), a.verdict_eq b hnodup hm he hg he']
  refine length_eq_of_pairs (Plan.Matches start w w') (fun id hin => ?_) (fun id' hin => ?_)
    (fun id₁ id₂ id' hm hm' => b.matches_unique hm.symm hm'.symm) (fun id id₁ id₂ => a.matches_unique)
    fun id hin id' hm => hcount id id' hm (hxs id hin)
  · obtain ⟨e, he, hg⟩ := hxs id hin
    obtain ⟨id', hm⟩ := a.matched b he
    refine ⟨id', List.count_pos_iff.mp ?_, hm⟩
    rw [← hcount id id' hm ⟨e, he, hg⟩]
    exact List.count_pos_iff.mpr hin
  · obtain ⟨e', he', hg'⟩ := hys id' hin
    obtain ⟨id, hm⟩ := b.matched a he'
    obtain ⟨e, he, hg, -⟩ := b.entry a hnodup hm he'
    refine ⟨id, List.count_pos_iff.mp ?_, hm.symm⟩
    rw [hcount id id' hm.symm ⟨e, he, hg.trans hg'⟩]
    exact List.count_pos_iff.mpr hin

end Plan.End

attribute [ext] Stats

/-- At two ends everything agrees but the numbers of handles. -/
structure Plan.Agree (start : Store) (g : GuardId) (w : System) (h : History) (tr : Trace) (w' : System)
    (h' : History) (tr' : Trace) : Prop where
  /-- The guard keeps track of as many handles, and has counted the same. -/
  guard : ∃ x x', w.store.guard? g = some x ∧ w'.store.guard? g = some x' ∧
    x.registry.size = x'.registry.size ∧ x.stats = x'.stats
  /-- Every handle of the guard has one in the same place, with the same verdict. -/
  handles : ∀ id e, w.store.resource? id = some e → e.guard = g → ∃ id' e', Plan.Matches start w w' id id' ∧
    w'.store.resource? id' = some e' ∧ e'.guard = g ∧ e'.address = e.address ∧ e'.label = e.label ∧
    e'.verdict id' h' tr' = e.verdict id h tr
  /-- Handles in one place are one. -/
  places : ∀ id id' id'', Plan.Matches start w w' id id' → Plan.Matches start w w' id id'' → id' = id''

namespace Plan.End
variable {start : Store} {before : History} {done : Trace} {plan : List Deal} {g : GuardId}
  {w w' : System} {h h' : History} {tr tr' : Trace}

/-- Handles of a guard to which something has happened, as often as it has. -/
theorem length_owned (s : Store) (g : GuardId) (h : History) (m : Mark) :
    ((h.handles m).filter (s.owns g)).length = s.callsOf g h m := by
  rw [← List.countP_eq_length_filter, History.handles, List.countP_map, List.countP_filter, Store.callsOf]
  refine List.countP_congr fun y _ => ?_
  simp [and_comm]

/-- What a guard keeps track of at the end, by the verdict. -/
theorem count_registry (a : Plan.End start before done plan g w h tr) {x : Guard}
    (hx : w.store.guard? g = some x) {id : HandleId} {e : Entry} (he : w.store.resource? id = some e)
    (hg : e.guard = g) : x.registry.ids.count id = 1 - (e.verdict id h tr).state.claims := by
  subst hg
  obtain ⟨y, hy, hlisted⟩ := a.orderly.listed a.regular he
  rw [Store.gist?, hx] at hy
  cases hy
  rw [a.spots, Multiset.count_zero] at hlisted
  change x.registry.ids.count id + 0 + e.state.claims = 1 at hlisted
  change _ = 1 - e.state.claims
  omega

/-- The counters of a guard at the end, as numbers of handles. -/
theorem counters (a : Plan.End start before done plan g w h tr) : ∃ x, w.store.guard? g = some x ∧
    x.stats.released = ((h.handles (.returned true)).filter (w.store.owns g)).length ∧
    x.stats.reclaimed = (h.handles (.settled g false)).length ∧
    x.stats.releaseFailures = (h.handles (.settled g true)).length ∧ x.stats.discarded = 0 ∧
    x.stats.registered =
      x.registry.ids.length + x.stats.released + x.stats.reclaimed + x.stats.releaseFailures := by
  obtain ⟨x, hx, hcounts, haborted, hdiscarded⟩ := a.guard
  have hgist : w.store.gist? g = some x.gist := by rw [Store.gist?, hx]; rfl
  obtain ⟨hregistered, hreleased, hreturned, hserved, -⟩ := a.adds.adds g x.gist hgist
  rw [a.adds.aborted] at haborted
  simp only [a.spots, Store.lagging_zero, haborted] at hregistered hreleased hreturned hserved
  have hreclaimed := hcounts.reclaimed
  have hfailures := hcounts.failures
  change x.stats.registered + 0 = x.registry.ids.length + _ + _ at hregistered
  change x.stats.released + 0 = _ at hreleased
  change _ = 0 + 0 + x.stats.reclaimed + x.stats.releaseFailures + 0 at hserved
  refine ⟨x, hx, ?_, ?_, ?_, hdiscarded, by omega⟩
  · rw [length_owned]
    omega
  · rw [h.length_handles]
    exact hreclaimed
  · rw [h.length_handles]
    exact hfailures

theorem owns_of_settled (a : Plan.End start before done plan g w h tr) {failed : Bool} {id : HandleId}
    (hin : id ∈ h.handles (.settled g failed)) : w.store.Owns g id := by
  rw [← List.count_pos_iff, h.count_handles] at hin
  exact a.orderly.2.marks id _ (List.count_pos_iff.mp hin)

theorem owns_of_filter {s : Store} {ids : List HandleId} {id : HandleId} (hin : id ∈ ids.filter (s.owns g)) :
    s.Owns g id := by
  have howns := (List.mem_filter.mp hin).2
  unfold Store.owns at howns
  split at howns
  · next e he => exact ⟨e, he, beq_iff_eq.mp howns⟩
  · cases howns

theorem count_won (h : History) (tr : Trace) {id : HandleId} {e : Entry} (he : w.store.resource? id = some e)
    (hg : e.guard = g) :
    ((h.handles (.returned true)).filter (w.store.owns g)).count id = (e.verdict id h tr).won := by
  rw [List.count_filter (by rw [Store.owns_of_eq he, hg]; exact beq_self_eq_true g), h.count_handles]
  rfl

/-- At two ends of the same programs everything agrees but the numbers of handles. -/
theorem agree (a : Plan.End start before done plan g w h tr) (b : Plan.End start before done plan g w' h' tr')
    (hnodup : (plan.filterMap Deal.enrols?).Nodup) : Plan.Agree start g w h tr w' h' tr' := by
  obtain ⟨x, hx, hreleased, hreclaimed, hfailures, hdiscarded, hregistered⟩ := a.counters
  obtain ⟨x', hx', hreleased', hreclaimed', hfailures', hdiscarded', hregistered'⟩ := b.counters
  have hsize : x.registry.ids.length = x'.registry.ids.length :=
    a.length_eq b hnodup (fun v => 1 - v.state.claims)
      (fun id hin => a.orderly.2.listed g x.gist id (by rw [Store.gist?, hx]; rfl) hin)
      (fun id hin => b.orderly.2.listed g x'.gist id (by rw [Store.gist?, hx']; rfl) hin)
      (fun id e he hg => a.count_registry hx he hg) fun id e he hg => b.count_registry hx' he hg
  have hcalls : x.stats.released = x'.stats.released := by
    rw [hreleased, hreleased']
    exact a.length_eq b hnodup Verdict.won (fun _ => owns_of_filter) (fun _ => owns_of_filter)
      (fun _ _ => count_won h tr) fun _ _ => count_won h' tr'
  have hworker : x.stats.reclaimed = x'.stats.reclaimed := by
    rw [hreclaimed, hreclaimed']
    exact a.length_eq b hnodup Verdict.reclaims (fun _ => a.owns_of_settled) (fun _ => b.owns_of_settled)
      (fun id e _ hg => hg ▸ h.count_handles _ _) fun id e _ hg => hg ▸ h'.count_handles _ _
  have hfailed : x.stats.releaseFailures = x'.stats.releaseFailures := by
    rw [hfailures, hfailures']
    exact a.length_eq b hnodup Verdict.failures (fun _ => a.owns_of_settled) (fun _ => b.owns_of_settled)
      (fun id e _ hg => hg ▸ h.count_handles _ _) fun id e _ hg => hg ▸ h'.count_handles _ _
  refine ⟨⟨x, x', hx, hx', hsize, ?_⟩, fun id e he hg => ?_, fun id id₁ id₂ => a.matches_unique⟩
  · exact Stats.ext (by omega) hcalls hworker (hdiscarded.trans hdiscarded'.symm) hfailed
  · obtain ⟨id', hm⟩ := a.matched b he
    obtain ⟨e', he', hg', haddress, hlabel, -⟩ := a.entry b hnodup hm he
    exact ⟨id', e', hm, he', hg'.trans hg, haddress, hlabel, (a.verdict_eq b hnodup hm he hg he').symm⟩

end Plan.End

namespace System

/-- Two schedules of the same programs, on threads of their own that join a guard nobody else works at, come
to the same: once the programs have ended and a flush has answered, the guard keeps track of as many handles
and has counted the same, and every handle has met the same verdict as the one in its place in the other run,
and the other way round. -/
theorem schedules_agree (probes : Array Probe) (environment : Environment) (output : Output)
    (es : List Event) {guard : String} {g : GuardId} {ps : List (List Deal)} {c c' : Plan.Schedule}
    (hr : ((boot probes environment output).after es).Ready guard g)
    (hp : Plan.Apt ((boot probes environment output).after es).store ps)
    (hc : ((boot probes environment output).after es).Completes guard ps c)
    (hc' : ((boot probes environment output).after es).Completes guard ps c') :
    Plan.Agree ((boot probes environment output).after es).store g
        ((boot probes environment output).after (es ++ c.events guard ps))
        ((boot probes environment output).history (es ++ c.events guard ps))
        ((boot probes environment output).trace (es ++ c.events guard ps))
        ((boot probes environment output).after (es ++ c'.events guard ps))
        ((boot probes environment output).history (es ++ c'.events guard ps))
        ((boot probes environment output).trace (es ++ c'.events guard ps)) ∧
      Plan.Agree ((boot probes environment output).after es).store g
        ((boot probes environment output).after (es ++ c'.events guard ps))
        ((boot probes environment output).history (es ++ c'.events guard ps))
        ((boot probes environment output).trace (es ++ c'.events guard ps))
        ((boot probes environment output).after (es ++ c.events guard ps))
        ((boot probes environment output).history (es ++ c.events guard ps))
        ((boot probes environment output).trace (es ++ c.events guard ps)) := by
  have hend := hc.end probes environment output es hr hp
  have hend' := hc'.end probes environment output es hr hp
  exact ⟨hend.agree hend' hp.distinct, hend'.agree hend hp.distinct⟩

/-- Whether a schedule has run to its end can be seen from the threads. -/
theorem completes_of_threads {w : System} {guard : String} {ps : List (List Deal)} {c : Plan.Schedule}
    (hended : ((w.after (c.work guard ps)).threads.toList.drop w.threads.size).all
      (fun th => th.stack.isEmpty) = true)
    (hflushed : ((w.after (c.events guard ps)).thread? (w.threads.size + ps.length)).map Thread.outcome =
      some (some (.did [.flag true]))) : w.Completes guard ps c where
  ended := fun t th hle hth => by
    have hin : th ∈ (w.after (c.work guard ps)).threads.toList.drop w.threads.size := by
      refine List.mem_iff_getElem?.mpr ⟨t - w.threads.size, ?_⟩
      rw [List.getElem?_drop, Nat.add_sub_cancel' hle, Array.getElem?_toList]
      exact hth
    exact List.isEmpty_iff.mp (List.all_eq_true.mp hended th hin)
  flushed := Option.map_eq_some_iff.mp hflushed

/-- Whether programs can start over a guard can be seen from the guard, the handles and the threads. -/
theorem ready_of_checks {w : System} {guard : String} {g : GuardId} (sink : Sink)
    (hnamed : w.store.guardNamed guard = .ok g) (hquiet : ∀ told d, sink.panicsAt told d = false)
    (hsink : (w.site? g).map (fun a => a.config.sink) = some sink)
    (hguard : (w.store.guard? g).map (fun x => (x.source.gate, x.source.refuses, x.source.swallowsFlushes,
      x.source.panicsAt, x.source.isInterrupted)) = some (none, false, false, none, false))
    (hcalm : w.store.entries.toList.all (fun e => e.callback.isQuiet) = true)
    (hidle : w.threads.toList.all (fun th => th.stack.isEmpty ||
      (th.stack.length == 1 && duty th.stack == some (g, .point .polling))) = true) : w.Ready guard g where
  named := hnamed
  plain := by
    obtain ⟨x, hx, heq⟩ := Option.map_eq_some_iff.mp hguard
    simp only [Prod.mk.injEq] at heq
    obtain ⟨hgate, hrefuses, hswallows, hpanics, hopened⟩ := heq
    obtain ⟨a, ha, hdesk⟩ := site_of_guard hx
    rw [ha, Option.map_some, congrArg Desk.config hdesk] at hsink
    obtain rfl := Option.some.inj hsink
    exact ⟨x, hx, hgate, hrefuses, hswallows, hpanics, hopened, hquiet⟩
  calm := fun id e he => by
    unfold Store.resource? at he
    split at he
    · cases he
    · exact List.all_eq_true.mp hcalm e (Array.mem_def.mp (Array.mem_of_getElem? he))
  idle := fun th hth => by
    have hth := List.all_eq_true.mp hidle th (Array.mem_def.mp hth)
    rcases Bool.or_eq_true_iff.mp hth with hempty | hth
    · exact .inl (List.isEmpty_iff.mp hempty)
    · obtain ⟨hlength, hduty⟩ := Bool.and_eq_true_iff.mp hth
      obtain ⟨x, hstack⟩ := List.length_eq_one_iff.mp (beq_iff_eq.mp hlength)
      rw [hstack] at hduty ⊢
      cases x with
      | worker g' p =>
        obtain ⟨rfl, hp⟩ := Prod.mk.inj (Option.some.inj (beq_iff_eq.mp hduty))
        obtain rfl := Stage.point.inj hp
        exact .inr ⟨.polling, rfl, rfl⟩
      | _ => cases hduty

/-- A guard has two handles; the first is held twice. -/
def contending : List Event :=
  .join .caller
      [.startGuard "g" {} .plain none,
        .register (.guard "g") "a" { address := 1, callback := some {} },
        .register (.guard "g") "b" { address := 2, callback := some { panic := some .other } }] ::
    (List.replicate 16 (.move (.act 0)) ++ List.replicate 3 (.move (.act 1)) ++ [.share ⟨1⟩ 1])

/-- Two programs release and drop the first; one releases its own handle, whose callback panics, the other
drops its own, and the second of the guard. -/
def contenders : List (List Deal) :=
  [[.register "x" { address := 3, callback := some { panic := some .other } }, .release "a" false, .drop "a",
      .release "x" true],
    [.register "y" { address := 4, callback := some {} }, .release "a" true, .drop "a", .drop "b", .drop "y"]]

/-- The first program runs before the second, and only then the worker. -/
def oneByOne : Plan.Schedule where
  programs := List.replicate 26 (.act 2) ++ List.replicate 26 (.act 3)
  patience := .unlimited
  flush := List.replicate 6 (.act 4) ++ List.replicate 30 (.act 1) ++ List.replicate 3 (.act 4)

/-- The programs and the worker take turns. -/
def takingTurns : Plan.Schedule where
  programs := (List.replicate 40 [.act 3, .act 1, .act 2]).flatten
  patience := .unlimited
  flush := List.replicate 6 (.act 4) ++ List.replicate 30 (.act 1) ++ List.replicate 3 (.act 4)

theorem ready_contending : ((boot #[] none {}).after contending).Ready "g" 0 :=
  ready_of_checks (Setup.recorder {} "g") (by decide +kernel) (fun _ _ => rfl) (sink_stays 4 rfl)
    (by decide +kernel) (by decide +kernel) (by decide +kernel)

theorem apt_contenders : Plan.Apt ((boot #[] none {}).after contending).store contenders := by
  have hnames : ((boot #[] none {}).after contending).store.names.handles = [("b", ⟨2⟩), ("a", ⟨1⟩)] := by
    decide +kernel
  have hentries : ((boot #[] none {}).after contending).store.entries.toList.map Entry.owners = [2, 1] := by
    decide +kernel
  generalize ((boot #[] none {}).after contending).store = s at hnames hentries
  have hplaces : s.place "a" = .old ⟨1⟩ ∧ s.place "b" = .old ⟨2⟩ ∧ s.place "x" = .new "x" ∧
      s.place "y" = .new "y" := by
    refine ⟨?_, ?_, ?_, ?_⟩ <;> rw [Store.place, hnames] <;> rfl
  obtain ⟨ha, hb, hx, hy⟩ := hplaces
  have howners : ∀ i, (s.resource? ⟨i + 1⟩).map Entry.owners = ([2, 1] : List Nat)[i]? := fun i => by
    rw [← hentries, List.getElem?_map, Array.getElem?_toList]
    rfl
  have hdrops : ∀ k, (contenders.flatten : Multiset Deal).countP (Deal.drops s k) =
      (if .new "y" = k then 1 else 0) + (if .old ⟨2⟩ = k then 1 else 0) + (if .old ⟨1⟩ = k then 1 else 0) +
        if .old ⟨1⟩ = k then 1 else 0 := fun k => by
    simp only [contenders, List.flatten_cons, List.flatten_nil, List.append_nil, List.cons_append,
      List.nil_append, ← Multiset.cons_coe, Deal.countP_drops_register, Deal.countP_drops_release,
      Deal.countP_drops_drop, Multiset.coe_nil, Multiset.countP_zero, ha, hb, hy, zero_add]
  have hshares : ∀ k, k.Valid s →
      (contenders.flatten : Multiset Deal).countP (Deal.drops s k) ≤ k.shares s := by
    intro k hk
    rw [hdrops]
    cases k with
    | new name =>
      simp only [Place.shares, reduceCtorEq, if_false, add_zero]
      split <;> omega
    | old id =>
      obtain ⟨n⟩ := id
      rcases n with _ | _ | _ | n
      · simp
      · rw [Place.shares, howners 0]; decide
      · rw [Place.shares, howners 1]; decide
      · simp
  have hkeeps : Plan.Keeps s contenders.flatten "x" := by
    rw [Plan.Keeps, Plan.left, hx, hdrops]
    simp [Place.shares]
  have hknown : s.Knows "a" ∧ s.Knows "b" := by
    rw [Store.Knows, Store.Knows, hnames]
    exact ⟨⟨⟨1⟩, rfl⟩, ⟨2⟩, rfl⟩
  exact
    { distinct := by decide
      free := by
        rw [hnames]
        decide
      quiet := by decide
      shares := hshares
      fits := by
        simp only [contenders, List.forall_mem_cons, Program.Fits]
        refine ⟨⟨.inr hknown.1, .inl List.mem_cons_self, .inr hknown.1, ?_, .inr hkeeps, trivial⟩,
          ⟨.inr hknown.1, .inl List.mem_cons_self, .inr hknown.1, .inr hknown.2, ?_, trivial⟩,
          List.forall_mem_nil _⟩
        all_goals exact .inl ⟨trivial, _, rfl⟩ }

/-- So it is for two schedules of two programs, in which the new handles get each other's numbers. -/
theorem schedules_agree_contending :
    (((boot #[] none {}).after (contending ++ oneByOne.events "g" contenders)).store.names.handles =
        [("y", ⟨4⟩), ("x", ⟨3⟩), ("b", ⟨2⟩), ("a", ⟨1⟩)] ∧
      ((boot #[] none {}).after (contending ++ takingTurns.events "g" contenders)).store.names.handles =
        [("x", ⟨4⟩), ("y", ⟨3⟩), ("b", ⟨2⟩), ("a", ⟨1⟩)]) ∧
    Plan.Agree ((boot #[] none {}).after contending).store 0
      ((boot #[] none {}).after (contending ++ oneByOne.events "g" contenders))
      ((boot #[] none {}).history (contending ++ oneByOne.events "g" contenders))
      ((boot #[] none {}).trace (contending ++ oneByOne.events "g" contenders))
      ((boot #[] none {}).after (contending ++ takingTurns.events "g" contenders))
      ((boot #[] none {}).history (contending ++ takingTurns.events "g" contenders))
      ((boot #[] none {}).trace (contending ++ takingTurns.events "g" contenders)) := by
  have hc : ((boot #[] none {}).after contending).Completes "g" contenders oneByOne :=
    completes_of_threads (by decide +kernel) (by decide +kernel)
  have hc' : ((boot #[] none {}).after contending).Completes "g" contenders takingTurns :=
    completes_of_threads (by decide +kernel) (by decide +kernel)
  exact ⟨⟨by decide +kernel, by decide +kernel⟩,
    (schedules_agree #[] none {} contending ready_contending apt_contenders hc hc').1⟩

end System

end Reclaim

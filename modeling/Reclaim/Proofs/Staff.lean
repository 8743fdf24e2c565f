import Reclaim.Proofs.Turns
import Mathlib.Algebra.BigOperators.Group.List.Basic

/-!
# Staff

Every guard has a worker of its own, on a thread that nobody else works on, and everything that
happens to a process comes to something at one desk at most.

* `System.Staffed` : whose worker is where;
* `System.Stays` : no worker gets any further; `Staffed.stays`;
* `System.Manned` : all that workers rely on; `Manned.turn` : every event is a turn at one site at
  most; `System.manned_after`.
-/

namespace Reclaim

section Trace
variable {s : Store} {ms : History} {g : GuardId} {d d' : Desk} {ds : Trace} {cells : Cells}

/-- A visit leaves the worker of a desk alone, and what is done there is done at that guard. -/
theorem Visit.about {src dst : Multiset Stake} (h : Visit s ms g d src ds d' cells dst) :
    d'.worker = d.worker ∧ ds.of g = ds ∧ ∀ g', g' ≠ g → ds.of g' = [] := by
  cases h with
  | ask hsource hgate => exact ⟨rfl, by simp [Trace.of, Deed.guard?], fun g' hne => by
      simp [Trace.of, Deed.guard?, hne.symm]⟩
  | _ => exact ⟨rfl, by simp [Trace.of, Deed.guard?], fun g' hne => by
      simp [Trace.of, Deed.guard?, hne.symm]⟩

/-- What the worker of a desk does is done at that guard. -/
theorem Chore.about {stage stage' : Stage} (h : Chore s ms g d stage ds d' cells stage') :
    d'.worker = d.worker ∧ ds.of g = ds ∧ ∀ g', g' ≠ g → ds.of g' = [] := by
  cases h <;> exact ⟨rfl, by simp [Trace.of, Deed.guard?], fun g' hne => by
      simp [Trace.of, Deed.guard?, hne.symm]⟩

end Trace

/-- For a frame that waits for another no flush request is at stake. -/
theorem Frame.stakesAt_receive (g : GuardId) (x : Frame) (o : Outcome) (hx : x.waits = true) :
    (x.receive o).stakesAt g = x.stakesAt g := by
  obtain ⟨⟨hbefore, -⟩, hafter, -⟩ := x.calm_receive o hx
  rw [stakesAt_of_calm hbefore, stakesAt_of_calm hafter]

/-! ## Where frames live -/

theorem Store.Extends.housed {s s' : Store} (h : s.Extends s') {x : Frame} (hx : x.Housed s) :
    x.Housed s' := by
  cases x with
  | flush g patience gate p => exact h.runs hx
  | discard g acks => exact hx.imp_right h.runs
  | shutdown g p =>
    cases p with
    | discarding acks => exact hx.imp_right h.runs
    | _ => trivial
  | worker g p =>
    cases p with
    | announcing id panic => exact h.known hx
    | _ => trivial
  | _ => trivial

/-- Whoever has requests to destroy has taken them out of the source of a guard that there is. -/
theorem Frame.housed_iff_of_discards {s : Store} {x : Frame} {g : GuardId} {acks : List Nat}
    (hx : x.discards? = some (g, acks)) : x.Housed s ↔ acks = [] ∨ s.Runs g := by
  unfold discards? at hx
  split at hx <;> cases hx <;> exact Iff.rfl

theorem Store.runs_of_interrupt (s : Store) (g : GuardId) : (s.interrupt g).2 = [] ∨ s.Runs g := by
  cases hg : s.guard? g with
  | none => exact .inl (by rw [interrupt, hg])
  | some x => exact .inr ⟨x.gist, by rw [gist?, hg]; rfl⟩

theorem Frame.housed_of_calm {s : Store} {x : Frame} (hx : x.isCalm = true) : x.Housed s := by
  cases x with
  | flush | discard => cases hx
  | shutdown g p =>
    cases p with
    | discarding => cases hx
    | _ => trivial
  | worker g p =>
    cases p with
    | announcing => cases hx
    | _ => trivial
  | _ => trivial

/-- The frames that a progress goes on with. -/
def Progress.frames : Progress → List Frame
  | .goto x => [x]
  | .call x y | .spawn _ x y => [x, y]
  | .finish _ => []

/-- Whatever a frame does, it goes on with frames that are housed. -/
theorem Frame.Goes.housed {s : Store} {frame : Frame} {p : Progress} (h : frame.Goes s p)
    (hframe : frame.Housed s) (hp : ∀ x ∈ frame.spots, x.Placed s)
    (hreaches : ∀ g, s.Reaches g → s.Runs g) : ∀ x ∈ p.frames, x.Housed s := by
  cases h with
  | did | finish => exact fun _ hin => absurd hin List.not_mem_nil
  | goto _ hy => exact List.forall_mem_singleton.mpr (housed_of_calm hy)
  | call _ _ hy hz | spawn _ _ _ hy hz =>
    exact List.forall_mem_cons.mpr
      ⟨housed_of_calm hy, List.forall_mem_singleton.mpr (housed_of_calm hz)⟩
  | begins hg =>
    exact List.forall_mem_cons.mpr ⟨hreaches _ hg, List.forall_mem_singleton.mpr trivial⟩
  | interrupts hg =>
    exact List.forall_mem_cons.mpr ⟨.inr (hreaches _ hg), List.forall_mem_singleton.mpr trivial⟩
  | throws => exact List.forall_mem_singleton.mpr (s.runs_of_interrupt _)
  | discards hx hy =>
    have hg := ((housed_iff_of_discards hx).mp hframe).resolve_left (List.cons_ne_nil _ _)
    exact List.forall_mem_singleton.mpr ((housed_iff_of_discards hy).mpr (.inr hg))
  | checks | asks => exact List.forall_mem_singleton.mpr hframe
  | counts =>
    have hid : s.Owns _ _ := hp _ (Multiset.mem_singleton_self _)
    exact List.forall_mem_singleton.mpr hid.known

theorem Thread.housed_progress {s : Store} {th : Thread} {frame : Frame} {rest : List Frame}
    {p : Progress} (hs : Stacked (frame :: rest)) (hrest : ∀ x ∈ rest, x.Housed s)
    (hp : ∀ x ∈ p.frames, x.Housed s) : ∀ x ∈ (th.progress rest p).stack, x.Housed s := by
  cases p with
  | goto x => exact List.forall_mem_cons.mpr ⟨hp x (by simp [Progress.frames]), hrest⟩
  | call x y =>
    exact List.forall_mem_cons.mpr ⟨hp x (by simp [Progress.frames]),
      List.forall_mem_cons.mpr ⟨hp y (by simp [Progress.frames]), hrest⟩⟩
  | spawn name x y => exact List.forall_mem_cons.mpr ⟨hp y (by simp [Progress.frames]), hrest⟩
  | finish o =>
    cases rest with
    | nil => exact fun _ hin => absurd hin List.not_mem_nil
    | cons y rest =>
      refine List.forall_mem_cons.mpr ⟨Frame.housed_of_calm (y.calm_receive o (hs.waits y rfl)).2.1, ?_⟩
      exact (List.forall_mem_cons.mp hrest).2

/-! ## Where workers are -/

namespace System

/-- All frames are housed. -/
def Housed (w : System) : Prop := ∀ th ∈ w.threads, ∀ x ∈ th.stack, x.Housed w.store

theorem Housed.occur {w : System} {h : History} (hw : w.Housed) (ho : w.Orderly h) (e : Event) :
    (w.occur e).Housed := by
  obtain ⟨src, dst, hact, -⟩ := ho.occur e
  have hext := hact.extends
  suffices hold : ∀ th ∈ (w.occur e).threads, ∀ x ∈ th.stack, x.Housed w.store from
    fun th hth x hx => hext.housed (hold th hth x hx)
  refine forall_stack_occur (P := fun stack => ∀ x ∈ stack, x.Housed w.store) hw e
    (fun t frame _ ht => ?_) (fun th hth g patience gate point rest o hstack => ?_)
    fun _ script _ => by simp [Frame.Housed]
  · obtain ⟨th, rest, hth, hstack, -⟩ := thread?_act ht
    have hframe : frame.Housed w.store := hw th (thread?_mem hth) frame (by simp [hstack])
    have hspots : ∀ x ∈ frame.spots, x.Placed w.store := fun x hx =>
      ho.2.spots x ((acts_acting ho.2.spots ht).1 hx)
    have hframes := (frame.advance_goes t w.threads.size w.store).housed hframe hspots ho.2.reaches
    refine forall_stack_act (P := fun stack => ∀ x ∈ stack, x.Housed w.store) hw ht
      (fun th hth rest hstack => ?_) fun name x y hspawn z hz => ?_
    · exact Thread.housed_progress (hstack ▸ ho.1 th hth)
        (fun x hx => hw th hth x (hstack ▸ List.mem_cons_of_mem _ hx)) hframes
    · rw [hspawn] at hframes
      rw [List.mem_singleton.mp hz]
      exact hframes x List.mem_cons_self
  · exact Thread.housed_progress (hstack ▸ ho.1 th hth)
      (fun x hx => hw th hth x (hstack ▸ List.mem_cons_of_mem _ hx))
      fun _ hin => absurd hin List.not_mem_nil

/-- Every guard has a worker on a thread of its own, whose frame is at the bottom unless the thread
has ended, and every worker is that of a guard. -/
structure Staffed (w : System) : Prop where
  posted : ∀ g d, w.store.desk? g = some d → ∃ th, w.thread? d.worker = some th ∧
    ∃ stage, Reached g stage th.stack
  employed : ∀ t th g stage, w.thread? t = some th → duty th.stack = some (g, stage) →
    ∃ d, w.store.desk? g = some d ∧ d.worker = t

/-- All threads are there and no worker gets any further; a new thread is the worker of this guard if
there is one. -/
structure Stays (w w' : System) (found : Option GuardId) : Prop where
  old : ∀ t th, w.thread? t = some th → ∃ th', w'.thread? t = some th' ∧
    duty th'.stack = duty th.stack ∧ (th.stack = [] → th'.stack = [])
  new : ∀ t th' g stage, w.thread? t = none → w'.thread? t = some th' →
    duty th'.stack = some (g, stage) → found = some g ∧ t = w.threads.size
  first : ∀ g, found = some g → ∃ th', w'.thread? w.threads.size = some th' ∧
    duty th'.stack = some (g, .point .starting)

variable {w w' : System}

theorem Stays.of_threads (h : w'.threads = w.threads) : Stays w w' none := by
  have hthread : ∀ t, w'.thread? t = w.thread? t := fun t => by rw [thread?, thread?, h]
  refine ⟨fun t th hth => ⟨th, (hthread t).trans hth, rfl, fun h => h⟩,
    fun t th' g stage hnone hsome => ?_, by rintro _ ⟨⟩⟩
  rw [hthread, hnone] at hsome
  cases hsome

/-- A thread that starts with a script has no worker. -/
theorem Stays.of_join (w : System) (name : ThreadName) (script : List Command) :
    Stays w (w.occur (.join name script)) none := by
  have hthread : ∀ t, (w.occur (.join name script)).thread? t =
      if t = w.threads.size then some ⟨name, [.commands script []], none⟩ else w.thread? t :=
    fun t => Array.getElem?_push
  refine ⟨fun t th hth => ?_, fun t th' g stage hnone hsome hduty => ?_, by rintro _ ⟨⟩⟩
  · have hlt : t ≠ w.threads.size := (Array.getElem?_eq_some_iff.mp hth).choose.ne
    exact ⟨th, by rw [hthread, if_neg hlt, hth], rfl, fun h => h⟩
  · rw [hthread] at hsome
    split at hsome
    · cases hsome
      cases hduty
    · cases hnone.symm.trans hsome

/-- What happens on a thread whose worker has nothing to do with it. -/
theorem Stays.of_progress {t : ThreadId} {th : Thread} {frame : Frame} {rest : List Frame}
    {p : Progress} (hth : w.thread? t = some th)
    (hstack : th.stack = frame :: rest) (hn : Reclaim.Nested (frame :: rest))
    (hs : Stacked (frame :: rest)) (hp : p.Keeps frame) (hidle : ¬AtWork frame rest)
    (hthread : ∀ t', w'.thread? t' = if t = t' then some (th.progress rest p)
      else if t' < w.threads.size then w.thread? t' else p.spawned[t' - w.threads.size]?)
    (found : Option GuardId) (hfound : p.spawned = [] ∧ found = none ∨
      ∃ name g next, p = .spawn name (.worker g .starting) next ∧ found = some g) :
    Stays w w' found := by
  have hsize : ∀ {t' th'}, w.thread? t' = some th' → t' < w.threads.size := fun h =>
    (Array.getElem?_eq_some_iff.mp h).choose
  have hnone : ∀ {t'}, w.thread? t' = none → ¬t' < w.threads.size ∧ t ≠ t' := fun h => by
    refine ⟨fun hlt => ?_, ?_⟩
    · rw [thread?, Array.getElem?_eq_getElem hlt] at h
      cases h
    · rintro rfl
      rw [hth] at h
      cases h
  refine ⟨fun t' th' ht' => ?_, fun t' th' g stage hold hnew hduty => ?_,
    fun g hg => ?_⟩
  · rw [hthread]
    split
    · next heq =>
      subst heq
      cases hth.symm.trans ht'
      refine ⟨_, rfl, ?_, fun h => by rw [hstack] at h; cases h⟩
      rw [duty_progress hn hs hp hidle, hstack]
    · rw [if_pos (hsize ht')]
      exact ⟨th', ht', rfl, fun h => h⟩
  · rw [hthread, if_neg (hnone hold).2, if_neg (hnone hold).1] at hnew
    obtain ⟨hspawn, -⟩ | ⟨name, g, next, rfl, rfl⟩ := hfound
    · rw [hspawn] at hnew
      cases hnew
    · have hlt := (List.getElem?_eq_some_iff.mp hnew).choose
      rw [List.mem_singleton.mp (List.mem_of_getElem? hnew)] at hduty
      cases hduty
      have hle := (hnone hold).1
      exact ⟨rfl, Nat.le_antisymm (Nat.sub_eq_zero_iff_le.mp (Nat.lt_one_iff.mp hlt))
        (Nat.le_of_not_lt hle)⟩
  · obtain ⟨-, rfl⟩ | ⟨name, g', next, rfl, rfl⟩ := hfound
    · cases hg
    · cases hg
      refine ⟨⟨name, [.worker g .starting], none⟩, ?_, rfl⟩
      rw [hthread, if_neg (hsize hth).ne, if_neg (lt_irrefl _), Nat.sub_self]
      rfl

theorem Stays.stageAt {found : Option GuardId} (h : Stays w w' found) {t : ThreadId} {th : Thread}
    (hth : w.thread? t = some th) : w'.stageAt t = w.stageAt t := by
  obtain ⟨th', hth', hduty, -⟩ := h.old t th hth
  simp only [System.stageAt, hth, hth', Option.bind_some, hduty]

/-- No worker gets any further, and every guard keeps its worker. -/
theorem Staffed.stays {found : Option GuardId} (hw : w.Staffed) (h : Stays w w' found)
    (hdesk : ∀ g d', w'.store.desk? g = some d' →
      (∃ d, w.store.desk? g = some d ∧ d'.worker = d.worker) ∨
        (found = some g ∧ d'.worker = w.threads.size))
    (hkept : ∀ g d, w.store.desk? g = some d → ∃ d', w'.store.desk? g = some d' ∧ d'.worker = d.worker)
    (hfound : ∀ g, found = some g → ∃ d', w'.store.desk? g = some d' ∧ d'.worker = w.threads.size) :
    w'.Staffed := by
  constructor
  · intro g d' hd'
    rcases hdesk g d' hd' with ⟨d, hd, heq⟩ | ⟨hg, heq⟩ <;> rw [heq]
    · obtain ⟨th, hth, stage, hstage⟩ := hw.posted g d hd
      obtain ⟨th', hth', hduty, hempty⟩ := h.old _ th hth
      exact ⟨th', hth', stage, hstage.imp hduty.trans (And.imp_left hempty)⟩
    · obtain ⟨th', hth', hduty⟩ := h.first g hg
      exact ⟨th', hth', _, .inl hduty⟩
  · intro t th' g stage hth' hstage
    cases hth : w.thread? t with
    | some th =>
      obtain ⟨th'', hth'', hduty, -⟩ := h.old t th hth
      cases hth'.symm.trans hth''
      obtain ⟨d, hd, rfl⟩ := hw.employed t th g stage hth (hduty.symm.trans hstage)
      exact hkept g d hd
    | none =>
      obtain ⟨hg, rfl⟩ := h.new t th' g stage hth hth' hstage
      exact hfound g hg

/-! ## Events are turns -/

theorem site?_eq {g : GuardId} {d : Desk} (hd : w.store.desk? g = some d) : w.site? g =
    some ⟨d, w.stageAt d.worker, w.store.acks, w.tally (Frame.stakesAt g)⟩ := by
  rw [site?, hd]
  rfl

theorem site_of_guard {g : GuardId} {x : Guard} (hx : w.store.guard? g = some x) :
    ∃ a, w.site? g = some a ∧ a.toDesk = x.desk :=
  ⟨_, site?_eq (by rw [Store.desk?, hx]; rfl), rfl⟩

theorem site?_eq_none {g : GuardId} (hd : w.store.desk? g = none) : w.site? g = none := by
  rw [site?, hd]
  rfl

theorem stageAt_eq {t : ThreadId} {th : Thread} {g : GuardId} {stage : Stage}
    (hth : w.thread? t = some th) (hduty : duty th.stack = some (g, stage)) : w.stageAt t = stage := by
  simp only [stageAt, hth, Option.bind_some, hduty]

/-- Where nothing happens at a desk, the site has the cells of all the others. -/
theorem site?_of_desk {g : GuardId} (hdesk : w'.store.desk? g = w.store.desk? g)
    (hstage : ∀ d, w.store.desk? g = some d → w'.stageAt d.worker = w.stageAt d.worker)
    (hwaits : w'.tally (Frame.stakesAt g) = w.tally (Frame.stakesAt g)) :
    w'.site? g = (w.site? g).map fun b => { b with cells := w'.store.acks } := by
  cases hd : w.store.desk? g with
  | none => rw [site?_eq_none hd, site?_eq_none (hdesk.trans hd), Option.map_none]
  | some d => rw [site?_eq hd, site?_eq (hdesk.trans hd), hstage d hd, hwaits, Option.map_some]

theorem site?_map_cells (w : System) (g : GuardId) :
    (w.site? g).map (fun b => { b with cells := w.store.acks }) = w.site? g := by
  rw [site?, Option.map_map]
  rfl

/-- Workers that get no further are where they were. -/
theorem Staffed.stage_eq {found : Option GuardId} (hw : w.Staffed) (h : Stays w w' found) {g : GuardId}
    {d : Desk} (hd : w.store.desk? g = some d) : w'.stageAt d.worker = w.stageAt d.worker := by
  obtain ⟨th, hth, -⟩ := hw.posted g d hd
  exact h.stageAt hth

/-- Nothing happens at any desk. -/
theorem Staffed.turn_rest {ds : Trace} {ms : History} (hw : w.Staffed) (h : Stays w w' none)
    (hs : w.store.Steady w'.store)
    (htally : ∀ g, w'.tally (Frame.stakesAt g) = w.tally (Frame.stakesAt g)) (hds : ∀ g, ds.of g = []) :
    Turn w w' ds ms ∧ w'.Staffed := by
  constructor
  · refine .rest (fun g => ?_) hds
    rw [site?_of_desk (hs.desk g) (fun _ => hw.stage_eq h) (htally g), hs.cells, site?_map_cells]
  · refine hw.stays h (fun g d' hd' => .inl ⟨d', (hs.desk g).symm.trans hd', rfl⟩) (fun g d hd => ?_)
      nofun
    exact ⟨d, (hs.desk g).trans hd, rfl⟩

/-- A visit to a desk. -/
theorem Staffed.turn_visit {g : GuardId} {d d' : Desk} {src dst : Multiset Stake} {ds : Trace}
    {ms : History} {cells : Cells} (hw : w.Staffed) (h : Stays w w' none)
    (hd : w.store.desk? g = some d) (hv : Visit w.store ms g d src ds d' cells dst)
    (hs : w.store.Sets w'.store g (fun _ => d') cells)
    (htally : ∀ g', w'.tally (Frame.stakesAt g') + (if g = g' then src else 0) =
      w.tally (Frame.stakesAt g') + if g = g' then dst else 0) : Turn w w' ds ms ∧ w'.Staffed := by
  obtain ⟨hworker, hof, hne⟩ := hv.about
  obtain rfl := hs.cells
  have hdesk : w'.store.desk? g = some d' := by rw [hs.desk, if_pos rfl, hd]; rfl
  have hdesk' : ∀ g', g' ≠ g → w'.store.desk? g' = w.store.desk? g' := fun g' h => by
    rw [hs.desk, if_neg h.symm]
  constructor
  · refine .step (site?_eq hd) (site?_eq hdesk) ?_ (fun g' hg' => ?_) hne
    · have hwaits := htally g
      rw [if_pos rfl, if_pos rfl] at hwaits
      rw [hworker, hw.stage_eq h hd]
      exact .visit (hof.symm ▸ hv) hwaits
    · have hwaits := htally g'
      rw [if_neg hg'.symm, if_neg hg'.symm, add_zero, add_zero] at hwaits
      exact site?_of_desk (hdesk' g' hg') (fun _ => hw.stage_eq h) hwaits
  · refine hw.stays h (fun g' d'' hd'' => .inl ?_) (fun g' d'' hd'' => ?_) nofun <;>
      by_cases hg' : g' = g
    · subst hg'
      cases hdesk.symm.trans hd''
      exact ⟨d, hd, hworker⟩
    · exact ⟨d'', (hdesk' g' hg').symm.trans hd'', rfl⟩
    · subst hg'
      cases hd.symm.trans hd''
      exact ⟨d', hdesk, hworker⟩
    · exact ⟨d'', (hdesk' g' hg').trans hd'', rfl⟩

/-- A guard is new. -/
theorem Staffed.turn_found {g : GuardId} {config : Config} {kind : SourceKind} {panicsAt : Option Nat}
    {ms : History} (hw : w.Staffed) (h : Stays w w' (some g)) (hnew : w.store.desk? g = none)
    (hdesk : ∀ g', w'.store.desk? g' = if g' = g then
      some (.new config w.threads.size (kind.source panicsAt)) else w.store.desk? g')
    (hcells : w'.store.acks = w.store.acks)
    (htally : ∀ g', w'.tally (Frame.stakesAt g') = w.tally (Frame.stakesAt g'))
    (hwaits : w.tally (Frame.stakesAt g) = 0) : Turn w w' [] ms ∧ w'.Staffed := by
  have hold : ∀ {g' d}, w.store.desk? g' = some d → w'.store.desk? g' = some d := fun {g' d} hd => by
    rw [hdesk, if_neg, hd]
    rintro rfl
    cases hnew.symm.trans hd
  have hself : w'.store.desk? g = some (.new config w.threads.size (kind.source panicsAt)) := by
    rw [hdesk, if_pos rfl]
  constructor
  · refine .found (site?_eq_none hnew) (site?_eq hself) ?_ (fun g' hg' => ?_) fun _ => rfl
    · obtain ⟨th, hth, hduty⟩ := h.first g rfl
      exact ⟨⟨kind, panicsAt, rfl⟩, rfl, rfl, rfl, stageAt_eq hth hduty, (htally g).trans hwaits⟩
    · have hdesk' : w'.store.desk? g' = w.store.desk? g' := by rw [hdesk, if_neg hg']
      rw [site?_of_desk hdesk' (fun _ => hw.stage_eq h) (htally g'), hcells, site?_map_cells]
  · refine hw.stays h (fun g' d' hd' => ?_) (fun g' d hd => ⟨d, hold hd, rfl⟩) fun g' hg' => ?_
    · rw [hdesk] at hd'
      split at hd'
      · next heq =>
        cases hd'
        exact .inr ⟨by rw [heq], rfl⟩
      · exact .inl ⟨d', hd', rfl⟩
    · cases hg'
      exact ⟨_, hself, rfl⟩

/-- A worker gets further. -/
theorem Staffed.turn_chore {g : GuardId} {d d' : Desk} {stage stage' : Stage} {ds : Trace}
    {ms : History} {th th' : Thread} (hw : w.Staffed) (hd : w.store.desk? g = some d)
    (hth : w.thread? d.worker = some th) (hstage : duty th.stack = some (g, stage))
    (hreached : Reached g stage' th'.stack)
    (hthread : ∀ t, w'.thread? t = if d.worker = t then some th' else w.thread? t)
    (hc : Chore w.store ms g d stage ds d' w'.store.acks stage')
    (hs : w.store.Sets w'.store g (fun _ => d') w'.store.acks)
    (htally : ∀ g, w'.tally (Frame.stakesAt g) = w.tally (Frame.stakesAt g)) :
    Turn w w' ds ms ∧ w'.Staffed := by
  obtain ⟨hworker, hof, hne⟩ := hc.about
  have hdesk : w'.store.desk? g = some d' := by rw [hs.desk, if_pos rfl, hd]; rfl
  have hdesk' : ∀ g', g' ≠ g → w'.store.desk? g' = w.store.desk? g' := fun g' h => by
    rw [hs.desk, if_neg h.symm]
  -- no other guard's worker is on this thread
  have hother : ∀ {g' d''}, g' ≠ g → w.store.desk? g' = some d'' → d.worker ≠ d''.worker := by
    intro g' d'' hg' hd'' heq
    obtain ⟨th'', hth'', stage'', hstage'' | ⟨hempty, -⟩⟩ := hw.posted g' d'' hd''
    all_goals
      rw [← heq] at hth''
      cases hth.symm.trans hth''
    · cases hstage.symm.trans hstage''
      exact hg' rfl
    · rw [hempty] at hstage
      cases hstage
  have hself : w'.thread? d'.worker = some th' := by rw [hthread, hworker, if_pos rfl]
  constructor
  · have ha := site?_eq hd
    have hat' : w'.stageAt d'.worker = stage' := by
      rcases hreached with hduty | ⟨hempty, rfl⟩
      · exact stageAt_eq hself hduty
      · simp only [stageAt, hself, Option.bind_some, hempty]
        rfl
    rw [stageAt_eq hth hstage] at ha
    refine .step ha (site?_eq hdesk) ?_ (fun g' hg' => ?_) hne
    · rw [hat', htally]
      exact .chore (hof.symm ▸ hc)
    · refine site?_of_desk (hdesk' g' hg') (fun d'' hd'' => ?_) (htally g')
      simp only [stageAt, hthread, if_neg (hother hg' hd'')]
  · constructor
    · intro g' d'' hd''
      by_cases hg' : g' = g
      · subst hg'
        cases hdesk.symm.trans hd''
        exact ⟨th', hself, stage', hreached⟩
      · rw [hdesk' g' hg'] at hd''
        obtain ⟨th'', hth'', hstage''⟩ := hw.posted g' d'' hd''
        exact ⟨th'', by rw [hthread, if_neg (hother hg' hd''), hth''], hstage''⟩
    · intro t th'' g' stage'' hth'' hstage''
      rw [hthread] at hth''
      split at hth''
      · next heq =>
        cases hth''
        rcases hreached with hduty | ⟨hempty, -⟩
        · cases hduty.symm.trans hstage''
          exact ⟨d', hdesk, hworker.trans heq⟩
        · rw [hempty] at hstage''
          cases hstage''
      · next hne' =>
        obtain ⟨d'', hd'', rfl⟩ := hw.employed t th'' g' stage'' hth'' hstage''
        have hg' : g' ≠ g := by
          rintro rfl
          cases hd.symm.trans hd''
          exact hne' rfl
        exact ⟨d'', (hdesk' g' hg').trans hd'', rfl⟩

theorem below_eq {t : ThreadId} {th : Thread} {frame : Frame} {rest : List Frame}
    (hth : w.thread? t = some th) (hstack : th.stack = frame :: rest) : w.below t = rest := by
  obtain ⟨name, stack, out⟩ := th
  simp only at hstack
  simp only [below, hth, hstack]

theorem isReady_acting {t : ThreadId} {frame : Frame} (ht : w.acting? t = some frame) :
    frame.isReady w.store = true := (acting?_eq_some ht).choose_spec.choose_spec.choose_spec.2

/-- All that workers rely on. -/
structure Manned (w : System) (h : History) : Prop where
  orderly : w.Orderly h
  nested : w.Nested
  housed : w.Housed
  staffed : w.Staffed

section Manned
variable {h : History} (hm : w.Manned h)
include hm

/-- Flush requests are made at a guard that there is, so nothing is at stake elsewhere. -/
theorem Manned.stakes_eq_zero {g : GuardId} (hg : w.store.desk? g = none) :
    w.tally (Frame.stakesAt g) = 0 := by
  have hzero : ∀ th ∈ w.threads, th.tally (Frame.stakesAt g) = 0 := by
    intro th hth
    refine List.sum_eq_zero fun m hin => ?_
    obtain ⟨x, hx, rfl⟩ := List.mem_map.mp hin
    have hhoused := hm.housed th hth x hx
    have hno : ¬ w.store.Runs g := fun hruns => by
      obtain ⟨d, hd⟩ := hruns.desk
      cases hg.symm.trans hd
    have hnone : ∀ {g' acks}, acks = [] ∨ w.store.Runs g' → (if g' = g then Stake.requests acks else 0) = 0 := by
      rintro g' acks (rfl | hruns)
      · exact ite_self 0
      · exact if_neg (by rintro rfl; exact hno hruns)
    unfold Frame.stakesAt
    split
    · exact if_neg (by rintro rfl; exact hno hhoused)
    · exact hnone hhoused
    · exact hnone hhoused
    · rfl
  refine List.sum_eq_zero fun m hin => ?_
  obtain ⟨th, hth, rfl⟩ := List.mem_map.mp hin
  exact hzero th (Array.mem_toList_iff.mp hth)

theorem Manned.entries (id : HandleId) (e : Entry) (he : w.store.resource? id = some e) :
    w.store.Runs e.guard := hm.orderly.2.entries id e he

/-- A worker's action is a chore. -/
theorem Manned.turn_work {t : ThreadId} {th : Thread} {frame : Frame} {rest : List Frame}
    (ht : w.acting? t = some frame) (hth : w.thread? t = some th) (hstack : th.stack = frame :: rest)
    (hthread : ∀ t', (w.act t).thread? t' =
      if t = t' then some (th.progress rest (frame.advance t w.threads.size w.store).2)
      else if t' < w.threads.size then w.thread? t'
      else (frame.advance t w.threads.size w.store).2.spawned[t' - w.threads.size]?)
    (hwork : AtWork frame rest) :
    Turn w (w.act t) (frame.deeds w.store (.over rest) (frame.advance t w.threads.size w.store).2)
      (frame.marks w.store) ∧ (w.act t).Staffed := by
  have hready := isReady_acting ht
  obtain ⟨hsub, -, hstore, -⟩ := acts_acting hm.orderly.2.spots ht
  have hspots : ∀ x ∈ frame.spots, x.Placed w.store := fun x hx => hm.orderly.2.spots x (hsub hx)
  have hhoused := hm.housed th (thread?_mem hth) frame (by simp [hstack])
  have hnested := hstack ▸ hm.nested th (thread?_mem hth)
  have htally := fun g => tally_act (Frame.stakesAt_receive g) hm.orderly.1 ht
  suffices hserves : ∃ g d stage, w.store.desk? g = some d ∧ d.worker = t ∧
      duty th.stack = some (g, stage) ∧ (∀ g', frame.stakesAt g' = 0) ∧
      frame.Serves w.store g d stage rest (frame.advance t w.threads.size w.store) by
    obtain ⟨g, d, stage, hd, rfl, hstage, hstakes, d', stage', hc, hsets, hleads⟩ := hserves
    rw [← hstore] at hc hsets
    refine hm.staffed.turn_chore hd hth hstage (hleads.reached th) (fun t' => ?_) hc hsets fun g' => ?_
    · rw [hthread, hleads.spawned]
      split
      · rfl
      · split
        · rfl
        · next hge => simp [thread?, Array.getElem?_eq_none (Nat.le_of_not_lt hge)]
    · simpa [hstakes, hleads.stakes] using htally g'
  rcases hwork with ⟨g, p, rfl⟩ | ⟨g, id, p, rfl, rfl⟩
  · obtain rfl : rest = [] := hnested.worker
    have hstage : duty th.stack = some (g, .point p) := by rw [hstack]; rfl
    obtain ⟨d, hd, hworker⟩ := hm.staffed.employed t th g _ hth hstage
    refine ⟨g, d, _, hd, hworker, hstage, fun _ => rfl, WorkerPoint.serves hd hspots ?_ hready⟩
    rintro id panic rfl
    exact hhoused
  · have hstage := (congrArg duty hstack).trans (duty_running (.callback id p) g id)
    obtain ⟨d, hd, hworker⟩ := hm.staffed.employed t th g _ hth hstage
    exact ⟨g, d, _, hd, hworker, hstage, fun _ => rfl, CallbackPoint.serves hd hspots hready⟩

/-- Anybody else's action is nothing at any desk, a visit, or the start of a new guard. -/
theorem Manned.turn_deal {t : ThreadId} {th : Thread} {frame : Frame} {rest : List Frame}
    (ht : w.acting? t = some frame) (hth : w.thread? t = some th) (hstack : th.stack = frame :: rest)
    (hthread : ∀ t', (w.act t).thread? t' =
      if t = t' then some (th.progress rest (frame.advance t w.threads.size w.store).2)
      else if t' < w.threads.size then w.thread? t'
      else (frame.advance t w.threads.size w.store).2.spawned[t' - w.threads.size]?)
    (hidle : ¬AtWork frame rest) :
    Turn w (w.act t) (frame.deeds w.store (.over rest) (frame.advance t w.threads.size w.store).2)
      (frame.marks w.store) ∧ (w.act t).Staffed := by
  have hready := isReady_acting ht
  obtain ⟨-, -, hstore, -⟩ := acts_acting hm.orderly.2.spots ht
  have hhoused := hm.housed th (thread?_mem hth) frame (by simp [hstack])
  have hnested := hstack ▸ hm.nested th (thread?_mem hth)
  have hstacked := hstack ▸ hm.orderly.1 th (thread?_mem hth)
  have htally := fun g => tally_act (Frame.stakesAt_receive g) hm.orderly.1 ht
  have hstays := Stays.of_progress hth hstack hnested hstacked
    (frame.advance_goes t w.threads.size w.store).keeps hidle hthread
  cases Frame.advance_deals t hnested hstacked hhoused hm.entries hready hidle with
  | idle hs hwaits hspawn hds =>
    refine hm.staffed.turn_rest (hstays none (.inl ⟨hspawn, rfl⟩)) (hstore ▸ hs) (fun g => ?_) hds
    exact add_right_cancel ((htally g).trans (by rw [hwaits]))
  | visit hd hv hs hsrc hdst hspawn =>
    rw [← hstore] at hv hs
    refine hm.staffed.turn_visit (hstays none (.inl ⟨hspawn, rfl⟩)) hd hv hs fun g' => ?_
    rw [← hsrc, ← hdst]
    exact htally g'
  | found hdesk hcells hframe hprogress hnext hds =>
    rw [← hstore] at hdesk hcells
    have hnew : w.store.desk? w.store.guards.size = none := by
      simp [Store.desk?, Store.guard?]
    rw [hds]
    refine hm.staffed.turn_found (hstays _ (.inr ⟨_, _, _, hprogress, rfl⟩)) hnew hdesk hcells
      (fun g' => ?_) (hm.stakes_eq_zero hnew)
    have hsum := htally g'
    rw [hprogress, hframe, Progress.tally, hnext] at hsum
    simpa [Frame.stakesAt] using hsum

/-- No worker gets further when a flush gives up. -/
theorem Manned.stays_expire {t : ThreadId} {th : Thread} {g : GuardId} {patience : Patience}
    {gate : GateUse} {p : FlushPoint} {rest : List Frame} (hth : w.thread? t = some th)
    (hstack : th.stack = .flush g patience gate p :: rest) : Stays w ⟨w.store, w.threads.modify t fun _ =>
      th.progress rest (.finish (.flag false))⟩ none := by
  have hnested := hstack ▸ hm.nested th (thread?_mem hth)
  have hstacked := hstack ▸ hm.orderly.1 th (thread?_mem hth)
  refine .of_progress (p := .finish (.flag false)) hth hstack hnested hstacked (by rintro ⟨⟩) ?_
    (fun t' => ?_) none (.inl ⟨rfl, rfl⟩)
  · rintro (⟨g', p, h⟩ | ⟨g', id, p, h, -⟩) <;> cases h
  · simp only [thread?, Array.getElem?_modify] at hth ⊢
    split
    · next heq =>
      subst heq
      simp [hth]
    · split
      · rfl
      · next hge => simp [Array.getElem?_eq_none (Nat.le_of_not_lt hge), Progress.spawned]

/-- Whatever happens to a process is a turn at one site at most, and workers stay on their threads. -/
theorem Manned.turn (e : Event) :
    Turn w (w.occur e) (w.deeds e) (w.marks e) ∧ (w.occur e).Staffed := by
  have hsame : ∀ {ms}, Turn w w [] ms ∧ w.Staffed :=
    hm.staffed.turn_rest (.of_threads rfl) (.refl _) (fun _ => rfl) fun _ => rfl
  cases e with
  | move m =>
    cases m with
    | act t =>
      simp only [deeds, marks]
      cases ht : w.acting? t with
      | none =>
        rw [occur_not_acting ht]
        exact hsame
      | some frame =>
        obtain ⟨th, rest, hth, hstack, -, hthread⟩ := thread?_act ht
        simp only [occur_acting ht, below_eq hth hstack]
        by_cases hwork : AtWork frame rest
        · exact hm.turn_work ht hth hstack hthread hwork
        · exact hm.turn_deal ht hth hstack hthread hwork
    | expire t =>
      simp only [occur, deeds]
      cases hmove : w.move? (.expire t) with
      | none => exact hsame
      | some w' =>
        obtain ⟨th, g, gate, ack, rest, hth, hstack, hpending, rfl⟩ := expire_cases hmove
        have hhoused := hm.housed th (thread?_mem hth) _ (by rw [hstack]; exact List.mem_cons_self)
        obtain ⟨d, hd⟩ := Store.Runs.desk (show w.store.Runs g from hhoused)
        refine hm.staffed.turn_visit (hm.stays_expire hth hstack) hd (.giveUp hpending)
          (((Store.Steady.refl w.store).sets g).toConst hd) fun g' => ?_
        have hsum := tally_expire (Frame.stakesAt_receive g') hm.orderly.1 hth hstack (.flag false)
        rw [ite_self, add_zero]
        exact hsum
  | join name script =>
    exact hm.staffed.turn_rest (.of_join w name script) (.refl _)
      (fun g => tally_join _ w name script rfl) fun _ => rfl
  | share id shares =>
    simp only [occur, deeds]
    split
    · exact hm.staffed.turn_rest (.of_threads rfl) (w.store.steady_modifyEntry id _) (fun _ => rfl)
        fun _ => rfl
    · exact hsame
  | inject g id =>
    simp only [occur, deeds]
    split
    · next hcond =>
      have hexposed := (Bool.and_eq_true_iff.mp hcond).2
      have hg : w.store.Runs g := by
        cases hx : w.store.guard? g with
        | none => simp [isExposed, hx] at hexposed
        | some x => exact ⟨x.gist, by rw [Store.gist?, hx]; rfl⟩
      obtain ⟨d, hd⟩ := hg.desk
      obtain ⟨source, hsource, haccepts, -, hsets⟩ | ⟨-, haccepts, heq⟩ :=
        Store.accepts_cases hd (.reclaim id) <;> rw [haccepts]
      · exact hm.staffed.turn_visit (.of_threads rfl) hd (.accept hsource) (hsets.toConst hd)
          fun g' => by rw [ite_self]; rfl
      · rw [heq]
        exact hsame
    · exact hsame

theorem Manned.occur (e : Event) : (w.occur e).Manned (h ++ w.marks e) :=
  ⟨hm.orderly.step e, hm.nested.occur hm.orderly.1 e, hm.housed.occur hm.orderly e, (hm.turn e).2⟩

theorem Manned.after (es : List Event) : (w.after es).Manned (h ++ w.history es) := by
  induction es generalizing w h with
  | nil =>
    rw [history, List.append_nil]
    exact hm
  | cons e es ih =>
    rw [history, ← List.append_assoc]
    exact ih (hm.occur e)

end Manned

variable (probes : Array Probe) (environment : Environment) (output : Output)

theorem manned_boot : (boot probes environment output).Manned [] := by
  have hdesk : ∀ g, (boot probes environment output).store.desk? g = none := fun g => by
    simp [boot, Store.desk?, Store.guard?]
  have hthread : ∀ t, (boot probes environment output).thread? t = none := fun t => by
    simp [boot, thread?]
  refine ⟨orderly_boot probes environment output, fun th hth => by simp [boot] at hth,
    fun th hth => by simp [boot] at hth, fun g d hd => ?_, fun t th g stage hth => ?_⟩
  · cases (hdesk g).symm.trans hd
  · cases (hthread t).symm.trans hth

/-- Whatever has happened since the start, every worker is on its thread. -/
theorem manned_after (es : List Event) : ((boot probes environment output).after es).Manned
    ((boot probes environment output).history es) :=
  (manned_boot probes environment output).after es

end System

end Reclaim

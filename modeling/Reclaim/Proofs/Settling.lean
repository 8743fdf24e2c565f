import Reclaim.Proofs.Agreement
import Reclaim.Proofs.Work

/-!
# Programs that are brought to their end

The standard schedule completes: left to it, programs over a guard end, the worker of the guard takes all that
they have handed to it, and a flush that comes after them is answered before its deadline passes.

* `Frame.isSteady` : frames that wait for no other thread, which are all that programs have;
* `System.Ready.ended` : where no thread can act, programs have ended;
* `System.Waits`, `System.Ready.waits` : and the worker waits for an item, of which there is none;
* `System.Ready.not_refused`, `System.Ready.answered` : what becomes of the flush;
* `System.Ready.settles` : the standard schedule completes.
-/

namespace Reclaim

/-! ## Frames that wait for nobody -/

namespace Frame

/-- A frame that carries out deals, or is part of one. It waits for nothing but a frame above it. -/
def isSteady : Frame → Bool
  | .commands todo _ => todo.all fun c => c.deal?.isSome
  | .give _ | .register .. | .release .. | .callback .. | .drop .. => true
  | _ => false

/-- Such a frame, or one of a worker, which waits for items alone. -/
def IsOwn (x : Frame) : Prop := x.isSteady = true ∨ ∃ g p, x = .worker g p

section Steady
variable {guard : String} {g : GuardId} {s : Store} {x : Frame} {thread fresh : ThreadId}

theorem ready_of_steady (hx : x.isSteady = true) (hblocked : x.isBlocked = false) : x.isReady s = true := by
  cases x with
  | register q p | release id p | callback id p => cases p <;> first | rfl | cases hblocked
  | commands | give | drop => rfl
  | _ => cases hx

theorem steady_receive (hx : x.isSteady = true) (o : Outcome) : (x.receive o).isSteady = true := by
  fun_cases receive x o <;> first | exact hx | rfl

theorem own_receive (hx : x.IsOwn) (o : Outcome) : (x.receive o).IsOwn := by
  rcases hx with hx | ⟨g, p, rfl⟩
  · exact .inl (steady_receive hx o)
  · cases p with
    | running id => cases o <;> exact .inr ⟨_, _, rfl⟩
    | _ => cases o <;> exact .inl rfl

theorem advance_steady (hs : s.Calm) (hx : x.Tame guard g) (hsteady : x.isSteady = true) :
    ∀ y ∈ (x.advance thread fresh s).2.frames, y.isSteady = true := by
  cases x with
  | commands todo done =>
    cases todo with
    | nil => exact List.forall_mem_nil _
    | cons c todo =>
      obtain ⟨hfirst, hrest⟩ := Bool.and_eq_true_iff.mp hsteady
      obtain ⟨d, rfl⟩ : ∃ d : Deal, c = d.command guard := by
        cases (List.forall_mem_cons.mp hx).1 with
        | deal => exact ⟨_, rfl⟩
        | flush patience => cases hfirst
      simp only [advance, Script.advance]
      cases hb : (d.command guard).begin s with
      | mk s' b =>
        cases b with
        | reply reply => exact List.forall_mem_singleton.mpr hrest
        | operation frame =>
          refine List.forall_mem_cons.mpr ⟨?_, List.forall_mem_singleton.mpr hrest⟩
          have hbegins := Command.beginning_operation hb
          cases d with
          | register => cases hbegins; rfl
          | release => cases hbegins; rfl
          | drop => cases hbegins; rfl
  | callback id p =>
    cases p with
    | enter =>
      simp only [advance, CallbackPoint.advance]
      split
      · exact List.forall_mem_nil _
      · next e he =>
        have hquiet := hs id e he
        unfold Callback.isQuiet at hquiet
        split
        · exact List.forall_mem_nil _
        · split
          · exact List.forall_mem_nil _
          · next body hbody =>
            obtain rfl : body = [] := by simpa [hbody] using hquiet
            exact List.forall_mem_cons.mpr ⟨rfl, List.forall_mem_singleton.mpr rfl⟩
    | running call => exact List.forall_mem_singleton.mpr rfl
    | ran call replies =>
      simp only [advance, CallbackPoint.advance]
      split <;> exact List.forall_mem_nil _
  | register q p | release _ p | drop _ p =>
    cases p
    all_goals
      simp only [advance, RegisterPoint.advance, ReleasePoint.advance, endRelease, DropPoint.advance]
      repeat' split
      all_goals simp [Progress.frames, isSteady]
  | give => exact List.forall_mem_nil _
  | _ => cases hsteady

theorem advance_own (hs : s.Calm) (hx : x.Tame guard g) (hown : x.IsOwn) :
    ∀ y ∈ (x.advance thread fresh s).2.frames, y.IsOwn := by
  rcases hown with hsteady | ⟨g', p, rfl⟩
  · exact fun y hy => .inl (advance_steady hs hx hsteady y hy)
  · cases p
    all_goals
      simp only [advance, WorkerPoint.advance, discardNext]
      repeat' split
      all_goals simp [Progress.frames, IsOwn, isSteady]

end Steady

end Frame

namespace System
variable {w : System} {h : History} {guard : String} {g : GuardId} {ps : List (List Deal)} {t : ThreadId}
  {th : Thread}

/-! ## Programs end -/

/-- Where no thread can act, a thread with steady frames only has ended. -/
theorem Idle.ended (hidle : w.Idle) (hawake : w.Awake) (hth : w.thread? t = some th)
    (hsteady : ∀ x ∈ th.stack, x.isSteady = true) : th.stack = [] := by
  have hready := hidle t th hth
  unfold Thread.isReady at hready
  split at hready
  · assumption
  · next x rest hstack =>
    rw [Frame.ready_of_steady (hsteady x (hstack ▸ List.mem_cons_self))
      (hawake th (thread?_mem hth) x (by rw [hstack]; rfl))] at hready
    cases hready

section Programs
variable (hr : w.Ready guard g) (hp : Plan.Apt w.store ps) (hw : w.Orderly h) (hrg : w.Regular h)
include hr hp hw hrg

/-- Programs go on in steady frames, and nobody else does anything but a worker's part. -/
theorem Ready.steady_after (c : Plan.Schedule) (hth : (w.after (c.work guard ps)).thread? t = some th) :
    (∀ x ∈ th.stack, x.IsOwn) ∧ (w.threads.size ≤ t → ∀ x ∈ th.stack, x.isSteady = true) := by
  have hprogram : ∀ p : List Deal, (Frame.commands (p.map (Deal.command guard)) []).isSteady = true := fun p => by
    simp [Frame.isSteady]
  constructor
  · refine hr.forall_work hp hw hrg (fun ha ht => Frame.advance_own ha.calm (ha.acting_tame ht))
      (fun _ hy _ => Frame.own_receive hy) c (fun th₀ hth₀ => ?_) hth
    exact hr.forall_joins (P := fun stack => ∀ x ∈ stack, x.IsOwn) (List.forall_mem_nil _)
      (fun p _ => List.forall_mem_singleton.mpr (.inr ⟨g, p, rfl⟩))
      (fun p _ => List.forall_mem_singleton.mpr (.inl (hprogram p))) th₀ (thread?_mem hth₀)
  · intro hle
    refine hr.forall_work hp hw hrg (fun ha ht => Frame.advance_steady ha.calm (ha.acting_tame ht))
      (fun _ hy _ => Frame.steady_receive hy) c (fun th₀ hth₀ => ?_) hth
    rw [(w.after_joins guard ps).1, thread?, Array.getElem?_append_right hle, List.getElem?_toArray] at hth₀
    obtain ⟨p, -, rfl⟩ := List.mem_map.mp (List.mem_of_getElem? hth₀)
    exact List.forall_mem_singleton.mpr (hprogram p)

/-- Where no thread can act, programs have ended. -/
theorem Ready.ended (hawake : w.Awake) (c : Plan.Schedule) (hidle : (w.after (c.work guard ps)).Idle)
    (hle : w.threads.size ≤ t) (hth : (w.after (c.work guard ps)).thread? t = some th) : th.stack = [] :=
  hidle.ended (hawake.after _) hth ((hr.steady_after hp hw hrg c hth).2 hle)

end Programs

/-! ## The worker comes to wait -/

/-- The worker of a guard waits for an item, and there is none. -/
structure Waits (w : System) (g : GuardId) : Prop where
  site : ∃ a, w.site? g = some a ∧ a.stage = .point .polling ∧ a.source.isInterrupted = false ∧
    a.source.queue.items = []
  rests : w.store.isAtRest g = true

/-- Then no request is in anybody's hands. -/
theorem Waits.not_held {tr : Trace} (hwaits : w.Waits g) (hanswered : w.Answered tr) {a : Site}
    (ha : w.site? g = some a) (k : Nat) : ¬a.Holds k := by
  obtain ⟨a', ha', hstage, hopen, hitems⟩ := hwaits.site
  cases ha.symm.trans ha'
  rintro (hqueued | hhand | hthrown)
  · rw [hitems] at hqueued
    cases hqueued
  · rw [hstage] at hhand
    cases hhand
  · have hint := ((hanswered.sites g a ha).thrown k hthrown).2
    rw [hopen] at hint
    cases hint

/-- The worker of a guard whose source is open has not ended. -/
theorem Manned.on_duty (hm : w.Manned h) {a : Site} {tr : Trace} (ha : w.site? g = some a) (hshown : a.Shown tr)
    (hopen : a.source.isInterrupted = false) :
    ∃ th, w.thread? a.worker = some th ∧ duty th.stack = some (g, a.stage) := by
  obtain ⟨th, hth, stage, hreached⟩ := hm.staffed.posted g a.toDesk (site?_desk ha)
  have hstage : a.stage = w.stageAt a.worker :=
    congrArg Site.stage (Option.some.inj (ha.symm.trans (site?_eq (site?_desk ha))))
  refine ⟨th, hth, ?_⟩
  rcases hreached with hduty | ⟨hstack, -⟩
  · rw [hstage, stageAt_eq hth hduty, hduty]
  · have hgone : a.stage = .gone := by
      rw [hstage, stageAt, hth, Option.bind_some, hstack]
      rfl
    have hint := hshown.closed (by rw [hgone]; rfl)
    rw [hopen] at hint
    cases hint

/-- Where a thread with frames of its own only cannot act and has not ended, it is a worker that looks for an
item. -/
theorem Idle.polls (hidle : w.Idle) (hawake : w.Awake) (hth : w.thread? t = some th) (hstack : th.stack ≠ [])
    (hown : ∀ x ∈ th.stack, x.IsOwn) :
    ∃ g rest, th.stack = .worker g .polling :: rest ∧ w.store.isSourceReady g = false := by
  obtain ⟨x, rest, hstack⟩ := List.exists_cons_of_ne_nil hstack
  have hblocked : x.isBlocked = false := hawake th (thread?_mem hth) x (by rw [hstack]; rfl)
  have hready : x.isReady w.store = false := by
    have := hidle t th hth
    rwa [Thread.isReady, hstack] at this
  rcases hown x (hstack ▸ List.mem_cons_self) with hsteady | ⟨g, p, rfl⟩
  · rw [Frame.ready_of_steady hsteady hblocked] at hready
    cases hready
  · cases p with
    | polling => exact ⟨g, rest, hstack, hready⟩
    | running id => cases hblocked
    | _ => cases hready

/-- Where no thread can act, and all threads but one that is no worker's have frames of their own only, the
worker of an open guard waits. -/
theorem Idle.waits (probes : Array Probe) (environment : Environment) (output : Output) (es : List Event)
    (hidle : ((boot probes environment output).after es).Idle) {a : Site}
    (ha : ((boot probes environment output).after es).site? g = some a) (hgate : a.source.gate = none)
    (hopen : a.source.isInterrupted = false) (hpanics : a.source.panicsAt = none)
    (hth : ((boot probes environment output).after es).thread? t = some th) (hself : duty th.stack = none)
    (hown : ∀ t' th', t' ≠ t → ((boot probes environment output).after es).thread? t' = some th' →
      ∀ x ∈ th'.stack, x.IsOwn) :
    ((boot probes environment output).after es).Waits g := by
  have hm := manned_after probes environment output es
  have hawake := awake_after probes environment output es
  have hshown := shown_after probes environment output es ha
  generalize (boot probes environment output).after es = w at hidle ha hth hown hm hawake hshown ⊢
  obtain ⟨y, hy, hstate, hsource⟩ := guard?_site ha
  obtain ⟨th', hth', hduty⟩ := hm.on_duty ha hshown hopen
  have hne : a.worker ≠ t := fun heq => by
    cases hth.symm.trans (heq ▸ hth')
    cases hself.symm.trans hduty
  have hnonempty : th'.stack ≠ [] := fun hnil => by
    rw [hnil] at hduty
    cases hduty
  obtain ⟨g', rest, hstack, hnone⟩ := hidle.polls hawake hth' hnonempty (hown _ th' hne hth')
  obtain ⟨stage, hduty', hstage⟩ := duty_of_worker (hm.nested th' (thread?_mem hth'))
    (hm.orderly.1 th' (thread?_mem hth')) (hstack ▸ List.mem_cons_self)
  cases hduty.symm.trans hduty'
  replace hstage : a.stage = .point .polling := hstage.resolve_right fun ⟨_, h, _⟩ => nomatch h
  have hempty : a.source.isReady = false := by
    rw [← hsource]
    simpa only [Store.isSourceReady, hy] using hnone
  have hwaiting : y.state = .waiting := by
    have hin := hshown.state
    rw [hstage] at hin
    exact hstate.trans (List.mem_singleton.mp hin)
  have hnothing : ¬0 < a.source.pending := by
    simpa [Source.isReady, hopen, Source.isOpen, hgate] using hempty
  refine ⟨⟨a, ha, hstage, hopen, List.length_eq_zero_iff.mp (Nat.eq_zero_of_not_pos hnothing)⟩, ?_⟩
  simp [Store.isAtRest, hy, hwaiting, hsource, hempty, Source.hasPanicked, hpanics]

/-! ## The standard schedule completes -/

/-- A thread that flushes is no worker's. -/
theorem duty_of_flushes {patience : Patience} {name : ThreadName} {answer : Option Bool}
    (hflushes : Flushes guard g patience name answer th) : duty th.stack = none := by
  cases hflushes <;> rfl

section Flush
variable (hr : w.Ready guard g) (hp : Plan.Apt w.store ps) (hw : w.Orderly h) (hrg : w.Regular h)
  (c : Plan.Schedule)
include hr hp hw hrg

/-- While a flush goes on that comes after programs, all other threads have frames of their own only. -/
theorem Ready.own_asked (moves : List Move) (hne : t ≠ w.threads.size + ps.length)
    (hth : ((w.after (c.asked guard ps)).after (moves.map .move)).thread? t = some th) :
    ∀ x ∈ th.stack, x.IsOwn := by
  obtain ⟨haccounts, -⟩ := hr.joined hp hw hrg c
  have hsize := (hr.accounts_after hp hw hrg c).2
  obtain ⟨th₀, hth₀⟩ : ∃ th₀, (w.after (c.asked guard ps)).thread? t = some th₀ := by
    have hsame := (haccounts.after hp.distinct hp.free hw.known (hw.after _) (hrg.after hw _) moves).2
    obtain ⟨hlt, -⟩ := Array.getElem?_eq_some_iff.mp hth
    exact ⟨_, Array.getElem?_eq_getElem (hsame ▸ hlt)⟩
  have hold : (w.after (c.work guard ps)).thread? t = some th₀ := by
    rw [Plan.Schedule.asked, after_snoc] at hth₀
    simpa only [System.occur, spawn, thread?, Array.getElem?_push, hsize, if_neg hne] using hth₀
  obtain ⟨th', hth', hown⟩ := haccounts.forall_after hp.distinct hp.free hw.known
    (fun ha ht => Frame.advance_own ha.calm (ha.acting_tame ht)) (fun _ hy _ => Frame.own_receive hy)
    (hw.after _) (hrg.after hw _) hth₀ (hr.steady_after hp hw hrg c hold).1 moves
  cases hth.symm.trans hth'
  exact hown

end Flush

section Boot
variable (probes : Array Probe) (environment : Environment) (output : Output) (es : List Event)
  (hr : ((boot probes environment output).after es).Ready guard g)
  (hp : Plan.Apt ((boot probes environment output).after es).store ps)
include hr hp

/-- While the flush goes on the source is an open queue. -/
theorem Ready.source_asked (c : Plan.Schedule) (moves : List Move) : ∃ a,
    ((boot probes environment output).after (es ++ (c.asked guard ps ++ moves.map .move))).site? g = some a ∧
      a.source.IsPlain ∧ a.source.isInterrupted = false := by
  have hw := orderly_after probes environment output es
  have hrg := regular_after probes environment output es
  obtain ⟨a, ha, hplain⟩ :=
    hr.source_after (manned_after probes environment output es) (c.asked guard ps ++ moves.map .move)
  obtain ⟨haccounts, -⟩ := hr.joined hp hw hrg c
  obtain ⟨y, hy, hopen, -⟩ :=
    (haccounts.after hp.distinct hp.free hw.known (hw.after _) (hrg.after hw _) moves).1.opens
  rw [← after_append] at hy
  obtain ⟨y', hy', -, hsource⟩ := guard?_site ha
  cases hy.symm.trans hy'
  rw [← after_append] at ha
  exact ⟨a, ha, hplain, hsource ▸ hopen⟩

/-- Where no thread can act then, the worker waits. -/
theorem Ready.waits (c : Plan.Schedule) (moves : List Move) {answer : Option Bool}
    (hidle : ((boot probes environment output).after (es ++ (c.asked guard ps ++ moves.map .move))).Idle)
    (hth : ((boot probes environment output).after (es ++ (c.asked guard ps ++ moves.map .move))).thread?
      (((boot probes environment output).after es).threads.size + ps.length) = some th)
    (hflushes : Flushes guard g c.patience .helper answer th) :
    ((boot probes environment output).after (es ++ (c.asked guard ps ++ moves.map .move))).Waits g := by
  obtain ⟨a, ha, hplain, hopen⟩ := hr.source_asked probes environment output es hp c moves
  refine hidle.waits probes environment output _ ha hplain.gate hopen hplain.panicsAt hth
    (duty_of_flushes hflushes) fun t' th' hne hth' => ?_
  rw [after_append, after_append] at hth'
  exact hr.own_asked hp (orderly_after probes environment output es) (regular_after probes environment output es)
    c moves hne hth'

/-- A flush that comes after programs does not answer no where no deadline passes too early. -/
theorem Ready.not_refused (c : Plan.Schedule)
    (hlate : ∀ before t rest, c.flush = before ++ .expire t :: rest →
      ((boot probes environment output).after (es ++ (c.asked guard ps ++ before.map .move))).Idle) :
    ∃ answer th, ((boot probes environment output).after (es ++ c.events guard ps)).thread?
        (((boot probes environment output).after es).threads.size + ps.length) = some th ∧
      Flushes guard g c.patience .helper answer th ∧ answer ≠ some false := by
  have hw := orderly_after probes environment output es
  have hrg := regular_after probes environment output es
  obtain ⟨haccounts, hthread⟩ := hr.joined hp hw hrg c
  obtain ⟨answer, th, hth, hflushes, hcases⟩ := haccounts.flushes_after hp.distinct hp.free hw.known
    (hw.after _) (hrg.after hw _) hthread c.flush
  refine ⟨answer, th, by rwa [Plan.Schedule.events, after_append, after_append], hflushes, ?_⟩
  rintro rfl
  obtain ⟨moves₁, moves₂, p, -, hacting, hp'⟩ | ⟨-, moves₁, moves₂, k, w', hmoves, hwaiting, hmove⟩ :=
    hcases false rfl
  all_goals
    obtain ⟨a, ha, hplain, hopen⟩ := hr.source_asked probes environment output es hp c moves₁
    have hbarrier := @flush_barrier
      (((boot probes environment output).after es).threads.size + ps.length) g c.patience .opens
      probes environment output _ a ha hplain.refuses hplain.swallows
  · -- only where the source is interrupted a flush answers no
    rw [← after_append, ← after_append] at hacting hp'
    obtain ⟨a', ha', hint, -⟩ := (hbarrier.1 p false hacting hp').interrupted
    cases ha.symm.trans ha'
    rw [hopen] at hint
    cases hint
  · -- a deadline passes when the worker waits, and then the request is in nobody's hands
    rw [← after_append, ← after_append] at hwaiting hmove
    have hwaits := hr.waits probes environment output es hp c moves₁ (hlate moves₁ _ moves₂ hmoves) hwaiting
      (.waits _)
    exact hwaits.not_held (answered_after probes environment output _) ha k
      (hbarrier.2 _ _ k w' hwaiting rfl hmove).held

/-- Where nothing can happen after the flush has begun, it has been answered. -/
theorem Ready.answered (c : Plan.Schedule) (hpatience : c.patience = .deadline) {answer : Option Bool}
    (hnext : ((boot probes environment output).after (es ++ c.events guard ps)).next? = none)
    (hth : ((boot probes environment output).after (es ++ c.events guard ps)).thread?
      (((boot probes environment output).after es).threads.size + ps.length) = some th)
    (hflushes : Flushes guard g c.patience .helper answer th) :
    ∃ b, answer = some b ∧ th.outcome = some (.did [.flag b]) := by
  obtain ⟨hidle, hexpired⟩ := idle_of_next hnext
  have hready := hidle _ th hth
  have hwaits := hr.waits probes environment output es hp c c.flush hidle hth hflushes
  cases hflushes with
  | begins => cases hready
  | waits p =>
    cases p with
    | waiting k =>
      -- either the request is answered, or the deadline can pass
      have hpending := hexpired _ _ hth
      simp only [Thread.isReady, Frame.isReady, Bool.not_eq_false'] at hready
      simp only [Thread.expired?, Frame.expired?, hpatience, hready] at hpending
      cases hpending
    | _ => cases hready
  | rests b => cases hready.symm.trans hwaits.rests
  | ends b => cases hready
  | ended b => exact ⟨b, rfl, rfl⟩

/-- Left to the standard schedule programs end, and the flush after them is answered. -/
theorem Ready.settles : ∃ c : Plan.Schedule, ((boot probes environment output).after es).Completes guard ps c ∧
    (((boot probes environment output).after es).after (Plan.joins guard ps)).settle =
      ((boot probes environment output).after es).after (c.work guard ps) ∧
    ((((boot probes environment output).after es).after (c.work guard ps)).occur
        (.join .helper [.flush guard .deadline .opens])).settle =
      ((boot probes environment output).after es).after (c.events guard ps) := by
  have hw := orderly_after probes environment output es
  have hrg := regular_after probes environment output es
  obtain ⟨moves, hmoves, -⟩ :=
    (((boot probes environment output).after es).after (Plan.joins guard ps)).settle_eq
  obtain ⟨moves', hmoves', hlate⟩ := ((((boot probes environment output).after es).after
    (Plan.joins guard ps ++ moves.map .move)).occur (.join .helper [.flush guard .deadline .opens])).settle_eq
  let c : Plan.Schedule := { programs := moves, patience := .deadline, flush := moves' }
  have hwork : (((boot probes environment output).after es).after (Plan.joins guard ps)).settle =
      ((boot probes environment output).after es).after (c.work guard ps) := by
    rw [Plan.Schedule.work, after_append]
    exact hmoves
  have hevents : ((((boot probes environment output).after es).after (c.work guard ps)).occur
      (.join .helper [.flush guard .deadline .opens])).settle =
      ((boot probes environment output).after es).after (c.events guard ps) := by
    rw [Plan.Schedule.events, Plan.Schedule.asked, after_append, after_snoc]
    exact hmoves'
  refine ⟨c, ⟨fun t th hle hth => ?_, ?_⟩, hwork, hevents⟩
  · have hidle := (idle_of_next (settle_next (hw.after (Plan.joins guard ps)))).1
    rw [hwork] at hidle
    exact hr.ended hp hw hrg (awake_after probes environment output es) c hidle hle hth
  · obtain ⟨answer, th, hth, hflushes, hyes⟩ :=
      hr.not_refused probes environment output es hp c fun before t rest heq => by
        rw [after_append, Plan.Schedule.asked, after_append, after_snoc]
        exact hlate before t rest heq
    have hnext := settle_next ((hw.after (c.work guard ps)).step (.join .helper [.flush guard .deadline .opens]))
    rw [hevents, ← after_append] at hnext
    obtain ⟨b, rfl, hout⟩ := hr.answered probes environment output es hp c rfl hnext hth hflushes
    rw [after_append] at hth
    cases b with
    | true => exact ⟨th, hth, hout⟩
    | false => exact absurd rfl hyes

end Boot

end System

end Reclaim

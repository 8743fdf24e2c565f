import Reclaim.Proofs.Barrier

/-!
# Stopping is final

Once the worker of a guard has stopped, its source is interrupted and empty, its sink has been told once,
and nobody waits for it. A request to flush may still be in the hands of a thread that has interrupted the
source, and destroys it without anybody's help; all others are answered. From then on the worker does nothing,
and its sink is told nothing but that handles leak.

* `System.Destroys`, `System.Destroys.turns` : a thread that is about to destroy requests;
* `Site.Step.stopped` : what can still happen at the site of a worker that has ended;
* `Store.LeaksDrops`, `Store.KeepsReleases` : what becomes of drops and of calls to release;
* `System.Stopped` : what a worker leaves that has stopped; `System.stopping_is_final`;
* `System.stopped_before_destroying` : a worker that stops while a request is about to be destroyed.
-/

namespace Reclaim

/-- Whether something done is that a handle is reported as leaked. -/
def Deed.isLeak : Deed → Bool
  | said _ (some _) (.leakedAfterStop _) _ => true
  | _ => false

/-- Whether the operation may have to wait for the worker of a guard. -/
def Frame.waitsFor (g : GuardId) : Frame → Bool
  | .flush g' _ _ _ | .rest g' _ | .shutdown g' _ => g' == g
  | _ => false

/-- A worker whose frame is still there has not ended. -/
theorem duty_ne_gone {stack : List Frame} {g : GuardId} {stage : Stage}
    (h : duty stack = some (g, stage)) : stage ≠ .gone := by
  fun_induction duty stack with
  | case1 g' p =>
    cases h
    nofun
  | case2 x g' id =>
    cases h
    split <;> nofun
  | case3 x y z rest ih => exact ih h
  | case4 => cases h

/-- A worker that is not running a callback has nothing above its frame. -/
theorem stack_of_duty {stack : List Frame} {g : GuardId} {p : WorkerPoint}
    (h : duty stack = some (g, .point p)) : stack = [.worker g p] := by
  fun_induction duty stack with
  | case1 g' p' =>
    cases h
    rfl
  | case2 x g' id =>
    split at h <;> cases h
  | case3 x y z rest ih => cases ih h
  | case4 => cases h

/-- Where a worker has ended and its source is interrupted, all that is still done is that handles are
reported as leaked. -/
theorem Site.Step.stopped {s : Store} {ms : History} {g : GuardId} {a a' : Site} {ds : Trace}
    (hs : a.Step s ms g ds a') (hstage : a.stage = .gone) (hint : a.source.isInterrupted = true) :
    a'.stage = .gone ∧ a'.state = a.state ∧ ∀ d ∈ ds, d.isLeak = true := by
  cases hs with
  | visit hv =>
    refine ⟨hstage, hv.shown.2.1, ?_⟩
    cases hv with
    | accept hsource | ask hsource =>
      have hopen := (Source.enqueue_eq_some hsource).1
      rw [show a.source.isInterrupted = true from hint] at hopen
      cases hopen
    | leak =>
      intro d hd
      rw [List.mem_singleton.mp hd]
      rfl
    | _ => nofun
  | chore hc =>
    rw [hstage] at hc
    cases hc

/-! ## Requests that are destroyed -/

/-- A destroyed request that was pending is closed; one that has been answered stays as it is. -/
theorem Store.getElem?_closeAcks (acks : List Nat) (s : Store) (k : Nat) :
    (acks.foldl closeAck s).acks[k]? =
      if k ∈ acks then s.acks[k]?.map Oneshot.close else s.acks[k]? := by
  induction acks generalizing s with
  | nil => rfl
  | cons k' acks ih =>
    rw [List.foldl_cons, ih, closeAck, Array.getElem?_modify]
    have htwice : Oneshot.close ∘ Oneshot.close = (Oneshot.close : Oneshot Unit → _) :=
      funext fun cell => by cases cell <;> rfl
    by_cases hfirst : k' = k
    · subst hfirst
      by_cases hin : k' ∈ acks <;> simp [hin, htwice]
    · by_cases hin : k ∈ acks <;> simp [hin, hfirst, Ne.symm hfirst]

/-- The guard at whose interrupted source flush requests were pending, and those that the operation is still
about to destroy. -/
def Frame.destroys? : Frame → Option (GuardId × List Nat)
  | .discard g acks | .shutdown g (.discarding acks) | .worker g (.discarding _ acks) => some (g, acks)
  | _ => none

/-- It is ready to destroy the first of them, and comes to the others. -/
theorem Frame.advance_destroys {frame : Frame} {g : GuardId} {k : Nat} {acks : List Nat}
    (h : frame.destroys? = some (g, k :: acks)) (s : Store) (t fresh : ThreadId) :
    frame.isReady s = true ∧ frame.waits = false ∧
      ∃ next, next.destroys? = some (g, acks) ∧ frame.advance t fresh s = (s.closeAck k, .goto next) := by
  unfold destroys? at h
  split at h <;> cases h
  · exact ⟨rfl, rfl, _, rfl, rfl⟩
  · exact ⟨rfl, rfl, _, rfl, rfl⟩
  · exact ⟨rfl, rfl, _, rfl, rfl⟩

namespace System
variable {w : System} {h : History} {g : GuardId} {t : ThreadId} {a : Site} {k : Nat} {acks : List Nat}

/-- A thread has interrupted the source of a guard, and is about to destroy these requests, which were pending
there. -/
def Destroys (w : System) (g : GuardId) (t : ThreadId) (acks : List Nat) : Prop :=
  ∃ name frame below out, w.thread? t = some ⟨name, frame :: below, out⟩ ∧ frame.destroys? = some (g, acks)

/-- When its turn comes, it destroys the first. -/
theorem Destroys.turn (h : w.Destroys g t (k :: acks)) :
    (w.occur (.move (.act t))).Destroys g t acks ∧
      (w.occur (.move (.act t))).store = w.store.closeAck k := by
  obtain ⟨name, frame, below, out, hth, hframe⟩ := h
  obtain ⟨hready, -, next, hnext, hadvance⟩ := frame.advance_destroys hframe w.store t w.threads.size
  have hacting : w.acting? t = some frame := by
    simp only [acting?, hth]
    exact if_pos hready
  obtain ⟨th, rest, hth', hstack, -, hall⟩ := thread?_act hacting
  cases hth.symm.trans hth'
  cases hstack
  rw [occur_acting hacting]
  refine ⟨⟨name, next, below, out, ?_, hnext⟩, ?_⟩
  · rw [hall, if_pos rfl, hadvance]
    rfl
  · rw [act_eq hth, hadvance]

/-- Its own next turns are enough for it to destroy them all. -/
theorem Destroys.turns (h : w.Destroys g t acks) :
    (w.after (Reclaim.turns t acks.length)).store = acks.foldl Store.closeAck w.store := by
  induction acks generalizing w with
  | nil => rfl
  | cons k acks ih =>
    obtain ⟨hnext, hstore⟩ := h.turn
    rw [List.foldl_cons, ← hstore, ← ih hnext]
    rfl

theorem Destroys.closes (h : w.Destroys g t acks) (hk : k ∈ acks) :
    (w.after (Reclaim.turns t acks.length)).store.acks[k]? = w.store.acks[k]?.map Oneshot.close := by
  rw [h.turns, Store.getElem?_closeAcks, if_pos hk]

/-- Requests that are about to be destroyed are in the hands of a thread. -/
theorem Manned.destroys (hm : w.Manned h) (ha : w.site? g = some a) (hk : a.Throws k) :
    ∃ t acks, w.Destroys g t acks ∧ k ∈ acks := by
  have hfound : ∀ {t : ThreadId} {th : Thread} {frame below acks}, w.thread? t = some th →
      th.stack = frame :: below → frame.destroys? = some (g, acks) → k ∈ acks →
      ∃ t acks, w.Destroys g t acks ∧ k ∈ acks := fun {t th frame below acks} hth hstack hframe hin => by
    obtain ⟨name, stack, out⟩ := th
    obtain rfl : stack = frame :: below := hstack
    exact ⟨t, acks, ⟨name, frame, below, out, hth, hframe⟩, hin⟩
  rcases hk with hstage | hstake
  · -- the worker is about to
    obtain ⟨d, hd, rfl⟩ := Option.map_eq_some_iff.mp ha
    obtain ⟨th, hth, stage, hduty | ⟨hempty, -⟩⟩ := hm.staffed.posted g d hd
    · have hstage' : k ∈ stage.requests := stageAt_eq hth hduty ▸ hstage
      cases stage with
      | point p =>
        cases p with
        | discarding exit acks => exact hfound hth (stack_of_duty hduty) rfl hstage'
        | _ => cases hstage'
      | _ => cases hstage'
    · have hgone : w.stageAt d.worker = .gone := by
        simp only [stageAt, hth, Option.bind_some, hempty]
        rfl
      rw [show Site.stage _ = _ from hgone] at hstage
      cases hstage
  · rw [site?_stakes ha] at hstake
    obtain ⟨th, hth, frame, hframe, hin⟩ := mem_tally.mp hstake
    obtain ⟨t, ht⟩ := Array.mem_iff_getElem?.mp hth
    obtain ⟨acks, hframe', hwaits, hin⟩ : ∃ acks, frame.destroys? = some (g, acks) ∧ frame.waits = false ∧
        k ∈ acks := by
      unfold Frame.stakesAt at hin
      split at hin
      · split at hin <;> simp at hin
      · split at hin
        · next heq => exact ⟨_, by rw [← heq]; rfl, rfl, Stake.mem_requests.mp hin⟩
        · simp at hin
      · split at hin
        · next heq => exact ⟨_, by rw [← heq]; rfl, rfl, Stake.mem_requests.mp hin⟩
        · simp at hin
      · simp at hin
    obtain ⟨below, hstack⟩ := (hm.orderly.1 th hth).top hframe hwaits
    exact hfound ht hstack hframe' hin

end System

/-! ## Drops and releases -/

namespace Store
variable {s : Store} {g : GuardId}

/-- An interrupted source hands everything back. -/
theorem enqueue_interrupted {d : Desk} (hd : s.desk? g = some d) (hint : d.source.isInterrupted = true)
    (item : Item) : s.enqueue g item = (s, false) := by
  obtain ⟨source, hsource, -⟩ | ⟨-, heq⟩ := Store.sets_enqueue hd item
  · have hopen := (Source.enqueue_eq_some hsource).1
    rw [hint] at hopen
    cases hopen
  · exact heq

/-- A drop of one of the guard's handles that finds it active comes to telling the sink of the leak, once,
whatever happens in between; the handle, the registries and the counters stay as they are. -/
structure LeaksDrops (s : Store) (g : GuardId) : Prop where
  check : ∀ id e, s.resource? id = some e → e.guard = g → e.state = .active →
    DropPoint.check.advance s id = (s, .goto (.drop id .enqueue))
  enqueue : ∀ id e, s.resource? id = some e → e.guard = g →
    DropPoint.enqueue.advance s id = (s, .goto (.drop id .leak)) ∧
      ∀ path p, (Frame.drop id .enqueue).deeds s path p = []
  leak : ∀ id e, s.resource? id = some e → e.guard = g →
    ∃ s' o panicked, DropPoint.leak.advance s id = (s', .finish o) ∧
      (∀ path, (Frame.drop id .leak).deeds s path (.finish o) =
        [.said g (some id) (.leakedAfterStop e.address) panicked]) ∧
      (∀ id, s'.resource? id = s.resource? id) ∧
      ∀ g', (s'.gist? g').map (fun x => (x.registry, x.stats)) =
        (s.gist? g').map fun x => (x.registry, x.stats)

theorem leaksDrops {d : Desk} (hd : s.desk? g = some d) (hint : d.source.isInterrupted = true) :
    s.LeaksDrops g where
  check id e he _ hactive := by simp only [DropPoint.advance, he, Option.map_some, hactive]
  enqueue id e he hg := by
    subst hg
    have hback := enqueue_interrupted hd hint (.reclaim id)
    refine ⟨by simp only [DropPoint.advance, he, hback], fun path p => ?_⟩
    simp only [Frame.deeds, he, accepts, hback]
    rfl
  leak id e he hg := by
    subst hg
    have htouches := s.touches_emit_leak e.guard e.address
    refine ⟨(s.emit e.guard (.leakedAfterStop e.address)).1, ?_⟩
    simp only [DropPoint.advance, Frame.deeds, he, tells]
    generalize s.emit e.guard (.leakedAfterStop e.address) = r at htouches
    obtain ⟨s', panic⟩ := r
    have hkept : ∀ g', (s'.gist? g').map (fun x => (x.registry, x.stats)) =
        (s.gist? g').map fun x => (x.registry, x.stats) := fun g' => by
      rw [htouches.gist]
      split
      · simp [Function.comp_def, Gist.leak]
      · rfl
    cases panic <;> exact ⟨_, _, rfl, fun _ => rfl, htouches.entry, hkept⟩

/-- A call to release one of the guard's handles that is active claims it and goes on to its callback. -/
structure KeepsReleases (s : Store) (g : GuardId) : Prop where
  claims : ∀ id e, s.resource? id = some e → e.guard = g → e.state = .active →
    ∃ s', ReleasePoint.retire.advance s id = (s', .goto (.release id .count)) ∧ s.Claims s' g id ∧
      ReleasePoint.count.advance s' id =
        (s'.countReleased id, .call (.callback id .enter) (.release id .running))

theorem keepsReleases (s : Store) (g : GuardId) : s.KeepsReleases g := by
  refine ⟨fun id e he hg hactive => ?_⟩
  subst hg
  obtain ⟨-, htrue, hclaims⟩ | ⟨hreleased, -⟩ := retire_cases he
  · refine ⟨(s.retire id).1, ?_, hclaims, rfl⟩
    simp only [ReleasePoint.advance]
    generalize s.retire id = r at htrue
    obtain ⟨s', won⟩ := r
    obtain rfl : won = true := htrue
    rfl
  · rw [hactive] at hreleased
    cases hreleased

end Store

/-! ## A worker that has stopped -/

namespace System
variable {w : System} {h : History} {tr : Trace} {g : GuardId} {a : Site}

/-- What the worker of a guard leaves that has stopped. -/
structure Stopped (w : System) (tr : Trace) (g : GuardId) (a : Site) : Prop where
  state : a.state = .stopped
  /-- The source is interrupted and empty, and hands everything back. -/
  interrupted : a.source.isInterrupted = true
  pending : a.source.pending = 0
  refuses : ∀ item, w.store.enqueue g item = (w.store, false)
  /-- The sink has been told of the end, once. -/
  said : a.said = tr.said g ∧ a.said.count .interrupted = 1
  /-- Every request that has been accepted is answered or closed, or in the hands of a thread that is about to
  close it, -/
  answered : ∀ k, .flush k ∈ tr.accepted g →
    a.cells[k]? = some (.ready ()) ∨ a.cells[k]? = some .consumed ∨
      a.cells[k]? = some .pending ∧ ∃ t acks, w.Destroys g t acks ∧ k ∈ acks
  /-- for which its own next turns are enough. -/
  destroys : ∀ t acks, w.Destroys g t acks → ∀ k ∈ acks,
    (w.after (turns t acks.length)).store.acks[k]? = a.cells[k]?.map Oneshot.close
  /-- Every other request is handed back, which closes it. -/
  requests : ∀ patience gate, ∃ s', FlushPoint.request.advance w.store g patience gate =
      (s', .finish (.flag false)) ∧ s'.acks = w.store.acks.push .consumed
  /-- Nobody has to wait for the worker; a flush may have to wait for a thread that closes its request, -/
  ready : ∀ th ∈ w.threads, ∀ frame rest, th.stack = frame :: rest → frame.waitsFor g = true →
    frame.isReady w.store = true ∨ ∃ patience gate k, frame = .flush g patience gate (.waiting k) ∧
      ∃ t acks, w.Destroys g t acks ∧ k ∈ acks
  /-- and whatever a flush does next, it answers. -/
  answers : ∀ patience gate (p : FlushPoint),
    ∃ b, (p.advance w.store g patience gate).2.answer? = some b
  /-- The worker's thread has nothing left to do. -/
  ended : ∃ th, w.thread? a.worker = some th ∧ th.stack = []
  drops : w.store.LeaksDrops g
  releases : w.store.KeepsReleases g

/-- The worker's thread has come to its end. -/
theorem Manned.ended (hm : w.Manned h) (ha : w.site? g = some a) (hstage : a.stage = .gone) :
    ∃ th, w.thread? a.worker = some th ∧ th.stack = [] := by
  obtain ⟨d, hd, rfl⟩ := Option.map_eq_some_iff.mp ha
  obtain ⟨th, hth, stage, hduty | ⟨hempty, -⟩⟩ := hm.staffed.posted g d hd
  · exact absurd ((stageAt_eq hth hduty).symm.trans hstage) (duty_ne_gone hduty)
  · exact ⟨th, hth, hempty⟩

/-- A flush at a guard whose worker has stopped answers next. -/
theorem answers_of_stopped {d : Desk} (hd : w.store.desk? g = some d) (hstate : d.state = .stopped)
    (hint : d.source.isInterrupted = true) (patience : Patience) (gate : GateUse) (p : FlushPoint) :
    ∃ b, (p.advance w.store g patience gate).2.answer? = some b := by
  obtain ⟨x, hx, rfl⟩ := Store.guard_of_desk hd
  have hstate : x.state = .stopped := hstate
  have hint' : x.source.isInterrupted = true := hint
  cases p with
  | checkStopped =>
    refine ⟨false, ?_⟩
    simp only [FlushPoint.advance, hx, Option.map_some, hstate]
    rfl
  | checkInterrupted =>
    refine ⟨false, ?_⟩
    simp only [FlushPoint.advance, hx, Option.map_some, hint']
    rfl
  | request =>
    have hback := Store.enqueue_interrupted (s := w.store.newAck.1) hd hint (.flush w.store.newAck.2)
    refine ⟨false, ?_⟩
    simp only [FlushPoint.advance, hback]
    rfl
  | waiting k =>
    simp only [FlushPoint.advance]
    split <;> exact ⟨_, rfl⟩

/-- A request that is handed back is closed. -/
theorem request_of_interrupted {d : Desk} (hd : w.store.desk? g = some d)
    (hint : d.source.isInterrupted = true) (patience : Patience) (gate : GateUse) :
    ∃ s', FlushPoint.request.advance w.store g patience gate = (s', .finish (.flag false)) ∧
      s'.acks = w.store.acks.push .consumed := by
  have hback := Store.enqueue_interrupted (s := w.store.newAck.1) hd hint (.flush w.store.newAck.2)
  refine ⟨w.store.newAck.1.closeAck w.store.newAck.2, by simp only [FlushPoint.advance, hback], ?_⟩
  apply Array.ext_getElem?
  intro k
  simp only [Store.closeAck, Store.newAck, Array.getElem?_modify, Array.getElem?_push]
  grind [Oneshot.close]

/-- Nobody has to wait for a worker that has ended. -/
theorem ready_of_ended {x : Guard} (hx : w.store.guard? g = some x) (hexit : x.exit.isSome = true)
    (ha : w.site? g = some a) (hanswered : a.Answered (tr.of g))
    (hdone : ∀ k, .flush k ∈ tr.accepted g →
      a.cells[k]? = some (.ready ()) ∨ a.cells[k]? = some .consumed ∨
        a.cells[k]? = some .pending ∧ ∃ t acks, w.Destroys g t acks ∧ k ∈ acks)
    {th : Thread} (hth : th ∈ w.threads) {frame : Frame} {rest : List Frame}
    (hstack : th.stack = frame :: rest) (hfor : frame.waitsFor g = true) :
    frame.isReady w.store = true ∨ ∃ patience gate k, frame = .flush g patience gate (.waiting k) ∧
      ∃ t acks, w.Destroys g t acks ∧ k ∈ acks := by
  cases frame with
  | flush g' patience gate p =>
    cases p with
    | waiting k =>
      obtain rfl : g' = g := beq_iff_eq.mp hfor
      obtain ⟨t, ht⟩ := Array.mem_iff_getElem?.mp hth
      have hasked := hanswered.waits k (waits_of_stack ha ht hstack)
      have hready : ∀ {cell : Oneshot Unit}, a.cells[k]? = some cell → cell.isPending = false →
          (Frame.flush g' patience gate (.waiting k)).isReady w.store = true := fun hcell hfull => by
        simp [Frame.isReady, Store.isAckPending, site?_cells ha, hcell, hfull]
      rcases hdone k (Trace.mem_asks.mp hasked) with hcell | hcell | ⟨-, hdestroys⟩
      · exact .inl (hready hcell rfl)
      · exact .inl (hready hcell rfl)
      · exact .inr ⟨patience, gate, k, rfl, hdestroys⟩
    | _ => exact .inl rfl
  | rest g' reply =>
    obtain rfl : g' = g := beq_iff_eq.mp hfor
    exact .inl (by simp only [Frame.isReady, Store.isAtRest, hx, hexit, Bool.true_or])
  | shutdown g' p =>
    cases p with
    | joining =>
      obtain rfl : g' = g := beq_iff_eq.mp hfor
      exact .inl (by simpa only [Frame.isReady, hx] using hexit)
    | _ => exact .inl rfl
  | _ => cases hfor

variable (probes : Array Probe) (environment : Environment) (output : Output) (es : List Event)

theorem stopped_after (ha : ((boot probes environment output).after es).site? g = some a)
    (hstate : a.state = .stopped) : Stopped ((boot probes environment output).after es)
      ((boot probes environment output).trace es) g a := by
  have hm := manned_after probes environment output es
  obtain ⟨hsaid, hshown, hexit, hclosed, hfarewells⟩ := shown_after probes environment output es ha
  have hanswered := (answered_after probes environment output es).sites g a ha
  have hstage : a.stage = .gone := Stage.states_eq_stopped (hstate ▸ hshown)
  have hint : a.source.isInterrupted = true := hclosed (by rw [hstage]; rfl)
  have hitems : a.source.queue.items = [] := hanswered.queued.books.closed hint
  have hd := site?_desk ha
  obtain ⟨x, hx, hdesk⟩ := Store.guard_of_desk hd
  have hleft : x.exit.isSome = true := by
    rw [show x.exit = a.exit from congrArg Desk.exit hdesk]
    exact hexit.mpr hstage
  have hdone : ∀ k, .flush k ∈ ((boot probes environment output).trace es).accepted g →
      a.cells[k]? = some (.ready ()) ∨ a.cells[k]? = some .consumed ∨
        a.cells[k]? = some .pending ∧
          ∃ t acks, ((boot probes environment output).after es).Destroys g t acks ∧ k ∈ acks := fun k hk => by
    have hasked := Trace.mem_asks.mpr hk
    obtain ⟨cell, hcell⟩ : ∃ cell, a.cells[k]? = some cell :=
      ⟨_, Array.getElem?_eq_getElem (hanswered.numbered k hasked)⟩
    cases cell with
    | ready value => exact .inl hcell
    | consumed => exact .inr (.inl hcell)
    | pending =>
      -- neither in the queue nor in the worker's hands, so some thread destroys it
      rcases hanswered.held k hasked hcell with hin | hhand | hthrown
      · rw [hitems] at hin
        cases hin
      · rw [hstage] at hhand
        cases hhand
      · exact .inr (.inr ⟨hcell, hm.destroys ha hthrown⟩)
  exact
    { state := hstate
      interrupted := hint
      pending := by rw [Source.pending, Queue.pending, hitems, List.length_nil]
      refuses := Store.enqueue_interrupted hd hint
      said := ⟨hsaid, by rw [hsaid, hfarewells, hstage]; rfl⟩
      answered := hdone
      destroys := fun _ _ hdestroys k hk => site?_cells ha ▸ hdestroys.closes hk
      requests := request_of_interrupted hd hint
      ready := fun th hth frame rest => ready_of_ended hx hleft ha hanswered hdone hth
      answers := answers_of_stopped hd hstate hint
      ended := hm.ended ha hstage
      drops := Store.leaksDrops hd hint
      releases := Store.keepsReleases _ g }

/-- Stopping is final: what the worker of a guard is said to be doing goes back and forth between waiting
and processing until it stops, for good; then nobody waits for it, nothing gets into its source, and
the sink is told nothing but that handles leak. -/
theorem stopping_is_final (ha : ((boot probes environment output).after es).site? g = some a) :
    (∀ e, ∃ a', ((boot probes environment output).after (es ++ [e])).site? g = some a' ∧
      a.state.Next a'.state) ∧
    (a.state = .stopped → ∀ es', ∃ a',
      ((boot probes environment output).after (es ++ es')).site? g = some a' ∧
      Stopped ((boot probes environment output).after (es ++ es'))
        ((boot probes environment output).trace (es ++ es')) g a' ∧
      ∀ d ∈ (((boot probes environment output).after es).trace es').of g, d.isLeak = true) := by
  have hm := manned_after probes environment output es
  have hshown := shown_after probes environment output es ha
  constructor
  · intro e
    rw [after_snoc]
    rcases (hm.turn e).1.site g with
      ⟨hnone, -⟩ | ⟨hnone, -⟩ | ⟨-, b, cells, hb, hb'⟩ | ⟨b, b', hb, hb', hstep⟩
    · cases hnone.symm.trans ha
    · cases hnone.symm.trans ha
    · cases ha.symm.trans hb
      exact ⟨_, hb', .same _⟩
    · cases ha.symm.trans hb
      exact ⟨b', hb', (hshown.step hstep).2⟩
  · intro hstate es'
    have hstage : a.stage = .gone := Stage.states_eq_stopped (hstate ▸ hshown.state)
    obtain ⟨a', ha', hgone, hleaks⟩ : ∃ a',
        (((boot probes environment output).after es).after es').site? g = some a' ∧
        (a'.stage = .gone ∧ a'.source.isInterrupted = true ∧ a'.state = .stopped) ∧
        ∀ d ∈ (((boot probes environment output).after es).trace es').of g, d.isLeak = true := by
      refine hm.site_continues
        (P := fun b _ tr => (b.stage = .gone ∧ b.source.isInterrupted = true ∧ b.state = .stopped) ∧
          ∀ d ∈ tr, d.isLeak = true) ha
        ⟨⟨hstage, hshown.closed (by rw [hstage]; rfl), hstate⟩, nofun⟩ (fun hb hs => ?_) (fun h => h) es'
      obtain ⟨⟨hstage, hint, hstate⟩, hold⟩ := hb
      obtain ⟨hstage', hsame, hnew⟩ := hs.stopped hstage hint
      exact ⟨⟨hstage', hs.move.1.isInterrupted hint, hsame.trans hstate⟩,
        List.forall_mem_append.mpr ⟨hold, hnew⟩⟩
    rw [← after_append] at ha'
    exact ⟨a', ha', stopped_after probes environment output _ ha' hgone.2.2, hleaks⟩

/-- The second call for an item panics, and so does the sink at the end of the worker; one handle was
dropped before and another is dropped after that, and then the guard is flushed. -/
def unwinding : List Event :=
  .join .caller
      [.startGuard "g" { panicsOn := [.interrupted] } .gated (some 2),
        .register (.guard "g") "x" { address := 7, callback := some {} },
        .register (.guard "g") "y" { address := 8, callback := some {} }, .drop "x",
        .flush "g" .unlimited .opens, .drop "y", .flush "g" .unlimited .opens] ::
    (List.replicate 60 [.move (.act 0), .move (.act 1)]).flatten

theorem stopping_is_final_unwinding :
    ∃ a, ((boot #[] none {}).after unwinding).site? 0 = some a ∧ a.exit = some .abnormal ∧
      a.said = [.notProperlyClosed 7, .destroyed none 7, .interrupted, .leakedAfterStop 8] ∧
      ∀ es, ∃ a', ((boot #[] none {}).after (unwinding ++ es)).site? 0 = some a' ∧
        Stopped ((boot #[] none {}).after (unwinding ++ es))
          ((boot #[] none {}).trace (unwinding ++ es)) 0 a' := by
  have hrun : (((boot #[] none {}).after unwinding).site? 0).map
      (fun a => (a.exit, a.said, a.state)) = some (some .abnormal,
        [.notProperlyClosed 7, .destroyed none 7, .interrupted, .leakedAfterStop 8], .stopped) := by
    decide +kernel
  obtain ⟨a, ha, heq⟩ := Option.map_eq_some_iff.mp hrun
  obtain ⟨hexit, heq⟩ := Prod.mk.inj heq
  obtain ⟨hsaid, hstate⟩ := Prod.mk.inj heq
  refine ⟨a, ha, hexit, hsaid, fun es => ?_⟩
  obtain ⟨a', ha', hstopped, -⟩ := (stopping_is_final #[] none {} unwinding ha).2 hstate es
  exact ⟨a', ha', hstopped⟩

/-- A flush waits, another thread interrupts the source, and before that thread goes on the worker finds the
source interrupted and stops. -/
def preempted : List Event :=
  .join .caller [.startGuard "g" {} .plain none, .flush "g" .unlimited .opens] :: turns 0 8 ++
    .join .caller [.shutdown "g"] :: turns 2 2 ++ turns 1 7

/-- Then an accepted request is still unanswered, and the flush waits on. -/
theorem stopped_before_destroying :
    ∃ a, ((boot #[] none {}).after preempted).site? 0 = some a ∧ a.state = .stopped ∧
      .flush 0 ∈ ((boot #[] none {}).trace preempted).accepted 0 ∧ a.cells[0]? = some .pending ∧
      ((boot #[] none {}).after preempted).thread? 0 ≠ none ∧
      ((boot #[] none {}).after preempted).acting? 0 = none := by
  have hrun : (((boot #[] none {}).after preempted).site? 0).map (fun a => (a.state, a.cells[0]?)) =
      some (.stopped, some .pending) := by decide +kernel
  obtain ⟨a, ha, heq⟩ := Option.map_eq_some_iff.mp hrun
  obtain ⟨hstate, hcell⟩ := Prod.mk.inj heq
  exact ⟨a, ha, hstate, by decide +kernel, hcell, by decide +kernel, by decide +kernel⟩

end System

end Reclaim

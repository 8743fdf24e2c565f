import Reclaim.Proofs.Deeds
import Reclaim.Proofs.Desks
import Reclaim.Proofs.Nesting
import Reclaim.Proofs.Placement

/-!
# Turns

What anything that happens to a process does at the desks of the guards.

* `Visit` : what others do at a desk; `Chore` : what the worker of the desk does;
* `Site`, `Site.Step` : a desk together with its worker's stage, the cells of flush answers and the
  answers that are waited for there; what can happen to it;
* `Frame.Serves`, `Frame.Deals`, `System.Turn` : what a frame, and what an event does to all sites.
-/

namespace Reclaim

/-! ## What can happen at a desk -/

/-- What a thread still has to do about a flush request. -/
inductive Stake where
  /-- It waits for the answer. -/
  | answer (ack : Nat)
  /-- It has interrupted the source in which the request was pending, and is about to destroy it. -/
  | request (ack : Nat)
deriving DecidableEq

/-- Requests to be destroyed. -/
def Stake.requests (acks : List Nat) : Multiset Stake := acks.map request

/-- Acts at a desk that are not its worker's: the stakes that are settled, what is done, the desk and the
cells afterwards, and the stakes that there are from now on. What they mean for handles only matters for a
leak. -/
inductive Visit (s : Store) (ms : History) (g : GuardId) (d : Desk) :
    Multiset Stake → Trace → Desk → Cells → Multiset Stake → Prop
  /-- The source accepts a handle. -/
  | accept {id : HandleId} {source : Source} (h : d.source.enqueue (.reclaim id) = some source) :
      Visit s ms g d 0 [.accepted g (.reclaim id)] { d with source } s.acks 0
  /-- The source accepts a new flush request, and what is pending may be let through its gate. -/
  | ask {source source' : Source} (h : d.source.enqueue (.flush s.acks.size) = some source)
      (hgate : source' = source ∨ source' = source.permitPending) :
      Visit s ms g d 0 [.accepted g (.flush s.acks.size)] { d with source := source' }
        (s.acks.push .pending) {.answer s.acks.size}
  /-- The source hands a new flush request back. -/
  | handBack (h : d.source.enqueue (.flush s.acks.size) = none) :
      Visit s ms g d 0 [] d (s.acks.push .consumed) 0
  /-- A flush takes its answer. -/
  | take {k : Nat} (h : s.isAckPending k = false) :
      Visit s ms g d {.answer k} [] d (s.acks.modify k fun cell => cell.take.1) 0
  /-- A flush gives up. -/
  | giveUp {k : Nat} (h : s.isAckPending k = true) : Visit s ms g d {.answer k} [] d s.acks 0
  /-- Somebody sets the gate. -/
  | permit (n : Nat) : Visit s ms g d 0 [] { d with source := d.source.permit n } s.acks 0
  /-- Somebody interrupts the source. -/
  | interrupt : Visit s ms g d 0 [] { d with source := d.source.interrupt.1 } s.acks
      (Stake.requests (d.source.queue.items.filterMap Item.ack?))
  /-- Somebody who has interrupted the source destroys a request that was pending there. -/
  | discard (k : Nat) (acks : List Nat) :
      Visit s ms g d (Stake.requests (k :: acks)) [] d (s.acks.modify k Oneshot.close) (Stake.requests acks)
  /-- A handle that was handed back is reported as leaked. -/
  | leak {id : HandleId} {e : Entry} (he : s.resource? id = some e) (hg : e.guard = g)
      (h : (id, .leaked) ∈ ms) : Visit s ms g d 0
        [.said g (some id) (.leakedAfterStop e.address)
          (d.config.sink.panicsAt d.said (.leakedAfterStop e.address))]
        { d with said := d.said ++ [.leakedAfterStop e.address] } s.acks 0

/-- Acts of the worker of a desk, from one stage to another, with the marks that they leave. -/
inductive Chore (s : Store) (ms : History) (g : GuardId) (d : Desk) :
    Stage → Trace → Desk → Cells → Stage → Prop
  | start : Chore s ms g d (.point .starting) [] d s.acks (.point .calling)
  | call (h : d.source.ask.2 = false) : Chore s ms g d (.point .calling) []
      { d with state := .waiting, source := d.source.ask.1 } s.acks (.point .polling)
  /-- The call for an item panics. -/
  | unwind (h : d.source.ask.2 = true) : Chore s ms g d (.point .calling) []
      { d with state := .waiting, source := d.source.ask.1 } s.acks (.point (.leaving .abnormal))
  /-- The source is interrupted. -/
  | stop (h : d.source.poll.2 = .interrupted) : Chore s ms g d (.point .polling) []
      { d with source := d.source.poll.1 } s.acks (.point (.leaving .regular))
  | wait (h : d.source.poll.2 = .wait) : Chore s ms g d (.point .polling) []
      { d with source := d.source.poll.1 } s.acks (.point .polling)
  /-- The source destroys a request when its turn comes. -/
  | swallow {k : Nat} (h : d.source.poll.2 = .swallowed k) : Chore s ms g d (.point .polling) []
      { d with source := d.source.poll.1 } (s.acks.modify k Oneshot.close) (.point .polling)
  | take {item : Item} (h : d.source.poll.2 = .item item) :
      Chore s ms g d (.point .polling) [.delivered g item] { d with source := d.source.poll.1 } s.acks
        (.point (.took item))
  | process {item : Item} : Chore s ms g d (.point (.took item)) [] { d with state := .processing }
      s.acks (.point (.processing item))
  /-- A flush is answered. -/
  | answer {k : Nat} : Chore s ms g d (.point (.processing (.flush k))) [] d
      (s.acks.modify k (·.send ())) (.point .calling)
  | claim {id : HandleId} (h : (id, .claimed (.reclaim g) true) ∈ ms) :
      Chore s ms g d (.point (.processing (.reclaim id))) [] d s.acks (.point (.reporting id))
  | discard {id : HandleId} (h : (id, .claimed (.reclaim g) false) ∈ ms) :
      Chore s ms g d (.point (.processing (.reclaim id))) [.discarded g id] d s.acks (.point .calling)
  | report {id : HandleId} {e : Entry} (he : s.resource? id = some e)
      (hsink : d.config.sink.panicsAt d.said (.notProperlyClosed e.address) = false) :
      Chore s ms g d (.point (.reporting id)) [.said g (some id) (.notProperlyClosed e.address) false]
        { d with said := d.said ++ [.notProperlyClosed e.address] } s.acks (.entering id)
  /-- The sink panics at what the worker found. -/
  | abort {id : HandleId} {e : Entry} {p : Panic} (he : s.resource? id = some e)
      (hsink : d.config.sink.panicsAt d.said (.notProperlyClosed e.address) = true) :
      Chore s ms g d (.point (.reporting id)) [.said g (some id) (.notProperlyClosed e.address) true]
        { d with said := d.said ++ [.notProperlyClosed e.address] } s.acks (.point (.aborted p))
  /-- The callback starts, and commands have to be carried out. -/
  | enter {id : HandleId} : Chore s ms g d (.entering id) [.began (.reclaim g) id] d s.acks (.inside id)
  /-- The callback starts and ends at once. -/
  | run {id : HandleId} (panic : Option Panic) : Chore s ms g d (.entering id)
      [.began (.reclaim g) id, .ended (.reclaim g) id panic] d s.acks (.point (.settling id panic))
  | leave {id : HandleId} (panic : Option Panic) : Chore s ms g d (.inside id)
      [.ended (.reclaim g) id panic] d s.acks (.point (.settling id panic))
  | settle {id : HandleId} {panic : Option Panic} : Chore s ms g d (.point (.settling id panic)) [] d
      s.acks (.point (.announcing id panic))
  | announce {id : HandleId} {e : Entry} {panic : Option Panic} (he : s.resource? id = some e)
      (hsink : d.config.sink.panicsAt d.said (e.announcement panic) = false) :
      Chore s ms g d (.point (.announcing id panic)) [.said g (some id) (e.announcement panic) false]
        { d with said := d.said ++ [e.announcement panic] } s.acks (.point .calling)
  /-- The sink panics at what became of the resource. -/
  | balk {id : HandleId} {e : Entry} {panic : Option Panic} {p : Panic} (he : s.resource? id = some e)
      (hsink : d.config.sink.panicsAt d.said (e.announcement panic) = true) :
      Chore s ms g d (.point (.announcing id panic)) [.said g (some id) (e.announcement panic) true]
        { d with said := d.said ++ [e.announcement panic] } s.acks (.point (.aborted p))
  | recover {p : Panic} : Chore s ms g d (.point (.aborted p)) [] d s.acks (.point .calling)
  | interrupt {exit : Exit} : Chore s ms g d (.point (.leaving exit)) []
      { d with source := d.source.interrupt.1 } s.acks
      (.point (.discarding exit (d.source.queue.items.filterMap Item.ack?)))
  | destroy {exit : Exit} {k : Nat} {acks : List Nat} : Chore s ms g d (.point (.discarding exit (k :: acks))) [] d
      (s.acks.modify k Oneshot.close) (.point (.discarding exit acks))
  | clear {exit : Exit} : Chore s ms g d (.point (.discarding exit [])) [] d s.acks (.point (.farewell exit))
  | farewell {exit : Exit} : Chore s ms g d (.point (.farewell exit))
      [.said g none .interrupted (d.config.sink.panicsAt d.said .interrupted)]
      { d with said := d.said ++ [.interrupted] } s.acks (.point (.stopping exit))
  | finish {exit : Exit} : Chore s ms g d (.point (.stopping exit)) []
      { d with state := .stopped, exit := some exit } s.acks .gone

/-- A desk together with what is under way for it. -/
structure Site extends Desk where
  /-- How far the worker has come. -/
  stage : Stage
  /-- The cells of all flush answers. -/
  cells : Cells
  /-- What is at stake for threads about flush requests at the guard. -/
  stakes : Multiset Stake

/-- What can happen to a site. -/
inductive Site.Step (s : Store) (ms : History) (g : GuardId) (a : Site) : Trace → Site → Prop
  | visit {src dst stakes : Multiset Stake} {ds : Trace} {d : Desk} {cells : Cells}
      (h : Visit s ms g a.toDesk src ds d cells dst) (hstakes : stakes + src = a.stakes + dst) :
      Step s ms g a ds ⟨d, a.stage, cells, stakes⟩
  | chore {ds : Trace} {d : Desk} {cells : Cells} {stage : Stage}
      (h : Chore s ms g a.toDesk a.stage ds d cells stage) : Step s ms g a ds ⟨d, stage, cells, a.stakes⟩

/-- A site at which nothing has happened yet. -/
structure Site.Fresh (a : Site) : Prop where
  source : ∃ kind panicsAt, a.source = SourceKind.source panicsAt kind
  state : a.state = .waiting
  exit : a.exit = none
  said : a.said = []
  stage : a.stage = .point .starting
  stakes : a.stakes = 0

/-- What is at stake for a frame about the flush requests at a guard. -/
def Frame.stakesAt (g : GuardId) : Frame → Multiset Stake
  | .flush g' _ _ (.waiting ack) => if g' = g then {.answer ack} else 0
  | .discard g' acks | .shutdown g' (.discarding acks) => if g' = g then Stake.requests acks else 0
  | _ => 0

theorem Frame.stakesAt_of_calm {x : Frame} (hx : x.isCalm = true) (g : GuardId) : x.stakesAt g = 0 := by
  cases x with
  | shutdown g p =>
    cases p with
    | discarding acks => cases hx
    | _ => rfl
  | _ => first | rfl | cases hx

namespace System

/-- How far the worker of this thread has come. -/
def stageAt (w : System) (t : ThreadId) : Stage :=
  match (w.thread? t).bind fun th => duty th.stack with
  | some (_, stage) => stage
  | none => .gone

/-- The site of a guard. -/
def site? (w : System) (g : GuardId) : Option Site :=
  (w.store.desk? g).map fun d =>
    { d with stage := w.stageAt d.worker, cells := w.store.acks, stakes := w.tally (Frame.stakesAt g) }

/-- What an event does to the sites of all guards: nothing, or something to one of them, which shares
the cells with the others, or there is a new one. -/
inductive Turn (w w' : System) (ds : Trace) (ms : History) : Prop
  | rest (hsite : ∀ g, w'.site? g = w.site? g) (hds : ∀ g, ds.of g = [])
  | found {g : GuardId} {a : Site} (hg : w.site? g = none) (ha : w'.site? g = some a)
      (hfresh : a.Fresh) (hsite : ∀ g', g' ≠ g → w'.site? g' = w.site? g') (hds : ∀ g, ds.of g = [])
  | step {g : GuardId} {a a' : Site} (ha : w.site? g = some a) (ha' : w'.site? g = some a')
      (hstep : a.Step w.store ms g (ds.of g) a')
      (hsite : ∀ g', g' ≠ g → w'.site? g' = (w.site? g').map fun b => { b with cells := a'.cells })
      (hds : ∀ g', g' ≠ g → ds.of g' = [])

end System

/-! ## The worker -/

/-- A stack is that of the worker of a guard, which has come so far. -/
def Reached (g : GuardId) (stage : Stage) (stack : List Frame) : Prop :=
  duty stack = some (g, stage) ∨ (stack = [] ∧ stage = .gone)

/-- The worker of a guard has come so far with this progress above these frames. -/
structure Progress.Leads (g : GuardId) (rest : List Frame) (stage : Stage) (p : Progress) : Prop where
  reached : ∀ th : Thread, Reached g stage (th.progress rest p).stack
  stakes : ∀ g', p.tally (Frame.stakesAt g') = 0
  spawned : p.spawned = []

theorem Progress.Leads.goto (g : GuardId) (p : WorkerPoint) :
    (Progress.goto (.worker g p)).Leads g [] (.point p) := ⟨fun _ => .inl rfl, fun _ => rfl, rfl⟩

/-- What an action of a worker's frame comes to, or of the callback above it: a chore at the desk. -/
def Frame.Serves (s : Store) (g : GuardId) (d : Desk) (stage : Stage) (frame : Frame)
    (rest : List Frame) (r : Store × Progress) : Prop :=
  ∃ d' stage', Chore s (frame.marks s) g d stage (frame.deeds s (.over rest) r.2) d' r.1.acks stage' ∧
    s.Sets r.1 g (fun _ => d') r.1.acks ∧ r.2.Leads g rest stage'

/-- A chore at the desk of a guard, with what is done and the cells as it says. -/
theorem Frame.Serves.of_chore {s : Store} {g : GuardId} {d d' : Desk} {stage stage' : Stage}
    {frame : Frame} {rest : List Frame} {r : Store × Progress} {f : Desk → Desk} {cells : Cells}
    {ds : Trace} (hd : s.desk? g = some d) (hsets : s.Sets r.1 g f cells) (hf : f d = d')
    (hds : frame.deeds s (.over rest) r.2 = ds)
    (h : Chore s (frame.marks s) g d stage ds d' cells stage') (hleads : r.2.Leads g rest stage') :
    frame.Serves s g d stage rest r := by
  refine ⟨d', stage', ?_, ?_, hleads⟩
  · rw [hsets.cells, hds]
    exact h
  · rw [hsets.cells]
    exact hf ▸ hsets.toConst hd

section Serves
variable {s : Store} {g : GuardId} {d : Desk}

/-- The sink of a desk panics or not, after all that it was told before. -/
theorem Store.emit_desk (hd : s.desk? g = some d) (x : Diagnostic) :
    (s.emit g x).2.isSome = d.config.sink.panicsAt d.said x := by
  obtain ⟨y, hy, rfl⟩ := Store.guard_of_desk hd
  simp only [Store.emit, hy, Option.map_some]
  change (if y.config.sink.panicsAt y.offered.toList x = true then _ else none).isSome =
    y.config.sink.panicsAt y.offered.toList x
  cases y.config.sink.panicsAt y.offered.toList x <;> rfl

theorem WorkerPoint.serves {p : WorkerPoint} (hd : s.desk? g = some d)
    (hp : ∀ x ∈ (Frame.worker g p).spots, x.Placed s)
    (hknown : ∀ id panic, p = .announcing id panic → s.Known id)
    (hready : (Frame.worker g p).isReady s = true) :
    (Frame.worker g p).Serves s g d (.point p) [] (p.advance s g) := by
  cases p with
  | starting => exact .of_chore hd ((s.steady_log _ _).sets g) rfl rfl .start (.goto g _)
  | calling =>
    have hstate := s.sets_setWorkerState g .waiting
    have hd' : (s.setWorkerState g .waiting).desk? g = some { d with state := .waiting } := by
      rw [hstate.desk, if_pos rfl, hd]
      rfl
    obtain ⟨hpanics, hcall⟩ := Store.sets_callNext hd'
    have hsets := hstate.then hcall
    simp only [advance]
    generalize (s.setWorkerState g .waiting).callNext g = r at hpanics hsets
    obtain ⟨s', panics⟩ := r
    cases panics
    · exact .of_chore hd hsets rfl rfl (.call hpanics.symm) (.goto g _)
    · exact .of_chore hd hsets rfl rfl (.unwind hpanics.symm) (.goto g _)
  | polling =>
    obtain ⟨hpoll, hsets⟩ := Store.sets_pollNext hd
    have hdeeds : ∀ path p, (Frame.worker g .polling).deeds s path p = s.handsOut g := fun _ _ => rfl
    simp only [Store.handsOut] at hdeeds
    simp only [advance]
    generalize s.pollNext g = r at hpoll hsets hdeeds
    obtain ⟨s', poll⟩ := r
    obtain rfl : poll = d.source.poll.2 := hpoll
    cases h : d.source.poll.2 <;> rw [h] at hsets hdeeds
    · exact .of_chore hd hsets rfl (hdeeds _ _) (.stop h) (.goto g _)
    · exact .of_chore hd hsets rfl (hdeeds _ _) (.take h) (.goto g _)
    · exact .of_chore hd hsets rfl (hdeeds _ _) (.swallow h) (.goto g _)
    · exact .of_chore hd hsets rfl (hdeeds _ _) (.wait h) (.goto g _)
  | took item =>
    exact .of_chore hd (s.sets_setWorkerState g .processing) rfl rfl .process (.goto g _)
  | processing item =>
    cases item with
    | flush k =>
      have hsets : s.Sets (s.answer k) g id (s.acks.modify k (·.send ())) :=
        ⟨((Store.Steady.refl s).sets g).desk, rfl⟩
      exact .of_chore hd hsets rfl rfl .answer (.goto g _)
    | reclaim id =>
      have hsteady := s.steady_takeActive g id
      have hmarks : (id, .claimed (.reclaim g) (s.takeActive g id).2) ∈
          (Frame.worker g (.processing (.reclaim id))).marks s := List.mem_singleton_self _
      have hdeeds : ∀ q, (Frame.worker g (.processing (.reclaim id))).deeds s (.over []) q =
          if (s.takeActive g id).2 then [] else [.discarded g id] := fun _ => rfl
      simp only [advance]
      generalize s.takeActive g id = r at hsteady hmarks hdeeds
      obtain ⟨s', won⟩ := r
      cases won
      · exact .of_chore hd ((hsteady.trans (Store.steady_modifyStats _ _ _)).trans
          (Store.steady_log _ _ _) |>.sets g) rfl (hdeeds _) (.discard hmarks) (.goto g _)
      · exact .of_chore hd (hsteady.sets g) rfl (hdeeds _) (.claim hmarks) (.goto g _)
  | reporting id =>
    obtain ⟨e, he, -⟩ := hp _ (Multiset.mem_singleton_self _)
    have hsets := s.sets_emit g (.notProperlyClosed e.address)
    have hsink := Store.emit_desk hd (.notProperlyClosed e.address)
    have hdeeds : ∀ q, (Frame.worker g (.reporting id)).deeds s (.over []) q =
        [.said g (some id) (.notProperlyClosed e.address)
          (s.emit g (.notProperlyClosed e.address)).2.isSome] := fun _ => by
      simp only [Frame.deeds, he, Store.tells]
    simp only [advance, he]
    generalize s.emit g (.notProperlyClosed e.address) = r at hsets hsink hdeeds
    obtain ⟨s', panic⟩ := r
    cases panic
    · exact .of_chore hd hsets rfl (hdeeds _) (.report he hsink.symm)
        ⟨fun _ => .inl rfl, fun _ => rfl, rfl⟩
    · exact .of_chore hd hsets rfl (hdeeds _) (.abort he hsink.symm) (.goto g _)
  | running id => cases hready
  | settling id panic =>
    cases panic with
    | none => exact .of_chore hd ((s.steady_countReclaimed g).sets g) rfl rfl .settle (.goto g _)
    | some p => exact .of_chore hd ((s.steady_countFailure g).sets g) rfl rfl .settle (.goto g _)
  | announcing id panic =>
    obtain ⟨e, he⟩ := hknown id panic rfl
    have hsets := s.sets_emit g (e.announcement panic)
    have hsink := Store.emit_desk hd (e.announcement panic)
    have hdeeds : ∀ q, (Frame.worker g (.announcing id panic)).deeds s (.over []) q =
        [.said g (some id) (e.announcement panic) (s.emit g (e.announcement panic)).2.isSome] :=
      fun _ => by simp only [Frame.deeds, he, Store.tells]
    simp only [advance, he]
    generalize s.emit g (e.announcement panic) = r at hsets hsink hdeeds
    obtain ⟨s', again⟩ := r
    cases again
    · exact .of_chore hd hsets rfl (hdeeds _) (.announce he hsink.symm) (.goto g _)
    · exact .of_chore hd hsets rfl (hdeeds _) (.balk he hsink.symm) (.goto g _)
  | aborted p => exact .of_chore hd ((s.steady_log _ _).sets g) rfl rfl .recover (.goto g _)
  | leaving exit =>
    obtain ⟨hacks, hsets⟩ := Store.sets_interrupt hd
    simp only [advance, hacks]
    exact .of_chore hd hsets rfl rfl .interrupt (.goto g _)
  | discarding exit acks =>
    cases acks with
    | nil => exact .of_chore hd ((Store.Steady.refl s).sets g) rfl rfl .clear (.goto g _)
    | cons k acks => exact .of_chore hd (Store.sets_closeAck s g k) rfl rfl .destroy (.goto g _)
  | farewell exit =>
    have hdeeds : ∀ q, (Frame.worker g (.farewell exit)).deeds s (.over []) q =
        [.said g none .interrupted (d.config.sink.panicsAt d.said .interrupted)] := fun _ => by
      simp only [Frame.deeds, Store.tells, Store.emit_desk hd]
    exact .of_chore hd (s.sets_emit g _) rfl (hdeeds _) .farewell (.goto g _)
  | stopping exit =>
    have hsets : Store.Sets s (s.modifyGuard g fun x => { x with state := .stopped, exit := some exit }) g
        (fun x => { x with state := .stopped, exit := some exit }) s.acks :=
      s.sets_modifyGuard g fun _ => rfl
    exact .of_chore hd hsets rfl rfl .finish
      ⟨fun _ => .inr ⟨rfl, rfl⟩, fun _ => rfl, rfl⟩

/-- The callback that a worker has started. -/
theorem CallbackPoint.serves {thread : ThreadId} {id : HandleId} {p : CallbackPoint}
    (hd : s.desk? g = some d) (hp : ∀ x ∈ (Frame.callback id p).spots, x.Placed s)
    (hready : (Frame.callback id p).isReady s = true) :
    (Frame.callback id p).Serves s g d
      (if (Frame.callback id p).isEnter then .entering id else .inside id)
      [.worker g (.running id)] (p.advance thread s id) := by
  have hends : ∀ o, (Progress.finish o).Leads g [.worker g (.running id)]
      (.point (.settling id o.panic?)) := fun o =>
    ⟨fun _ => .inl (by cases o <;> rfl), fun _ => rfl, rfl⟩
  cases p with
  | enter =>
    obtain ⟨e, he⟩ : s.Known id := hp _ (Multiset.mem_singleton_self _)
    have hbegin : s.Steady (s.beginCall id e thread).1 := ⟨fun _ => rfl, rfl⟩
    have hsteady := hbegin.trans (Store.steady_tellProbe _ e)
    simp only [advance, he]
    generalize (s.beginCall id e thread).1.tellProbe e = r at hsteady
    obtain ⟨s', fails⟩ := r
    cases fails
    · cases e.callback.body with
      | none => exact .of_chore hd (hsteady.sets g) rfl rfl (.run _) (hends _)
      | some body =>
        exact .of_chore hd (hsteady.sets g) rfl rfl .enter ⟨fun _ => .inl rfl, fun _ => rfl, rfl⟩
    · exact .of_chore hd (hsteady.sets g) rfl rfl (.run _) (hends _)
  | running call => cases hready
  | ran call replies =>
    have hend : s.Steady (s.endCall call replies) := ⟨fun _ => rfl, rfl⟩
    cases he : s.resource? id <;> simp only [advance, he]
    · exact .of_chore hd ((Store.Steady.refl s).sets g) rfl rfl (.leave _) (hends _)
    · exact .of_chore hd (hend.sets g) rfl rfl (.leave _) (hends _)

end Serves

/-! ## Everybody else -/

/-- The desk of a new guard. -/
def Desk.new (config : Config) (worker : ThreadId) (source : Source) : Desk :=
  { config, worker, source, state := .waiting, exit := none, said := [] }

/-- What an action of any other frame comes to: nothing at any desk, a visit to one of them, or a new
guard. -/
inductive Frame.Deals (fresh : ThreadId) (s : Store) (frame : Frame) (r : Store × Progress)
    (ds : Trace) : Prop
  | idle (hs : s.Steady r.1) (hstakes : ∀ g, r.2.tally (stakesAt g) = frame.stakesAt g)
      (hspawn : r.2.spawned = []) (hds : ∀ g, ds.of g = [])
  | visit {g : GuardId} {d d' : Desk} {src dst : Multiset Stake} (hd : s.desk? g = some d)
      (h : Visit s (frame.marks s) g d src ds d' r.1.acks dst)
      (hsets : s.Sets r.1 g (fun _ => d') r.1.acks)
      (hsrc : ∀ g', frame.stakesAt g' = if g = g' then src else 0)
      (hdst : ∀ g', r.2.tally (stakesAt g') = if g = g' then dst else 0)
      (hspawn : r.2.spawned = [])
  | found {config : Config} {kind : SourceKind} {panicsAt : Option Nat} {name : ThreadName}
      {next : Frame}
      (hdesk : ∀ g, r.1.desk? g = if g = s.guards.size then
        some (.new config fresh (kind.source panicsAt)) else s.desk? g)
      (hcells : r.1.acks = s.acks) (hframe : ∀ g, frame.stakesAt g = 0)
      (hprogress : r.2 = .spawn name (.worker s.guards.size .starting) next)
      (hnext : ∀ g, next.stakesAt g = 0) (hds : ds = [])

section Deals
variable {fresh : ThreadId} {s : Store} {frame : Frame} {ds : Trace}

/-- Nothing happens at any desk, and no flush is under way. -/
theorem Frame.Deals.calm {r : Store × Progress} (hs : s.Steady r.1)
    (hframe : ∀ g, frame.stakesAt g = 0) (hnext : ∀ g, r.2.tally (stakesAt g) = 0)
    (hspawn : r.2.spawned = []) : frame.Deals fresh s r [] :=
  .idle hs (fun g => (hnext g).trans (hframe g).symm) hspawn fun _ => rfl

/-- A visit to a desk. -/
theorem Frame.Deals.of_visit {r : Store × Progress} {g : GuardId} {d d' : Desk}
    {src dst : Multiset Stake} {f : Desk → Desk} {cells : Cells} (hd : s.desk? g = some d)
    (hsets : s.Sets r.1 g f cells) (hf : f d = d')
    (h : Visit s (frame.marks s) g d src ds d' cells dst)
    (hsrc : ∀ g', frame.stakesAt g' = if g = g' then src else 0)
    (hdst : ∀ g', r.2.tally (stakesAt g') = if g = g' then dst else 0) (hspawn : r.2.spawned = []) :
    frame.Deals fresh s r ds := by
  refine .visit hd (hsets.cells.symm ▸ h) ?_ hsrc hdst hspawn
  rw [hsets.cells]
  exact hf ▸ hsets.toConst hd

/-- A visit to a desk by a frame that is not a flush. -/
theorem Frame.Deals.visiting {r : Store × Progress} {g : GuardId} {d d' : Desk} {f : Desk → Desk}
    {cells : Cells} (hd : s.desk? g = some d) (hsets : s.Sets r.1 g f cells) (hf : f d = d')
    (h : Visit s (frame.marks s) g d 0 ds d' cells 0) (hframe : ∀ g, frame.stakesAt g = 0)
    (hnext : ∀ g, r.2.tally (stakesAt g) = 0) (hspawn : r.2.spawned = []) :
    frame.Deals fresh s r ds :=
  .of_visit hd hsets hf h (fun g' => by rw [hframe, ite_self]) (fun g' => by rw [hnext, ite_self])
    hspawn

theorem Store.Runs.desk {g : GuardId} (hg : s.Runs g) : ∃ d, s.desk? g = some d := by
  obtain ⟨x, hx⟩ := hg
  obtain ⟨y, hy, -⟩ := Option.map_eq_some_iff.mp hx
  exact ⟨y.desk, by simp [Store.desk?, hy]⟩

/-- An item is handed to the source of a desk. -/
theorem Store.accepts_cases {g : GuardId} {d : Desk} (hd : s.desk? g = some d) (item : Item) :
    (∃ source, d.source.enqueue item = some source ∧ s.accepts g item = [.accepted g item] ∧
      (s.enqueue g item).2 = true ∧
      s.Sets (s.enqueue g item).1 g (fun d => { d with source }) s.acks) ∨
    (d.source.enqueue item = none ∧ s.accepts g item = [] ∧ s.enqueue g item = (s, false)) := by
  unfold accepts
  obtain ⟨source, hsource, htrue, hsets⟩ | ⟨hsource, heq⟩ := Store.sets_enqueue hd item
  · exact .inl ⟨source, hsource, if_pos htrue, htrue, hsets⟩
  · exact .inr ⟨hsource, by rw [heq]; rfl, heq⟩

/-- Whether a command acts at the desk of a guard at once. -/
def Command.visits : Command → Bool
  | .inject .. | .letThrough .. | .interrupt _ => true
  | _ => false

/-- Any other command leaves all desks alone when it starts. -/
theorem Command.Beginning.steady {s s' : Store} {c : Command} {b : Begin} (h : c.Beginning s s' b)
    (hc : c.visits = false) : s.Steady s' := by
  cases h with
  | inject | letThrough | interrupt => cases hc
  | release => exact s.steady_modifyEntry _ _
  | drop | part => exact s.steady_dropShare _
  | _ => exact ⟨fun _ => rfl, rfl⟩

theorem Command.begin_steady {c : Command} (s : Store) (hc : c.visits = false) :
    s.Steady (c.begin s).1 := by
  obtain hbeginning | ⟨what, -, hmissing⟩ := c.begin_cases s
  · exact hbeginning.steady hc
  · rw [hmissing]
    exact .refl s

/-- A command that does not act at a desk at once starts with nothing at stake. -/
theorem Script.advance_stakes (s : Store) {c : Command} (hc : c.visits = false) (todo : List Command)
    (done : List Reply) : (∀ g, (advance s (c :: todo) done).2.tally (Frame.stakesAt g) = 0) ∧
      (advance s (c :: todo) done).2.spawned = [] := by
  simp only [advance]
  cases hb : c.begin s with
  | mk s' b =>
    cases b with
    | reply reply => exact ⟨fun _ => rfl, rfl⟩
    | operation frame =>
      refine ⟨fun g => ?_, rfl⟩
      have hbeginning := Command.beginning_operation hb
      cases hbeginning <;> first | rfl | cases hc

/-- A command that names nothing unknown starts. -/
theorem Script.advance_ok {c : Command} {s' : Store} {b : Begin} (h : c.begin? s = .ok (s', b))
    (todo : List Command) (done : List Reply) : advance s (c :: todo) done =
      match b with
      | .reply reply => (s', .goto (.commands todo (reply :: done)))
      | .operation frame => (s', .call frame (.commands todo done)) := by
  simp only [advance, Command.begin, h]
  cases b <;> rfl

theorem Script.advance_error {c : Command} {what : Missing} (h : c.begin? s = .error what)
    (todo : List Command) (done : List Reply) : advance s (c :: todo) done =
      (s, .goto (.commands todo (.missing what :: done))) := by
  simp only [advance, Command.begin, h]

/-- A command that acts at a desk at once. -/
theorem Command.visits_deals {c : Command} (path : Path) (todo : List Command) (done : List Reply)
    (hc : c.visits = true) :
    (Frame.commands (c :: todo) done).Deals fresh s (Script.advance s (c :: todo) done)
      ((Frame.commands (c :: todo) done).deeds s path (Script.advance s (c :: todo) done).2) := by
  cases c with
  | inject guard handle =>
    cases hg : s.sourceNamed guard with
    | error what =>
      rw [Script.advance_error (by rw [begin?, hg]; rfl)]
      simp only [Frame.deeds, hg]
      exact .calm (.refl s) (fun _ => rfl) (fun _ => rfl) rfl
    | ok g =>
      cases hid : s.idNamed handle with
      | error what =>
        have hbegin : (Command.inject guard handle).begin? s = .error what := by
          rw [begin?, hg]
          simp [hid, bind, Except.bind]
        rw [Script.advance_error hbegin]
        simp only [Frame.deeds, hg, hid]
        exact .calm (.refl s) (fun _ => rfl) (fun _ => rfl) rfl
      | ok id =>
        obtain ⟨-, x, hx, -⟩ := Store.sourceNamed_exposed hg
        obtain ⟨d, hd⟩ := Store.Runs.desk ⟨x, hx⟩
        have hbegin : (Command.inject guard handle).begin? s =
            .ok ((s.enqueue g (.reclaim id)).1, .reply (.flag (s.enqueue g (.reclaim id)).2)) := by
          rw [begin?, hg]
          simp [hid, bind, Except.bind, pure, Except.pure]
        rw [Script.advance_ok hbegin]
        simp only [Frame.deeds, hg, hid]
        obtain ⟨source, hsource, haccepts, -, hsets⟩ | ⟨-, haccepts, heq⟩ :=
          Store.accepts_cases hd (.reclaim id)
        · simp only [haccepts]
          exact .visiting hd hsets rfl (.accept hsource) (fun _ => rfl) (fun _ => rfl) rfl
        · simp only [haccepts, heq]
          exact .calm (.refl s) (fun _ => rfl) (fun _ => rfl) rfl
  | letThrough guard n =>
    cases hg : s.sourceNamed guard with
    | error what =>
      rw [Script.advance_error (by rw [begin?, hg]; rfl)]
      exact .calm (.refl s) (fun _ => rfl) (fun _ => rfl) rfl
    | ok g =>
      obtain ⟨-, x, hx, -⟩ := Store.sourceNamed_exposed hg
      obtain ⟨d, hd⟩ := Store.Runs.desk ⟨x, hx⟩
      rw [Script.advance_ok (by rw [begin?, hg]; rfl)]
      exact .visiting hd (s.sets_modifySource g (·.permit (min n (s.pendingAt g)))) rfl
        (.permit _) (fun _ => rfl) (fun _ => rfl) rfl
  | interrupt guard =>
    cases hg : s.sourceNamed guard with
    | error what =>
      rw [Script.advance_error (by rw [begin?, hg]; rfl)]
      exact .calm (.refl s) (fun _ => rfl) (fun _ => rfl) rfl
    | ok g =>
      obtain ⟨-, x, hx, -⟩ := Store.sourceNamed_exposed hg
      obtain ⟨d, hd⟩ := Store.Runs.desk ⟨x, hx⟩
      obtain ⟨hacks, hsets⟩ := Store.sets_interrupt hd
      rw [Script.advance_ok (by rw [begin?, hg]; rfl)]
      refine .of_visit hd hsets rfl .interrupt (fun _ => (ite_self 0).symm) (fun g' => ?_) rfl
      rw [← hacks]
      exact add_zero _
  | _ => cases hc

theorem Script.advance_deals (path : Path) (todo : List Command) (done : List Reply) :
    (Frame.commands todo done).Deals fresh s (advance s todo done)
      ((Frame.commands todo done).deeds s path (advance s todo done).2) := by
  cases todo with
  | nil => exact .calm (.refl s) (fun _ => rfl) (fun _ => rfl) rfl
  | cons c todo =>
    by_cases hc : c.visits = true
    · exact Command.visits_deals path todo done hc
    · obtain ⟨hnext, hspawn⟩ := advance_stakes s (Bool.eq_false_iff.mpr hc) todo done
      have hs := c.begin_steady s (Bool.eq_false_iff.mpr hc)
      have hfst : (advance s (c :: todo) done).1 = (c.begin s).1 := by
        simp only [advance]
        split <;> simp_all
      have hdeeds : ∀ q, (Frame.commands (c :: todo) done).deeds s path q = [] := fun q => by
        cases c <;> first | rfl | exact absurd rfl hc
      rw [hdeeds]
      exact .calm (hfst ▸ hs) (fun _ => rfl) hnext hspawn

theorem RegisterPoint.advance_deals (q : RegisterRequest) (p : RegisterPoint) :
    (Frame.register q p).Deals fresh s (p.advance s q) [] := by
  have hbind : ∀ {id}, s.Steady (s.bindHandle q.handle id) := ⟨fun _ => rfl, rfl⟩
  cases p <;> simp only [advance] <;> repeat' split
  all_goals first
    | exact .calm (.refl s) (fun _ => rfl) (fun _ => rfl) rfl
    | exact .calm ⟨fun _ => rfl, rfl⟩ (fun _ => rfl) (fun _ => rfl) rfl
    | exact .calm (s.steady_modifyGuard _ fun _ => rfl) (fun _ => rfl) (fun _ => rfl) rfl
    | exact .calm ((s.steady_modifyStats _ _).trans (Store.steady_log _ _ _)) (fun _ => rfl)
        (fun _ => rfl) rfl
    | exact .calm (hbind.trans ((s.bindHandle _ _).steady_dropShare _)) (fun _ => rfl) (fun _ => rfl) rfl

theorem endRelease_deals (id : HandleId) (o : Outcome) (p : ReleasePoint) :
    (Frame.release id p).Deals fresh s (endRelease s id o) [] := by
  have hs := s.steady_endUse id
  unfold endRelease
  generalize s.endUse id = r at hs
  obtain ⟨s', last⟩ := r
  cases last <;> exact .calm hs (fun _ => rfl) (fun _ => rfl) rfl

theorem ReleasePoint.advance_deals (id : HandleId) (p : ReleasePoint) :
    (Frame.release id p).Deals fresh s (p.advance s id) [] := by
  cases p with
  | retire =>
    have hs := s.steady_retire id
    simp only [advance]
    generalize s.retire id = r at hs
    obtain ⟨s', won⟩ := r
    cases won <;> exact .calm hs (fun _ => rfl) (fun _ => rfl) rfl
  | count => exact .calm (s.steady_countReleased id) (fun _ => rfl) (fun _ => rfl) rfl
  | running => exact .calm (.refl s) (fun _ => rfl) (fun _ => rfl) rfl
  | lost => exact endRelease_deals id _ _
  | ran panic => exact endRelease_deals id _ _

/-- A callback that a call has started. -/
theorem CallbackPoint.advance_deals (thread : ThreadId) (id : HandleId) (p : CallbackPoint) :
    (Frame.callback id p).Deals fresh s (p.advance thread s id)
      ((Frame.callback id p).deeds s .release (p.advance thread s id).2) := by
  have hends : ∀ (q : Progress) (g : GuardId), Trace.of (q.ends .release id) g = [] := fun q g => by
    cases q <;> rfl
  have hds : ∀ (q : Progress) g, Trace.of ((Frame.callback id p).deeds s .release q) g = [] :=
    fun q g => by
      cases p with
      | enter => exact hends q g
      | running call => rfl
      | ran call replies => exact hends q g
  suffices h : s.Steady (p.advance thread s id).1 ∧
      (∀ g, (p.advance thread s id).2.tally (Frame.stakesAt g) = 0) ∧
      (p.advance thread s id).2.spawned = [] from .idle h.1 h.2.1 h.2.2 (hds _)
  cases p with
  | enter =>
    simp only [advance]
    cases s.resource? id with
    | none => exact ⟨.refl s, fun _ => rfl, rfl⟩
    | some e =>
      have hbegin : s.Steady (s.beginCall id e thread).1 := ⟨fun _ => rfl, rfl⟩
      have hs := hbegin.trans (Store.steady_tellProbe _ e)
      simp only
      generalize (s.beginCall id e thread).1.tellProbe e = r at hs
      obtain ⟨s', fails⟩ := r
      cases fails
      · cases e.callback.body <;> exact ⟨hs, fun _ => rfl, rfl⟩
      · exact ⟨hs, fun _ => rfl, rfl⟩
  | running call => exact ⟨.refl s, fun _ => rfl, rfl⟩
  | ran call replies =>
    simp only [advance]
    cases s.resource? id <;> exact ⟨⟨fun _ => rfl, rfl⟩, fun _ => rfl, rfl⟩

theorem DropPoint.advance_deals (path : Path) (id : HandleId) (p : DropPoint)
    (hentries : ∀ e, s.resource? id = some e → s.Runs e.guard) :
    (Frame.drop id p).Deals fresh s (p.advance s id)
      ((Frame.drop id p).deeds s path (p.advance s id).2) := by
  cases p with
  | check =>
    simp only [advance]
    split <;> exact .calm (.refl s) (fun _ => rfl) (fun _ => rfl) rfl
  | enqueue =>
    simp only [advance]
    cases he : s.resource? id with
    | none =>
      simp only [Frame.deeds, he]
      exact .calm (.refl s) (fun _ => rfl) (fun _ => rfl) rfl
    | some e =>
      obtain ⟨d, hd⟩ := (hentries e he).desk
      simp only [Frame.deeds, he]
      obtain ⟨source, hsource, haccepts, htrue, hsets⟩ | ⟨-, haccepts, heq⟩ :=
        Store.accepts_cases hd (.reclaim id)
      · rw [haccepts]
        generalize s.enqueue e.guard (.reclaim id) = r at htrue hsets
        obtain ⟨s', accepted⟩ := r
        obtain rfl : accepted = true := htrue
        exact .visiting hd (hsets.trans (Store.steady_log _ _ _)) rfl (.accept hsource)
          (fun _ => rfl) (fun _ => rfl) rfl
      · rw [haccepts, heq]
        exact .calm (.refl s) (fun _ => rfl) (fun _ => rfl) rfl
  | leak =>
    simp only [advance]
    cases he : s.resource? id with
    | none =>
      simp only [Frame.deeds, he]
      exact .calm (.refl s) (fun _ => rfl) (fun _ => rfl) rfl
    | some e =>
      obtain ⟨d, hd⟩ := (hentries e he).desk
      have hsets := s.sets_emit e.guard (.leakedAfterStop e.address)
      simp only [Frame.deeds, he, Store.tells, Store.emit_desk hd]
      generalize s.emit e.guard (.leakedAfterStop e.address) = r at hsets
      obtain ⟨s', panic⟩ := r
      have hmark : (id, .leaked) ∈ (Frame.drop id .leak).marks s := List.mem_singleton_self _
      cases panic <;>
        exact .visiting hd hsets rfl (.leak he rfl hmark) (fun _ => rfl) (fun _ => rfl) rfl

/-- Taking an answer empties the cell. -/
theorem Store.sets_takeAck (s : Store) (g : GuardId) (k : Nat) :
    s.Sets (s.takeAck k).1 g id (s.acks.modify k fun cell => cell.take.1) := by
  unfold takeAck
  split
  · next hk =>
    have hsize : s.acks.size ≤ k := Array.getElem?_eq_none_iff.mp hk
    refine ⟨((Steady.refl s).sets g).desk, ?_⟩
    apply Array.ext_getElem?
    intro i
    rw [Array.getElem?_modify]
    split
    · next h =>
      subst h
      simp [hk]
    · rfl
  · next cell hk =>
    refine ⟨((Steady.refl s).sets g).desk, ?_⟩
    apply Array.ext_getElem?
    intro i
    rw [Array.getElem?_modify, Array.getElem?_modify]
    split
    · next h =>
      subst h
      simp [hk]
    · rfl

theorem Store.sets_newAck (s : Store) (g : GuardId) :
    s.Sets s.newAck.1 g id (s.acks.push .pending) := ⟨((Steady.refl s).sets g).desk, rfl⟩

theorem FlushPoint.advance_deals (path : Path) {g : GuardId} (patience : Patience) (gate : GateUse)
    (p : FlushPoint) (hg : s.Runs g) (hready : (Frame.flush g patience gate p).isReady s = true) :
    (Frame.flush g patience gate p).Deals fresh s (p.advance s g patience gate)
      ((Frame.flush g patience gate p).deeds s path (p.advance s g patience gate).2) := by
  obtain ⟨d, hd⟩ := hg.desk
  cases p with
  | checkStopped =>
    simp only [advance]
    split <;> exact .calm (.refl s) (fun _ => rfl) (fun _ => rfl) rfl
  | checkInterrupted =>
    simp only [advance]
    split <;> exact .calm (.refl s) (fun _ => rfl) (fun _ => rfl) rfl
  | request =>
    have hnew := s.sets_newAck g
    have hd' : s.newAck.1.desk? g = some d := hd
    have hdeeds : ∀ q, (Frame.flush g patience gate .request).deeds s path q =
        s.accepts g (.flush s.acks.size) := fun _ => rfl
    have hack : s.newAck.2 = s.acks.size := rfl
    simp only [advance, hdeeds, hack]
    obtain ⟨source, hsource, haccepts, -⟩ | ⟨hnone, haccepts, -⟩ :=
      Store.accepts_cases hd (.flush s.acks.size) <;> rw [haccepts] <;>
      obtain ⟨source', hsource', htrue, hsets⟩ | ⟨hnone', heq⟩ :=
        Store.sets_enqueue hd' (.flush s.acks.size)
    · cases hsource.symm.trans hsource'
      have hput := hnew.then hsets
      generalize s.newAck.1.enqueue g (.flush s.acks.size) = r at htrue hput
      obtain ⟨s', accepted⟩ := r
      obtain rfl : accepted = true := htrue
      cases gate with
      | opens =>
        have hopen := hput.then (s'.sets_modifySource g Source.permitPending)
        exact .of_visit hd ⟨hopen.desk, hput.cells⟩ rfl (.ask hsource (.inr rfl)) (fun _ => (ite_self 0).symm)
          (fun _ => rfl) rfl
      | leaves =>
        exact .of_visit hd hput rfl (.ask hsource (.inl rfl)) (fun _ => (ite_self 0).symm)
          (fun _ => rfl) rfl
    · cases hsource.symm.trans hnone'
    · cases hsource'.symm.trans hnone
    · have hclosed : (s.newAck.1.acks.modify s.acks.size Oneshot.close) = s.acks.push .consumed := by
        rw [hnew.cells]
        apply Array.ext_getElem?
        intro k
        simp only [Array.getElem?_modify, Array.getElem?_push]
        grind [Oneshot.close]
      rw [heq]
      exact .visiting hd (hclosed ▸ hnew.then (Store.sets_closeAck _ g _)) rfl (.handBack hnone)
        (fun _ => rfl) (fun _ => rfl) rfl
  | waiting ack =>
    have hsets := s.sets_takeAck g ack
    have hpending : s.isAckPending ack = false := by simpa [Frame.isReady] using hready
    simp only [advance]
    generalize s.takeAck ack = r at hsets
    obtain ⟨s', answer⟩ := r
    split <;> exact .of_visit hd hsets rfl (.take hpending) (fun _ => rfl)
      (fun _ => (ite_self 0).symm) rfl

/-- What a frame relies on that occupies no spot for it. -/
def Frame.Housed (s : Store) : Frame → Prop
  | .flush g _ _ _ => s.Runs g
  | .discard g acks | .shutdown g (.discarding acks) => acks = [] ∨ s.Runs g
  | .worker _ (.announcing id _) => s.Known id
  | _ => True

/-- The next request that was pending in an interrupted source is destroyed. -/
theorem discardNext_deals {g : GuardId} {acks : List Nat} {again : List Nat → Frame} {next : Frame}
    (hg : acks = [] ∨ s.Runs g) (hframe : ∀ g', frame.stakesAt g' = if g = g' then Stake.requests acks else 0)
    (hagain : ∀ acks g', (again acks).stakesAt g' = if g = g' then Stake.requests acks else 0)
    (hnext : ∀ g', next.stakesAt g' = 0) : frame.Deals fresh s (discardNext s again next acks) [] := by
  cases acks with
  | nil => exact .calm (.refl s) (fun g' => (hframe g').trans (ite_self 0)) hnext rfl
  | cons k acks =>
    obtain ⟨d, hd⟩ := (hg.resolve_left (List.cons_ne_nil _ _)).desk
    exact .of_visit hd (Store.sets_closeAck s g k) rfl (.discard k acks) hframe (hagain acks) rfl

theorem ShutdownPoint.advance_deals (thread : ThreadId) (g : GuardId) (p : ShutdownPoint)
    (hhoused : (Frame.shutdown g p).Housed s) : (Frame.shutdown g p).Deals fresh s (p.advance thread s g) [] := by
  cases p with
  | interrupt =>
    simp only [advance]
    cases hd : s.desk? g with
    | none =>
      have hg : s.guard? g = none := Option.map_eq_none_iff.mp hd
      have hs : s.interrupt g = (s, []) := by rw [Store.interrupt, hg]
      rw [hs]
      exact .calm (.refl s) (fun _ => rfl) (fun _ => ite_self 0) rfl
    | some d =>
      obtain ⟨hacks, hsets⟩ := Store.sets_interrupt hd
      refine .of_visit hd hsets rfl .interrupt (fun _ => (ite_self 0).symm) (fun g' => ?_) rfl
      rw [← hacks]
      rfl
  | discarding acks => exact discardNext_deals hhoused (fun _ => rfl) (fun _ _ => rfl) fun _ => rfl
  | claim =>
    have hs := s.steady_modifyGuard g (f := fun guard => { guard with joinable := false }) fun _ => rfl
    simp only [advance]
    repeat' split
    all_goals first
      | exact .calm (.refl s) (fun _ => rfl) (fun _ => rfl) rfl
      | exact .calm hs (fun _ => rfl) (fun _ => rfl) rfl
  | joining =>
    simp only [advance]
    split
    · exact .calm (s.steady_log _ _) (fun _ => rfl) (fun _ => rfl) rfl
    · exact .calm (.refl s) (fun _ => rfl) (fun _ => rfl) rfl

/-- A new guard has a desk of its own. -/
theorem Store.desk?_addGuard (s : Store) (config : Config) (source : Source) (worker : ThreadId)
    (g : GuardId) : (s.addGuard config source worker).1.desk? g =
      if g = s.guards.size then some (.new config worker source) else s.desk? g := by
  simp only [desk?, guard?, addGuard, Array.getElem?_push]
  split <;> rfl

theorem StartRequest.advance_deals (q : StartRequest) :
    (Frame.start q).Deals fresh s (q.advance fresh s) [] :=
  .found (s.desk?_addGuard q.config _ fresh) rfl (fun _ => rfl) rfl (fun _ => rfl) rfl

theorem bindGuard_deals (name : String) (g : GuardId) :
    (Frame.bindGuard name g).Deals fresh s (bindGuard s name g) [] := by
  have hs : s.Steady (s.bindGuard name g) := ⟨fun _ => rfl, rfl⟩
  simp only [bindGuard]
  repeat' split
  all_goals exact .calm hs (fun _ => rfl) (fun _ => rfl) rfl

theorem Purpose.advance_deals (p : Purpose) :
    (Frame.processWide p).Deals fresh s (p.advance fresh s) [] := by
  have hframe : ∀ g g', (p.frame g).stakesAt g' = 0 := fun g g' => by cases p <;> rfl
  unfold advance
  split
  · exact .calm (.refl s) (fun _ => rfl) (fun g => hframe _ g) rfl
  · split
    · exact .calm (.refl s) (fun _ => rfl) (fun _ => rfl) rfl
    · next config hconfig =>
      exact .found (s.desk?_addGuard config (SourceKind.plain.source none) fresh) rfl (fun _ => rfl) rfl
        (hframe _) rfl

/-- A callback that no worker waits for runs for a call. -/
theorem Path.over_eq_release {id : HandleId} {p : CallbackPoint} {rest : List Frame}
    (hn : Nested (.callback id p :: rest)) (hs : Stacked (.callback id p :: rest))
    (hidle : ¬AtWork (.callback id p) rest) : Path.over rest = .release := by
  match rest with
  | [] => rfl
  | .worker g point :: below =>
    obtain rfl : below = [] := hn.2.worker
    have hwaits := hs.waits _ rfl
    cases point with
    | running id' =>
      obtain rfl : id = id' := Kind.callback.inj (hn.1.2 _ rfl)
      exact absurd (.inr ⟨g, id, p, rfl, rfl⟩) hidle
    | _ => cases hwaits
  | .commands .. :: _ | .give _ :: _ | .rest .. :: _ | .discard .. :: _ | .register .. :: _ | .release .. :: _ => rfl
  | .callback .. :: _ | .drop .. :: _ | .flush .. :: _ | .shutdown .. :: _ | .start _ :: _ => rfl
  | .bindGuard .. :: _ | .processWide _ :: _ => rfl

/-- Whatever is done that is not a worker's: nothing at any desk, a visit, or a new guard. -/
theorem Frame.advance_deals (thread : ThreadId) {rest : List Frame} (hn : Nested (frame :: rest))
    (hs : Stacked (frame :: rest)) (hhoused : frame.Housed s)
    (hentries : ∀ id e, s.resource? id = some e → s.Runs e.guard) (hready : frame.isReady s = true)
    (hidle : ¬AtWork frame rest) :
    frame.Deals fresh s (frame.advance thread fresh s)
      (frame.deeds s (.over rest) (frame.advance thread fresh s).2) := by
  cases frame with
  | commands todo done => exact Script.advance_deals _ todo done
  | give o => exact .calm (.refl s) (fun _ => rfl) (fun _ => rfl) rfl
  | rest g reply => exact .calm (.refl s) (fun _ => rfl) (fun _ => rfl) rfl
  | discard g acks => exact discardNext_deals hhoused (fun _ => rfl) (fun _ _ => rfl) fun _ => rfl
  | register q p => exact p.advance_deals q
  | release id p => exact p.advance_deals id
  | callback id p =>
    rw [Path.over_eq_release hn hs hidle]
    exact p.advance_deals thread id
  | drop id p => exact p.advance_deals _ id (hentries id)
  | flush g patience gate p => exact p.advance_deals _ patience gate hhoused hready
  | shutdown g p => exact p.advance_deals thread g hhoused
  | start q => exact q.advance_deals
  | bindGuard name g => exact bindGuard_deals name g
  | processWide p => exact p.advance_deals
  | worker g p => exact absurd (.inl ⟨g, p, rfl⟩) hidle

end Deals

end Reclaim

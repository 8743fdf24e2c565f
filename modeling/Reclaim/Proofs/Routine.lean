import Reclaim.Proofs.Beginnings
import Reclaim.System

/-!
# Routine

Nearly all that threads do is routine: handles are added, and something changes inside guards and handles that stay
what they are. What a store says of the rest is the same afterwards, which is to be shown of a few changes only, and
then holds of every action but the rare ones.

* `Store.Routine` : what comes of routine; `Store.routine_*` : actions on a store that are routine;
* `Frame.Rare` : the frames whose next action need not be;
* `Frame.routine` : the next action of any other frame is.
-/

namespace Reclaim

/-- One store comes from another by routine. -/
inductive Store.Routine : Store → Store → Prop where
  | refl (s : Store) : Routine s s
  | trans {s s' s'' : Store} : Routine s s' → Routine s' s'' → Routine s s''
  /-- A guard keeps its configuration and its worker, and whoever waits for the worker goes on waiting. -/
  | guard (s : Store) (g : GuardId) {f : Guard → Guard}
      (hf : ∀ x, ((f x).worker, (f x).joinable, (f x).config) = (x.worker, x.joinable, x.config)) :
      Routine s (s.modifyGuard g f)
  /-- A handle remains what was registered. -/
  | entry (s : Store) (id : HandleId) {f : Entry → Entry}
      (hf : ∀ e, ((f e).guard, (f e).address, (f e).label, (f e).callback) = (e.guard, e.address, e.label, e.callback)) :
      Routine s (s.modifyEntry id f)
  | allocate (s : Store) (g : GuardId) (r : Registration Command) (callback : ReleaseFn) :
      Routine s (s.allocate g r callback).1
  /-- Flush answers, runs of callbacks, variables and output are no part of guards and handles. -/
  | aside (s : Store) (acks : Array (Oneshot Unit)) (calls : Array Call) (names : Names) (output : Output) :
      Routine s { s with acks, calls, names, output }

namespace Store
variable (s : Store) (g : GuardId) (id : HandleId)

/-! ## Actions on a store -/

theorem routine_log (level : Level) (text : String) : s.Routine (s.log level text) :=
  .aside s s.acks s.calls s.names _

theorem routine_answers (acks : Array (Oneshot Unit)) : s.Routine { s with acks } :=
  .aside s acks s.calls s.names s.output

theorem routine_names (names : Names) : s.Routine { s with names } :=
  .aside s s.acks s.calls names s.output

theorem routine_calls (calls : Array Call) : s.Routine { s with calls } :=
  .aside s s.acks calls s.names s.output

theorem routine_modifySource (f : Source → Source) : s.Routine (s.modifySource g f) := .guard s g fun _ => rfl

theorem routine_modifyStats (f : Stats → Stats) : s.Routine (s.modifyStats g f) := .guard s g fun _ => rfl

theorem routine_setWorkerState (state : WorkerState) : s.Routine (s.setWorkerState g state) := .guard s g fun _ => rfl

theorem routine_track : s.Routine (s.track g id) := .guard s g fun _ => rfl

theorem routine_untrack : s.Routine (s.untrack g id) := .guard s g fun _ => rfl

theorem routine_markReleased : s.Routine (s.markReleased id) := .entry s id fun _ => rfl

theorem routine_beginUse : s.Routine (s.beginUse id) := .entry s id fun _ => rfl

theorem routine_share (shares : Nat) :
    s.Routine (s.modifyEntry id fun e => { e with owners := e.owners + shares }) := .entry s id fun _ => rfl

theorem routine_retire : s.Routine (s.retire id).1 := by
  unfold retire
  repeat' split
  · exact .refl s
  · exact .refl s
  · exact (s.routine_markReleased id).trans (routine_untrack _ _ id)

theorem routine_takeActive : s.Routine (s.takeActive g id).1 := by
  unfold takeActive
  repeat' split
  all_goals first
    | exact .refl s
    | exact (s.routine_markReleased id).trans (routine_untrack _ g id)

theorem routine_dropShare : s.Routine (s.dropShare id).1 := by
  unfold dropShare
  split
  · exact .refl s
  · exact .entry s id fun _ => rfl

theorem routine_endUse : s.Routine (s.endUse id).1 := by
  unfold endUse
  split
  · exact .refl s
  · exact .entry s id fun _ => rfl

theorem routine_countReleased : s.Routine (s.countReleased id) := by
  unfold countReleased
  split
  · exact .refl s
  · exact (s.routine_modifyStats _ _).trans (routine_log _ _ _)

theorem routine_emit (d : Diagnostic) : s.Routine (s.emit g d).1 := by
  have hoffer : s.Routine (s.modifyGuard g (·.offer d)) := .guard s g fun _ => rfl
  unfold emit
  split
  · exact .refl s
  · exact hoffer.trans (.aside _ s.acks s.calls s.names _)

theorem routine_enqueue (item : Item) : s.Routine (s.enqueue g item).1 := by
  unfold enqueue
  split
  · exact .refl s
  · next source _ => exact s.routine_modifySource g fun _ => source

theorem routine_callNext : s.Routine (s.callNext g).1 := by
  unfold callNext
  split
  · exact .refl s
  · next x _ => exact s.routine_modifySource g fun _ => x.source.ask.1

theorem routine_pollNext : s.Routine (s.pollNext g).1 := by
  unfold pollNext
  split
  · exact .refl s
  · next x _ =>
    have hsource := s.routine_modifySource g fun _ => x.source.poll.1
    simp only
    split
    · exact hsource.trans (routine_answers _ _)
    · exact hsource

theorem routine_interrupt : s.Routine (s.interrupt g).1 := by
  unfold interrupt
  split
  · exact .refl s
  · next x _ =>
    have hsource := s.routine_modifySource g fun _ => x.source.interrupt.1
    simp only
    split
    · exact hsource
    · exact hsource.trans (routine_log _ _ _)

theorem routine_takeAck (k : Nat) : s.Routine (s.takeAck k).1 := by
  unfold takeAck
  split
  · exact .refl s
  · exact s.routine_answers _

end Store

/-! ## Operations -/

section Operations
variable (s : Store)

theorem routine_discardNext (again : List Nat → Frame) (next : Frame) (acks : List Nat) :
    s.Routine (discardNext s again next acks).1 := by
  cases acks with
  | nil => exact .refl s
  | cons k acks => exact s.routine_answers _

theorem RegisterPoint.routine (q : RegisterRequest) (p : RegisterPoint) : s.Routine (p.advance s q).1 := by
  cases p with
  | allocate =>
    simp only [advance]
    split
    · exact .refl s
    · next callback _ => exact .allocate s q.guard q.registration callback
  | track id => exact s.routine_track q.guard id
  | count id => exact (s.routine_modifyStats q.guard _).trans (Store.routine_log _ _ _)
  | bind id =>
    have hbind : s.Routine (s.bindHandle q.handle id) := s.routine_names _
    simp only [advance]
    split
    · exact hbind
    · next old _ =>
      have hdrop := hbind.trans (Store.routine_dropShare _ old)
      split <;> exact hdrop
  | dropping | report => exact .refl s

theorem endRelease_routine (id : HandleId) (o : Outcome) : s.Routine (endRelease s id o).1 := by
  have hend := s.routine_endUse id
  unfold endRelease
  generalize s.endUse id = r at hend
  obtain ⟨s', gone⟩ := r
  cases gone <;> exact hend

theorem ReleasePoint.routine (id : HandleId) (p : ReleasePoint) : s.Routine (p.advance s id).1 := by
  cases p with
  | retire =>
    have hretire := s.routine_retire id
    simp only [advance]
    generalize s.retire id = r at hretire
    obtain ⟨s', won⟩ := r
    cases won <;> exact hretire
  | count => exact s.routine_countReleased id
  | running => exact .refl s
  | lost | ran => exact endRelease_routine s id _

theorem CallbackPoint.enter_store {thread : ThreadId} {s : Store} {id : HandleId} {e : Entry}
    (he : s.resource? id = some e) :
    (enter.advance thread s id).1 = ((s.beginCall id e thread).1.tellProbe e).1 := by
  simp only [advance, he]
  generalize (s.beginCall id e thread).1.tellProbe e = r
  obtain ⟨s', fails⟩ := r
  cases fails
  · cases e.callback.body <;> rfl
  · rfl

/-- A callback that starts adds a run and tells its probe. -/
theorem CallbackPoint.enter_eq (thread : ThreadId) (id : HandleId) :
    ∃ calls probes, (enter.advance thread s id).1 = { s with calls, probes } := by
  cases he : s.resource? id with
  | none => exact ⟨s.calls, s.probes, by simp only [advance, he]⟩
  | some e =>
    rw [enter_store he]
    unfold Store.tellProbe
    repeat' split
    all_goals exact ⟨_, _, rfl⟩

theorem CallbackPoint.routine (thread : ThreadId) (id : HandleId) {p : CallbackPoint} (hp : p ≠ .enter) :
    s.Routine (p.advance thread s id).1 := by
  cases p with
  | enter => exact absurd rfl hp
  | running call => exact .refl s
  | ran call replies =>
    simp only [advance]
    split
    · exact .refl s
    · exact s.routine_calls _

theorem DropPoint.routine (id : HandleId) (p : DropPoint) : s.Routine (p.advance s id).1 := by
  cases p with
  | check =>
    simp only [advance]
    split <;> exact .refl s
  | enqueue =>
    simp only [advance]
    split
    · exact .refl s
    · next e _ =>
      have hput := s.routine_enqueue e.guard (.reclaim id)
      generalize s.enqueue e.guard (.reclaim id) = r at hput
      obtain ⟨s', accepted⟩ := r
      cases accepted
      · exact hput
      · exact hput.trans (Store.routine_log _ _ _)
  | leak =>
    simp only [advance]
    split
    · exact .refl s
    · next e _ =>
      have hemit := s.routine_emit e.guard (.leakedAfterStop e.address)
      generalize s.emit e.guard (.leakedAfterStop e.address) = r at hemit
      obtain ⟨s', panic⟩ := r
      cases panic <;> exact hemit

theorem FlushPoint.routine (g : GuardId) (patience : Patience) (gate : GateUse) (p : FlushPoint) :
    s.Routine (p.advance s g patience gate).1 := by
  cases p with
  | checkStopped | checkInterrupted =>
    simp only [advance]
    split <;> exact .refl s
  | request =>
    have hput := (s.routine_answers (s.acks.push .pending)).trans
      (s.newAck.1.routine_enqueue g (.flush s.newAck.2))
    simp only [advance]
    generalize s.newAck.1.enqueue g (.flush s.newAck.2) = r at hput
    obtain ⟨s', accepted⟩ := r
    cases accepted
    · exact hput.trans (Store.routine_answers _ _)
    · cases gate with
      | opens => exact hput.trans (Store.routine_modifySource _ g _)
      | leaves => exact hput
  | waiting k =>
    have htake := s.routine_takeAck k
    simp only [advance]
    split <;> exact htake

theorem ShutdownPoint.routine (thread : ThreadId) (g : GuardId) {p : ShutdownPoint} (hp : p ≠ .claim) :
    s.Routine (p.advance thread s g).1 := by
  cases p with
  | interrupt => exact s.routine_interrupt g
  | discarding acks => exact routine_discardNext s _ _ acks
  | claim => exact absurd rfl hp
  | joining =>
    simp only [advance]
    split
    · exact s.routine_log _ _
    · exact .refl s

theorem bindGuard_routine (name : String) (g : GuardId) : s.Routine (bindGuard s name g).1 := by
  have hbind : s.Routine (s.bindGuard name g) := s.routine_names _
  unfold bindGuard
  simp only
  repeat' split
  all_goals exact hbind

theorem WorkerPoint.routine (g : GuardId) (p : WorkerPoint) : s.Routine (p.advance s g).1 := by
  cases p with
  | starting | aborted => exact s.routine_log _ _
  | calling =>
    have hcall := (s.routine_setWorkerState g .waiting).trans (Store.routine_callNext _ g)
    simp only [advance]
    generalize (s.setWorkerState g .waiting).callNext g = r at hcall
    obtain ⟨s', panics⟩ := r
    cases panics <;> exact hcall
  | polling =>
    have hpoll := s.routine_pollNext g
    simp only [advance]
    generalize s.pollNext g = r at hpoll
    obtain ⟨s', poll⟩ := r
    cases poll <;> exact hpoll
  | took item => exact s.routine_setWorkerState g .processing
  | processing item =>
    cases item with
    | flush k => exact s.routine_answers _
    | reclaim id =>
      have htake := s.routine_takeActive g id
      simp only [advance]
      generalize s.takeActive g id = r at htake
      obtain ⟨s', taken⟩ := r
      cases taken
      · exact htake.trans ((Store.routine_modifyStats _ g _).trans (Store.routine_log _ _ _))
      · exact htake
  | reporting id =>
    simp only [advance]
    split
    · exact .refl s
    · next e _ =>
      have hemit := s.routine_emit g (.notProperlyClosed e.address)
      generalize s.emit g (.notProperlyClosed e.address) = r at hemit
      obtain ⟨s', panic⟩ := r
      cases panic <;> exact hemit
  | running id => exact .refl s
  | settling id panic => cases panic <;> exact .guard s g fun _ => rfl
  | announcing id panic =>
    simp only [advance]
    split
    · exact .refl s
    · next e _ =>
      have hemit := s.routine_emit g (e.announcement panic)
      generalize s.emit g (e.announcement panic) = r at hemit
      obtain ⟨s', panic⟩ := r
      cases panic <;> exact hemit
  | leaving exit => exact s.routine_interrupt g
  | discarding exit acks => exact routine_discardNext s _ _ acks
  | farewell exit => exact s.routine_emit g .interrupted
  | stopping exit => exact .guard s g fun _ => rfl

end Operations

/-! ## Commands and frames -/

/-- The commands that concern the process-wide guard, the environment and the probes. -/
inductive Command.Rare : Command → Prop where
  | choose (recorder : String) (setup : Setup) : Rare (.choose recorder setup)
  | setEnvironment (environment : Environment) : Rare (.setEnvironment environment)
  | failOn (address : Address) : Rare (.failOn address)

theorem Command.Beginning.routine {s s' : Store} {c : Command} {b : Begin} (h : c.Beginning s s' b)
    (hc : ¬ c.Rare) : s.Routine s' := by
  cases h with
  | choose => exact absurd (.choose _ _) hc
  | setEnvironment environment => exact absurd (.setEnvironment environment) hc
  | failOn address => exact absurd (.failOn address) hc
  | release => exact s.routine_beginUse _
  | drop | part => exact s.routine_dropShare _
  | inject => exact s.routine_enqueue _ _
  | letThrough => exact s.routine_modifySource _ _
  | interrupt => exact s.routine_interrupt _
  | dropGuard | forgetGuard => exact s.routine_names _
  | _ => exact .refl s

theorem Command.routine (s : Store) {c : Command} (hc : ¬ c.Rare) : s.Routine (c.begin s).1 := by
  obtain hbeginning | ⟨what, -, hmissing⟩ := c.begin_cases s
  · exact hbeginning.routine hc
  · rw [hmissing]
    exact .refl s

/-- None of them has to do with guards and handles. -/
theorem Command.Rare.begin_store {c : Command} (hc : c.Rare) (s : Store) : ∃ probes processWide environment,
    (c.begin s).1 = { s with probes, processWide, environment } := by
  obtain hbeginning | ⟨what, -, hmissing⟩ := c.begin_cases s
  · generalize c.begin s = r at hbeginning
    obtain ⟨s', b⟩ := r
    cases hc <;> cases hbeginning <;> exact ⟨_, _, _, rfl⟩
  · rw [hmissing]
    exact ⟨s.probes, s.processWide, s.environment, rfl⟩

/-- What a script does to the store is what its next command does. -/
theorem Script.advance_fst (s : Store) (c : Command) (todo : List Command) (done : List Reply) :
    (advance s (c :: todo) done).1 = (c.begin s).1 := by
  simp only [advance]
  cases hbegin : c.begin s with
  | mk s' b => cases b <;> rfl

/-- Frames whose next action need not be routine: a guard may start, or somebody take it on himself to wait for the
end of its worker, or a probe be told something. -/
inductive Frame.Rare : Frame → Prop where
  | command {c : Command} (hc : c.Rare) (todo : List Command) (done : List Reply) : Rare (.commands (c :: todo) done)
  | enter (id : HandleId) : Rare (.callback id .enter)
  | claim (g : GuardId) : Rare (.shutdown g .claim)
  | start (q : StartRequest) : Rare (.start q)
  | processWide (p : Purpose) : Rare (.processWide p)

theorem Frame.routine (thread fresh : ThreadId) (s : Store) {x : Frame} (hx : ¬ x.Rare) :
    s.Routine (x.advance thread fresh s).1 := by
  cases x with
  | commands todo done =>
    cases todo with
    | nil => exact .refl s
    | cons c todo =>
      rw [advance, Script.advance_fst]
      exact c.routine s fun hc => hx (.command hc todo done)
  | give | rest => exact .refl s
  | discard g acks => exact routine_discardNext s _ _ acks
  | register q p => exact p.routine s q
  | release id p => exact p.routine s id
  | callback id p =>
    refine p.routine s thread id ?_
    rintro rfl
    exact hx (.enter id)
  | drop id p => exact p.routine s id
  | flush g patience gate p => exact p.routine s g patience gate
  | shutdown g p =>
    refine p.routine s thread g ?_
    rintro rfl
    exact hx (.claim g)
  | start q => exact absurd (.start q) hx
  | bindGuard name g => exact bindGuard_routine s name g
  | processWide p => exact absurd (.processWide p) hx
  | worker g p => exact p.routine s g

end Reclaim

import Reclaim.Proofs.Owners
import Reclaim.Proofs.Programs
import Reclaim.Proofs.Solitude

/-!
# Operations in company and alone

What threads have under way at the guard they have under way in the process where it is alone. A step of it is the
same step there, and a step of anything else is none.

* `Command.IsDiscreet`, `Purpose.IsDiscreet` : nothing is registered whose callback calls back into a guard;
* `Frame.Alone`, `Frame.Foreign` : what is under way at the guard, and what is not;
* `Frame.Calls`, `Errands` : whole stacks;
* `Abreast`, `Frame.Alone.advance` : a step at the guard; `Elsewhere` : a step elsewhere;
* `Ensued`, `CallbackPoint.ensued`, `Script.ensued` : a step of a callback, and of its commands.
-/

namespace Reclaim

/-! ## Discreet callbacks -/

/-- The callback, if any, does not call back into a guard. -/
def Registration.IsDiscreet (r : Registration Command) : Prop := ∀ f, r.callback = some f → f.IsDiscreet

/-- Nothing is registered whose callback calls back into a guard. -/
def Command.IsDiscreet : Command → Prop
  | .register _ _ r | .acquire _ _ r => r.IsDiscreet
  | _ => True

/-- The same of what the process-wide guard is wanted for. -/
def Purpose.IsDiscreet : Purpose → Prop
  | bind .. => True
  | register _ r => r.IsDiscreet

theorem Registration.IsDiscreet.callback {r : Registration Command} (hr : r.IsDiscreet) {f : ReleaseFn}
    (hf : r.check = .ok f) : f.IsDiscreet := hr f (Registration.check_ok hf)

theorem Command.isDiscreet_of_isAside {k : Command} (hk : k.isAside = true) : k.IsDiscreet := by
  cases k with
  | register | acquire => cases hk
  | _ => trivial

/-! ## Frames -/

section Frames
variable (c : Census)

/-- The second registration is the first, with the guard alone. -/
inductive RegisterPoint.Alone : RegisterPoint → RegisterPoint → Prop
  | allocate : RegisterPoint.Alone .allocate .allocate
  | track {id : HandleId} : c.owns id → RegisterPoint.Alone (.track id) (.track (c.rank id))
  | count {id : HandleId} : c.owns id → RegisterPoint.Alone (.count id) (.count (c.rank id))

/-- The second worker is at the same point. -/
inductive WorkerPoint.Alone : WorkerPoint → WorkerPoint → Prop
  | starting : WorkerPoint.Alone .starting .starting
  | calling : WorkerPoint.Alone .calling .calling
  | polling : WorkerPoint.Alone .polling .polling
  | took {i i' : Item} : i.Alone c i' → WorkerPoint.Alone (.took i) (.took i')
  | processing {i i' : Item} : i.Alone c i' → WorkerPoint.Alone (.processing i) (.processing i')
  | reporting {id : HandleId} : c.owns id → WorkerPoint.Alone (.reporting id) (.reporting (c.rank id))
  | settling {id : HandleId} (panic : Option Panic) : c.owns id →
      WorkerPoint.Alone (.settling id panic) (.settling (c.rank id) panic)
  | announcing {id : HandleId} (panic : Option Panic) : c.owns id →
      WorkerPoint.Alone (.announcing id panic) (.announcing (c.rank id) panic)
  | aborted (p : Panic) : WorkerPoint.Alone (.aborted p) (.aborted p)
  | leaving (exit : Exit) : WorkerPoint.Alone (.leaving exit) (.leaving exit)
  | discarding (exit : Exit) {ks ks' : List Nat} : c.Same ks ks' →
      WorkerPoint.Alone (.discarding exit ks) (.discarding exit ks')
  | farewell (exit : Exit) : WorkerPoint.Alone (.farewell exit) (.farewell exit)
  | stopping (exit : Exit) : WorkerPoint.Alone (.stopping exit) (.stopping exit)

/-- The second call that shuts the guard down is at the same point. -/
inductive ShutdownPoint.Alone : ShutdownPoint → ShutdownPoint → Prop
  | interrupt : ShutdownPoint.Alone .interrupt .interrupt
  | discarding {ks ks' : List Nat} : c.Same ks ks' → ShutdownPoint.Alone (.discarding ks) (.discarding ks')
  | claim : ShutdownPoint.Alone .claim .claim
  | joining : ShutdownPoint.Alone .joining .joining

/-- The second callback is the first, of one of the guard's handles. -/
inductive CallbackPoint.Alone : CallbackPoint → CallbackPoint → Prop
  | enter : CallbackPoint.Alone .enter .enter
  | running {k k' : Nat} : c.runs k = some (some k') → CallbackPoint.Alone (.running k) (.running k')
  | ran {k k' : Nat} (replies : List Reply) : c.runs k = some (some k') →
      CallbackPoint.Alone (.ran k replies) (.ran k' replies)

/-- The second frame is the first, which is under way at the guard or with one of its handles. -/
inductive Frame.Alone : Frame → Frame → Prop
  | register {handle : String} {r : Registration Command} {must : Bool} {p p' : RegisterPoint} :
      r.IsDiscreet → p.Alone c p' → Frame.Alone (.register ⟨c.guard, handle, r, must⟩ p) (.register ⟨0, "", r, must⟩ p')
  | release {id : HandleId} {p : ReleasePoint} : p ≠ .running → c.owns id →
      Frame.Alone (.release id p) (.release (c.rank id) p)
  | drop {id : HandleId} (p : DropPoint) : c.owns id → Frame.Alone (.drop id p) (.drop (c.rank id) p)
  | flush (patience : Patience) (gate : GateUse) {p p' : FlushPoint} : FlushPoint.Kept c.acks p p' →
      Frame.Alone (.flush c.guard patience gate p) (.flush 0 patience gate p')
  | discard {ks ks' : List Nat} : c.Same ks ks' → Frame.Alone (.discard c.guard ks) (.discard 0 ks')
  | shutdown {p p' : ShutdownPoint} : p.Alone c p' → Frame.Alone (.shutdown c.guard p) (.shutdown 0 p')
  | worker {p p' : WorkerPoint} : p.Alone c p' → Frame.Alone (.worker c.guard p) (.worker 0 p')

/-- Both frames wait for a callback of a handle of the guard's. -/
inductive Frame.Calls (id : HandleId) : Frame → Frame → Prop
  | release : Frame.Calls id (.release id .running) (.release (c.rank id) .running)
  | worker : Frame.Calls id (.worker c.guard (.running id)) (.worker 0 (.running (c.rank id)))

/-- The handle is another guard's, and it has just been registered at that guard. -/
def RegisterPoint.Foreign (g : GuardId) : RegisterPoint → Prop
  | allocate => g ≠ c.guard
  | track id | count id => g ≠ c.guard ∧ ownerIn c.owners id = some g
  | _ => True

/-- The worker of another guard is at no request of the guard's, and with none of its handles. -/
def WorkerPoint.Foreign : WorkerPoint → Prop
  | took i | processing i => i.Foreign c
  | reporting id | running id | settling id _ | announcing id _ => ¬ c.owns id
  | discarding _ ks => c.Strange ks
  | _ => True

/-- Whoever shuts another guard down destroys no request of the guard's. -/
def ShutdownPoint.Foreign : ShutdownPoint → Prop
  | discarding ks => c.Strange ks
  | _ => True

/-- A flush of another guard waits for no answer to a request of the guard's. -/
def FlushPoint.Foreign : FlushPoint → Prop
  | waiting k => c.acks k = some none
  | _ => True

/-- The callback is that of another guard's handle. -/
def CallbackPoint.Foreign : CallbackPoint → Prop
  | enter => True
  | running k | ran k _ => c.runs k = some none

/-- The frame is under way neither at the guard nor with one of its handles. -/
def Frame.Foreign : Frame → Prop
  | .commands todo _ => ∀ k ∈ todo, k.IsDiscreet
  | .register q p => q.registration.IsDiscreet ∧ p.Foreign c q.guard
  | .release id _ | .drop id _ => ¬ c.owns id
  | .callback id p => ¬ c.owns id ∧ p.Foreign c
  | .flush g _ _ p => g ≠ c.guard ∧ p.Foreign c
  | .discard g ks => g ≠ c.guard ∧ c.Strange ks
  | .shutdown g p => g ≠ c.guard ∧ p.Foreign c
  | .processWide p => p.IsDiscreet
  | .worker g p => g ≠ c.guard ∧ p.Foreign c
  | _ => True

/-- What a thread has under way, and what of it is under way at the guard. -/
inductive Errands : List Frame → List Frame → Prop
  | elsewhere {xs : List Frame} : (∀ x ∈ xs, x.Foreign c) → Errands xs []
  | here {x x' : Frame} {xs : List Frame} : x.Alone c x' → (∀ y ∈ xs, y.Foreign c) → Errands (x :: xs) [x']
  | callback {id : HandleId} {p p' : CallbackPoint} {x x' : Frame} {xs : List Frame} : p.Alone c p' → c.owns id →
      x.Calls c id x' → (∀ y ∈ xs, y.Foreign c) → Errands (.callback id p :: x :: xs) [.callback (c.rank id) p', x']
  | commands {todo : List Command} (done : List Reply) {k k' : Nat} {id : HandleId} {x x' : Frame} {xs : List Frame} :
      (∀ k ∈ todo, k.isAside = true) → c.runs k = some (some k') → c.owns id → x.Calls c id x' →
        (∀ y ∈ xs, y.Foreign c) → Errands (.commands todo done :: .callback id (.running k) :: x :: xs)
          [.commands todo done, .callback (c.rank id) (.running k'), x']

end Frames

/-! ### Names that stay -/

section Grows
variable {c c' : Census} (hg : c.Grows c')
include hg

theorem FlushPoint.kept_mono {p p' : FlushPoint} (h : FlushPoint.Kept c.acks p p') :
    FlushPoint.Kept c'.acks p p' := by
  obtain ⟨hacks, -⟩ := hg
  cases h with
  | checkStopped => exact .checkStopped
  | checkInterrupted => exact .checkInterrupted
  | request => exact .request
  | waiting hk => exact .waiting (hacks hk)

theorem WorkerPoint.Alone.mono {p p' : WorkerPoint} (h : p.Alone c p') : p.Alone c' p' := by
  cases h with
  | took hi => exact .took (hi.mono hg)
  | processing hi => exact .processing (hi.mono hg)
  | reporting hid =>
    obtain ⟨-⟩ := hg
    exact .reporting hid
  | settling panic hid =>
    obtain ⟨-⟩ := hg
    exact .settling panic hid
  | announcing panic hid =>
    obtain ⟨-⟩ := hg
    exact .announcing panic hid
  | starting => exact .starting
  | calling => exact .calling
  | polling => exact .polling
  | aborted p => exact .aborted p
  | leaving exit => exact .leaving exit
  | discarding exit hks => exact .discarding exit (hks.mono hg)
  | farewell exit => exact .farewell exit
  | stopping exit => exact .stopping exit

theorem ShutdownPoint.Alone.mono {p p' : ShutdownPoint} (h : p.Alone c p') : p.Alone c' p' := by
  cases h with
  | interrupt => exact .interrupt
  | discarding hks => exact .discarding (hks.mono hg)
  | claim => exact .claim
  | joining => exact .joining

theorem CallbackPoint.Alone.mono {p p' : CallbackPoint} (h : p.Alone c p') : p.Alone c' p' := by
  obtain ⟨-, hruns⟩ := hg
  cases h with
  | enter => exact .enter
  | running hk => exact .running (hruns hk)
  | ran replies hk => exact .ran replies (hruns hk)

theorem Frame.Calls.mono {id : HandleId} {x x' : Frame} (h : x.Calls c id x') : x.Calls c' id x' := by
  obtain ⟨-⟩ := hg
  cases h with
  | release => exact .release
  | worker => exact .worker

theorem Frame.Alone.mono {x x' : Frame} (h : x.Alone c x') : x.Alone c' x' := by
  cases h with
  | register hr hp =>
    obtain ⟨-⟩ := hg
    refine .register hr ?_
    cases hp with
    | allocate => exact .allocate
    | track hid => exact .track hid
    | count hid => exact .count hid
  | release hp hid =>
    obtain ⟨-⟩ := hg
    exact .release hp hid
  | drop p hid =>
    obtain ⟨-⟩ := hg
    exact .drop p hid
  | flush patience gate hp =>
    have hp := FlushPoint.kept_mono hg hp
    obtain ⟨-⟩ := hg
    exact .flush patience gate hp
  | discard hks =>
    have hks := hks.mono hg
    obtain ⟨-⟩ := hg
    exact .discard hks
  | shutdown hp =>
    have hp := hp.mono hg
    obtain ⟨-⟩ := hg
    exact .shutdown hp
  | worker hp =>
    have hp := hp.mono hg
    obtain ⟨-⟩ := hg
    exact .worker hp

theorem Frame.Foreign.mono {x : Frame} (h : x.Foreign c) : x.Foreign c' := by
  obtain ⟨hacks, hruns⟩ := hg
  cases x with
  | register q p => cases p <;> exact h
  | callback id p =>
    cases p with
    | enter => exact h
    | running k => exact ⟨h.1, hruns h.2⟩
    | ran k replies => exact ⟨h.1, hruns h.2⟩
  | flush g patience gate p =>
    cases p with
    | waiting k => exact ⟨h.1, hacks h.2⟩
    | _ => exact h
  | worker g p =>
    cases p with
    | took i => exact ⟨h.1, Item.Foreign.mono (.intro hacks hruns) h.2⟩
    | processing i => exact ⟨h.1, Item.Foreign.mono (.intro hacks hruns) h.2⟩
    | discarding exit ks => exact ⟨h.1, Census.Strange.mono (.intro hacks hruns) h.2⟩
    | _ => exact h
  | discard g ks => exact ⟨h.1, Census.Strange.mono (.intro hacks hruns) h.2⟩
  | shutdown g p =>
    cases p with
    | discarding ks => exact ⟨h.1, Census.Strange.mono (.intro hacks hruns) h.2⟩
    | _ => exact h
  | _ => exact h

theorem Errands.mono {xs xs' : List Frame} (h : Errands c xs xs') : Errands c' xs xs' := by
  cases h with
  | elsewhere hxs => exact .elsewhere fun x hx => (hxs x hx).mono hg
  | here hx hxs => exact .here (hx.mono hg) fun y hy => (hxs y hy).mono hg
  | callback hp hid hx hxs =>
    have hxs := fun y hy => (hxs y hy).mono hg
    have hp := hp.mono hg
    have hx := hx.mono hg
    obtain ⟨-⟩ := hg
    exact .callback hp hid hx hxs
  | commands done htodo hk hid hx hxs =>
    have hxs := fun y hy => (hxs y hy).mono hg
    have hx := hx.mono hg
    obtain ⟨-, hruns⟩ := hg
    exact .commands done htodo (hruns hk) hid hx hxs

end Grows

/-! ### What waits -/

section Receive
variable {c : Census}

theorem Frame.Foreign.receive {x : Frame} (h : x.Foreign c) (o : Outcome) : (x.receive o).Foreign c := by
  fun_cases Frame.receive x o
  all_goals first
    | exact h
    | trivial

/-- The callback's end is the same for both. -/
theorem Frame.Calls.receive {id : HandleId} {x x' : Frame} (h : x.Calls c id x') (hid : c.owns id) (o : Outcome) :
    (x.receive o).Alone c (x'.receive o) := by
  cases h with
  | release =>
    cases o with
    | panic p => exact .release (fun hne => by cases hne) hid
    | value reply => exact .release (fun hne => by cases hne) hid
    | did replies => exact .release (fun hne => by cases hne) hid
  | worker =>
    cases o with
    | panic p => exact .worker (.settling _ hid)
    | value reply => exact .worker (.settling _ hid)
    | did replies => exact .worker (.settling _ hid)

theorem Frame.Alone.isErrand {x x' : Frame} (h : x.Alone c x') : x'.isErrand = true := by
  cases h with
  | register _ hp => cases hp <;> rfl
  | _ => rfl

theorem Frame.Calls.isErrand {id : HandleId} {x x' : Frame} (h : x.Calls c id x') : x'.isErrand = true := by
  cases h <;> rfl

/-- Alone there is nothing under way but at the guard. -/
theorem Errands.filtered {xs xs' : List Frame} (h : Errands c xs xs') : Errands c xs (xs'.filter Frame.isErrand) := by
  have hall : xs'.filter Frame.isErrand = xs' := by
    refine List.filter_eq_self.mpr fun y hy => ?_
    cases h with
    | elsewhere => cases hy
    | here hx _ =>
      rw [List.mem_singleton.mp hy]
      exact hx.isErrand
    | callback _ _ hx _ =>
      rcases List.mem_cons.mp hy with rfl | hy
      · rfl
      · rw [List.mem_singleton.mp hy]
        exact hx.isErrand
    | commands _ _ _ _ hx _ =>
      rcases List.mem_cons.mp hy with rfl | hy
      · rfl
      rcases List.mem_cons.mp hy with rfl | hy
      · rfl
      · rw [List.mem_singleton.mp hy]
        exact hx.isErrand
  rwa [hall]

theorem Frame.Alone.concerns {x x' : Frame} (h : x.Alone c x') : x.concerns c.owners c.guard = true := by
  cases h with
  | register _ hp => cases hp <;> exact beq_self_eq_true _
  | release _ hid => exact beq_iff_eq.mpr hid
  | drop _ hid => exact beq_iff_eq.mpr hid
  | _ => exact beq_self_eq_true _

theorem Frame.Foreign.concerns {x : Frame} (h : x.Foreign c) : x.concerns c.owners c.guard = false := by
  cases x with
  | register q p =>
    cases p with
    | allocate => exact beq_eq_false_iff_ne.mpr h.2
    | track id => exact beq_eq_false_iff_ne.mpr h.2.1
    | count id => exact beq_eq_false_iff_ne.mpr h.2.1
    | _ => rfl
  | release id p => exact beq_eq_false_iff_ne.mpr h
  | drop id p => exact beq_eq_false_iff_ne.mpr h
  | callback id p => exact beq_eq_false_iff_ne.mpr h.1
  | flush g patience gate p => exact beq_eq_false_iff_ne.mpr h.1
  | discard g ks => exact beq_eq_false_iff_ne.mpr h.1
  | shutdown g p => exact beq_eq_false_iff_ne.mpr h.1
  | worker g p => exact beq_eq_false_iff_ne.mpr h.1
  | _ => rfl

end Receive

/-! ## Steps -/

/-- What becomes of a frame at the guard, and of the same frame with the guard alone. -/
inductive Progress.Abreast (c : Census) : Progress → Progress → Prop
  | stay {y y' : Frame} : y.Alone c y' → Progress.Abreast c (.goto y) (.goto y')
  /-- What is left to do has nothing to do with the guard. -/
  | leave {y y' : Frame} : y.Foreign c → y'.isErrand = false → Progress.Abreast c (.goto y) (.goto y')
  | callback {id : HandleId} {y y' : Frame} : c.owns id → y.Calls c id y' →
      Progress.Abreast c (.call (.callback id .enter) y) (.call (.callback (c.rank id) .enter) y')
  | call {x x' y y' : Frame} : x.Alone c x' → y.Foreign c → y'.isErrand = false →
      Progress.Abreast c (.call x y) (.call x' y')
  | finish (o o' : Outcome) : Progress.Abreast c (.finish o) (.finish o')

/-- What becomes of a frame that has nothing to do with the guard. -/
def Progress.Foreign (c : Census) : Progress → Prop
  | .goto x => x.Foreign c
  | .call x y => x.Foreign c ∧ y.Foreign c
  | .spawn .. => False
  | .finish _ => True

/-- A step at the guard, and the same step with the guard alone. -/
inductive Abreast (c : Census) (r r' : Store × Progress) : Prop
  | intro {c' : Census} : c.Grows c' → r.1.Alone c' r'.1 → r.2.Abreast c' r'.2 → Abreast c r r'

/-- A step elsewhere. -/
inductive Elsewhere (c : Census) (r : Store × Progress) (s' : Store) : Prop
  | intro {c' : Census} : c.Grows c' → r.1.Alone c' s' → r.2.Foreign c' → Elsewhere c r s'

/-- A step of a thread at the guard, and the same step with the guard alone, down to all that the thread has under
way. -/
inductive Ensued (c : Census) (r : Store × Progress) (xs : List Frame) (r' : Store × Progress) (xs' : List Frame) : Prop
  | intro {c' : Census} : c.Grows c' → r.1.Alone c' r'.1 →
      Errands c' (r.2.onto xs) ((r'.2.onto xs').filter Frame.isErrand) → r.2.spawned = [] → Ensued c r xs r' xs'

section Steps
variable {c : Census} {s s' : Store} {g : GuardId} {id : HandleId} {t t' fresh : ThreadId}

theorem Abreast.same {p p' : Progress} (h : s.Alone c s') (hp : p.Abreast c p') : Abreast c (s, p) (s', p') :=
  .intro (.refl c) h hp

theorem Elsewhere.same {p : Progress} (h : s.Alone c s') (hp : p.Foreign c) : Elsewhere c (s, p) s' :=
  .intro (.refl c) h hp

theorem Ensued.same {p p' : Progress} {xs xs' : List Frame} (h : s.Alone c s')
    (hstack : Errands c (p.onto xs) ((p'.onto xs').filter Frame.isErrand)) (hspawned : p.spawned = []) :
    Ensued c (s, p) xs (s', p') xs' :=
  .intro (.refl c) h hstack hspawned

/-- What a thread has under way after a step at the guard. -/
theorem Progress.Abreast.onto {p p' : Progress} (hp : p.Abreast c p') {xs : List Frame} (hxs : ∀ x ∈ xs, x.Foreign c) :
    Errands c (p.onto xs) ((p'.onto []).filter Frame.isErrand) := by
  cases hp with
  | stay hy => exact (Errands.here hy hxs).filtered
  | leave hy hno =>
    simp only [Progress.onto, List.filter_cons, hno, Bool.false_eq_true, if_false, List.filter_nil]
    exact .elsewhere (List.forall_mem_cons.mpr ⟨hy, hxs⟩)
  | callback hid hy => exact (Errands.callback .enter hid hy hxs).filtered
  | call hx hy hno =>
    simp only [Progress.onto, List.filter_cons, hx.isErrand, hno, Bool.false_eq_true, if_true, if_false,
      List.filter_nil]
    exact .here hx (List.forall_mem_cons.mpr ⟨hy, hxs⟩)
  | finish o o' =>
    refine .elsewhere ?_
    cases xs with
    | nil => exact hxs
    | cons x xs =>
      obtain ⟨hx, hxs⟩ := List.forall_mem_cons.mp hxs
      exact List.forall_mem_cons.mpr ⟨hx.receive o, hxs⟩

theorem Progress.Foreign.onto {p : Progress} (hp : p.Foreign c) {xs : List Frame} (hxs : ∀ x ∈ xs, x.Foreign c) :
    ∀ x ∈ p.onto xs, x.Foreign c := by
  refine Progress.forall_onto ?_ hxs fun x o hx => hx.receive o
  cases p with
  | goto x => simpa [Progress.onto, Progress.Foreign] using hp
  | call x y => simpa [Progress.onto, Progress.Foreign] using hp
  | spawn name x y => exact hp.elim
  | finish o => exact List.forall_mem_nil _

variable (h : s.Alone c s')
include h

/-! ### Registering -/

theorem RegisterPoint.abreast {handle : String} {r : Registration Command} {must : Bool} (hr : r.IsDiscreet)
    {p p' : RegisterPoint} (hp : p.Alone c p')
    (howners : (p.advance s ⟨c.guard, handle, r, must⟩).1.owners <+: c.owners) :
    Abreast c (p.advance s ⟨c.guard, handle, r, must⟩) (p'.advance s' ⟨0, "", r, must⟩) := by
  cases hp with
  | allocate =>
    rw [advance] at howners
    rw [advance, advance]
    cases hcheck : r.check with
    | error e => exact .same h (.finish _ _)
    | ok f =>
      simp only [hcheck] at howners ⊢
      obtain ⟨hs, hown, hrank⟩ := h.allocate r (hr.callback hcheck) howners
      exact .same hs (.stay (.register hr (hrank ▸ .track hown)))
  | track hid => exact .same (h.track hid) (.stay (.register hr (.count hid)))
  | count hid => exact .same (((h.modifyStats _).log _ _).output_alone _) (.leave ⟨hr, trivial⟩ rfl)

/-- A registration elsewhere; when the handle goes into its variable, the one that was there is dropped. -/
theorem RegisterPoint.elsewhere {q : RegisterRequest} {p : RegisterPoint} (hp : (Frame.register q p).Foreign c)
    (hbind : ∀ id, p ≠ .bind id) (howners : (p.advance s q).1.owners <+: c.owners) :
    Elsewhere c (p.advance s q) s' := by
  obtain ⟨hr, hp⟩ := hp
  cases p with
  | allocate =>
    rw [advance] at howners ⊢
    cases hcheck : q.registration.check with
    | error e => exact .same h trivial
    | ok f =>
      simp only [hcheck] at howners ⊢
      obtain ⟨hs, hown⟩ := h.allocate_other hp q.registration (hr.callback hcheck) howners
      exact .same hs ⟨hr, hp, hown⟩
  | track id => exact .same (h.track_other hp.1 hp.2) ⟨hr, hp⟩
  | count id => exact .same ((h.modifyStats_other hp.1 _).log _ _) ⟨hr, trivial⟩
  | bind id => exact (hbind id rfl).elim
  | dropping id => exact .same h ⟨hr, trivial⟩
  | report id => exact .same h trivial

/-! ### Releasing -/

theorem endRelease_abreast (hid : c.owns id) (o : Outcome) :
    Abreast c (endRelease s id o) (endRelease s' (c.rank id) o) := by
  rw [endRelease, endRelease]
  have hm := h.endUse hid
  generalize s.endUse id = r, s'.endUse (c.rank id) = r' at hm
  cases hm with
  | intro last hs =>
    cases last with
    | true => exact .same hs (.call (.drop _ hid) trivial rfl)
    | false => exact .same hs (.finish _ _)

theorem endRelease_elsewhere (hid : ¬ c.owns id) (o : Outcome) : Elsewhere c (endRelease s id o) s' := by
  have hs := h.endUse_other hid
  rw [endRelease]
  generalize s.endUse id = r at hs
  obtain ⟨s₁, last⟩ := r
  cases last with
  | true => exact .same hs ⟨hid, trivial⟩
  | false => exact .same hs trivial

theorem ReleasePoint.abreast {p : ReleasePoint} (hp : p ≠ .running) (hid : c.owns id) :
    Abreast c (p.advance s id) (p.advance s' (c.rank id)) := by
  cases p with
  | retire =>
    have hm := h.retire hid
    rw [advance, advance]
    generalize s.retire id = r, s'.retire (c.rank id) = r' at hm
    cases hm with
    | intro won hs =>
      cases won with
      | true => exact .same hs (.stay (.release (fun hne => by cases hne) hid))
      | false => exact .same hs (.stay (.release (fun hne => by cases hne) hid))
  | count => exact .same (h.countReleased hid) (.callback hid .release)
  | running => exact (hp rfl).elim
  | lost => exact endRelease_abreast h hid _
  | ran panic => exact endRelease_abreast h hid _

theorem ReleasePoint.elsewhere (p : ReleasePoint) (hid : ¬ c.owns id) : Elsewhere c (p.advance s id) s' := by
  cases p with
  | retire =>
    have hs := h.retire_other hid
    rw [advance]
    generalize s.retire id = r at hs
    obtain ⟨s₁, won⟩ := r
    cases won with
    | true => exact .same hs hid
    | false => exact .same hs hid
  | count => exact .same (h.countReleased_other hid) ⟨⟨hid, trivial⟩, hid⟩
  | running => exact .same h hid
  | lost => exact endRelease_elsewhere h hid _
  | ran panic => exact endRelease_elsewhere h hid _

/-! ### Callbacks -/

omit h in
/-- The end of a callback. -/
theorem Frame.Calls.errands {x x' : Frame} {xs : List Frame} (hx : x.Calls c id x') (hid : c.owns id)
    (hxs : ∀ y ∈ xs, y.Foreign c) (o : Outcome) :
    Errands c ((Progress.finish o).onto (x :: xs)) (((Progress.finish o).onto [x']).filter Frame.isErrand) :=
  (Errands.here (hx.receive hid o) hxs).filtered

/-- A step of a callback of one of the guard's handles. -/
theorem CallbackPoint.ensued {p p' : CallbackPoint} (hp : p.Alone c p') (hid : c.owns id) {x x' : Frame}
    {xs : List Frame} (hx : x.Calls c id x') (hxs : ∀ y ∈ xs, y.Foreign c) (t : ThreadId) :
    Ensued c (p.advance t s id) (x :: xs) (p'.advance (c.label t) s' (c.rank id)) [x'] := by
  cases hp with
  | enter =>
    rw [advance, advance, h.resource? hid]
    cases he : s.resource? id with
    | none => exact .same h (hx.errands hid hxs _) rfl
    | some e =>
      obtain ⟨hg, hbegun⟩ := h.beginCall hid e t
      have hm := hbegun.tellProbe e
      have hx := hx.mono hg
      have hxs := fun y hy => (hxs y hy).mono hg
      have hk : (c.onRun s.calls.size (some s'.calls.size)).runs s.calls.size = some (some s'.calls.size) :=
        Function.update_self ..
      have hcall : (s.beginCall id e t).2 = s.calls.size := rfl
      have hcall' : (s'.beginCall (c.rank id) e.alone (c.label t)).2 = s'.calls.size := rfl
      simp only [Option.map_some, hcall, hcall']
      rw [show e.alone.callback = e.callback from rfl, show e.alone.address = e.address from rfl]
      generalize (s.beginCall id e t).1.tellProbe e = r,
        (s'.beginCall (c.rank id) e.alone (c.label t)).1.tellProbe e.alone = r' at hm
      cases hm with
      | intro fails hs =>
        cases fails with
        | true => exact .intro hg hs (hx.errands hid hxs _) rfl
        | false =>
          cases hbody : e.callback.body with
          | none => exact .intro hg hs (hx.errands hid hxs _) (by cases e.callback.panic <;> rfl)
          | some body =>
            have haside := h.callback he body hbody
            exact .intro hg hs (Errands.commands [] haside hk hid hx hxs).filtered rfl
  | running hk => exact .same h (Errands.callback (.running hk) hid hx hxs).filtered rfl
  | ran replies hk =>
    rw [advance, advance, h.resource? hid]
    cases he : s.resource? id with
    | none => exact .same h (hx.errands hid hxs _) rfl
    | some e => exact .same (h.endCall hk replies) (hx.errands hid hxs _) rfl

theorem CallbackPoint.elsewhere {p : CallbackPoint} (hid : ¬ c.owns id) (hp : p.Foreign c) (t : ThreadId) :
    Elsewhere c (p.advance t s id) s' := by
  cases p with
  | enter =>
    rw [advance]
    cases he : s.resource? id with
    | none => exact .same h trivial
    | some e =>
      obtain ⟨hg, hbegun⟩ := h.beginCall_other hid e t
      have hs := hbegun.tellProbe_other e
      have hk : (c.onRun s.calls.size none).runs s.calls.size = some none := Function.update_self ..
      have hcall : (s.beginCall id e t).2 = s.calls.size := rfl
      simp only [hcall]
      generalize (s.beginCall id e t).1.tellProbe e = r at hs
      obtain ⟨s₁, fails⟩ := r
      cases fails with
      | true => exact .intro hg hs trivial
      | false =>
        cases hbody : e.callback.body with
        | none => exact .intro hg hs trivial
        | some body =>
          refine .intro hg hs ⟨fun k hk => ?_, hid, hk⟩
          exact Command.isDiscreet_of_isAside (h.callback he body hbody k hk)
  | running k => exact .same h ⟨hid, hp⟩
  | ran k replies =>
    rw [advance]
    cases s.resource? id with
    | none => exact .same h trivial
    | some e => exact .same (h.endCall_other hp replies) trivial

/-- A command of a callback of one of the guard's handles. -/
theorem Script.ensued {todo : List Command} (htodo : ∀ k ∈ todo, k.isAside = true) (done : List Reply) {k k' : Nat}
    (hk : c.runs k = some (some k')) (hid : c.owns id) {x x' : Frame} {xs : List Frame} (hx : x.Calls c id x')
    (hxs : ∀ y ∈ xs, y.Foreign c) : Ensued c (Script.advance s todo done) (.callback id (.running k) :: x :: xs)
      (Script.advance s' todo done) [.callback (c.rank id) (.running k'), x'] := by
  cases todo with
  | nil => exact .same h (Errands.callback (.ran done.reverse hk) hid hx hxs).filtered rfl
  | cons command todo =>
    obtain ⟨haside, htodo⟩ := List.forall_mem_cons.mp htodo
    have hnext (r : Reply) : Errands c ((Progress.goto (.commands todo (r :: done))).onto
        (.callback id (.running k) :: x :: xs)) (((Progress.goto (.commands todo (r :: done))).onto
          [.callback (c.rank id) (.running k'), x']).filter Frame.isErrand) :=
      (Errands.commands (r :: done) htodo hk hid hx hxs).filtered
    cases command with
    | setEnvironment environment => exact .same { h with } (hnext _) rfl
    | failOn address => exact .same (h.failOn address) (hnext _) rfl
    | _ => cases haside

/-! ### Dropping -/

theorem DropPoint.abreast (p : DropPoint) (hid : c.owns id) :
    Abreast c (p.advance s id) (p.advance s' (c.rank id)) := by
  cases p with
  | check =>
    rw [advance, advance, h.resource? hid]
    cases s.resource? id with
    | none => exact .same h (.finish _ _)
    | some e =>
      obtain ⟨g, address, label, callback, state, owners, users⟩ := e
      cases state with
      | active => exact .same h (.stay (.drop _ hid))
      | released => exact .same h (.finish _ _)
  | enqueue =>
    rw [advance, advance, h.resource? hid]
    cases he : s.resource? id with
    | none => exact .same h (.finish _ _)
    | some e =>
      have hm := h.enqueue (.reclaim id)
      simp only [Option.map_some, h.guard_eq hid he]
      rw [show e.alone.guard = 0 from rfl]
      generalize s.enqueue c.guard (.reclaim id) = r, s'.enqueue 0 (.reclaim (c.rank id)) = r' at hm
      cases hm with
      | intro taken hs =>
        cases taken with
        | true => exact .same ((hs.log _ _).output_alone _) (.finish _ _)
        | false => exact .same hs (.stay (.drop _ hid))
  | leak =>
    rw [advance, advance, h.resource? hid]
    cases he : s.resource? id with
    | none => exact .same h (.finish _ _)
    | some e =>
      have hm := h.emit (.leakedAfterStop e.address)
      simp only [Option.map_some, h.guard_eq hid he]
      rw [show e.alone.guard = 0 from rfl, show e.alone.address = e.address from rfl]
      generalize s.emit c.guard (.leakedAfterStop e.address) = r, s'.emit 0 (.leakedAfterStop e.address) = r' at hm
      cases hm with
      | intro panic hs =>
        cases panic with
        | some p => exact .same hs (.finish _ _)
        | none => exact .same hs (.finish _ _)

theorem DropPoint.elsewhere (p : DropPoint) (hid : ¬ c.owns id) : Elsewhere c (p.advance s id) s' := by
  cases p with
  | check =>
    rw [advance]
    split
    · exact .same h hid
    · exact .same h trivial
  | enqueue =>
    rw [advance]
    cases he : s.resource? id with
    | none => exact .same h trivial
    | some e =>
      have hs := h.enqueue_other (h.guard_ne hid he) (i := .reclaim id) trivial
      simp only
      generalize s.enqueue e.guard (.reclaim id) = r at hs
      obtain ⟨s₁, taken⟩ := r
      cases taken with
      | true => exact .same (hs.log _ _) trivial
      | false => exact .same hs hid
  | leak =>
    rw [advance]
    cases he : s.resource? id with
    | none => exact .same h trivial
    | some e =>
      have hs := h.emit_other (h.guard_ne hid he) (.leakedAfterStop e.address)
      simp only
      generalize s.emit e.guard (.leakedAfterStop e.address) = r at hs
      obtain ⟨s₁, panic⟩ := r
      cases panic with
      | some p => exact .same hs trivial
      | none => exact .same hs trivial

/-! ### Flushing -/

theorem FlushPoint.abreast (patience : Patience) (gate : GateUse) {p p' : FlushPoint}
    (hp : FlushPoint.Kept c.acks p p') :
    Abreast c (p.advance s c.guard patience gate) (p'.advance s' 0 patience gate) := by
  have hx := h.guard?
  cases hp with
  | checkStopped =>
    rw [advance, advance]
    generalize s.guard? c.guard = x, s'.guard? 0 = x' at hx
    cases hx with
    | none => exact .same h (.stay (.flush _ _ .checkInterrupted))
    | @some x x' hx =>
      cases hx with
      | intro =>
        obtain ⟨config, worker, source, registry, stats, state, joinable, exit, offered⟩ := x
        cases state with
        | stopped => exact .same h (.finish _ _)
        | waiting => exact .same h (.stay (.flush _ _ .checkInterrupted))
        | processing => exact .same h (.stay (.flush _ _ .checkInterrupted))
  | checkInterrupted =>
    rw [advance, advance]
    generalize s.guard? c.guard = x, s'.guard? 0 = x' at hx
    cases hx with
    | none => exact .same h (.stay (.flush _ _ .request))
    | @some x x' hx =>
      simp only [Option.map_some, hx.source.isInterrupted]
      cases x.source.isInterrupted with
      | true => exact .same h (.finish _ _)
      | false => exact .same h (.stay (.flush _ _ .request))
  | request =>
    obtain ⟨hg, hnew⟩ := h.newAck
    have hk : (c.onAck s.acks.size (some s'.acks.size)).acks s.acks.size = some (some s'.acks.size) :=
      Function.update_self ..
    have hm : Tandem (c.onAck s.acks.size (some s'.acks.size)) (s.newAck.1.enqueue c.guard (.flush s.newAck.2))
        (s'.newAck.1.enqueue 0 (.flush s'.newAck.2)) := hnew.enqueue (.flush hk)
    rw [advance, advance]
    simp only
    generalize s.newAck.1.enqueue c.guard (.flush s.newAck.2) = r,
      s'.newAck.1.enqueue 0 (.flush s'.newAck.2) = r' at hm
    cases hm with
    | intro taken hs =>
      cases taken with
      | true =>
        refine .intro hg ?_ (.stay (.flush _ _ (.waiting hk)))
        cases gate with
        | opens => exact hs.permitPending
        | leaves => exact hs
      | false => exact .intro hg (hs.closeAck hk) (.finish _ _)
  | @waiting k k' hk =>
    have hm := h.takeAck hk
    rw [advance, advance]
    generalize s.takeAck k = r, s'.takeAck k' = r' at hm
    cases hm with
    | @intro s₁ s₁' value hs =>
      have hx := hs.guard?
      simp only
      generalize s₁.guard? c.guard = x, s₁'.guard? 0 = x' at hx
      cases hx with
      | none => cases gate <;> exact .same hs (.finish _ _)
      | @some x x' hx =>
        simp only [Option.bind_some, hx.source.gate]
        cases gate with
        | leaves => exact .same hs (.finish _ _)
        | opens =>
          cases x.source.gate with
          | none => exact .same hs (.finish _ _)
          | some n => exact .same hs (.leave trivial rfl)

theorem FlushPoint.elsewhere (patience : Patience) (gate : GateUse) (hne : g ≠ c.guard) {p : FlushPoint}
    (hp : p.Foreign c) : Elsewhere c (p.advance s g patience gate) s' := by
  cases p with
  | checkStopped =>
    rw [advance]
    split
    · exact .same h trivial
    · exact .same h ⟨hne, trivial⟩
  | checkInterrupted =>
    rw [advance]
    split
    · exact .same h trivial
    · exact .same h ⟨hne, trivial⟩
  | request =>
    obtain ⟨hg, hnew⟩ := h.newAck_other
    have hk : (c.onAck s.acks.size none).acks s.acks.size = some none := Function.update_self ..
    have hs : (s.newAck.1.enqueue g (.flush s.newAck.2)).1.Alone (c.onAck s.acks.size none) s' :=
      hnew.enqueue_other hne hk
    rw [advance]
    simp only
    generalize s.newAck.1.enqueue g (.flush s.newAck.2) = r at hs
    obtain ⟨s₁, taken⟩ := r
    cases taken with
    | true =>
      refine .intro hg ?_ ⟨hne, hk⟩
      cases gate with
      | opens => exact hs.permitPending_other hne
      | leaves => exact hs
    | false => exact .intro hg (hs.closeAck_other hk) trivial
  | waiting k =>
    have hs := h.takeAck_other hp
    rw [advance]
    generalize s.takeAck k = r at hs
    obtain ⟨s₁, value⟩ := r
    simp only
    split
    · exact .same hs trivial
    · exact .same hs trivial

/-! ### Destroying requests -/

theorem discardNext_abreast {again again' : List Nat → Frame} {next next' : Frame} {ks ks' : List Nat}
    (hks : c.Same ks ks') (hagain : ∀ ks ks', c.Same ks ks' → (again ks).Alone c (again' ks'))
    (hnext : Progress.Abreast c (.goto next) (.goto next')) :
    Abreast c (discardNext s again next ks) (discardNext s' again' next' ks') := by
  cases hks with
  | nil => exact .same h hnext
  | cons hk hks => exact .same (h.closeAck hk) (.stay (hagain _ _ hks))

theorem discardNext_elsewhere {again : List Nat → Frame} {next : Frame} {ks : List Nat} (hks : c.Strange ks)
    (hagain : ∀ ks, c.Strange ks → (again ks).Foreign c) (hnext : next.Foreign c) :
    Elsewhere c (discardNext s again next ks) s' := by
  cases ks with
  | nil => exact .same h hnext
  | cons k ks =>
    obtain ⟨hk, hks⟩ := List.forall_mem_cons.mp hks
    exact .same (h.closeAck_other hk) (hagain ks hks)

/-! ### Shutting down -/

theorem ShutdownPoint.abreast {p p' : ShutdownPoint} (hp : p.Alone c p') (t : ThreadId) :
    Abreast c (p.advance t s c.guard) (p'.advance (c.label t) s' 0) := by
  have hx := h.guard?
  cases hp with
  | interrupt => exact .same h.interrupt.1 (.stay (.shutdown (.discarding h.interrupt.2)))
  | discarding hks =>
    exact discardNext_abreast h hks (fun _ _ hks => .shutdown (.discarding hks)) (.stay (.shutdown .claim))
  | claim =>
    have hclaimed : (s.modifyGuard c.guard fun x => { x with joinable := false }).Alone c
        (s'.modifyGuard 0 fun x => { x with joinable := false }) :=
      h.modifyGuard fun x x' hx => by
        cases hx with
        | intro hsource hregistry => exact .intro (x := { x with joinable := false }) hsource hregistry
    rw [advance, advance]
    generalize s.guard? c.guard = x, s'.guard? 0 = x' at hx
    cases hx with
    | none => exact .same h (.finish _ _)
    | @some x x' hx =>
      have hworker : x'.worker = c.label t ↔ x.worker = t := by
        rw [hx.worker]
        exact c.label.injective.eq_iff
      have hjoinable : x'.joinable = x.joinable := by cases hx with | intro => rfl
      simp only [hjoinable, hworker]
      split
      · split
        · exact .same hclaimed (.finish _ _)
        · exact .same hclaimed (.stay (.shutdown .joining))
      · exact .same h (.finish _ _)
  | joining =>
    rw [advance, advance]
    have hexit : (s'.guard? 0).bind Guard.exit = (s.guard? c.guard).bind Guard.exit := by
      generalize s.guard? c.guard = x, s'.guard? 0 = x' at hx
      cases hx with
      | none => rfl
      | some hx => cases hx with | intro => rfl
    rw [hexit]
    split
    · exact .same ((h.log _ _).output_alone _) (.finish _ _)
    · exact .same h (.finish _ _)

theorem ShutdownPoint.elsewhere {p : ShutdownPoint} (hne : g ≠ c.guard) (hp : p.Foreign c) (t : ThreadId) :
    Elsewhere c (p.advance t s g) s' := by
  cases p with
  | interrupt => exact .same (h.interrupt_other hne).1 ⟨hne, (h.interrupt_other hne).2⟩
  | discarding ks => exact discardNext_elsewhere h hp (fun _ hks => ⟨hne, hks⟩) ⟨hne, trivial⟩
  | claim =>
    have hclaimed : (s.modifyGuard g fun x => { x with joinable := false }).Alone c s' :=
      h.modifyGuard_other hne fun _ hx => ⟨hx.registry, hx.source⟩
    rw [advance]
    split
    · exact .same h trivial
    · split
      · simp only
        split
        · exact .same hclaimed trivial
        · exact .same hclaimed ⟨hne, trivial⟩
      · exact .same h trivial
  | joining =>
    rw [advance]
    split
    · exact .same (h.log _ _) trivial
    · exact .same h trivial

/-! ### The worker -/

theorem WorkerPoint.abreast {p p' : WorkerPoint} (hp : p.Alone c p') :
    Abreast c (p.advance s c.guard) (p'.advance s' 0) := by
  cases hp with
  | starting => exact .same ((h.log _ _).output_alone _) (.stay (.worker .calling))
  | calling =>
    have hm := (h.setWorkerState .waiting).callNext
    rw [advance, advance]
    generalize (s.setWorkerState c.guard .waiting).callNext c.guard = r,
      (s'.setWorkerState 0 .waiting).callNext 0 = r' at hm
    cases hm with
    | intro panics hs =>
      cases panics with
      | true => exact .same hs (.stay (.worker (.leaving _)))
      | false => exact .same hs (.stay (.worker .polling))
  | polling =>
    obtain ⟨hpoll, hs⟩ := h.pollNext
    rw [advance, advance]
    generalize s.pollNext c.guard = r, s'.pollNext 0 = r' at hpoll hs
    obtain ⟨s₁, poll⟩ := r
    obtain ⟨s₁', poll'⟩ := r'
    simp only at hpoll hs
    cases hpoll with
    | interrupted => exact .same hs (.stay (.worker (.leaving _)))
    | item hi => exact .same hs (.stay (.worker (.took hi)))
    | swallowed hk => exact .same hs (.stay (.worker .polling))
    | wait => exact .same hs (.stay (.worker .polling))
  | took hi => exact .same (h.setWorkerState .processing) (.stay (.worker (.processing hi)))
  | processing hi =>
    cases hi with
    | flush hk => exact .same (h.answer hk) (.stay (.worker .calling))
    | reclaim id =>
      have hm := h.takeActive id
      have hown : (s.takeActive c.guard id).2 = true → c.owns id := h.owns_of_takeActive
      rw [advance, advance]
      generalize s.takeActive c.guard id = r, s'.takeActive 0 (c.rank id) = r' at hm hown
      cases hm with
      | intro won hs =>
        cases won with
        | true => exact .same hs (.stay (.worker (.reporting (hown rfl))))
        | false => exact .same (((hs.modifyStats _).log _ _).output_alone _) (.stay (.worker .calling))
  | @reporting id hid =>
    rw [advance, advance, h.resource? hid]
    cases s.resource? id with
    | none => exact .same h (.stay (.worker .calling))
    | some e =>
      have hm := h.emit (.notProperlyClosed e.address)
      simp only [Option.map_some]
      rw [show e.alone.address = e.address from rfl]
      generalize s.emit c.guard (.notProperlyClosed e.address) = r, s'.emit 0 (.notProperlyClosed e.address) = r' at hm
      cases hm with
      | intro panic hs =>
        cases panic with
        | some p => exact .same hs (.stay (.worker (.aborted p)))
        | none => exact .same hs (.callback hid .worker)
  | settling panic hid =>
    cases panic with
    | none => exact .same (h.modifyStats _) (.stay (.worker (.announcing _ hid)))
    | some p => exact .same (h.modifyStats _) (.stay (.worker (.announcing _ hid)))
  | @announcing id panic hid =>
    rw [advance, advance, h.resource? hid]
    cases s.resource? id with
    | none => exact .same h (.stay (.worker .calling))
    | some e =>
      have hm := h.emit (e.announcement panic)
      simp only [Option.map_some]
      rw [show e.alone.announcement panic = e.announcement panic by cases panic <;> rfl]
      generalize s.emit c.guard (e.announcement panic) = r, s'.emit 0 (e.announcement panic) = r' at hm
      cases hm with
      | intro panic hs =>
        cases panic with
        | some p => exact .same hs (.stay (.worker (.aborted p)))
        | none => exact .same hs (.stay (.worker .calling))
  | aborted p => exact .same ((h.log _ _).output_alone _) (.stay (.worker .calling))
  | leaving exit => exact .same h.interrupt.1 (.stay (.worker (.discarding exit h.interrupt.2)))
  | discarding exit hks =>
    exact discardNext_abreast h hks (fun _ _ hks => .worker (.discarding exit hks)) (.stay (.worker (.farewell exit)))
  | farewell exit =>
    have hm := h.emit .interrupted
    rw [advance, advance]
    generalize s.emit c.guard .interrupted = r, s'.emit 0 .interrupted = r' at hm
    cases hm with
    | intro panic hs => exact .same hs (.stay (.worker (.stopping exit)))
  | stopping exit =>
    refine .same (h.modifyGuard fun x x' hx => ?_) (.finish _ _)
    cases hx with
    | intro hsource hregistry =>
      exact .intro (x := { x with state := .stopped, exit := some exit }) hsource hregistry

theorem WorkerPoint.elsewhere (hne : g ≠ c.guard) {p : WorkerPoint} (hp : p.Foreign c) :
    Elsewhere c (p.advance s g) s' := by
  cases p with
  | starting => exact .same (h.log _ _) ⟨hne, trivial⟩
  | calling =>
    have hs := (h.setWorkerState_other hne .waiting).callNext_other hne
    rw [advance]
    generalize (s.setWorkerState g .waiting).callNext g = r at hs
    obtain ⟨s₁, panics⟩ := r
    cases panics with
    | true => exact .same hs ⟨hne, trivial⟩
    | false => exact .same hs ⟨hne, trivial⟩
  | polling =>
    obtain ⟨hpoll, hs⟩ := h.pollNext_other hne
    rw [advance]
    generalize s.pollNext g = r at hpoll hs
    obtain ⟨s₁, poll⟩ := r
    cases poll with
    | item i => exact .same hs ⟨hne, hpoll⟩
    | interrupted => exact .same hs ⟨hne, trivial⟩
    | swallowed k => exact .same hs ⟨hne, trivial⟩
    | wait => exact .same hs ⟨hne, trivial⟩
  | took i => exact .same (h.setWorkerState_other hne .processing) ⟨hne, hp⟩
  | processing i =>
    cases i with
    | flush k => exact .same (h.answer_other hp) ⟨hne, trivial⟩
    | reclaim id =>
      obtain ⟨hs, hown⟩ := h.takeActive_other hne id
      rw [advance]
      generalize s.takeActive g id = r at hs hown
      obtain ⟨s₁, won⟩ := r
      cases won with
      | true => exact .same hs ⟨hne, hown rfl⟩
      | false => exact .same ((hs.modifyStats_other hne _).log _ _) ⟨hne, trivial⟩
  | reporting id =>
    rw [advance]
    cases s.resource? id with
    | none => exact .same h ⟨hne, trivial⟩
    | some e =>
      have hs := h.emit_other hne (.notProperlyClosed e.address)
      simp only
      generalize s.emit g (.notProperlyClosed e.address) = r at hs
      obtain ⟨s₁, panic⟩ := r
      cases panic with
      | some p => exact .same hs ⟨hne, trivial⟩
      | none => exact .same hs ⟨⟨hp, trivial⟩, hne, hp⟩
  | running id => exact .same h ⟨hne, hp⟩
  | settling id panic =>
    cases panic with
    | none => exact .same (h.modifyStats_other hne _) ⟨hne, hp⟩
    | some p => exact .same (h.modifyStats_other hne _) ⟨hne, hp⟩
  | announcing id panic =>
    rw [advance]
    cases s.resource? id with
    | none => exact .same h ⟨hne, trivial⟩
    | some e =>
      have hs := h.emit_other hne (e.announcement panic)
      simp only
      generalize s.emit g (e.announcement panic) = r at hs
      obtain ⟨s₁, panic⟩ := r
      cases panic with
      | some p => exact .same hs ⟨hne, trivial⟩
      | none => exact .same hs ⟨hne, trivial⟩
  | aborted p => exact .same (h.log _ _) ⟨hne, trivial⟩
  | leaving exit => exact .same (h.interrupt_other hne).1 ⟨hne, (h.interrupt_other hne).2⟩
  | discarding exit ks => exact discardNext_elsewhere h hp (fun _ hks => ⟨hne, hks⟩) ⟨hne, trivial⟩
  | farewell exit => exact .same (h.emit_other hne .interrupted) ⟨hne, trivial⟩
  | stopping exit =>
    exact .same (h.modifyGuard_other hne fun _ hx => ⟨hx.registry, hx.source⟩) trivial

/-! ### Any operation -/

/-- A step at the guard is the same step with the guard alone. -/
theorem Frame.Alone.advance {x x' : Frame} (hx : x.Alone c x') (t fresh fresh' : ThreadId)
    (howners : (x.advance t fresh s).1.owners <+: c.owners) :
    Abreast c (x.advance t fresh s) (x'.advance (c.label t) fresh' s') := by
  cases hx with
  | register hr hp => exact RegisterPoint.abreast h hr hp howners
  | release hp hid => exact ReleasePoint.abreast h hp hid
  | drop p hid => exact DropPoint.abreast h p hid
  | flush patience gate hp => exact FlushPoint.abreast h patience gate hp
  | discard hks => exact discardNext_abreast h hks (fun _ _ hks => .discard hks) (.leave trivial rfl)
  | shutdown hp => exact ShutdownPoint.abreast h hp t
  | worker hp => exact WorkerPoint.abreast h hp

end Steps

end Reclaim

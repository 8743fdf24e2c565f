import Reclaim.Proofs.Placement
import Reclaim.Proofs.Routine

/-!
# Fixtures

Hardly any action touches the process-wide guard, the environment, the threads of the workers, who waits
for their end, or how guards are configured.

* `Store.tenure`, `Store.posts`, `Store.configs` : what the store knows of them; `Store.fixtures` : all of it;
* `Store.Routine.fixtures` : routine leaves it alone;
* `Frame.advance_configs`, `System.config_act` : the configuration of a guard never changes.
-/

namespace Reclaim

/-- What the store knows of the process-wide guard, and of the environment. -/
structure Tenure where
  running : Option GuardId
  chosen : Option Config
  environment : Environment

namespace Store

/-- What the store knows of the process-wide guard. -/
def tenure (s : Store) : Tenure := ⟨s.processWide.running, s.processWide.chosen, s.environment⟩

/-- For each guard the thread of its worker, and whether nobody has begun to wait for its end. -/
def posts (s : Store) : Array (ThreadId × Bool) := s.guards.map fun x => (x.worker, x.joinable)

/-- The configurations of all guards. -/
def configs (s : Store) : Array Config := s.guards.map Guard.config

/-- What hardly any action touches. -/
def fixtures (s : Store) : Tenure × Array (ThreadId × Bool) × Array Config := (s.tenure, s.posts, s.configs)

/-- A reading of all guards, after a change to one that leaves the reading alone. -/
theorem map_modifyGuard {α : Type} (s : Store) (g : GuardId) (f : Guard → Guard) (reading : Guard → α)
    (hf : ∀ x, reading (f x) = reading x) : (s.modifyGuard g f).guards.map reading = s.guards.map reading := by
  refine Array.ext_getElem? fun i => ?_
  simp only [modifyGuard, Array.getElem?_map, Array.getElem?_modify]
  split
  · cases s.guards[i]? with
    | none => rfl
    | some x => exact congrArg some (hf x)
  · rfl

/-- A change to a guard that leaves its post and its configuration alone. -/
theorem fixtures_modifyGuard (s : Store) (g : GuardId) (f : Guard → Guard)
    (hf : ∀ x, ((f x).worker, (f x).joinable, (f x).config) = (x.worker, x.joinable, x.config)) :
    (s.modifyGuard g f).fixtures = s.fixtures := by
  have hposts := s.map_modifyGuard g f (fun x => (x.worker, x.joinable)) fun x =>
    congrArg (fun r => (r.1, r.2.1)) (hf x)
  have hconfigs := s.map_modifyGuard g f Guard.config fun x => congrArg (·.2.2) (hf x)
  exact Prod.ext rfl (Prod.ext hposts hconfigs)

theorem fixtures_modifyEntry (s : Store) (id : HandleId) (f : Entry → Entry) :
    (s.modifyEntry id f).fixtures = s.fixtures := by
  unfold modifyEntry
  split <;> rfl

/-- Routine leaves all that alone. -/
theorem Routine.fixtures {s s' : Store} (h : s.Routine s') : s'.fixtures = s.fixtures := by
  induction h with
  | trans _ _ ih ih' => exact ih'.trans ih
  | guard s g hf => exact s.fixtures_modifyGuard g _ hf
  | entry s id => exact s.fixtures_modifyEntry id _
  | refl | allocate | aside => rfl

end Store

/-! ## Configurations -/

/-- An action configures new guards at most. -/
theorem Frame.advance_configs (thread fresh : ThreadId) (s : Store) (x : Frame) :
    ∃ new, (x.advance thread fresh s).1.configs = s.configs ++ new := by
  have hrest : ∀ {s' : Store}, s'.configs = s.configs → ∃ new, s'.configs = s.configs ++ new := fun h =>
    ⟨#[], by rw [Array.append_empty, h]⟩
  have hadd : ∀ config source worker, ∃ new, (s.addGuard config source worker).1.configs = s.configs ++ new :=
    fun config source worker => ⟨#[config], by simp [Store.configs, Store.addGuard]⟩
  by_cases hrare : x.Rare
  · cases hrare with
    | command hc todo done =>
      obtain ⟨probes, processWide, environment, hstore⟩ := hc.begin_store s
      refine hrest ?_
      rw [advance, Script.advance_fst, hstore]
      rfl
    | enter id =>
      obtain ⟨calls, probes, hstore⟩ := CallbackPoint.enter_eq s thread id
      refine hrest ?_
      rw [advance, hstore]
      rfl
    | claim g =>
      have hclaim := s.map_modifyGuard g (fun x => { x with joinable := false }) Guard.config fun _ => rfl
      simp only [advance, ShutdownPoint.advance]
      repeat' split
      all_goals first
        | exact hrest rfl
        | exact hrest hclaim
    | start q => exact hadd q.config _ fresh
    | processWide p =>
      simp only [advance, Purpose.advance]
      repeat' split
      · exact hrest rfl
      · exact hrest rfl
      · exact hadd _ _ fresh
  · exact hrest (congrArg (·.2.2) (routine thread fresh s hrare).fixtures)

/-- A guard keeps its configuration when a thread acts. -/
theorem System.config_act {w : System} {g : GuardId} {x : Guard} (hx : w.store.guard? g = some x) (t : ThreadId) :
    ∃ x', (w.act t).store.guard? g = some x' ∧ x'.config = x.config := by
  obtain ⟨s, threads⟩ := w
  simp only [System.act, Thread.act]
  split
  · exact ⟨x, hx, rfl⟩
  · next th hth =>
    split
    · exact ⟨x, hx, rfl⟩
    · next frame rest hstack =>
      obtain ⟨new, hnew⟩ := frame.advance_configs t threads.size s
      have hconfig : s.configs[g]? = some x.config := by
        rw [Store.configs, Array.getElem?_map, show s.guards[g]? = some x from hx]
        rfl
      obtain ⟨hlt, -⟩ := Array.getElem?_eq_some_iff.mp hconfig
      have hconfig' := congrArg (·[g]?) hnew
      simp only [Array.getElem?_append_left hlt, hconfig] at hconfig'
      rw [Store.configs, Array.getElem?_map] at hconfig'
      exact Option.map_eq_some_iff.mp hconfig'

end Reclaim

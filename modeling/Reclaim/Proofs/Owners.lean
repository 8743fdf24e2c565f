import Reclaim.Proofs.Ranks
import Reclaim.Proofs.Routine
import Reclaim.Proofs.Transparency

/-!
# The guards of handles

A handle belongs to its guard for good. The list of the guards of all handles goes on when one is registered, and
nothing else changes it.

* `Store.Routine.owners`, `Frame.advance_owners` : the list goes on at most, whatever a thread does;
* `System.owners_happens`, `System.owners_ensue` : and whatever else happens.
-/

namespace Reclaim

theorem Store.Routine.owners {s s' : Store} (h : s.Routine s') : s.owners <+: s'.owners := by
  induction h with
  | trans _ _ ih ih' => exact ih.trans ih'
  | entry s id hf =>
    rw [s.owners_modifyEntry id _ fun e => (Prod.mk.inj (hf e)).1]
  | allocate s g r callback =>
    rw [Store.owners_allocate]
    exact List.prefix_append _ _
  | refl | guard | aside => exact List.prefix_rfl

/-- The list of the guards of all handles goes on at most. -/
theorem Frame.advance_owners (thread fresh : ThreadId) (s : Store) (x : Frame) :
    s.owners <+: (x.advance thread fresh s).1.owners := by
  by_cases hrare : x.Rare
  · cases hrare with
    | command hc todo done =>
      obtain ⟨probes, processWide, environment, hstore⟩ := hc.begin_store s
      rw [advance, Script.advance_fst, hstore]
      exact List.prefix_rfl
    | enter id =>
      obtain ⟨calls, probes, hstore⟩ := CallbackPoint.enter_eq s thread id
      rw [advance, hstore]
      exact List.prefix_rfl
    | claim g =>
      simp only [advance, ShutdownPoint.advance]
      repeat' split
      all_goals exact List.prefix_rfl
    | start q => exact List.prefix_rfl
    | processWide p =>
      simp only [advance, Purpose.advance]
      repeat' split
      all_goals exact List.prefix_rfl
  · exact (x.routine thread fresh s hrare).owners

/-! ## Runs -/

namespace System

theorem owners_occur (w : System) (e : Event) : w.store.owners <+: (w.occur e).store.owners := by
  cases e with
  | move m =>
    cases m with
    | act t =>
      cases ht : w.acting? t with
      | none => rw [occur_not_acting ht]
      | some x =>
        obtain ⟨name, rest, out, hth, -⟩ := acting?_eq_some ht
        rw [occur_acting ht, act_eq hth]
        exact x.advance_owners t w.threads.size w.store
    | expire t =>
      cases hm : w.move? (.expire t) with
      | none => simp only [occur, hm, Option.getD_none, List.prefix_rfl]
      | some w' =>
        obtain ⟨_, _, _, _, _, _, _, _, rfl⟩ := expire_cases hm
        simp only [occur, hm, Option.getD_some, List.prefix_rfl]
  | join name script => exact List.prefix_rfl
  | share id shares =>
    simp only [occur]
    split
    · exact (w.store.routine_share id shares).owners
    · exact List.prefix_rfl
  | inject g id =>
    simp only [occur]
    split
    · exact (w.store.routine_enqueue g (.reclaim id)).owners
    · exact List.prefix_rfl

theorem owners_interruptAtOnce (s : Store) (g : GuardId) : s.owners <+: (s.interruptAtOnce g).owners := by
  have hclosed : ∀ (acks : List Nat) (s : Store), (acks.foldl Store.closeAck s).owners = s.owners := fun acks => by
    induction acks with
    | nil => exact fun _ => rfl
    | cons k acks ih => exact fun s => ih (s.closeAck k)
  rw [Store.interruptAtOnce, hclosed]
  exact (s.routine_interrupt g).owners

theorem owners_happens (w : System) (h : Happening) : w.store.owners <+: (w.happens h).store.owners := by
  cases h with
  | event e => exact w.owners_occur e
  | put g id => exact (w.store.routine_enqueue g (.reclaim id)).owners
  | interrupt g => exact owners_interruptAtOnce w.store g

/-- Handles stay what they are. -/
theorem owners_ensue (w : System) (hs : List Happening) : w.store.owners <+: (w.ensue hs).store.owners := by
  induction hs generalizing w with
  | nil => exact List.prefix_rfl
  | cons h hs ih => exact (w.owners_happens h).trans (ih (w.happens h))

end System

end Reclaim

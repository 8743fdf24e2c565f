import Reclaim.Proofs.Lives
import Mathlib.Data.Set.Card

/-!
# Membership

What a guard keeps track of are the active handles that were registered with it. The registry of the
guard and the flags of the handles say the same, between the insertion and the claim of every handle.

* `System.Enrolled` : the handles that a guard should keep track of;
* `System.Consistent` : registries and flags agree; `System.consistent_after`.
-/

namespace Reclaim

/-- The handle is active, and its registration with the guard has got as far as the registry. -/
def System.Enrolled (w : System) (g : GuardId) (id : HandleId) : Prop :=
  ∃ e, w.store.resource? id = some e ∧ e.guard = g ∧ e.state = .active ∧ .numbered g id ∉ w.spots

namespace Life
variable {g : GuardId} {id : HandleId} {b a : Life}

/-- A handle enters the registry once. -/
theorem Step.numbered_le (hs : Step g id b a) : a.on (.numbered g id) ≤ b.on (.numbered g id) := by
  simp only [on]
  cases hs
  all_goals
    rename_i flow
    have h₁ := flow.on (.numbered g id)
    simp [-Multiset.count_eq_zero] at h₁ ⊢
    omega

theorem Steps.numbered_le (hs : Steps g id b a) : a.on (.numbered g id) ≤ b.on (.numbered g id) := by
  induction hs with
  | refl => exact le_rfl
  | tail _ hstep ih => exact hstep.numbered_le.trans ih

end Life

namespace Store

/-- A handle that there is has one of the numbers given so far. -/
theorem Known.number_le {s : Store} {id : HandleId} (h : s.Known id) :
    0 < id.number ∧ id.number ≤ s.entries.size := by
  obtain ⟨e, he⟩ := h
  unfold resource? at he
  split at he
  · cases he
  · next hne =>
    have hlt := (Array.getElem?_eq_some_iff.mp he).1
    omega

/-- Words of 64 bits tell handles apart as long as there are no more of them. -/
theorem Known.eq_of_word {s : Store} (hsize : s.entries.size < 2 ^ 64) {id id' : HandleId}
    (hid : s.Known id) (hid' : s.Known id') (hword : UInt64.ofNat id.number = UInt64.ofNat id'.number) :
    id = id' := by
  have hle := hid.number_le
  have hle' := hid'.number_le
  have hmod := congrArg UInt64.toNat hword
  simp only [UInt64.toNat_ofNat'] at hmod
  rw [Nat.mod_eq_of_lt (by omega), Nat.mod_eq_of_lt (by omega)] at hmod
  cases id
  cases id'
  exact congrArg HandleId.mk hmod

end Store

namespace System
variable {w : System} {h : History} {id : HandleId} {e : Entry}

/-- The registries and the flags agree. -/
structure Consistent (w : System) : Prop where
  /-- A guard keeps track of a handle once, -/
  distinct : ∀ g x, w.store.gist? g = some x → x.registry.ids.Nodup
  /-- of the active ones that were registered with it. -/
  members : ∀ g x id, w.store.gist? g = some x → (id ∈ x.registry.ids ↔ w.Enrolled g id)
  /-- So it contains a handle exactly if that is its own and active. -/
  contains : ∀ g id e, w.store.resource? id = some e → .numbered e.guard id ∉ w.spots →
    (w.store.contains g id = true ↔ e.guard = g ∧ e.state = .active)
  /-- A handle that has been given to a variable, or that a call is about to claim, has been
  entered. -/
  entered : ∀ g id, w.store.Named id ∨ .asking id ∈ w.spots → .numbered g id ∉ w.spots
  /-- The size of the registry is the number of these handles. -/
  live : ∀ g x, w.store.gist? g = some x → x.registry.size = {id | w.Enrolled g id}.ncard
  /-- A handle is entered by one registration, under a number that no registry holds, -/
  fresh : ∀ g id, .numbered g id ∈ w.spots → w.spots.count (.numbered g id) = 1 ∧
    ∀ g' x, w.store.gist? g' = some x → id ∉ x.registry.ids
  /-- and numbers of 64 bits do not repeat before all have been given. -/
  words : w.store.entries.size < 2 ^ 64 → ∀ id id', w.store.Known id → w.store.Known id' →
    UInt64.ofNat id.number = UInt64.ofNat id'.number → id = id'
  /-- A worker never finds a released handle in the registry. -/
  takes : ∀ g x id, w.store.gist? g = some x →
    (w.store.takeActive g id).2 = x.registry.contains id
  /-- A call that claims a handle takes it out of the registry. -/
  retires : ∀ id e, w.store.resource? id = some e → .numbered e.guard id ∉ w.spots →
    (w.store.retire id).2 = true →
      ∃ x x', w.store.gist? e.guard = some x ∧ id ∈ x.registry.ids ∧
        (w.store.retire id).1.gist? e.guard = some x' ∧ id ∉ x'.registry.ids ∧
        x'.registry.size + 1 = x.registry.size

/-- A handle is being entered, kept track of, or released. -/
theorem Orderly.listed (hw : w.Orderly h) (hr : w.Regular h) (he : w.store.resource? id = some e) :
    ∃ x, w.store.gist? e.guard = some x ∧
      x.registry.ids.count id + w.spots.count (.numbered e.guard id) + e.state.claims = 1 := by
  obtain ⟨x, hx⟩ := hw.2.entries id e he
  have hsum := (hr id e x he hx).sound.listed
  rw [on_life (y := .numbered e.guard id) ⟨rfl, rfl⟩] at hsum
  exact ⟨x, hx, hsum⟩

theorem Orderly.mem_registry (hw : w.Orderly h) (hr : w.Regular h) {g : GuardId} {x : Gist}
    (hx : w.store.gist? g = some x) : id ∈ x.registry.ids ↔ w.Enrolled g id := by
  constructor
  · intro hin
    obtain ⟨e, he, rfl⟩ := hw.2.listed g x id hx hin
    obtain ⟨x', hx', hsum⟩ := hw.listed hr he
    cases hx.symm.trans hx'
    have hcount := List.count_pos_iff.mpr hin
    refine ⟨e, he, rfl, ?_, ?_⟩
    · cases hs : e.state with
      | active => rfl
      | released =>
        simp only [hs, HandleState.claims] at hsum
        omega
    · rw [← Multiset.count_eq_zero]
      omega
  · rintro ⟨e, he, rfl, hactive, hnumbered⟩
    obtain ⟨x', hx', hsum⟩ := hw.listed hr he
    cases hx.symm.trans hx'
    rw [Multiset.count_eq_zero.mpr hnumbered, hactive] at hsum
    exact List.count_pos_iff.mp (by simp only [HandleState.claims] at hsum; omega)

theorem Orderly.entered (hw : w.Orderly h) (hr : w.Regular h) (g : GuardId)
    (hid : w.store.Named id ∨ .asking id ∈ w.spots) : .numbered g id ∉ w.spots := by
  intro hin
  obtain ⟨e, he, rfl⟩ : w.store.Owns g id := hw.2.spots _ hin
  obtain ⟨x, hx⟩ := hw.2.entries id e he
  have hsound := (hr id e x he hx).sound
  have honce := hsound.once
  have hfresh := hsound.fresh
  have hbound : (w.life h id e x).bound ≠ 0 := by
    rcases hid with hnamed | hasking
    · exact hnamed.bound
    · have hcount := Multiset.count_pos.mpr hasking
      have hon : (w.life h id e x).on (.asking id) = w.spots.count (.asking id) := on_life rfl
      omega
  have hcount := Multiset.count_pos.mpr hin
  rw [on_life (y := .numbered e.guard id) ⟨rfl, rfl⟩] at honce
  omega

theorem Orderly.registry_nodup (hw : w.Orderly h) (hr : w.Regular h) {g : GuardId} {x : Gist}
    (hx : w.store.gist? g = some x) : x.registry.ids.Nodup := by
  rw [List.nodup_iff_count_le_one]
  intro id
  by_cases hin : id ∈ x.registry.ids
  · obtain ⟨e, he, rfl⟩ := hw.2.listed g x id hx hin
    obtain ⟨x', hx', hsum⟩ := hw.listed hr he
    cases hx.symm.trans hx'
    omega
  · rw [List.count_eq_zero.mpr hin]
    exact Nat.zero_le 1

theorem Orderly.contains_iff (hw : w.Orderly h) (hr : w.Regular h) (g : GuardId)
    (he : w.store.resource? id = some e) (hnumbered : .numbered e.guard id ∉ w.spots) :
    w.store.contains g id = true ↔ e.guard = g ∧ e.state = .active := by
  obtain ⟨x, hx⟩ := hw.2.entries id e he
  by_cases hg : e.guard = g
  · subst hg
    have hmem : id ∈ x.registry.ids ↔ w.Enrolled e.guard id := hw.mem_registry hr hx
    obtain ⟨guard, hguard, rfl⟩ := Option.map_eq_some_iff.mp hx
    have hcontains : w.store.contains e.guard id = guard.registry.contains id := by
      simp [Store.contains, he, hguard]
    rw [hcontains, Registry.contains, List.contains_iff_mem]
    refine hmem.trans ⟨?_, fun hactive => ⟨e, he, rfl, hactive.2, hnumbered⟩⟩
    rintro ⟨e', he', -, hactive, -⟩
    cases he.symm.trans he'
    exact ⟨rfl, hactive⟩
  · have hno : w.store.contains g id = false := by
      simp only [Store.contains, he]
      cases w.store.guard? g <;> simp [hg]
    simp [hno, hg]

theorem Orderly.registry_size (hw : w.Orderly h) (hr : w.Regular h) {g : GuardId} {x : Gist}
    (hx : w.store.gist? g = some x) : x.registry.size = {id | w.Enrolled g id}.ncard := by
  have hset : {id | w.Enrolled g id} = ↑x.registry.ids.toFinset := by
    ext id
    simp [hw.mem_registry hr hx]
  rw [hset, Set.ncard_coe_finset, List.toFinset_card_of_nodup (hw.registry_nodup hr hx), Registry.size]

/-- A number that is being entered is in no registry. -/
theorem Orderly.fresh (hw : w.Orderly h) (hr : w.Regular h) {g : GuardId}
    (hin : .numbered g id ∈ w.spots) : w.spots.count (.numbered g id) = 1 ∧
      ∀ g' x, w.store.gist? g' = some x → id ∉ x.registry.ids := by
  obtain ⟨e, he, rfl⟩ : w.store.Owns g id := hw.2.spots _ hin
  obtain ⟨x, -, hsum⟩ := hw.listed hr he
  have hcount := Multiset.count_pos.mpr hin
  refine ⟨by omega, fun g' x' hx hmember => ?_⟩
  obtain ⟨e', he', hg, -, hnumbered⟩ := (hw.mem_registry hr hx).mp hmember
  cases he.symm.trans he'
  exact hnumbered (hg ▸ hin)

theorem Orderly.takeActive_eq (hw : w.Orderly h) (hr : w.Regular h) {g : GuardId} {x : Gist}
    (hx : w.store.gist? g = some x) (id : HandleId) :
    (w.store.takeActive g id).2 = x.registry.contains id := by
  by_cases hin : id ∈ x.registry.ids
  · obtain ⟨e, he, -, hactive, -⟩ := (hw.mem_registry hr hx).mp hin
    obtain ⟨-, -, -, -, hwon, -⟩ | ⟨hmissing, -⟩ := Store.takeActive_cases (g := g) he
    · simp [hwon, Registry.contains, hin]
    · simp [hmissing x hx hin] at hactive
  · obtain ⟨guard, hguard, rfl⟩ := Option.map_eq_some_iff.mp hx
    have hno : guard.registry.contains id = false := by
      simpa [Registry.contains, Guard.gist] using hin
    simp [Store.takeActive, hguard, Guard.gist, hno]

theorem Orderly.retire_erases (hw : w.Orderly h) (hr : w.Regular h)
    (he : w.store.resource? id = some e) (hnumbered : .numbered e.guard id ∉ w.spots)
    (hwon : (w.store.retire id).2 = true) :
    ∃ x x', w.store.gist? e.guard = some x ∧ id ∈ x.registry.ids ∧
      (w.store.retire id).1.gist? e.guard = some x' ∧ id ∉ x'.registry.ids ∧
      x'.registry.size + 1 = x.registry.size := by
  obtain ⟨x, hx⟩ := hw.2.entries id e he
  obtain ⟨hactive, -, hclaims⟩ | ⟨-, hlost⟩ := Store.retire_cases he
  · have hin : id ∈ x.registry.ids := (hw.mem_registry hr hx).mpr ⟨e, he, rfl, hactive, hnumbered⟩
    have hx' := hclaims.gist e.guard
    rw [if_pos rfl, hx] at hx'
    refine ⟨x, _, hx, hin, hx', ?_, ?_⟩
    · exact (hw.registry_nodup hr hx).not_mem_erase
    · have hpos := List.length_pos_of_mem hin
      have := List.length_erase_of_mem hin
      simp only [Gist.erase, Registry.erase, Registry.size]
      omega
  · rw [hlost] at hwon
    cases hwon

theorem Orderly.consistent (hw : w.Orderly h) (hr : w.Regular h) : w.Consistent where
  distinct _ _ hx := hw.registry_nodup hr hx
  members _ _ _ hx := hw.mem_registry hr hx
  contains g _ _ he hnumbered := hw.contains_iff hr g he hnumbered
  entered g _ := hw.entered hr g
  live _ _ hx := hw.registry_size hr hx
  fresh _ _ hin := hw.fresh hr hin
  words hsize _ _ hid hid' hword := hid.eq_of_word hsize hid' hword
  takes _ _ id hx := hw.takeActive_eq hr hx id
  retires _ _ he hnumbered hwon := hw.retire_erases hr he hnumbered hwon

/-- A number that has been entered is not entered again. -/
theorem Orderly.not_entered_again (hw : w.Orderly h) (he : w.store.resource? id = some e)
    (hnumbered : .numbered e.guard id ∉ w.spots) (es : List Event) (g : GuardId) :
    .numbered g id ∉ (w.after es).spots := by
  intro hin
  obtain ⟨x, hx⟩ := hw.2.entries id e he
  have hw' : (w.after es).Orderly (h ++ w.history es) := hw.after es
  obtain ⟨e', he', rfl⟩ : (w.after es).store.Owns g id := hw'.2.spots _ hin
  obtain ⟨e'', he'', hl⟩ := (extends_after hw es).entry id e he
  cases he'.symm.trans he''
  obtain ⟨_, x', he'', -, hsteps⟩ := hw.steps_after es he hx
  cases he'.symm.trans he''
  have hle := hsteps.numbered_le
  rw [on_life (y := .numbered e.guard id) ⟨rfl, rfl⟩, Multiset.count_eq_zero.mpr hnumbered,
    on_life (y := .numbered e.guard id) ⟨hl.guard.symm, rfl⟩, ← hl.guard] at hle
  have := Multiset.count_pos.mpr hin
  omega

/-- Whatever happens in a process, the registries and the flags agree, and no number is entered
twice. -/
theorem consistent_after (probes : Array Probe) (environment : Environment) (output : Output)
    (es : List Event) :
    ((boot probes environment output).after es).Consistent ∧
      ∀ id e, ((boot probes environment output).after es).store.resource? id = some e →
        .numbered e.guard id ∉ ((boot probes environment output).after es).spots →
        ∀ es' g, .numbered g id ∉ ((boot probes environment output).after (es ++ es')).spots := by
  have hw := orderly_after probes environment output es
  refine ⟨hw.consistent (regular_after probes environment output es), ?_⟩
  intro id e he hnumbered es' g
  rw [after_append]
  exact hw.not_entered_again he hnumbered es' g

end System

end Reclaim

import Reclaim.Store
import Mathlib.Data.List.Basic

/-!
# Numbers among the handles of a guard

Handles are numbered over all guards of a process. Among those of one guard a handle has a number as well,
which handles of other guards leave alone: its rank. Ranks are in the order of the numbers. They are read off the
list of the guards of all handles; of a store that has come to more handles since, the list goes on.

* `Store.owners` : the guards of all handles so far;
* `ownerIn`, `rankIn` : the guard of a handle, and its rank; 0 if it is none of the guard's;
* `rankIn_lt_iff`, `rankIn_injective` : the order of ranks;
* `Store.own` : the handles of a guard; `getElem?_own`, `own_modifyEntry`, `rankIn_allocate` : they are in the order of
  their ranks.
-/

namespace Reclaim

/-! ## Lists -/

section Lists
variable {α : Type} {p : α → Bool}

/-- Where an element of a list is among those that pass a test. -/
theorem getElem?_filter_countP {l : List α} {i : Nat} {x : α} (hi : l[i]? = some x) (hx : p x = true) :
    (l.filter p)[(l.take i).countP p]? = some x := by
  induction l generalizing i with
  | nil => cases hi
  | cons y l ih =>
    cases i with
    | zero =>
      cases hi
      simp [hx]
    | succ i =>
      rw [List.getElem?_cons_succ] at hi
      rw [List.take_succ_cons, List.countP_cons, List.filter_cons]
      split
      · rw [List.getElem?_cons_succ]
        exact ih hi
      · exact ih hi

/-- A change to an element that passes the test before and after. -/
theorem filter_modify {l : List α} {i : Nat} {x : α} {f : α → α} (hi : l[i]? = some x)
    (hf : ∀ y, p (f y) = p y) (hx : p x = true) :
    (l.modify i f).filter p = (l.filter p).modify ((l.take i).countP p) f := by
  induction l generalizing i with
  | nil => cases hi
  | cons y l ih =>
    cases i with
    | zero =>
      cases hi
      simp [hf, hx]
    | succ i =>
      rw [List.getElem?_cons_succ] at hi
      rw [List.modify_succ_cons, List.filter_cons, List.take_succ_cons, List.countP_cons, List.filter_cons,
        ih hi]
      split
      · rw [List.modify_succ_cons]
      · rfl

/-- A change to an element that does not pass the test. -/
theorem filter_modify_of_not {l : List α} {i : Nat} {f : α → α} (hf : ∀ y, p (f y) = p y)
    (hi : ∀ x, l[i]? = some x → p x = false) : (l.modify i f).filter p = l.filter p := by
  induction l generalizing i with
  | nil => simp
  | cons y l ih =>
    cases i with
    | zero =>
      have hy : p y = false := hi y rfl
      simp [hf, hy]
    | succ i =>
      rw [List.modify_succ_cons, List.filter_cons, List.filter_cons, ih fun x hx => hi x hx]

/-- A change to an element, read through a map. -/
theorem map_modify {β : Type} {r : α → β} {f : α → α} {f' : β → β} (hf : ∀ x, r (f x) = f' (r x)) (l : List α)
    (i : Nat) : (l.modify i f).map r = (l.map r).modify i f' := by
  refine List.ext_getElem? fun j => ?_
  simp only [List.getElem?_modify, List.getElem?_map]
  split
  · cases l[j]? with
    | none => rfl
    | some x => exact congrArg some (hf x)
  · rw [id_map', id_map']

end Lists

/-! ## Owners -/

/-- The guards of all handles so far, in the order of their numbers. -/
def Store.owners (s : Store) : List GuardId := s.entries.toList.map Entry.guard

/-- The guard of a handle. -/
def ownerIn (os : List GuardId) (id : HandleId) : Option GuardId :=
  if id.number = 0 then none else os[id.number - 1]?

/-- The number of a handle among those of a guard, 0 if it is none of them. -/
def rankIn (os : List GuardId) (g : GuardId) (id : HandleId) : HandleId :=
  if ownerIn os id = some g then ⟨(os.take id.number).count g⟩ else ⟨0⟩

section Ranks
variable {os os' : List GuardId} {g : GuardId} {id id' : HandleId}

theorem ownerIn_eq_some : ownerIn os id = some g ↔ ∃ i, id = ⟨i + 1⟩ ∧ os[i]? = some g := by
  rw [ownerIn]
  constructor
  · intro h
    split at h
    · cases h
    · next hne =>
      refine ⟨id.number - 1, ?_, h⟩
      obtain ⟨n⟩ := id
      exact congrArg HandleId.mk (Nat.sub_add_cancel (Nat.pos_of_ne_zero hne)).symm
  · rintro ⟨i, rfl, h⟩
    exact h

theorem rankIn_of_ne (h : ownerIn os id ≠ some g) : rankIn os g id = ⟨0⟩ := if_neg h

/-- A rank counts the handles of the guard up to this one. -/
theorem rankIn_eq {i : Nat} (h : os[i]? = some g) : rankIn os g ⟨i + 1⟩ = ⟨(os.take i).count g + 1⟩ := by
  rw [rankIn, if_pos (ownerIn_eq_some.mpr ⟨i, rfl, h⟩)]
  obtain ⟨hi, hg⟩ := List.getElem?_eq_some_iff.mp h
  rw [List.take_add_one, List.count_append, h]
  simp

theorem rankIn_ne_zero (h : ownerIn os id = some g) : (rankIn os g id).number ≠ 0 := by
  obtain ⟨i, rfl, hi⟩ := ownerIn_eq_some.mp h
  rw [rankIn_eq hi]
  exact Nat.succ_ne_zero _

/-- Ranks are in the order of the numbers. -/
theorem rankIn_lt (h : ownerIn os id = some g) (h' : ownerIn os id' = some g) (hlt : id.number < id'.number) :
    (rankIn os g id).number < (rankIn os g id').number := by
  obtain ⟨i, rfl, hi⟩ := ownerIn_eq_some.mp h
  obtain ⟨j, rfl, hj⟩ := ownerIn_eq_some.mp h'
  rw [rankIn_eq hi, rankIn_eq hj]
  have hij : i + 1 ≤ j := Nat.lt_of_succ_lt_succ hlt
  have hsub : (os.take (i + 1)).count g ≤ (os.take j).count g :=
    (List.take_sublist_take_left hij).count_le g
  rw [List.take_add_one, List.count_append, hi] at hsub
  simp only [Option.toList_some, List.count_singleton_self] at hsub
  exact Nat.succ_lt_succ hsub

theorem rankIn_lt_iff (h : ownerIn os id = some g) (h' : ownerIn os id' = some g) :
    (rankIn os g id).number < (rankIn os g id').number ↔ id.number < id'.number := by
  refine ⟨fun hlt => Nat.lt_of_not_le fun hle => ?_, rankIn_lt h h'⟩
  rcases Nat.lt_or_eq_of_le hle with hgt | heq
  · exact Nat.lt_asymm hlt (rankIn_lt h' h hgt)
  · obtain ⟨i⟩ := id
    obtain ⟨j⟩ := id'
    cases heq
    exact Nat.lt_irrefl _ hlt

theorem rankIn_injective (h : ownerIn os id = some g) (h' : ownerIn os id' = some g)
    (heq : rankIn os g id = rankIn os g id') : id = id' := by
  obtain ⟨n⟩ := id
  obtain ⟨n'⟩ := id'
  rcases Nat.lt_trichotomy n n' with hlt | rfl | hlt
  · exact absurd (congrArg HandleId.number heq) (Nat.ne_of_lt (rankIn_lt h h' hlt))
  · rfl
  · exact absurd (congrArg HandleId.number heq.symm) (Nat.ne_of_lt (rankIn_lt h' h hlt))

end Ranks

/-! ## The handles of a guard -/

namespace Store
variable {s : Store} {os : List GuardId} {g : GuardId} {id : HandleId} {e : Entry}

/-- The handles of a guard, in the order of their numbers. -/
def own (s : Store) (g : GuardId) : List Entry := s.entries.toList.filter fun e => e.guard == g

theorem resource?_eq {i : Nat} : s.resource? ⟨i + 1⟩ = s.entries.toList[i]? := by
  rw [resource?, if_neg (Nat.succ_ne_zero i), Array.getElem?_toList]
  rfl

/-- How many handles the guard has among the first ones. -/
theorem count_take_owners (s : Store) (g : GuardId) (i : Nat) :
    (s.owners.take i).count g = (s.entries.toList.take i).countP fun e => e.guard == g := by
  rw [owners, ← List.map_take, List.count, List.countP_map]
  rfl

theorem count_owners (s : Store) (g : GuardId) : s.owners.count g = (s.own g).length := by
  rw [owners, List.count, List.countP_map, own, List.countP_eq_length_filter]
  rfl

/-- The guard of a handle that there is. -/
theorem ownerIn_resource (hp : s.owners <+: os) (he : s.resource? id = some e) : ownerIn os id = some e.guard := by
  obtain ⟨n⟩ := id
  cases n with
  | zero => cases he
  | succ i =>
    rw [resource?_eq] at he
    obtain ⟨os', rfl⟩ := hp
    have hi : s.owners[i]? = some e.guard := by rw [owners, List.getElem?_map, he]; rfl
    refine ownerIn_eq_some.mpr ⟨i, rfl, ?_⟩
    rw [List.getElem?_append_left (List.getElem?_eq_some_iff.mp hi).1, hi]

section Prefix
variable (hp : s.owners <+: os)
include hp

/-- Where a handle of the guard is among all handles: if it is there, then at its rank among the guard's own. -/
theorem own_cases {i : Nat} (hi : os[i]? = some g) :
    (∃ e, s.entries.toList[i]? = some e ∧ e.guard = g ∧
      (os.take i).count g = (s.entries.toList.take i).countP fun e => e.guard == g) ∨
    (s.entries.toList.length ≤ i ∧ (s.own g).length ≤ (os.take i).count g) := by
  obtain ⟨os', rfl⟩ := hp
  have hlen : s.owners.length = s.entries.toList.length := List.length_map ..
  rcases Nat.lt_or_ge i s.entries.toList.length with hlt | hle
  · have he := List.getElem?_eq_getElem hlt
    refine .inl ⟨_, he, ?_, ?_⟩
    · rw [List.getElem?_append_left (hlen ▸ hlt), owners, List.getElem?_map, he] at hi
      exact Option.some.inj hi
    · rw [List.take_append_of_le_length (by omega), count_take_owners]
  · refine .inr ⟨hle, ?_⟩
    have hsub : ((s.owners ++ os').take s.owners.length).Sublist ((s.owners ++ os').take i) :=
      List.take_sublist_take_left (hlen ▸ hle)
    rw [List.take_left] at hsub
    rw [← count_owners]
    exact hsub.count_le g

/-- The handle is where its rank says among those of its guard. -/
theorem getElem?_own (h : ownerIn os id = some g) :
    (s.own g)[(rankIn os g id).number - 1]? = s.resource? id := by
  obtain ⟨i, rfl, hi⟩ := ownerIn_eq_some.mp h
  rw [rankIn_eq hi, resource?_eq, Nat.add_sub_cancel]
  rcases own_cases hp hi with ⟨e, he, hg, hcount⟩ | ⟨hle, hown⟩
  · rw [hcount, he]
    exact getElem?_filter_countP he (beq_iff_eq.mpr hg)
  · rw [List.getElem?_eq_none hle, List.getElem?_eq_none hown]

section Modify
variable {f : Entry → Entry} (hf : ∀ e, (f e).guard = e.guard)
include hf

/-- A change to one of the guard's handles. -/
theorem own_modifyEntry (h : ownerIn os id = some g) :
    (s.modifyEntry id f).own g = (s.own g).modify ((rankIn os g id).number - 1) f := by
  obtain ⟨i, rfl, hi⟩ := ownerIn_eq_some.mp h
  rw [rankIn_eq hi, Nat.add_sub_cancel, modifyEntry, if_neg (Nat.succ_ne_zero i), Nat.add_sub_cancel]
  rcases own_cases hp hi with ⟨e, he, hg, hcount⟩ | ⟨hle, hown⟩
  · rw [hcount, own, Array.toList_modify]
    exact filter_modify he (fun e => by rw [hf]) (beq_iff_eq.mpr hg)
  · rw [List.modify_eq_self hown, own, Array.toList_modify, List.modify_eq_self hle, own]

/-- A change to another handle. -/
theorem own_modifyEntry_of_ne (h : ownerIn os id ≠ some g) : (s.modifyEntry id f).own g = s.own g := by
  rw [modifyEntry]
  split
  · rfl
  · next hne =>
    rw [own, Array.toList_modify]
    refine filter_modify_of_not (fun e => by rw [hf]) fun e he => ?_
    rw [beq_eq_false_iff_ne]
    rintro rfl
    refine h (ownerIn_resource hp ?_)
    rw [resource?, if_neg hne, ← Array.getElem?_toList, he]

end Modify

end Prefix

theorem owners_modifyEntry (s : Store) (id : HandleId) (f : Entry → Entry) (hf : ∀ e, (f e).guard = e.guard) :
    (s.modifyEntry id f).owners = s.owners := by
  rw [modifyEntry, owners, owners]
  split
  · rfl
  · refine List.ext_getElem? fun i => ?_
    simp only [Array.toList_modify, List.getElem?_map, List.getElem?_modify]
    split <;> cases s.entries.toList[i]? <;> simp [hf]

theorem owners_allocate (s : Store) (g : GuardId) (r : Registration Command) (f : ReleaseFn) :
    (s.allocate g r f).1.owners = s.owners ++ [g] := by
  simp [owners, allocate]

theorem own_allocate (s : Store) (g : GuardId) (r : Registration Command) (f : ReleaseFn) :
    (s.allocate g r f).1.own g =
      s.own g ++ [{ guard := g, address := r.address, label := r.label, callback := f }] := by
  simp [own, allocate]

theorem own_allocate_of_ne {g' : GuardId} (hne : g' ≠ g) (s : Store) (r : Registration Command) (f : ReleaseFn) :
    (s.allocate g' r f).1.own g = s.own g := by
  simp [own, allocate, hne]

/-- The number that a new handle of the guard has among all of them, and its rank. -/
theorem rankIn_allocate (hp : s.owners ++ [g] <+: os) :
    ownerIn os ⟨s.entries.size + 1⟩ = some g ∧
      rankIn os g ⟨s.entries.size + 1⟩ = ⟨(s.own g).length + 1⟩ := by
  have hlen : s.owners.length = s.entries.size := by rw [owners, List.length_map, Array.length_toList]
  obtain ⟨os', rfl⟩ := hp
  have hi : (s.owners ++ [g] ++ os')[s.entries.size]? = some g := by simp [← hlen]
  refine ⟨ownerIn_eq_some.mpr ⟨_, rfl, hi⟩, ?_⟩
  rw [rankIn_eq hi, List.append_assoc, ← hlen, List.take_left, count_owners]

end Store

end Reclaim

import Reclaim.Proofs.Lives
import Reclaim.Proofs.Programs
import Mathlib.Logic.Function.Basic

/-!
# The books of programs

Programs that run over a guard share handles. The shares of a handle are those that programs leave in the
end and those that are still to be given up, and the releases tried are all that there will be but those
still to come; what is left of a handle, and how often it was tried, depends on the programs only.

* `Place` : which handle of a run it is, whatever its number;
* `Books`, `Books.Step` : what the accounts are about, and how it changes;
* `Plan.left`, `Plan.tries` : what programs leave of a handle in the end; `Books.Balanced`, `Books.Balanced.step`.
-/

namespace Reclaim

/-! ## Places -/

/-- Which handle of a run it is. -/
inductive Place where
  /-- One that there was before. -/
  | old (id : HandleId)
  /-- The one that is registered under the name. -/
  | new (name : String)
deriving DecidableEq

/-- The handle that a name stands for in a run that starts here. -/
def Store.place (s : Store) (name : String) : Place :=
  match s.names.handles.lookup name with
  | some id => .old id
  | none => .new name

/-- A handle that there is, or a name that is free. -/
def Place.Valid (s : Store) : Place → Prop
  | old id => s.Known id
  | new name => s.names.handles.lookup name = none

/-- The number in a place, by the names of handles. -/
def Place.find (names : List (String × HandleId)) : Place → Option HandleId
  | old id => some id
  | new name => names.lookup name

namespace Deal

/-- It gives up a share of the handle in a place. -/
def drops (s : Store) (k : Place) : Deal → Prop
  | drop name => s.place name = k
  | _ => False

/-- It releases the handle in a place. -/
def releases (s : Store) (k : Place) : Deal → Prop
  | release name _ => s.place name = k
  | _ => False

instance (s : Store) (k : Place) : DecidablePred (drops s k) := fun d => by
  cases d <;> unfold drops <;> infer_instance

instance (s : Store) (k : Place) : DecidablePred (releases s k) := fun d => by
  cases d <;> unfold releases <;> infer_instance

section Counts
variable (s : Store) (k : Place) (name : String) (r : Registration Command) (through : Bool)
  (ds : Multiset Deal)

@[simp] theorem countP_drops_register : (register name r ::ₘ ds).countP (drops s k) = ds.countP (drops s k) :=
  Multiset.countP_cons_of_neg (p := drops s k) ds id

@[simp] theorem countP_drops_release :
    (release name through ::ₘ ds).countP (drops s k) = ds.countP (drops s k) :=
  Multiset.countP_cons_of_neg (p := drops s k) ds id

theorem countP_drops_drop : (drop name ::ₘ ds).countP (drops s k) =
    ds.countP (drops s k) + if s.place name = k then 1 else 0 := by
  split
  · next h => exact Multiset.countP_cons_of_pos (p := drops s k) ds h
  · next h => exact Multiset.countP_cons_of_neg (p := drops s k) ds h

@[simp] theorem countP_releases_register :
    (register name r ::ₘ ds).countP (releases s k) = ds.countP (releases s k) :=
  Multiset.countP_cons_of_neg (p := releases s k) ds id

@[simp] theorem countP_releases_drop : (drop name ::ₘ ds).countP (releases s k) = ds.countP (releases s k) :=
  Multiset.countP_cons_of_neg (p := releases s k) ds id

theorem countP_releases_release : (release name through ::ₘ ds).countP (releases s k) =
    ds.countP (releases s k) + if s.place name = k then 1 else 0 := by
  split
  · next h => exact Multiset.countP_cons_of_pos (p := releases s k) ds h
  · next h => exact Multiset.countP_cons_of_neg (p := releases s k) ds h

end Counts

/-- The name that it gives to a new handle. -/
def enrols? : Deal → Option String
  | register name _ => some name
  | _ => none

end Deal

/-! ## Books -/

/-- What the accounts of programs are about. -/
@[ext]
structure Books where
  /-- The names of handles. -/
  names : List (String × HandleId)
  /-- How many shares of a handle are held. -/
  owners : HandleId → Option Nat
  /-- How many releases of a handle have begun. -/
  tried : HandleId → Nat
  /-- What programs have still to do. -/
  deals : Multiset Deal
  /-- The names that they have still to give. -/
  enrols : Multiset String

open Function in
/-- How the books of a run that starts at a store change, with this to do in all. -/
inductive Books.Step (s : Store) (plan : List Deal) (b : Books) : Books → Prop
  | rest : Step s plan b b
  /-- A registration begins. -/
  | enrol {name : String} {r : Registration Command} {ds : Multiset Deal}
      (hds : b.deals = .register name r ::ₘ ds) : Step s plan b { b with deals := ds }
  /-- A release begins. -/
  | use {name : String} {through : Bool} {id : HandleId} {ds : Multiset Deal}
      (hds : b.deals = .release name through ::ₘ ds) (hid : b.names.lookup name = some id) :
      Step s plan b { b with deals := ds, tried := update b.tried id (b.tried id + 1) }
  /-- A share is given up. -/
  | drop {name : String} {id : HandleId} {n : Nat} {ds : Multiset Deal}
      (hds : b.deals = .drop name ::ₘ ds) (hid : b.names.lookup name = some id)
      (hn : b.owners id = some (n + 1)) :
      Step s plan b { b with deals := ds, owners := update b.owners id (some n) }
  /-- A registration is refused. -/
  | refuse {q : RegisterRequest} {e : Error} {xs : Multiset String} (hxs : b.enrols = q.handle ::ₘ xs)
      (hplan : .register q.handle q.registration ∈ plan) (hcheck : q.registration.check = .error e) :
      Step s plan b { b with enrols := xs }
  /-- A registration gets a handle. -/
  | number {id : HandleId} (hid : b.owners id = none) :
      Step s plan b { b with owners := update b.owners id (some 1) }
  /-- A new handle goes into its place. -/
  | bind {name : String} {id : HandleId} {xs : Multiset String} (hxs : b.enrols = name ::ₘ xs)
      (hnew : ¬s.Known id) (hid : id ∉ b.names.map Prod.snd) (htried : b.tried id = 0)
      (hheld : b.owners id ≠ none) :
      Step s plan b { b with enrols := xs, names := (name, id) :: b.names }

/-! ## What programs leave -/

/-- How many shares there are of the handle in a place when it is first there. -/
def Place.shares (s : Store) : Place → Nat
  | old id => ((s.resource? id).map Entry.owners).getD 0
  | new _ => 1

/-- How many shares programs leave of the handle in a place. -/
def Plan.left (s : Store) (plan : List Deal) (k : Place) : Nat :=
  k.shares s - (plan : Multiset Deal).countP (Deal.drops s k)

/-- How often the release of the handle in a place is tried, when one that there is had been tried so
often. -/
def Plan.tries (s : Store) (first : HandleId → Nat) (plan : List Deal) (k : Place) : Nat :=
  (match k with | .old id => first id | .new _ => 0) + (plan : Multiset Deal).countP (Deal.releases s k)

namespace Books

/-- The books of a run that starts at a store agree with what there is to do in all. -/
structure Balanced (s : Store) (first : HandleId → Nat) (plan : List Deal) (b : Books) : Prop where
  /-- New names are those of registrations that have come so far. -/
  names : ∃ new, b.names = new ++ s.names.handles ∧
    ((new.map Prod.fst : List String) : Multiset String) + b.enrols ≤
      ((plan.filterMap Deal.enrols? : List String) : Multiset String)
  distinct : (b.names.map Prod.snd).Nodup
  /-- What is held is left or still to be given up, and what has been tried is all but what is still to
  come. -/
  places : ∀ k id, k.Valid s → k.find b.names = some id →
    b.owners id = some (Plan.left s plan k + b.deals.countP (Deal.drops s k)) ∧
      b.tried id + b.deals.countP (Deal.releases s k) = Plan.tries s first plan k
  coming : ∀ name ∈ b.enrols,
    Plan.left s plan (.new name) + b.deals.countP (Deal.drops s (.new name)) = 1 ∧
      b.deals.countP (Deal.releases s (.new name)) = Plan.tries s first plan (.new name)
  /-- A new handle that is in no place yet is held once. -/
  unbound : ∀ id n, ¬s.Known id → b.owners id = some n → id ∉ b.names.map Prod.snd → n = 1
  fresh : ∀ name id, s.names.handles.lookup name = none → b.names.lookup name = some id → ¬s.Known id
  /-- Every registration that is not refused comes to its place. -/
  kept : ∀ name r f, .register name r ∈ plan → r.check = .ok f →
    name ∈ b.enrols ∨ ∃ id, b.names.lookup name = some id

/-- A name without a handle. -/
theorem lookup_eq_none {β : Type} {name : String} {xs : List (String × β)} (h : name ∉ xs.map Prod.fst) :
    xs.lookup name = none := by
  rw [List.lookup_eq_none_iff]
  rintro ⟨name', b⟩ hin
  rw [bne_iff_ne]
  rintro rfl
  exact h (List.mem_map.mpr ⟨_, hin, rfl⟩)

theorem lookup_append {β : Type} (name : String) (xs ys : List (String × β)) :
    (xs ++ ys).lookup name = (xs.lookup name).or (ys.lookup name) := by
  induction xs with
  | nil => rfl
  | cons x xs ih =>
    obtain ⟨name', b⟩ := x
    simp only [List.cons_append, List.lookup_cons]
    split
    · rfl
    · exact ih

theorem lookup_cons_eq {β : Type} (name name' : String) (b : β) (xs : List (String × β)) :
    ((name', b) :: xs).lookup name = if name = name' then some b else xs.lookup name := by
  rw [List.lookup_cons]
  by_cases h : name = name'
  · rw [if_pos h, beq_iff_eq.mpr h]
  · rw [if_neg h, beq_false_of_ne h]

/-- Numbers that are all different tell names apart. -/
theorem eq_of_lookup {name name' : String} {id : HandleId} {names : List (String × HandleId)}
    (hnodup : (names.map Prod.snd).Nodup) (h : names.lookup name = some id)
    (h' : names.lookup name' = some id) : name = name' :=
  congrArg Prod.fst (List.inj_on_of_nodup_map hnodup (Store.mem_of_lookup h) (Store.mem_of_lookup h') rfl)

variable {s : Store} {first : HandleId → Nat} {plan : List Deal} {b b' : Books}

section Names
variable (hb : b.Balanced s first plan)
  (hfree : ∀ name ∈ plan.filterMap Deal.enrols?, s.names.handles.lookup name = none)
include hb hfree

/-- What a name stood for at the start it stands for now. -/
theorem Balanced.lookup {name : String} {id : HandleId} (h : s.names.handles.lookup name = some id) :
    b.names.lookup name = some id := by
  obtain ⟨new, hnew, hle⟩ := hb.names
  rw [hnew, lookup_append, lookup_eq_none, h]
  · rfl
  · intro hin
    have hplan := Multiset.mem_of_le hle (Multiset.mem_add.mpr (.inl (Multiset.mem_coe.mpr hin)))
    rw [hfree name (Multiset.mem_coe.mp hplan)] at h
    cases h

/-- A name that is still to be given stands for nothing yet. -/
theorem Balanced.lookup_coming (hnodup : (plan.filterMap Deal.enrols?).Nodup) {name : String}
    (h : name ∈ b.enrols) : b.names.lookup name = none := by
  obtain ⟨new, hnew, hle⟩ := hb.names
  have hplan := Multiset.mem_of_le hle (Multiset.mem_add.mpr (.inr h))
  rw [hnew, lookup_append, lookup_eq_none, hfree name (Multiset.mem_coe.mp hplan)]
  · rfl
  · intro hin
    have hdisjoint := (Multiset.nodup_add.mp (Multiset.nodup_of_le hle (Multiset.coe_nodup.mpr hnodup))).2.2
    exact Multiset.disjoint_left.mp hdisjoint (Multiset.mem_coe.mpr hin) h

/-- The handle in the place of a name is the one that the name stands for. -/
theorem Balanced.find_place (name : String) : (s.place name).find b.names = b.names.lookup name := by
  unfold Store.place
  split
  · next id hid => exact (hb.lookup hfree hid).symm
  · rfl

omit hfree in
/-- Every handle has one place. -/
theorem Balanced.find_inj {k k' : Place} {id : HandleId} (hk : k.Valid s) (hk' : k'.Valid s)
    (h : k.find b.names = some id) (h' : k'.find b.names = some id) : k = k' := by
  cases k with
  | old id₁ =>
    cases h
    cases k' with
    | old id₂ =>
      cases h'
      rfl
    | new name' => exact absurd hk (hb.fresh name' id hk' h')
  | new name =>
    cases k' with
    | old id₂ =>
      cases h'
      exact absurd hk' (hb.fresh name id hk h)
    | new name' => rw [eq_of_lookup hb.distinct h h']

end Names

theorem place_valid (hknown : ∀ name id, (name, id) ∈ s.names.handles → s.Known id) (name : String) :
    (s.place name).Valid s := by
  unfold Store.place
  split
  · next id hid => exact hknown name id (Store.mem_of_lookup hid)
  · next hnone => exact hnone

/-- A place of its own is a name's that stands for nothing at the start. -/
theorem place_eq_new {name name' : String} (h : s.place name = .new name') : name = name' := by
  unfold Store.place at h
  split at h <;> cases h
  rfl

/-- Programs register a name once. -/
theorem register_unique (hnodup : (plan.filterMap Deal.enrols?).Nodup) {name : String}
    {r r' : Registration Command} (h : .register name r ∈ plan) (h' : .register name r' ∈ plan) : r = r' := by
  induction plan with
  | nil => cases h
  | cons d plan ih =>
    have hin : ∀ {r}, .register name r ∈ plan → name ∈ plan.filterMap Deal.enrols? := fun h =>
      List.mem_filterMap.mpr ⟨_, h, rfl⟩
    rcases List.mem_cons.mp h with rfl | h <;> rcases List.mem_cons.mp h' with heq | h'
    · cases heq
      rfl
    · exact absurd (hin h') (List.nodup_cons.mp hnodup).1
    · rw [← heq] at hnodup
      exact absurd (hin h) (List.nodup_cons.mp hnodup).1
    · refine ih ?_ h h'
      rw [List.filterMap_cons] at hnodup
      split at hnodup
      · exact hnodup
      · exact (List.nodup_cons.mp hnodup).2

section Steps
variable (hb : b.Balanced s first plan)
include hb

section Shares
variable (hnodup : (plan.filterMap Deal.enrols?).Nodup)
  (hfree : ∀ name ∈ plan.filterMap Deal.enrols?, s.names.handles.lookup name = none)
  (hknown : ∀ name id, (name, id) ∈ s.names.handles → s.Known id) {name : String} {id : HandleId}
  (hid : b.names.lookup name = some id) {ds : Multiset Deal}

include hfree hid

include hnodup in
/-- A name that stands for a handle is not one that is still to be given. -/
theorem Balanced.place_ne_coming {name' : String} (hname : name' ∈ b.enrols) : s.place name ≠ .new name' := by
  intro heq
  rw [← place_eq_new heq] at hname
  rw [hb.lookup_coming hfree hnodup hname] at hid
  cases hid

include hknown

/-- In another place there is another handle. -/
theorem Balanced.ne_of_place_ne {k : Place} {id' : HandleId} (hk : k.Valid s) (hfind : k.find b.names = some id')
    (hne : s.place name ≠ k) : id' ≠ id := by
  rintro rfl
  exact hne (hb.find_inj (place_valid hknown name) hk ((hb.find_place hfree name).trans hid) hfind)

include hnodup

/-- A release begins: what is tried is not still to come. -/
theorem Balanced.use {through : Bool} (hds : b.deals = .release name through ::ₘ ds) :
    Balanced s first plan { b with deals := ds, tried := Function.update b.tried id (b.tried id + 1) } := by
  have hplaces := hb.places
  have hcoming := hb.coming
  rw [hds] at hplaces hcoming
  refine { hb with places := fun k id' hk hfind => ?_, coming := fun name' hname => ?_ }
  · obtain ⟨howners, htried⟩ := hplaces k id' hk hfind
    rw [Deal.countP_drops_release] at howners
    rw [Deal.countP_releases_release] at htried
    refine ⟨howners, ?_⟩
    dsimp only
    by_cases heq : s.place name = k
    · have hplace := (hb.find_place hfree name).trans hid
      rw [heq, hfind] at hplace
      cases hplace
      rw [if_pos heq] at htried
      rw [Function.update_self]
      omega
    · rw [if_neg heq] at htried
      rw [Function.update_of_ne (hb.ne_of_place_ne hfree hknown hid hk hfind heq)]
      exact htried
  · have hne := hb.place_ne_coming hnodup hfree hid hname
    simpa [Deal.countP_releases_release, hne] using hcoming name' hname

/-- A share is given up: what is held is less by one, and so is what is still to be given up. -/
theorem Balanced.drop {n : Nat} (hds : b.deals = .drop name ::ₘ ds) (hn : b.owners id = some (n + 1)) :
    Balanced s first plan { b with deals := ds, owners := Function.update b.owners id (some n) } := by
  have hplaces := hb.places
  have hcoming := hb.coming
  rw [hds] at hplaces hcoming
  refine { hb with
    places := fun k id' hk hfind => ?_
    coming := fun name' hname => ?_
    unbound := fun id' n' hnew hn' hout => ?_ }
  · obtain ⟨howners, htried⟩ := hplaces k id' hk hfind
    rw [Deal.countP_drops_drop] at howners
    rw [Deal.countP_releases_drop] at htried
    refine ⟨?_, htried⟩
    dsimp only
    by_cases heq : s.place name = k
    · have hplace := (hb.find_place hfree name).trans hid
      rw [heq, hfind] at hplace
      cases hplace
      rw [if_pos heq, hn] at howners
      have := Option.some.inj howners
      rw [Function.update_self]
      congr 1
      omega
    · rw [if_neg heq] at howners
      rw [Function.update_of_ne (hb.ne_of_place_ne hfree hknown hid hk hfind heq)]
      exact howners
  · have hne := hb.place_ne_coming hnodup hfree hid hname
    simpa [Deal.countP_drops_drop, hne] using hcoming name' hname
  · have hne : id' ≠ id := by
      rintro rfl
      exact hout (List.mem_map.mpr ⟨_, Store.mem_of_lookup hid, rfl⟩)
    dsimp only at hn'
    rw [Function.update_of_ne hne] at hn'
    exact hb.unbound id' n' hnew hn' hout

end Shares

/-- A registration is refused: its name is not to be given any more. -/
theorem Balanced.refuse (hnodup : (plan.filterMap Deal.enrols?).Nodup) {q : RegisterRequest} {e : Error}
    {xs : Multiset String} (hxs : b.enrols = q.handle ::ₘ xs) (hplan : .register q.handle q.registration ∈ plan)
    (hcheck : q.registration.check = .error e) : Balanced s first plan { b with enrols := xs } := by
  obtain ⟨new, hnew, hle⟩ := hb.names
  rw [hxs] at hle
  refine { hb with
    names := ⟨new, hnew, le_trans (add_le_add_right (Multiset.le_cons_self xs q.handle) _) hle⟩
    coming := fun name hname => hb.coming name (hxs ▸ Multiset.mem_cons_of_mem hname)
    kept := fun name r f hr hf => ?_ }
  refine (hb.kept name r f hr hf).imp_left fun hin => ?_
  rcases Multiset.mem_cons.mp (hxs ▸ hin) with rfl | hin
  · rw [register_unique hnodup hr hplan, hcheck] at hf
    cases hf
  · exact hin

/-- A new handle is in no place yet, and is held once. -/
theorem Balanced.number {id : HandleId} (hid : b.owners id = none) :
    Balanced s first plan { b with owners := Function.update b.owners id (some 1) } := by
  refine { hb with places := fun k id' hk hfind => ?_, unbound := fun id' n' hnew hn' hout => ?_ }
  · have hold := hb.places k id' hk hfind
    have hne : id' ≠ id := by
      rintro rfl
      rw [hid] at hold
      cases hold.1
    dsimp only
    rw [Function.update_of_ne hne]
    exact hold
  · by_cases hne : id' = id
    · subst hne
      dsimp only at hn'
      rw [Function.update_self] at hn'
      exact (Option.some.inj hn').symm
    · dsimp only at hn'
      rw [Function.update_of_ne hne] at hn'
      exact hb.unbound id' n' hnew hn' hout

/-- A new handle goes into the place of its name, where it is held once and nobody has tried to release it. -/
theorem Balanced.bind {name : String} {id : HandleId} {xs : Multiset String} (hxs : b.enrols = name ::ₘ xs)
    (hnew : ¬s.Known id) (hid : id ∉ b.names.map Prod.snd) (htried : b.tried id = 0) (hheld : b.owners id ≠ none) :
    Balanced s first plan { b with enrols := xs, names := (name, id) :: b.names } := by
  obtain ⟨new, hnames, hle⟩ := hb.names
  have hin : name ∈ b.enrols := hxs ▸ Multiset.mem_cons_self name xs
  have hlookup : ∀ name', name' ≠ name →
      ((name, id) :: b.names).lookup name' = b.names.lookup name' := fun name' hne => by
    rw [lookup_cons_eq, if_neg hne]
  have hself : ((name, id) :: b.names).lookup name = some id := by
    rw [lookup_cons_eq, if_pos rfl]
  exact
    { names := by
        refine ⟨(name, id) :: new, congrArg _ hnames, ?_⟩
        rw [hxs] at hle
        refine le_of_eq_of_le ?_ hle
        rw [List.map_cons, ← Multiset.cons_coe, Multiset.cons_add, Multiset.add_cons]
      distinct := List.nodup_cons.mpr ⟨hid, hb.distinct⟩
      places := fun k id' hk hfind => by
        by_cases heq : k = .new name
        · subst heq
          obtain rfl : id = id' := Option.some.inj (hself.symm.trans hfind)
          obtain ⟨n, hn⟩ := Option.ne_none_iff_exists'.mp hheld
          obtain ⟨hleft, htries⟩ := hb.coming name hin
          refine ⟨?_, by rw [htried, zero_add]; exact htries⟩
          dsimp only
          rw [hleft, hn, hb.unbound id n hnew hn hid]
        · refine hb.places k id' hk ?_
          cases k with
          | old _ => exact hfind
          | new name' => exact (hlookup name' fun h => heq (h ▸ rfl)).symm.trans hfind
      coming := fun name' hname => hb.coming name' (hxs ▸ Multiset.mem_cons_of_mem hname)
      unbound := fun id' n' hnew' hn' hout =>
        hb.unbound id' n' hnew' hn' fun h => hout (List.mem_cons_of_mem id h)
      fresh := fun name' id' hnone hfind => by
        by_cases heq : name' = name
        · subst heq
          cases hself.symm.trans hfind
          exact hnew
        · exact hb.fresh name' id' hnone ((hlookup name' heq).symm.trans hfind)
      kept := fun name' r f hr hf => by
        by_cases heq : name' = name
        · subst heq
          exact .inr ⟨id, hself⟩
        · rw [hlookup name' heq]
          refine (hb.kept name' r f hr hf).imp_left fun h => ?_
          exact (Multiset.mem_cons.mp (hxs ▸ h)).resolve_left heq }

end Steps

/-- Whatever happens, the books stay balanced. -/
theorem Balanced.step (hb : b.Balanced s first plan) (hnodup : (plan.filterMap Deal.enrols?).Nodup)
    (hfree : ∀ name ∈ plan.filterMap Deal.enrols?, s.names.handles.lookup name = none)
    (hknown : ∀ name id, (name, id) ∈ s.names.handles → s.Known id) (hs : b.Step s plan b') :
    b'.Balanced s first plan := by
  cases hs with
  | rest => exact hb
  | enrol hds =>
    have hplaces := hb.places
    have hcoming := hb.coming
    rw [hds] at hplaces hcoming
    exact { hb with
      places := by simpa using hplaces
      coming := by simpa using hcoming }
  | use hds hid => exact hb.use hnodup hfree hknown hid hds
  | drop hds hid hn => exact hb.drop hnodup hfree hknown hid hds hn
  | refuse hxs hplan hcheck => exact hb.refuse hnodup hxs hplan hcheck
  | number hid => exact hb.number hid
  | bind hxs hnew hid htried hheld => exact hb.bind hxs hnew hid htried hheld

end Books

end Reclaim

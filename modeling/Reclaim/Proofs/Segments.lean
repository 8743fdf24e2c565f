import Reclaim.TypeName
import Mathlib.Data.List.Infix
import Mathlib.Data.List.TakeWhile

/-!
# Last segments

The short name of a type is what follows the last `::` in front of its arguments, wherever else two colons stand
side by side: in front of it, in a run of more than two, or among the arguments.

* `TypeName.IsBase`, `TypeName.IsLast` : a name without its arguments, and the last segment of a path;
* `TypeName.afterSeparator?_eq_none`, `TypeName.exists_of_afterSeparator?` : what is found behind the last separator;
* `TypeName.Shortened`, `TypeName.shortened` : what there is to know of a short name.
-/

namespace Reclaim.TypeName

/-! ## Characters -/

/-- Two colons side by side. -/
abbrev separator : List Char := [':', ':']

/-- A later separator counts before one that the text begins with. -/
theorem afterSeparator?_cons (c : Char) (rest : List Char) : afterSeparator? (c :: rest) =
    (afterSeparator? rest).or (if separator <+: c :: rest then some rest.tail else none) := by
  rw [afterSeparator?.eq_def]
  cases rest with
  | nil => simp [separator, afterSeparator?]
  | cons d tail =>
    simp only [separator, List.cons_prefix_cons, List.nil_prefix, and_true, List.tail_cons, @eq_comm Char ':']
    cases afterSeparator? (d :: tail) <;> rfl

/-- Nothing is found exactly where there is no separator. -/
theorem afterSeparator?_eq_none {cs : List Char} : afterSeparator? cs = none ↔ ¬ separator <:+: cs := by
  induction cs with
  | nil => simp [afterSeparator?, separator]
  | cons c rest ih =>
    rw [afterSeparator?_cons, Option.or_eq_none_iff, ih, List.infix_cons_iff, not_or, and_comm]
    simp

/-- What is found stands behind a separator, and no separator begins later. -/
theorem exists_of_afterSeparator? {cs tail : List Char} (h : afterSeparator? cs = some tail) :
    ∃ path, cs = path ++ separator ++ tail ∧ ¬ separator <:+: ':' :: tail := by
  induction cs with
  | nil => cases h
  | cons c rest ih =>
    rw [afterSeparator?_cons, Option.or_eq_some_iff] at h
    rcases h with hlater | ⟨hnone, hhere⟩
    · obtain ⟨path, rfl, hlast⟩ := ih hlater
      exact ⟨c :: path, rfl, hlast⟩
    · obtain ⟨⟨more, hmore⟩, rfl⟩ : separator <+: c :: rest ∧ rest.tail = tail := by simpa using hhere
      cases hmore
      exact ⟨[], rfl, afterSeparator?_eq_none.mp hnone⟩

/-- A separator behind which no other begins ends the longest prefix that ends in one. -/
theorem length_le_of_last {path tail path' tail' : List Char} (hlast : ¬ separator <:+: ':' :: tail)
    (heq : path ++ separator ++ tail = path' ++ separator ++ tail') : path'.length ≤ path.length := by
  by_contra hlt
  rw [not_le] at hlt
  rw [List.append_assoc, List.append_assoc] at heq
  rcases List.append_eq_append_iff.mp heq with ⟨more, rfl, hmore⟩ | ⟨more, rfl, -⟩
  · cases more with
    | nil => simp at hlt
    | cons c more =>
      obtain ⟨rfl, hrest⟩ := List.cons_eq_cons.mp hmore
      exact hlast ⟨more, tail', by rw [List.append_assoc]; exact hrest.symm⟩
  · rw [List.length_append] at hlt
    omega

/-- Behind the last separator of a path stands what has no separator. -/
theorem afterSeparator?_append {last : List Char} (hlast : ':' ∉ last) (path : List Char) :
    afterSeparator? (path ++ separator ++ last) = some last := by
  induction path with
  | nil =>
    have hnone : afterSeparator? (':' :: last) = none := afterSeparator?_eq_none.mpr fun hin =>
      hlast (List.singleton_sublist.mp (List.cons_sublist_cons.mp hin.sublist))
    change afterSeparator? (':' :: ':' :: last) = some last
    rw [afterSeparator?_cons, hnone, Option.none_or, if_pos ⟨last, rfl⟩, List.tail_cons]
  | cons c path ih => rw [List.cons_append, List.cons_append, afterSeparator?_cons, ih, Option.some_or]

/-! ## Texts -/

variable {full base name : String}

/-- A name without its arguments: it ends in front of the first opening bracket, or with the text. -/
def IsBase (full base : String) : Prop :=
  '<' ∉ base.toList ∧ (full = base ∨ ∃ arguments, full = base ++ "<" ++ arguments)

/-- What follows the longest prefix that ends in a separator, or all of the text where there is none. -/
inductive IsLast (base : String) : String → Prop
  | after {path name : String} (heq : base = path ++ "::" ++ name)
      (hlongest : ∀ path' name', base = path' ++ "::" ++ name' → path'.length ≤ path.length) : IsLast base name
  | whole (hnone : ∀ path name, base ≠ path ++ "::" ++ name) : IsLast base base

theorem eq_path_iff {path : String} :
    base = path ++ "::" ++ name ↔ base.toList = path.toList ++ separator ++ name.toList := by
  rw [← String.toList_inj, String.toList_append, String.toList_append]
  rfl

/-- There is a separator where the characters have one. -/
theorem separated_iff : (∃ path name, base = path ++ "::" ++ name) ↔ separator <:+: base.toList := by
  constructor
  · rintro ⟨path, name, heq⟩
    exact ⟨path.toList, name.toList, (eq_path_iff.mp heq).symm⟩
  · rintro ⟨path, name, heq⟩
    exact ⟨.ofList path, .ofList name, eq_path_iff.mpr (by simpa using heq.symm)⟩

theorem isBase_iff : IsBase full base ↔ base.toList = TypeName.base full.toList := by
  constructor
  · rintro ⟨hnot, heq⟩
    have hkeep : ∀ c ∈ base.toList, (c != '<') = true := fun c hc =>
      bne_iff_ne.mpr fun h => hnot (h ▸ hc)
    rcases heq with rfl | ⟨arguments, rfl⟩
    · exact (List.takeWhile_eq_self_iff.mpr hkeep).symm
    · rw [TypeName.base, String.toList_append, String.toList_append, List.append_assoc,
        List.takeWhile_append_of_pos hkeep]
      simp
  · intro hbase
    have hsplit : full.toList = base.toList ++ full.toList.dropWhile (· != '<') := by
      rw [hbase, TypeName.base, List.takeWhile_append_dropWhile]
    refine ⟨fun hin => ?_, ?_⟩
    · rw [hbase] at hin
      simpa using List.mem_takeWhile_imp hin
    · cases hrest : full.toList.dropWhile (· != '<') with
      | nil =>
        rw [hrest, List.append_nil] at hsplit
        exact .inl (String.toList_inj.mp hsplit)
      | cons c arguments =>
        have hbracket : c = '<' := by
          have hhead := List.head?_dropWhile_not (· != '<') full.toList
          rw [hrest] at hhead
          simpa using hhead
        subst hbracket
        rw [hrest] at hsplit
        exact .inr ⟨.ofList arguments, String.toList_inj.mp (by simpa using hsplit)⟩

theorem isLast_iff : IsLast base name ↔ name.toList = (afterSeparator? base.toList).getD base.toList := by
  cases hfound : afterSeparator? base.toList with
  | none =>
    have hnone : ∀ path name, base ≠ path ++ "::" ++ name := fun path name heq =>
      afterSeparator?_eq_none.mp hfound (separated_iff.mp ⟨path, name, heq⟩)
    rw [Option.getD_none, String.toList_inj]
    constructor
    · rintro (⟨heq, -⟩ | -)
      · exact absurd heq (hnone _ _)
      · rfl
    · rintro rfl
      exact .whole hnone
  | some tail =>
    obtain ⟨path, heq, hlast⟩ := exists_of_afterSeparator? hfound
    rw [Option.getD_some]
    constructor
    · intro h
      cases h with
      | @after path' _ heq' hlongest =>
        have hle := hlongest (.ofList path) (.ofList tail) (eq_path_iff.mpr (by simpa using heq))
        rw [eq_path_iff, heq] at heq'
        have hge := length_le_of_last hlast heq'
        rw [String.length_ofList, ← String.length_toList] at hle
        rw [List.append_assoc, List.append_assoc] at heq'
        exact (List.append_cancel_left (List.append_inj heq' (hle.antisymm hge)).2).symm
      | whole hnone => exact absurd (separated_iff.mpr ⟨path, tail, heq.symm⟩) (by simpa using hnone)
    · intro hname
      refine @IsLast.after base (.ofList path) name (eq_path_iff.mpr ?_) fun path' name' heq' => ?_
      · rw [String.toList_ofList, hname, heq]
      · rw [eq_path_iff, heq] at heq'
        rw [String.length_ofList, ← String.length_toList]
        exact length_le_of_last hlast heq'

/-- The short name is the last segment of the base. -/
theorem isLast_short (h : IsBase full base) : IsLast base name ↔ name = short full := by
  rw [isLast_iff, isBase_iff.mp h, ← String.toList_inj, short, String.toList_ofList, shortChars]

/-- Segments that are joined to a path have the last one as its last segment. -/
theorem isLast_intercalate (segments : List String) {last : String} (hlast : ':' ∉ last.toList) :
    IsLast ("::".intercalate (segments ++ [last])) last := by
  rw [isLast_iff]
  by_cases hempty : segments = []
  · have hnone : afterSeparator? last.toList = none := afterSeparator?_eq_none.mpr fun hin =>
      hlast (hin.subset List.mem_cons_self)
    rw [hempty, List.nil_append, String.intercalate_singleton, hnone, Option.getD_none]
  · rw [String.intercalate_append_of_ne_nil hempty (List.cons_ne_nil _ _), String.intercalate_singleton,
      String.toList_append, String.toList_append]
    change last.toList = (afterSeparator? (_ ++ separator ++ _)).getD _
    rw [afterSeparator?_append hlast, Option.getD_some]

theorem mem_intercalate {c : Char} {segments : List String} (h : c ∈ ("::".intercalate segments).toList) :
    c = ':' ∨ ∃ s ∈ segments, c ∈ s.toList := by
  induction segments with
  | nil => simp at h
  | cons s rest ih =>
    by_cases hrest : rest = []
    · rw [hrest, String.intercalate_singleton] at h
      exact .inr ⟨s, List.mem_cons_self, h⟩
    · rw [String.intercalate_cons_of_ne_nil hrest, String.toList_append, String.toList_append, List.mem_append,
        List.mem_append] at h
      rcases h with (hin | hin) | hin
      · exact .inr ⟨s, List.mem_cons_self, hin⟩
      · exact .inl (by simpa using hin)
      · exact (ih hin).imp_right fun ⟨t, ht, hc⟩ => ⟨t, List.mem_cons_of_mem s ht, hc⟩

/-- A last segment has no separator, and nothing that is not in the path. -/
theorem IsLast.bare (h : IsLast base name) (hbase : '<' ∉ base.toList) :
    '<' ∉ name.toList ∧ ∀ path name', name ≠ path ++ "::" ++ name' := by
  cases h with
  | @after path _ heq hlongest =>
    refine ⟨fun hin => hbase ?_, fun path' name' hname => ?_⟩
    · rw [eq_path_iff.mp heq]
      exact List.mem_append_right _ hin
    · have hle := hlongest (path ++ "::" ++ path') name' (by rw [heq, hname]; simp only [String.append_assoc])
      rw [String.length_append, String.length_append, show "::".length = 2 from rfl] at hle
      omega
  | whole hnone => exact ⟨hbase, hnone⟩

/-- What there is to know of the short name of a type. -/
structure Shortened (full : String) : Prop where
  /-- The name without its arguments is one text, -/
  base : ∃! base, IsBase full base
  /-- and the short name is what follows the last separator in it. -/
  last : ∀ base, IsBase full base → ∀ name, IsLast base name ↔ name = short full
  /-- So it is the last segment of a path, whatever the arguments are. -/
  path : ∀ segments last, (∀ s ∈ segments ++ [last], ':' ∉ s.toList ∧ '<' ∉ s.toList) →
    (full = "::".intercalate (segments ++ [last]) ∨
      ∃ arguments, full = "::".intercalate (segments ++ [last]) ++ "<" ++ arguments) → short full = last
  /-- Neither arguments nor separators are left in it, -/
  bare : '<' ∉ (short full).toList ∧ ∀ path name, short full ≠ path ++ "::" ++ name
  /-- so there is nothing more to cut off. -/
  settled : short (short full) = short full

/-- Every type name has a short name, which is the last segment of the name in front of its arguments. -/
theorem shortened (full : String) : Shortened full := by
  have hbase : IsBase full (.ofList (TypeName.base full.toList)) := isBase_iff.mpr String.toList_ofList
  have hbare := ((isLast_short hbase).mpr rfl).bare hbase.1
  refine ⟨⟨_, hbase, fun base h => ?_⟩, fun base h name => isLast_short h, fun segments last hplain hfull => ?_,
    hbare, ?_⟩
  · rw [← String.toList_inj, isBase_iff.mp h, String.toList_ofList]
  · have hjoined : '<' ∉ ("::".intercalate (segments ++ [last])).toList := fun hin => by
      rcases mem_intercalate hin with hcolon | ⟨s, hs, hc⟩
      · cases hcolon
      · exact (hplain s hs).2 hc
    have hlast := (hplain last (List.mem_append_right _ (List.mem_singleton_self _))).1
    exact ((isLast_short ⟨hjoined, hfull⟩).mp (isLast_intercalate segments hlast)).symm
  · exact ((isLast_short ⟨hbare.1, .inl rfl⟩).mp (.whole hbare.2)).symm

example : short "a:::B" = "B" := by cbv

-- a path among the arguments does not count
example : short "alloc::vec::Vec<core::option::Option<u8>>" = "Vec" := by cbv

end Reclaim.TypeName

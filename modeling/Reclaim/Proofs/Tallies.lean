import Reclaim.Probe
import Mathlib.Algebra.BigOperators.Group.Finset.Basic

/-!
# Tallies of probes

A probe keeps a table, a list and the addresses at which it fails. Whatever the calls are, and wherever the probe
fails, the table counts what is in the list: an address that fails is recorded like any other.

* `Probe.Ascending`, `Probe.Ascending.lookup_bump` : tables in order, and one more for an address;
* `Probe.Consistent`, `Probe.Consistent.record`, `Probe.Consistent.failOn` : the table counts the list;
* `Probe.Faithful`, `Probe.Consistent.faithful` : so what a probe reports agrees with itself.
-/

namespace Reclaim

/-! ## Tables -/

namespace Probe

/-- Each address is in the table once, and they are in order. -/
def Ascending (table : List (Address × Nat)) : Prop := table.Pairwise fun x y => x.1 < y.1

theorem lookup_eq_none {a : Address} {table : List (Address × Nat)} (h : ∀ x ∈ table, a < x.1) :
    table.lookup a = none :=
  List.lookup_eq_none_iff.mpr fun x hx => bne_iff_ne.mpr (UInt64.ne_of_lt (h x hx))

theorem lookup_cons_of_ne {a b : Address} (h : a ≠ b) (n : Nat) (table : List (Address × Nat)) :
    ((b, n) :: table).lookup a = table.lookup a := by
  rw [List.lookup_cons, beq_eq_false_iff_ne.mpr h]

/-- An entry of a table is what is found there. -/
theorem Ascending.mem_iff {table : List (Address × Nat)} (h : Ascending table) {a : Address} {n : Nat} :
    (a, n) ∈ table ↔ table.lookup a = some n := by
  induction table with
  | nil => simp
  | cons x rest ih =>
    obtain ⟨b, m⟩ := x
    obtain ⟨hfirst, hrest⟩ := List.pairwise_cons.mp h
    rw [List.mem_cons]
    by_cases hab : a = b
    · subst hab
      have hnot : (a, n) ∉ rest := fun hin => UInt64.lt_irrefl a (hfirst _ hin)
      simp [hnot, eq_comm]
    · rw [lookup_cons_of_ne hab, ← ih hrest]
      simp [hab]

theorem mem_bump {a : Address} {x : Address × Nat} {table : List (Address × Nat)} (h : x ∈ bump a table) :
    x.1 = a ∨ x ∈ table := by
  induction table with
  | nil => exact .inl (congrArg Prod.fst (List.mem_singleton.mp h))
  | cons y rest ih =>
    obtain ⟨b, m⟩ := y
    simp only [bump] at h
    split at h
    · rcases List.mem_cons.mp h with rfl | hin
      · exact .inl rfl
      · exact .inr hin
    · split at h
      · next hab =>
        rcases List.mem_cons.mp h with rfl | hin
        · exact .inl hab.symm
        · exact .inr (List.mem_cons_of_mem _ hin)
      · rcases List.mem_cons.mp h with rfl | hin
        · exact .inr List.mem_cons_self
        · exact (ih hin).imp_right (List.mem_cons_of_mem _)

theorem Ascending.bump {table : List (Address × Nat)} (h : Ascending table) (a : Address) :
    Ascending (Probe.bump a table) := by
  induction table with
  | nil => exact List.pairwise_singleton _ _
  | cons x rest ih =>
    obtain ⟨b, m⟩ := x
    obtain ⟨hfirst, hrest⟩ := List.pairwise_cons.mp h
    simp only [Probe.bump]
    split
    · next hlt =>
      refine List.pairwise_cons.mpr ⟨fun y hy => ?_, h⟩
      rcases List.mem_cons.mp hy with rfl | hin
      · exact hlt
      · exact UInt64.lt_trans hlt (hfirst y hin)
    · next hge =>
      split
      · exact List.pairwise_cons.mpr ⟨hfirst, hrest⟩
      · next hne =>
        refine List.pairwise_cons.mpr ⟨fun y hy => ?_, ih hrest⟩
        rcases mem_bump hy with rfl | hin
        · exact UInt64.lt_of_le_of_ne (UInt64.not_lt.mp hge) (Ne.symm hne)
        · exact hfirst y hin

theorem lookup_bump_of_ne {a b : Address} (h : a ≠ b) (table : List (Address × Nat)) :
    (bump a table).lookup b = table.lookup b := by
  induction table with
  | nil => exact lookup_cons_of_ne h.symm 1 []
  | cons x rest ih =>
    obtain ⟨c, m⟩ := x
    simp only [bump]
    split
    · exact lookup_cons_of_ne h.symm 1 _
    · split
      · next heq =>
        subst heq
        rw [lookup_cons_of_ne h.symm, lookup_cons_of_ne h.symm]
      · rw [List.lookup_cons, List.lookup_cons, ih]

/-- One more for the address, and for no other. -/
theorem Ascending.lookup_bump {table : List (Address × Nat)} (h : Ascending table) (a b : Address) :
    ((Probe.bump a table).lookup b).getD 0 = (table.lookup b).getD 0 + if a = b then 1 else 0 := by
  by_cases hab : a = b
  · subst hab
    rw [if_pos rfl]
    induction table with
    | nil => simp [Probe.bump]
    | cons x rest ih =>
      obtain ⟨c, m⟩ := x
      obtain ⟨hfirst, hrest⟩ := List.pairwise_cons.mp h
      simp only [Probe.bump]
      split
      · next hlt =>
        have hnone : ((c, m) :: rest).lookup a = none := lookup_eq_none (List.forall_mem_cons.mpr
          ⟨hlt, fun y hy => UInt64.lt_trans hlt (hfirst y hy)⟩)
        rw [hnone, List.lookup_cons_self]
        rfl
      · split
        · next heq =>
          subst heq
          rw [List.lookup_cons_self, List.lookup_cons_self]
          rfl
        · next hne => rw [lookup_cons_of_ne hne, lookup_cons_of_ne hne, ih hrest]
  · rw [if_neg hab, lookup_bump_of_ne hab]
    rfl

/-! ## Probes by themselves -/

/-- The table counts the list. -/
structure Consistent (p : Probe) : Prop where
  ascending : Ascending p.counts
  counts : ∀ a, p.count a = p.order.count a

theorem order_record (p : Probe) (a : Address) : (p.record a).1.order = p.order ++ [a] := List.reverse_cons

/-- A probe that has heard of nothing yet, wherever it fails. -/
theorem consistent_new (failing : List Address) : Consistent { failing } := ⟨.nil, fun _ => rfl⟩

/-- One run more, whether it fails or not. -/
theorem Consistent.record {p : Probe} (h : p.Consistent) (a : Address) : (p.record a).1.Consistent := by
  refine ⟨h.ascending.bump a, fun b => ?_⟩
  have hold := h.counts b
  rw [order_record, List.count_append, ← hold, List.count_singleton]
  simp only [beq_iff_eq]
  exact h.ascending.lookup_bump a b

theorem Consistent.failOn {p : Probe} (h : p.Consistent) (a : Address) : (p.failOn a).Consistent :=
  ⟨h.ascending, h.counts⟩

/-- What a probe is like after it has been told of a run, or of none. -/
def hear (p : Probe) : Option Address → Probe
  | some a => (p.record a).1
  | none => p

theorem order_hear (p : Probe) (a? : Option Address) : (p.hear a?).order = p.order ++ a?.toList := by
  cases a? with
  | none => exact (List.append_nil _).symm
  | some a => exact p.order_record a

theorem Consistent.hear {p : Probe} (h : p.Consistent) (a? : Option Address) : (p.hear a?).Consistent := by
  cases a? with
  | none => exact h
  | some a => exact h.record a

theorem mem_failOn {p : Probe} {a b : Address} : b ∈ (p.failOn a).failing ↔ b = a ∨ b ∈ p.failing := by
  simp only [Probe.failOn]
  split
  · next hin =>
    rw [or_iff_right_of_imp]
    rintro rfl
    exact List.contains_iff_mem.mp hin
  · exact List.mem_cons

/-- What a probe reports agrees with the order of the runs. -/
structure Faithful (p : Probe) : Prop where
  counts : ∀ a, p.count a = p.order.count a
  total : p.total = p.order.length
  /-- No run is of an address that is not counted, or of two. -/
  sum : ∀ addresses : Finset Address, (∀ a ∈ p.order, a ∈ addresses) →
    ∑ a ∈ addresses, p.count a = p.total
  ascending : p.duplicates.Pairwise (· < ·)
  duplicates : ∀ a, a ∈ p.duplicates ↔ 2 ≤ p.order.count a

theorem Consistent.faithful {p : Probe} (h : p.Consistent) : p.Faithful where
  counts := h.counts
  total := List.length_reverse.symm
  sum := fun addresses hin => by
    have hcard : ∑ a ∈ addresses, (p.order : Multiset Address).count a = p.total :=
      (Multiset.sum_count_eq_card hin).trans List.length_reverse
    rw [← hcard]
    exact Finset.sum_congr rfl fun a _ => (h.counts a).trans (Multiset.coe_count a p.order).symm
  ascending := List.pairwise_map.mpr (h.ascending.filter _)
  duplicates := fun a => by
    rw [← h.counts a, Probe.duplicates, List.mem_map, count]
    constructor
    · rintro ⟨⟨b, n⟩, hin, rfl⟩
      obtain ⟨hin, hmany⟩ := List.mem_filter.mp hin
      rw [h.ascending.mem_iff.mp hin]
      exact of_decide_eq_true hmany
    · intro hmany
      cases hn : p.counts.lookup a with
      | none =>
        rw [hn] at hmany
        exact absurd hmany (by decide)
      | some n =>
        rw [hn] at hmany
        exact ⟨(a, n), List.mem_filter.mpr ⟨h.ascending.mem_iff.mpr hn, decide_eq_true hmany⟩, rfl⟩

example : ((((({ failing := [7] } : Probe).record 7).1.failOn 3).record 3).1.record 7).1.duplicates = [7] := by
  decide

end Probe

end Reclaim

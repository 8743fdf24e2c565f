import Reclaim.Proofs.Errands
import Mathlib.Data.Set.Function

/-!
# Addresses and windows of a simulation

The handles of all threads have the addresses from one up to their number, each exactly one of them, as long as
that number fits into a word; so no registration is refused, and each slot of the ledger belongs to one handle. A
thread keeps a window of open handles: whatever it draws, no more than eight are open after an iteration, what is
let go of is open, and every handle is let go of once.

* `Simulation.toNat_addressOf`, `Simulation.addressOf_bijOn` : the addresses;
* `Simulation.Lane`, `Simulation.errands_append`, `Simulation.laneOf` : a thread, iteration by iteration;
* `Simulation.Lane.Kept`, `Simulation.kept_after` : what an iteration keeps, and all of them;
* `Simulation.Tended`, `Simulation.tended` : what a thread does with its addresses;
* `Ledger.violations_pairwise`, `Ledger.mem_violations` : the complaints of a ledger;
* `Simulation.Accurate`, `Simulation.accurate` : all together.
-/

namespace Reclaim

/-! ## Complaints -/

namespace Ledger

/-- Complaints are about addresses in ascending order. -/
theorem violations_pairwise (l : Ledger) : l.violations.Pairwise fun x y => x.1 < y.1 := by
  refine List.Pairwise.filter _ (List.pairwise_map.mpr ?_)
  have hplaces : (l.slots.toList.zipIdx.map Prod.snd).Pairwise (· < ·) := by
    rw [List.zipIdx_map_snd]
    exact List.pairwise_lt_range'
  exact (List.pairwise_map.mp hplaces).imp Nat.succ_lt_succ

/-- They are about the addresses whose count is not one. -/
theorem mem_violations {l : Ledger} {a n : Nat} :
    (a, n) ∈ l.violations ↔ 1 ≤ a ∧ l.slots[a - 1]? = some n ∧ n ≠ 1 := by
  simp only [violations, List.mem_filter, List.mem_map, bne_iff_ne, Prod.mk.injEq]
  constructor
  · rintro ⟨⟨⟨m, i⟩, hslot, rfl, rfl⟩, hne⟩
    rw [List.mk_mem_zipIdx_iff_getElem?, Array.getElem?_toList] at hslot
    exact ⟨Nat.le_add_left _ _, hslot, hne⟩
  · rintro ⟨hone, hslot, hne⟩
    rw [← Array.getElem?_toList, ← List.mk_mem_zipIdx_iff_getElem?] at hslot
    exact ⟨⟨_, hslot, Nat.sub_add_cancel hone, rfl⟩, hne⟩

example : ((empty 3).recordAll [2, 3, 2]).violations = [(1, 0), (2, 2)] := by decide

end Ledger

namespace Simulation

/-! ## Addresses -/

section Addresses
variable {threads handles t i : UInt64}

theorem total?_eq_some {n : UInt64} (h : total? threads handles = some n) :
    threads.toNat * handles.toNat < 2 ^ 64 ∧ n.toNat = threads.toNat * handles.toNat := by
  unfold total? at h
  split at h
  · next hsize =>
    cases h
    exact ⟨hsize, (UInt64.toNat_mul ..).trans (Nat.mod_eq_of_lt hsize)⟩
  · cases h

/-- The last address of a thread is no larger than the number of handles. -/
theorem address_le (ht : t < threads) (hi : i < handles) :
    t.toNat * handles.toNat + i.toNat + 1 ≤ threads.toNat * handles.toNat := by
  have hnext : (t.toNat + 1) * handles.toNat ≤ threads.toNat * handles.toNat :=
    Nat.mul_le_mul_right _ (UInt64.lt_iff_toNat_lt.mp ht)
  have hlt : i.toNat < handles.toNat := UInt64.lt_iff_toNat_lt.mp hi
  rw [Nat.succ_mul] at hnext
  omega

variable {n : UInt64} (hn : total? threads handles = some n)
include hn

/-- So nothing wraps around. -/
theorem toNat_addressOf (ht : t < threads) (hi : i < handles) :
    (addressOf handles t i).toNat = t.toNat * handles.toNat + i.toNat + 1 := by
  have hsize := (total?_eq_some hn).1
  have hle := address_le ht hi
  have hone : (1 : UInt64).toNat = 1 := rfl
  rw [addressOf, UInt64.toNat_add, UInt64.toNat_add, UInt64.toNat_mul, hone]
  omega

theorem addressOf_mem (ht : t < threads) (hi : i < handles) :
    1 ≤ addressOf handles t i ∧ addressOf handles t i ≤ n := by
  rw [UInt64.le_iff_toNat_le, UInt64.le_iff_toNat_le, toNat_addressOf hn ht hi, (total?_eq_some hn).2]
  exact ⟨Nat.le_add_left _ _, address_le ht hi⟩

/-- The thread and the place of a handle can be read off its address. -/
theorem addressOf_inj {t' i' : UInt64} (ht : t < threads) (hi : i < handles) (ht' : t' < threads) (hi' : i' < handles)
    (heq : addressOf handles t i = addressOf handles t' i') : t = t' ∧ i = i' := by
  have hplace : ∀ {t i : UInt64}, i < handles → (t.toNat * handles.toNat + i.toNat) / handles.toNat = t.toNat := by
    intro t i hi
    have hlt := UInt64.lt_iff_toNat_lt.mp hi
    rw [Nat.mul_comm, Nat.mul_add_div (Nat.zero_lt_of_lt hlt), Nat.div_eq_of_lt hlt, Nat.add_zero]
  have hnat := congrArg UInt64.toNat heq
  rw [toNat_addressOf hn ht hi, toNat_addressOf hn ht' hi', Nat.succ_inj] at hnat
  have hthread : t = t' := by
    have hdiv := congrArg (· / handles.toNat) hnat
    rw [hplace hi, hplace hi'] at hdiv
    exact UInt64.toNat_inj.mp hdiv
  subst hthread
  exact ⟨rfl, UInt64.toNat_inj.mp (Nat.add_left_cancel hnat)⟩

/-- Every number up to that of the handles is an address. -/
theorem exists_addressOf {k : Nat} (hk : k < n.toNat) :
    ∃ t i, t < threads ∧ i < handles ∧ (addressOf handles t i).toNat = k + 1 := by
  rw [(total?_eq_some hn).2] at hk
  have hpos : 0 < handles.toNat := Nat.pos_of_ne_zero fun hzero => by
    rw [hzero, Nat.mul_zero] at hk
    cases hk
  have ht : k / handles.toNat < threads.toNat := (Nat.div_lt_iff_lt_mul hpos).mpr hk
  have hi : k % handles.toNat < handles.toNat := Nat.mod_lt k hpos
  have htoNat : (UInt64.ofNat (k / handles.toNat)).toNat = k / handles.toNat :=
    UInt64.toNat_ofNat_of_lt' (ht.trans threads.toNat_lt)
  have hitoNat : (UInt64.ofNat (k % handles.toNat)).toNat = k % handles.toNat :=
    UInt64.toNat_ofNat_of_lt' (hi.trans handles.toNat_lt)
  have htlt : UInt64.ofNat (k / handles.toNat) < threads := by rwa [UInt64.lt_iff_toNat_lt, htoNat]
  have hilt : UInt64.ofNat (k % handles.toNat) < handles := by rwa [UInt64.lt_iff_toNat_lt, hitoNat]
  refine ⟨_, _, htlt, hilt, ?_⟩
  rw [toNat_addressOf hn htlt hilt, htoNat, hitoNat, Nat.mul_comm, Nat.div_add_mod]

/-- The addresses are the numbers from one up to that of the handles. -/
theorem addressOf_bijOn : Set.BijOn (fun p : UInt64 × UInt64 => addressOf handles p.1 p.2)
    {p | p.1 < threads ∧ p.2 < handles} {a | 1 ≤ a ∧ a ≤ n} := by
  refine ⟨fun p hp => addressOf_mem hn hp.1 hp.2, fun p hp q hq heq => ?_, fun a ha => ?_⟩
  · obtain ⟨ht, hi⟩ := addressOf_inj hn hp.1 hp.2 hq.1 hq.2 heq
    exact Prod.ext ht hi
  · obtain ⟨hone, hle⟩ := ha
    rw [UInt64.le_iff_toNat_le] at hone hle
    change 1 ≤ a.toNat at hone
    obtain ⟨t, i, ht, hi, heq⟩ := exists_addressOf hn (Nat.lt_of_lt_of_le (Nat.sub_one_lt_of_lt hone) hle)
    refine ⟨(t, i), ⟨ht, hi⟩, UInt64.toNat_inj.mp (heq.trans ?_)⟩
    exact Nat.sub_add_cancel hone

/-- The slot of an address is there. -/
theorem slot_lt (ht : t < threads) (hi : i < handles) :
    (addressOf handles t i).toNat - 1 < (Ledger.empty n.toNat).slots.size := by
  rw [Ledger.empty, Array.size_replicate, toNat_addressOf hn ht hi, (total?_eq_some hn).2]
  exact address_le ht hi

/-- Each slot is that of one handle. -/
theorem existsUnique_slot {k : Nat} (hk : k < (Ledger.empty n.toNat).slots.size) :
    ∃! p : UInt64 × UInt64, (p.1 < threads ∧ p.2 < handles) ∧ (addressOf handles p.1 p.2).toNat - 1 = k := by
  rw [Ledger.empty, Array.size_replicate] at hk
  obtain ⟨t, i, ht, hi, heq⟩ := exists_addressOf hn hk
  refine ⟨(t, i), ⟨⟨ht, hi⟩, by rw [heq]; rfl⟩, ?_⟩
  rintro ⟨t', i'⟩ ⟨⟨ht', hi'⟩, rfl⟩
  have hsame : addressOf handles t i = addressOf handles t' i' :=
    UInt64.toNat_inj.mp (heq.trans (Nat.sub_add_cancel (addressOf_mem hn ht' hi').1))
  obtain ⟨rfl, rfl⟩ := addressOf_inj hn ht hi ht' hi' hsame
  rfl

/-- A thread has no address twice. -/
theorem nodup_addresses (ht : t < threads) : (addresses handles t).Nodup := by
  have htoNat : ∀ i ∈ List.range handles.toNat, (UInt64.ofNat i).toNat = i := fun i hi =>
    UInt64.toNat_ofNat_of_lt' ((List.mem_range.mp hi).trans handles.toNat_lt)
  have hlt : ∀ i ∈ List.range handles.toNat, UInt64.ofNat i < handles := fun i hi => by
    rw [UInt64.lt_iff_toNat_lt, htoNat i hi]
    exact List.mem_range.mp hi
  refine List.nodup_range.map_on fun i hi j hj heq => ?_
  have hplace := congrArg UInt64.toNat (addressOf_inj hn ht (hlt i hi) ht (hlt j hj) heq).2
  rwa [htoNat i hi, htoNat j hj] at hplace

end Addresses

/-! ## A thread at work -/

variable {σ : Type}

/-- How far a thread has come: what is open, the state of its draws, what it has done, and the places that it has
drawn, each with the number of the handles that were open. -/
structure Lane (σ : Type) where
  state : σ
  opened : List Address := []
  done : List Errand := []
  drawn : List (Nat × Nat) := []

namespace Lane
variable (d : Draws σ)

/-- One iteration of a thread. -/
def next (l : Lane σ) (a : Address) : Lane σ :=
  let opened := l.opened ++ [a]
  if window < opened.length then
    let (i, state) := d.index l.state opened.length
    { state := (releases d state).2
      opened := swapRemove opened i
      done := l.done ++ [.opens a, .closes (opened.getD i 0) (releases d state).1]
      drawn := l.drawn ++ [(i, opened.length)] }
  else { l with opened, done := l.done ++ [.opens a] }

/-- Iterations for some addresses. -/
def after (l : Lane σ) (as : List Address) : Lane σ := as.foldl (next d) l

/-- Letting go of what is left. -/
def finish (l : Lane σ) : List Errand := l.done ++ closeAll d l.opened l.state

end Lane

/-- The errands of a thread are its iterations for some addresses, and what it goes on with after them. -/
theorem errands_append (d : Draws σ) (l : Lane σ) (as bs : List Address) :
    l.done ++ errands d (as ++ bs) l.opened l.state =
      (l.after d as).done ++ errands d bs (l.after d as).opened (l.after d as).state := by
  induction as generalizing l with
  | nil => rfl
  | cons a rest ih =>
    rw [Lane.after, List.foldl_cons, ← Lane.after, ← ih, List.cons_append]
    simp only [errands, Lane.next]
    split <;> simp

theorem commands_append (es es' : List Errand) : commands (es ++ es') = commands es ++ commands es' := by
  simp [commands]

namespace Lane
variable {d : Draws σ}

/-- What iterations for some addresses keep: no more handles are open than a window has room for, every place that
was drawn was that of an open handle, and each address has been opened and is open or has been closed. -/
structure Kept (as : List Address) (l : Lane σ) : Prop where
  window : l.opened.length ≤ window
  inRange : ∀ p ∈ l.drawn, p.1 < p.2
  opens : l.done.filterMap Errand.opened? = as
  closes : ((l.done.filterMap Errand.closed?).map Prod.fst ++ l.opened).Perm as

theorem Kept.next (hd : d.InRange) {as : List Address} {l : Lane σ} (hl : l.Kept as) (a : Address) :
    (l.next d a).Kept (as ++ [a]) := by
  have hlength : (l.opened ++ [a]).length = l.opened.length + 1 := List.length_append
  have hmore : ((l.done.filterMap Errand.closed?).map Prod.fst ++ (l.opened ++ [a])).Perm (as ++ [a]) := by
    rw [← List.append_assoc]
    exact hl.closes.append_right [a]
  simp only [Lane.next]
  split
  · have hi := hd l.state (l.opened ++ [a]).length (hlength ▸ Nat.succ_pos _)
    have hperm := swapRemove_perm hi
    refine ⟨?_, ?_, ?_, ?_⟩
    · exact (Nat.succ.inj (hperm.length_eq.trans hlength)).trans_le hl.window
    · exact List.forall_mem_append.mpr ⟨hl.inRange, List.forall_mem_singleton.mpr hi⟩
    · rw [List.filterMap_append, hl.opens]
      rfl
    · -- the handle that is let go moves from the open ones to the closed ones
      rw [List.filterMap_append, List.map_append, List.append_assoc]
      exact (hperm.append_left _).trans hmore
  · next hroom =>
    refine ⟨Nat.le_of_not_lt hroom, hl.inRange, ?_, ?_⟩
    · rw [List.filterMap_append, hl.opens]
      rfl
    · rw [List.filterMap_append, List.map_append, List.append_assoc]
      exact hmore

end Lane

/-- How far a thread comes by iterations for some addresses, when its draws start from this state. -/
def laneOf (d : Draws σ) (state : σ) (as : List Address) : Lane σ := Lane.after d { state } as

/-- A thread keeps to all that, whatever it draws. -/
theorem kept_after {d : Draws σ} (hd : d.InRange) (state : σ) (as : List Address) : (laneOf d state as).Kept as := by
  induction as using List.reverseRecOn with
  | nil => exact ⟨Nat.zero_le _, List.forall_mem_nil _, rfl, .nil⟩
  | append_singleton as a ih =>
    rw [laneOf, Lane.after, List.foldl_append]
    exact ih.next hd a

/-- What a thread does with its addresses, for the state that its draws start from. -/
structure Tended (d : Draws σ) (as : List Address) (state : σ) : Prop where
  /-- Its script is what iterations have come to so far, and goes on with what is open then. -/
  goes : ∀ k, script d as [] state = commands (laneOf d state (as.take k)).done ++
    script d (as.drop k) (laneOf d state (as.take k)).opened (laneOf d state (as.take k)).state
  /-- In the end it lets go of what is left. -/
  script : script d as [] state = commands ((laneOf d state as).finish d)
  /-- After every iteration at most eight handles are open. -/
  window : ∀ k, (laneOf d state (as.take k)).opened.length ≤ 8
  /-- Whatever is taken out of the window is in it. -/
  inRange : ∀ p ∈ (laneOf d state as).drawn, p.1 < p.2
  opened : ((laneOf d state as).finish d).filterMap Errand.opened? = as
  closed : ((((laneOf d state as).finish d).filterMap Errand.closed?).map Prod.fst).Perm as
  /-- Each handle is let go of once. -/
  once : ∀ a ∈ as, (((laneOf d state as).finish d).filterMap Errand.closed?).countP (·.1 = a) = 1

theorem tended {d : Draws σ} (hd : d.InRange) {as : List Address} (has : as.Nodup) (state : σ) :
    Tended d as state := by
  have hkept := kept_after hd state as
  have hclosed : ((((laneOf d state as).finish d).filterMap Errand.closed?).map Prod.fst).Perm as := by
    rw [Lane.finish, List.filterMap_append, List.map_append, closed_closeAll]
    exact hkept.closes
  have herrands : ∀ k, errands d as [] state = (laneOf d state (as.take k)).done ++
      errands d (as.drop k) (laneOf d state (as.take k)).opened (laneOf d state (as.take k)).state := fun k => by
    rw [laneOf, ← errands_append, List.take_append_drop]
    rfl
  refine ⟨fun k => ?_, ?_, fun k => (kept_after hd state _).window, hkept.inRange, ?_, hclosed, fun a ha => ?_⟩
  · rw [script, script, herrands k, commands_append]
  · rw [script, herrands as.length, List.take_length, List.drop_length]
    rfl
  · rw [Lane.finish, List.filterMap_append, hkept.opens, opened_closeAll, List.append_nil]
  · rw [← List.count_eq_one_of_mem has ha, ← hclosed.count_eq, List.count, List.countP_map]
    exact List.countP_congr fun x _ => by simp

/-! ## All threads -/

/-- Threads with so many handles each, which are `n` together, have addresses and windows that are in order. -/
structure Accurate (d : Draws σ) (threads handles n : UInt64) : Prop where
  size : n.toNat = threads.toNat * handles.toNat
  /-- Nothing wraps around on the way to an address. -/
  exact : ∀ t < threads, ∀ i < handles, (t * handles).toNat = t.toNat * handles.toNat ∧
    (t * handles + i).toNat = t.toNat * handles.toNat + i.toNat ∧
    (addressOf handles t i).toNat = t.toNat * handles.toNat + i.toNat + 1
  bijective : Set.BijOn (fun p : UInt64 × UInt64 => addressOf handles p.1 p.2)
    {p | p.1 < threads ∧ p.2 < handles} {a | 1 ≤ a ∧ a ≤ n}
  /-- No registration is refused. -/
  accepted : ∀ t < threads, ∀ i < handles, ∀ f : ReleaseFn,
    ((Registration.start (addressOf handles t i)).releaseWith f).check = .ok f
  /-- Every address has a slot, and every slot is that of one address. -/
  slots : ∀ t < threads, ∀ i < handles, (addressOf handles t i).toNat - 1 < (Ledger.empty n.toNat).slots.size
  shared : ∀ k < (Ledger.empty n.toNat).slots.size, ∃! p : UInt64 × UInt64,
    (p.1 < threads ∧ p.2 < handles) ∧ (addressOf handles p.1 p.2).toNat - 1 = k
  tended : ∀ t < threads, ∀ state, Tended d (addresses handles t) state
  /-- Complaints are about the addresses whose count is not one, in ascending order. -/
  ascending : ∀ l : Ledger, l.violations.Pairwise fun x y => x.1 < y.1
  violations : ∀ (l : Ledger) (a k : Nat),
    (a, k) ∈ l.violations ↔ 1 ≤ a ∧ l.slots[a - 1]? = some k ∧ k ≠ 1

/-- Threads whose handles can be counted by a word are in order, whatever they draw. -/
theorem accurate {d : Draws σ} (hd : d.InRange) {threads handles n : UInt64}
    (hn : total? threads handles = some n) : Accurate d threads handles n where
  size := (total?_eq_some hn).2
  exact := fun t ht i hi => by
    have hsize := (total?_eq_some hn).1
    have hle := address_le ht hi
    refine ⟨?_, ?_, toNat_addressOf hn ht hi⟩
    · rw [UInt64.toNat_mul]
      exact Nat.mod_eq_of_lt (by omega)
    · rw [UInt64.toNat_add, UInt64.toNat_mul]
      omega
  bijective := addressOf_bijOn hn
  accepted := fun t ht i hi => check_start fun hzero => by
    have hone := (addressOf_mem hn ht hi).1
    rw [hzero] at hone
    exact absurd hone (by decide)
  slots := fun t ht i hi => slot_lt hn ht hi
  shared := fun k hk => existsUnique_slot hn hk
  tended := fun t ht state => tended hd (nodup_addresses hn ht) state
  ascending := Ledger.violations_pairwise
  violations := fun _ _ _ => Ledger.mem_violations

/-- As many handles as a word can count. -/
theorem accurate_full : total? 4294967295 4294967297 = some 18446744073709551615 ∧
    Accurate (Draws.standard 0.25) 4294967295 4294967297 18446744073709551615 :=
  ⟨rfl, accurate (Draws.standard_inRange 0.25) rfl⟩

end Simulation

end Reclaim

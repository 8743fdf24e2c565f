import Reclaim.Simulation
import Reclaim.Proofs.Accounts
import Mathlib.Data.List.Perm.Basic

/-!
# What the threads of a simulation do

A thread opens handles one by one and lets go of each in one go. Whatever the draws are, it opens its own
addresses in order, and lets go of each of them once, after none, one or two releases; how many handles leak
depends on the draws alone, not on the handles they fall on.

* `Draws.InRange`, `Draws.standard_inRange` : draws of a place among some are a place among them;
* `Simulation.program`, `Simulation.commands_eq` : the deals of errands, and their commands;
* `Simulation.opened_errands`, `Simulation.closed_errands` : each address is opened once, and closed once;
* `Simulation.leaksDrawn`, `Simulation.leaks_errands` : the leaks, by the draws alone;
* `Simulation.errands_fit` : a thread releases a handle only as long as it holds it;
* `Simulation.Tidy`, `Simulation.countP_isDrop`, `Simulation.countP_isRelease` : how often a script drops and
  releases a handle.
-/

namespace Reclaim

/-! ## Draws -/

/-- A draw of one of some handles is one of them. -/
def Draws.InRange {σ : Type} (d : Draws σ) : Prop := ∀ state n, 0 < n → (d.index state n).1 < n

/-- The high half of a product with a bound is below the bound. -/
theorem Rng.wideMul_le (word n : UInt64) : (wideMul word n).1.toNat ≤ n.toNat - 1 := by
  have hle : word.toNat * n.toNat / Nat.pow 2 64 ≤ n.toNat - 1 := by
    rcases Nat.eq_zero_or_pos n.toNat with hzero | hpos
    · rw [hzero, Nat.mul_zero, Nat.zero_div]
    · exact Nat.le_sub_one_of_lt
        (Nat.div_lt_of_lt_mul (Nat.mul_lt_mul_of_pos_right word.toNat_lt hpos))
  have hn := n.toNat_lt_size
  rw [wideMul, UInt64.toNat_ofNat_of_lt' (by omega)]
  exact hle

/-- So is a number that is drawn below the bound. -/
theorem Rng.below_le (r : Rng) (n : UInt64) : (r.below n).1.toNat ≤ n.toNat - 1 := by
  have hfair : ∀ (fuel : Nat) (r : Rng) (threshold : UInt64),
      (fairWithin n threshold fuel r).1.toNat ≤ n.toNat - 1 := by
    intro fuel
    induction fuel with
    | zero => exact fun _ _ => Nat.zero_le _
    | succ fuel ih =>
      intro r threshold
      simp only [fairWithin]
      split
      · exact ih _ _
      · exact wideMul_le _ n
  unfold below
  generalize Nat.pow 2 64 = fuel
  dsimp only
  split
  · exact hfair _ _ _
  · exact wideMul_le _ n

/-- So draws of a place are in range if they are those of such a generator. -/
theorem Draws.inRange_of_below {σ : Type} {below : σ → UInt64 → UInt64 × σ} (leaks again : σ → Bool × σ)
    (hbelow : ∀ state n, (below state n).1.toNat ≤ n.toNat - 1) :
    Draws.InRange ⟨fun state n => let (i, state) := below state (UInt64.ofNat n); (i.toNat, state), leaks,
      again⟩ := by
  intro state n hn
  have hle := hbelow state (UInt64.ofNat n)
  rw [UInt64.toNat_ofNat'] at hle
  have hmod := Nat.mod_le n (2 ^ 64)
  change (below state (UInt64.ofNat n)).1.toNat < n
  omega

theorem Draws.standard_inRange (ratio : Float) : (Draws.standard ratio).InRange :=
  inRange_of_below _ _ Rng.below_le

/-- The draws for a handle that is let go: whether it leaks, and unless it does, whether its release is
repeated. -/
def Draws.afterClose {σ : Type} (d : Draws σ) (state : σ) : σ :=
  let (leaks, state) := d.leaks state
  if leaks then state else (d.again state).2

namespace Simulation
variable {σ : Type} (d : Draws σ)

/-! ## Errands -/

namespace Errand

/-- The dealings of an errand. -/
def deals : Errand → List Deal
  | opens a => [.register (handleName a) ((Registration.start a).releaseWith { listed := false })]
  | closes a n => List.replicate n (.release (handleName a) false) ++ [.drop (handleName a)]

/-- The address that is opened. -/
def opened? : Errand → Option Address
  | opens a => some a
  | closes .. => none

/-- The address that is closed, and after how many releases. -/
def closed? : Errand → Option (Address × Nat)
  | opens _ => none
  | closes a n => some (a, n)

end Errand

/-- The program of a list of errands. -/
def program (es : List Errand) : List Deal := es.flatMap Errand.deals

theorem program_cons (e : Errand) (es : List Errand) : program (e :: es) = e.deals ++ program es :=
  List.flatMap_cons

theorem Errand.commands_eq (e : Errand) : e.commands = e.deals.map (Deal.command guardName) := by
  cases e with
  | opens a => rfl
  | closes a n =>
    rw [commands, deals, List.map_append, List.map_replicate]
    rfl

/-- The commands of errands are those of their program. -/
theorem commands_eq (es : List Errand) : commands es = (program es).map (Deal.command guardName) := by
  rw [commands, program, List.map_flatMap]
  exact List.flatMap_congr fun e _ => e.commands_eq

/-! ## Opening and closing -/

theorem opened_closeAll (opened : List Address) (state : σ) :
    (closeAll d opened state).filterMap Errand.opened? = [] := by
  induction opened generalizing state with
  | nil => rfl
  | cons a rest ih => exact ih _

/-- A thread opens its addresses in order. -/
theorem opened_errands (addresses opened : List Address) (state : σ) :
    (errands d addresses opened state).filterMap Errand.opened? = addresses := by
  induction addresses generalizing opened state with
  | nil => exact opened_closeAll d opened state
  | cons a rest ih =>
    simp only [errands]
    split
    · exact congrArg (a :: ·) (ih _ _)
    · exact congrArg (a :: ·) (ih _ _)

/-- What is removed is one of the list, and the others stay. -/
theorem swapRemove_perm {xs : List Address} {i : Nat} (hi : i < xs.length) :
    (xs.getD i 0 :: swapRemove xs i).Perm xs := by
  obtain ⟨ys, last, rfl⟩ : ∃ ys last, xs = ys ++ [last] :=
    List.eq_nil_or_concat' xs |>.resolve_left (List.ne_nil_of_length_pos (Nat.zero_lt_of_lt hi))
  rw [List.getD_eq_getElem?_getD, List.getElem?_eq_getElem hi, Option.getD_some]
  simp only [swapRemove, List.getLast?_concat]
  rw [List.length_append, List.length_singleton] at hi
  rcases Nat.lt_or_eq_of_le (Nat.le_of_lt_succ hi) with hlt | rfl
  · rw [List.getElem_append_left hlt, List.set_append_left _ _ hlt, List.dropLast_concat]
    calc (ys[i] :: ys.set i last).Perm (ys[i] :: last :: ys.eraseIdx i) :=
          (List.set_perm_cons_eraseIdx hlt last).cons _
      _ |>.Perm (last :: ys[i] :: ys.eraseIdx i) := List.Perm.swap _ _ _
      _ |>.Perm (last :: ys) := (List.getElem_cons_eraseIdx_perm hlt).cons _
      _ |>.Perm (ys ++ [last]) := (List.perm_append_singleton last ys).symm
  · simpa using (List.perm_append_singleton last ys).symm

theorem closed_closeAll (opened : List Address) (state : σ) :
    ((closeAll d opened state).filterMap Errand.closed?).map Prod.fst = opened := by
  induction opened generalizing state with
  | nil => rfl
  | cons a rest ih => exact congrArg (a :: ·) (ih _)

variable {d}

/-- A thread lets go of every handle that is open or that it opens, once. -/
theorem closed_errands (hd : d.InRange) (addresses opened : List Address) (state : σ) :
    (((errands d addresses opened state).filterMap Errand.closed?).map Prod.fst).Perm
      (opened ++ addresses) := by
  induction addresses generalizing opened state with
  | nil => rw [List.append_nil, errands, closed_closeAll]
  | cons a rest ih =>
    simp only [errands]
    split
    · have hi := hd state (opened ++ [a]).length (by simp)
      exact ((ih _ _).cons _).trans (((swapRemove_perm hi).append_right rest).trans (by simp))
    · exact (ih _ _).trans (by simp)

theorem releases_snd (state : σ) : (releases d state).2 = d.afterClose state := by
  simp only [releases, Draws.afterClose]
  split <;> rfl

/-- A handle is dropped without a release if the draws say that it leaks. -/
theorem releases_eq_zero (state : σ) :
    (if (releases d state).1 = 0 then 1 else 0) = (d.leaks state).1.toNat := by
  simp only [releases]
  cases (d.leaks state).1 with
  | true => rfl
  | false =>
    rw [if_neg Bool.false_ne_true]
    cases (d.again (d.leaks state).2).1 <;> rfl

/-- How many of so many open handles leak when all of them are let go. -/
def leaksLeft (d : Draws σ) : Nat → σ → Nat
  | 0, _ => 0
  | opened + 1, state => (d.leaks state).1.toNat + leaksLeft d opened (d.afterClose state)

/-- How many handles leak when so many are still to be opened and so many are open, by the draws alone: one
for a place whenever more than a window are open, and those for the handle that is let go. -/
def leaksDrawn (d : Draws σ) : Nat → Nat → σ → Nat
  | 0, opened, state => leaksLeft d opened state
  | coming + 1, opened, state =>
    if window < opened + 1 then
      let (_, state) := d.index state (opened + 1)
      (d.leaks state).1.toNat + leaksDrawn d coming opened (d.afterClose state)
    else leaksDrawn d coming (opened + 1) state

/-- Whether an errand lets a handle leak. -/
def Errand.leaks : Errand → Bool
  | opens _ => false
  | closes _ n => n == 0

theorem leaks_closes (a : Address) (n : Nat) (es : List Errand) :
    (Errand.closes a n :: es).countP Errand.leaks = (if n = 0 then 1 else 0) + es.countP Errand.leaks := by
  rw [List.countP_cons, Nat.add_comm]
  simp only [Errand.leaks, beq_iff_eq]

theorem leaks_closeAll (opened : List Address) (state : σ) :
    (closeAll d opened state).countP Errand.leaks = leaksLeft d opened.length state := by
  induction opened generalizing state with
  | nil => rfl
  | cons a rest ih =>
    rw [closeAll, leaks_closes, ih, List.length_cons, leaksLeft, releases_eq_zero, releases_snd]

/-- How many handles leak does not depend on which handles the draws fall on. -/
theorem leaks_errands (hd : d.InRange) (addresses opened : List Address) (state : σ) :
    (errands d addresses opened state).countP Errand.leaks =
      leaksDrawn d addresses.length opened.length state := by
  induction addresses generalizing opened state with
  | nil => exact leaks_closeAll opened state
  | cons a rest ih =>
    have hlength : (opened ++ [a]).length = opened.length + 1 := by simp
    simp only [errands, List.length_cons, leaksDrawn, hlength]
    split
    · have hi : (d.index state (opened.length + 1)).1 < (opened ++ [a]).length :=
        (hd state _ (Nat.succ_pos _)).trans_eq hlength.symm
      have hkept := (swapRemove_perm hi).length_eq
      rw [List.length_cons, hlength] at hkept
      rw [List.countP_cons_of_neg (by simp [Errand.leaks]), leaks_closes, ih, Nat.succ.inj hkept,
        releases_eq_zero, releases_snd]
    · rw [List.countP_cons_of_neg (by simp [Errand.leaks]), ih, hlength]

/-- The addresses of the handles that leak. -/
def leaked (es : List Errand) : List Address :=
  ((es.filterMap Errand.closed?).filter fun x => x.2 == 0).map Prod.fst

theorem mem_leaked {es : List Errand} {a : Address} :
    a ∈ leaked es ↔ (a, 0) ∈ es.filterMap Errand.closed? := by
  simp only [leaked, List.mem_map, List.mem_filter, beq_iff_eq]
  constructor
  · rintro ⟨⟨a, n⟩, ⟨hin, rfl⟩, rfl⟩
    exact hin
  · exact fun hin => ⟨(a, 0), ⟨hin, rfl⟩, rfl⟩

theorem length_leaked (es : List Errand) : (leaked es).length = es.countP Errand.leaks := by
  rw [leaked, List.length_map, ← List.countP_eq_length_filter, List.countP_filterMap]
  refine List.countP_congr fun e _ => ?_
  cases e <;> simp [Errand.closed?, Errand.leaks]

/-- Every handle that is closed leaks or does not. -/
theorem sum_closed (es : List Errand) :
    ((es.filterMap Errand.closed?).map fun x => if x.2 = 0 then 1 else 0).sum = es.countP Errand.leaks ∧
      ((es.filterMap Errand.closed?).map fun x => if x.2 = 0 then 0 else 1).sum + es.countP Errand.leaks =
        (es.filterMap Errand.closed?).length := by
  induction es with
  | nil => exact ⟨rfl, rfl⟩
  | cons e es ih =>
    cases e with
    | opens a =>
      rw [List.countP_cons_of_neg (by simp [Errand.leaks])]
      exact ih
    | closes a n =>
      obtain ⟨hleaks, hkept⟩ := ih
      have hcons : (Errand.closes a n :: es).filterMap Errand.closed? = (a, n) :: es.filterMap Errand.closed? :=
        rfl
      rw [leaks_closes, hcons, List.map_cons, List.map_cons, List.sum_cons, List.sum_cons, List.length_cons,
        hleaks, ← hkept]
      refine ⟨rfl, ?_⟩
      dsimp only
      split <;> omega

/-! ## Threads keep to what they hold -/

section Fits
variable {keeps : String → Prop} {known : String → Prop}

theorem check_start {a : Address} (ha : a ≠ 0) (f : ReleaseFn) :
    ((Registration.start a).releaseWith f).check = .ok f := by
  have hverify : verifyAddress a = .ok a := by
    rw [verifyAddress, bne_iff_ne.mpr ha]
    rfl
  simp only [Registration.check, Registration.releaseWith, Registration.start, hverify]

theorem fits_closes {a : Address} (hknown : known (handleName a)) (n : Nat) {p : List Deal}
    (hp : Program.Fits keeps known p) : Program.Fits keeps known ((Errand.closes a n).deals ++ p) := by
  induction n with
  | zero => exact ⟨hknown, hp⟩
  | succ n ih => exact ⟨hknown, .inl (by simp), ih⟩

theorem closeAll_fit (opened : List Address) (state : σ) (hknown : ∀ a ∈ opened, known (handleName a)) :
    Program.Fits keeps known (program (closeAll d opened state)) := by
  induction opened generalizing state with
  | nil => trivial
  | cons a rest ih =>
    rw [List.forall_mem_cons] at hknown
    exact fits_closes hknown.1 _ (ih _ hknown.2)

/-- A thread uses no handles but those that are open, and releases each only before its drop. -/
theorem errands_fit (hd : d.InRange) (addresses opened : List Address) (state : σ)
    (haddresses : ∀ a ∈ addresses, a ≠ 0) (hknown : ∀ a ∈ opened, known (handleName a)) :
    Program.Fits keeps known (program (errands d addresses opened state)) := by
  induction addresses generalizing opened state known with
  | nil => exact closeAll_fit opened state hknown
  | cons a rest ih =>
    obtain ⟨ha, hrest⟩ := List.forall_mem_cons.mp haddresses
    have hopened : ∀ x ∈ opened ++ [a], (handleName x = handleName a ∧ ∃ f : ReleaseFn,
        ((Registration.start a).releaseWith { listed := false }).check = .ok f) ∨ known (handleName x) := by
      intro x hx
      rcases List.mem_append.mp hx with hx | hx
      · exact .inr (hknown x hx)
      · obtain rfl := List.mem_singleton.mp hx
        exact .inl ⟨rfl, _, check_start ha _⟩
    simp only [errands]
    split
    · have hi := hd state (opened ++ [a]).length (by simp)
      have hperm := swapRemove_perm hi
      refine fits_closes (hopened _ (hperm.mem_iff.mp List.mem_cons_self)) _ (ih _ _ hrest fun x hx => ?_)
      exact hopened x (hperm.mem_iff.mp (List.mem_cons_of_mem _ hx))
    · exact ih _ _ hrest hopened

end Fits

/-! ## Errands that are tidy -/

/-- The variables of two handles differ, as what is written can be read again. -/
theorem handleName_injective : Function.Injective handleName := fun a b hab => by
  have hdigits : a.toNat.repr = b.toNat.repr := hab
  rw [Nat.repr_eq_ofList_toDigits, Nat.repr_eq_ofList_toDigits] at hdigits
  refine UInt64.toNat_inj.mp ?_
  rw [← Nat.ofDigitChars_ten_toDigits (n := a.toNat), String.ofList_injective hdigits,
    Nat.ofDigitChars_ten_toDigits]

/-- Errands that open addresses once each, none of them null, and close what they open, once. -/
structure Tidy (es : List Errand) : Prop where
  distinct : (es.filterMap Errand.opened?).Nodup
  nonzero : ∀ a ∈ es.filterMap Errand.opened?, a ≠ 0
  closed : ((es.filterMap Errand.closed?).map Prod.fst).Perm (es.filterMap Errand.opened?)

/-- The names that a program of errands gives. -/
theorem enrols_program (es : List Errand) :
    (program es).filterMap Deal.enrols? = (es.filterMap Errand.opened?).map handleName := by
  induction es with
  | nil => rfl
  | cons e es ih =>
    rw [program_cons, List.filterMap_append, ih]
    cases e with
    | opens a => rfl
    | closes a n =>
      rw [Errand.deals, List.filterMap_append, List.filterMap_replicate_of_none rfl]
      rfl

/-- Its callbacks have no commands. -/
theorem quiet_program (es : List Errand) : ∀ deal ∈ program es, deal.isQuiet = true := by
  intro deal hin
  obtain ⟨e, -, hdeal⟩ := List.mem_flatMap.mp hin
  cases e with
  | opens a =>
    rw [List.mem_singleton.mp hdeal]
    rfl
  | closes a n =>
    rcases List.mem_append.mp hdeal with hdeal | hdeal
    · rw [List.eq_of_mem_replicate hdeal]
      rfl
    · rw [List.mem_singleton.mp hdeal]
      rfl

/-- What a program registers. -/
theorem register_mem_program {es : List Errand} {name : String} {r : Registration Command} :
    .register name r ∈ program es ↔ ∃ a ∈ es.filterMap Errand.opened?, name = handleName a ∧
      r = (Registration.start a).releaseWith { listed := false } := by
  simp only [program, List.mem_flatMap, List.mem_filterMap]
  constructor
  · rintro ⟨e, he, hin⟩
    cases e with
    | opens a =>
      obtain ⟨rfl, rfl⟩ := Deal.register.inj (List.mem_singleton.mp hin)
      exact ⟨a, ⟨_, he, rfl⟩, rfl, rfl⟩
    | closes a n => simp [Errand.deals] at hin
  · rintro ⟨a, ⟨e, he, ha⟩, rfl, rfl⟩
    cases e with
    | opens a' =>
      cases ha
      exact ⟨_, he, List.mem_singleton_self _⟩
    | closes => cases ha

/-! ## How often handles are released and dropped -/

/-- Whether a command releases the handle in a variable. -/
def isRelease (name : String) : Command → Bool
  | .release name' _ => name' == name
  | _ => false

/-- Whether it gives up a share of it. -/
def isDrop (name : String) : Command → Bool
  | .drop name' => name' == name
  | _ => false

theorem countP_commands_cons (test : Command → Bool) (e : Errand) (es : List Errand) :
    (commands (e :: es)).countP test = e.commands.countP test + (commands es).countP test := by
  rw [commands, List.flatMap_cons, List.countP_append]
  rfl

/-- A handle is dropped as often as it is closed. -/
theorem countP_isDrop (es : List Errand) (name : String) :
    (commands es).countP (isDrop name) =
      ((es.filterMap Errand.closed?).map fun x => handleName x.1).count name := by
  induction es with
  | nil => rfl
  | cons e es ih =>
    rw [countP_commands_cons, ih]
    cases e with
    | opens a => exact (zero_add _).trans rfl
    | closes a n =>
      rw [Errand.commands, List.countP_append, List.countP_replicate]
      simp [isDrop, Errand.closed?, List.count_cons, Nat.add_comm]

/-- And it is released as often as is said when it is closed. -/
theorem countP_isRelease (es : List Errand) (name : String) :
    (commands es).countP (isRelease name) =
      ((es.filterMap Errand.closed?).map fun x => if handleName x.1 = name then x.2 else 0).sum := by
  induction es with
  | nil => rfl
  | cons e es ih =>
    rw [countP_commands_cons, ih]
    cases e with
    | opens a => exact (zero_add _).trans rfl
    | closes a n =>
      rw [Errand.commands, List.countP_append, List.countP_replicate]
      simp [isRelease, Errand.closed?]

section Blank
variable {s : Store} (hnames : s.names.handles = [])
include hnames

theorem place_blank (name : String) : s.place name = .new name := by
  rw [Store.place, hnames]
  rfl

/-- Where there are no handles yet, the deals about a new one are the commands with its name. -/
theorem countP_program (es : List Errand) (name : String) :
    ((program es : List Deal) : Multiset Deal).countP (Deal.drops s (.new name)) =
        (commands es).countP (isDrop name) ∧
      ((program es : List Deal) : Multiset Deal).countP (Deal.releases s (.new name)) =
        (commands es).countP (isRelease name) := by
  rw [commands_eq, List.countP_map, List.countP_map, Multiset.coe_countP, Multiset.coe_countP]
  constructor
  · refine List.countP_congr fun deal _ => ?_
    rw [decide_eq_true_iff]
    cases deal <;> simp [Deal.drops, Deal.command, isDrop, place_blank hnames]
  · refine List.countP_congr fun deal _ => ?_
    rw [decide_eq_true_iff]
    cases deal <;> simp [Deal.releases, Deal.command, isRelease, place_blank hnames]

end Blank

namespace Tidy
variable {es : List Errand} (ht : Tidy es) {a : Address} {n : Nat} (hin : (a, n) ∈ es.filterMap Errand.closed?)
include ht

theorem closed_nodup : ((es.filterMap Errand.closed?).map Prod.fst).Nodup :=
  ht.closed.nodup_iff.mpr ht.distinct

include hin

/-- The handle of an address that is closed is dropped once. -/
theorem countP_isDrop : (commands es).countP (isDrop (handleName a)) = 1 := by
  rw [Simulation.countP_isDrop, ← Function.comp_def handleName, ← List.map_map]
  refine List.count_eq_one_of_mem (ht.closed_nodup.map handleName_injective) (List.mem_map_of_mem ?_)
  exact List.mem_map.mpr ⟨_, hin, rfl⟩

/-- It is released as often as is said. -/
theorem countP_isRelease : (commands es).countP (isRelease (handleName a)) = n := by
  have hnodup := ht.closed_nodup
  rw [Simulation.countP_isRelease]
  generalize es.filterMap Errand.closed? = xs at hin hnodup
  simp only [handleName_injective.eq_iff]
  induction xs with
  | nil => cases hin
  | cons x xs ih =>
    obtain ⟨hnot, hnodup⟩ := List.nodup_cons.mp hnodup
    rw [List.map_cons, List.sum_cons]
    rcases List.mem_cons.mp hin with rfl | hin
    · have hzero : ∀ y ∈ xs, (if y.1 = a then y.2 else 0) = 0 := fun y hy =>
        if_neg fun heq => hnot (List.mem_map.mpr ⟨y, hy, heq⟩)
      rw [if_pos rfl, List.map_congr_left hzero]
      simp
    · have hne : x.1 ≠ a := fun heq => hnot (List.mem_map.mpr ⟨_, hin, heq.symm⟩)
      rw [if_neg hne, zero_add, ih hin hnodup]

end Tidy

end Simulation

end Reclaim

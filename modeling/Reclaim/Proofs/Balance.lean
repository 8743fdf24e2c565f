import Reclaim.Proofs.Life

/-!
# The balance of a life

What the life of a handle adds up to. The flag, the registry, the callbacks started and the claims
that won are tied together by sums that every step keeps; for a guard whose source only its own
handles reach, so are the holders of the handle, the items in the source and the leaks.

* `Life.on`, `Life.saw` : how often a spot is occupied, how often something has happened;
* `Life.Sound` : the sums for any guard; `Life.Sound.step`;
* `Life.Kept` : those for a plain source; `Life.Kept.step`.
-/

namespace Reclaim

/-- Whether a claim has won, if it is one. -/
def Mark.claim? : Mark → Option Bool
  | claimed _ won => some won
  | _ => none

namespace Life

/-- How often the spot is occupied. -/
def on (b : Life) (x : Spot) : Nat := b.spots.count x

/-- How often it has happened. -/
def saw (b : Life) (m : Mark) : Nat := b.trace.count m

/-- Until the handle is released nobody has tried to claim it; then somebody has won, and nobody
after that. -/
def FirstWins (b : Life) : Prop :=
  (b.released = 0 ∧ b.trace.filterMap Mark.claim? = []) ∨
  (b.released = 1 ∧ ∃ n, b.trace.filterMap Mark.claim? = true :: List.replicate n false)

/-- The sums that hold in the life of a handle of any guard. -/
structure Sound (g : GuardId) (id : HandleId) (b : Life) : Prop where
  /-- Its registration is somewhere, until the handle is in a variable. -/
  once : b.on (.numbered g id) + b.on (.tracked g id) + b.on (.counted id) + b.bound = 1
  /-- Before that nothing happens to it. -/
  fresh : b.bound = 0 → b.released = 0 ∧ b.pending = 0 ∧
    b.on (.asking id) + b.on (.winning id) + b.on (.won id) + b.on (.lost id) +
      b.on (.dropped id) + b.on (.queueing id) + b.on (.carried g id) = 0
  /-- The guard keeps track of it until it is released. -/
  listed : b.listed + b.on (.numbered g id) + b.released = 1
  users : b.users =
    b.on (.asking id) + b.on (.winning id) + b.on (.won id) + b.on (.lost id)
  /-- One claim wins. -/
  wins : b.saw (.claimed .release true) + b.saw (.claimed (.reclaim g) true) = b.released
  /-- No claim loses before that. -/
  losses : b.released = 0 →
    b.saw (.claimed .release false) = 0 ∧ b.saw (.claimed (.reclaim g) false) = 0
  /-- The call that won is under way or has said so. -/
  won : b.saw (.claimed .release true) =
    b.on (.winning id) + b.on (.won id) + b.saw (.returned true)
  lost : b.saw (.claimed .release false) = b.on (.lost id) + b.saw (.returned false)

/-- The sums that tie the callback to the claims: the sink may panic at the news that the handle was
not closed. -/
structure Heard (g : GuardId) (id : HandleId) (b : Life) : Prop where
  /-- Whoever claimed the handle starts its callback, unless the sink stops it. -/
  runs : b.on (.winning id) + b.on (.reporting g id) + b.on (.calling id) + b.runs +
    b.saw (.aborted g) = b.released
  /-- The worker counts every callback that it started. -/
  settled : b.on (.reporting g id) + b.on (.serving g id) + b.saw (.settled g false) +
    b.saw (.settled g true) + b.saw (.aborted g) = b.saw (.claimed (.reclaim g) true)

/-- The sums that hold when only the handles of a guard reach its source. -/
structure Kept (g : GuardId) (id : HandleId) (b : Life) : Prop where
  plain : b.exposed = false ∧ b.refuses = false
  /-- A handle is held, or dropped once. -/
  place : min (b.owners + b.users) 1 + b.on (.dropped id) + b.on (.queueing id) + b.saw .queued +
    b.saw .refused ≤ 1
  /-- An active handle is held or dropped. -/
  active : b.released = 0 → min (b.owners + b.users) 1 + b.on (.dropped id) +
    b.on (.queueing id) + b.saw .queued + b.saw .refused = 1
  /-- A handle that is not yet in a variable has not been dropped. -/
  undropped : b.bound = 0 → b.saw .queued + b.saw .refused = 0
  /-- What has been queued waits, or has been taken or thrown away. -/
  queued : b.saw .queued = b.pending + b.saw (.taken g) + b.saw (.thrown g)
  /-- What has been taken is claimed. -/
  taken : b.saw (.taken g) = b.on (.carried g id) + b.saw (.claimed (.reclaim g) true)
  found : b.saw (.claimed (.reclaim g) false) = 0
  /-- What has been handed back is offered to the sink. -/
  refused : b.saw .refused = b.on (.leaking id) + b.saw .leaked
  /-- A released handle has not been dropped before, or the worker has claimed it. -/
  released : b.released = 1 → b.on (.queueing id) + b.pending + b.on (.carried g id) +
    b.saw (.thrown g) + b.saw .refused = 0
  /-- Only an interrupted source throws away or hands back, and nothing waits in it. -/
  closed : b.closed ≤ 1 ∧ (b.closed = 0 → b.saw (.thrown g) + b.saw .refused = 0) ∧
    (b.closed = 1 → b.pending = 0)

/-- What a flow does to a spot. -/
theorem Flows.on {b : Life} {src sp dst : Multiset Spot} (flow : b.Flows src sp dst) (x : Spot) :
    sp.count x + src.count x = b.spots.count x + dst.count x := by
  rw [← Multiset.count_add, ← Multiset.count_add]
  exact congrArg (Multiset.count x) flow

@[simp] theorem count_ite (c : Prop) [Decidable c] (x y : Spot) :
    Multiset.count x (if c then {y} else 0) = if c ∧ x = y then 1 else 0 := by
  by_cases hc : c <;> simp [hc, Multiset.count_singleton]

section Step
variable {g : GuardId} {id : HandleId} {b a : Life}

theorem Step.once (hs : Step g id b a)
    (h : b.on (.numbered g id) + b.on (.tracked g id) + b.on (.counted id) + b.bound = 1) :
    a.on (.numbered g id) + a.on (.tracked g id) + a.on (.counted id) + a.bound = 1 := by
  simp only [on] at *
  cases hs
  all_goals
    rename_i flow
    have h₁ := flow.on (.numbered g id)
    have h₂ := flow.on (.tracked g id)
    have h₃ := flow.on (.counted id)
    simp [-Multiset.count_eq_zero] at h₁ h₂ h₃ ⊢
    omega

/-- Calls, drops and workers have to do with a handle only once it is in a variable. -/
theorem Step.fresh (hs : Step g id b a) (h : b.bound = 0 → b.released = 0 ∧ b.pending = 0 ∧
      b.on (.asking id) + b.on (.winning id) + b.on (.won id) + b.on (.lost id) +
        b.on (.dropped id) + b.on (.queueing id) + b.on (.carried g id) = 0) :
    a.bound = 0 → a.released = 0 ∧ a.pending = 0 ∧
      a.on (.asking id) + a.on (.winning id) + a.on (.won id) + a.on (.lost id) +
        a.on (.dropped id) + a.on (.queueing id) + a.on (.carried g id) = 0 := by
  simp only [on] at *
  cases hs
  all_goals
    rename_i flow
    have h₁ := flow.on (.asking id)
    have h₂ := flow.on (.winning id)
    have h₃ := flow.on (.won id)
    have h₄ := flow.on (.lost id)
    have h₅ := flow.on (.dropped id)
    have h₆ := flow.on (.queueing id)
    have h₇ := flow.on (.carried g id)
    simp at h₁ h₂ h₃ h₄ h₅ h₆ h₇
    try simp only [true_and]
    omega

/-- A handle is tracked by its guard exactly from the registry's insertion to its release. -/
theorem Step.listed (hs : Step g id b a)
    (hfresh : b.bound = 0 → b.on (.asking id) = 0 ∧ b.on (.carried g id) = 0)
    (honce : b.on (.numbered g id) + b.bound ≤ 1)
    (h : b.listed + b.on (.numbered g id) + b.released = 1) :
    a.listed + a.on (.numbered g id) + a.released = 1 := by
  simp only [on] at *
  cases hs
  all_goals
    rename_i flow
    have h₁ := flow.on (.numbered g id)
    have h₂ := flow.on (.asking id)
    have h₃ := flow.on (.carried g id)
    simp [-Multiset.count_eq_zero] at h₁ h₂ h₃ ⊢
    omega

theorem Step.users (hs : Step g id b a) (h : b.users =
      b.on (.asking id) + b.on (.winning id) + b.on (.won id) + b.on (.lost id)) :
    a.users = a.on (.asking id) + a.on (.winning id) + a.on (.won id) + a.on (.lost id) := by
  simp only [on] at *
  cases hs
  all_goals
    rename_i flow
    have h₁ := flow.on (.asking id)
    have h₂ := flow.on (.winning id)
    have h₃ := flow.on (.won id)
    have h₄ := flow.on (.lost id)
    simp [-Multiset.count_eq_zero] at h₁ h₂ h₃ h₄ ⊢
    omega

theorem Step.wins (hs : Step g id b a)
    (h : b.saw (.claimed .release true) + b.saw (.claimed (.reclaim g) true) = b.released) :
    a.saw (.claimed .release true) + a.saw (.claimed (.reclaim g) true) = a.released := by
  simp only [saw] at *
  cases hs <;> simp [List.count_replicate] <;> omega

theorem Step.losses (hs : Step g id b a)
    (hlisted : b.listed + b.on (.numbered g id) + b.released = 1)
    (hfresh : b.on (.numbered g id) ≠ 0 → b.on (.carried g id) = 0) (h : b.released = 0 →
      b.saw (.claimed .release false) = 0 ∧ b.saw (.claimed (.reclaim g) false) = 0) :
    a.released = 0 →
      a.saw (.claimed .release false) = 0 ∧ a.saw (.claimed (.reclaim g) false) = 0 := by
  simp only [on, saw] at *
  cases hs
  all_goals
    rename_i flow
    have h₁ := flow.on (.carried g id)
    simp [-Multiset.count_eq_zero] at h₁
    simp [List.count_replicate] <;> omega

theorem Step.won (hs : Step g id b a) (h : b.saw (.claimed .release true) =
      b.on (.winning id) + b.on (.won id) + b.saw (.returned true)) :
    a.saw (.claimed .release true) =
      a.on (.winning id) + a.on (.won id) + a.saw (.returned true) := by
  simp only [on, saw] at *
  cases hs
  all_goals
    rename_i flow
    have h₁ := flow.on (.winning id)
    have h₂ := flow.on (.won id)
    simp [-Multiset.count_eq_zero] at h₁ h₂
    simp [List.count_replicate]
    omega

theorem Step.lost (hs : Step g id b a)
    (h : b.saw (.claimed .release false) = b.on (.lost id) + b.saw (.returned false)) :
    a.saw (.claimed .release false) = a.on (.lost id) + a.saw (.returned false) := by
  simp only [on, saw] at *
  cases hs
  all_goals
    rename_i flow
    have h₁ := flow.on (.lost id)
    simp [-Multiset.count_eq_zero] at h₁
    simp [List.count_replicate]
    omega

theorem Sound.step (h : b.Sound g id) (hs : Step g id b a) : a.Sound g id where
  once := hs.once h.once
  fresh := hs.fresh h.fresh
  listed := by
    refine hs.listed (fun hb => ?_) ?_ h.listed
    · have := (h.fresh hb).2.2
      omega
    · have := h.once
      omega
  users := hs.users h.users
  wins := hs.wins h.wins
  losses := by
    refine hs.losses h.listed (fun hn => ?_) h.losses
    have := h.once
    have := (h.fresh (by omega)).2.2
    omega
  won := hs.won h.won
  lost := hs.lost h.lost

/-! ## Callbacks -/

theorem Step.heard_runs (hs : Step g id b a)
    (h : b.on (.winning id) + b.on (.reporting g id) + b.on (.calling id) + b.runs +
      b.saw (.aborted g) = b.released) :
    a.on (.winning id) + a.on (.reporting g id) + a.on (.calling id) + a.runs +
      a.saw (.aborted g) = a.released := by
  simp only [on, saw] at *
  cases hs
  all_goals
    rename_i flow
    have h₁ := flow.on (.winning id)
    have h₂ := flow.on (.reporting g id)
    have h₃ := flow.on (.calling id)
    simp [-Multiset.count_eq_zero] at h₁ h₂ h₃
    simp [-Multiset.count_eq_zero, List.count_replicate]
    omega

theorem Step.heard_settled (hs : Step g id b a)
    (h : b.on (.reporting g id) + b.on (.serving g id) + b.saw (.settled g false) +
      b.saw (.settled g true) + b.saw (.aborted g) = b.saw (.claimed (.reclaim g) true)) :
    a.on (.reporting g id) + a.on (.serving g id) + a.saw (.settled g false) +
      a.saw (.settled g true) + a.saw (.aborted g) = a.saw (.claimed (.reclaim g) true) := by
  simp only [on, saw] at *
  cases hs
  case settle failed flow =>
    have h₁ := flow.on (.reporting g id)
    have h₂ := flow.on (.serving g id)
    simp [-Multiset.count_eq_zero] at h₁ h₂
    cases failed <;> simp <;> omega
  all_goals
    rename_i flow
    have h₁ := flow.on (.reporting g id)
    have h₂ := flow.on (.serving g id)
    simp [-Multiset.count_eq_zero] at h₁ h₂
    simp [List.count_replicate]
    omega

theorem Heard.step (h : b.Heard g id) (hs : Step g id b a) : a.Heard g id :=
  ⟨hs.heard_runs h.runs, hs.heard_settled h.settled⟩

/-! ## Plain sources -/

theorem Step.plain (hs : Step g id b a) (h : b.exposed = false ∧ b.refuses = false) :
    a.exposed = false ∧ a.refuses = false := by
  cases hs <;> exact h

/-- Holders, drops under way, items and leaks make one together; a released handle may be done
with its drop. -/
theorem Step.place (hs : Step g id b a) (husers : b.on (.won id) + b.on (.lost id) ≤ b.users)
    (h : min (b.owners + b.users) 1 + b.on (.dropped id) + b.on (.queueing id) + b.saw .queued +
      b.saw .refused ≤ 1) :
    min (a.owners + a.users) 1 + a.on (.dropped id) + a.on (.queueing id) + a.saw .queued +
      a.saw .refused ≤ 1 := by
  simp only [on, saw] at *
  cases hs
  case giveUp | win | yield =>
    rename_i flow
    have h₁ := flow.on (.dropped id)
    have h₂ := flow.on (.queueing id)
    have h₃ := flow.on (.won id)
    have h₄ := flow.on (.lost id)
    simp [-Multiset.count_eq_zero] at h₁ h₂ h₃ h₄
    simp
    split at h₁ <;> omega
  all_goals
    rename_i flow
    have h₁ := flow.on (.dropped id)
    have h₂ := flow.on (.queueing id)
    simp [-Multiset.count_eq_zero] at h₁ h₂
    simp [List.count_replicate]
    omega

theorem Step.active (hs : Step g id b a) (husers : b.on (.won id) + b.on (.lost id) ≤ b.users)
    (h : b.released = 0 → min (b.owners + b.users) 1 + b.on (.dropped id) +
      b.on (.queueing id) + b.saw .queued + b.saw .refused = 1) :
    a.released = 0 → min (a.owners + a.users) 1 + a.on (.dropped id) + a.on (.queueing id) +
      a.saw .queued + a.saw .refused = 1 := by
  simp only [on, saw] at *
  cases hs
  case giveUp | win | yield =>
    rename_i flow
    have h₁ := flow.on (.dropped id)
    have h₂ := flow.on (.queueing id)
    have h₃ := flow.on (.won id)
    have h₄ := flow.on (.lost id)
    simp [-Multiset.count_eq_zero] at h₁ h₂ h₃ h₄
    simp
    split at h₁ <;> omega
  all_goals
    rename_i flow
    have h₁ := flow.on (.dropped id)
    have h₂ := flow.on (.queueing id)
    simp [-Multiset.count_eq_zero] at h₁ h₂
    simp [List.count_replicate] <;> omega

theorem Step.undropped (hs : Step g id b a) (hfresh : b.bound = 0 → b.on (.queueing id) = 0)
    (h : b.bound = 0 → b.saw .queued + b.saw .refused = 0) :
    a.bound = 0 → a.saw .queued + a.saw .refused = 0 := by
  simp only [on, saw] at *
  cases hs
  case queue | handBack =>
    rename_i flow
    have h₁ := flow.on (.queueing id)
    simp [-Multiset.count_eq_zero] at h₁
    simp
    omega
  all_goals simp [List.count_replicate, -Nat.add_eq_zero_iff] <;> omega

theorem Step.queued (hs : Step g id b a) (plain : b.exposed = false)
    (h : b.saw .queued = b.pending + b.saw (.taken g) + b.saw (.thrown g)) :
    a.saw .queued = a.pending + a.saw (.taken g) + a.saw (.thrown g) := by
  simp only [saw] at *
  cases hs
  case inject exposed _ _ _ => simp [plain] at exposed
  all_goals
    simp [List.count_replicate]
    omega

theorem Step.taken (hs : Step g id b a)
    (hfound : b.on (.carried g id) ≠ 0 → b.listed ≠ 0 ∧ b.released = 0)
    (h : b.saw (.taken g) = b.on (.carried g id) + b.saw (.claimed (.reclaim g) true)) :
    a.saw (.taken g) = a.on (.carried g id) + a.saw (.claimed (.reclaim g) true) := by
  simp only [on, saw] at *
  cases hs
  all_goals
    rename_i flow
    have h₁ := flow.on (.carried g id)
    simp [-Multiset.count_eq_zero] at h₁
    simp [List.count_replicate]
    omega

theorem Step.found (hs : Step g id b a)
    (hfound : b.on (.carried g id) ≠ 0 → b.listed ≠ 0 ∧ b.released = 0)
    (h : b.saw (.claimed (.reclaim g) false) = 0) : a.saw (.claimed (.reclaim g) false) = 0 := by
  simp only [on, saw] at *
  cases hs
  case discard missing flow =>
    have h₁ := flow.on (.carried g id)
    simp [-Multiset.count_eq_zero] at h₁
    omega
  all_goals simpa [List.count_replicate] using h

theorem Step.refused (hs : Step g id b a)
    (h : b.saw .refused = b.on (.leaking id) + b.saw .leaked) :
    a.saw .refused = a.on (.leaking id) + a.saw .leaked := by
  simp only [on, saw] at *
  cases hs
  all_goals
    rename_i flow
    have h₁ := flow.on (.leaking id)
    simp [-Multiset.count_eq_zero] at h₁
    simp [List.count_replicate]
    omega

/-- A claim leaves nothing of a drop behind: a call claims only what is held, and a worker only what
it carries. -/
theorem Step.released (hs : Step g id b a) (plain : b.exposed = false)
    (hasking : b.on (.asking id) ≠ 0 → b.on (.queueing id) + b.pending + b.on (.carried g id) +
      b.saw (.thrown g) + b.saw .refused = 0)
    (hcarried : b.on (.carried g id) ≠ 0 → b.on (.queueing id) + b.pending + b.on (.carried g id) +
      b.saw (.thrown g) + b.saw .refused = 1)
    (h : b.released = 1 → b.on (.queueing id) + b.pending + b.on (.carried g id) +
      b.saw (.thrown g) + b.saw .refused = 0) :
    a.released = 1 → a.on (.queueing id) + a.pending + a.on (.carried g id) +
      a.saw (.thrown g) + a.saw .refused = 0 := by
  simp only [on, saw] at *
  cases hs
  case inject exposed _ _ _ => simp [plain] at exposed
  all_goals
    rename_i flow
    have h₁ := flow.on (.queueing id)
    have h₂ := flow.on (.carried g id)
    have h₃ := flow.on (.asking id)
    simp [-Multiset.count_eq_zero] at h₁ h₂ h₃
    simp only [List.count_append, List.count_singleton, List.count_replicate, beq_iff_eq, reduceCtorEq,
      if_false, if_true]
    omega

theorem Step.closed (hs : Step g id b a) (plain : b.exposed = false ∧ b.refuses = false)
    (h : b.closed ≤ 1 ∧ (b.closed = 0 → b.saw (.thrown g) + b.saw .refused = 0) ∧
      (b.closed = 1 → b.pending = 0)) :
    a.closed ≤ 1 ∧ (a.closed = 0 → a.saw (.thrown g) + a.saw .refused = 0) ∧
      (a.closed = 1 → a.pending = 0) := by
  simp only [saw] at *
  cases hs
  case inject exposed _ _ _ => simp [plain] at exposed
  case handBack closed _ =>
    simp only [plain, Bool.false_eq_true, or_false] at closed
    simp [closed]
    omega
  all_goals simp [List.count_replicate, -Nat.add_eq_zero_iff] <;> omega

/-- A worker finds what it carries. -/
theorem Kept.carried (hk : b.Kept g id) (h : b.Sound g id) (hc : b.on (.carried g id) ≠ 0) :
    b.listed ≠ 0 ∧ b.released = 0 := by
  have := h.listed
  have := h.once
  have hf := h.fresh
  have hr := hk.released
  omega

theorem Kept.step (hk : b.Kept g id) (h : b.Sound g id) (hs : Step g id b a) : a.Kept g id := by
  have husers : b.on (.won id) + b.on (.lost id) ≤ b.users := by
    have := h.users
    omega
  have hplace := hk.place
  have hqueued := hk.queued
  have htaken := hk.taken
  exact
    { plain := hs.plain hk.plain
      place := hs.place husers hk.place
      active := hs.active husers hk.active
      undropped := by
        refine hs.undropped (fun hb => ?_) hk.undropped
        have := (h.fresh hb).2.2
        omega
      queued := hs.queued hk.plain.1 hk.queued
      taken := hs.taken (hk.carried h) hk.taken
      found := hs.found (hk.carried h) hk.found
      refused := hs.refused hk.refused
      released := by
        refine hs.released hk.plain.1 (fun hasking => ?_) (fun hcarried => ?_) hk.released
        · have := h.users
          omega
        · have := h.wins
          have := (hk.carried h hcarried).2
          omega
      closed := hs.closed hk.plain hk.closed }

/-! ## The order of claims -/

/-- A worker that claims in vain finds the handle released. -/
theorem Sound.missing (h : b.Sound g id) (hc : b.on (.carried g id) ≠ 0)
    (hm : b.listed ≠ 0 → b.released = 1) : b.released = 1 := by
  have := h.listed
  have := h.once
  have := h.fresh
  omega

/-- The first claim wins and every later one is in vain. -/
theorem Step.claims (hs : Step g id b a) (h : b.Sound g id) (hb : b.FirstWins) : a.FirstWins := by
  have hvain : ∀ m : Mark, m.claim? = some false → b.released = 1 →
      { b with trace := b.trace ++ [m] }.FirstWins := by
    intro m hm hr
    rcases hb with ⟨h0, -⟩ | ⟨-, n, hn⟩
    · omega
    · refine Or.inr ⟨hr, n + 1, ?_⟩
      simp [List.filterMap_append, hn, hm, List.replicate_succ']
  have hwon : ∀ m : Mark, m.claim? = some true → b.released = 0 →
      { b with released := 1, trace := b.trace ++ [m] }.FirstWins := by
    intro m hm hr
    rcases hb with ⟨-, hn⟩ | ⟨h1, -⟩
    · refine Or.inr ⟨rfl, 0, ?_⟩
      simp [List.filterMap_append, hn, hm]
    · omega
  have hother : ∀ ms : List Mark, ms.filterMap Mark.claim? = [] →
      { b with trace := b.trace ++ ms }.FirstWins := by
    intro ms hms
    simpa [FirstWins, List.filterMap_append, hms] using hb
  cases hs with
  | track | register | bind | share | giveUp | use | prepare | call | miss | done | report
  | inject => exact hb
  | claim active => exact hwon _ rfl active
  | reclaim active => exact hwon _ rfl active
  | lose released => exact hvain _ rfl released
  | discard missing flow =>
    refine hvain _ rfl (h.missing ?_ missing)
    have h₁ := flow.on (.carried g id)
    simp [-Multiset.count_eq_zero] at h₁
    simp only [on]
    omega
  | win | yield | queue | handBack | leak | take | abort | settle => exact hother _ rfl
  | interrupt => exact hother _ (by simp [List.filterMap_replicate, Mark.claim?])

end Step

end Life

end Reclaim

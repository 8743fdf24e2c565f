import Reclaim.Proofs.Sites

/-!
# Stores of two runs, one of them without some calls to flush

A script is pruned of calls to flush; so are the bodies of the callbacks that it registers. The pruned
process has the same handles, guards and runs of callbacks, under the same numbers; only its cells for
answers are fewer. A `Bond` says which cells correspond, and what else two stores have to agree on.

* `Pruned`, `Callback.Pruned`, `Registration.Pruned`, `Command.Pruned` : scripts without some calls;
* `Answers` : what is left of the answers of a script;
* `Bond`, `Bond.Grows` : what corresponds, and that it stays so;
* `Abridged`, `Source.Thinned`, `Guard.Thinned`, `Entry.Thinned`, `Call.Thinned`, `Store.Thinned` : stores
  without the requests that were not made;
* `Store.Thinned.retire`, `Store.Thinned.enqueue` and their kin : both stores after the same action.
-/

namespace Reclaim

/-! ## Scripts -/

/-- What becomes of a command. -/
inductive Lot where
  /-- A call to flush, left out. -/
  | cut
  /-- The answer stays as it is. -/
  | kept
  /-- A question that shows what a worker is doing, or how much waits for it. -/
  | shown
deriving DecidableEq, Repr

/-- What becomes of a command that is not left out. -/
def Command.lot : Command → Lot
  | .ask (.workerState _) => .shown
  | .ask (.debugGuard _) => .shown
  | _ => .kept

/-- Neither a registration nor the start of a guard. -/
def Command.isSimple : Command → Bool
  | .register .. | .acquire .. | .startGuard .. => false
  | _ => true

mutual

/-- The second script is the first without some of its calls to flush guards over queues; the guards
with the given names are such guards. -/
inductive Pruned (queued : String → Prop) : List Lot → List Command → List Command → Prop where
  | nil : Pruned queued [] [] []
  | cut {guard : String} (patience : Patience) (gate : GateUse) {ls : List Lot} {cs cs' : List Command} :
      queued guard → Pruned queued ls cs cs' →
        Pruned queued (.cut :: ls) (.flush guard patience gate :: cs) cs'
  | kept {c c' : Command} {ls : List Lot} {cs cs' : List Command} :
      Command.Pruned queued c c' → Pruned queued ls cs cs' →
        Pruned queued (c.lot :: ls) (c :: cs) (c' :: cs')

/-- The second callback runs a pruned script. -/
inductive Callback.Pruned (queued : String → Prop) : List Lot → ReleaseFn → ReleaseFn → Prop where
  | bare (probe : Option Nat) (listed : Bool) (panic : Option Panic) :
      Callback.Pruned queued [] ⟨probe, listed, none, panic⟩ ⟨probe, listed, none, panic⟩
  | body (probe : Option Nat) (listed : Bool) (panic : Option Panic) {ls : List Lot}
      {cs cs' : List Command} : Pruned queued ls cs cs' →
        Callback.Pruned queued ls ⟨probe, listed, some cs, panic⟩ ⟨probe, listed, some cs', panic⟩

/-- The second registration has a pruned callback, if any. -/
inductive Registration.Pruned (queued : String → Prop) :
    Registration Command → Registration Command → Prop where
  | bare (address : Address) (label : Option String) :
      Registration.Pruned queued ⟨address, label, none⟩ ⟨address, label, none⟩
  | callback (address : Address) (label : Option String) {ls : List Lot} {f f' : ReleaseFn} :
      Callback.Pruned queued ls f f' →
        Registration.Pruned queued ⟨address, label, some f⟩ ⟨address, label, some f'⟩

/-- The second command is the first, with a pruned callback if it registers one. A name of a guard over
a queue is for such guards only. -/
inductive Command.Pruned (queued : String → Prop) : Command → Command → Prop where
  | register (target : Target) (handle : String) {r r' : Registration Command} :
      Registration.Pruned queued r r' →
        Command.Pruned queued (.register target handle r) (.register target handle r')
  | acquire (guard handle : String) {r r' : Registration Command} :
      Registration.Pruned queued r r' →
        Command.Pruned queued (.acquire guard handle r) (.acquire guard handle r')
  | startGuard {guard : String} (setup : Setup) {kind : SourceKind} (panicsAt : Option Nat) :
      (queued guard → kind = .plain) →
        Command.Pruned queued (.startGuard guard setup kind panicsAt) (.startGuard guard setup kind panicsAt)
  | simple {c : Command} : c.isSimple = true → Command.Pruned queued c c

end

/-- Nothing else of a callback is pruned. -/
theorem Callback.Pruned.alike {queued : String → Prop} {ls : List Lot} {f f' : ReleaseFn}
    (h : Callback.Pruned queued ls f f') :
    f'.probe = f.probe ∧ f'.listed = f.listed ∧ f'.panic = f.panic := by
  cases h <;> exact ⟨rfl, rfl, rfl⟩

theorem Callback.Pruned.body_cases {queued : String → Prop} {ls : List Lot} {f f' : ReleaseFn}
    (h : Callback.Pruned queued ls f f') : (f.body = none ∧ f'.body = none) ∨
      ∃ cs cs', f.body = some cs ∧ f'.body = some cs' ∧ Reclaim.Pruned queued ls cs cs' := by
  cases h with
  | bare => exact .inl ⟨rfl, rfl⟩
  | body _ _ _ hp => exact .inr ⟨_, _, rfl, rfl, hp⟩

/-- What is shown of a worker and of what waits for it, while it may have requests before it that were
not made in the other run. -/
inductive Reply.Shown : Reply → Reply → Prop where
  | same (r : Reply) : Reply.Shown r r
  | state : Reply.Shown (.text WorkerState.processing.name) (.text WorkerState.waiting.name)
  | debug {x x' : Guard} : x'.registry = x.registry → x'.stats = x.stats →
      x'.source.pending ≤ x.source.pending →
      (x'.state = x.state ∨ x.state = .processing ∧ x'.state = .waiting) →
        Reply.Shown (.text x.debug) (.text x'.debug)

/-- What is left of the answers of a script. -/
inductive Answers : List Lot → List Reply → List Reply → Prop where
  | nil : Answers [] [] []
  | cut (r : Reply) {ls : List Lot} {rs rs' : List Reply} :
      Answers ls rs rs' → Answers (.cut :: ls) (r :: rs) rs'
  | kept (r : Reply) {ls : List Lot} {rs rs' : List Reply} :
      Answers ls rs rs' → Answers (.kept :: ls) (r :: rs) (r :: rs')
  | shown {r r' : Reply} {ls : List Lot} {rs rs' : List Reply} :
      r.Shown r' → Answers ls rs rs' → Answers (.shown :: ls) (r :: rs) (r' :: rs')

theorem Answers.append {ls ms : List Lot} {rs rs' qs qs' : List Reply} (h : Answers ls rs rs')
    (h' : Answers ms qs qs') : Answers (ls ++ ms) (rs ++ qs) (rs' ++ qs') := by
  induction h with
  | nil => exact h'
  | cut r _ ih => exact ih.cut r
  | kept r _ ih => exact ih.kept r
  | shown hr _ ih => exact ih.shown hr

/-- When nothing is shown of a worker, the answers are those that are kept. -/
theorem Answers.eq_kept {ls : List Lot} {rs rs' : List Reply} (h : Answers ls rs rs') (hls : .shown ∉ ls) :
    rs' = ((ls.zip rs).filter fun p => p.1 = .kept).map Prod.snd := by
  induction h with
  | nil => rfl
  | cut r _ ih => simpa using ih fun hin => hls (List.mem_cons_of_mem _ hin)
  | kept r _ ih => simpa using ih fun hin => hls (List.mem_cons_of_mem _ hin)
  | shown => exact absurd List.mem_cons_self hls

/-! ## What corresponds -/

/-- How the worker of a guard stands to its counterpart. -/
inductive Post where
  /-- Both are at the same point. -/
  | level
  /-- Both wait within their calls for an item. -/
  | idle
  /-- It is at a request that was not made in the other run, where the worker still waits. -/
  | late
deriving DecidableEq, Repr

/-- What each of the two workers is said to be doing; one that is late has last taken a request that was not
made in the other run. -/
def Post.Holds (acks : Nat → Option (Option Nat)) (queue : Bool) (delivered : List Item)
    (state state' : WorkerState) : Post → Prop
  | level => state' = state
  | idle => state = .waiting ∧ state' = .waiting
  | late => queue = true ∧ state ≠ .stopped ∧ state' = .waiting ∧
      ∃ k rest, acks k = some none ∧ delivered = .flush k :: rest

theorem Post.Holds.mono {acks acks' : Nat → Option (Option Nat)} {queue : Bool} {delivered : List Item}
    {state state' : WorkerState} {p : Post} (h : p.Holds acks queue delivered state state')
    (hg : ∀ {k v}, acks k = some v → acks' k = some v) : p.Holds acks' queue delivered state state' := by
  cases p with
  | level => exact h
  | idle => exact h
  | late =>
    obtain ⟨hq, hne, hw, k, rest, hk, hd⟩ := h
    exact ⟨hq, hne, hw, k, rest, hg hk, hd⟩

/-- What has been taken matters of a worker that is late only. -/
theorem Post.Holds.delivered {acks : Nat → Option (Option Nat)} {queue : Bool} {ds ds' : List Item}
    {state state' : WorkerState} {p : Post} (h : p.Holds acks queue ds state state')
    (hd : p = .late → ds' = ds) : p.Holds acks queue ds' state state' := by
  cases p with
  | level => exact h
  | idle => exact h
  | late =>
    rw [hd rfl]
    exact h

/-- What corresponds in two runs. -/
structure Bond where
  /-- The names that are for guards over queues. -/
  queued : String → Prop
  /-- The cell that corresponds to a cell, unless it is that of a request that was left out. -/
  acks : Nat → Option (Option Nat) := fun _ => none
  /-- The thread of a guard's worker, and whether the guard is over a queue. -/
  staff : GuardId → Option (ThreadId × Bool) := fun _ => none
  post : GuardId → Post := fun _ => .level
  /-- What becomes of the commands of the callback behind a handle. -/
  bodies : HandleId → Option (List Lot) := fun _ => none
  /-- The handle that a run of a callback is about. -/
  runs : Nat → Option HandleId := fun _ => none
  /-- What becomes of the commands of a thread's script. -/
  scripts : ThreadId → Option (List Lot) := fun _ => none

namespace Bond

/-- What corresponds stays so. -/
structure Grows (b b' : Bond) : Prop where
  queued : b'.queued = b.queued
  acks : ∀ {k v}, b.acks k = some v → b'.acks k = some v
  staff : ∀ {g v}, b.staff g = some v → b'.staff g = some v
  bodies : ∀ {id v}, b.bodies id = some v → b'.bodies id = some v
  runs : ∀ {i v}, b.runs i = some v → b'.runs i = some v
  scripts : ∀ {t v}, b.scripts t = some v → b'.scripts t = some v

theorem Grows.refl (b : Bond) : b.Grows b := ⟨rfl, id, id, id, id, id⟩

theorem Grows.trans {b b' b'' : Bond} (h : b.Grows b') (h' : b'.Grows b'') : b.Grows b'' :=
  ⟨h'.queued.trans h.queued, fun hv => h'.acks (h.acks hv), fun hv => h'.staff (h.staff hv),
    fun hv => h'.bodies (h.bodies hv), fun hv => h'.runs (h.runs hv), fun hv => h'.scripts (h.scripts hv)⟩

end Bond

/-! ## Pairs of arrays -/

/-- Both are there, or neither is. -/
inductive Both {α β : Type} (R : α → β → Prop) (fresh : Prop) : Option α → Option β → Prop where
  | some {a : α} {b : β} : R a b → Both R fresh (some a) (some b)
  | none : fresh → Both R fresh none none

/-- Two arrays, related place by place; the places beyond them are not used yet. -/
def Paired {α β : Type} (R : Nat → α → β → Prop) (fresh : Nat → Prop) (xs : Array α) (ys : Array β) : Prop :=
  ∀ i, Both (R i) (fresh i) xs[i]? ys[i]?

theorem Both.imp {α β : Type} {R R' : α → β → Prop} {fresh fresh' : Prop} {x : Option α} {y : Option β}
    (h : Both R fresh x y) (hR : ∀ a b, R a b → R' a b) (hf : fresh → fresh') : Both R' fresh' x y := by
  cases h with
  | some h => exact .some (hR _ _ h)
  | none h => exact .none (hf h)

namespace Paired
variable {α β : Type} {R R' : Nat → α → β → Prop} {fresh fresh' : Nat → Prop} {xs : Array α} {ys : Array β}

theorem size_eq (h : Paired R fresh xs ys) : ys.size = xs.size := by
  refine Nat.le_antisymm (Nat.le_of_not_lt fun hlt => ?_) (Nat.le_of_not_lt fun hlt => ?_)
  · have hi := h xs.size
    rw [Array.getElem?_eq_none (Nat.le_refl _), Array.getElem?_eq_getElem hlt] at hi
    cases hi
  · have hi := h ys.size
    rw [Array.getElem?_eq_none (Nat.le_refl ys.size), Array.getElem?_eq_getElem hlt] at hi
    cases hi

theorem fresh_of_le (h : Paired R fresh xs ys) {i : Nat} (hi : xs.size ≤ i) : fresh i := by
  have hb := h i
  rw [Array.getElem?_eq_none hi] at hb
  generalize ys[i]? = y at hb
  cases hb with
  | none hf => exact hf

theorem imp (h : Paired R fresh xs ys) (hR : ∀ i x y, xs[i]? = some x → R i x y → R' i x y)
    (hf : ∀ i, xs.size ≤ i → fresh i → fresh' i) : Paired R' fresh' xs ys := fun i => by
  have hb := h i
  generalize hx : xs[i]? = x at hb
  generalize ys[i]? = y at hb
  cases hb with
  | some h => exact .some (hR i _ _ hx h)
  | none h => exact .none (hf i (Array.getElem?_eq_none_iff.mp hx) h)

/-- One place changes on both sides. -/
theorem modify (h : Paired R fresh xs ys) (j : Nat) {f : α → α} {f' : β → β}
    (hR : ∀ x y, xs[j]? = some x → R j x y → R' j (f x) (f' y))
    (hother : ∀ i x y, i ≠ j → R i x y → R' i x y) :
    Paired R' fresh (xs.modify j f) (ys.modify j f') := fun i => by
  rw [Array.getElem?_modify, Array.getElem?_modify]
  have hb := h i
  by_cases hij : j = i
  · subst hij
    rw [if_pos rfl, if_pos rfl]
    generalize hx : xs[j]? = x at hb
    generalize ys[j]? = y at hb
    cases hb with
    | some h => exact .some (hR _ _ hx h)
    | none h => exact .none h
  · rw [if_neg hij, if_neg hij]
    exact hb.imp (fun x y => hother i x y (Ne.symm hij)) id

/-- One place changes on one side. -/
theorem modify_left (h : Paired R fresh xs ys) (j : Nat) {f : α → α}
    (hR : ∀ x y, xs[j]? = some x → ys[j]? = some y → R j x y → R' j (f x) y)
    (hother : ∀ i x y, i ≠ j → R i x y → R' i x y) : Paired R' fresh (xs.modify j f) ys := fun i => by
  rw [Array.getElem?_modify]
  have hb := h i
  by_cases hij : j = i
  · subst hij
    rw [if_pos rfl]
    generalize hx : xs[j]? = x at hb
    generalize hy : ys[j]? = y at hb
    cases hb with
    | some h => exact .some (hR _ _ hx hy h)
    | none h => exact .none h
  · rw [if_neg hij]
    exact hb.imp (fun x y => hother i x y (Ne.symm hij)) id

/-- One place more. -/
theorem push (h : Paired R fresh xs ys) {x : α} {y : β} (hnew : R' xs.size x y)
    (hR : ∀ i x y, i < xs.size → R i x y → R' i x y) (hf : ∀ i, xs.size < i → fresh i → fresh' i) :
    Paired R' fresh' (xs.push x) (ys.push y) := fun i => by
  have hb := h i
  rw [Array.getElem?_push, Array.getElem?_push, h.size_eq]
  by_cases hi : i = xs.size
  · rw [if_pos hi, if_pos hi, hi]
    exact .some hnew
  · rw [if_neg hi, if_neg hi]
    generalize hx : xs[i]? = x at hb
    generalize ys[i]? = y at hb
    cases hb with
    | some h => exact .some (hR i _ _ (Array.getElem?_eq_some_iff.mp hx).1 h)
    | none h =>
      have hle := Array.getElem?_eq_none_iff.mp hx
      exact .none (hf i (Nat.lt_of_le_of_ne hle (Ne.symm hi)) h)

end Paired

/-! ## Sources -/

/-- The second list of items is the first without the requests that were not made. -/
inductive Abridged (acks : Nat → Option (Option Nat)) : List Item → List Item → Prop where
  | nil : Abridged acks [] []
  | reclaim (id : HandleId) {is is' : List Item} :
      Abridged acks is is' → Abridged acks (.reclaim id :: is) (.reclaim id :: is')
  | kept {k k' : Nat} {is is' : List Item} :
      acks k = some (some k') → Abridged acks is is' → Abridged acks (.flush k :: is) (.flush k' :: is')
  | cut {k : Nat} {is is' : List Item} :
      acks k = some none → Abridged acks is is' → Abridged acks (.flush k :: is) is'

/-- The second item corresponds to the first. -/
inductive Item.Kept (acks : Nat → Option (Option Nat)) : Item → Item → Prop where
  | reclaim (id : HandleId) : Item.Kept acks (.reclaim id) (.reclaim id)
  | flush {k k' : Nat} : acks k = some (some k') → Item.Kept acks (.flush k) (.flush k')

namespace Abridged
variable {acks acks' : Nat → Option (Option Nat)} {is is' js js' : List Item}

theorem mono (h : Abridged acks is is') (hg : ∀ {k v}, acks k = some v → acks' k = some v) :
    Abridged acks' is is' := by
  induction h with
  | nil => exact .nil
  | reclaim id _ ih => exact ih.reclaim id
  | kept hk _ ih => exact .kept (hg hk) ih
  | cut hk _ ih => exact .cut (hg hk) ih

theorem append (h : Abridged acks is is') (h' : Abridged acks js js') :
    Abridged acks (is ++ js) (is' ++ js') := by
  induction h with
  | nil => exact h'
  | reclaim id _ ih => exact ih.reclaim id
  | kept hk _ ih => exact .kept hk ih
  | cut hk _ ih => exact .cut hk ih

theorem length_le (h : Abridged acks is is') : is'.length ≤ is.length := by
  induction h with
  | nil => exact Nat.le_refl _
  | reclaim id _ ih => exact Nat.succ_le_succ ih
  | kept _ _ ih => exact Nat.succ_le_succ ih
  | cut _ _ ih => exact Nat.le_succ_of_le ih

theorem cons_kept {i i' : Item} (hi : i.Kept acks i') (h : Abridged acks is is') :
    Abridged acks (i :: is) (i' :: is') := by
  cases hi with
  | reclaim id => exact h.reclaim id
  | flush hk => exact .kept hk h

end Abridged

/-- The second list of requests is the first without those that were not made. -/
inductive Spared (acks : Nat → Option (Option Nat)) : List Nat → List Nat → Prop where
  | nil : Spared acks [] []
  | kept {k k' : Nat} {ks ks' : List Nat} :
      acks k = some (some k') → Spared acks ks ks' → Spared acks (k :: ks) (k' :: ks')
  | cut {k : Nat} {ks ks' : List Nat} : acks k = some none → Spared acks ks ks' → Spared acks (k :: ks) ks'

theorem Spared.mono {acks acks' : Nat → Option (Option Nat)} {ks ks' : List Nat} (h : Spared acks ks ks')
    (hg : ∀ {k v}, acks k = some v → acks' k = some v) : Spared acks' ks ks' := by
  induction h with
  | nil => exact .nil
  | kept hk _ ih => exact .kept (hg hk) ih
  | cut hk _ ih => exact .cut (hg hk) ih

/-- The requests among the items. -/
theorem Abridged.requests {acks : Nat → Option (Option Nat)} {is is' : List Item} (h : Abridged acks is is') :
    Spared acks (is.filterMap Item.ack?) (is'.filterMap Item.ack?) := by
  induction h with
  | nil => exact .nil
  | reclaim id _ ih => exact ih
  | kept hk _ ih => exact .kept hk ih
  | cut hk _ ih => exact .cut hk ih

theorem Item.Kept.mono {acks acks' : Nat → Option (Option Nat)} {i i' : Item} (h : i.Kept acks i')
    (hg : ∀ {k v}, acks k = some v → acks' k = some v) : i.Kept acks' i' := by
  cases h with
  | reclaim id => exact .reclaim id
  | flush hk => exact .flush (hg hk)

/-! ### Looking for an item -/

namespace Source
variable {x : Source} {i : Item} {rest : List Item}

/-- The source without the item at its front. -/
def behind (x : Source) (rest : List Item) : Source :=
  { x with queue := { x.queue with items := rest }, gate := x.gate.map (· - 1) }

theorem poll_of_interrupted (h : x.isInterrupted = true) : x.poll = (x, .interrupted) := by
  have hi : x.queue.interrupted = true := h
  simp [poll, Queue.next, hi]

theorem poll_of_item (hint : x.isInterrupted = false) (hitems : x.queue.items = i :: rest)
    (hopen : x.isOpen = true) (hkept : x.swallowsFlushes = false ∨ ∃ id, i = .reclaim id) :
    x.poll = ({ x.behind rest with delivered := i :: x.delivered }, .item i) := by
  have hi : x.queue.interrupted = false := hint
  rcases hkept with hno | ⟨id, rfl⟩
  · simp [poll, behind, Queue.next, hi, hitems, hopen, hno]
  · cases hw : x.swallowsFlushes <;> simp [poll, behind, Queue.next, hi, hitems, hopen, hw]

theorem poll_of_swallowed {k : Nat} (hint : x.isInterrupted = false) (hitems : x.queue.items = .flush k :: rest)
    (hopen : x.isOpen = true) (hswallows : x.swallowsFlushes = true) :
    x.poll = (x.behind rest, .swallowed k) := by
  have hi : x.queue.interrupted = false := hint
  simp [poll, behind, Queue.next, hi, hitems, hopen, hswallows]

theorem isReady_of_poll (h : x.poll.2 ≠ .wait) : x.isReady = true := by
  by_contra hno
  simp only [isReady, isInterrupted, pending, Queue.pending, Bool.not_eq_true, Bool.or_eq_false_iff,
    Bool.and_eq_false_iff] at hno
  obtain ⟨hint, hempty | hclosed⟩ := hno
  · have hitems := List.eq_nil_of_length_eq_zero (Nat.eq_zero_of_not_pos (of_decide_eq_false hempty))
    exact h (by simp [poll, Queue.next, hint, hitems])
  · cases hitems : x.queue.items with
    | nil => exact h (by simp [poll, Queue.next, hint, hitems])
    | cons i rest => exact h (by simp [poll, Queue.next, hint, hitems, hclosed])

theorem isReady_cases (h : x.isReady = true) : x.isInterrupted = true ∨
    x.isInterrupted = false ∧ x.isOpen = true ∧ ∃ i rest, x.queue.items = i :: rest := by
  cases hint : x.isInterrupted with
  | true => exact .inl rfl
  | false =>
    simp only [isReady, hint, Bool.false_or, Bool.and_eq_true, decide_eq_true_eq] at h
    obtain ⟨i, rest, hitems⟩ := List.exists_cons_of_length_pos h.1
    exact .inr ⟨rfl, h.2, i, rest, hitems⟩

end Source

/-- The second source is the first without the requests that were not made; those are made of guards over
queues only. -/
structure Source.Thinned (acks : Nat → Option (Option Nat)) (queue : Bool) (x x' : Source) : Prop where
  interrupted : x'.queue.interrupted = x.queue.interrupted
  items : Abridged acks x.queue.items x'.queue.items
  delivered : Abridged acks x.delivered x'.delivered
  gate : x'.gate = x.gate
  refuses : x'.refuses = x.refuses
  swallows : x'.swallowsFlushes = x.swallowsFlushes
  panicsAt : x'.panicsAt = x.panicsAt
  plain : queue = true → x.gate = none ∧ x.swallowsFlushes = false ∧ x.panicsAt = none
  exact : queue = false → x.gate.isSome = true ∧ x'.calls = x.calls ∧ x'.pending = x.pending

namespace Source.Thinned
variable {acks acks' : Nat → Option (Option Nat)} {queue : Bool} {x x' : Source}

theorem mono (h : Source.Thinned acks queue x x') (hg : ∀ {k v}, acks k = some v → acks' k = some v) :
    Source.Thinned acks' queue x x' :=
  { h with items := h.items.mono hg, delivered := h.delivered.mono hg }

theorem refl_of_fresh (kind : SourceKind) (panicsAt : Option Nat) :
    Source.Thinned acks (kind.source panicsAt).gate.isNone (kind.source panicsAt) (kind.source panicsAt) := by
  cases kind <;> exact ⟨rfl, .nil, .nil, rfl, rfl, rfl, rfl, by simp [SourceKind.source, Source.plain],
    by simp [SourceKind.source, Source.plain]⟩

theorem pending_le (h : Source.Thinned acks queue x x') : x'.pending ≤ x.pending := h.items.length_le

theorem isOpen (h : Source.Thinned acks queue x x') : x'.isOpen = x.isOpen := by
  simp only [Source.isOpen, h.gate]

theorem isReady (h : Source.Thinned acks queue x x') (hx : x.isReady = false) : x'.isReady = false := by
  have hle := h.pending_le
  have hint : x'.isInterrupted = x.isInterrupted := h.interrupted
  simp only [Source.isReady, hint, h.isOpen, Bool.or_eq_false_iff, Bool.and_eq_false_iff, decide_eq_false_iff_not]
    at hx ⊢
  exact ⟨hx.1, hx.2.imp (fun h => by omega) id⟩

/-- Both sources take an item, or both hand it back. -/
theorem enqueue (h : Source.Thinned acks queue x x') {i i' : Item} (hi : i.Kept acks i') :
    (x.enqueue i = none ∧ x'.enqueue i' = none) ∨
      ∃ y y', x.enqueue i = some y ∧ x'.enqueue i' = some y' ∧ Source.Thinned acks queue y y' ∧
        y.delivered = x.delivered := by
  have hint : x'.isInterrupted = x.isInterrupted := h.interrupted
  cases hy : x.enqueue i with
  | none =>
    cases hy' : x'.enqueue i' with
    | none => exact .inl ⟨rfl, rfl⟩
    | some y' =>
      obtain ⟨hint', hrefuses', -⟩ := Source.enqueue_eq_some hy'
      rw [hint] at hint'
      rw [h.refuses] at hrefuses'
      rcases Source.enqueue_eq_none hy with hno | hno
      · rw [hno] at hrefuses'
        cases hrefuses'
      · rw [hno] at hint'
        cases hint'
  | some y =>
    obtain ⟨hopen, htakes, rfl⟩ := Source.enqueue_eq_some hy
    cases hy' : x'.enqueue i' with
    | none =>
      rw [← hint] at hopen
      rw [← h.refuses] at htakes
      rcases Source.enqueue_eq_none hy' with hno | hno
      · rw [hno] at htakes
        cases htakes
      · rw [hno] at hopen
        cases hopen
    | some y' =>
      obtain ⟨-, -, rfl⟩ := Source.enqueue_eq_some hy'
      refine .inr ⟨_, _, rfl, rfl, { h with
        items := h.items.append (Abridged.nil.cons_kept hi)
        exact := fun hf => ?_ }, rfl⟩
      obtain ⟨hgate, hcalls, hpending⟩ := h.exact hf
      refine ⟨hgate, hcalls, ?_⟩
      simp only [Source.pending, Queue.pending, List.length_append] at hpending ⊢
      rw [hpending]
      rfl

/-- A request that is not made in the other run. -/
theorem enqueue_cut (h : Source.Thinned acks true x x') {k : Nat} (hk : acks k = some none) {y : Source}
    (hy : x.enqueue (.flush k) = some y) : Source.Thinned acks true y x' ∧ y.delivered = x.delivered := by
  obtain ⟨-, -, rfl⟩ := Source.enqueue_eq_some hy
  have hitems : Abridged acks (x.queue.items ++ [.flush k]) x'.queue.items := by
    simpa using h.items.append (Abridged.nil.cut hk)
  exact ⟨{ h with items := hitems, exact := fun hf => by cases hf }, rfl⟩

/-- Both sources let so many items through. -/
theorem permit (h : Source.Thinned acks queue x x') (n : Nat) :
    Source.Thinned acks queue (x.permit n) (x'.permit n) :=
  { h with
    gate := congrArg (Option.map fun _ => n) h.gate
    plain := fun hq => ⟨by rw [Source.permit, (h.plain hq).1]; rfl, (h.plain hq).2⟩
    exact := fun hf => ⟨by simpa [Source.permit] using (h.exact hf).1, (h.exact hf).2⟩ }

/-- Both sources let everything through that is pending. -/
theorem permitPending (h : Source.Thinned acks queue x x') :
    Source.Thinned acks queue x.permitPending x'.permitPending := by
  cases queue with
  | false =>
    rw [Source.permitPending, Source.permitPending, (h.exact rfl).2.2]
    exact h.permit _
  | true =>
    have hgate := (h.plain rfl).1
    have hgate' := h.gate.trans hgate
    have hx : x.permitPending = x := by rw [Source.permitPending, Source.permit, hgate, Option.map_none, ← hgate]
    have hx' : x'.permitPending = x' := by
      rw [Source.permitPending, Source.permit, hgate', Option.map_none, ← hgate']
    rw [hx, hx']
    exact h

theorem permitPending_eq (h : Source.Thinned acks true x x') : x.permitPending = x := by
  have hgate := (h.plain rfl).1
  rw [Source.permitPending, Source.permit, hgate, Option.map_none, ← hgate]

/-- Both workers call for an item. -/
theorem ask (h : Source.Thinned acks queue x x') :
    x'.ask.2 = x.ask.2 ∧ Source.Thinned acks queue x.ask.1 x'.ask.1 := by
  cases queue with
  | false =>
    obtain ⟨hgate, hcalls, hpending⟩ := h.exact rfl
    refine ⟨by rw [Source.ask, Source.ask, h.panicsAt, hcalls], { h with exact := fun _ => ?_ }⟩
    exact ⟨hgate, congrArg (· + 1) hcalls, hpending⟩
  | true =>
    refine ⟨?_, { h with exact := fun hf => by cases hf }⟩
    rw [Source.ask, Source.ask, h.panicsAt, (h.plain rfl).2.2]
    rfl

/-- Only one of the workers calls for an item. -/
theorem ask_cut (h : Source.Thinned acks true x x') :
    x.ask.2 = false ∧ Source.Thinned acks true x.ask.1 x' := by
  refine ⟨?_, { h with exact := fun hf => by cases hf }⟩
  rw [Source.ask, (h.plain rfl).2.2]
  rfl

/-- Both sources are interrupted. -/
theorem interrupt (h : Source.Thinned acks queue x x') :
    Abridged acks x.interrupt.2 x'.interrupt.2 ∧ Source.Thinned acks queue x.interrupt.1 x'.interrupt.1 :=
  ⟨h.items, { h with
    interrupted := rfl
    items := .nil
    exact := fun hf => ⟨(h.exact hf).1, (h.exact hf).2.1, rfl⟩ }⟩

/-- What two workers find that look for an item at the same time: news of an interruption, the same item,
a request that is swallowed, or nothing; unless the one has a request before it that the other has not. -/
theorem poll (h : Source.Thinned acks queue x x') (hready : x.isReady = true) :
    (x.poll = (x, .interrupted) ∧ x'.poll = (x', .interrupted)) ∨
    (∃ i i', i.Kept acks i' ∧ x.poll.2 = .item i ∧ x'.poll.2 = .item i' ∧
      Source.Thinned acks queue x.poll.1 x'.poll.1) ∨
    (∃ k k', acks k = some (some k') ∧ x.poll.2 = .swallowed k ∧ x'.poll.2 = .swallowed k' ∧
      Source.Thinned acks queue x.poll.1 x'.poll.1) ∨
    (∃ k, queue = true ∧ acks k = some none ∧ x.poll.2 = .item (.flush k) ∧
      x.poll.1.delivered = .flush k :: x.delivered ∧ Source.Thinned acks queue x.poll.1 x') := by
  have hint : x'.isInterrupted = x.isInterrupted := h.interrupted
  rcases Source.isReady_cases hready with hyes | ⟨hno, hopen, i, rest, hitems⟩
  · exact .inl ⟨Source.poll_of_interrupted hyes, Source.poll_of_interrupted (hint.trans hyes)⟩
  have hno' := hint.trans hno
  have hopen' := h.isOpen.trans hopen
  have hqueue := h.items
  rw [hitems] at hqueue
  -- without the front item, which the other source had as well
  have behind {i i' : Item} {rest rest' : List Item} (hi : x.queue.items = i :: rest)
      (hi' : x'.queue.items = i' :: rest') (hrest : Abridged acks rest rest') :
      Source.Thinned acks queue (x.behind rest) (x'.behind rest') :=
    { h with
      items := hrest
      gate := congrArg (Option.map (· - 1)) h.gate
      plain := fun hq => ⟨by rw [Source.behind, (h.plain hq).1]; rfl, (h.plain hq).2⟩
      exact := fun hf => by
        obtain ⟨hgate, hcalls, hpending⟩ := h.exact hf
        refine ⟨by simpa [Source.behind] using hgate, hcalls, ?_⟩
        rw [Source.pending, Queue.pending, Source.pending, Queue.pending, hi, hi'] at hpending
        exact Nat.succ.inj hpending }
  generalize hitems' : x'.queue.items = items' at hqueue
  cases hqueue with
  | @reclaim id _ rest' hrest =>
    have hx := Source.poll_of_item hno hitems hopen (.inr ⟨id, rfl⟩)
    have hx' := Source.poll_of_item hno' hitems' hopen' (.inr ⟨id, rfl⟩)
    refine .inr (.inl ⟨_, _, .reclaim id, by rw [hx], by rw [hx'], ?_⟩)
    rw [hx, hx']
    exact { behind hitems hitems' hrest with delivered := h.delivered.reclaim id }
  | @kept k k' _ rest' hk hrest =>
    cases hswallows : x.swallowsFlushes with
    | false =>
      have hx := Source.poll_of_item hno hitems hopen (.inl hswallows)
      have hx' := Source.poll_of_item hno' hitems' hopen' (.inl (h.swallows.trans hswallows))
      refine .inr (.inl ⟨_, _, .flush hk, by rw [hx], by rw [hx'], ?_⟩)
      rw [hx, hx']
      exact { behind hitems hitems' hrest with delivered := h.delivered.kept hk }
    | true =>
      have hx := Source.poll_of_swallowed hno hitems hopen hswallows
      have hx' := Source.poll_of_swallowed hno' hitems' hopen' (h.swallows.trans hswallows)
      refine .inr (.inr (.inl ⟨k, k', hk, by rw [hx], by rw [hx'], ?_⟩))
      rw [hx, hx']
      exact behind hitems hitems' hrest
  | @cut k _ _ hk hrest =>
    cases queue with
    | false =>
      -- there would be more items than in the other source
      have hpending := (h.exact rfl).2.2
      rw [Source.pending, Queue.pending, Source.pending, Queue.pending, hitems, hitems'] at hpending
      have hle := hrest.length_le
      simp only [List.length_cons] at hpending
      omega
    | true =>
      obtain ⟨hgate, hswallows, hpanics⟩ := h.plain rfl
      have hx := Source.poll_of_item hno hitems hopen (.inl hswallows)
      refine .inr (.inr (.inr ⟨k, rfl, hk, by rw [hx], by rw [hx], ?_⟩))
      rw [hx]
      exact { h with
        items := hitems' ▸ hrest
        delivered := h.delivered.cut hk
        gate := by rw [h.gate, Source.behind, hgate]; rfl
        plain := fun _ => ⟨by rw [Source.behind, hgate]; rfl, hswallows, hpanics⟩
        exact := fun hf => by cases hf }

end Source.Thinned

/-! ## Stores -/

/-- The second guard is the first without the requests that were not made. -/
inductive Guard.Thinned (b : Bond) (g : GuardId) (x : Guard) : Guard → Prop where
  | intro {source : Source} {state : WorkerState} {queue : Bool} :
      b.staff g = some (x.worker, queue) → Source.Thinned b.acks queue x.source source →
        (b.post g).Holds b.acks queue x.source.delivered x.state state →
          Guard.Thinned b g x { x with source, state }

/-- The second handle has a pruned callback. -/
inductive Entry.Thinned (b : Bond) (id : HandleId) (e : Entry) : Entry → Prop where
  | intro {ls : List Lot} {f : ReleaseFn} :
      b.bodies id = some ls → Callback.Pruned b.queued ls e.callback f →
        Entry.Thinned b id e { e with callback := f }

/-- The second run of a callback has no answers to the calls that were left out. -/
inductive Call.Thinned (b : Bond) (i : Nat) (c : Call) : Call → Prop where
  | intro {did : Option (List Reply)} : b.runs i = some c.id →
      Option.Rel (fun rs rs' => ∃ ls, b.bodies c.id = some ls ∧ Answers ls rs rs') c.did did →
        Call.Thinned b i c { c with did }

/-- The record of an interruption, which counts what it threw away. -/
def tally (n : Nat) : Level × String :=
  (.debug, "reclaim source interrupted with " ++ toString n ++ " pending item(s)")

/-- The same records, but for those that count what interruptions threw away. -/
inductive Records : Array (Level × String) → Array (Level × String) → Prop where
  | same (rs : Array (Level × String)) : Records rs rs
  | both (r : Level × String) {rs rs' : Array (Level × String)} : Records rs rs' → Records (rs.push r) (rs'.push r)
  | left (n : Nat) {rs rs' : Array (Level × String)} : Records rs rs' → Records (rs.push (tally n)) rs'
  | right (n : Nat) {rs rs' : Array (Level × String)} : Records rs rs' → Records rs (rs'.push (tally n))

/-- The same output, but for the records that count what interruptions threw away. -/
structure Output.Thinned (o o' : Output) : Prop where
  limit : o'.limit = o.limit
  text : o'.text = o.text
  records : Records o.records o'.records

/-- The cells that correspond hold the same. -/
structure Matched (acks : Nat → Option (Option Nat)) (cells cells' : Array (Oneshot Unit)) : Prop where
  same : ∀ {k k'}, acks k = some (some k') → ∃ cell, cells[k]? = some cell ∧ cells'[k']? = some cell
  inj : ∀ {k₁ k₂ k'}, acks k₁ = some (some k') → acks k₂ = some (some k') → k₁ = k₂
  fresh : ∀ {k}, cells.size ≤ k → acks k = none

/-- The second store is the first without the requests that were not made. -/
structure Store.Thinned (b : Bond) (s s' : Store) : Prop where
  entries : Paired (fun i => Entry.Thinned b ⟨i + 1⟩) (fun i => b.bodies ⟨i + 1⟩ = none) s.entries s'.entries
  guards : Paired (Guard.Thinned b) (fun g => b.staff g = none) s.guards s'.guards
  calls : Paired (Call.Thinned b) (fun i => b.runs i = none) s.calls s'.calls
  acks : Matched b.acks s.acks s'.acks
  probes : s'.probes = s.probes
  names : s'.names = s.names
  processWide : s'.processWide = s.processWide
  environment : s'.environment = s.environment
  output : Output.Thinned s.output s'.output
  named : ∀ {name g}, (name, g) ∈ s.names.guards → b.queued name → ∃ t, b.staff g = some (t, true)
  running : ∀ {g}, s.processWide.running = some g → ∃ t, b.staff g = some (t, true)

/-- The same result, and stores that correspond. -/
inductive Twin (b : Bond) {α : Type} : Store × α → Store × α → Prop where
  | intro {s s' : Store} (r : α) : s.Thinned b s' → Twin b (s, r) (s', r)

theorem Twin.store {b : Bond} {α : Type} {p p' : Store × α} (h : Twin b p p') : p.1.Thinned b p'.1 := by
  cases h with
  | intro _ h => exact h

section Grows
variable {b b' : Bond} (hg : b.Grows b')
include hg

theorem Guard.Thinned.mono {g : GuardId} {x x' : Guard} (h : Guard.Thinned b g x x')
    (hpost : b'.post g = b.post g) : Guard.Thinned b' g x x' := by
  cases h with
  | intro hstaff hsource hstate =>
    refine .intro (hg.staff hstaff) (hsource.mono hg.acks) ?_
    rw [hpost]
    exact hstate.mono hg.acks

theorem Entry.Thinned.mono {id : HandleId} {e e' : Entry} (h : Entry.Thinned b id e e') :
    Entry.Thinned b' id e e' := by
  cases h with
  | intro hbody hf => exact .intro (hg.bodies hbody) (hg.queued ▸ hf)

theorem Call.Thinned.mono {i : Nat} {c c' : Call} (h : Call.Thinned b i c c') : Call.Thinned b' i c c' := by
  cases h with
  | intro hrun hdid =>
    refine .intro (hg.runs hrun) ?_
    generalize c.did = did at hdid ⊢
    cases hdid with
    | some h =>
      obtain ⟨ls, hls, hanswers⟩ := h
      exact .some ⟨ls, hg.bodies hls, hanswers⟩
    | none => exact .none

end Grows

namespace Output.Thinned
variable {o o' : Output} (h : Output.Thinned o o')
include h

theorem log (level : Level) (text : String) : Output.Thinned (o.log level text) (o'.log level text) := by
  rw [Output.log, Output.log, h.limit]
  split
  · exact ⟨rfl, h.text, h.records.both _⟩
  · exact h

theorem deliver (sink : Sink) (d : Diagnostic) : Output.Thinned (sink.deliver o d) (sink.deliver o' d) := by
  cases sink with
  | log => exact h.log d.level d.text
  | stdout => exact ⟨h.limit, by simp only [Sink.deliver, Output.line, h.text], h.records⟩
  | silent => exact h
  | recorder => exact h

theorem tally_left (n : Nat) : Output.Thinned (o.log (tally n).1 (tally n).2) o' := by
  rw [Output.log]
  split
  · exact ⟨h.limit, h.text, h.records.left n⟩
  · exact h

theorem tally_right (n : Nat) : Output.Thinned o (o'.log (tally n).1 (tally n).2) := by
  rw [Output.log]
  split
  · exact ⟨h.limit, h.text, h.records.right n⟩
  · exact h

end Output.Thinned

namespace Matched
variable {acks : Nat → Option (Option Nat)} {cells cells' : Array (Oneshot Unit)}
  (h : Matched acks cells cells')
include h

theorem modify {k k' : Nat} (hk : acks k = some (some k')) (f : Oneshot Unit → Oneshot Unit) :
    Matched acks (cells.modify k f) (cells'.modify k' f) := by
  refine ⟨fun {n n'} hn => ?_, h.inj, fun hle => h.fresh (by simpa using hle)⟩
  obtain ⟨cell, hcell, hcell'⟩ := h.same hn
  rw [Array.getElem?_modify, Array.getElem?_modify, hcell, hcell']
  by_cases hkn : k = n
  · subst hkn
    obtain rfl : k' = n' := Option.some.inj (Option.some.inj (hk.symm.trans hn))
    exact ⟨f cell, by simp⟩
  · have hkn' : k' ≠ n' := fun heq => hkn (h.inj hk (heq ▸ hn))
    exact ⟨cell, by rw [if_neg hkn], by rw [if_neg hkn']⟩

theorem modify_cut {k : Nat} (hk : acks k = some none) (f : Oneshot Unit → Oneshot Unit) :
    Matched acks (cells.modify k f) cells' := by
  refine ⟨fun {n n'} hn => ?_, h.inj, fun hle => h.fresh (by simpa using hle)⟩
  obtain ⟨cell, hcell, hcell'⟩ := h.same hn
  have hkn : k ≠ n := fun heq => by
    subst heq
    rw [hk] at hn
    cases hn
  exact ⟨cell, by rw [Array.getElem?_modify, if_neg hkn, hcell], hcell'⟩

/-- A cell more on both sides. -/
theorem push (cell : Oneshot Unit) :
    Matched (Function.update acks cells.size (some (some cells'.size))) (cells.push cell) (cells'.push cell) := by
  refine ⟨fun {n n'} hn => ?_, fun {k₁ k₂ k'} h₁ h₂ => ?_, fun {k} hle => ?_⟩
  · by_cases heq : n = cells.size
    · subst heq
      rw [Function.update_self] at hn
      cases hn
      exact ⟨cell, Array.getElem?_push_size, Array.getElem?_push_size⟩
    · rw [Function.update_of_ne heq] at hn
      obtain ⟨cell', hcell, hcell'⟩ := h.same hn
      have hlt := (Array.getElem?_eq_some_iff.mp hcell).1
      have hlt' := (Array.getElem?_eq_some_iff.mp hcell').1
      refine ⟨cell', ?_, ?_⟩
      · rw [Array.getElem?_push, if_neg heq, hcell]
      · rw [Array.getElem?_push, if_neg (Nat.ne_of_lt hlt'), hcell']
  · have hbound {k : Nat} (hk : acks k = some (some cells'.size)) : False := by
      obtain ⟨_, -, hcell'⟩ := h.same hk
      exact Nat.lt_irrefl _ (Array.getElem?_eq_some_iff.mp hcell').1
    by_cases h1 : k₁ = cells.size <;> by_cases h2 : k₂ = cells.size
    · exact h1.trans h2.symm
    · subst h1
      rw [Function.update_self] at h₁
      rw [Function.update_of_ne h2] at h₂
      cases h₁
      exact (hbound h₂).elim
    · subst h2
      rw [Function.update_self] at h₂
      rw [Function.update_of_ne h1] at h₁
      cases h₂
      exact (hbound h₁).elim
    · rw [Function.update_of_ne h1] at h₁
      rw [Function.update_of_ne h2] at h₂
      exact h.inj h₁ h₂
  · rw [Array.size_push] at hle
    rw [Function.update_of_ne (by omega)]
    exact h.fresh (by omega)

/-- A cell more for a request that is not made in the other run. -/
theorem push_cut (cell : Oneshot Unit) :
    Matched (Function.update acks cells.size (some none)) (cells.push cell) cells' := by
  have hold {k k' : Nat} (hk : Function.update acks cells.size (some none) k = some (some k')) :
      k ≠ cells.size ∧ acks k = some (some k') := by
    by_cases heq : k = cells.size
    · subst heq
      rw [Function.update_self] at hk
      cases hk
    · rw [Function.update_of_ne heq] at hk
      exact ⟨heq, hk⟩
  refine ⟨fun {n n'} hn => ?_, fun h₁ h₂ => h.inj (hold h₁).2 (hold h₂).2, fun {k} hle => ?_⟩
  · obtain ⟨hne, hn⟩ := hold hn
    obtain ⟨cell', hcell, hcell'⟩ := h.same hn
    exact ⟨cell', by rw [Array.getElem?_push, if_neg hne, hcell], hcell'⟩
  · rw [Array.size_push] at hle
    rw [Function.update_of_ne (by omega)]
    exact h.fresh (by omega)

end Matched

end Reclaim

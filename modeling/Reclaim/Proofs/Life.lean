import Reclaim.Proofs.Placement
import Mathlib.Logic.Relation

/-!
# The life of a handle

What there is to know of one handle and its own guard: its state, who holds it, whether the guard
keeps track of it, how often it waits in the source, the spots that it occupies, and what has
happened to it. Whatever is done in a process, one handle goes on by the steps listed here.

* `Spot.Concerns`, `Mark.Concerns` : what has to do with a handle and its own guard;
* `History.of` : what has happened to a handle; `Life`, `Store.life` : its life so far;
* `Life.Step` : its steps;
* `Store.life_insert`, `life_queue`, `life_next`, `life_beginCall` : what a change of the store makes
  of it.
-/

namespace Reclaim

/-- The spot is one of the handle's, or one that the handle occupies with the guard. -/
def Spot.Concerns (g : GuardId) (id : HandleId) : Spot → Prop
  | enrolling _ | granting _ => False
  | numbered g' id' | tracked g' id' | carried g' id' | reporting g' id' | serving g' id' =>
      g' = g ∧ id' = id
  | counted id' | asking id' | winning id' | calling id' | won id' | lost id' | dropped id'
  | queueing id' | leaking id' => id' = id

instance (g : GuardId) (id : HandleId) : DecidablePred (Spot.Concerns g id) := fun x => by
  cases x <;> unfold Spot.Concerns <;> infer_instance

/-- The mark has nothing to do with the source or the worker of another guard. -/
def Mark.Concerns (g : GuardId) : Mark → Prop
  | claimed (.reclaim g') _ | taken g' | thrown g' | aborted g' | settled g' _ => g' = g
  | _ => True

instance (g : GuardId) : DecidablePred (Mark.Concerns g) := fun m => by
  cases m with
  | claimed path => cases path <;> unfold Mark.Concerns <;> infer_instance
  | _ => unfold Mark.Concerns; infer_instance

/-- What has happened to a handle, at its own guard or anywhere. -/
def History.of (h : History) (g : GuardId) (id : HandleId) : List Mark :=
  (h.filter fun m => m.1 = id ∧ m.2.Concerns g).map Prod.snd

/-- How often the release has been claimed, going by the state. -/
def HandleState.claims : HandleState → Nat
  | active => 0
  | released => 1

/-- The life of a handle so far. -/
structure Life where
  /-- 1 once it has been released. -/
  released : Nat
  /-- Shares that are held. -/
  owners : Nat
  /-- Calls to release under way. -/
  users : Nat
  /-- How often it was given to a variable. -/
  bound : Nat
  /-- How often its guard keeps track of it. -/
  listed : Nat
  /-- How often it waits at its guard. -/
  pending : Nat
  /-- How often its callback has started. -/
  runs : Nat
  /-- 1 once the source of its guard has been interrupted. -/
  closed : Nat
  /-- The source of its guard is within an outsider's reach. -/
  exposed : Bool
  /-- The source of its guard refuses. -/
  refuses : Bool
  spots : Multiset Spot
  trace : List Mark

/-- The life of a handle with this entry, whose own guard has this gist. -/
def Store.life (s : Store) (id : HandleId) (e : Entry) (x : Gist) (spots : Multiset Spot)
    (trace : List Mark) : Life where
  released := e.state.claims
  owners := e.owners
  users := e.users
  bound := (s.names.handles.map Prod.snd).count id
  listed := x.registry.ids.count id
  pending := x.waiting.count id
  runs := (s.runs.map Prod.fst).count id
  closed := x.interrupted.toNat
  exposed := x.exposed
  refuses := x.refuses
  spots := spots
  trace := trace

/-- Some spots are left and others taken. -/
def Life.Flows (b : Life) (src spots dst : Multiset Spot) : Prop := spots + src = b.spots + dst

/-- The steps in the life of a handle of a guard. -/
inductive Life.Step (g : GuardId) (id : HandleId) (b : Life) : Life → Prop
  /-- It enters the registry. -/
  | track {sp : Multiset Spot} (flow : b.Flows {.numbered g id} sp {.tracked g id}) :
      Step g id b { b with listed := b.listed + 1, spots := sp }
  /-- Its registration is counted. -/
  | register {sp : Multiset Spot} (flow : b.Flows {.tracked g id} sp {.counted id}) :
      Step g id b { b with spots := sp }
  /-- It goes into a variable. -/
  | bind {sp : Multiset Spot} (flow : b.Flows {.counted id} sp 0) :
      Step g id b { b with bound := b.bound + 1, spots := sp }
  /-- More shares of it are held. -/
  | share {sp : Multiset Spot} (n : Nat) (held : b.owners ≠ 0) (flow : b.Flows 0 sp 0) :
      Step g id b { b with owners := b.owners + n, spots := sp }
  /-- A share of it is given up. -/
  | giveUp {sp : Multiset Spot} (named : b.bound ≠ 0) (held : b.owners ≠ 0)
      (flow : b.Flows 0 sp (if b.owners - 1 = 0 ∧ b.users = 0 then {.dropped id} else 0)) :
      Step g id b { b with owners := b.owners - 1, spots := sp }
  /-- A call to release it begins. -/
  | use {sp : Multiset Spot} (named : b.bound ≠ 0) (held : b.owners ≠ 0)
      (flow : b.Flows 0 sp {.asking id}) :
      Step g id b { b with users := b.users + 1, spots := sp }
  /-- A call claims its release. -/
  | claim {sp : Multiset Spot} (active : b.released = 0)
      (flow : b.Flows {.asking id} sp {.winning id}) :
      Step g id b { b with
        released := 1
        listed := b.listed - 1
        spots := sp
        trace := b.trace ++ [.claimed .release true] }
  /-- A call finds it released. -/
  | lose {sp : Multiset Spot} (released : b.released = 1)
      (flow : b.Flows {.asking id} sp {.lost id}) :
      Step g id b { b with spots := sp, trace := b.trace ++ [.claimed .release false] }
  /-- The call that claimed it goes on to the callback. -/
  | prepare {sp : Multiset Spot}
      (flow : b.Flows {.winning id} sp ({.calling id} + {.won id})) :
      Step g id b { b with spots := sp }
  /-- The callback starts. -/
  | call {sp : Multiset Spot} (flow : b.Flows {.calling id} sp 0) :
      Step g id b { b with runs := b.runs + 1, spots := sp }
  /-- The call that won comes to its end. -/
  | win {sp : Multiset Spot}
      (flow : b.Flows {.won id} sp (if b.users = 1 ∧ b.owners = 0 then {.dropped id} else 0)) :
      Step g id b { b with
        users := b.users - 1, spots := sp, trace := b.trace ++ [.returned true] }
  /-- A call that lost comes to its end. -/
  | yield {sp : Multiset Spot}
      (flow : b.Flows {.lost id} sp (if b.users = 1 ∧ b.owners = 0 then {.dropped id} else 0)) :
      Step g id b { b with
        users := b.users - 1, spots := sp, trace := b.trace ++ [.returned false] }
  /-- Nobody holds it, and it finds itself active. -/
  | miss {sp : Multiset Spot} (active : b.released = 0)
      (flow : b.Flows {.dropped id} sp {.queueing id}) : Step g id b { b with spots := sp }
  /-- Nobody holds it, and it finds itself released. -/
  | done {sp : Multiset Spot} (released : b.released = 1)
      (flow : b.Flows {.dropped id} sp 0) : Step g id b { b with spots := sp }
  /-- Its drop puts it into the source. -/
  | queue {sp : Multiset Spot} (opened : b.closed = 0)
      (flow : b.Flows {.queueing id} sp 0) :
      Step g id b { b with
        pending := b.pending + 1, spots := sp, trace := b.trace ++ [.queued] }
  /-- The source hands it back. -/
  | handBack {sp : Multiset Spot} (closed : b.closed = 1 ∨ b.refuses = true)
      (flow : b.Flows {.queueing id} sp {.leaking id}) :
      Step g id b { b with spots := sp, trace := b.trace ++ [.refused] }
  /-- Its leak is offered to the sink. -/
  | leak {sp : Multiset Spot} (flow : b.Flows {.leaking id} sp 0) :
      Step g id b { b with spots := sp, trace := b.trace ++ [.leaked] }
  /-- The worker takes it from the source. -/
  | take {sp : Multiset Spot} (opened : b.closed = 0) (waiting : b.pending ≠ 0)
      (flow : b.Flows 0 sp {.carried g id}) :
      Step g id b { b with
        pending := b.pending - 1, spots := sp, trace := b.trace ++ [.taken g] }
  /-- The worker claims its release. -/
  | reclaim {sp : Multiset Spot} (active : b.released = 0) (tracked : b.listed ≠ 0)
      (flow : b.Flows {.carried g id} sp {.reporting g id}) :
      Step g id b { b with
        released := 1
        listed := b.listed - 1
        spots := sp
        trace := b.trace ++ [.claimed (.reclaim g) true] }
  /-- The worker finds nothing to claim. -/
  | discard {sp : Multiset Spot} (missing : b.listed ≠ 0 → b.released = 1)
      (flow : b.Flows {.carried g id} sp 0) :
      Step g id b { b with spots := sp, trace := b.trace ++ [.claimed (.reclaim g) false] }
  /-- The worker has said what it found and goes on to the callback. -/
  | report {sp : Multiset Spot} (flow : b.Flows {.reporting g id} sp ({.calling id} + {.serving g id})) :
      Step g id b { b with spots := sp }
  /-- The sink panics at what the worker found. -/
  | abort {sp : Multiset Spot} (flow : b.Flows {.reporting g id} sp 0) :
      Step g id b { b with spots := sp, trace := b.trace ++ [.aborted g] }
  /-- The worker counts the callback. -/
  | settle {sp : Multiset Spot} (failed : Bool) (flow : b.Flows {.serving g id} sp 0) :
      Step g id b { b with spots := sp, trace := b.trace ++ [.settled g failed] }
  /-- The source is interrupted. -/
  | interrupt {sp : Multiset Spot} (flow : b.Flows 0 sp 0) :
      Step g id b { b with
        closed := 1
        pending := 0
        spots := sp
        trace := b.trace ++ List.replicate b.pending (.thrown g) }
  /-- An outsider puts it into the source. -/
  | inject {sp : Multiset Spot} (exposed : b.exposed = true) (named : b.bound ≠ 0)
      (opened : b.closed = 0) (flow : b.Flows 0 sp 0) :
      Step g id b { b with pending := b.pending + 1, spots := sp }

/-- Any number of steps. -/
abbrev Life.Steps (g : GuardId) (id : HandleId) : Life → Life → Prop :=
  Relation.ReflTransGen (Life.Step g id)

/-! ## What is one handle's own -/

theorem Spot.Concerns.filter {g : GuardId} {id : HandleId} {x : Spot} (h : x.Concerns g id) :
    Multiset.filter (Spot.Concerns g id) {x} = {x} := by
  rw [Multiset.filter_singleton, if_pos h]

/-- Somebody else's spot. -/
theorem filter_other {g : GuardId} {id : HandleId} {x : Spot} (h : ¬x.Concerns g id) :
    Multiset.filter (Spot.Concerns g id) {x} = 0 := by
  rw [Multiset.filter_singleton, if_neg h]
  rfl

theorem filter_pair {g : GuardId} {id : HandleId} {x y : Spot} (hx : x.Concerns g id)
    (hy : y.Concerns g id) :
    ({x} + {y} : Multiset Spot).filter (Spot.Concerns g id) = {x} + {y} := by
  rw [Multiset.filter_add, hx.filter, hy.filter]

theorem filter_pair_other {g : GuardId} {id : HandleId} {x y : Spot} (hx : ¬x.Concerns g id)
    (hy : ¬y.Concerns g id) : ({x} + {y} : Multiset Spot).filter (Spot.Concerns g id) = 0 := by
  rw [Multiset.filter_add, filter_other hx, filter_other hy, add_zero]

theorem History.of_append (h h' : History) (g : GuardId) (id : HandleId) :
    History.of (h ++ h') g id = h.of g id ++ h'.of g id := by
  simp [History.of]

@[simp] theorem History.of_nil (g : GuardId) (id : HandleId) : History.of [] g id = [] := rfl

@[simp] theorem History.of_singleton (g : GuardId) (id id' : HandleId) (m : Mark) :
    History.of [(id', m)] g id = if id' = id ∧ m.Concerns g then [m] else [] := by
  unfold of
  by_cases hm : id' = id ∧ m.Concerns g
  · rw [if_pos hm]
    simp [hm]
  · rw [if_neg hm]
    simpa using hm

theorem Mark.Concerns.of {g : GuardId} {id : HandleId} {m : Mark} (h : m.Concerns g) :
    History.of [(id, m)] g id = [m] := by
  rw [History.of_singleton, if_pos ⟨rfl, h⟩]

/-- It has happened to another handle, or at another guard. -/
theorem History.of_other {g : GuardId} {id id' : HandleId} {m : Mark}
    (h : ¬(id' = id ∧ m.Concerns g)) : History.of [(id', m)] g id = [] := by
  rw [of_singleton, if_neg h]

/-- Nothing but a handle's own number counts for it. -/
theorem count_of_ne {id id' : HandleId} (h : id' ≠ id) (xs : List HandleId) :
    (id' :: xs).count id = xs.count id ∧ (xs.erase id').count id = xs.count id ∧
      (xs ++ [id']).count id = xs.count id := by
  refine ⟨by simp [h], List.count_erase_of_ne (Ne.symm h), ?_⟩
  simp [List.count_append, h]

namespace Store

theorem Named.bound {s : Store} {id : HandleId} (h : s.Named id) :
    (s.names.handles.map Prod.snd).count id ≠ 0 := by
  obtain ⟨name, hname⟩ := h
  have : id ∈ s.names.handles.map Prod.snd := List.mem_map.mpr ⟨_, hname, rfl⟩
  exact Nat.pos_iff_ne_zero.mp (List.count_pos_iff.mpr this)

/-- A life depends on the names of handles and on the runs of callbacks only. -/
theorem life_congr {s s' : Store} (hh : s'.names.handles = s.names.handles)
    (hr : s'.runs = s.runs) (id : HandleId) (e : Entry) (x : Gist) (spots : Multiset Spot)
    (trace : List Mark) : s'.life id e x spots trace = s.life id e x spots trace := by
  simp only [life, hh, hr]

/-- Tracking a handle. -/
theorem life_insert (s : Store) (id : HandleId) (e : Entry) (x : Gist) (spots : Multiset Spot)
    (trace : List Mark) : s.life id e (x.insert id) spots trace =
      { s.life id e x spots trace with
        listed := (s.life id e x spots trace).listed + 1 } := by
  simp only [life, Gist.insert, Registry.insert, List.count_cons_self]

theorem life_insert_ne (s : Store) {id id' : HandleId} (h : id' ≠ id) (e : Entry) (x : Gist)
    (spots : Multiset Spot) (trace : List Mark) :
    s.life id e (x.insert id') spots trace = s.life id e x spots trace := by
  have hcount := (count_of_ne h x.registry.ids).1
  simp only [life, Gist.insert, Registry.insert, hcount]

/-- A handle more that waits. -/
theorem life_queue (s : Store) (id : HandleId) (e : Entry) (x : Gist) (spots : Multiset Spot)
    (trace : List Mark) : s.life id e (x.queue id) spots trace =
      { s.life id e x spots trace with
        pending := (s.life id e x spots trace).pending + 1 } := by
  simp only [life, Gist.queue, List.count_append, List.count_singleton_self]

theorem life_queue_ne (s : Store) {id id' : HandleId} (h : id' ≠ id) (e : Entry) (x : Gist)
    (spots : Multiset Spot) (trace : List Mark) :
    s.life id e (x.queue id') spots trace = s.life id e x spots trace := by
  have hcount := (count_of_ne h x.waiting).2.2
  simp only [life, Gist.queue, hcount]

/-- The first handle that waited is gone. -/
theorem life_next {x : Gist} {id : HandleId} {rest : List HandleId} (h : x.waiting = id :: rest)
    (s : Store) (e : Entry) (spots : Multiset Spot) (trace : List Mark) :
    (s.life id e x spots trace).pending ≠ 0 ∧ s.life id e x.next spots trace =
      { s.life id e x spots trace with
        pending := (s.life id e x spots trace).pending - 1 } := by
  simp only [life, Gist.next, h, List.count_cons_self, List.tail_cons, Nat.add_sub_cancel]
  exact ⟨Nat.succ_ne_zero _, trivial⟩

theorem life_next_ne {x : Gist} {id id' : HandleId} {rest : List HandleId}
    (h : x.waiting = id' :: rest) (hid : id' ≠ id) (s : Store) (e : Entry)
    (spots : Multiset Spot) (trace : List Mark) :
    s.life id e x.next spots trace = s.life id e x spots trace := by
  have hcount := (count_of_ne hid rest).1
  simp only [life, Gist.next, h, List.tail_cons, hcount]

/-- A callback starts. -/
theorem life_beginCall (s : Store) (id : HandleId) (e e₁ : Entry) (x : Gist) (thread : ThreadId)
    (spots : Multiset Spot) (trace : List Mark) :
    (s.beginCall id e₁ thread).1.life id e x spots trace =
      { s.life id e x spots trace with runs := (s.life id e x spots trace).runs + 1 } := by
  simp [life, beginCall, runs]

theorem life_beginCall_ne (s : Store) {id id' : HandleId} (h : id' ≠ id) (e e₁ : Entry) (x : Gist)
    (thread : ThreadId) (spots : Multiset Spot) (trace : List Mark) :
    (s.beginCall id' e₁ thread).1.life id e x spots trace = s.life id e x spots trace := by
  simp [life, beginCall, runs, h]

theorem life_active {e : Entry} (h : e.state = .active) (s : Store) (id : HandleId) (x : Gist)
    (spots : Multiset Spot) (trace : List Mark) : (s.life id e x spots trace).released = 0 := by
  simp only [life, h, HandleState.claims]

theorem life_released {e : Entry} (h : e.state = .released) (s : Store) (id : HandleId) (x : Gist)
    (spots : Multiset Spot) (trace : List Mark) : (s.life id e x spots trace).released = 1 := by
  simp only [life, h, HandleState.claims]

end Store

/-- The spot of a handle that nobody holds concerns that handle only. -/
theorem filter_dropped (g : GuardId) (id : HandleId) (c : Prop) [Decidable c] :
    (if c then {.dropped id} else 0 : Multiset Spot).filter (Spot.Concerns g id) =
      if c then {.dropped id} else 0 := by
  split
  · exact Spot.Concerns.filter rfl
  · rfl

theorem filter_dropped_ne (g : GuardId) {id id' : HandleId} (h : id' ≠ id) (c : Prop)
    [Decidable c] :
    (if c then {.dropped id'} else 0 : Multiset Spot).filter (Spot.Concerns g id) = 0 := by
  split
  · exact filter_other h
  · rfl

/-- What an interruption throws away, as far as one handle goes. -/
theorem of_thrownAway {s : Store} {g : GuardId} {x : Gist} (hx : s.gist? g = some x)
    (id : HandleId) :
    (s.thrownAway g).of g id = List.replicate (x.waiting.count id) (.thrown g) := by
  rw [Store.thrownAway_eq, hx]
  simp only [Option.map_some, Option.getD_some]
  induction x.waiting with
  | nil => rfl
  | cons id' xs ih =>
    rw [List.map_cons, ← List.singleton_append, History.of_append, ih, History.of_singleton]
    by_cases hid : id' = id
    · subst hid
      simp [Mark.Concerns, List.replicate_succ]
    · simp [hid]

theorem of_thrownAway_ne {s : Store} {g g' : GuardId} (hg : g' ≠ g) (id : HandleId) :
    (s.thrownAway g').of g id = [] := by
  rw [Store.thrownAway_eq]
  simp [History.of, Mark.Concerns, hg, List.filter_map, Function.comp_def]

end Reclaim

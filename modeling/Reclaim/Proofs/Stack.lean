import Reclaim.Proofs.Actions
import Mathlib.Algebra.Order.Group.Multiset
import Mathlib.Tactic.Abel

/-!
# What threads have under way

Of the frames under way only some matter for the handles. A frame that does occupies a spot; an
action of a thread takes away the spot of its top frame and adds the spots of the frames that it
goes on with, and a frame that waits for another keeps its own.

* `Spot`, `Frame.spots`, `System.spots` : the spots that are occupied, each as often as it is;
* `Stacked`, `System.Disciplined` : below the top of a stack there are only frames that wait, and
  below a callback stands the one that waits for it;
* `Progress.Fits` : an action of a frame keeps to this; `System.disciplined_act`;
* `System.tally`, `System.tally_act` : what the frames of all threads hold, and what an action does to
  that; `System.spots_act` : what it does to the spots.
-/

namespace Reclaim

/-- A point of an operation that matters for a handle or a guard. -/
inductive Spot where
  /-- A registration with a guard is about to begin. -/
  | enrolling (guard : GuardId)
  /-- A guard is about to go into a variable. -/
  | granting (guard : GuardId)
  /-- A handle is about to enter the registry of a guard. -/
  | numbered (guard : GuardId) (id : HandleId)
  /-- A handle in the registry of a guard is about to be counted. -/
  | tracked (guard : GuardId) (id : HandleId)
  /-- A handle is about to go into its variable. -/
  | counted (id : HandleId)
  /-- A call is about to claim the release of a handle. -/
  | asking (id : HandleId)
  /-- A call has claimed it and is about to count that. -/
  | winning (id : HandleId)
  /-- The callback of a handle is about to start. -/
  | calling (id : HandleId)
  /-- The call that claimed it waits for the callback, or is about to end. -/
  | won (id : HandleId)
  /-- A call that came too late is about to end. -/
  | lost (id : HandleId)
  /-- A handle that nobody holds is about to see whether it has been released. -/
  | dropped (id : HandleId)
  /-- It has found itself active and is about to be queued. -/
  | queueing (id : HandleId)
  /-- It has been handed back and is about to say so. -/
  | leaking (id : HandleId)
  /-- The worker of a guard has taken a handle from its source. -/
  | carried (guard : GuardId) (id : HandleId)
  /-- The worker of a guard has claimed it and is about to say so. -/
  | reporting (guard : GuardId) (id : HandleId)
  /-- The worker of a guard waits for the callback, or is about to count it. -/
  | serving (guard : GuardId) (id : HandleId)
deriving DecidableEq

namespace Frame

/-- The spots that a frame occupies, one at most. -/
def spots : Frame → Multiset Spot
  | .register q .allocate => {.enrolling q.guard}
  | .register q (.track id) => {.numbered q.guard id}
  | .register q (.count id) => {.tracked q.guard id}
  | .register _ (.bind id) => {.counted id}
  | .release id .retire => {.asking id}
  | .release id .count => {.winning id}
  | .release id .running => {.won id}
  | .release id (.ran _) => {.won id}
  | .release id .lost => {.lost id}
  | .callback id .enter => {.calling id}
  | .drop id .check => {.dropped id}
  | .drop id .enqueue => {.queueing id}
  | .drop id .leak => {.leaking id}
  | .bindGuard _ g => {.granting g}
  | .worker g (.took (.reclaim id)) => {.carried g id}
  | .worker g (.processing (.reclaim id)) => {.carried g id}
  | .worker g (.reporting id) => {.reporting g id}
  | .worker g (.running id) => {.serving g id}
  | .worker g (.settling id _) => {.serving g id}
  | _ => 0

/-- Whether a frame can wait for another. -/
def waits : Frame → Bool
  | .commands .. => true
  | .give _ => true
  | .register _ (.dropping _) => true
  | .release _ .running => true
  | .callback _ (.running _) => true
  | .worker _ (.running _) => true
  | _ => false

/-- The frames that can. -/
inductive Waiting : Frame → Prop where
  | commands (todo : List Command) (done : List Reply) : Waiting (.commands todo done)
  | give (o : Outcome) : Waiting (.give o)
  | register (q : RegisterRequest) (id : HandleId) : Waiting (.register q (.dropping id))
  | release (id : HandleId) : Waiting (.release id .running)
  | callback (id : HandleId) (call : Nat) : Waiting (.callback id (.running call))
  | worker (g : GuardId) (id : HandleId) : Waiting (.worker g (.running id))

theorem waiting_of_waits {x : Frame} (h : x.waits = true) : x.Waiting := by
  unfold waits at h
  split at h
  · exact .commands _ _
  · exact .give _
  · exact .register _ _
  · exact .release _
  · exact .callback _ _
  · exact .worker _ _
  · cases h

/-- The handle whose callback the frame carries out. -/
def callback? : Frame → Option HandleId
  | .callback id _ => some id
  | _ => none

/-- The handle whose callback the frame waits for. -/
def awaits? : Frame → Option HandleId
  | .release id .running => some id
  | .worker _ (.running id) => some id
  | _ => none

/-- Whether the frame may stand on top of these. -/
def Over (x : Frame) : List Frame → Prop
  | [] => x.callback? = none
  | y :: _ => y.waits = true ∧ ∀ id, x.callback? = some id → y.awaits? = some id

/-- A frame that has waited keeps its spot. -/
theorem spots_receive (x : Frame) (o : Outcome) (h : x.waits = true) :
    (x.receive o).spots = x.spots := by
  cases waiting_of_waits h with
  | commands => rfl
  | _ => cases o <;> rfl

/-- Only a callback goes on as one. -/
theorem callback?_receive (x : Frame) (o : Outcome) (id : HandleId)
    (h : (x.receive o).callback? = some id) : x.callback? = some id := by
  unfold receive at h
  split at h
  all_goals first
    | exact h
    | cases h

theorem Over.of_callback {x y : Frame} {rest : List Frame} (h : x.Over rest)
    (hy : ∀ id, y.callback? = some id → x.callback? = some id) : y.Over rest := by
  cases rest with
  | nil =>
    cases hc : y.callback? with
    | none => exact hc
    | some id => exact absurd (hy id hc) (by simp [show x.callback? = none from h])
  | cons z rest => exact ⟨h.1, fun id hid => h.2 id (hy id hid)⟩

end Frame

/-! ## Stacks -/

/-- Below the top there are only frames that wait, and below a callback the one that waits for
it. -/
def Stacked : List Frame → Prop
  | [] => True
  | x :: rest => x.Over rest ∧ Stacked rest

theorem Stacked.waits {x : Frame} {rest : List Frame} (h : Stacked (x :: rest)) :
    ∀ y ∈ rest.head?, y.waits = true := by
  cases rest with
  | nil => simp
  | cons y rest =>
    rintro _ ⟨⟩
    exact h.1.1

/-- A frame that cannot wait for another is at the top. -/
theorem Stacked.top {stack : List Frame} (h : Stacked stack) {x : Frame} (hx : x ∈ stack)
    (hwaits : x.waits = false) : ∃ rest, stack = x :: rest := by
  induction stack with
  | nil => cases hx
  | cons y rest ih =>
    rcases List.mem_cons.mp hx with rfl | hin
    · exact ⟨rest, rfl⟩
    · obtain ⟨rest', rfl⟩ := ih h.2 hin
      rw [h.waits x rfl] at hwaits
      cases hwaits

/-- Every callback in a stack is waited for in it. -/
theorem Stacked.awaited {stack : List Frame} (h : Stacked stack) {x : Frame} (hx : x ∈ stack)
    {id : HandleId} (hid : x.callback? = some id) : ∃ y ∈ stack, y.awaits? = some id := by
  induction stack with
  | nil => cases hx
  | cons z rest ih =>
    rcases List.mem_cons.mp hx with rfl | hx
    · cases rest with
      | nil => exact absurd hid (by simp [show x.callback? = none from h.1])
      | cons y rest => exact ⟨y, by simp, h.1.2 id hid⟩
    · obtain ⟨y, hy, hay⟩ := ih h.2 hx
      exact ⟨y, List.mem_cons_of_mem z hy, hay⟩

/-- The spots that a progress goes on with. -/
def Progress.spots : Progress → Multiset Spot
  | .goto x => x.spots
  | .call x y => x.spots + y.spots
  | .spawn _ x y => x.spots + y.spots
  | .finish _ => 0

theorem Progress.spots_call {x y : Frame} (hy : y.spots = 0) :
    (Progress.call x y).spots = x.spots := by
  simp only [spots, hy, add_zero]

/-! ## Sums over frames -/

section Tally
variable {α : Type} (f : Frame → Multiset α)

/-- What the frames hold that a progress goes on with. -/
def Progress.tally : Progress → Multiset α
  | .goto x => f x
  | .call x y => f x + f y
  | .spawn _ x y => f x + f y
  | .finish _ => 0

/-- What a thread's frames hold. -/
def Thread.tally (th : Thread) : Multiset α := (th.stack.map f).sum

/-- What the frames of all threads hold. -/
def System.tally (w : System) : Multiset α := (w.threads.toList.map (Thread.tally f)).sum

end Tally

/-- The progress of a frame keeps to the discipline of stacks. -/
def Progress.Fits (frame : Frame) : Progress → Prop
  | .goto x => ∀ id, x.callback? = some id → frame.callback? = some id
  | .call x y => x.Over [y] ∧ ∀ id, y.callback? = some id → frame.callback? = some id
  | .spawn _ x y => x.callback? = none ∧ y.callback? = none
  | .finish _ => True

namespace Thread

/-- The spots that a thread's frames occupy. -/
def spots (th : Thread) : Multiset Spot := (th.stack.map Frame.spots).sum

theorem stacked_progress {th : Thread} {frame : Frame} {rest : List Frame}
    (h : Stacked (frame :: rest)) {p : Progress} (hp : p.Fits frame) :
    Stacked (th.progress rest p).stack := by
  cases p with
  | goto x => exact ⟨h.1.of_callback hp, h.2⟩
  | call x y => exact ⟨hp.1, h.1.of_callback hp.2, h.2⟩
  | spawn name x y =>
    refine ⟨h.1.of_callback fun id hid => ?_, h.2⟩
    exact absurd hid (by simp [hp.2])
  | finish o =>
    cases rest with
    | nil => trivial
    | cons y rest => exact ⟨h.2.1.of_callback (y.callback?_receive o), h.2.2⟩

theorem tally_progress {α : Type} {f : Frame → Multiset α}
    (hf : ∀ x o, x.waits = true → f (x.receive o) = f x) (th : Thread) {frame : Frame}
    {rest : List Frame} (h : Stacked (frame :: rest)) (p : Progress) :
    (th.progress rest p).tally f + (p.spawned.map (tally f)).sum = (rest.map f).sum + p.tally f := by
  cases p with
  | goto x => simp [progress, tally, Progress.spawned, Progress.tally, add_comm]
  | call x y =>
    simp only [progress, tally, Progress.spawned, Progress.tally, List.map_cons, List.sum_cons,
      List.map_nil, List.sum_nil]
    abel
  | spawn name x y =>
    simp only [progress, tally, Progress.spawned, Progress.tally, List.map_cons, List.sum_cons,
      List.map_nil, List.sum_nil]
    abel
  | finish o =>
    cases rest with
    | nil => simp [progress, deliver, tally, Progress.spawned, Progress.tally]
    | cons y rest =>
      have hy : f (y.receive o) = f y := hf y o (h.waits y rfl)
      simp [progress, deliver, tally, Progress.spawned, Progress.tally, hy]

end Thread

namespace System

/-- Every stack is disciplined. -/
def Disciplined (w : System) : Prop := ∀ th ∈ w.threads, Stacked th.stack

/-- The spots that the frames of all threads occupy. -/
def spots (w : System) : Multiset Spot := (w.threads.toList.map Thread.spots).sum

theorem tally_modify {α : Type} (f : Frame → Multiset α) (b : Thread) :
    ∀ (xs : List Thread) (i : Nat) (a : Thread), xs[i]? = some a →
      ((xs.modify i fun _ => b).map (Thread.tally f)).sum + a.tally f =
        (xs.map (Thread.tally f)).sum + b.tally f
  | [], i, a, hi => by simp at hi
  | x :: xs, 0, a, hi => by
    cases hi
    simp only [List.modify_zero_cons, List.map_cons, List.sum_cons]
    abel
  | x :: xs, i + 1, a, hi => by
    have ih := tally_modify f b xs i a (by simpa using hi)
    simp only [List.modify_succ_cons, List.map_cons, List.sum_cons, add_assoc, ih]

/-- What the frames of all threads hold is held by a frame of some thread. -/
theorem mem_tally {α : Type} {f : Frame → Multiset α} {w : System} {x : α} :
    x ∈ w.tally f ↔ ∃ th ∈ w.threads, ∃ frame ∈ th.stack, x ∈ f frame := by
  have hsum : ∀ (xs : List (Multiset α)), x ∈ xs.sum ↔ ∃ m ∈ xs, x ∈ m := by
    intro xs
    induction xs with
    | nil => simp
    | cons m xs ih => simp [ih]
  simp only [tally, Thread.tally, hsum, List.mem_map, Array.mem_toList_iff]
  constructor
  · rintro ⟨_, ⟨th, hth, rfl⟩, hx⟩
    obtain ⟨_, hm, hx⟩ := (hsum _).mp hx
    obtain ⟨frame, hframe, rfl⟩ := List.mem_map.mp hm
    exact ⟨th, hth, frame, hframe, hx⟩
  · rintro ⟨th, hth, frame, hframe, hx⟩
    exact ⟨_, ⟨th, hth, rfl⟩, (hsum _).mpr ⟨_, List.mem_map.mpr ⟨frame, hframe, rfl⟩, hx⟩⟩

/-- A spot is occupied by a frame of some thread. -/
theorem mem_spots {w : System} {x : Spot} :
    x ∈ w.spots ↔ ∃ th ∈ w.threads, ∃ frame ∈ th.stack, x ∈ frame.spots := mem_tally

theorem acting?_eq_some {w : System} {t : ThreadId} {frame : Frame} (h : w.acting? t = some frame) :
    ∃ name rest out, w.thread? t = some ⟨name, frame :: rest, out⟩ ∧
      frame.isReady w.store = true := by
  unfold acting? at h
  split at h
  · next name frame' rest out hth =>
    split at h
    · next hr =>
      cases h
      exact ⟨name, rest, out, hth, hr⟩
    · cases h
  · cases h

/-- A thread can act exactly if the frame at its top can. -/
theorem canAct_iff {w : System} {t : ThreadId} :
    w.canAct t = true ↔ ∃ frame, w.acting? t = some frame := by
  unfold canAct acting?
  cases w.thread? t with
  | none => simp
  | some th =>
    obtain ⟨name, stack, out⟩ := th
    cases stack with
    | nil => simp [Thread.isReady]
    | cons frame rest => by_cases h : frame.isReady w.store <;> simp [Thread.isReady, h]

theorem act_eq {w : System} {t : ThreadId} {name : ThreadName} {frame : Frame} {rest : List Frame}
    {out : Option Outcome} (h : w.thread? t = some ⟨name, frame :: rest, out⟩) :
    w.act t =
      ⟨(frame.advance t w.threads.size w.store).1,
        (w.threads.modify t fun _ => (Thread.mk name (frame :: rest) out).progress rest
          (frame.advance t w.threads.size w.store).2) ++
          (frame.advance t w.threads.size w.store).2.spawned⟩ := by
  unfold thread? at h
  obtain ⟨store, threads⟩ := w
  simp only [act, h, Thread.act]

theorem thread?_mem {w : System} {t : ThreadId} {th : Thread} (h : w.thread? t = some th) :
    th ∈ w.threads := Array.mem_of_getElem? h

/-- A frame that can act stands on a stack. -/
theorem acting_mem {w : System} {t : ThreadId} {x : Frame} (h : w.acting? t = some x) :
    ∃ th ∈ w.threads, x ∈ th.stack := by
  obtain ⟨name, rest, out, hth, -⟩ := acting?_eq_some h
  exact ⟨_, thread?_mem hth, List.mem_cons_self⟩

theorem mem_tally_acting {α : Type} {f : Frame → Multiset α} {w : System} {t : ThreadId} {x : Frame} {y : α}
    (h : w.acting? t = some x) (hy : y ∈ f x) : y ∈ w.tally f := by
  obtain ⟨th, hth, hx⟩ := acting_mem h
  exact mem_tally.mpr ⟨th, hth, x, hx, hy⟩

/-- An action of a thread concerns that thread, and may start another. -/
theorem thread?_act {w : System} {t : ThreadId} {frame : Frame} (h : w.acting? t = some frame) :
    ∃ th rest, w.thread? t = some th ∧ th.stack = frame :: rest ∧ t < w.threads.size ∧
      ∀ t', (w.act t).thread? t' =
        if t = t' then some (th.progress rest (frame.advance t w.threads.size w.store).2)
        else if t' < w.threads.size then w.thread? t'
        else (frame.advance t w.threads.size w.store).2.spawned[t' - w.threads.size]? := by
  obtain ⟨name, rest, out, hth, -⟩ := acting?_eq_some h
  have hlt : t < w.threads.size := (Array.getElem?_eq_some_iff.mp hth).choose
  refine ⟨_, rest, hth, rfl, hlt, fun t' => ?_⟩
  rw [act_eq hth]
  generalize frame.advance t w.threads.size w.store = r
  unfold thread? at hth ⊢
  simp only [← Array.getElem?_toList, Array.toList_appendList, Array.toList_modify] at hth ⊢
  rw [List.getElem?_append, List.length_modify, Array.length_toList]
  split
  · next hsize =>
    rw [List.getElem?_modify]
    split
    · next heq =>
      subst heq
      simp [hth]
    · simp
  · next hsize =>
    rw [if_neg]
    rintro rfl
    exact hsize hlt

/-- An action of a thread takes away what its top frame holds and adds what the frames hold that it
goes on with. -/
theorem tally_act {α : Type} {f : Frame → Multiset α}
    (hf : ∀ x o, x.waits = true → f (x.receive o) = f x) {w : System} (hw : w.Disciplined)
    {t : ThreadId} {frame : Frame} (h : w.acting? t = some frame) :
    (w.act t).tally f + f frame =
      w.tally f + (frame.advance t w.threads.size w.store).2.tally f := by
  obtain ⟨name, rest, out, hth, -⟩ := acting?_eq_some h
  rw [act_eq hth]
  generalize frame.advance t w.threads.size w.store = r
  have hp := Thread.tally_progress hf ⟨name, frame :: rest, out⟩
    (hw _ (thread?_mem hth)) r.2
  have hm := tally_modify f ((Thread.mk name (frame :: rest) out).progress rest r.2)
    w.threads.toList t _ (by simpa [thread?] using hth)
  have hold : (Thread.mk name (frame :: rest) out).tally f = f frame + (rest.map f).sum := by
    simp [Thread.tally]
  rw [hold] at hm
  simp only [tally, Array.toList_appendList, Array.toList_modify, List.map_append, List.sum_append]
  -- what the frames below the top hold is on both sides
  apply add_right_cancel (b := (rest.map f).sum)
  calc
    _ = ((w.threads.toList.modify t fun _ => (Thread.mk name (frame :: rest) out).progress rest
          r.2).map (Thread.tally f)).sum + (f frame + (rest.map f).sum) +
          (r.2.spawned.map (Thread.tally f)).sum := by abel
    _ = (w.threads.toList.map (Thread.tally f)).sum +
          (((Thread.mk name (frame :: rest) out).progress rest r.2).tally f +
            (r.2.spawned.map (Thread.tally f)).sum) := by rw [hm]; abel
    _ = _ := by rw [hp]; abel

/-- An action of a thread takes away the spot of its top frame and adds those of the frames that it
goes on with. -/
theorem spots_act {w : System} (hw : w.Disciplined) {t : ThreadId} {frame : Frame}
    (h : w.acting? t = some frame) :
    (w.act t).spots + frame.spots =
      w.spots + (frame.advance t w.threads.size w.store).2.spots := by
  have hspots : ∀ p : Progress, p.spots = p.tally Frame.spots := fun p => by cases p <;> rfl
  rw [hspots]
  exact tally_act Frame.spots_receive hw h

theorem mem_modify {xs : Array Thread} {t : Nat} {b : Thread} {th : Thread}
    (h : th ∈ xs.modify t fun _ => b) : th ∈ xs ∨ th = b := by
  obtain ⟨i, hi⟩ := Array.mem_iff_getElem?.mp h
  rw [Array.getElem?_modify] at hi
  split at hi
  · obtain ⟨a, -, rfl⟩ := Option.map_eq_some_iff.mp hi
    exact Or.inr rfl
  · exact Or.inl (Array.mem_of_getElem? hi)

/-- What holds of every stack, and still of the one that has made progress and of a new one, holds of
every stack after an action. -/
theorem forall_stack_act {P : List Frame → Prop} {w : System} (hw : ∀ th ∈ w.threads, P th.stack)
    {t : ThreadId} {frame : Frame} (h : w.acting? t = some frame)
    (hprogress : ∀ th ∈ w.threads, ∀ rest, th.stack = frame :: rest →
      P (th.progress rest (frame.advance t w.threads.size w.store).2).stack)
    (hspawn : ∀ name x y, (frame.advance t w.threads.size w.store).2 = .spawn name x y → P [x]) :
    ∀ th ∈ (w.act t).threads, P th.stack := by
  obtain ⟨name, rest, out, hth, -⟩ := acting?_eq_some h
  rw [act_eq hth]
  generalize frame.advance t w.threads.size w.store = r at hprogress hspawn
  intro th hin
  rw [← Array.mem_toList_iff, Array.toList_appendList, List.mem_append, Array.mem_toList_iff] at hin
  rcases hin with hin | hin
  · rcases mem_modify hin with hin | rfl
    · exact hw th hin
    · exact hprogress _ (thread?_mem hth) rest rfl
  · cases hr : r.2 with
    | spawn name x y =>
      rw [hr] at hin
      obtain rfl := List.mem_singleton.mp hin
      exact hspawn name x y hr
    | _ => simp [hr, Progress.spawned] at hin

theorem disciplined_act {w : System} (hw : w.Disciplined) {t : ThreadId} {frame : Frame}
    (h : w.acting? t = some frame)
    (hfits : (frame.advance t w.threads.size w.store).2.Fits frame) : (w.act t).Disciplined := by
  refine forall_stack_act hw h (fun th hth rest hstack => ?_) fun name x y hspawn => ?_
  · exact Thread.stacked_progress (hstack ▸ hw th hth) hfits
  · rw [hspawn] at hfits
    exact ⟨hfits.1, trivial⟩

/-! ## Deadlines and threads that join -/

/-- A deadline passes for a flush whose request is pending. -/
theorem expire_cases {w w' : System} {t : ThreadId} (h : w.move? (.expire t) = some w') :
    ∃ th g gate ack rest, w.thread? t = some th ∧
      th.stack = .flush g .deadline gate (.waiting ack) :: rest ∧
      w.store.isAckPending ack = true ∧
      w' = ⟨w.store, w.threads.modify t fun _ => th.progress rest (.finish (.flag false))⟩ := by
  unfold move? at h
  simp only at h
  split at h
  · next th hth =>
    cases h
    obtain ⟨⟨name, stack, out⟩, hold, hth⟩ := Option.bind_eq_some_iff.mp hth
    cases stack with
    | nil => simp [Thread.expired?] at hth
    | cons frame rest =>
      obtain ⟨outcome, hframe, rfl⟩ := Option.map_eq_some_iff.mp hth
      unfold Frame.expired? at hframe
      split at hframe
      · split at hframe
        · next hpending =>
          cases hframe
          exact ⟨_, _, _, _, rest, hold, rfl, hpending, rfl⟩
        · cases hframe
      · cases hframe
  · cases h

/-- A flush that gives up takes what it holds with it. -/
theorem tally_expire {α : Type} {f : Frame → Multiset α}
    (hf : ∀ x o, x.waits = true → f (x.receive o) = f x) {w : System} (hw : w.Disciplined)
    {t : ThreadId} {th : Thread} {frame : Frame} {rest : List Frame} (hth : w.thread? t = some th)
    (hstack : th.stack = frame :: rest) (outcome : Outcome) :
    System.tally f ⟨w.store, w.threads.modify t fun _ => th.progress rest (.finish outcome)⟩ +
      f frame = w.tally f := by
  have hp := th.tally_progress hf (hstack ▸ hw _ (thread?_mem hth)) (.finish outcome)
  have hm := tally_modify f (th.progress rest (.finish outcome)) w.threads.toList t _
    (by simpa [thread?] using hth)
  have hold : th.tally f = f frame + (rest.map f).sum := by simp [Thread.tally, hstack]
  simp only [Progress.spawned, Progress.tally, List.map_nil, List.sum_nil, add_zero] at hp
  rw [hold, hp, ← add_assoc] at hm
  simpa [tally] using add_right_cancel hm

theorem forall_stack_expire {P : List Frame → Prop} {w w' : System}
    (hw : ∀ th ∈ w.threads, P th.stack) {t : ThreadId} (h : w.move? (.expire t) = some w')
    (hfinish : ∀ th ∈ w.threads, ∀ g patience gate point rest o,
      th.stack = .flush g patience gate point :: rest → P (th.progress rest (.finish o)).stack) :
    ∀ th ∈ w'.threads, P th.stack := by
  obtain ⟨th, g, gate, ack, rest, hth, hstack, -, rfl⟩ := expire_cases h
  intro th' hin
  rcases mem_modify hin with hin | rfl
  · exact hw th' hin
  · exact hfinish th (thread?_mem hth) g .deadline gate (.waiting ack) rest _ hstack

theorem forall_stack_join {P : List Frame → Prop} {w : System} (hw : ∀ th ∈ w.threads, P th.stack)
    (name : ThreadName) (script : List Command) (hscript : P [.commands script []]) :
    ∀ th ∈ (w.occur (.join name script)).threads, P th.stack := by
  intro th hin
  simp only [occur, spawn, Array.mem_push] at hin
  rcases hin with hin | rfl
  · exact hw th hin
  · exact hscript

theorem spots_expire {w w' : System} (hw : w.Disciplined) {t : ThreadId}
    (h : w.move? (.expire t) = some w') :
    w'.store = w.store ∧ w'.spots = w.spots ∧ w'.Disciplined := by
  refine ⟨?_, ?_, forall_stack_expire hw h fun th hth g patience gate point rest o hstack =>
    Thread.stacked_progress (hstack ▸ hw th hth) trivial⟩
  all_goals obtain ⟨th, g, gate, ack, rest, hth, hstack, -, rfl⟩ := expire_cases h
  · rfl
  · exact (add_zero _).symm.trans (tally_expire Frame.spots_receive hw hth hstack _)

theorem tally_join {α : Type} (f : Frame → Multiset α) (w : System) (name : ThreadName)
    (script : List Command) (hf : f (.commands script []) = 0) :
    (w.occur (.join name script)).tally f = w.tally f := by
  simp [occur, spawn, tally, Thread.tally, hf]

theorem spots_join {w : System} (hw : w.Disciplined) (name : ThreadName) (script : List Command) :
    (w.occur (.join name script)).store = w.store ∧ (w.occur (.join name script)).spots = w.spots ∧
      (w.occur (.join name script)).Disciplined :=
  ⟨rfl, tally_join Frame.spots w name script rfl, forall_stack_join hw name script ⟨rfl, trivial⟩⟩

end System

end Reclaim

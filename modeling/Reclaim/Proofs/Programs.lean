import Reclaim.Proofs.Sites

/-!
# Programs over one guard

Programs register handles with a guard, release them and give up shares of them. What their frames, and the
frames that a worker and a flush add, do to the names and shares of handles is here; nothing they do
interrupts a source or makes a callback fail that would have returned.

* `Deal`, `Deal.command` : what programs are made of, and the command for it;
* `Frame.Tame` : the frames of such programs, of their guard's worker and of flushes; `Frame.isMinor`,
  `Frame.isLate` : those that carry out no program, and those that are left when all programs have ended;
* `Store.Keeps` : names and shares of handles, failing addresses and the kind of guards are as they were;
* `Frame.Neutral`, `Frame.advance_neutral` : what every frame does that is not about to begin a deal or to
  give a new handle its place.
-/

namespace Reclaim

/-- Something that a program does. -/
inductive Deal where
  /-- Registers a resource, whose handle goes into the variable. -/
  | register (name : String) (r : Registration Command)
  /-- Releases the handle in the variable, by itself or through the guard. -/
  | release (name : String) (through : Bool)
  /-- Gives up a share of the handle in the variable; with the last share the handle is dropped. -/
  | drop (name : String)

/-- The command for it, with the name of the guard. -/
def Deal.command (guard : String) : Deal → Command
  | register name r => .register (.guard guard) name r
  | release name through => .release name (if through then some guard else none)
  | drop name => .drop name

/-- What a program does by this command. -/
def Command.deal? : Command → Option Deal
  | .register _ name r => some (.register name r)
  | .release name via => some (.release name via.isSome)
  | .drop name => some (.drop name)
  | _ => none

@[simp] theorem Deal.deal?_command (guard : String) (d : Deal) : (d.command guard).deal? = some d := by
  cases d with
  | release name through => cases through <;> rfl
  | _ => rfl

/-- The callback carries out no commands. -/
def Callback.isQuiet (f : ReleaseFn) : Bool := (f.body.getD []).isEmpty

/-- The callback of a registration carries out no commands. -/
def Registration.isQuiet (r : Registration Command) : Bool :=
  match r.callback with
  | some f => f.isQuiet
  | none => true

/-- What a program registers has a quiet callback. -/
def Deal.isQuiet : Deal → Bool
  | register _ r => r.isQuiet
  | _ => true

/-! ## Frames of programs -/

/-- The command of a program, or a flush that opens the gate. -/
inductive Command.Tame (guard : String) : Command → Prop
  | deal {d : Deal} (hquiet : d.isQuiet = true) : Tame guard (d.command guard)
  | flush (patience : Patience) : Tame guard (.flush guard patience .opens)

/-- A worker that is not about to end and has not seen its sink panic. -/
def WorkerPoint.isRegular : WorkerPoint → Bool
  | aborted _ | leaving _ | discarding .. | farewell _ | stopping _ => false
  | _ => true

/-- A registration whose handle does not take the place of another. -/
def RegisterPoint.isPlain : RegisterPoint → Bool
  | dropping _ => false
  | _ => true

namespace Frame

/-- A frame of a program over the guard, of its worker, or of a flush. -/
def Tame (guard : String) (g : GuardId) : Frame → Prop
  | .commands todo _ => ∀ c ∈ todo, c.Tame guard
  | .register q p => q.guard = g ∧ q.registration.isQuiet = true ∧ p.isPlain = true
  | .worker g' p => g' = g ∧ p.isRegular = true
  | .discard .. | .shutdown .. | .start .. | .bindGuard .. | .processWide .. => False
  | _ => True

/-- A frame that carries out nothing of a program, and no registration that is not in its place yet. -/
def isMinor : Frame → Bool
  | .commands todo _ => todo.isEmpty
  | .register _ (.report _) => true
  | .register .. => false
  | _ => true

/-- A frame that there can be when all programs have ended. -/
def isLate : Frame → Bool
  | .commands todo _ => (todo.filterMap Command.deal?).isEmpty
  | .give _ | .callback .. | .flush .. | .rest .. | .worker .. => true
  | _ => false

/-- What a frame goes on with after something that it has waited for is as tame. -/
theorem Tame.receive {guard : String} {g : GuardId} {x : Frame} (hx : x.Tame guard g)
    (hwaits : x.waits = true) (o : Outcome) : (x.receive o).Tame guard g := by
  cases waiting_of_waits hwaits with
  | commands => exact hx
  | register => exact absurd hx.2.2 (by simp [RegisterPoint.isPlain])
  | worker => cases o <;> exact ⟨hx.1, rfl⟩
  | _ => cases o <;> trivial

/-- It is as late, too. -/
theorem late_receive {x : Frame} (hx : x.isLate = true) (hwaits : x.waits = true) (o : Outcome) :
    (x.receive o).isLate = true := by
  cases waiting_of_waits hwaits with
  | commands => exact hx
  | register | release => cases hx
  | _ => cases o <;> rfl

end Frame

/-! ## What is kept -/

namespace Store

/-- The addresses at which each probe fails. -/
def failing (s : Store) : List (List Address) := s.probes.toList.map Probe.failing

/-- How a run of the callback of a resource ends: its probe fails it, or else the callback ends as it
does. -/
def ending (s : Store) (e : Entry) : Option Panic :=
  if (s.tellProbe e).2 then some (Probe.failure e.address) else e.callback.panic

theorem tellProbe_eq (s : Store) (e : Entry) : (s.tellProbe e).2 =
    ((e.callback.probe.bind fun i => s.failing[i]?).any fun xs => xs.contains e.address) := by
  unfold tellProbe failing
  cases hprobe : e.callback.probe with
  | none => rfl
  | some i =>
    simp only [Option.bind_some, List.getElem?_map, Array.getElem?_toList]
    cases s.probes[i]? <;> simp [Probe.record]

theorem ending_congr {s s' : Store} (h : s'.failing = s.failing) (e : Entry) : s'.ending e = s.ending e := by
  simp only [ending, tellProbe_eq, h]

end Store

/-- What a guard is like: its configuration, the call for an item that panics, and whether its source has
been interrupted. -/
def Guard.nature (x : Guard) : Config × Option Nat × Bool :=
  (x.config, x.source.panicsAt, x.source.isInterrupted)

namespace Store

/-- Guards are what they were and where they were, and probes fail where they failed. -/
structure Bides (s s' : Store) : Prop where
  guards : s'.names.guards = s.names.guards
  failing : s'.failing = s.failing
  nature : ∀ g, (s'.guard? g).map Guard.nature = (s.guard? g).map Guard.nature

/-- Names and shares of handles are what they were as well. -/
structure Keeps (s s' : Store) : Prop extends Bides s s' where
  handles : s'.names.handles = s.names.handles
  owners : ∀ id, (s'.resource? id).map Entry.owners = (s.resource? id).map Entry.owners

theorem Bides.refl (s : Store) : s.Bides s := ⟨rfl, rfl, fun _ => rfl⟩

theorem Bides.trans {s₁ s₂ s₃ : Store} (h : s₁.Bides s₂) (h' : s₂.Bides s₃) : s₁.Bides s₃ :=
  ⟨h'.guards.trans h.guards, h'.failing.trans h.failing, fun g => (h'.nature g).trans (h.nature g)⟩

theorem Keeps.refl (s : Store) : s.Keeps s := ⟨.refl s, rfl, fun _ => rfl⟩

theorem Keeps.trans {s₁ s₂ s₃ : Store} (h : s₁.Keeps s₂) (h' : s₂.Keeps s₃) : s₁.Keeps s₃ :=
  ⟨h.toBides.trans h'.toBides, h'.handles.trans h.handles, fun id => (h'.owners id).trans (h.owners id)⟩

theorem keeps_modifyGuard (s : Store) (g : GuardId) {f : Guard → Guard}
    (hf : ∀ x, s.guard? g = some x → (f x).nature = x.nature) : s.Keeps (s.modifyGuard g f) := by
  refine ⟨⟨rfl, rfl, fun g' => ?_⟩, rfl, fun _ => rfl⟩
  rw [guard?_modifyGuard]
  split
  · next heq =>
    subst heq
    cases hx : s.guard? g with
    | none => rfl
    | some x => simp [hf x hx]
  · rfl

theorem bides_modifyEntry (s : Store) (id : HandleId) (f : Entry → Entry) : s.Bides (s.modifyEntry id f) := by
  refine ⟨?_, ?_, fun g => by rw [guard?_modifyEntry]⟩ <;>
  · unfold modifyEntry
    split <;> rfl

theorem keeps_modifyEntry (s : Store) (id : HandleId) {f : Entry → Entry}
    (hf : ∀ e, (f e).owners = e.owners) : s.Keeps (s.modifyEntry id f) := by
  refine ⟨s.bides_modifyEntry id f, ?_, fun id' => ?_⟩
  · unfold modifyEntry
    split <;> rfl
  · rw [resource?_modifyEntry]
    split
    · cases s.resource? id' <;> simp [hf]
    · rfl

theorem keeps_modifyStats (s : Store) (g : GuardId) (f : Stats → Stats) : s.Keeps (s.modifyStats g f) :=
  keeps_modifyGuard s g fun _ _ => rfl

theorem keeps_log (s : Store) (level : Level) (text : String) : s.Keeps (s.log level text) :=
  ⟨⟨rfl, rfl, fun _ => rfl⟩, rfl, fun _ => rfl⟩

theorem keeps_markReleased (s : Store) (g : GuardId) (id : HandleId) :
    s.Keeps ((s.markReleased id).untrack g id) := by
  have hentry : s.Keeps (s.markReleased id) := keeps_modifyEntry s id fun _ => rfl
  exact hentry.trans (keeps_modifyGuard _ g fun _ _ => rfl)

theorem keeps_retire (s : Store) (id : HandleId) : s.Keeps (s.retire id).1 := by
  unfold retire
  repeat' split
  · exact .refl s
  · exact .refl s
  · exact keeps_markReleased s _ id

theorem keeps_takeActive (s : Store) (g : GuardId) (id : HandleId) : s.Keeps (s.takeActive g id).1 := by
  unfold takeActive
  repeat' split
  all_goals first
    | exact .refl s
    | exact keeps_markReleased s g id

theorem keeps_endUse (s : Store) (id : HandleId) : s.Keeps (s.endUse id).1 := by
  unfold endUse
  split
  · exact .refl s
  · exact keeps_modifyEntry s id fun _ => rfl

theorem keeps_countReleased (s : Store) (id : HandleId) : s.Keeps (s.countReleased id) := by
  unfold countReleased
  split
  · exact .refl s
  · exact (keeps_modifyStats s _ _).trans (keeps_log ..)

theorem keeps_emit (s : Store) (g : GuardId) (d : Diagnostic) : s.Keeps (s.emit g d).1 := by
  unfold emit
  split
  · exact .refl s
  · have hoffer : s.Keeps (s.modifyGuard g (·.offer d)) := keeps_modifyGuard s g fun _ _ => rfl
    exact hoffer.trans ⟨⟨rfl, rfl, fun _ => rfl⟩, rfl, fun _ => rfl⟩

theorem keeps_tellProbe (s : Store) (e : Entry) : s.Keeps (s.tellProbe e).1 := by
  unfold tellProbe
  split
  · exact .refl s
  · next i _ =>
    split
    · exact .refl s
    · next probe hprobe =>
      refine ⟨⟨rfl, ?_, fun _ => rfl⟩, rfl, fun _ => rfl⟩
      -- a probe fails where it failed before
      refine List.ext_getElem? fun j => ?_
      simp only [failing, Array.toList_modify, List.getElem?_map, List.getElem?_modify, Array.getElem?_toList]
      split
      · next heq =>
        subst heq
        simp [hprobe, Probe.record]
      · simp

theorem keeps_enqueue (s : Store) (g : GuardId) (item : Item) : s.Keeps (s.enqueue g item).1 := by
  unfold enqueue
  split
  · exact .refl s
  · next source hsource =>
    obtain ⟨x, hx, hput⟩ := Option.bind_eq_some_iff.mp hsource
    obtain ⟨-, -, rfl⟩ := Source.enqueue_eq_some hput
    refine keeps_modifyGuard s g fun y hy => ?_
    cases hx.symm.trans hy
    rfl

theorem keeps_callNext (s : Store) (g : GuardId) : s.Keeps (s.callNext g).1 := by
  unfold callNext
  split
  · exact .refl s
  · next x hx =>
    refine keeps_modifyGuard s g fun y hy => ?_
    cases hx.symm.trans hy
    rfl

theorem keeps_pollNext (s : Store) (g : GuardId) : s.Keeps (s.pollNext g).1 := by
  unfold pollNext
  split
  · exact .refl s
  · next x hx =>
    have hsource : s.Keeps (s.modifySource g fun _ => x.source.poll.1) := by
      refine keeps_modifyGuard s g fun y hy => ?_
      cases hx.symm.trans hy
      rcases x.source.poll_eq with ⟨heq, -⟩ | heq | ⟨item, rest, -, -, heq | ⟨k, -, -, heq⟩⟩ <;> rw [heq] <;>
        rfl
    simp only
    split
    · exact hsource.trans ⟨⟨rfl, rfl, fun _ => rfl⟩, rfl, fun _ => rfl⟩
    · exact hsource

theorem keeps_takeAck (s : Store) (k : Nat) : s.Keeps (s.takeAck k).1 := by
  unfold takeAck
  split <;> exact ⟨⟨rfl, rfl, fun _ => rfl⟩, rfl, fun _ => rfl⟩

theorem keeps_permitPending (s : Store) (g : GuardId) : s.Keeps (s.permitPending g) :=
  keeps_modifyGuard s g fun _ _ => rfl

/-- All callbacks are quiet. -/
def Calm (s : Store) : Prop := ∀ id e, s.resource? id = some e → e.callback.isQuiet = true

/-- The source of a guard is a queue that is not interrupted, and its sink takes everything. -/
def Open (s : Store) (g : GuardId) : Prop :=
  ∃ x, s.guard? g = some x ∧ x.source.isInterrupted = false ∧ x.source.panicsAt = none ∧
    ∀ told d, x.config.sink.panicsAt told d = false

theorem Bides.opens {s s' : Store} {g : GuardId} (hs : s.Bides s') (ho : s.Open g) : s'.Open g := by
  obtain ⟨y, hy, hint, hpanics, hquiet⟩ := ho
  have hnature := hs.nature g
  rw [hy, Option.map_some] at hnature
  obtain ⟨y', hy', heq⟩ := Option.map_eq_some_iff.mp hnature
  obtain ⟨hconfig, heq⟩ := Prod.mk.inj heq
  obtain ⟨hpanics', hint'⟩ := Prod.mk.inj heq
  exact ⟨y', hy', hint'.trans hint, hpanics'.trans hpanics, fun told d => hconfig ▸ hquiet told d⟩

end Store

/-! ## What frames do -/

/-- An action that is not about to begin a deal or to give a new handle its place: the accounts of shares
and releases stay as they are. -/
structure Frame.Neutral (guard : String) (g : GuardId) (s : Store) (x : Frame) (r : Store × Progress) :
    Prop where
  keeps : s.Keeps r.1
  /-- Who asks for a release claims it next. -/
  asks : ∀ id, r.2.spots.count (.asking id) + (x.marks s).count (id, .claimed .release true) +
    (x.marks s).count (id, .claimed .release false) = x.spots.count (.asking id)
  spawned : r.2.spawned = []
  tame : ∀ y ∈ r.2.frames, y.Tame guard g
  minor : ∀ y ∈ r.2.frames, y.isMinor = true
  late : x.isLate = true → ∀ y ∈ r.2.frames, y.isLate = true

/-- Whether the frame is about to claim a release. -/
def Frame.isRetire : Frame → Bool
  | .release _ .retire => true
  | _ => false

theorem Frame.not_asking {x : Frame} (h : x.isRetire = false) (id : HandleId) : .asking id ∉ x.spots := by
  unfold spots
  split <;> simp
  cases h

/-- Only a call that is about to claim a release claims one. -/
theorem Frame.not_claimed {x : Frame} (h : x.isRetire = false) (s : Store) (id : HandleId) (won : Bool) :
    (id, .claimed .release won) ∉ x.marks s := by
  have hthrown : ∀ g, (id, .claimed .release won) ∉ s.thrownAway g := fun g hin => by
    rw [Store.thrownAway_eq] at hin
    simp at hin
  unfold marks
  split
  · unfold Command.marks
    repeat' split
    all_goals first
      | exact hthrown _
      | exact List.not_mem_nil
  · split <;> simp
  · cases h
  · simp [Store.returnedBy]
  · simp [Store.returnedBy]
  · unfold Store.dropMark
    repeat' split
    all_goals simp
  · simp
  · exact hthrown _
  · unfold Store.takenBy
    split <;> simp
  · simp
  · unfold Store.abortedBy
    repeat' split
    all_goals simp
  · simp
  · exact hthrown _
  · simp

/-- A minor frame that may come after another. -/
structure Frame.Follows (guard : String) (g : GuardId) (x y : Frame) : Prop where
  retire : y.isRetire = false
  tame : y.Tame guard g
  minor : y.isMinor = true
  late : x.isLate = true → y.isLate = true

section Frames
variable {guard : String} {g : GuardId} {s s' : Store} {x y : Frame} {r : Store × Progress}

theorem Frame.Neutral.of_frames (hx : x.isRetire = false) (hs : s.Keeps r.1) (hspawn : r.2.spawned = [])
    (hframes : ∀ y ∈ r.2.frames, x.Follows guard g y) : x.Neutral guard g s r where
  keeps := hs
  asks id := by
    have hspots : r.2.spots.count (.asking id) = 0 := by
      rw [Multiset.count_eq_zero]
      generalize r.2 = p at hframes hspawn
      cases p with
      | goto y => exact Frame.not_asking (hframes y List.mem_cons_self).retire id
      | call y z =>
        rw [Progress.spots, Multiset.mem_add, not_or]
        exact ⟨Frame.not_asking (hframes y List.mem_cons_self).retire id,
          Frame.not_asking (hframes z (by simp [Progress.frames])).retire id⟩
      | spawn => cases hspawn
      | finish => exact Multiset.notMem_zero _
    rw [hspots, List.count_eq_zero.mpr (Frame.not_claimed hx s id true),
      List.count_eq_zero.mpr (Frame.not_claimed hx s id false), Multiset.count_eq_zero.mpr (Frame.not_asking hx id)]
  spawned := hspawn
  tame y hy := (hframes y hy).tame
  minor y hy := (hframes y hy).minor
  late h y hy := (hframes y hy).late h

theorem Frame.Neutral.of_goto (hx : x.isRetire = false) (hs : s.Keeps s') (hy : x.Follows guard g y) :
    x.Neutral guard g s (s', .goto y) := .of_frames hx hs rfl (List.forall_mem_singleton.mpr hy)

theorem Frame.Neutral.of_call {z : Frame} (hx : x.isRetire = false) (hs : s.Keeps s')
    (hy : x.Follows guard g y) (hz : x.Follows guard g z) : x.Neutral guard g s (s', .call y z) :=
  .of_frames hx hs rfl (List.forall_mem_cons.mpr ⟨hy, List.forall_mem_singleton.mpr hz⟩)

theorem Frame.Neutral.of_finish (hx : x.isRetire = false) (hs : s.Keeps s') (o : Outcome) :
    x.Neutral guard g s (s', .finish o) := .of_frames hx hs rfl (List.forall_mem_nil _)

theorem endRelease_neutral (hx : x.isRetire = false) (hlate : x.isLate = false) (id : HandleId)
    (o : Outcome) : x.Neutral guard g s (endRelease s id o) := by
  have hs := s.keeps_endUse id
  unfold endRelease
  generalize s.endUse id = r at hs
  obtain ⟨s', last⟩ := r
  cases last
  · exact .of_finish hx hs o
  · exact .of_call hx hs ⟨rfl, trivial, rfl, by simp [hlate]⟩ ⟨rfl, trivial, rfl, by simp [hlate]⟩

theorem ReleasePoint.advance_neutral (id : HandleId) (p : ReleasePoint) :
    Frame.Neutral guard g s (.release id p) (p.advance s id) := by
  cases p with
  | retire =>
    have hs := s.keeps_retire id
    have hmarks : (Frame.release id .retire).marks s = [(id, .claimed .release (s.retire id).2)] := rfl
    simp only [advance]
    generalize s.retire id = r at hs hmarks
    obtain ⟨s', won⟩ := r
    cases won <;>
    · refine ⟨hs, fun id' => ?_, rfl, List.forall_mem_singleton.mpr trivial,
        List.forall_mem_singleton.mpr rfl, fun h => by cases h⟩
      rw [hmarks]
      by_cases hid : id = id' <;> simp [Progress.spots, Frame.spots, hid, Ne.symm]
  | count =>
    exact .of_call rfl (s.keeps_countReleased id) ⟨rfl, trivial, rfl, fun h => by cases h⟩
      ⟨rfl, trivial, rfl, fun h => by cases h⟩
  | running => exact .of_goto rfl (.refl s) ⟨rfl, trivial, rfl, fun h => by cases h⟩
  | lost | ran panic => exact endRelease_neutral rfl rfl id _

theorem CallbackPoint.advance_neutral {thread : ThreadId} (hs : s.Calm) (id : HandleId) (p : CallbackPoint) :
    Frame.Neutral guard g s (.callback id p) (p.advance thread s id) := by
  cases p with
  | enter =>
    simp only [advance]
    split
    · exact .of_finish rfl (.refl s) _
    · next e he =>
      have hbegin : s.Keeps (s.beginCall id e thread).1 := ⟨⟨rfl, rfl, fun _ => rfl⟩, rfl, fun _ => rfl⟩
      have htell := hbegin.trans (Store.keeps_tellProbe _ e)
      generalize (s.beginCall id e thread).1.tellProbe e = r at htell
      obtain ⟨s', fails⟩ := r
      cases fails
      · cases hbody : e.callback.body with
        | none => exact .of_finish rfl htell _
        | some body =>
          obtain rfl : body = [] := by simpa [Callback.isQuiet, hbody] using hs id e he
          exact .of_call rfl htell ⟨rfl, List.forall_mem_nil _, rfl, fun _ => rfl⟩ ⟨rfl, trivial, rfl, fun _ => rfl⟩
      · exact .of_finish rfl htell _
  | running call => exact .of_goto rfl (.refl s) ⟨rfl, trivial, rfl, fun _ => rfl⟩
  | ran call replies =>
    simp only [advance]
    split
    · exact .of_finish rfl (.refl s) _
    · have hend : s.Keeps (s.endCall call replies) := ⟨⟨rfl, rfl, fun _ => rfl⟩, rfl, fun _ => rfl⟩
      exact .of_finish rfl hend _

theorem DropPoint.advance_neutral (id : HandleId) (p : DropPoint) :
    Frame.Neutral guard g s (.drop id p) (p.advance s id) := by
  cases p with
  | check =>
    simp only [advance]
    split
    · exact .of_goto rfl (.refl s) ⟨rfl, trivial, rfl, fun h => by cases h⟩
    · exact .of_finish rfl (.refl s) _
  | enqueue =>
    simp only [advance]
    split
    · exact .of_finish rfl (.refl s) _
    · next e he =>
      have hput := s.keeps_enqueue e.guard (.reclaim id)
      generalize s.enqueue e.guard (.reclaim id) = r at hput
      obtain ⟨s', accepted⟩ := r
      cases accepted
      · exact .of_goto rfl hput ⟨rfl, trivial, rfl, fun h => by cases h⟩
      · exact .of_finish rfl (hput.trans (Store.keeps_log ..)) _
  | leak =>
    simp only [advance]
    split
    · exact .of_finish rfl (.refl s) _
    · next e he =>
      have hemit := s.keeps_emit e.guard (.leakedAfterStop e.address)
      generalize s.emit e.guard (.leakedAfterStop e.address) = r at hemit
      obtain ⟨s', panic⟩ := r
      cases panic <;> exact .of_finish rfl hemit _

theorem FlushPoint.advance_neutral (g' : GuardId) (patience : Patience) (gate : GateUse) (p : FlushPoint) :
    Frame.Neutral guard g s (.flush g' patience gate p) (p.advance s g' patience gate) := by
  have hflush : ∀ p', Frame.Follows guard g (.flush g' patience gate p) (.flush g' patience gate p') :=
    fun p' => ⟨rfl, trivial, rfl, fun _ => rfl⟩
  cases p with
  | checkStopped | checkInterrupted =>
    simp only [advance]
    split
    · exact .of_finish rfl (.refl s) _
    · exact .of_goto rfl (.refl s) (hflush _)
  | request =>
    have hnew : s.Keeps s.newAck.1 := ⟨⟨rfl, rfl, fun _ => rfl⟩, rfl, fun _ => rfl⟩
    have hput := hnew.trans (Store.keeps_enqueue _ g' (.flush s.newAck.2))
    simp only [advance]
    generalize s.newAck.1.enqueue g' (.flush s.newAck.2) = r at hput
    obtain ⟨s', accepted⟩ := r
    cases accepted
    · have hclose : s'.Keeps (s'.closeAck s.newAck.2) := ⟨⟨rfl, rfl, fun _ => rfl⟩, rfl, fun _ => rfl⟩
      exact .of_finish rfl (hput.trans hclose) _
    · cases gate with
      | opens => exact .of_goto rfl (hput.trans (Store.keeps_permitPending ..)) (hflush _)
      | leaves => exact .of_goto rfl hput (hflush _)
  | waiting k =>
    simp only [advance]
    split
    · exact .of_goto rfl (s.keeps_takeAck k) ⟨rfl, trivial, rfl, fun _ => rfl⟩
    · exact .of_finish rfl (s.keeps_takeAck k) _

/-- A look at an open source does not find it interrupted. -/
theorem Store.Open.pollNext (h : s.Open g) : (s.pollNext g).2 ≠ .interrupted := by
  obtain ⟨x, hx, hopen, -⟩ := h
  have hsource : (s.pollNext g).2 = x.source.poll.2 := by
    simp only [Store.pollNext, hx]
    split <;> rfl
  rw [hsource]
  rcases x.source.poll_eq with ⟨-, hint⟩ | heq | ⟨item, rest, -, -, heq | ⟨k, -, -, heq⟩⟩
  · rw [hopen] at hint
    cases hint
  all_goals
    rw [heq]
    intro hpoll
    cases hpoll

theorem Store.Open.emit (h : s.Open g) (d : Diagnostic) : (s.emit g d).2 = none := by
  obtain ⟨x, hx, -, -, hquiet⟩ := h
  simp only [Store.emit, hx, Option.map_some, hquiet]
  rfl

theorem WorkerPoint.advance_neutral {p : WorkerPoint} (ho : s.Open g) (hp : p.isRegular = true) :
    Frame.Neutral guard g s (.worker g p) (p.advance s g) := by
  have hworker : ∀ {p' : WorkerPoint}, p'.isRegular = true →
      Frame.Follows guard g (.worker g p) (.worker g p') :=
    fun hp' => ⟨rfl, ⟨rfl, hp'⟩, rfl, fun _ => rfl⟩
  cases p with
  | starting => exact .of_goto rfl (s.keeps_log ..) (hworker rfl)
  | calling =>
    have hstate : s.Keeps (s.setWorkerState g .waiting) := s.keeps_modifyGuard g fun _ _ => rfl
    have hcall := hstate.trans (Store.keeps_callNext _ g)
    have hpanics : ((s.setWorkerState g .waiting).callNext g).2 = false := by
      obtain ⟨x, hx, -, hpanics, -⟩ := ho
      simp [Store.callNext, Store.setWorkerState, hx, Source.ask, hpanics]
    simp only [advance]
    generalize (s.setWorkerState g .waiting).callNext g = r at hcall hpanics
    obtain ⟨s', panics⟩ := r
    obtain rfl : panics = false := hpanics
    exact .of_goto rfl hcall (hworker rfl)
  | polling =>
    have hpoll := s.keeps_pollNext g
    have hopen := ho.pollNext
    simp only [advance]
    generalize s.pollNext g = r at hpoll hopen
    obtain ⟨s', poll⟩ := r
    cases poll with
    | interrupted => exact absurd rfl hopen
    | _ => exact .of_goto rfl hpoll (hworker rfl)
  | took item => exact .of_goto rfl (s.keeps_modifyGuard g fun _ _ => rfl) (hworker rfl)
  | processing item =>
    cases item with
    | flush k => exact .of_goto rfl ⟨⟨rfl, rfl, fun _ => rfl⟩, rfl, fun _ => rfl⟩ (hworker rfl)
    | reclaim id =>
      have htake := s.keeps_takeActive g id
      simp only [advance]
      generalize s.takeActive g id = r at htake
      obtain ⟨s', taken⟩ := r
      cases taken
      · have hcount := htake.trans (Store.keeps_modifyStats s' g fun c => { c with discarded := c.discarded + 1 })
        exact .of_goto rfl (hcount.trans (Store.keeps_log ..)) (hworker rfl)
      · exact .of_goto rfl htake (hworker rfl)
  | reporting id =>
    simp only [advance]
    split
    · exact .of_goto rfl (.refl s) (hworker rfl)
    · next e he =>
      have hemit := s.keeps_emit g (.notProperlyClosed e.address)
      have hquiet := ho.emit (.notProperlyClosed e.address)
      generalize s.emit g (.notProperlyClosed e.address) = r at hemit hquiet
      obtain ⟨s', panic⟩ := r
      obtain rfl : panic = none := hquiet
      exact .of_call rfl hemit ⟨rfl, trivial, rfl, fun _ => rfl⟩ (hworker rfl)
  | running id => exact .of_goto rfl (.refl s) (hworker rfl)
  | settling id panic =>
    cases panic <;> exact .of_goto rfl (s.keeps_modifyStats g _) (hworker rfl)
  | announcing id panic =>
    simp only [advance]
    split
    · exact .of_goto rfl (.refl s) (hworker rfl)
    · next e he =>
      have hemit := s.keeps_emit g (e.announcement panic)
      have hquiet := ho.emit (e.announcement panic)
      generalize s.emit g (e.announcement panic) = r at hemit hquiet
      obtain ⟨s', panic'⟩ := r
      obtain rfl : panic' = none := hquiet
      exact .of_goto rfl hemit (hworker rfl)
  | aborted | leaving | discarding | farewell | stopping => cases hp

/-- Whether the frame is about to begin a command or to take a registration further. -/
def Frame.isMajor : Frame → Bool
  | .commands (_ :: _) _ => true
  | .register _ (.report _) => false
  | .register .. => true
  | _ => false

theorem Frame.advance_neutral {thread fresh : ThreadId} (hs : s.Calm) (ho : s.Open g) (hx : x.Tame guard g)
    (hmajor : x.isMajor = false) : x.Neutral guard g s (x.advance thread fresh s) := by
  cases x with
  | commands todo done =>
    cases todo with
    | nil => exact .of_finish rfl (.refl s) _
    | cons => cases hmajor
  | register q p =>
    cases p with
    | report id => exact .of_finish rfl (.refl s) _
    | _ => cases hmajor
  | give | rest => exact .of_finish rfl (.refl s) _
  | release id p => exact p.advance_neutral id
  | callback id p => exact p.advance_neutral hs id
  | drop id p => exact p.advance_neutral id
  | flush g' patience gate p => exact p.advance_neutral g' patience gate
  | worker g' p =>
    obtain ⟨rfl, hp⟩ := hx
    exact WorkerPoint.advance_neutral ho hp
  | discard | shutdown | start | bindGuard | processWide => exact hx.elim

/-! ## How deals begin -/

variable {todo : List Command} {done : List Reply} {name : String} {id : HandleId}
variable (hguard : s.guardNamed guard = .ok g)
include hguard

theorem advance_register (r : Registration Command) :
    Script.advance s ((Deal.register name r).command guard :: todo) done =
      (s, .call (.register ⟨g, name, r, false⟩ .allocate) (.commands todo done)) := by
  simp [Script.advance, Deal.command, Command.begin, Command.begin?, hguard, bind, Except.bind, pure, Except.pure]

theorem advance_release (through : Bool) (hid : s.handleNamed name = .ok id) :
    Script.advance s ((Deal.release name through).command guard :: todo) done =
      (s.beginUse id, .call (.release id .retire) (.commands todo done)) := by
  cases through <;>
    simp [Script.advance, Deal.command, Command.begin, Command.begin?, hguard, hid, bind, Except.bind, pure,
      Except.pure]

theorem advance_flush (patience : Patience) :
    Script.advance s (.flush guard patience .opens :: todo) done =
      (s, .call (.flush g patience .opens .checkStopped) (.commands todo done)) := by
  simp [Script.advance, Command.begin, Command.begin?, Command.flushGuard, hguard, bind, Except.bind, pure,
    Except.pure]

omit hguard in
variable (guard todo done) in
theorem advance_drop (hid : s.handleNamed name = .ok id) :
    (Script.advance s ((Deal.drop name).command guard :: todo) done).1 = (s.dropShare id).1 ∧
      ((Script.advance s ((Deal.drop name).command guard :: todo) done).2 =
          .call (.drop id .check) (.commands todo done) ∨
        (Script.advance s ((Deal.drop name).command guard :: todo) done).2 =
          .goto (.commands todo (.done :: done))) := by
  simp only [Script.advance, Deal.command, Command.begin, Command.begin?, hid, bind, Except.bind, pure,
    Except.pure]
  generalize s.dropShare id = r
  obtain ⟨s', last⟩ := r
  cases last <;> simp

end Frames

end Reclaim

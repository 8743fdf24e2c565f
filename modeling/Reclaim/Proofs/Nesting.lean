import Reclaim.Proofs.Acts

/-!
# Nesting

What a frame waits for stands right above it: over a callback its commands, over a release or a worker
that runs a callback that callback. A worker's own frame is at the bottom of its thread, so the two
frames at the bottom tell how far the worker has come.

* `Frame.Goes`, `Frame.advance_goes` : what a frame goes on with after an action;
* `Kind`, `Nested`, `System.Nested` : what stands above what; `Frame.Goes.keeps` : an action of a frame
  keeps to it;
* `Stage`, `duty` : how far the worker has come whose frame is at the bottom of a stack;
* `duty_progress` : it gets further only by an action of its own frame or of the callback above that.
-/

namespace Reclaim

/-- What an operation is. -/
inductive Kind where
  | script
  | callback (id : HandleId)
  | worker (guard : GuardId)
  | other
deriving DecidableEq

namespace Frame

/-- What the operation is that the frame carries out. -/
def kind : Frame → Kind
  | .commands .. => .script
  | .callback id _ => .callback id
  | .worker g _ => .worker g
  | _ => .other

/-- What the frame waits for, if that is always the same. -/
def wants? : Frame → Option Kind
  | .callback _ (.running _) => some .script
  | .release id .running => some (.callback id)
  | .worker _ (.running id) => some (.callback id)
  | _ => none

/-- Whether the frame may stand on top of these. -/
def On (x : Frame) : List Frame → Prop
  | [] => True
  | y :: _ => (∀ g, x.kind ≠ .worker g) ∧ ∀ k, y.wants? = some k → x.kind = k

/-- A callback that has not started. -/
def isEnter : Frame → Bool
  | .callback _ .enter => true
  | _ => false

theorem On.of_kind {x y : Frame} {rest : List Frame} (h : x.On rest) (hk : y.kind = x.kind) :
    y.On rest := by
  cases rest with
  | nil => trivial
  | cons z rest => exact ⟨fun g => hk ▸ h.1 g, fun k hz => hk.trans (h.2 k hz)⟩

/-- A frame goes on as what it was after what it waited for; a callback waits for a script. -/
theorem kind_receive {x : Frame} {o : Outcome} (hx : x.waits = true)
    (ho : x.wants? = some .script → ∃ replies, o = .did replies) : (x.receive o).kind = x.kind := by
  cases waiting_of_waits hx with
  | commands => rfl
  | callback =>
    obtain ⟨replies, rfl⟩ := ho rfl
    rfl
  | _ => cases o <;> rfl

/-- The flush requests that the frame is about to destroy, after it has interrupted the source of a guard. -/
def discards? : Frame → Option (GuardId × List Nat)
  | .discard g acks | .shutdown g (.discarding acks) => some (g, acks)
  | _ => none

/-- A frame that is no flush, has no requests to destroy, and is no worker about to say what became of a resource. -/
def isCalm : Frame → Bool
  | .flush .. | .discard .. | .shutdown _ (.discarding _) | .worker _ (.announcing ..) => false
  | _ => true

/-- What goes on after something else is calm and has started before. -/
theorem calm_receive (x : Frame) (o : Outcome) (hx : x.waits = true) :
    (x.isCalm = true ∧ x.isEnter = false) ∧
      (x.receive o).isCalm = true ∧ (x.receive o).isEnter = false := by
  cases waiting_of_waits hx with
  | commands => exact ⟨⟨rfl, rfl⟩, rfl, rfl⟩
  | _ => cases o <;> exact ⟨⟨rfl, rfl⟩, rfl, rfl⟩

end Frame

/-- Above every frame there stands what it waits for, and a worker's own frame is at the bottom. -/
def Nested : List Frame → Prop
  | [] => True
  | x :: rest => x.On rest ∧ Nested rest

/-- The progress of a frame keeps to the nesting. -/
def Progress.Keeps (frame : Frame) : Progress → Prop
  | .goto x => x.kind = frame.kind
  | .call x y => x.On [y] ∧ y.kind = frame.kind
  | .spawn _ _ y => y.kind = frame.kind
  | .finish o => frame.kind = .script → ∃ replies, o = .did replies

/-! ## What frames go on with -/

/-- A command starts an operation of its own; a flush that it starts is at its beginning, and what an interruption
throws away has yet to be destroyed. -/
theorem Command.Beginning.frame {s s' : Store} {c : Command} {frame : Frame}
    (h : c.Beginning s s' (.operation frame)) : frame.kind = .other ∧ (frame.isCalm = true ∨
      (∃ g patience gate, s.Reaches g ∧ frame = .flush g patience gate .checkStopped) ∨
      ∃ g, s.Reaches g ∧ frame = .discard g (s.interrupt g).2) := by
  cases h with
  | interrupt hg => exact ⟨rfl, .inr (.inr ⟨_, (Store.sourceNamed_exposed hg).1, rfl⟩)⟩
  | @flush guard g patience gate hg =>
    refine ⟨rfl, .inr (.inl ⟨g, patience, gate, ?_, rfl⟩)⟩
    cases gate with
    | opens => exact Store.guardNamed_reaches hg
    | leaves => exact (Store.sourceNamed_exposed hg).1
  | _ => exact ⟨rfl, .inl rfl⟩

/-- What a frame goes on with after an action. -/
inductive Frame.Goes (s : Store) : Frame → Progress → Prop
  | did (done : List Reply) : Goes s (.commands [] done) (.finish (.did done.reverse))
  | finish {x : Frame} {o : Outcome} (hx : x.kind ≠ .script) : Goes s x (.finish o)
  | goto {x y : Frame} (hkind : y.kind = x.kind) (hy : y.isCalm = true) : Goes s x (.goto y)
  | call {x y z : Frame} (hon : y.On [z]) (hkind : z.kind = x.kind) (hy : y.isCalm = true)
      (hz : z.isCalm = true) : Goes s x (.call y z)
  | spawn {x y z : Frame} (name : ThreadName) (hx : (∃ q, x = .start q) ∨ ∃ p, x = .processWide p)
      (hkind : z.kind = x.kind) (hy : y.isCalm = true) (hz : z.isCalm = true) : Goes s x (.spawn name y z)
  | begins {c : Command} {todo : List Command} {done : List Reply} {g : GuardId} (hg : s.Reaches g)
      (patience : Patience) (gate : GateUse) : Goes s (.commands (c :: todo) done)
        (.call (.flush g patience gate .checkStopped) (.commands todo done))
  | checks {g : GuardId} {patience : Patience} {gate : GateUse} {p p' : FlushPoint}
      (hp : p' = .checkInterrupted ∨ p' = .request) :
      Goes s (.flush g patience gate p) (.goto (.flush g patience gate p'))
  | asks {g : GuardId} {patience : Patience} {gate : GateUse}
      (hput : (s.newAck.1.enqueue g (.flush s.newAck.2)).2 = true) :
      Goes s (.flush g patience gate .request) (.goto (.flush g patience gate (.waiting s.newAck.2)))
  | counts {g : GuardId} {id : HandleId} {panic : Option Panic} :
      Goes s (.worker g (.settling id panic)) (.goto (.worker g (.announcing id panic)))
  | interrupts {c : Command} {todo : List Command} {done : List Reply} {g : GuardId} (hg : s.Reaches g) :
      Goes s (.commands (c :: todo) done) (.call (.discard g (s.interrupt g).2) (.commands todo done))
  | throws {g : GuardId} : Goes s (.shutdown g .interrupt) (.goto (.shutdown g (.discarding (s.interrupt g).2)))
  | discards {x y : Frame} {g : GuardId} {k : Nat} {acks : List Nat} (hx : x.discards? = some (g, k :: acks))
      (hy : y.discards? = some (g, acks)) (hkind : y.kind = x.kind) : Goes s x (.goto y)

theorem Script.advance_goes (s : Store) (todo : List Command) (done : List Reply) :
    Frame.Goes s (.commands todo done) (advance s todo done).2 := by
  cases todo with
  | nil => exact .did done
  | cons c todo =>
    simp only [advance]
    cases hb : c.begin s with
    | mk s' b =>
      cases b with
      | reply reply => exact .goto rfl rfl
      | operation frame =>
        obtain ⟨hkind, hcalm | ⟨g, patience, gate, hg, rfl⟩ | ⟨g, hg, rfl⟩⟩ := (Command.beginning_operation hb).frame
        · exact .call ⟨fun g => by simp [hkind], by rintro _ ⟨⟩⟩ rfl hcalm rfl
        · exact .begins hg patience gate
        · exact .interrupts hg

theorem FlushPoint.advance_goes (s : Store) (g : GuardId) (patience : Patience) (gate : GateUse)
    (p : FlushPoint) : Frame.Goes s (.flush g patience gate p) (p.advance s g patience gate).2 := by
  cases p with
  | checkStopped =>
    simp only [advance]
    split
    · exact .finish (by rintro ⟨⟩)
    · exact .checks (.inl rfl)
  | checkInterrupted =>
    simp only [advance]
    split
    · exact .finish (by rintro ⟨⟩)
    · exact .checks (.inr rfl)
  | request =>
    simp only [advance]
    split
    · next hput => exact .asks (by rw [hput])
    · exact .finish (by rintro ⟨⟩)
  | waiting ack =>
    simp only [advance]
    split
    · exact .goto rfl rfl
    · exact .finish (by rintro ⟨⟩)

/-- Requests are destroyed, by somebody who has interrupted a source or by its worker. -/
theorem discardNext_goes (s : Store) (acks : List Nat) {x : Frame} {again : List Nat → Frame} {next : Frame}
    (hagain : ∀ acks', (again acks').kind = x.kind ∧ ((again acks').isCalm = true ∨
      ∃ g, x.discards? = some (g, acks) ∧ (again acks').discards? = some (g, acks')))
    (hnext : next.kind = x.kind ∧ next.isCalm = true) : x.Goes s (discardNext s again next acks).2 := by
  cases acks with
  | nil => exact .goto hnext.1 hnext.2
  | cons k acks =>
    obtain ⟨hkind, hcalm | ⟨g, hx, hy⟩⟩ := hagain acks
    · exact .goto hkind hcalm
    · exact .discards hx hy hkind

theorem WorkerPoint.advance_goes (s : Store) (g : GuardId) (p : WorkerPoint) :
    Frame.Goes s (.worker g p) (p.advance s g).2 := by
  cases p with
  | settling id panic => cases panic <;> exact .counts
  | processing item =>
    cases item <;> simp only [advance] <;> repeat' split
    all_goals exact .goto rfl rfl
  | discarding exit acks => exact discardNext_goes s acks (fun _ => ⟨rfl, .inl rfl⟩) ⟨rfl, rfl⟩
  | _ =>
    simp only [advance]
    repeat' split
    all_goals first
      | exact .goto rfl rfl
      | exact .finish (by rintro ⟨⟩)
      | exact .call ⟨by rintro _ ⟨⟩, by rintro _ ⟨⟩; rfl⟩ rfl rfl rfl

theorem Frame.advance_goes (thread fresh : ThreadId) (s : Store) (frame : Frame) :
    frame.Goes s (frame.advance thread fresh s).2 := by
  cases frame with
  | commands todo done => exact Script.advance_goes s todo done
  | flush g patience gate p => exact p.advance_goes s g patience gate
  | worker g p => exact p.advance_goes s g
  | give | rest => exact .finish (by rintro ⟨⟩)
  | discard g acks => exact discardNext_goes s acks (fun _ => ⟨rfl, .inr ⟨g, rfl, rfl⟩⟩) ⟨rfl, rfl⟩
  | shutdown g p =>
    cases p with
    | interrupt => exact .throws
    | discarding acks => exact discardNext_goes s acks (fun _ => ⟨rfl, .inr ⟨g, rfl, rfl⟩⟩) ⟨rfl, rfl⟩
    | claim | joining =>
      simp only [advance, ShutdownPoint.advance]
      repeat' split
      all_goals first
        | exact .goto rfl rfl
        | exact .finish (by rintro ⟨⟩)
  | start q => exact .spawn _ (.inl ⟨q, rfl⟩) rfl rfl rfl
  | bindGuard name g =>
    simp only [advance, Reclaim.bindGuard]
    repeat' split
    all_goals first
      | exact .finish (by rintro ⟨⟩)
      | exact .call ⟨by rintro _ ⟨⟩, by rintro _ ⟨⟩⟩ rfl rfl rfl
  | register _ p | release _ p | callback _ p | drop _ p | processWide p =>
    cases p <;> simp only [advance, RegisterPoint.advance, ReleasePoint.advance, endRelease,
      CallbackPoint.advance, DropPoint.advance, Purpose.advance] <;> repeat' split
    all_goals first
      | exact .goto rfl rfl
      | exact .finish (by rintro ⟨⟩)
      | exact .spawn _ (.inr ⟨_, rfl⟩) rfl rfl rfl
      | exact .call ⟨by rintro _ ⟨⟩, by rintro _ ⟨⟩ <;> rfl⟩ rfl rfl rfl

/-- Whatever a frame goes on with keeps to the nesting. -/
theorem Frame.Goes.keeps {s : Store} {frame : Frame} {p : Progress} (h : frame.Goes s p) :
    p.Keeps frame := by
  cases h with
  | did done => exact fun _ => ⟨done.reverse, rfl⟩
  | finish hx => exact fun h => absurd h hx
  | goto hkind | spawn _ _ hkind => exact hkind
  | call hon hkind => exact ⟨hon, hkind⟩
  | begins => exact ⟨⟨by rintro _ ⟨⟩, by rintro _ ⟨⟩⟩, rfl⟩
  | interrupts => exact ⟨⟨by rintro _ ⟨⟩, by rintro _ ⟨⟩⟩, rfl⟩
  | checks | asks | counts | throws => exact rfl
  | discards _ _ hkind => exact hkind

/-! ## Stacks -/

theorem Nested.progress {th : Thread} {frame : Frame} {rest : List Frame}
    (h : Nested (frame :: rest)) (hs : Stacked (frame :: rest)) {p : Progress} (hp : p.Keeps frame) :
    Nested (th.progress rest p).stack := by
  cases p with
  | goto x => exact ⟨h.1.of_kind hp, h.2⟩
  | call x y => exact ⟨hp.1, h.1.of_kind hp.2, h.2⟩
  | spawn name x y => exact ⟨h.1.of_kind hp, h.2⟩
  | finish o =>
    cases rest with
    | nil => trivial
    | cons y rest =>
      have hkind : (y.receive o).kind = y.kind :=
        Frame.kind_receive (hs.waits y rfl) fun hy => hp (h.1.2 _ hy)
      exact ⟨h.2.1.of_kind hkind, h.2.2⟩

/-- A worker's own frame has nothing below it. -/
theorem Nested.worker {g : GuardId} {p : WorkerPoint} {rest : List Frame}
    (h : Nested (.worker g p :: rest)) : rest = [] := by
  cases rest with
  | nil => rfl
  | cons y rest => exact absurd rfl (h.1.1 g)

/-! ## How far a worker has come -/

/-- How far a worker has come. -/
inductive Stage where
  | point (p : WorkerPoint)
  /-- The callback of a handle is about to start. -/
  | entering (id : HandleId)
  /-- The callback of a handle has started. -/
  | inside (id : HandleId)
  /-- Its thread has ended. -/
  | gone
deriving DecidableEq, Repr

/-- Whether the worker is inside an item. -/
def WorkerPoint.isBusy : WorkerPoint → Bool
  | took _ | processing _ | reporting _ | running _ | settling _ _ | announcing _ _ | aborted _ => true
  | _ => false

/-- Whether the worker is inside an item. -/
def Stage.isBusy : Stage → Bool
  | point p => p.isBusy
  | entering _ | inside _ => true
  | gone => false

/-- The item that the worker is inside of, unless the sink has panicked there. -/
def Stage.item? : Stage → Option Item
  | point (.took item) | point (.processing item) => some item
  | point (.reporting id) | point (.settling id _) | point (.announcing id _) => some (.reclaim id)
  | entering id | inside id => some (.reclaim id)
  | _ => none

/-- The guard whose worker's frame is at the bottom of a stack, and how far that worker has come. -/
def duty : List Frame → Option (GuardId × Stage)
  | [.worker g p] => some (g, .point p)
  | [x, .worker g (.running id)] => some (g, if x.isEnter then .entering id else .inside id)
  | _ :: y :: z :: rest => duty (y :: z :: rest)
  | _ => none

@[simp] theorem duty_running (x : Frame) (g : GuardId) (id : HandleId) :
    duty [x, .worker g (.running id)] = some (g, if x.isEnter then .entering id else .inside id) := by
  cases x with
  | worker g' p => cases p <;> rfl
  | _ => rfl

@[simp] theorem duty_cons (x y z : Frame) (rest : List Frame) :
    duty (x :: y :: z :: rest) = duty (y :: z :: rest) := by
  rw [duty]

theorem duty_eq_none {x : Frame} (hx : ∀ g, x.kind ≠ .worker g) : duty [x] = none := by
  cases x with
  | worker g p => exact absurd rfl (hx g)
  | _ => rfl

theorem duty_pair_eq_none {x y : Frame} (hy : ∀ g, y.kind ≠ .worker g) : duty [x, y] = none := by
  cases y with
  | worker g p => exact absurd rfl (hy g)
  | _ => cases x <;> rfl

theorem Frame.kind_eq_worker {x : Frame} {g : GuardId} (h : x.kind = .worker g) :
    ∃ p, x = .worker g p := by
  cases x <;> simp_all [kind]

theorem Frame.kind_eq_callback {x : Frame} {id : HandleId} (h : x.kind = .callback id) :
    ∃ p, x = .callback id p := by
  cases x <;> simp_all [kind]

/-- What has waited has started before, so a worker that waits for it is as far as it was. -/
theorem duty_receive {y z : Frame} (hy : y.waits = true) (hz : z.waits = true) (o : Outcome) :
    duty [y.receive o, z] = duty [y, z] := by
  obtain ⟨⟨-, hbefore⟩, -, hafter⟩ := y.calm_receive o hy
  by_cases hworker : ∃ g, z.kind = .worker g
  · obtain ⟨g, hg⟩ := hworker
    obtain ⟨p, rfl⟩ := Frame.kind_eq_worker hg
    cases p with
    | running id => rw [duty_running, duty_running, hbefore, hafter]
    | _ => cases hz
  · have hz : ∀ g, z.kind ≠ .worker g := fun g hg => hworker ⟨g, hg⟩
    rw [duty_pair_eq_none hz, duty_pair_eq_none hz]

/-- Whether the frame at the top is a worker's own, or the callback that a worker waits for. -/
def AtWork (frame : Frame) (rest : List Frame) : Prop :=
  (∃ g p, frame = .worker g p) ∨ ∃ g id p, frame = .callback id p ∧ rest = [.worker g (.running id)]

/-- No worker gets further by what else happens on its thread. -/
theorem duty_progress {th : Thread} {frame : Frame} {rest : List Frame} (hn : Nested (frame :: rest))
    (hs : Stacked (frame :: rest)) {p : Progress} (hp : p.Keeps frame)
    (hidle : ¬AtWork frame rest) : duty (th.progress rest p).stack = duty (frame :: rest) := by
  have hframe : ∀ g, frame.kind ≠ .worker g := fun g h => by
    obtain ⟨point, rfl⟩ := Frame.kind_eq_worker h
    exact hidle (.inl ⟨g, point, rfl⟩)
  match rest with
  | [] =>
    rw [duty_eq_none hframe]
    cases p with
    | goto x => exact duty_eq_none fun g => hp.trans_ne (hframe g)
    | call x y => exact duty_pair_eq_none fun g => hp.2.trans_ne (hframe g)
    | spawn name x y => exact duty_eq_none fun g => Eq.trans_ne hp (hframe g)
    | finish o => rfl
  | [y] =>
    have hy : ∀ g, y.kind ≠ .worker g := fun g h => by
      obtain ⟨point, rfl⟩ := Frame.kind_eq_worker h
      have hwaits := hs.waits _ rfl
      cases point with
      | running id =>
        obtain ⟨q, rfl⟩ := Frame.kind_eq_callback (hn.1.2 _ rfl)
        exact hidle (.inr ⟨g, id, q, rfl, rfl⟩)
      | _ => cases hwaits
    rw [duty_pair_eq_none hy]
    cases p with
    | goto x => exact duty_pair_eq_none hy
    | call x z => exact (duty_cons ..).trans (duty_pair_eq_none hy)
    | spawn name x z => exact duty_pair_eq_none hy
    | finish o =>
      have hkind := Frame.kind_receive (hs.waits y rfl) fun hy => hp (hn.1.2 _ hy)
      exact duty_eq_none fun g => hkind.trans_ne (hy g)
  | y :: z :: rest =>
    rw [duty_cons]
    cases p with
    | goto x => exact duty_cons ..
    | call x y' => exact (duty_cons ..).trans (duty_cons ..)
    | spawn name x y' => exact duty_cons ..
    | finish o =>
      match rest with
      | [] => exact duty_receive (hs.waits y rfl) (hs.2.waits z rfl) o
      | _ :: _ => exact (duty_cons ..).trans (duty_cons ..).symm

namespace System

/-- In every stack there stands above what waits what it waits for. -/
def Nested (w : System) : Prop := ∀ th ∈ w.threads, Reclaim.Nested th.stack

/-- Whatever happens to a process keeps to the nesting. -/
theorem Nested.occur {w : System} (hn : w.Nested) (hw : w.Disciplined) (e : Event) :
    (w.occur e).Nested := by
  refine forall_stack_occur hn e (fun t frame _ ht => ?_) (fun th hth g patience gate point rest o hstack => ?_)
    fun _ script _ => ⟨trivial, trivial⟩
  · refine forall_stack_act hn ht (fun th hth rest hstack => ?_) fun _ _ _ _ => ⟨trivial, trivial⟩
    exact (hstack ▸ hn th hth).progress (hstack ▸ hw th hth) (frame.advance_goes t _ _).keeps
  · exact (hstack ▸ hn th hth).progress (hstack ▸ hw th hth) nofun

end System

end Reclaim

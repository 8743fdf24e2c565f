import Reclaim.Proofs.Nesting

/-!
# Frames above others

While a thread is busy with something, what stands below it on the stack stays as it is, until the last
frame above comes to its end and hands down what it has come to. And a thread is never stuck at a frame
that waits for something above it.

* `System.Awake`, `System.Awake.occur` : no frame at a top waits for another;
* `System.thread?_occur` : what an event does to the stack of a thread;
* `Progress.onto`, `Thread.progress_append` : what a progress does to the frames above others.
-/

namespace Reclaim

/-! ## Frames that wait for another -/

/-- Whether the frame can go on only after another above it. -/
def Frame.isBlocked : Frame → Bool
  | .register _ (.dropping _) | .release _ .running | .callback _ (.running _) | .worker _ (.running _) =>
    true
  | _ => false

theorem Frame.blocked_receive (x : Frame) (o : Outcome) : (x.receive o).isBlocked = false := by
  fun_cases receive x o <;> rfl

/-- The frames that a progress puts on top of a stack. -/
def Progress.tops : Progress → List Frame
  | .goto x | .call x _ => [x]
  | .spawn _ x y => [x, y]
  | .finish _ => []

theorem Command.Beginning.blocked {s s' : Store} {c : Command} {frame : Frame}
    (h : c.Beginning s s' (.operation frame)) : frame.isBlocked = false := by
  cases h <;> rfl

/-- A frame that goes on does not put one on top that waits for another. -/
theorem Frame.advance_tops {thread fresh : ThreadId} {s : Store} {frame : Frame}
    (hready : frame.isReady s = true) :
    ∀ x ∈ (frame.advance thread fresh s).2.tops, x.isBlocked = false := by
  cases frame with
  | commands todo done =>
    cases todo with
    | nil => simp [advance, Script.advance, Progress.tops]
    | cons c todo =>
      simp only [advance, Script.advance]
      cases hb : c.begin s with
      | mk s' b =>
        cases b with
        | reply reply => simp [Progress.tops, isBlocked]
        | operation frame =>
          intro x hx
          obtain rfl := List.mem_singleton.mp hx
          exact (Command.beginning_operation hb).blocked
  | give | rest => simp [advance, Progress.tops]
  | discard g acks => cases acks <;> simp [advance, discardNext, Progress.tops, isBlocked]
  | bindGuard name g =>
    simp only [advance, Reclaim.bindGuard]
    repeat' split
    all_goals simp [Progress.tops, isBlocked]
  | start q => simp [advance, StartRequest.advance, Progress.tops, isBlocked]
  | processWide p =>
    simp only [advance, Purpose.advance]
    repeat' split
    all_goals cases p <;> simp [Progress.tops, Purpose.frame, isBlocked]
  | register _ p | release _ p | callback _ p | drop _ p | shutdown _ p | flush _ _ _ p | worker _ p =>
    cases p
    all_goals first
      | (simp [isReady] at hready; done)
      | (simp only [advance, RegisterPoint.advance, ReleasePoint.advance, endRelease, CallbackPoint.advance,
          DropPoint.advance, ShutdownPoint.advance, FlushPoint.advance, WorkerPoint.advance, discardNext]
         repeat' split
         all_goals simp_all [Progress.tops, isBlocked])

namespace System

/-- No frame at the top of a stack waits for another. -/
def Awake (w : System) : Prop := ∀ th ∈ w.threads, ∀ x ∈ th.stack.head?, x.isBlocked = false

theorem awake_finish (th : Thread) (rest : List Frame) (o : Outcome) :
    ∀ x ∈ (th.progress rest (.finish o)).stack.head?, x.isBlocked = false := by
  cases rest with
  | nil => simp [Thread.progress, Thread.deliver]
  | cons y rest =>
    rintro _ ⟨⟩
    exact y.blocked_receive o

theorem Awake.occur {w : System} (hw : w.Awake) (e : Event) : (w.occur e).Awake := by
  refine forall_stack_occur (P := fun stack => ∀ x ∈ stack.head?, x.isBlocked = false) hw e
    (fun t frame _ ht => ?_) (fun th _ g patience gate point rest o _ => awake_finish th rest o)
    fun _ script _ => by simp [Frame.isBlocked]
  obtain ⟨-, -, -, -, hready⟩ := acting?_eq_some ht
  have htop := @Frame.advance_tops t w.threads.size w.store frame hready
  refine forall_stack_act (P := fun stack => ∀ x ∈ stack.head?, x.isBlocked = false) hw ht
    (fun th _ rest _ => ?_) fun name x y hspawn => ?_
  · generalize (frame.advance t w.threads.size w.store).2 = p at htop
    cases p with
    | goto x | call x y | spawn name x y =>
      rintro _ ⟨⟩
      exact htop _ (by simp [Progress.tops])
    | finish o => exact awake_finish th rest o
  · rw [hspawn] at htop
    rintro _ ⟨⟩
    exact htop x (by simp [Progress.tops])

theorem Awake.after {w : System} (hw : w.Awake) (es : List Event) : (w.after es).Awake :=
  after_induction w (fun w _ => w.Awake) hw (fun _ _ e hw => hw.occur e) es

/-- Whatever has happened since the start, no frame at the top of a stack waits for another. -/
theorem awake_after (probes : Array Probe) (environment : Environment) (output : Output)
    (es : List Event) : ((boot probes environment output).after es).Awake :=
  Awake.after (fun th hth => by simp [boot] at hth) es

end System

/-! ## Stacks in two parts -/

/-- What a progress of the top frame makes of the frames above some others. -/
def Progress.onto (fs : List Frame) : Progress → List Frame
  | .goto x => x :: fs
  | .call x y => x :: y :: fs
  | .spawn _ _ y => y :: fs
  | .finish o =>
    match fs with
    | [] => []
    | y :: fs => y.receive o :: fs

theorem Thread.stack_progress (th : Thread) (rest : List Frame) (p : Progress) :
    (th.progress rest p).stack = p.onto rest := by
  cases p with
  | goto x | call x y | spawn name x y => rfl
  | finish o => cases rest <;> rfl

/-- What holds of all frames and of those that a progress goes on with holds of all frames after it. -/
theorem Progress.forall_onto {P : Frame → Prop} {p : Progress} {fs : List Frame}
    (hp : ∀ x ∈ p.onto [], P x) (hfs : ∀ x ∈ fs, P x) (hreceive : ∀ x o, P x → P (x.receive o)) :
    ∀ x ∈ p.onto fs, P x := by
  intro x hx
  cases p with
  | goto y | spawn name z y =>
    rcases List.mem_cons.mp hx with rfl | hx
    · exact hp x (by simp [onto])
    · exact hfs x hx
  | call y z =>
    rcases List.mem_cons.mp hx with rfl | hx
    · exact hp x (by simp [onto])
    · rcases List.mem_cons.mp hx with rfl | hx
      · exact hp x (by simp [onto])
      · exact hfs x hx
  | finish o =>
    cases fs with
    | nil => cases hx
    | cons y fs =>
      rcases List.mem_cons.mp hx with rfl | hx
      · exact hreceive y o (hfs y (by simp))
      · exact hfs x (List.mem_cons_of_mem y hx)

/-- The thread with another stack. -/
def Thread.on (th : Thread) (stack : List Frame) : Thread := { th with stack }

theorem Thread.progress_append (th : Thread) {fs : List Frame} (stack rest : List Frame) {p : Progress}
    (h : p.onto fs ≠ []) : (th.on stack).progress (fs ++ rest) p = th.on (p.onto fs ++ rest) := by
  cases p with
  | goto x | call x y | spawn name x y => rfl
  | finish o =>
    cases fs with
    | nil => exact absurd rfl h
    | cons y fs => rfl

theorem Progress.onto_eq_nil {fs : List Frame} {p : Progress} (h : p.onto fs = []) :
    fs = [] ∧ ∃ o, p = .finish o := by
  cases p with
  | goto x | call x y | spawn name x y => cases h
  | finish o =>
    cases fs with
    | nil => exact ⟨rfl, o, rfl⟩
    | cons y fs => cases h

namespace System
variable {w : System}

/-- What an event does to the stack of a thread: its turn comes, its patience runs out, or nothing. -/
theorem thread?_occur {t : ThreadId} {th : Thread} (hth : w.thread? t = some th) (e : Event) :
    (∃ frame rest, e = .move (.act t) ∧ w.acting? t = some frame ∧ th.stack = frame :: rest ∧
      (w.occur e).thread? t =
        some (th.progress rest (frame.advance t w.threads.size w.store).2)) ∨
    (∃ g gate ack rest, e = .move (.expire t) ∧
      th.stack = .flush g .deadline gate (.waiting ack) :: rest ∧
      (w.occur e).thread? t = some (th.progress rest (.finish (.flag false)))) ∨
    ((w.occur e).thread? t = some th ∧ (e = .move (.act t) → w.acting? t = none)) := by
  have hlt : t < w.threads.size := (Array.getElem?_eq_some_iff.mp hth).choose
  cases e with
  | move m =>
    cases m with
    | act t' =>
      cases ht' : w.acting? t' with
      | none =>
        refine .inr (.inr ⟨by rw [occur_not_acting ht', hth], ?_⟩)
        rintro ⟨⟩
        exact ht'
      | some frame =>
        obtain ⟨th', rest, hth', hstack, -, hall⟩ := thread?_act ht'
        rw [occur_acting ht']
        by_cases heq : t' = t
        · subst heq
          cases hth.symm.trans hth'
          exact .inl ⟨frame, rest, rfl, ht', hstack, by rw [hall, if_pos rfl]⟩
        · refine .inr (.inr ⟨by rw [hall, if_neg heq, if_pos hlt, hth], ?_⟩)
          rintro ⟨⟩
          exact absurd rfl heq
    | expire t' =>
      cases hm : w.move? (.expire t') with
      | none => exact .inr (.inr ⟨by simp only [occur, hm, Option.getD_none, hth], fun h => by cases h⟩)
      | some w' =>
        obtain ⟨th', g, gate, ack, rest, hth', hstack, -, rfl⟩ := expire_cases hm
        simp only [occur, hm, Option.getD_some]
        by_cases heq : t' = t
        · subst heq
          cases hth.symm.trans hth'
          refine .inr (.inl ⟨g, gate, ack, rest, rfl, hstack, ?_⟩)
          unfold thread? at hth ⊢
          simp [Array.getElem?_modify, hth]
        · refine .inr (.inr ⟨?_, fun h => by cases h⟩)
          unfold thread? at hth ⊢
          simp [Array.getElem?_modify, heq, hth]
  | join name script =>
    refine .inr (.inr ⟨?_, fun h => by cases h⟩)
    unfold thread? at hth ⊢
    simp only [occur, spawn, Array.getElem?_push, Nat.ne_of_lt hlt, if_false, hth]
  | share id shares =>
    refine .inr (.inr ⟨?_, fun h => by cases h⟩)
    simp only [occur]
    split <;> exact hth
  | inject g id =>
    refine .inr (.inr ⟨?_, fun h => by cases h⟩)
    simp only [occur]
    split <;> exact hth

end System

end Reclaim

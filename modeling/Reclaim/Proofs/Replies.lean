import Reclaim.Proofs.Below
import Reclaim.Proofs.Staff
import Reclaim.Proofs.Work

/-!
# Answers of calls

A call to release answers what its own claim has come to: no if the handle had been released before, and
otherwise yes, or the panic that its callback has ended with.

* `Frame.isPrompt`, `System.thread?_waiting` : a thread that waits for nothing but its turn;
* `System.Hands` : what a thread hands down in the end;
* `Outcome.Answers`, `System.Replies` : the answer of one call;
* `Underway`, `Underway.occur` : how far a call has come; `System.Manned.replies`.
-/

namespace Reclaim

/-! ## Turns -/

/-- Whether the frame acts whenever its turn comes, and not before. -/
def Frame.isPrompt : Frame → Bool
  | .register _ (.dropping _) | .release _ .running | .callback _ (.running _) => false
  | .flush .. | .rest .. | .shutdown _ .joining => false
  | .worker _ .polling | .worker _ (.running _) => false
  | _ => true

theorem Frame.isReady_of_prompt {x : Frame} (hx : x.isPrompt = true) (s : Store) : x.isReady s = true := by
  cases x with
  | register q p | release id p | callback id p | worker g p | shutdown g p =>
    cases p <;> first | rfl | cases hx
  | flush | rest => cases hx
  | _ => rfl

namespace System
variable {w : System} {t : ThreadId} {th : Thread} {x : Frame} {rest : List Frame}

/-- Until its turn comes a prompt thread stays as it is. -/
theorem thread?_waiting (hth : w.thread? t = some th) (hstack : th.stack = x :: rest)
    (hx : x.isPrompt = true) {es : List Event} (hes : es.countP (Event.isTurn t) = 0) :
    (w.after es).thread? t = some th := by
  induction es using List.reverseRecOn with
  | nil => exact hth
  | append_singleton es e ih =>
    rw [List.countP_append, Nat.add_eq_zero_iff, List.countP_singleton] at hes
    rw [after_snoc]
    obtain ⟨frame, rest', rfl, -⟩ | ⟨g, gate, ack, rest', -, hflush, -⟩ | ⟨hth', -⟩ :=
      thread?_occur (ih hes.1) e
    · simp [Event.isTurn] at hes
    · obtain rfl := (List.cons.inj (hstack.symm.trans hflush)).1
      cases hx
    · exact hth'

/-- Whatever happens, a thread goes on with frames above these until it hands them down an outcome, of
which this holds together with what has been done meanwhile. -/
def Hands (w : System) (t : ThreadId) (th : Thread) (base : List Frame) (P : Trace → Outcome → Prop) :
    Prop :=
  ∀ es, (∃ fs, fs ≠ [] ∧ (w.after es).thread? t = some (th.on (fs ++ base))) ∨
    ∃ before later o, es = before ++ later ∧ (w.after before).thread? t = some (th.deliver o base) ∧
      P (w.trace before) o

end System

/-! ## Calls -/

/-- What a call to release answers after its callback: yes, or the panic of the callback. -/
def Outcome.afterRun : Option Panic → Outcome
  | none => .flag true
  | some p => .panic p

/-- What a call whose claim has won or not answers, going by what has been done since. -/
def Outcome.Answers (id : HandleId) (won : Bool) (tr : Trace) (o : Outcome) : Prop :=
  if won then ∃ panic, .ended .release id panic ∈ tr ∧ o = .afterRun panic else o = .flag false

/-- A thread that is about to claim the release of a handle for a call claims it with its next turn, and the
call answers what that has come to. -/
def System.Replies (w : System) (t : ThreadId) (th : Thread) (id : HandleId) (rest : List Frame) : Prop :=
  ∀ es, es.countP (Event.isTurn t) = 0 → ∃ won,
    (w.after es).marks (.move (.act t)) = [(id, .claimed .release won)] ∧
      ((w.after es).occur (.move (.act t))).Hands t th rest (Outcome.Answers id won)

/-- How far a call has come whose claim has won or not, by the frames above its caller and by what has been
done since. -/
inductive Underway (id : HandleId) (won : Bool) (tr : Trace) : List Frame → Prop
  | counting (h : won = true) : Underway id won tr [.release id .count]
  /-- The callback runs, with frames above it. -/
  | running (h : won = true) (fs : List Frame) (p : CallbackPoint) :
      Underway id won tr (fs ++ [.callback id p, .release id .running])
  | ending {p : ReleasePoint} (hp : p = .lost ∨ ∃ panic, p = .ran panic)
      (h : Outcome.Answers id won tr p.outcome) : Underway id won tr [.release id p]
  /-- Nobody holds the handle any more. -/
  | dropping {o : Outcome} (h : Outcome.Answers id won tr o) : Underway id won tr [.drop id .check, .give o]
  | giving {o : Outcome} (h : Outcome.Answers id won tr o) : Underway id won tr [.give o]

section Underway
variable {w : System} {h : History} {t : ThreadId} {th : Thread} {id : HandleId} {e : Entry} {won : Bool}
  {tr : Trace} {fs base : List Frame}

theorem Outcome.Answers.mono {o : Outcome} (h : Outcome.Answers id won tr o) (ds : Trace) :
    Outcome.Answers id won (tr ++ ds) o := by
  cases won with
  | false => exact h
  | true => exact h.imp fun _ => And.imp_left (List.mem_append_left ds)

theorem Underway.mono (h : Underway id won tr fs) (ds : Trace) : Underway id won (tr ++ ds) fs := by
  cases h with
  | counting h => exact .counting h
  | running h fs p => exact .running h fs p
  | ending hp h => exact .ending hp (h.mono ds)
  | dropping h => exact .dropping (h.mono ds)
  | giving h => exact .giving (h.mono ds)

theorem Underway.ne_nil (h : Underway id won tr fs) : fs ≠ [] := by
  cases h <;> simp

/-- A callback goes on, with something above it or not, or comes to its end. -/
theorem CallbackPoint.advance_cases (thread : ThreadId) (s : Store) (id : HandleId) (p : CallbackPoint) :
    (∃ p', (p.advance thread s id).2 = .goto (.callback id p')) ∨
    (∃ x p', (p.advance thread s id).2 = .call x (.callback id p')) ∨
    ∃ o, (p.advance thread s id).2 = .finish o ∧ .ended .release id o.panic? ∈
      (Frame.callback id p).deeds s .release (p.advance thread s id).2 := by
  cases p with
  | enter =>
    simp only [advance, Frame.deeds]
    repeat' split
    all_goals first
      | exact .inr (.inr ⟨_, rfl, List.mem_cons_of_mem _ (List.mem_singleton_self _)⟩)
      | exact .inr (.inl ⟨_, _, rfl⟩)
  | running call => exact .inl ⟨_, rfl⟩
  | ran call replies =>
    simp only [advance, Frame.deeds]
    split <;> exact .inr (.inr ⟨_, rfl, List.mem_singleton_self _⟩)

/-- A call goes on after its callback with what that has come to. -/
theorem Frame.receive_running (id : HandleId) (o : Outcome) :
    (Frame.release id .running).receive o = .release id (.ran o.panic?) := by
  cases o <;> rfl

theorem ReleasePoint.outcome_ran (panic : Option Panic) : (ran panic).outcome = .afterRun panic := by
  cases panic <;> rfl

/-- What stands above a call whose callback runs is the callback, whatever it has been handed down. -/
theorem Nested.callback_receive {id : HandleId} {p : CallbackPoint} {o : Outcome} {base : List Frame}
    (h : Nested ((Frame.callback id p).receive o :: .release id .running :: base)) :
    ∃ p', (Frame.callback id p).receive o = .callback id p' := by
  have hgive : (Frame.callback id p).receive o ≠ .give o := fun heq => by
    rw [heq] at h
    cases h.1.2 _ rfl
  cases p with
  | running call =>
    cases o with
    | did replies => exact ⟨_, rfl⟩
    | value reply | panic p => exact absurd rfl hgive
  | enter | ran call replies => exact absurd rfl hgive

/-- What has come of a call after an event: it is still under way, or it has answered. -/
def Underway.Next (id : HandleId) (won : Bool) (tr : Trace) (th : Thread) (base : List Frame) (th' : Thread) :
    Prop :=
  (∃ fs, th' = th.on (fs ++ base) ∧ Underway id won tr fs) ∨
    ∃ o, th' = th.deliver o base ∧ Outcome.Answers id won tr o

/-- A call at the end of a release answers, or first drops the handle. -/
theorem Underway.Next.of_endRelease {s : Store} {o : Outcome} (ho : Outcome.Answers id won tr o) :
    Next id won tr th base ((th.on (fs ++ base)).progress base (endRelease s id o).2) := by
  unfold Reclaim.endRelease
  generalize s.endUse id = r
  obtain ⟨s', last⟩ := r
  cases last with
  | false => exact .inr ⟨o, th.deliver_on _ o base, ho⟩
  | true => exact .inl ⟨_, rfl, .dropping ho⟩

/-- Whatever a frame above the callback comes to, the callback goes on. -/
theorem Underway.Next.above (hwon : won = true) (fs : List Frame) (p : CallbackPoint) {stack rest : List Frame}
    {q : Progress} (hrest : rest = fs ++ .callback id p :: .release id .running :: base)
    (hn : Nested ((th.on stack).progress rest q).stack) :
    Next id won tr th base ((th.on stack).progress rest q) := by
  obtain ⟨next, hnext, hprogress⟩ := th.progress_above fs q
  rw [hrest, hprogress] at hn ⊢
  cases hnext with
  | @busy fs' =>
    refine .inl ⟨_, ?_, .running hwon fs' p⟩
    simp only [List.append_assoc, List.cons_append, List.nil_append]
  | ended o =>
    obtain ⟨p', hp'⟩ := Nested.callback_receive hn
    refine .inl ⟨_, ?_, .running hwon [] p'⟩
    simp only [Thread.deliver, hp']
    rfl

/-- Whatever the frame at the top of a call does next, the call goes on or answers. -/
theorem Underway.act (hu : Underway id won tr fs) {s : Store} (he : s.resource? id = some e)
    (hreleased : e.state = .released) {x : Frame} {rest : List Frame} (hstack : fs ++ base = x :: rest)
    (fresh : ThreadId) (hn : Nested ((th.on (fs ++ base)).progress rest (x.advance t fresh s).2).stack) :
    Next id won (tr ++ x.deeds s (.over rest) (x.advance t fresh s).2) th base
      ((th.on (fs ++ base)).progress rest (x.advance t fresh s).2) := by
  cases hu with
  | counting h =>
    cases hstack
    exact .inl ⟨_, rfl, .running h [] .enter⟩
  | running h fs p =>
    cases fs with
    | nil =>
      cases hstack
      rcases CallbackPoint.advance_cases t s id p with ⟨p', hp⟩ | ⟨y, p', hp⟩ | ⟨o, hp, hin⟩ <;>
        simp only [Frame.advance, hp]
      · exact .inl ⟨_, rfl, .running h [] p'⟩
      · exact .inl ⟨_, rfl, .running h [y] p'⟩
      · refine .inl ⟨[.release id (.ran o.panic?)], ?_, .ending (.inr ⟨_, rfl⟩) ?_⟩
        · rw [← Frame.receive_running]
          rfl
        · rw [ReleasePoint.outcome_ran, Outcome.Answers, if_pos h]
          exact ⟨_, List.mem_append_right tr (hp ▸ hin), rfl⟩
    | cons y fs =>
      cases hstack
      exact .above h fs p (by simp) hn
  | @ending p hp ho =>
    cases hstack
    have hadvance : p.advance s id = Reclaim.endRelease s id p.outcome := by
      obtain rfl | ⟨panic, rfl⟩ := hp <;> rfl
    simp only [Frame.advance, hadvance]
    exact .of_endRelease (ho.mono _)
  | dropping ho =>
    cases hstack
    refine .inl ⟨_, ?_, .giving (ho.mono _)⟩
    simp only [Frame.advance, DropPoint.advance, he, Option.map_some, hreleased]
    rfl
  | giving ho =>
    cases hstack
    exact .inr ⟨_, th.deliver_on _ _ base, ho.mono _⟩

/-- Whatever happens, a call goes on or answers. -/
theorem Underway.occur (hu : Underway id won tr fs) (hm : w.Manned h) (he : w.store.resource? id = some e)
    (hreleased : e.state = .released) (hth : w.thread? t = some (th.on (fs ++ base))) (event : Event) :
    ∃ th', (w.occur event).thread? t = some th' ∧ Next id won (tr ++ w.deeds event) th base th' := by
  have hn : ∀ {th'}, (w.occur event).thread? t = some th' → Nested th'.stack := fun h =>
    (hm.occur event).nested _ (System.thread?_mem h)
  rcases System.thread?_occur hth event with ⟨x, rest, rfl, ht, hstack, hth'⟩ | ⟨g, gate, ack, rest, -, hstack, hth'⟩ |
    ⟨hth', -⟩ <;> refine ⟨_, hth', ?_⟩
  · have hbelow : w.below t = rest := by
      simp only [System.below, hth, Thread.on]
      rw [show fs ++ base = x :: rest from hstack]
    have hdeeds : w.deeds (.move (.act t)) =
        x.deeds w.store (.over rest) (x.advance t w.threads.size w.store).2 := by
      simp only [System.deeds, ht, hbelow]
    rw [hdeeds]
    exact hu.act he hreleased hstack _ (hn hth')
  · -- only a frame above the callback can run out of patience
    cases hu with
    | running hwon fs p =>
      cases fs with
      | nil => cases hstack
      | cons y fs =>
        cases hstack
        exact .above hwon fs p (by simp) (hn hth')
    | _ => cases hstack
  · exact .inl ⟨fs, rfl, hu.mono _⟩

/-- A call that is under way answers what its claim has come to. -/
theorem Underway.hands (hu : Underway id won [] fs) (hm : w.Manned h) (he : w.store.resource? id = some e)
    (hreleased : e.state = .released) (hth : w.thread? t = some (th.on (fs ++ base))) :
    w.Hands t th base (Outcome.Answers id won) := by
  suffices hrun : ∀ es, (∃ fs, (w.after es).thread? t = some (th.on (fs ++ base)) ∧ Underway id won (w.trace es) fs) ∨
      ∃ before later o, es = before ++ later ∧ (w.after before).thread? t = some (th.deliver o base) ∧
        Outcome.Answers id won (w.trace before) o from
    fun es => (hrun es).imp_left fun ⟨fs, hth, hu⟩ => ⟨fs, hu.ne_nil, hth⟩
  intro es
  induction es using List.reverseRecOn with
  | nil => exact .inl ⟨fs, hth, hu⟩
  | append_singleton es event ih =>
    rcases ih with ⟨fs', hth', hu'⟩ | ⟨before, later, o, rfl, hend⟩
    · obtain ⟨e', he', hl⟩ := (System.extends_after hm.orderly es).entry id e he
      obtain ⟨th', hth'', hnext⟩ := hu'.occur (hm.after es) he' (hl.released hreleased) hth' event
      rw [← System.after_snoc] at hth''
      rw [← System.trace_snoc] at hnext
      rcases hnext with ⟨fs'', rfl, hu''⟩ | ⟨o, rfl, ho⟩
      · exact .inl ⟨fs'', hth'', hu''⟩
      · exact .inr ⟨es ++ [event], [], o, (List.append_nil _).symm, hth'', ho⟩
    · exact .inr ⟨before, later ++ [event], o, by rw [List.append_assoc], hend⟩

/-- Every call answers what its own claim has come to. -/
theorem System.Manned.replies (hm : w.Manned h) {rest : List Frame} (hth : w.thread? t = some th)
    (hstack : th.stack = .release id .retire :: rest) : w.Replies t th id rest := by
  intro es hes
  have hth' := System.thread?_waiting hth hstack rfl hes
  replace hm := hm.after es
  generalize w.after es = v at hm hth' ⊢
  have ht : v.acting? t = some (.release id .retire) := by
    obtain ⟨name, stack, out⟩ := th
    obtain rfl : stack = _ := hstack
    simp only [System.acting?, hth', Frame.isReady, if_true]
  have hasking : .asking id ∈ v.spots := System.mem_spots.mpr
    ⟨th, System.thread?_mem hth', _, hstack ▸ List.mem_cons_self, Multiset.mem_singleton_self _⟩
  obtain ⟨e, he⟩ := hm.orderly.2.spots _ hasking
  obtain ⟨th', rest', hth'', hstack', -, hall⟩ := System.thread?_act ht
  cases hth'.symm.trans hth''
  obtain rfl : rest = rest' := (List.cons.inj (hstack.symm.trans hstack')).2
  have hnext := (hall t).trans (if_pos rfl)
  have hstore := System.store_act ht
  have hm' := hm.occur (.move (.act t))
  rw [System.occur_acting ht] at hm' ⊢
  refine ⟨(v.store.retire id).2, by simp only [System.marks, ht, Frame.marks], ?_⟩
  rcases Store.retire_cases he with ⟨hactive, -, -⟩ | ⟨hreleased, hlost⟩
  · simp only [Frame.advance, ReleasePoint.advance, Store.retire_eq he hactive] at hnext hstore ⊢
    have he' : (v.act t).store.resource? id = some { e with state := .released } := by
      rw [hstore, (Store.claims_markReleased v.store e.guard id).entry, if_pos rfl, he, Option.map_some]
    exact (Underway.counting rfl).hands hm' he' rfl hnext
  · simp only [Frame.advance, ReleasePoint.advance, hlost] at hnext hstore ⊢
    have hno : Outcome.Answers id false [] ReleasePoint.lost.outcome := rfl
    exact (Underway.ending (.inl rfl) hno).hands hm' (hstore ▸ he) hreleased hnext

end Underway

end Reclaim

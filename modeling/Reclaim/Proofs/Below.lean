import Reclaim.Proofs.Calls

/-!
# What stands below

What a thread does with the frames at the top of its stack does not depend on those below: with others
in their place the process goes the same way, up to the end of the frames at the top, which hand down
the same outcome.

* `System.put` : a system with another thread in one place;
* `Thread.Above` : what becomes of a thread, whatever stands below its frames;
* `System.rebase_occur`, `System.rebase_after` : another base.
-/

namespace Reclaim

namespace System
variable {w w' : System} {t : ThreadId} {th : Thread}

theorem ext_thread (hstore : w.store = w'.store) (hthread : ∀ t, w.thread? t = w'.thread? t) : w = w' := by
  obtain ⟨store, threads⟩ := w
  obtain ⟨store', threads'⟩ := w'
  obtain rfl : store = store' := hstore
  obtain rfl : threads = threads' := Array.ext_getElem? hthread
  rfl

/-- The system with another thread in one place. -/
def put (w : System) (t : ThreadId) (th : Thread) : System :=
  { w with threads := w.threads.modify t fun _ => th }

@[simp] theorem store_put (w : System) (t : ThreadId) (th : Thread) : (w.put t th).store = w.store := rfl

@[simp] theorem size_put (w : System) (t : ThreadId) (th : Thread) :
    (w.put t th).threads.size = w.threads.size := Array.size_modify

theorem thread?_put (w : System) (t t' : ThreadId) (th : Thread) :
    (w.put t th).thread? t' = if t = t' then (w.thread? t').map fun _ => th else w.thread? t' :=
  Array.getElem?_modify

theorem put_comm {t' : ThreadId} (h : t ≠ t') (th th' : Thread) :
    (w.put t' th').put t th = (w.put t th).put t' th' := by
  refine ext_thread rfl fun t'' => ?_
  simp only [thread?_put]
  split
  · next heq =>
    subst heq
    rw [if_neg (Ne.symm h), if_neg (Ne.symm h)]
  · rfl

theorem put_put (w : System) (t : ThreadId) (th th' : Thread) : (w.put t th).put t th' = w.put t th' := by
  refine ext_thread rfl fun t' => ?_
  simp only [thread?_put]
  split
  · rw [Option.map_map]
    rfl
  · rfl

theorem thread?_put_self (hth : w.thread? t = some th) (th' : Thread) :
    (w.put t th').thread? t = some th' := by
  rw [thread?_put, if_pos rfl, hth, Option.map_some]

theorem thread?_put_ne {t' : ThreadId} (h : t ≠ t') (th' : Thread) :
    (w.put t th').thread? t' = w.thread? t' := by
  rw [thread?_put, if_neg h]

end System

/-! ## Another base -/

/-- What becomes of a thread that is busy with some frames, whatever stands below these: either it is
still busy, or it hands down an outcome. -/
inductive Thread.Above (th : Thread) : (List Frame → Thread) → Prop where
  | busy {fs : List Frame} (h : fs ≠ []) : th.Above fun base => th.on (fs ++ base)
  | ended (o : Outcome) : th.Above fun base => th.deliver o base

theorem Thread.deliver_on (th : Thread) (stack : List Frame) (o : Outcome) (base : List Frame) :
    (th.on stack).deliver o base = th.deliver o base := by
  cases base <;> rfl

/-- A progress of the top frame does not depend on what stands below the others. -/
theorem Thread.progress_above (th : Thread) (fs : List Frame) (p : Progress) :
    ∃ next, th.Above next ∧ ∀ stack base, (th.on stack).progress (fs ++ base) p = next base := by
  by_cases h : p.onto fs = []
  · obtain ⟨rfl, o, rfl⟩ := Progress.onto_eq_nil h
    exact ⟨_, .ended o, fun stack base => th.deliver_on stack o base⟩
  · exact ⟨_, .busy h, fun stack base => Thread.progress_append th stack base h⟩

namespace System
variable {w : System} {t : ThreadId} {th : Thread} {fs base : List Frame}

/-- With another base the same threads can act, with the same frames. -/
theorem acting?_put (hth : w.thread? t = some (th.on (fs ++ base))) (hfs : fs ≠ []) (base' : List Frame)
    (t' : ThreadId) : (w.put t (th.on (fs ++ base'))).acting? t' = w.acting? t' := by
  by_cases heq : t = t'
  · subst heq
    obtain ⟨x, fs', rfl⟩ := List.exists_cons_of_ne_nil hfs
    simp only [acting?, thread?_put_self hth, hth]
    rfl
  · simp only [acting?, thread?_put_ne heq]
    rfl

theorem store_act {t : ThreadId} {frame : Frame} (ht : w.acting? t = some frame) :
    (w.act t).store = (frame.advance t w.threads.size w.store).1 := by
  obtain ⟨name, rest, out, hth, -⟩ := acting?_eq_some ht
  rw [act_eq hth]

/-- A thread acts the same on another base. -/
theorem rebase_act (hth : w.thread? t = some (th.on (fs ++ base))) (hfs : fs ≠ []) (base' : List Frame)
    {t' : ThreadId} {frame : Frame} (ht' : w.acting? t' = some frame) :
    ∃ next, th.Above next ∧ (w.act t').thread? t = some (next base) ∧
      (w.put t (th.on (fs ++ base'))).act t' = (w.act t').put t (next base') := by
  have hput := (acting?_put hth hfs base' t').trans ht'
  have hstore : ∀ th', ((w.put t (th.on (fs ++ base'))).act t').store = ((w.act t').put t th').store := by
    intro th'
    rw [store_put, store_act hput, store_act ht', size_put, store_put]
  have hlt : t < w.threads.size := (Array.getElem?_eq_some_iff.mp hth).choose
  obtain ⟨th₁, rest, hth₁, hstack, -, hall⟩ := thread?_act ht'
  obtain ⟨th₂, rest', hth₂, hstack', -, hall'⟩ := thread?_act hput
  simp only [size_put, store_put] at hall'
  generalize frame.advance t' w.threads.size w.store = r at hall hall'
  by_cases heq : t' = t
  · -- the thread itself
    subst heq
    cases hth.symm.trans hth₁
    cases (thread?_put_self hth _).symm.trans hth₂
    obtain ⟨x, fs, rfl⟩ := List.exists_cons_of_ne_nil hfs
    obtain rfl : rest = fs ++ base := (List.cons.inj hstack).2.symm
    obtain rfl : rest' = fs ++ base' := (List.cons.inj hstack').2.symm
    obtain ⟨next, hnext, hprogress⟩ := th.progress_above fs r.2
    simp only [hprogress] at hall hall'
    refine ⟨next, hnext, by rw [hall, if_pos rfl], ext_thread (hstore _) fun t'' => ?_⟩
    by_cases ht'' : t' = t''
    · subst ht''
      rw [hall', if_pos rfl, thread?_put_self (by rw [hall, if_pos rfl])]
    · rw [hall', if_neg ht'', thread?_put_ne ht'', thread?_put_ne ht'', hall, if_neg ht'']
  · -- another thread
    refine ⟨_, .busy hfs, by rw [hall, if_neg heq, if_pos hlt, hth], ext_thread (hstore _) fun t'' => ?_⟩
    rw [thread?_put_ne (Ne.symm heq)] at hth₂
    cases hth₁.symm.trans hth₂
    cases hstack.symm.trans hstack'
    by_cases ht'' : t = t''
    · subst ht''
      rw [hall', if_neg heq, if_pos hlt, thread?_put_self hth,
        thread?_put_self (by rw [hall, if_neg heq, if_pos hlt, hth])]
    · rw [hall', thread?_put_ne ht'', thread?_put_ne ht'', hall]

theorem occur_expire (w : System) (t : ThreadId) : w.occur (.move (.expire t)) =
    match (w.thread? t).bind (·.expired? w.store) with
    | some th => w.put t th
    | none => w := by
  simp only [occur, move?]
  cases (w.thread? t).bind (·.expired? w.store) <;> rfl

/-- The patience of a thread runs out the same on another base. -/
theorem rebase_expire (hth : w.thread? t = some (th.on (fs ++ base))) (hfs : fs ≠ [])
    (base' : List Frame) (t' : ThreadId) :
    ∃ next, th.Above next ∧ (w.occur (.move (.expire t'))).thread? t = some (next base) ∧
      (w.put t (th.on (fs ++ base'))).occur (.move (.expire t')) =
        (w.occur (.move (.expire t'))).put t (next base') := by
  obtain ⟨x, fs, rfl⟩ := List.exists_cons_of_ne_nil hfs
  rw [occur_expire, occur_expire, store_put]
  by_cases heq : t = t'
  · -- the thread itself
    subst heq
    have hexpired : ∀ base, ((some (th.on (x :: fs ++ base))).bind fun th => th.expired? w.store) =
        (x.expired? w.store).map fun o => (th.on (x :: fs ++ base)).deliver o (fs ++ base) :=
      fun _ => rfl
    rw [thread?_put_self hth, hth, hexpired, hexpired]
    cases x.expired? w.store with
    | none => exact ⟨_, .busy hfs, hth, rfl⟩
    | some o =>
      obtain ⟨next, hnext, hprogress⟩ := th.progress_above fs (.finish o)
      refine ⟨next, hnext, ?_, ?_⟩
      · exact (thread?_put_self hth _).trans (congrArg some (hprogress _ base))
      · simp only [Option.map_some, put_put]
        exact congrArg (w.put t) (hprogress _ base')
  · -- another thread
    rw [thread?_put_ne heq]
    cases (w.thread? t').bind (·.expired? w.store) with
    | none => exact ⟨_, .busy hfs, hth, rfl⟩
    | some th' =>
      refine ⟨_, .busy hfs, (thread?_put_ne (Ne.symm heq) th').trans hth, ?_⟩
      exact put_comm (Ne.symm heq) _ _

/-- An event comes to the same on another base. -/
theorem rebase_occur (hth : w.thread? t = some (th.on (fs ++ base))) (hfs : fs ≠ []) (base' : List Frame)
    (e : Event) : ∃ next, th.Above next ∧ (w.occur e).thread? t = some (next base) ∧
      (w.put t (th.on (fs ++ base'))).occur e = (w.occur e).put t (next base') := by
  have hlt : t < w.threads.size := (Array.getElem?_eq_some_iff.mp hth).choose
  cases e with
  | move m =>
    cases m with
    | act t' =>
      cases ht' : w.acting? t' with
      | none =>
        have hput := (acting?_put hth hfs base' t').trans ht'
        rw [occur_not_acting ht', occur_not_acting hput]
        exact ⟨_, .busy hfs, hth, rfl⟩
      | some frame =>
        have hput := (acting?_put hth hfs base' t').trans ht'
        rw [occur_acting ht', occur_acting hput]
        exact rebase_act hth hfs base' ht'
    | expire t' => exact rebase_expire hth hfs base' t'
  | join name script =>
    have hjoin : ∀ (v : System) t', (v.occur (.join name script)).thread? t' =
        if t' = v.threads.size then some ⟨name, [.commands script []], none⟩ else v.thread? t' :=
      fun _ _ => Array.getElem?_push
    refine ⟨_, .busy hfs, by rw [hjoin, if_neg (Nat.ne_of_lt hlt), hth], ext_thread rfl fun t' => ?_⟩
    by_cases ht' : t = t'
    · subst ht'
      rw [hjoin, size_put, if_neg (Nat.ne_of_lt hlt), thread?_put_self hth,
        thread?_put_self (by rw [hjoin, if_neg (Nat.ne_of_lt hlt), hth])]
    · rw [hjoin, size_put, thread?_put_ne ht', thread?_put_ne ht', hjoin]
  | share id shares =>
    refine ⟨_, .busy hfs, ?_, ?_⟩
    · simp only [occur]
      split <;> exact hth
    · change (if w.isHeld id = true then _ else _) = _
      simp only [occur]
      by_cases h : w.isHeld id = true
      · rw [if_pos h, if_pos h]
        rfl
      · rw [if_neg h, if_neg h]
  | inject g id =>
    refine ⟨_, .busy hfs, ?_, ?_⟩
    · simp only [occur]
      split <;> exact hth
    · change (if (w.knows id && w.isExposed g) = true then _ else _) = _
      simp only [occur]
      by_cases h : (w.knows id && w.isExposed g) = true
      · rw [if_pos h, if_pos h]
        rfl
      · rw [if_neg h, if_neg h]

/-- A run goes the same way on another base until an outcome is handed down. -/
theorem rebase_after (hth : w.thread? t = some (th.on (fs ++ base))) (hfs : fs ≠ []) (base' : List Frame)
    (es : List Event) :
    (∃ fs', fs' ≠ [] ∧ (w.after es).thread? t = some (th.on (fs' ++ base)) ∧
      (w.put t (th.on (fs ++ base'))).after es = (w.after es).put t (th.on (fs' ++ base'))) ∨
    ∃ before after o, es = before ++ after ∧ (w.after before).thread? t = some (th.deliver o base) ∧
      (w.put t (th.on (fs ++ base'))).after before = (w.after before).put t (th.deliver o base') := by
  induction es using List.reverseRecOn with
  | nil => exact .inl ⟨fs, hfs, hth, rfl⟩
  | append_singleton es e ih =>
    rcases ih with ⟨fs', hfs', hth', hput⟩ | ⟨before, after, o, rfl, hend⟩
    · obtain ⟨next, hnext, hthread, hrebase⟩ := rebase_occur hth' hfs' base' e
      rw [← hput, ← after_snoc] at hrebase
      rw [← after_snoc] at hthread hrebase
      cases hnext with
      | busy hfs'' => exact .inl ⟨_, hfs'', hthread, hrebase⟩
      | ended o => exact .inr ⟨es ++ [e], [], o, (List.append_nil _).symm, hthread, hrebase⟩
    · exact .inr ⟨before, after ++ [e], o, by rw [List.append_assoc], hend⟩

end System

end Reclaim

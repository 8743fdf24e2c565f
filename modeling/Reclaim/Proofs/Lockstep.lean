import Reclaim.Proofs.Correspondence

/-!
# Threads of two runs, step by step

Two threads that correspond act in lockstep, save where one of them is at a call to flush that the other
does not make, or at a request that only the one source holds, or has held: there it acts alone, and what
corresponds stays so.

* `Frame.Thinned`, `Rest`, `Stack.Thinned`, `Thread.Thinned` : threads without the calls left out;
* `Bond.Leads` : what corresponds after an action of a thread;
* `WorkerPoint.together`, `WorkerPoint.alone`, ... : an action of both frames, or of one alone;
* `Command.begin_thinned` : the same of how commands start;
* `Thread.Thinned.progress`, `Thread.Thinned.progress_alone` : what threads go on with after it.
-/

namespace Reclaim

/-! ## Frames -/

/-- What a frame comes to. -/
inductive Yield where
  /-- The answers of a script, of which some are left out. -/
  | script (ls : List Lot)
  /-- A value or a panic. -/
  | plain
  /-- Nothing: a worker's loop. -/
  | loop

/-- A value or a panic. -/
def Outcome.isPlain : Outcome → Bool
  | .did _ => false
  | _ => true

/-- How a worker at a point stands to its counterpart at the same point. -/
def WorkerPoint.post : WorkerPoint → Post
  | .polling => .idle
  | _ => .level

/-- The second worker is at the same point. -/
inductive WorkerPoint.Kept (acks : Nat → Option (Option Nat)) : WorkerPoint → WorkerPoint → Prop where
  | took {i i' : Item} : i.Kept acks i' → Kept acks (.took i) (.took i')
  | processing {i i' : Item} : i.Kept acks i' → Kept acks (.processing i) (.processing i')
  | starting : Kept acks .starting .starting
  | calling : Kept acks .calling .calling
  | polling : Kept acks .polling .polling
  | reporting (id : HandleId) : Kept acks (.reporting id) (.reporting id)
  | settling (id : HandleId) (panic : Option Panic) : Kept acks (.settling id panic) (.settling id panic)
  | announcing (id : HandleId) (panic : Option Panic) : Kept acks (.announcing id panic) (.announcing id panic)
  | aborted (p : Panic) : Kept acks (.aborted p) (.aborted p)
  | leaving (exit : Exit) : Kept acks (.leaving exit) (.leaving exit)
  | discarding (exit : Exit) {ks ks' : List Nat} : Spared acks ks ks' →
      Kept acks (.discarding exit ks) (.discarding exit ks')
  | farewell (exit : Exit) : Kept acks (.farewell exit) (.farewell exit)
  | stopping (exit : Exit) : Kept acks (.stopping exit) (.stopping exit)

/-- The worker is at a request that was not made in the other run. -/
inductive WorkerPoint.Late (acks : Nat → Option (Option Nat)) : WorkerPoint → Prop where
  | took {k : Nat} : acks k = some none → Late acks (.took (.flush k))
  | processing {k : Nat} : acks k = some none → Late acks (.processing (.flush k))
  | calling : Late acks .calling

/-- The second flush is at the same point. -/
inductive FlushPoint.Kept (acks : Nat → Option (Option Nat)) : FlushPoint → FlushPoint → Prop where
  | checkStopped : Kept acks .checkStopped .checkStopped
  | checkInterrupted : Kept acks .checkInterrupted .checkInterrupted
  | request : Kept acks .request .request
  | waiting {k k' : Nat} : acks k = some (some k') → Kept acks (.waiting k) (.waiting k')

/-- The second shutdown is at the same point. -/
inductive ShutdownPoint.Kept (acks : Nat → Option (Option Nat)) : ShutdownPoint → ShutdownPoint → Prop where
  | interrupt : Kept acks .interrupt .interrupt
  | discarding {ks ks' : List Nat} : Spared acks ks ks' → Kept acks (.discarding ks) (.discarding ks')
  | claim : Kept acks .claim .claim
  | joining : Kept acks .joining .joining

/-- The flush is not made in the other run. -/
inductive FlushPoint.Cut (acks : Nat → Option (Option Nat)) : FlushPoint → Prop where
  | checkStopped : Cut acks .checkStopped
  | checkInterrupted : Cut acks .checkInterrupted
  | request : Cut acks .request
  | waiting {k : Nat} : acks k = some none → Cut acks (.waiting k)

/-- The process-wide guard is wanted for the same. -/
inductive Purpose.Pruned (queued : String → Prop) : Purpose → Purpose → Prop where
  | bind (name : String) (insists : Bool) : Purpose.Pruned queued (.bind name insists) (.bind name insists)
  | register (handle : String) {r r' : Registration Command} : Registration.Pruned queued r r' →
      Purpose.Pruned queued (.register handle r) (.register handle r')

/-- A frame at the top of a thread, and its counterpart. -/
inductive Frame.Thinned (b : Bond) (t : ThreadId) : Yield → Frame → Frame → Prop where
  | commands {ls ms : List Lot} {todo todo' : List Command} {done done' : List Reply} :
      Answers ls done.reverse done'.reverse → Pruned b.queued ms todo todo' →
        Thinned b t (.script (ls ++ ms)) (.commands todo done) (.commands todo' done')
  | give {o : Outcome} : o.isPlain = true → Thinned b t .plain (.give o) (.give o)
  | rest {g : GuardId} {u : ThreadId} (reply : Reply) : b.staff g = some (u, false) →
      Thinned b t .plain (.rest g reply) (.rest g reply)
  | discard {g : GuardId} {u : ThreadId} {ks ks' : List Nat} : b.staff g = some (u, false) →
      Spared b.acks ks ks' → Thinned b t .plain (.discard g ks) (.discard g ks')
  | register {g : GuardId} {handle : String} {r r' : Registration Command} {must : Bool} {point : RegisterPoint} :
      Registration.Pruned b.queued r r' → (∀ id, point ≠ .dropping id) →
        Thinned b t .plain (.register ⟨g, handle, r, must⟩ point) (.register ⟨g, handle, r', must⟩ point)
  | release (id : HandleId) {point : ReleasePoint} : point ≠ .running →
      Thinned b t .plain (.release id point) (.release id point)
  | enter (id : HandleId) : Thinned b t .plain (.callback id .enter) (.callback id .enter)
  | ran {id : HandleId} {call : Nat} {ls : List Lot} {rs rs' : List Reply} : b.runs call = some id →
      b.bodies id = some ls → Answers ls rs rs' →
        Thinned b t .plain (.callback id (.ran call rs)) (.callback id (.ran call rs'))
  | drop (id : HandleId) (point : DropPoint) : Thinned b t .plain (.drop id point) (.drop id point)
  | flush (g : GuardId) (patience : Patience) (gate : GateUse) {point point' : FlushPoint} :
      FlushPoint.Kept b.acks point point' →
        Thinned b t .plain (.flush g patience gate point) (.flush g patience gate point')
  | shutdown (g : GuardId) {point point' : ShutdownPoint} : ShutdownPoint.Kept b.acks point point' →
      Thinned b t .plain (.shutdown g point) (.shutdown g point')
  | start {q : StartRequest} : (b.queued q.name → q.kind = .plain) → Thinned b t .plain (.start q) (.start q)
  | bindGuard {name : String} {g : GuardId} : (b.queued name → ∃ u, b.staff g = some (u, true)) →
      Thinned b t .plain (.bindGuard name g) (.bindGuard name g)
  | processWide {p p' : Purpose} : Purpose.Pruned b.queued p p' →
      Thinned b t .plain (.processWide p) (.processWide p')
  | worker {g : GuardId} {queue : Bool} {point point' : WorkerPoint} : b.staff g = some (t, queue) →
      b.post g = point.post → WorkerPoint.Kept b.acks point point' →
        Thinned b t .loop (.worker g point) (.worker g point')
  | late {g : GuardId} {point : WorkerPoint} : b.staff g = some (t, true) → b.post g = .late →
      WorkerPoint.Late b.acks point → Thinned b t .loop (.worker g point) (.worker g .polling)

/-- Frames that wait for a value or a panic. -/
def Frame.Awaits (b : Bond) (t : ThreadId) (k : Yield) (x x' : Frame) : Prop :=
  ∀ o : Outcome, o.isPlain = true → Frame.Thinned b t k (x.receive o) (x'.receive o)

/-- What is below a frame. -/
inductive Rest (b : Bond) (t : ThreadId) : Yield → List Frame → List Frame → Prop where
  | script {ls : List Lot} : b.scripts t = some ls → Rest b t (.script ls) [] []
  | loop : Rest b t .loop [] []
  | body {id : HandleId} {call : Nat} {ls : List Lot} {xs xs' : List Frame} : b.runs call = some id →
      b.bodies id = some ls → Rest b t .plain xs xs' →
        Rest b t (.script ls) (.callback id (.running call) :: xs) (.callback id (.running call) :: xs')
  | caller {k : Yield} {x x' : Frame} {xs xs' : List Frame} : Frame.Awaits b t k x x' → Rest b t k xs xs' →
      Rest b t .plain (x :: xs) (x' :: xs')

/-- The frames of a thread and of its counterpart, which goes without the calls that are left out. -/
inductive Stack.Thinned (b : Bond) (t : ThreadId) : List Frame → List Frame → Prop where
  | empty : Stack.Thinned b t [] []
  | frames {k : Yield} {x x' : Frame} {xs xs' : List Frame} : Frame.Thinned b t k x x' → Rest b t k xs xs' →
      Stack.Thinned b t (x :: xs) (x' :: xs')
  | flushing {k : Yield} {g : GuardId} {u : ThreadId} (patience : Patience) (gate : GateUse) {point : FlushPoint}
      {todo : List Command} {done : List Reply} {x' : Frame} {xs xs' : List Frame} :
      b.staff g = some (u, true) → FlushPoint.Cut b.acks point →
        (∀ r, Frame.Thinned b t k (.commands todo (r :: done)) x') → Rest b t k xs xs' →
          Stack.Thinned b t (.flush g patience gate point :: .commands todo done :: xs) (x' :: xs')

/-- What a thread has come to. -/
inductive Outcome.Thinned (b : Bond) (t : ThreadId) : Outcome → Outcome → Prop where
  | same (o : Outcome) : o.isPlain = true → Outcome.Thinned b t o o
  | did {ls : List Lot} {rs rs' : List Reply} : b.scripts t = some ls → Answers ls rs rs' →
      Outcome.Thinned b t (.did rs) (.did rs')

/-- A thread and its counterpart. -/
structure Thread.Thinned (b : Bond) (t : ThreadId) (x x' : Thread) : Prop where
  name : x'.name = x.name
  stack : Stack.Thinned b t x.stack x'.stack
  outcome : Option.Rel (Outcome.Thinned b t) x.outcome x'.outcome

/-! ## When more corresponds -/

/-- What corresponds after an action of a thread: only a worker's loop changes how a worker stands to its
counterpart, and that is the guard's own worker. -/
structure Bond.Leads (k : Yield) (t : ThreadId) (b b' : Bond) : Prop extends b.Grows b' where
  post : ∀ {g u queue}, b.staff g = some (u, queue) → (k = .loop → u ≠ t) → b'.post g = b.post g
  joined : b'.scripts = b.scripts := by rfl

theorem Bond.Leads.refl (k : Yield) (t : ThreadId) (b : Bond) : Bond.Leads k t b b :=
  { Bond.Grows.refl b with post := fun _ _ => rfl }

section Mono
variable {b b' : Bond} {t : ThreadId} (hg : b.Grows b')
  (hpost : ∀ {g queue}, b.staff g = some (t, queue) → b'.post g = b.post g)
include hg

theorem WorkerPoint.Kept.mono {p p' : WorkerPoint} (h : WorkerPoint.Kept b.acks p p') :
    WorkerPoint.Kept b'.acks p p' := by
  cases h with
  | took hi => exact .took (hi.mono hg.acks)
  | processing hi => exact .processing (hi.mono hg.acks)
  | discarding exit hks => exact .discarding exit (hks.mono hg.acks)
  | _ => constructor

theorem WorkerPoint.Late.mono {p : WorkerPoint} (h : WorkerPoint.Late b.acks p) : WorkerPoint.Late b'.acks p := by
  cases h with
  | took hk => exact .took (hg.acks hk)
  | processing hk => exact .processing (hg.acks hk)
  | calling => exact .calling

theorem FlushPoint.Kept.mono {p p' : FlushPoint} (h : FlushPoint.Kept b.acks p p') :
    FlushPoint.Kept b'.acks p p' := by
  cases h with
  | waiting hk => exact .waiting (hg.acks hk)
  | _ => constructor

theorem ShutdownPoint.Kept.mono {p p' : ShutdownPoint} (h : ShutdownPoint.Kept b.acks p p') :
    ShutdownPoint.Kept b'.acks p p' := by
  cases h with
  | discarding hks => exact .discarding (hks.mono hg.acks)
  | _ => constructor

theorem FlushPoint.Cut.mono {p : FlushPoint} (h : FlushPoint.Cut b.acks p) : FlushPoint.Cut b'.acks p := by
  cases h with
  | waiting hk => exact .waiting (hg.acks hk)
  | _ => constructor

theorem Outcome.Thinned.mono {o o' : Outcome} (h : Outcome.Thinned b t o o') : Outcome.Thinned b' t o o' := by
  cases h with
  | same o ho => exact .same o ho
  | did hs ha => exact .did (hg.scripts hs) ha

theorem Outcome.Thinned.monos {o o' : Option Outcome} (h : Option.Rel (Outcome.Thinned b t) o o') :
    Option.Rel (Outcome.Thinned b' t) o o' := by
  cases h with
  | some h => exact .some (h.mono hg)
  | none => exact .none

include hpost

theorem Frame.Thinned.mono {k : Yield} {x x' : Frame} (h : Frame.Thinned b t k x x') :
    Frame.Thinned b' t k x x' := by
  cases h with
  | commands ha hp => exact .commands ha (hg.queued ▸ hp)
  | give ho => exact .give ho
  | rest reply hs => exact .rest reply (hg.staff hs)
  | discard hs hks => exact .discard (hg.staff hs) (hks.mono hg.acks)
  | register hr hd => exact .register (hg.queued ▸ hr) hd
  | release id hp => exact .release id hp
  | enter id => exact .enter id
  | ran hr hb ha => exact .ran (hg.runs hr) (hg.bodies hb) ha
  | drop id p => exact .drop id p
  | flush g patience gate hp => exact .flush g patience gate (hp.mono hg)
  | shutdown g hp => exact .shutdown g (hp.mono hg)
  | start hq => exact .start fun h => hq (hg.queued ▸ h)
  | bindGuard hq => exact .bindGuard fun h => (hq (hg.queued ▸ h)).imp fun _ => hg.staff
  | processWide hp => exact .processWide (hg.queued ▸ hp)
  | worker hs hp hk => exact .worker (hg.staff hs) ((hpost hs).trans hp) (hk.mono hg)
  | late hs hp hl => exact .late (hg.staff hs) ((hpost hs).trans hp) (hl.mono hg)

theorem Rest.mono {k : Yield} {xs xs' : List Frame} (h : Rest b t k xs xs') : Rest b' t k xs xs' := by
  induction h with
  | script hs => exact .script (hg.scripts hs)
  | loop => exact .loop
  | body hr hb _ ih => exact .body (hg.runs hr) (hg.bodies hb) ih
  | caller hx _ ih => exact .caller (fun o ho => (hx o ho).mono hg hpost) ih

theorem Stack.Thinned.mono {xs xs' : List Frame} (h : Stack.Thinned b t xs xs') : Stack.Thinned b' t xs xs' := by
  cases h with
  | empty => exact .empty
  | frames hx hr => exact .frames (hx.mono hg hpost) (hr.mono hg hpost)
  | flushing patience gate hs hp hx hr =>
    exact .flushing patience gate (hg.staff hs) (hp.mono hg) (fun r => (hx r).mono hg hpost) (hr.mono hg hpost)

theorem Thread.Thinned.mono {x x' : Thread} (h : Thread.Thinned b t x x') : Thread.Thinned b' t x x' :=
  ⟨h.name, h.stack.mono hg hpost, Outcome.Thinned.monos hg h.outcome⟩

end Mono

/-- Below a frame everything stays as it corresponds. -/
theorem Rest.leads {b b' : Bond} {t : ThreadId} {k : Yield} {xs xs' : List Frame} (h : Rest b t k xs xs')
    (hl : Bond.Leads k t b b') : Rest b' t k xs xs' := by
  cases k with
  | loop =>
    cases h with
    | loop => exact .loop
  | plain => exact h.mono hl.toGrows fun hs => hl.post hs fun hk => by cases hk
  | script ls => exact h.mono hl.toGrows fun hs => hl.post hs fun hk => by cases hk

/-! ## Progress -/

/-- The progress of two frames. -/
inductive Progress.Thinned (b : Bond) (t fresh : ThreadId) : Yield → Progress → Progress → Prop where
  | goto {k : Yield} {x x' : Frame} : Frame.Thinned b t k x x' → Progress.Thinned b t fresh k (.goto x) (.goto x')
  | call {k : Yield} {x x' y y' : Frame} : Frame.Thinned b t .plain x x' → Frame.Awaits b t k y y' →
      Progress.Thinned b t fresh k (.call x y) (.call x' y')
  | body {id : HandleId} {call : Nat} {ls : List Lot} {x x' : Frame} : b.runs call = some id →
      b.bodies id = some ls → Frame.Thinned b t (.script ls) x x' →
        Progress.Thinned b t fresh .plain (.call x (.callback id (.running call)))
          (.call x' (.callback id (.running call)))
  | spawn {k : Yield} (name : ThreadName) {x x' y y' : Frame} : Frame.Thinned b fresh .loop x x' →
      Frame.Thinned b t k y y' → Progress.Thinned b t fresh k (.spawn name x y) (.spawn name x' y')
  | plain {o : Outcome} : o.isPlain = true → Progress.Thinned b t fresh .plain (.finish o) (.finish o)
  | loop : Progress.Thinned b t fresh .loop (.finish .done) (.finish .done)
  | did {ls : List Lot} {rs rs' : List Reply} : Answers ls rs rs' →
      Progress.Thinned b t fresh (.script ls) (.finish (.did rs)) (.finish (.did rs'))

/-- The progress of a frame alone, at a call or a request that the other run goes without. -/
inductive Progress.Alone (b : Bond) (t : ThreadId) (k : Yield) : Progress → Frame → Prop where
  | goto {x x' : Frame} : Frame.Thinned b t k x x' → Progress.Alone b t k (.goto x) x'
  | call {g : GuardId} {u : ThreadId} (patience : Patience) (gate : GateUse) {todo : List Command}
      {done : List Reply} {x' : Frame} : b.staff g = some (u, true) →
        (∀ r, Frame.Thinned b t k (.commands todo (r :: done)) x') →
          Progress.Alone b t k (.call (.flush g patience gate .checkStopped) (.commands todo done)) x'

namespace Thread.Thinned
variable {b : Bond} {t : ThreadId} {x x' : Thread} (hname : x'.name = x.name)
  (houtcome : Option.Rel (Outcome.Thinned b t) x.outcome x'.outcome) {k : Yield} {xs xs' : List Frame}
  (hr : Rest b t k xs xs')
include hname houtcome hr

/-- A value or a panic is delivered. -/
theorem deliver {o : Outcome} (hk : k = .plain) (ho : o.isPlain = true) :
    Thread.Thinned b t (x.deliver o xs) (x'.deliver o xs') := by
  subst hk
  cases hr with
  | caller hx hr => exact ⟨hname, .frames (hx o ho) hr, houtcome⟩

/-- Both threads make progress. -/
theorem progress {fresh : ThreadId} {p p' : Progress} (hp : Progress.Thinned b t fresh k p p') :
    Thread.Thinned b t (x.progress xs p) (x'.progress xs' p') := by
  cases hp with
  | goto hx => exact ⟨hname, .frames hx hr, houtcome⟩
  | call hx hy => exact ⟨hname, .frames hx (.caller hy hr), houtcome⟩
  | body hrun hbody hx => exact ⟨hname, .frames hx (.body hrun hbody hr), houtcome⟩
  | spawn name _ hy => exact ⟨hname, .frames hy hr, houtcome⟩
  | plain ho => exact deliver hname houtcome hr rfl ho
  | loop =>
    cases hr with
    | loop => exact ⟨hname, .empty, .some (.same _ rfl)⟩
  | did ha =>
    cases hr with
    | script hs => exact ⟨hname, .empty, .some (.did hs ha)⟩
    | body hrun hbody hr => exact ⟨hname, .frames (.ran hrun hbody ha) hr, houtcome⟩

/-- One thread makes progress alone. -/
theorem progress_alone {p : Progress} {y' : Frame} (hp : Progress.Alone b t k p y')
    (hstack : x'.stack = y' :: xs') : Thread.Thinned b t (x.progress xs p) x' := by
  cases hp with
  | goto hx => exact ⟨hname, hstack ▸ .frames hx hr, houtcome⟩
  | call patience gate hs hx => exact ⟨hname, hstack ▸ .flushing patience gate hs .checkStopped hx hr, houtcome⟩

end Thread.Thinned

/-! ## Operations -/

/-- Both frames act: what corresponds goes on. -/
def Together (b : Bond) (t fresh : ThreadId) (k : Yield) (r r' : Store × Progress) : Prop :=
  ∃ b', Bond.Leads k t b b' ∧ r.1.Thinned b' r'.1 ∧ Progress.Thinned b' t fresh k r.2 r'.2

theorem Together.same {b : Bond} {t fresh : ThreadId} {k : Yield} {r r' : Store × Progress}
    (hs : r.1.Thinned b r'.1) (hp : Progress.Thinned b t fresh k r.2 r'.2) : Together b t fresh k r r' :=
  ⟨b, .refl k t b, hs, hp⟩

/-- One frame acts alone: what corresponds goes on. -/
def Apart (b : Bond) (t : ThreadId) (k : Yield) (r : Store × Progress) (s' : Store) (x' : Frame) : Prop :=
  ∃ b', Bond.Leads k t b b' ∧ r.1.Thinned b' s' ∧ Progress.Alone b' t k r.2 x'

theorem Bond.leads_onPost {b : Bond} {t : ThreadId} {g : GuardId} {queue : Bool} (hstaff : b.staff g = some (t, queue))
    (p : Post) : Bond.Leads .loop t b (b.onPost g p) :=
  { b.grows_onPost g p with
    post := fun {g'} _ _ hu hne => b.onPost_of_ne p fun heq => by
      subst heq
      exact hne rfl (Prod.mk.inj (Option.some.inj (hu.symm.trans hstaff))).1 }

section Operations
variable {b : Bond} {t fresh : ThreadId} {s s' : Store} (h : s.Thinned b s')
include h

theorem DropPoint.together (id : HandleId) (point : DropPoint) :
    Together b t fresh .plain (point.advance s id) (point.advance s' id) := by
  cases point with
  | check =>
    rw [advance, advance]
    have he := h.resource? id
    generalize s.resource? id = e, s'.resource? id = e' at he
    cases he with
    | none => exact .same h (.plain rfl)
    | @some e e' he =>
      cases he with
      | intro =>
        simp only [Option.map_some]
        cases e.state with
        | active => exact .same h (.goto (.drop id .enqueue))
        | released => exact .same h (.plain rfl)
  | enqueue =>
    rw [advance, advance]
    have he := h.resource? id
    generalize s.resource? id = e, s'.resource? id = e' at he
    cases he with
    | none => exact .same h (.plain rfl)
    | @some e e' he =>
      cases he with
      | intro =>
        have hq := h.enqueue e.guard (.reclaim id)
        simp only
        generalize s.enqueue e.guard (.reclaim id) = p, s'.enqueue e.guard (.reclaim id) = p' at hq
        cases hq with
        | intro accepted hm =>
          cases accepted with
          | true => exact .same (hm.log _ _) (.plain rfl)
          | false => exact .same hm (.goto (.drop id .leak))
  | leak =>
    rw [advance, advance]
    have he := h.resource? id
    generalize s.resource? id = e, s'.resource? id = e' at he
    cases he with
    | none => exact .same h (.plain rfl)
    | @some e e' he =>
      cases he with
      | intro =>
        have hq := h.emit e.guard (.leakedAfterStop e.address)
        simp only
        generalize s.emit e.guard _ = p, s'.emit e.guard _ = p' at hq
        cases hq with
        | intro panic hm =>
          cases panic with
          | some p => exact .same hm (.plain rfl)
          | none => exact .same hm (.plain rfl)

theorem RegisterPoint.together {g : GuardId} {handle : String} {r r' : Registration Command} {must : Bool}
    {point : RegisterPoint} (hr : Registration.Pruned b.queued r r') (hd : ∀ id, point ≠ .dropping id) :
    Together b t fresh .plain (point.advance s ⟨g, handle, r, must⟩) (point.advance s' ⟨g, handle, r', must⟩) := by
  have haddress : r'.address = r.address ∧ r'.label = r.label := by cases hr <;> exact ⟨rfl, rfl⟩
  cases point with
  | allocate =>
    rw [advance, advance]
    cases hr with
    | bare address label =>
      cases must with
      | true => exact .same h (.plain rfl)
      | false => exact .same h (.plain rfl)
    | @callback address label ls f f' hf =>
      cases hverify : verifyAddress address with
      | error e =>
        simp only [Registration.check, hverify]
        cases must with
        | true => exact .same h (.plain rfl)
        | false => exact .same h (.plain rfl)
      | ok a =>
        simp only [Registration.check, hverify]
        obtain ⟨hg, hm⟩ : b.Grows (b.onBody ⟨s.entries.size + 1⟩ ls) ∧
            Twin (b.onBody ⟨s.entries.size + 1⟩ ls) (s.allocate g ⟨address, label, some f⟩ f)
              (s'.allocate g ⟨address, label, some f'⟩ f') := h.allocate g rfl rfl hf
        generalize s.allocate g ⟨address, label, some f⟩ f = p, s'.allocate g ⟨address, label, some f'⟩ f' = p' at hm
        cases hm with
        | intro id hm =>
          exact ⟨_, { hg with post := fun _ _ => rfl }, hm,
            .goto (.register (.callback address label hf) fun _ hne => by cases hne)⟩
  | track id =>
    exact .same (h.track g id) (.goto (.register hr fun _ hne => by cases hne))
  | count id =>
    rw [advance, advance]
    refine .same ?_ (.goto (.register hr fun _ hne => by cases hne))
    rw [haddress.1]
    exact h.countRegistered g id r.address
  | bind id =>
    rw [advance, advance, h.handleNamed]
    cases s.handleNamed handle with
    | error what => exact .same (h.bindHandle handle id) (.goto (.register hr fun _ hne => by cases hne))
    | ok old =>
      have hq := (h.bindHandle handle id).dropShare old
      simp only
      generalize (s.bindHandle handle id).dropShare old = p, (s'.bindHandle handle id).dropShare old = p' at hq
      cases hq with
      | intro last hm =>
        cases last with
        | true =>
          refine .same hm (.call (.drop old .check) fun o ho => ?_)
          cases o with
          | value reply => exact .register hr fun _ hne => by cases hne
          | panic p => exact .give rfl
          | did replies => cases ho
        | false => exact .same hm (.goto (.register hr fun _ hne => by cases hne))
  | dropping id => exact (hd id rfl).elim
  | report id =>
    rw [advance, advance, RegisterRequest.report, RegisterRequest.report, h.info?]
    cases s.info? id with
    | none => exact .same h (.plain rfl)
    | some i => exact .same h (.plain rfl)

theorem endRelease_together (id : HandleId) {o : Outcome} (ho : o.isPlain = true) :
    Together b t fresh .plain (endRelease s id o) (endRelease s' id o) := by
  rw [endRelease, endRelease]
  have hq := h.endUse id
  generalize s.endUse id = p, s'.endUse id = p' at hq
  cases hq with
  | intro last hm =>
    cases last with
    | true =>
      refine .same hm (.call (.drop id .check) fun o' ho' => ?_)
      cases o' with
      | value reply => exact .give ho
      | panic p => exact .give rfl
      | did replies => cases ho'
    | false => exact .same hm (.plain ho)

theorem ReleasePoint.together (id : HandleId) {point : ReleasePoint} (hp : point ≠ .running) :
    Together b t fresh .plain (point.advance s id) (point.advance s' id) := by
  cases point with
  | retire =>
    rw [advance, advance]
    have hq := h.retire id
    generalize s.retire id = p, s'.retire id = p' at hq
    cases hq with
    | intro won hm =>
      cases won with
      | true => exact .same hm (.goto (.release id fun hne => by cases hne))
      | false => exact .same hm (.goto (.release id fun hne => by cases hne))
  | count =>
    refine .same (h.countReleased id) (.call (.enter id) fun o ho => ?_)
    cases o with
    | value reply => exact .release id fun hne => by cases hne
    | panic p => exact .release id fun hne => by cases hne
    | did replies => cases ho
  | running => exact (hp rfl).elim
  | lost => exact endRelease_together h id rfl
  | ran panic =>
    cases panic with
    | none => exact endRelease_together h id rfl
    | some p => exact endRelease_together h id rfl

/-- A callback that starts, with its commands, or at its end. -/
theorem CallbackPoint.together_enter (id : HandleId) :
    Together b t fresh .plain (CallbackPoint.enter.advance t s id) (CallbackPoint.enter.advance t s' id) := by
  rw [advance, advance]
  have he := h.resource? id
  generalize s.resource? id = e, s'.resource? id = e' at he
  cases he with
  | none => exact .same h (.plain rfl)
  | @some e e' he =>
    obtain ⟨hg, hm⟩ := h.beginCall he t
    have hrun : (b.onRun s.calls.size id).runs s.calls.size = some id := Function.update_self ..
    have hleads : Bond.Leads .plain t b (b.onRun s.calls.size id) := { hg with post := fun _ _ => rfl }
    simp only
    generalize hp : s.beginCall id e t = p, s'.beginCall id e' t = p' at hm
    cases hm with
    | intro call hm =>
      obtain rfl : s.calls.size = call := congrArg Prod.snd hp
      have hq := hm.tellProbe (he.mono hg)
      simp only
      generalize Store.tellProbe _ e = p, Store.tellProbe _ e' = p' at hq
      cases hq with
      | intro fails hm =>
        cases he with
        | @intro ls f hbody hf =>
          cases fails with
          | true => exact ⟨_, hleads, hm, .plain rfl⟩
          | false =>
            simp only
            rcases hf.body_cases with ⟨hno, hno'⟩ | ⟨cs, cs', hcs, hcs', hp⟩
            · rw [hno, hno']
              refine ⟨_, hleads, hm, ?_⟩
              simp only [Callback.outcome, hf.alike.2.2]
              cases e.callback.panic with
              | none => exact .plain rfl
              | some p => exact .plain rfl
            · rw [hcs, hcs']
              have hscript : Frame.Thinned (b.onRun s.calls.size id) t (.script ([] ++ ls)) (.commands cs [])
                  (.commands cs' []) := .commands .nil (hg.queued ▸ hp)
              exact ⟨_, hleads, hm, .body hrun (hg.bodies hbody) hscript⟩

theorem CallbackPoint.together_ran {id : HandleId} {call : Nat} {ls : List Lot} {rs rs' : List Reply}
    (hrun : b.runs call = some id) (hbody : b.bodies id = some ls) (ha : Answers ls rs rs') :
    Together b t fresh .plain ((CallbackPoint.ran call rs).advance t s id)
      ((CallbackPoint.ran call rs').advance t s' id) := by
  rw [advance, advance]
  have he := h.resource? id
  generalize s.resource? id = e, s'.resource? id = e' at he
  cases he with
  | none => exact .same h (.plain rfl)
  | @some e e' he =>
    cases he with
    | intro _ hf =>
      refine .same (h.endCall hrun hbody ha) ?_
      simp only [Callback.outcome, hf.alike.2.2]
      cases e.callback.panic with
      | none => exact .plain rfl
      | some p => exact .plain rfl

theorem FlushPoint.together (g : GuardId) (patience : Patience) (gate : GateUse) {point point' : FlushPoint}
    (hp : FlushPoint.Kept b.acks point point') :
    Together b t fresh .plain (point.advance s g patience gate) (point'.advance s' g patience gate) := by
  cases hp with
  | checkStopped =>
    rw [advance, advance]
    have hx := h.guard? g
    generalize s.guard? g = x, s'.guard? g = x' at hx
    cases hx with
    | none => exact .same h (.goto (.flush g patience gate .checkInterrupted))
    | @some x x' hx =>
      have hstopped := hx.stopped
      simp only [Option.map_some]
      generalize x.state = state, x'.state = state' at hstopped
      cases state <;> cases state' <;> first
        | exact .same h (.goto (.flush g patience gate .checkInterrupted))
        | exact .same h (.plain rfl)
        | cases hstopped.mp rfl
        | cases hstopped.mpr rfl
  | checkInterrupted =>
    rw [advance, advance]
    have hx := h.guard? g
    generalize s.guard? g = x, s'.guard? g = x' at hx
    cases hx with
    | none => exact .same h (.goto (.flush g patience gate .request))
    | @some x x' hx =>
      cases hx with
      | @intro source _ _ _ hsource _ =>
        have hint : source.isInterrupted = x.source.isInterrupted := hsource.interrupted
        simp only [Option.map_some, hint]
        cases x.source.isInterrupted with
        | true => exact .same h (.plain rfl)
        | false => exact .same h (.goto (.flush g patience gate .request))
  | request =>
    rw [advance, advance]
    obtain ⟨hg, hm⟩ := h.newAck
    have hk : (b.onAck s.acks.size (some s'.acks.size)).acks s.newAck.2 = some (some s'.newAck.2) :=
      Function.update_self ..
    have hleads : Bond.Leads .plain t b (b.onAck s.acks.size (some s'.acks.size)) :=
      { hg with post := fun _ _ => rfl }
    have hq := hm.enqueue g (.flush hk)
    simp only
    generalize s.newAck.1.enqueue g _ = p, s'.newAck.1.enqueue g _ = p' at hq
    cases hq with
    | intro accepted hm =>
      cases accepted with
      | false => exact ⟨_, hleads, hm.closeAck hk, .plain rfl⟩
      | true =>
        cases gate with
        | opens => exact ⟨_, hleads, hm.permitPending g, .goto (.flush g patience .opens (.waiting hk))⟩
        | leaves => exact ⟨_, hleads, hm, .goto (.flush g patience .leaves (.waiting hk))⟩
  | @waiting k k' hk =>
    rw [advance, advance]
    have hq := h.takeAck hk
    generalize s.takeAck k = p, s'.takeAck k' = p' at hq
    cases hq with
    | @intro r r' answer hm =>
      have hx := hm.guard? g
      simp only
      generalize r.guard? g = x, r'.guard? g = x' at hx
      cases hx with
      | none => cases gate <;> exact .same hm (.plain rfl)
      | @some x x' hx =>
        have hstaff := hx.staff
        have hgate : x'.source.gate = x.source.gate := by cases hx with | intro _ hsource _ => exact hsource.gate
        simp only [Option.bind_some, hgate]
        cases hopen : x.source.gate with
        | none => cases gate <;> exact .same hm (.plain rfl)
        | some n =>
          rw [hopen] at hstaff
          cases gate with
          | opens => exact .same hm (.goto (.rest _ (hstaff rfl)))
          | leaves => exact .same hm (.plain rfl)

/-- A flush that is not made in the other run goes on, or comes to an end. -/
theorem FlushPoint.alone {g : GuardId} {u : ThreadId} (patience : Patience) (gate : GateUse) {point : FlushPoint}
    (hstaff : b.staff g = some (u, true)) (hp : FlushPoint.Cut b.acks point) :
    ∃ b', Bond.Leads .plain t b b' ∧ (point.advance s g patience gate).1.Thinned b' s' ∧
      ((∃ point', (point.advance s g patience gate).2 = .goto (.flush g patience gate point') ∧
          FlushPoint.Cut b'.acks point') ∨
        ∃ reply, (point.advance s g patience gate).2 = .finish (.value reply)) := by
  cases hp with
  | checkStopped =>
    refine ⟨b, .refl _ t b, ?_⟩
    rw [advance]
    split
    · exact ⟨h, .inr ⟨_, rfl⟩⟩
    · exact ⟨h, .inl ⟨_, rfl, .checkInterrupted⟩⟩
  | checkInterrupted =>
    refine ⟨b, .refl _ t b, ?_⟩
    rw [advance]
    split
    · exact ⟨h, .inr ⟨_, rfl⟩⟩
    · exact ⟨h, .inl ⟨_, rfl, .request⟩⟩
  | request =>
    obtain ⟨hg, hm⟩ := h.newAck_cut
    refine ⟨_, { hg with post := fun _ _ => rfl }, ?_⟩
    have hk : (b.onAck s.acks.size none).acks s.newAck.2 = some none := Function.update_self ..
    have hq := hm.enqueue_cut (hg.staff hstaff) hk
    rw [advance]
    simp only
    generalize s.newAck.1.enqueue g _ = p at hq
    obtain ⟨r, accepted⟩ := p
    cases accepted with
    | false => exact ⟨hq.closeAck_cut hk, .inr ⟨_, rfl⟩⟩
    | true =>
      cases gate with
      | opens => exact ⟨hq.permitPending_cut (hg.staff hstaff), .inl ⟨_, rfl, .waiting hk⟩⟩
      | leaves => exact ⟨hq, .inl ⟨_, rfl, .waiting hk⟩⟩
  | @waiting k hk =>
    refine ⟨b, .refl _ t b, ?_⟩
    have hq := h.takeAck_cut hk
    rw [advance]
    generalize s.takeAck k = p at hq
    obtain ⟨r, answer⟩ := p
    have hx := hq.guard? g
    simp only
    generalize r.guard? g = x, s'.guard? g = x' at hx
    cases hx with
    | none => cases gate <;> exact ⟨hq, .inr ⟨_, rfl⟩⟩
    | @some x x' hx =>
      have hno : x.source.gate = none := by
        cases hx with
        | intro hstaff' hsource _ =>
          obtain ⟨-, rfl⟩ := Prod.mk.inj (Option.some.inj (hstaff.symm.trans hstaff'))
          exact (hsource.plain rfl).1
      simp only [Option.bind_some, hno]
      cases gate <;> exact ⟨hq, .inr ⟨_, rfl⟩⟩

/-- Both threads destroy a request, or go on when there is none left; or one of them destroys a request that
the other never had. -/
theorem discardNext_thinned (fresh : ThreadId) {k : Yield} {again again' : List Nat → Frame}
    {next next' : Frame} {ks ks' : List Nat} (hks : Spared b.acks ks ks')
    (hagain : ∀ ls ls', Spared b.acks ls ls' → Frame.Thinned b t k (again ls) (again' ls'))
    (hnext : Frame.Thinned b t k next next') :
    Together b t fresh k (discardNext s again next ks) (discardNext s' again' next' ks') ∨
      (∃ n ls, ks = n :: ls) ∧ Apart b t k (discardNext s again next ks) s' (again' ks') := by
  cases hks with
  | nil => exact .inl (.same h (.goto hnext))
  | kept hk hks => exact .inl (.same (h.closeAck hk) (.goto (hagain _ _ hks)))
  | cut hk hks => exact .inr ⟨⟨_, _, rfl⟩, b, .refl k t b, h.closeAck_cut hk, .goto (hagain _ _ hks)⟩

theorem ShutdownPoint.together (fresh : ThreadId) (g : GuardId) {point point' : ShutdownPoint}
    (hp : ShutdownPoint.Kept b.acks point point') :
    Together b t fresh .plain (point.advance t s g) (point'.advance t s' g) ∨
      (∃ n ls, point = .discarding (n :: ls)) ∧
        Apart b t .plain (point.advance t s g) s' (.shutdown g point') := by
  cases hp with
  | interrupt =>
    obtain ⟨hm, hks⟩ := h.interrupt g
    exact .inl (.same hm (.goto (.shutdown g (.discarding hks))))
  | discarding hks =>
    refine (discardNext_thinned h fresh hks (fun _ _ hks => .shutdown g (.discarding hks))
      (.shutdown g .claim)).imp_right ?_
    rintro ⟨⟨n, ls, rfl⟩, hapart⟩
    exact ⟨⟨n, ls, rfl⟩, hapart⟩
  | claim =>
    left
    rw [advance, advance]
    have hx := h.guard? g
    generalize s.guard? g = x, s'.guard? g = x' at hx
    cases hx with
    | none => exact .same h (.plain rfl)
    | @some x x' hx =>
      cases hx with
      | intro =>
        simp only
        have hm := h.modifyGuard g (f := fun x => { x with joinable := false }) fun x x' hx => by
          cases hx with
          | intro hstaff hsource hstate => exact .intro hstaff hsource hstate
        split
        · split
          · exact .same hm (.plain rfl)
          · exact .same hm (.goto (.shutdown g .joining))
        · exact .same h (.plain rfl)
  | joining =>
    left
    rw [advance, advance]
    have hx := h.guard? g
    generalize s.guard? g = x, s'.guard? g = x' at hx
    cases hx with
    | none => exact .same h (.plain rfl)
    | @some x x' hx =>
      cases hx with
      | intro =>
        simp only [Option.bind_some]
        cases x.exit with
        | none => exact .same h (.plain rfl)
        | some exit =>
          cases exit with
          | regular => exact .same h (.plain rfl)
          | abnormal => exact .same (h.log _ _) (.plain rfl)

theorem StartRequest.together {q : StartRequest} (hq : b.queued q.name → q.kind = .plain) :
    Together b t fresh .plain (q.advance fresh s) (q.advance fresh s') := by
  obtain ⟨hg, hm⟩ := h.addGuard q.config q.kind q.panicsAt fresh
  have hstaff : (b.onGuard s.guards.size fresh (q.kind.source q.panicsAt).gate.isNone).staff s.guards.size =
      some (fresh, (q.kind.source q.panicsAt).gate.isNone) := Function.update_self ..
  have hleads : Bond.Leads .plain t b (b.onGuard s.guards.size fresh (q.kind.source q.panicsAt).gate.isNone) :=
    { hg with
      post := fun hu _ => Function.update_of_ne (fun heq => by
        rw [heq, h.guards.fresh_of_le (Nat.le_refl _)] at hu
        cases hu) .. }
  rw [advance, advance]
  generalize hp : s.addGuard q.config (q.kind.source q.panicsAt) fresh = p,
    s'.addGuard q.config (q.kind.source q.panicsAt) fresh = p' at hm
  cases hm with
  | intro g hm =>
    obtain rfl : s.guards.size = g := congrArg Prod.snd hp
    refine ⟨_, hleads, hm, .spawn _ (.worker hstaff (Function.update_self ..) .starting) (.bindGuard fun hname => ?_)⟩
    rw [hstaff, hq hname]
    exact ⟨fresh, rfl⟩

theorem bindGuard_together {name : String} {g : GuardId} (hg : b.queued name → ∃ u, b.staff g = some (u, true)) :
    Together b t fresh .plain (bindGuard s name g) (bindGuard s' name g) := by
  have hm := h.bindGuard name hg
  rw [bindGuard, bindGuard, h.guardNamed]
  cases s.guardNamed name with
  | error what => exact .same hm (.plain rfl)
  | ok old =>
    simp only [hm.isProcessWide]
    split
    · exact .same hm (.plain rfl)
    · refine .same hm (.call (.shutdown old .interrupt) fun o ho => ?_)
      cases o with
      | value reply => exact .give rfl
      | panic p => exact .give rfl
      | did replies => cases ho

omit h in
theorem Purpose.thinned_frame {p p' : Purpose} (hp : Purpose.Pruned b.queued p p') {g : GuardId} {u : ThreadId}
    (hg : b.staff g = some (u, true)) : Frame.Thinned b t .plain (p.frame g) (p'.frame g) := by
  cases hp with
  | bind name insists => exact .bindGuard fun _ => ⟨u, hg⟩
  | register handle hr => exact .register hr fun _ hne => by cases hne

theorem Purpose.together {p p' : Purpose} (hp : Purpose.Pruned b.queued p p') :
    Together b t fresh .plain (p.advance fresh s) (p'.advance fresh s') := by
  rw [advance, advance, h.processWide, h.processWideConfig]
  cases hrun : s.processWide.running with
  | some g =>
    obtain ⟨u, hu⟩ := h.running hrun
    exact .same h (.goto (Purpose.thinned_frame hp hu))
  | none =>
    cases s.processWideConfig with
    | error e =>
      refine .same h ?_
      cases hp with
      | bind name insists => cases insists <;> exact .plain rfl
      | register handle hr => exact .plain rfl
    | ok config =>
      obtain ⟨hg, hm⟩ := h.addGuard config .plain none fresh
      have hstaff : (b.onGuard s.guards.size fresh true).staff s.guards.size = some (fresh, true) :=
        Function.update_self ..
      have hleads : Bond.Leads .plain t b (b.onGuard s.guards.size fresh true) :=
        { hg with
          post := fun hu _ => Function.update_of_ne (fun heq => by
            rw [heq, h.guards.fresh_of_le (Nat.le_refl _)] at hu
            cases hu) .. }
      simp only
      generalize hadd : s.addGuard config .plain fresh = q, hadd' : s'.addGuard config .plain fresh = q'
      rw [show SourceKind.plain.source none = .plain from rfl, hadd, hadd'] at hm
      cases hm with
      | intro g hm =>
        obtain rfl : s.guards.size = g := congrArg Prod.snd hadd
        refine ⟨_, hleads, { hm with processWide := rfl, running := fun heq => ?_ },
          .spawn _ (.worker hstaff (Function.update_self ..) .starting)
            (Purpose.thinned_frame (hg.queued ▸ hp) hstaff)⟩
        cases heq
        exact ⟨fresh, hstaff⟩

section Workers
variable {g : GuardId} {queue : Bool} (hstaff : b.staff g = some (t, queue))
include hstaff

/-- Both workers look into their sources, or only one does, which finds a request that the other has not. -/
theorem WorkerPoint.together_polling (hpost : b.post g = .idle) (hready : (Frame.worker g .polling).isReady s = true) :
    (Together b t fresh .loop (WorkerPoint.polling.advance s g) (WorkerPoint.polling.advance s' g) ∧
      (Frame.worker g .polling).isReady s' = true) ∨
      (∃ k, (s.pollNext g).2 = .item (.flush k)) ∧
        Apart b t .loop (WorkerPoint.polling.advance s g) s' (.worker g .polling) := by
  have level {r r' : Store} (hm : r.Thinned b r') : r.Thinned (b.onPost g .level) r' :=
    hm.repost hstaff .level fun x state' _ hidle => by
      rw [hpost] at hidle
      exact hidle.2.trans hidle.1.symm
  have hpoll := h.pollNext hpost hready
  have ready (hne : (s'.pollNext g).2 ≠ .wait) : (Frame.worker g .polling).isReady s' = true :=
    Store.Thinned.isSourceReady_of_poll hne
  rw [advance, advance]
  generalize s.pollNext g = p, s'.pollNext g = p' at hpoll ready
  obtain ⟨r, poll⟩ := p
  obtain ⟨r', poll'⟩ := p'
  rcases hpoll with ⟨hr, hr', hm⟩ | ⟨i, i', hi, hr, hr', hm⟩ | ⟨k, k', hr, hr', hm⟩ | ⟨k, u, hu, hr, hk, hm⟩
  · cases hr
    cases hr'
    exact .inl ⟨⟨_, Bond.leads_onPost hstaff .level, level hm,
      .goto (.worker hstaff (b.onPost_post g .level) (.leaving .regular))⟩, ready fun hne => by cases hne⟩
  · cases hr
    cases hr'
    exact .inl ⟨⟨_, Bond.leads_onPost hstaff .level, level hm,
      .goto (.worker hstaff (b.onPost_post g .level) (.took hi))⟩, ready fun hne => by cases hne⟩
  · cases hr
    cases hr'
    exact .inl ⟨.same hm (.goto (.worker hstaff hpost .polling)), ready fun hne => by cases hne⟩
  · cases hr
    obtain ⟨rfl, rfl⟩ := Prod.mk.inj (Option.some.inj (hu.symm.trans hstaff))
    exact .inr ⟨⟨k, rfl⟩, _, Bond.leads_onPost hstaff .late, hm,
      .goto (.late hstaff (b.onPost_post g .late) (.took hk))⟩

/-- Both workers act, anywhere else. -/
theorem WorkerPoint.together_acting {point point' : WorkerPoint} (hpost : b.post g = point.post)
    (hp : WorkerPoint.Kept b.acks point point') (hacts : point ≠ .polling)
    (hdiscards : ∀ exit ks, point ≠ .discarding exit ks) :
    Together b t fresh .loop (point.advance s g) (point'.advance s' g) := by
  -- points that leave the worker as it stands to its counterpart
  have level {p p' : WorkerPoint} {r r' : Store} (hlevel : b.post g = .level) (hp : p.post = .level)
      (hk : WorkerPoint.Kept b.acks p p') (hm : r.Thinned b r') :
      Together b t fresh .loop (r, .goto (.worker g p)) (r', .goto (.worker g p')) :=
    .same hm (.goto (.worker hstaff (hlevel.trans hp.symm) hk))
  cases hp with
  | starting => exact level hpost rfl .calling (h.log _ _)
  | calling =>
    have hm := (h.setWorkerState (g := g) .waiting (p := .idle) fun _ _ => ⟨rfl, rfl⟩).callNext g
    rw [advance, advance]
    generalize (s.setWorkerState g .waiting).callNext g = p, (s'.setWorkerState g .waiting).callNext g = p' at hm
    cases hm with
    | intro panics hm =>
      cases panics with
      | true =>
        have hm := hm.repost (g := g) hstaff .level fun x state' _ hidle => by
          rw [b.onPost_post] at hidle
          exact hidle.2.trans hidle.1.symm
        rw [b.onPost_onPost] at hm
        exact ⟨_, Bond.leads_onPost hstaff .level, hm,
          .goto (.worker hstaff (b.onPost_post g .level) (.leaving .abnormal))⟩
      | false =>
        exact ⟨_, Bond.leads_onPost hstaff .idle, hm, .goto (.worker hstaff (b.onPost_post g .idle) .polling)⟩
  | polling => exact absurd rfl hacts
  | @took i i' hi =>
    have hm := h.setWorkerState (g := g) .processing (p := .level) fun _ _ => rfl
    exact ⟨_, Bond.leads_onPost hstaff .level, hm,
      .goto (.worker hstaff (b.onPost_post g .level) (.processing hi))⟩
  | @processing i i' hi =>
    cases hi with
    | flush hk => exact level hpost rfl .calling (h.answer hk)
    | reclaim id =>
      have hm := h.takeActive g id
      rw [advance, advance]
      generalize s.takeActive g id = p, s'.takeActive g id = p' at hm
      cases hm with
      | intro won hm =>
        cases won with
        | true => exact level hpost rfl (.reporting id) hm
        | false => exact level hpost rfl .calling (hm.countDiscarded g id)
  | reporting id =>
    rw [advance, advance]
    have he := h.resource? id
    generalize s.resource? id = e, s'.resource? id = e' at he
    cases he with
    | none => exact level hpost rfl .calling h
    | @some e e' he =>
      cases he with
      | intro =>
        have hm := h.emit g (.notProperlyClosed e.address)
        simp only
        generalize s.emit g _ = p, s'.emit g _ = p' at hm
        cases hm with
        | intro panic hm =>
          cases panic with
          | some p => exact level hpost rfl (.aborted p) hm
          | none =>
            refine .same hm (.call (.enter id) fun o ho => ?_)
            cases o with
            | value reply => exact .worker hstaff hpost (.settling id none)
            | panic p => exact .worker hstaff hpost (.settling id (some p))
            | did replies => cases ho
  | settling id panic =>
    cases panic with
    | none => exact level hpost rfl (.announcing id none) (h.countReclaimed g)
    | some p => exact level hpost rfl (.announcing id (some p)) (h.countFailure g)
  | announcing id panic =>
    rw [advance, advance]
    have he := h.resource? id
    generalize s.resource? id = e, s'.resource? id = e' at he
    cases he with
    | none => exact level hpost rfl .calling h
    | @some e e' he =>
      have hannounce : e'.announcement panic = e.announcement panic := by
        cases he with
        | intro => cases panic <;> rfl
      have hm := h.emit g (e.announcement panic)
      simp only [hannounce]
      generalize s.emit g _ = p, s'.emit g _ = p' at hm
      cases hm with
      | intro panic hm =>
        cases panic with
        | some p => exact level hpost rfl (.aborted p) hm
        | none => exact level hpost rfl .calling hm
  | aborted p => exact level hpost rfl .calling (h.log _ _)
  | leaving exit =>
    obtain ⟨hm, hks⟩ := h.interrupt g
    exact level hpost rfl (.discarding exit hks) hm
  | discarding exit hks => exact absurd rfl (hdiscards _ _)
  | farewell exit =>
    have hm := h.emit g .interrupted
    rw [advance, advance]
    generalize s.emit g .interrupted = p, s'.emit g .interrupted = p' at hm
    cases hm with
    | intro _ hm => exact level hpost rfl (.stopping exit) hm
  | stopping exit =>
    refine .same (h.modifyGuard g fun x x' hx => ?_) .loop
    cases hx with
    | intro hstaff' hsource _ =>
      refine .intro hstaff' hsource ?_
      rw [hpost]
      rfl

/-- Both workers act, or only one does, which finds a request that the other has not, or destroys one. -/
theorem WorkerPoint.together {point point' : WorkerPoint} (hpost : b.post g = point.post)
    (hp : WorkerPoint.Kept b.acks point point') (hready : (Frame.worker g point).isReady s = true) :
    (Together b t fresh .loop (point.advance s g) (point'.advance s' g) ∧
      (Frame.worker g point').isReady s' = true) ∨
      (point = .polling ∧ (∃ k, (s.pollNext g).2 = .item (.flush k)) ∨
        ∃ exit n ls, point = .discarding exit (n :: ls)) ∧
        Apart b t .loop (point.advance s g) s' (.worker g point') := by
  cases hp with
  | polling =>
    exact (WorkerPoint.together_polling h hstaff hpost hready).imp_right fun ⟨hfinds, hapart⟩ =>
      ⟨.inl ⟨rfl, hfinds⟩, hapart⟩
  | discarding exit hks =>
    have hlevel : b.post g = .level := hpost
    have hagain : ∀ ls ls', Spared b.acks ls ls' →
        Frame.Thinned b t .loop (.worker g (.discarding exit ls)) (.worker g (.discarding exit ls')) :=
      fun _ _ hks => .worker hstaff hlevel (.discarding exit hks)
    have hnext : Frame.Thinned b t .loop (.worker g (.farewell exit)) (.worker g (.farewell exit)) :=
      .worker hstaff hlevel (.farewell exit)
    obtain htogether | ⟨⟨n, ls, rfl⟩, hapart⟩ := discardNext_thinned h fresh hks hagain hnext
    · exact .inl ⟨htogether, rfl⟩
    · exact .inr ⟨.inr ⟨exit, n, ls, rfl⟩, hapart⟩
  | _ => exact .inl ⟨WorkerPoint.together_acting h hstaff hpost (by constructor <;> assumption) nofun nofun, rfl⟩

end Workers

/-- A worker that is at a request that was not made in the other run. -/
theorem WorkerPoint.alone {g : GuardId} {point : WorkerPoint} (hstaff : b.staff g = some (t, true))
    (hpost : b.post g = .late) (hp : WorkerPoint.Late b.acks point) :
    Apart b t .loop (point.advance s g) s' (.worker g .polling) := by
  cases hp with
  | took hk =>
    have hne : WorkerState.processing ≠ .stopped := by decide
    exact ⟨_, Bond.leads_onPost hstaff .late, h.setWorkerState_left hpost fun _ hd => ⟨rfl, hne, rfl, hd⟩,
      .goto (.late hstaff (b.onPost_post g .late) (.processing hk))⟩
  | processing hk => exact ⟨b, .refl _ t b, h.answer_cut hk, .goto (.late hstaff hpost .calling)⟩
  | calling =>
    have hm : (s.setWorkerState g .waiting).Thinned (b.onPost g .idle) s' :=
      h.setWorkerState_left hpost fun _ _ => ⟨rfl, rfl⟩
    obtain ⟨hno, hm⟩ := hm.callNext_cut hstaff
    rw [advance]
    generalize (s.setWorkerState g .waiting).callNext g = p at hno hm
    obtain ⟨r, panics⟩ := p
    cases hno
    exact ⟨_, Bond.leads_onPost hstaff .idle, hm, .goto (.worker hstaff (b.onPost_post g .idle) .polling)⟩

omit h in
/-- A source within reach is not a plain queue, and holds what its counterpart holds. -/
theorem Store.Thinned.reached (h : s.Thinned b s') {name : String} {g : GuardId} (hg : s.sourceNamed name = .ok g) :
    (∃ u, b.staff g = some (u, false)) ∧ s'.pendingAt g = s.pendingAt g := by
  obtain ⟨-, y, hy, hgate⟩ := Store.sourceNamed_exposed hg
  obtain ⟨x, hguard, rfl⟩ := Option.map_eq_some_iff.mp hy
  have hx := h.guard? g
  rw [Store.pendingAt, Store.pendingAt]
  rw [hguard] at hx ⊢
  generalize s'.guard? g = x' at hx
  cases hx with
  | some hx => exact ⟨⟨_, hx.staff hgate⟩, hx.pending hgate⟩

end Operations

/-! ## Scripts -/

/-- How two commands start. -/
inductive Begin.Thinned (b : Bond) (t : ThreadId) (lot : Lot) : Begin → Begin → Prop where
  | reply {r r' : Reply} : r.Shown r' → (lot = .kept → r' = r) → Begin.Thinned b t lot (.reply r) (.reply r')
  | operation {x x' : Frame} : lot = .kept → Frame.Thinned b t .plain x x' →
      Begin.Thinned b t lot (.operation x) (.operation x')

/-- Two commands name the same unknown, or start. -/
inductive Begins (b : Bond) (t : ThreadId) (lot : Lot) :
    Except Missing (Store × Begin) → Except Missing (Store × Begin) → Prop where
  | error (what : Missing) : Begins b t lot (.error what) (.error what)
  | ok {s s' : Store} {x x' : Begin} : s.Thinned b s' → Begin.Thinned b t lot x x' →
      Begins b t lot (.ok (s, x)) (.ok (s', x'))

/-- Both look up the same, and find the same or nothing. -/
theorem Begins.bind {α : Type} {b : Bond} {t : ThreadId} {lot : Lot} {x : Except Missing α}
    {k k' : α → Except Missing (Store × Begin)} (h : ∀ a, x = .ok a → Begins b t lot (k a) (k' a)) :
    Begins b t lot (x >>= k) (x >>= k') := by
  cases x with
  | error what => exact .error what
  | ok a => exact h a rfl

namespace Command
variable {b : Bond} {t : ThreadId} {s s' : Store} (h : s.Thinned b s')
include h

theorem begins_register {lot : Lot} (hlot : lot = .kept) {handle : String} {r r' : Registration Command}
    (hr : Registration.Pruned b.queued r r') (must : Bool) (name : String) :
    Begins b t lot
      (do let g ← s.guardNamed name; return (s, .operation (.register ⟨g, handle, r, must⟩ .allocate)))
      (do let g ← s'.guardNamed name; return (s', .operation (.register ⟨g, handle, r', must⟩ .allocate))) := by
  rw [h.guardNamed]
  exact .bind fun g _ => .ok h (.operation hlot (.register hr fun _ hne => by cases hne))

theorem begins {c c' : Command} (hc : Command.Pruned b.queued c c') : Begins b t c.lot (c.begin? s) (c'.begin? s') := by
  -- an answer at once
  have reply {lot : Lot} {r r' : Store} (hm : r.Thinned b r') (answer : Reply) :
      Begins b t lot (.ok (r, .reply answer)) (.ok (r', .reply answer)) :=
    .ok hm (.reply (.same answer) fun _ => rfl)
  cases hc with
  | @register target handle r r' hr =>
    cases target with
    | guard name => exact begins_register h rfl hr false name
    | processWide => exact .ok h (.operation rfl (.processWide (.register handle hr)))
  | acquire guard handle hr => exact begins_register h rfl hr true guard
  | @startGuard guard setup kind panicsAt hkind =>
    simp only [begin?, h.environment]
    cases setup.config s.environment guard with
    | error e => exact reply h _
    | ok config => exact .ok h (.operation rfl (.start hkind))
  | @simple c hsimple =>
    cases c with
    | register => cases hsimple
    | acquire => cases hsimple
    | startGuard => cases hsimple
    | release handle via =>
      simp only [begin?, h.handleNamed, h.guardNamed]
      refine .bind fun id _ => ?_
      have hm : Begins b t .kept (.ok (s.beginUse id, .operation (.release id .retire)))
          (.ok (s'.beginUse id, .operation (.release id .retire))) :=
        .ok (h.beginUse id) (.operation rfl (.release id fun hne => by cases hne))
      cases via with
      | none => exact hm
      | some guard => exact .bind fun _ _ => hm
    | drop handle =>
      simp only [begin?, h.handleNamed]
      refine .bind fun id _ => ?_
      have hm := h.dropShare id
      generalize s.dropShare id = p, s'.dropShare id = p' at hm
      cases hm with
      | intro last hm =>
        cases last with
        | true => exact .ok hm (.operation rfl (.drop id .check))
        | false => exact reply hm _
    | inject guard handle =>
      simp only [begin?, h.sourceNamed, h.idNamed]
      refine .bind fun g _ => .bind fun id _ => ?_
      have hm := h.enqueue g (.reclaim id)
      generalize s.enqueue g (.reclaim id) = p, s'.enqueue g (.reclaim id) = p' at hm
      cases hm with
      | intro accepted hm => exact reply hm _
    | flush guard patience gate =>
      have hguard : flushGuard s' guard gate = flushGuard s guard gate := by
        cases gate with
        | opens => exact h.guardNamed guard
        | leaves => exact h.sourceNamed guard
      simp only [begin?, hguard]
      exact .bind fun g _ => .ok h (.operation rfl (.flush g patience gate .checkStopped))
    | letThrough guard n =>
      simp only [begin?, h.sourceNamed]
      refine .bind fun g hg => ?_
      obtain ⟨⟨u, hu⟩, hpending⟩ := h.reached hg
      rw [hpending]
      exact .ok (h.permit g _) (.operation rfl (.rest _ hu))
    | interrupt guard =>
      simp only [begin?, h.sourceNamed]
      refine .bind fun g hg => ?_
      obtain ⟨⟨u, hu⟩, -⟩ := h.reached hg
      obtain ⟨hm, hks⟩ := h.interrupt g
      exact .ok hm (.operation rfl (.discard hu hks))
    | shutdown guard =>
      simp only [begin?, h.guardNamed]
      exact .bind fun g _ => .ok h (.operation rfl (.shutdown g .interrupt))
    | dropGuard guard =>
      have hm := h.forgetGuard guard
      simp only [begin?, h.guardNamed, hm.isProcessWide]
      refine .bind fun g _ => ?_
      split
      · exact reply hm _
      · exact .ok hm (.operation rfl (.shutdown g .interrupt))
    | choose recorder setup =>
      simp only [begin?, h.environment]
      cases setup.config s.environment recorder with
      | error e => exact reply h _
      | ok config =>
        simp only
        rcases h.choose config with ⟨e, he, he'⟩ | ⟨r, r', hr, hr', hm⟩
        · rw [he, he']
          exact reply h _
        · rw [hr, hr']
          exact reply hm _
    | processWide guard insists => exact .ok h (.operation rfl (.processWide (.bind guard insists)))
    | setEnvironment environment =>
      have hm : { s with environment }.Thinned b { s' with environment } := { h with environment := rfl }
      exact reply hm _
    | failOn address =>
      have hm : { s with probes := s.probes.modify 0 fun p => p.failOn address }.Thinned b
          { s' with probes := s'.probes.modify 0 fun p => p.failOn address } :=
        { h with probes := by rw [h.probes] }
      exact reply hm _
    | ask query =>
      obtain ⟨hshown, hkept⟩ := Query.answer_thinned h query
      exact .ok h (.reply hshown hkept)

theorem begin_thinned {c c' : Command} (hc : Command.Pruned b.queued c c') :
    (c.begin s).1.Thinned b (c'.begin s').1 ∧ Begin.Thinned b t c.lot (c.begin s).2 (c'.begin s').2 := by
  have hb := begins (t := t) h hc
  rw [begin, begin]
  generalize c.begin? s = r, c'.begin? s' = r' at hb
  cases hb with
  | error what => exact ⟨h, .reply (.same _) fun _ => rfl⟩
  | ok hm hx => exact ⟨hm, hx⟩

end Command

end Reclaim

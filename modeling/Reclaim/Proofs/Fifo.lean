import Reclaim.Proofs.Stopping

/-!
# Closable queues

A queue gives out what it has accepted, in order, until somebody interrupts it; from then on it is
empty, hands every item back and tells every consumer so. The source of a guard is such a queue,
whoever drops handles, flushes, puts handles in from outside or shuts the guard down; a flush request
that an interruption throws away is closed by whoever interrupted, so whoever waits for its answer gets none.

* `Queue.Call`, `Queue.calls` : calls on a queue, by whomever, and the answers;
* `Queue.Fifo` : what a queue has accepted and delivered; `Queue.Open`, `Queue.Closed` : what a call
  does before and after the interruption; `Queue.fifo_calls`;
* `Site.Lined` : the source of a guard is what calls have made of an empty queue;
* `System.Interrupts` : what an interruption takes and closes; `System.Hung` : what becomes of calls on an
  interrupted source; `System.sources_are_fifo`.
-/

namespace Reclaim

namespace Queue
variable {α : Type}

/-- A call on a queue: by a producer, by the consumer, or by anyone. -/
inductive Call (α : Type) where
  | enqueue (item : α)
  | next
  | interrupt

/-- What a call comes to. -/
inductive Answer (α : Type) where
  | accepted (item : α)
  | handedBack (item : α)
  | delivered (item : α)
  /-- The consumer has to wait. -/
  | nothing
  /-- The consumer is told that the queue has been interrupted. -/
  | interrupted
  | done

/-- One call, which nothing else can come between. -/
def call (q : Queue α) : Call α → Queue α × Answer α
  | .enqueue item =>
    match q.enqueue item with
    | some q' => (q', .accepted item)
    | none => (q, .handedBack item)
  | .next =>
    match q.next with
    | .item item rest => (rest, .delivered item)
    | .empty => (q, .nothing)
    | .interrupted => (q, .interrupted)
  | .interrupt => (q.interrupt.1, .done)

/-- A list of calls, in the order in which they take effect. -/
def calls (q : Queue α) : List (Call α) → Queue α × List (Answer α)
  | [] => (q, [])
  | c :: cs => (((q.call c).1.calls cs).1, (q.call c).2 :: ((q.call c).1.calls cs).2)

/-- The items that were accepted, in order. -/
def Answer.ins (answers : List (Answer α)) : List α :=
  answers.filterMap fun
    | .accepted item => some item
    | _ => none

/-- The items that were delivered, in order. -/
def Answer.outs (answers : List (Answer α)) : List α :=
  answers.filterMap fun
    | .delivered item => some item
    | _ => none

/-- A queue that has accepted and delivered these items. -/
structure Fifo (q : Queue α) (ins outs : List α) : Prop where
  /-- What has been delivered is the beginning of what was accepted, -/
  order : outs <+: ins
  /-- the rest waits, as long as nobody has interrupted the queue, -/
  complete : q.interrupted = false → outs ++ q.items = ins
  pending : q.interrupted = false → outs.length + q.pending = ins.length
  /-- and nothing waits after that. -/
  closed : q.interrupted = true → q.items = []

/-- What calls on a queue do before it is interrupted. -/
structure Open (q : Queue α) : Prop where
  accepts : ∀ item, q.call (.enqueue item) = ({ q with items := q.items ++ [item] }, .accepted item)
  delivers : ∀ item rest, q.items = item :: rest →
    q.call .next = ({ q with items := rest }, .delivered item)
  closes : (q.call .interrupt).1.interrupted = true

/-- What calls on a queue do once it has been interrupted: nothing. -/
structure Closed (q : Queue α) : Prop where
  interrupted : q.interrupted = true
  pending : q.pending = 0
  handsBack : ∀ item, q.call (.enqueue item) = (q, .handedBack item)
  ends : q.call .next = (q, .interrupted)
  again : q.call .interrupt = (q, .done)

theorem calls_append (q : Queue α) (cs cs' : List (Call α)) :
    q.calls (cs ++ cs') =
      (((q.calls cs).1.calls cs').1, (q.calls cs).2 ++ ((q.calls cs).1.calls cs').2) := by
  induction cs generalizing q with
  | nil => rfl
  | cons c cs ih => simp only [List.cons_append, calls, ih]

@[simp] theorem Answer.ins_append (xs ys : List (Answer α)) : ins (xs ++ ys) = ins xs ++ ins ys :=
  List.filterMap_append

@[simp] theorem Answer.outs_append (xs ys : List (Answer α)) : outs (xs ++ ys) = outs xs ++ outs ys :=
  List.filterMap_append

section Calls
variable {q : Queue α} {ins outs : List α}

theorem open_of_not_interrupted (h : q.interrupted = false) : q.Open where
  accepts item := by simp [call, enqueue, h]
  delivers item rest hitems := by simp [call, next, h, hitems]
  closes := rfl

/-- An interrupted queue in which nothing waits is closed. -/
theorem closed_of_interrupted (h : q.interrupted = true) (hitems : q.items = []) : q.Closed where
  interrupted := h
  pending := by rw [pending, hitems, List.length_nil]
  handsBack item := by simp [call, enqueue, h]
  ends := by simp [call, next, h]
  again := by
    obtain ⟨items, interrupted⟩ := q
    obtain rfl : items = [] := hitems
    obtain rfl : interrupted = true := h
    rfl

theorem Fifo.closing (hq : q.Fifo ins outs) (h : q.interrupted = true) : q.Closed :=
  closed_of_interrupted h (hq.closed h)

/-- Every call keeps the order. -/
theorem Fifo.call (hq : q.Fifo ins outs) (c : Call α) :
    (q.call c).1.Fifo (ins ++ Answer.ins [(q.call c).2]) (outs ++ Answer.outs [(q.call c).2]) := by
  cases hint : q.interrupted with
  | true =>
    have hclosed := hq.closing hint
    cases c with
    | enqueue item => simpa [hclosed.handsBack, Answer.ins, Answer.outs] using hq
    | next => simpa [hclosed.ends, Answer.ins, Answer.outs] using hq
    | interrupt => simpa [hclosed.again, Answer.ins, Answer.outs] using hq
  | false =>
    have hopen := open_of_not_interrupted hint
    have hall := hq.complete hint
    have hclosed : ∀ {items : List α}, q.interrupted = true → items = [] := fun h => by
      rw [hint] at h
      cases h
    cases c with
    | enqueue item =>
      have hall' : outs ++ (q.items ++ [item]) = ins ++ [item] := by rw [← hall, List.append_assoc]
      have hcount : outs.length + (q.items ++ [item]).length = (ins ++ [item]).length := by
        rw [← List.length_append, hall']
      rw [hopen.accepts]
      simp only [Answer.ins, Answer.outs, List.filterMap_cons, List.filterMap_nil, List.append_nil]
      exact ⟨hq.order.trans (List.prefix_append ins [item]), fun _ => hall', fun _ => hcount, hclosed⟩
    | next =>
      cases hitems : q.items with
      | nil =>
        have hwait : q.call .next = (q, .nothing) := by simp [Queue.call, Queue.next, hint, hitems]
        simpa [hwait, Answer.ins, Answer.outs] using hq
      | cons item rest =>
        have hall' : outs ++ [item] ++ rest = ins := by
          rw [← hall, hitems, List.append_assoc, List.singleton_append]
        have hcount : (outs ++ [item]).length + rest.length = ins.length := by
          rw [← List.length_append, hall']
        rw [hopen.delivers item rest hitems]
        simp only [Answer.ins, Answer.outs, List.filterMap_cons, List.filterMap_nil, List.append_nil]
        exact ⟨⟨rest, hall'⟩, fun _ => hall', fun _ => hcount, hclosed⟩
    | interrupt =>
      simp only [Queue.call, Queue.interrupt, Answer.ins, Answer.outs, List.filterMap_cons,
        List.filterMap_nil, List.append_nil]
      exact ⟨hq.order, (fun h => by cases h), (fun h => by cases h), fun _ => rfl⟩

/-- Whatever calls are made on an empty queue, it keeps the order. -/
theorem fifo_calls (cs : List (Call α)) :
    (calls {} cs).1.Fifo (Answer.ins (calls {} cs).2) (Answer.outs (calls {} cs).2) := by
  induction cs using List.reverseRecOn with
  | nil => exact ⟨List.prefix_rfl, fun _ => rfl, fun _ => rfl, nofun⟩
  | append_singleton cs c ih =>
    rw [calls_append, Answer.ins_append, Answer.outs_append]
    exact ih.call c

/-- A closed queue stays as it is: it accepts and delivers nothing. -/
theorem Closed.calls (hq : q.Closed) (cs : List (Call α)) : (q.calls cs).1 = q ∧
    Answer.ins (q.calls cs).2 = [] ∧ Answer.outs (q.calls cs).2 = [] := by
  induction cs with
  | nil => exact ⟨rfl, rfl, rfl⟩
  | cons c cs ih =>
    have hcall : (q.call c).1 = q ∧ Answer.ins [(q.call c).2] = [] ∧
        Answer.outs [(q.call c).2] = [] := by
      cases c with
      | enqueue item => rw [hq.handsBack]; exact ⟨rfl, rfl, rfl⟩
      | next => rw [hq.ends]; exact ⟨rfl, rfl, rfl⟩
      | interrupt => rw [hq.again]; exact ⟨rfl, rfl, rfl⟩
    obtain ⟨hsame, hins, houts⟩ := hcall
    rw [Queue.calls, hsame, ← List.singleton_append, Answer.ins_append, Answer.outs_append, hins,
      houts]
    exact ih

end Calls

end Queue

/-! ## Sources -/

namespace Site
variable {s : Store} {ms : History} {g : GuardId} {a a' : Site} {tr ds : Trace}

/-- The source is what calls on an empty queue have made of it, unless it swallows requests. -/
structure Lined (a : Site) (tr : Trace) : Prop where
  calls : a.source.swallowsFlushes = false → ∃ cs, (Queue.calls {} cs).1 = a.source.queue ∧
    Queue.Answer.ins (Queue.calls {} cs).2 = tr.ins ∧ Queue.Answer.outs (Queue.calls {} cs).2 = tr.outs

theorem Lined.fresh (ha : a.Fresh) : a.Lined [] := by
  obtain ⟨kind, panicsAt, hsource⟩ := ha.source
  refine ⟨fun _ => ⟨[], ?_, rfl, rfl⟩⟩
  rw [hsource]
  cases kind <;> rfl

/-- Whatever happens at a site is a call on the queue, or none. -/
theorem Lined.step (h : a.Lined tr) (hs : a.Step s ms g ds a') : a'.Lined (tr ++ ds) := by
  obtain ⟨hmove, halike⟩ := hs.move
  refine ⟨fun hswallows => ?_⟩
  have hswallows' : a.source.swallowsFlushes = false := halike.swallowsFlushes ▸ hswallows
  obtain ⟨cs, hqueue, hins, houts⟩ := h.calls hswallows'
  rw [Trace.ins_append, Trace.outs_append]
  generalize ds.ins = ins, ds.outs = outs at hmove
  -- one call more, and what it does
  have hcall : ∀ c answer, a.source.queue.call c = (a'.source.queue, answer) →
      Queue.Answer.ins [answer] = ins → Queue.Answer.outs [answer] = outs →
      ∃ cs, (Queue.calls {} cs).1 = a'.source.queue ∧
        Queue.Answer.ins (Queue.calls {} cs).2 = tr.ins ++ ins ∧
        Queue.Answer.outs (Queue.calls {} cs).2 = tr.outs ++ outs := by
    intro c answer hc hcins hcouts
    refine ⟨cs ++ [c], ?_⟩
    rw [Queue.calls_append, Queue.Answer.ins_append, Queue.Answer.outs_append, hqueue, hins, houts]
    simp only [Queue.calls, hc, hcins, hcouts, and_self]
  cases hmove with
  | rest hsame =>
    rw [List.append_nil, List.append_nil, hsame]
    exact ⟨cs, hqueue, hins, houts⟩
  | @put _ item hopen _ hput =>
    refine hcall (.enqueue item) (.accepted item) ?_ rfl rfl
    rw [(Queue.open_of_not_interrupted hopen).accepts, hput]
  | @take _ item rest hopen hitems htake =>
    refine hcall .next (.delivered item) ?_ rfl rfl
    rw [(Queue.open_of_not_interrupted hopen).delivers item rest hitems, htake]
  | swallow _ hyes =>
    rw [hswallows'] at hyes
    cases hyes
  | interrupt hinterrupt =>
    refine hcall .interrupt .done ?_ rfl rfl
    rw [hinterrupt]
    rfl

end Site

/-! ## Interrupted sources -/

namespace Store
variable {s : Store} {g : GuardId}

/-- A source that becomes what it is leaves everything as it is. -/
theorem modifySource_eq_self {x : Guard} {source : Source} (hx : s.guard? g = some x)
    (hsource : source = x.source) : s.modifySource g (fun _ => source) = s := by
  refine modifyGuard_eq_self fun y hy => ?_
  cases hx.symm.trans hy
  rw [hsource]

/-- A worker that asks an interrupted source is told so. -/
theorem pollNext_interrupted {x : Guard} (hx : s.guard? g = some x)
    (hint : x.source.isInterrupted = true) : s.pollNext g = (s, .interrupted) := by
  have hpoll : x.source.poll = (x.source, .interrupted) := by
    have hnext : x.source.queue.next = .interrupted := if_pos hint
    unfold Source.poll
    rw [hnext]
  unfold pollNext
  simp only [hx, hpoll]
  rw [modifySource_eq_self hx rfl]

/-- A source that is interrupted and empty can be interrupted again, and nothing happens. -/
theorem interrupt_interrupted {x : Guard} (hx : s.guard? g = some x)
    (hqueue : x.source.queue = ⟨[], true⟩) : s.interrupt g = (s, []) := by
  have hsource : x.source.interrupt = (x.source, []) := by
    unfold Source.interrupt
    rw [hqueue]
    simp only [Queue.interrupt, ← hqueue]
  unfold interrupt
  simp only [hx, hsource]
  rw [modifySource_eq_self hx rfl]
  rfl

/-- An interruption takes the flush requests that are pending, and leaves their cells as they are. -/
theorem interrupt_takes {x : Guard} (hx : s.guard? g = some x) :
    (s.interrupt g).2 = x.source.queue.items.filterMap Item.ack? ∧ (s.interrupt g).1.acks = s.acks := by
  unfold interrupt
  simp only [hx]
  refine ⟨rfl, ?_⟩
  split <;> rfl

/-- The cell is closed, and whoever takes the answer gets none. -/
def AnswersNone (s : Store) (k : Nat) : Prop := s.acks[k]? = some .consumed ∧ (s.takeAck k).2 = none

theorem answersNone (k : Nat) (hcell : s.acks[k]? = some .consumed) : s.AnswersNone k :=
  ⟨hcell, by rw [takeAck, hcell]; rfl⟩

end Store

namespace System
variable {w : System} {g : GuardId} {a : Site}

/-- What becomes of calls on the source of a guard that is interrupted. -/
structure Hung (w : System) (tr : Trace) (g : GuardId) : Prop where
  handsBack : ∀ item, w.store.enqueue g item = (w.store, false)
  ends : w.store.pollNext g = (w.store, .interrupted)
  again : w.store.interrupt g = (w.store, [])
  /-- A flush request that was accepted and not delivered is closed, or in the hands of a thread that has
  interrupted the source, -/
  thrown : ∀ k, .flush k ∈ (tr.accepted g).drop (tr.delivered g).length →
    w.store.AnswersNone k ∨ ∃ t acks, w.Destroys g t acks ∧ k ∈ acks
  /-- which closes it before it does anything else. -/
  closes : ∀ t acks, w.Destroys g t acks → ∀ k ∈ acks,
    .flush k ∈ (tr.accepted g).drop (tr.delivered g).length →
    (w.after (turns t acks.length)).store.AnswersNone k

/-- What an interruption comes to of a source that has not been interrupted: it takes the flush requests that
have been accepted and not delivered, and when it has destroyed what it took, they are closed. -/
structure Interrupts (w : System) (tr : Trace) (g : GuardId) : Prop where
  takes : ∀ k, k ∈ (w.store.interrupt g).2 ↔ .flush k ∈ (tr.accepted g).drop (tr.delivered g).length
  closes : ∀ k ∈ (w.store.interrupt g).2,
    ((w.store.interrupt g).2.foldl Store.closeAck (w.store.interrupt g).1).AnswersNone k

variable (probes : Array Probe) (environment : Environment) (output : Output) (es : List Event)

theorem lined_after (ha : ((boot probes environment output).after es).site? g = some a) :
    a.Lined (((boot probes environment output).trace es).of g) :=
  site_after (P := fun a _ tr => a.Lined tr) probes environment output es (fun h => .fresh h)
    (fun h hs => h.step hs) (fun h => ⟨h.calls⟩) ha

/-- A request that has been accepted and not delivered is closed, or pending: in the queue, or about to be
destroyed. -/
theorem missed_after (ha : ((boot probes environment output).after es).site? g = some a)
    (hswallows : a.source.swallowsFlushes = false) {k : Nat}
    (hk : .flush k ∈ (((boot probes environment output).trace es).accepted g).drop
      (((boot probes environment output).trace es).delivered g).length) :
    a.cells[k]? = some .consumed ∨
      a.cells[k]? = some .pending ∧ (.flush k ∈ a.source.queue.items ∨ a.Throws k) := by
  have hanswered := (answered_after probes environment output es).sites g a ha
  have hbooks := hanswered.queued.books
  generalize (boot probes environment output).trace es = tr at hk hanswered hbooks
  -- the request was accepted, and the worker has not been handed it
  have hasked : k ∈ (tr.of g).asks := Trace.mem_asks.mpr (List.mem_of_mem_drop hk)
  have hmissed : .flush k ∉ tr.delivered g := by
    intro hin
    obtain ⟨rest, hrest⟩ : tr.delivered g <+: tr.accepted g :=
      (List.prefix_append _ _).trans (hbooks.order hswallows)
    rw [← hrest, List.drop_left] at hk
    have hdistinct : ((tr.of g).ins.filterMap Item.ack?).Nodup := hanswered.distinct
    rw [show (tr.of g).ins = tr.accepted g from rfl, ← hrest, List.filterMap_append] at hdistinct
    exact (List.nodup_append.mp hdistinct).2.2 k (Item.mem_acks.mpr hin) k (Item.mem_acks.mpr hk) rfl
  have hbound := hanswered.numbered k hasked
  have hcell := Array.getElem?_eq_getElem hbound
  cases hstate : a.cells[k] with
  | consumed => exact .inl (by rw [hcell, hstate])
  | ready value =>
    rw [hstate] at hcell
    exact absurd ((a.stage.completed_prefix _).subset (hanswered.ready k hasked hcell)) hmissed
  | pending =>
    rw [hstate] at hcell
    rcases hanswered.held k hasked hcell with hin | hhand | hthrown
    · exact .inr ⟨hcell, .inl hin⟩
    · exact absurd (List.mem_of_getLast? (hanswered.queued.hand _ hhand)) hmissed
    · exact .inr ⟨hcell, .inr hthrown⟩

/-- So once it is destroyed, it is closed. -/
theorem closed_of_missed (ha : ((boot probes environment output).after es).site? g = some a)
    (hswallows : a.source.swallowsFlushes = false) {k : Nat}
    (hk : .flush k ∈ (((boot probes environment output).trace es).accepted g).drop
      (((boot probes environment output).trace es).delivered g).length) :
    ((boot probes environment output).after es).store.acks[k]?.map Oneshot.close = some .consumed := by
  rw [site?_cells ha]
  rcases missed_after probes environment output es ha hswallows hk with hcell | ⟨hcell, -⟩ <;>
    rw [hcell] <;> rfl

/-- Calls on an interrupted source are in vain. -/
theorem hung_after (ha : ((boot probes environment output).after es).site? g = some a)
    (hswallows : a.source.swallowsFlushes = false) (hint : a.source.isInterrupted = true) :
    Hung ((boot probes environment output).after es) ((boot probes environment output).trace es) g := by
  have hitems := ((answered_after probes environment output es).sites g a ha).queued.books.closed hint
  obtain ⟨x, hx, -, hsource⟩ := guard?_site ha
  refine ⟨Store.enqueue_interrupted (site?_desk ha) hint, Store.pollNext_interrupted hx ?_,
    Store.interrupt_interrupted hx ?_, fun k hk => ?_, fun t acks hdestroys k hin hk => ?_⟩
  · rw [hsource]
    exact hint
  · rw [hsource]
    exact congrArg₂ Queue.mk hitems hint
  · rcases missed_after probes environment output es ha hswallows hk with hcell | ⟨-, hin | hthrown⟩
    · exact .inl (Store.answersNone k (site?_cells ha ▸ hcell))
    · rw [hitems] at hin
      cases hin
    · exact .inr ((manned_after probes environment output es).destroys ha hthrown)
  · refine Store.answersNone k ?_
    rw [hdestroys.closes hin]
    exact closed_of_missed probes environment output es ha hswallows hk

/-- The source of a guard is a queue that keeps the order until it is interrupted, and closed after
that. -/
structure Line (tr : Trace) (g : GuardId) (a : Site) : Prop where
  /-- Calls have made it of an empty queue. -/
  calls : ∃ cs, (Queue.calls {} cs).1 = a.source.queue ∧
    Queue.Answer.ins (Queue.calls {} cs).2 = tr.accepted g ∧
    Queue.Answer.outs (Queue.calls {} cs).2 = tr.delivered g
  fifo : a.source.queue.Fifo (tr.accepted g) (tr.delivered g)
  opened : a.source.isInterrupted = false → a.source.queue.Open
  closed : a.source.isInterrupted = true → a.source.queue.Closed

theorem line_after (ha : ((boot probes environment output).after es).site? g = some a)
    (hswallows : a.source.swallowsFlushes = false) :
    Line ((boot probes environment output).trace es) g a := by
  obtain ⟨cs, hqueue, hins, houts⟩ := (lined_after probes environment output es ha).calls hswallows
  have hfifo := Queue.fifo_calls cs
  rw [hqueue, hins, houts] at hfifo
  exact ⟨⟨cs, hqueue, hins, houts⟩, hfifo, Queue.open_of_not_interrupted, hfifo.closing⟩

/-- An interruption takes what has not been delivered. -/
theorem interrupts_after (ha : ((boot probes environment output).after es).site? g = some a)
    (hswallows : a.source.swallowsFlushes = false) (hopen : a.source.isInterrupted = false) :
    Interrupts ((boot probes environment output).after es) ((boot probes environment output).trace es) g := by
  obtain ⟨x, hx, -, hsource⟩ := guard?_site ha
  obtain ⟨htaken, hacks⟩ := Store.interrupt_takes hx
  have htakes : ∀ k, k ∈ (((boot probes environment output).after es).store.interrupt g).2 ↔
      .flush k ∈ (((boot probes environment output).trace es).accepted g).drop
        (((boot probes environment output).trace es).delivered g).length := fun k => by
    have hcomplete := (line_after probes environment output es ha hswallows).fifo.complete hopen
    rw [htaken, Item.mem_acks, hsource, ← hcomplete, List.drop_left]
  refine ⟨htakes, fun k hk => Store.answersNone k ?_⟩
  rw [Store.getElem?_closeAcks, if_pos hk, hacks]
  exact closed_of_missed probes environment output es ha hswallows ((htakes k).mp hk)

/-- Once the source of a guard is interrupted, nothing gets into it or out of it any more, whatever
happens. -/
theorem Manned.closed {h : History} (hm : w.Manned h) (ha : w.site? g = some a)
    (hint : a.source.isInterrupted = true) (es : List Event) :
    ∃ a', (w.after es).site? g = some a' ∧ a'.source.isInterrupted = true ∧
      a'.source.swallowsFlushes = a.source.swallowsFlushes ∧
      (w.trace es).accepted g = [] ∧ (w.trace es).delivered g = [] := by
  refine hm.site_continues (P := fun a' _ tr => a'.source.isInterrupted = true ∧
    a'.source.swallowsFlushes = a.source.swallowsFlushes ∧ tr.ins = [] ∧ tr.outs = []) ha
    ⟨hint, rfl, rfl, rfl⟩ (fun h hs => ?_) (fun h => h) es
  obtain ⟨hint, hswallows, hins, houts⟩ := h
  obtain ⟨hmove, halike⟩ := hs.move
  obtain ⟨hins', houts'⟩ := hmove.closed hint
  refine ⟨hmove.isInterrupted hint, halike.swallowsFlushes.trans hswallows, ?_, ?_⟩
  · rw [Trace.ins_append, hins, hins', List.append_nil]
  · rw [Trace.outs_append, houts, houts', List.append_nil]

/-- Queues are first in, first out, until they are interrupted, and closed after that, whatever calls are
made in whatever order. The source of a guard is such a queue, unless it swallows requests; whoever interrupts
it takes the requests that have not been delivered and closes them, and then what it has accepted and
delivered stays the same for good. -/
theorem sources_are_fifo :
    (∀ cs : List (Queue.Call Item),
      (Queue.calls {} cs).1.Fifo (Queue.Answer.ins (Queue.calls {} cs).2)
        (Queue.Answer.outs (Queue.calls {} cs).2) ∧
      ((Queue.calls {} cs).1.interrupted = false → (Queue.calls {} cs).1.Open) ∧
      ((Queue.calls {} cs).1.interrupted = true → (Queue.calls {} cs).1.Closed ∧
        ∀ cs', (Queue.calls {} (cs ++ cs')).1 = (Queue.calls {} cs).1 ∧
          Queue.Answer.ins (Queue.calls {} (cs ++ cs')).2 = Queue.Answer.ins (Queue.calls {} cs).2 ∧
          Queue.Answer.outs (Queue.calls {} (cs ++ cs')).2 =
            Queue.Answer.outs (Queue.calls {} cs).2)) ∧
    ∀ g a, ((boot probes environment output).after es).site? g = some a →
      a.source.swallowsFlushes = false → Line ((boot probes environment output).trace es) g a ∧
      (a.source.isInterrupted = false → Interrupts ((boot probes environment output).after es)
        ((boot probes environment output).trace es) g) ∧
      (a.source.isInterrupted = true → ∀ es', ∃ a',
        ((boot probes environment output).after (es ++ es')).site? g = some a' ∧
        Line ((boot probes environment output).trace (es ++ es')) g a' ∧
        a'.source.isInterrupted = true ∧
        ((boot probes environment output).trace (es ++ es')).accepted g =
          ((boot probes environment output).trace es).accepted g ∧
        ((boot probes environment output).trace (es ++ es')).delivered g =
          ((boot probes environment output).trace es).delivered g ∧
        Hung ((boot probes environment output).after (es ++ es'))
          ((boot probes environment output).trace (es ++ es')) g) := by
  constructor
  · intro cs
    have hfifo := Queue.fifo_calls cs
    refine ⟨hfifo, Queue.open_of_not_interrupted, fun hint => ⟨hfifo.closing hint, fun cs' => ?_⟩⟩
    obtain ⟨hsame, hins, houts⟩ := (hfifo.closing hint).calls cs'
    rw [Queue.calls_append, Queue.Answer.ins_append, Queue.Answer.outs_append, hins, houts]
    exact ⟨hsame, List.append_nil _, List.append_nil _⟩
  · intro g a ha hswallows
    refine ⟨line_after probes environment output es ha hswallows,
      interrupts_after probes environment output es ha hswallows, fun hint es' => ?_⟩
    obtain ⟨a', ha', hint', hsame, hins, houts⟩ :=
      (manned_after probes environment output es).closed ha hint es'
    rw [← after_append] at ha'
    have hswallows' : a'.source.swallowsFlushes = false := hsame.trans hswallows
    refine ⟨a', ha', line_after probes environment output _ ha' hswallows', hint', ?_, ?_,
      hung_after probes environment output _ ha' hswallows' hint'⟩
    · rw [trace_append, Trace.accepted_append, hins, List.append_nil]
    · rw [trace_append, Trace.delivered_append, houts, List.append_nil]

/-- A guard is shut down while a handle and a flush request wait at its source. -/
def discarding : List Event :=
  .join .caller
      [.startGuard "g" {} .gated none,
        .register (.guard "g") "x" { address := 7, callback := some {} },
        .register (.guard "g") "y" { address := 8, callback := some {} }, .drop "x", .letThrough "g" 1,
        .drop "y", .flush "g" .deadline .leaves, .shutdown "g"] ::
    (List.replicate 48 [.move (.act 0), .move (.act 1)]).flatten ++
    .move (.expire 0) :: List.replicate 3 (.move (.act 0))

theorem sources_are_fifo_discarding :
    ∃ a, ((boot #[] none {}).after discarding).site? 0 = some a ∧
      a.source.isInterrupted = true ∧
      ((boot #[] none {}).trace discarding).accepted 0 = [.reclaim ⟨1⟩, .reclaim ⟨2⟩, .flush 0] ∧
      ((boot #[] none {}).trace discarding).delivered 0 = [.reclaim ⟨1⟩] ∧
      Line ((boot #[] none {}).trace discarding) 0 a ∧
      ∀ es, Hung ((boot #[] none {}).after (discarding ++ es))
        ((boot #[] none {}).trace (discarding ++ es)) 0 := by
  have hrun : (((boot #[] none {}).after discarding).site? 0).map
      (fun a => (a.source.isInterrupted, a.source.swallowsFlushes)) = some (true, false) := by
    decide +kernel
  obtain ⟨a, ha, heq⟩ := Option.map_eq_some_iff.mp hrun
  obtain ⟨hint, hswallows⟩ := Prod.mk.inj heq
  obtain ⟨hline, -, hclosed⟩ := (sources_are_fifo #[] none {} discarding).2 0 a ha hswallows
  refine ⟨a, ha, hint, by decide +kernel, by decide +kernel, hline, fun es => ?_⟩
  obtain ⟨-, -, -, -, -, -, hhung⟩ := hclosed hint es
  exact hhung

end System

end Reclaim

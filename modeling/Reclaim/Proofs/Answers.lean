import Reclaim.Proofs.Sites

/-!
# Flush answers

Every flush request that a source has accepted has a cell of its own, which is pending exactly as long
as the request waits in the queue or is in the worker's hand.

* `Trace.asks` : the requests that have been accepted;
* `Site.Answered` : what the cells say of them; `Answered.step`;
* `Site.Step.cells` : a step leaves the cells of other guards alone;
* `System.Answered`, `System.answered_after` : all sites.
-/

namespace Reclaim

/-- The flush requests that were accepted, by the numbers of their cells, in order. -/
def Trace.asks (tr : Trace) : List Nat := tr.ins.filterMap Item.ack?

@[simp] theorem Trace.asks_append (tr tr' : Trace) : asks (tr ++ tr') = tr.asks ++ tr'.asks := by
  simp only [asks, ins_append, List.filterMap_append]

theorem Item.mem_acks {items : List Item} {k : Nat} :
    k ∈ items.filterMap Item.ack? ↔ .flush k ∈ items := by
  rw [List.mem_filterMap]
  constructor
  · rintro ⟨item, hin, hack⟩
    cases item with
    | reclaim id => cases hack
    | flush k' =>
      cases hack
      exact hin
  · exact fun hin => ⟨_, hin, rfl⟩

theorem Trace.mem_asks {tr : Trace} {k : Nat} : k ∈ tr.asks ↔ .flush k ∈ tr.ins := Item.mem_acks

/-! ## What a step leaves as it is -/

/-- The requests that a worker that has come so far is about to destroy. -/
def Stage.requests : Stage → List Nat
  | point (.discarding _ acks) => acks
  | _ => []

@[simp] theorem Stake.count_answer (acks : List Nat) (k : Nat) :
    (requests acks).count (.answer k) = 0 := by
  simp [requests]

theorem Stake.mem_requests {acks : List Nat} {k : Nat} : request k ∈ requests acks ↔ k ∈ acks := by
  simp [requests]

/-- One request less to be destroyed. -/
theorem Stake.rest_of_requests {stakes stakes' : Multiset Stake} {k : Nat} {acks : List Nat}
    (h : stakes' + requests (k :: acks) = stakes + requests acks) : stakes' + {.request k} = stakes := by
  have hcons : requests (k :: acks) = {.request k} + requests acks := by
    simp [requests, Multiset.singleton_add]
  rw [hcons, ← add_assoc] at h
  exact add_right_cancel h

/-- A worker that gets further is through with no less. -/
theorem Chore.completed {s : Store} {ms : History} {g : GuardId} {d d' : Desk} {ds : Trace}
    {cells : Cells} {stage stage' : Stage} (h : Chore s ms g d stage ds d' cells stage')
    (outs : List Item) : stage.completed outs <+: stage'.completed (outs ++ ds.outs) := by
  have hall : stage.completed outs <+: outs := stage.completed_prefix outs
  obtain ⟨item, rfl, hout⟩ | ⟨hout, -, hbusy⟩ := h.hand <;> rw [hout]
  · simpa [Stage.completed, Stage.isBusy, WorkerPoint.isBusy] using hall
  · rw [List.append_nil]
    by_cases hin : stage'.isBusy = true
    · rw [Stage.completed, Stage.completed, if_pos hin, if_pos (hbusy hin)]
    · rw [Stage.completed_of_idle hin]
      exact hall

namespace Site
variable {s : Store} {ms : History} {g : GuardId} {a a' : Site} {tr ds : Trace}

theorem Step.completed (hs : a.Step s ms g ds a') (outs : List Item) :
    a.stage.completed outs <+: a'.stage.completed (outs ++ ds.outs) := by
  cases hs with
  | visit hv => rw [hv.outs, List.append_nil]
  | chore hc => exact hc.completed outs

/-- A source that destroys requests goes on to. -/
theorem Step.destroys (hs : a.Step s ms g ds a') :
    a.source.swallowsFlushes = true ∨ a.source.isInterrupted = true →
      a'.source.swallowsFlushes = true ∨ a'.source.isInterrupted = true :=
  Or.imp hs.move.2.swallowsFlushes.trans hs.move.1.isInterrupted

/-! ## What the cells say -/

/-- Somebody who has interrupted the source is about to destroy the request with this cell. -/
def Throws (a : Site) (k : Nat) : Prop := k ∈ a.stage.requests ∨ .request k ∈ a.stakes

/-- The request with this cell waits in the queue, is in the worker's hand, or is about to be
destroyed. -/
def Holds (a : Site) (k : Nat) : Prop :=
  .flush k ∈ a.source.queue.items ∨ a.stage.item? = some (.flush k) ∨ a.Throws k

/-- Every request that the source has accepted has a cell of its own. It is pending only as long as
somebody has the request, ready only if the worker is through with that, and used up before anybody has
taken the answer only if the source was interrupted or swallowed the request. -/
structure Answered (a : Site) (tr : Trace) : Prop where
  queued : a.Queued tr
  numbered : ∀ k ∈ tr.asks, k < a.cells.size
  distinct : tr.asks.Nodup
  waits : ∀ k, .answer k ∈ a.stakes → k ∈ tr.asks
  once : ∀ k, a.stakes.count (.answer k) ≤ 1
  /-- Only requests that waited in a source that has been interrupted are destroyed after that. -/
  thrown : ∀ k, a.Throws k → k ∈ tr.asks ∧ a.source.isInterrupted = true
  held : ∀ k ∈ tr.asks, a.cells[k]? = some .pending → a.Holds k
  ready : ∀ k ∈ tr.asks, a.cells[k]? = some (.ready ()) → .flush k ∈ a.stage.completed tr.outs
  closed : ∀ k, .answer k ∈ a.stakes → a.cells[k]? = some .consumed →
    a.source.swallowsFlushes = true ∨ a.source.isInterrupted = true

theorem Answered.fresh (ha : a.Fresh) : a.Answered [] := by
  refine ⟨.fresh ha, nofun, .nil, ?_, ?_, ?_, nofun, nofun, ?_⟩ <;>
    simp [ha.stakes, Throws, ha.stage, Stage.requests]

/-- Whatever becomes of the cells of other guards does not matter here. -/
theorem Answered.of_cells {cells : Cells} (h : a.Answered tr) (hsize : a.cells.size ≤ cells.size)
    (hcells : ∀ k ∈ tr.asks, cells[k]? = a.cells[k]?) : Answered { a with cells } tr where
  queued := ⟨h.queued.books, h.queued.hand, h.queued.busy⟩
  numbered k hk := (h.numbered k hk).trans_le hsize
  distinct := h.distinct
  waits := h.waits
  once := h.once
  thrown := h.thrown
  held k hk hcell := h.held k hk ((hcells k hk).symm.trans hcell)
  ready k hk hcell := h.ready k hk ((hcells k hk).symm.trans hcell)
  closed k hk hcell := h.closed k hk ((hcells k (h.waits k hk)).symm.trans hcell)

/-- What the source or anybody else has of requests has been accepted. -/
theorem Answered.asked (h : a.Answered tr) {k : Nat} (hk : a.Holds k) : k ∈ tr.asks := by
  have hbooks : .flush k ∈ tr.outs ++ a.source.queue.items → k ∈ tr.asks := fun hin =>
    Trace.mem_asks.mpr (h.queued.books.kept.subset hin)
  rcases hk with hin | hhand | hthrown
  · exact hbooks (List.mem_append_right _ hin)
  · exact hbooks (List.mem_append_left _ (List.mem_of_getLast? (h.queued.hand _ hhand)))
  · exact (h.thrown k hthrown).1

/-- Nothing is accepted, and the cells stay as they are except for requests that a source destroys. -/
theorem Answered.go (h : a.Answered tr) (hs : a.Step s ms g ds a') (hasks : ds.asks = [])
    (hsize : a'.cells.size = a.cells.size)
    (hcells : ∀ k cell, a'.cells[k]? = some cell →
      a.cells[k]? = some cell ∧ (cell = .pending → a.Holds k → a'.Holds k) ∨
        cell = .consumed ∧ (a'.source.swallowsFlushes = true ∨ a'.source.isInterrupted = true))
    (hwaits : ∀ k, a'.stakes.count (.answer k) ≤ a.stakes.count (.answer k))
    (hthrown : ∀ k, a'.Throws k → k ∈ tr.asks ∧ a'.source.isInterrupted = true) :
    a'.Answered (tr ++ ds) := by
  have hsame : (tr ++ ds).asks = tr.asks := by rw [Trace.asks_append, hasks, List.append_nil]
  have hin : ∀ {k}, .answer k ∈ a'.stakes → .answer k ∈ a.stakes := fun {k} hk => by
    have hle := hwaits k
    rw [← Multiset.one_le_count_iff_mem] at hk ⊢
    omega
  refine ⟨h.queued.step hs, fun k hk => ?_, hsame ▸ h.distinct, fun k hk => hsame ▸ h.waits k (hin hk),
    fun k => (hwaits k).trans (h.once k), fun k hk => hsame ▸ hthrown k hk, fun k hk hcell => ?_,
    fun k hk hcell => ?_, fun k hk hcell => ?_⟩
  · rw [hsize]
    exact h.numbered k (hsame ▸ hk)
  · rcases hcells k _ hcell with ⟨hcell, hholds⟩ | ⟨⟨⟩, -⟩
    exact hholds rfl (h.held k (hsame ▸ hk) hcell)
  · rcases hcells k _ hcell with ⟨hcell, -⟩ | ⟨⟨⟩, -⟩
    rw [Trace.outs_append]
    exact (hs.completed tr.outs).subset (h.ready k (hsame ▸ hk) hcell)
  · rcases hcells k _ hcell with ⟨hcell, -⟩ | ⟨-, hshut⟩
    · exact hs.destroys (h.closed k (hin hk) hcell)
    · exact hshut

/-- Nothing happens to any request. -/
theorem Answered.keep (h : a.Answered tr) (hs : a.Step s ms g ds a') (hasks : ds.asks = [])
    (hcells : a'.cells = a.cells) (hholds : ∀ k, a.Holds k → a'.Holds k)
    (hwaits : ∀ k, a'.stakes.count (.answer k) ≤ a.stakes.count (.answer k))
    (hthrown : ∀ k, a'.Throws k → k ∈ tr.asks ∧ a'.source.isInterrupted = true) :
    a'.Answered (tr ++ ds) :=
  h.go hs hasks (congrArg Array.size hcells)
    (fun k _ hcell => .inl ⟨hcells ▸ hcell, fun _ => hholds k⟩) hwaits hthrown

/-- One request is destroyed, and the others stay where they are. -/
theorem Answered.close (h : a.Answered tr) (hs : a.Step s ms g ds a') (k : Nat) (hasks : ds.asks = [])
    (hcells : a'.cells = a.cells.modify k Oneshot.close)
    (hshut : a'.source.swallowsFlushes = true ∨ a'.source.isInterrupted = true)
    (hholds : ∀ k', k' ≠ k → a.Holds k' → a'.Holds k')
    (hwaits : ∀ k, a'.stakes.count (.answer k) ≤ a.stakes.count (.answer k))
    (hthrown : ∀ k, a'.Throws k → k ∈ tr.asks ∧ a'.source.isInterrupted = true) :
    a'.Answered (tr ++ ds) := by
  refine h.go hs hasks (by rw [hcells, Array.size_modify]) (fun k' cell hcell => ?_) hwaits hthrown
  rw [hcells, Array.getElem?_modify] at hcell
  split at hcell
  · obtain ⟨cell', hold, rfl⟩ := Option.map_eq_some_iff.mp hcell
    cases cell' with
    | pending | consumed => exact .inr ⟨rfl, hshut⟩
    | ready => exact .inl ⟨hold, nofun⟩
  · next hne => exact .inl ⟨hcell, fun _ => hholds k' (Ne.symm hne)⟩

/-- A request with a new cell is accepted, and its answer is waited for. -/
theorem Answered.ask (h : a.Answered tr) (hs : a.Step s ms g ds a') (hasks : ds.asks = [a.cells.size])
    (houts : ds.outs = []) (hcells : a'.cells = a.cells.push .pending)
    (hwaits : a'.stakes = a.stakes + {.answer a.cells.size})
    (hitems : a'.source.queue.items = a.source.queue.items ++ [.flush a.cells.size])
    (hstage : a'.stage = a.stage) : a'.Answered (tr ++ ds) := by
  have hall : ∀ {k}, k ∈ (tr ++ ds).asks ↔ k ∈ tr.asks ∨ k = a.cells.size := by simp [hasks]
  have hnew : a.cells.size ∉ tr.asks := fun hin => (h.numbered _ hin).ne rfl
  have hold : ∀ {k}, k ∈ tr.asks → a'.cells[k]? = a.cells[k]? := fun {k} hk => by
    rw [hcells, Array.getElem?_push, if_neg (h.numbered k hk).ne]
  have hself : a'.cells[a.cells.size]? = some .pending := by rw [hcells, Array.getElem?_push_size]
  have hin : ∀ {k}, .answer k ∈ a'.stakes → .answer k ∈ a.stakes ∨ k = a.cells.size := fun {k} hk => by
    simpa [hwaits] using hk
  have hthrows : ∀ {k}, a'.Throws k ↔ a.Throws k := by simp [Throws, hstage, hwaits]
  refine ⟨h.queued.step hs, fun k hk => ?_, ?_, fun k hk => ?_, fun k => ?_, fun k hk => ?_,
    fun k hk hcell => ?_, fun k hk hcell => ?_, fun k hk hcell => ?_⟩
  · rw [hcells, Array.size_push]
    rcases hall.mp hk with hk | rfl
    · exact (h.numbered k hk).trans (Nat.lt_succ_self _)
    · exact Nat.lt_succ_self _
  · rw [Trace.asks_append, hasks]
    exact h.distinct.append (List.nodup_singleton _) (by simpa using hnew)
  · exact hall.mpr ((hin hk).imp_left (h.waits k))
  · rw [hwaits, Multiset.count_add, Multiset.count_singleton]
    split
    · next heq =>
      obtain rfl := Stake.answer.inj heq
      rw [Multiset.count_eq_zero.mpr fun hk => hnew (h.waits _ hk)]
    · exact h.once k
  · obtain ⟨hk, hint⟩ := h.thrown k (hthrows.mp hk)
    exact ⟨hall.mpr (.inl hk), hs.move.1.isInterrupted hint⟩
  · rw [Holds, hitems, hstage, hthrows]
    rcases hall.mp hk with hk | rfl
    · exact (h.held k hk (hold hk ▸ hcell)).imp_left (List.mem_append_left _)
    · exact .inl (by simp)
  · rw [Trace.outs_append, houts, List.append_nil, hstage]
    rcases hall.mp hk with hk | rfl
    · exact h.ready k hk (hold hk ▸ hcell)
    · cases hself.symm.trans hcell
  · rcases hin hk with hk | rfl
    · exact hs.destroys (h.closed k hk (hold (h.waits k hk) ▸ hcell))
    · cases hself.symm.trans hcell

/-- An answer is taken by the only one who waits for it. -/
theorem Answered.take (h : a.Answered tr) {k : Nat} {stakes : Multiset Stake}
    (hstakes : stakes + {.answer k} = a.stakes) :
    Answered { a with stakes, cells := a.cells.modify k fun cell => cell.take.1 } tr := by
  have hcell : ∀ {k' cell}, (a.cells.modify k fun cell => cell.take.1)[k']? = some cell →
      (k' ≠ k ∧ a.cells[k']? = some cell) ∨ (k' = k ∧ cell = .consumed) := by
    intro k' cell hcell
    rw [Array.getElem?_modify] at hcell
    split at hcell
    · next heq =>
      obtain ⟨cell', -, rfl⟩ := Option.map_eq_some_iff.mp hcell
      exact .inr ⟨heq.symm, by cases cell' <;> rfl⟩
    · next hne => exact .inl ⟨Ne.symm hne, hcell⟩
  have hle : stakes ≤ a.stakes := hstakes ▸ Multiset.le_add_right stakes {.answer k}
  have hgone : .answer k ∉ stakes := fun hin => by
    have honce := h.once k
    rw [← hstakes, Multiset.count_add, Multiset.count_singleton_self] at honce
    have := Multiset.one_le_count_iff_mem.mpr hin
    omega
  have hthrows : ∀ {k'}, Throws { a with stakes, cells := a.cells.modify k fun cell => cell.take.1 } k' ↔
      a.Throws k' := by
    simp [Throws, ← hstakes]
  refine ⟨⟨h.queued.books, h.queued.hand, h.queued.busy⟩, fun k' hk' => ?_, h.distinct,
    fun k' hk' => h.waits k' (Multiset.mem_of_le hle hk'),
    fun k' => (Multiset.count_le_of_le _ hle).trans (h.once k'), fun k' hk' => h.thrown k' (hthrows.mp hk'),
    fun k' hk' hc => ?_, fun k' hk' hc => ?_, fun k' hk' hc => ?_⟩
  · rw [Array.size_modify]
    exact h.numbered k' hk'
  · rcases hcell hc with ⟨-, hc⟩ | ⟨-, ⟨⟩⟩
    exact (h.held k' hk' hc).imp_right (Or.imp_right hthrows.mpr)
  · rcases hcell hc with ⟨-, hc⟩ | ⟨-, ⟨⟩⟩
    exact h.ready k' hk' hc
  · rcases hcell hc with ⟨-, hc⟩ | ⟨rfl, -⟩
    · exact h.closed k' (Multiset.mem_of_le hle hk') hc
    · exact absurd hk' hgone

theorem Answered.visit (h : a.Answered tr) (hcells : s.acks = a.cells) {src dst stakes : Multiset Stake}
    {d : Desk} {cells : Cells} (hv : Visit s ms g a.toDesk src ds d cells dst)
    (hstakes : stakes + src = a.stakes + dst) : Answered ⟨d, a.stage, cells, stakes⟩ (tr ++ ds) := by
  have hs : a.Step s ms g ds ⟨d, a.stage, cells, stakes⟩ := .visit hv hstakes
  have hcount : ∀ x, stakes.count x + src.count x = a.stakes.count x + dst.count x := fun x => by
    rw [← Multiset.count_add, hstakes, Multiset.count_add]
  have hstill : ∀ k, a.Throws k → k ∈ tr.asks ∧ d.source.isInterrupted = true := fun k hk =>
    (h.thrown k hk).imp_right hs.move.1.isInterrupted
  cases hv with
  | accept hsource =>
    obtain ⟨-, -, rfl⟩ := Source.enqueue_eq_some hsource
    rw [add_zero, add_zero] at hstakes
    subst hstakes
    exact h.keep hs rfl hcells (fun k => Or.imp_left fun hin => List.mem_append_left _ hin)
      (fun _ => le_rfl) hstill
  | ask hsource hgate =>
    obtain ⟨-, -, rfl⟩ := Source.enqueue_eq_some hsource
    rw [hcells] at *
    rw [add_zero] at hstakes
    refine h.ask hs rfl rfl rfl hstakes ?_ rfl
    rcases hgate with rfl | rfl <;> rfl
  | handBack =>
    rw [add_zero, add_zero] at hstakes
    subst hstakes
    rw [List.append_nil, hcells]
    exact h.of_cells (by simp) fun k hk => by
      rw [Array.getElem?_push, if_neg (h.numbered k hk).ne]
  | take =>
    rw [add_zero] at hstakes
    rw [List.append_nil, hcells]
    exact h.take hstakes
  | giveUp =>
    rw [add_zero] at hstakes
    have hmem : ∀ {k}, .request k ∈ stakes ↔ .request k ∈ a.stakes := by simp [← hstakes]
    exact h.keep hs rfl hcells (fun k => Or.imp_right (Or.imp_right (Or.imp_right hmem.mpr)))
      (fun k => hstakes ▸ Multiset.count_le_of_le _ (Multiset.le_add_right _ _))
      fun k hk => hstill k (hk.imp_right hmem.mp)
  | permit | leak =>
    rw [add_zero, add_zero] at hstakes
    subst hstakes
    exact h.keep hs rfl hcells (fun k => id) (fun _ => le_rfl) hstill
  | interrupt =>
    rw [add_zero] at hstakes
    subst hstakes
    refine h.keep hs rfl hcells (fun k => ?_) (fun k => by simp) (fun k hk => ?_)
    · rintro (hin | hhand | hthrown)
      · exact .inr (.inr (.inr (Multiset.mem_add.mpr (.inr (Stake.mem_requests.mpr (Item.mem_acks.mpr hin))))))
      · exact .inr (.inl hhand)
      · exact .inr (.inr (hthrown.imp_right fun hin => Multiset.mem_add.mpr (.inl hin)))
    · refine ⟨?_, rfl⟩
      rcases hk with hk | hk
      · exact (h.thrown k (.inl hk)).1
      · rcases Multiset.mem_add.mp hk with hk | hk
        · exact (h.thrown k (.inr hk)).1
        · exact h.asked (.inl (Item.mem_acks.mp (Stake.mem_requests.mp hk)))
  | discard k acks =>
    have hrest := Stake.rest_of_requests hstakes
    have hmem : ∀ {x}, x ∈ a.stakes ↔ x ∈ stakes ∨ x = .request k := by simp [← hrest]
    have hint := (h.thrown k (.inr (hmem.mpr (.inr rfl)))).2
    refine h.close hs k rfl (congrArg (Array.modify · k Oneshot.close) hcells) (.inr hint)
      (fun k' hne => Or.imp_right (Or.imp_right (Or.imp_right fun hin => ?_)))
      (fun k' => hrest ▸ Multiset.count_le_of_le _ (Multiset.le_add_right _ _))
      fun k' hk => hstill k' (hk.imp_right fun hin => hmem.mpr (.inl hin))
    exact (hmem.mp hin).resolve_right fun heq => hne (Stake.request.inj heq)

/-- The worker answers the request that it has in its hand. -/
theorem Answered.answer (h : a.Answered tr) {k : Nat} (hstage : a.stage = .point (.processing (.flush k))) :
    Answered { a with stage := .point .calling, cells := a.cells.modify k (·.send ()) } tr := by
  have hcell : ∀ {k' cell}, (a.cells.modify k (·.send ()))[k']? = some cell →
      (k' ≠ k ∧ a.cells[k']? = some cell) ∨
        (k' = k ∧ cell ≠ .pending ∧ (cell = .consumed → a.cells[k']? = some .consumed)) := by
    intro k' cell hcell
    rw [Array.getElem?_modify] at hcell
    split at hcell
    · next heq =>
      obtain ⟨cell', hold, rfl⟩ := Option.map_eq_some_iff.mp hcell
      refine .inr ⟨heq.symm, ?_⟩
      cases cell' <;> simp_all [Oneshot.send, Oneshot.set, Oneshot.close]
    · next hne => exact .inl ⟨Ne.symm hne, hcell⟩
  have hlast : tr.outs.getLast? = some (.flush k) := h.queued.hand _ (by rw [hstage]; rfl)
  have hthrows : ∀ {k'}, Throws { a with stage := .point .calling, cells := a.cells.modify k (·.send ()) } k' ↔
      a.Throws k' := by
    simp [Throws, hstage, Stage.requests]
  refine ⟨⟨h.queued.books, by rintro _ ⟨⟩, by rintro ⟨⟩⟩, fun k' hk' => ?_, h.distinct, h.waits, h.once,
    fun k' hk' => h.thrown k' (hthrows.mp hk'), fun k' hk' hc => ?_, fun k' hk' hc => ?_, fun k' hk' hc => ?_⟩
  · rw [Array.size_modify]
    exact h.numbered k' hk'
  · rcases hcell hc with ⟨hne, hc⟩ | ⟨-, hno, -⟩
    · refine (h.held k' hk' hc).imp_right (Or.imp (fun hitem => ?_) hthrows.mpr)
      rw [hstage] at hitem
      cases hitem
      exact absurd rfl hne
    · exact absurd rfl hno
  · show .flush k' ∈ tr.outs
    rcases hcell hc with ⟨-, hc⟩ | ⟨rfl, -⟩
    · exact (a.stage.completed_prefix tr.outs).subset (h.ready k' hk' hc)
    · exact List.mem_of_getLast? hlast
  · rcases hcell hc with ⟨-, hc⟩ | ⟨-, -, hc'⟩
    · exact h.closed k' hk' hc
    · exact h.closed k' hk' (hc' rfl)

theorem Answered.chore (h : a.Answered tr) (hcells : s.acks = a.cells) {d : Desk} {cells : Cells}
    {stage : Stage} (hc : Chore s ms g a.toDesk a.stage ds d cells stage) :
    Answered ⟨d, stage, cells, a.stakes⟩ (tr ++ ds) := by
  have hs : a.Step s ms g ds ⟨d, stage, cells, a.stakes⟩ := .chore hc
  have hstill : ∀ k, .request k ∈ a.stakes → k ∈ tr.asks ∧ d.source.isInterrupted = true := fun k hk =>
    (h.thrown k (.inr hk)).imp_right hs.move.1.isInterrupted
  generalize hstage : a.stage = stage₀ at hc
  have hkeep : ∀ (hasks : ds.asks = []) (_ : cells = a.cells) (_ : ∀ k, a.Holds k →
      Site.Holds ⟨d, stage, cells, a.stakes⟩ k) (_ : stage.requests = []),
      Answered ⟨d, stage, cells, a.stakes⟩ (tr ++ ds) := fun hasks hsame hholds hnone =>
    h.keep hs hasks hsame hholds (fun _ => le_rfl)
      fun k => Or.rec (fun hk => absurd hk (hnone ▸ List.not_mem_nil)) (hstill k)
  cases hc with
  | stop hpoll =>
    rw [Source.poll_fst (.inl hpoll)] at *
    exact hkeep rfl hcells (fun k => Or.imp id (by simp [Throws, hstage, Stage.item?, Stage.requests])) rfl
  | wait hpoll =>
    rw [Source.poll_fst (.inr hpoll)] at *
    exact hkeep rfl hcells (fun k => Or.imp id (by simp [Throws, hstage, Stage.item?, Stage.requests])) rfl
  | @swallow k hpoll =>
    obtain ⟨hitems, hswallows⟩ := Source.poll_swallowed hpoll
    refine h.close hs k rfl (congrArg (Array.modify · k Oneshot.close) hcells)
      (.inl (hs.move.2.swallowsFlushes.trans hswallows)) (fun k' hne => ?_) (fun _ => le_rfl)
      fun k => Or.rec (fun hk => absurd hk List.not_mem_nil) (hstill k)
    rintro (hin | hrest)
    · rw [hitems] at hin
      rcases List.mem_cons.mp hin with ⟨⟨⟩⟩ | hin
      · exact absurd rfl hne
      · exact .inl hin
    · rw [Throws, hstage] at hrest
      exact .inr hrest
  | take hpoll =>
    have hitems := Source.poll_item hpoll
    refine hkeep rfl hcells (fun k => ?_) rfl
    rintro (hin | hhand | hthrown)
    · rw [hitems] at hin
      rcases List.mem_cons.mp hin with rfl | hin
      · exact .inr (.inl rfl)
      · exact .inl hin
    · rw [hstage] at hhand
      cases hhand
    · rw [Throws, hstage] at hthrown
      exact .inr (.inr hthrown)
  | answer =>
    rw [List.append_nil, hcells]
    exact h.answer hstage
  | interrupt =>
    refine h.keep hs rfl hcells (fun k => ?_) (fun _ => le_rfl) fun k => ?_
    · rintro (hin | hhand | hthrown)
      · exact .inr (.inr (.inl (Item.mem_acks.mpr hin)))
      · rw [hstage] at hhand
        cases hhand
      · rw [Throws, hstage] at hthrown
        exact .inr (.inr (.inr (hthrown.resolve_left List.not_mem_nil)))
    · rintro (hk | hk)
      · exact ⟨h.asked (.inl (Item.mem_acks.mp hk)), rfl⟩
      · exact ⟨(h.thrown k (.inr hk)).1, rfl⟩
  | @destroy exit k acks =>
    have hthrown : ∀ k' ∈ k :: acks, a.Throws k' := fun k' hk => .inl (by rw [hstage]; exact hk)
    refine h.close hs k rfl (congrArg (Array.modify · k Oneshot.close) hcells)
      (.inr (h.thrown k (hthrown k List.mem_cons_self)).2)
      (fun k' hne => Or.imp_right (Or.imp (by simp [hstage, Stage.item?]) (Or.imp_left fun hin => ?_)))
      (fun _ => le_rfl) fun k' => Or.rec (fun hk => h.thrown k' (hthrown k' (List.mem_cons_of_mem k hk))) (hstill k')
    rw [hstage] at hin
    exact (List.mem_cons.mp hin).resolve_left hne
  | _ => exact hkeep rfl hcells (fun k => Or.imp id (by simp [Throws, hstage, Stage.item?, Stage.requests])) rfl

/-- Whatever happens at a site, the cells tell what has become of the requests. -/
theorem Answered.step (h : a.Answered tr) (hcells : s.acks = a.cells) (hs : a.Step s ms g ds a') :
    a'.Answered (tr ++ ds) := by
  cases hs with
  | visit hv hstakes => exact h.visit hcells hv hstakes
  | chore hc => exact h.chore hcells hc

/-! ## All sites -/

/-- A step only touches the cells of requests that its own source has accepted, and new ones. -/
theorem Step.cells (h : a.Answered tr) (hcells : s.acks = a.cells) (hs : a.Step s ms g ds a') :
    a.cells.size ≤ a'.cells.size ∧
      (∀ k < a.cells.size, k ∉ tr.asks → a'.cells[k]? = a.cells[k]?) ∧
      ∀ k ∈ ds.asks, k = a.cells.size := by
  have same : a.cells.size ≤ s.acks.size ∧
      ∀ k < a.cells.size, k ∉ tr.asks → s.acks[k]? = a.cells[k]? := by
    rw [hcells]
    exact ⟨le_rfl, fun _ _ _ => rfl⟩
  have push : ∀ cell, a.cells.size ≤ (s.acks.push cell).size ∧
      ∀ k < a.cells.size, k ∉ tr.asks → (s.acks.push cell)[k]? = a.cells[k]? := fun cell => by
    rw [hcells]
    exact ⟨by simp, fun k hk _ => by rw [Array.getElem?_push, if_neg hk.ne]⟩
  have modify : ∀ k f, k ∈ tr.asks → a.cells.size ≤ (s.acks.modify k f).size ∧
      ∀ k' < a.cells.size, k' ∉ tr.asks → (s.acks.modify k f)[k']? = a.cells[k']? := fun k f hk => by
    rw [hcells]
    refine ⟨by simp, fun k' _ hno => ?_⟩
    rw [Array.getElem?_modify, if_neg]
    rintro rfl
    exact hno hk
  suffices hrest : (a.cells.size ≤ a'.cells.size ∧
      ∀ k < a.cells.size, k ∉ tr.asks → a'.cells[k]? = a.cells[k]?) ∧ ∀ k ∈ ds.asks, k = a.cells.size from
    ⟨hrest.1.1, hrest.1.2, hrest.2⟩
  cases hs with
  | visit hv hstakes =>
    cases hv with
    | ask => exact ⟨push _, fun k hk => (List.mem_singleton.mp hk).trans (by rw [hcells])⟩
    | handBack => exact ⟨push _, nofun⟩
    | @take k =>
      refine ⟨modify k _ (h.waits k ?_), nofun⟩
      rw [add_zero] at hstakes
      exact hstakes ▸ Multiset.mem_add.mpr (.inr (Multiset.mem_singleton_self _))
    | discard k acks =>
      refine ⟨modify k _ (h.thrown k (.inr ?_)).1, nofun⟩
      exact Stake.rest_of_requests hstakes ▸ Multiset.mem_add.mpr (.inr (Multiset.mem_singleton_self _))
    | _ => exact ⟨same, nofun⟩
  | chore hc =>
    generalize hstage : a.stage = stage at hc
    cases hc with
    | swallow hpoll =>
      refine ⟨modify _ _ (h.asked (.inl ?_)), nofun⟩
      rw [(Source.poll_swallowed hpoll).1]
      exact List.mem_cons_self
    | answer => exact ⟨modify _ _ (h.asked (.inr (.inl (by rw [hstage]; rfl)))), nofun⟩
    | destroy =>
      exact ⟨modify _ _ (h.thrown _ (.inl (by rw [hstage]; exact List.mem_cons_self))).1, nofun⟩
    | _ => exact ⟨same, nofun⟩

end Site

namespace System
variable {w : System} {h : History} {tr : Trace}

/-- The cells of flush answers tell what has become of all requests, and no two guards have accepted the
same request. -/
structure Answered (w : System) (tr : Trace) : Prop where
  sites : ∀ g a, w.site? g = some a → a.Answered (tr.of g)
  silent : ∀ g, w.site? g = none → tr.of g = []
  apart : ∀ g g' k, k ∈ (tr.of g).asks → k ∈ (tr.of g').asks → g = g'

theorem site?_cells {g : GuardId} {a : Site} (ha : w.site? g = some a) : w.store.acks = a.cells := by
  obtain ⟨d, -, rfl⟩ := Option.map_eq_some_iff.mp ha
  rfl

theorem Answered.turn {w' : System} {ds : Trace} {ms : History} (ha : w.Answered tr)
    (ht : Turn w w' ds ms) : w'.Answered (tr ++ ds) := by
  cases ht with
  | rest hsite hds =>
    have hsame : ∀ g, (tr ++ ds).of g = tr.of g := fun g => by
      rw [Trace.of_append, hds, List.append_nil]
    refine ⟨fun g a h => ?_, fun g h => ?_, fun g g' k => ?_⟩ <;> rw [hsame]
    · exact ha.sites g a (hsite g ▸ h)
    · exact ha.silent g (hsite g ▸ h)
    · rw [hsame]
      exact ha.apart g g' k
  | @found g a hg hnew hfresh hsite hds =>
    have hsame : ∀ g, (tr ++ ds).of g = tr.of g := fun g => by
      rw [Trace.of_append, hds, List.append_nil]
    refine ⟨fun g' a' h => ?_, fun g' h => ?_, fun g g' k => ?_⟩ <;> rw [hsame]
    · by_cases heq : g' = g
      · subst heq
        cases hnew.symm.trans h
        rw [ha.silent g' hg]
        exact .fresh hfresh
      · exact ha.sites g' a' (hsite g' heq ▸ h)
    · by_cases heq : g' = g
      · subst heq
        cases hnew.symm.trans h
      · exact ha.silent g' (hsite g' heq ▸ h)
    · rw [hsame]
      exact ha.apart g g' k
  | @step g a a' hold hnew hstep hsite hds =>
    have hself : (tr ++ ds).of g = tr.of g ++ ds.of g := Trace.of_append tr ds g
    have hsame : ∀ g', g' ≠ g → (tr ++ ds).of g' = tr.of g' := fun g' h => by
      rw [Trace.of_append, hds g' h, List.append_nil]
    have hanswered := ha.sites g a hold
    have hcells := site?_cells hold
    obtain ⟨hsize, hagree, hasks⟩ := hstep.cells hanswered hcells
    -- a new request has a new cell, which no other guard knows of
    have hother : ∀ {g' k}, g' ≠ g → k ∈ (tr.of g').asks → k < a.cells.size := fun {g' k} hne hk => by
      cases hb : w.site? g' with
      | none =>
        rw [ha.silent g' hb] at hk
        cases hk
      | some b =>
        have hlt := (ha.sites g' b hb).numbered k hk
        rwa [← site?_cells hb, hcells] at hlt
    have hcross : ∀ {g' k}, g' ≠ g → k ∈ (tr.of g').asks → k ∉ (tr.of g ++ ds.of g).asks := by
      intro g' k hne hk hin
      rw [Trace.asks_append] at hin
      rcases List.mem_append.mp hin with hin | hin
      · exact hne (ha.apart _ _ _ hk hin)
      · exact (hother hne hk).ne (hasks k hin)
    refine ⟨fun g' b' h => ?_, fun g' h => ?_, fun g₁ g₂ k h₁ h₂ => ?_⟩
    · by_cases heq : g' = g
      · subst heq
        cases hnew.symm.trans h
        rw [hself]
        exact hanswered.step hcells hstep
      · rw [hsite g' heq] at h
        obtain ⟨b, hb, rfl⟩ := Option.map_eq_some_iff.mp h
        have hb' := ha.sites g' b hb
        have hsameCells : a.cells = b.cells := hcells.symm.trans (site?_cells hb)
        rw [hsame g' heq]
        refine hb'.of_cells (hsameCells ▸ hsize) fun k hk => ?_
        rw [← hsameCells]
        exact hagree k (hother heq hk) fun hin => heq (ha.apart _ _ _ hk hin)
    · by_cases heq : g' = g
      · subst heq
        cases hnew.symm.trans h
      · rw [hsame g' heq]
        rw [hsite g' heq] at h
        exact ha.silent g' (Option.map_eq_none_iff.mp h)
    · by_cases heq₁ : g₁ = g <;> by_cases heq₂ : g₂ = g
      · rw [heq₁, heq₂]
      · rw [heq₁, hself] at h₁
        rw [hsame g₂ heq₂] at h₂
        exact absurd h₁ (hcross heq₂ h₂)
      · rw [heq₂, hself] at h₂
        rw [hsame g₁ heq₁] at h₁
        exact absurd h₂ (hcross heq₁ h₁)
      · rw [hsame g₁ heq₁] at h₁
        rw [hsame g₂ heq₂] at h₂
        exact ha.apart g₁ g₂ k h₁ h₂

/-- Whatever has happened since the start, the cells tell what has become of all requests. -/
theorem answered_after (probes : Array Probe) (environment : Environment) (output : Output)
    (es : List Event) : ((boot probes environment output).after es).Answered
      ((boot probes environment output).trace es) := by
  have hboot : (boot probes environment output).Answered [] := by
    refine ⟨fun g a ha => ?_, fun _ _ => rfl, nofun⟩
    simp [boot, site?, Store.desk?, Store.guard?] at ha
  have hmanned := manned_after probes environment output
  generalize boot probes environment output = w at hboot hmanned
  induction es using List.reverseRecOn with
  | nil => exact hboot
  | append_singleton es e ih =>
    rw [after_snoc, trace_snoc]
    exact ih.turn ((hmanned es).turn e).1

end System

end Reclaim

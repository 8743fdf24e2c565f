import Reclaim.Schedule
import Reclaim.Proofs.Placement

/-!
# Work

Whatever a thread does uses up work: an action takes more away from the work that scripts, callbacks and
queued items still hold than it adds. So a schedule makes only so many moves, however long it is, and a
thread that can go on and gets its turn often enough comes to an end.

* `Store.debt` : the work that handles and queued items hold; `Frame.Spends` : what an action does to it;
* `Command.begin_spends`, `Frame.advance_spends` : for each operation;
* `System.work_move` : every move uses up work; `System.work_occur` : other events add what they bring;
* `System.turns_le` : how often a thread can act; `System.settle_next`, `System.settle_eq` : the standard
  schedule comes to rest, by moves of which none is a deadline that passes too early.
-/

namespace Reclaim

theorem total_append (xs ys : List Nat) : total (xs ++ ys) = total xs + total ys :=
  @List.sum_append_nat xs ys

theorem total_cons (n : Nat) (ns : List Nat) : total (n :: ns) = n + total ns := rfl

/-- A change of one element changes the total by as much. -/
theorem total_modify {α : Type} (g : α → Nat) (f : α → α) :
    ∀ (xs : List α) (i : Nat) (a : α), xs[i]? = some a →
      total ((xs.modify i f).map g) + g a = total (xs.map g) + g (f a)
  | [], i, a, hi => by simp at hi
  | x :: xs, 0, a, hi => by
    cases hi
    simp only [List.modify_zero_cons, List.map_cons, total_cons]
    omega
  | x :: xs, i + 1, a, hi => by
    have ih := total_modify g f xs i a (by simpa using hi)
    simp only [List.modify_succ_cons, List.map_cons, total_cons]
    omega

/-- A change that nothing is counted for changes no total. -/
theorem total_modify_of_eq {α : Type} {g : α → Nat} {f : α → α} (hf : ∀ a, g (f a) = g a)
    (xs : List α) (i : Nat) : total ((xs.modify i f).map g) = total (xs.map g) := by
  cases hi : xs[i]? with
  | some a =>
    have := total_modify g f xs i a hi
    have := hf a
    omega
  | none => rw [List.modify_eq_self (List.getElem?_eq_none_iff.mp hi)]

/-- A bound on the actions that the items of a source cause. -/
def Guard.cost (x : Guard) : Nat := Item.cost * x.source.pending

namespace Store

/-- A bound on the actions that handles and queued items may still cause. -/
def debt (s : Store) : Nat :=
  total (s.entries.toList.map Entry.cost) + total (s.guards.toList.map Guard.cost)

/-! ## What actions on the store cost -/

theorem debt_modifyGuard (s : Store) (g : GuardId) {f : Guard → Guard}
    (hf : ∀ x, (f x).source.pending = x.source.pending) : (s.modifyGuard g f).debt = s.debt := by
  simp only [debt, modifyGuard, Array.toList_modify]
  rw [total_modify_of_eq (g := Guard.cost) fun x => congrArg (Item.cost * ·) (hf x)]

theorem debt_modifySource {s : Store} {g : GuardId} {x : Guard} (hx : s.guard? g = some x)
    (source : Source) : (s.modifySource g fun _ => source).debt + Item.cost * x.source.pending =
      s.debt + Item.cost * source.pending := by
  have := total_modify Guard.cost (fun x => { x with source }) s.guards.toList g x
    (by simpa [guard?] using hx)
  simp only [Guard.cost] at this
  simp only [debt, modifySource, modifyGuard, Array.toList_modify]
  omega

theorem debt_modifyEntry (s : Store) (id : HandleId) {f : Entry → Entry}
    (hf : ∀ e, (f e).cost = e.cost) : (s.modifyEntry id f).debt = s.debt := by
  unfold modifyEntry
  split
  · rfl
  · simp only [debt, Array.toList_modify]
    rw [total_modify_of_eq hf]

theorem debt_claim {s : Store} {id : HandleId} {e : Entry} (he : s.resource? id = some e)
    (hactive : e.state = .active) (g : GuardId) :
    ((s.markReleased id).untrack g id).debt + e.callback.cost = s.debt := by
  have hnumber : id.number ≠ 0 := by
    intro h
    simp [resource?, h] at he
  have := total_modify Entry.cost (fun e => { e with state := .released }) s.entries.toList
    (id.number - 1) e (by simpa [resource?, hnumber] using he)
  rw [untrack, debt_modifyGuard]
  · simp only [Entry.cost, hactive] at this
    simp only [markReleased, modifyEntry, hnumber, if_false, debt, Array.toList_modify]
    omega
  · exact fun _ => rfl

theorem debt_allocate (s : Store) (g : GuardId) (r : Registration Command) (f : ReleaseFn) :
    (s.allocate g r f).1.debt = s.debt + f.cost := by
  simp only [debt, allocate, Array.toList_push, List.map_append, total_append, List.map_cons,
    List.map_nil]
  simp only [total, List.foldr, Entry.cost]
  omega

theorem debt_addGuard (s : Store) (config : Config) {source : Source} (worker : ThreadId)
    (hnone : source.pending = 0) : (s.addGuard config source worker).1.debt = s.debt := by
  simp only [debt, addGuard, Array.toList_push, List.map_append, total_append, List.map_cons,
    List.map_nil]
  simp only [total, List.foldr, Guard.cost, hnone]
  omega

/-- An accepted item is all that putting one into a source adds. -/
theorem debt_enqueue (s : Store) (g : GuardId) (item : Item) :
    (s.enqueue g item).1.debt = s.debt + if (s.enqueue g item).2 then Item.cost else 0 := by
  unfold enqueue
  split
  · rfl
  · next source hs =>
    obtain ⟨x, hx, hs⟩ := Option.bind_eq_some_iff.mp hs
    have hpending : source.pending = x.source.pending + 1 := by
      unfold Source.enqueue at hs
      split at hs
      · cases hs
      · split at hs
        · cases hs
        · next queue hq =>
          cases hs
          unfold Queue.enqueue at hq
          split at hq
          · cases hq
          · cases hq
            simp [Source.pending, Queue.pending]
    have := debt_modifySource hx source
    rw [hpending, Nat.mul_add] at this
    simp only [if_true]
    omega

theorem debt_enqueue_le (s : Store) (g : GuardId) (item : Item) :
    (s.enqueue g item).1.debt ≤ s.debt + Item.cost := by
  rw [debt_enqueue]
  split <;> omega

/-- Asking a source for the next item takes nothing out of it. -/
theorem debt_callNext (s : Store) (g : GuardId) : (s.callNext g).1.debt = s.debt := by
  unfold callNext
  split
  · rfl
  · next x hx =>
    have hdebt := debt_modifySource hx x.source.ask.1
    rw [show x.source.ask.1.pending = x.source.pending from rfl] at hdebt
    simp only
    omega

/-- An item that is taken out of a source, or destroyed there, is all that a look at it takes away. -/
theorem debt_pollNext (s : Store) (g : GuardId) :
    (s.pollNext g).1.debt + (match (s.pollNext g).2 with
      | .item _ | .swallowed _ => Item.cost
      | _ => 0) = s.debt := by
  unfold pollNext
  split
  · rfl
  · next x hx =>
    have hpoll : x.source.poll.1.pending + (match x.source.poll.2 with
        | .item _ | .swallowed _ => 1
        | _ => 0) = x.source.pending := by
      unfold Source.poll Queue.next
      split
      · rfl
      · rfl
      · next item rest hnext =>
        split at hnext
        · cases hnext
        · split at hnext
          · cases hnext
          · next hitems =>
            cases hnext
            split
            · simp only
              split <;> simp [Source.pending, Queue.pending, hitems]
            · rfl
    have hdebt := debt_modifySource hx x.source.poll.1
    generalize x.source.poll = r at hpoll hdebt ⊢
    obtain ⟨source, poll⟩ := r
    rw [← hpoll, Nat.mul_add] at hdebt
    cases poll with
    | swallowed ack =>
      have : ((s.modifySource g fun _ => source).closeAck ack).debt =
        (s.modifySource g fun _ => source).debt := rfl
      simp only at hdebt ⊢
      omega
    | _ =>
      simp only at hdebt ⊢
      omega

/-- A source that a worker may look at gives it something to do. -/
theorem pollNext_ready {s : Store} {g : GuardId} (h : s.isSourceReady g = true) :
    (s.pollNext g).2 ≠ .wait := by
  unfold isSourceReady at h
  split at h
  · next x hx =>
    have hpoll : x.source.poll.2 ≠ .wait := by
      unfold Source.isReady Source.isInterrupted Source.pending Queue.pending at h
      unfold Source.poll Queue.next
      by_cases hint : x.source.queue.interrupted = true
      · simp [hint]
      · cases hitems : x.source.queue.items with
        | nil => simp [hint, hitems] at h
        | cons item rest =>
          have hopen : x.source.isOpen = true := by simpa [hint, hitems] using h
          simp only [hint, Bool.false_eq_true, if_false, hopen, if_true]
          split <;> simp
    unfold pollNext
    simp only [hx]
    generalize x.source.poll = r at hpoll ⊢
    obtain ⟨source, poll⟩ := r
    cases poll with
    | wait => exact absurd rfl hpoll
    | _ => nofun
  · cases h

/-- What an interruption throws away pays for the destruction of the requests among it. -/
theorem debt_interrupt (s : Store) (g : GuardId) : (s.interrupt g).1.debt + (s.interrupt g).2.length ≤ s.debt := by
  unfold interrupt
  split
  · exact Nat.le_refl _
  · next x hx =>
    have hdebt := debt_modifySource hx x.source.interrupt.1
    have hnone : x.source.interrupt.1.pending = 0 := rfl
    have hacks : (x.source.interrupt.2.filterMap Item.ack?).length ≤ x.source.pending := List.length_filterMap_le ..
    rw [hnone] at hdebt
    simp only [Item.cost] at hdebt ⊢
    split
    · omega
    · change (s.modifySource g fun _ => x.source.interrupt.1).debt + _ ≤ s.debt
      omega

theorem debt_emit (s : Store) (g : GuardId) (d : Diagnostic) : (s.emit g d).1.debt = s.debt := by
  unfold emit
  split
  · rfl
  · exact s.debt_modifyGuard g fun _ => rfl

theorem debt_tellProbe (s : Store) (e : Entry) : (s.tellProbe e).1.debt = s.debt := by
  unfold tellProbe
  split
  · rfl
  · split <;> rfl

theorem callbackCost_eq {s : Store} {id : HandleId} {e : Entry} (he : s.resource? id = some e) :
    s.callbackCost id = e.callback.cost := by
  simp only [callbackCost, he]

/-- What a callback costs does not change. -/
theorem Extends.callbackCost {s s' : Store} (h : s.Extends s') {id : HandleId} (hid : s.Known id) :
    s'.callbackCost id = s.callbackCost id := by
  obtain ⟨e, he⟩ := hid
  obtain ⟨e', he', hl⟩ := h.entry id e he
  rw [callbackCost_eq he, callbackCost_eq he', hl.callback]

end Store

/-! ## What frames cost -/

/-- A frame costs what it did, as long as the handle that it is about was there before. -/
theorem Frame.cost_extends {s s' : Store} (h : s.Extends s') {x : Frame}
    (hx : ∀ y ∈ x.spots, y.Placed s) : x.cost s' = x.cost s := by
  cases x with
  | release id p =>
    cases p with
    | count =>
      have hid : s.Known id := hx _ (Multiset.mem_singleton_self _)
      simp only [cost, h.callbackCost hid]
    | _ => rfl
  | callback id p =>
    cases p with
    | enter =>
      have hid : s.Known id := hx _ (Multiset.mem_singleton_self _)
      simp only [cost, h.callbackCost hid]
    | _ => rfl
  | worker g p =>
    cases p with
    | reporting id =>
      have hid : s.Owns g id := hx _ (Multiset.mem_singleton_self _)
      simp only [cost, h.callbackCost hid.known]
    | _ => rfl
  | _ => rfl

/-- What waited for something costs no more after it. -/
theorem Frame.cost_receive (s : Store) (x : Frame) (o : Outcome) (hx : x.waits = true) :
    (x.receive o).cost s ≤ x.cost s := by
  cases waiting_of_waits hx with
  | commands => exact Nat.le_refl _
  | _ => cases o <;> simp [receive, cost]

/-- A bound on the actions of the frames that a progress goes on with. -/
def Progress.cost (s : Store) : Progress → Nat
  | .goto x => x.cost s
  | .call x y => x.cost s + y.cost s
  | .spawn _ x y => x.cost s + y.cost s
  | .finish _ => 0

/-- A bound on the actions that the start of a command causes. -/
def Begin.cost (s : Store) : Begin → Nat
  | .reply _ => 0
  | .operation frame => frame.cost s

/-- The action uses up work. -/
def Frame.Spends (s : Store) (frame : Frame) (r : Store × Progress) : Prop :=
  r.1.debt + r.2.cost r.1 < s.debt + frame.cost s

/-! ## Commands -/

theorem Command.cost_register (target : Target) (handle : String) (r : Registration Command) :
    r.cost + 32 ≤ (register target handle r).cost := by
  rcases r with ⟨address, label, _ | ⟨probe, listed, _ | body, panic⟩⟩ <;>
    simp [Command.cost, Registration.cost, Callback.cost, Item.cost, costs]
  omega

theorem Command.cost_acquire (guard handle : String) (r : Registration Command) :
    (acquire guard handle r).cost = (register (.guard guard) handle r).cost := by
  rcases r with ⟨address, label, _ | ⟨probe, listed, _ | body, panic⟩⟩ <;> rfl

theorem Command.Beginning.spends {s s' : Store} {c : Command} {b : Begin} (h : c.Beginning s s' b) :
    s'.debt + b.cost s' < s.debt + c.cost := by
  cases h with
  | @register guard g handle r =>
    have hcost := cost_register (.guard guard) handle r
    simp only [Begin.cost, Frame.cost]
    omega
  | registerProcessWide handle r =>
    have hcost := cost_register .processWide handle r
    simp only [Begin.cost, Frame.cost, Purpose.cost]
    omega
  | @acquire guard g handle r =>
    have hcost := cost_register (.guard guard) handle r
    rw [cost_acquire]
    simp only [Begin.cost, Frame.cost]
    omega
  | @release handle id =>
    have hdebt : (s.beginUse id).debt = s.debt := s.debt_modifyEntry id fun _ => rfl
    simp only [Begin.cost, Frame.cost, Item.cost, Command.cost]
    omega
  | @drop handle id hid | @part handle id hid =>
    obtain ⟨-, e, he, -⟩ := Store.handleNamed_held hid
    have hdebt : (s.dropShare id).1.debt = s.debt := by
      simp only [Store.dropShare, he]
      exact s.debt_modifyEntry id fun _ => rfl
    simp only [Begin.cost, Frame.cost, Item.cost, Command.cost]
    omega
  | @inject guard handle g id =>
    have hdebt := s.debt_enqueue_le g (.reclaim id)
    simp only [Begin.cost, Command.cost, Item.cost] at hdebt ⊢
    omega
  | @letThrough guard g n =>
    have hdebt : (s.permit g (min n (s.pendingAt g))).debt = s.debt := s.debt_modifyGuard g fun _ => rfl
    simp only [Begin.cost, Frame.cost, Command.cost]
    omega
  | @interrupt guard g =>
    have hdebt := s.debt_interrupt g
    simp only [Begin.cost, Frame.cost, Command.cost]
    omega
  | @dropGuard guard | @forgetGuard guard =>
    have hdebt : (s.forgetGuard guard).debt = s.debt := rfl
    simp only [Begin.cost, Frame.cost, Command.cost, hdebt]
    omega
  | flush | shutdown | startGuard | startRefused | chooseLate | chooseRefused | processWide | ask =>
    simp only [Begin.cost, Frame.cost, Purpose.cost, Item.cost, Command.cost]
    omega
  | choose | setEnvironment | failOn => exact Nat.lt_add_of_pos_right (by simp [Command.cost])

theorem Command.cost_pos (c : Command) : 0 < c.cost := by
  cases c with
  | register target handle r => exact Nat.lt_of_lt_of_le (by omega) (cost_register target handle r)
  | acquire guard handle r =>
    rw [cost_acquire]
    exact Nat.lt_of_lt_of_le (by omega) (cost_register (.guard guard) handle r)
  | _ => simp [cost]

/-- The start of a command uses up work. -/
theorem Command.begin_spends (s : Store) (c : Command) :
    (c.begin s).1.debt + (c.begin s).2.cost (c.begin s).1 < s.debt + c.cost := by
  obtain hbeginning | ⟨what, -, hmissing⟩ := c.begin_cases s
  · exact hbeginning.spends
  · rw [hmissing]
    exact Nat.lt_add_of_pos_right c.cost_pos

/-! ## Operations -/

theorem Script.advance_spends (s : Store) (todo : List Command) (done : List Reply) :
    (Frame.commands todo done).Spends s (advance s todo done) := by
  cases todo with
  | nil => simp [advance, Frame.Spends, Progress.cost, Frame.cost, costs]
  | cons c todo =>
    have hbegin := c.begin_spends s
    simp only [advance]
    generalize c.begin s = r at hbegin
    obtain ⟨s', b⟩ := r
    cases b <;> simp only [Frame.Spends, Progress.cost, Frame.cost, costs, Begin.cost] at hbegin ⊢ <;> omega

theorem RegisterPoint.advance_spends (s : Store) (q : RegisterRequest) {p : RegisterPoint}
    (hready : (Frame.register q p).isReady s = true) : (Frame.register q p).Spends s (p.advance s q) := by
  cases p with
  | allocate =>
    simp only [advance]
    cases hc : q.registration.check with
    | error e =>
      simp only [Frame.Spends, Progress.cost, Frame.cost, Registration.cost]
      omega
    | ok f =>
      have hf := Registration.check_ok hc
      have hdebt := s.debt_allocate q.guard q.registration f
      simp only [Frame.Spends, Progress.cost, Frame.cost, Registration.cost, hf, Option.map_some,
        Option.getD_some, Item.cost]
      omega
  | track id =>
    have hdebt : (s.track q.guard id).debt = s.debt := s.debt_modifyGuard _ fun _ => rfl
    simp only [advance, Frame.Spends, Progress.cost, Frame.cost, Item.cost]
    omega
  | count id =>
    have hdebt : (s.countRegistered q.guard id q.registration.address).debt = s.debt :=
      s.debt_modifyGuard _ fun _ => rfl
    simp only [advance, Frame.Spends, Progress.cost, Frame.cost, Item.cost]
    omega
  | bind id =>
    have hbind : (s.bindHandle q.handle id).debt = s.debt := rfl
    simp only [advance]
    split
    · simp only [Frame.Spends, Progress.cost, Frame.cost, Item.cost]
      omega
    · next old hold =>
      have hdebt : ((s.bindHandle q.handle id).dropShare old).1.debt = s.debt := by
        unfold Store.dropShare
        split
        · rfl
        · exact (s.bindHandle q.handle id).debt_modifyEntry old fun _ => rfl
      split <;> simp only [Frame.Spends, Progress.cost, Frame.cost, Item.cost] <;> omega
  | dropping id => cases hready
  | report id => simp [advance, Frame.Spends, Progress.cost, Frame.cost]

theorem endRelease_debt (s : Store) (id : HandleId) (o : Outcome) :
    (endRelease s id o).1.debt + (endRelease s id o).2.cost (endRelease s id o).1 ≤
      s.debt + (5 + Item.cost) := by
  have hdebt : (s.endUse id).1.debt = s.debt := by
    unfold Store.endUse
    split
    · rfl
    · exact s.debt_modifyEntry id fun _ => rfl
  unfold endRelease
  generalize s.endUse id = r at hdebt
  obtain ⟨s', last⟩ := r
  simp only at hdebt
  cases last <;> simp only [Progress.cost, Frame.cost] <;> omega

theorem ReleasePoint.advance_spends {s : Store} {id : HandleId} {p : ReleasePoint}
    (hready : (Frame.release id p).isReady s = true) :
    (Frame.release id p).Spends s (p.advance s id) := by
  cases p with
  | retire =>
    simp only [advance]
    cases hs : s.resource? id with
    | none => simp [Store.retire, hs, Frame.Spends, Progress.cost, Frame.cost]
    | some e =>
      cases hstate : e.state with
      | released => simp [Store.retire, hs, hstate, Frame.Spends, Progress.cost, Frame.cost]
      | active =>
        have hdebt := Store.debt_claim hs hstate e.guard
        have hcost := (Store.claims_markReleased s e.guard id).extends.callbackCost ⟨e, hs⟩
        rw [Store.callbackCost_eq hs] at hcost
        simp only [Store.retire_eq hs hstate, Frame.Spends, Progress.cost, Frame.cost, hcost]
        omega
  | count =>
    have hdebt : (s.countReleased id).debt = s.debt := by
      unfold Store.countReleased
      split
      · rfl
      · exact s.debt_modifyGuard _ fun _ => rfl
    have hcost : (s.countReleased id).callbackCost id = s.callbackCost id := by
      unfold Store.countReleased
      split <;> rfl
    simp only [advance, Frame.Spends, Progress.cost, Frame.cost, hcost]
    omega
  | running => cases hready
  | lost =>
    have hdebt := endRelease_debt s id lost.outcome
    simp only [advance, Frame.Spends, Frame.cost]
    omega
  | ran panic =>
    have hdebt := endRelease_debt s id (ran panic).outcome
    simp only [advance, Frame.Spends, Frame.cost]
    omega

theorem CallbackPoint.advance_spends {thread : ThreadId} {s : Store} {id : HandleId} {p : CallbackPoint}
    (hp : ∀ x ∈ (Frame.callback id p).spots, x.Placed s)
    (hready : (Frame.callback id p).isReady s = true) :
    (Frame.callback id p).Spends s (p.advance thread s id) := by
  cases p with
  | enter =>
    obtain ⟨e, he⟩ : s.Known id := hp _ (Multiset.mem_singleton_self _)
    have hdebt : ((s.beginCall id e thread).1.tellProbe e).1.debt = s.debt := Store.debt_tellProbe _ e
    simp only [advance, he, Frame.Spends, Frame.cost, Store.callbackCost_eq he, Callback.cost]
    generalize (s.beginCall id e thread).1.tellProbe e = r at hdebt
    obtain ⟨s', fails⟩ := r
    simp only at hdebt
    cases fails with
    | true =>
      simp only [Progress.cost]
      omega
    | false =>
      cases e.callback.body <;> simp only [Progress.cost, Frame.cost, Option.getD_some] <;> omega
  | running call => cases hready
  | ran call replies =>
    simp only [advance]
    split
    · simp [Frame.Spends, Progress.cost, Frame.cost]
    · have hdebt : (s.endCall call replies).debt = s.debt := rfl
      simp only [Frame.Spends, Progress.cost, Frame.cost]
      omega

theorem DropPoint.advance_spends (s : Store) (id : HandleId) (p : DropPoint) :
    (Frame.drop id p).Spends s (p.advance s id) := by
  cases p with
  | check =>
    simp only [advance]
    split <;> simp only [Frame.Spends, Progress.cost, Frame.cost] <;> omega
  | enqueue =>
    simp only [advance]
    split
    · simp only [Frame.Spends, Progress.cost, Frame.cost]
      omega
    · next e he =>
      have hdebt := s.debt_enqueue e.guard (.reclaim id)
      generalize s.enqueue e.guard (.reclaim id) = r at hdebt
      obtain ⟨s', accepted⟩ := r
      cases accepted with
      | true =>
        have hlog : ∀ text, (s'.log .trace text).debt = s'.debt := fun _ => rfl
        simp only [if_true] at hdebt
        simp only [Frame.Spends, Progress.cost, Frame.cost, hlog]
        omega
      | false =>
        simp only [Bool.false_eq_true, if_false] at hdebt
        simp only [Frame.Spends, Progress.cost, Frame.cost]
        omega
  | leak =>
    simp only [advance]
    split
    · simp [Frame.Spends, Progress.cost, Frame.cost]
    · next e he =>
      have hdebt := s.debt_emit e.guard (.leakedAfterStop e.address)
      generalize s.emit e.guard (.leakedAfterStop e.address) = r at hdebt
      obtain ⟨s', panic⟩ := r
      simp only at hdebt
      cases panic <;> simp only [Frame.Spends, Progress.cost, Frame.cost] <;> omega

theorem FlushPoint.advance_spends (s : Store) (g : GuardId) (patience : Patience) (gate : GateUse)
    (p : FlushPoint) : (Frame.flush g patience gate p).Spends s (p.advance s g patience gate) := by
  cases p with
  | checkStopped =>
    simp only [advance]
    split <;> simp only [Frame.Spends, Progress.cost, Frame.cost] <;> omega
  | checkInterrupted =>
    simp only [advance]
    split <;> simp only [Frame.Spends, Progress.cost, Frame.cost] <;> omega
  | request =>
    have hnew : s.newAck.1.debt = s.debt := rfl
    have hdebt := s.newAck.1.debt_enqueue g (.flush s.newAck.2)
    simp only [advance]
    generalize s.newAck.1.enqueue g (.flush s.newAck.2) = r at hdebt
    obtain ⟨s', accepted⟩ := r
    cases accepted with
    | true =>
      have hpermit : (s'.permitPending g).debt = s'.debt := s'.debt_modifyGuard g fun _ => rfl
      simp only [if_true] at hdebt
      cases gate <;> simp only [Frame.Spends, Progress.cost, Frame.cost] <;> omega
    | false =>
      have hclose : (s'.closeAck s.newAck.2).debt = s'.debt := rfl
      simp only [Bool.false_eq_true, if_false] at hdebt
      simp only [Frame.Spends, Progress.cost, Frame.cost]
      omega
  | waiting ack =>
    have hdebt : (s.takeAck ack).1.debt = s.debt := by
      unfold Store.takeAck
      split <;> rfl
    simp only [advance]
    generalize s.takeAck ack = r at hdebt
    obtain ⟨s', answer⟩ := r
    simp only at hdebt ⊢
    split <;> simp only [Frame.Spends, Progress.cost, Frame.cost] <;> omega

theorem discardNext_spends {x next : Frame} {again : List Nat → Frame} (s : Store) (acks : List Nat)
    (hagain : ∀ k acks', acks = k :: acks' → (again acks').cost s < x.cost s) (hnext : next.cost s < x.cost s) :
    x.Spends s (discardNext s again next acks) := by
  cases acks with
  | nil => exact Nat.add_lt_add_left hnext s.debt
  | cons k acks => exact Nat.add_lt_add_left (hagain k acks rfl) s.debt

theorem ShutdownPoint.advance_spends (thread : ThreadId) (s : Store) (g : GuardId) (p : ShutdownPoint) :
    (Frame.shutdown g p).Spends s (p.advance thread s g) := by
  cases p with
  | interrupt =>
    have hdebt := s.debt_interrupt g
    simp only [advance, Frame.Spends, Progress.cost, Frame.cost]
    omega
  | discarding acks =>
    refine discardNext_spends s acks ?_ (by simp only [Frame.cost]; omega)
    rintro k acks' rfl
    simp only [Frame.cost, List.length_cons]
    omega
  | claim =>
    have hdebt : (s.modifyGuard g fun x => { x with joinable := false }).debt = s.debt :=
      s.debt_modifyGuard g fun _ => rfl
    simp only [advance]
    split
    · simp [Frame.Spends, Progress.cost, Frame.cost]
    · split
      · split <;> simp only [Frame.Spends, Progress.cost, Frame.cost] <;> omega
      · simp [Frame.Spends, Progress.cost, Frame.cost]
  | joining =>
    have hlog : ∀ text, (s.log .error text).debt = s.debt := fun _ => rfl
    simp only [advance]
    split <;> simp only [Frame.Spends, Progress.cost, Frame.cost, hlog] <;> omega

theorem bindGuard_spends (s : Store) (name : String) (g : GuardId) :
    (Frame.bindGuard name g).Spends s (bindGuard s name g) := by
  have hdebt : (s.bindGuard name g).debt = s.debt := rfl
  unfold bindGuard
  simp only
  split
  · simp only [Frame.Spends, Progress.cost, Frame.cost]
    omega
  · split <;> simp only [Frame.Spends, Progress.cost, Frame.cost] <;> omega

theorem StartRequest.advance_spends (fresh : ThreadId) (s : Store) (q : StartRequest) :
    (Frame.start q).Spends s (q.advance fresh s) := by
  have hdebt := s.debt_addGuard q.config fresh
    (show (q.kind.source q.panicsAt).pending = 0 by cases q.kind <;> rfl)
  simp only [advance, Frame.Spends, Progress.cost, Frame.cost]
  omega

theorem Purpose.cost_frame (s : Store) (g : GuardId) (p : Purpose) : (p.frame g).cost s = p.cost := by
  cases p <;> rfl

theorem Purpose.advance_spends (fresh : ThreadId) (s : Store) (p : Purpose) :
    (Frame.processWide p).Spends s (p.advance fresh s) := by
  simp only [advance]
  split
  · simp only [Frame.Spends, Progress.cost, p.cost_frame]
    simp only [Frame.cost]
    omega
  · split
    · simp only [Frame.Spends, Progress.cost, Frame.cost]
      omega
    · next config hconfig =>
      have hdebt := s.debt_addGuard config fresh (show Source.plain.pending = 0 from rfl)
      simp only [Frame.Spends, Progress.cost, p.cost_frame]
      simp only [Frame.cost]
      change (s.addGuard config .plain fresh).1.debt + (9 + p.cost) < _
      omega

theorem WorkerPoint.advance_spends {s : Store} {g : GuardId} {p : WorkerPoint}
    (hp : ∀ x ∈ (Frame.worker g p).spots, x.Placed s) (hready : (Frame.worker g p).isReady s = true) :
    (Frame.worker g p).Spends s (p.advance s g) := by
  have hlog : ∀ (s : Store) level text, (s.log level text).debt = s.debt := fun _ _ _ => rfl
  have hstate : ∀ state, (s.setWorkerState g state).debt = s.debt := fun _ =>
    s.debt_modifyGuard g fun _ => rfl
  cases p with
  | starting =>
    simp only [advance, Frame.Spends, Progress.cost, Frame.cost, hlog]
    omega
  | calling =>
    have hdebt := ((s.setWorkerState g .waiting).debt_callNext g).trans (hstate .waiting)
    simp only [advance]
    generalize (s.setWorkerState g .waiting).callNext g = r at hdebt
    obtain ⟨s', panics⟩ := r
    simp only at hdebt
    cases panics <;> simp only [Frame.Spends, Progress.cost, Frame.cost] <;> omega
  | polling =>
    have hdebt := s.debt_pollNext g
    have hwait := Store.pollNext_ready hready
    simp only [advance]
    generalize s.pollNext g = r at hdebt hwait
    obtain ⟨s', poll⟩ := r
    cases poll with
    | wait => exact absurd rfl hwait
    | _ =>
      simp only [Frame.Spends, Progress.cost, Frame.cost, Item.cost] at hdebt ⊢
      omega
  | took item =>
    simp only [advance, Frame.Spends, Progress.cost, Frame.cost, hstate]
    omega
  | processing item =>
    cases item with
    | flush ack =>
      have hdebt : (s.answer ack).debt = s.debt := rfl
      simp only [advance, Frame.Spends, Progress.cost, Frame.cost]
      omega
    | reclaim id =>
      obtain ⟨e, -, he, -⟩ := hp _ (Multiset.mem_singleton_self _)
      simp only [advance]
      obtain ⟨x, hx, hlisted, hactive, -, -⟩ | ⟨-, hlost⟩ := Store.takeActive_cases (g := g) he
      · have hdebt := Store.debt_claim he hactive g
        have hcost := (Store.claims_markReleased s g id).extends.callbackCost ⟨e, he⟩
        obtain ⟨y, hy, rfl⟩ := Option.map_eq_some_iff.mp hx
        have hcontains : y.registry.contains id = true := by
          simpa [Registry.contains, Guard.gist] using hlisted
        rw [Store.callbackCost_eq he] at hcost
        simp only [Store.takeActive_eq hy hcontains he hactive, Frame.Spends, Progress.cost, Frame.cost, hcost]
        omega
      · have hdebt : (s.countDiscarded g id).debt = s.debt := s.debt_modifyGuard g fun _ => rfl
        simp only [hlost, Frame.Spends, Progress.cost, Frame.cost]
        omega
  | reporting id =>
    obtain ⟨e, he, -⟩ := hp _ (Multiset.mem_singleton_self _)
    have hdebt := s.debt_emit g (.notProperlyClosed e.address)
    have hcost := (s.alike_emit g (d := .notProperlyClosed e.address) rfl).extends.callbackCost ⟨e, he⟩
    simp only [advance, he]
    generalize s.emit g (.notProperlyClosed e.address) = r at hdebt hcost
    obtain ⟨s', panic⟩ := r
    simp only at hdebt hcost
    cases panic <;> simp only [Frame.Spends, Progress.cost, Frame.cost, hcost] <;> omega
  | running id => cases hready
  | settling id panic =>
    have hdebt : ∀ f, (s.modifyStats g f).debt = s.debt := fun _ => s.debt_modifyGuard g fun _ => rfl
    cases panic <;>
      simp only [advance, Store.countReclaimed, Store.countFailure, Frame.Spends, Progress.cost,
        Frame.cost, hdebt] <;> omega
  | announcing id panic =>
    simp only [advance]
    split
    · simp [Frame.Spends, Progress.cost, Frame.cost]
    · next e he =>
      have hdebt := s.debt_emit g (e.announcement panic)
      generalize s.emit g (e.announcement panic) = r at hdebt
      obtain ⟨s', again⟩ := r
      simp only at hdebt
      cases again <;> simp only [Frame.Spends, Progress.cost, Frame.cost] <;> omega
  | aborted p =>
    simp only [advance, Frame.Spends, Progress.cost, Frame.cost, hlog]
    omega
  | leaving exit =>
    have hdebt := s.debt_interrupt g
    simp only [advance, Frame.Spends, Progress.cost, Frame.cost]
    omega
  | discarding exit acks =>
    refine discardNext_spends s acks ?_ (by simp only [Frame.cost]; omega)
    rintro k acks' rfl
    simp only [Frame.cost, List.length_cons]
    omega
  | farewell exit =>
    have hdebt := s.debt_emit g .interrupted
    simp only [advance, Frame.Spends, Progress.cost, Frame.cost]
    omega
  | stopping exit =>
    have hdebt : (s.modifyGuard g fun x => { x with state := .stopped, exit := some exit }).debt = s.debt :=
      s.debt_modifyGuard g fun _ => rfl
    simp only [advance, Frame.Spends, Progress.cost, Frame.cost]
    omega

/-- Whatever a frame does uses up work. -/
theorem Frame.advance_spends {thread fresh : ThreadId} {s : Store} {frame : Frame}
    (hp : ∀ x ∈ frame.spots, x.Placed s) (hready : frame.isReady s = true) :
    frame.Spends s (frame.advance thread fresh s) := by
  cases frame with
  | commands todo done => exact Script.advance_spends s todo done
  | give outcome => simp [advance, Spends, Progress.cost, cost]
  | rest g reply => simp [advance, Spends, Progress.cost, cost]
  | discard g acks =>
    refine discardNext_spends s acks ?_ (by simp only [cost]; omega)
    rintro k acks' rfl
    simp only [cost, List.length_cons]
    omega
  | register q p => exact RegisterPoint.advance_spends s q hready
  | release id p => exact ReleasePoint.advance_spends hready
  | callback id p => exact CallbackPoint.advance_spends hp hready
  | drop id p => exact p.advance_spends s id
  | flush g patience gate p => exact p.advance_spends s g patience gate
  | shutdown g p => exact p.advance_spends thread s g
  | start q => exact q.advance_spends fresh s
  | bindGuard name g => exact bindGuard_spends s name g
  | processWide p => exact p.advance_spends fresh s
  | worker g p => exact WorkerPoint.advance_spends hp hready

/-! ## Systems -/

/-- A bound on the actions that the frames of a thread cause. -/
def Thread.load (s : Store) (th : Thread) : Nat := total (th.stack.map (Frame.cost s))

theorem Thread.load_progress (s : Store) (th : Thread) {frame : Frame} {rest : List Frame}
    (hs : Stacked (frame :: rest)) (p : Progress) :
    (th.progress rest p).load s + total (p.spawned.map (load s)) ≤
      p.cost s + total (rest.map (Frame.cost s)) := by
  cases p with
  | goto x => exact Nat.le_refl _
  | call x y =>
    simp only [progress, load, Progress.spawned, Progress.cost, List.map_cons, List.map_nil, total_cons]
    simp only [total, List.foldr]
    omega
  | spawn name x y =>
    simp only [progress, load, Progress.spawned, Progress.cost, List.map_cons, List.map_nil, total_cons]
    simp only [total, List.foldr]
    omega
  | finish o =>
    cases rest with
    | nil => exact Nat.le_refl _
    | cons y rest =>
      have hy := y.cost_receive s o (hs.waits y rfl)
      simp only [progress, deliver, load, Progress.spawned, Progress.cost, List.map_cons, List.map_nil,
        total_cons]
      simp only [total, List.foldr] at *
      omega

/-- The work that an event brings along. -/
def Event.cost : Event → Nat
  | .move _ | .share .. => 0
  | .join _ script => 1 + costs script
  | .inject .. => Item.cost

/-- Whether the event is the turn of a thread. -/
def Event.isTurn (t : ThreadId) : Event → Bool
  | .move (.act t') => t' == t
  | _ => false

namespace System

theorem work_eq (w : System) :
    w.work = w.store.debt + total (w.threads.toList.map (Thread.load w.store)) := rfl

variable {w : System} {h : History}

theorem total_load_extends (hp : w.SpotsPlaced) {s : Store} (hs : w.store.Extends s) :
    w.threads.toList.map (Thread.load s) = w.threads.toList.map (Thread.load w.store) := by
  refine List.map_congr_left fun th hth => ?_
  simp only [Thread.load]
  congr 1
  refine List.map_congr_left fun x hx => Frame.cost_extends hs fun y hy => ?_
  exact hp y (mem_spots.mpr ⟨th, Array.mem_toList_iff.mp hth, x, hx, hy⟩)

/-- A thread that acts uses up work. -/
theorem work_act (hw : w.Orderly h) {t : ThreadId} {frame : Frame} (ht : w.acting? t = some frame) :
    (w.act t).work < w.work := by
  obtain ⟨name, rest, out, hth, hready⟩ := acting?_eq_some ht
  obtain ⟨hsub, -, -, hact, -⟩ := acts_acting hw.2.spots ht
  have hspends := @Frame.advance_spends t w.threads.size w.store frame
    (fun x hx => hw.2.spots x (hsub hx)) hready
  have hextends := hact.extends
  rw [act_eq hth]
  simp only [Frame.Spends] at hspends
  generalize frame.advance t w.threads.size w.store = r at hspends hextends
  obtain ⟨s', p⟩ := r
  simp only at hspends hextends
  have hp := (Thread.mk name (frame :: rest) out).load_progress s' (hw.1 _ (thread?_mem hth)) p
  have hm := total_modify (Thread.load s') (fun _ => (Thread.mk name (frame :: rest) out).progress rest p)
    w.threads.toList t _ (by simpa [thread?] using hth)
  have hframe : frame.cost s' = frame.cost w.store :=
    Frame.cost_extends hextends fun x hx => hw.2.spots x (hsub hx)
  rw [total_load_extends hw.2.spots hextends] at hm
  simp only [Thread.load, List.map_cons, total_cons, hframe] at hm hp
  simp only [work_eq, Array.toList_appendList, Array.toList_modify, List.map_append, total_append]
  omega

/-- Every move uses up work. -/
theorem work_move (hw : w.Orderly h) {m : Move} {w' : System} (hm : w.move? m = some w') :
    w'.work < w.work := by
  cases m with
  | act t =>
    simp only [move?] at hm
    split at hm
    · next hcan =>
      obtain ⟨frame, ht⟩ := canAct_iff.mp hcan
      cases hm
      exact work_act hw ht
    · cases hm
  | expire t =>
    obtain ⟨th, g, gate, ack, rest, hth, hstack, -, rfl⟩ := expire_cases hm
    have hs := hstack ▸ hw.1 _ (thread?_mem hth)
    have hp := th.load_progress w.store hs (.finish (.flag false))
    have hmod := total_modify (Thread.load w.store) (fun _ => th.progress rest (.finish (.flag false)))
      w.threads.toList t _ (by simpa [thread?] using hth)
    simp only [work_eq, Array.toList_modify]
    simp only [Thread.load, Progress.spawned, Progress.cost, List.map_nil, hstack, List.map_cons, total_cons,
      Frame.cost] at hp hmod ⊢
    have hnil : total [] = 0 := rfl
    omega

/-- What happens adds no more work than it brings along, and the turn of a thread that can act uses
some up. -/
theorem work_occur (hw : w.Orderly h) (e : Event) : (w.occur e).work ≤ w.work + e.cost ∧
    ∀ t, e.isTurn t = true → w.canAct t = true → (w.occur e).work < w.work := by
  cases e with
  | move m =>
    simp only [occur]
    cases hm : w.move? m with
    | none =>
      refine ⟨Nat.le_refl _, fun t ht hcan => ?_⟩
      cases m with
      | act t' =>
        obtain rfl : t' = t := by simpa [Event.isTurn] using ht
        simp [move?, hcan] at hm
      | expire t' => cases ht
    | some w' =>
      have := work_move hw hm
      exact ⟨Nat.le_of_lt this, fun _ _ _ => this⟩
  | join name script =>
    refine ⟨?_, fun t h => by cases h⟩
    simp only [occur, spawn, work_eq, Array.toList_push, List.map_append, total_append, List.map_cons,
      List.map_nil, total_cons, Thread.load, Frame.cost, Event.cost]
    simp only [total, List.foldr]
    omega
  | share id shares =>
    refine ⟨?_, fun t h => by cases h⟩
    simp only [occur]
    split
    · have hdebt := w.store.debt_modifyEntry id
        (f := fun e => { e with owners := e.owners + shares }) fun _ => rfl
      have hload := total_load_extends hw.2.spots
        ((Store.amends_modifyEntry w.store id
          fun e => { e with owners := e.owners + shares }).extends fun _ => ⟨rfl, rfl, rfl, rfl, fun h => h⟩)
      simp only [work_eq, hload, hdebt]
      exact Nat.le_refl _
    · exact Nat.le_add_right _ _
  | inject g id =>
    refine ⟨?_, fun t h => by cases h⟩
    have hextends : w.store.Extends (w.store.enqueue g (.reclaim id)).1 := by
      obtain ⟨x, -, -, -, -, ht⟩ | ⟨hs, -⟩ := w.store.enqueue_cases g id
      · exact ht.extends fun _ => ⟨rfl, rfl, rfl, fun h => h⟩
      · rw [hs]
        exact .refl _
    have hdebt := w.store.debt_enqueue_le g (.reclaim id)
    simp only [occur]
    split
    · simp only [work_eq, total_load_extends hw.2.spots hextends, Event.cost]
      omega
    · exact Nat.le_add_right _ _

/-- The work that a list of events brings along. -/
def bill (es : List Event) : Nat := total (es.map Event.cost)

/-- A thread that can act until the end has had no more turns than there was work. -/
theorem turns_le (hw : w.Orderly h) (t : ThreadId) (es : List Event)
    (hcan : ∀ before after, es = before ++ after → after ≠ [] → (w.after before).canAct t = true) :
    es.countP (Event.isTurn t) + (w.after es).work ≤ w.work + bill es := by
  induction es generalizing w h with
  | nil => exact Nat.le_of_eq (by simp [after, bill, total])
  | cons e es ih =>
    obtain ⟨hle, hlt⟩ := work_occur hw e
    have hfirst : w.canAct t = true := hcan [] (e :: es) rfl (by simp)
    have hrest := ih (hw.step e) fun before after heq hne =>
      hcan (e :: before) after (by rw [heq]; rfl) hne
    have hbill : bill (e :: es) = e.cost + bill es := rfl
    rw [after, List.countP_cons, hbill]
    split
    · next hturn =>
      have := hlt t hturn hfirst
      have hfree : e.cost = 0 := by
        cases e <;> first | rfl | cases hturn
      omega
    · omega

/-! ## Rest -/

theorem findThread_some {test : Thread → Bool} {n : Nat} {t t' : ThreadId}
    (hfound : w.findThread test n t = some t') : ∃ th, w.thread? t' = some th ∧ test th = true := by
  induction n generalizing t with
  | zero => cases hfound
  | succ n ih =>
    unfold findThread at hfound
    split at hfound
    · cases hfound
    · next th hth =>
      split at hfound
      · next htest =>
        cases hfound
        exact ⟨th, hth, htest⟩
      · exact ih hfound

theorem findThread_none {test : Thread → Bool} {n t t' : Nat} {th : Thread}
    (hnone : w.findThread test n t = none) (hle : t ≤ t') (hlt : t' < t + n) (hth : w.thread? t' = some th) :
    test th = false := by
  induction n generalizing t with
  | zero => omega
  | succ n ih =>
    unfold findThread at hnone
    split at hnone
    · next hgap =>
      -- threads have no gaps
      have hsize : w.threads.size ≤ t := Array.getElem?_eq_none_iff.mp hgap
      obtain ⟨hlt', -⟩ := Array.getElem?_eq_some_iff.mp hth
      omega
    · next th' hth' =>
      split at hnone
      · cases hnone
      · next htest =>
        rcases Nat.eq_or_lt_of_le hle with rfl | hlt'
        · cases hth'.symm.trans hth
          exact Bool.eq_false_iff.mpr htest
        · exact ih hnone hlt' (by omega)

/-- The next move of the standard schedule is possible. -/
theorem move_next {m : Move} (hm : w.next? = some m) : w.move? m = some (w.make m) := by
  unfold next? at hm
  split at hm
  · next t hfound =>
    cases hm
    obtain ⟨th, hth, hready⟩ := findThread_some hfound
    have hcan : w.canAct t = true := by simp only [canAct, hth, hready]
    simp only [move?, make, hcan, if_true]
  · split at hm
    · next t hfound =>
      cases hm
      obtain ⟨th, hth, hexpired⟩ := findThread_some hfound
      obtain ⟨th', hexpired⟩ := Option.isSome_iff_exists.mp hexpired
      simp only [move?, make, hth, Option.bind_some, hexpired, Option.getD_some]
    · cases hm

/-- The standard schedule brings the system to rest. -/
theorem settle_next (hw : w.Orderly h) : w.settle.next? = none := by
  suffices hn : ∀ n (w : System) h, w.Orderly h → w.work < n → (w.settleWithin n).next? = none from
    hn _ w h hw (Nat.lt_succ_self _)
  intro n
  induction n with
  | zero => exact fun w h _ hlt => absurd hlt (Nat.not_lt_zero _)
  | succ n ih =>
    intro w h hw hlt
    unfold settleWithin
    split
    · next hnone => exact hnone
    · next m hm =>
      have hmove := move_next hm
      have hnext := hw.step (.move m)
      simp only [occur, hmove, Option.getD_some] at hnext
      exact ih _ _ hnext (Nat.lt_of_lt_of_le (work_move hw hmove) (Nat.le_of_lt_succ hlt))

/-- No thread can act. -/
def Idle (w : System) : Prop := ∀ t th, w.thread? t = some th → th.isReady w.store = false

theorem idle_of_findThread (hnone : w.findThread (Thread.isReady w.store) w.threads.size 0 = none) : w.Idle :=
  fun t _ hth => findThread_none hnone (Nat.zero_le t)
    ((Nat.zero_add _).symm ▸ (Array.getElem?_eq_some_iff.mp hth).choose) hth

/-- The standard schedule has no move left when no thread can act and nobody's patience can run out. -/
theorem idle_of_next (hnone : w.next? = none) :
    w.Idle ∧ ∀ t th, w.thread? t = some th → th.expired? w.store = none := by
  unfold next? at hnone
  split at hnone
  · cases hnone
  · next hready =>
    split at hnone
    · cases hnone
    · next hexpired =>
      refine ⟨idle_of_findThread hready, fun t th hth => ?_⟩
      exact Option.not_isSome_iff_eq_none.mp <| Bool.eq_false_iff.mp <| findThread_none hexpired (Nat.zero_le t)
        ((Nat.zero_add _).symm ▸ (Array.getElem?_eq_some_iff.mp hth).choose) hth

/-- It lets a deadline pass only when no thread can act. -/
theorem idle_of_expire {t : ThreadId} (hnext : w.next? = some (.expire t)) : w.Idle := by
  unfold next? at hnext
  split at hnext
  · cases hnext
  · next hready => exact idle_of_findThread hready

theorem make_eq (w : System) (m : Move) : w.make m = w.occur (.move m) := by
  cases m with
  | act t =>
    simp only [make, occur, move?]
    split <;> rfl
  | expire t => rfl

/-- The standard schedule is made of moves, and lets deadlines pass only when no thread can act. -/
theorem settle_eq (w : System) : ∃ moves : List Move, w.settle = w.after (moves.map .move) ∧
    ∀ before t rest, moves = before ++ .expire t :: rest → (w.after (before.map .move)).Idle := by
  suffices hn : ∀ n (w : System), ∃ moves : List Move, w.settleWithin n = w.after (moves.map .move) ∧
      ∀ before t rest, moves = before ++ .expire t :: rest → (w.after (before.map .move)).Idle from hn _ w
  intro n
  induction n with
  | zero => exact fun w => ⟨[], rfl, fun _ _ _ heq => by simp at heq⟩
  | succ n ih =>
    intro w
    unfold settleWithin
    split
    · exact ⟨[], rfl, fun _ _ _ heq => by simp at heq⟩
    · next m hm =>
      obtain ⟨moves, hmoves, hidle⟩ := ih (w.make m)
      rw [make_eq] at hmoves hidle
      refine ⟨m :: moves, make_eq w m ▸ hmoves, fun before t rest heq => ?_⟩
      rcases List.cons_eq_append_iff.mp heq with ⟨rfl, hcons⟩ | ⟨before, rfl, rfl⟩
      · cases hcons
        exact idle_of_expire hm
      · exact hidle before t rest rfl

end System

end Reclaim

import Reclaim.Frame
import Mathlib.Data.List.Induction

/-!
# Exchanges over one-shot cells

A cell has one sender, which sends one value and is dropped, or is dropped without having sent anything. Receives
look at the cell whenever they like: each takes what is there, waits as long as the cell is pending, or gives up
when it is late. However all that comes in turn, a value that is sent is received, once, by the first that looks.

* `Oneshot.receive` : a look at a cell;
* `Oneshot.Event`, `Oneshot.Exchange` : what can happen to a cell, and what has become of it;
* `Oneshot.Exchange.Phase`, `Oneshot.Exchange.stands_after` : the four shapes that an exchange can have;
* `Oneshot.Exchange.Delivers` : what receives can rely on;
* `Store.Exchanges` : flush requests are answered by such exchanges; `Oneshot.delivers`.
-/

namespace Reclaim

namespace Oneshot
variable {α : Type}

/-! ## Receives -/

/-- What a receive comes to. -/
inductive Receipt (α : Type) where
  /-- The value, or the news that there will not be one. -/
  | took (value : Option α)
  /-- It has given up. -/
  | timeout
deriving DecidableEq, Repr

/-- What a receive has taken that has not given up. -/
def Receipt.took? : Receipt α → Option (Option α)
  | took value => some value
  | timeout => none

/-- A receive looks at the cell, late if its deadline has passed. A cell that is not pending is taken in any case;
nothing comes of a receive that goes on waiting. -/
def receive (cell : Oneshot α) (patience : Patience) (late : Bool) : Option (Oneshot α × Receipt α) :=
  if cell.isPending then
    match patience, late with
    | .deadline, true => some (cell, .timeout)
    | _, _ => none
  else some (cell.take.1, .took cell.take.2)

theorem isPending_iff {cell : Oneshot α} : cell.isPending = true ↔ cell = .pending := by
  cases cell <;> simp [isPending]

/-- A receive takes something unless the cell is pending. -/
theorem receive_eq_took {cell cell' : Oneshot α} {patience : Patience} {late : Bool} {value : Option α} :
    cell.receive patience late = some (cell', .took value) ↔
      cell ≠ .pending ∧ cell.take = (cell', value) := by
  unfold receive
  split
  · next h =>
    have hnot : ¬ cell ≠ .pending := not_not_intro (isPending_iff.mp h)
    split <;> simp [hnot]
  · next h =>
    have hne : cell ≠ .pending := fun heq => h (isPending_iff.mpr heq)
    simp [hne, Prod.ext_iff]

/-- A receive gives up only when it is late and the cell is pending, and leaves the cell alone. -/
theorem receive_eq_timeout {cell cell' : Oneshot α} {patience : Patience} {late : Bool} :
    cell.receive patience late = some (cell', .timeout) ↔
      cell = .pending ∧ cell' = .pending ∧ patience = .deadline ∧ late = true := by
  unfold receive
  split
  · next h =>
    obtain rfl := isPending_iff.mp h
    cases patience <;> cases late <;> simp [eq_comm]
  · next h =>
    have hne : cell ≠ .pending := fun heq => h (isPending_iff.mpr heq)
    simp [hne]

/-! ## Exchanges -/

/-- Something that happens to a cell. -/
inductive Event (α : Type) where
  /-- The sender sends a value. -/
  | send (value : α)
  /-- The sender is dropped. -/
  | drop
  /-- A receive looks at the cell. -/
  | receive (patience : Patience) (late : Bool)

/-- A cell, and what its sender and the receives have come to so far. -/
structure Exchange (α : Type) where
  cell : Oneshot α := .pending
  /-- The value that has been sent, and whether the cell has accepted it. -/
  sent : Option (α × Bool) := none
  /-- The sender is gone. -/
  dropped : Bool := false
  /-- What has become of the receives that have come to an end, in order. -/
  receipts : List (Receipt α) := []

namespace Exchange

/-- What has been taken, in order. -/
def taken (x : Exchange α) : List (Option α) := x.receipts.filterMap Receipt.took?

/-- The exchange after an event, or as it is if the event is not possible: a sender sends once and is dropped once,
and nothing comes of a receive that waits. -/
def occur (x : Exchange α) : Event α → Exchange α
  | .send value =>
    if x.sent.isNone && !x.dropped then
      { x with cell := (x.cell.set value).1, sent := some (value, (x.cell.set value).2) }
    else x
  | .drop => if x.dropped then x else { x with cell := x.cell.close, dropped := true }
  | .receive patience late =>
    match x.cell.receive patience late with
    | some (cell, receipt) => { x with cell, receipts := x.receipts ++ [receipt] }
    | none => x

/-- The exchange after a list of events. -/
def after (x : Exchange α) (es : List (Event α)) : Exchange α := es.foldl occur x

theorem after_append (x : Exchange α) (es es' : List (Event α)) : x.after (es ++ es') = (x.after es).after es' :=
  List.foldl_append

/-- How an exchange stands. -/
inductive Phase : Oneshot α → Option (α × Bool) → Bool → List (Option α) → Prop
  /-- The sender has done nothing yet. -/
  | pending : Phase .pending none false []
  /-- A value has been sent and lies there, whether the sender is gone or not. -/
  | lying (value : α) (dropped : Bool) : Phase (.ready value) (some (value, true)) dropped []
  /-- The value has been taken, and whoever came later has taken nothing. -/
  | taken (value : α) (dropped : Bool) (n : Nat) :
      Phase .consumed (some (value, true)) dropped (some value :: List.replicate n none)
  /-- The sender was dropped without having sent anything. -/
  | closed (n : Nat) : Phase .consumed none true (List.replicate n none)

/-- How the exchange stands. -/
def Stands (x : Exchange α) : Prop := Phase x.cell x.sent x.dropped x.taken

variable {x : Exchange α}

/-- A receipt more. -/
theorem taken_append (cell : Oneshot α) (receipt : Receipt α) :
    taken { x with cell, receipts := x.receipts ++ [receipt] } = x.taken ++ receipt.took?.toList := by
  rw [taken, List.filterMap_append, taken]
  cases receipt <;> rfl

theorem Stands.send (h : x.Stands) (value : α) : (x.occur (.send value)).Stands := by
  have htaken : (x.occur (.send value)).taken = x.taken := by
    simp only [occur]
    split <;> rfl
  unfold Stands at h ⊢
  rw [htaken]
  obtain ⟨cell, sent, dropped, receipts⟩ := x
  generalize taken ⟨cell, sent, dropped, receipts⟩ = values at h
  cases h with
  | pending => exact .lying value false
  | lying value' dropped => exact .lying value' dropped
  | taken value' dropped n => exact .taken value' dropped n
  | closed n => exact .closed n

theorem Stands.drop (h : x.Stands) : (x.occur .drop).Stands := by
  have htaken : (x.occur .drop).taken = x.taken := by
    simp only [occur]
    split <;> rfl
  unfold Stands at h ⊢
  rw [htaken]
  obtain ⟨cell, sent, dropped, receipts⟩ := x
  generalize taken ⟨cell, sent, dropped, receipts⟩ = values at h
  cases h with
  | pending => exact .closed 0
  | lying value dropped => cases dropped <;> exact .lying value true
  | taken value dropped n => cases dropped <;> exact .taken value true n
  | closed n => exact .closed n

theorem Stands.receive (h : x.Stands) (patience : Patience) (late : Bool) :
    (x.occur (.receive patience late)).Stands := by
  simp only [occur]
  split
  · next cell receipt hreceive =>
    unfold Stands at h ⊢
    rw [taken_append]
    cases receipt with
    | timeout =>
      obtain ⟨hpending, rfl, -, -⟩ := receive_eq_timeout.mp hreceive
      rw [hpending] at h
      change Phase .pending x.sent x.dropped (x.taken ++ [])
      rwa [List.append_nil]
    | took value =>
      obtain ⟨hne, htake⟩ := receive_eq_took.mp hreceive
      obtain ⟨rfl, rfl⟩ := Prod.ext_iff.mp htake
      generalize x.cell = cell, x.sent = sent, x.dropped = dropped, x.taken = values at h hne
      cases h with
      | pending => exact absurd rfl hne
      | lying value dropped => exact .taken value dropped 0
      | taken value dropped n =>
        change Phase .consumed _ dropped (some value :: (List.replicate n none ++ [none]))
        rw [← List.replicate_succ']
        exact .taken value dropped (n + 1)
      | closed n =>
        change Phase .consumed none true (List.replicate n none ++ [none])
        rw [← List.replicate_succ']
        exact .closed (n + 1)
  · exact h

/-- Whatever happens, an exchange stands in one of these ways. -/
theorem stands_after (es : List (Event α)) : (after {} es).Stands := by
  induction es using List.reverseRecOn with
  | nil => exact .pending
  | append_singleton es e ih =>
    rw [after_append]
    cases e with
    | send value => exact ih.send value
    | drop => exact ih.drop
    | receive patience late => exact ih.receive patience late

theorem Stands.of_sent (h : x.Stands) {value : α} {accepted : Bool} (hsent : x.sent = some (value, accepted)) :
    accepted = true ∧ (x.cell = .ready value ∧ x.taken = [] ∨
      x.cell = .consumed ∧ ∃ n, x.taken = some value :: List.replicate n none) := by
  unfold Stands at h
  generalize x.cell = cell, x.sent = sent, x.dropped = dropped, x.taken = values at h hsent
  cases h with
  | lying value dropped =>
    cases hsent
    exact ⟨rfl, .inl ⟨rfl, rfl⟩⟩
  | taken value dropped n =>
    cases hsent
    exact ⟨rfl, .inr ⟨rfl, n, rfl⟩⟩
  | pending | closed => cases hsent

theorem Stands.of_unsent (h : x.Stands) (hsent : x.sent = none) :
    x.dropped = false ∧ x.cell = .pending ∧ x.taken = [] ∨
      x.dropped = true ∧ x.cell = .consumed ∧ ∃ n, x.taken = List.replicate n none := by
  unfold Stands at h
  generalize x.cell = cell, x.sent = sent, x.dropped = dropped, x.taken = values at h hsent
  cases h with
  | pending => exact .inl ⟨rfl, rfl, rfl⟩
  | closed n => exact .inr ⟨rfl, rfl, n, rfl⟩
  | lying | taken => cases hsent

/-- A cell that has been used up stays so. -/
theorem consumed_after (h : x.cell = .consumed) (es : List (Event α)) : (x.after es).cell = .consumed := by
  induction es using List.reverseRecOn with
  | nil => exact h
  | append_singleton es e ih =>
    rw [after_append]
    change ((x.after es).occur e).cell = .consumed
    generalize x.after es = y at ih
    obtain ⟨cell, sent, dropped, receipts⟩ := y
    obtain rfl : cell = .consumed := ih
    cases e with
    | send value => simp only [occur]; split <;> rfl
    | drop => simp only [occur]; split <;> rfl
    | receive patience late => rfl

/-- What the two sides of an exchange can rely on. -/
structure Delivers (x : Exchange α) : Prop where
  /-- A receive takes nothing from a pending cell, and does not wait for any other. -/
  waits : ∀ patience late, (∃ cell value, x.cell.receive patience late = some (cell, .took value)) ↔
    x.cell ≠ .pending
  /-- One that gives up has found the cell pending and leaves everything as it was, -/
  timeout : ∀ patience late cell, x.cell.receive patience late = some (cell, .timeout) →
    x.cell = .pending ∧ x.occur (.receive patience late) = { x with receipts := x.receipts ++ [.timeout] }
  /-- so that a value that is sent later is there for the next one. -/
  later : x.sent = none → x.dropped = false → ∀ value patience late,
    (x.occur (.send value)).cell.receive patience late = some (.consumed, .took (some value))
  /-- A value that was sent has been accepted. It lies there as long as nothing has been taken, even when the sender
  is gone; the first receive takes it, and all later ones take nothing. -/
  sent : ∀ value accepted, x.sent = some (value, accepted) → accepted = true ∧
    (x.cell = .ready value ∧ x.taken = [] ∨
      x.cell = .consumed ∧ ∃ n, x.taken = some value :: List.replicate n none)
  /-- Before anything is sent, nothing is taken; -/
  unsent : x.sent = none → x.dropped = false → x.cell = .pending ∧ x.taken = []
  /-- and if the sender was dropped without that, there is nothing to take. -/
  closed : x.sent = none → x.dropped = true → x.cell = .consumed ∧ ∃ n, x.taken = List.replicate n none
  /-- A cell that has been used up stays so. -/
  final : x.cell = .consumed → ∀ es, (x.after es).cell = .consumed

end Exchange

/-- However a sender and receives take turns: a value that is sent is taken once, by the first receive that comes to
its end after that, and nothing is taken otherwise. -/
theorem Exchange.delivers_after (es : List (Event α)) : (Exchange.after {} es).Delivers := by
  have h := Exchange.stands_after es
  generalize Exchange.after {} es = x at h
  refine ⟨fun patience late => ?_, fun patience late cell hreceive => ?_,
    fun hsent hdropped value patience late => ?_, fun value accepted => h.of_sent, fun hsent hdropped => ?_,
    fun hsent hdropped => ?_, Exchange.consumed_after⟩
  · simp only [receive_eq_took]
    exact ⟨fun ⟨_, _, hne, _⟩ => hne, fun hne => ⟨_, _, hne, rfl⟩⟩
  · obtain ⟨hpending, rfl, -, -⟩ := receive_eq_timeout.mp hreceive
    refine ⟨hpending, ?_⟩
    simp only [Exchange.occur, hreceive, ← hpending]
  · obtain ⟨-, hpending, -⟩ | ⟨hgone, -⟩ := h.of_unsent hsent
    · simp only [Exchange.occur, hsent, hdropped, hpending]
      rfl
    · cases hdropped.symm.trans hgone
  · obtain ⟨-, hrest⟩ | ⟨hgone, -⟩ := h.of_unsent hsent
    · exact hrest
    · cases hdropped.symm.trans hgone
  · obtain ⟨hheld, -⟩ | ⟨-, hrest⟩ := h.of_unsent hsent
    · cases hdropped.symm.trans hheld
    · exact hrest

example : (Exchange.after {} [.receive .deadline true, .send 3, .drop, .receive .deadline false,
    .receive .unlimited false]).receipts = [.timeout, .took (some 3), .took none] := rfl

end Oneshot

/-! ## Flush requests -/

namespace Store
open Oneshot
variable {s : Store} {k : Nat} {x : Exchange Unit}

/-- What threads do about a flush request are events of an exchange over its cell: the worker sends and is gone, an
interruption is gone without that, and the flush that waits for the answer is a receive. -/
structure Exchanges (s : Store) (k : Nat) (x : Exchange Unit) : Prop where
  answer : x.sent = none → x.dropped = false →
    (s.answer k).acks[k]? = some ((x.occur (.send ())).occur .drop).cell
  closeAck : x.dropped = false → (s.closeAck k).acks[k]? = some (x.occur .drop).cell
  takeAck : ∀ patience late cell value, x.cell.receive patience late = some (cell, .took value) →
    (s.takeAck k).1.acks[k]? = some cell ∧ (s.takeAck k).2 = value
  /-- The flush goes on when the receive has something, -/
  isReady : ∀ g patience gate, (Frame.flush g patience gate (.waiting k)).isReady s = true ↔
    ∃ cell value, x.cell.receive patience false = some (cell, .took value)
  /-- and gives up when the receive does. -/
  expired : ∀ g patience gate o, (Frame.flush g patience gate (.waiting k)).expired? s = some o ↔
    o = .flag false ∧ x.cell.receive patience true = some (x.cell, .timeout)

theorem exchanges (hk : s.acks[k]? = some x.cell) : s.Exchanges k x where
  answer hsent hdropped := by
    simp only [Store.answer, Array.getElem?_modify, if_true, hk, Exchange.occur, hsent, hdropped]
    rfl
  closeAck hdropped := by
    simp only [Store.closeAck, Array.getElem?_modify, if_true, hk, Exchange.occur, hdropped]
    rfl
  takeAck patience late cell value h := by
    obtain ⟨-, htake⟩ := receive_eq_took.mp h
    simp only [Store.takeAck, hk, htake, Array.getElem?_modify, if_true]
    exact ⟨rfl, trivial⟩
  isReady g patience gate := by
    have hready : (Frame.flush g patience gate (.waiting k)).isReady s = true ↔ x.cell ≠ .pending := by
      simp only [Frame.isReady, isAckPending, hk, Bool.not_eq_true', ← Bool.not_eq_true, isPending_iff, ne_eq]
    rw [hready]
    simp only [receive_eq_took]
    exact ⟨fun hne => ⟨_, _, hne, rfl⟩, fun ⟨_, _, hne, _⟩ => hne⟩
  expired g patience gate o := by
    rw [receive_eq_timeout]
    cases patience with
    | unlimited => simp [Frame.expired?]
    | deadline =>
      simp only [Frame.expired?, isAckPending, hk, isPending_iff]
      split
      · next hpending => simp [hpending, eq_comm]
      · next hne => simp [hne]

end Store

/-! ## Deliveries -/

namespace Oneshot

/-- However a sender and receives take turns at a cell: a value that is sent is taken once, by the first receive that
comes to its end after that, and nothing is taken otherwise. What threads do about a flush request is such an
exchange over its cell. -/
theorem delivers : (∀ (α : Type) (es : List (Event α)), (Exchange.after {} es).Delivers) ∧
    ∀ (s : Store) (k : Nat) (es : List (Event Unit)), s.acks[k]? = some (Exchange.after {} es).cell →
      s.Exchanges k (Exchange.after {} es) :=
  ⟨fun _ => Exchange.delivers_after, fun _ _ _ => Store.exchanges⟩

/-- A flush gives up, the request is answered all the same, and the next to look takes the answer. -/
theorem delivers_exchanging :
    (Store.mk #[] #[] #[.pending] #[] #[] {} {} none {}).Exchanges 0
        (Exchange.after {} [.receive .deadline true]) ∧
      ((Store.mk #[] #[] #[.pending] #[] #[] {} {} none {}).answer 0).Exchanges 0
        (Exchange.after {} [.receive .deadline true, .send (), .drop]) ∧
      (((Store.mk #[] #[] #[.pending] #[] #[] {} {} none {}).answer 0).takeAck 0).2 = some () := by
  have hanswered := delivers.2 ((Store.mk #[] #[] #[.pending] #[] #[] {} {} none {}).answer 0) 0
    [.receive .deadline true, .send (), .drop] rfl
  exact ⟨delivers.2 _ 0 [.receive .deadline true] rfl, hanswered,
    (hanswered.takeAck .unlimited false .consumed (some ()) rfl).2⟩

end Oneshot

end Reclaim

/-!
# One-shot cells

A cell through which one value can be handed over once. The sending side either sets the value or
closes the cell; the receiving side takes what is there.

* `Oneshot.set`, `Oneshot.close` : the sender's moves;
* `Oneshot.take` : the receiver's move, for a cell that is no longer pending.
-/

namespace Reclaim

/-- The state of a cell. -/
inductive Oneshot (α : Type) where
  | pending
  | ready (value : α)
  | consumed
deriving DecidableEq, Repr, Inhabited

namespace Oneshot

variable {α : Type}

/-- Nothing has been sent and nobody has given up. -/
def isPending : Oneshot α → Bool
  | pending => true
  | _ => false

/-- The value goes in if the cell is pending; the flag tells. -/
def set (cell : Oneshot α) (value : α) : Oneshot α × Bool :=
  match cell with
  | pending => (ready value, true)
  | other => (other, false)

/-- The sender is gone: a pending cell will never hold a value. -/
def close : Oneshot α → Oneshot α
  | pending => consumed
  | other => other

/-- The value if there is one; the cell is used up. -/
def take : Oneshot α → Oneshot α × Option α
  | ready value => (consumed, some value)
  | _ => (consumed, none)

/-- The sender sets the value and is gone. -/
def send (cell : Oneshot α) (value : α) : Oneshot α := (cell.set value).1.close

end Oneshot

end Reclaim

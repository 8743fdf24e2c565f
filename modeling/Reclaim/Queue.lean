/-!
# Closable queues

First in, first out, until the queue is interrupted; from then on it is empty for good.

* `Queue.enqueue` : refuses, and so hands back, once interrupted;
* `Queue.next` : an item, nothing yet, or the news of the interruption;
* `Queue.interrupt` : throws away what is pending.
-/

namespace Reclaim

/-- Items waiting for a consumer. -/
structure Queue (α : Type) where
  items : List α := []
  interrupted : Bool := false
deriving DecidableEq, Repr, Inhabited

/-- What a consumer finds. -/
inductive Next (α : Type) where
  | interrupted
  | empty
  | item (value : α) (rest : Queue α)
deriving DecidableEq, Repr

namespace Queue

variable {α : Type}

/-- The queue with one item more, unless it is interrupted. -/
def enqueue (q : Queue α) (item : α) : Option (Queue α) :=
  if q.interrupted then none else some { q with items := q.items ++ [item] }

/-- What the consumer finds; an interruption goes before any item. -/
def next (q : Queue α) : Next α :=
  if q.interrupted then .interrupted
  else
    match q.items with
    | [] => .empty
    | item :: rest => .item item { q with items := rest }

/-- The interrupted queue, and what it threw away. -/
def interrupt (q : Queue α) : Queue α × List α :=
  ({ items := [], interrupted := true }, q.items)

/-- How many items wait. -/
def pending (q : Queue α) : Nat := q.items.length

/-- The text for logs. -/
def debug (q : Queue α) : String :=
  "ReclaimQueue \x7b pending: " ++ toString q.pending ++ ", interrupted: " ++ toString q.interrupted
    ++ " \x7d"

end Queue

end Reclaim

import Reclaim.Handle

/-!
# The registry of a guard

The numbers of the handles that a guard keeps track of, the latest first.

* `Registry.insert`, `Registry.erase`, `Registry.contains`, `Registry.size`.
-/

namespace Reclaim

/-- The handles that a guard keeps track of. -/
structure Registry where
  ids : List HandleId := []
deriving DecidableEq, Repr, Inhabited

namespace Registry

/-- One handle more. -/
def insert (r : Registry) (id : HandleId) : Registry := ⟨id :: r.ids⟩

/-- One handle less. -/
def erase (r : Registry) (id : HandleId) : Registry := ⟨r.ids.erase id⟩

/-- Whether the handle is kept track of. -/
def contains (r : Registry) (id : HandleId) : Bool := r.ids.contains id

/-- How many handles are kept track of. -/
def size (r : Registry) : Nat := r.ids.length

end Registry

end Reclaim

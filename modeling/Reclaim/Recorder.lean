import Reclaim.Diagnostic

/-!
# Recorders

A recorder keeps the diagnostics that it is offered, in order.

* `Recorder.offer` : one diagnostic more;
* `Recorder.messages`, `Recorder.about`, `Recorder.count` : what it has kept.
-/

namespace Reclaim

/-- The diagnostics offered so far, in order. -/
structure Recorder where
  events : Array Diagnostic := #[]
deriving DecidableEq, Repr, Inhabited

namespace Recorder

/-- One diagnostic more. -/
def offer (r : Recorder) (d : Diagnostic) : Recorder := ⟨r.events.push d⟩

/-- Everything kept. -/
def toList (r : Recorder) : List Diagnostic := r.events.toList

/-- How many diagnostics are kept. -/
def size (r : Recorder) : Nat := r.events.size

/-- All texts. -/
def messages (r : Recorder) : List String := r.toList.map Diagnostic.text

/-- The diagnostics about one address. -/
def about (r : Recorder) (address : Address) : List Diagnostic :=
  r.toList.filter fun d => d.address? == some address

/-- How many diagnostics there are of a kind. -/
def count (r : Recorder) (kind : DiagnosticKind) : Nat :=
  (r.toList.filter fun d => d.kind == kind).length

/-- Nothing kept. -/
def clear (_ : Recorder) : Recorder := {}

end Recorder

end Reclaim

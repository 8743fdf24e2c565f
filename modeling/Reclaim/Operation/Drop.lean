import Reclaim.Frame

/-!
# Dropping

A handle that is dropped while active is queued for the worker of its guard. If the source hands it
back there is nobody to release the resource, and all that is left is to say so.

* `DropPoint.advance` : the next action.
-/

namespace Reclaim

/-- One action of a drop. -/
def DropPoint.advance (s : Store) (id : HandleId) : DropPoint → Store × Progress
  | check =>
      match (s.resource? id).map Entry.state with
      | some .active => (s, .goto (.drop id enqueue))
      | _ => (s, .finish .done)
  | enqueue =>
      match s.resource? id with
      | none => (s, .finish .done)
      | some e =>
        match s.enqueue e.guard (.reclaim id) with
        | (s, true) =>
          (s.log .trace ("handle " ++ id.text ++ " dropped without release, queued for reclaim"),
            .finish .done)
        | (s, false) => (s, .goto (.drop id leak))
  | leak =>
      match s.resource? id with
      | none => (s, .finish .done)
      | some e =>
        match s.emit e.guard (.leakedAfterStop e.address) with
        | (s, some p) => (s, .finish (.panic p))
        | (s, none) => (s, .finish .done)

end Reclaim

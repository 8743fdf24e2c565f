import Reclaim.Frame

/-!
# Registering

A registration is checked, numbered, tracked and counted, one action each; a registration that is
refused does none of that. The handle then goes into its variable, and the handle that was there
is dropped.

* `RegisterPoint.advance` : the next action.
-/

namespace Reclaim

namespace RegisterRequest

/-- What a refused registration comes to. -/
def refuse (q : RegisterRequest) (e : Error) : Outcome :=
  if q.mustSucceed then .panic (.text ("register test resource: " ++ e.debug?.getD e.message))
  else .value (.error e)

/-- What a registration comes to. -/
def report (s : Store) (id : HandleId) : Outcome :=
  match s.info? id with
  | some info => .value (.info info)
  | none => .done

end RegisterRequest

/-- One action of a registration. -/
def RegisterPoint.advance (s : Store) (q : RegisterRequest) : RegisterPoint → Store × Progress
  | allocate =>
      match q.registration.check with
      | .error e => (s, .finish (q.refuse e))
      | .ok callback =>
        let (s, id) := s.allocate q.guard q.registration callback
        (s, .goto (.register q (track id)))
  | track id => (s.track q.guard id, .goto (.register q (count id)))
  | count id =>
      (s.countRegistered q.guard id q.registration.address, .goto (.register q (bind id)))
  | bind id =>
      match s.handleNamed q.handle with
      | .error _ => (s.bindHandle q.handle id, .goto (.register q (report id)))
      | .ok old =>
        let (s, last) := (s.bindHandle q.handle id).dropShare old
        if last then (s, .call (.drop old .check) (.register q (dropping id)))
        else (s, .goto (.register q (report id)))
  | dropping id => (s, .goto (.register q (dropping id)))
  | report id => (s, .finish (RegisterRequest.report s id))

end Reclaim

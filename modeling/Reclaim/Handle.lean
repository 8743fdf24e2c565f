import Reclaim.Diagnostic
import Reclaim.TypeName

/-!
# Handles and registrations

* `HandleId` : numbers of handles, counted from 1;
* `HandleState` : active, then released, never back;
* `Panic` : how a callback or a sink can end abnormally;
* `Callback` : what the release of a handle runs;
* `Registration` : what is known of a resource before it is registered.
-/

namespace Reclaim

/-- The number of a handle; the first handle of all has number 1. -/
structure HandleId where
  number : Nat
deriving DecidableEq, Repr, Inhabited

namespace HandleId

/-- The number after a hash sign. -/
def text (id : HandleId) : String := "#" ++ toString id.number

/-- The text for logs. -/
def debug (id : HandleId) : String := "HandleId(" ++ toString id.number ++ ")"

end HandleId

/-- Whether the release of a handle has been claimed. -/
inductive HandleState where
  | active
  | released
deriving DecidableEq, Repr, Inhabited

/-- The name of the state. -/
def HandleState.name : HandleState → String
  | active => "Active"
  | released => "Released"

/-- What comes with a panic: a text, or something that is not a text. -/
inductive Panic where
  | text (message : String)
  | other
deriving DecidableEq, Repr, Inhabited

/-- The text that a report gives for a panic. -/
def Panic.message : Panic → String
  | text message => message
  | other => "release callback panicked"

/-- A release callback over commands of type `κ`: it tells a probe, runs its commands one by one,
and ends by returning or by a panic. -/
structure Callback (κ : Type) where
  /-- The probe that hears of each run. -/
  probe : Option Nat := none
  /-- Whether runs are reported one by one. -/
  listed : Bool := true
  /-- The commands, if the callback has any to run. -/
  body : Option (List κ) := none
  /-- The panic at the end. -/
  panic : Option Panic := none

/-- A resource about to be registered. -/
structure Registration (κ : Type) where
  address : Address
  label : Option String := none
  callback : Option (Callback κ) := none

namespace Registration

variable {κ : Type}

/-- A registration that so far has an address only. -/
def start (address : Address) : Registration κ := { address }

/-- The label of later diagnostics; the last one counts. -/
def withLabel (r : Registration κ) (label : String) : Registration κ :=
  { r with label := some label }

/-- The short name of the owner's type as label. -/
def ownedBy (r : Registration κ) (typeName : String) : Registration κ :=
  r.withLabel (TypeName.short typeName)

/-- The callback; the last one counts. -/
def releaseWith (r : Registration κ) (callback : Callback κ) : Registration κ :=
  { r with callback := some callback }

/-- A registration needs a callback and an address that is not null; the callback is asked for
first. -/
def check (r : Registration κ) : Except Error (Callback κ) :=
  match r.callback with
  | none => .error (.invalidArgument "release_fn" "a release callback is required")
  | some callback =>
    match verifyAddress r.address with
    | .ok _ => .ok callback
    | .error e => .error e

end Registration

end Reclaim

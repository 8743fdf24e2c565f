import Reclaim.Text.Quoted

/-!
# Errors

Every failure of the library is one of three causes.

* `Error` : a bad argument, an operation that is not allowed now, an input or output failure;
* `Error.message` : the text for people;
* `Error.debug?` : the text for logs, for those that have one;
* `verify` : a condition on an argument, checked.
-/

namespace Reclaim

/-- The reasons an operating system gives for a failure. -/
inductive IoReason where
  | notFound
  | permissionDenied
  | wouldBlock
  | outOfMemory
  | other
deriving DecidableEq, Repr, Inhabited

namespace IoReason

/-- The text of a reason that comes without one of its own. -/
def text : IoReason → String
  | notFound => "entity not found"
  | permissionDenied => "permission denied"
  | wouldBlock => "operation would block"
  | outOfMemory => "out of memory"
  | other => "other error"

end IoReason

/-- A failed input or output: the reason, and the text that replaces the usual one. -/
structure IoFailure where
  reason : IoReason
  custom : Option String
deriving DecidableEq, Repr, Inhabited

/-- The text of the failure. -/
def IoFailure.text (f : IoFailure) : String :=
  f.custom.getD f.reason.text

/-- Why an operation failed. -/
inductive Error where
  | invalidArgument (name message : String)
  | invalidOperation (name : String)
  | io (context : String) (source : IoFailure)
deriving DecidableEq, Repr, Inhabited

namespace Error

/-- The text for people. -/
def message : Error → String
  | invalidArgument name message => "invalid argument " ++ name ++ ": " ++ message
  | invalidOperation name => "invalid operation " ++ name
  | io context source => "IO error for '" ++ context ++ "': " ++ source.text

/-- Misuse by the caller: a missing callback, a null address, a malformed setting. -/
def isInvalidArgument : Error → Bool
  | invalidArgument .. => true
  | _ => false

/-- What the error wraps. -/
def source? : Error → Option String
  | io _ source => some source.text
  | _ => none

/-- The texts that the cause carries, in order. -/
def details : Error → List String
  | invalidArgument name message => [name, message]
  | invalidOperation name => [name]
  | io context source => [context, source.text]

/-- The text for logs; a failed input or output has none that is stable. -/
def debug? : Error → Option String
  | invalidArgument name message =>
      some ("Error(" ++ Text.record "InvalidArgument"
        [("name", Text.quote name), ("message", Text.quote message)] ++ ")")
  | invalidOperation name =>
      some ("Error(" ++ Text.record "InvalidOperation" [("name", Text.quote name)] ++ ")")
  | io .. => none

end Error

/-- A condition that an argument must meet; the error quotes it. -/
def verify (ok : Bool) (name condition : String) : Except Error Unit :=
  if ok then .ok () else .error (.invalidArgument name condition)

/-- An address that is not null. -/
def verifyAddress (address : UInt64) : Except Error UInt64 := do
  verify (address != 0) "address" "address != 0"
  return address

/-- The width of a range shorter than a hundred that ends at an even number. -/
def verifyRange (lo hi : UInt64) : Except Error UInt64 := do
  verify (decide (lo ≤ hi) && decide (hi - lo < 100)) "lo" "lo <= hi && hi - lo < 100"
  verify (hi % 2 == 0) "hi" "hi % 2 == 0"
  return hi - lo

end Reclaim

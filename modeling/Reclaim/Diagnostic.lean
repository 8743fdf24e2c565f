import Reclaim.Error

/-!
# Diagnostics

What a guard has to tell: a leak found, a resource destroyed, a release that failed, the end of
the worker. The texts are fixed, because tools look for them.

* `Level` : severities, and which of them a limit lets pass;
* `Diagnostic` : the five messages; `text`, `level`, `address?`, `debug`.
-/

namespace Reclaim

/-- The number of a native resource; zero is no resource. -/
abbrev Address := UInt64

/-- How an address is written. -/
def Address.text (a : Address) : String := toString a.toNat

/-- How severe a log record is. -/
inductive Level where
  | error
  | warn
  | info
  | debug
  | trace
deriving DecidableEq, Repr, Inhabited

namespace Level

/-- One for the most severe. -/
def rank : Level → Nat
  | error => 1
  | warn => 2
  | info => 3
  | debug => 4
  | trace => 5

/-- The name, in capitals. -/
def name : Level → String
  | error => "ERROR"
  | warn => "WARN"
  | info => "INFO"
  | debug => "DEBUG"
  | trace => "TRACE"

/-- Whether a limit lets records of this level pass; without a limit nothing passes. -/
def passes (level : Level) : Option Level → Bool
  | none => false
  | some limit => level.rank ≤ limit.rank

end Level

/-- The five kinds of diagnostics. -/
inductive DiagnosticKind where
  | notProperlyClosed
  | destroyed
  | interrupted
  | releaseFailed
  | leakedAfterStop
deriving DecidableEq, Repr, Inhabited

namespace DiagnosticKind

/-- All kinds. -/
def all : List DiagnosticKind :=
  [notProperlyClosed, destroyed, interrupted, releaseFailed, leakedAfterStop]

/-- The name of the kind. -/
def name : DiagnosticKind → String
  | notProperlyClosed => "NotProperlyClosed"
  | destroyed => "Destroyed"
  | interrupted => "Interrupted"
  | releaseFailed => "ReleaseFailed"
  | leakedAfterStop => "LeakedAfterStop"

end DiagnosticKind

/-- A message of a guard. -/
inductive Diagnostic where
  /-- An owner let go without releasing; the worker is about to release. -/
  | notProperlyClosed (address : Address)
  /-- The worker has released. -/
  | destroyed (label : Option String) (address : Address)
  /-- The worker has ended. -/
  | interrupted
  /-- The callback that the worker ran has failed. -/
  | releaseFailed (address : Address) (message : String)
  /-- An owner let go without releasing when no worker was left. -/
  | leakedAfterStop (address : Address)
deriving DecidableEq, Repr, Inhabited

namespace Diagnostic

/-- The kind of the message. -/
def kind : Diagnostic → DiagnosticKind
  | notProperlyClosed .. => .notProperlyClosed
  | destroyed .. => .destroyed
  | interrupted => .interrupted
  | releaseFailed .. => .releaseFailed
  | leakedAfterStop .. => .leakedAfterStop

/-- How severe the message is. -/
def level : Diagnostic → Level
  | notProperlyClosed .. => .warn
  | destroyed .. => .debug
  | interrupted => .info
  | releaseFailed .. => .error
  | leakedAfterStop .. => .warn

/-- The resource that the message is about. -/
def address? : Diagnostic → Option Address
  | notProperlyClosed a => some a
  | destroyed _ a => some a
  | interrupted => none
  | releaseFailed a _ => some a
  | leakedAfterStop a => some a

/-- The fixed text. -/
def text : Diagnostic → String
  | notProperlyClosed a => a.text ++ " not properly closed, doing it now"
  | destroyed (some label) a => label ++ " destroyed " ++ a.text
  | destroyed none a => "Destroyed " ++ a.text
  | interrupted => "Thread Interrupted"
  | releaseFailed a message => "release of " ++ a.text ++ " failed: " ++ message
  | leakedAfterStop a => a.text ++ " leaked after reclaim worker stopped"

/-- The name of the kind with its fields. -/
def debug : Diagnostic → String
  | notProperlyClosed a => Text.record "NotProperlyClosed" [("address", a.text)]
  | destroyed label a =>
      Text.record "Destroyed"
        [("label", Text.option (label.map Text.quote)), ("address", a.text)]
  | interrupted => "Interrupted"
  | releaseFailed a message =>
      Text.record "ReleaseFailed" [("address", a.text), ("message", Text.quote message)]
  | leakedAfterStop a => Text.record "LeakedAfterStop" [("address", a.text)]

end Diagnostic

end Reclaim

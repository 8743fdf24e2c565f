import Reclaim.Diagnostic
import Reclaim.Mode

/-!
# Configuration of a guard

* `Sink` : where a guard's diagnostics go, and when the sink itself fails;
* `Config` : the name of the worker's thread and the sink; `Config.standard`;
* `Config.fromEnvironment` : the configuration that the environment asks for;
* `Setup.config` : the configuration put together from a setup.
-/

namespace Reclaim

/-- Receiver of diagnostics. -/
inductive Sink where
  /-- Every diagnostic becomes a log record of its level. -/
  | log
  /-- Every diagnostic becomes a line of standard output. -/
  | stdout
  /-- Diagnostics are thrown away. -/
  | silent
  /-- Diagnostics are kept under a name. Whether the sink panics after keeping one is a matter of what it
  was told before and of the diagnostic: it may panic at one and not at the next of the same kind. -/
  | recorder (name : String) (panics : List Diagnostic → Diagnostic → Bool)
deriving Inhabited

namespace Sink

/-- The sink of a mode. -/
def ofMode : Mode → Sink
  | .log => log
  | .stdout => stdout
  | .off => silent

/-- Whether handing over this diagnostic, after what the sink was told before, ends in a panic of the
sink. -/
def panicsAt : Sink → List Diagnostic → Diagnostic → Bool
  | recorder _ panics, told, d => panics told d
  | _, _, _ => false

/-- The name under which diagnostics are kept. -/
def recorderName? : Sink → Option String
  | recorder name _ => some name
  | _ => none

end Sink

/-- What a guard is started with. -/
structure Config where
  threadName : String
  sink : Sink
deriving Inhabited

/-- The content of the environment variable `NATIVE_GUARD_DIAGNOSTICS`, when it is set. -/
abbrev Environment := Option ByteArray

namespace Config

/-- The standard name of a worker's thread. -/
def standardThreadName : String := "native-guard-reclaim"

/-- The configuration of a guard that nobody configured. -/
def standard : Config := ⟨standardThreadName, .ofMode .standard⟩

/-- Another name for the worker's thread. -/
def withThreadName (c : Config) (name : String) : Config := { c with threadName := name }

/-- Another sink. -/
def withSink (c : Config) (sink : Sink) : Config := { c with sink := sink }

/-- The sink of a mode. -/
def withMode (c : Config) (mode : Mode) : Config := c.withSink (.ofMode mode)

/-- The text of the variable; bytes that are no text count as an unset variable. -/
def setting? (env : Environment) : Option String :=
  env.bind String.fromUTF8?

/-- The standard configuration with the sink of the mode that the environment names. -/
def fromEnvironment (env : Environment) : Except Error Config :=
  match setting? env with
  | none => .ok standard
  | some text =>
    match Mode.parse text with
    | .ok mode => .ok (standard.withMode mode)
    | .error e => .error e

/-- The text for logs; the sink is left out. -/
def debug (c : Config) : String :=
  Text.openRecord "GuardConfig" [("thread_name", Text.quote c.threadName)]

/-- A thread whose name is empty has no name. -/
def threadName? (c : Config) : Option String :=
  if c.threadName = "" then none else some c.threadName

end Config

/-- How a configuration is put together. -/
structure Setup where
  /-- Start from what the environment asks for. -/
  fromEnvironment : Bool := false
  /-- The name of a mode. Without one diagnostics are recorded, unless the environment has been
  asked. -/
  mode : Option String := none
  /-- The recorder panics after every diagnostic of these kinds. -/
  panicsOn : List DiagnosticKind := []
  threadName : Option String := none
  /-- When the recorder panics besides, by what it was told before and the diagnostic. -/
  panics : List Diagnostic → Diagnostic → Bool := fun _ _ => false
deriving Inhabited

/-- The recorder of a setup. -/
def Setup.recorder (setup : Setup) (name : String) : Sink :=
  .recorder name fun told d => setup.panicsOn.contains d.kind || setup.panics told d

/-- The configuration that a setup asks for; recorded diagnostics go under the name. -/
def Setup.config (setup : Setup) (env : Environment) (name : String) : Except Error Config := do
  let base ← if setup.fromEnvironment then Config.fromEnvironment env else .ok .standard
  let config ← match setup.mode with
    | some text => base.withMode <$> Mode.parse text
    | none =>
      if setup.fromEnvironment then .ok base else .ok (base.withSink (setup.recorder name))
  match setup.threadName with
  | some threadName => return config.withThreadName threadName
  | none => return config

end Reclaim

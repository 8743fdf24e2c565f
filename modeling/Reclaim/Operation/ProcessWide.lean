import Reclaim.Operation.Start

/-!
# The process-wide guard

At most one guard belongs to the process as a whole. It starts when it is first asked for, with the
configuration chosen last, or else with the one that the environment asks for at that moment; once
it runs, choosing comes too late.

* `Store.choose` : a configuration for the process-wide guard;
* `Purpose.advance` : the process-wide guard, started if need be.
-/

namespace Reclaim

/-- Choosing a configuration after the start. -/
def Error.alreadyRunning : Error :=
  .invalidOperation "configure_global: the global guard is already running"

namespace Store

/-- Chooses a configuration; a later choice replaces it. -/
def choose (s : Store) (config : Config) : Except Error Store :=
  match s.processWide.running with
  | some _ => .error .alreadyRunning
  | none => .ok { s with processWide.chosen := some config }

/-- The configuration for a start now. -/
def processWideConfig (s : Store) : Except Error Config :=
  match s.processWide.chosen with
  | some config => .ok config
  | none => Config.fromEnvironment s.environment

end Store

namespace Purpose

/-- How it goes on once the guard runs. -/
def frame (g : GuardId) : Purpose → Frame
  | bind name _ => .bindGuard name g
  | register handle registration => .register ⟨g, handle, registration, false⟩ .allocate

/-- What a failed start comes to. -/
def refuse (e : Error) : Purpose → Outcome
  | bind _ true => .panic (.text ("start global native-guard: " ++ e.debug?.getD e.message))
  | _ => .value (.error e)

/-- The process-wide guard is asked for; a start that fails changes nothing. -/
def advance (fresh : ThreadId) (s : Store) (p : Purpose) : Store × Progress :=
  match s.processWide.running with
  | some g => (s, .goto (p.frame g))
  | none =>
    match s.processWideConfig with
    | .error e => (s, .finish (p.refuse e))
    | .ok config =>
      let (s, g) := s.addGuard config .plain fresh
      ({ s with processWide := ⟨some g, none⟩ },
        .spawn (.worker config.threadName?) (.worker g .starting) (p.frame g))

end Purpose

end Reclaim

import Reclaim.Config
import Reclaim.Stats
import Reclaim.Source

/-!
# Commands

What a thread can be told to do with guards and handles. Guards and handles are held in named
variables, shared by all threads: a handle that is in no variable can no longer be released, only
its number stays known under the name.

* `Command` : operations; `Query` : questions, which change nothing;
* `Reply` : what either answers.
-/

namespace Reclaim

/-- Which guard a registration goes to. -/
inductive Target where
  | guard (name : String)
  /-- The process-wide guard, started if need be. -/
  | processWide
deriving DecidableEq, Repr, Inhabited

/-- How a flush waits for its answer. -/
inductive Patience where
  /-- For as long as it takes. -/
  | unlimited
  /-- Until a deadline. -/
  | deadline
deriving DecidableEq, Repr, Inhabited

/-- What a flush does about the gate of the guard's source. -/
inductive GateUse where
  /-- Lets through everything up to the request, and goes on when the worker is at rest again. -/
  | opens
  /-- Leaves the gate as it is. -/
  | leaves
deriving DecidableEq, Repr, Inhabited

/-- A question about the present state. -/
inductive Query where
  | contains (guard handle : String)
  | containsProcessWide (handle : String)
  | info (handle : String)
  | debugHandle (handle : String)
  | idText (handle : String)
  | compare (handle other : String)
  | live (guard : String)
  | stats (guard : String)
  | workerState (guard : String)
  | debugGuard (guard : String)
  | pending (guard : String)
  | isInterrupted (guard : String)
  | probe (address : Address)
  | record (recorder : String) (address : Address)
deriving DecidableEq, Repr, Inhabited

/-- An operation on guards and handles. -/
inductive Command where
  /-- Registers a resource and puts the handle into a variable, dropping what was there. -/
  | register (target : Target) (handle : String) (r : Registration Command)
  /-- Registers a resource whose owner takes a failure for a bug. -/
  | acquire (guard handle : String) (r : Registration Command)
  /-- Releases a handle, if wanted through a guard. -/
  | release (handle : String) (via : Option String)
  /-- Gives up one share of a handle; with the last share the handle is dropped. -/
  | drop (handle : String)
  /-- Puts a handle's number into a guard's source from outside. -/
  | inject (guard handle : String)
  | flush (guard : String) (patience : Patience) (gate : GateUse)
  /-- Lets the worker take at most so many of the pending items, and waits until it is at rest. -/
  | letThrough (guard : String) (n : Nat)
  /-- Interrupts the source from outside, and waits for the worker's end. -/
  | interrupt (guard : String)
  | shutdown (guard : String)
  /-- Starts a guard and puts it into a variable, dropping the one that was there. -/
  | startGuard (guard : String) (setup : Setup) (kind : SourceKind) (panicsAt : Option Nat)
  | dropGuard (guard : String)
  /-- Chooses a configuration for the process-wide guard; the name is for its recorder. -/
  | choose (recorder : String) (setup : Setup)
  /-- Puts the process-wide guard into a variable, started if need be; who insists takes a failed
  start for a bug. -/
  | processWide (guard : String) (insists : Bool)
  | setEnvironment (environment : Environment)
  /-- Makes the callbacks of an address fail. -/
  | failOn (address : Address)
  | ask (query : Query)

/-- What callbacks are made of. -/
abbrev ReleaseFn := Callback Command

/-- What is wrong with a command that names something unknown. -/
inductive Missing where
  | guard
  | source
  | handle
  | id
  | queue
  | sink
  | flush
  | wait
deriving DecidableEq, Repr, Inhabited

/-- The word for it. -/
def Missing.word : Missing → String
  | guard => "guard"
  | source => "source"
  | handle => "handle"
  | id => "id"
  | queue => "queue"
  | sink => "sink"
  | flush => "flush"
  | wait => "wait"

/-- What is known of a handle. -/
structure HandleInfo where
  id : HandleId
  address : Address
  label : Option String
  state : HandleState
deriving DecidableEq, Repr, Inhabited

/-- The text for logs. -/
def HandleInfo.debug (i : HandleInfo) : String :=
  Text.record "Handle"
    [("id", i.id.debug), ("address", i.address.text),
      ("label", Text.option (i.label.map Text.quote)), ("state", i.state.name)]

/-- What a probe has heard, with one address singled out. -/
structure ProbeReport where
  total : Nat
  order : List Address
  duplicates : List Address
  count : Nat
deriving DecidableEq, Repr, Inhabited

/-- The answer to a command or a question. -/
inductive Reply where
  /-- Done, nothing to tell. -/
  | done
  | flag (value : Bool)
  | count (n : Nat)
  | text (text : String)
  | info (info : HandleInfo)
  | stats (stats : Stats)
  /-- How two handle numbers compare. -/
  | order (ordering : Ordering)
  | probe (report : ProbeReport)
  /-- All recorded texts, and the kinds of those about one address. -/
  | record (messages : List String) (kinds : List DiagnosticKind)
  | error (error : Error)
  | missing (what : Missing)
  | panicked (panic : Panic)
deriving DecidableEq, Repr, Inhabited

/-! ## Length of scripts -/

mutual

/-- An upper bound on the actions that a command can cause, those of the callback that it may
register included. -/
def Command.cost : Command → Nat
  | .register _ _ ⟨_, _, some ⟨_, _, some body, _⟩⟩ => 64 + costs body
  | .acquire _ _ ⟨_, _, some ⟨_, _, some body, _⟩⟩ => 64 + costs body
  | _ => 64

/-- The sum over a list of commands. -/
def costs : List Command → Nat
  | [] => 0
  | c :: rest => c.cost + costs rest

end

/-- An upper bound on the actions of one run. -/
def Callback.cost (f : ReleaseFn) : Nat :=
  8 + costs (f.body.getD [])

end Reclaim

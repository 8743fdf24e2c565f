import Reclaim.Command
import Reclaim.Recorder
import Reclaim.Registry

/-!
# Guards

A guard keeps track of handles and has a worker that releases those whose owners forgot to.

* `WorkerState` : what the worker is doing; `Exit` : how its thread ended;
* `Guard` : registry, source, counters, worker, and every diagnostic offered to the sink so far.
-/

namespace Reclaim

/-- The place of a guard in the order of their creation. -/
abbrev GuardId := Nat

/-- The place of a thread in the order of their creation; the caller's thread is the first. -/
abbrev ThreadId := Nat

/-- What a worker is doing. -/
inductive WorkerState where
  | waiting
  | processing
  | stopped
deriving DecidableEq, Repr, Inhabited

/-- The name of the state. -/
def WorkerState.name : WorkerState → String
  | waiting => "Waiting"
  | processing => "Processing"
  | stopped => "Stopped"

/-- How a worker's thread ended: its source was interrupted, or a call for an item panicked. -/
inductive Exit where
  | regular
  | abnormal
deriving DecidableEq, Repr, Inhabited

/-- A guard and what has become of it. -/
structure Guard where
  config : Config
  /-- The worker's thread. -/
  worker : ThreadId
  source : Source
  registry : Registry := {}
  stats : Stats := {}
  state : WorkerState := .waiting
  /-- Nobody has begun to wait for the worker's end. -/
  joinable : Bool := true
  /-- How the worker's thread ended, once it has. -/
  exit : Option Exit := none
  /-- All diagnostics offered to the sink. -/
  offered : Recorder := {}
deriving Inhabited

namespace Guard

/-- The text for logs. -/
def debug (g : Guard) : String :=
  Text.record "ResourceGuard"
    [("live", toString g.registry.size), ("pending", toString g.source.pending),
      ("worker_state", g.state.name), ("stats", g.stats.debug)]

/-- The guard after its sink has been offered a diagnostic. -/
def offer (g : Guard) (d : Diagnostic) : Guard := { g with offered := g.offered.offer d }

end Guard

end Reclaim

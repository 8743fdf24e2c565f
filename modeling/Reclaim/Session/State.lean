import Reclaim.Session.Bench

/-!
# The state of a session

* `Session` : the system, whose first thread is the caller's, and what the session has seen so far;
* `Session.observe` : what is new since the last look;
* `Session.runCaller` : a command on the caller's thread, until the system is at rest.
-/

namespace Reclaim

namespace Session

/-- How much of the past a session has seen. -/
structure Seen where
  calls : Nat := 0
  /-- Diagnostics per guard. -/
  offered : List Nat := []
  /-- Items given to the worker, per guard. -/
  delivered : List Nat := []
deriving DecidableEq, Repr, Inhabited

/-- A run of a callback, as a session reports it. -/
structure CallReport where
  address : Address
  thread : ThreadName
  did : Option (List Reply)
deriving DecidableEq, Repr, Inhabited

/-- What has happened since the last look. -/
structure Observation where
  /-- New diagnostics, by the name of the recorder. -/
  events : List (String × List String)
  calls : List CallReport
  log : List (Level × String)
  out : String
deriving DecidableEq, Repr, Inhabited

end Session

/-- Guards driven from one thread. -/
structure Session where
  system : System
  flushes : List (String × ThreadId) := []
  bench : Session.Bench := {}
  seen : Session.Seen := {}

namespace Session

/-- The caller's thread. -/
def caller : ThreadId := 0

/-- A session with nothing in it. -/
def start (environment : Environment) (limit : Option Level) : Session where
  system := {
    store := { probes := #[{}], environment, output := { limit } }
    threads := #[⟨.caller, [], none⟩] }

/-- The shared state. -/
def store (s : Session) : Store := s.system.store

/-- The session over another system. -/
def withSystem (s : Session) (system : System) : Session := { s with system }

/-- The session at rest. -/
def settle (s : Session) : Session := s.withSystem s.system.settle

/-- A line on standard output. -/
def say (s : Session) (line : String) : Session :=
  s.withSystem { s.system with store.output := s.store.output.line line }

/-! ## Observation -/

/-- New texts under a name, in a list by name. -/
def addEvents (name : String) (texts : List String) :
    List (String × List String) → List (String × List String)
  | [] => [(name, texts)]
  | (n, ts) :: rest =>
    if n = name then (n, ts ++ texts) :: rest else (n, ts) :: addEvents name texts rest

/-- The new diagnostics of each guard that records them. -/
def newEvents (s : Session) : List (String × List String) :=
  (s.store.guards.toList.zipIdx).foldl (fun events (guard, g) =>
    let texts := (guard.offered.toList.drop (s.seen.offered.getD g 0)).map Diagnostic.text
    match guard.config.sink.recorderName? with
    | some name => if texts.isEmpty then events else addEvents name texts events
    | none => events) []

/-- The name of a thread. -/
def threadName (s : Session) (t : ThreadId) : ThreadName :=
  match s.system.thread? t with
  | some thread => thread.name
  | none => .helper

/-- The new runs of callbacks that are reported one by one. -/
def newCalls (s : Session) : List CallReport :=
  ((s.store.calls.toList.drop s.seen.calls).filter Call.listed).map fun c =>
    ⟨c.address, s.threadName c.thread, c.did⟩

/-- What has happened since the last look. -/
def observation (s : Session) : Observation where
  events := s.newEvents
  calls := s.newCalls
  log := s.store.output.records.toList
  out := s.store.output.text

/-- All diagnostics count as seen. -/
def offeredSeen (s : Session) : Session :=
  { s with seen.offered := s.store.guards.toList.map fun g => g.offered.size }

/-- Log records written so far count as seen. -/
def logSeen (s : Session) : Session :=
  { s with system.store.output.records := #[] }

/-- Everything counts as seen. -/
def allSeen (s : Session) : Session :=
  let s := s.offeredSeen
  { s with
    seen.calls := s.store.calls.size
    system.store.output := s.store.output.cleared }

/-- What has happened since the last look, and the session that has seen it. -/
def observe (s : Session) : Session × Observation := (s.allSeen, s.observation)

/-! ## Running -/

/-- A frame on the caller's thread, until the system is at rest. -/
def runFrame (s : Session) (frame : Frame) : Session :=
  (s.withSystem (s.system.assign caller frame)).settle

/-- Commands on the caller's thread, until the system is at rest, and their answers. -/
def runCommands (s : Session) (commands : List Command) : Session × List Reply :=
  let s := s.runFrame (.commands commands [])
  (s, s.system.replies caller)

/-- A command on the caller's thread, until the system is at rest, and its answer. -/
def runCaller (s : Session) (c : Command) : Session × Reply :=
  let (s, replies) := s.runCommands [c]
  (s, replies.headD .done)

end Session

end Reclaim

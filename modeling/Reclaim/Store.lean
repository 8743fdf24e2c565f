import Reclaim.Guard
import Reclaim.Oneshot
import Reclaim.Output
import Reclaim.Probe

/-!
# The store

What the threads of a process share: handles, guards, flush answers, probes, variables, output.
Each function below is one action that no other thread can interrupt; what a thread does is a
sequence of them.

* guards : `addGuard`;
* handles : `allocate`, `track`, `retire`, `takeActive`, `beginUse`, `endUse`, `dropShare`;
* counters : `countRegistered`, `countReleased`, `countReclaimed`, `countFailure`,
  `countDiscarded`;
* sources : `enqueue`, `callNext`, `pollNext`, `interrupt`, `permit`;
* flush answers : `newAck`, `answer`, `closeAck`, `takeAck`;
* callbacks : `beginCall`, `tellProbe`, `endCall`;
* diagnostics : `emit`.
-/

namespace Reclaim

/-- A registered resource. -/
structure Entry where
  guard : GuardId
  address : Address
  label : Option String
  callback : ReleaseFn
  state : HandleState := .active
  /-- How many shares of the handle are held. -/
  owners : Nat := 1
  /-- How many releases of the handle are under way. Without shares and releases it is gone. -/
  users : Nat := 0

/-- A run of a callback. -/
structure Call where
  id : HandleId
  address : Address
  thread : ThreadId
  listed : Bool
  /-- The answers to the callback's commands, once they have all been run. -/
  did : Option (List Reply) := none
deriving Repr, Inhabited

/-- The variables that hold guards and handles; the latest binding of a name counts. -/
structure Names where
  guards : List (String × GuardId) := []
  handles : List (String × HandleId) := []
deriving DecidableEq, Repr, Inhabited

/-- The process-wide guard: running, or not yet, perhaps with a configuration chosen for it. -/
structure ProcessWide where
  running : Option GuardId := none
  chosen : Option Config := none
deriving Inhabited

/-- What the threads of a process share. -/
structure Store where
  entries : Array Entry := #[]
  guards : Array Guard := #[]
  acks : Array (Oneshot Unit) := #[]
  probes : Array Probe := #[]
  calls : Array Call := #[]
  names : Names := {}
  processWide : ProcessWide := {}
  environment : Environment := none
  output : Output := {}

namespace Store

/-! ## Reading -/

/-- The guard with this number. -/
def guard? (s : Store) (g : GuardId) : Option Guard := s.guards[g]?

/-- The resource behind a handle. -/
def resource? (s : Store) (id : HandleId) : Option Entry :=
  if id.number = 0 then none else s.entries[id.number - 1]?

/-- What is known of a handle. -/
def info? (s : Store) (id : HandleId) : Option HandleInfo :=
  (s.resource? id).map fun e => ⟨id, e.address, e.label, e.state⟩

/-- The guard that a variable holds. -/
def guardNamed (s : Store) (name : String) : Except Missing GuardId :=
  match s.names.guards.lookup name with
  | some g => .ok g
  | none => .error .guard

/-- The guard that a variable holds, if its source is within reach, which that of a guard without a
gate is not. -/
def sourceNamed (s : Store) (name : String) : Except Missing GuardId :=
  match s.guardNamed name with
  | .error e => .error e
  | .ok g =>
    match s.guard? g with
    | some { source := { gate := some _, .. }, .. } => .ok g
    | _ => .error .source

/-- The number known under a name. -/
def idNamed (s : Store) (name : String) : Except Missing HandleId :=
  match s.names.handles.lookup name with
  | some id => .ok id
  | none => .error .id

/-- The handle that a variable holds; a dropped one is in no variable. -/
def handleNamed (s : Store) (name : String) : Except Missing HandleId :=
  match s.names.handles.lookup name with
  | none => .error .handle
  | some id =>
    match s.resource? id with
    | some e => if e.owners = 0 then .error .handle else .ok id
    | none => .error .handle

/-- Whether a guard keeps track of a handle that is its own. -/
def contains (s : Store) (g : GuardId) (id : HandleId) : Bool :=
  match s.resource? id, s.guard? g with
  | some e, some guard => e.guard == g && guard.registry.contains id
  | _, _ => false

/-- What the latest recorder of a name has kept. -/
def recorder? (s : Store) (name : String) : Option Recorder :=
  let named := fun (c : Config) => c.sink.recorderName? == some name
  match s.guards.toList.reverse.find? fun guard => named guard.config with
  | some guard => some guard.offered
  | none => if s.processWide.chosen.any named then some {} else none

/-! ## Writing -/

/-- A change to one guard. -/
def modifyGuard (s : Store) (g : GuardId) (f : Guard → Guard) : Store :=
  { s with guards := s.guards.modify g f }

/-- A change to the resource behind one handle. -/
def modifyEntry (s : Store) (id : HandleId) (f : Entry → Entry) : Store :=
  if id.number = 0 then s else { s with entries := s.entries.modify (id.number - 1) f }

/-- A change to the counters of one guard. -/
def modifyStats (s : Store) (g : GuardId) (f : Stats → Stats) : Store :=
  s.modifyGuard g fun guard => { guard with stats := f guard.stats }

/-- A change to the source of one guard. -/
def modifySource (s : Store) (g : GuardId) (f : Source → Source) : Store :=
  s.modifyGuard g fun guard => { guard with source := f guard.source }

/-- A log record. -/
def log (s : Store) (level : Level) (text : String) : Store :=
  { s with output := s.output.log level text }

/-- What the worker of a guard is doing. -/
def setWorkerState (s : Store) (g : GuardId) (state : WorkerState) : Store :=
  s.modifyGuard g fun guard => { guard with state }

/-- A name for a handle. -/
def bindHandle (s : Store) (name : String) (id : HandleId) : Store :=
  { s with names.handles := (name, id) :: s.names.handles }

/-- A name for a guard. -/
def bindGuard (s : Store) (name : String) (g : GuardId) : Store :=
  { s with names.guards := (name, g) :: s.names.guards }

/-- The name holds no guard any more. -/
def forgetGuard (s : Store) (name : String) : Store :=
  { s with names.guards := s.names.guards.filter fun b => b.1 != name }

/-! ## Guards -/

/-- A new guard over a source, with the thread of its worker. -/
def addGuard (s : Store) (config : Config) (source : Source) (worker : ThreadId) :
    Store × GuardId :=
  ({ s with guards := s.guards.push { config, worker, source } }, s.guards.size)

/-- Whether this is the process-wide guard, which is never dropped. -/
def isProcessWide (s : Store) (g : GuardId) : Bool := s.processWide.running == some g

/-! ## Diagnostics -/

/-- Offers a diagnostic to the sink of a guard; the sink may panic, after all it was told before. -/
def emit (s : Store) (g : GuardId) (d : Diagnostic) : Store × Option Panic :=
  match (s.guard? g).map fun guard => (guard.config.sink, guard.offered.toList) with
  | none => (s, none)
  | some (sink, told) =>
    let s := s.modifyGuard g (·.offer d)
    ({ s with output := sink.deliver s.output d },
      if sink.panicsAt told d then some (.text "sink failure") else none)

/-! ## Handles -/

/-- A new handle, active, held once, and not tracked yet. -/
def allocate (s : Store) (g : GuardId) (r : Registration Command) (callback : ReleaseFn) :
    Store × HandleId :=
  let id : HandleId := ⟨s.entries.size + 1⟩
  ({ s with entries := s.entries.push { guard := g, address := r.address, label := r.label, callback } },
    id)

/-- The handle enters the registry of a guard. -/
def track (s : Store) (g : GuardId) (id : HandleId) : Store :=
  s.modifyGuard g fun guard => { guard with registry := guard.registry.insert id }

/-- The handle leaves the registry of a guard. -/
def untrack (s : Store) (g : GuardId) (id : HandleId) : Store :=
  s.modifyGuard g fun guard => { guard with registry := guard.registry.erase id }

/-- The release of the handle is claimed. -/
def markReleased (s : Store) (id : HandleId) : Store :=
  s.modifyEntry id fun e => { e with state := .released }

/-- Claims the release of a handle and takes it out of its guard's registry; the flag tells whether
this call is the one that claimed it. -/
def retire (s : Store) (id : HandleId) : Store × Bool :=
  match s.resource? id with
  | none => (s, false)
  | some e =>
    match e.state with
    | .released => (s, false)
    | .active => ((s.markReleased id).untrack e.guard id, true)

/-- Claims the release of a handle that a guard keeps track of; the flag tells whether there was
one to claim. -/
def takeActive (s : Store) (g : GuardId) (id : HandleId) : Store × Bool :=
  match s.guard? g with
  | none => (s, false)
  | some guard =>
    if guard.registry.contains id then
      match s.resource? id with
      | none => (s, false)
      | some e =>
        match e.state with
        | .released => (s, false)
        | .active => ((s.markReleased id).untrack g id, true)
    else (s, false)

/-- Gives up a share of a handle; the flag tells whether the handle is gone with it. -/
def dropShare (s : Store) (id : HandleId) : Store × Bool :=
  match s.resource? id with
  | none => (s, false)
  | some e =>
    (s.modifyEntry id fun e => { e with owners := e.owners - 1 }, e.owners == 1 && e.users == 0)

/-- A release of a handle begins. -/
def beginUse (s : Store) (id : HandleId) : Store :=
  s.modifyEntry id fun e => { e with users := e.users + 1 }

/-- A release of a handle is over; the flag tells whether the handle is gone with it. -/
def endUse (s : Store) (id : HandleId) : Store × Bool :=
  match s.resource? id with
  | none => (s, false)
  | some e =>
    (s.modifyEntry id fun e => { e with users := e.users - 1 }, e.users == 1 && e.owners == 0)

/-! ## Counters -/

/-- One registration more. -/
def countRegistered (s : Store) (g : GuardId) (id : HandleId) (address : Address) : Store :=
  (s.modifyStats g fun c => { c with registered := c.registered + 1 }).log .trace
    ("registered " ++ id.text ++ " for address " ++ address.text)

/-- One explicit release more, at the guard of the handle. -/
def countReleased (s : Store) (id : HandleId) : Store :=
  match s.resource? id with
  | none => s
  | some e =>
    (s.modifyStats e.guard fun c => { c with released := c.released + 1 }).log .trace
      ("releasing " ++ id.text ++ " (address " ++ e.address.text ++ ")")

/-- One release by the worker more. -/
def countReclaimed (s : Store) (g : GuardId) : Store :=
  s.modifyStats g fun c => { c with reclaimed := c.reclaimed + 1 }

/-- One failed release by the worker more. -/
def countFailure (s : Store) (g : GuardId) : Store :=
  s.modifyStats g fun c => { c with releaseFailures := c.releaseFailures + 1 }

/-- One item more that found nothing to release. -/
def countDiscarded (s : Store) (g : GuardId) (id : HandleId) : Store :=
  (s.modifyStats g fun c => { c with discarded := c.discarded + 1 }).log .trace
    ("reclaim of " ++ id.text ++ " discarded, already released")

/-! ## Flush answers -/

/-- A new cell for the answer to a flush request. -/
def newAck (s : Store) : Store × Nat :=
  ({ s with acks := s.acks.push .pending }, s.acks.size)

/-- The request is answered. -/
def answer (s : Store) (ack : Nat) : Store :=
  { s with acks := s.acks.modify ack (·.send ()) }

/-- The request is destroyed. -/
def closeAck (s : Store) (ack : Nat) : Store :=
  { s with acks := s.acks.modify ack Oneshot.close }

/-- The answer, for a request that is no longer pending. -/
def takeAck (s : Store) (ack : Nat) : Store × Option Unit :=
  match s.acks[ack]? with
  | none => (s, none)
  | some cell =>
    let (cell, value) := cell.take
    ({ s with acks := s.acks.modify ack fun _ => cell }, value)

/-- Whether nobody has answered or destroyed the request yet. -/
def isAckPending (s : Store) (ack : Nat) : Bool :=
  match s.acks[ack]? with
  | some cell => cell.isPending
  | none => false

/-! ## Sources -/

/-- Hands an item to the source of a guard; the flag tells whether it was accepted. -/
def enqueue (s : Store) (g : GuardId) (item : Item) : Store × Bool :=
  match (s.guard? g).bind fun guard => guard.source.enqueue item with
  | none => (s, false)
  | some source => (s.modifySource g fun _ => source, true)

/-- The worker calls for an item; the flag tells whether the call panics. -/
def callNext (s : Store) (g : GuardId) : Store × Bool :=
  match s.guard? g with
  | none => (s, false)
  | some guard =>
    let (source, panics) := guard.source.ask
    (s.modifySource g fun _ => source, panics)

/-- One look at the queue on behalf of the worker; a request that the source swallows is
destroyed. -/
def pollNext (s : Store) (g : GuardId) : Store × Poll :=
  match s.guard? g with
  | none => (s, .wait)
  | some guard =>
    let (source, poll) := guard.source.poll
    let s := s.modifySource g fun _ => source
    match poll with
    | .swallowed ack => (s.closeAck ack, poll)
    | _ => (s, poll)

/-- How many items wait at a guard. -/
def pendingAt (s : Store) (g : GuardId) : Nat :=
  match s.guard? g with
  | some guard => guard.source.pending
  | none => 0

/-- Whether the worker's call for an item can come to an end. -/
def isSourceReady (s : Store) (g : GuardId) : Bool :=
  match s.guard? g with
  | some guard => guard.source.isReady
  | none => false

/-- Whether the worker of a guard has ended, or waits for an item that it may not take yet. -/
def isAtRest (s : Store) (g : GuardId) : Bool :=
  match s.guard? g with
  | some guard =>
    guard.exit.isSome
      || (guard.state == .waiting && !guard.source.isReady && !guard.source.hasPanicked)
  | none => true

/-- Interrupts the source of a guard: what is pending is thrown away. The flush requests among it are
then in the hands of the thread that interrupts, which destroys them afterwards: until it has, the source
is interrupted and their flushes still wait. -/
def interrupt (s : Store) (g : GuardId) : Store × List Nat :=
  match s.guard? g with
  | none => (s, [])
  | some guard =>
    let (source, items) := guard.source.interrupt
    let s := s.modifySource g fun _ => source
    let s :=
      if items.isEmpty then s
      else s.log .debug
        ("reclaim source interrupted with " ++ toString items.length ++ " pending item(s)")
    (s, items.filterMap Item.ack?)

/-- Lets this many items through the gate of a guard. -/
def permit (s : Store) (g : GuardId) (n : Nat) : Store := s.modifySource g (·.permit n)

/-- Lets everything pending through the gate of a guard. -/
def permitPending (s : Store) (g : GuardId) : Store := s.modifySource g Source.permitPending

/-! ## Callbacks -/

/-- A callback starts; the run gets a number. -/
def beginCall (s : Store) (id : HandleId) (e : Entry) (thread : ThreadId) : Store × Nat :=
  ({ s with calls := s.calls.push ⟨id, e.address, thread, e.callback.listed, none⟩ }, s.calls.size)

/-- The callback tells its probe; the flag tells whether the probe fails it. -/
def tellProbe (s : Store) (e : Entry) : Store × Bool :=
  match e.callback.probe with
  | none => (s, false)
  | some i =>
    match s.probes[i]? with
    | none => (s, false)
    | some probe =>
      let (probe, fails) := probe.record e.address
      ({ s with probes := s.probes.modify i fun _ => probe }, fails)

/-- The commands of a run have all been answered. -/
def endCall (s : Store) (call : Nat) (did : List Reply) : Store :=
  { s with calls := s.calls.modify call fun c => { c with did := some did } }

end Store

end Reclaim

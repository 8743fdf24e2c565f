import Reclaim.Session.State

/-!
# Storms

* `Storm.script` : what one of the threads does;
* `Session.storm` : all threads side by side, then a flush, then the release of what was kept;
* `Session.race` : threads that release one handle at once.
-/

namespace Reclaim.Session

namespace Storm

/-- The address of a registration. -/
def addressOf (storm : Storm) (thread i : Nat) : Address :=
  storm.address + UInt64.ofNat (thread * storm.per + i)

/-- The variable of a registration; no name in a session starts like this. -/
def nameOf (storm : Storm) (thread i : Nat) : String :=
  "\x00storm " ++ (storm.addressOf thread i).text

/-- What becomes of the i-th registration of a thread. -/
def treatment (storm : Storm) (i : Nat) : Treatment :=
  storm.plan.getD (i % storm.plan.length) .keep

/-- What a thread does with its i-th registration. -/
def part (storm : Storm) (probe thread i : Nat) : List Command :=
  let name := storm.nameOf thread i
  let register : Command :=
    .register (.guard storm.guard) name
      ((Registration.start (storm.addressOf thread i)).releaseWith
        { probe := some probe, listed := false })
  match storm.treatment i with
  | .leak => [register, .drop name]
  | .release => [register, .release name none, .drop name]
  | .releaseTwice => [register, .release name none, .release name none, .drop name]
  | .keep => [register]

/-- What a thread does. -/
def script (storm : Storm) (probe thread : Nat) : List Command :=
  (List.range storm.per).flatMap (storm.part probe thread)

/-- The variables of the kept handles. -/
def kept (storm : Storm) : List String :=
  (List.range storm.threads).flatMap fun t =>
    ((List.range storm.per).filter fun i => storm.treatment i == .keep).map (storm.nameOf t)

end Storm

/-- Whether a release won: it returned so, or passed on the panic of its callback. -/
def won : Reply → Bool
  | .flag b => b
  | .panicked _ => true
  | _ => false

/-- How many diagnostics there are of each kind, kinds without any left out. -/
def kindCounts (ds : List Diagnostic) : List (DiagnosticKind × Nat) :=
  (DiagnosticKind.all.map fun k => (k, (ds.filter fun d => d.kind == k).length)).filter
    fun e => 0 < e.2

/-- Whether the diagnostics about one address are none, one leak, or a leak found and its result. -/
def isOrdered (kinds : List DiagnosticKind) : Bool :=
  match kinds with
  | [] => true
  | [.leakedAfterStop] => true
  | [.notProperlyClosed, second] => second != .notProperlyClosed
  | _ => false

/-- All threads side by side. -/
def spawnAll (s : Session) (scripts : List (List Command)) : Session × List ThreadId :=
  let (system, threads) := scripts.foldl (fun (w, ts) script =>
    let (w, t) := w.spawn .helper (.commands script [])
    (w, t :: ts)) (s.system, [])
  (s.withSystem system, threads.reverse)

/-- The diagnostics that a guard has recorded, from a place on. -/
def recordedSince (s : Session) (g : GuardId) (n : Nat) : List Diagnostic :=
  match s.store.guard? g with
  | some guard =>
    match guard.config.sink.recorderName? with
    | some _ => guard.offered.toList.drop n
    | none => []
  | none => []

/-- A storm at a guard. -/
def storm (s : Session) (storm : Storm) : Except Missing (Session × StormReport) := do
  let g ← s.store.guardNamed storm.guard
  let before := match s.store.guard? g with
    | some guard => guard.offered.size
    | none => 0
  let probe := s.store.probes.size
  let s := s.withSystem { s.system with
    store.probes := s.store.probes.push { failing := storm.failing } }
  let (s, _) := s.spawnAll ((List.range storm.threads).map (storm.script probe))
  let s := s.settle
  let (s, flushed) := s.runCaller (.flush storm.guard .unlimited .opens)
  let heard := fun (s : Session) => s.store.probes.getD probe {}
  let tracked := fun name => match s.store.idNamed name with
    | .ok id => s.store.contains g id
    | .error _ => false
  let live := match s.store.guard? g with
    | some guard => guard.registry.size
    | none => 0
  let recorded := s.recordedSince g before
  let member := (storm.kept.filter tracked).length
  let total := (heard s).total
  let (s, released) := s.runCommands (storm.kept.map fun name => .release name none)
  let (s, _) := s.runCommands (storm.kept.map .drop)
  let addresses := (recorded.filterMap Diagnostic.address?).eraseDups
  let about := fun a => (recorded.filter fun d => d.address? == some a).map Diagnostic.kind
  let stats := match s.store.guard? g with
    | some guard => guard.stats
    | none => {}
  return (s.offeredSeen.logSeen, {
    flushed := won flushed
    live, member, total
    freed := (released.filter won).length
    after := (heard s).total
    duplicates := (heard s).duplicates
    events := kindCounts recorded
    ordered := addresses.all fun a => isOrdered (about a)
    stats })

/-- A handle gets more shares. -/
def share (s : Session) (id : HandleId) (n : Nat) : Session :=
  s.withSystem { s.system with
    store := s.store.modifyEntry id fun e => { e with owners := e.owners + n } }

/-- Threads that release one handle at once, each holding a share of it; how many of them won. -/
def race (s : Session) (handle : String) (threads : Nat) : Except Missing (Session × Nat) := do
  let id ← s.store.handleNamed handle
  let script : List Command := [.release handle none, .drop handle]
  let (s, ts) := (s.share id threads).spawnAll (List.replicate threads script)
  let s := s.settle
  return (s, (ts.filter fun t => (s.system.replies t).head?.any won).length)

end Reclaim.Session

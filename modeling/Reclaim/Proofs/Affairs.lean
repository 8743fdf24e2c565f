import Reclaim.Proofs.Calls
import Reclaim.Proofs.Ranks
import Reclaim.Proofs.Transparency

/-!
# The affairs of a guard

Of all that happens to a process only some has to do with a guard: what is done at the guard and to its
handles, and what is put into its source. That is the guard's affairs, and they can be carried out in a process
where nothing else is.

* `Callback.IsDiscreet` : callbacks that do not call back into a guard;
* `Affair`, `Solo` : what has to do with a guard, and a process with this guard only;
* `Solo.meet`, `Solo.after` : what an affair means there;
* `Frame.concerns`, `Frame.isErrand`, `amidCallback` : operations at a guard, and the callbacks of its handles;
* `Frame.affairs`, `System.affairs`, `System.course` : what of all that happens are affairs of a guard.

Affairs give handles by their ranks, so they do not tell how many handles other guards have; what is put into the
source and is none of the guard's own has the rank 0, like a handle that there is not.
-/

namespace Reclaim

/-! ## Discreet callbacks -/

/-- The command calls into no guard. -/
def Command.isAside : Command → Bool
  | .setEnvironment _ | .failOn _ => true
  | _ => false

/-- The callback does not call back into a guard. -/
def Callback.IsDiscreet (f : ReleaseFn) : Prop := ∀ body, f.body = some body → ∀ k ∈ body, k.isAside = true

/-! ## Affairs -/

/-- Something that has to do with a guard. -/
inductive Affair where
  /-- The guard starts over a source, with its worker on a thread. -/
  | start (config : Config) (source : Source) (worker : ThreadId)
  /-- A thread begins to register a resource. -/
  | register (thread : ThreadId) (r : Registration Command) (mustSucceed : Bool)
  /-- A thread begins to release a handle. -/
  | release (thread : ThreadId) (id : HandleId)
  /-- A thread gives up a share of a handle. -/
  | drop (thread : ThreadId) (id : HandleId)
  /-- A holder of a handle gives out more shares of it. -/
  | share (id : HandleId) (shares : Nat)
  /-- A handle's number is put into the source. -/
  | put (id : HandleId)
  | flush (thread : ThreadId) (patience : Patience) (gate : GateUse)
  /-- The gate lets through at most so many of the pending items. -/
  | permit (n : Nat)
  /-- A thread interrupts the source, and begins to destroy the requests that were pending. -/
  | interrupt (thread : ThreadId)
  /-- An outsider interrupts the source, and has destroyed the requests that were pending. -/
  | cutOff
  | shutdown (thread : ThreadId)
  /-- From now on callbacks of the address fail. -/
  | fail (address : Address)
  /-- A thread takes a step of its operation at the guard. -/
  | act (thread : ThreadId)
  /-- The deadline passes for which a thread waits at the guard. -/
  | expire (thread : ThreadId)

/-- The affair with other names for the threads. -/
def Affair.relabel (label : ThreadId → ThreadId) : Affair → Affair
  | start config source worker => start config source (label worker)
  | register t r must => register (label t) r must
  | release t id => release (label t) id
  | drop t id => drop (label t) id
  | flush t patience gate => flush (label t) patience gate
  | interrupt t => interrupt (label t)
  | shutdown t => shutdown (label t)
  | act t => act (label t)
  | expire t => expire (label t)
  | a => a

/-! ## A guard alone -/

/-- A step of an operation at a guard or of one of its handles, and where the guard is alone the commands of a
callback. What follows a registration when the handle has been counted is not: it only goes into a variable. -/
def Frame.isErrand : Frame → Bool
  | .register _ .allocate | .register _ (.track _) | .register _ (.count _) => true
  | .release .. | .callback .. | .drop .. | .flush .. | .discard .. | .shutdown .. | .worker .. => true
  | .commands .. => true
  | _ => false

/-- A process with one guard: its store, and what threads have under way at the guard. -/
structure Solo where
  store : Store := {}
  errands : ThreadId → List Frame := fun _ => []

namespace Solo

/-- The thread begins an operation. -/
def begin (a : Solo) (t : ThreadId) (x : Frame) : Solo :=
  { a with errands := Function.update a.errands t [x] }

/-- What becomes of a thread that gives up a share of a handle. -/
def giveUp (a : Solo) (t : ThreadId) (id : HandleId) : Solo :=
  match a.store.dropShare id with
  | (store, true) => { a with store }.begin t (.drop id .check)
  | (store, false) => { a with store }

/-- A thread takes a step of its operation. -/
def act (a : Solo) (t : ThreadId) : Solo :=
  match a.errands t with
  | [] => a
  | x :: rest =>
    let (store, p) := x.advance t 0 a.store
    ⟨store, Function.update a.errands t ((p.onto rest).filter Frame.isErrand)⟩

/-- The process after an affair of its guard. -/
def meet (a : Solo) : Affair → Solo
  | .start config source worker =>
    { a with store := (a.store.addGuard config source worker).1 }.begin worker (.worker 0 .starting)
  | .register t r must => a.begin t (.register ⟨0, "", r, must⟩ .allocate)
  | .release t id => { a with store := a.store.beginUse id }.begin t (.release id .retire)
  | .drop t id => a.giveUp t id
  | .share id shares =>
    { a with store := a.store.modifyEntry id fun e => { e with owners := e.owners + shares } }
  | .put id => { a with store := (a.store.enqueue 0 (.reclaim id)).1 }
  | .flush t patience gate => a.begin t (.flush 0 patience gate .checkStopped)
  | .permit n => { a with store := a.store.permit 0 (min n (a.store.pendingAt 0)) }
  | .interrupt t => { a with store := (a.store.interrupt 0).1 }.begin t (.discard 0 (a.store.interrupt 0).2)
  | .cutOff => { a with store := a.store.interruptAtOnce 0 }
  | .shutdown t => a.begin t (.shutdown 0 .interrupt)
  | .fail address =>
    { a with store := { a.store with probes := a.store.probes.modify 0 fun p => p.failOn address } }
  | .act t => a.act t
  | .expire t => { a with errands := Function.update a.errands t [] }

/-- The process after a list of affairs. -/
def after (a : Solo) (affairs : List Affair) : Solo := affairs.foldl meet a

/-- A process whose guard has not started yet. -/
def boot (probes : Array Probe) : Solo := { store := { probes } }

end Solo

/-! ## What has to do with a guard -/

/-- Whether the frame is a step of an operation at the guard or of one of its handles. -/
def Frame.concerns (os : List GuardId) (g : GuardId) : Frame → Bool
  | .register q .allocate | .register q (.track _) | .register q (.count _) => q.guard == g
  | .release id _ | .callback id _ | .drop id _ => ownerIn os id == some g
  | .flush g' .. | .discard g' _ | .shutdown g' _ | .worker g' _ => g' == g
  | _ => false

/-- Whether the commands of a callback are being carried out, and the handle is the guard's. -/
def amidCallback (os : List GuardId) (g : GuardId) : List Frame → Bool
  | .commands .. :: .callback id _ :: _ => ownerIn os id == some g
  | _ => false

/-- Affairs of the guard that has been found, if it is this one. -/
def affairsAt (g : GuardId) (found : Except Missing GuardId) (affairs : List Affair) : List Affair :=
  match found with
  | .ok g' => if g' = g then affairs else []
  | .error _ => []

/-- An affair of the guard of a handle, if it is this one. -/
def affairsOf (os : List GuardId) (g : GuardId) (found : Except Missing HandleId) (affair : HandleId → Affair) :
    List Affair :=
  match found with
  | .ok id => if ownerIn os id = some g then [affair (rankIn os g id)] else []
  | .error _ => []

section Affairs
variable (os : List GuardId) (s : Store) (g : GuardId) (t : ThreadId)

/-- What a command of a thread means for a guard. -/
def Command.affairs : Command → List Affair
  | .register (.guard guard) _ r => affairsAt g (s.guardNamed guard) [.register t r false]
  | .acquire guard _ r => affairsAt g (s.guardNamed guard) [.register t r true]
  | .release handle via =>
    if via.all fun guard => (s.guardNamed guard).isOk then affairsOf os g (s.handleNamed handle) (.release t) else []
  | .drop handle => affairsOf os g (s.handleNamed handle) (.drop t)
  | .inject guard handle =>
    match s.idNamed handle with
    | .ok id => affairsAt g (s.sourceNamed guard) [.put (rankIn os g id)]
    | .error _ => []
  | .flush guard patience gate => affairsAt g (Command.flushGuard s guard gate) [.flush t patience gate]
  | .letThrough guard n => affairsAt g (s.sourceNamed guard) [.permit n]
  | .interrupt guard => affairsAt g (s.sourceNamed guard) [.interrupt t]
  | .shutdown guard => affairsAt g (s.guardNamed guard) [.shutdown t]
  | .dropGuard guard => if s.isProcessWide g then [] else affairsAt g (s.guardNamed guard) [.shutdown t]
  | .failOn address => [.fail address]
  | _ => []

/-- What it means for a guard that the process-wide guard is wanted. -/
def Purpose.affairs : Purpose → List Affair
  | bind .. => []
  | register _ r => [.register t r false]

/-- What a step of a thread means for a guard. -/
def Frame.affairs (fresh : ThreadId) : Frame → List Affair
  | .commands (c :: _) _ => c.affairs os s g t
  | .register q (.bind _) => affairsOf os g (s.handleNamed q.handle) (.drop t)
  | .start q => if s.guards.size = g then [.start q.config (q.kind.source q.panicsAt) fresh] else []
  | .processWide p =>
    match s.processWide.running with
    | some g' => if g' = g then p.affairs t else []
    | none =>
      match s.processWideConfig with
      | .ok config => if s.guards.size = g then .start config .plain fresh :: p.affairs t else []
      | .error _ => []
  | .bindGuard name _ => if s.isProcessWide g then [] else affairsAt g (s.guardNamed name) [.shutdown t]
  | x => if x.concerns os g then [.act t] else []

end Affairs

/-- What a thread has under way. -/
def System.stack (w : System) (t : ThreadId) : List Frame := ((w.thread? t).map Thread.stack).getD []

section Course
variable (os : List GuardId) (g : GuardId)

/-- What a happening means for a guard. -/
def System.affairs (w : System) : Happening → List Affair
  | .event (.move (.act t)) =>
    match w.acting? t with
    | some x => if amidCallback os g (w.stack t) then [.act t] else x.affairs os w.store g t w.threads.size
    | none => []
  | .event (.move (.expire t)) =>
    match w.thread? t with
    | some ⟨_, x :: _, _⟩ => if x.concerns os g && (x.expired? w.store).isSome then [.expire t] else []
    | _ => []
  | .event (.join ..) => []
  | .event (.share id shares) =>
    if w.isHeld id && ownerIn os id == some g then [.share (rankIn os g id) shares] else []
  | .event (.inject g' id) => if w.knows id && w.isExposed g' && g' == g then [.put (rankIn os g id)] else []
  | .put g' id => if g' = g then [.put (rankIn os g id)] else []
  | .interrupt g' => if g' = g then [.cutOff] else []

/-- The affairs of a guard during a run. -/
def System.course (w : System) : List Happening → List Affair
  | [] => []
  | h :: hs => w.affairs os g h ++ (w.happens h).course hs

end Course

end Reclaim

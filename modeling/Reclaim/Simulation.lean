import Reclaim.Ledger
import Reclaim.Random
import Reclaim.Session.Run

/-!
# Simulation

Threads that register resources, keep a few of them open, and let go of the others, some by a
release and some by a mere drop. What a thread does depends on its own draws alone.

* `Draws` : the random choices of a thread; `Draws.standard` : the generator's;
* `Simulation.errands`, `Simulation.script` : what a thread does;
* `Simulation.runThreads` : all threads side by side, and a flush;
* `Simulation.conclude` : the summary and a shutdown.
-/

namespace Reclaim

/-- The random choices of a thread, over states `σ`. -/
structure Draws (σ : Type) where
  /-- One of `n` open handles. -/
  index : σ → Nat → Nat × σ
  /-- Whether a handle is dropped without a release. -/
  leaks : σ → Bool × σ
  /-- Whether a release is repeated. -/
  again : σ → Bool × σ

/-- The choices of the generator: a handle leaks if a number between 0 and 1 is below the ratio. -/
def Draws.standard (ratio : Float) : Draws Rng where
  index r n :=
    let (i, r) := r.below (UInt64.ofNat n)
    (i.toNat, r)
  leaks r :=
    let (x, r) := r.unit
    (decide (x < ratio), r)
  again := Rng.bool

namespace Simulation

/-- What is simulated. -/
structure Params where
  /-- Handles per thread. -/
  handles : UInt64
  ratio : Float
  threads : UInt64
  seed : UInt64

/-- At most this many handles stay open after a registration. -/
def window : Nat := 8

/-- The address of the i-th handle of a thread. -/
def addressOf (handles thread i : UInt64) : Address := thread * handles + i + 1

/-- All handles together, unless they are too many for a word. -/
def total? (threads handles : UInt64) : Option UInt64 :=
  if threads.toNat * handles.toNat < Nat.pow 2 64 then some (threads * handles) else none

/-- A list without the element at a place, which the last one takes. -/
def swapRemove {α : Type} (xs : List α) (i : Nat) : List α :=
  match xs.getLast? with
  | none => []
  | some last => (xs.set i last).dropLast

/-! ## Errands -/

/-- The name of the simulated guard. -/
def guardName : String := "guard"

/-- The variable of a handle. -/
def handleName (address : Address) : String := address.text

/-- Something that a thread does in one go. -/
inductive Errand where
  | opens (address : Address)
  /-- Lets go of a handle after so many releases. -/
  | closes (address : Address) (releases : Nat)
deriving DecidableEq, Repr, Inhabited

/-- The commands of an errand. -/
def Errand.commands : Errand → List Command
  | opens address =>
    [.register (.guard guardName) (handleName address)
      ((Registration.start address).releaseWith { listed := false })]
  | closes address releases =>
    List.replicate releases (.release (handleName address) none) ++ [.drop (handleName address)]

/-- The commands of errands, one after the other. -/
def commands (errands : List Errand) : List Command := errands.flatMap Errand.commands

section Scripts
variable {σ : Type} (d : Draws σ)

/-- How often the draws release a handle that is let go before it is dropped: never, so that it
leaks, or once, or once more in vain. -/
def releases (state : σ) : Nat × σ :=
  let (leaks, state) := d.leaks state
  if leaks then (0, state)
  else
    let (again, state) := d.again state
    (if again then 2 else 1, state)

/-- Letting go of all open handles. -/
def closeAll : List Address → σ → List Errand
  | [], _ => []
  | address :: rest, state =>
    let (n, state) := releases d state
    .closes address n :: closeAll rest state

/-- Registering addresses one by one; when more than a window of handles is open, one of them is let
go. -/
def errands : List Address → List Address → σ → List Errand
  | [], opened, state => closeAll d opened state
  | address :: rest, opened, state =>
    let opened := opened ++ [address]
    if window < opened.length then
      let (i, state) := d.index state opened.length
      let (n, state) := releases d state
      .opens address :: .closes (opened.getD i 0) n :: errands rest (swapRemove opened i) state
    else .opens address :: errands rest opened state

/-- The script of a thread that registers addresses while others are open. -/
def script (addresses opened : List Address) (state : σ) : List Command :=
  commands (errands d addresses opened state)

/-- The addresses of a thread. -/
def addresses (handles thread : UInt64) : List Address :=
  (List.range handles.toNat).map fun i => addressOf handles thread (UInt64.ofNat i)

variable (init : UInt64 → σ) (p : Params)

/-- What a thread does, whose draws start from the seed and its number. -/
def threadScript (thread : UInt64) : List Command :=
  script d (addresses p.handles thread) [] (init (p.seed + thread))

/-- What all threads do. -/
def scripts : List (List Command) :=
  (List.range p.threads.toNat).map fun t => threadScript d init p (UInt64.ofNat t)

end Scripts

/-! ## Runs -/

/-- A line of the summary. -/
def summaryLine (name : String) (n : Nat) : String := "  \"" ++ name ++ "\": " ++ toString n

/-- What a simulation has come to. -/
def summary (p : Params) (elapsed : Nat) (stats : Stats) (live : Nat) : String :=
  "\x7b\n" ++ ",\n".intercalate
    [summaryLine "threads" p.threads.toNat,
      summaryLine "handles" (p.threads * p.handles).toNat,
      summaryLine "seed" p.seed.toNat,
      summaryLine "elapsed_ms" elapsed,
      summaryLine "registered" stats.registered,
      summaryLine "released" stats.released,
      summaryLine "reclaimed" stats.reclaimed,
      summaryLine "discarded" stats.discarded,
      summaryLine "release_failures" stats.releaseFailures,
      summaryLine "live" live] ++ "\n\x7d"

/-- The complaint about addresses that were not released exactly once. -/
def complaint (violations : List (Nat × Nat)) : String :=
  let shown := (violations.take 5).map fun v => "(" ++ toString v.1 ++ ", " ++ toString v.2 ++ ")"
  toString violations.length ++ " address(es) not released exactly once, first: ["
    ++ ", ".intercalate shown ++ "]"

/-- All threads side by side over a guard, until everything is at rest, and then somebody to flush it;
the flag tells whether the flush was answered. -/
def runThreads {σ : Type} (d : Draws σ) (init : UInt64 → σ) (s : Session) (p : Params) :
    Session × Bool :=
  let s := (s.spawnAll (scripts d init p)).1.settle
  let (system, t) := s.system.spawn .helper (.commands [.flush guardName .deadline .opens] [])
  let s := (s.withSystem system).settle
  (s, s.system.outcome? t == some (.did [.flag true]))

/-- The addresses that were not released exactly once. -/
def violations (s : Session) (p : Params) : List (Nat × Nat) :=
  ((Ledger.empty (p.threads * p.handles).toNat).recordAll
    (s.store.calls.toList.map Call.address)).violations

/-- The end of a simulation that took so long: the summary, and a shutdown unless there is something
to complain about. -/
def conclude (s : Session) (flushed : Bool) (g : GuardId) (p : Params) (elapsed : Nat) :
    Session × Option String :=
  if flushed then
    match s.store.guard? g with
    | none => (s, none)
    | some guard =>
      let s := s.say (summary p elapsed guard.stats guard.registry.size)
      let wrong := violations s p
      if wrong.isEmpty then ((s.runCaller (.shutdown guardName)).1, none)
      else (s, some (complaint wrong))
  else (s, some "reclaim worker did not drain within 30s")

end Simulation

end Reclaim

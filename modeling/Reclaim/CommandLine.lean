import Reclaim.Decimal.Text
import Reclaim.Demo
import Reclaim.Simulation

/-!
# The command line

* `CommandLine.parse` : what the arguments ask for, or nothing if they are not understood;
* `CommandLine.start` : what the program does; `Run.exit` : how it ends.
-/

namespace Reclaim.CommandLine

/-! ## Arguments -/

/-- The options of a simulation, as far as they are given. -/
structure Options where
  handles : Option UInt64 := none
  ratio : Option Float := none
  threads : Option UInt64 := none
  seed : Option UInt64 := none

/-- What the arguments ask for. -/
inductive Request where
  | version
  | help
  | demo (stdout : Bool)
  | simulate (stdout : Bool) (options : Options)

/-- A whole number of at most 64 bits, with an optional plus sign. -/
def readWord? (s : String) : Option UInt64 :=
  let digits := match s.toList with
    | '+' :: rest => rest
    | cs => cs
  if digits.isEmpty || !digits.all Char.isDigit then none
  else
    let n := Decimal.digitsValue digits
    if n < Nat.pow 2 64 then some (UInt64.ofNat n) else none

/-- Whether an argument cannot be the value of the option before it. -/
def looksLikeOption (arg : String) : Bool := arg.startsWith "-" && arg != "-"

/-- The options that take a value. -/
inductive OptionName where
  | handles
  | ratio
  | threads
  | seed
deriving DecidableEq, Repr

/-- The option with a long name. -/
def long? (name : String) : Option OptionName :=
  if name = "--handles" then some .handles
  else if name = "--leak-ratio" then some .ratio
  else if name = "--threads" then some .threads
  else if name = "--seed" then some .seed
  else none

/-- An argument split at its first equals sign. -/
def splitAtEquals (arg : String) : String × Option String :=
  let cs := arg.toList
  match cs.dropWhile (· != '=') with
  | [] => (arg, none)
  | _ :: value => (String.ofList (cs.takeWhile (· != '=')), some (String.ofList value))

/-- The option at the head of an argument, and the value if the argument holds it. -/
def optionOf? (arg : String) : Option (OptionName × Option String) :=
  if arg.startsWith "--" then
    let (name, value) := splitAtEquals arg
    (long? name).map fun option => (option, value)
  else
    match arg.toList with
    | ['-', 't'] => some (.threads, none)
    | '-' :: 't' :: '=' :: value => some (.threads, some (String.ofList value))
    | '-' :: 't' :: value => some (.threads, some (String.ofList value))
    | _ => none

/-- A word for an option that has not been given before. -/
def once (old : Option UInt64) (value : String) : Option (Option UInt64) :=
  match old, readWord? value with
  | none, some n => some (some n)
  | _, _ => none

/-- The options with one more; none may be given twice. -/
def Options.set? (o : Options) (name : OptionName) (value : String) : Option Options :=
  match name with
  | .handles => (once o.handles value).map fun handles => { o with handles }
  | .threads => (once o.threads value).map fun threads => { o with threads }
  | .seed => (once o.seed value).map fun seed => { o with seed }
  | .ratio =>
    match o.ratio, Decimal.read? value with
    | none, some ratio => some { o with ratio := some ratio }
    | _, _ => none

/-- Whether an argument asks for help. -/
def asksForHelp (arg : String) : Bool :=
  arg == "--help" || (arg.startsWith "-h" && !arg.startsWith "--")

/-- The arguments after `demo`; `outer` tells whether `--stdout` stood before it. -/
def parseDemo (outer inner : Bool) : List String → Option Request
  | [] => some (.demo (outer || inner))
  | ["--"] => some (.demo (outer || inner))
  | arg :: rest =>
    if arg = "--stdout" then if inner then none else parseDemo outer true rest
    else if asksForHelp arg then some .help
    else none

/-- The arguments after `simulate`. -/
def parseSimulate (outer inner : Bool) (o : Options) : List String → Option Request
  | [] => some (.simulate (outer || inner) o)
  | ["--"] => some (.simulate (outer || inner) o)
  | arg :: rest =>
    if arg = "--stdout" then if inner then none else parseSimulate outer true o rest
    else if asksForHelp arg then some .help
    else
      match optionOf? arg with
      | none => none
      | some (name, some value) =>
        match o.set? name value with
        | some o => parseSimulate outer inner o rest
        | none => none
      | some (name, none) =>
        match rest with
        | [] => none
        | value :: rest =>
          if looksLikeOption value then none
          else
            match o.set? name value with
            | some o => parseSimulate outer inner o rest
            | none => none

/-- All arguments; a subcommand is needed. -/
def parseFrom (stdout : Bool) : List String → Option Request
  | [] => none
  | arg :: rest =>
    if arg = "--stdout" then if stdout then none else parseFrom true rest
    else if arg = "--version" ∨ (arg.startsWith "-V" ∧ ¬arg.startsWith "--") then some .version
    else if asksForHelp arg then some .help
    else if arg = "demo" then parseDemo stdout false rest
    else if arg = "simulate" then parseSimulate stdout false {} rest
    else if arg = "help" then some .help
    else none

/-- What the arguments ask for, or nothing if they are not understood. -/
def parse (args : List String) : Option Request := parseFrom false args

/-! ## Running -/

/-- How a run of the program ends. -/
structure Exit where
  code : Nat
  out : String := ""
  err : String := ""
deriving DecidableEq, Repr, Inhabited

/-- The name and the version of the program. -/
def versionText : String := "native-guard-cmd 0.1.0"

/-- How to call the program. -/
def usage : String :=
  "Usage: native-guard-cmd [--stdout] demo\n"
    ++ "       native-guard-cmd [--stdout] simulate [--handles N] [--leak-ratio R] [-t N] [--seed N]"

/-- A failure, reported on standard error. -/
def failed (out message : String) : Exit := { code := 1, out, err := "Error: " ++ message ++ "\n" }

/-- The end of a run over a session, with its complaint if there is one. -/
def finished (r : Session × Option String) : Exit :=
  match r with
  | (s, none) => { code := 0, out := s.store.output.text }
  | (s, some complaint) => failed s.store.output.text complaint

/-- A session with a guard of the configuration that the environment asks for, or one that prints
its diagnostics. -/
def openGuard (env : Environment) (stdout : Bool) (name : String) :
    Except Error (Session × GuardId) := do
  let config ← Config.fromEnvironment env
  let config := if stdout then config.withMode .stdout else config
  let s := Session.start env (some .error)
  let (system, g) := s.system.startGuard config .plain
  return ((s.withSystem { system with store := system.store.bindGuard name g }).settle, g)

/-- The demonstration. -/
def runDemo (env : Environment) (stdout : Bool) : Exit :=
  match openGuard env stdout Demo.guardName with
  | .error e => failed "" e.message
  | .ok (s, g) => finished (Demo.run g Demo.acts s)

/-- A run of the program, as far as it goes without knowing how long it took. -/
inductive Run where
  | ended (exit : Exit)
  /-- All work is done; the report needs the time that it took. -/
  | timed (report : Nat → Exit)

/-- A simulation: a ratio from 0 to 1, at least one thread, and not too many handles. -/
def runSimulation (env : Environment) (stdout : Bool) (o : Options) (seed : UInt64) : Run :=
  let ratio := o.ratio.getD 0.25
  let threads := o.threads.getD 4
  let handles := o.handles.getD 1000
  if !(decide (0 ≤ ratio) && decide (ratio ≤ 1)) then
    .ended (failed "" ("--leak-ratio must be within 0.0..=1.0, got " ++ Decimal.text ratio))
  else if threads = 0 then .ended (failed "" "--threads must be at least 1")
  else
    match Simulation.total? threads handles with
    | none => .ended (failed "" "handle count overflow")
    | some _ =>
      match openGuard env stdout Simulation.guardName with
      | .error e => .ended (failed "" e.message)
      | .ok (s, g) =>
        let p : Simulation.Params := { handles, ratio, threads, seed := o.seed.getD seed }
        let (s, flushed) := Simulation.runThreads (Draws.standard p.ratio) Rng.mk s p
        .timed fun elapsed => finished (Simulation.conclude s flushed g p elapsed)

/-- A run of the program; `seed` is for a simulation that is given none. -/
def start (args : List String) (env : Environment) (seed : UInt64) : Run :=
  match parse args with
  | none => .ended { code := 2, err := usage ++ "\n" }
  | some .version => .ended { code := 0, out := versionText ++ "\n" }
  | some .help => .ended { code := 0, out := usage ++ "\n" }
  | some (.demo stdout) => .ended (runDemo env stdout)
  | some (.simulate stdout o) => runSimulation env stdout o seed

/-- A run of the program that took so long. -/
def Run.exit (elapsed : Nat) : Run → Exit
  | ended exit => exit
  | timed report => report elapsed

end Reclaim.CommandLine

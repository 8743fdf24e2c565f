import Reclaim.CommandLine

/-!
# The program

* `main` : the command line, with the environment, the clock and the standard streams.
-/

namespace Reclaim

/-- The environment variable that chooses where diagnostics go. -/
def diagnosticsVariable : String := "NATIVE_GUARD_DIAGNOSTICS"

end Reclaim

/-- Runs the command line. -/
def main (args : List String) : IO UInt32 := do
  let setting ← IO.getEnv Reclaim.diagnosticsVariable
  let seed ← IO.rand 0 (Nat.pow 2 64 - 1)
  let before ← IO.monoMsNow
  let exit ← match Reclaim.CommandLine.start args (setting.map String.toUTF8) (.ofNat seed) with
    | .ended exit => pure exit
    | .timed report => do
      let after ← IO.monoMsNow
      pure (report (after - before))
  IO.print exit.out
  IO.eprint exit.err
  return UInt32.ofNat exit.code

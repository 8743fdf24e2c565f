import Reclaim.Session.Run

/-!
# Demonstration

A block of memory released, released again, leaked, and leaked once more after the end of the
worker, with a line of output before each act.

* `Demo.run` : the demonstration over a guard.
-/

namespace Reclaim.Demo

/-- The name of the guard. -/
def guardName : String := "guard"

/-- The address of the n-th block. -/
def blockAddress (n : Nat) : Address := 0x7f5a_4c00_0b70 + 0x40 * UInt64.ofNat n

/-- The registration of the n-th block, owned by the block's type. -/
def alloc (n : Nat) : Command :=
  .register (.guard guardName) "block"
    (((Registration.start (blockAddress n)).ownedBy "NativeBlock").releaseWith { listed := false })

/-- Something that the demonstration does. -/
inductive Act where
  | say (line : String)
  | run (command : Command)
  /-- A command with the answer that it must have. -/
  | expect (command : Command) (reply : Reply) (complaint : String)
  /-- The closing line with the counters. -/
  | report

/-- The acts, in order. -/
def acts : List Act :=
  [.say "== explicit release",
    .run (alloc 1),
    .say "allocated 64 bytes",
    .expect (.release "block" none) (.flag true) "first close must release",
    .expect (.ask (.contains guardName "block")) (.flag false) "released block is still tracked",
    .say "== double release",
    .expect (.release "block" none) (.flag false) "second close must be a no-op",
    .run (.drop "block"),
    .say "== leaked owner",
    .run (alloc 2),
    .run (.drop "block"),
    .expect (.flush guardName .unlimited .opens) (.flag true) "reclaim worker stopped unexpectedly",
    .expect (.ask (.live guardName)) (.count 0) "leaked block was not reclaimed",
    .say "== shutdown",
    .run (.shutdown guardName),
    .run (alloc 3),
    .expect (.release "block" none) (.flag true) "explicit release must work after shutdown",
    .run (alloc 4),
    .run (.drop "block"),
    .expect (.ask (.live guardName)) (.count 1) "leak after shutdown must stay tracked",
    .report]

/-- The closing line. -/
def closing (stats : Stats) : String :=
  "registered " ++ toString stats.registered ++ ", released " ++ toString stats.released
    ++ ", reclaimed " ++ toString stats.reclaimed

/-- Acts over a guard: the session at the end, and the complaint about the first answer that is not
as it must be. -/
def run (g : GuardId) : List Act → Session → Session × Option String
  | [], s => (s, none)
  | .say line :: rest, s => run g rest (s.say line)
  | .run command :: rest, s => run g rest (s.runCaller command).1
  | .expect command reply complaint :: rest, s =>
    let (s, answer) := s.runCaller command
    if answer = reply then run g rest s else (s, some complaint)
  | .report :: rest, s =>
    match s.store.guard? g with
    | some guard => run g rest (s.say (closing guard.stats))
    | none => run g rest s

end Reclaim.Demo

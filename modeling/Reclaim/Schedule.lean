import Reclaim.System

/-!
# The standard schedule

Of the threads that can act, the one with the lowest number does; a deadline passes only when no
thread can act. The system is at rest when neither is possible, which happens after a number of
moves that is bounded by the work that scripts, callbacks and queued items still hold.

* `System.next?` : the next move of the standard schedule;
* `System.work` : a bound on the moves that are left;
* `System.settle` : the system at rest.
-/

namespace Reclaim

/-! ## Work left -/

/-- A bound on the actions that a queued item causes, those of a callback left out. -/
def Item.cost : Nat := 12

/-- A bound on the actions of the callback behind a handle. -/
def Store.callbackCost (s : Store) (id : HandleId) : Nat :=
  match s.resource? id with
  | some e => e.callback.cost
  | none => 0

/-- A bound on the actions of a registration, a handle that it drops included. -/
def Registration.cost (r : Registration Command) : Nat :=
  8 + (4 + Item.cost) + (r.callback.map Callback.cost).getD 0

/-- A bound on the actions that the process-wide guard is wanted for. -/
def Purpose.cost : Purpose → Nat
  | bind _ _ => 7
  | register _ r => r.cost

/-- A bound on the actions that a frame causes, as long as nobody else acts. -/
def Frame.cost (s : Store) : Frame → Nat
  | .commands todo _ => 1 + costs todo
  | .give _ => 1
  | .rest _ _ => 2
  | .discard _ acks => 3 + acks.length
  | .register q point =>
      match point with
      | .allocate => q.registration.cost
      | .track _ => 7 + (4 + Item.cost)
      | .count _ => 6 + (4 + Item.cost)
      | .bind _ => 5 + (4 + Item.cost)
      | .dropping _ => 4
      | .report _ => 3
  | .release id point =>
      match point with
      | .retire => 6 + (4 + Item.cost)
      | .count => 5 + (4 + Item.cost) + s.callbackCost id
      | .running => 4 + (4 + Item.cost)
      | .lost => 3 + (4 + Item.cost)
      | .ran _ => 3 + (4 + Item.cost)
  | .callback id point =>
      match point with
      | .enter => s.callbackCost id
      | .running _ => 3
      | .ran _ _ => 2
  | .drop _ point =>
      match point with
      | .check => 4 + Item.cost
      | .enqueue => 3 + Item.cost
      | .leak => 2
  | .flush _ _ _ point =>
      match point with
      | .checkStopped => 6 + Item.cost
      | .checkInterrupted => 5 + Item.cost
      | .request => 4 + Item.cost
      | .waiting _ => 3
  | .shutdown _ point =>
      match point with
      | .interrupt => 5
      | .discarding acks => 4 + acks.length
      | .claim => 3
      | .joining => 2
  | .start _ => 17
  | .bindGuard _ _ => 7
  | .processWide purpose => 10 + purpose.cost
  | .worker _ point =>
      match point with
      | .starting => 9
      | .calling => 8
      | .polling => 7
      | .took _ => 18
      | .processing _ => 17
      | .reporting id => 16 + s.callbackCost id
      | .running _ => 14
      | .settling _ _ => 13
      | .announcing _ _ => 12
      | .aborted _ => 11
      | .leaving _ => 6
      | .discarding _ acks => 5 + acks.length
      | .farewell _ => 4
      | .stopping _ => 3

/-- A bound on the actions that the callback of a handle may still cause. -/
def Entry.cost (e : Entry) : Nat :=
  match e.state with
  | .active => e.callback.cost
  | .released => 0

/-- The sum of some bounds. -/
def total (bounds : List Nat) : Nat := bounds.foldr (· + ·) 0

namespace System

/-- A bound on the moves that are left. -/
def work (w : System) : Nat :=
  total (w.store.entries.toList.map Entry.cost)
    + total (w.store.guards.toList.map fun g => Item.cost * g.source.pending)
    + total (w.threads.toList.map fun t => total (t.stack.map (Frame.cost w.store)))

/-! ## The schedule -/

/-- The number of the first thread for which a test succeeds, from a number on. -/
def findThread (w : System) (test : Thread → Bool) : Nat → Nat → Option ThreadId
  | 0, _ => none
  | n + 1, t =>
    match w.thread? t with
    | none => none
    | some thread => if test thread then some t else w.findThread test n (t + 1)

/-- The next move of the standard schedule. -/
def next? (w : System) : Option Move :=
  match w.findThread (Thread.isReady w.store) w.threads.size 0 with
  | some t => some (.act t)
  | none =>
    match w.findThread (fun thread => (thread.expired? w.store).isSome) w.threads.size 0 with
    | some t => some (.expire t)
    | none => none

/-- A move, or nothing if it is not possible. -/
def make (w : System) : Move → System
  | .act t => if w.canAct t then w.act t else w
  | m => (w.move? m).getD w

/-- A number of moves of the standard schedule, fewer if the system comes to rest before. -/
def settleWithin : Nat → System → System
  | 0, w => w
  | n + 1, w =>
    match w.next? with
    | none => w
    | some m => settleWithin n (w.make m)

/-- The system at rest. -/
def settle (w : System) : System := w.settleWithin (w.work + 1)

/-- What a thread has come to. -/
def outcome? (w : System) (t : ThreadId) : Option Outcome :=
  (w.thread? t).bind Thread.outcome

/-- The answers of a script that a thread has carried out; none if it is still under way. -/
def replies (w : System) (t : ThreadId) : List Reply :=
  match w.outcome? t with
  | some (.did replies) => replies
  | some o => [o.reply]
  | none => []

end System

end Reclaim

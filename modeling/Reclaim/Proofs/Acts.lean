import Reclaim.Proofs.Beginnings
import Reclaim.Proofs.Stack

/-!
# Acts

What anything that happens to a process does, as far as handles go: which spots it takes away, what
it does to the store, which spots it adds, and what it means for handles.

* `Act` : the acts, one constructor each;
* `Store.Owns`, `Spot.Placed` : what a spot relies on;
* `Command.begin_act` : the start of a command; `Frame.advance_acts` : an action of a frame, which is
  an act and keeps to the discipline of stacks;
* `System.Goes` : one system comes from another by an act; `System.occur_cases`, `System.occur_act` : by an
  event.
-/

namespace Reclaim

namespace Store

/-- There is such a handle. -/
def Known (s : Store) (id : HandleId) : Prop := ∃ e, s.resource? id = some e

/-- The handle was registered with the guard. -/
def Owns (s : Store) (g : GuardId) (id : HandleId) : Prop :=
  ∃ e, s.resource? id = some e ∧ e.guard = g

/-- There is such a guard. -/
def Runs (s : Store) (g : GuardId) : Prop := ∃ x, s.gist? g = some x

/-- The source of the guard can come to hold the handle: any handle if an outsider reaches the
source, and only one that was registered with the guard if not. -/
def Admits (s : Store) (g : GuardId) (id : HandleId) : Prop :=
  ∃ e x, s.resource? id = some e ∧ s.gist? g = some x ∧ (x.exposed = false → e.guard = g)

/-- The handle has been given to a variable. -/
def Named (s : Store) (id : HandleId) : Prop := ∃ name, (name, id) ∈ s.names.handles

theorem Owns.known {s : Store} {g : GuardId} {id : HandleId} (h : s.Owns g id) : s.Known id :=
  h.imp fun _ he => he.1

end Store

/-- What a spot relies on: that there is the guard or the handle that it is about, and that a handle
that the registry or the worker of a guard has to do with was registered there. What a worker has
taken from a source within an outsider's reach can be any handle. -/
def Spot.Placed (s : Store) : Spot → Prop
  | enrolling g | granting g => s.Runs g
  | numbered g id | tracked g id | reporting g id | serving g id => s.Owns g id
  | carried g id => s.Admits g id
  | counted id | asking id | winning id | calling id | won id | lost id | dropped id | queueing id
  | leaking id => s.Known id

/-- The spot of a handle that nobody holds any more. -/
def Entry.leaving (e : Entry) (id : HandleId) : Multiset Spot :=
  if e.owners = 0 ∧ e.users = 0 then {.dropped id} else 0

/-- Acts on a store: the spots that are taken away, the store afterwards, the spots that are added,
and what it means for handles. -/
inductive Act (s : Store) : Multiset Spot → Store → Multiset Spot → History → Prop
  /-- Nothing happens to a handle. -/
  | still {s' : Store} (h : Store.Alike s s') (spots : Multiset Spot) : Act s spots s' spots []
  /-- A guard that can be reached is asked to register something, or put into a variable. -/
  | reach {s' : Store} {g : GuardId} {spot : Spot} (hg : s.Reaches g) (h : Store.Alike s s')
      (hspot : spot = .enrolling g ∨ spot = .granting g) : Act s 0 s' {spot} []
  /-- A new guard starts and is asked to register something, or put into a variable. -/
  | found {s' : Store} {g : GuardId} {x : Gist} {spot : Spot} (hg : s.gist? g = none)
      (hlisted : x.registry = {}) (hwaiting : x.waiting = []) (hint : x.interrupted = false)
      (hrefuses : x.refuses = true → x.exposed = true) (hcounts : x.stats = {} ∧ x.leaks = [])
      (hentry : ∀ id, s'.resource? id = s.resource? id) (hhandles : s'.names.handles = s.names.handles)
      (hruns : s'.runs = s.runs)
      (hgist : ∀ g', s'.gist? g' = if g' = g then some x else s.gist? g')
      (hreaches : ∀ g', s'.Reaches g' → s.Reaches g' ∨ g' = g)
      (hspot : spot = .enrolling g ∨ spot = .granting g) : Act s 0 s' {spot} []
  /-- A guard goes into a variable. -/
  | grant {s' : Store} {g : GuardId} {name : String} (h : Store.Alike (s.bindGuard name g) s') :
      Act s {.granting g} s' 0 []
  /-- A registration is refused. -/
  | refuse {g : GuardId} : Act s {.enrolling g} s 0 []
  /-- A registration gets a handle. -/
  | number (g : GuardId) (r : Registration Command) (f : ReleaseFn) :
      Act s {.enrolling g} (s.allocate g r f).1 {.numbered g (s.allocate g r f).2}
        [((s.allocate g r f).2, .numbered r.address)]
  /-- A handle enters the registry of its guard. -/
  | track {s' : Store} {g : GuardId} {id : HandleId} (h : Store.Touches s s' g (Gist.insert id)) :
      Act s {.numbered g id} s' {.tracked g id} []
  /-- A registration is counted. -/
  | register {s' : Store} {g : GuardId} {id : HandleId}
      (h : Store.Touches s s' g (Gist.count fun c => { c with registered := c.registered + 1 })) :
      Act s {.tracked g id} s' {.counted id} []
  /-- A handle goes into a variable. -/
  | bind {name : String} {id : HandleId} : Act s {.counted id} (s.bindHandle name id) 0 []
  /-- A handle goes into a variable, and a share of the one that was there is given up. -/
  | rebind {s' : Store} {name : String} {id old : HandleId} {e : Entry} (hnamed : s.Named old)
      (he : s.resource? old = some e) (hheld : e.owners ≠ 0)
      (h : Store.Amends (s.bindHandle name id) s' old fun e => { e with owners := e.owners - 1 }) :
      Act s {.counted id} s' (Entry.leaving { e with owners := e.owners - 1 } old) []
  /-- More shares of a handle are held. -/
  | share {s' : Store} {id : HandleId} {e : Entry} (n : Nat) (he : s.resource? id = some e)
      (hheld : e.owners ≠ 0)
      (h : Store.Amends s s' id fun e => { e with owners := e.owners + n }) : Act s 0 s' 0 []
  /-- A share of a handle is given up. -/
  | giveUp {s' : Store} {id : HandleId} {e : Entry} (hnamed : s.Named id)
      (he : s.resource? id = some e) (hheld : e.owners ≠ 0)
      (h : Store.Amends s s' id fun e => { e with owners := e.owners - 1 }) :
      Act s 0 s' (Entry.leaving { e with owners := e.owners - 1 } id) []
  /-- A call to release a handle begins. -/
  | use {s' : Store} {id : HandleId} {e : Entry} (hnamed : s.Named id)
      (he : s.resource? id = some e) (hheld : e.owners ≠ 0)
      (h : Store.Amends s s' id fun e => { e with users := e.users + 1 }) :
      Act s 0 s' {.asking id} []
  /-- A call claims the release of an active handle. -/
  | claim {s' : Store} {id : HandleId} {e : Entry} (he : s.resource? id = some e)
      (hactive : e.state = .active) (h : Store.Claims s s' e.guard id) :
      Act s {.asking id} s' {.winning id} [(id, .claimed .release true)]
  /-- A call finds the handle released. -/
  | lose {id : HandleId} {e : Entry} (he : s.resource? id = some e) (hreleased : e.state = .released) :
      Act s {.asking id} s {.lost id} [(id, .claimed .release false)]
  /-- The call that claimed a handle is counted and goes on to the callback. -/
  | prepare {s' : Store} {id : HandleId} {e : Entry} (he : s.resource? id = some e)
      (h : Store.Touches s s' e.guard (Gist.count fun c => { c with released := c.released + 1 })) :
      Act s {.winning id} s' ({.calling id} + {.won id}) []
  /-- A callback starts. -/
  | call {s' : Store} {id : HandleId} {e : Entry} {thread : ThreadId} (he : s.resource? id = some e)
      (h : Store.Alike (s.beginCall id e thread).1 s') : Act s {.calling id} s' 0 []
  /-- A call that won comes to its end. -/
  | win {s' : Store} {id : HandleId} {e : Entry} (he : s.resource? id = some e)
      (h : Store.Amends s s' id fun e => { e with users := e.users - 1 }) :
      Act s {.won id} s' (if e.users = 1 ∧ e.owners = 0 then {.dropped id} else 0)
        [(id, .returned true)]
  /-- A call that lost comes to its end. -/
  | yield {s' : Store} {id : HandleId} {e : Entry} (he : s.resource? id = some e)
      (h : Store.Amends s s' id fun e => { e with users := e.users - 1 }) :
      Act s {.lost id} s' (if e.users = 1 ∧ e.owners = 0 then {.dropped id} else 0)
        [(id, .returned false)]
  /-- A handle that nobody holds finds itself active. -/
  | miss {id : HandleId} {e : Entry} (he : s.resource? id = some e) (hactive : e.state = .active) :
      Act s {.dropped id} s {.queueing id} []
  /-- A handle that nobody holds finds itself released. -/
  | done {id : HandleId} {e : Entry} (he : s.resource? id = some e) (hreleased : e.state = .released) :
      Act s {.dropped id} s 0 []
  /-- A dropped handle goes into the source of its guard. -/
  | queue {s' : Store} {id : HandleId} {e : Entry} {x : Gist} (he : s.resource? id = some e)
      (hx : s.gist? e.guard = some x) (hint : x.interrupted = false)
      (h : Store.Touches s s' e.guard (Gist.queue id)) : Act s {.queueing id} s' 0 [(id, .queued)]
  /-- The source hands a dropped handle back. -/
  | handBack {id : HandleId} {e : Entry} (he : s.resource? id = some e)
      (hx : ∀ x, s.gist? e.guard = some x → x.interrupted = true ∨ x.refuses = true) :
      Act s {.queueing id} s {.leaking id} [(id, .refused)]
  /-- The leak is offered to the sink. -/
  | leak {s' : Store} {id : HandleId} {e : Entry} (he : s.resource? id = some e)
      (h : Store.Touches s s' e.guard (Gist.leak e.address)) :
      Act s {.leaking id} s' 0 [(id, .leaked)]
  /-- The worker of a guard takes a handle from its source. -/
  | take {s' : Store} {g : GuardId} {id : HandleId} {x : Gist} {rest : List HandleId}
      (hx : s.gist? g = some x) (hwaiting : x.waiting = id :: rest) (hint : x.interrupted = false)
      (h : Store.Touches s s' g Gist.next) : Act s 0 s' {.carried g id} [(id, .taken g)]
  /-- The worker of a guard claims a handle that its guard keeps track of. -/
  | reclaim {s' : Store} {g : GuardId} {id : HandleId} {e : Entry} {x : Gist}
      (he : s.resource? id = some e) (hactive : e.state = .active) (hx : s.gist? g = some x)
      (hlisted : id ∈ x.registry.ids) (h : Store.Claims s s' g id) :
      Act s {.carried g id} s' {.reporting g id} [(id, .claimed (.reclaim g) true)]
  /-- The worker of a guard finds nothing to claim, and counts that. -/
  | discard {s' : Store} {g : GuardId} {id : HandleId} {e : Entry} (he : s.resource? id = some e)
      (hx : ∀ x, s.gist? g = some x → id ∈ x.registry.ids → e.state = .released)
      (h : Store.Touches s s' g (Gist.count fun c => { c with discarded := c.discarded + 1 })) :
      Act s {.carried g id} s' 0 [(id, .claimed (.reclaim g) false)]
  /-- The worker has said what it found and goes on to the callback. -/
  | report {s' : Store} {g : GuardId} {id : HandleId} (h : Store.Alike s s') :
      Act s {.reporting g id} s' ({.calling id} + {.serving g id}) []
  /-- The sink panics at what the worker found. -/
  | abort {s' : Store} {g : GuardId} {id : HandleId} (h : Store.Alike s s') :
      Act s {.reporting g id} s' 0 [(id, .aborted g)]
  /-- The worker counts a callback that has returned. -/
  | succeed {s' : Store} {g : GuardId} {id : HandleId}
      (h : Store.Touches s s' g (Gist.count fun c => { c with reclaimed := c.reclaimed + 1 })) :
      Act s {.serving g id} s' 0 [(id, .settled g false)]
  /-- The worker counts a callback that has panicked. -/
  | fail {s' : Store} {g : GuardId} {id : HandleId}
      (h : Store.Touches s s' g
        (Gist.count fun c => { c with releaseFailures := c.releaseFailures + 1 })) :
      Act s {.serving g id} s' 0 [(id, .settled g true)]
  /-- The source of a guard is interrupted. -/
  | interrupt {s' : Store} {g : GuardId} (h : Store.Touches s s' g Gist.clear) :
      Act s 0 s' 0 (s.thrownAway g)
  /-- An outsider puts the number of a handle into a source within reach. -/
  | inject {s' : Store} {g : GuardId} {id : HandleId} {x : Gist} (hnamed : s.Named id)
      (hx : s.gist? g = some x) (hexposed : x.exposed = true) (hint : x.interrupted = false)
      (h : Store.Touches s s' g (Gist.queue id)) : Act s 0 s' 0 []

/-! ## Commands -/

namespace Store

theorem mem_of_lookup {β : Type} {name : String} {b : β} {xs : List (String × β)}
    (h : xs.lookup name = some b) : (name, b) ∈ xs := by
  obtain ⟨before, after, rfl, -⟩ := List.lookup_eq_some_iff.mp h
  simp

theorem guardNamed_reaches {s : Store} {name : String} {g : GuardId}
    (h : s.guardNamed name = .ok g) : s.Reaches g := by
  unfold guardNamed at h
  split at h
  · next g' hg =>
    cases h
    exact Or.inl ⟨name, mem_of_lookup hg⟩
  · cases h

theorem sourceNamed_exposed {s : Store} {name : String} {g : GuardId}
    (h : s.sourceNamed name = .ok g) :
    s.Reaches g ∧ ∃ x, s.gist? g = some x ∧ x.exposed = true := by
  unfold sourceNamed at h
  split at h
  · cases h
  · next g' hg =>
    split at h
    · next hx =>
      cases h
      refine ⟨guardNamed_reaches hg, ?_⟩
      simp [gist?, hx, Guard.gist]
    · cases h

theorem idNamed_named {s : Store} {name : String} {id : HandleId} (h : s.idNamed name = .ok id) :
    s.Named id := by
  unfold idNamed at h
  split at h
  · next id' hid =>
    cases h
    exact ⟨name, mem_of_lookup hid⟩
  · cases h

theorem handleNamed_held {s : Store} {name : String} {id : HandleId}
    (h : s.handleNamed name = .ok id) :
    s.Named id ∧ ∃ e, s.resource? id = some e ∧ e.owners ≠ 0 := by
  unfold handleNamed at h
  split at h
  · cases h
  · next id' hid =>
    split at h
    · next e he =>
      split at h
      · cases h
      · next hheld =>
        cases h
        exact ⟨⟨name, mem_of_lookup hid⟩, e, he, hheld⟩
    · cases h

end Store

/-- What a command starts with: an answer, or a frame that occupies these spots. -/
def Begin.Starts (spots : Multiset Spot) : Begin → Prop
  | .reply _ => spots = 0
  | .operation frame => frame.spots = spots ∧ frame.callback? = none

/-- The last share has been given up exactly if nobody holds the handle any more. -/
theorem leaving_dropShare {e : Entry} (hheld : e.owners ≠ 0) (id : HandleId) :
    Entry.leaving { e with owners := e.owners - 1 } id =
      if (e.owners == 1 && e.users == 0) = true then {.dropped id} else 0 := by
  unfold Entry.leaving
  have : (e.owners - 1 = 0 ∧ e.users = 0) ↔ (e.owners == 1 && e.users == 0) = true := by
    simp only [Bool.and_eq_true, beq_iff_eq]
    omega
  simp only [this]

/-- Putting a handle's number into a source within reach. -/
theorem Act.of_inject {s : Store} {g : GuardId} {id : HandleId} {x : Gist} (hnamed : s.Named id)
    (hx : s.gist? g = some x) (hexposed : x.exposed = true) :
    Act s 0 (s.enqueue g (.reclaim id)).1 0 [] := by
  obtain ⟨y, hy, hint, -, -, ht⟩ | ⟨hs, -⟩ := s.enqueue_cases g id
  · cases hx.symm.trans hy
    exact .inject hnamed hx hexposed hint ht
  · rw [hs]
    exact .still (.refl s) 0

namespace Command

theorem Beginning.act {s s' : Store} {c : Command} {b : Begin} (h : c.Beginning s s' b) :
    ∃ dst, Act s 0 s' dst (c.marks s) ∧ b.Starts dst := by
  cases h with
  | register _ _ hg | acquire _ _ hg =>
    exact ⟨_, .reach (Store.guardNamed_reaches hg) (.refl s) (.inl rfl), rfl, rfl⟩
  | release via hid =>
    obtain ⟨hnamed, e, he, hheld⟩ := Store.handleNamed_held hid
    exact ⟨_, .use hnamed he hheld (Store.amends_modifyEntry s _ _), rfl, rfl⟩
  | drop hid hlast | part hid hlast =>
    obtain ⟨hnamed, e, he, hheld⟩ := Store.handleNamed_held hid
    obtain ⟨hgone, ha⟩ := Store.dropShare_amends he
    have hact := Act.giveUp hnamed he hheld ha
    rw [leaving_dropShare hheld, ← hgone, hlast] at hact
    first
      | exact ⟨_, hact, rfl, rfl⟩
      | exact ⟨0, hact, rfl⟩
  | inject hg hid =>
    obtain ⟨-, x, hx, hexposed⟩ := Store.sourceNamed_exposed hg
    exact ⟨0, .of_inject (Store.idNamed_named hid) hx hexposed, rfl⟩
  | letThrough n => exact ⟨0, .still (Store.alike_permit s _ _) 0, rfl, rfl⟩
  | interrupt hg =>
    refine ⟨0, ?_, rfl, rfl⟩
    simp only [marks, hg]
    exact .interrupt (Store.touches_interrupt s _)
  | dropGuard => exact ⟨0, .still (Store.alike_forgetGuard s _) 0, rfl, rfl⟩
  | forgetGuard => exact ⟨0, .still (Store.alike_forgetGuard s _) 0, rfl⟩
  | choose | setEnvironment | failOn =>
    refine ⟨0, .still ?_ 0, rfl⟩
    exact ⟨⟨rfl, rfl, fun _ h => h⟩, fun _ => rfl, fun _ => rfl⟩
  | registerProcessWide | flush | shutdown | startGuard | processWide => exact ⟨0, .still (.refl s) 0, rfl, rfl⟩
  | startRefused | chooseLate | chooseRefused | ask => exact ⟨0, .still (.refl s) 0, rfl⟩

/-- The start of a command is an act. -/
theorem begin_act (s : Store) (c : Command) :
    ∃ dst, Act s 0 (c.begin s).1 dst (c.marks s) ∧ (c.begin s).2.Starts dst := by
  obtain hbeginning | ⟨what, hwhat, hbegin⟩ := c.begin_cases s
  · exact hbeginning.act
  · rw [hbegin]
    refine ⟨0, ?_, rfl⟩
    have hm : c.marks s = [] := by
      cases c with
      | interrupt guard =>
        simp only [marks]
        split
        · next g hg => simp [begin?, hg, bind, Except.bind, pure, Except.pure] at hwhat
        · rfl
      | _ => rfl
    rw [hm]
    exact .still (.refl s) 0

end Command

/-! ## Frames -/

/-- The action is an act from the spots of the frame to those that it goes on with, and keeps to the
discipline of stacks. -/
def Frame.Acts (s : Store) (frame : Frame) (r : Store × Progress) : Prop :=
  Act s frame.spots r.1 r.2.spots (frame.marks s) ∧ r.2.Fits frame

/-- The frame stays where it is as far as handles go. -/
theorem Frame.Acts.of_goto {s s' : Store} {frame next : Frame} (hs : Store.Alike s s')
    (hspots : next.spots = frame.spots) (hmarks : frame.marks s = [])
    (hfits : ∀ id, next.callback? = some id → frame.callback? = some id) :
    frame.Acts s (s', .goto next) := by
  refine ⟨?_, hfits⟩
  rw [hmarks]
  simp only [Progress.spots, hspots]
  exact .still hs _

theorem Script.advance_acts (s : Store) (todo : List Command) (done : List Reply) :
    (Frame.commands todo done).Acts s (advance s todo done) := by
  cases todo with
  | nil => exact ⟨.still (.refl s) 0, trivial⟩
  | cons c todo =>
    obtain ⟨dst, hact, hstarts⟩ := c.begin_act s
    cases hb : c.begin s with
    | mk s' b =>
      rw [hb] at hact hstarts
      cases b with
      | reply reply =>
        obtain rfl : dst = 0 := hstarts
        simp only [advance, hb]
        exact ⟨hact, nofun⟩
      | operation frame =>
        obtain ⟨rfl, hc⟩ := hstarts
        simp only [advance, hb]
        refine ⟨?_, ⟨rfl, fun id hid => ?_⟩, nofun⟩
        · rw [Progress.spots_call rfl]
          exact hact
        · rw [hc] at hid
          cases hid

theorem Registration.check_ok {r : Registration Command} {f : ReleaseFn} (h : r.check = .ok f) :
    r.callback = some f := by
  unfold check at h
  split at h
  · cases h
  · next f' hf =>
    split at h
    · cases h
      exact hf
    · cases h

theorem RegisterPoint.advance_acts (s : Store) (q : RegisterRequest) (p : RegisterPoint) :
    (Frame.register q p).Acts s (p.advance s q) := by
  cases p with
  | allocate =>
    cases hc : q.registration.check with
    | error e =>
      simp only [advance, hc, Frame.Acts, Frame.marks]
      exact ⟨.refuse, trivial⟩
    | ok f =>
      simp only [advance, hc, Frame.Acts, Frame.marks]
      exact ⟨.number q.guard q.registration f, nofun⟩
  | track id => exact ⟨.track (s.touches_track _ _), nofun⟩
  | count id =>
    exact ⟨.register ((s.touches_modifyStats _ _).trans (Store.alike_log _ _ _)),
      nofun⟩
  | bind id =>
    cases hold : s.handleNamed q.handle with
    | error what =>
      simp only [advance, hold]
      exact ⟨.bind, nofun⟩
    | ok old =>
      obtain ⟨hnamed, e, he, hheld⟩ := Store.handleNamed_held hold
      have he' : (s.bindHandle q.handle id).resource? old = some e := he
      obtain ⟨hlast, ha⟩ := Store.dropShare_amends he'
      have hact := Act.rebind hnamed he hheld ha
      rw [leaving_dropShare hheld, ← hlast] at hact
      simp only [advance, hold]
      generalize (s.bindHandle q.handle id).dropShare old = r at hact
      obtain ⟨s', last⟩ := r
      cases last
      · exact ⟨hact, nofun⟩
      · refine ⟨?_, ⟨rfl, nofun⟩, nofun⟩
        change Act s _ s' (Progress.call (.drop old .check) (.register q (.dropping id))).spots []
        rw [Progress.spots_call rfl]
        exact hact
  | dropping id => exact .of_goto (.refl s) rfl rfl fun _ h => h
  | report id => exact ⟨.still (.refl s) 0, trivial⟩

/-- The end of a release with the marks of a win or of a loss. -/
theorem endRelease_spots {s : Store} {id : HandleId} {e : Entry} (he : s.resource? id = some e)
    (o : Outcome) :
    Store.Amends s (endRelease s id o).1 id (fun e => { e with users := e.users - 1 }) ∧
      (endRelease s id o).2.spots =
        (if e.users = 1 ∧ e.owners = 0 then {.dropped id} else 0) ∧
      ∀ p, (endRelease s id o).2.Fits (.release id p) := by
  obtain ⟨hlast, ha⟩ := Store.endUse_amends he
  unfold endRelease
  generalize s.endUse id = r at hlast ha
  obtain ⟨s', last⟩ := r
  cases last
  · refine ⟨ha, ?_, fun _ => trivial⟩
    have : ¬(e.users = 1 ∧ e.owners = 0) := by
      rintro ⟨hu, ho⟩
      simp [hu, ho] at hlast
    rw [if_neg this]
    rfl
  · refine ⟨ha, ?_, fun p => ⟨⟨rfl, nofun⟩, nofun⟩⟩
    have : e.users = 1 ∧ e.owners = 0 := by
      simpa using hlast.symm
    rw [if_pos this, Progress.spots_call rfl]
    rfl

/-- The end of a release hands down this outcome. -/
theorem outcome?_endRelease (s : Store) (id : HandleId) (o : Outcome) : (endRelease s id o).2.outcome? = some o := by
  unfold endRelease
  split <;> rfl

theorem Store.returnedBy_lost (s : Store) (id : HandleId) : s.returnedBy id .lost = [(id, .returned false)] := by
  rw [returnedBy, ReleasePoint.advance, outcome?_endRelease]
  rfl

theorem Store.returnedBy_ran (s : Store) (id : HandleId) (panic : Option Panic) :
    s.returnedBy id (.ran panic) = [(id, .returned true)] := by
  rw [returnedBy, ReleasePoint.advance, outcome?_endRelease]
  cases panic <;> rfl

theorem ReleasePoint.advance_acts {s : Store} {id : HandleId} {p : ReleasePoint}
    (hp : ∀ x ∈ (Frame.release id p).spots, x.Placed s) :
    (Frame.release id p).Acts s (p.advance s id) := by
  have hknown : ∃ e, s.resource? id = some e := by
    cases p <;> exact hp _ (Multiset.mem_singleton_self _)
  obtain ⟨e, he⟩ := hknown
  cases p with
  | retire =>
    obtain ⟨hactive, hwon, hclaims⟩ | ⟨hreleased, hlost⟩ := Store.retire_cases he
    · have hact := Act.claim he hactive hclaims
      rw [← hwon] at hact
      unfold advance
      simp only [Frame.Acts, Frame.marks]
      generalize s.retire id = r at hact hwon
      obtain ⟨s', won⟩ := r
      cases won
      · cases hwon
      · exact ⟨hact, nofun⟩
    · simp only [advance, hlost, Frame.Acts, Frame.marks]
      exact ⟨.lose he hreleased, nofun⟩
  | count =>
    have ht : Store.Touches s (s.countReleased id) e.guard
        (Gist.count fun c => { c with released := c.released + 1 }) := by
      simp only [Store.countReleased, he]
      exact (s.touches_modifyStats _ _).trans (Store.alike_log _ _ _)
    exact ⟨.prepare he ht, ⟨rfl, fun _ h => h⟩, nofun⟩
  | running => exact .of_goto (.refl s) rfl rfl fun _ h => h
  | lost =>
    obtain ⟨ha, hspots, hfits⟩ := endRelease_spots he lost.outcome
    refine ⟨?_, hfits lost⟩
    have hact := Act.yield he ha
    rw [← hspots, ← s.returnedBy_lost id] at hact
    exact hact
  | ran panic =>
    obtain ⟨ha, hspots, hfits⟩ := endRelease_spots he (ran panic).outcome
    refine ⟨?_, hfits _⟩
    have hact := Act.win he ha
    rw [← hspots, ← s.returnedBy_ran id panic] at hact
    exact hact

theorem CallbackPoint.advance_acts {thread : ThreadId} {s : Store} {id : HandleId}
    {p : CallbackPoint} (hp : ∀ x ∈ (Frame.callback id p).spots, x.Placed s) :
    (Frame.callback id p).Acts s (p.advance thread s id) := by
  cases p with
  | enter =>
    obtain ⟨e, he⟩ : s.Known id := hp _ (Multiset.mem_singleton_self _)
    have hact : Act s {.calling id} ((s.beginCall id e thread).1.tellProbe e).1 0 [] :=
      .call he (Store.alike_tellProbe _ e)
    simp only [advance, he]
    generalize (s.beginCall id e thread).1.tellProbe e = r at hact
    obtain ⟨s', fails⟩ := r
    cases fails
    · cases e.callback.body with
      | none => exact ⟨hact, trivial⟩
      | some body => exact ⟨hact, ⟨rfl, nofun⟩, fun _ h => h⟩
    · exact ⟨hact, trivial⟩
  | running call => exact .of_goto (.refl s) rfl rfl fun _ h => h
  | ran call replies =>
    simp only [advance]
    split
    · exact ⟨.still (.refl s) 0, trivial⟩
    · exact ⟨.still (Store.alike_endCall s _ _) 0, trivial⟩

theorem DropPoint.advance_acts {s : Store} {id : HandleId} {p : DropPoint}
    (hp : ∀ x ∈ (Frame.drop id p).spots, x.Placed s) :
    (Frame.drop id p).Acts s (p.advance s id) := by
  have hknown : ∃ e, s.resource? id = some e := by
    cases p <;> exact hp _ (Multiset.mem_singleton_self _)
  obtain ⟨e, he⟩ := hknown
  cases p with
  | check =>
    cases hs : e.state with
    | active =>
      simp only [advance, he, Option.map_some, hs]
      exact ⟨.miss he hs, nofun⟩
    | released =>
      simp only [advance, he, Option.map_some, hs]
      exact ⟨.done he hs, trivial⟩
  | enqueue =>
    simp only [advance, he, Frame.Acts, Frame.marks, Store.dropMark]
    obtain ⟨x, hx, hint, -, haccepted, ht⟩ | ⟨hback, hx⟩ := s.enqueue_cases e.guard id
    · generalize s.enqueue e.guard (.reclaim id) = r at ht haccepted
      obtain ⟨s', accepted⟩ := r
      obtain rfl : accepted = true := haccepted
      exact ⟨.queue he hx hint (ht.trans (Store.alike_log _ _ _)), trivial⟩
    · rw [hback]
      exact ⟨.handBack he hx, nofun⟩
  | leak =>
    have hs := s.touches_emit_leak e.guard e.address
    simp only [advance, he]
    generalize s.emit e.guard (.leakedAfterStop e.address) = r at hs
    obtain ⟨s', panic⟩ := r
    cases panic
    · exact ⟨.leak he hs, trivial⟩
    · exact ⟨.leak he hs, trivial⟩

theorem FlushPoint.advance_acts (s : Store) (g : GuardId) (patience : Patience) (gate : GateUse)
    (p : FlushPoint) : (Frame.flush g patience gate p).Acts s (p.advance s g patience gate) := by
  cases p with
  | checkStopped =>
    simp only [advance]
    split
    · exact ⟨.still (.refl s) 0, trivial⟩
    · exact ⟨.still (.refl s) 0, nofun⟩
  | checkInterrupted =>
    simp only [advance]
    split
    · exact ⟨.still (.refl s) 0, trivial⟩
    · exact ⟨.still (.refl s) 0, nofun⟩
  | request =>
    have hs := (s.alike_newAck).trans (Store.alike_enqueue_flush s.newAck.1 g s.newAck.2)
    simp only [advance]
    generalize s.newAck.1.enqueue g (.flush s.newAck.2) = r at hs
    obtain ⟨s', accepted⟩ := r
    cases accepted
    · exact ⟨.still (hs.trans (Store.alike_closeAck _ _)) 0, trivial⟩
    · cases gate
      · exact ⟨.still (hs.trans (Store.alike_permitPending _ _)) 0, nofun⟩
      · exact ⟨.still hs 0, nofun⟩
  | waiting ack =>
    have hs := s.alike_takeAck ack
    simp only [advance]
    generalize s.takeAck ack = r at hs
    obtain ⟨s', answer⟩ := r
    simp only
    split
    · exact ⟨.still hs 0, nofun⟩
    · exact ⟨.still hs 0, trivial⟩

theorem discardNext_acts {x : Frame} (s : Store) (acks : List Nat) {again : List Nat → Frame} {next : Frame}
    (hms : x.marks s = []) (hagain : ∀ acks, (again acks).spots = x.spots ∧ (again acks).callback? = none)
    (hnext : next.spots = x.spots ∧ next.callback? = none) : x.Acts s (discardNext s again next acks) := by
  cases acks with
  | nil => exact .of_goto (.refl s) hnext.1 hms fun id h => by rw [hnext.2] at h; cases h
  | cons k acks =>
    exact .of_goto (Store.alike_closeAck s k) (hagain acks).1 hms fun id h => by rw [(hagain acks).2] at h; cases h

theorem ShutdownPoint.advance_acts (thread : ThreadId) (s : Store) (g : GuardId)
    (p : ShutdownPoint) : (Frame.shutdown g p).Acts s (p.advance thread s g) := by
  cases p with
  | interrupt => exact ⟨.interrupt (s.touches_interrupt g), nofun⟩
  | discarding acks => exact discardNext_acts s acks rfl (fun _ => ⟨rfl, rfl⟩) ⟨rfl, rfl⟩
  | claim =>
    have hs := Store.alike_modifyGuard s g (f := fun x => { x with joinable := false }) fun _ => rfl
    simp only [advance]
    split
    · exact ⟨.still (.refl s) 0, trivial⟩
    · split
      · split
        · exact ⟨.still hs 0, trivial⟩
        · exact ⟨.still hs 0, nofun⟩
      · exact ⟨.still (.refl s) 0, trivial⟩
  | joining =>
    simp only [advance]
    split
    · exact ⟨.still (Store.alike_log s _ _) 0, trivial⟩
    · exact ⟨.still (.refl s) 0, trivial⟩

/-- A new guard over a source that nothing waits in. -/
theorem Act.of_addGuard {s s' : Store} {config : Config} {source : Source} {worker : ThreadId}
    {spot : Spot} (hids : source.queue.ids = []) (hint : source.isInterrupted = false)
    (hrefuses : source.refuses = true → source.gate.isSome = true)
    (hs : ∃ pw, s' = { (s.addGuard config source worker).1 with processWide := pw } ∧
      (pw = s.processWide ∨ pw.running = some s.guards.size))
    (hspot : spot = .enrolling s.guards.size ∨ spot = .granting s.guards.size) :
    Act s 0 s' {spot} [] := by
  obtain ⟨pw, rfl, hpw⟩ := hs
  refine .found (g := s.guards.size) (x := Guard.gist { config, worker, source }) ?_ rfl hids hint
    hrefuses ⟨rfl, rfl⟩ (fun _ => rfl) rfl rfl (s.gist?_addGuard config source worker) ?_ hspot
  · simp [Store.gist?, Store.guard?]
  · rintro g (hname | hrunning)
    · exact Or.inl (Or.inl hname)
    · rcases hpw with rfl | hpw
      · exact Or.inl (Or.inr hrunning)
      · exact Or.inr (Option.some.inj (hrunning.symm.trans hpw))

theorem StartRequest.advance_acts (fresh : ThreadId) (s : Store) (q : StartRequest) :
    (Frame.start q).Acts s (q.advance fresh s) := by
  obtain ⟨hids, hint, hrefuses⟩ := Store.gist_source q.kind q.panicsAt
  exact ⟨.of_addGuard hids hint hrefuses ⟨s.processWide, rfl, Or.inl rfl⟩ (.inr rfl), rfl, rfl⟩

theorem Purpose.advance_acts (fresh : ThreadId) (s : Store) (p : Purpose) :
    (Frame.processWide p).Acts s (p.advance fresh s) := by
  simp only [advance]
  split
  · next g hg =>
    cases p with
    | bind name insists => exact ⟨.reach (Or.inr hg) (.refl s) (.inr rfl), nofun⟩
    | register handle registration => exact ⟨.reach (Or.inr hg) (.refl s) (.inl rfl), nofun⟩
  · split
    · exact ⟨.still (.refl s) 0, trivial⟩
    · obtain ⟨hids, hint, hrefuses⟩ := Store.gist_source .plain none
      cases p with
      | bind name insists =>
        exact ⟨.of_addGuard hids hint hrefuses ⟨_, rfl, Or.inr rfl⟩ (.inr rfl), rfl, rfl⟩
      | register handle registration =>
        exact ⟨.of_addGuard hids hint hrefuses ⟨_, rfl, Or.inr rfl⟩ (.inl rfl), rfl, rfl⟩

theorem bindGuard_acts (s : Store) (name : String) (g : GuardId) :
    (Frame.bindGuard name g).Acts s (bindGuard s name g) := by
  unfold bindGuard
  simp only
  split
  · exact ⟨.grant (.refl _), trivial⟩
  · split
    · exact ⟨.grant (.refl _), trivial⟩
    · exact ⟨.grant (.refl _), ⟨rfl, nofun⟩, nofun⟩

theorem WorkerPoint.advance_acts {s : Store} {g : GuardId} {p : WorkerPoint}
    (hp : ∀ x ∈ (Frame.worker g p).spots, x.Placed s) :
    (Frame.worker g p).Acts s (p.advance s g) := by
  cases p with
  | starting => exact .of_goto (Store.alike_log s _ _) rfl rfl nofun
  | calling =>
    have hs := (s.alike_setWorkerState g .waiting).trans (Store.alike_callNext _ g)
    simp only [advance]
    generalize (s.setWorkerState g .waiting).callNext g = r at hs
    obtain ⟨s', panics⟩ := r
    cases panics
    · exact .of_goto hs rfl rfl nofun
    · exact .of_goto hs rfl rfl nofun
  | polling =>
    simp only [advance, Frame.Acts, Frame.marks, Store.takenBy]
    obtain ⟨id, x, rest, hpoll, hx, hwaiting, hint, ht⟩ | ⟨hpoll, hs⟩ := s.pollNext_cases g
    · generalize s.pollNext g = r at hpoll ht
      obtain ⟨s', poll⟩ := r
      obtain rfl : poll = .item (.reclaim id) := hpoll
      exact ⟨.take hx hwaiting hint ht, nofun⟩
    · generalize s.pollNext g = r at hpoll hs
      obtain ⟨s', poll⟩ := r
      cases poll with
      | item item =>
        cases item with
        | reclaim id => exact absurd rfl (hpoll id)
        | flush ack => exact ⟨.still hs 0, nofun⟩
      | _ => exact ⟨.still hs 0, nofun⟩
  | took item =>
    refine .of_goto (Store.alike_setWorkerState s _ _) ?_ rfl nofun
    cases item <;> rfl
  | processing item =>
    cases item with
    | flush ack => exact .of_goto (Store.alike_answer s ack) rfl rfl nofun
    | reclaim id =>
      obtain ⟨e, -, he, -⟩ := hp _ (Multiset.mem_singleton_self _)
      simp only [advance, Frame.Acts, Frame.marks]
      obtain ⟨x, hx, hlisted, hactive, hwon, hclaims⟩ | ⟨hx, hlost⟩ :=
        Store.takeActive_cases (g := g) he
      · generalize s.takeActive g id = r at hwon hclaims
        obtain ⟨s', won⟩ := r
        obtain rfl : won = true := hwon
        exact ⟨.reclaim he hactive hx hlisted hclaims, nofun⟩
      · rw [hlost]
        exact ⟨.discard he hx ((s.touches_modifyStats g _).trans (Store.alike_log _ _ _)), nofun⟩
  | reporting id =>
    obtain ⟨e, he, -⟩ := hp _ (Multiset.mem_singleton_self _)
    have hs := s.alike_emit g (d := .notProperlyClosed e.address) rfl
    simp only [advance, he, Frame.Acts, Frame.marks, Store.abortedBy]
    generalize s.emit g (.notProperlyClosed e.address) = r at hs
    obtain ⟨s', panic⟩ := r
    cases panic
    · exact ⟨.report hs, ⟨rfl, fun _ h => h⟩, nofun⟩
    · exact ⟨.abort hs, nofun⟩
  | running id => exact .of_goto (.refl s) rfl rfl nofun
  | settling id panic =>
    cases panic with
    | none =>
      exact ⟨.succeed (s.touches_modifyStats g fun c => { c with reclaimed := c.reclaimed + 1 }), nofun⟩
    | some p =>
      exact ⟨.fail (s.touches_modifyStats g fun c =>
        { c with releaseFailures := c.releaseFailures + 1 }), nofun⟩
  | announcing id panic =>
    simp only [advance]
    split
    · exact .of_goto (.refl s) rfl rfl nofun
    · next e he =>
      have hs := s.alike_emit g (d := e.announcement panic) (by cases panic <;> rfl)
      generalize s.emit g (e.announcement panic) = r at hs
      obtain ⟨s', again⟩ := r
      cases again
      · exact .of_goto hs rfl rfl nofun
      · exact .of_goto hs rfl rfl nofun
  | aborted p => exact .of_goto (Store.alike_log s _ _) rfl rfl nofun
  | leaving exit => exact ⟨.interrupt (s.touches_interrupt g), nofun⟩
  | discarding exit acks => exact discardNext_acts s acks rfl (fun _ => ⟨rfl, rfl⟩) ⟨rfl, rfl⟩
  | farewell exit => exact .of_goto (Store.alike_emit s _ rfl) rfl rfl nofun
  | stopping exit =>
    have hs := Store.alike_modifyGuard s g
      (f := fun x => { x with state := .stopped, exit := some exit }) fun _ => rfl
    exact ⟨.still hs 0, trivial⟩

/-- Whatever a frame does is an act and keeps to the discipline of stacks. -/
theorem Frame.advance_acts {thread fresh : ThreadId} {s : Store} {frame : Frame}
    (hp : ∀ x ∈ frame.spots, x.Placed s) : frame.Acts s (frame.advance thread fresh s) := by
  cases frame with
  | commands todo done => exact Script.advance_acts s todo done
  | give outcome => exact ⟨.still (.refl s) 0, trivial⟩
  | rest g reply => exact ⟨.still (.refl s) 0, trivial⟩
  | discard g acks => exact discardNext_acts s acks rfl (fun _ => ⟨rfl, rfl⟩) ⟨rfl, rfl⟩
  | register q p => exact p.advance_acts s q
  | release id p => exact ReleasePoint.advance_acts hp
  | callback id p => exact CallbackPoint.advance_acts hp
  | drop id p => exact DropPoint.advance_acts hp
  | flush g patience gate p => exact p.advance_acts s g patience gate
  | shutdown g p => exact p.advance_acts thread s g
  | start q => exact q.advance_acts fresh s
  | bindGuard name g => exact bindGuard_acts s name g
  | processWide p => exact p.advance_acts fresh s
  | worker g p => exact WorkerPoint.advance_acts hp

/-! ## Events -/

namespace System

/-- The spots of all frames are as they should be. -/
def SpotsPlaced (w : System) : Prop := ∀ x ∈ w.spots, x.Placed w.store

/-- One system comes from another by an act, which means this for handles, and its stacks keep to
their discipline. -/
def Goes (w w' : System) (ms : History) : Prop :=
  w'.Disciplined ∧ ∃ src dst, Act w.store src w'.store dst ms ∧ src ⊆ w.spots ∧
    w'.spots + src = w.spots + dst

/-- One system comes from another without anybody's leaving a spot or taking one. -/
structure Idles (w w' : System) : Prop where
  disciplined : w'.Disciplined
  act : Act w.store 0 w'.store 0 []
  spots : w'.spots = w.spots

theorem Idles.goes {w w' : System} (h : Idles w w') : Goes w w' [] :=
  ⟨h.disciplined, 0, 0, h.act, Multiset.zero_subset _, by rw [h.spots]⟩

section Events
variable {w : System}

/-- A thread whose frame can act does. -/
theorem occur_acting {t : ThreadId} {frame : Frame} (ht : w.acting? t = some frame) :
    w.occur (.move (.act t)) = w.act t := by
  have hyes : w.canAct t = true := canAct_iff.mpr ⟨frame, ht⟩
  simp only [occur, move?, hyes, if_true, Option.getD_some]

/-- A frame that can act carries out its next action. -/
theorem acts_acting (hp : w.SpotsPlaced) {t : ThreadId} {frame : Frame}
    (ht : w.acting? t = some frame) :
    frame.spots ⊆ w.spots ∧ w.occur (.move (.act t)) = w.act t ∧
      (w.act t).store = (frame.advance t w.threads.size w.store).1 ∧
      frame.Acts w.store (frame.advance t w.threads.size w.store) := by
  obtain ⟨name, rest, out, hth, -⟩ := acting?_eq_some ht
  have hsub : frame.spots ⊆ w.spots := fun x hx => mem_tally_acting ht hx
  exact ⟨hsub, occur_acting ht, by rw [act_eq hth], Frame.advance_acts fun x hx => hp x (hsub hx)⟩

/-- A thread whose frame cannot act stays where it is. -/
theorem occur_not_acting {t : ThreadId} (ht : w.acting? t = none) :
    w.occur (.move (.act t)) = w := by
  have hno : w.canAct t = false := by
    rw [Bool.eq_false_iff]
    intro hc
    obtain ⟨frame, hframe⟩ := canAct_iff.mp hc
    rw [ht] at hframe
    cases hframe
  simp [occur, move?, hno]

/-- What holds of every stack, and of all stacks after an action, holds of all stacks after an event. -/
theorem forall_stack_occur {P : List Frame → Prop} (hw : ∀ th ∈ w.threads, P th.stack) (e : Event)
    (hact : ∀ t frame, e = .move (.act t) → w.acting? t = some frame →
      ∀ th ∈ (w.act t).threads, P th.stack)
    (hexpire : ∀ th ∈ w.threads, ∀ g patience gate point rest o,
      th.stack = .flush g patience gate point :: rest → P (th.progress rest (.finish o)).stack)
    (hjoin : ∀ name script, e = .join name script → P [.commands script []]) :
    ∀ th ∈ (w.occur e).threads, P th.stack := by
  cases e with
  | move m =>
    cases m with
    | act t =>
      cases ht : w.acting? t with
      | some frame => exact occur_acting ht ▸ hact t frame rfl ht
      | none => exact (occur_not_acting ht).symm ▸ hw
    | expire t =>
      simp only [occur]
      cases hm : w.move? (.expire t) with
      | none => exact hw
      | some w' => exact forall_stack_expire hw hm hexpire
  | join name script => exact forall_stack_join hw name script (hjoin name script rfl)
  | share id shares =>
    simp only [occur]
    split <;> exact hw
  | inject g id =>
    simp only [occur]
    split <;> exact hw

variable (hw : w.Disciplined)
include hw

theorem Idles.of_act {s : Store} (hact : Act w.store 0 s 0 []) : Idles w { w with store := s } :=
  ⟨hw, hact, rfl⟩

theorem Idles.refl : Idles w w := .of_act hw (.still (.refl _) 0)

/-- The patience of a flush runs out. -/
theorem idles_expire (t : ThreadId) : Idles w (w.occur (.move (.expire t))) := by
  simp only [occur]
  cases hm : w.move? (.expire t) with
  | none => exact .refl hw
  | some w' =>
    obtain ⟨hstore, hspots, hw'⟩ := spots_expire hw hm
    refine ⟨hw', ?_, hspots⟩
    simp only [Option.getD_some, hstore]
    exact .still (.refl _) 0

theorem idles_join (name : ThreadName) (script : List Command) :
    Idles w (w.occur (.join name script)) := by
  obtain ⟨hstore, hspots, hw'⟩ := spots_join hw name script
  refine ⟨hw', ?_, hspots⟩
  rw [hstore]
  exact .still (.refl _) 0

theorem idles_share (id : HandleId) (shares : Nat) : Idles w (w.occur (.share id shares)) := by
  simp only [occur]
  split
  · next hheld =>
    unfold isHeld at hheld
    split at hheld
    · next e he =>
      have hpos : 0 < e.owners := by simpa using hheld
      exact .of_act hw (.share shares he (Nat.pos_iff_ne_zero.mp hpos)
        (Store.amends_modifyEntry _ _ _))
    · cases hheld
  · exact .refl hw

theorem idles_inject (g : GuardId) (id : HandleId) : Idles w (w.occur (.inject g id)) := by
  simp only [occur]
  split
  · next hok =>
    obtain ⟨hknows, hexposed⟩ := Bool.and_eq_true_iff.mp hok
    have hnamed : w.store.Named id := by
      obtain ⟨⟨name, id'⟩, hin, heq⟩ := List.any_eq_true.mp hknows
      obtain rfl : id' = id := by simpa using heq
      exact ⟨name, hin⟩
    unfold isExposed at hexposed
    split at hexposed
    · next x hx =>
      have hgist : w.store.gist? g = some x.gist := by simp [Store.gist?, hx]
      exact .of_act hw (.of_inject hnamed hgist hexposed)
    · cases hexposed
  · exact .refl hw

/-- Whatever happens to a process, a frame carries out its next action, or nobody leaves a spot or
takes one. -/
theorem occur_cases (e : Event) : (∃ t frame, e = .move (.act t) ∧ w.acting? t = some frame) ∨
    (Idles w (w.occur e) ∧ w.marks e = [] ∧ ∀ t, e = .move (.act t) → w.acting? t = none) := by
  cases e with
  | move m =>
    cases m with
    | act t =>
      cases ht : w.acting? t with
      | some frame => exact .inl ⟨t, frame, rfl, ht⟩
      | none =>
        refine .inr ⟨?_, by simp only [marks, ht], ?_⟩
        · rw [occur_not_acting ht]
          exact .refl hw
        · rintro _ ⟨⟩
          exact ht
    | expire t => exact .inr ⟨idles_expire hw t, rfl, nofun⟩
  | join name script => exact .inr ⟨idles_join hw name script, rfl, nofun⟩
  | share id shares => exact .inr ⟨idles_share hw id shares, rfl, nofun⟩
  | inject g id => exact .inr ⟨idles_inject hw g id, rfl, nofun⟩

/-- Whatever happens to a process is an act. -/
theorem occur_act (hp : w.SpotsPlaced) (e : Event) : Goes w (w.occur e) (w.marks e) := by
  obtain ⟨t, frame, rfl, ht⟩ | ⟨hidles, hmarks, -⟩ := occur_cases hw e
  · obtain ⟨hsub, hoccur, hstore, hact, hfits⟩ := acts_acting hp ht
    rw [hoccur]
    refine ⟨disciplined_act hw ht hfits, _, _, ?_, hsub, spots_act hw ht⟩
    simp only [marks, ht, hstore]
    exact hact
  · rw [hmarks]
    exact hidles.goes

end Events

end System

end Reclaim

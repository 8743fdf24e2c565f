import Reclaim.Proofs.Families
import Reclaim.Proofs.Membership
import Reclaim.Proofs.Staff
import Reclaim.Proofs.Work

/-!
# Chains of callbacks

A callback may release other handles, whose callbacks may release others again, and so on, in cycles of
any shape. That comes to an end because a release claims its handle before it runs the callback: a handle
that has been claimed is not released again, so one call starts the callbacks of different handles, each of
which was active before.

* `System.starts` : the callbacks that a thread starts;
* `Frame.IsLink` : what stands on a stack in the midst of a chain; `Frame.advance_links` : and goes on so;
* `Path.opening`, `Path.Closes` : the beginning of a call, or of an item of a worker, and its end;
* `System.Underway` : in between; `System.Underway.step`;
* `System.chains_end` : every call and every item comes to its end.
-/

namespace Reclaim

/-! ## Callbacks that start -/

/-- The handle whose callback has started. -/
def Deed.began? : Deed → Option HandleId
  | began _ id => some id
  | _ => none

/-- The handle whose callback the frame starts next. -/
def Frame.starts : Frame → List HandleId
  | .callback id .enter => [id]
  | _ => []

theorem Frame.deeds_began (s : Store) (path : Path) (p : Progress) (x : Frame) :
    (x.deeds s path p).filterMap Deed.began? = x.starts := by
  have haccepts : ∀ s g item, (Store.accepts s g item).filterMap Deed.began? = [] := by
    intro s g item
    unfold Store.accepts
    split <;> rfl
  have hends : ∀ path id, (p.ends path id).filterMap Deed.began? = [] := by
    intro path id
    unfold Progress.ends
    split <;> rfl
  cases x with
  | commands todo done =>
    cases todo with
    | nil => rfl
    | cons c todo =>
      cases c with
      | inject guard handle =>
        simp only [deeds, starts]
        split
        · exact haccepts _ _ _
        · rfl
      | _ => rfl
  | callback id p =>
    cases p with
    | enter =>
      simp only [deeds, starts, List.filterMap_cons, Deed.began?, hends]
    | running call => rfl
    | ran call replies => exact hends _ _
  | drop id p =>
    cases p with
    | check => rfl
    | enqueue =>
      simp only [deeds, starts]
      split
      · exact haccepts _ _ _
      · rfl
    | leak =>
      simp only [deeds, starts]
      split <;> rfl
  | flush g patience gate p =>
    cases p with
    | request => exact haccepts _ _ _
    | _ => rfl
  | worker g p =>
    cases p with
    | polling =>
      simp only [deeds, starts, Store.handsOut]
      split <;> rfl
    | processing item =>
      cases item with
      | flush ack => rfl
      | reclaim id =>
        simp only [deeds, starts]
        split <;> rfl
    | reporting id | announcing id panic =>
      simp only [deeds, starts]
      split <;> rfl
    | _ => rfl
  | _ => rfl

/-- The runs so far, by handle. -/
def Store.begun (s : Store) : List HandleId := s.runs.map Prod.fst

theorem Store.begun_beginCall (s : Store) (id : HandleId) (e : Entry) (thread : ThreadId) :
    (s.beginCall id e thread).1.begun = s.begun ++ [id] := by
  simp [begun, runs, beginCall]

/-- Only a callback that is about to start adds a run. -/
theorem Act.runs_eq {s s' : Store} {src dst : Multiset Spot} {ms : History} (a : Act s src s' dst ms)
    (h : ∀ id, src ≠ {.calling id}) : s'.runs = s.runs := by
  cases a with
  | call => exact absurd rfl (h _)
  | found _ _ _ _ _ _ _ _ hruns => exact hruns
  | refuse | number | lose | miss | done | handBack | bind => rfl
  | still h | reach _ h | grant h | track h | register h | share _ _ _ h | giveUp _ _ _ h
  | use _ _ _ h | claim _ _ h | prepare _ h | win _ h | yield _ h | queue _ _ _ h | leak _ h
  | take _ _ _ h | reclaim _ _ _ _ h | discard _ _ h | report h | abort h | succeed h | fail h
  | interrupt h | inject _ _ _ _ h | rebind _ _ _ h => exact h.runs

theorem Frame.spots_ne_calling {x : Frame} (h : ∀ id, x ≠ .callback id .enter) (id : HandleId) :
    x.spots ≠ {.calling id} := by
  cases x with
  | register q p | release id' p | drop id' p => cases p <;> simp [spots]
  | callback id' p =>
    cases p with
    | enter => exact absurd rfl (h id')
    | _ => simp [spots]
  | worker g p =>
    cases p with
    | took item | processing item => cases item <;> simp [spots]
    | _ => simp [spots]
  | _ => simp [spots]

/-- What the next action of a frame adds to the runs. -/
theorem Frame.advance_begun {thread fresh : ThreadId} {s : Store} {x : Frame}
    (hp : ∀ y ∈ x.spots, y.Placed s) :
    (x.advance thread fresh s).1.begun = s.begun ++ x.starts := by
  by_cases hx : ∃ id, x = .callback id .enter
  · obtain ⟨id, rfl⟩ := hx
    obtain ⟨e, he⟩ : s.Known id := hp _ (Multiset.mem_singleton_self _)
    have htell : ((s.beginCall id e thread).1.tellProbe e).1.begun = s.begun ++ [id] :=
      (congrArg (List.map Prod.fst) (Store.alike_tellProbe _ e).runs).trans (s.begun_beginCall id e thread)
    simp only [advance, CallbackPoint.advance, he, starts]
    generalize (s.beginCall id e thread).1.tellProbe e = r at htell
    obtain ⟨s', fails⟩ := r
    cases fails
    · cases e.callback.body <;> exact htell
    · exact htell
  · obtain ⟨hact, -⟩ := @advance_acts thread fresh s x hp
    have hne : ∀ id, x ≠ .callback id .enter := fun id h => hx ⟨id, h⟩
    have hnone : x.starts = [] := by
      unfold starts
      split
      · exact absurd rfl (hne _)
      · rfl
    rw [Store.begun, hact.runs_eq fun id => spots_ne_calling hne id, hnone, List.append_nil, Store.begun]

namespace System

/-- The callbacks that an event starts. -/
def begins (w : System) (e : Event) : List HandleId := (w.deeds e).filterMap Deed.began?

/-- The callbacks that a thread starts, by handle and in order. -/
def starts (w : System) (t : ThreadId) : List Event → List HandleId
  | [] => []
  | e :: es => (if e.isTurn t then w.begins e else []) ++ (w.occur e).starts t es

theorem starts_snoc (w : System) (t : ThreadId) (es : List Event) (e : Event) :
    w.starts t (es ++ [e]) = w.starts t es ++ if e.isTurn t then (w.after es).begins e else [] := by
  induction es generalizing w with
  | nil => simp [starts, after]
  | cons e' es ih => simp only [List.cons_append, starts, after, ih, List.append_assoc]

theorem begins_acting {w : System} {t : ThreadId} {frame : Frame} (ht : w.acting? t = some frame) :
    w.begins (.move (.act t)) = frame.starts := by
  simp only [begins, deeds, ht, Frame.deeds_began]

/-- The callbacks that an event starts are the runs that it adds. -/
theorem Orderly.begun_occur {w : System} {h : History} (hw : w.Orderly h) (e : Event) :
    (w.occur e).store.begun = w.store.begun ++ w.begins e := by
  obtain ⟨t, frame, rfl, ht⟩ | ⟨hidles, -, hnone⟩ := occur_cases hw.1 e
  · obtain ⟨hsub, hoccur, hstore, -⟩ := acts_acting hw.2.spots ht
    rw [hoccur, hstore, begins_acting ht]
    exact Frame.advance_begun fun x hx => hw.2.spots x (hsub hx)
  · have hruns := hidles.act.runs_eq fun id => (Multiset.singleton_ne_zero _).symm
    have hbeginning : w.begins e = [] := by
      cases e with
      | move m =>
        cases m with
        | act t => simp only [begins, deeds, hnone t rfl, List.filterMap_nil]
        | expire t => rfl
      | join | share => rfl
      | inject g id =>
        simp only [begins, deeds, Store.accepts]
        repeat' split
        all_goals rfl
    rw [Store.begun, hruns, hbeginning, List.append_nil, Store.begun]

/-- What a thread starts is among the runs that are added. -/
theorem Orderly.starts_sublist {w : System} {h : History} (hw : w.Orderly h) (t : ThreadId)
    (es : List Event) : (w.store.begun ++ w.starts t es).Sublist (w.after es).store.begun := by
  induction es generalizing w h with
  | nil =>
    rw [starts, List.append_nil]
    exact List.Sublist.refl _
  | cons e es ih =>
    refine List.Sublist.trans ?_ (ih (hw.step e))
    rw [hw.begun_occur e, starts, ← List.append_assoc]
    refine List.Sublist.append_right (List.Sublist.append_left ?_ _) _
    split
    · exact List.Sublist.refl _
    · exact List.nil_sublist _

/-- No callback starts twice. -/
theorem Regular.begun_nodup {w : System} {h : History} (hr : w.Regular h) (hw : w.Orderly h) :
    w.store.begun.Nodup := by
  rw [List.nodup_iff_count_le_one]
  intro id
  by_cases hin : id ∈ w.store.begun
  · obtain ⟨⟨id', a⟩, hrun, rfl⟩ := List.mem_map.mp hin
    obtain ⟨e, he, -⟩ := hw.2.runs id' a hrun
    obtain ⟨x, hx⟩ := hw.2.entries id' e he
    have hle := (hr id' e x he hx).runs_le_released
    have hlisted := (hr id' e x he hx).sound.listed
    have hruns : (w.life h id' e x).runs = w.store.begun.count id' := rfl
    simp only
    omega
  · rw [List.count_eq_zero_of_not_mem hin]
    exact Nat.zero_le 1

end System

/-! ## Links -/

/-- Nobody had claimed the handle. -/
def Store.Unclaimed (s : Store) (id : HandleId) : Prop := ∀ e, s.resource? id = some e → e.state = .active

/-- The item of a worker is about a handle of the family, and has been claimed since the start, if at
all. -/
def WorkerPoint.IsLink (F : Family) (start s : Store) : WorkerPoint → Prop
  | took (.reclaim id) | processing (.reclaim id) => s.Linked F id
  | reporting id => s.Linked F id ∧ start.Unclaimed id
  | running _ | settling _ _ | announcing _ _ | aborted _ => True
  | _ => False

/-- What stands on a stack in the midst of a chain: handles of the family that have been claimed since the
start, if at all, and a worker's own item. -/
def Frame.IsLink (F : Family) (start s : Store) : Frame → Prop
  | .commands todo _ => todo.all (Command.isLink F) = true
  | .register .. | .processWide (.register ..) => F.registers = true
  | .release id .retire => s.Linked F id
  | .release id .count | .callback id _ => s.Linked F id ∧ start.Unclaimed id
  | .release .. | .drop .. | .give _ => True
  | .worker _ p => p.IsLink F start s
  | _ => False

section Links
variable {F : Family} {start s : Store}

theorem WorkerPoint.IsLink.extends {s' : Store} (hs : s.Extends s') {p : WorkerPoint}
    (hp : p.IsLink F start s) : p.IsLink F start s' := by
  cases p with
  | took item | processing item =>
    cases item with
    | reclaim id => exact hs.linked hp
    | flush => exact hp
  | reporting id => exact ⟨hs.linked hp.1, hp.2⟩
  | _ => exact hp

theorem Frame.IsLink.extends {s' : Store} (hs : s.Extends s') {x : Frame} (hx : x.IsLink F start s) :
    x.IsLink F start s' := by
  cases x with
  | release id p =>
    cases p with
    | retire => exact hs.linked hx
    | count => exact ⟨hs.linked hx.1, hx.2⟩
    | _ => trivial
  | callback id p => exact ⟨hs.linked hx.1, hx.2⟩
  | processWide p => cases p <;> exact hx
  | worker g p => exact WorkerPoint.IsLink.extends hs hx
  | _ => exact hx

theorem Frame.IsLink.receive {x : Frame} (hx : x.IsLink F start s) (o : Outcome) :
    (x.receive o).IsLink F start s := by
  fun_cases Frame.receive x o with
  | case1 => exact hx
  | _ => trivial

/-- A link can go on, unless it waits for another frame. -/
theorem Frame.IsLink.ready {x : Frame} (hx : x.IsLink F start s) (hblocked : x.isBlocked = false) :
    x.isReady s = true := by
  cases x with
  | register q p | release id p | callback id p => cases p <;> first | rfl | cases hblocked
  | worker g p =>
    cases p with
    | polling => exact hx.elim
    | running id => cases hblocked
    | _ => rfl
  | flush | rest | shutdown => exact hx.elim
  | _ => rfl

/-- What is active now had not been claimed at the start. -/
theorem Store.Extends.unclaimed (hs : start.Extends s) {id : HandleId} {e : Entry}
    (he : s.resource? id = some e) (hactive : e.state = .active) : start.Unclaimed id := by
  intro e₀ he₀
  obtain ⟨e', he', hl⟩ := hs.entry id e₀ he₀
  cases he.symm.trans he'
  cases hstate : e₀.state with
  | active => rfl
  | released =>
    rw [hl.released hstate] at hactive
    cases hactive

theorem Command.Beginning.links (hs : s.Loyal F) {c : Command} {s' : Store} {frame : Frame}
    (h : c.Beginning s s' (.operation frame)) (hc : c.isLink F = true) (hextends : s.Extends s') :
    frame.IsLink F start s' := by
  cases h with
  | register | registerProcessWide | acquire => exact hc
  | release via hid => exact hextends.linked (hs.handleNamed hc hid)
  | drop => trivial
  | _ => cases hc

section Advance
variable {thread fresh : ThreadId} (hstart : start.Extends s)

include hstart in
/-- A release claims its handle, and then runs the callback. -/
theorem ReleasePoint.advance_links {id : HandleId} {p : ReleasePoint} (hx : (Frame.release id p).IsLink F start s)
    (hblocked : (Frame.release id p).isBlocked = false) (hextends : s.Extends (p.advance s id).1) :
    ∀ y ∈ (p.advance s id).2.onto [], y.IsLink F start (p.advance s id).1 := by
  cases p with
  | retire =>
    obtain ⟨e, he, hlink⟩ := hx
    simp only [advance] at hextends ⊢
    obtain ⟨hactive, hwon, -⟩ | ⟨-, hlost⟩ := Store.retire_cases he
    · generalize s.retire id = r at hwon hextends
      obtain ⟨s', won⟩ := r
      obtain rfl : won = true := hwon
      exact List.forall_mem_singleton.mpr ⟨hextends.linked ⟨e, he, hlink⟩, hstart.unclaimed he hactive⟩
    · rw [hlost]
      simp [Progress.onto, Frame.IsLink]
  | count =>
    refine List.forall_mem_cons.mpr ⟨⟨hextends.linked hx.1, hx.2⟩, ?_⟩
    simp [Frame.IsLink]
  | running => cases hblocked
  | lost | ran panic =>
    simp only [advance, endRelease]
    split <;> simp [Progress.onto, Frame.IsLink]

/-- A callback of the family runs commands that are links. -/
theorem CallbackPoint.advance_links {id : HandleId} {p : CallbackPoint} (hx : (Frame.callback id p).IsLink F start s)
    (hblocked : (Frame.callback id p).isBlocked = false) (hextends : s.Extends (p.advance thread s id).1) :
    ∀ y ∈ (p.advance thread s id).2.onto [], y.IsLink F start (p.advance thread s id).1 := by
  cases p with
  | enter =>
    have hcallback : ∀ s', s.Extends s' → s'.Linked F id ∧ start.Unclaimed id := fun s' h =>
      ⟨h.linked hx.1, hx.2⟩
    obtain ⟨e, he, hlink⟩ := hx.1
    simp only [advance, he] at hextends ⊢
    generalize (s.beginCall id e thread).1.tellProbe e = r at hextends ⊢
    obtain ⟨s', fails⟩ := r
    cases fails with
    | true => simp [Progress.onto]
    | false =>
      unfold Callback.isLink at hlink
      cases hbody : e.callback.body with
      | none => simp [Progress.onto]
      | some body =>
        simp only [hbody] at hlink hextends
        exact List.forall_mem_cons.mpr ⟨hlink, List.forall_mem_singleton.mpr (hcallback s' hextends)⟩
  | running => cases hblocked
  | ran call replies =>
    simp only [advance]
    split <;> simp [Progress.onto]

include hstart in
/-- A worker claims the handle of its item, and then runs the callback, unless it is done with the item. -/
theorem WorkerPoint.advance_links {g : GuardId} {p : WorkerPoint} (hx : (Frame.worker g p).IsLink F start s)
    (hblocked : (Frame.worker g p).isBlocked = false) (hend : (p.advance s g).2 ≠ .goto (.worker g .calling))
    (hextends : s.Extends (p.advance s g).1) :
    ∀ y ∈ (p.advance s g).2.onto [], y.IsLink F start (p.advance s g).1 := by
  cases p with
  | took item =>
    cases item with
    | reclaim id => exact List.forall_mem_singleton.mpr (hextends.linked hx)
    | flush => exact hx.elim
  | processing item =>
    cases item with
    | flush => exact hx.elim
    | reclaim id =>
      obtain ⟨e, he, hlink⟩ := hx
      simp only [advance] at hextends hend ⊢
      obtain ⟨-, -, -, hactive, hwon, -⟩ | ⟨-, hlost⟩ := Store.takeActive_cases (g := g) he
      · generalize s.takeActive g id = r at hwon hextends
        obtain ⟨s', won⟩ := r
        obtain rfl : won = true := hwon
        exact List.forall_mem_singleton.mpr ⟨hextends.linked ⟨e, he, hlink⟩, hstart.unclaimed he hactive⟩
      · rw [hlost] at hend
        exact absurd rfl hend
  | reporting id =>
    have hcallback : ∀ s', s.Extends s' → s'.Linked F id ∧ start.Unclaimed id := fun s' h =>
      ⟨h.linked hx.1, hx.2⟩
    obtain ⟨e, he, -⟩ := hx.1
    simp only [advance, he] at hextends ⊢
    generalize s.emit g (.notProperlyClosed e.address) = r at hextends ⊢
    obtain ⟨s', panic⟩ := r
    cases panic with
    | some p => simp [Progress.onto, Frame.IsLink, IsLink]
    | none =>
      refine List.forall_mem_cons.mpr ⟨hcallback s' hextends, ?_⟩
      simp [Frame.IsLink, IsLink]
  | running => cases hblocked
  | settling id panic => cases panic <;> simp [advance, Progress.onto, Frame.IsLink, IsLink]
  | announcing id panic =>
    simp only [advance] at hend ⊢
    split
    · next hnone =>
      simp only [hnone] at hend
      exact absurd rfl hend
    · next e he =>
      simp only [he] at hend
      generalize s.emit g (e.announcement panic) = r at hend
      obtain ⟨s', again⟩ := r
      cases again with
      | some p => simp [Progress.onto, Frame.IsLink, IsLink]
      | none => exact absurd rfl hend
  | aborted p => exact absurd rfl hend
  | _ => exact hx.elim

include hstart in
/-- A link goes on with links; only a worker can come to the end of its item instead. -/
theorem Frame.advance_links (hs : s.Loyal F) {x : Frame} (hp : ∀ y ∈ x.spots, y.Placed s) (hx : x.IsLink F start s)
    (hblocked : x.isBlocked = false) (hend : ∀ g, (x.advance thread fresh s).2 ≠ .goto (.worker g .calling)) :
    ∀ y ∈ (x.advance thread fresh s).2.onto [], y.IsLink F start (x.advance thread fresh s).1 := by
  have hextends := (@advance_acts thread fresh s x hp).1.extends
  cases x with
  | commands todo done =>
    cases todo with
    | nil => simp [advance, Script.advance, Progress.onto]
    | cons c todo =>
      obtain ⟨hc, htodo⟩ := Bool.and_eq_true_iff.mp ((List.all_cons ..).symm.trans hx)
      simp only [advance, Script.advance] at hextends ⊢
      cases hb : c.begin s with
      | mk s' b =>
        rw [hb] at hextends
        cases b with
        | reply reply => exact List.forall_mem_singleton.mpr htodo
        | operation frame =>
          exact List.forall_mem_cons.mpr ⟨(Command.beginning_operation hb).links hs hc hextends,
            List.forall_mem_singleton.mpr htodo⟩
  | give o => simp [advance, Progress.onto]
  | register q p =>
    cases p with
    | dropping => cases hblocked
    | _ =>
      simp only [advance, RegisterPoint.advance]
      repeat' split
      all_goals simp [Progress.onto, IsLink, show F.registers = true from hx]
  | processWide p =>
    cases p with
    | bind => exact hx.elim
    | register handle r =>
      simp only [advance, Purpose.advance, Purpose.frame]
      repeat' split
      all_goals simp [Progress.onto, IsLink, show F.registers = true from hx]
  | release id p => exact ReleasePoint.advance_links hstart hx hblocked hextends
  | callback id p => exact CallbackPoint.advance_links hx hblocked hextends
  | drop id p =>
    cases p <;> simp only [advance, DropPoint.advance] <;> repeat' split
    all_goals simp [Progress.onto, IsLink]
  | worker g p => exact WorkerPoint.advance_links hstart hx hblocked (hend g) hextends
  | _ => exact hx.elim

end Advance

/-- The item of a worker does not end its thread. -/
theorem WorkerPoint.advance_ne_finish {g : GuardId} {p : WorkerPoint} (hp : p.IsLink F start s)
    (o : Outcome) : (p.advance s g).2 ≠ .finish o := by
  intro h
  cases p with
  | took item | processing item =>
    cases item with
    | reclaim id =>
      simp only [advance] at h
      try split at h
      all_goals cases h
    | flush => exact hp.elim
  | settling id panic => cases panic <;> cases h
  | running | aborted => cases h
  | reporting id | announcing id panic =>
    simp only [advance] at h
    repeat' split at h
    all_goals cases h
  | _ => exact hp.elim

end Links

/-! ## How deep -/

/-- Whether the frame is a callback that has started. -/
def Frame.isInside : Frame → Bool
  | .callback _ (.running _) | .callback _ (.ran ..) => true
  | _ => false

/-- How many callbacks stand one above the other, the one that is about to start included. -/
def depth (fs : List Frame) : Nat := fs.countP fun x => x.callback?.isSome

theorem Frame.inside_receive (x : Frame) (o : Outcome) (h : (x.receive o).isInside = true) :
    x.isInside = true := by
  unfold receive at h
  split at h
  all_goals first
    | rfl
    | cases h

/-- A progress puts no more callbacks that have started above others than it does on its own. -/
theorem Progress.inside_onto (p : Progress) (fs : List Frame) :
    (p.onto fs).countP Frame.isInside ≤ (p.onto []).countP Frame.isInside + fs.countP Frame.isInside := by
  cases p with
  | goto x | spawn name y x =>
    simp only [onto, List.countP_cons, List.countP_nil]
    omega
  | call x y =>
    simp only [onto, List.countP_cons, List.countP_nil]
    omega
  | finish o =>
    cases fs with
    | nil => exact Nat.le_add_right _ _
    | cons y fs =>
      simp only [onto, List.countP_cons, List.countP_nil]
      have := y.inside_receive o
      split
      · next h => simp [this h]
      · omega

theorem Command.Beginning.inside {s s' : Store} {c : Command} {frame : Frame}
    (h : c.Beginning s s' (.operation frame)) : frame.isInside = false := by
  cases h <;> rfl

/-- Only a callback that starts adds one. -/
theorem Frame.advance_inside (thread fresh : ThreadId) (s : Store) (x : Frame) :
    ((x.advance thread fresh s).2.onto []).countP isInside ≤
      [x].countP isInside + x.starts.length := by
  cases x with
  | commands todo done =>
    cases todo with
    | nil => simp [advance, Script.advance, Progress.onto]
    | cons c todo =>
      simp only [advance, Script.advance]
      cases hb : c.begin s with
      | mk s' b =>
        cases b with
        | reply reply => simp [Progress.onto, isInside]
        | operation frame =>
          have hframe := (Command.beginning_operation hb).inside
          have hrest : (commands todo done).isInside = false := rfl
          simp [Progress.onto, List.countP_cons, hframe, hrest]
  | callback id p =>
    cases p with
    | enter =>
      simp only [advance, CallbackPoint.advance]
      repeat' split
      all_goals simp [Progress.onto, isInside, starts]
    | running call => simp [advance, CallbackPoint.advance, Progress.onto, isInside]
    | ran call replies =>
      simp only [advance, CallbackPoint.advance]
      split <;> simp [Progress.onto]
  | give | rest => simp [advance, Progress.onto]
  | discard g acks => cases acks <;> simp [advance, discardNext, Progress.onto, isInside]
  | start q => simp [advance, StartRequest.advance, Progress.onto, isInside]
  | bindGuard name g =>
    simp only [advance, Reclaim.bindGuard]
    repeat' split
    all_goals simp [Progress.onto, isInside]
  | processWide p =>
    simp only [advance, Purpose.advance]
    repeat' split
    all_goals cases p <;> simp [Progress.onto, Purpose.frame, isInside]
  | register _ p | release _ p | drop _ p | shutdown _ p | flush _ _ _ p | worker _ p =>
    cases p <;> simp only [advance, RegisterPoint.advance, ReleasePoint.advance, endRelease,
      DropPoint.advance, ShutdownPoint.advance, FlushPoint.advance, WorkerPoint.advance, discardNext] <;>
      repeat' split
    all_goals simp [Progress.onto, isInside]

/-- Below the top, every frame waits. -/
theorem Stacked.all_wait {x : Frame} {fs : List Frame} (hs : Stacked (x :: fs)) :
    ∀ y ∈ fs, y.waits = true := by
  induction fs generalizing x with
  | nil => exact fun _ hin => absurd hin List.not_mem_nil
  | cons z fs ih => exact List.forall_mem_cons.mpr ⟨hs.waits z rfl, ih hs.2⟩

/-- Below the top, every callback has started. -/
theorem depth_le {x : Frame} {fs : List Frame} (hwait : ∀ y ∈ fs, y.waits = true) :
    depth (x :: fs) ≤ (x :: fs).countP Frame.isInside + x.starts.length := by
  have hbelow : depth fs ≤ fs.countP Frame.isInside := by
    refine List.countP_mono_left fun y hy hc => ?_
    have hwaits := hwait y hy
    cases y with
    | callback id p => cases p <;> first | rfl | cases hwaits
    | _ => cases hc
  have htop : depth [x] ≤ [x].countP Frame.isInside + x.starts.length := by
    cases x with
    | callback id p => cases p <;> exact Nat.le_refl 1
    | _ => exact Nat.zero_le _
  simp only [depth, List.countP_cons, List.countP_nil] at hbelow htop ⊢
  omega

/-! ## The frame at the bottom -/

/-- What kind of frame stands at the bottom. -/
def bottomKind (fs : List Frame) : Option Kind := fs.getLast?.map Frame.kind

theorem Progress.bottom_onto {x : Frame} {fs rest : List Frame} {p : Progress}
    (hn : Nested (x :: (fs ++ rest))) (hs : Stacked (x :: (fs ++ rest))) (hp : p.Keeps x)
    (hne : p.onto fs ≠ []) : bottomKind (p.onto fs) = bottomKind (x :: fs) := by
  cases fs with
  | nil =>
    cases p with
    | goto y => exact congrArg some hp
    | call y z => exact congrArg some hp.2
    | spawn name y z => exact congrArg some hp
    | finish o => exact absurd rfl hne
  | cons y fs =>
    cases p with
    | goto z | call z z' | spawn name z' z => simp [onto, bottomKind]
    | finish o =>
      cases fs with
      | nil =>
        have hkind : (y.receive o).kind = y.kind :=
          Frame.kind_receive (hs.waits y rfl) fun hy => hp (hn.1.2 _ hy)
        exact congrArg some hkind
      | cons z fs => simp [onto, bottomKind]

/-! ## From the beginning to the end -/

/-- What a thread begins with when it is to release a handle, for a call or as the worker of a guard. -/
def Path.opening (path : Path) (id : HandleId) : Frame :=
  match path with
  | .release => .release id .retire
  | .reclaim g => .worker g (.took (.reclaim id))

/-- The handle that the frame is about to release, for a call. -/
def Frame.released? : Frame → Option HandleId
  | .release id .retire => some id
  | _ => none

theorem Frame.released?_eq_some {x : Frame} {id : HandleId} :
    x.released? = some id ↔ x = Path.release.opening id := by
  unfold released?
  split
  · simp [Path.opening]
  · next hne => exact ⟨(fun h => by cases h), fun h => absurd h (hne id)⟩

/-- The thread has come to the end of that: the call has handed down what it has come to, or the worker is
about to call for another item. -/
def Path.Closes (path : Path) (th : Thread) (rest : List Frame) (th' : Thread) : Prop :=
  match path with
  | .release => ∃ o, th' = th.deliver o rest
  | .reclaim g => th' = th.on (.worker g .calling :: rest)

theorem Path.Closes.depth_eq_zero {path : Path} {th : Thread} {rest fs : List Frame}
    (h : path.Closes th rest (th.on (fs ++ rest))) : depth fs = 0 := by
  cases path with
  | release =>
    obtain ⟨o, ho⟩ := h
    have hlength := congrArg (fun th : Thread => th.stack.length) ho
    have hnil : fs = [] := by
      cases rest <;> simpa [Thread.on, Thread.deliver] using hlength
    rw [hnil]
    rfl
  | reclaim g =>
    have hstack : fs ++ rest = [.worker g .calling] ++ rest := congrArg Thread.stack h
    rw [List.append_cancel_right hstack]
    rfl

namespace System

/-- A thread has come to the end of its call, or of its item. -/
def Closed (w : System) (t : ThreadId) (th : Thread) (path : Path) (rest : List Frame) : Prop :=
  ∃ th', w.thread? t = some th' ∧ path.Closes th rest th'

/-- A thread is in the midst of its call, or of its item, with these frames above those that were below
from the beginning. -/
structure Underway (w : System) (F : Family) (start : Store) (t : ThreadId) (th : Thread) (path : Path)
    (rest fs : List Frame) : Prop where
  stack : w.thread? t = some (th.on (fs ++ rest))
  nonempty : fs ≠ []
  links : ∀ x ∈ fs, x.IsLink F start w.store
  bottom : ∀ g, bottomKind fs = some (.worker g) ↔ path = .reclaim g

section Underway
variable {w : System} {h : History} {F : Family} {start : Store} {t : ThreadId} {th : Thread} {path : Path}
  {rest fs : List Frame}

/-- Until it has come to the end, the thread can act. -/
theorem Underway.acting (hu : w.Underway F start t th path rest fs) (ha : w.Awake) :
    ∃ x fs', fs = x :: fs' ∧ w.acting? t = some x ∧ x.isBlocked = false := by
  obtain ⟨x, fs', rfl⟩ := List.exists_cons_of_ne_nil hu.nonempty
  have hblocked : x.isBlocked = false := ha _ (thread?_mem hu.stack) x rfl
  have hready := (hu.links x (by simp)).ready hblocked
  refine ⟨x, fs', rfl, ?_, hblocked⟩
  have hstack := hu.stack
  simp only [Thread.on, List.cons_append] at hstack
  simp only [acting?, hstack, hready, if_true]

/-- Whatever happens, the thread stays in the midst of its call, or comes to the end of it; callbacks that
have started are added above only as they start. -/
theorem Underway.step (hu : w.Underway F start t th path rest fs) (hm : w.Manned h) (ha : w.Awake)
    (hl : w.Loyal F) (hstart : start.Extends w.store) (e : Event) :
    (w.occur e).Closed t th path rest ∨ ∃ fs', (w.occur e).Underway F start t th path rest fs' ∧
      fs'.countP Frame.isInside ≤ fs.countP Frame.isInside +
        (if e.isTurn t then w.begins e else []).length := by
  obtain ⟨x, fs', rfl, ht, hblocked⟩ := hu.acting ha
  obtain ⟨src, dst, hact, -⟩ := hm.orderly.occur e
  have hnested := hm.nested _ (thread?_mem hu.stack)
  have hstacked := hm.orderly.1 _ (thread?_mem hu.stack)
  have hx := hu.links x (by simp)
  obtain ⟨frame, rest', rfl, ht', hstack, hth'⟩ | ⟨g, gate, ack, rest', rfl, hstack, -⟩ | ⟨hth', -⟩ :=
    thread?_occur hu.stack e
  · -- its turn
    cases ht.symm.trans ht'
    obtain rfl : rest' = fs' ++ rest := (List.cons.inj hstack).2.symm
    obtain ⟨hsub, hoccur, hstore, -⟩ := acts_acting hm.orderly.2.spots ht
    have hkeeps := (x.advance_goes t w.threads.size w.store).keeps
    have hlinks := @Frame.advance_links F start w.store t w.threads.size hstart hl.store x
      (fun y hy => hm.orderly.2.spots y (hsub hy)) hx hblocked
    rw [← hstore, ← hoccur] at hlinks
    have hinside := x.advance_inside t w.threads.size w.store
    rw [if_pos (show Event.isTurn t (.move (.act t)) = true from beq_self_eq_true t), begins_acting ht]
    have hfinish : ∀ g p o, x = .worker g p →
        (x.advance t w.threads.size w.store).2 ≠ .finish o := by
      rintro g p o rfl
      exact WorkerPoint.advance_ne_finish hx o
    generalize (x.advance t w.threads.size w.store).2 = p at hkeeps hlinks hinside hfinish hth'
    by_cases hcalling : ∃ g, p = .goto (.worker g .calling)
    · -- a worker's own frame has nothing below it
      obtain ⟨g, rfl⟩ := hcalling
      obtain ⟨q, rfl⟩ := Frame.kind_eq_worker (show x.kind = .worker g from Eq.symm hkeeps)
      obtain ⟨rfl, rfl⟩ := List.append_eq_nil_iff.mp hnested.worker
      obtain rfl := (hu.bottom g).mp rfl
      exact .inl ⟨_, hth', rfl⟩
    · by_cases honto : p.onto fs' = []
      · obtain ⟨rfl, o, rfl⟩ := Progress.onto_eq_nil honto
        cases path with
        | release =>
          refine .inl ⟨_, hth', o, ?_⟩
          cases rest <;> rfl
        | reclaim g =>
          obtain ⟨q, rfl⟩ := Frame.kind_eq_worker (Option.some.inj ((hu.bottom g).mpr rfl))
          exact absurd rfl (hfinish g q o rfl)
      · refine .inr ⟨p.onto fs', ⟨?_, honto, ?_, fun g => ?_⟩, ?_⟩
        · rw [hth', Thread.progress_append th _ _ honto]
        · exact Progress.forall_onto (hlinks fun g hg => hcalling ⟨g, hg⟩)
            (fun y hy => (hu.links y (List.mem_cons_of_mem x hy)).extends hact.extends)
            fun y o hy => hy.receive o
        · rw [Progress.bottom_onto hnested hstacked hkeeps honto]
          exact hu.bottom g
        · have := p.inside_onto fs'
          simp only [List.countP_cons, List.countP_nil] at hinside ⊢
          omega
  · -- a flush is no link
    obtain rfl := (List.cons.inj hstack).1
    exact hx.elim
  · exact .inr ⟨x :: fs', ⟨hth', hu.nonempty, fun y hy => (hu.links y hy).extends hact.extends, hu.bottom⟩,
      Nat.le_add_right _ _⟩

end Underway

end System

/-! ## How many -/

namespace Store

/-- The active handles of some guards. -/
def actives (s : Store) (G : GuardId → Bool) : List HandleId :=
  ((List.range s.entries.size).map fun i => ⟨i + 1⟩).filter fun id =>
    match s.resource? id with
    | some e => e.state == .active && G e.guard
    | none => false

theorem mem_actives {s : Store} {G : GuardId → Bool} {id : HandleId} {e : Entry}
    (he : s.resource? id = some e) (hactive : e.state = .active) (hguard : G e.guard = true) :
    id ∈ s.actives G := by
  obtain ⟨hpos, hle⟩ := Known.number_le ⟨e, he⟩
  refine List.mem_filter.mpr ⟨List.mem_map.mpr ⟨id.number - 1, List.mem_range.mpr (by omega), ?_⟩, ?_⟩
  · rw [Nat.sub_add_cancel hpos]
  · simp [he, hactive, hguard]

/-- Different handles that nobody had claimed were active before, or have been numbered since. -/
theorem length_le_actives {s s' : Store} (hs : s.Extends s') {G : GuardId → Bool} {ids : List HandleId}
    (hnodup : ids.Nodup) (hids : ∀ id ∈ ids, s.Unclaimed id ∧ s'.Known id)
    (hguards : ∀ id ∈ ids, ∀ e, s'.resource? id = some e → G e.guard = true) :
    ids.length ≤ (s.actives G).length + (s'.entries.size - s.entries.size) := by
  let news : List HandleId :=
    (List.range (s'.entries.size - s.entries.size)).map fun i => ⟨s.entries.size + i + 1⟩
  have hsub : ids ⊆ s.actives G ++ news := by
    intro id hin
    obtain ⟨hunclaimed, hknown⟩ := hids id hin
    cases he : s.resource? id with
    | some e =>
      obtain ⟨e', he', hl⟩ := hs.entry id e he
      have hguard := hguards id hin e' he'
      rw [hl.guard] at hguard
      exact List.mem_append_left _ (mem_actives he (hunclaimed e he) hguard)
    | none =>
      obtain ⟨hpos, hle⟩ := hknown.number_le
      have hlt : s.entries.size < id.number := by
        rw [resource?, if_neg (by omega), Array.getElem?_eq_none_iff] at he
        omega
      refine List.mem_append_right _ (List.mem_map.mpr
        ⟨id.number - s.entries.size - 1, List.mem_range.mpr (by omega), ?_⟩)
      cases id
      simp only at hlt ⊢
      congr 1
      omega
  have hle := (hnodup.subperm hsub).length_le
  simpa [news] using hle

/-- A store with no other handles is no larger. -/
theorem size_le_of_none {s s' : Store} (h : ∀ id, s.resource? id = none → s'.resource? id = none) :
    s'.entries.size ≤ s.entries.size := by
  have hnew := h ⟨s.entries.size + 1⟩ (by simp [resource?])
  simpa [resource?] using hnew

end Store

namespace System

/-- How many handles are numbered by others than a thread. -/
def enrolsBesides (w : System) (t : ThreadId) : List Event → Nat
  | [] => 0
  | e :: es =>
    (if e.isTurn t then 0 else (w.occur e).store.entries.size - w.store.entries.size)
      + (w.occur e).enrolsBesides t es

theorem enrolsBesides_snoc (w : System) (t : ThreadId) (es : List Event) (e : Event) :
    w.enrolsBesides t (es ++ [e]) = w.enrolsBesides t es + if e.isTurn t then 0 else
      (w.after (es ++ [e])).store.entries.size - (w.after es).store.entries.size := by
  rw [after_snoc]
  induction es generalizing w with
  | nil => simp [enrolsBesides, after]
  | cons e' es ih => simp only [List.cons_append, enrolsBesides, after, ih, Nat.add_assoc]

/-- What a thread in the midst of its call has done since the beginning. -/
structure Tally (w : System) (F : Family) (t : ThreadId) (es : List Event) : Prop where
  unclaimed : ∀ id ∈ w.starts t es, w.store.Unclaimed id
  size : F.registers = false →
    (w.after es).store.entries.size ≤ w.store.entries.size + w.enrolsBesides t es

section Tally
variable {w : System} {h : History} {F : Family} {t : ThreadId} {th : Thread} {path : Path}
  {rest fs : List Frame} {es : List Event}

theorem isTurn_eq {e : Event} (he : e.isTurn t = true) : e = .move (.act t) := by
  unfold Event.isTurn at he
  split at he
  · exact congrArg (fun t => Event.move (.act t)) (beq_iff_eq.mp he)
  · cases he

/-- What the turn of a thread in the midst of its call adds. -/
theorem Underway.turn {start : Store} (hu : w.Underway F start t th path rest fs) (hw : w.Orderly h)
    (ha : w.Awake) : (∀ id ∈ w.begins (.move (.act t)), start.Unclaimed id) ∧ (F.registers = false →
      (w.occur (.move (.act t))).store.entries.size ≤ w.store.entries.size) := by
  obtain ⟨x, fs', rfl, ht, -⟩ := hu.acting ha
  obtain ⟨hsub, hoccur, hstore, hact, -⟩ := acts_acting hw.2.spots ht
  have hx := hu.links x (by simp)
  constructor
  · rw [begins_acting ht]
    intro id hin
    unfold Frame.starts at hin
    split at hin
    · obtain rfl := List.mem_singleton.mp hin
      exact hx.2
    · cases hin
  · intro hregisters
    rw [hoccur, hstore]
    refine Store.size_le_of_none fun id hnone => ?_
    cases he : (x.advance t w.threads.size w.store).1.resource? id with
    | none => rfl
    | some e =>
      obtain ⟨g, -, -, -, -, -, hsrc, -⟩ := hact.entry_new hnone he
      have hregister : ∃ q p, x = .register q p := by
        by_contra hne
        exact (Frame.spots_ne fun q p heq => hne ⟨q, p, heq⟩).2 g hsrc
      obtain ⟨q, p, rfl⟩ := hregister
      exact absurd (hregisters.symm.trans hx) (by simp)

theorem Tally.step (htally : w.Tally F t es)
    (hu : (w.after es).Underway F w.store t th path rest fs) (hw : (w.after es).Orderly h)
    (ha : (w.after es).Awake) (e : Event) : w.Tally F t (es ++ [e]) := by
  obtain ⟨hbeginning, hsize⟩ := hu.turn hw ha
  constructor
  · intro id hin
    rw [starts_snoc, List.mem_append] at hin
    rcases hin with hin | hin
    · exact htally.unclaimed id hin
    · split at hin
      · next hturn =>
        rw [isTurn_eq hturn] at hin
        exact hbeginning id hin
      · cases hin
  · intro hregisters
    have hold := htally.size hregisters
    rw [enrolsBesides_snoc, after_snoc]
    split
    · next hturn =>
      have := hsize hregisters
      rw [isTurn_eq hturn]
      omega
    · omega

end Tally

/-! ## Chains -/

section Chains
variable {w : System} {h : History} {F : Family} {t : ThreadId} {th : Thread} {path : Path}
  {rest fs : List Frame} {id : HandleId} {es : List Event}

/-- A call, or an item of a worker, in the course of these events. -/
structure Chain (w : System) (F : Family) (t : ThreadId) (th : Thread) (path : Path) (rest : List Frame)
    (es : List Event) : Prop where
  /-- It has come to its end, or its thread can act, -/
  goes : (w.after es).Closed t th path rest ∨ (w.after es).canAct t = true
  /-- which it has done no more often than there was work to do. -/
  turns : es.countP (Event.isTurn t) ≤ w.work + bill es
  /-- No callback has started twice, -/
  once : (w.after es).store.begun.Nodup
  /-- and those that the thread has started are of handles that nobody had claimed before. -/
  unclaimed : ∀ id ∈ w.starts t es, w.store.Unclaimed id
  /-- If the callbacks register nothing, there are no more of them than there were active handles of the
  guards involved, and handles that others have registered meanwhile. -/
  few : F.registers = false → ∀ G : GuardId → Bool,
    (∀ id ∈ w.starts t es, ∀ e, (w.after es).store.resource? id = some e → G e.guard = true) →
    (w.starts t es).length ≤ (w.store.actives G).length + w.enrolsBesides t es
  /-- Nor are there more of them one inside the other, the one that starts next included. -/
  deep : F.registers = false → ∀ fs, (w.after es).thread? t = some (th.on (fs ++ rest)) →
    ∀ G : GuardId → Bool, (∀ id ∈ w.starts t (es ++ [.move (.act t)]), ∀ e,
      (w.after es).store.resource? id = some e → G e.guard = true) →
    depth fs ≤ (w.store.actives G).length + w.enrolsBesides t es

/-- A thread that begins with a call, or with an item, is in the midst of it. -/
theorem underway_opening (hth : w.thread? t = some th) (hstack : th.stack = path.opening id :: rest)
    (hid : w.store.Linked F id) : w.Underway F w.store t th path rest [path.opening id] where
  stack := by
    rw [hth, List.singleton_append, ← hstack]
    rfl
  nonempty := List.cons_ne_nil _ _
  links := by
    rw [List.forall_mem_singleton]
    cases path <;> exact hid
  bottom g := by cases path <;> simp [bottomKind, Path.opening, Frame.kind]

/-- From the beginning to the end of a call, or of an item, its thread is in the midst of it. -/
theorem underway_after (hm : w.Manned h) (ha : w.Awake) (hl : w.Loyal F)
    (hu : w.Underway F w.store t th path rest fs) (hfs : fs.countP Frame.isInside = 0)
    (hes : es.all (Event.isLoyal F) = true)
    (hopen : ∀ before after, es = before ++ after → after ≠ [] →
      ¬(w.after before).Closed t th path rest) :
    w.Tally F t es ∧ ((w.after es).Closed t th path rest ∨
      ∃ fs', (w.after es).Underway F w.store t th path rest fs' ∧
        fs'.countP Frame.isInside ≤ (w.starts t es).length) := by
  induction es using List.reverseRecOn with
  | nil =>
    refine ⟨⟨fun _ hin => absurd hin List.not_mem_nil, fun _ => Nat.le_add_right _ _⟩, .inr ⟨fs, hu, ?_⟩⟩
    rw [hfs]
    exact Nat.zero_le _
  | append_singleton es e ih =>
    rw [List.all_append, Bool.and_eq_true] at hes
    obtain ⟨htally, hclosed | ⟨fs', hu', hinside⟩⟩ := ih hes.1 fun before after heq hne =>
      hopen before (after ++ [e]) (by rw [heq, List.append_assoc]) (by simp)
    · exact absurd hclosed (hopen es [e] rfl (by simp))
    · have hm' := hm.after es
      refine ⟨htally.step hu' hm'.orderly (ha.after es) e, ?_⟩
      rw [after_snoc, starts_snoc, List.length_append]
      refine (hu'.step hm' (ha.after es) (hl.after hm.orderly hes.1) (extends_after hm.orderly es) e).imp_right ?_
      rintro ⟨fs'', hu'', hle⟩
      exact ⟨fs'', hu'', by omega⟩

/-- A thread starts the callbacks of different handles. -/
theorem Orderly.starts_nodup (hw : w.Orderly h) (hr : w.Regular h) (t : ThreadId) (es : List Event) :
    (w.starts t es).Nodup :=
  ((List.sublist_append_right _ _).trans (hw.starts_sublist t es)).nodup
    ((hr.after hw es).begun_nodup (hw.after es))

theorem Orderly.starts_known (hw : w.Orderly h) {t : ThreadId} (hid : id ∈ w.starts t es) :
    (w.after es).store.Known id := by
  have hin := (hw.starts_sublist t es).subset (List.mem_append_right _ hid)
  obtain ⟨⟨id', a⟩, hrun, rfl⟩ := List.mem_map.mp hin
  exact ((hw.after es).2.runs id' a hrun).imp fun _ he => he.1

/-- The callbacks that a thread has started, and the one that starts next, are of handles that are there. -/
theorem Underway.starts_known (hu : (w.after es).Underway F w.store t th path rest fs) (hw : w.Orderly h)
    (ha : (w.after es).Awake) : ∀ id ∈ w.starts t (es ++ [.move (.act t)]), (w.after es).store.Known id := by
  obtain ⟨x, fs', rfl, ht, -⟩ := hu.acting ha
  intro id hin
  rw [starts_snoc, begins_acting ht, List.mem_append] at hin
  rcases hin with hin | hin
  · exact hw.starts_known hin
  · have hx := hu.links x (by simp)
    unfold Frame.starts at hin
    split at hin
    · split at hin
      · obtain rfl := List.mem_singleton.mp hin
        exact hx.1.imp fun _ he => he.1
      · cases hin
    · simp at hin

theorem chain_after (hm : w.Manned h) (ha : w.Awake) (hr : w.Regular h) (hl : w.Loyal F)
    (hth : w.thread? t = some th) (hstack : th.stack = path.opening id :: rest)
    (hid : w.store.Linked F id) (hes : es.all (Event.isLoyal F) = true)
    (hopen : ∀ before after, es = before ++ after → after ≠ [] →
      ¬(w.after before).Closed t th path rest) : w.Chain F t th path rest es := by
  have hstart := underway_opening hth hstack hid
  have hnone : [path.opening id].countP Frame.isInside = 0 := by cases path <;> rfl
  have hreach : ∀ before after, es = before ++ after → w.Tally F t before ∧
      ((w.after before).Closed t th path rest ∨
        ∃ fs', (w.after before).Underway F w.store t th path rest fs' ∧
          fs'.countP Frame.isInside ≤ (w.starts t before).length) := by
    rintro before after rfl
    rw [List.all_append, Bool.and_eq_true] at hes
    refine underway_after hm ha hl hstart hnone hes.1 fun b a heq hne => ?_
    exact hopen b (a ++ after) (by rw [heq, List.append_assoc]) (by simp [hne])
  obtain ⟨htally, hend⟩ := hreach es [] (List.append_nil es).symm
  have hextends := extends_after hm.orderly es
  have few : F.registers = false → ∀ (G : GuardId → Bool) (ids : List HandleId), ids.Nodup →
      (∀ id ∈ ids, w.store.Unclaimed id ∧ (w.after es).store.Known id) →
      (∀ id ∈ ids, ∀ e, (w.after es).store.resource? id = some e → G e.guard = true) →
      ids.length ≤ (w.store.actives G).length + w.enrolsBesides t es := by
    intro hregisters G ids hnodup hids hguards
    have hlength := Store.length_le_actives hextends hnodup hids hguards
    have hsize := htally.size hregisters
    omega
  constructor
  · refine hend.imp_right ?_
    rintro ⟨fs', hu, -⟩
    obtain ⟨x, -, -, ht, -⟩ := hu.acting (ha.after es)
    exact canAct_iff.mpr ⟨x, ht⟩
  · have := turns_le hm.orderly t es fun before after heq hne => by
      obtain ⟨-, hclosed | ⟨fs', hu, -⟩⟩ := hreach before after heq
      · exact absurd hclosed (hopen before after heq hne)
      · obtain ⟨x, -, -, ht, -⟩ := hu.acting (ha.after before)
        exact canAct_iff.mpr ⟨x, ht⟩
    omega
  · exact (hr.after hm.orderly es).begun_nodup (hm.orderly.after es)
  · exact htally.unclaimed
  · intro hregisters G hguards
    exact few hregisters G _ (hm.orderly.starts_nodup hr t es)
      (fun id hin => ⟨htally.unclaimed id hin, hm.orderly.starts_known hin⟩) hguards
  · intro hregisters fs hfs G hguards
    rcases hend with ⟨th', hth', hclosed⟩ | ⟨fs', hu, hinside⟩
    · cases hfs.symm.trans hth'
      rw [hclosed.depth_eq_zero]
      exact Nat.zero_le _
    · have hfs' : fs' = fs := by
        have := hu.stack.symm.trans hfs
        simpa [Thread.on] using this
      subst hfs'
      have hnext := htally.step hu (hm.orderly.after es) (ha.after es) (.move (.act t))
      have hlength := few hregisters G _ (hm.orderly.starts_nodup hr t _)
        (fun id hin => ⟨hnext.unclaimed id hin, hu.starts_known hm.orderly (ha.after es) id hin⟩) hguards
      obtain ⟨x, fs'', rfl, ht, -⟩ := hu.acting (ha.after es)
      have hstacked := (hm.orderly.after es).1 _ (thread?_mem hu.stack)
      have hdepth := @depth_le x fs'' fun y hy =>
        hstacked.all_wait y (List.mem_append_left rest hy)
      rw [starts_snoc, begins_acting ht, List.length_append,
        if_pos (show Event.isTurn t (.move (.act t)) = true from beq_self_eq_true t)] at hlength
      omega

end Chains

/-- Whatever happens in a process, a call to release a handle of a family comes to its end, and so does
the item of a worker that is about one, if its thread gets its turn more often than there is work to do;
until then the thread can act, and it starts the callbacks of different handles only, which were active
before. -/
theorem chains_end (probes : Array Probe) (environment : Environment) (output : Output) (F : Family)
    {es : List Event} (hes : es.all (Event.isLoyal F) = true) {t : ThreadId} {th : Thread} {path : Path}
    {id : HandleId} {rest : List Frame}
    (hth : ((boot probes environment output).after es).thread? t = some th)
    (hstack : th.stack = path.opening id :: rest)
    (hid : ((boot probes environment output).after es).store.Linked F id) :
    (∀ es' : List Event, es'.all (Event.isLoyal F) = true →
      ((boot probes environment output).after es).work + bill es' < es'.countP (Event.isTurn t) →
      ∃ before after, es' = before ++ after ∧
        (((boot probes environment output).after es).after before).Closed t th path rest) ∧
    ∀ es' : List Event, es'.all (Event.isLoyal F) = true →
      (∀ before after, es' = before ++ after → after ≠ [] →
        ¬(((boot probes environment output).after es).after before).Closed t th path rest) →
      ((boot probes environment output).after es).Chain F t th path rest es' := by
  have hm := manned_after probes environment output es
  have hl := (loyal_boot (F := F) probes environment output).after (orderly_boot probes environment output) hes
  have hchain := fun (es' : List Event) (hes' : es'.all (Event.isLoyal F) = true) =>
    chain_after hm (awake_after probes environment output es) (regular_after probes environment output es)
      hl hth hstack hid hes'
  refine ⟨fun es' hes' hturns => ?_, hchain⟩
  by_contra hopen
  have hle := (hchain es' hes' fun before after heq _ hclosed => hopen ⟨before, after, heq, hclosed⟩).turns
  exact absurd hturns (Nat.not_lt.mpr hle)

/-- The handles `a` and `b`. -/
def pair : Family := ⟨fun name => name == "a" || name == "b", false⟩

/-- Two handles whose callbacks release each other, and the first itself as well, up to the point where a
release of the first begins. -/
def entangled : List Event :=
  .join .caller
      [.startGuard "g" {} .plain none,
        .register (.guard "g") "a"
          { address := 1, callback := some { body := some [.release "b" none, .release "a" none] } },
        .register (.guard "g") "b" { address := 2, callback := some { body := some [.release "a" none] } },
        .release "a" none] ::
    List.replicate 16 (.move (.act 0))

theorem chains_end_entangled :
    ∃ th rest, ((boot #[] none {}).after entangled).thread? 0 = some th ∧
      th.stack = Path.release.opening ⟨1⟩ :: rest ∧
      ((boot #[] none {}).after entangled).store.actives (fun _ => true) = [⟨1⟩, ⟨2⟩] ∧
      ∀ es : List Event, es.all (Event.isLoyal pair) = true →
        (∀ before after, es = before ++ after → after ≠ [] →
          ¬(((boot #[] none {}).after entangled).after before).Closed 0 th .release rest) →
        ((boot #[] none {}).after entangled).Chain pair 0 th .release rest es := by
  have hopening : (((boot #[] none {}).after entangled).thread? 0).map
      (fun th => th.stack.head?.bind Frame.released?) = some (some ⟨1⟩) := by
    decide +kernel
  have hcallback : (((boot #[] none {}).after entangled).store.resource? ⟨1⟩).map
      (fun e => e.callback.isLink pair) = some true := by
    decide +kernel
  obtain ⟨th, hth, hfirst⟩ := Option.map_eq_some_iff.mp hopening
  obtain ⟨x, hx, hreleased⟩ := Option.bind_eq_some_iff.mp hfirst
  obtain ⟨rest, hstack⟩ := List.head?_eq_some_iff.mp hx
  rw [Frame.released?_eq_some.mp hreleased] at hstack
  obtain ⟨e, he, hlink⟩ := Option.map_eq_some_iff.mp hcallback
  exact ⟨th, rest, hth, hstack, by decide +kernel,
    (chains_end #[] none {} pair (by decide +kernel) hth
      (show th.stack = Path.release.opening ⟨1⟩ :: rest from hstack) ⟨e, he, hlink⟩).2⟩

end System

end Reclaim

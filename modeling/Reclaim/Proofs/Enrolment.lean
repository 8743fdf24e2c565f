import Reclaim.Proofs.Below
import Reclaim.Proofs.Membership
import Reclaim.Proofs.Work

/-!
# Registrations that are built

A registration is put together by calls in any order and number, and then finished. It is refused when nothing
was said about its release or when its address is null, and a refusal leaves everything as it is. Otherwise the
handle gets the next number, enters the registry and is counted, whatever the other threads do meanwhile and
whatever has become of the worker.

* `BuilderCall`, `Registration.built`, `Registration.built_eq` : what the calls come to;
* `System.occur_turn`, `System.thread?_others` : turns of a thread at a registration, and of others;
* `System.Newborn`, `System.active_of_spot` : a handle whose registration is under way;
* `System.Enrols` : the actions of a registration that is not refused;
* `Target.Means`, `System.opens` : the commands that register, whichever guard they name;
* `System.Finishes`, `System.finishes_after` : what becomes of a registration.
-/

namespace Reclaim

/-! ## Builders -/

/-- A call on the builder of a registration. -/
inductive BuilderCall where
  | label (text : String)
  /-- The label is the name of a type, of which the full name is given. -/
  | ownedBy (typeName : String)
  | releaseWith (callback : ReleaseFn)

namespace BuilderCall

/-- The registration after the call. -/
def apply (r : Registration Command) : BuilderCall → Registration Command
  | label text => r.withLabel text
  | ownedBy typeName => r.ownedBy typeName
  | releaseWith callback => r.releaseWith callback

/-- The label that the call gives. -/
def label? : BuilderCall → Option String
  | label text => some text
  | ownedBy typeName => some (TypeName.short typeName)
  | releaseWith _ => none

/-- The callback that the call gives. -/
def callback? : BuilderCall → Option ReleaseFn
  | releaseWith callback => some callback
  | _ => none

end BuilderCall

/-- The label that the calls leave. -/
def lastLabel (calls : List BuilderCall) : Option String := (calls.filterMap BuilderCall.label?).getLast?

/-- The callback that the calls leave. -/
def lastCallback (calls : List BuilderCall) : Option ReleaseFn := (calls.filterMap BuilderCall.callback?).getLast?

namespace Registration
variable {address : Address} {calls : List BuilderCall} {f : ReleaseFn}

/-- The registration of an address after calls on its builder. -/
def built (address : Address) (calls : List BuilderCall) : Registration Command :=
  calls.foldl BuilderCall.apply (.start address)

/-- Of the labels the last one counts, and of the callbacks. -/
theorem built_eq (address : Address) (calls : List BuilderCall) :
    built address calls = ⟨address, lastLabel calls, lastCallback calls⟩ := by
  induction calls using List.reverseRecOn with
  | nil => rfl
  | append_singleton calls c ih =>
    have hlast : built address (calls ++ [c]) = c.apply (built address calls) := by
      simp only [built, List.foldl_append, List.foldl_cons, List.foldl_nil]
    rw [hlast, ih]
    cases c <;> simp [BuilderCall.apply, withLabel, ownedBy, releaseWith, lastLabel, lastCallback, BuilderCall.label?,
      BuilderCall.callback?, List.filterMap_append]

theorem check_unreleasable (h : lastCallback calls = none) : (built address calls).check =
    .error (.invalidArgument "release_fn" "a release callback is required") := by
  rw [built_eq, h]
  rfl

theorem check_null (h : lastCallback calls = some f) : (built 0 calls).check =
    .error (.invalidArgument "address" "address != 0") := by
  rw [built_eq, h]
  rfl

theorem check_built (h : lastCallback calls = some f) (haddress : address ≠ 0) : (built address calls).check = .ok f := by
  have hverify : verifyAddress address = .ok address := by
    simp [verifyAddress, verify, haddress, bind, Except.bind, pure, Except.pure]
  rw [built_eq, h, check]
  simp only [hverify]

end Registration

/-! ## Turns -/

namespace System
variable {w : System} {h : History} {t : ThreadId} {name : ThreadName} {below : List Frame}

/-- The turn of a thread that starts no other. -/
theorem occur_turn {x : Frame} {s : Store} {p : Progress} (hth : w.thread? t = some ⟨name, x :: below, none⟩)
    (hready : x.isReady w.store = true) (hadvance : x.advance t w.threads.size w.store = (s, p))
    (hspawned : p.spawned = []) : w.occur (.move (.act t)) =
      { w.put t ((Thread.mk name (x :: below) none).progress below p) with store := s } := by
  have hacting : w.acting? t = some x := by
    simp only [acting?, hth]
    exact if_pos hready
  rw [occur_acting hacting, act_eq hth, hadvance, hspawned]
  simp [put]

/-- A thread at a registration stays there when others have their turns. -/
theorem thread?_others {q : RegisterRequest} {p : RegisterPoint}
    (hth : w.thread? t = some ⟨name, .register q p :: below, none⟩) {es : List Event}
    (hes : ∀ e ∈ es, e.isTurn t = false) :
    (w.after es).thread? t = some ⟨name, .register q p :: below, none⟩ := by
  induction es generalizing w with
  | nil => exact hth
  | cons e es ih =>
    refine ih ?_ fun e' he' => hes e' (List.mem_cons_of_mem _ he')
    rcases thread?_occur hth e with ⟨frame, rest, rfl, -⟩ | ⟨g, gate, ack, rest, -, hstack, -⟩ | ⟨hsame, -⟩
    · have := hes _ List.mem_cons_self
      simp [Event.isTurn] at this
    · cases hstack
    · exact hsame

/-! ## Handles in no variable -/

/-- A handle that a registration has numbered and that nobody has released. -/
def Newborn (w : System) (id : HandleId) (q : RegisterRequest) (f : ReleaseFn) : Prop :=
  ∃ e, w.store.resource? id = some e ∧ e.state = .active ∧ e.guard = q.guard ∧
    e.address = q.registration.address ∧ e.label = q.registration.label ∧ e.callback = f

section Spots
variable {id : HandleId} {e : Entry} {x : Gist} {y : Spot}

theorem life_on_pos (h : History) (x : Gist) (hspot : y ∈ w.spots) (hy : y.Concerns e.guard id) :
    0 < (w.life h id e x).on y := by
  rw [on_life hy]
  exact Multiset.count_pos.mpr hspot

/-- As long as the registration of a handle is under way nobody releases the handle. -/
theorem active_of_spot (hw : w.Orderly h) (hr : w.Regular h) (he : w.store.resource? id = some e)
    (hspot : .numbered e.guard id ∈ w.spots ∨ .tracked e.guard id ∈ w.spots ∨ .counted id ∈ w.spots) :
    e.state = .active := by
  obtain ⟨x, hx⟩ := hw.2.entries id e he
  have hsound := (hr id e x he hx).sound
  have honce := hsound.once
  have hbound : (w.life h id e x).bound = 0 := by
    rcases hspot with hspot | hspot | hspot
    · have : 0 < (w.life h id e x).on _ := life_on_pos h x hspot ⟨rfl, rfl⟩
      omega
    · have : 0 < (w.life h id e x).on _ := life_on_pos h x hspot ⟨rfl, rfl⟩
      omega
    · have : 0 < (w.life h id e x).on _ := life_on_pos h x hspot rfl
      omega
  exact state_of_life.1.mp (hsound.fresh hbound).1

/-- Once it has been entered its guard keeps track of it. -/
theorem contains_of_spot (hw : w.Orderly h) (hr : w.Regular h) (he : w.store.resource? id = some e)
    (hspot : .tracked e.guard id ∈ w.spots) : w.store.contains e.guard id = true := by
  obtain ⟨x, hx⟩ := hw.2.entries id e he
  have honce := (hr id e x he hx).sound.once
  have htracked : 0 < (w.life h id e x).on _ := life_on_pos h x hspot ⟨rfl, rfl⟩
  have hnumbered : .numbered e.guard id ∉ w.spots := fun hin => by
    have : 0 < (w.life h id e x).on _ := life_on_pos h x hin ⟨rfl, rfl⟩
    omega
  exact (hw.contains_iff hr e.guard he hnumbered).mpr ⟨rfl, active_of_spot hw hr he (.inr (.inl hspot))⟩

end Spots

/-- A thread occupies the spot of the frame at its top. -/
theorem spot_of_thread {x : Frame} {y : Spot} (hth : w.thread? t = some ⟨name, x :: below, none⟩)
    (hy : y ∈ x.spots) : y ∈ w.spots :=
  mem_spots.mpr ⟨_, thread?_mem hth, x, List.mem_cons_self, hy⟩

end System

/-- The number that the next handle gets. -/
def Store.nextId (s : Store) : HandleId := ⟨s.entries.size + 1⟩

/-- What a registration numbers. -/
def RegisterRequest.entry (q : RegisterRequest) (f : ReleaseFn) : Entry where
  guard := q.guard
  address := q.registration.address
  label := q.registration.label
  callback := f

/-- The actions of a thread that finishes a registration with a callback, whatever the other threads do in
between. -/
structure System.Enrols (w : System) (h : History) (t : ThreadId) (name : ThreadName) (q : RegisterRequest)
    (f : ReleaseFn) (below : List Frame) : Prop where
  guard : ∃ x, w.store.guard? q.guard = some x
  /-- The number is greater than every number that any guard has given. -/
  later : ∀ id address, (id, .numbered address) ∈ h → id.number < w.store.nextId.number
  /-- First there is one active entry more, -/
  numbers : w.occur (.move (.act t)) =
    { w.put t ⟨name, .register q (.track w.store.nextId) :: below, none⟩ with
      store := { w.store with entries := w.store.entries.push (q.entry f) } }
  /-- which stays as it is until it enters the registry, where it is new, -/
  tracks : ∀ es, (∀ e ∈ es, e.isTurn t = false) →
    let w' := (w.occur (.move (.act t))).after es
    w'.Newborn w.store.nextId q f ∧
      (∀ g x, w'.store.guard? g = some x → w.store.nextId ∉ x.registry.ids) ∧
      w'.occur (.move (.act t)) =
        { w'.put t ⟨name, .register q (.count w.store.nextId) :: below, none⟩ with
          store := w'.store.track q.guard w.store.nextId }
  /-- and then it is counted. -/
  counts : ∀ es es', (∀ e ∈ es, e.isTurn t = false) → (∀ e ∈ es', e.isTurn t = false) →
    let w' := (((w.occur (.move (.act t))).after es).occur (.move (.act t))).after es'
    w'.Newborn w.store.nextId q f ∧ w'.store.contains q.guard w.store.nextId = true ∧
      w'.occur (.move (.act t)) =
        { w'.put t ⟨name, .register q (.bind w.store.nextId) :: below, none⟩ with
          store := w'.store.countRegistered q.guard w.store.nextId q.registration.address }
  /-- When nobody else acts meanwhile, this is all that there is to it. -/
  alone : w.after (turns t 3) =
    { w.put t ⟨name, .register q (.bind w.store.nextId) :: below, none⟩ with
      store := { w.store with
        entries := w.store.entries.push (q.entry f)
        guards := w.store.guards.modify q.guard fun x =>
          { x with
            registry := ⟨w.store.nextId :: x.registry.ids⟩
            stats := { x.stats with registered := x.stats.registered + 1 } }
        output := w.store.output.log .trace
          ("registered " ++ w.store.nextId.text ++ " for address " ++ q.registration.address.text) } }

/-- Two changes to one element of an array. -/
theorem modify_twice {α : Type} (xs : Array α) (i : Nat) (f f' : α → α) :
    (xs.modify i f).modify i f' = xs.modify i fun x => f' (f x) := by
  apply Array.ext_getElem?
  intro j
  simp only [Array.getElem?_modify]
  split
  · simp [Option.map_map, Function.comp_def]
  · rfl

namespace System
variable {w : System} {h : History} {t : ThreadId} {name : ThreadName} {below : List Frame} {q : RegisterRequest}
  {f : ReleaseFn}

theorem put_put_store (w : System) (t : ThreadId) (th th' : Thread) (s : Store) :
    put { w.put t th with store := s } t th' = { w.put t th' with store := s } :=
  congrArg (fun v : System => { v with store := s }) (put_put w t th th')

theorem occur_allocate (hth : w.thread? t = some ⟨name, .register q .allocate :: below, none⟩)
    (hcheck : q.registration.check = .ok f) : w.occur (.move (.act t)) =
      { w.put t ⟨name, .register q (.track w.store.nextId) :: below, none⟩ with
        store := { w.store with entries := w.store.entries.push (q.entry f) } } :=
  occur_turn hth rfl (by simp only [Frame.advance, RegisterPoint.advance, hcheck]; rfl) rfl

theorem occur_track {id : HandleId} (hth : w.thread? t = some ⟨name, .register q (.track id) :: below, none⟩) :
    w.occur (.move (.act t)) =
      { w.put t ⟨name, .register q (.count id) :: below, none⟩ with store := w.store.track q.guard id } :=
  occur_turn hth rfl rfl rfl

theorem occur_count {id : HandleId} (hth : w.thread? t = some ⟨name, .register q (.count id) :: below, none⟩) :
    w.occur (.move (.act t)) =
      { w.put t ⟨name, .register q (.bind id) :: below, none⟩ with
        store := w.store.countRegistered q.guard id q.registration.address } :=
  occur_turn hth rfl rfl rfl

/-- As long as a registration is under way, its handle is a newborn. -/
theorem Newborn.later {w' : System} {h' : History} {id : HandleId} {p : RegisterPoint}
    (hw : w.store.resource? id = some (q.entry f)) (hext : w.store.Extends w'.store) (hw' : w'.Orderly h')
    (hr' : w'.Regular h') (hth : w'.thread? t = some ⟨name, .register q p :: below, none⟩)
    (hp : p = .track id ∨ p = .count id) : w'.Newborn id q f := by
  obtain ⟨e, he, hlater⟩ := hext.entry id _ hw
  have hguard : e.guard = q.guard := hlater.guard
  refine ⟨e, he, active_of_spot hw' hr' he ?_, hguard, hlater.address, hlater.label, hlater.callback⟩
  rw [hguard]
  obtain rfl | rfl := hp
  · exact .inl (spot_of_thread hth (Multiset.mem_singleton_self _))
  · exact .inr (.inl (spot_of_thread hth (Multiset.mem_singleton_self _)))

theorem Orderly.enrols (hw : w.Orderly h) (hr : w.Regular h)
    (hth : w.thread? t = some ⟨name, .register q .allocate :: below, none⟩) (hcheck : q.registration.check = .ok f) :
    w.Enrols h t name q f below := by
  have hnumbers := occur_allocate hth hcheck
  have hnew : (w.occur (.move (.act t))).store.resource? w.store.nextId = some (q.entry f) := by
    rw [hnumbers]
    simp [Store.resource?, Store.nextId]
  have hth₁ : (w.occur (.move (.act t))).thread? t =
      some ⟨name, .register q (.track w.store.nextId) :: below, none⟩ := by
    rw [hnumbers]
    exact thread?_put_self hth _
  have hw₁ := hw.step (.move (.act t))
  have hr₁ := hr.step hw (.move (.act t))
  have hth₂ : ∀ es, (∀ e ∈ es, e.isTurn t = false) →
      (((w.occur (.move (.act t))).after es).occur (.move (.act t))).thread? t =
        some ⟨name, .register q (.count w.store.nextId) :: below, none⟩ := fun es hes => by
    have hth' := thread?_others hth₁ hes
    rw [occur_track hth']
    exact thread?_put_self hth' _
  exact
    { guard := by
        obtain ⟨x, hx⟩ := hw.2.spots _ (spot_of_thread hth (Multiset.mem_singleton_self _))
        exact (Option.map_eq_some_iff.mp hx).imp fun _ hy => hy.1
      later := fun id address hin => by
        obtain ⟨e, he, -⟩ := hw.2.marks id _ hin
        exact Nat.lt_succ_of_le (Store.Known.number_le ⟨e, he⟩).2
      numbers := hnumbers
      tracks := fun es hes => by
        have hth' := thread?_others hth₁ hes
        have hw' := hw₁.after es
        have hr' := hr₁.after hw₁ es
        have hspot := spot_of_thread hth' (Multiset.mem_singleton_self _)
        refine ⟨.later hnew (extends_after hw₁ es) hw' hr' hth' (.inl rfl), fun g x hx => ?_, occur_track hth'⟩
        exact (hw'.fresh hr' hspot).2 g x.gist (congrArg (Option.map Guard.gist) hx)
      counts := fun es es' hes hes' => by
        have hw' := hw₁.after (es ++ .move (.act t) :: es')
        have hr' := hr₁.after hw₁ (es ++ .move (.act t) :: es')
        have hext := extends_after hw₁ (es ++ .move (.act t) :: es')
        simp only [after_append, System.after] at hw' hr' hext
        have hth' := thread?_others (hth₂ es hes) hes'
        have hborn := Newborn.later hnew hext hw' hr' hth' (.inr rfl)
        refine ⟨hborn, ?_, occur_count hth'⟩
        obtain ⟨e, he, -, hguard, -⟩ := hborn
        have hspot := spot_of_thread hth' (Multiset.mem_singleton_self _)
        rw [← hguard] at hspot ⊢
        exact contains_of_spot hw' hr' he hspot
      alone := by
        have hsecond := occur_track hth₁
        have hthird := occur_count (hth₂ [] fun e he => by cases he)
        refine Eq.trans (show w.after (turns t 3) = _ from hthird) ?_
        simp only [System.after]
        rw [hsecond, put_put_store, hnumbers, put_put_store]
        simp only [Store.countRegistered, Store.modifyStats, Store.track, Store.modifyGuard, Store.log,
          put, modify_twice, Registry.insert] }

end System

/-! ## Ways to register -/

/-- The guard that a registration is meant for, if it is known: a guard without a name is the process-wide one,
which runs already. -/
def Target.Means (s : Store) (g : GuardId) : Target → Prop
  | .guard name => s.guardNamed name = .ok g
  | .processWide => s.processWide.running = some g

/-- What becomes of a thread that finishes a registration, built by these calls. -/
structure System.Finishes (w : System) (h : History) (t : ThreadId) (name : ThreadName) (q : RegisterRequest)
    (calls : List BuilderCall) (below : List Frame) : Prop where
  /-- Without a callback it is refused, and without an address; nothing else happens. -/
  unreleasable : lastCallback calls = none → w.occur (.move (.act t)) =
    w.put t ((Thread.mk name [] none).deliver
      (.value (.error (.invalidArgument "release_fn" "a release callback is required"))) below)
  null : ∀ f, lastCallback calls = some f → q.registration.address = 0 → w.occur (.move (.act t)) =
    w.put t ((Thread.mk name [] none).deliver
      (.value (.error (.invalidArgument "address" "address != 0"))) below)
  /-- With both the handle is enrolled, under the last label and with the last callback. -/
  label : q.registration.label = lastLabel calls
  enrols : ∀ f, lastCallback calls = some f → q.registration.address ≠ 0 → w.Enrols h t name q f below

namespace System
variable {w : System} {h : History} {t : ThreadId} {name : ThreadName} {below : List Frame} {g : GuardId}
  {handle : String} {address : Address} {calls : List BuilderCall}

theorem Orderly.finishes (hw : w.Orderly h) (hr : w.Regular h)
    (hth : w.thread? t = some ⟨name, .register ⟨g, handle, .built address calls, false⟩ .allocate :: below, none⟩) :
    w.Finishes h t name ⟨g, handle, .built address calls, false⟩ calls below := by
  have haddress : (Registration.built address calls).address = address := by rw [Registration.built_eq]
  have hrefused : ∀ {e : Error}, (Registration.built address calls).check = .error e →
      w.occur (.move (.act t)) =
        w.put t ((Thread.mk name [] none).deliver (.value (.error e)) below) := fun {e} hcheck => by
    have hturn := occur_turn (s := w.store) (p := .finish (.value (.error e))) hth rfl
      (by simp only [Frame.advance, RegisterPoint.advance, hcheck]; rfl) rfl
    refine hturn.trans ?_
    cases below <;> rfl
  exact
    { unreleasable := fun hnone => hrefused (Registration.check_unreleasable hnone)
      null := fun f hf hnull => by
        rw [haddress] at hnull
        subst hnull
        exact hrefused (Registration.check_null hf)
      label := by rw [Registration.built_eq]
      enrols := fun f hf hnull => by
        rw [haddress] at hnull
        exact hw.enrols hr hth (Registration.check_built hf hnull) }

/-- The command to register, whichever guard it names, comes to finishing a registration and has done nothing
else by then. -/
theorem opens {target : Target} {r : Registration Command} {todo : List Command} {replies : List Reply}
    (hth : w.thread? t = some ⟨name, .commands (.register target handle r :: todo) replies :: below, none⟩)
    (hg : target.Means w.store g) : ∃ n, 0 < n ∧ n ≤ 2 ∧ w.after (turns t n) =
      w.put t ⟨name, .register ⟨g, handle, r, false⟩ .allocate :: .commands todo replies :: below, none⟩ := by
  cases target with
  | guard guard =>
    have hbegin : (Command.register (.guard guard) handle r).begin w.store =
        (w.store, .operation (.register ⟨g, handle, r, false⟩ .allocate)) := by
      simp only [Command.begin, Command.begin?, show w.store.guardNamed guard = .ok g from hg]
      rfl
    have hturn := occur_turn (s := w.store)
      (p := .call (.register ⟨g, handle, r, false⟩ .allocate) (.commands todo replies)) hth rfl
      (by simp only [Frame.advance, Script.advance, hbegin]) rfl
    exact ⟨1, by decide, by decide, hturn⟩
  | processWide =>
    have hfirst := occur_turn (s := w.store) (p := .call (.processWide (.register handle r)) (.commands todo replies))
      hth rfl rfl rfl
    have hth' : (w.occur (.move (.act t))).thread? t =
        some ⟨name, .processWide (.register handle r) :: .commands todo replies :: below, none⟩ := by
      rw [hfirst]
      exact thread?_put_self hth _
    have hadvance : (Purpose.register handle r).advance (w.occur (.move (.act t))).threads.size
        (w.occur (.move (.act t))).store =
          ((w.occur (.move (.act t))).store, .goto (.register ⟨g, handle, r, false⟩ .allocate)) := by
      have hrunning : (w.occur (.move (.act t))).store.processWide.running = some g := by
        rw [hfirst]
        exact hg
      simp only [Purpose.advance, hrunning, Purpose.frame]
    refine ⟨2, by decide, by decide, (occur_turn hth' rfl hadvance rfl).trans ?_⟩
    rw [hfirst, put_put_store]
    rfl

variable (probes : Array Probe) (environment : Environment) (output : Output) (es : List Event)

/-- Registrations succeed exactly when they should, and fail without a trace. Whenever a thread is told to register,
it comes to finishing a registration and has done nothing else by then. A registration that was built by any calls
is refused exactly if there was no callback among them or the address is null, and then everything stays as it is;
otherwise the handle is enrolled, whatever the state of the worker. -/
theorem finishes_after (t : ThreadId) (name : ThreadName) (g : GuardId) (handle : String) (address : Address)
    (calls : List BuilderCall) (below : List Frame) :
    (∀ target todo replies,
      ((boot probes environment output).after es).thread? t =
          some ⟨name, .commands (.register target handle (.built address calls) :: todo) replies :: below, none⟩ →
        target.Means ((boot probes environment output).after es).store g →
        ∃ n, 0 < n ∧ n ≤ 2 ∧ (boot probes environment output).after (es ++ turns t n) =
          ((boot probes environment output).after es).put t
            ⟨name, .register ⟨g, handle, .built address calls, false⟩ .allocate ::
              .commands todo replies :: below, none⟩) ∧
    (((boot probes environment output).after es).thread? t =
        some ⟨name, .register ⟨g, handle, .built address calls, false⟩ .allocate :: below, none⟩ →
      ((boot probes environment output).after es).Finishes ((boot probes environment output).history es) t name
        ⟨g, handle, .built address calls, false⟩ calls below) := by
  refine ⟨fun target todo replies hth hg => ?_, fun hth => ?_⟩
  · obtain ⟨n, hpos, hle, hafter⟩ := opens hth hg
    exact ⟨n, hpos, hle, (after_append _ es (turns t n)).trans hafter⟩
  · exact (orderly_after probes environment output es).finishes (regular_after probes environment output es) hth

/-- Two callbacks and two labels, of which the last count. -/
def builder : List BuilderCall :=
  [.releaseWith { panic := some .other }, .label "a", .ownedBy "alloc::vec::Vec<u8>", .releaseWith {}]

/-- A guard is shut down, then a registration is refused because its address is null, and another begins. -/
def late : List Event :=
  .join .caller
      [.startGuard "g" {} .plain none, .shutdown "g", .register (.guard "g") "x" (.built 0 builder),
        .register (.guard "g") "x" (.built 7 builder)] ::
    (List.replicate 13 [.move (.act 0), .move (.act 1)]).flatten

set_option maxRecDepth 8000 in
theorem finishes_after_late :
    (((boot #[] none {}).after late).store.guard? 0).map Guard.state = some .stopped ∧
      ((boot #[] none {}).after late).Enrols ((boot #[] none {}).history late) 0 .caller
        ⟨0, "x", .built 7 builder, false⟩ {}
        [.commands [] [.error (.invalidArgument "address" "address != 0"), .done, .text "ok"]] := by
  refine ⟨by decide +kernel, ?_⟩
  have hth : ((boot #[] none {}).after late).thread? 0 = some ⟨.caller,
      [.register ⟨0, "x", .built 7 builder, false⟩ .allocate,
        .commands [] [.error (.invalidArgument "address" "address != 0"), .done, .text "ok"]], none⟩ := rfl
  exact ((finishes_after #[] none {} late 0 .caller 0 "x" 7 builder _).2 hth).enrols {} rfl (by decide)

end System

end Reclaim

import Reclaim.Proofs.Pruning

/-!
# Actions on two stores

What corresponds in two stores corresponds after the same action on both. A request that is made on one
side only leaves no trace that the other side could see.

* `Store.Thinned.guardNamed`, `Store.Thinned.resource?`, `Query.answer_thinned` : both stores are read alike;
* `Store.Thinned.modifyEntry`, `Store.Thinned.modifyGuard` : the same change on both sides;
* `Store.Thinned.retire`, `Store.Thinned.emit`, `Store.Thinned.enqueue`, `Store.Thinned.interrupt` and their
  kin : the actions of the model;
* `Store.Thinned.enqueue_cut`, `Store.Thinned.answer_cut` and their kin : what is done for a request that is
  made on one side only.
-/

namespace Reclaim

namespace Store.Thinned
variable {b : Bond} {s s' : Store} (h : s.Thinned b s')
include h

/-! ## Reading -/

theorem resource? (id : HandleId) : Both (Entry.Thinned b id) True (s.resource? id) (s'.resource? id) := by
  rw [Store.resource?, Store.resource?]
  split
  · exact .none trivial
  · next hne =>
    have hid : (⟨id.number - 1 + 1⟩ : HandleId) = id := by
      rw [Nat.sub_add_cancel (Nat.pos_of_ne_zero hne)]
    exact (h.entries (id.number - 1)).imp (fun _ _ he => hid ▸ he) fun _ => trivial

theorem guard? (g : GuardId) : Both (Guard.Thinned b g) (b.staff g = none) (s.guard? g) (s'.guard? g) :=
  h.guards g

theorem guardNamed (name : String) : s'.guardNamed name = s.guardNamed name := by
  rw [Store.guardNamed, Store.guardNamed, h.names]

theorem idNamed (name : String) : s'.idNamed name = s.idNamed name := by
  rw [Store.idNamed, Store.idNamed, h.names]

theorem handleNamed (name : String) : s'.handleNamed name = s.handleNamed name := by
  rw [Store.handleNamed, Store.handleNamed, h.names]
  cases hid : s.names.handles.lookup name with
  | none => rfl
  | some id =>
    have he := h.resource? id
    simp only
    generalize s.resource? id = e, s'.resource? id = e' at he
    cases he with
    | some he => cases he with | intro => rfl
    | none => rfl

theorem info? (id : HandleId) : s'.info? id = s.info? id := by
  rw [Store.info?, Store.info?]
  have he := h.resource? id
  generalize s.resource? id = e, s'.resource? id = e' at he
  cases he with
  | some he => cases he with | intro => rfl
  | none => rfl

theorem sourceNamed (name : String) : s'.sourceNamed name = s.sourceNamed name := by
  rw [Store.sourceNamed, Store.sourceNamed, h.guardNamed]
  cases s.guardNamed name with
  | error e => rfl
  | ok g =>
    have hx := h.guard? g
    simp only
    generalize s.guard? g = x, s'.guard? g = x' at hx
    cases hx with
    | none => rfl
    | @some x x' hx =>
      cases hx with
      | @intro source state queue _ hsource _ =>
        have hgate := hsource.gate
        obtain ⟨_, _, ⟨_, gate, _⟩, _⟩ := x
        obtain ⟨_, gate', _⟩ := source
        cases hgate
        cases gate with
        | none => rfl
        | some n => rfl

theorem contains (g : GuardId) (id : HandleId) : s'.contains g id = s.contains g id := by
  rw [Store.contains, Store.contains]
  have he := h.resource? id
  have hx := h.guard? g
  generalize s.resource? id = e, s'.resource? id = e' at he
  generalize s.guard? g = x, s'.guard? g = x' at hx
  cases he with
  | none => rfl
  | some he =>
    cases he with
    | intro =>
      cases hx with
      | none => rfl
      | some hx => cases hx with | intro => rfl

theorem isAckPending {k k' : Nat} (hk : b.acks k = some (some k')) : s'.isAckPending k' = s.isAckPending k := by
  obtain ⟨cell, hcell, hcell'⟩ := h.acks.same hk
  rw [Store.isAckPending, Store.isAckPending, hcell, hcell']

/-- The guards in order, without their sources and states. -/
theorem recorder? (name : String) : s'.recorder? name = s.recorder? name := by
  have hpairs : List.Forall₂ (fun x x' : Guard => x'.config = x.config ∧ x'.offered = x.offered)
      s.guards.toList s'.guards.toList := by
    refine List.forall₂_iff_get.mpr ⟨by simpa using h.guards.size_eq.symm, fun i hi hi' => ?_⟩
    have hx := h.guards i
    rw [Array.length_toList] at hi hi'
    rw [Array.getElem?_eq_getElem hi, Array.getElem?_eq_getElem hi'] at hx
    cases hx with
    | some hx =>
      rw [List.get_eq_getElem, List.get_eq_getElem, Array.getElem_toList, Array.getElem_toList]
      generalize s.guards[i] = x, s'.guards[i] = x' at hx
      cases hx with
      | intro => exact ⟨rfl, rfl⟩
  have hfind {xs xs' : List Guard} (p : Config → Bool)
      (hxs : List.Forall₂ (fun x x' : Guard => x'.config = x.config ∧ x'.offered = x.offered) xs xs') :
      (xs'.find? fun x => p x.config).map Guard.offered = (xs.find? fun x => p x.config).map Guard.offered := by
    induction hxs with
    | nil => rfl
    | cons hx _ ih =>
      simp only [List.find?_cons, hx.1]
      split
      · exact congrArg some hx.2
      · exact ih
  have hrev := List.rel_reverse hpairs
  have hoffered := hfind (fun c => c.sink.recorderName? == some name) hrev
  simp only [Store.recorder?, h.processWide]
  generalize s.guards.toList.reverse.find? _ = x, s'.guards.toList.reverse.find? _ = x' at hoffered ⊢
  cases x with
  | none =>
    cases x' with
    | none => rfl
    | some x' => cases hoffered
  | some x =>
    cases x' with
    | none => cases hoffered
    | some x' => exact congrArg some (Option.some.inj hoffered)

end Store.Thinned

/-! ### Questions -/

/-- A guard over a source within reach has no requests before it but those of both runs. -/
theorem Guard.Thinned.pending {b : Bond} {g : GuardId} {x x' : Guard} (h : Guard.Thinned b g x x')
    (hgate : x.source.gate.isSome = true) : x'.source.pending = x.source.pending := by
  cases h with
  | @intro source _ queue _ hsource _ =>
    cases queue with
    | false => exact (hsource.exact rfl).2.2
    | true =>
      rw [(hsource.plain rfl).1] at hgate
      cases hgate

/-- What is shown of a worker's state. -/
theorem Guard.Thinned.state {b : Bond} {g : GuardId} {x x' : Guard} (h : Guard.Thinned b g x x') :
    x'.state = x.state ∨ x.state = .processing ∧ x'.state = .waiting := by
  cases h with
  | @intro _ state _ _ _ hstate =>
    cases hp : b.post g with
    | level => exact .inl (by rw [hp] at hstate; exact hstate)
    | idle =>
      rw [hp] at hstate
      exact .inl (hstate.2.trans hstate.1.symm)
    | late =>
      rw [hp] at hstate
      obtain ⟨-, hne, hwaiting, -⟩ := hstate
      cases hx : x.state with
      | waiting => exact .inl hwaiting
      | processing => exact .inr ⟨rfl, hwaiting⟩
      | stopped => exact (hne hx).elim

theorem Guard.Thinned.stopped {b : Bond} {g : GuardId} {x x' : Guard} (h : Guard.Thinned b g x x') :
    x'.state = .stopped ↔ x.state = .stopped := by
  rcases h.state with heq | ⟨hp, hw⟩
  · rw [heq]
  · rw [hp, hw]
    refine iff_of_false (fun hne => ?_) fun hne => ?_
    · cases hne
    · cases hne

/-- A guard with a gate is not over a queue. -/
theorem Guard.Thinned.staff {b : Bond} {g : GuardId} {x x' : Guard} (h : Guard.Thinned b g x x')
    (hgate : x.source.gate.isSome = true) : b.staff g = some (x.worker, false) := by
  cases h with
  | @intro _ _ queue hstaff hsource _ =>
    cases queue with
    | false => exact hstaff
    | true =>
      rw [(hsource.plain rfl).1] at hgate
      cases hgate

section Query
variable {b : Bond} {s s' : Store} (h : s.Thinned b s') (name : String)
include h

theorem Query.aboutGuard_thinned (f : Guard → Reply) :
    (∃ what, aboutGuard s name f = .error what ∧ aboutGuard s' name f = .error what) ∨
      ∃ g x x', Guard.Thinned b g x x' ∧ aboutGuard s name f = .ok (f x) ∧ aboutGuard s' name f = .ok (f x') := by
  rw [aboutGuard, aboutGuard, h.guardNamed]
  cases s.guardNamed name with
  | error what => exact .inl ⟨what, rfl, rfl⟩
  | ok g =>
    have hx := h.guard? g
    simp only [bind, Except.bind]
    generalize s.guard? g = x, s'.guard? g = x' at hx
    cases hx with
    | none => exact .inl ⟨_, rfl, rfl⟩
    | some hx => exact .inr ⟨g, _, _, hx, rfl, rfl⟩

theorem Query.aboutSource_thinned (f : Source → Reply)
    (hf : ∀ g x x', Guard.Thinned b g x x' → x.source.gate.isSome = true → f x'.source = f x.source) :
    aboutSource s' name f = aboutSource s name f := by
  rw [aboutSource, aboutSource, h.sourceNamed]
  cases hg : s.sourceNamed name with
  | error what => rfl
  | ok g =>
    obtain ⟨-, y, hy, hgate⟩ := Store.sourceNamed_exposed hg
    obtain ⟨x, hguard, rfl⟩ := Option.map_eq_some_iff.mp hy
    have hx := h.guard? g
    simp only [bind, Except.bind]
    rw [hguard] at hx ⊢
    generalize s'.guard? g = x' at hx
    cases hx with
    | some hx => exact congrArg Except.ok (hf g _ _ hx hgate)

theorem Query.aboutHandle_thinned (f : HandleInfo → Reply) : aboutHandle s' name f = aboutHandle s name f := by
  simp only [aboutHandle, h.handleNamed, h.info?]

end Query

/-- Questions are answered alike, but for those that show what a worker is doing. -/
theorem Query.answer_thinned {b : Bond} {s s' : Store} (h : s.Thinned b s') (q : Query) :
    (q.answer s).Shown (q.answer s') ∧ ((Command.ask q).lot = .kept → q.answer s' = q.answer s) := by
  have same (heq : q.answer? s' = q.answer? s) :
      (q.answer s).Shown (q.answer s') ∧ ((Command.ask q).lot = .kept → q.answer s' = q.answer s) := by
    have hanswer : q.answer s' = q.answer s := by rw [Query.answer, heq, Query.answer]
    exact ⟨hanswer ▸ .same _, fun _ => hanswer⟩
  cases q with
  | contains guard handle => exact same (by simp only [answer?, h.guardNamed, h.handleNamed, h.contains])
  | containsProcessWide handle =>
    refine same ?_
    simp only [answer?, h.handleNamed, h.processWide]
    cases s.handleNamed handle with
    | error what => rfl
    | ok id =>
      simp only [bind, Except.bind]
      cases s.processWide.running with
      | none => rfl
      | some g => simp only [h.contains]
  | info handle => exact same (aboutHandle_thinned h handle _)
  | debugHandle handle => exact same (aboutHandle_thinned h handle _)
  | idText handle => exact same (by simp only [answer?, h.idNamed])
  | compare handle other => exact same (by simp only [answer?, h.idNamed])
  | live guard =>
    refine same ?_
    rcases aboutGuard_thinned h guard fun g => .count g.registry.size with ⟨what, hs, hs'⟩ | ⟨g, x, x', hx, hs, hs'⟩
    · exact hs'.trans hs.symm
    · cases hx with
      | intro => exact hs'.trans hs.symm
  | stats guard =>
    refine same ?_
    rcases aboutGuard_thinned h guard fun g => .stats g.stats with ⟨what, hs, hs'⟩ | ⟨g, x, x', hx, hs, hs'⟩
    · exact hs'.trans hs.symm
    · cases hx with
      | intro => exact hs'.trans hs.symm
  | workerState guard =>
    rcases aboutGuard_thinned h guard fun g => .text g.state.name with ⟨what, hs, hs'⟩ | ⟨g, x, x', hx, hs, hs'⟩
    · exact same (hs'.trans hs.symm)
    · refine ⟨?_, fun hkept => by cases hkept⟩
      rw [Query.answer, Query.answer, Query.answer?, Query.answer?, hs, hs']
      rcases hx.state with heq | ⟨hp, hw⟩
      · rw [heq]
        exact .same _
      · rw [hp, hw]
        exact .state
  | debugGuard guard =>
    rcases aboutGuard_thinned h guard fun g => .text g.debug with ⟨what, hs, hs'⟩ | ⟨g, x, x', hx, hs, hs'⟩
    · exact same (hs'.trans hs.symm)
    · refine ⟨?_, fun hkept => by cases hkept⟩
      rw [Query.answer, Query.answer, Query.answer?, Query.answer?, hs, hs']
      have hstate := hx.state
      cases hx with
      | intro _ hsource _ => exact .debug rfl rfl hsource.pending_le hstate
  | pending guard =>
    exact same (aboutSource_thinned h guard (fun source => .count source.pending) fun g x x' hx hgate =>
      congrArg Reply.count (hx.pending hgate))
  | isInterrupted guard =>
    refine same (aboutSource_thinned h guard (fun source => .flag source.isInterrupted) fun g x x' hx _ =>
      congrArg Reply.flag ?_)
    cases hx with
    | intro _ hsource _ => exact hsource.interrupted
  | probe address => exact same (by simp only [answer?, h.probes])
  | record name address => exact same (by simp only [answer?, h.recorder?])

/-! ## What corresponds from now on -/

namespace Bond

/-- The worker of a guard has come to another point. -/
def onPost (b : Bond) (g : GuardId) (p : Post) : Bond := { b with post := Function.update b.post g p }

/-- A new cell, with its counterpart if it has one. -/
def onAck (b : Bond) (k : Nat) (k' : Option Nat) : Bond := { b with acks := Function.update b.acks k (some k') }

/-- A new handle. -/
def onBody (b : Bond) (id : HandleId) (ls : List Lot) : Bond :=
  { b with bodies := Function.update b.bodies id (some ls) }

/-- A new run of a callback. -/
def onRun (b : Bond) (i : Nat) (id : HandleId) : Bond := { b with runs := Function.update b.runs i (some id) }

/-- A new thread with a script. -/
def onScript (b : Bond) (t : ThreadId) (ls : List Lot) : Bond :=
  { b with scripts := Function.update b.scripts t (some ls) }

/-- A new guard. -/
def onGuard (b : Bond) (g : GuardId) (worker : ThreadId) (queue : Bool) : Bond :=
  { b with staff := Function.update b.staff g (some (worker, queue)), post := Function.update b.post g .level }

variable {b : Bond}

theorem onPost_self (b : Bond) (g : GuardId) : b.onPost g (b.post g) = b := by
  rw [onPost, Function.update_eq_self]

theorem onPost_post (b : Bond) (g : GuardId) (p : Post) : (b.onPost g p).post g = p := Function.update_self ..

theorem onPost_of_ne (b : Bond) {g g' : GuardId} (p : Post) (hne : g' ≠ g) : (b.onPost g p).post g' = b.post g' :=
  Function.update_of_ne hne ..

theorem onPost_onPost (b : Bond) (g : GuardId) (p p' : Post) : (b.onPost g p).onPost g p' = b.onPost g p' := by
  simp only [onPost, Function.update_idem]

theorem grows_update {α β : Type} [DecidableEq α] {f : α → Option β} {a : α} (ha : f a = none) (v : β) {a' : α}
    {v' : β} (h : f a' = some v') : Function.update f a (some v) a' = some v' := by
  rw [Function.update_of_ne (fun heq => ?_), h]
  rw [heq, ha] at h
  cases h

theorem grows_onPost (b : Bond) (g : GuardId) (p : Post) : b.Grows (b.onPost g p) := ⟨rfl, id, id, id, id, id⟩

theorem grows_onAck {k : Nat} (hk : b.acks k = none) (k' : Option Nat) : b.Grows (b.onAck k k') :=
  ⟨rfl, grows_update hk k', id, id, id, id⟩

theorem grows_onBody {id : HandleId} (hid : b.bodies id = none) (ls : List Lot) : b.Grows (b.onBody id ls) :=
  ⟨rfl, fun h => h, fun h => h, grows_update hid ls, fun h => h, fun h => h⟩

theorem grows_onRun {i : Nat} (hi : b.runs i = none) (id : HandleId) : b.Grows (b.onRun i id) :=
  ⟨rfl, fun h => h, fun h => h, fun h => h, grows_update hi id, fun h => h⟩

theorem grows_onScript {t : ThreadId} (ht : b.scripts t = none) (ls : List Lot) : b.Grows (b.onScript t ls) :=
  ⟨rfl, fun h => h, fun h => h, fun h => h, fun h => h, grows_update ht ls⟩

theorem grows_onGuard {g : GuardId} (hg : b.staff g = none) (worker : ThreadId) (queue : Bool) :
    b.Grows (b.onGuard g worker queue) :=
  ⟨rfl, id, grows_update hg (worker, queue), id, id, id⟩

end Bond

namespace Store.Thinned
variable {b b' : Bond} {s s' : Store} (h : s.Thinned b s')
include h

/-! ## When more corresponds -/

section Grows
variable (hg : b.Grows b')
include hg

theorem entries_mono (hf : b'.bodies = b.bodies) :
    Paired (fun i => Entry.Thinned b' ⟨i + 1⟩) (fun i => b'.bodies ⟨i + 1⟩ = none) s.entries s'.entries :=
  h.entries.imp (fun _ _ _ _ he => he.mono hg) fun _ _ hnone => by rw [hf, hnone]

theorem guards_mono (hf : b'.staff = b.staff) (hpost : ∀ g v, b.staff g = some v → b'.post g = b.post g) :
    Paired (Guard.Thinned b') (fun g => b'.staff g = none) s.guards s'.guards :=
  h.guards.imp
    (fun g _ _ _ hx => by
      cases hx with
      | intro hstaff hsource hstate => exact (Guard.Thinned.intro hstaff hsource hstate).mono hg (hpost g _ hstaff))
    fun _ _ hnone => by rw [hf, hnone]

theorem calls_mono (hf : b'.runs = b.runs) :
    Paired (Call.Thinned b') (fun i => b'.runs i = none) s.calls s'.calls :=
  h.calls.imp (fun _ _ _ _ hc => hc.mono hg) fun _ _ hnone => by rw [hf, hnone]

theorem named_mono {name : String} {g : GuardId} (hin : (name, g) ∈ s.names.guards) (hq : b'.queued name) :
    ∃ t, b'.staff g = some (t, true) :=
  (h.named hin (hg.queued ▸ hq)).imp fun _ => hg.staff

theorem running_mono {g : GuardId} (hrun : s.processWide.running = some g) : ∃ t, b'.staff g = some (t, true) :=
  (h.running hrun).imp fun _ => hg.staff

end Grows

/-! ## Changes to one place -/

/-- The same change to a handle. -/
theorem modifyEntry (id : HandleId) {f : Entry → Entry}
    (hf : ∀ e e', Entry.Thinned b id e e' → Entry.Thinned b id (f e) (f e')) :
    (s.modifyEntry id f).Thinned b (s'.modifyEntry id f) := by
  rw [Store.modifyEntry, Store.modifyEntry]
  split
  · exact h
  · next hne =>
    have hid : (⟨id.number - 1 + 1⟩ : HandleId) = id := by
      rw [Nat.sub_add_cancel (Nat.pos_of_ne_zero hne)]
    exact { h with
      entries := h.entries.modify _ (fun e e' _ he => by rw [hid] at he ⊢; exact hf e e' he) fun _ _ _ _ he => he }

/-- A change to a guard; its worker may come to another point. -/
theorem modifyGuard_post (g : GuardId) (p : Post) {f f' : Guard → Guard}
    (hf : ∀ x x', s.guard? g = some x → Guard.Thinned b g x x' → Guard.Thinned (b.onPost g p) g (f x) (f' x')) :
    (s.modifyGuard g f).Thinned (b.onPost g p) (s'.modifyGuard g f') :=
  { h with
    entries := h.entries_mono (b.grows_onPost g p) rfl
    guards := h.guards.modify g hf fun _ _ _ hne hx => hx.mono (b.grows_onPost g p) (b.onPost_of_ne p hne)
    calls := h.calls_mono (b.grows_onPost g p) rfl }

/-- A change to a guard on one side only; its worker may come to another point. -/
theorem modifyGuard_left (g : GuardId) (p : Post) {f : Guard → Guard}
    (hf : ∀ x x', s.guard? g = some x → s'.guard? g = some x' → Guard.Thinned b g x x' →
      Guard.Thinned (b.onPost g p) g (f x) x') :
    (s.modifyGuard g f).Thinned (b.onPost g p) s' :=
  { h with
    entries := h.entries_mono (b.grows_onPost g p) rfl
    guards := h.guards.modify_left g hf fun _ _ _ hne hx => hx.mono (b.grows_onPost g p) (b.onPost_of_ne p hne)
    calls := h.calls_mono (b.grows_onPost g p) rfl }

/-- The same change to a guard. -/
theorem modifyGuard (g : GuardId) {f : Guard → Guard}
    (hf : ∀ x x', Guard.Thinned b g x x' → Guard.Thinned b g (f x) (f x')) :
    (s.modifyGuard g f).Thinned b (s'.modifyGuard g f) := by
  have hm : (s.modifyGuard g f).Thinned (b.onPost g (b.post g)) (s'.modifyGuard g f) :=
    h.modifyGuard_post g (b.post g) fun x x' _ hx => by
      rw [b.onPost_self]
      exact hf x x' hx
  rwa [b.onPost_self] at hm

/-- Other sources for a guard. -/
theorem modifySource {g : GuardId} {t : ThreadId} {queue : Bool} (hstaff : b.staff g = some (t, queue)) {x : Guard}
    (hguard : s.guard? g = some x) {y y' : Source} (hy : Source.Thinned b.acks queue y y')
    (hd : b.post g = .late → y.delivered = x.source.delivered) :
    (s.modifySource g fun _ => y).Thinned b (s'.modifySource g fun _ => y') := by
  have hm : (s.modifySource g fun _ => y).Thinned (b.onPost g (b.post g)) (s'.modifySource g fun _ => y') :=
    h.modifyGuard_post g (b.post g) fun z z' hz hx => by
      rw [b.onPost_self]
      obtain rfl := Option.some.inj (hguard.symm.trans hz)
      cases hx with
      | intro hstaff' _ hstate =>
        obtain ⟨rfl, rfl⟩ := Prod.mk.inj (Option.some.inj (hstaff.symm.trans hstaff'))
        exact .intro (x := { x with source := y }) hstaff' hy (hstate.delivered hd)
  rwa [b.onPost_self] at hm

/-- Another source for a guard on one side only. -/
theorem modifySource_left {g : GuardId} {t : ThreadId} (hstaff : b.staff g = some (t, true)) {x x' : Guard}
    (hguard : s.guard? g = some x) (hguard' : s'.guard? g = some x') {y : Source}
    (hy : Source.Thinned b.acks true y x'.source) (hd : b.post g = .late → y.delivered = x.source.delivered) :
    (s.modifySource g fun _ => y).Thinned b s' := by
  have hm := h.modifyGuard_left g (b.post g) (f := fun x => { x with source := y }) fun z z' hz hz' hx => by
    rw [b.onPost_self]
    obtain rfl := Option.some.inj (hguard.symm.trans hz)
    obtain rfl := Option.some.inj (hguard'.symm.trans hz')
    cases hx with
    | intro hstaff' _ hstate =>
      obtain ⟨rfl, rfl⟩ := Prod.mk.inj (Option.some.inj (hstaff.symm.trans hstaff'))
      exact .intro (x := { x with source := y }) hstaff' hy (hstate.delivered hd)
  rwa [b.onPost_self] at hm

theorem modifyStats (g : GuardId) (f : Stats → Stats) : (s.modifyStats g f).Thinned b (s'.modifyStats g f) :=
  h.modifyGuard g fun x x' hx => by
    cases hx with
    | intro hstaff hsource hstate => exact .intro hstaff hsource hstate

theorem log (level : Level) (text : String) : (s.log level text).Thinned b (s'.log level text) :=
  { h with output := h.output.log level text }


/-- A worker stands otherwise to its counterpart. -/
theorem repost {g : GuardId} {t : ThreadId} {queue : Bool} (hstaff : b.staff g = some (t, queue)) (p : Post)
    (hp : ∀ x state', s.guard? g = some x →
      (b.post g).Holds b.acks queue x.source.delivered x.state state' →
      p.Holds b.acks queue x.source.delivered x.state state') :
    s.Thinned (b.onPost g p) s' :=
  { h with
    entries := h.entries_mono (b.grows_onPost g p) rfl
    guards := h.guards.imp
      (fun g' x x' hguard hx => by
        by_cases heq : g' = g
        · subst heq
          cases hx with
          | intro hstaff' hsource hstate =>
            obtain ⟨rfl, rfl⟩ := Prod.mk.inj (Option.some.inj (hstaff.symm.trans hstaff'))
            refine .intro hstaff' hsource ?_
            rw [b.onPost_post]
            exact hp _ _ hguard hstate
        · exact hx.mono (b.grows_onPost g p) (b.onPost_of_ne p heq))
      fun _ _ hnone => hnone
    calls := h.calls_mono (b.grows_onPost g p) rfl }

/-- Both workers are said to be doing the same. -/
theorem setWorkerState {g : GuardId} (state : WorkerState) {p : Post}
    (hp : ∀ queue delivered, p.Holds b.acks queue delivered state state) :
    (s.setWorkerState g state).Thinned (b.onPost g p) (s'.setWorkerState g state) :=
  h.modifyGuard_post g p fun x x' _ hx => by
    cases hx with
    | intro hstaff hsource hstate =>
      refine .intro hstaff hsource ?_
      rw [b.onPost_post]
      exact hp _ _

/-- Only one of the workers is said to be doing something else. -/
theorem setWorkerState_left {g : GuardId} {state : WorkerState} (hlate : b.post g = .late) {p : Post}
    (hp : ∀ delivered, (∃ k rest, b.acks k = some none ∧ delivered = .flush k :: rest) →
      p.Holds b.acks true delivered state .waiting) :
    (s.setWorkerState g state).Thinned (b.onPost g p) s' :=
  h.modifyGuard_left g p fun x x' _ _ hx => by
    cases hx with
    | intro hstaff hsource hstate =>
      rw [hlate] at hstate
      obtain ⟨rfl, -, rfl, hd⟩ := hstate
      refine .intro (x := { x with state }) hstaff hsource ?_
      rw [b.onPost_post]
      exact hp _ hd

/-! ## Handles -/

theorem track (g : GuardId) (id : HandleId) : (s.track g id).Thinned b (s'.track g id) :=
  h.modifyGuard g fun x x' hx => by
    cases hx with
    | intro hstaff hsource hstate => exact .intro hstaff hsource hstate

theorem untrack (g : GuardId) (id : HandleId) : (s.untrack g id).Thinned b (s'.untrack g id) :=
  h.modifyGuard g fun x x' hx => by
    cases hx with
    | intro hstaff hsource hstate => exact .intro hstaff hsource hstate

theorem markReleased (id : HandleId) : (s.markReleased id).Thinned b (s'.markReleased id) :=
  h.modifyEntry id fun e e' he => by
    cases he with
    | intro hbody hf => exact .intro hbody hf

theorem retire (id : HandleId) : Twin b (s.retire id) (s'.retire id) := by
  rw [Store.retire, Store.retire]
  have he := h.resource? id
  generalize s.resource? id = e, s'.resource? id = e' at he
  cases he with
  | none => exact .intro _ h
  | @some e e' he =>
    cases he with
    | intro hbody hf =>
      cases hstate : e.state with
      | active =>
        simp only [hstate]
        exact .intro _ ((h.markReleased id).untrack e.guard id)
      | released =>
        simp only [hstate]
        exact .intro _ h

theorem takeActive (g : GuardId) (id : HandleId) : Twin b (s.takeActive g id) (s'.takeActive g id) := by
  rw [Store.takeActive, Store.takeActive]
  have hx := h.guard? g
  generalize s.guard? g = x, s'.guard? g = x' at hx
  cases hx with
  | none => exact .intro _ h
  | @some x x' hx =>
    cases hx with
    | intro =>
      simp only
      split
      · have he := h.resource? id
        generalize s.resource? id = e, s'.resource? id = e' at he
        cases he with
        | none => exact .intro _ h
        | @some e e' he =>
          cases he with
          | intro =>
            cases hstate : e.state with
            | active =>
              simp only [hstate]
              exact .intro _ ((h.markReleased id).untrack g id)
            | released =>
              simp only [hstate]
              exact .intro _ h
      · exact .intro _ h

theorem dropShare (id : HandleId) : Twin b (s.dropShare id) (s'.dropShare id) := by
  rw [Store.dropShare, Store.dropShare]
  have he := h.resource? id
  generalize s.resource? id = e, s'.resource? id = e' at he
  cases he with
  | none => exact .intro _ h
  | some he =>
    cases he with
    | intro =>
      exact .intro _ (h.modifyEntry id fun e e' he => by
        cases he with
        | intro hbody hf => exact .intro hbody hf)

theorem beginUse (id : HandleId) : (s.beginUse id).Thinned b (s'.beginUse id) :=
  h.modifyEntry id fun e e' he => by
    cases he with
    | intro hbody hf => exact .intro hbody hf

theorem endUse (id : HandleId) : Twin b (s.endUse id) (s'.endUse id) := by
  rw [Store.endUse, Store.endUse]
  have he := h.resource? id
  generalize s.resource? id = e, s'.resource? id = e' at he
  cases he with
  | none => exact .intro _ h
  | some he =>
    cases he with
    | intro =>
      exact .intro _ (h.modifyEntry id fun e e' he => by
        cases he with
        | intro hbody hf => exact .intro hbody hf)

theorem bindHandle (name : String) (id : HandleId) : (s.bindHandle name id).Thinned b (s'.bindHandle name id) :=
  { h with names := by simp only [Store.bindHandle, h.names] }

/-- A new handle has the same number on both sides. -/
theorem allocate (g : GuardId) {r r' : Registration Command} {f f' : ReleaseFn} {ls : List Lot}
    (haddress : r'.address = r.address) (hlabel : r'.label = r.label) (hf : Callback.Pruned b.queued ls f f') :
    b.Grows (b.onBody ⟨s.entries.size + 1⟩ ls) ∧
      Twin (b.onBody ⟨s.entries.size + 1⟩ ls) (s.allocate g r f) (s'.allocate g r' f') := by
  have hg := Bond.grows_onBody (h.entries.fresh_of_le (Nat.le_refl _)) ls
  have hid : (⟨s'.entries.size + 1⟩ : HandleId) = ⟨s.entries.size + 1⟩ := by rw [h.entries.size_eq]
  refine ⟨hg, ?_⟩
  rw [Store.allocate, Store.allocate, haddress, hlabel, hid]
  refine .intro _ { h with
    entries := h.entries.push ?_ (fun _ _ _ _ he => he.mono hg) fun i hi hnone => ?_
    guards := h.guards_mono hg rfl fun _ _ _ => rfl
    calls := h.calls_mono hg rfl }
  · exact .intro (Function.update_self ..) hf
  · refine (Function.update_of_ne (fun heq => ?_) ..).trans hnone
    have hsize := Nat.succ.inj (congrArg HandleId.number heq)
    exact Nat.ne_of_gt hi hsize

/-! ## Counters and diagnostics -/

theorem countRegistered (g : GuardId) (id : HandleId) (address : Address) :
    (s.countRegistered g id address).Thinned b (s'.countRegistered g id address) :=
  (h.modifyStats g _).log _ _

theorem countReleased (id : HandleId) : (s.countReleased id).Thinned b (s'.countReleased id) := by
  rw [Store.countReleased, Store.countReleased]
  have he := h.resource? id
  generalize s.resource? id = e, s'.resource? id = e' at he
  cases he with
  | none => exact h
  | @some e e' he => cases he with | intro => exact (h.modifyStats e.guard _).log _ _

theorem countReclaimed (g : GuardId) : (s.countReclaimed g).Thinned b (s'.countReclaimed g) := h.modifyStats g _

theorem countFailure (g : GuardId) : (s.countFailure g).Thinned b (s'.countFailure g) := h.modifyStats g _

theorem countDiscarded (g : GuardId) (id : HandleId) :
    (s.countDiscarded g id).Thinned b (s'.countDiscarded g id) :=
  (h.modifyStats g _).log _ _

theorem emit (g : GuardId) (d : Diagnostic) : Twin b (s.emit g d) (s'.emit g d) := by
  rw [Store.emit, Store.emit]
  have hx := h.guard? g
  generalize s.guard? g = x, s'.guard? g = x' at hx
  cases hx with
  | none => exact .intro _ h
  | @some x x' hx =>
    cases hx with
    | intro =>
      have hm := h.modifyGuard g (f := (·.offer d)) fun x x' hx => by
        cases hx with
        | intro hstaff hsource hstate => exact .intro hstaff hsource hstate
      exact .intro _ { hm with output := hm.output.deliver x.config.sink d }

/-! ## Callbacks -/

/-- A new run has the same number on both sides. -/
theorem beginCall {id : HandleId} {e e' : Entry} (he : Entry.Thinned b id e e') (t : ThreadId) :
    b.Grows (b.onRun s.calls.size id) ∧
      Twin (b.onRun s.calls.size id) (s.beginCall id e t) (s'.beginCall id e' t) := by
  have hg := Bond.grows_onRun (h.calls.fresh_of_le (Nat.le_refl _)) id
  refine ⟨hg, ?_⟩
  have hlisted : e'.callback.listed = e.callback.listed ∧ e'.address = e.address := by
    cases he with
    | intro _ hf => exact ⟨hf.alike.2.1, rfl⟩
  rw [Store.beginCall, Store.beginCall, h.calls.size_eq, hlisted.1, hlisted.2]
  refine .intro _ { h with
    entries := h.entries_mono hg rfl
    guards := h.guards_mono hg rfl fun _ _ _ => rfl
    calls := h.calls.push ?_ (fun _ _ _ _ hc => hc.mono hg) fun i hi hnone => ?_ }
  · exact .intro (c := ⟨id, _, _, _, none⟩) (Function.update_self ..) .none
  · exact (Function.update_of_ne (Nat.ne_of_gt hi) ..).trans hnone

theorem tellProbe {id : HandleId} {e e' : Entry} (he : Entry.Thinned b id e e') :
    Twin b (s.tellProbe e) (s'.tellProbe e') := by
  have hprobe : e'.callback.probe = e.callback.probe ∧ e'.address = e.address := by
    cases he with
    | intro _ hf => exact ⟨hf.alike.1, rfl⟩
  rw [Store.tellProbe, Store.tellProbe, hprobe.1, hprobe.2, h.probes]
  cases e.callback.probe with
  | none => exact .intro _ h
  | some i =>
    simp only
    cases s.probes[i]? with
    | none => exact .intro _ h
    | some probe => exact .intro _ { h with probes := rfl }

theorem endCall {call : Nat} {id : HandleId} {ls : List Lot} {rs rs' : List Reply}
    (hrun : b.runs call = some id) (hls : b.bodies id = some ls) (hanswers : Answers ls rs rs') :
    (s.endCall call rs).Thinned b (s'.endCall call rs') :=
  { h with
    calls := h.calls.modify call
      (fun c c' _ hc => by
        cases hc with
        | intro hrun' _ =>
          obtain rfl := Option.some.inj (hrun.symm.trans hrun')
          exact .intro hrun' (.some ⟨ls, hls, hanswers⟩))
      fun _ _ _ _ hc => hc }

/-! ## Guards and the process -/

theorem bindGuard (name : String) {g : GuardId} (hg : b.queued name → ∃ t, b.staff g = some (t, true)) :
    (s.bindGuard name g).Thinned b (s'.bindGuard name g) :=
  { h with
    names := by simp only [Store.bindGuard, h.names]
    named := fun hin hq => by
      rcases List.mem_cons.mp hin with heq | hin
      · cases heq
        exact hg hq
      · exact h.named hin hq }

theorem forgetGuard (name : String) : (s.forgetGuard name).Thinned b (s'.forgetGuard name) :=
  { h with
    names := by simp only [Store.forgetGuard, h.names]
    named := fun hin hq => h.named (List.mem_of_mem_filter hin) hq }

theorem isProcessWide (g : GuardId) : s'.isProcessWide g = s.isProcessWide g := by
  rw [Store.isProcessWide, Store.isProcessWide, h.processWide]

theorem processWideConfig : s'.processWideConfig = s.processWideConfig := by
  rw [Store.processWideConfig, Store.processWideConfig, h.processWide, h.environment]

/-- A new guard has the same number on both sides. -/
theorem addGuard (config : Config) (kind : SourceKind) (panicsAt : Option Nat) (worker : ThreadId) :
    b.Grows (b.onGuard s.guards.size worker (kind.source panicsAt).gate.isNone) ∧
      Twin (b.onGuard s.guards.size worker (kind.source panicsAt).gate.isNone)
        (s.addGuard config (kind.source panicsAt) worker) (s'.addGuard config (kind.source panicsAt) worker) := by
  have hnone := h.guards.fresh_of_le (Nat.le_refl _)
  have hg := Bond.grows_onGuard hnone worker (kind.source panicsAt).gate.isNone
  refine ⟨hg, ?_⟩
  rw [Store.addGuard, Store.addGuard, h.guards.size_eq]
  have hold {g : GuardId} (hne : g ≠ s.guards.size) :
      (b.onGuard s.guards.size worker (kind.source panicsAt).gate.isNone).post g = b.post g :=
    Function.update_of_ne hne ..
  refine .intro _ { h with
    entries := h.entries_mono hg rfl
    guards := h.guards.push ?_ (fun g _ _ hlt hx => hx.mono hg (hold (Nat.ne_of_lt hlt))) fun g hlt hno => ?_
    calls := h.calls_mono hg rfl
    named := h.named_mono hg
    running := h.running_mono hg }
  · refine .intro (x := { config, worker, source := kind.source panicsAt }) (Function.update_self ..)
      (.refl_of_fresh kind panicsAt) ?_
    have hlevel : (b.onGuard s.guards.size worker (kind.source panicsAt).gate.isNone).post s.guards.size = .level :=
      Function.update_self ..
    rw [hlevel]
    rfl
  · exact (Function.update_of_ne (Nat.ne_of_gt hlt) ..).trans hno

theorem choose (config : Config) : (∃ e, s.choose config = .error e ∧ s'.choose config = .error e) ∨
    ∃ r r', s.choose config = .ok r ∧ s'.choose config = .ok r' ∧ r.Thinned b r' := by
  rw [Store.choose, Store.choose, h.processWide]
  cases hrun : s.processWide.running with
  | some g => exact .inl ⟨_, rfl, rfl⟩
  | none =>
    exact .inr ⟨_, _, rfl, rfl, { h with
      processWide := rfl
      running := fun hg => h.running hg }⟩

/-! ## Answers to requests -/

theorem newAck : b.Grows (b.onAck s.acks.size (some s'.acks.size)) ∧
    s.newAck.1.Thinned (b.onAck s.acks.size (some s'.acks.size)) s'.newAck.1 := by
  have hg := Bond.grows_onAck (h.acks.fresh (Nat.le_refl _)) (some s'.acks.size)
  exact ⟨hg, { h with
    entries := h.entries_mono hg rfl
    guards := h.guards_mono hg rfl fun _ _ _ => rfl
    calls := h.calls_mono hg rfl
    acks := h.acks.push .pending }⟩

theorem newAck_cut : b.Grows (b.onAck s.acks.size none) ∧ s.newAck.1.Thinned (b.onAck s.acks.size none) s' := by
  have hg := Bond.grows_onAck (h.acks.fresh (Nat.le_refl _)) none
  exact ⟨hg, { h with
    entries := h.entries_mono hg rfl
    guards := h.guards_mono hg rfl fun _ _ _ => rfl
    calls := h.calls_mono hg rfl
    acks := h.acks.push_cut .pending }⟩

theorem answer {k k' : Nat} (hk : b.acks k = some (some k')) : (s.answer k).Thinned b (s'.answer k') :=
  { h with acks := h.acks.modify hk (·.send ()) }

theorem answer_cut {k : Nat} (hk : b.acks k = some none) : (s.answer k).Thinned b s' :=
  { h with acks := h.acks.modify_cut hk (·.send ()) }

theorem closeAck {k k' : Nat} (hk : b.acks k = some (some k')) : (s.closeAck k).Thinned b (s'.closeAck k') :=
  { h with acks := h.acks.modify hk Oneshot.close }

theorem closeAck_cut {k : Nat} (hk : b.acks k = some none) : (s.closeAck k).Thinned b s' :=
  { h with acks := h.acks.modify_cut hk Oneshot.close }

theorem takeAck {k k' : Nat} (hk : b.acks k = some (some k')) : Twin b (s.takeAck k) (s'.takeAck k') := by
  obtain ⟨cell, hcell, hcell'⟩ := h.acks.same hk
  rw [Store.takeAck, Store.takeAck, hcell, hcell']
  exact .intro _ { h with acks := h.acks.modify hk fun _ => cell.take.1 }

theorem takeAck_cut {k : Nat} (hk : b.acks k = some none) : (s.takeAck k).1.Thinned b s' := by
  rw [Store.takeAck]
  cases s.acks[k]? with
  | none => exact h
  | some cell => exact { h with acks := h.acks.modify_cut hk fun _ => cell.take.1 }

/-! ## Sources -/

theorem enqueue (g : GuardId) {i i' : Item} (hi : i.Kept b.acks i') : Twin b (s.enqueue g i) (s'.enqueue g i') := by
  rw [Store.enqueue, Store.enqueue]
  have hx := h.guard? g
  generalize hguard : s.guard? g = x at hx
  generalize s'.guard? g = x' at hx
  cases hx with
  | none => exact .intro _ h
  | some hx =>
    cases hx with
    | intro hstaff hsource _ =>
      simp only [Option.bind_some]
      rcases hsource.enqueue hi with ⟨hno, hno'⟩ | ⟨y, y', hy, hy', hyy, hd⟩
      · rw [hno, hno']
        exact .intro _ h
      · rw [hy, hy']
        exact .intro _ (h.modifySource hstaff hguard hyy fun _ => hd)

theorem enqueue_cut {g : GuardId} {t : ThreadId} (hstaff : b.staff g = some (t, true)) {k : Nat}
    (hk : b.acks k = some none) : (s.enqueue g (.flush k)).1.Thinned b s' := by
  rw [Store.enqueue]
  have hx := h.guard? g
  generalize hguard : s.guard? g = x at hx
  generalize hguard' : s'.guard? g = x' at hx
  cases hx with
  | none => exact h
  | @some x x' hx =>
    cases hx with
    | intro hstaff' hsource _ =>
      obtain ⟨rfl, rfl⟩ := Prod.mk.inj (Option.some.inj (hstaff.symm.trans hstaff'))
      simp only [Option.bind_some]
      cases hy : x.source.enqueue (.flush k) with
      | none => exact h
      | some y =>
        obtain ⟨hyy, hd⟩ := hsource.enqueue_cut hk hy
        exact h.modifySource_left hstaff hguard hguard' hyy fun _ => hd

theorem callNext (g : GuardId) : Twin b (s.callNext g) (s'.callNext g) := by
  rw [Store.callNext, Store.callNext]
  have hx := h.guard? g
  generalize hguard : s.guard? g = x at hx
  generalize s'.guard? g = x' at hx
  cases hx with
  | none => exact .intro _ h
  | some hx =>
    cases hx with
    | intro hstaff hsource _ =>
      simp only [hsource.ask.1]
      exact .intro _ (h.modifySource hstaff hguard hsource.ask.2 fun _ => rfl)

theorem callNext_cut {g : GuardId} {t : ThreadId} (hstaff : b.staff g = some (t, true)) :
    (s.callNext g).2 = false ∧ (s.callNext g).1.Thinned b s' := by
  rw [Store.callNext]
  have hx := h.guard? g
  generalize hguard : s.guard? g = x at hx
  generalize hguard' : s'.guard? g = x' at hx
  cases hx with
  | none => exact ⟨rfl, h⟩
  | @some x x' hx =>
    cases hx with
    | intro hstaff' hsource _ =>
      obtain ⟨rfl, rfl⟩ := Prod.mk.inj (Option.some.inj (hstaff.symm.trans hstaff'))
      exact ⟨hsource.ask_cut.1, h.modifySource_left hstaff hguard hguard' hsource.ask_cut.2 fun _ => rfl⟩

theorem permit (g : GuardId) (n : Nat) : (s.permit g n).Thinned b (s'.permit g n) :=
  h.modifyGuard g fun x x' hx => by
    cases hx with
    | intro hstaff hsource hstate => exact .intro hstaff (hsource.permit n) hstate

theorem permitPending (g : GuardId) : (s.permitPending g).Thinned b (s'.permitPending g) :=
  h.modifyGuard g fun x x' hx => by
    cases hx with
    | intro hstaff hsource hstate => exact .intro hstaff hsource.permitPending hstate

theorem permitPending_cut {g : GuardId} {t : ThreadId} (hstaff : b.staff g = some (t, true)) :
    (s.permitPending g).Thinned b s' := by
  have hm := h.modifyGuard_left g (b.post g) (f := fun x => { x with source := x.source.permitPending })
    fun x x' _ _ hx => by
      rw [b.onPost_self]
      cases hx with
      | intro hstaff' hsource hstate =>
        obtain ⟨rfl, rfl⟩ := Prod.mk.inj (Option.some.inj (hstaff.symm.trans hstaff'))
        rw [hsource.permitPending_eq]
        exact .intro hstaff' hsource hstate
  rwa [b.onPost_self] at hm

/-- Both sources are interrupted, and hand out the requests that were pending. -/
theorem interrupt (g : GuardId) : (s.interrupt g).1.Thinned b (s'.interrupt g).1 ∧
    Spared b.acks (s.interrupt g).2 (s'.interrupt g).2 := by
  rw [Store.interrupt, Store.interrupt]
  have hx := h.guard? g
  generalize hguard : s.guard? g = x at hx
  generalize s'.guard? g = x' at hx
  cases hx with
  | none => exact ⟨h, .nil⟩
  | @some x x' hx =>
    cases hx with
    | @intro source _ _ hstaff hsource _ =>
      obtain ⟨hitems, hsource⟩ := hsource.interrupt
      have hm := h.modifySource hstaff hguard hsource fun _ => rfl
      refine ⟨?_, hitems.requests⟩
      -- either side logs how much it throws away, if it is anything
      simp only
      split <;> split
      · exact hm
      · exact { hm with output := hm.output.tally_right source.interrupt.2.length }
      · exact { hm with output := hm.output.tally_left x.source.interrupt.2.length }
      · exact { hm with
          output := (hm.output.tally_left x.source.interrupt.2.length).tally_right source.interrupt.2.length }

omit h in
theorem isSourceReady_of_poll {g : GuardId} (hg : (s.pollNext g).2 ≠ .wait) : s.isSourceReady g = true := by
  rw [Store.pollNext] at hg
  rw [Store.isSourceReady]
  cases hx : s.guard? g with
  | none =>
    rw [hx] at hg
    exact (hg rfl).elim
  | some x =>
    rw [hx] at hg
    refine Source.isReady_of_poll fun hwait => hg ?_
    simp only
    rw [hwait]

theorem isSourceReady {g : GuardId} (hg : s.isSourceReady g = false) : s'.isSourceReady g = false := by
  rw [Store.isSourceReady] at hg ⊢
  have hx := h.guard? g
  generalize s.guard? g = x, s'.guard? g = x' at hx hg
  cases hx with
  | none => rfl
  | some hx => cases hx with | intro _ hsource _ => exact hsource.isReady hg

/-- A worker at rest is so in both runs, if its source is no plain queue. -/
theorem isAtRest {g : GuardId} {t : ThreadId} (hstaff : b.staff g = some (t, false)) :
    s'.isAtRest g = s.isAtRest g := by
  rw [Store.isAtRest, Store.isAtRest]
  have hx := h.guard? g
  generalize s.guard? g = x, s'.guard? g = x' at hx
  cases hx with
  | none => rfl
  | @some x x' hx =>
    cases hx with
    | @intro source state _ hstaff' hsource hholds =>
      obtain ⟨-, rfl⟩ := Prod.mk.inj (Option.some.inj (hstaff.symm.trans hstaff'))
      obtain ⟨hgate, hcalls, hpending⟩ := hsource.exact rfl
      have hint : source.isInterrupted = x.source.isInterrupted := hsource.interrupted
      have heq : state = x.state := by
        cases hp : b.post g with
        | level =>
          rw [hp] at hholds
          exact hholds
        | idle =>
          rw [hp] at hholds
          exact hholds.2.trans hholds.1.symm
        | late =>
          rw [hp] at hholds
          cases hholds.1
      simp only [heq, Source.isReady, Source.hasPanicked, hint, hpending, hsource.isOpen, hsource.panicsAt, hcalls]

/-- What the looks of two workers come to; one may find a request that was not made in the other run. -/
theorem pollNext {g : GuardId} (hpost : b.post g = .idle) (hready : s.isSourceReady g = true) :
    ((s.pollNext g).2 = .interrupted ∧ (s'.pollNext g).2 = .interrupted ∧
      (s.pollNext g).1.Thinned b (s'.pollNext g).1) ∨
    (∃ i i', i.Kept b.acks i' ∧ (s.pollNext g).2 = .item i ∧ (s'.pollNext g).2 = .item i' ∧
      (s.pollNext g).1.Thinned b (s'.pollNext g).1) ∨
    (∃ k k', (s.pollNext g).2 = .swallowed k ∧ (s'.pollNext g).2 = .swallowed k' ∧
      (s.pollNext g).1.Thinned b (s'.pollNext g).1) ∨
    (∃ k t, b.staff g = some (t, true) ∧ (s.pollNext g).2 = .item (.flush k) ∧ b.acks k = some none ∧
      (s.pollNext g).1.Thinned (b.onPost g .late) s') := by
  have hidle (heq : b.post g = .late) : False := by
    rw [hpost] at heq
    cases heq
  rw [Store.isSourceReady] at hready
  rw [Store.pollNext, Store.pollNext]
  have hx := h.guard? g
  generalize hguard : s.guard? g = x at hx hready
  generalize hguard' : s'.guard? g = x' at hx
  cases hx with
  | none => cases hready
  | @some x x' hx =>
    cases hx with
    | @intro source _ queue hstaff hsource hstate =>
      simp only at hready ⊢
      rcases hsource.poll hready with ⟨hp, hp'⟩ | ⟨i, i', hi, hp, hp', hm⟩ | ⟨k, k', hk, hp, hp', hm⟩ |
        ⟨k, rfl, hk, hp, hd, hm⟩
      · rw [hp, hp']
        exact .inl ⟨rfl, rfl, h.modifySource hstaff hguard hsource fun _ => rfl⟩
      · rw [hp, hp']
        exact .inr (.inl ⟨i, i', hi, rfl, rfl, h.modifySource hstaff hguard hm fun heq => (hidle heq).elim⟩)
      · rw [hp, hp']
        exact .inr (.inr (.inl ⟨k, k', rfl, rfl,
          (h.modifySource hstaff hguard hm fun heq => (hidle heq).elim).closeAck hk⟩))
      · rw [hp]
        refine .inr (.inr (.inr ⟨k, _, hstaff, rfl, hk, ?_⟩))
        refine h.modifyGuard_left g .late fun z z' hz hz' hzz => ?_
        obtain rfl := Option.some.inj (hguard.symm.trans hz)
        obtain rfl := Option.some.inj (hguard'.symm.trans hz')
        rw [hpost] at hstate
        have hne : x.state ≠ .stopped := by
          rw [hstate.1]
          decide
        refine .intro (x := { x with source := x.source.poll.1 }) hstaff hm ?_
        rw [b.onPost_post]
        exact ⟨rfl, hne, hstate.2, k, _, hk, hd⟩

end Store.Thinned

end Reclaim

import Reclaim.Proofs.Chains
import Reclaim.Proofs.Routine
import Reclaim.Proofs.Tallies

/-!
# What probes hear

Of all actions only the start of a callback tells a probe something, so what a probe has heard of are the callbacks
that have started, in order, wherever it fails. As no callback starts twice, an address is not heard of more often
than it was registered.

* `Store.Routine.probes`, `Frame.advance_probes` : actions that leave probes alone;
* `Store.heard`, `Store.enrolled` : the runs that a probe is to hear of, and the resources that are registered with
  it; `Store.heard_subperm`;
* `System.Tuned`, `System.tuned_after` : a probe has heard of the runs, in order;
* `System.Witnessed`, `System.witnessed` : all together.
-/

namespace Reclaim

/-! ## Actions that probes do not hear of -/

theorem Store.Routine.probes {s s' : Store} (h : s.Routine s') : s'.probes = s.probes := by
  induction h with
  | trans _ _ ih ih' => exact ih'.trans ih
  | entry s id =>
    unfold Store.modifyEntry
    split <;> rfl
  | refl | guard | allocate | aside => rfl

/-- A command that chooses an address at which the first probe fails. -/
def Command.chooses? : Command → Option Address
  | failOn a => some a
  | _ => none

theorem Command.Rare.begin_probes {c : Command} (hc : c.Rare) (s : Store) (hchooses : c.chooses? = none) :
    (c.begin s).1.probes = s.probes := by
  cases hc with
  | failOn address => cases hchooses
  | setEnvironment environment => rfl
  | choose recorder setup =>
    obtain hbeginning | ⟨what, -, hmissing⟩ := (Command.choose recorder setup).begin_cases s
    · generalize (Command.choose recorder setup).begin s = r at hbeginning
      obtain ⟨s', b⟩ := r
      cases hbeginning <;> rfl
    · rw [hmissing]

/-- The address at which the first probe fails after the next action of a frame. -/
def Frame.chooses? : Frame → Option Address
  | .commands (c :: _) _ => c.chooses?
  | _ => none

section Frames
variable (s : Store)

/-- Only a callback that starts and a command that chooses an address concern probes. -/
theorem Frame.advance_probes (thread fresh : ThreadId) {x : Frame} (hx : x.starts = [])
    (hc : x.chooses? = none) : (x.advance thread fresh s).1.probes = s.probes := by
  by_cases hrare : x.Rare
  · cases hrare with
    | command hrare todo done =>
      rw [advance, Script.advance_fst]
      exact hrare.begin_probes s hc
    | enter id => cases hx
    | claim g =>
      simp only [advance, ShutdownPoint.advance]
      repeat' split
      all_goals rfl
    | start q => rfl
    | processWide p =>
      simp only [advance, Purpose.advance]
      repeat' split
      all_goals rfl
  · exact (x.routine thread fresh s hrare).probes

/-- A command chooses an address at which the first probe fails. -/
theorem Frame.advance_chooses (thread fresh : ThreadId) {x : Frame} {a : Address} (hc : x.chooses? = some a) :
    (x.advance thread fresh s).1.probes = s.probes.modify 0 (·.failOn a) := by
  unfold chooses? at hc
  split at hc
  · next c todo done =>
    cases c with
    | failOn b =>
      cases hc
      rfl
    | _ => cases hc
  · cases hc

end Frames

/-! ## What probes have heard -/

/-- What a probe is told when the callback of a resource starts. -/
def Entry.tells? (i : Nat) (e : Entry) : Option Address := if e.callback.probe = some i then some e.address else none

theorem Entry.Later.tells? {e e' : Entry} (h : e.Later e') (i : Nat) : e'.tells? i = e.tells? i := by
  rw [Entry.tells?, Entry.tells?, h.callback, h.address]

namespace Store
variable {s s' : Store} {i : Nat}

/-- What a probe is told when the callback of a handle starts. -/
def tellsOf? (s : Store) (i : Nat) (id : HandleId) : Option Address := (s.resource? id).bind (Entry.tells? i)

/-- The addresses of the callbacks that have started and tell a probe, in order. -/
def heard (s : Store) (i : Nat) : List Address := s.begun.filterMap (s.tellsOf? i)

/-- The addresses that have been registered with a probe, in order. -/
def enrolled (s : Store) (i : Nat) : List Address := s.entries.toList.filterMap (Entry.tells? i)

theorem Extends.tellsOf? (h : s.Extends s') {id : HandleId} (hid : s.Known id) :
    s'.tellsOf? i id = s.tellsOf? i id := by
  obtain ⟨e, he⟩ := hid
  obtain ⟨e', he', hl⟩ := h.entry id e he
  rw [Store.tellsOf?, Store.tellsOf?, he, he', Option.bind_some, Option.bind_some, hl.tells?]

/-- What has been heard stays so, and the callbacks that start add to it. -/
theorem Extends.heard (h : s.Extends s') (hknown : ∀ id ∈ s.begun, s.Known id) {new : List HandleId}
    (hbegun : s'.begun = s.begun ++ new) : s'.heard i = s.heard i ++ new.filterMap (s'.tellsOf? i) := by
  rw [Store.heard, Store.heard, hbegun, List.filterMap_append,
    List.filterMap_congr fun id hid => h.tellsOf? (hknown id hid)]

/-- The handles that there are. -/
def numbers (s : Store) : List HandleId := (List.range s.entries.size).map fun k => ⟨k + 1⟩

theorem mem_numbers {id : HandleId} (h : s.Known id) : id ∈ s.numbers := by
  obtain ⟨hpos, hle⟩ := h.number_le
  refine List.mem_map.mpr ⟨id.number - 1, List.mem_range.mpr (by omega), ?_⟩
  rw [Nat.sub_add_cancel hpos]

theorem enrolled_eq (s : Store) (i : Nat) : s.enrolled i = s.numbers.filterMap (s.tellsOf? i) := by
  have hplaces : s.entries.toList.map some = (List.range s.entries.size).map (s.entries.toList[·]?) :=
    List.ext_getElem (by simp) fun k _ _ => by simp
  have hnumber : ∀ k, s.tellsOf? i ⟨k + 1⟩ = (s.entries.toList[k]?).bind (Entry.tells? i) := fun k => by
    rw [tellsOf?, resource?, if_neg (Nat.succ_ne_zero k), Array.getElem?_toList]
    rfl
  calc s.enrolled i = (s.entries.toList.map some).filterMap fun e? => e?.bind (Entry.tells? i) := by
        rw [List.filterMap_map]
        rfl
    _ = s.numbers.filterMap (s.tellsOf? i) := by
        rw [hplaces, numbers, List.filterMap_map, List.filterMap_map]
        exact List.filterMap_congr fun k _ => (hnumber k).symm

/-- As no callback starts twice, nothing is heard of more often than it was registered. -/
theorem heard_subperm (hknown : ∀ id ∈ s.begun, s.Known id) (hnodup : s.begun.Nodup) :
    (s.heard i).Subperm (s.enrolled i) := by
  obtain ⟨ids, hperm, hsub⟩ := hnodup.subperm fun id hid => mem_numbers (hknown id hid)
  rw [enrolled_eq]
  exact ⟨_, hperm.filterMap (s.tellsOf? i), hsub.filterMap (s.tellsOf? i)⟩

end Store

/-! ## Runs -/

theorem Frame.starts_cases (x : Frame) : x.starts = [] ∨ ∃ id, x = .callback id .enter := by
  unfold starts
  split
  · next id => exact .inr ⟨id, rfl⟩
  · exact .inl rfl

theorem Frame.starts_of_chooses {x : Frame} {a : Address} (h : x.chooses? = some a) : x.starts = [] := by
  unfold chooses? at h
  split at h
  · rfl
  · cases h

/-- The probe of a callback is told, and no other. -/
theorem Store.getElem?_tellProbe (s : Store) (e : Entry) (i : Nat) :
    (s.tellProbe e).1.probes[i]? = (s.probes[i]?).map (·.hear (e.tells? i)) := by
  unfold tellProbe Entry.tells?
  cases e.callback.probe with
  | none => simp [Probe.hear]
  | some j =>
    dsimp only
    split
    · next hp =>
      by_cases hij : j = i
      · subst hij
        rw [hp]
        rfl
      · simp [hij, Probe.hear]
    · next q hp =>
      by_cases hij : j = i
      · subst hij
        simp [hp, Probe.hear, Array.getElem?_modify]
      · simp [hij, Probe.hear, Array.getElem?_modify]

/-- A probe that fails a run ends the callback at once. -/
theorem CallbackPoint.enter_fails {thread : ThreadId} {s : Store} {id : HandleId} {e : Entry} {i : Nat} {p : Probe}
    (he : s.resource? id = some e) (hi : e.callback.probe = some i) (hp : s.probes[i]? = some p)
    (hfails : e.address ∈ p.failing) :
    (enter.advance thread s id).2 = .finish (.panic (Probe.failure e.address)) := by
  have htell : ((s.beginCall id e thread).1.tellProbe e).2 = true := by
    have hsame : (s.beginCall id e thread).1.probes[i]? = some p := hp
    simp only [Store.tellProbe, hi, hsame, Probe.record]
    exact List.contains_iff_mem.mpr hfails
  simp only [advance, he]
  generalize (s.beginCall id e thread).1.tellProbe e = r at htell
  obtain ⟨s', fails⟩ := r
  obtain rfl : fails = true := htell
  rfl

namespace System
variable {w : System} {h : History} {i : Nat} {p : Probe}

theorem Orderly.begun_known (hw : w.Orderly h) : ∀ id ∈ w.store.begun, w.store.Known id := by
  intro id hid
  obtain ⟨⟨id', a⟩, hrun, rfl⟩ := List.mem_map.mp hid
  exact (hw.2.runs id' a hrun).imp fun _ he => he.1

/-- A probe has heard of the callbacks that have started and tell it, in order. -/
structure Tuned (w : System) (i : Nat) (p : Probe) : Prop where
  probe : w.store.probes[i]? = some p
  consistent : p.Consistent
  heard : p.order = w.store.heard i

/-- What is heard after an event that starts these callbacks. -/
theorem Orderly.heard_occur (hw : w.Orderly h) (e : Event) {new : List HandleId}
    (hbegun : (w.occur e).store.begun = w.store.begun ++ new) :
    (w.occur e).store.heard i = w.store.heard i ++ new.filterMap ((w.occur e).store.tellsOf? i) := by
  obtain ⟨src, dst, hact, -⟩ := hw.occur e
  exact hact.extends.heard hw.begun_known hbegun

/-- A callback starts. -/
theorem Tuned.starts (hp : w.Tuned i p) (hw : w.Orderly h) {t : ThreadId} {id : HandleId} {e : Entry}
    (ht : w.acting? t = some (.callback id .enter)) (he : w.store.resource? id = some e) :
    (w.occur (.move (.act t))).Tuned i (p.hear (e.tells? i)) := by
  obtain ⟨-, hoccur, hstore, -⟩ := acts_acting hw.2.spots ht
  have hbegun := hw.begun_occur (.move (.act t))
  rw [begins_acting ht] at hbegun
  have hheard := hw.heard_occur (i := i) _ hbegun
  obtain ⟨src, dst, hact, -⟩ := hw.occur (.move (.act t))
  have htells : (w.occur (.move (.act t))).store.tellsOf? i id = e.tells? i := by
    rw [hact.extends.tellsOf? ⟨e, he⟩, Store.tellsOf?, he, Option.bind_some]
  refine ⟨?_, hp.consistent.hear _, ?_⟩
  · rw [hoccur, hstore, Frame.advance, CallbackPoint.enter_store he, Store.getElem?_tellProbe]
    exact congrArg (Option.map (·.hear (e.tells? i))) hp.probe
  · rw [Probe.order_hear, hp.heard, hheard, Frame.starts, List.filterMap_cons, htells]
    cases e.tells? i <;> rfl

/-- Whatever else a probe goes through, no callback starts meanwhile. -/
theorem Tuned.still (hp : w.Tuned i p) (hw : w.Orderly h) {e : Event} {p' : Probe}
    (hbegun : (w.occur e).store.begun = w.store.begun) (hprobe : (w.occur e).store.probes[i]? = some p')
    (hconsistent : p'.Consistent) (horder : p'.order = p.order) : (w.occur e).Tuned i p' := by
  refine ⟨hprobe, hconsistent, ?_⟩
  rw [horder, hp.heard, hw.heard_occur e (hbegun.trans (List.append_nil _).symm)]
  exact (List.append_nil _).symm

/-- A script chooses an address at which the first probe fails. -/
theorem Tuned.chooses (hp : w.Tuned i p) (hw : w.Orderly h) {t : ThreadId} {x : Frame} {a : Address}
    (ht : w.acting? t = some x) (hx : x.chooses? = some a) :
    (w.occur (.move (.act t))).Tuned i (if i = 0 then p.failOn a else p) := by
  obtain ⟨-, hoccur, hstore, -⟩ := acts_acting hw.2.spots ht
  have hbegun := hw.begun_occur (.move (.act t))
  rw [begins_acting ht, Frame.starts_of_chooses hx, List.append_nil] at hbegun
  refine hp.still hw hbegun ?_ ?_ ?_
  · rw [hoccur, hstore, Frame.advance_chooses _ _ _ hx, Array.getElem?_modify, hp.probe]
    by_cases hi : i = 0 <;> simp [hi, eq_comm]
  · split
    · exact hp.consistent.failOn a
    · exact hp.consistent
  · split <;> rfl

/-- Probes hear of nothing that happens without a frame's action. -/
theorem probes_idle (hw : w.Disciplined) {e : Event} (he : ∀ t, e = .move (.act t) → w.acting? t = none) :
    (w.occur e).store.probes = w.store.probes := by
  cases e with
  | move m =>
    cases m with
    | act t => rw [occur_not_acting (he t rfl)]
    | expire t =>
      simp only [occur]
      cases hm : w.move? (.expire t) with
      | none => rfl
      | some w' => exact congrArg Store.probes (spots_expire hw hm).1
  | join name script => rfl
  | share id shares =>
    simp only [occur]
    split
    · exact (w.store.routine_share id shares).probes
    · rfl
  | inject g id =>
    simp only [occur]
    split
    · exact (w.store.routine_enqueue g _).probes
    · rfl

/-- Whatever happens, a probe has heard of it what it is to hear. -/
theorem Tuned.occur (hp : w.Tuned i p) (hw : w.Orderly h) (e : Event) : ∃ p', (w.occur e).Tuned i p' := by
  obtain ⟨t, x, rfl, ht⟩ | ⟨hidles, -, hnone⟩ := occur_cases hw.1 e
  · rcases x.starts_cases with hstarts | ⟨id, rfl⟩
    · cases hx : x.chooses? with
      | some a => exact ⟨_, hp.chooses hw ht hx⟩
      | none =>
        obtain ⟨-, hoccur, hstore, -⟩ := acts_acting hw.2.spots ht
        have hbegun := hw.begun_occur (.move (.act t))
        rw [begins_acting ht, hstarts, List.append_nil] at hbegun
        refine ⟨p, hp.still hw hbegun ?_ hp.consistent rfl⟩
        rw [hoccur, hstore, Frame.advance_probes _ _ _ hstarts hx]
        exact hp.probe
    · obtain ⟨hsub, -⟩ := acts_acting hw.2.spots ht
      obtain ⟨e, he⟩ : w.store.Known id := hw.2.spots _ (hsub (Multiset.mem_singleton_self _))
      exact ⟨_, hp.starts hw ht he⟩
  · have hbegun : (w.occur e).store.begun = w.store.begun :=
      congrArg (List.map Prod.fst) (hidles.act.runs_eq fun _ => (Multiset.singleton_ne_zero _).symm)
    refine ⟨p, hp.still hw hbegun ?_ hp.consistent rfl⟩
    rw [probes_idle hw.1 hnone]
    exact hp.probe

/-- Whatever has happened since the start, a probe that had not heard of anything has heard of the callbacks that
have started and tell it, in order. -/
theorem tuned_after {probes : Array Probe} (environment : Environment) (output : Output) {failing : List Address}
    (hp : probes[i]? = some { failing }) (es : List Event) :
    ∃ p, ((boot probes environment output).after es).Tuned i p := by
  refine (after_induction _ (fun w h => w.Orderly h ∧ ∃ p, w.Tuned i p)
    ⟨orderly_boot probes environment output, _, hp, Probe.consistent_new failing, rfl⟩ ?_ es).2
  rintro w h e ⟨hw, p, hp⟩
  exact ⟨hw.step e, hp.occur hw e⟩

/-! ## Faithful witnesses -/

/-- What a probe reports agrees with itself and with the callbacks that have started, and goes on doing so. -/
structure Witnessed (w : System) (i : Nat) (p : Probe) : Prop extends p.Faithful where
  heard : p.order = w.store.heard i
  /-- Each registration is heard of once at most. -/
  registered : p.order.Subperm (w.store.enrolled i)
  bounded : ∀ a, p.count a ≤ (w.store.enrolled i).count a
  distinct : (w.store.enrolled i).Nodup → p.duplicates = []
  /-- A callback that starts is recorded whether the probe fails it or not; if it does, the callback panics. -/
  recorded : ∀ t th id rest e, w.thread? t = some th → th.stack = .callback id .enter :: rest →
    w.store.resource? id = some e → e.callback.probe = some i →
    ∃ p', (w.occur (.move (.act t))).store.probes[i]? = some p' ∧ p'.Faithful ∧
      p'.order = p.order ++ [e.address] ∧ p'.failing = p.failing ∧
      (e.address ∈ p.failing → (w.occur (.move (.act t))).thread? t =
        some (th.deliver (.panic (Probe.failure e.address)) rest))
  /-- The first probe can be made to fail at any address at any time, and nothing else changes by that. -/
  chosen : ∀ t th a todo done rest, w.thread? t = some th →
    th.stack = .commands (.failOn a :: todo) done :: rest →
    ∃ p', (w.occur (.move (.act t))).store.probes[i]? = some p' ∧ p'.Faithful ∧ p'.order = p.order ∧
      ∀ b, b ∈ p'.failing ↔ (i = 0 ∧ b = a) ∨ b ∈ p.failing

theorem acting?_of_stack {t : ThreadId} {th : Thread} {x : Frame} {rest : List Frame} (hth : w.thread? t = some th)
    (hstack : th.stack = x :: rest) (hready : x.isReady w.store = true) : w.acting? t = some x := by
  obtain ⟨name, stack, out⟩ := th
  obtain rfl : stack = x :: rest := hstack
  simp only [acting?, hth, hready, if_true]

/-- A thread that has its turn goes on as the frame at its top does. -/
theorem thread?_turn {t : ThreadId} {th : Thread} {x : Frame} {rest : List Frame} (hth : w.thread? t = some th)
    (hstack : th.stack = x :: rest) (ht : w.acting? t = some x) : (w.occur (.move (.act t))).thread? t =
      some (th.progress rest (x.advance t w.threads.size w.store).2) := by
  obtain ⟨th', rest', hth', hstack', -, hall⟩ := thread?_act ht
  cases hth.symm.trans hth'
  cases hstack.symm.trans hstack'
  rw [occur_acting ht, hall, if_pos rfl]

theorem Tuned.witness (hp : w.Tuned i p) (hw : w.Orderly h) (hr : w.Regular h) : w.Witnessed i p := by
  have hregistered : p.order.Subperm (w.store.enrolled i) :=
    hp.heard ▸ Store.heard_subperm hw.begun_known (hr.begun_nodup hw)
  have hbounded : ∀ a, p.count a ≤ (w.store.enrolled i).count a := fun a =>
    (hp.consistent.counts a).trans_le (hregistered.count_le a)
  refine { hp.consistent.faithful with
    heard := hp.heard
    registered := hregistered
    bounded := hbounded
    distinct := fun hnodup => List.eq_nil_iff_forall_not_mem.mpr fun a ha => ?_
    recorded := fun t th id rest e hth hstack he hi => ?_
    chosen := fun t th a todo done rest hth hstack => ?_ }
  · have htwice := (hp.consistent.faithful.duplicates a).mp ha
    have honce := List.nodup_iff_count_le_one.mp hnodup a
    have hle := hregistered.count_le a
    omega
  · have ht := acting?_of_stack hth hstack rfl
    have htuned := hp.starts hw ht he
    rw [Entry.tells?, if_pos hi] at htuned
    refine ⟨_, htuned.probe, htuned.consistent.faithful, p.order_record e.address, rfl, fun hfails => ?_⟩
    rw [thread?_turn hth hstack ht, Frame.advance, CallbackPoint.enter_fails he hi hp.probe hfails]
    rfl
  · have htuned := hp.chooses hw (acting?_of_stack hth hstack rfl) rfl
    refine ⟨_, htuned.probe, htuned.consistent.faithful, ?_, fun b => ?_⟩
    · split <;> rfl
    · split
      · next hi => simp [Probe.mem_failOn, hi]
      · next hi => simp [hi]

/-- Whatever happens in a process, a probe that had not heard of anything is a faithful witness: of the callbacks
that start and tell it, and of how often each address is released. -/
theorem witnessed {probes : Array Probe} (environment : Environment) (output : Output) {i : Nat}
    {failing : List Address} (hp : probes[i]? = some { failing }) (es : List Event) :
    ∃ p, ((boot probes environment output).after es).store.probes[i]? = some p ∧
      ((boot probes environment output).after es).Witnessed i p := by
  obtain ⟨p, hp⟩ := tuned_after environment output hp es
  exact ⟨p, hp.probe, hp.witness (orderly_after probes environment output es)
    (regular_after probes environment output es)⟩

/-- The same address is registered with two guards; its probe fails both releases, and hears of both. -/
def shared : List Event :=
  .join .caller
      [.startGuard "g" {} .plain none, .startGuard "h" {} .plain none, .failOn 7,
        .register (.guard "g") "a" { address := 7, callback := some { probe := some 0 } },
        .acquire "h" "b" { address := 7, callback := some { probe := some 0 } },
        .release "a" none, .release "b" none] ::
    turns 0 32

theorem witnessed_shared :
    ∃ p, ((boot #[{}] none {}).after shared).store.probes[0]? = some p ∧ p.order = [7, 7] ∧ p.duplicates = [7] ∧
      ((boot #[{}] none {}).after shared).Witnessed 0 p := by
  obtain ⟨p, hp, hwitnessed⟩ := @witnessed #[{}] none {} 0 [] rfl shared
  have hrun : ((boot #[{}] none {}).after shared).store.probes[0]?.map (fun p => (p.order, p.duplicates)) =
      some ([7, 7], [7]) := by
    decide +kernel
  rw [hp, Option.map_some] at hrun
  obtain ⟨horder, hduplicates⟩ := Prod.mk.inj (Option.some.inj hrun)
  exact ⟨p, hp, horder, hduplicates, hwitnessed⟩

end System

end Reclaim

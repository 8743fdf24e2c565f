import Reclaim.Proofs.Chains
import Reclaim.Proofs.Seclusion

/-!
# Actions on a store in company and alone

What is done at a guard or to one of its handles is done in the process where the guard is alone as well;
whatever is done elsewhere leaves that process as it is.

* `Census.Numbers` : runs of callbacks go by their numbers among those of the guard's handles;
* `Store.Alone` : the second store is the guard's part of the first;
* `Store.Alone.guard?`, `Store.Alone.resource?` : the guard and its handles are read alike;
* `Store.Alone.modifyGuard`, `Store.Alone.modifyEntry` and those that end in `_other` : a change here, and a change
  elsewhere;
* `Store.Alone.retire`, `Store.Alone.takeActive`, `Store.Alone.emit`, `Store.Alone.interrupt`, `Store.Alone.beginCall`
  and their kin : the actions of the model.
-/

namespace Reclaim

/-- A handle in the process where its guard is alone. -/
def Entry.alone (e : Entry) : Entry := { e with guard := 0 }

/-- A run of a callback, with other numbers for handles and threads. -/
def Call.renamed (rank : HandleId → HandleId) (label : ThreadId → ThreadId) (k : Call) : Call :=
  { k with id := rank k.id, thread := label k.thread }

/-- Runs of callbacks, by their handles, go by their numbers among those of the guard's handles. -/
structure Census.Numbers (c : Census) (ids : List HandleId) : Prop where
  number : ∀ {k v}, c.runs k = some v → ∃ id, ids[k]? = some id ∧
    v = if c.owns id then some ((ids.take k).countP fun id => decide (c.owns id)) else none

section Numbers
variable {c : Census} {ids : List HandleId} (h : c.Numbers ids)
include h

theorem Census.Numbers.fresh {k : Nat} (hk : ids.length ≤ k) : c.runs k = none := by
  refine Option.eq_none_iff_forall_ne_some.mpr fun v hv => ?_
  obtain ⟨id, hid, -⟩ := h.number hv
  rw [List.getElem?_eq_none hk] at hid
  cases hid

/-- One more run. -/
theorem Census.Numbers.push (id : HandleId) :
    (c.onRun ids.length (if c.owns id then some (ids.countP fun id => decide (c.owns id)) else none)).Numbers
      (ids ++ [id]) := by
  refine ⟨fun {k v} hk => ?_⟩
  have hk : Function.update c.runs ids.length (some _) k = some v := hk
  by_cases hlast : k = ids.length
  · subst hlast
    refine ⟨id, List.getElem?_concat_length, ?_⟩
    rw [Function.update_self] at hk
    rw [List.take_left]
    exact (Option.some.inj hk).symm
  · rw [Function.update_of_ne hlast] at hk
    obtain ⟨id', hid', hv⟩ := h.number hk
    have hlt := (List.getElem?_eq_some_iff.mp hid').1
    refine ⟨id', (List.getElem?_append_left hlt).trans hid', ?_⟩
    rw [List.take_append_of_le_length (Nat.le_of_lt hlt)]
    exact hv

end Numbers

theorem Store.begun_eq (s : Store) : s.begun = s.calls.toList.map Call.id := by
  rw [begun, runs, List.map_map]
  rfl

theorem Store.begun_endCall (s : Store) (k : Nat) (did : List Reply) : (s.endCall k did).begun = s.begun :=
  congrArg (List.map Prod.fst) (s.alike_endCall k did).runs

/-- The second store is the guard's part of the first, in which callbacks do not call back into a guard. -/
structure Store.Alone (c : Census) (s s' : Store) : Prop where
  owners : s.owners <+: c.owners
  entries : s'.entries.toList = (s.own c.guard).map Entry.alone
  guards : List.Forall₂ (Guard.Alone c) (s.guard? c.guard).toList s'.guards.toList
  others : ∀ {g x}, g ≠ c.guard → s.guard? g = some x → x.Foreign c g
  calls : s'.calls.toList = (s.calls.toList.filter fun k => decide (c.owns k.id)).map (Call.renamed c.rank c.label)
  acks : Matched c.acks s.acks s'.acks
  /-- Callbacks of the same addresses fail. -/
  probes : s'.probes.map Probe.failing = s.probes.map Probe.failing
  runs : c.Numbers s.begun
  discreet : ∀ e ∈ s.entries.toList, e.callback.IsDiscreet

/-- The same result, and stores of which the second is the guard's part of the first. -/
inductive Tandem (c : Census) {α : Type} : Store × α → Store × α → Prop
  | intro {s s' : Store} (r : α) : s.Alone c s' → Tandem c (s, r) (s', r)

theorem Tandem.store {c : Census} {α : Type} {p p' : Store × α} (h : Tandem c p p') : p.1.Alone c p'.1 := by
  cases h with
  | intro _ hs => exact hs

namespace Store.Alone
variable {c c' : Census} {s s' : Store} {g : GuardId} {id : HandleId} {e : Entry} (h : s.Alone c s')
include h

/-! ## Reading -/

theorem guard? : Option.Rel (Guard.Alone c) (s.guard? c.guard) (s'.guard? 0) := by
  have hguards := h.guards
  have hzero : s'.guards.toList[0]? = s'.guards[0]? := Array.getElem?_toList
  rw [Store.guard?, Store.guard?, ← hzero]
  rw [Store.guard?] at hguards
  generalize s.guards[c.guard]? = x, s'.guards.toList = xs at hguards
  cases x with
  | none =>
    cases hguards
    exact .none
  | some x =>
    cases hguards with
    | cons hx _ => exact .some hx

/-- The guard's handle is known alone by its rank. -/
theorem resource? (hid : c.owns id) : s'.resource? (c.rank id) = (s.resource? id).map Entry.alone := by
  rw [← getElem?_own h.owners hid, Store.resource?, if_neg (Census.rank_ne_zero hid), ← Array.getElem?_toList,
    h.entries, List.getElem?_map]
  rfl

theorem guard_eq (hid : c.owns id) (he : s.resource? id = some e) : e.guard = c.guard :=
  Option.some.inj ((ownerIn_resource h.owners he).symm.trans hid)

theorem guard_ne (hid : ¬ c.owns id) (he : s.resource? id = some e) : e.guard ≠ c.guard := fun heq =>
  hid (by rw [Census.owns, ownerIn_resource h.owners he, heq])

theorem callback (he : s.resource? id = some e) : e.callback.IsDiscreet := by
  rw [Store.resource?] at he
  split at he
  · cases he
  · exact h.discreet e (Array.mem_toList_iff.mpr (Array.mem_of_getElem? he))

theorem pendingAt : s'.pendingAt 0 = s.pendingAt c.guard := by
  rw [Store.pendingAt, Store.pendingAt]
  have hx := h.guard?
  generalize s.guard? c.guard = x, s'.guard? 0 = x' at hx
  cases hx with
  | none => rfl
  | some hx => exact hx.source.pending

/-! ## Changes to one place -/

theorem output (o : Output) : ({ s with output := o } : Store).Alone c s' := { h with }

theorem output_alone (o : Output) : s.Alone c { s' with output := o } := { h with }

theorem log (level : Level) (text : String) : (s.log level text).Alone c s' := h.output _

/-- A change to the guard. -/
theorem modifyGuard {f f' : Guard → Guard} (hf : ∀ x x', Guard.Alone c x x' → Guard.Alone c (f x) (f' x')) :
    (s.modifyGuard c.guard f).Alone c (s'.modifyGuard 0 f') := by
  refine { h with guards := ?_, others := fun {g x} hne hx => ?_ }
  · have hguards := h.guards
    rw [guard?_modifyGuard, if_pos rfl, Store.modifyGuard, Array.toList_modify]
    generalize s.guard? c.guard = x, s'.guards.toList = xs at hguards
    cases x with
    | none =>
      cases hguards
      exact .nil
    | some x =>
      cases hguards with
      | cons hx hnil =>
        cases hnil
        exact .cons (hf _ _ hx) .nil
  · rw [guard?_modifyGuard, if_neg (Ne.symm hne)] at hx
    exact h.others hne hx

/-- A change to another guard. -/
theorem modifyGuard_other (hne : g ≠ c.guard) {f : Guard → Guard}
    (hf : ∀ x, x.Foreign c g → (f x).Foreign c g) : (s.modifyGuard g f).Alone c s' := by
  refine { h with guards := ?_, others := fun {g' y} hne' hy => ?_ }
  · rw [guard?_modifyGuard, if_neg hne]
    exact h.guards
  · rw [guard?_modifyGuard] at hy
    split at hy
    · next heq =>
      subst heq
      obtain ⟨x, hx, rfl⟩ := Option.map_eq_some_iff.mp hy
      exact hf x (h.others hne hx)
    · exact h.others hne' hy

theorem discreet_modifyEntry {f : Entry → Entry} (hcallback : ∀ e, (f e).callback = e.callback) (id : HandleId) :
    ∀ e ∈ (s.modifyEntry id f).entries.toList, e.callback.IsDiscreet := by
  intro e he
  rw [Store.modifyEntry] at he
  split at he
  · exact h.discreet e he
  · obtain ⟨i, hi⟩ := List.mem_iff_getElem?.mp he
    rw [Array.toList_modify, List.getElem?_modify] at hi
    split at hi
    · obtain ⟨e', he', rfl⟩ := Option.map_eq_some_iff.mp hi
      rw [hcallback]
      exact h.discreet e' (List.mem_of_getElem? he')
    · rw [id_map'] at hi
      exact h.discreet e (List.mem_of_getElem? hi)

section Entries
variable {f : Entry → Entry} (hguard : ∀ e, (f e).guard = e.guard) (hcallback : ∀ e, (f e).callback = e.callback)
include hguard hcallback

/-- A change to one of the guard's handles. -/
theorem modifyEntry (hid : c.owns id) (halone : ∀ e, (f e).alone = f e.alone) :
    (s.modifyEntry id f).Alone c (s'.modifyEntry (c.rank id) f) where
  owners := by
    rw [owners_modifyEntry _ _ _ hguard]
    exact h.owners
  entries := by
    rw [own_modifyEntry h.owners hguard hid, Store.modifyEntry, if_neg (Census.rank_ne_zero hid),
      Array.toList_modify, h.entries]
    exact (map_modify halone _ _).symm
  guards := by
    rw [guard?_modifyEntry, Store.modifyEntry, if_neg (Census.rank_ne_zero hid)]
    exact h.guards
  others hne hx := by
    rw [guard?_modifyEntry] at hx
    exact h.others hne hx
  calls := by
    rw [Store.modifyEntry, Store.modifyEntry, if_neg (Census.rank_ne_zero hid)]
    split <;> exact h.calls
  acks := by
    rw [Store.modifyEntry, Store.modifyEntry, if_neg (Census.rank_ne_zero hid)]
    split <;> exact h.acks
  probes := by
    rw [Store.modifyEntry, Store.modifyEntry, if_neg (Census.rank_ne_zero hid)]
    split <;> exact h.probes
  runs := by
    rw [Store.modifyEntry]
    split <;> exact h.runs
  discreet := h.discreet_modifyEntry hcallback id

/-- A change to another guard's handle. -/
theorem modifyEntry_other (hid : ¬ c.owns id) : (s.modifyEntry id f).Alone c s' where
  owners := by
    rw [owners_modifyEntry _ _ _ hguard]
    exact h.owners
  entries := by
    rw [own_modifyEntry_of_ne h.owners hguard hid]
    exact h.entries
  guards := by
    rw [guard?_modifyEntry]
    exact h.guards
  others hne hx := by
    rw [guard?_modifyEntry] at hx
    exact h.others hne hx
  calls := by
    rw [Store.modifyEntry]
    split <;> exact h.calls
  acks := by
    rw [Store.modifyEntry]
    split <;> exact h.acks
  probes := by
    rw [Store.modifyEntry]
    split <;> exact h.probes
  runs := by
    rw [Store.modifyEntry]
    split <;> exact h.runs
  discreet := h.discreet_modifyEntry hcallback id

end Entries

/-! ## Guards -/

theorem setWorkerState (state : WorkerState) :
    (s.setWorkerState c.guard state).Alone c (s'.setWorkerState 0 state) :=
  h.modifyGuard fun x x' hx => by
    cases hx with
    | intro hsource hregistry => exact .intro (x := { x with state }) hsource hregistry

theorem setWorkerState_other (hne : g ≠ c.guard) (state : WorkerState) : (s.setWorkerState g state).Alone c s' :=
  h.modifyGuard_other hne fun _ hx => ⟨hx.registry, hx.source⟩

theorem modifyStats (f : Stats → Stats) : (s.modifyStats c.guard f).Alone c (s'.modifyStats 0 f) :=
  h.modifyGuard fun x x' hx => by
    cases hx with
    | intro hsource hregistry => exact .intro (x := { x with stats := f x.stats }) hsource hregistry

theorem modifyStats_other (hne : g ≠ c.guard) (f : Stats → Stats) : (s.modifyStats g f).Alone c s' :=
  h.modifyGuard_other hne fun _ hx => ⟨hx.registry, hx.source⟩

theorem modifySource {f f' : Source → Source}
    (hf : ∀ x x', Source.Alone c x x' → Source.Alone c (f x) (f' x')) :
    (s.modifySource c.guard f).Alone c (s'.modifySource 0 f') :=
  h.modifyGuard fun _ _ hx => hx.withSource (hf _ _ hx.source)

theorem modifySource_other (hne : g ≠ c.guard) {f : Source → Source} (hf : ∀ x, x.Foreign c → (f x).Foreign c) :
    (s.modifySource g f).Alone c s' :=
  h.modifyGuard_other hne fun _ hx => ⟨hx.registry, hf _ hx.source⟩

/-- The sink is offered the same, and panics at it or not. -/
theorem emit (d : Diagnostic) : Tandem c (s.emit c.guard d) (s'.emit 0 d) := by
  have hoffered : (s.modifyGuard c.guard (·.offer d)).Alone c (s'.modifyGuard 0 (·.offer d)) :=
    h.modifyGuard fun x x' hx => by
      cases hx with
      | intro hsource hregistry => exact .intro (x := x.offer d) hsource hregistry
  have hx := h.guard?
  rw [Store.emit, Store.emit]
  generalize s.guard? c.guard = x, s'.guard? 0 = x' at hx
  cases hx with
  | none => exact .intro _ h
  | some hx =>
    cases hx with
    | intro => exact .intro _ ((hoffered.output _).output_alone _)

theorem emit_other (hne : g ≠ c.guard) (d : Diagnostic) : (s.emit g d).1.Alone c s' := by
  rw [Store.emit]
  cases (s.guard? g).map fun x => (x.config.sink, x.offered.toList) with
  | none => exact h
  | some told =>
    have hoffered : (s.modifyGuard g (·.offer d)).Alone c s' :=
      h.modifyGuard_other hne fun _ hx => ⟨hx.registry, hx.source⟩
    exact hoffered.output _

/-! ## Handles -/

theorem track (hid : c.owns id) : (s.track c.guard id).Alone c (s'.track 0 (c.rank id)) :=
  h.modifyGuard fun _ _ hx => hx.insert hid

theorem track_other (hne : g ≠ c.guard) (hid : ownerIn c.owners id = some g) : (s.track g id).Alone c s' :=
  h.modifyGuard_other hne fun x hx => ⟨fun id' hin => by
    rcases List.mem_cons.mp hin with rfl | hin
    · exact hid
    · exact hx.registry id' hin, hx.source⟩

theorem untrack (hid : c.owns id) : (s.untrack c.guard id).Alone c (s'.untrack 0 (c.rank id)) :=
  h.modifyGuard fun _ _ hx => hx.erase hid

theorem untrack_other (hne : g ≠ c.guard) (id : HandleId) : (s.untrack g id).Alone c s' :=
  h.modifyGuard_other hne fun _ hx => ⟨fun id' hin => hx.registry id' (List.mem_of_mem_erase hin), hx.source⟩

theorem markReleased (hid : c.owns id) : (s.markReleased id).Alone c (s'.markReleased (c.rank id)) :=
  h.modifyEntry (fun _ => rfl) (fun _ => rfl) hid fun _ => rfl

theorem markReleased_other (hid : ¬ c.owns id) : (s.markReleased id).Alone c s' :=
  h.modifyEntry_other (fun _ => rfl) (fun _ => rfl) hid

theorem retire (hid : c.owns id) : Tandem c (s.retire id) (s'.retire (c.rank id)) := by
  rw [Store.retire, Store.retire, h.resource? hid]
  cases he : s.resource? id with
  | none => exact .intro _ h
  | some e =>
    have hg := h.guard_eq hid he
    obtain ⟨g, address, label, callback, state, owners, users⟩ := e
    subst hg
    cases state with
    | released => exact .intro _ h
    | active => exact .intro _ ((h.markReleased hid).untrack hid)

theorem retire_other (hid : ¬ c.owns id) : (s.retire id).1.Alone c s' := by
  rw [Store.retire]
  cases he : s.resource? id with
  | none => exact h
  | some e =>
    have hg := h.guard_ne hid he
    obtain ⟨g, address, label, callback, state, owners, users⟩ := e
    cases state with
    | released => exact h
    | active => exact (h.markReleased_other hid).untrack_other hg id

/-- Whatever the number, both workers claim a handle, or neither does. -/
theorem takeActive (id : HandleId) : Tandem c (s.takeActive c.guard id) (s'.takeActive 0 (c.rank id)) := by
  have hx := h.guard?
  rw [Store.takeActive, Store.takeActive]
  generalize s.guard? c.guard = x, s'.guard? 0 = x' at hx
  cases hx with
  | none => exact .intro _ h
  | @some x x' hx =>
    simp only [hx.contains]
    split
    · next hin =>
      have hid := hx.owns hin
      rw [h.resource? hid]
      cases s.resource? id with
      | none => exact .intro _ h
      | some e =>
        obtain ⟨g, address, label, callback, state, owners, users⟩ := e
        cases state with
        | released => exact .intro _ h
        | active => exact .intro _ ((h.markReleased hid).untrack hid)
    · exact .intro _ h

/-- A worker claims only what its guard keeps track of. -/
theorem owns_of_takeActive (ht : (s.takeActive c.guard id).2 = true) : c.owns id := by
  have hx := h.guard?
  rw [Store.takeActive] at ht
  generalize s.guard? c.guard = x, s'.guard? 0 = x' at hx ht
  cases hx with
  | none => cases ht
  | some hx =>
    simp only at ht
    split at ht
    · next hin => exact hx.owns hin
    · cases ht

/-- The worker of another guard leaves the guard's handles alone. -/
theorem takeActive_other (hne : g ≠ c.guard) (id : HandleId) : (s.takeActive g id).1.Alone c s' ∧
    ((s.takeActive g id).2 = true → ¬ c.owns id) := by
  rw [Store.takeActive]
  cases hg : s.guard? g with
  | none => exact ⟨h, fun ht => by cases ht⟩
  | some x =>
    simp only
    split
    · next hin =>
      have hid : ¬ c.owns id := by
        intro hid
        have hown := (h.others hne hg).registry id (List.contains_iff_mem.mp hin)
        exact hne (Option.some.inj (hown.symm.trans hid))
      cases s.resource? id with
      | none => exact ⟨h, fun ht => by cases ht⟩
      | some e =>
        obtain ⟨g', address, label, callback, state, owners, users⟩ := e
        cases state with
        | released => exact ⟨h, fun ht => by cases ht⟩
        | active => exact ⟨(h.markReleased_other hid).untrack_other hne id, fun _ => hid⟩
    · exact ⟨h, fun ht => by cases ht⟩

theorem dropShare (hid : c.owns id) : Tandem c (s.dropShare id) (s'.dropShare (c.rank id)) := by
  rw [Store.dropShare, Store.dropShare, h.resource? hid]
  cases s.resource? id with
  | none => exact .intro _ h
  | some e => exact .intro _ (h.modifyEntry (fun _ => rfl) (fun _ => rfl) hid fun _ => rfl)

theorem dropShare_other (hid : ¬ c.owns id) : (s.dropShare id).1.Alone c s' := by
  rw [Store.dropShare]
  cases s.resource? id with
  | none => exact h
  | some e => exact h.modifyEntry_other (fun _ => rfl) (fun _ => rfl) hid

theorem endUse (hid : c.owns id) : Tandem c (s.endUse id) (s'.endUse (c.rank id)) := by
  rw [Store.endUse, Store.endUse, h.resource? hid]
  cases s.resource? id with
  | none => exact .intro _ h
  | some e => exact .intro _ (h.modifyEntry (fun _ => rfl) (fun _ => rfl) hid fun _ => rfl)

theorem endUse_other (hid : ¬ c.owns id) : (s.endUse id).1.Alone c s' := by
  rw [Store.endUse]
  cases s.resource? id with
  | none => exact h
  | some e => exact h.modifyEntry_other (fun _ => rfl) (fun _ => rfl) hid

theorem countReleased (hid : c.owns id) : (s.countReleased id).Alone c (s'.countReleased (c.rank id)) := by
  rw [Store.countReleased, Store.countReleased, h.resource? hid]
  cases he : s.resource? id with
  | none => exact h
  | some e =>
    simp only [h.guard_eq hid he]
    exact ((h.modifyStats _).log _ _).output_alone _

theorem countReleased_other (hid : ¬ c.owns id) : (s.countReleased id).Alone c s' := by
  rw [Store.countReleased]
  cases he : s.resource? id with
  | none => exact h
  | some e => exact (h.modifyStats_other (h.guard_ne hid he) _).log _ _

/-- A new handle of the guard. -/
theorem allocate (r : Registration Command) {f : ReleaseFn} (hf : f.IsDiscreet)
    (hp : (s.allocate c.guard r f).1.owners <+: c.owners) :
    (s.allocate c.guard r f).1.Alone c (s'.allocate 0 r f).1 ∧
      c.owns (s.allocate c.guard r f).2 ∧ c.rank (s.allocate c.guard r f).2 = (s'.allocate 0 r f).2 := by
  have hnew := hp
  rw [owners_allocate] at hnew
  obtain ⟨hown, hrank⟩ := rankIn_allocate hnew
  refine ⟨{ h with owners := hp, entries := ?_, discreet := fun e he => ?_ }, hown, ?_⟩
  · rw [own_allocate, List.map_append, ← h.entries]
    simp [Store.allocate, Entry.alone]
  · rw [Store.allocate, Array.toList_push] at he
    rcases List.mem_append.mp he with he | he
    · exact h.discreet e he
    · rw [List.mem_singleton.mp he]
      exact hf
  · have hsize : s'.entries.toList.length = s'.entries.size := Array.length_toList
    rw [Store.allocate, Store.allocate, Census.rank, hrank, ← hsize, h.entries, List.length_map]

/-- A new handle of another guard. -/
theorem allocate_other (hne : g ≠ c.guard) (r : Registration Command) {f : ReleaseFn} (hf : f.IsDiscreet)
    (hp : (s.allocate g r f).1.owners <+: c.owners) :
    (s.allocate g r f).1.Alone c s' ∧ ownerIn c.owners (s.allocate g r f).2 = some g := by
  have hnew := hp
  rw [owners_allocate] at hnew
  refine ⟨{ h with owners := hp, entries := ?_, discreet := fun e he => ?_ }, (rankIn_allocate hnew).1⟩
  · rw [own_allocate_of_ne hne]
    exact h.entries
  · rw [Store.allocate, Array.toList_push] at he
    rcases List.mem_append.mp he with he | he
    · exact h.discreet e he
    · rw [List.mem_singleton.mp he]
      exact hf

/-! ## Callbacks -/

/-- More runs, with numbers for them. -/
theorem withCalls {runs : Nat → Option (Option Nat)} {calls calls' : Array Call}
    (hg : c.Grows { c with runs }) (hcalls : calls'.toList =
      (calls.toList.filter fun k => decide (c.owns k.id)).map (Call.renamed c.rank c.label))
    (hruns : ({ c with runs } : Census).Numbers ({ s with calls } : Store).begun) :
    ({ s with calls } : Store).Alone { c with runs } { s' with calls := calls' } :=
  { h with
    guards := h.guards.imp fun _ _ hx => hx.mono hg
    others := fun hne hx => (h.others hne hx).mono hg
    calls := hcalls
    runs := hruns }

theorem countP_begun : s.begun.countP (fun id => decide (c.owns id)) = s'.calls.size := by
  rw [Store.begun_eq, List.countP_map, ← Array.length_toList, h.calls, List.length_map, ← List.countP_eq_length_filter]
  rfl

theorem grows_onRun (k' : Option Nat) : c.Grows (c.onRun s.calls.size k') := by
  refine Census.grows_onRun (h.runs.fresh (Nat.le_of_eq ?_)) k'
  rw [Store.begun_eq, List.length_map, Array.length_toList]

/-- A run of a callback of the guard's. -/
theorem beginCall (hid : c.owns id) (e : Entry) (t : ThreadId) : c.Grows (c.onRun s.calls.size (some s'.calls.size)) ∧
    (s.beginCall id e t).1.Alone (c.onRun s.calls.size (some s'.calls.size))
      (s'.beginCall (c.rank id) e.alone (c.label t)).1 := by
  have hg := h.grows_onRun (some s'.calls.size)
  refine ⟨hg, h.withCalls hg ?_ ?_⟩
  · simp only [Array.toList_push, List.filter_append, List.map_append, h.calls]
    rw [List.filter_cons_of_pos (by simpa using hid)]
    rfl
  · have hpush := h.runs.push id
    rw [if_pos hid, h.countP_begun, Store.begun_eq, List.length_map, Array.length_toList, ← Store.begun_eq] at hpush
    exact (s.begun_beginCall id e t).symm ▸ hpush

theorem beginCall_other (hid : ¬ c.owns id) (e : Entry) (t : ThreadId) : c.Grows (c.onRun s.calls.size none) ∧
    (s.beginCall id e t).1.Alone (c.onRun s.calls.size none) s' := by
  have hg := h.grows_onRun none
  have hcalls : s'.calls.toList = ((s.calls.push ⟨id, e.address, t, e.callback.listed, none⟩).toList.filter fun k =>
      decide (c.owns k.id)).map (Call.renamed c.rank c.label) := by
    rw [Array.toList_push, List.filter_append, List.filter_cons_of_neg (by simpa using hid), List.filter_nil,
      List.append_nil]
    exact h.calls
  have hpush := h.runs.push id
  rw [if_neg hid, Store.begun_eq, List.length_map, Array.length_toList, ← Store.begun_eq] at hpush
  exact ⟨hg, h.withCalls hg hcalls ((s.begun_beginCall id e t).symm ▸ hpush)⟩

/-- The commands of a run have been carried out. -/
theorem endCall {k k' : Nat} (hk : c.runs k = some (some k')) (did : List Reply) :
    (s.endCall k did).Alone c (s'.endCall k' did) := by
  obtain ⟨id, hid, hv⟩ := h.runs.number hk
  by_cases hown : c.owns id
  · rw [Store.begun_eq, List.getElem?_map] at hid
    obtain ⟨call, hcall, rfl⟩ := Option.map_eq_some_iff.mp hid
    rw [if_pos hown, Store.begun_eq, ← List.map_take, List.countP_map] at hv
    have hnumber : k' = (s.calls.toList.take k).countP fun k => decide (c.owns k.id) := Option.some.inj hv
    have hfilter := filter_modify (p := fun k => decide (c.owns k.id))
      (f := fun k : Call => { k with did := some did }) hcall (fun _ => rfl) (decide_eq_true hown)
    have hrenamed (k : Call) : ({ k with did := some did } : Call).renamed c.rank c.label =
        { k.renamed c.rank c.label with did := some did } := rfl
    refine { h with calls := ?_, runs := (s.begun_endCall k did).symm ▸ h.runs }
    simp only [Store.endCall, Array.toList_modify]
    rw [hfilter, ← hnumber, h.calls]
    exact (map_modify hrenamed _ _).symm
  · rw [if_neg hown] at hv
    cases hv

theorem endCall_other {k : Nat} (hk : c.runs k = some none) (did : List Reply) : (s.endCall k did).Alone c s' := by
  obtain ⟨id, hid, hv⟩ := h.runs.number hk
  by_cases hown : c.owns id
  · rw [if_pos hown] at hv
    cases hv
  · rw [Store.begun_eq, List.getElem?_map] at hid
    have hfilter := filter_modify_of_not (p := fun k => decide (c.owns k.id))
      (f := fun k : Call => { k with did := some did }) (fun _ => rfl) fun call (hcall : s.calls.toList[k]? = _) => by
        rw [hcall] at hid
        cases hid
        exact decide_eq_false hown
    refine { h with calls := ?_, runs := (s.begun_endCall k did).symm ▸ h.runs }
    simp only [Store.endCall, Array.toList_modify]
    rw [hfilter]
    exact h.calls

theorem getElem?_probes (i : Nat) : s'.probes[i]?.map Probe.failing = s.probes[i]?.map Probe.failing := by
  rw [← Array.getElem?_map, ← Array.getElem?_map, h.probes]

/-- Probes that fail the same addresses. -/
theorem withProbes {probes probes' : Array Probe}
    (hp : ∀ i : Nat, probes'[i]?.map Probe.failing = probes[i]?.map Probe.failing) :
    ({ s with probes } : Store).Alone c { s' with probes := probes' } :=
  { h with
    probes := Array.ext_getElem? fun i => by
      rw [Array.getElem?_map, Array.getElem?_map]
      exact hp i }

theorem tellProbe (e : Entry) : Tandem c (s.tellProbe e) (s'.tellProbe e.alone) := by
  rw [Store.tellProbe, Store.tellProbe, Entry.alone]
  cases e.callback.probe with
  | none => exact .intro _ h
  | some i =>
    have hi := h.getElem?_probes i
    simp only
    cases hp : s.probes[i]? with
    | none =>
      rw [hp] at hi
      rw [Option.map_eq_none_iff.mp hi]
      exact .intro _ h
    | some p =>
      rw [hp] at hi
      obtain ⟨p', hp', hfailing⟩ := Option.map_eq_some_iff.mp hi
      rw [hp']
      simp only [Probe.record, hfailing]
      refine .intro _ (h.withProbes fun j => ?_)
      rw [Array.getElem?_modify, Array.getElem?_modify]
      split
      · next hij =>
        subst hij
        rw [hp, hp']
        rfl
      · exact h.getElem?_probes j

theorem tellProbe_other (e : Entry) : (s.tellProbe e).1.Alone c s' := by
  rw [Store.tellProbe]
  cases e.callback.probe with
  | none => exact h
  | some i =>
    simp only
    cases hp : s.probes[i]? with
    | none => exact h
    | some p =>
      show Store.Alone c { s with probes := s.probes.modify i _ } { s' with probes := s'.probes }
      refine h.withProbes fun j => ?_
      rw [Array.getElem?_modify, h.getElem?_probes]
      split
      · next hij =>
        subst hij
        rw [hp]
        rfl
      · rfl

/-- From now on callbacks of the address fail. -/
theorem failOn (address : Address) :
    ({ s with probes := s.probes.modify 0 fun p => p.failOn address } : Store).Alone c
      { s' with probes := s'.probes.modify 0 fun p => p.failOn address } := by
  refine h.withProbes fun i => ?_
  have hi := h.getElem?_probes i
  rw [Array.getElem?_modify, Array.getElem?_modify]
  split
  · next h0 =>
    subst h0
    generalize s.probes[0]? = p, s'.probes[0]? = p' at hi
    cases p with
    | none =>
      rw [Option.map_eq_none_iff.mp hi]
    | some p =>
      obtain ⟨p', rfl, hfailing⟩ := Option.map_eq_some_iff.mp hi
      simp only [Option.map_some, Probe.failOn, hfailing]
  · exact hi

/-! ## Answers to requests -/

/-- More requests, with names for them. -/
theorem withAcks {names : Nat → Option (Option Nat)} {acks acks' : Array (Oneshot Unit)}
    (hg : c.Grows { c with acks := names }) (hacks : Matched names acks acks') :
    ({ s with acks } : Store).Alone { c with acks := names } { s' with acks := acks' } :=
  { h with
    guards := h.guards.imp fun _ _ hx => hx.mono hg
    others := fun hne hx => (h.others hne hx).mono hg
    acks := hacks
    runs := ⟨h.runs.number⟩ }

theorem withAcks_other {names : Nat → Option (Option Nat)} {acks : Array (Oneshot Unit)}
    (hg : c.Grows { c with acks := names }) (hacks : Matched names acks s'.acks) :
    ({ s with acks } : Store).Alone { c with acks := names } s' := by
  have hs := h.withAcks hg hacks
  exact hs

/-- A new request of the guard's. -/
theorem newAck : c.Grows (c.onAck s.acks.size (some s'.acks.size)) ∧
    s.newAck.1.Alone (c.onAck s.acks.size (some s'.acks.size)) s'.newAck.1 := by
  have hg := Census.grows_onAck (h.acks.fresh (Nat.le_refl _)) (some s'.acks.size)
  exact ⟨hg, h.withAcks hg (h.acks.push _)⟩

theorem newAck_other : c.Grows (c.onAck s.acks.size none) ∧ s.newAck.1.Alone (c.onAck s.acks.size none) s' := by
  have hg := Census.grows_onAck (h.acks.fresh (Nat.le_refl _)) none
  exact ⟨hg, h.withAcks_other hg (h.acks.push_cut _)⟩

section Acks
variable {k k' : Nat} (hk : c.acks k = some (some k'))
include hk

theorem answer : (s.answer k).Alone c (s'.answer k') := h.withAcks (.refl c) (h.acks.modify hk _)

theorem closeAck : (s.closeAck k).Alone c (s'.closeAck k') := h.withAcks (.refl c) (h.acks.modify hk _)

theorem takeAck : Tandem c (s.takeAck k) (s'.takeAck k') := by
  obtain ⟨cell, hcell, hcell'⟩ := h.acks.same hk
  rw [Store.takeAck, Store.takeAck, hcell, hcell']
  exact .intro _ (h.withAcks (.refl c) (h.acks.modify hk _))

end Acks

section Acks
variable {k : Nat} (hk : c.acks k = some none)
include hk

theorem answer_other : (s.answer k).Alone c s' := h.withAcks_other (.refl c) (h.acks.modify_cut hk _)

theorem closeAck_other : (s.closeAck k).Alone c s' := h.withAcks_other (.refl c) (h.acks.modify_cut hk _)

theorem takeAck_other : (s.takeAck k).1.Alone c s' := by
  rw [Store.takeAck]
  cases s.acks[k]? with
  | none => exact h
  | some cell => exact h.withAcks_other (.refl c) (h.acks.modify_cut hk _)

end Acks

/-- Requests of the guard's that are destroyed, one after the other. -/
theorem closeAcks {ks ks' : List Nat} (hks : c.Same ks ks') :
    (ks.foldl Store.closeAck s).Alone c (ks'.foldl Store.closeAck s') := by
  induction hks generalizing s s' with
  | nil => exact h
  | cons hk _ ih => exact ih (h.closeAck hk)

theorem closeAcks_other {ks : List Nat} (hks : c.Strange ks) : (ks.foldl Store.closeAck s).Alone c s' := by
  induction ks generalizing s with
  | nil => exact h
  | cons k ks ih =>
    obtain ⟨hk, hks⟩ := List.forall_mem_cons.mp hks
    exact ih (h.closeAck_other hk) hks

/-! ## Sources -/

theorem enqueue {i i' : Item} (hi : i.Alone c i') : Tandem c (s.enqueue c.guard i) (s'.enqueue 0 i') := by
  have hx := h.guard?
  rw [Store.enqueue, Store.enqueue]
  generalize s.guard? c.guard = x, s'.guard? 0 = x' at hx
  cases hx with
  | none => exact .intro _ h
  | @some x x' hx =>
    have hy := hx.source.enqueue hi
    simp only [Option.bind_some]
    generalize x.source.enqueue i = y, x'.source.enqueue i' = y' at hy
    cases hy with
    | none => exact .intro _ h
    | some hy => exact .intro _ (h.modifySource fun _ _ _ => hy)

theorem enqueue_other (hne : g ≠ c.guard) {i : Item} (hi : i.Foreign c) : (s.enqueue g i).1.Alone c s' := by
  rw [Store.enqueue]
  cases hg : s.guard? g with
  | none => exact h
  | some x =>
    simp only [Option.bind_some]
    cases hy : x.source.enqueue i with
    | none => exact h
    | some y => exact h.modifySource_other hne fun _ _ => (h.others hne hg).source.enqueue hi hy

theorem callNext : Tandem c (s.callNext c.guard) (s'.callNext 0) := by
  have hx := h.guard?
  rw [Store.callNext, Store.callNext]
  generalize s.guard? c.guard = x, s'.guard? 0 = x' at hx
  cases hx with
  | none => exact .intro _ h
  | @some x x' hx =>
    obtain ⟨hpanics, hask⟩ := hx.source.ask
    simp only [hpanics]
    exact .intro _ (h.modifySource fun _ _ _ => hask)

theorem callNext_other (hne : g ≠ c.guard) : (s.callNext g).1.Alone c s' := by
  rw [Store.callNext]
  cases hg : s.guard? g with
  | none => exact h
  | some x => exact h.modifySource_other (f := fun _ => x.source.ask.1) hne fun _ _ => (h.others hne hg).source

theorem pollNext : (s.pollNext c.guard).2.Alone c (s'.pollNext 0).2 ∧
    (s.pollNext c.guard).1.Alone c (s'.pollNext 0).1 := by
  have hx := h.guard?
  rw [Store.pollNext, Store.pollNext]
  generalize s.guard? c.guard = x, s'.guard? 0 = x' at hx
  cases hx with
  | none => exact ⟨.wait, h⟩
  | @some x x' hx =>
    obtain ⟨hpoll, hsource⟩ := hx.source.poll
    simp only
    have hs : (s.modifySource c.guard fun _ => x.source.poll.1).Alone c
        (s'.modifySource 0 fun _ => x'.source.poll.1) := h.modifySource fun _ _ _ => hsource
    generalize x.source.poll.2 = p, x'.source.poll.2 = p' at hpoll
    cases hpoll with
    | swallowed hk => exact ⟨.swallowed hk, hs.closeAck hk⟩
    | interrupted => exact ⟨.interrupted, hs⟩
    | item hi => exact ⟨.item hi, hs⟩
    | wait => exact ⟨.wait, hs⟩

theorem pollNext_other (hne : g ≠ c.guard) : (s.pollNext g).2.Foreign c ∧ (s.pollNext g).1.Alone c s' := by
  rw [Store.pollNext]
  cases hg : s.guard? g with
  | none => exact ⟨trivial, h⟩
  | some x =>
    obtain ⟨hpoll, hsource⟩ := (h.others hne hg).source.poll
    simp only
    have hs : (s.modifySource g fun _ => x.source.poll.1).Alone c s' :=
      h.modifySource_other hne fun _ _ => hsource
    generalize x.source.poll.2 = p at hpoll
    cases p with
    | swallowed k => exact ⟨hpoll, hs.closeAck_other hpoll⟩
    | interrupted => exact ⟨trivial, hs⟩
    | item i => exact ⟨hpoll, hs⟩
    | wait => exact ⟨trivial, hs⟩

theorem interrupt : (s.interrupt c.guard).1.Alone c (s'.interrupt 0).1 ∧
    c.Same (s.interrupt c.guard).2 (s'.interrupt 0).2 := by
  have hx := h.guard?
  rw [Store.interrupt, Store.interrupt]
  generalize s.guard? c.guard = x, s'.guard? 0 = x' at hx
  cases hx with
  | none => exact ⟨h, .nil⟩
  | @some x x' hx =>
    obtain ⟨hitems, hsource⟩ := hx.source.interrupt
    simp only
    have hs : (s.modifySource c.guard fun _ => x.source.interrupt.1).Alone c
        (s'.modifySource 0 fun _ => x'.source.interrupt.1) := h.modifySource fun _ _ _ => hsource
    refine ⟨?_, Census.same_acks hitems⟩
    split <;> split
    · exact hs
    · exact hs.output_alone _
    · exact hs.log _ _
    · exact (hs.log _ _).output_alone _

theorem interrupt_other (hne : g ≠ c.guard) : (s.interrupt g).1.Alone c s' ∧ c.Strange (s.interrupt g).2 := by
  rw [Store.interrupt]
  cases hg : s.guard? g with
  | none => exact ⟨h, List.forall_mem_nil _⟩
  | some x =>
    have hs : (s.modifySource g fun _ => x.source.interrupt.1).Alone c s' :=
      h.modifySource_other hne fun _ _ => List.forall_mem_nil _
    simp only
    refine ⟨?_, Census.strange_acks (h.others hne hg).source⟩
    split
    · exact hs
    · exact hs.log _ _

/-- An outsider interrupts the source. -/
theorem interruptAtOnce : (s.interruptAtOnce c.guard).Alone c (s'.interruptAtOnce 0) :=
  h.interrupt.1.closeAcks h.interrupt.2

theorem interruptAtOnce_other (hne : g ≠ c.guard) : (s.interruptAtOnce g).Alone c s' :=
  (h.interrupt_other hne).1.closeAcks_other (h.interrupt_other hne).2

theorem permit (n : Nat) : (s.permit c.guard n).Alone c (s'.permit 0 n) := h.modifySource fun _ _ hx => hx.permit n

theorem permit_other (hne : g ≠ c.guard) (n : Nat) : (s.permit g n).Alone c s' :=
  h.modifySource_other hne fun _ hx => hx

theorem permitPending : (s.permitPending c.guard).Alone c (s'.permitPending 0) :=
  h.modifySource fun _ _ hx => hx.permitPending

theorem permitPending_other (hne : g ≠ c.guard) : (s.permitPending g).Alone c s' :=
  h.modifySource_other hne fun _ hx => hx

/-! ## New guards -/

section Start
variable (config : Config) {source : Source} (hitems : source.queue.items = []) (worker : ThreadId)
include hitems

/-- The guard starts. -/
theorem addGuard (hsize : s.guards.size = c.guard) (hdelivered : source.delivered = []) :
    (s.addGuard config source worker).1.Alone c (s'.addGuard config source (c.label worker)).1 := by
  have hsource : Source.Alone c source source := by
    obtain ⟨⟨is, b⟩, gate, refuses, swallows, panicsAt, calls, ds⟩ := source
    cases hitems
    cases hdelivered
    exact .intro .nil .nil
  refine { h with guards := ?_, others := fun {g x} hne hx => ?_ }
  · have hguards := h.guards
    rw [Store.guard?, Array.getElem?_eq_none (Nat.le_of_eq hsize)] at hguards
    simp only [Store.addGuard, Store.guard?, Array.toList_push, ← hsize, Array.getElem?_push_size]
    generalize s'.guards.toList = xs at hguards
    cases hguards
    exact .cons (.intro (x := { config, worker, source }) hsource fun _ hin => by cases hin) .nil
  · rw [Store.guard?, Store.addGuard, Array.getElem?_push, if_neg (hsize ▸ hne)] at hx
    exact h.others hne hx

/-- Another guard starts. -/
theorem addGuard_other (hsize : s.guards.size ≠ c.guard) : (s.addGuard config source worker).1.Alone c s' := by
  refine { h with guards := ?_, others := fun {g x} hne hx => ?_ }
  · rw [Store.guard?, Store.addGuard, Array.getElem?_push, if_neg (Ne.symm hsize)]
    exact h.guards
  · rw [Store.guard?, Store.addGuard, Array.getElem?_push] at hx
    split at hx
    · cases hx
      refine ⟨fun _ hin => (by cases hin), ?_⟩
      rw [Source.Foreign, hitems]
      exact List.forall_mem_nil _
    · exact h.others hne hx

end Start

end Store.Alone

end Reclaim

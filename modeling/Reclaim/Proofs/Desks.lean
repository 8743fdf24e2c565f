import Reclaim.Proofs.Actions

/-!
# Desks

What matters of a guard for its worker: the source, what the worker is said to be doing and how its
thread ended, and what the sink has been told. Most actions on a store leave that alone, and the cells
of flush answers too.

* `Desk`, `Store.desk?` : what matters of a guard for its worker;
* `Store.Steady` : two stores agree on all that; `steady_*` : one lemma for each action;
* `Store.Sets` : one desk has changed, and the cells have; `sets_*`.
-/

namespace Reclaim

/-- What matters of a guard for its worker. -/
structure Desk where
  config : Config
  worker : ThreadId
  source : Source
  state : WorkerState
  exit : Option Exit
  /-- All that the sink has been told. -/
  said : List Diagnostic

/-- What matters of a guard for its worker. -/
def Guard.desk (x : Guard) : Desk :=
  ⟨x.config, x.worker, x.source, x.state, x.exit, x.offered.toList⟩

/-- The cells of flush answers. -/
abbrev Cells := Array (Oneshot Unit)

namespace Store

/-- What matters of a guard for its worker. -/
def desk? (s : Store) (g : GuardId) : Option Desk := (s.guard? g).map Guard.desk

theorem desk?_modifyGuard (s : Store) {f : Guard → Guard} {f' : Desk → Desk}
    (hf : ∀ x, (f x).desk = f' x.desk) (g g' : GuardId) :
    (s.modifyGuard g f).desk? g' = if g = g' then (s.desk? g').map f' else s.desk? g' := by
  simp only [desk?, guard?_modifyGuard]
  split <;> simp [Function.comp_def, hf]

/-- The stores agree on desks and cells. -/
structure Steady (s s' : Store) : Prop where
  desk : ∀ g, s'.desk? g = s.desk? g
  cells : s'.acks = s.acks

/-- One desk has changed by a function, and this is what has become of the cells. -/
structure Sets (s s' : Store) (g : GuardId) (f : Desk → Desk) (cells : Cells) : Prop where
  desk : ∀ g', s'.desk? g' = if g = g' then (s.desk? g').map f else s.desk? g'
  cells : s'.acks = cells

theorem Steady.refl (s : Store) : Steady s s := ⟨fun _ => rfl, rfl⟩

theorem Steady.trans {s₁ s₂ s₃ : Store} (h : Steady s₁ s₂) (h' : Steady s₂ s₃) : Steady s₁ s₃ :=
  ⟨fun g => (h'.desk g).trans (h.desk g), h'.cells.trans h.cells⟩

theorem Sets.trans {s₁ s₂ s₃ : Store} {g : GuardId} {f : Desk → Desk} {cells : Cells}
    (h : Sets s₁ s₂ g f cells) (h' : Steady s₂ s₃) : Sets s₁ s₃ g f cells :=
  ⟨fun g' => (h'.desk g').trans (h.desk g'), h'.cells.trans h.cells⟩

/-- One change after the other, at the same desk. -/
theorem Sets.then {s₁ s₂ s₃ : Store} {g : GuardId} {f f' : Desk → Desk} {cells cells' : Cells}
    (h : Sets s₁ s₂ g f cells) (h' : Sets s₂ s₃ g f' cells') : Sets s₁ s₃ g (f' ∘ f) cells' := by
  refine ⟨fun g' => ?_, h'.cells⟩
  rw [h'.desk, h.desk]
  split <;> simp

/-- At a given desk only what becomes of that one matters. -/
theorem Sets.congr {s s' : Store} {g : GuardId} {f f' : Desk → Desk} {cells : Cells}
    (h : Sets s s' g f cells) (hf : ∀ d, s.desk? g = some d → f d = f' d) : Sets s s' g f' cells := by
  refine ⟨fun g' => ?_, h.cells⟩
  rw [h.desk]
  split
  · next heq =>
    subst heq
    cases hd : s.desk? g with
    | none => rfl
    | some d => simp [hf d hd]
  · rfl

theorem Sets.toConst {s s' : Store} {g : GuardId} {f : Desk → Desk} {cells : Cells} {d : Desk}
    (h : Sets s s' g f cells) (hd : s.desk? g = some d) : Sets s s' g (fun _ => f d) cells :=
  h.congr fun d' hd' => by rw [Option.some.inj (hd'.symm.trans hd)]

theorem Steady.sets {s s' : Store} (h : Steady s s') (g : GuardId) : Sets s s' g id s.acks := by
  refine ⟨fun g' => ?_, h.cells⟩
  rw [h.desk]
  split <;> simp

theorem steady_modifyGuard (s : Store) (g : GuardId) {f : Guard → Guard}
    (hf : ∀ x, (f x).desk = x.desk) : Steady s (s.modifyGuard g f) := by
  refine ⟨fun g' => ?_, rfl⟩
  have hid : ∀ x, (f x).desk = id x.desk := hf
  rw [s.desk?_modifyGuard hid]
  split <;> simp

theorem sets_modifyGuard (s : Store) (g : GuardId) {f : Guard → Guard} {f' : Desk → Desk}
    (hf : ∀ x, (f x).desk = f' x.desk) : Sets s (s.modifyGuard g f) g f' s.acks :=
  ⟨s.desk?_modifyGuard hf g, rfl⟩

/-! ## Actions that leave desks alone -/

theorem steady_modifyEntry (s : Store) (id : HandleId) (f : Entry → Entry) :
    Steady s (s.modifyEntry id f) := by
  unfold modifyEntry
  split
  · exact .refl s
  · exact ⟨fun _ => rfl, rfl⟩

theorem steady_modifyStats (s : Store) (g : GuardId) (f : Stats → Stats) :
    Steady s (s.modifyStats g f) := s.steady_modifyGuard g fun _ => rfl

theorem steady_log (s : Store) (level : Reclaim.Level) (text : String) : Steady s (s.log level text) :=
  ⟨fun _ => rfl, rfl⟩

theorem steady_retire (s : Store) (id : HandleId) : Steady s (s.retire id).1 := by
  unfold retire
  split
  · exact .refl s
  · split
    · exact .refl s
    · exact (s.steady_modifyEntry id _).trans (steady_modifyGuard _ _ fun _ => rfl)

theorem steady_takeActive (s : Store) (g : GuardId) (id : HandleId) : Steady s (s.takeActive g id).1 := by
  unfold takeActive
  split
  · exact .refl s
  · split
    · split
      · exact .refl s
      · split
        · exact .refl s
        · exact (s.steady_modifyEntry id _).trans (steady_modifyGuard _ _ fun _ => rfl)
    · exact .refl s

theorem steady_dropShare (s : Store) (id : HandleId) : Steady s (s.dropShare id).1 := by
  unfold dropShare
  split
  · exact .refl s
  · exact s.steady_modifyEntry id _

theorem steady_endUse (s : Store) (id : HandleId) : Steady s (s.endUse id).1 := by
  unfold endUse
  split
  · exact .refl s
  · exact s.steady_modifyEntry id _

theorem steady_countReclaimed (s : Store) (g : GuardId) : Steady s (s.countReclaimed g) :=
  s.steady_modifyStats g _

theorem steady_countFailure (s : Store) (g : GuardId) : Steady s (s.countFailure g) :=
  s.steady_modifyStats g _

theorem steady_countReleased (s : Store) (id : HandleId) : Steady s (s.countReleased id) := by
  unfold countReleased
  split
  · exact .refl s
  · exact (s.steady_modifyStats _ _).trans (steady_log _ _ _)

theorem steady_tellProbe (s : Store) (e : Entry) : Steady s (s.tellProbe e).1 := by
  unfold tellProbe
  split
  · exact .refl s
  · split
    · exact .refl s
    · exact ⟨fun _ => rfl, rfl⟩

/-! ## Actions at one desk -/

theorem sets_modifySource (s : Store) (g : GuardId) (f : Source → Source) :
    Sets s (s.modifySource g f) g (fun d => { d with source := f d.source }) s.acks :=
  s.sets_modifyGuard g fun _ => rfl

theorem sets_setWorkerState (s : Store) (g : GuardId) (state : WorkerState) :
    Sets s (s.setWorkerState g state) g (fun d => { d with state }) s.acks :=
  s.sets_modifyGuard g fun _ => rfl

theorem sets_emit (s : Store) (g : GuardId) (d : Diagnostic) :
    Sets s (s.emit g d).1 g (fun x => { x with said := x.said ++ [d] }) s.acks := by
  have hs : Sets s (s.modifyGuard g (·.offer d)) g (fun x => { x with said := x.said ++ [d] }) s.acks :=
    s.sets_modifyGuard g fun _ => by simp [Guard.desk, Guard.offer, Recorder.offer, Recorder.toList]
  unfold emit
  split
  · next hg =>
    have hg : s.desk? g = none := by rw [desk?, Option.map_eq_none_iff.mp hg]; rfl
    exact ((Steady.refl s).sets g).congr fun d hd => by rw [hg] at hd; cases hd
  · exact hs.trans ⟨fun _ => rfl, rfl⟩

theorem guard_of_desk {s : Store} {g : GuardId} {d : Desk} (hd : s.desk? g = some d) :
    ∃ x, s.guard? g = some x ∧ x.desk = d := Option.map_eq_some_iff.mp hd

/-- The source of a given desk has changed by a function. -/
theorem sets_source {s : Store} {g : GuardId} {x : Guard} (hx : s.guard? g = some x)
    (f : Source → Source) : Sets s (s.modifySource g fun _ => f x.source) g
      (fun d => { d with source := f d.source }) s.acks := by
  refine (s.sets_modifySource g fun _ => f x.source).congr fun d hd => ?_
  obtain ⟨y, hy, rfl⟩ := guard_of_desk hd
  cases hx.symm.trans hy
  rfl

/-- An item goes into the source, unless the source hands it back. -/
theorem sets_enqueue {s : Store} {g : GuardId} {d : Desk} (hd : s.desk? g = some d) (item : Item) :
    (∃ source, d.source.enqueue item = some source ∧ (s.enqueue g item).2 = true ∧
      Sets s (s.enqueue g item).1 g (fun d => { d with source }) s.acks) ∨
    (d.source.enqueue item = none ∧ s.enqueue g item = (s, false)) := by
  obtain ⟨x, hx, rfl⟩ := guard_of_desk hd
  unfold enqueue
  rw [hx, Option.bind_some]
  cases hsource : x.source.enqueue item with
  | none => exact .inr ⟨hsource, rfl⟩
  | some source => exact .inl ⟨source, hsource, rfl, s.sets_modifySource g fun _ => source⟩

theorem sets_callNext {s : Store} {g : GuardId} {d : Desk} (hd : s.desk? g = some d) :
    (s.callNext g).2 = d.source.ask.2 ∧
      Sets s (s.callNext g).1 g (fun d => { d with source := d.source.ask.1 }) s.acks := by
  obtain ⟨x, hx, rfl⟩ := guard_of_desk hd
  unfold callNext
  rw [hx]
  exact ⟨rfl, sets_source hx fun source => source.ask.1⟩

/-- A look at the source of a desk, which destroys a request if the source swallows it. -/
theorem sets_pollNext {s : Store} {g : GuardId} {d : Desk} (hd : s.desk? g = some d) :
    (s.pollNext g).2 = d.source.poll.2 ∧
      Sets s (s.pollNext g).1 g (fun d => { d with source := d.source.poll.1 })
        (match d.source.poll.2 with
          | .swallowed k => s.acks.modify k Oneshot.close
          | _ => s.acks) := by
  obtain ⟨x, hx, rfl⟩ := guard_of_desk hd
  have hs := sets_source hx fun source => source.poll.1
  unfold pollNext
  simp only [hx, Guard.desk]
  cases hp : x.source.poll with
  | mk source poll =>
    rw [hp] at hs
    cases poll <;> exact ⟨rfl, hs.desk, rfl⟩

/-- A request is destroyed. -/
theorem sets_closeAck (s : Store) (g : GuardId) (k : Nat) :
    s.Sets (s.closeAck k) g id (s.acks.modify k Oneshot.close) := ⟨((Steady.refl s).sets g).desk, rfl⟩

/-- An interruption of the source of a desk, with the requests that were pending in hand. -/
theorem sets_interrupt {s : Store} {g : GuardId} {d : Desk} (hd : s.desk? g = some d) :
    (s.interrupt g).2 = d.source.queue.items.filterMap Item.ack? ∧
      Sets s (s.interrupt g).1 g (fun d => { d with source := d.source.interrupt.1 }) s.acks := by
  obtain ⟨x, hx, rfl⟩ := guard_of_desk hd
  have hs := sets_source hx fun source => source.interrupt.1
  unfold interrupt
  simp only [hx]
  have hlog : ∀ items : List Item, Sets s (if items.isEmpty = true then
      s.modifySource g fun _ => x.source.interrupt.1 else
      (s.modifySource g fun _ => x.source.interrupt.1).log .debug ("reclaim source interrupted with " ++
        toString items.length ++ " pending item(s)")) g
      (fun d => { d with source := d.source.interrupt.1 }) s.acks := by
    intro items
    split
    · exact hs
    · exact hs.trans (steady_log _ _ _)
  exact ⟨rfl, hlog x.source.interrupt.2⟩

end Store

end Reclaim

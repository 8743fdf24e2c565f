import Reclaim.Proofs.Affairs

/-!
# A guard in company and alone

A guard of a process and the same guard in a process where nothing else is: handles go by their ranks, threads
by other names, and cells for answers by other numbers. A `Census` says what goes by which name; what is none of
the guard's has no counterpart.

* `Census`, `Census.Grows` : names, and that those that have been given stay;
* `Item.Alone`, `Source.Alone`, `Guard.Alone`, `Store.Alone` : the second is the guard's part of the first;
* `Item.Foreign`, `Guard.Foreign` : none of the guard's;
* `Source.Alone.enqueue`, `Source.Alone.poll`, `Guard.Alone.contains`, `Guard.Alone.erase` and their kin : both
  after the same action.
-/

namespace Reclaim

/-! ## Names -/

/-- What is one guard's in a process, and its names in the process where the guard is alone. -/
structure Census where
  guard : GuardId
  /-- The guards of all handles that there will be. -/
  owners : List GuardId
  label : ThreadId ↪ ThreadId
  /-- The cell for the answer to a request; none for a request that is none of the guard's. -/
  acks : Nat → Option (Option Nat) := fun _ => none
  /-- The number of a run of a callback; none for a handle that is none of the guard's. -/
  runs : Nat → Option (Option Nat) := fun _ => none

namespace Census
variable (c : Census)

/-- The handle is the guard's. -/
def owns (id : HandleId) : Prop := ownerIn c.owners id = some c.guard

instance (id : HandleId) : Decidable (c.owns id) := inferInstanceAs (Decidable (_ = _))

/-- The number of a handle in the process where the guard is alone. -/
def rank (id : HandleId) : HandleId := rankIn c.owners c.guard id

/-- A new cell, with its counterpart if it has one. -/
def onAck (k : Nat) (k' : Option Nat) : Census := { c with acks := Function.update c.acks k (some k') }

/-- A new run, with its counterpart if it has one. -/
def onRun (k : Nat) (k' : Option Nat) : Census := { c with runs := Function.update c.runs k (some k') }

/-- Names that have been given stay. -/
inductive Grows : Census → Prop
  | intro {acks runs : Nat → Option (Option Nat)} : (∀ {k v}, c.acks k = some v → acks k = some v) →
      (∀ {k v}, c.runs k = some v → runs k = some v) → Grows { c with acks, runs }

variable {c} {id id' : HandleId}

theorem Grows.refl (c : Census) : c.Grows c := .intro id id

theorem Grows.trans {c' c'' : Census} (hg : c.Grows c') (hg' : c'.Grows c'') : c.Grows c'' := by
  obtain ⟨hacks, hruns⟩ := hg
  obtain ⟨hacks', hruns'⟩ := hg'
  exact .intro (fun hk => hacks' (hacks hk)) fun hk => hruns' (hruns hk)

theorem grows_onAck {k : Nat} (hk : c.acks k = none) (k' : Option Nat) : c.Grows (c.onAck k k') :=
  .intro (Bond.grows_update hk k') id

theorem grows_onRun {k : Nat} (hk : c.runs k = none) (k' : Option Nat) : c.Grows (c.onRun k k') :=
  .intro id (Bond.grows_update hk k')

theorem rank_of_not_owns (h : ¬ c.owns id) : c.rank id = ⟨0⟩ := rankIn_of_ne h

theorem rank_ne_zero (h : c.owns id) : (c.rank id).number ≠ 0 := rankIn_ne_zero h

theorem rank_inj (h : c.owns id) (h' : c.owns id') (heq : c.rank id = c.rank id') : id = id' :=
  rankIn_injective h h' heq

end Census

/-! ## Items -/

/-- The second item is the first, given to the guard. -/
inductive Item.Alone (c : Census) : Item → Item → Prop
  | reclaim (id : HandleId) : Item.Alone c (.reclaim id) (.reclaim (c.rank id))
  | flush {k k' : Nat} : c.acks k = some (some k') → Item.Alone c (.flush k) (.flush k')

/-- The item is no request of the guard's. -/
def Item.Foreign (c : Census) : Item → Prop
  | .reclaim _ => True
  | .flush k => c.acks k = some none

/-- The second requests are the first, by the numbers that they have where the guard is alone. -/
def Census.Same (c : Census) : List Nat → List Nat → Prop := List.Forall₂ fun k k' => c.acks k = some (some k')

/-- None of the requests is the guard's. -/
def Census.Strange (c : Census) (ks : List Nat) : Prop := ∀ k ∈ ks, c.acks k = some none

/-- Both workers find the same. -/
inductive Poll.Alone (c : Census) : Poll → Poll → Prop
  | interrupted : Poll.Alone c .interrupted .interrupted
  | item {i i' : Item} : i.Alone c i' → Poll.Alone c (.item i) (.item i')
  | swallowed {k k' : Nat} : c.acks k = some (some k') → Poll.Alone c (.swallowed k) (.swallowed k')
  | wait : Poll.Alone c .wait .wait

/-- What the worker of another guard finds is no request of the guard's. -/
def Poll.Foreign (c : Census) : Poll → Prop
  | .item i => i.Foreign c
  | .swallowed k => c.acks k = some none
  | _ => True

section Grows
variable {c c' : Census} (hg : c.Grows c')
include hg

theorem Item.Alone.mono {i i' : Item} (h : i.Alone c i') : i.Alone c' i' := by
  obtain ⟨hacks, -⟩ := hg
  cases h with
  | reclaim id => exact .reclaim id
  | flush hk => exact .flush (hacks hk)

theorem Item.Foreign.mono {i : Item} (h : i.Foreign c) : i.Foreign c' := by
  obtain ⟨hacks, -⟩ := hg
  cases i with
  | reclaim id => trivial
  | flush k => exact hacks h

theorem forall₂_mono {is is' : List Item} (h : List.Forall₂ (Item.Alone c) is is') :
    List.Forall₂ (Item.Alone c') is is' := h.imp fun _ _ hi => hi.mono hg

theorem Census.Same.mono {ks ks' : List Nat} (h : c.Same ks ks') : c'.Same ks ks' := by
  obtain ⟨hacks, -⟩ := hg
  exact List.Forall₂.imp (fun _ _ hk => hacks hk) h

theorem Census.Strange.mono {ks : List Nat} (h : c.Strange ks) : c'.Strange ks := by
  obtain ⟨hacks, -⟩ := hg
  exact fun k hk => hacks (h k hk)

end Grows

/-- The requests among items. -/
theorem Census.same_acks {c : Census} {is is' : List Item} (h : List.Forall₂ (Item.Alone c) is is') :
    c.Same (is.filterMap Item.ack?) (is'.filterMap Item.ack?) := by
  induction h with
  | nil => exact .nil
  | cons hi _ ih =>
    cases hi with
    | reclaim id => exact ih
    | flush hk => exact .cons hk ih

theorem Census.strange_acks {c : Census} {is : List Item} (h : ∀ i ∈ is, i.Foreign c) :
    c.Strange (is.filterMap Item.ack?) := by
  intro k hk
  obtain ⟨i, hi, hack⟩ := List.mem_filterMap.mp hk
  cases i with
  | reclaim id => cases hack
  | flush k' =>
    cases hack
    exact h _ hi

/-! ## Sources -/

/-- The second source is the first, with items that are given to the guard. -/
inductive Source.Alone (c : Census) (x : Source) : Source → Prop
  | intro {items delivered : List Item} : List.Forall₂ (Item.Alone c) x.queue.items items →
      List.Forall₂ (Item.Alone c) x.delivered delivered →
        Source.Alone c x { x with queue := { x.queue with items }, delivered }

/-- Nothing that waits is a request of the guard's. -/
def Source.Foreign (c : Census) (x : Source) : Prop := ∀ i ∈ x.queue.items, i.Foreign c

namespace Source.Alone
variable {c c' : Census} {x x' : Source} (h : Source.Alone c x x')
include h

theorem mono (hg : c.Grows c') : Source.Alone c' x x' := by
  cases h with
  | intro hitems hdelivered => exact .intro (forall₂_mono hg hitems) (forall₂_mono hg hdelivered)

theorem pending : x'.pending = x.pending := by
  cases h with
  | intro hitems _ => exact hitems.length_eq.symm

theorem isInterrupted : x'.isInterrupted = x.isInterrupted := by
  cases h with
  | intro => rfl

theorem gate : x'.gate = x.gate := by
  cases h with
  | intro => rfl

/-- Both sources take an item, or both hand it back. -/
theorem enqueue {i i' : Item} (hi : i.Alone c i') :
    Option.Rel (Source.Alone c) (x.enqueue i) (x'.enqueue i') := by
  obtain ⟨⟨is, b⟩, gate, refuses, swallows, panicsAt, calls, ds⟩ := x
  cases h with
  | intro hitems hdelivered =>
    cases refuses with
    | true => exact .none
    | false =>
      cases b with
      | true => exact .none
      | false => exact .some (.intro (List.rel_append hitems (.cons hi .nil)) hdelivered)

theorem ask : x'.ask.2 = x.ask.2 ∧ Source.Alone c x.ask.1 x'.ask.1 := by
  cases h with
  | intro hitems hdelivered => exact ⟨rfl, .intro hitems hdelivered⟩

theorem permit (n : Nat) : Source.Alone c (x.permit n) (x'.permit n) := by
  cases h with
  | intro hitems hdelivered => exact .intro hitems hdelivered

theorem permitPending : Source.Alone c x.permitPending x'.permitPending := by
  rw [Source.permitPending, Source.permitPending, h.pending]
  exact h.permit _

theorem interrupt : List.Forall₂ (Item.Alone c) x.interrupt.2 x'.interrupt.2 ∧
    Source.Alone c x.interrupt.1 x'.interrupt.1 := by
  cases h with
  | intro hitems hdelivered => exact ⟨hitems, .intro .nil hdelivered⟩

theorem poll : x.poll.2.Alone c x'.poll.2 ∧ Source.Alone c x.poll.1 x'.poll.1 := by
  obtain ⟨⟨is, b⟩, gate, refuses, swallows, panicsAt, calls, ds⟩ := x
  cases h with
  | @intro is' delivered hitems hdelivered =>
    cases b with
    | true => exact ⟨.interrupted, .intro hitems hdelivered⟩
    | false =>
      cases hitems with
      | nil => exact ⟨.wait, .intro .nil hdelivered⟩
      | @cons i i' rest rest' hi hrest =>
        cases hopen : Source.isOpen ⟨⟨i :: rest, false⟩, gate, refuses, swallows, panicsAt, calls, ds⟩ with
        | false =>
          have hopen' : Source.isOpen ⟨⟨i' :: rest', false⟩, gate, refuses, swallows, panicsAt, calls, delivered⟩ = false :=
            hopen
          simp only [Source.poll, Queue.next, hopen, hopen', Bool.false_eq_true, if_false]
          exact ⟨.wait, .intro (.cons hi hrest) hdelivered⟩
        | true =>
          have hopen' : Source.isOpen ⟨⟨i' :: rest', false⟩, gate, refuses, swallows, panicsAt, calls, delivered⟩ = true :=
            hopen
          simp only [Source.poll, Queue.next, hopen, hopen', Bool.false_eq_true, if_false, if_true]
          cases swallows with
          | false => exact ⟨.item hi, .intro hrest (.cons hi hdelivered)⟩
          | true =>
            cases hi with
            | reclaim id => exact ⟨.item (.reclaim id), .intro hrest (.cons (.reclaim id) hdelivered)⟩
            | flush hk => exact ⟨.swallowed hk, .intro hrest hdelivered⟩

end Source.Alone

namespace Source.Foreign
variable {c c' : Census} {x : Source} (h : x.Foreign c)
include h

theorem mono (hg : c.Grows c') : x.Foreign c' := fun i hi => (h i hi).mono hg

theorem enqueue {i : Item} (hi : i.Foreign c) {y : Source} (hy : x.enqueue i = some y) : y.Foreign c := by
  obtain ⟨-, -, rfl⟩ := Source.enqueue_eq_some hy
  intro j hj
  rcases List.mem_append.mp hj with hj | hj
  · exact h j hj
  · rwa [List.mem_singleton.mp hj]

theorem poll : x.poll.2.Foreign c ∧ x.poll.1.Foreign c := by
  obtain ⟨⟨is, b⟩, gate, refuses, swallows, panicsAt, calls, ds⟩ := x
  cases b with
  | true => exact ⟨trivial, h⟩
  | false =>
    cases is with
    | nil => exact ⟨trivial, h⟩
    | cons i rest =>
      have hi : i.Foreign c := h i (List.mem_cons_self ..)
      have hrest : ∀ j ∈ rest, j.Foreign c := fun j hj => h j (List.mem_cons_of_mem i hj)
      simp only [Source.poll, Queue.next, Bool.false_eq_true, if_false]
      split
      · cases swallows with
        | false => exact ⟨hi, hrest⟩
        | true =>
          cases i with
          | reclaim id => exact ⟨hi, hrest⟩
          | flush k => exact ⟨hi, hrest⟩
      · exact ⟨trivial, h⟩

end Source.Foreign

/-! ## Guards -/

/-- The second guard is the first, alone. -/
inductive Guard.Alone (c : Census) (x : Guard) : Guard → Prop
  | intro {source : Source} : Source.Alone c x.source source → (∀ id ∈ x.registry.ids, c.owns id) →
      Guard.Alone c x
        { x with worker := c.label x.worker, source, registry := ⟨x.registry.ids.map c.rank⟩ }

/-- Another guard: what it keeps track of is its own, and what waits before it is no request of the guard's. -/
structure Guard.Foreign (c : Census) (g : GuardId) (x : Guard) : Prop where
  registry : ∀ id ∈ x.registry.ids, ownerIn c.owners id = some g
  source : x.source.Foreign c

theorem Guard.Foreign.mono {c c' : Census} (hg : c.Grows c') {g : GuardId} {x : Guard} (h : x.Foreign c g) :
    x.Foreign c' g := by
  have hsource := h.source.mono hg
  obtain ⟨-⟩ := hg
  exact ⟨h.registry, hsource⟩

namespace Guard.Alone
variable {c c' : Census} {x x' : Guard} (h : Guard.Alone c x x')
include h

theorem mono (hg : c.Grows c') : Guard.Alone c' x x' := by
  cases h with
  | intro hsource hregistry =>
    have hsource := hsource.mono hg
    obtain ⟨-⟩ := hg
    exact .intro hsource hregistry

theorem source : Source.Alone c x.source x'.source := by
  cases h with
  | intro hsource _ => exact hsource

theorem worker : x'.worker = c.label x.worker := by
  cases h with
  | intro => rfl

theorem withSource {y y' : Source} (hy : Source.Alone c y y') :
    Guard.Alone c { x with source := y } { x' with source := y' } := by
  cases h with
  | intro _ hregistry => exact .intro hy hregistry

/-- Both guards keep track of a handle, or neither does. -/
theorem contains (id : HandleId) : x'.registry.contains (c.rank id) = x.registry.contains id := by
  cases h with
  | intro _ hregistry =>
    rw [Bool.eq_iff_iff]
    simp only [Registry.contains, List.contains_iff_mem, List.mem_map]
    refine ⟨?_, fun hin => ⟨id, hin, rfl⟩⟩
    rintro ⟨id', hin, heq⟩
    by_cases hid : c.owns id
    · rwa [← Census.rank_inj (hregistry id' hin) hid heq]
    · rw [Census.rank_of_not_owns hid] at heq
      exact (Census.rank_ne_zero (hregistry id' hin) (congrArg HandleId.number heq)).elim

theorem owns {id : HandleId} (hid : x.registry.contains id = true) : c.owns id := by
  cases h with
  | intro _ hregistry => exact hregistry id (List.contains_iff_mem.mp hid)

theorem insert {id : HandleId} (hid : c.owns id) :
    Guard.Alone c { x with registry := x.registry.insert id }
      { x' with registry := x'.registry.insert (c.rank id) } := by
  cases h with
  | intro hsource hregistry =>
    refine .intro (x := { x with registry := x.registry.insert id }) hsource fun id' hin => ?_
    rcases List.mem_cons.mp hin with rfl | hin
    · exact hid
    · exact hregistry id' hin

theorem erase {id : HandleId} (hid : c.owns id) :
    Guard.Alone c { x with registry := x.registry.erase id }
      { x' with registry := x'.registry.erase (c.rank id) } := by
  cases h with
  | intro hsource hregistry =>
    have hmap : (x.registry.ids.map c.rank).erase (c.rank id) = (x.registry.ids.erase id).map c.rank := by
      generalize x.registry.ids = ids at hregistry
      induction ids with
      | nil => rfl
      | cons id' ids ih =>
        have ih := ih fun id'' hin => hregistry id'' (List.mem_cons_of_mem id' hin)
        by_cases heq : id' = id
        · rw [heq, List.map_cons, List.erase_cons_head, List.erase_cons_head]
        · have hne : c.rank id' ≠ c.rank id := fun hr =>
            heq (Census.rank_inj (hregistry id' (List.mem_cons_self ..)) hid hr)
          rw [List.map_cons, List.erase_cons_tail (by simpa using hne), List.erase_cons_tail (by simpa using heq),
            List.map_cons, ih]
    have hreg : (⟨(x.registry.ids.map c.rank).erase (c.rank id)⟩ : Registry) =
        ⟨(x.registry.ids.erase id).map c.rank⟩ := congrArg Registry.mk hmap
    simp only [Registry.erase, hreg]
    exact .intro (x := { x with registry := ⟨x.registry.ids.erase id⟩ }) hsource fun id' hin =>
      hregistry id' (List.mem_of_mem_erase hin)

end Guard.Alone

end Reclaim

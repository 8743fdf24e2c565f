import Reclaim.Proofs.Acts

/-!
# Placement

Everything that refers to a handle or to a guard refers to one that there is, and what the registry
or the worker of a guard has to do with was registered there. Handles and guards last: who they are
never changes, and a released handle stays released.

* `Store.Extends` : what lasts from one store to another; `Act.extends`;
* `Act.entry_new`, `Act.gist_cases`, ... : where new things come from;
* `Mark.Placed`, `Placed` : all references are as they should be; `Placed.act`;
* `System.orderly_after` : whatever has happened; `System.extends_after` : what lasts for good.
-/

namespace Reclaim

/-! ## What lasts -/

/-- The same handle later on. -/
structure Entry.Later (e e' : Entry) : Prop where
  guard : e'.guard = e.guard
  address : e'.address = e.address
  label : e'.label = e.label
  callback : e'.callback = e.callback
  released : e.state = .released → e'.state = .released

theorem Entry.Later.refl (e : Entry) : e.Later e := ⟨rfl, rfl, rfl, rfl, fun h => h⟩

/-- The same guard later on. -/
structure Gist.Later (x x' : Gist) : Prop where
  config : x'.config = x.config
  exposed : x'.exposed = x.exposed
  refuses : x'.refuses = x.refuses
  interrupted : x.interrupted = true → x'.interrupted = true

theorem Gist.Later.refl (x : Gist) : x.Later x := ⟨rfl, rfl, rfl, fun h => h⟩

namespace Store

/-- The handles and guards of a store are there in another, the same as before. -/
structure Extends (s s' : Store) : Prop where
  entry : ∀ id e, s.resource? id = some e → ∃ e', s'.resource? id = some e' ∧ e.Later e'
  gist : ∀ g x, s.gist? g = some x → ∃ x', s'.gist? g = some x' ∧ x.Later x'

theorem Extends.of_eq {s s' : Store} (hentry : ∀ id, s'.resource? id = s.resource? id)
    (hgist : ∀ g, s'.gist? g = s.gist? g) : Extends s s' :=
  ⟨fun id e he => ⟨e, (hentry id).trans he, .refl e⟩, fun g x hx => ⟨x, (hgist g).trans hx, .refl x⟩⟩

theorem Extends.refl (s : Store) : Extends s s := .of_eq (fun _ => rfl) fun _ => rfl

theorem Extends.trans {s₁ s₂ s₃ : Store} (h : Extends s₁ s₂) (h' : Extends s₂ s₃) :
    Extends s₁ s₃ := by
  constructor
  · intro id e he
    obtain ⟨e', he', hl⟩ := h.entry id e he
    obtain ⟨e'', he'', hl'⟩ := h'.entry id e' he'
    exact ⟨e'', he'', hl'.guard.trans hl.guard, hl'.address.trans hl.address,
      hl'.label.trans hl.label, hl'.callback.trans hl.callback,
      fun hr => hl'.released (hl.released hr)⟩
  · intro g x hx
    obtain ⟨x', hx', hl⟩ := h.gist g x hx
    obtain ⟨x'', hx'', hl'⟩ := h'.gist g x' hx'
    exact ⟨x'', hx'', hl'.config.trans hl.config, hl'.exposed.trans hl.exposed,
      hl'.refuses.trans hl.refuses, fun hi => hl'.interrupted (hl.interrupted hi)⟩

theorem Alike.extends {s s' : Store} (h : Alike s s') : Extends s s' := .of_eq h.entry h.gist

theorem Touches.extends {s s' : Store} {g : GuardId} {f : Gist → Gist} (h : Touches s s' g f)
    (hf : ∀ x : Gist, x.Later (f x)) : Extends s s' := by
  refine ⟨fun id e he => ⟨e, (h.entry id).trans he, .refl e⟩, fun g' x hx => ?_⟩
  rw [h.gist, hx]
  split
  · exact ⟨f x, rfl, hf x⟩
  · exact ⟨x, rfl, .refl x⟩

theorem Amends.extends {s s' : Store} {id : HandleId} {f : Entry → Entry} (h : Amends s s' id f)
    (hf : ∀ e : Entry, e.Later (f e)) : Extends s s' := by
  refine ⟨fun id' e he => ?_, fun g x hx => ⟨x, (h.gist g).trans hx, .refl x⟩⟩
  rw [h.entry, he]
  split
  · exact ⟨f e, rfl, hf e⟩
  · exact ⟨e, rfl, .refl e⟩

theorem Claims.extends {s s' : Store} {g : GuardId} {id : HandleId} (h : Claims s s' g id) :
    Extends s s' := by
  constructor
  · intro id' e he
    rw [h.entry, he]
    split
    · exact ⟨_, rfl, rfl, rfl, rfl, rfl, fun _ => rfl⟩
    · exact ⟨e, rfl, .refl e⟩
  · intro g' x hx
    rw [h.gist, hx]
    split
    · exact ⟨_, rfl, rfl, rfl, rfl, fun hi => hi⟩
    · exact ⟨x, rfl, .refl x⟩

theorem extends_bindGuard (s : Store) (name : String) (g : GuardId) :
    Extends s (s.bindGuard name g) := .of_eq (fun _ => rfl) fun _ => rfl

theorem extends_bindHandle (s : Store) (name : String) (id : HandleId) :
    Extends s (s.bindHandle name id) := .of_eq (fun _ => rfl) fun _ => rfl

theorem extends_beginCall (s : Store) (id : HandleId) (e : Entry) (thread : ThreadId) :
    Extends s (s.beginCall id e thread).1 := .of_eq (fun _ => rfl) fun _ => rfl

theorem Extends.runs {s s' : Store} (h : Extends s s') {g : GuardId} (hg : s.Runs g) : s'.Runs g := by
  obtain ⟨x, hx⟩ := hg
  obtain ⟨x', hx', -⟩ := h.gist g x hx
  exact ⟨x', hx'⟩

theorem Extends.known {s s' : Store} (h : Extends s s') {id : HandleId} (hid : s.Known id) :
    s'.Known id := by
  obtain ⟨e, he⟩ := hid
  obtain ⟨e', he', -⟩ := h.entry id e he
  exact ⟨e', he'⟩

theorem Extends.owns {s s' : Store} (h : Extends s s') {g : GuardId} {id : HandleId}
    (hid : s.Owns g id) : s'.Owns g id := by
  obtain ⟨e, he, hg⟩ := hid
  obtain ⟨e', he', hl⟩ := h.entry id e he
  exact ⟨e', he', hl.guard.trans hg⟩

theorem Admits.known {s : Store} {g : GuardId} {id : HandleId} (h : s.Admits g id) : s.Known id := by
  obtain ⟨e, -, he, -⟩ := h
  exact ⟨e, he⟩

theorem Extends.admits {s s' : Store} (h : Extends s s') {g : GuardId} {id : HandleId}
    (hid : s.Admits g id) : s'.Admits g id := by
  obtain ⟨e, x, he, hx, hown⟩ := hid
  obtain ⟨e', he', hle⟩ := h.entry id e he
  obtain ⟨x', hx', hlx⟩ := h.gist g x hx
  exact ⟨e', x', he', hx', fun hc => hle.guard.trans (hown (hlx.exposed ▸ hc))⟩

end Store

section Acts
variable {s s' : Store} {src dst : Multiset Spot} {ms : History}

/-- Whatever is done, handles and guards last. -/
theorem Act.extends (a : Act s src s' dst ms) : s.Extends s' := by
  cases a with
  | still h | reach _ h | report h | abort h => exact h.extends
  | refuse | lose | miss | done | handBack => exact .refl s
  | leak _ h | track h | register h | prepare _ h | queue _ _ _ h | take _ _ _ h | discard _ _ h | succeed h
  | fail h | inject _ _ _ _ h => exact h.extends fun _ => ⟨rfl, rfl, rfl, fun h => h⟩
  | interrupt h => exact h.extends fun _ => ⟨rfl, rfl, rfl, fun _ => rfl⟩
  | share _ _ _ h | giveUp _ _ _ h | use _ _ _ h | win _ h | yield _ h =>
    exact h.extends fun _ => ⟨rfl, rfl, rfl, rfl, fun h => h⟩
  | claim _ _ h | reclaim _ _ _ _ h => exact h.extends
  | found hg _ _ _ _ _ hentry _ _ hgist =>
    refine ⟨fun id e he => ⟨e, (hentry id).trans he, .refl e⟩, fun g' x hx => ⟨x, ?_, .refl x⟩⟩
    rw [hgist, if_neg]
    · exact hx
    · rintro rfl
      rw [hg] at hx
      cases hx
  | grant h => exact (s.extends_bindGuard _ _).trans h.extends
  | number g r f =>
    refine ⟨fun id e he => ⟨e, ?_, .refl e⟩, fun g' x hx => ⟨x, hx, .refl x⟩⟩
    rw [Store.resource?_allocate, if_neg]
    · exact he
    · rintro rfl
      rw [Store.resource?_allocate_self] at he
      cases he
  | bind => exact s.extends_bindHandle _ _
  | rebind _ _ _ h =>
    exact (s.extends_bindHandle _ _).trans (h.extends fun _ => ⟨rfl, rfl, rfl, rfl, fun h => h⟩)
  | call _ h => exact (s.extends_beginCall _ _ _).trans h.extends

/-! ## Where new things come from -/

/-- Handles come from registrations. -/
theorem Act.entry_new (a : Act s src s' dst ms) {id : HandleId} {e : Entry}
    (hold : s.resource? id = none) (hnew : s'.resource? id = some e) :
    ∃ g r f, id = (s.allocate g r f).2 ∧
      e = { guard := g, address := r.address, label := r.label, callback := f } ∧
      s' = (s.allocate g r f).1 ∧ src = {.enrolling g} ∧ dst = {.numbered g id} ∧
      ms = [(id, .numbered r.address)] := by
  have hsame : s'.resource? id ≠ s.resource? id := by
    intro h
    rw [h, hold] at hnew
    cases hnew
  have hmap : ∀ {id' f}, s'.resource? id ≠ if id' = id then (s.resource? id).map f else s.resource? id := by
    intro id' f h
    refine hsame (h.trans ?_)
    rw [hold]
    split <;> rfl
  cases a with
  | still h | reach _ h | report h | abort h => exact absurd (h.entry id) hsame
  | refuse | lose | miss | done | handBack | bind => exact absurd rfl hsame
  | leak _ h | track h | register h | prepare _ h | queue _ _ _ h | take _ _ _ h | discard _ _ h
  | succeed h | fail h | inject _ _ _ _ h | interrupt h => exact absurd (h.entry id) hsame
  | share _ _ _ h | giveUp _ _ _ h | use _ _ _ h | win _ h | yield _ h | claim _ _ h
  | reclaim _ _ _ _ h => exact absurd (h.entry id) hmap
  | rebind _ _ _ h => exact absurd (h.entry id) hmap
  | found _ _ _ _ _ _ hentry => exact absurd (hentry id) hsame
  | grant h | call _ h => exact absurd (h.entry id) hsame
  | number g r f =>
    rw [Store.resource?_allocate] at hnew
    split at hnew
    · next heq =>
      cases hnew
      exact ⟨g, r, f, heq, rfl, rfl, rfl, by rw [heq], by rw [heq]⟩
    · rw [hold] at hnew
      cases hnew

/-- A guard that has seen nothing yet. -/
structure Gist.Fresh (x : Gist) : Prop where
  registry : x.registry = {}
  waiting : x.waiting = []
  refuses : x.refuses = true → x.exposed = true
  stats : x.stats = {}
  leaks : x.leaks = []

/-- What an act that takes these spots can make of a guard. -/
inductive Gist.Change (s : Store) (src : Multiset Spot) (g : GuardId) (x : Gist) : Gist → Prop
  | same : Change s src g x x
  | insert {id : HandleId} (hsrc : .numbered g id ∈ src) : Change s src g x (x.insert id)
  | erase (id : HandleId) : Change s src g x (x.erase id)
  /-- A handle is queued by its drop or put in from outside. -/
  | queue {id : HandleId} (hid : s.Owns g id ∨ (s.Named id ∧ x.exposed = true)) :
      Change s src g x (x.queue id)
  | next : Change s src g x x.next
  | clear : Change s src g x x.clear
  | count (f : Stats → Stats) : Change s src g x (x.count f)
  | leak (address : Address) : Change s src g x (x.leak address)

theorem Store.Touches.change {g g' : GuardId} {f : Gist → Gist} {x' : Gist} (h : s.Touches s' g' f)
    (hx' : s'.gist? g = some x')
    (hf : ∀ x, g' = g → s.gist? g = some x → Gist.Change s src g x (f x)) :
    ∃ x, s.gist? g = some x ∧ Gist.Change s src g x x' := by
  rw [h.gist] at hx'
  split at hx'
  · next hg =>
    obtain ⟨x, hx, rfl⟩ := Option.map_eq_some_iff.mp hx'
    exact ⟨x, hx, hf x hg hx⟩
  · exact ⟨x', hx', .same⟩

theorem Store.Claims.change {g g' : GuardId} {id : HandleId} {x' : Gist} (h : s.Claims s' g' id)
    (hx' : s'.gist? g = some x') : ∃ x, s.gist? g = some x ∧ Gist.Change s src g x x' := by
  rw [h.gist] at hx'
  split at hx'
  · obtain ⟨x, hx, rfl⟩ := Option.map_eq_some_iff.mp hx'
    exact ⟨x, hx, .erase id⟩
  · exact ⟨x', hx', .same⟩

/-- What a guard is like comes from what it was like, or it is new. -/
theorem Act.gist_cases (a : Act s src s' dst ms) {g : GuardId} {x' : Gist}
    (hx' : s'.gist? g = some x') : (∃ x, s.gist? g = some x ∧ Gist.Change s src g x x') ∨
      (s.gist? g = none ∧ x'.Fresh ∧ ms = [] ∧ src = 0 ∧
        (dst = {.enrolling g} ∨ dst = {.granting g})) := by
  have hsame : s'.gist? g = s.gist? g → ∃ x, s.gist? g = some x ∧ Gist.Change s src g x x' :=
    fun h => ⟨x', h.symm.trans hx', .same⟩
  cases a with
  | still h | reach _ h | report h | abort h => exact .inl (hsame (h.gist g))
  | refuse | lose | miss | done | handBack | bind | number => exact .inl (hsame rfl)
  | share _ _ _ h | giveUp _ _ _ h | use _ _ _ h | win _ h | yield _ h | rebind _ _ _ h =>
    exact .inl (hsame (h.gist g))
  | grant h | call _ h => exact .inl (hsame (h.gist g))
  | claim _ _ h | reclaim _ _ _ _ h => exact .inl (h.change hx')
  | track h =>
    refine .inl (h.change hx' ?_)
    rintro x rfl -
    exact .insert (Multiset.mem_singleton_self _)
  | register h | prepare _ h | discard _ _ h | succeed h | fail h =>
    exact .inl (h.change hx' fun _ _ _ => .count _)
  | leak _ h => exact .inl (h.change hx' fun _ _ _ => .leak _)
  | take _ _ _ h => exact .inl (h.change hx' fun _ _ _ => .next)
  | interrupt h => exact .inl (h.change hx' fun _ _ _ => .clear)
  | queue he _ _ h =>
    refine .inl (h.change hx' ?_)
    rintro x rfl -
    exact .queue (.inl ⟨_, he, rfl⟩)
  | inject hnamed hx hexposed _ h =>
    refine .inl (h.change hx' ?_)
    rintro y rfl hy
    cases hx.symm.trans hy
    exact .queue (.inr ⟨hnamed, hexposed⟩)
  | found hg hlisted hwaiting _ hrefuses hcounts _ _ _ hgist _ hspot =>
    rw [hgist] at hx'
    split at hx'
    · next heq =>
      subst heq
      cases hx'
      refine .inr ⟨hg, ⟨hlisted, hwaiting, hrefuses, hcounts.1, hcounts.2⟩, rfl, rfl, ?_⟩
      exact hspot.imp (congrArg _) (congrArg _)
    · exact .inl ⟨x', hx', .same⟩

/-- What a guard keeps track of was numbered for it, or was there before. -/
theorem Act.listed_new (a : Act s src s' dst ms) {g : GuardId} {x' : Gist} {id : HandleId}
    (hx' : s'.gist? g = some x') (hid : id ∈ x'.registry.ids) :
    (∃ x, s.gist? g = some x ∧ id ∈ x.registry.ids) ∨ .numbered g id ∈ src := by
  rcases a.gist_cases hx' with ⟨x, hx, hchange⟩ | ⟨-, hfresh, -⟩
  · cases hchange with
    | same | queue | next | clear | count | leak => exact .inl ⟨_, hx, hid⟩
    | insert hsrc =>
      rcases List.mem_cons.mp hid with rfl | hid
      · exact .inr hsrc
      · exact .inl ⟨x, hx, hid⟩
    | erase => exact .inl ⟨x, hx, List.mem_of_mem_erase hid⟩
  · rw [hfresh.registry] at hid
    cases hid

/-- What waits at a guard was queued by its drop or put in from outside, or waited before. -/
theorem Act.waiting_new (a : Act s src s' dst ms) {g : GuardId} {x' : Gist} {id : HandleId}
    (hx' : s'.gist? g = some x') (hid : id ∈ x'.waiting) :
    (∃ x, s.gist? g = some x ∧ id ∈ x.waiting) ∨ s.Owns g id ∨ (s.Named id ∧ x'.exposed = true) := by
  rcases a.gist_cases hx' with ⟨x, hx, hchange⟩ | ⟨-, hfresh, -⟩
  · cases hchange with
    | same | insert | erase | count | leak => exact .inl ⟨_, hx, hid⟩
    | queue hfrom =>
      rcases List.mem_append.mp hid with hid | hid
      · exact .inl ⟨x, hx, hid⟩
      · obtain rfl := List.mem_singleton.mp hid
        exact .inr hfrom
    | next => exact .inl ⟨x, hx, List.mem_of_mem_tail hid⟩
    | clear => cases hid
  · rw [hfresh.waiting] at hid
    cases hid

/-- A new guard has seen nothing yet. -/
theorem Act.gist_new (a : Act s src s' dst ms) {g : GuardId} {x' : Gist}
    (hold : s.gist? g = none) (hnew : s'.gist? g = some x') : x'.Fresh ∧ ms = [] := by
  rcases a.gist_cases hnew with ⟨x, hx, -⟩ | ⟨-, hfresh⟩
  · rw [hold] at hx
    cases hx
  · exact ⟨hfresh.1, hfresh.2.1⟩

/-- A guard that can be reached is new, or has gone into a variable, or could be reached before. -/
theorem Act.reaches_new (a : Act s src s' dst ms) {g : GuardId} (hg : s'.Reaches g) :
    s.Reaches g ∨ .granting g ∈ src ∨ s'.Runs g := by
  cases a with
  | still h | reach _ h | report h | abort h => exact .inl (h.reaches g hg)
  | refuse | lose | miss | done | handBack | bind | number => exact .inl hg
  | leak _ h | track h | register h | prepare _ h | queue _ _ _ h | take _ _ _ h | discard _ _ h | succeed h
  | fail h | inject _ _ _ _ h | interrupt h => exact .inl (h.reaches g hg)
  | share _ _ _ h | giveUp _ _ _ h | use _ _ _ h | win _ h | yield _ h | rebind _ _ _ h =>
    exact .inl (h.reaches g hg)
  | claim _ _ h | reclaim _ _ _ _ h | call _ h => exact .inl (h.reaches g hg)
  | grant h =>
    rcases h.reaches g hg with ⟨name, hname⟩ | hrunning
    · rcases List.mem_cons.mp hname with heq | hname
      · cases heq
        exact .inr (.inl (Multiset.mem_singleton_self _))
      · exact .inl (.inl ⟨name, hname⟩)
    · exact .inl (.inr hrunning)
  | found _ _ _ _ _ _ _ _ _ hgist hreaches =>
    rcases hreaches g hg with hg | rfl
    · exact .inl hg
    · exact .inr (.inr ⟨_, by rw [hgist, if_pos rfl]⟩)

/-- A handle that has been given to a variable has just been, or had been before. -/
theorem Act.named_new (a : Act s src s' dst ms) {id : HandleId} (hid : s'.Named id) :
    s.Named id ∨ .counted id ∈ src := by
  have hsame : s'.names.handles = s.names.handles → s.Named id := fun h => by
    unfold Store.Named at hid ⊢
    rwa [h] at hid
  have hbind : ∀ {name id'}, s'.names.handles = (name, id') :: s.names.handles →
      s.Named id ∨ id' = id := by
    intro name id' h
    obtain ⟨n, hn⟩ := hid
    rw [h] at hn
    rcases List.mem_cons.mp hn with heq | hn
    · cases heq
      exact .inr rfl
    · exact .inl ⟨n, hn⟩
  cases a with
  | still h | reach _ h | report h | abort h => exact .inl (hsame h.handles)
  | refuse | lose | miss | done | handBack | number => exact .inl hid
  | leak _ h | track h | register h | prepare _ h | queue _ _ _ h | take _ _ _ h | discard _ _ h | succeed h
  | fail h | inject _ _ _ _ h | interrupt h => exact .inl (hsame h.handles)
  | share _ _ _ h | giveUp _ _ _ h | use _ _ _ h | win _ h | yield _ h =>
    exact .inl (hsame h.handles)
  | claim _ _ h | reclaim _ _ _ _ h | call _ h | grant h => exact .inl (hsame h.handles)
  | found _ _ _ _ _ _ _ hhandles => exact .inl (hsame hhandles)
  | bind =>
    rcases hbind rfl with hid | rfl
    · exact .inl hid
    · exact .inr (Multiset.mem_singleton_self _)
  | rebind _ _ _ h =>
    rcases hbind h.handles with hid | rfl
    · exact .inl hid
    · exact .inr (Multiset.mem_singleton_self _)

/-- A callback runs with the address of its handle. -/
theorem Act.runs_new (a : Act s src s' dst ms) {id : HandleId} {address : Address}
    (hrun : (id, address) ∈ s'.runs) :
    (id, address) ∈ s.runs ∨ ∃ e, s.resource? id = some e ∧ e.address = address := by
  have hsame : s'.runs = s.runs → (id, address) ∈ s.runs := fun h => h ▸ hrun
  cases a with
  | still h | reach _ h | report h | abort h => exact .inl (hsame h.runs)
  | refuse | lose | miss | done | handBack | number | bind => exact .inl hrun
  | leak _ h | track h | register h | prepare _ h | queue _ _ _ h | take _ _ _ h | discard _ _ h | succeed h
  | fail h | inject _ _ _ _ h | interrupt h => exact .inl (hsame h.runs)
  | share _ _ _ h | giveUp _ _ _ h | use _ _ _ h | win _ h | yield _ h | rebind _ _ _ h =>
    exact .inl (hsame h.runs)
  | claim _ _ h | reclaim _ _ _ _ h | grant h => exact .inl (hsame h.runs)
  | found _ _ _ _ _ _ _ _ hruns => exact .inl (hsame hruns)
  | call he h =>
    rw [h.runs] at hrun
    simp only [Store.runs, Store.beginCall, Array.toList_push, List.map_append, List.map_cons,
      List.map_nil, List.mem_append, List.mem_singleton] at hrun
    rcases hrun with hrun | heq
    · exact .inl hrun
    · cases heq
      exact .inr ⟨_, he, rfl⟩

end Acts

/-! ## Placement -/

/-- What a mark relies on. -/
def Mark.Placed (s : Store) (id : HandleId) : Mark → Prop
  | numbered address => ∃ e, s.resource? id = some e ∧ e.address = address
  | claimed (.reclaim g) true | aborted g | settled g _ => s.Owns g id
  | claimed (.reclaim g) false | taken g => s.Admits g id
  | _ => s.Known id

/-- All references to handles and guards are as they should be. -/
structure Placed (s : Store) (spots : Multiset Spot) (h : History) : Prop where
  spots : ∀ x ∈ spots, x.Placed s
  entries : ∀ id e, s.resource? id = some e → s.Runs e.guard
  reaches : ∀ g, s.Reaches g → s.Runs g
  named : ∀ id, s.Named id → s.Known id
  numbered : ∀ id e, s.resource? id = some e → (id, .numbered e.address) ∈ h
  runs : ∀ id address, (id, address) ∈ s.runs → ∃ e, s.resource? id = some e ∧ e.address = address
  listed : ∀ g x id, s.gist? g = some x → id ∈ x.registry.ids → s.Owns g id
  waiting : ∀ g x id, s.gist? g = some x → id ∈ x.waiting → s.Admits g id
  refuses : ∀ g x, s.gist? g = some x → x.refuses = true → x.exposed = true
  marks : ∀ id m, (id, m) ∈ h → m.Placed s id

theorem Spot.Placed.later {s s' : Store} (h : s.Extends s') {x : Spot} (hx : x.Placed s) :
    x.Placed s' := by
  cases x with
  | enrolling g | granting g => exact h.runs hx
  | numbered g id | tracked g id | reporting g id | serving g id => exact h.owns hx
  | carried g id => exact h.admits hx
  | _ => exact h.known hx

theorem Mark.Placed.later {s s' : Store} (h : s.Extends s') {id : HandleId} {m : Mark}
    (hm : m.Placed s id) : m.Placed s' id := by
  cases m with
  | numbered address =>
    obtain ⟨e, he, ha⟩ := hm
    obtain ⟨e', he', hl⟩ := h.entry id e he
    exact ⟨e', he', hl.address.trans ha⟩
  | claimed path won =>
    cases path with
    | release => exact h.known hm
    | reclaim g =>
      cases won
      · exact h.admits hm
      · exact h.owns hm
  | aborted g | settled g failed => exact h.owns hm
  | taken g => exact h.admits hm
  | _ => exact h.known hm

section Acts
variable {s s' : Store} {src dst spots spots' : Multiset Spot} {h ms : History}

/-- The spot of a handle that nobody holds is as it should be. -/
theorem placed_leaving {id : HandleId} {c : Prop} [Decidable c] (he : s.Known id) :
    ∀ x ∈ (if c then ({.dropped id} : Multiset Spot) else 0), x.Placed s := by
  intro x hx
  split at hx
  · obtain rfl := Multiset.mem_singleton.mp hx
    exact he
  · simp at hx

/-- The spots that an act adds are as they should be. -/
theorem Act.placed_spots (hp : Placed s spots h) (a : Act s src s' dst ms) (hsrc : src ⊆ spots) :
    ∀ x ∈ dst, x.Placed s' := by
  have hsrc : ∀ x ∈ src, x.Placed s' := fun x hx => (hp.spots x (hsrc hx)).later a.extends
  have hknown : ∀ {id e}, s.resource? id = some e → s'.Known id := fun he =>
    a.extends.known ⟨_, he⟩
  have one : ∀ {x : Spot}, x.Placed s' → ∀ y ∈ ({x} : Multiset Spot), y.Placed s' := by
    rintro x hx y hy
    obtain rfl := Multiset.mem_singleton.mp hy
    exact hx
  have none : ∀ y ∈ (0 : Multiset Spot), y.Placed s' := by simp
  cases a with
  | still => exact hsrc
  | reach hg hs hspot =>
    have hruns : s'.Runs _ := hs.extends.runs (hp.reaches _ hg)
    rcases hspot with rfl | rfl <;> exact one hruns
  | found _ _ _ _ _ _ _ _ _ hgist _ hspot =>
    have hruns : s'.Runs _ := ⟨_, by rw [hgist, if_pos rfl]⟩
    rcases hspot with rfl | rfl <;> exact one hruns
  | grant | refuse | bind | share | call | done | queue | leak | discard | abort | succeed | fail
  | interrupt | inject => exact none
  | number g r f =>
    have hown : (s.allocate g r f).1.Owns g (s.allocate g r f).2 :=
      ⟨_, s.resource?_allocate_new g r f, rfl⟩
    exact one hown
  | track =>
    have hown : s'.Owns _ _ := hsrc _ (Multiset.mem_singleton_self _)
    exact one (x := .tracked _ _) hown
  | register =>
    have hown : s'.Owns _ _ := hsrc _ (Multiset.mem_singleton_self _)
    exact one hown.known
  | rebind _ he | giveUp _ he => exact placed_leaving (hknown he)
  | win he | yield he => exact placed_leaving (hknown he)
  | use _ he | claim he | lose he | miss he | handBack he => exact one (hknown he)
  | prepare he =>
    intro x hx
    rcases Multiset.mem_add.mp hx with hx | hx
    · exact one (x := .calling _) (hknown he) x hx
    · exact one (x := .won _) (hknown he) x hx
  | take hx hwaiting hint ht =>
    have hadmits := hp.waiting _ _ _ hx (by rw [hwaiting]; exact List.mem_cons_self)
    exact one ((ht.extends fun _ => ⟨rfl, rfl, rfl, fun h => h⟩).admits hadmits)
  | reclaim he _ hx hlisted hc => exact one (hc.extends.owns (hp.listed _ _ _ hx hlisted))
  | report hs =>
    have hown : s'.Owns _ _ := hsrc _ (Multiset.mem_singleton_self _)
    intro x hx
    rcases Multiset.mem_add.mp hx with hx | hx
    · exact one (x := .calling _) hown.known x hx
    · exact one (x := .serving _ _) hown x hx

/-- What an act means for handles is as it should be. -/
theorem Act.placed_marks (hp : Placed s spots h) (a : Act s src s' dst ms) (hsrc : src ⊆ spots) :
    ∀ id m, (id, m) ∈ ms → m.Placed s' id := by
  have hsrc : ∀ x ∈ src, x.Placed s' := fun x hx => (hp.spots x (hsrc hx)).later a.extends
  have hextends := a.extends
  have hlater : ∀ {id}, s.Known id → s'.Known id := hextends.known
  have hknown : ∀ {id e}, s.resource? id = some e → s'.Known id := fun he => hlater ⟨_, he⟩
  have one : ∀ {id} {m : Mark}, m.Placed s' id →
      ∀ id' (m' : Mark), (id', m') ∈ [(id, m)] → m'.Placed s' id' := by
    rintro id m hm id' m' hin
    cases List.mem_singleton.mp hin
    exact hm
  cases a with
  | number g r f => exact one (m := .numbered _) ⟨_, s.resource?_allocate_new g r f, rfl⟩
  | claim he | lose he | win he | yield he | queue he | handBack he => exact one (hknown he)
  | discard =>
    have hadmits : s'.Admits _ _ := hsrc _ (Multiset.mem_singleton_self _)
    exact one (m := .claimed (.reclaim _) false) hadmits
  | leak =>
    have hid : s'.Known _ := hsrc _ (Multiset.mem_singleton_self _)
    exact one hid
  | take hx hwaiting =>
    have hadmits := hp.waiting _ _ _ hx (by rw [hwaiting]; exact List.mem_cons_self)
    exact one (m := .taken _) (hextends.admits hadmits)
  | reclaim _ _ hx hlisted hc => exact one (hc.extends.owns (hp.listed _ _ _ hx hlisted))
  | abort | succeed | fail =>
    have hown : s'.Owns _ _ := hsrc _ (Multiset.mem_singleton_self _)
    exact one hown
  | @interrupt _ g ht =>
    intro id m hin
    rw [Store.thrownAway_eq] at hin
    obtain ⟨id', hid', heq⟩ := List.mem_map.mp hin
    cases heq
    cases hg : s.gist? g with
    | none => simp [hg] at hid'
    | some x =>
      exact hlater (hp.waiting g x id hg (by simpa [hg] using hid')).known
  | _ => simp

/-- Acts keep everything as it should be. -/
theorem Placed.act (hp : Placed s spots h) (a : Act s src s' dst ms) (hsrc : src ⊆ spots)
    (hspots : spots' + src = spots + dst) : Placed s' spots' (h ++ ms) where
  spots x hx := by
    have hin : x ∈ spots + dst := hspots ▸ Multiset.mem_add.mpr (Or.inl hx)
    rcases Multiset.mem_add.mp hin with hin | hin
    · exact (hp.spots x hin).later a.extends
    · exact a.placed_spots hp hsrc x hin
  entries id e' he' := by
    cases he : s.resource? id with
    | none =>
      obtain ⟨g, r, f, -, rfl, -, rfl, -⟩ := a.entry_new he he'
      have hg : s.Runs g := hp.spots _ (hsrc (Multiset.mem_singleton_self _))
      exact a.extends.runs hg
    | some e =>
      obtain ⟨e'', he'', hl⟩ := a.extends.entry id e he
      cases he'.symm.trans he''
      rw [hl.guard]
      exact a.extends.runs (hp.entries id e he)
  reaches g hg := by
    rcases a.reaches_new hg with hg | hg | hg
    · exact a.extends.runs (hp.reaches g hg)
    · have hruns : s.Runs g := hp.spots _ (hsrc hg)
      exact a.extends.runs hruns
    · exact hg
  named id hid := by
    rcases a.named_new hid with hid | hid
    · exact a.extends.known (hp.named id hid)
    · have hknown : s.Known id := hp.spots _ (hsrc hid)
      exact a.extends.known hknown
  numbered id e' he' := by
    cases he : s.resource? id with
    | none =>
      obtain ⟨g, r, f, -, rfl, -, -, -, rfl⟩ := a.entry_new he he'
      exact List.mem_append_right h (List.mem_singleton_self _)
    | some e =>
      obtain ⟨e'', he'', hl⟩ := a.extends.entry id e he
      cases he'.symm.trans he''
      rw [hl.address]
      exact List.mem_append_left ms (hp.numbered id e he)
  runs id address hrun := by
    have hold : ∃ e, s.resource? id = some e ∧ e.address = address := by
      rcases a.runs_new hrun with hrun | hrun
      · exact hp.runs id address hrun
      · exact hrun
    obtain ⟨e, he, ha⟩ := hold
    obtain ⟨e', he', hl⟩ := a.extends.entry id e he
    exact ⟨e', he', hl.address.trans ha⟩
  listed g x' id hx' hid := by
    have hown : s.Owns g id := by
      rcases a.listed_new hx' hid with ⟨x, hx, hid⟩ | hin
      · exact hp.listed g x id hx hid
      · exact hp.spots _ (hsrc hin)
    exact a.extends.owns hown
  waiting g x' id hx' hid := by
    rcases a.waiting_new hx' hid with ⟨x, hx, hid⟩ | hown | ⟨hnamed, hexposed⟩
    · exact a.extends.admits (hp.waiting g x id hx hid)
    · obtain ⟨e', he', hg⟩ := a.extends.owns hown
      exact ⟨e', x', he', hx', fun _ => hg⟩
    · obtain ⟨e', he'⟩ := a.extends.known (hp.named id hnamed)
      exact ⟨e', x', he', hx', fun hc => absurd hexposed (by simp [hc])⟩
  refuses g x' hx' hr := by
    cases hx : s.gist? g with
    | none => exact (a.gist_new hx hx').1.refuses hr
    | some x =>
      obtain ⟨x'', hx'', hl⟩ := a.extends.gist g x hx
      cases hx'.symm.trans hx''
      rw [hl.exposed]
      exact hp.refuses g x hx (hl.refuses ▸ hr)
  marks id m hin := by
    rcases List.mem_append.mp hin with hin | hin
    · exact (hp.marks id m hin).later a.extends
    · exact a.placed_marks hp hsrc id m hin

end Acts

/-! ## All systems -/

namespace System

/-- Stacks are disciplined and all references are as they should be. -/
def Orderly (w : System) (h : History) : Prop := w.Disciplined ∧ Placed w.store w.spots h

/-- An orderly system goes on by acts. -/
theorem Orderly.occur {w : System} {h : History} (hw : w.Orderly h) (e : Event) :
    ∃ src dst, Act w.store src (w.occur e).store dst (w.marks e) ∧ src ⊆ w.spots ∧
      (w.occur e).spots + src = w.spots + dst :=
  (occur_act hw.1 hw.2.spots e).2

theorem Orderly.step {w : System} {h : History} (hw : w.Orderly h) (e : Event) :
    (w.occur e).Orderly (h ++ w.marks e) := by
  obtain ⟨hd, src, dst, hact, hsrc, hspots⟩ := occur_act hw.1 hw.2.spots e
  exact ⟨hd, hw.2.act hact hsrc hspots⟩

theorem Orderly.after {w : System} {h : History} (hw : w.Orderly h) (es : List Event) :
    (w.after es).Orderly (h ++ w.history es) := by
  induction es generalizing w h with
  | nil =>
    rw [history, List.append_nil]
    exact hw
  | cons e es ih =>
    rw [history, ← List.append_assoc]
    exact ih (hw.step e)

variable (probes : Array Probe) (environment : Environment) (output : Output)

theorem orderly_boot : (boot probes environment output).Orderly [] := by
  have hentry : ∀ id, (boot probes environment output).store.resource? id = none := by
    intro id
    simp [boot, Store.resource?]
  have hgist : ∀ g, (boot probes environment output).store.gist? g = none := by
    intro g
    simp [boot, Store.gist?, Store.guard?]
  refine ⟨fun th hth => by simp [boot] at hth, ?_⟩
  constructor
  · simp [boot, System.spots]
  · intro id e he
    rw [hentry] at he
    cases he
  · rintro g (⟨name, hname⟩ | hrunning)
    · simp [boot] at hname
    · simp [boot] at hrunning
  · rintro id ⟨name, hname⟩
    simp [boot] at hname
  · intro id e he
    rw [hentry] at he
    cases he
  · intro id address hrun
    simp [boot, Store.runs] at hrun
  · intro g x id hx
    rw [hgist] at hx
    cases hx
  · intro g x id hx
    rw [hgist] at hx
    cases hx
  · intro g x hx
    rw [hgist] at hx
    cases hx
  · intro id m hin
    cases hin

/-- Whatever has happened since the start, the system is orderly. -/
theorem orderly_after (es : List Event) :
    ((boot probes environment output).after es).Orderly
      ((boot probes environment output).history es) :=
  (orderly_boot probes environment output).after es

/-- Handles and guards last for good. -/
theorem extends_after {w : System} {h : History} (hw : w.Orderly h) (es : List Event) :
    w.store.Extends (w.after es).store := by
  induction es generalizing w h with
  | nil => exact .refl _
  | cons e es ih =>
    obtain ⟨src, dst, hact, -⟩ := hw.occur e
    exact hact.extends.trans (ih (hw.step e))

end System

end Reclaim

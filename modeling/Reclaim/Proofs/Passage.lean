import Reclaim.Proofs.Life

/-!
# What an act does to a life

Whatever is done in a process, one handle goes on by the steps of a life, or stays as it is. There is
one lemma for each act; an act on another handle, or on another guard, changes nothing here.

* `Passage` : a handle and its own guard before and after a change of the store;
* `Passage.Goes` : the handle goes on by steps; `Passage.Goes.stay`, `Passage.Goes.step`;
* `Passage.after_touches`, `after_amends`, `after_claims` : the life after a change;
* `Act.goes`, `Act.steps` : every act.
-/

namespace Reclaim

/-- A handle and its own guard, before and after a change of the store. -/
structure Passage (s s' : Store) (id : HandleId) where
  entry : Entry
  entry' : Entry
  gist : Gist
  gist' : Gist
  resource : s.resource? id = some entry
  resource' : s'.resource? id = some entry'
  guard : s.gist? entry.guard = some gist
  guard' : s'.gist? entry.guard = some gist'

namespace Passage
variable {s s' : Store} {g : GuardId} {id id' : HandleId} {e : Entry} {x : Gist}
  {src dst src' dst' : Multiset Spot} {ms : History} {marks : List Mark}

/-- The life of the handle before the change. -/
def before (p : Passage s s' id) (sp : Multiset Spot) (tr : List Mark) : Life :=
  s.life id p.entry p.gist sp tr

/-- The life of the handle after the change. -/
def after (p : Passage s s' id) (sp : Multiset Spot) (tr : List Mark) : Life :=
  s'.life id p.entry' p.gist' sp tr

/-- Whatever spots the handle occupies and whatever has happened to it, it goes on by steps when some
spots are left and others taken, and these things happen. -/
def Goes (p : Passage s s' id) (src dst : Multiset Spot) (ms : History) : Prop :=
  ∀ (sp sp' : Multiset Spot) (tr : List Mark), src.filter (Spot.Concerns p.entry.guard id) ⊆ sp →
    sp' + src.filter (Spot.Concerns p.entry.guard id) =
      sp + dst.filter (Spot.Concerns p.entry.guard id) →
    Life.Steps p.entry.guard id (p.before sp tr) (p.after sp' (tr ++ ms.of p.entry.guard id))

/-- Nothing has changed as far as the handle goes. -/
theorem Goes.stay {p : Passage s s' id} (hsame : p.after = p.before)
    (hspots : src.filter (Spot.Concerns p.entry.guard id) =
      dst.filter (Spot.Concerns p.entry.guard id))
    (hms : ms.of p.entry.guard id = []) : p.Goes src dst ms := by
  intro sp sp' tr _ hflow
  rw [hspots] at hflow
  obtain rfl : sp' = sp := add_right_cancel hflow
  rw [hsame, hms, List.append_nil]

/-- It was about another handle or another guard. -/
theorem Goes.elsewhere {p : Passage s s' id} (hsame : p.after = p.before)
    (hsrc : src.filter (Spot.Concerns p.entry.guard id) = 0)
    (hdst : dst.filter (Spot.Concerns p.entry.guard id) = 0)
    (hms : ms.of p.entry.guard id = []) : p.Goes src dst ms :=
  .stay hsame (hsrc.trans hdst.symm) hms

/-- The handle has taken a step. -/
theorem Goes.step {p : Passage s s' id} (hsrc : src.filter (Spot.Concerns p.entry.guard id) = src')
    (hdst : dst.filter (Spot.Concerns p.entry.guard id) = dst')
    (hms : ms.of p.entry.guard id = marks)
    (hstep : ∀ sp sp' tr, (p.before sp tr).Flows src' sp' dst' →
      ∃ b, Life.Step p.entry.guard id (p.before sp tr) b ∧ p.after sp' (tr ++ marks) = b) :
    p.Goes src dst ms := by
  intro sp sp' tr _ hflow
  rw [hsrc, hdst] at hflow
  obtain ⟨b, hb, heq⟩ := hstep sp sp' tr hflow
  rw [hms, heq]
  exact .single hb

/-! ## Changes -/

theorem entry_eq (p : Passage s s' id) (he : s.resource? id = some e) : p.entry = e :=
  Option.some.inj (p.resource.symm.trans he)

theorem gist_eq (p : Passage s s' id) (hx : s.gist? p.entry.guard = some x) : p.gist = x :=
  Option.some.inj (p.guard.symm.trans hx)

/-- Neither the handle nor its own guard has changed. -/
theorem after_eq (p : Passage s s' id) (hh : s'.names.handles = s.names.handles)
    (hr : s'.runs = s.runs) (he : s'.resource? id = s.resource? id)
    (hx : s'.gist? p.entry.guard = s.gist? p.entry.guard) : p.after = p.before := by
  have hentry : p.entry' = p.entry :=
    Option.some.inj (p.resource'.symm.trans (he.trans p.resource))
  have hgist : p.gist' = p.gist := Option.some.inj (p.guard'.symm.trans (hx.trans p.guard))
  funext sp tr
  rw [after, before, hentry, hgist, Store.life_congr hh hr]

theorem after_alike (p : Passage s s' id) (h : Store.Alike s s') : p.after = p.before :=
  p.after_eq h.handles h.runs (h.entry id) (h.gist _)

theorem after_touches {f : Gist → Gist} (p : Passage s s' id) (h : Store.Touches s s' g f)
    (sp : Multiset Spot) (tr : List Mark) :
    p.after sp tr = s.life id p.entry (if g = p.entry.guard then f p.gist else p.gist) sp tr := by
  have hentry : p.entry' = p.entry :=
    Option.some.inj (p.resource'.symm.trans ((h.entry id).trans p.resource))
  rw [after, hentry, h.gist_eq p.guard p.guard', Store.life_congr h.handles h.runs]

/-- A guard has changed in a way that means nothing for the handle. -/
theorem after_same {f : Gist → Gist} (p : Passage s s' id) (h : Store.Touches s s' g f)
    (hf : g = p.entry.guard → ∀ sp tr, s.life id p.entry (f p.gist) sp tr = p.before sp tr) :
    p.after = p.before := by
  funext sp tr
  rw [p.after_touches h]
  split
  · next hg => exact hf hg sp tr
  · rfl

theorem after_amends {f : Entry → Entry} (p : Passage s s' id) (h : Store.Amends s s' id f)
    (sp : Multiset Spot) (tr : List Mark) : p.after sp tr = s.life id (f p.entry) p.gist sp tr := by
  have hentry : p.entry' = f p.entry := by
    have he' := p.resource'
    rw [h.entry, if_pos rfl, p.resource] at he'
    exact (Option.some.inj he').symm
  have hgist : p.gist' = p.gist := Option.some.inj (p.guard'.symm.trans ((h.gist _).trans p.guard))
  rw [after, hentry, hgist, Store.life_congr h.handles h.runs]

theorem after_amends_ne {f : Entry → Entry} (p : Passage s s' id) (h : Store.Amends s s' id' f)
    (hid : id' ≠ id) : p.after = p.before :=
  p.after_eq h.handles h.runs ((h.entry id).trans (if_neg hid)) (h.gist _)

theorem after_claims (p : Passage s s' id) (h : Store.Claims s s' p.entry.guard id)
    (sp : Multiset Spot) (tr : List Mark) :
    p.after sp tr =
      { p.before sp tr with released := 1, listed := (p.before sp tr).listed - 1 } := by
  have hentry : p.entry' = { p.entry with state := .released } := by
    have he' := p.resource'
    rw [h.entry, if_pos rfl, p.resource] at he'
    exact (Option.some.inj he').symm
  rw [after, hentry, h.gist_eq p.guard p.guard', if_pos rfl, Store.life_congr h.handles h.runs]
  simp only [before, Store.life, Gist.erase, Registry.erase, List.count_erase_self,
    HandleState.claims]

theorem after_claims_ne (p : Passage s s' id) (h : Store.Claims s s' g id') (hid : id' ≠ id) :
    p.after = p.before := by
  have hentry : p.entry' = p.entry := by
    have he' := p.resource'
    rw [h.entry, if_neg hid, p.resource] at he'
    exact (Option.some.inj he').symm
  funext sp tr
  rw [after, before, hentry, h.gist_eq p.guard p.guard', Store.life_congr h.handles h.runs]
  split
  · have hcount := (count_of_ne hid p.gist.registry.ids).2.1
    simp only [Store.life, Gist.erase, Registry.erase, hcount]
  · rfl

/-! ## Registrations -/

theorem found (p : Passage s s' id) {spot : Spot} (hg : s.gist? g = none)
    (hentry : s'.resource? id = s.resource? id) (hhandles : s'.names.handles = s.names.handles)
    (hruns : s'.runs = s.runs) (hgist : ∀ g', s'.gist? g' = if g' = g then some x else s.gist? g')
    (hspot : spot = .enrolling g ∨ spot = .granting g) : p.Goes 0 {spot} [] := by
  have hne : p.entry.guard ≠ g := by
    intro heq
    have hx := p.guard
    rw [heq, hg] at hx
    cases hx
  refine .elsewhere (p.after_eq hhandles hruns hentry ?_) rfl (filter_other ?_) rfl
  · rw [hgist, if_neg hne]
  · rcases hspot with rfl | rfl <;> exact not_false

theorem number (g : GuardId) (r : Registration Command) (f : ReleaseFn)
    (p : Passage s (s.allocate g r f).1 id) :
    p.Goes {.enrolling g} {.numbered g (s.allocate g r f).2}
      [((s.allocate g r f).2, .numbered r.address)] := by
  -- the number is new
  have hne : (s.allocate g r f).2 ≠ id := by
    rintro rfl
    have he := p.resource
    rw [s.resource?_allocate_self] at he
    cases he
  refine .elsewhere (p.after_eq rfl rfl ?_ rfl) (filter_other not_false)
    (filter_other fun h => hne h.2) (History.of_other fun h => hne h.1)
  rw [s.resource?_allocate, if_neg (Ne.symm hne)]

theorem track (p : Passage s s' id) (h : Store.Touches s s' g (Gist.insert id')) :
    p.Goes {.numbered g id'} {.tracked g id'} [] := by
  by_cases hc : g = p.entry.guard ∧ id' = id
  · obtain ⟨rfl, rfl⟩ := hc
    refine .step (Spot.Concerns.filter ⟨rfl, rfl⟩) (Spot.Concerns.filter ⟨rfl, rfl⟩)
      (History.of_nil _ _) fun sp sp' tr flow => ⟨_, .track flow, ?_⟩
    rw [p.after_touches h, if_pos rfl, Store.life_insert, List.append_nil]
    rfl
  · refine .elsewhere (p.after_same h fun hg sp tr => ?_) (filter_other hc) (filter_other hc) rfl
    exact Store.life_insert_ne s (fun heq => hc ⟨hg, heq⟩) ..

theorem register (p : Passage s s' id) (hown : s.Owns g id')
    (h : Store.Touches s s' g (Gist.count fun c => { c with registered := c.registered + 1 })) :
    p.Goes {.tracked g id'} {.counted id'} [] := by
  have hsame := p.after_same h fun _ _ _ => rfl
  rcases eq_or_ne id' id with rfl | hid
  · obtain ⟨e, he, rfl⟩ := hown
    obtain rfl := p.entry_eq he
    refine .step (Spot.Concerns.filter ⟨rfl, rfl⟩) (Spot.Concerns.filter rfl) (History.of_nil _ _)
      fun sp sp' tr flow => ⟨_, .register flow, ?_⟩
    rw [hsame, List.append_nil]
    rfl
  · exact .elsewhere hsame (filter_other fun h => hid h.2) (filter_other hid) rfl

theorem bind (name : String) (p : Passage s (s.bindHandle name id') id) :
    p.Goes {.counted id'} 0 [] := by
  have hentry : p.entry' = p.entry := Option.some.inj (p.resource'.symm.trans p.resource)
  have hgist : p.gist' = p.gist := Option.some.inj (p.guard'.symm.trans p.guard)
  rcases eq_or_ne id' id with rfl | hid
  · refine .step (Spot.Concerns.filter rfl) rfl (History.of_nil _ _)
      fun sp sp' tr flow => ⟨_, .bind flow, ?_⟩
    rw [after, hentry, hgist, List.append_nil]
    simp only [Store.life, Store.bindHandle, List.map_cons, List.count_cons_self]
    rfl
  · refine .elsewhere ?_ (filter_other hid) rfl rfl
    have hcount := (count_of_ne hid (s.names.handles.map Prod.snd)).1
    funext sp tr
    rw [after, hentry, hgist]
    simp only [Store.life, Store.bindHandle, List.map_cons, hcount]
    rfl

/-! ## Shares and calls -/

theorem share (p : Passage s s' id) (n : Nat) (he : s.resource? id' = some e) (hheld : e.owners ≠ 0)
    (h : Store.Amends s s' id' fun e => { e with owners := e.owners + n }) : p.Goes 0 0 [] := by
  rcases eq_or_ne id' id with rfl | hid
  · obtain rfl := p.entry_eq he
    refine .step rfl rfl (History.of_nil _ _) fun sp sp' tr flow => ⟨_, .share n hheld flow, ?_⟩
    rw [p.after_amends h, List.append_nil]
    rfl
  · exact .elsewhere (p.after_amends_ne h hid) rfl rfl rfl

theorem giveUp (p : Passage s s' id) (hnamed : s.Named id') (he : s.resource? id' = some e)
    (hheld : e.owners ≠ 0)
    (h : Store.Amends s s' id' fun e => { e with owners := e.owners - 1 }) :
    p.Goes 0 (Entry.leaving { e with owners := e.owners - 1 } id') [] := by
  rcases eq_or_ne id' id with rfl | hid
  · obtain rfl := p.entry_eq he
    refine .step rfl (filter_dropped _ _ _) (History.of_nil _ _)
      fun sp sp' tr flow => ⟨_, .giveUp hnamed.bound hheld flow, ?_⟩
    rw [p.after_amends h, List.append_nil]
    rfl
  · exact .elsewhere (p.after_amends_ne h hid) rfl (filter_dropped_ne _ hid _) rfl

/-- The handle goes into the variable before the share is given up. -/
theorem rebind (p : Passage s s' id) {name : String} {old : HandleId} (hnamed : s.Named old)
    (he : s.resource? old = some e) (hheld : e.owners ≠ 0)
    (h : Store.Amends (s.bindHandle name id') s' old fun e => { e with owners := e.owners - 1 }) :
    p.Goes {.counted id'} (Entry.leaving { e with owners := e.owners - 1 } old) [] := by
  intro sp sp' tr hsub hflow
  have hle : ({.counted id'} : Multiset Spot).filter (Spot.Concerns p.entry.guard id) ≤ sp :=
    (Multiset.le_iff_subset ((Multiset.nodup_singleton _).filter _)).mpr hsub
  obtain ⟨rest, rfl⟩ := Multiset.le_iff_exists_add.mp hle
  let first : Passage s (s.bindHandle name id') id :=
    { p with entry' := p.entry, gist' := p.gist, resource' := p.resource, guard' := p.guard }
  let second : Passage (s.bindHandle name id') s' id := { p with }
  have hnamed' : (s.bindHandle name id').Named old :=
    hnamed.imp fun _ hname => List.mem_cons_of_mem _ hname
  have hbind := first.bind name _ rest tr hsub ((add_comm rest _).trans (add_zero _).symm)
  rw [History.of_nil, List.append_nil] at hbind
  refine hbind.trans (second.giveUp hnamed' he hheld h rest sp' tr (Multiset.zero_subset _) ?_)
  rw [add_comm, add_assoc] at hflow
  exact (add_zero sp').trans (add_left_cancel hflow)

theorem use (p : Passage s s' id) (hnamed : s.Named id') (he : s.resource? id' = some e)
    (hheld : e.owners ≠ 0) (h : Store.Amends s s' id' fun e => { e with users := e.users + 1 }) :
    p.Goes 0 {.asking id'} [] := by
  rcases eq_or_ne id' id with rfl | hid
  · obtain rfl := p.entry_eq he
    refine .step rfl (Spot.Concerns.filter rfl) (History.of_nil _ _)
      fun sp sp' tr flow => ⟨_, .use hnamed.bound hheld flow, ?_⟩
    rw [p.after_amends h, List.append_nil]
    rfl
  · exact .elsewhere (p.after_amends_ne h hid) rfl (filter_other hid) rfl

theorem claim (p : Passage s s' id) (he : s.resource? id' = some e) (hactive : e.state = .active)
    (h : Store.Claims s s' e.guard id') :
    p.Goes {.asking id'} {.winning id'} [(id', .claimed .release true)] := by
  rcases eq_or_ne id' id with rfl | hid
  · obtain rfl := p.entry_eq he
    refine .step (Spot.Concerns.filter rfl) (Spot.Concerns.filter rfl) (Mark.Concerns.of trivial)
      fun sp sp' tr flow => ⟨_, .claim (Store.life_active hactive ..) flow, ?_⟩
    rw [p.after_claims h]
    rfl
  · exact .elsewhere (p.after_claims_ne h hid) (filter_other hid) (filter_other hid)
      (History.of_other fun h => hid h.1)

theorem lose (p : Passage s s id) (he : s.resource? id' = some e)
    (hreleased : e.state = .released) :
    p.Goes {.asking id'} {.lost id'} [(id', .claimed .release false)] := by
  have hsame := p.after_alike (.refl s)
  rcases eq_or_ne id' id with rfl | hid
  · obtain rfl := p.entry_eq he
    refine .step (Spot.Concerns.filter rfl) (Spot.Concerns.filter rfl) (Mark.Concerns.of trivial)
      fun sp sp' tr flow => ⟨_, .lose (Store.life_released hreleased ..) flow, ?_⟩
    rw [hsame]
    rfl
  · exact .elsewhere hsame (filter_other hid) (filter_other hid) (History.of_other fun h => hid h.1)

theorem prepare (p : Passage s s' id)
    (h : Store.Touches s s' g (Gist.count fun c => { c with released := c.released + 1 })) :
    p.Goes {.winning id'} ({.calling id'} + {.won id'}) [] := by
  have hsame := p.after_same h fun _ _ _ => rfl
  rcases eq_or_ne id' id with rfl | hid
  · refine .step (Spot.Concerns.filter rfl) (filter_pair rfl rfl) (History.of_nil _ _)
      fun sp sp' tr flow => ⟨_, .prepare flow, ?_⟩
    rw [hsame, List.append_nil]
    rfl
  · exact .elsewhere hsame (filter_other hid) (filter_pair_other hid hid) rfl

theorem call (p : Passage s s' id) {thread : ThreadId}
    (h : Store.Alike (s.beginCall id' e thread).1 s') : p.Goes {.calling id'} 0 [] := by
  -- only the runs differ from those before
  let began : Passage (s.beginCall id' e thread).1 s' id := { p with }
  have hsame : p.after = began.before := began.after_alike h
  rcases eq_or_ne id' id with rfl | hid
  · refine .step (Spot.Concerns.filter rfl) rfl (History.of_nil _ _)
      fun sp sp' tr flow => ⟨_, .call flow, ?_⟩
    rw [hsame, before, Store.life_beginCall, List.append_nil]
    rfl
  · refine .elsewhere ?_ (filter_other hid) rfl rfl
    funext sp tr
    rw [hsame, before, Store.life_beginCall_ne _ hid]
    rfl

theorem win (p : Passage s s' id) (he : s.resource? id' = some e)
    (h : Store.Amends s s' id' fun e => { e with users := e.users - 1 }) :
    p.Goes {.won id'} (if e.users = 1 ∧ e.owners = 0 then {.dropped id'} else 0)
      [(id', .returned true)] := by
  rcases eq_or_ne id' id with rfl | hid
  · obtain rfl := p.entry_eq he
    refine .step (Spot.Concerns.filter rfl) (filter_dropped _ _ _) (Mark.Concerns.of trivial)
      fun sp sp' tr flow => ⟨_, .win flow, ?_⟩
    rw [p.after_amends h]
    rfl
  · exact .elsewhere (p.after_amends_ne h hid) (filter_other hid) (filter_dropped_ne _ hid _)
      (History.of_other fun h => hid h.1)

theorem yield (p : Passage s s' id) (he : s.resource? id' = some e)
    (h : Store.Amends s s' id' fun e => { e with users := e.users - 1 }) :
    p.Goes {.lost id'} (if e.users = 1 ∧ e.owners = 0 then {.dropped id'} else 0)
      [(id', .returned false)] := by
  rcases eq_or_ne id' id with rfl | hid
  · obtain rfl := p.entry_eq he
    refine .step (Spot.Concerns.filter rfl) (filter_dropped _ _ _) (Mark.Concerns.of trivial)
      fun sp sp' tr flow => ⟨_, .yield flow, ?_⟩
    rw [p.after_amends h]
    rfl
  · exact .elsewhere (p.after_amends_ne h hid) (filter_other hid) (filter_dropped_ne _ hid _)
      (History.of_other fun h => hid h.1)

/-! ## Drops -/

theorem miss (p : Passage s s id) (he : s.resource? id' = some e) (hactive : e.state = .active) :
    p.Goes {.dropped id'} {.queueing id'} [] := by
  have hsame := p.after_alike (.refl s)
  rcases eq_or_ne id' id with rfl | hid
  · obtain rfl := p.entry_eq he
    refine .step (Spot.Concerns.filter rfl) (Spot.Concerns.filter rfl) (History.of_nil _ _)
      fun sp sp' tr flow => ⟨_, .miss (Store.life_active hactive ..) flow, ?_⟩
    rw [hsame, List.append_nil]
    rfl
  · exact .elsewhere hsame (filter_other hid) (filter_other hid) rfl

theorem done (p : Passage s s id) (he : s.resource? id' = some e)
    (hreleased : e.state = .released) : p.Goes {.dropped id'} 0 [] := by
  have hsame := p.after_alike (.refl s)
  rcases eq_or_ne id' id with rfl | hid
  · obtain rfl := p.entry_eq he
    refine .step (Spot.Concerns.filter rfl) rfl (History.of_nil _ _)
      fun sp sp' tr flow => ⟨_, .done (Store.life_released hreleased ..) flow, ?_⟩
    rw [hsame, List.append_nil]
    rfl
  · exact .elsewhere hsame (filter_other hid) rfl rfl

theorem queue (p : Passage s s' id) (he : s.resource? id' = some e)
    (hx : s.gist? e.guard = some x) (hint : x.interrupted = false)
    (h : Store.Touches s s' e.guard (Gist.queue id')) :
    p.Goes {.queueing id'} 0 [(id', .queued)] := by
  rcases eq_or_ne id' id with rfl | hid
  · obtain rfl := p.entry_eq he
    obtain rfl := p.gist_eq hx
    refine .step (Spot.Concerns.filter rfl) rfl (Mark.Concerns.of trivial)
      fun sp sp' tr flow => ⟨_, .queue (by simp [before, Store.life, hint]) flow, ?_⟩
    rw [p.after_touches h, if_pos rfl, Store.life_queue]
    rfl
  · exact .elsewhere (p.after_same h fun _ _ _ => Store.life_queue_ne s hid ..) (filter_other hid)
      rfl (History.of_other fun h => hid h.1)

theorem handBack (p : Passage s s id) (he : s.resource? id' = some e)
    (hback : ∀ x, s.gist? e.guard = some x → x.interrupted = true ∨ x.refuses = true) :
    p.Goes {.queueing id'} {.leaking id'} [(id', .refused)] := by
  have hsame := p.after_alike (.refl s)
  rcases eq_or_ne id' id with rfl | hid
  · obtain rfl := p.entry_eq he
    refine .step (Spot.Concerns.filter rfl) (Spot.Concerns.filter rfl) (Mark.Concerns.of trivial)
      fun sp sp' tr flow => ⟨_, .handBack ?_ flow, ?_⟩
    · rcases hback _ p.guard with hint | hrefuses
      · exact Or.inl (by simp [before, Store.life, hint])
      · exact Or.inr hrefuses
    · rw [hsame]
      rfl
  · exact .elsewhere hsame (filter_other hid) (filter_other hid) (History.of_other fun h => hid h.1)

theorem leak {address : Address} (p : Passage s s' id)
    (h : Store.Touches s s' g (Gist.leak address)) : p.Goes {.leaking id'} 0 [(id', .leaked)] := by
  have hsame := p.after_same h fun _ _ _ => rfl
  rcases eq_or_ne id' id with rfl | hid
  · refine .step (Spot.Concerns.filter rfl) rfl (Mark.Concerns.of trivial)
      fun sp sp' tr flow => ⟨_, .leak flow, ?_⟩
    rw [hsame]
    rfl
  · exact .elsewhere hsame (filter_other hid) rfl (History.of_other fun h => hid h.1)

/-! ## Sources and workers -/

theorem take (p : Passage s s' id) {rest : List HandleId} (hx : s.gist? g = some x)
    (hwaiting : x.waiting = id' :: rest) (hint : x.interrupted = false)
    (h : Store.Touches s s' g Gist.next) : p.Goes 0 {.carried g id'} [(id', .taken g)] := by
  by_cases hc : g = p.entry.guard ∧ id' = id
  · obtain ⟨rfl, rfl⟩ := hc
    obtain rfl := p.gist_eq hx
    refine .step rfl (Spot.Concerns.filter ⟨rfl, rfl⟩) (Mark.Concerns.of rfl) fun sp sp' tr flow => ?_
    have hnext := fun sp tr => Store.life_next hwaiting s p.entry sp tr
    refine ⟨_, .take (by simp [before, Store.life, hint]) (hnext sp tr).1 flow, ?_⟩
    rw [p.after_touches h, if_pos rfl, (hnext _ _).2]
    rfl
  · refine .elsewhere (p.after_same h ?_) rfl (filter_other hc) (History.of_other fun h => hc h.symm)
    rintro rfl sp tr
    obtain rfl := p.gist_eq hx
    exact Store.life_next_ne hwaiting (fun heq => hc ⟨rfl, heq⟩) ..

theorem reclaim (p : Passage s s' id) (hown : s.Owns g id') (he : s.resource? id' = some e)
    (hactive : e.state = .active) (hx : s.gist? g = some x) (hlisted : id' ∈ x.registry.ids)
    (h : Store.Claims s s' g id') :
    p.Goes {.carried g id'} {.reporting g id'} [(id', .claimed (.reclaim g) true)] := by
  rcases eq_or_ne id' id with rfl | hid
  · obtain ⟨_, he', rfl⟩ := hown
    obtain rfl := p.entry_eq he'
    obtain rfl := p.entry_eq he
    obtain rfl := p.gist_eq hx
    refine .step (Spot.Concerns.filter ⟨rfl, rfl⟩) (Spot.Concerns.filter ⟨rfl, rfl⟩)
      (Mark.Concerns.of rfl) fun sp sp' tr flow =>
        ⟨_, .reclaim (Store.life_active hactive ..) ?_ flow, ?_⟩
    · exact Nat.pos_iff_ne_zero.mp (List.count_pos_iff.mpr hlisted)
    · rw [p.after_claims h]
      rfl
  · exact .elsewhere (p.after_claims_ne h hid) (filter_other fun h => hid h.2)
      (filter_other fun h => hid h.2) (History.of_other fun h => hid h.1)

theorem discard (p : Passage s s' id) (he : s.resource? id' = some e)
    (hmissing : ∀ x, s.gist? g = some x → id' ∈ x.registry.ids → e.state = .released)
    (h : Store.Touches s s' g (Gist.count fun c => { c with discarded := c.discarded + 1 })) :
    p.Goes {.carried g id'} 0 [(id', .claimed (.reclaim g) false)] := by
  have hsame := p.after_same h fun _ _ _ => rfl
  by_cases hc : g = p.entry.guard ∧ id' = id
  · obtain ⟨rfl, rfl⟩ := hc
    obtain rfl := p.entry_eq he
    refine .step (Spot.Concerns.filter ⟨rfl, rfl⟩) rfl (Mark.Concerns.of rfl)
      fun sp sp' tr flow => ⟨_, .discard (fun hl => ?_) flow, ?_⟩
    · have hin : id' ∈ p.gist.registry.ids := List.count_pos_iff.mp (Nat.pos_iff_ne_zero.mpr hl)
      exact Store.life_released (hmissing _ p.guard hin) ..
    · rw [hsame]
      rfl
  · exact .elsewhere hsame (filter_other hc) rfl (History.of_other fun h => hc h.symm)

theorem report (p : Passage s s' id) (hown : s.Owns g id') (h : Store.Alike s s') :
    p.Goes {.reporting g id'} ({.calling id'} + {.serving g id'}) [] := by
  have hsame := p.after_alike h
  rcases eq_or_ne id' id with rfl | hid
  · obtain ⟨_, he, rfl⟩ := hown
    obtain rfl := p.entry_eq he
    refine .step (Spot.Concerns.filter ⟨rfl, rfl⟩) (filter_pair rfl ⟨rfl, rfl⟩) (History.of_nil _ _)
      fun sp sp' tr flow => ⟨_, .report flow, ?_⟩
    rw [hsame, List.append_nil]
    rfl
  · exact .elsewhere hsame (filter_other fun h => hid h.2)
      (filter_pair_other hid fun h => hid h.2) rfl

theorem abort (p : Passage s s' id) (hown : s.Owns g id') (h : Store.Alike s s') :
    p.Goes {.reporting g id'} 0 [(id', .aborted g)] := by
  have hsame := p.after_alike h
  rcases eq_or_ne id' id with rfl | hid
  · obtain ⟨_, he, rfl⟩ := hown
    obtain rfl := p.entry_eq he
    refine .step (Spot.Concerns.filter ⟨rfl, rfl⟩) rfl (Mark.Concerns.of rfl)
      fun sp sp' tr flow => ⟨_, .abort flow, ?_⟩
    rw [hsame]
    rfl
  · exact .elsewhere hsame (filter_other fun h => hid h.2) rfl (History.of_other fun h => hid h.1)

theorem settle {f : Stats → Stats} (p : Passage s s' id) (failed : Bool)
    (h : Store.Touches s s' g (Gist.count f)) :
    p.Goes {.serving g id'} 0 [(id', .settled g failed)] := by
  have hsame := p.after_same h fun _ _ _ => rfl
  by_cases hc : g = p.entry.guard ∧ id' = id
  · obtain ⟨rfl, rfl⟩ := hc
    refine .step (Spot.Concerns.filter ⟨rfl, rfl⟩) rfl (Mark.Concerns.of rfl)
      fun sp sp' tr flow => ⟨_, .settle failed flow, ?_⟩
    rw [hsame]
    rfl
  · exact .elsewhere hsame (filter_other hc) rfl (History.of_other fun h => hc h.symm)

theorem interrupt (p : Passage s s' id) (h : Store.Touches s s' g Gist.clear) :
    p.Goes 0 0 (s.thrownAway g) := by
  rcases eq_or_ne g p.entry.guard with rfl | hg
  · refine .step rfl rfl (of_thrownAway p.guard id) fun sp sp' tr flow => ⟨_, .interrupt flow, ?_⟩
    rw [p.after_touches h, if_pos rfl]
    rfl
  · exact .elsewhere (p.after_same h fun heq => absurd heq hg) rfl rfl (of_thrownAway_ne hg id)

theorem inject (p : Passage s s' id) (hnamed : s.Named id') (hx : s.gist? g = some x)
    (hexposed : x.exposed = true) (hint : x.interrupted = false)
    (h : Store.Touches s s' g (Gist.queue id')) : p.Goes 0 0 [] := by
  by_cases hc : g = p.entry.guard ∧ id' = id
  · obtain ⟨rfl, rfl⟩ := hc
    obtain rfl := p.gist_eq hx
    refine .step rfl rfl (History.of_nil _ _) fun sp sp' tr flow =>
      ⟨_, .inject hexposed hnamed.bound (by simp [before, Store.life, hint]) flow, ?_⟩
    rw [p.after_touches h, if_pos rfl, Store.life_queue, List.append_nil]
    rfl
  · refine .elsewhere (p.after_same h fun hg sp tr => ?_) rfl rfl rfl
    exact Store.life_queue_ne s (fun heq => hc ⟨hg, heq⟩) ..

end Passage

/-! ## Every act -/

section Acts
variable {s s' : Store} {src dst spots spots' : Multiset Spot} {h ms : History}

theorem Act.goes (hp : Placed s spots h) (a : Act s src s' dst ms) (hsrc : src ⊆ spots)
    {id : HandleId} (p : Passage s s' id) : p.Goes src dst ms := by
  cases a with
  | still hs => exact .stay (p.after_alike hs) rfl rfl
  | reach _ hs hspot =>
    refine .elsewhere (p.after_alike hs) rfl (filter_other ?_) rfl
    rcases hspot with rfl | rfl <;> exact not_false
  | found hg _ _ _ _ _ hentry hhandles hruns hgist _ hspot =>
    exact p.found hg (hentry id) hhandles hruns hgist hspot
  | grant hs =>
    exact .elsewhere (p.after_eq hs.handles hs.runs (hs.entry id) (hs.gist _))
      (filter_other not_false) rfl rfl
  | refuse => exact .elsewhere (p.after_alike (.refl s)) (filter_other not_false) rfl rfl
  | number g r f => exact p.number g r f
  | track hs => exact p.track hs
  | register hs => exact p.register (hp.spots _ (hsrc (Multiset.mem_singleton_self _))) hs
  | bind => exact p.bind _
  | rebind hnamed he hheld hs => exact p.rebind hnamed he hheld hs
  | share n he hheld hs => exact p.share n he hheld hs
  | giveUp hnamed he hheld hs => exact p.giveUp hnamed he hheld hs
  | use hnamed he hheld hs => exact p.use hnamed he hheld hs
  | claim he hactive hs => exact p.claim he hactive hs
  | lose he hreleased => exact p.lose he hreleased
  | prepare _ hs => exact p.prepare hs
  | call _ hs => exact p.call hs
  | win he hs => exact p.win he hs
  | yield he hs => exact p.yield he hs
  | miss he hactive => exact p.miss he hactive
  | done he hreleased => exact p.done he hreleased
  | queue he hx hint hs => exact p.queue he hx hint hs
  | handBack he hback => exact p.handBack he hback
  | leak _ hs => exact p.leak hs
  | take hx hwaiting hint hs => exact p.take hx hwaiting hint hs
  | reclaim he hactive hx hlisted hs =>
    exact p.reclaim (hp.listed _ _ _ hx hlisted) he hactive hx hlisted hs
  | discard he hmissing hs => exact p.discard he hmissing hs
  | report hs => exact p.report (hp.spots _ (hsrc (Multiset.mem_singleton_self _))) hs
  | abort hs => exact p.abort (hp.spots _ (hsrc (Multiset.mem_singleton_self _))) hs
  | succeed hs => exact p.settle false hs
  | fail hs => exact p.settle true hs
  | interrupt hs => exact p.interrupt hs
  | inject hnamed hx hexposed hint hs => exact p.inject hnamed hx hexposed hint hs

/-- Whatever is done, a handle goes on by steps. -/
theorem Act.steps (hp : Placed s spots h) (a : Act s src s' dst ms) (hsrc : src ⊆ spots)
    (hspots : spots' + src = spots + dst) {id : HandleId} {e e' : Entry} {x x' : Gist}
    (he : s.resource? id = some e) (he' : s'.resource? id = some e') (hx : s.gist? e.guard = some x)
    (hx' : s'.gist? e.guard = some x') :
    Life.Steps e.guard id
      (s.life id e x (spots.filter (Spot.Concerns e.guard id)) (h.of e.guard id))
      (s'.life id e' x' (spots'.filter (Spot.Concerns e.guard id))
        ((h ++ ms).of e.guard id)) := by
  rw [History.of_append]
  refine a.goes hp hsrc ⟨e, e', x, x', he, he', hx, hx'⟩ _ _ _ ?_ ?_
  · intro y hy
    obtain ⟨hin, hc⟩ := Multiset.mem_filter.mp hy
    exact Multiset.mem_filter.mpr ⟨hsrc hin, hc⟩
  · rw [← Multiset.filter_add, hspots, Multiset.filter_add]

end Acts

end Reclaim

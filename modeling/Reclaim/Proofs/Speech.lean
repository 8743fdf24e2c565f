import Reclaim.Proofs.Barrier
import Reclaim.Proofs.Fates
import Reclaim.Proofs.Sums

/-!
# What sinks are told

The worker of a guard that only its own handles reach goes through rounds, one for each handle that it
is given: it says what it has found, runs the callback, and says what became of the resource. Nobody
else tells the sink anything, but for handles that were dropped too late, which leak.

* `Store.round` : what a worker does in a round; `Stage.Since` : what it has done since the last one;
* `Site.Rounds` : the worker has gone through rounds; `Chore.since`, `Site.Rounds.step`;
* `Word` : the language of a worker; `Entry.Told` : what a sink can have been told of a handle;
* `System.Speech` : all that a sink has been told; `System.speaks`.
-/

namespace Reclaim

/-! ## Rounds -/

/-- What a worker does about a handle and says of it, from beginning to end. -/
def Entry.round (e : Entry) (g : GuardId) (id : HandleId) (panic : Option Panic) : Trace :=
  [.delivered g (.reclaim id), .said g (some id) (.notProperlyClosed e.address) false,
    .began (.reclaim g) id, .ended (.reclaim g) id panic,
    .said g (some id) (e.announcement panic) false]

/-- The round for a handle whose callback ended like this. -/
def Store.round (s : Store) (g : GuardId) (r : HandleId × Option Panic) : Trace :=
  match s.resource? r.1 with
  | some e => e.round g r.1 r.2
  | none => []

/-- Whether something done belongs to the rounds of a worker, or is said by it. -/
def Deed.isWork : Deed → Bool
  | delivered _ (.reclaim _) | discarded .. | began .. | ended .. => true
  | said _ _ d _ => d.leak?.isNone
  | _ => false

/-- What belongs to the rounds of workers, or is said by them. -/
def Trace.work (tr : Trace) : Trace := tr.filter Deed.isWork

@[simp] theorem Trace.work_append (tr tr' : Trace) : work (tr ++ tr') = tr.work ++ tr'.work :=
  List.filter_append ..

/-- What a worker that has come so far has done since its last round. -/
inductive Stage.Since (s : Store) (g : GuardId) : Stage → Trace → Prop
  | idle {stage : Stage} (hitem : ∀ id, stage.item? ≠ some (.reclaim id)) (hover : stage.isOver = false) :
      Since s g stage []
  | took (id : HandleId) : Since s g (.point (.took (.reclaim id))) [.delivered g (.reclaim id)]
  | processing (id : HandleId) :
      Since s g (.point (.processing (.reclaim id))) [.delivered g (.reclaim id)]
  | reporting (id : HandleId) : Since s g (.point (.reporting id)) [.delivered g (.reclaim id)]
  | entering {id : HandleId} {e : Entry} (he : s.resource? id = some e) :
      Since s g (.entering id) ((e.round g id none).take 2)
  | inside {id : HandleId} {e : Entry} (he : s.resource? id = some e) :
      Since s g (.inside id) ((e.round g id none).take 3)
  | settling {id : HandleId} {e : Entry} {panic : Option Panic} (he : s.resource? id = some e) :
      Since s g (.point (.settling id panic)) ((e.round g id panic).take 4)
  | announcing {id : HandleId} {e : Entry} {panic : Option Panic} (he : s.resource? id = some e) :
      Since s g (.point (.announcing id panic)) ((e.round g id panic).take 4)
  | ended {stage : Stage} {panicked : Bool} (hover : stage.isOver = true) :
      Since s g stage [.said g none .interrupted panicked]

theorem Entry.Later.round {e e' : Entry} (h : e.Later e') (g : GuardId) (id : HandleId)
    (panic : Option Panic) : e'.round g id panic = e.round g id panic := by
  have hannouncement : e'.announcement panic = e.announcement panic := by
    cases panic <;> simp only [Entry.announcement, h.address, h.label]
  simp only [Entry.round, h.address, hannouncement]

theorem Store.Extends.round {s s' : Store} (h : s.Extends s') (g : GuardId) {r : HandleId × Option Panic}
    (hr : s.Known r.1) : s'.round g r = s.round g r := by
  obtain ⟨e, he⟩ := hr
  obtain ⟨e', he', hl⟩ := h.entry r.1 e he
  simp only [Store.round, he, he', hl.round]

theorem Stage.Since.later {s s' : Store} {g : GuardId} {stage : Stage} {rest : Trace}
    (h : stage.Since s g rest) (hext : s.Extends s') : stage.Since s' g rest := by
  cases h with
  | idle hitem hover => exact .idle hitem hover
  | took id => exact .took id
  | processing id => exact .processing id
  | reporting id => exact .reporting id
  | entering he =>
    obtain ⟨e', he', hl⟩ := hext.entry _ _ he
    exact hl.round g _ _ ▸ .entering he'
  | inside he =>
    obtain ⟨e', he', hl⟩ := hext.entry _ _ he
    exact hl.round g _ _ ▸ .inside he'
  | settling he =>
    obtain ⟨e', he', hl⟩ := hext.entry _ _ he
    exact hl.round g _ _ ▸ .settling he'
  | announcing he =>
    obtain ⟨e', he', hl⟩ := hext.entry _ _ he
    exact hl.round g _ _ ▸ .announcing he'
  | ended hover => exact .ended hover

section Acts
variable {s : Store} {ms : History} {g : GuardId} {d d' : Desk} {ds : Trace} {cells : Cells}

/-- Others do nothing that belongs to a round. -/
theorem Visit.work {src dst : Multiset Stake} (h : Visit s ms g d src ds d' cells dst) : ds.work = [] := by
  cases h <;> rfl

/-- A worker that finds what it is given, and whose sink takes what it says, gets further with its round
or comes to its end. -/
theorem Chore.since {stage stage' : Stage} {rest : Trace} (h : Chore s ms g d stage ds d' cells stage')
    (hs : stage.Since s g rest) (hquiet : ∀ told x, d.config.sink.panicsAt told x = false)
    (hfound : ∀ id, (id, .claimed (.reclaim g) false) ∉ ms) :
    stage'.Since s g (rest ++ ds.work) ∨
      ∃ r, s.Known r.1 ∧ rest ++ ds.work = s.round g r ∧ stage'.Since s g [] := by
  cases hs with
  | idle hitem hover =>
    cases h with
    | start | call | unwind | stop | wait | swallow | answer | recover | interrupt | destroy | clear =>
      exact .inl (.idle nofun rfl)
    | @take item =>
      cases item with
      | reclaim id => exact .inl (.took id)
      | flush k => exact .inl (.idle nofun rfl)
    | @process item =>
      cases item with
      | reclaim id => exact absurd rfl (hitem id)
      | flush k => exact .inl (.idle nofun rfl)
    | farewell => exact .inl (.ended rfl)
    | finish => cases hover
    | _ => exact absurd rfl (hitem _)
  | took =>
    cases h with
    | process => exact .inl (.processing _)
  | processing =>
    cases h with
    | claim => exact .inl (.reporting _)
    | discard h => exact absurd h (hfound _)
  | reporting =>
    cases h with
    | report he => exact .inl (.entering he)
    | abort he hsink => exact absurd hsink (by simp [hquiet])
  | entering he =>
    cases h with
    | enter => exact .inl (.inside he)
    | run panic => exact .inl (.settling he)
  | inside he =>
    cases h with
    | leave panic => exact .inl (.settling he)
  | settling he =>
    cases h with
    | settle => exact .inl (.announcing he)
  | @announcing id e panic he =>
    cases h with
    | announce he' =>
      cases he.symm.trans he'
      have hwork : Deed.isWork (.said g (some id) (e.announcement panic) false) = true := by
        cases panic <;> rfl
      refine .inr ⟨(id, panic), ⟨e, he⟩, ?_, .idle nofun rfl⟩
      simp only [Store.round, he, Trace.work, List.filter_cons_of_pos hwork]
      rfl
    | balk he hsink => exact absurd hsink (by simp [hquiet])
  | ended hover =>
    cases h with
    | finish => exact .inl (.ended rfl)
    | _ => cases hover

end Acts

namespace Site
variable {s s' : Store} {ms : History} {g : GuardId} {a a' : Site} {tr ds : Trace}

/-- The worker has gone through rounds, one after the other, and may be within another. -/
def Rounds (s : Store) (g : GuardId) (a : Site) (tr : Trace) : Prop :=
  ∃ (rounds : List (HandleId × Option Panic)) (rest : Trace), (∀ r ∈ rounds, s.Known r.1) ∧
    a.stage.Since s g rest ∧ tr.work = rounds.flatMap (s.round g) ++ rest

theorem Rounds.fresh (ha : a.Fresh) : a.Rounds s g [] :=
  ⟨[], [], nofun, by rw [ha.stage]; exact .idle nofun rfl, rfl⟩

theorem Rounds.later (h : a.Rounds s g tr) (hext : s.Extends s') : a.Rounds s' g tr := by
  obtain ⟨rounds, rest, hknown, hsince, hwork⟩ := h
  refine ⟨rounds, rest, fun r hr => hext.known (hknown r hr), hsince.later hext, ?_⟩
  rw [hwork, List.flatMap_congr fun r hr => (hext.round g (hknown r hr)).symm]

theorem Rounds.step (h : a.Rounds s g tr) (hs : a.Step s ms g ds a')
    (hquiet : ∀ told x, a.config.sink.panicsAt told x = false)
    (hfound : ∀ id, (id, .claimed (.reclaim g) false) ∉ ms) : a'.Rounds s g (tr ++ ds) := by
  obtain ⟨rounds, rest, hknown, hsince, hwork⟩ := h
  cases hs with
  | visit hv =>
    refine ⟨rounds, rest, hknown, hsince, ?_⟩
    rw [Trace.work_append, hv.work, List.append_nil, hwork]
  | chore hc =>
    obtain hsince' | ⟨r, hr, hround, hsince'⟩ := hc.since hsince hquiet hfound
    · refine ⟨rounds, _, hknown, hsince', ?_⟩
      rw [Trace.work_append, hwork, List.append_assoc]
    · refine ⟨rounds ++ [r], [], List.forall_mem_append.mpr ⟨hknown, by simpa using hr⟩, hsince', ?_⟩
      rw [Trace.work_append, hwork, List.append_assoc, hround]
      simp

end Site

/-- Nothing is given up in the rounds of a worker. -/
theorem Site.Rounds.aborted {s : Store} {g : GuardId} {a : Site} {tr : Trace} (hr : a.Rounds s g (tr.of g)) :
    tr.aborted g = 0 := by
  obtain ⟨rounds, rest, hknown, hsince, hwork⟩ := hr
  have hround : ∀ (e : Entry) id panic, ∀ d ∈ e.round g id panic, d.isAbort = false := fun e id panic d hd => by
    simp only [Entry.round, List.mem_cons, List.not_mem_nil, or_false] at hd
    rcases hd with rfl | rfl | rfl | rfl | rfl <;> cases panic <;> rfl
  have hrest : ∀ d ∈ rest, d.isAbort = false := fun d hd => by
    generalize a.stage = stage at hsince
    cases hsince with
    | idle => cases hd
    | took | processing | reporting => rw [List.mem_singleton.mp hd]; rfl
    | entering | inside | settling | announcing => exact hround _ _ _ d (List.mem_of_mem_take hd)
    | ended => rw [List.mem_singleton.mp hd]; rfl
  refine List.countP_eq_zero.mpr fun d hd habort => ?_
  have hin : d ∈ (tr.of g).work := by
    refine List.mem_filter.mpr ⟨hd, ?_⟩
    cases d with
    | said g' about d panicked => cases d <;> first | rfl | cases habort
    | _ => cases habort
  rw [hwork, List.mem_append, List.mem_flatMap] at hin
  rcases hin with ⟨r, hr, hin⟩ | hin
  · obtain ⟨e, he⟩ := hknown r hr
    simp only [Store.round, he] at hin
    rw [hround e _ _ d hin] at habort
    cases habort
  · rw [hrest d hin] at habort
    cases habort

theorem System.AddsUp.never_aborted {w : System} {h : History} {s : Store} {g : GuardId} {a : Site} {tr : Trace}
    (hadds : w.AddsUp h tr) (hr : a.Rounds s g (tr.of g)) (id : HandleId) : h.count (id, .aborted g) = 0 := by
  have hnone : (h.handles (.aborted g)).length = 0 := by rw [h.length_handles, ← hadds.aborted, hr.aborted]
  rw [← h.count_handles, List.length_eq_zero_iff.mp hnone]
  rfl

/-! ## Leaks -/

/-- What this says of a handle, if it does. -/
def Deed.about? (id : HandleId) : Deed → Option Diagnostic
  | said _ (some id') d _ => if id' = id then some d else none
  | _ => none

/-- What sinks were told of a handle, in order. -/
def Trace.about (tr : Trace) (id : HandleId) : List Diagnostic := tr.filterMap (Deed.about? id)

@[simp] theorem Trace.about_append (tr tr' : Trace) (id : HandleId) :
    about (tr ++ tr') id = tr.about id ++ tr'.about id :=
  List.filterMap_append

namespace Site
variable {s s' : Store} {h ms : History} {g : GuardId} {a a' : Site} {tr ds : Trace}

/-- Every leak of a handle that the sink has been told of is its own, and its drop has been marked so. -/
structure Leaks (s : Store) (h : History) (tr : Trace) (id : HandleId) : Prop where
  own : ∀ d ∈ tr.about id, d.leak?.isSome = true →
    ∃ e, s.resource? id = some e ∧ d = .leakedAfterStop e.address
  marked : (tr.about id).countP (·.leak?.isSome) ≤ h.count (id, .leaked)

theorem Leaks.nothing {id : HandleId} : Leaks s h [] id :=
  ⟨nofun, Nat.zero_le _⟩

theorem Leaks.later {id : HandleId} (hl : Leaks s h tr id) (hext : s.Extends s') : Leaks s' h tr id := by
  refine ⟨fun d hd hleak => ?_, hl.marked⟩
  obtain ⟨e, he, rfl⟩ := hl.own d hd hleak
  obtain ⟨e', he', hlater⟩ := hext.entry id e he
  exact ⟨e', he', by rw [hlater.address]⟩

/-- A handle is said to leak by its drop only. -/
theorem Step.leaks (hs : a.Step s ms g ds a') (id : HandleId) : Leaks s ms ds id := by
  have none : ∀ {ds : Trace}, (∀ d ∈ ds.about id, d.leak? = none) → Leaks s ms ds id := fun hnone => by
    refine ⟨fun d hd hleak => ?_, ?_⟩
    · rw [hnone d hd] at hleak
      cases hleak
    · rw [List.countP_eq_zero.mpr fun d hd => by simp [hnone d hd]]
      exact Nat.zero_le _
  cases hs with
  | visit hv =>
    cases hv with
    | @leak id' e he hg hmark =>
      by_cases heq : id' = id
      · subst heq
        refine ⟨fun d hd _ => ⟨e, he, by simpa [Trace.about, Deed.about?] using hd⟩, ?_⟩
        simpa [Trace.about, Deed.about?, Diagnostic.leak?] using List.count_pos_iff.mpr hmark
      · exact none (by simp [Trace.about, Deed.about?, heq])
    | _ => exact none (by simp [Trace.about, Deed.about?])
  | chore hc =>
    refine none ?_
    generalize a.stage = stage at hc
    cases hc with
    | @announce _ _ panic | @balk _ _ panic =>
      cases panic <;> simp [Trace.about, Deed.about?, Entry.announcement, Diagnostic.leak?]
    | _ => simp [Trace.about, Deed.about?, Diagnostic.leak?]

theorem Leaks.append {id : HandleId} (hl : Leaks s h tr id) (hl' : Leaks s ms ds id) :
    Leaks s (h ++ ms) (tr ++ ds) id := by
  refine ⟨fun d hd => ?_, ?_⟩
  · rw [Trace.about_append] at hd
    exact (List.mem_append.mp hd).elim (hl.own d) (hl'.own d)
  · rw [Trace.about_append, List.countP_append, List.count_append]
    exact Nat.add_le_add hl.marked hl'.marked

end Site

/-! ## Readings of rounds -/

/-- The handle that a worker has been handed. -/
def Deed.reclaim? (d : Deed) : Option HandleId := d.delivered?.bind Item.id?

namespace Trace
variable (tr : Trace)

theorem reclaims_eq (g : GuardId) : tr.reclaims g = (tr.of g).filterMap Deed.reclaim? := by
  rw [reclaims, delivered, outs, List.filterMap_filterMap]
  rfl

/-- What is read off the work of workers is part of what is read off all. -/
theorem filterMap_work {α : Type} {f : Deed → Option α} {q : α → Bool}
    (hf : ∀ d x, f d = some x → d.isWork = q x) : tr.work.filterMap f = (tr.filterMap f).filter q := by
  induction tr with
  | nil => rfl
  | cons d tr ih =>
    cases hd : f d with
    | none =>
      rw [List.filterMap_cons_none hd, ← ih, work, List.filter_cons]
      split
      · exact List.filterMap_cons_none hd
      · rfl
    | some x =>
      rw [List.filterMap_cons_some hd, List.filter_cons, ← ih, work, List.filter_cons, hf d x hd]
      split
      · exact List.filterMap_cons_some hd
      · rfl

theorem words_work : tr.work.words = tr.words.filter fun d => d.leak?.isNone :=
  tr.filterMap_work fun d x h => by
    cases d <;> cases h
    rfl

theorem about_work (id : HandleId) : tr.work.about id = (tr.about id).filter fun d => d.leak?.isNone :=
  tr.filterMap_work fun d x h => by
    cases d with
    | said g about d panicked =>
      cases about with
      | none => cases h
      | some id' =>
        simp only [Deed.about?] at h
        split at h <;> cases h
        rfl
    | _ => cases h

theorem reclaims_work : tr.work.filterMap Deed.reclaim? = tr.filterMap Deed.reclaim? := by
  rw [tr.filterMap_work (q := fun _ => true) fun d x h => ?_, List.filter_true]
  cases d with
  | delivered g item =>
    cases item <;> cases h
    rfl
  | _ => cases h

end Trace

/-- The language of a worker: pairs of what it has found and what became of it, perhaps one that is not
finished, or the message that it has ended. -/
inductive Word : List Diagnostic → Prop
  | nothing : Word []
  | unfinished (a : Address) : Word [.notProperlyClosed a]
  | interrupted : Word [.interrupted]
  | destroyed (a : Address) (label : Option String) {ds : List Diagnostic} (h : Word ds) :
      Word (.notProperlyClosed a :: .destroyed label a :: ds)
  | failed (a : Address) (message : String) {ds : List Diagnostic} (h : Word ds) :
      Word (.notProperlyClosed a :: .releaseFailed a message :: ds)

section Readings
variable {s : Store} {g : GuardId} {id : HandleId} {e : Entry} {stage : Stage} {rest tr : Trace}

/-- What a worker says of handles in a round, and which one it is given. -/
theorem Entry.about_round (e : Entry) (g : GuardId) (id id' : HandleId) (panic : Option Panic) :
    Trace.about (e.round g id' panic) id =
        (if id' = id then [.notProperlyClosed e.address, e.announcement panic] else []) ∧
      (e.round g id' panic).filterMap Deed.reclaim? = [id'] := by
  by_cases h : id' = id <;>
    simp [round, Trace.about, List.filterMap_cons, Deed.about?, Deed.reclaim?, Deed.delivered?, Item.id?, h]

/-- In the middle of a round a worker has said what it found. -/
theorem Entry.about_take_round (e : Entry) (g : GuardId) (id id' : HandleId) (panic : Option Panic)
    {n : Nat} (hn : n = 2 ∨ n = 3 ∨ n = 4) : Trace.about ((e.round g id' panic).take n) id =
        (if id' = id then [.notProperlyClosed e.address] else []) ∧
      ((e.round g id' panic).take n).filterMap Deed.reclaim? = [id'] := by
  rcases hn with rfl | rfl | rfl <;> by_cases h : id' = id <;>
    simp [round, Trace.about, List.filterMap_cons, Deed.about?, Deed.reclaim?, Deed.delivered?, Item.id?, h]

/-- What a worker has said since its last round. -/
theorem Stage.Since.word (h : stage.Since s g rest) : Word rest.words := by
  cases h with
  | entering | inside | settling | announcing => exact .unfinished _
  | ended => exact .interrupted
  | _ => exact .nothing

/-- What a worker has said of a handle since its last round. -/
theorem Stage.Since.about (h : stage.Since s g rest) (he : s.resource? id = some e) :
    rest.about id = [] ∨ (rest.about id = [.notProperlyClosed e.address] ∧ stage.isNew = false ∧
      rest.filterMap Deed.reclaim? = [id]) := by
  have half : ∀ {id' e' panic n}, s.resource? id' = some e' → n = 2 ∨ n = 3 ∨ n = 4 →
      rest = (e'.round g id' panic).take n → stage.isNew = false → rest.about id = [] ∨
        (rest.about id = [.notProperlyClosed e.address] ∧ stage.isNew = false ∧
          rest.filterMap Deed.reclaim? = [id]) := by
    rintro id' e' panic n he' hn rfl hnew
    obtain ⟨habout, htaken⟩ := e'.about_take_round g id id' panic hn
    rw [habout, htaken]
    split
    · next heq =>
      subst heq
      cases he.symm.trans he'
      exact .inr ⟨rfl, hnew, rfl⟩
    · exact .inl rfl
  cases h with
  | entering he' | inside he' => exact half he' (by decide) rfl rfl
  | settling he' | announcing he' => exact half he' (by decide) rfl rfl
  | _ => exact .inl rfl

/-- What a worker says in its rounds. -/
theorem word_rounds {rounds : List (HandleId × Option Panic)} (hknown : ∀ r ∈ rounds, s.Known r.1)
    {ds : List Diagnostic} (hds : Word ds) : Word (Trace.words (rounds.flatMap (s.round g)) ++ ds) := by
  induction rounds with
  | nil => exact hds
  | cons r rounds ih =>
    obtain ⟨⟨e, he⟩, hrest⟩ := List.forall_mem_cons.mp hknown
    rw [List.flatMap_cons, Trace.words_append, List.append_assoc]
    simp only [Store.round, he]
    cases hpanic : r.2 with
    | none => exact .destroyed _ _ (ih hrest)
    | some p => exact .failed _ _ (ih hrest)

/-- Every round is for a handle that the worker has been given. -/
theorem reclaims_rounds {rounds : List (HandleId × Option Panic)} (hknown : ∀ r ∈ rounds, s.Known r.1) :
    (rounds.flatMap (s.round g)).filterMap Deed.reclaim? = rounds.map Prod.fst := by
  induction rounds with
  | nil => rfl
  | cons r rounds ih =>
    obtain ⟨⟨e, he⟩, hrest⟩ := List.forall_mem_cons.mp hknown
    rw [List.flatMap_cons, List.filterMap_append, ih hrest]
    simp only [Store.round, he, (e.about_round g r.1 r.1 r.2).2]
    rfl

/-- What a worker says of a handle in its rounds, of which one at most is for it. -/
theorem about_rounds {rounds : List (HandleId × Option Panic)} (hknown : ∀ r ∈ rounds, s.Known r.1)
    (hnodup : (rounds.map Prod.fst).Nodup) (he : s.resource? id = some e) :
    (Trace.about (rounds.flatMap (s.round g)) id = [] ∧ id ∉ rounds.map Prod.fst) ∨
      ∃ panic, Trace.about (rounds.flatMap (s.round g)) id =
        [.notProperlyClosed e.address, e.announcement panic] ∧ (id, panic) ∈ rounds := by
  induction rounds with
  | nil => exact .inl ⟨rfl, List.not_mem_nil⟩
  | cons r rounds ih =>
    obtain ⟨⟨e', he'⟩, hrest⟩ := List.forall_mem_cons.mp hknown
    obtain ⟨hnot, hnodup⟩ := List.nodup_cons.mp hnodup
    have hround : Trace.about (s.round g r) id =
        if r.1 = id then [.notProperlyClosed e'.address, e'.announcement r.2] else [] := by
      simp only [Store.round, he', (e'.about_round g id r.1 r.2).1]
    rw [List.flatMap_cons, Trace.about_append, hround, List.map_cons]
    rcases ih hrest hnodup with ⟨hnone, hout⟩ | ⟨panic, hpair, hin⟩
    · rw [hnone, List.append_nil]
      split
      · next heq =>
        subst heq
        cases he.symm.trans he'
        exact .inr ⟨r.2, rfl, List.mem_cons_self⟩
      · next hne => exact .inl ⟨rfl, by simpa [Ne.symm hne] using hout⟩
    · have hne : r.1 ≠ id := fun heq => hnot (List.mem_map.mpr ⟨_, hin, heq.symm⟩)
      rw [if_neg hne, hpair, List.nil_append]
      exact .inr ⟨panic, rfl, List.mem_cons_of_mem _ hin⟩

/-- The handle in a worker's hand is the one that it has been given since its last round. -/
theorem Stage.Since.given (h : stage.Since s g rest) (hitem : stage.item? = some (.reclaim id)) :
    id ∈ rest.filterMap Deed.reclaim? := by
  cases h with
  | idle hnone => exact absurd hitem (hnone id)
  | took | processing | reporting =>
    cases hitem
    exact List.mem_cons_self
  | @entering _ e' | @inside _ e' | @settling _ e' | @announcing _ e' =>
    cases hitem
    rw [(e'.about_take_round g id id _ (by decide)).2]
    exact List.mem_cons_self
  | ended hover =>
    cases stage with
    | point p => cases p <;> simp_all [isOver, item?]
    | _ => simp_all [isOver, item?]

end Readings

/-! ## All that a sink is told -/

/-- What a sink can have been told of a handle: nothing; what the worker has found that claimed it, or that
and what became of the resource; or that it leaks, for its drop was refused while it was active. -/
inductive Entry.Told (e : Entry) (id : HandleId) (h : History) : List Diagnostic → Prop
  | nothing : Told e id h []
  | found (hclaimed : (id, .claimed (.reclaim e.guard) true) ∈ h) :
      Told e id h [.notProperlyClosed e.address]
  | pair (hclaimed : (id, .claimed (.reclaim e.guard) true) ∈ h) (panic : Option Panic) :
      Told e id h [.notProperlyClosed e.address, e.announcement panic]
  | leak (hactive : e.state = .active) (hrefused : (id, .refused) ∈ h) :
      Told e id h [.leakedAfterStop e.address]

section Told
variable {s : Store} {h : History} {a : Site} {tr : Trace} {id : HandleId} {e : Entry}

/-- A worker has claimed every handle whose round it has finished, or of which it has said anything. -/
theorem Site.Claimed.of_round {rounds : List (HandleId × Option Panic)} {rest : Trace}
    (hc : a.Claimed e.guard h tr) (hfound : ∀ id, (id, .claimed (.reclaim e.guard) false) ∉ h)
    (hsince : a.stage.Since s e.guard rest)
    (htaken : tr.filterMap Deed.reclaim? = rounds.map Prod.fst ++ rest.filterMap Deed.reclaim?)
    (hnodup : (tr.filterMap Deed.reclaim?).Nodup)
    (hin : id ∈ rounds.map Prod.fst ∨ (a.stage.isNew = false ∧ id ∈ rest.filterMap Deed.reclaim?)) :
    (id, .claimed (.reclaim e.guard) true) ∈ h := by
  have hgiven : .reclaim id ∈ tr.outs := by
    have hall : id ∈ tr.filterMap Deed.reclaim? := by
      rw [htaken]
      exact List.mem_append.mpr (hin.imp_right And.right)
    obtain ⟨d, hd, hreclaim⟩ := List.mem_filterMap.mp hall
    obtain ⟨item, hitem, hid⟩ := Option.bind_eq_some_iff.mp hreclaim
    cases item <;> cases hid
    exact List.mem_filterMap.mpr ⟨d, hd, hitem⟩
  have htried : .reclaim id ∈ a.stage.tried tr.outs := by
    unfold Stage.tried
    split
    · next hnew =>
      obtain ⟨item, hitem⟩ : ∃ item, a.stage.item? = some item := by
        cases hstage : a.stage with
        | point p => rw [hstage] at hnew; cases p <;> first | exact ⟨_, rfl⟩ | cases hnew
        | _ => rw [hstage] at hnew; cases hnew
      rw [← List.dropLast_append_getLast? _ (hc.queued.hand item hitem)] at hgiven
      rcases List.mem_append.mp hgiven with hgiven | hlast
      · exact hgiven
      · -- the handle in its hand has no round yet
        rw [← List.mem_singleton.mp hlast] at hitem
        rcases hin with hin | ⟨hno, -⟩
        · rw [htaken] at hnodup
          exact absurd rfl ((List.nodup_append.mp hnodup).2.2 id hin id (hsince.given hitem))
        · rw [hno] at hnew
          cases hnew
    · exact hgiven
  obtain ⟨won, hclaim⟩ := hc.tried id htried
  cases won
  · exact absurd hclaim (hfound id)
  · exact hclaim

/-- Of every handle a sink has been told nothing, or one pair, or one leak. -/
theorem Site.Rounds.told (hr : a.Rounds s e.guard tr) (hc : a.Claimed e.guard h tr)
    (hfound : ∀ id, (id, .claimed (.reclaim e.guard) false) ∉ h) (hl : Site.Leaks s h tr id)
    (hnodup : (tr.filterMap Deed.reclaim?).Nodup)
    (honce : (tr.filterMap Deed.reclaim?).count id + h.count (id, .leaked) ≤ 1)
    (he : s.resource? id = some e)
    (hleaked : (id, .leaked) ∈ h → e.state = .active ∧ (id, .refused) ∈ h) :
    e.Told id h (tr.about id) := by
  obtain ⟨rounds, rest, hknown, hsince, hwork⟩ := hr
  have htaken : tr.filterMap Deed.reclaim? = rounds.map Prod.fst ++ rest.filterMap Deed.reclaim? := by
    rw [← tr.reclaims_work, hwork, List.filterMap_append, reclaims_rounds hknown]
  have hclaimed : id ∈ rounds.map Prod.fst ∨
      (a.stage.isNew = false ∧ id ∈ rest.filterMap Deed.reclaim?) →
      (id, .claimed (.reclaim e.guard) true) ∈ h := hc.of_round hfound hsince htaken hnodup
  have hsplit : (tr.about id).filter (fun d => d.leak?.isNone) =
      Trace.about (rounds.flatMap (s.round e.guard)) id ++ rest.about id := by
    rw [← tr.about_work, hwork, Trace.about_append]
  rw [htaken] at hnodup
  have hrounds := about_rounds (g := e.guard) hknown (List.nodup_append.mp hnodup).1 he
  by_cases hleak : (tr.about id).countP (fun d => d.leak?.isSome) = 0
  · have hall : (tr.about id).filter (fun d => d.leak?.isNone) = tr.about id :=
      List.filter_eq_self.mpr fun d hd => by simpa using List.countP_eq_zero.mp hleak d hd
    rw [← hall, hsplit]
    rcases hrounds with ⟨hnone, -⟩ | ⟨panic, hpair, hround⟩ <;>
      rcases hsince.about he with hrest | ⟨hrest, hnew, hgiven⟩ <;> rw [hrest]
    · rw [hnone]
      exact .nothing
    · rw [hnone]
      exact .found (hclaimed (.inr ⟨hnew, by rw [hgiven]; exact List.mem_cons_self⟩))
    · rw [hpair]
      exact .pair (hclaimed (.inl (List.mem_map.mpr ⟨_, hround, rfl⟩))) panic
    · have hin : id ∈ rounds.map Prod.fst := List.mem_map.mpr ⟨_, hround, rfl⟩
      exact absurd rfl ((List.nodup_append.mp hnodup).2.2 id hin id (by rw [hgiven]; exact List.mem_cons_self))
  · have hmark : (id, .leaked) ∈ h :=
      List.count_pos_iff.mp ((Nat.pos_iff_ne_zero.mpr hleak).trans_le hl.marked)
    have hout : id ∉ tr.filterMap Deed.reclaim? := by
      have := List.count_pos_iff.mpr hmark
      exact List.count_eq_zero.mp (by omega)
    rw [htaken, List.mem_append, not_or] at hout
    -- a worker that has not been given the handle says nothing of it, so all there is are leaks
    have hnone : (tr.about id).filter (fun d => d.leak?.isNone) = [] := by
      rw [hsplit]
      rcases hrounds with ⟨hnone, -⟩ | ⟨panic, -, hround⟩
      · rcases hsince.about he with hrest | ⟨-, -, hgiven⟩
        · rw [hnone, hrest, List.append_nil]
        · rw [hgiven] at hout
          exact absurd List.mem_cons_self hout.2
      · exact absurd (List.mem_map.mpr ⟨_, hround, rfl⟩) hout.1
    have hall : ∀ d ∈ tr.about id, d.leak?.isSome = true := fun d hd => by
      simpa [Option.isSome_iff_ne_none] using List.filter_eq_nil_iff.mp hnone d hd
    have hlength : (tr.about id).length ≤ 1 := by
      have := hl.marked
      rw [List.countP_eq_length.mpr hall] at this
      omega
    obtain ⟨hactive, hrefused⟩ := hleaked hmark
    match hlist : tr.about id with
    | [] => exact .nothing
    | [d] =>
      obtain ⟨e', he', rfl⟩ := hl.own d (by rw [hlist]; exact List.mem_cons_self)
        (hall d (by rw [hlist]; exact List.mem_cons_self))
      cases he.symm.trans he'
      exact .leak hactive hrefused
    | d :: d' :: ds =>
      rw [hlist] at hlength
      simp at hlength

end Told

/-- Whoever tells a sink something is its worker, or a drop that tells of a leak. -/
theorem Frame.said_deeds {s : Store} {path : Path} {p : Progress} {frame : Frame} {g : GuardId}
    {about : Option HandleId} {d : Diagnostic} {panicked : Bool}
    (hin : .said g about d panicked ∈ frame.deeds s path p) :
    (∃ point, frame = .worker g point ∧ d.leak? = none) ∨
      ∃ id e, frame = .drop id .leak ∧ s.resource? id = some e ∧ e.guard = g ∧ about = some id ∧
        d = .leakedAfterStop e.address := by
  have haccepts : ∀ {g' item}, .said g about d panicked ∉ s.accepts g' item := fun {g' item} => by
    unfold Store.accepts
    split <;> simp
  have hends : ∀ {id}, .said g about d panicked ∉ p.ends path id := fun {id} => by
    cases p <;> simp [Progress.ends]
  have hannouncement : ∀ (e : Entry) panic, (e.announcement panic).leak? = none := fun e panic => by
    cases panic <;> rfl
  unfold deeds at hin
  split at hin
  · split at hin
    · exact absurd hin haccepts
    · cases hin
  · simp only [List.mem_cons, reduceCtorEq, false_or] at hin
    exact absurd hin hends
  · exact absurd hin hends
  · split at hin
    · exact absurd hin haccepts
    · cases hin
  · split at hin
    · next e he =>
      cases List.mem_singleton.mp hin
      exact .inr ⟨_, e, rfl, he, rfl, rfl, rfl⟩
    · cases hin
  · exact absurd hin haccepts
  · unfold Store.handsOut at hin
    split at hin
    · simp at hin
    · cases hin
  · split at hin
    · cases hin
    · simp at hin
  · split at hin
    · cases List.mem_singleton.mp hin
      exact .inl ⟨_, rfl, rfl⟩
    · cases hin
  · split at hin
    · cases List.mem_singleton.mp hin
      exact .inl ⟨_, rfl, hannouncement _ _⟩
    · cases hin
  · cases List.mem_singleton.mp hin
    exact .inl ⟨_, rfl, rfl⟩
  · cases hin

namespace System
variable {w : System} {h : History} {tr : Trace} {g : GuardId} {a : Site} {id : HandleId} {e : Entry}
  {x : Gist}

/-- All that the sink of a guard has been told so far. -/
structure Speech (w : System) (h : History) (tr : Trace) (g : GuardId) (a : Site) : Prop where
  /-- What the sink has been offered is what the trace says that it was told. -/
  offered : a.said = tr.said g
  /-- The worker has gone through rounds, one after the other, and may be within another. -/
  rounds : a.Rounds w.store g (tr.of g)
  /-- It has been given every handle once at most, and only its guard's own. -/
  once : (tr.reclaims g).Nodup ∧ ∀ id ∈ tr.reclaims g, w.store.Owns g id
  /-- So what it has said is a word of its language. -/
  word : Word ((tr.said g).filter fun d => d.leak?.isNone)
  /-- Of every handle the sink has been told nothing, or one pair, or one leak, -/
  handles : ∀ id e, w.store.resource? id = some e → e.guard = g → e.Told id h ((tr.of g).about id)
  /-- and nothing of a handle that a call has claimed. -/
  released : ∀ id e, w.store.resource? id = some e → e.guard = g → (id, .claimed .release true) ∈ h →
    (tr.of g).about id = []

/-- Who tells the sink of a guard something next: its worker, or the drop of one of its handles, which is
active, after the source has been interrupted. -/
inductive Teller (w : System) (g : GuardId) (a : Site) (about : Option HandleId) (d : Diagnostic) :
    Frame → Prop
  | worker (point : WorkerPoint) (hd : d.leak? = none) : Teller w g a about d (.worker g point)
  | drop {id : HandleId} {e : Entry} (he : w.store.resource? id = some e) (hg : e.guard = g)
      (hactive : e.state = .active) (hint : a.source.isInterrupted = true) (habout : about = some id)
      (hd : d = .leakedAfterStop e.address) : Teller w g a about d (.drop id .leak)

section Handle
variable (hr : w.Regular h) (he : w.store.resource? id = some e)
  (hx : w.store.gist? e.guard = some x) (hp : x.exposed = false)
include hr he hx hp

/-- A handle is given to the worker, or its leak is told of, once at most. -/
theorem Regular.taken_or_leaked : h.count (id, .taken e.guard) + h.count (id, .leaked) ≤ 1 := by
  have hk := (hr id e x he hx).kept hp
  have hplace := hk.place
  have hqueued := hk.queued
  have hrefused := hk.refused
  rw [← saw_life (w := w) (x := x) (m := .taken e.guard) rfl,
    ← saw_life (w := w) (e := e) (x := x) (m := .leaked) trivial]
  omega

/-- A handle whose leak is told of, or about to be, was refused. -/
theorem Regular.refused_of_leaked (hin : (id, .leaked) ∈ h ∨ .leaking id ∈ w.spots) :
    (id, .refused) ∈ h := by
  have hrefused := ((hr id e x he hx).kept hp).refused
  refine mem_of_saw (w := w) (e := e) (x := x) ?_ trivial
  rcases hin with hin | hin
  · have hleaked := saw_of_mem (w := w) (e := e) (x := x) hin trivial
    omega
  · have hleaking : (w.life h id e x).on (.leaking id) = w.spots.count (.leaking id) := on_life rfl
    have := Multiset.count_pos.mpr hin
    omega

omit hp in
/-- What a call has claimed, the worker has not. -/
theorem Regular.claimed_once (hcall : (id, .claimed .release true) ∈ h) :
    (id, .claimed (.reclaim e.guard) true) ∉ h ∧ e.state = .released := by
  have hsound := (hr id e x he hx).sound
  have hwins := hsound.wins
  have hlisted := hsound.listed
  have hwon := saw_of_mem (w := w) (e := e) (x := x) hcall trivial
  have hreleased : (w.life h id e x).released = 1 := by omega
  refine ⟨fun hin => ?_, state_of_life.2.mp hreleased⟩
  have := saw_of_mem (w := w) (e := e) (x := x) hin rfl
  omega

end Handle

variable (probes : Array Probe) (environment : Environment) (output : Output) (es : List Event)

theorem rounds_after (ha : ((boot probes environment output).after es).site? g = some a)
    (hquiet : ∀ told x, a.config.sink.panicsAt told x = false)
    (hfound : ∀ id, (id, .claimed (.reclaim g) false) ∉ (boot probes environment output).history es) :
    a.Rounds ((boot probes environment output).after es).store g
      (((boot probes environment output).trace es).of g) := by
  refine site_in_store_after (P := fun s a h tr => (∀ told x, a.config.sink.panicsAt told x = false) →
      (∀ id, (id, .claimed (.reclaim g) false) ∉ h) → a.Rounds s g tr) probes environment output es
    (fun hfresh _ _ => .fresh hfresh) (fun hext hP hs hquiet hfound => ?_)
    (fun hext hP hquiet hfound => ?_) ha hquiet hfound
  · rw [hs.config] at hquiet
    have hold := hP hquiet fun id hin => hfound id (List.mem_append_left _ hin)
    exact (hold.step hs hquiet fun id hin => hfound id (List.mem_append_right _ hin)).later hext
  · have hold := hP hquiet fun id hin => hfound id (List.mem_append_left _ hin)
    exact hold.later hext

theorem leaks_after (ha : ((boot probes environment output).after es).site? g = some a)
    (id : HandleId) : Site.Leaks ((boot probes environment output).after es).store
      ((boot probes environment output).history es)
      (((boot probes environment output).trace es).of g) id :=
  site_in_store_after (P := fun s _ h tr => Site.Leaks s h tr id) probes environment output es
    (fun _ => .nothing) (fun hext hl hs => (hl.append (hs.leaks id)).later hext)
    (fun hext hl => by simpa using (hl.append .nothing).later hext) ha

theorem Orderly.speech (hw : w.Orderly h) (hr : w.Regular h) (hx : w.store.gist? g = some x)
    (hp : x.exposed = false) (hfound : ∀ id, (id, .claimed (.reclaim g) false) ∉ h)
    (hrounds : a.Rounds w.store g (tr.of g)) (hclaimed : a.Claimed g h (tr.of g))
    (hleaks : ∀ id, Site.Leaks w.store h (tr.of g) id) (htaken : tr.reclaims g = h.handles (.taken g))
    (hsaid : a.said = tr.said g) : w.Speech h tr g a := by
  have hmark : ∀ {id}, id ∈ tr.reclaims g → (id, .taken g) ∈ h := fun {id} hin => by
    rw [htaken, ← List.count_pos_iff, h.count_handles] at hin
    exact List.count_pos_iff.mp hin
  have howns : ∀ id ∈ tr.reclaims g, w.store.Owns g id := fun id hin =>
    own_of_admits hx hp (hw.2.marks id _ (hmark hin))
  have hnodup : (tr.reclaims g).Nodup := List.nodup_iff_count_le_one.mpr fun id => by
    by_cases hin : id ∈ tr.reclaims g
    · obtain ⟨e, he, rfl⟩ := howns id hin
      have honce := hr.taken_or_leaked he hx hp
      rw [htaken, h.count_handles]
      omega
    · rw [List.count_eq_zero.mpr hin]
      exact Nat.zero_le 1
  have htold : ∀ id e, w.store.resource? id = some e → e.guard = g →
      e.Told id h ((tr.of g).about id) := by
    rintro id e he rfl
    have honce := hr.taken_or_leaked he hx hp
    rw [← h.count_handles, ← htaken] at honce
    refine hrounds.told hclaimed hfound (hleaks id) (tr.reclaims_eq _ ▸ hnodup)
      (tr.reclaims_eq _ ▸ honce) he fun hleaked => ?_
    have hrefused := hr.refused_of_leaked he hx hp (.inl hleaked)
    obtain ⟨-, -, -, hactive, -⟩ := hr.stranded he hx hp (.inr hrefused)
    exact ⟨hactive, hrefused⟩
  refine ⟨hsaid, hrounds, ⟨hnodup, howns⟩, ?_, htold, ?_⟩
  · obtain ⟨rounds, rest, hknown, hsince, hwork⟩ := hrounds
    rw [Trace.said, ← Trace.words_work, hwork, Trace.words_append]
    exact word_rounds hknown hsince.word
  · rintro id e he rfl hcall
    obtain ⟨hnot, hreleased⟩ := hr.claimed_once he hx hcall
    have htold := htold id e he rfl
    generalize (tr.of e.guard).about id = ds at htold
    cases htold with
    | nothing => rfl
    | found hclaimed | pair hclaimed => exact absurd hclaimed hnot
    | leak hactive =>
      rw [hreleased] at hactive
      cases hactive

/-- Whoever tells the sink of a guard something next is one of its tellers. -/
theorem Orderly.teller (hw : w.Orderly h) (hr : w.Regular h) (hx : w.store.gist? g = some x)
    (hp : x.exposed = false) (hint : x.interrupted = a.source.isInterrupted) {event : Event}
    {about : Option HandleId} {d : Diagnostic} {panicked : Bool}
    (hin : .said g about d panicked ∈ w.deeds event) :
    ∃ t frame, event = .move (.act t) ∧ w.acting? t = some frame ∧ w.Teller g a about d frame := by
  cases event with
  | move m =>
    cases m with
    | act t =>
      simp only [deeds] at hin
      cases ht : w.acting? t with
      | none =>
        rw [ht] at hin
        cases hin
      | some frame =>
        rw [ht] at hin
        refine ⟨t, frame, rfl, ht, ?_⟩
        rcases Frame.said_deeds hin with ⟨point, rfl, hd⟩ | ⟨id, e, rfl, he, rfl, habout, hd⟩
        · exact .worker point hd
        · have hspot : .leaking id ∈ w.spots :=
            (acts_acting hw.2.spots ht).1 (Multiset.mem_singleton_self _)
          have hrefused := hr.refused_of_leaked he hx hp (.inr hspot)
          obtain ⟨hinterrupted, -, -, hactive, -⟩ := hr.stranded he hx hp (.inr hrefused)
          exact .drop he rfl hactive (hint ▸ hinterrupted) habout hd
    | expire t => cases hin
  | inject g' id =>
    simp only [deeds, Store.accepts] at hin
    split at hin
    · split at hin <;> simp at hin
    · cases hin
  | _ => cases hin

/-- What the sink of a guard has been told, when only its own handles reach the source and the sink takes
everything: its worker goes through rounds and says what it does, one pair for each handle; of a handle
that its drop found active after the interruption, the sink is told that it leaks, by that drop; and it
is told nothing else. -/
theorem speaks (ha : ((boot probes environment output).after es).site? g = some a)
    (hplain : a.source.gate = none) (hquiet : ∀ told x, a.config.sink.panicsAt told x = false) :
    Speech ((boot probes environment output).after es) ((boot probes environment output).history es)
        ((boot probes environment output).trace es) g a ∧
      ∀ event about d panicked, .said g about d panicked ∈
        ((boot probes environment output).after es).deeds event →
        ∃ t frame, event = .move (.act t) ∧
          ((boot probes environment output).after es).acting? t = some frame ∧
          Teller ((boot probes environment output).after es) g a about d frame := by
  have hw := orderly_after probes environment output es
  have hr := regular_after probes environment output es
  obtain ⟨y, hy, -, hsource⟩ := guard?_site ha
  have hx : ((boot probes environment output).after es).store.gist? g = some y.gist := by
    rw [Store.gist?, hy]
    rfl
  have hp : y.gist.exposed = false := by simp [Guard.gist, hsource, hplain]
  have hfound := (hw.losesNone hr hx (counts_after probes environment output es hx) hp).found.1
  refine ⟨hw.speech hr hx hp hfound (rounds_after probes environment output es ha hquiet hfound)
    (claimed_after probes environment output es ha) (leaks_after probes environment output es ha)
    ((addsUp_after probes environment output es).taken g)
    (shown_after probes environment output es ha).said, fun event about d panicked hin => ?_⟩
  exact hw.teller hr hx hp (congrArg Source.isInterrupted hsource) hin

/-- Of four handles one is dropped, another whose callback panics is dropped too, a third is released, and
the last is dropped when the guard has been shut down. -/
def telling : List Event :=
  .join .caller
      [.startGuard "g" {} .plain none,
        .register (.guard "g") "x" { address := 1, label := some "Buffer", callback := some {} },
        .register (.guard "g") "y" { address := 2, callback := some { panic := some .other } },
        .register (.guard "g") "z" { address := 3, callback := some {} },
        .register (.guard "g") "v" { address := 4, callback := some {} },
        .drop "x", .drop "y", .release "z" none, .flush "g" .unlimited .opens, .shutdown "g", .drop "v"] ::
    (List.replicate 70 [.move (.act 0), .move (.act 1)]).flatten

theorem speaks_telling :
    ∃ a, ((boot #[] none {}).after telling).site? 0 = some a ∧
      a.said = [.notProperlyClosed 1, .destroyed (some "Buffer") 1, .notProperlyClosed 2,
        .releaseFailed 2 "release callback panicked", .interrupted, .leakedAfterStop 4] ∧
      Speech ((boot #[] none {}).after telling) ((boot #[] none {}).history telling)
        ((boot #[] none {}).trace telling) 0 a := by
  have hrun : (((boot #[] none {}).after telling).site? 0).map (fun a => (a.source.gate, a.said)) =
      some (none, [.notProperlyClosed 1, .destroyed (some "Buffer") 1, .notProperlyClosed 2,
        .releaseFailed 2 "release callback panicked", .interrupted, .leakedAfterStop 4]) := by
    decide +kernel
  obtain ⟨a, ha, heq⟩ := Option.map_eq_some_iff.mp hrun
  obtain ⟨hplain, hsaid⟩ := Prod.mk.inj heq
  have hsink : (((boot #[] none {}).after telling).site? 0).map (fun a => a.config.sink) =
      some (Setup.recorder {} "g") := sink_stays 4 rfl
  rw [ha] at hsink
  have hquiet : ∀ told x, a.config.sink.panicsAt told x = false := fun told x => by
    have hsink : a.config.sink = Setup.recorder {} "g" := Option.some.inj hsink
    rw [hsink]
    rfl
  exact ⟨a, ha, hsaid, (speaks #[] none {} telling ha hplain hquiet).1⟩

end System

end Reclaim

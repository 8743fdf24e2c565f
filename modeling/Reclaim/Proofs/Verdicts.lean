import Reclaim.Proofs.Completion
import Reclaim.Proofs.Paths

/-!
# What has become of handles

When nothing is under way for a handle, there are three things that can have become of it: nothing yet,
or a call has released it, or the worker of its guard has. Which it is says where its callback has run,
what calls have answered, what the worker has counted and what the sink was told.

* `Verdict`, `Entry.verdict` : all that has become of a handle;
* `Verdict.untouched`, `Verdict.called`, `Verdict.reclaimed` : what it can be;
* `System.AtRest` : nothing is under way for the handles of a guard;
* `System.ended_claimed` : a callback ends on a path that has claimed its handle;
* `Speech.closed` : the rounds of a worker that is through with its items;
* `Entry.Rested`, `System.AtRest.rested` : what there is to count about a handle then;
* `Entry.Becomes`, `System.becomes_after` : its verdict, by who has claimed it.
-/

namespace Reclaim

/-- What has become of a handle. -/
structure Verdict where
  state : HandleState
  /-- Where its callback has run. -/
  paths : List Path
  /-- How many calls to release it have answered that they did it, or passed on a panic. -/
  won : Nat
  /-- How many have answered that it was released before. -/
  lost : Nat
  /-- How often the worker has counted that it reclaimed it. -/
  reclaims : Nat
  /-- How often the worker has counted that its release failed. -/
  failures : Nat
  /-- What the sink of its guard was told of it. -/
  said : List Diagnostic
deriving DecidableEq

namespace Verdict

/-- Nothing has happened yet. -/
def untouched : Verdict := ⟨.active, [], 0, 0, 0, 0, []⟩

/-- The first of so many calls has released it. -/
def called (tries : Nat) : Verdict := ⟨.released, [.release], 1, tries - 1, 0, 0, []⟩

/-- The worker has released it, and the callback ended like this. -/
def reclaimed (e : Entry) (panic : Option Panic) : Verdict where
  state := .released
  paths := [.reclaim e.guard]
  won := 0
  lost := 0
  reclaims := if panic.isSome then 0 else 1
  failures := if panic.isSome then 1 else 0
  said := [.notProperlyClosed e.address, e.announcement panic]

/-- What the sink was told says how the callback ended, as far as the verdict goes. -/
theorem reclaimed_inj {e e' : Entry} {panic panic' : Option Panic} (hg : e'.guard = e.guard)
    (h : (reclaimed e panic).said = (reclaimed e' panic').said) :
    reclaimed e panic = reclaimed e' panic' := by
  have hword : e.announcement panic = e'.announcement panic' := by
    simp only [reclaimed, List.cons.injEq] at h
    exact h.2.1
  have hpanic : panic.isSome = panic'.isSome := by
    cases panic <;> cases panic' <;> first | rfl | cases hword
  simp only [reclaimed] at h ⊢
  rw [hg, hpanic, h]

end Verdict

/-- What has become of the handle, by what has happened to it and what has been done about it. -/
def Entry.verdict (e : Entry) (id : HandleId) (h : History) (tr : Trace) : Verdict where
  state := e.state
  paths := tr.paths id
  won := h.count (id, .returned true)
  lost := h.count (id, .returned false)
  reclaims := h.count (id, .settled e.guard false)
  failures := h.count (id, .settled e.guard true)
  said := (tr.of e.guard).about id

/-! ## Rounds that are over -/

section Rounds
variable {s : Store} {g : GuardId} {id : HandleId} {e : Entry}

/-- A round tells how the callback of its handle has ended, and nothing of others. -/
theorem Entry.mem_round {g' : GuardId} {id' : HandleId} {panic panic' : Option Panic} :
    .ended (.reclaim g') id panic ∈ e.round g id' panic' ↔ g' = g ∧ id = id' ∧ panic = panic' := by
  simp [Entry.round]

theorem mem_rounds {rounds : List (HandleId × Option Panic)} (hknown : ∀ r ∈ rounds, s.Known r.1)
    {panic : Option Panic} :
    .ended (.reclaim g) id panic ∈ rounds.flatMap (s.round g) ↔ (id, panic) ∈ rounds := by
  simp only [List.mem_flatMap]
  constructor
  · rintro ⟨⟨id', panic'⟩, hin, hround⟩
    obtain ⟨e, he⟩ := hknown _ hin
    simp only [Store.round, he, Entry.mem_round, true_and] at hround
    obtain ⟨rfl, rfl⟩ := hround
    exact hin
  · intro hin
    obtain ⟨e, he⟩ := hknown _ hin
    refine ⟨(id, panic), hin, ?_⟩
    simp only [Store.round, he, Entry.mem_round, and_self]

/-- A worker that is at no handle has done nothing since its last round but end. -/
theorem Stage.Since.closed {stage : Stage} {rest : Trace} (h : stage.Since s g rest)
    (hidle : ∀ id, stage.item? ≠ some (.reclaim id)) :
    (∀ id, rest.about id = []) ∧ rest.filterMap Deed.reclaim? = [] ∧
      (∀ path id panic, .ended path id panic ∉ rest) ∧ (stage.isOver = false → rest = []) := by
  cases h with
  | idle => exact ⟨fun _ => rfl, rfl, by simp, fun _ => rfl⟩
  | ended hover =>
    refine ⟨fun _ => rfl, rfl, by simp, fun hopen => ?_⟩
    cases hover.symm.trans hopen
  | _ => exact absurd rfl (hidle _)

end Rounds

namespace System
variable {w : System} {h : History} {tr : Trace} {g : GuardId} {a : Site} {id : HandleId} {e : Entry}

/-- A worker that is at no handle has gone through a round for everything that it was given. -/
theorem Speech.closed (hs : w.Speech h tr g a) (hidle : ∀ id, a.stage.item? ≠ some (.reclaim id)) :
    ∃ rounds : List (HandleId × Option Panic), rounds.map Prod.fst = tr.reclaims g ∧
      (a.stage.isOver = false → (tr.of g).work = rounds.flatMap (w.store.round g)) ∧
      (∀ id panic, .ended (.reclaim g) id panic ∈ tr ↔ (id, panic) ∈ rounds) ∧
      ∀ id e, w.store.resource? id = some e →
        ((tr.of g).work.about id = [] ∧ id ∉ rounds.map Prod.fst) ∨ ∃ panic,
          (tr.of g).work.about id = [.notProperlyClosed e.address, e.announcement panic] ∧
            (id, panic) ∈ rounds := by
  obtain ⟨rounds, rest, hknown, hsince, hwork⟩ := hs.rounds
  have hreclaims : rounds.map Prod.fst = tr.reclaims g := by
    rw [tr.reclaims_eq, ← Trace.reclaims_work, hwork, List.filterMap_append, reclaims_rounds hknown,
      (hsince.closed hidle).2.1, List.append_nil]
  refine ⟨rounds, hreclaims, fun hopen => ?_, fun id panic => ?_, fun id e he => ?_⟩
  · rw [hwork, (hsince.closed hidle).2.2.2 hopen, List.append_nil]
  · have hof : .ended (.reclaim g) id panic ∈ tr ↔ .ended (.reclaim g) id panic ∈ (tr.of g).work := by
      simp [Trace.work, Trace.of, Deed.isWork, Deed.guard?]
    rw [hof, hwork, List.mem_append, mem_rounds hknown]
    exact or_iff_left ((hsince.closed hidle).2.2.1 _ _ _)
  · rw [hwork, Trace.about_append, (hsince.closed hidle).1 id, List.append_nil]
    exact about_rounds hknown (hreclaims ▸ hs.once.1) he

/-! ## Handles at rest -/

/-- Nothing is under way in a system, and a guard of it takes what its own handles bring. -/
structure AtRest (w : System) (g : GuardId) : Prop where
  spots : w.spots = 0
  plain : ∀ x, w.store.gist? g = some x →
    x.exposed = false ∧ x.interrupted = false ∧ ∀ told d, x.config.sink.panicsAt told d = false
  idle : ∀ a, w.site? g = some a → ∀ id, a.stage.item? ≠ some (.reclaim id)

end System

/-- What there is to count about a handle when nothing is under way for it. -/
structure Entry.Rested (e : Entry) (id : HandleId) (h : History) (waiting runs : Nat) : Prop where
  claims : h.count (id, .claimed .release true) + h.count (id, .claimed (.reclaim e.guard) true) =
    e.state.claims
  won : h.count (id, .returned true) = h.count (id, .claimed .release true)
  lost : h.count (id, .returned false) = h.count (id, .claimed .release false)
  settled : h.count (id, .settled e.guard false) + h.count (id, .settled e.guard true) =
    h.count (id, .claimed (.reclaim e.guard) true)
  runs : runs = e.state.claims
  /-- Nobody has asked for an active handle; it is held or waits in the source. -/
  active : e.state.claims = 0 →
    h.count (id, .claimed .release false) = 0 ∧ (e.owners ≠ 0 ∨ waiting ≠ 0)
  /-- Nobody has asked for a handle that the worker has released, and nobody holds it. -/
  reclaimed : h.count (id, .claimed (.reclaim e.guard) true) ≠ 0 →
    h.count (id, .claimed .release false) = 0 ∧ e.owners = 0
  refused : h.count (id, .refused) = 0

namespace System
variable {w : System} {h : History} {g : GuardId} {x : Gist} {id : HandleId} {e : Entry}

theorem AtRest.rested (hrest : w.AtRest e.guard) (hr : w.Regular h) (he : w.store.resource? id = some e)
    (hx : w.store.gist? e.guard = some x) (hu : (w.life h id e x).Untried id)
    (haborted : h.count (id, .aborted e.guard) = 0) :
    e.Rested id h (x.waiting.count id) (w.store.begun.count id) := by
  obtain ⟨hexposed, hopen, -⟩ := hrest.plain x hx
  have hregular := hr id e x he hx
  have hsound := hregular.sound
  have hheard := hregular.heard
  have hkept := hregular.kept hexposed
  have hclosed : (w.life h id e x).closed = 0 := congrArg Bool.toNat hopen
  have hon : ∀ y : Spot, (w.life h id e x).on y = 0 := fun y => by
    rw [Life.on, show (w.life h id e x).spots = 0 from by simp [life, Store.life, hrest.spots]]
    exact Multiset.count_zero y
  have hclaims : (w.life h id e x).released = e.state.claims := rfl
  have howners : (w.life h id e x).owners = e.owners := rfl
  have hruns : (w.life h id e x).runs = w.store.begun.count id := rfl
  have hwaiting : (w.life h id e x).pending = x.waiting.count id := rfl
  have hthrown := hkept.closed.2.1 hclosed
  have husers := hsound.users
  have hlisted := hsound.listed
  have hwins := hsound.wins
  have hlosses := hsound.losses
  have hwon := hsound.won
  have hlost := hsound.lost
  have hran := hheard.runs
  have hsettled := hheard.settled
  have hplace := hkept.place
  have hactive := hkept.active
  have hqueued := hkept.queued
  have htaken := hkept.taken
  have hreleased := hkept.released
  simp only [Life.Untried] at hu
  simp only [hon, hclaims, howners, hruns, hwaiting] at *
  simp only [saw_life (e := e) (x := x) (m := .claimed .release _) trivial,
    saw_life (e := e) (x := x) (m := .claimed (.reclaim e.guard) _) rfl,
    saw_life (e := e) (x := x) (m := .settled e.guard _) rfl,
    saw_life (e := e) (x := x) (m := .aborted e.guard) rfl, haborted,
    saw_life (e := e) (x := x) (m := .returned _) trivial,
    saw_life (e := e) (x := x) (m := .refused) trivial] at *
  refine ⟨by omega, by omega, by omega, by omega, by omega, fun hzero => ?_, fun hclaimed => ?_, by omega⟩
  · exact ⟨(hlosses hzero).1, by omega⟩
  · exact ⟨(hu (by omega)).2, by omega⟩

/-- Whose callback has ended has been claimed on that path. -/
theorem ended_claimed (probes : Array Probe) (environment : Environment) (output : Output)
    (es : List Event) {path : Path} {panic : Option Panic}
    (hin : .ended path id panic ∈ (boot probes environment output).trace es) :
    (id, .claimed path true) ∈ (boot probes environment output).history es := by
  induction es using List.reverseRecOn with
  | nil => cases hin
  | append_singleton es e ih =>
    rw [trace_snoc] at hin
    rw [history_snoc]
    refine List.mem_append_left _ ?_
    rcases List.mem_append.mp hin with hold | hnew
    · exact ih hold
    · exact (orderly_after probes environment output es).call_claimed
        (regular_after probes environment output es) hnew rfl

end System

/-! ## Verdicts -/

/-- What can have become of a handle, by who has claimed it. -/
inductive Entry.Becomes (e : Entry) (id : HandleId) (h : History) (tr : Trace) : Verdict → Prop
  | untouched (htries : h.tries id = 0) (hunclaimed : (id, .claimed (.reclaim e.guard) true) ∉ h) :
      Becomes e id h tr .untouched
  | called (hclaimed : (id, .claimed .release true) ∈ h)
      (hunclaimed : (id, .claimed (.reclaim e.guard) true) ∉ h) : Becomes e id h tr (.called (h.tries id))
  | reclaimed (htries : h.tries id = 0) (hclaimed : (id, .claimed (.reclaim e.guard) true) ∈ h)
      (panic : Option Panic) (hended : .ended (.reclaim e.guard) id panic ∈ tr) :
      Becomes e id h tr (.reclaimed e panic)

section Becomes
variable {e : Entry} {id : HandleId} {h : History} {tr : Trace}

/-- What has become of a handle that the worker has claimed. -/
theorem Entry.Becomes.of_claimed {v : Verdict} (hv : e.Becomes id h tr v)
    (hclaimed : (id, .claimed (.reclaim e.guard) true) ∈ h) :
    ∃ panic, v = .reclaimed e panic ∧ .ended (.reclaim e.guard) id panic ∈ tr := by
  cases hv with
  | untouched _ hunclaimed | called _ hunclaimed => exact absurd hclaimed hunclaimed
  | reclaimed _ _ panic hended => exact ⟨panic, rfl, hended⟩

variable {waiting runs : Nat} (hr : e.Rested id h waiting runs)
  (howned : ∀ g, (id, .claimed (.reclaim g) true) ∈ h → g = e.guard)
include hr howned

/-- A handle is claimed on one path only. -/
theorem Entry.Rested.claimed_unique {path path' : Path} (hclaimed : (id, .claimed path true) ∈ h)
    (hclaimed' : (id, .claimed path' true) ∈ h) : path' = path := by
  have hclaims := hr.claims
  have hle : e.state.claims ≤ 1 := by cases e.state <;> decide
  have hpos := List.count_pos_iff.mpr hclaimed
  have hpos' := List.count_pos_iff.mpr hclaimed'
  cases path with
  | release =>
    cases path' with
    | release => rfl
    | reclaim g' =>
      obtain rfl := howned g' hclaimed'
      omega
  | reclaim g =>
    obtain rfl := howned g hclaimed
    cases path' with
    | release => omega
    | reclaim g' => rw [howned g' hclaimed']

/-- A handle that has been claimed is released, and its callback has run once. -/
theorem Entry.Rested.ran_once {path : Path} (hclaimed : (id, .claimed path true) ∈ h) :
    e.state = .released ∧ runs = 1 := by
  have hpos : e.state.claims ≠ 0 := by
    have hclaims := hr.claims
    have hpos := List.count_pos_iff.mpr hclaimed
    cases path with
    | release => omega
    | reclaim g =>
      obtain rfl := howned g hclaimed
      omega
  cases hstate : e.state with
  | active => exact absurd (congrArg HandleState.claims hstate) hpos
  | released => exact ⟨rfl, hr.runs.trans (congrArg HandleState.claims hstate)⟩

/-- So it ran where the handle was claimed. -/
theorem Entry.Rested.paths_eq (hlength : (tr.paths id).length = runs)
    (hpaths : ∀ path ∈ tr.paths id, (id, .claimed path true) ∈ h) {path : Path}
    (hclaimed : (id, .claimed path true) ∈ h) : tr.paths id = [path] := by
  refine List.eq_replicate_iff (n := 1) |>.mpr ⟨hlength.trans (hr.ran_once howned hclaimed).2, ?_⟩
  exact fun path' hin => hr.claimed_unique howned hclaimed (hpaths path' hin)

end Becomes

namespace System
variable {id : HandleId} {e : Entry}
variable (probes : Array Probe) (environment : Environment) (output : Output) (es : List Event)

/-- A plain guard at rest is one whose sink was told what its worker did. -/
theorem AtRest.speech {g : GuardId} {x : Gist}
    (hrest : ((boot probes environment output).after es).AtRest g)
    (hx : ((boot probes environment output).after es).store.gist? g = some x) :
    ∃ a, ((boot probes environment output).after es).site? g = some a ∧
      Speech ((boot probes environment output).after es) ((boot probes environment output).history es)
        ((boot probes environment output).trace es) g a := by
  obtain ⟨y, hy, rfl⟩ := Option.map_eq_some_iff.mp hx
  obtain ⟨a, ha, hdesk⟩ := site_of_guard hy
  have hsource : a.source = y.source := congrArg Desk.source hdesk
  have hconfig : a.config = y.config := congrArg Desk.config hdesk
  obtain ⟨hexposed, -, hquiet⟩ := hrest.plain y.gist hx
  have hplain : y.source.gate = none := Option.isNone_iff_eq_none.mp (Option.isSome_eq_false_iff.mp hexposed)
  exact ⟨a, ha, (speaks probes environment output es ha (hsource ▸ hplain) (hconfig ▸ hquiet)).1⟩

/-- Of a handle that the worker has released its sink was told in one round, and the worker has counted
what the callback came to there. -/
theorem AtRest.round (hrest : ((boot probes environment output).after es).AtRest e.guard)
    (he : ((boot probes environment output).after es).store.resource? id = some e) {waiting runs : Nat}
    (hrested : e.Rested id ((boot probes environment output).history es) waiting runs)
    (hstate : e.state = .released)
    (hclaimed : (id, .claimed (.reclaim e.guard) true) ∈ (boot probes environment output).history es) :
    ∃ panic, .ended (.reclaim e.guard) id panic ∈ (boot probes environment output).trace es ∧
      (((boot probes environment output).trace es).of e.guard).about id =
        [.notProperlyClosed e.address, e.announcement panic] ∧
      ((boot probes environment output).history es).count (id, .settled e.guard panic.isSome) ≠ 0 := by
  obtain ⟨x, hx⟩ := (orderly_after probes environment output es).2.entries id e he
  obtain ⟨a, ha, hspeech⟩ := hrest.speech probes environment output es hx
  obtain ⟨rounds, hreclaims, -, hended, hsaid⟩ := hspeech.closed (hrest.idle a ha)
  have hsettled := hrested.settled
  have hpos := List.count_pos_iff.mpr hclaimed
  obtain ⟨failed, hfailed⟩ : ∃ failed, ((boot probes environment output).history es).count
      (id, .settled e.guard failed) ≠ 0 := by
    by_cases hzero : ((boot probes environment output).history es).count (id, .settled e.guard false) = 0
    · exact ⟨true, by omega⟩
    · exact ⟨false, hzero⟩
  obtain ⟨panic, hin, rfl⟩ := settled_after probes environment output es
    (List.count_pos_iff.mp (Nat.pos_of_ne_zero hfailed))
  refine ⟨panic, hin, ?_, hfailed⟩
  -- nothing that the sink was told is a leak, as the handle is released
  have hwork : (((boot probes environment output).trace es).of e.guard).about id =
      (((boot probes environment output).trace es).of e.guard).work.about id := by
    have htold := hspeech.handles id e he rfl
    rw [Trace.about_work]
    generalize (((boot probes environment output).trace es).of e.guard).about id = ds at htold
    cases htold with
    | nothing | found => rfl
    | pair _ panic => cases panic <;> rfl
    | leak hactive => cases hactive.symm.trans hstate
  have hround := (hended id panic).mp hin
  rcases hsaid id e he with ⟨-, hout⟩ | ⟨panic', hpair, hround'⟩
  · exact absurd (List.mem_map.mpr ⟨_, hround, rfl⟩) hout
  · have hnodup : (rounds.map Prod.fst).Nodup := hreclaims ▸ hspeech.once.1
    cases List.inj_on_of_nodup_map hnodup hround hround' rfl
    rw [hwork, hpair]

/-- When nothing is under way, what has become of a handle is what its claims say. -/
theorem becomes_after (he : ((boot probes environment output).after es).store.resource? id = some e)
    (hrest : ((boot probes environment output).after es).AtRest e.guard) :
    e.Becomes id ((boot probes environment output).history es) ((boot probes environment output).trace es)
      (e.verdict id ((boot probes environment output).history es)
        ((boot probes environment output).trace es)) := by
  have hw := orderly_after probes environment output es
  obtain ⟨x, hx⟩ := hw.2.entries id e he
  obtain ⟨a, -, hspeech⟩ := hrest.speech probes environment output es hx
  have hrested := hrest.rested (regular_after probes environment output es) he hx
    (untried_after probes environment output es he hx (hrest.plain x hx).1)
    ((addsUp_after probes environment output es).never_aborted hspeech.rounds id)
  obtain ⟨hlength, hpaths⟩ := paths_after probes environment output es id
  have howned : ∀ g, (id, .claimed (.reclaim g) true) ∈ (boot probes environment output).history es →
      g = e.guard := fun g => hw.winner_owns he
  have hround := hrest.round probes environment output es he hrested
  have htold := hspeech.handles id e he rfl
  have hsilent := hspeech.released id e he rfl
  generalize (boot probes environment output).history es = h at *
  generalize (boot probes environment output).trace es = tr at *
  have hclaims := hrested.claims
  have hwon := hrested.won
  have hlost := hrested.lost
  have hsettled := hrested.settled
  by_cases hcalled : (id, .claimed .release true) ∈ h
  · have hpos := List.count_pos_iff.mpr hcalled
    obtain ⟨hstate, -⟩ := hrested.ran_once howned hcalled
    have hverdict : e.verdict id h tr = .called (h.tries id) := by
      rw [hstate, HandleState.claims] at hclaims
      simp only [Entry.verdict, Verdict.called, Verdict.mk.injEq, History.tries]
      exact ⟨hstate, hrested.paths_eq howned hlength hpaths hcalled, by omega, by omega, by omega, by omega,
        hsilent hcalled⟩
    refine hverdict ▸ .called hcalled fun hin => ?_
    cases hrested.claimed_unique howned hcalled hin
  have hcalled := List.count_eq_zero.mpr hcalled
  by_cases hclaimed : (id, .claimed (.reclaim e.guard) true) ∈ h
  · have hpos := List.count_pos_iff.mpr hclaimed
    obtain ⟨hstate, -⟩ := hrested.ran_once howned hclaimed
    obtain ⟨panic, hended, hsaid, hcount⟩ := hround hstate hclaimed
    obtain ⟨hasked, -⟩ := hrested.reclaimed (by omega)
    have hverdict : e.verdict id h tr = .reclaimed e panic := by
      rw [hstate, HandleState.claims] at hclaims
      simp only [Entry.verdict, Verdict.reclaimed, Verdict.mk.injEq]
      refine ⟨hstate, hrested.paths_eq howned hlength hpaths hclaimed, by omega, by omega, ?_, ?_, hsaid⟩ <;>
        cases hpanic : panic.isSome <;> rw [hpanic] at hcount <;> simp <;> omega
    exact hverdict ▸ .reclaimed (by rw [History.tries]; omega) hclaimed panic hended
  · have hunclaimed := List.count_eq_zero.mpr hclaimed
    have hzero : e.state.claims = 0 := by omega
    have hstate : e.state = .active := by
      cases hs : e.state with
      | active => rfl
      | released => rw [hs, HandleState.claims] at hzero; cases hzero
    obtain ⟨hasked, -⟩ := hrested.active hzero
    have hsaid : (tr.of e.guard).about id = [] := by
      generalize (tr.of e.guard).about id = ds at htold
      cases htold with
      | nothing => rfl
      | found hin | pair hin => exact absurd hin hclaimed
      | leak _ hrefused => exact absurd hrefused (List.count_eq_zero.mp hrested.refused)
    have hverdict : e.verdict id h tr = .untouched := by
      simp only [Entry.verdict, Verdict.untouched, Verdict.mk.injEq]
      exact ⟨hstate, List.eq_nil_of_length_eq_zero (by rw [hlength, hrested.runs, hzero]), by omega, by omega,
        by omega, by omega, hsaid⟩
    exact hverdict ▸ .untouched (by rw [History.tries]; omega) hclaimed

end System

end Reclaim

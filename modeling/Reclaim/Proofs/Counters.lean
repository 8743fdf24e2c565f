import Reclaim.Proofs.Placement

/-!
# Counters

What the worker of a guard counts, and what the sink of the guard has been told of leaks, agree with
what has happened.

* `History.times` : how often something has happened; `Store.leaksOf` : the leaks of a guard;
* `Gist.Counts` : a guard has counted right; `Act.counts`;
* `System.counts_after` : all guards have, whatever has happened since the start.
-/

namespace Reclaim

/-- How often something has happened, to whichever handle. -/
def History.times (h : History) (m : Mark) : Nat := (h.map Prod.snd).count m

/-- The leak that this was, if it was one of a guard's. -/
def Store.leakOf? (s : Store) (g : GuardId) : HandleId × Mark → Option Address
  | (id, .leaked) => (s.resource? id).bind fun e => if e.guard = g then some e.address else none
  | _ => none

/-- The leaks of a guard, in order. -/
def Store.leaksOf (s : Store) (g : GuardId) (h : History) : List Address :=
  h.filterMap (s.leakOf? g)

/-- What a guard has counted of what its worker did, and the leaks that it has told of. -/
def Gist.tally (x : Gist) : Nat × Nat × Nat × List Address :=
  (x.stats.reclaimed, x.stats.releaseFailures, x.stats.discarded, x.leaks)

/-- A guard has counted what has happened. -/
structure Gist.Counts (x : Gist) (s : Store) (g : GuardId) (h : History) : Prop where
  reclaimed : x.stats.reclaimed = h.times (.settled g false)
  failures : x.stats.releaseFailures = h.times (.settled g true)
  discarded : x.stats.discarded = h.times (.claimed (.reclaim g) false)
  leaks : x.leaks = s.leaksOf g h

theorem History.times_append (h h' : History) (m : Mark) :
    History.times (h ++ h') m = h.times m + h'.times m := by
  simp [times]

@[simp] theorem History.times_singleton (id : HandleId) (m m' : Mark) :
    History.times [(id, m')] m = if m' = m then 1 else 0 := by
  simp [times, List.count_singleton]

theorem Store.leaksOf_append (s : Store) (g : GuardId) (h h' : History) :
    s.leaksOf g (h ++ h') = s.leaksOf g h ++ s.leaksOf g h' :=
  List.filterMap_append

/-- What an interruption throws away is none of this. -/
theorem times_thrownAway (s : Store) (g : GuardId) {m : Mark} (hm : m ≠ .thrown g) :
    (s.thrownAway g).times m = 0 := by
  rw [Store.thrownAway_eq, History.times, List.count_eq_zero]
  intro hin
  simp only [List.map_map, List.mem_map, Function.comp_apply] at hin
  obtain ⟨-, -, rfl⟩ := hin
  exact hm rfl

theorem leaksOf_thrownAway (s s' : Store) (g g' : GuardId) :
    s'.leaksOf g (s.thrownAway g') = [] := by
  rw [Store.thrownAway_eq, Store.leaksOf, List.filterMap_eq_nil_iff]
  rintro ⟨id, m⟩ hin
  obtain ⟨_, _, heq⟩ := List.mem_map.mp hin
  cases heq
  rfl

section Acts
variable {s s' : Store} {src dst spots : Multiset Spot} {h ms : History}

/-- What handles are does not change, so neither do past leaks. -/
theorem Placed.leaksOf (hp : Placed s spots h) (hs : s.Extends s') (g : GuardId) :
    s'.leaksOf g h = s.leaksOf g h := by
  refine List.filterMap_congr ?_
  rintro ⟨id, m⟩ hin
  cases m with
  | leaked =>
    obtain ⟨e, he⟩ : s.Known id := hp.marks id .leaked hin
    obtain ⟨e', he', hl⟩ := hs.entry id e he
    simp only [Store.leakOf?, he, he', Option.bind_some, hl.guard, hl.address]
  | _ => rfl

section Guard
variable {g g' : GuardId} {x x' : Gist} {id : HandleId}

theorem Store.Touches.tally {f : Gist → Gist} (ht : s.Touches s' g' f) (hx : s.gist? g = some x)
    (hx' : s'.gist? g = some x') (hf : ∀ y : Gist, (f y).tally = y.tally) : x'.tally = x.tally := by
  rw [ht.gist_eq hx hx']
  split
  · exact hf x
  · rfl

theorem Store.Claims.tally (hs : s.Claims s' g' id) (hx : s.gist? g = some x)
    (hx' : s'.gist? g = some x') : x'.tally = x.tally := by
  rw [hs.gist_eq hx hx']
  split <;> rfl

variable (hc : x.Counts s g h) (hpast : s'.leaksOf g h = s.leaksOf g h)
include hc hpast

/-- Nothing that a guard counts has happened, and nothing has been counted. -/
theorem Gist.Counts.stay (htally : x'.tally = x.tally)
    (hsettled : ∀ failed, ms.times (.settled g failed) = 0)
    (hclaimed : ms.times (.claimed (.reclaim g) false) = 0) (hms : s'.leaksOf g ms = []) :
    x'.Counts s' g (h ++ ms) := by
  simp only [Gist.tally, Prod.mk.injEq] at htally
  constructor
  · rw [htally.1, History.times_append, hsettled, hc.reclaimed, add_zero]
  · rw [htally.2.1, History.times_append, hsettled, hc.failures, add_zero]
  · rw [htally.2.2.1, History.times_append, hclaimed, hc.discarded, add_zero]
  · rw [htally.2.2.2, Store.leaksOf_append, hms, hpast, hc.leaks, List.append_nil]

/-- A worker counts what it does at its own guard. -/
theorem Gist.Counts.count {f : Stats → Stats} {m : Mark} (ht : s.Touches s' g' (Gist.count f))
    (hx : s.gist? g = some x) (hx' : s'.gist? g = some x') (hm : m ≠ .leaked)
    (hother : g' ≠ g → (∀ failed, m ≠ .settled g failed) ∧ m ≠ .claimed (.reclaim g) false)
    (hreclaimed : (f x.stats).reclaimed =
      x.stats.reclaimed + (if m = .settled g' false then 1 else 0))
    (hfailures : (f x.stats).releaseFailures =
      x.stats.releaseFailures + (if m = .settled g' true then 1 else 0))
    (hdiscarded : (f x.stats).discarded =
      x.stats.discarded + (if m = .claimed (.reclaim g') false then 1 else 0)) :
    x'.Counts s' g (h ++ [(id, m)]) := by
  have hnoleak : s'.leaksOf g [(id, m)] = [] := by
    cases m <;> first | rfl | exact absurd rfl hm
  have heq := ht.gist_eq hx hx'
  by_cases hg : g' = g
  · subst hg
    rw [if_pos rfl] at heq
    subst heq
    constructor
    · rw [History.times_append, History.times_singleton, ← hc.reclaimed]
      exact hreclaimed
    · rw [History.times_append, History.times_singleton, ← hc.failures]
      exact hfailures
    · rw [History.times_append, History.times_singleton, ← hc.discarded]
      exact hdiscarded
    · rw [Store.leaksOf_append, hnoleak, hpast, List.append_nil]
      exact hc.leaks
  · rw [if_neg hg] at heq
    subst heq
    refine hc.stay hpast rfl (fun failed => ?_) ?_ hnoleak
    · rw [History.times_singleton, if_neg ((hother hg).1 failed)]
    · rw [History.times_singleton, if_neg (hother hg).2]

/-- The sink of a handle's own guard is told of its leak. -/
theorem Gist.Counts.leak {e : Entry} (he : s.resource? id = some e)
    (ht : s.Touches s' e.guard (Gist.leak e.address)) (hx : s.gist? g = some x)
    (hx' : s'.gist? g = some x') : x'.Counts s' g (h ++ [(id, .leaked)]) := by
  have he' : s'.resource? id = some e := (ht.entry id).trans he
  have hms : s'.leaksOf g [(id, .leaked)] = if e.guard = g then [e.address] else [] := by
    simp only [Store.leaksOf, List.filterMap_cons, List.filterMap_nil, Store.leakOf?, he',
      Option.bind_some]
    split <;> simp_all
  have heq := ht.gist_eq hx hx'
  by_cases hg : e.guard = g
  · rw [if_pos hg] at heq hms
    subst heq
    constructor
    · rw [History.times_append, History.times_singleton, if_neg (by simp), add_zero]
      exact hc.reclaimed
    · rw [History.times_append, History.times_singleton, if_neg (by simp), add_zero]
      exact hc.failures
    · rw [History.times_append, History.times_singleton, if_neg (by simp), add_zero]
      exact hc.discarded
    · rw [Store.leaksOf_append, hms, hpast, ← hc.leaks]
      rfl
  · rw [if_neg hg] at heq hms
    subst heq
    exact hc.stay hpast rfl (by simp) (by simp) hms

end Guard

/-- An act counts what it does. -/
theorem Act.counts (hp : Placed s spots h) (a : Act s src s' dst ms) {g : GuardId} {x x' : Gist}
    (hx : s.gist? g = some x) (hx' : s'.gist? g = some x') (hc : x.Counts s g h) :
    x'.Counts s' g (h ++ ms) := by
  have hpast := hp.leaksOf a.extends g
  have same : s'.gist? g = s.gist? g → x'.tally = x.tally := fun heq =>
    congrArg Gist.tally (Option.some.inj (hx'.symm.trans (heq.trans hx)))
  cases a with
  | still hs | reach _ hs | report hs =>
    exact hc.stay hpast (same (hs.gist g)) (fun _ => rfl) rfl rfl
  | abort hs => exact hc.stay hpast (same (hs.gist g)) (by simp) (by simp) rfl
  | grant hs | call _ hs | share _ _ _ hs | giveUp _ _ _ hs | rebind _ _ _ hs | use _ _ _ hs =>
    exact hc.stay hpast (same (hs.gist g)) (fun _ => rfl) rfl rfl
  | win _ hs | yield _ hs => exact hc.stay hpast (same (hs.gist g)) (by simp) (by simp) rfl
  | refuse | bind | miss | done => exact hc.stay hpast (same rfl) (fun _ => rfl) rfl rfl
  | number | lose | handBack => exact hc.stay hpast (same rfl) (by simp) (by simp) rfl
  | @found _ g' _ _ hg _ _ _ _ _ _ _ _ hgist =>
    have hne : g ≠ g' := by
      rintro rfl
      rw [hg] at hx
      cases hx
    refine hc.stay hpast (same ?_) (fun _ => rfl) rfl rfl
    rw [hgist, if_neg hne]
  | track hs | register hs | prepare _ hs | inject _ _ _ _ hs =>
    exact hc.stay hpast (hs.tally hx hx' fun _ => rfl) (fun _ => rfl) rfl rfl
  | queue _ _ _ hs | take _ _ _ hs =>
    exact hc.stay hpast (hs.tally hx hx' fun _ => rfl) (by simp) (by simp) rfl
  | claim _ _ hs | reclaim _ _ _ _ hs =>
    exact hc.stay hpast (hs.tally hx hx') (by simp) (by simp) rfl
  | leak he hs => exact hc.leak hpast he hs hx hx'
  | discard _ _ hs =>
    exact hc.count hpast hs hx hx' (by simp) (by simp) (by simp) (by simp) (by simp)
  | succeed hs => exact hc.count hpast hs hx hx' (by simp) (by simp) (by simp) (by simp) (by simp)
  | fail hs => exact hc.count hpast hs hx hx' (by simp) (by simp) (by simp) (by simp) (by simp)
  | @interrupt _ g' hs =>
    exact hc.stay hpast (hs.tally hx hx' fun _ => rfl) (fun _ => times_thrownAway s g' (by simp))
      (times_thrownAway s g' (by simp)) (leaksOf_thrownAway s s' g g')

/-- Nothing has happened at a guard that there is not. -/
theorem Placed.times_eq_zero (hp : Placed s spots h) {g : GuardId} (hg : s.gist? g = none) {m : Mark}
    (hm : ∀ id, m.Placed s id → s.Runs g) : h.times m = 0 := by
  rw [History.times, List.count_eq_zero]
  intro hin
  obtain ⟨⟨id, _⟩, hmem, rfl⟩ := List.mem_map.mp hin
  obtain ⟨x, hx⟩ := hm id (hp.marks id _ hmem)
  rw [hg] at hx
  cases hx

/-- A new guard has counted right. -/
theorem Act.counts_new (hp : Placed s spots h) (a : Act s src s' dst ms) {g : GuardId} {x' : Gist}
    (hg : s.gist? g = none) (hx' : s'.gist? g = some x') : x'.Counts s' g (h ++ ms) := by
  obtain ⟨hfresh, rfl⟩ := a.gist_new hg hx'
  have hown : ∀ id, s.Owns g id → s.Runs g := by
    rintro id ⟨e, he, rfl⟩
    exact hp.entries id e he
  rw [List.append_nil]
  constructor
  · rw [hfresh.stats, hp.times_eq_zero hg (m := .settled g false) hown]
  · rw [hfresh.stats, hp.times_eq_zero hg (m := .settled g true) hown]
  · refine hfresh.stats ▸ (hp.times_eq_zero hg (m := .claimed (.reclaim g) false) ?_).symm
    rintro id ⟨-, x, -, hx, -⟩
    exact ⟨x, hx⟩
  · rw [hfresh.leaks, hp.leaksOf a.extends]
    symm
    rw [Store.leaksOf, List.filterMap_eq_nil_iff]
    rintro ⟨id, m⟩ hin
    cases m with
    | leaked =>
      obtain ⟨e, he⟩ : s.Known id := hp.marks id .leaked hin
      simp only [Store.leakOf?, he, Option.bind_some]
      rw [if_neg]
      rintro rfl
      obtain ⟨x, hx⟩ := hp.entries id e he
      rw [hg] at hx
      cases hx
    | _ => rfl

end Acts

/-- All guards have counted right, whatever has happened since the start. -/
theorem System.counts_after (probes : Array Probe) (environment : Environment) (output : Output)
    (es : List Event) {g : GuardId} {x : Gist}
    (hx : ((boot probes environment output).after es).store.gist? g = some x) :
    x.Counts ((boot probes environment output).after es).store g
      ((boot probes environment output).history es) := by
  have hall := after_induction (boot probes environment output)
    (fun w h => w.Orderly h ∧ ∀ g x, w.store.gist? g = some x → x.Counts w.store g h)
    ⟨orderly_boot probes environment output, fun g x hx => ?_⟩ (fun w h e hw => ?_) es
  · exact hall.2 g x hx
  · simp [boot, Store.gist?, Store.guard?] at hx
  · refine ⟨hw.1.step e, fun g x' hx' => ?_⟩
    obtain ⟨src, dst, hact, -⟩ := hw.1.occur e
    cases hx : w.store.gist? g with
    | none => exact hact.counts_new hw.1.2 hx hx'
    | some x => exact hact.counts hw.1.2 hx hx' (hw.2 g x hx)

end Reclaim

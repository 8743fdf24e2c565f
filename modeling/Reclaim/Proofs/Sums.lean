import Reclaim.Proofs.Counters
import Reclaim.Proofs.Deeds
import Reclaim.Proofs.Membership

/-!
# Sums over a guard

Every counter of a guard moves at some distance from what it counts: a registration is counted after
the registry has changed, a call before the callback runs, an item of the worker after it. The sums
that hold all along have a term for what is in between.

* `Lag`, `Store.lagging` : the spots in between, and how many there are of a guard;
* `Store.callsOf` : what calls have done to the handles of a guard;
* `Gist.Adds` : the sums; `Act.shifts` : what an act does to them;
* `Frame.aborted_deeds`, `Frame.reclaims_deeds` : what a frame gives up and takes, in its
  marks;
* `System.addsUp_after` : the sums of all guards are right, whatever has happened since the start.
-/

namespace Reclaim

/-! ## What is in between -/

/-- Where something of a guard can be that a counter has not caught up with, or that has to come to
its end. -/
inductive Lag where
  /-- A handle is in the registry, but not counted. -/
  | tracked
  /-- A call has claimed a handle, but not counted that. -/
  | winning
  /-- It has counted that, and the callback has not come to its end. -/
  | won
  /-- The worker has taken an item that is about a handle. -/
  | carried
  /-- It has claimed the handle, and is about to say so. -/
  | reporting
  /-- It has said so, and has not counted what became of the callback. -/
  | serving
deriving DecidableEq

/-- Whether a handle was registered with a guard. -/
def Store.owns (s : Store) (g : GuardId) (id : HandleId) : Bool :=
  match s.resource? id with
  | some e => e.guard == g
  | none => false

/-- Where the spot is, as far as a guard goes. -/
def Spot.lag? (s : Store) (g : GuardId) : Spot → Option Lag
  | tracked g' _ => if g' = g then some .tracked else none
  | winning id => if s.owns g id then some .winning else none
  | won id => if s.owns g id then some .won else none
  | carried g' _ => if g' = g then some .carried else none
  | reporting g' _ => if g' = g then some .reporting else none
  | serving g' _ => if g' = g then some .serving else none
  | _ => none

/-- How many of these spots lag behind so, as far as a guard goes. -/
def Store.lagging (s : Store) (g : GuardId) (lag : Lag) (spots : Multiset Spot) : Nat :=
  spots.countP fun y => y.lag? s g = some lag

/-- How often this has happened to the handles of a guard. -/
def Store.callsOf (s : Store) (g : GuardId) (h : History) (m : Mark) : Nat :=
  h.countP fun y => y.2 = m ∧ s.owns g y.1 = true

section Sums
variable {s s' : Store} {g : GuardId}

theorem Store.owns_of_eq {id : HandleId} {e : Entry} (he : s.resource? id = some e) :
    s.owns g id = (e.guard == g) := by
  simp only [owns, he]

theorem Store.Extends.owns_eq (hs : s.Extends s') {id : HandleId} (hid : s.Known id) :
    s'.owns g id = s.owns g id := by
  obtain ⟨e, he⟩ := hid
  obtain ⟨e', he', hl⟩ := hs.entry id e he
  rw [Store.owns_of_eq he, Store.owns_of_eq he', hl.guard]

theorem Spot.Placed.lag_eq (hs : s.Extends s') {x : Spot} (hx : x.Placed s) :
    x.lag? s' g = x.lag? s g := by
  cases x with
  | winning id | won id =>
    have hid : s'.owns g id = s.owns g id := hs.owns_eq hx
    simp only [lag?, hid]
  | _ => rfl

/-- Handles keep their guards, so old spots stay where they are. -/
theorem Store.Extends.lagging_eq (hs : s.Extends s') {spots : Multiset Spot}
    (hspots : ∀ x ∈ spots, x.Placed s) (lag : Lag) :
    s'.lagging g lag spots = s.lagging g lag spots := by
  refine Multiset.countP_congr rfl fun x hx => ?_
  rw [(hspots x hx).lag_eq hs]

/-- So does what has happened. -/
theorem Placed.callsOf_eq {spots : Multiset Spot} {h : History} (hp : Placed s spots h)
    (hs : s.Extends s') (m : Mark) : s'.callsOf g h m = s.callsOf g h m := by
  refine List.countP_congr fun y hy => ?_
  obtain ⟨id, m'⟩ := y
  have hid : s'.owns g id = s.owns g id := hs.owns_eq (hp.marks id m' hy).known
  simp only [hid]

theorem Store.callsOf_append (s : Store) (g : GuardId) (h h' : History) (m : Mark) :
    s.callsOf g (h ++ h') m = s.callsOf g h m + s.callsOf g h' m := List.countP_append

@[simp] theorem Store.callsOf_nil (s : Store) (g : GuardId) (m : Mark) : s.callsOf g [] m = 0 := rfl

@[simp] theorem Store.callsOf_singleton (s : Store) (g : GuardId) (id : HandleId) (m m' : Mark) :
    s.callsOf g [(id, m')] m = if m' = m ∧ s.owns g id = true then 1 else 0 := by
  simp [Store.callsOf, List.countP_cons]

@[simp] theorem History.times_nil (m : Mark) : History.times [] m = 0 := rfl

@[simp] theorem Store.lagging_zero (s : Store) (g : GuardId) (lag : Lag) : s.lagging g lag 0 = 0 := rfl

@[simp] theorem Store.lagging_cons (s : Store) (g : GuardId) (lag : Lag) (x : Spot)
    (xs : Multiset Spot) : s.lagging g lag (x ::ₘ xs) =
      s.lagging g lag xs + if x.lag? s g = some lag then 1 else 0 := by
  rw [Store.lagging, Multiset.countP_cons]
  rfl

@[simp] theorem Store.lagging_singleton (s : Store) (g : GuardId) (lag : Lag) (x : Spot) :
    s.lagging g lag {x} = if x.lag? s g = some lag then 1 else 0 := by
  rw [← Multiset.cons_zero, lagging_cons, lagging_zero, Nat.zero_add]

theorem Store.lagging_add (s : Store) (g : GuardId) (lag : Lag) (xs ys : Multiset Spot) :
    s.lagging g lag (xs + ys) = s.lagging g lag xs + s.lagging g lag ys := Multiset.countP_add ..

/-- A handle that nobody holds lags behind nothing. -/
@[simp] theorem Store.lagging_dropped (s : Store) (g : GuardId) (lag : Lag) (c : Prop) [Decidable c]
    (id : HandleId) : s.lagging g lag (if c then {.dropped id} else 0) = 0 := by
  split <;> simp [Spot.lag?]

/-! ## The sums -/

/-- The sums of a guard: its counters and its registry on one side, what has happened on the other,
and what is in between. -/
structure Gist.Adds (x : Gist) (s : Store) (g : GuardId) (spots : Multiset Spot) (h : History) : Prop where
  registered : x.stats.registered + s.lagging g .tracked spots =
    x.registry.size + s.callsOf g h (.claimed .release true) +
      h.times (.claimed (.reclaim g) true)
  released : x.stats.released + s.lagging g .winning spots =
    s.callsOf g h (.claimed .release true)
  returned : s.callsOf g h (.claimed .release true) =
    s.lagging g .winning spots + s.lagging g .won spots + s.callsOf g h (.returned true)
  served : h.times (.claimed (.reclaim g) true) = s.lagging g .reporting spots +
    s.lagging g .serving spots + x.stats.reclaimed + x.stats.releaseFailures + h.times (.aborted g)
  taken : h.times (.taken g) = s.lagging g .carried spots +
    h.times (.claimed (.reclaim g) true) + h.times (.claimed (.reclaim g) false)

/-- What an act does to the sums of a guard. -/
structure Gist.Shifts (x x' : Gist) (s' : Store) (g : GuardId) (src dst : Multiset Spot)
    (ms : History) : Prop where
  registered : x'.stats.registered + s'.lagging g .tracked dst + x.registry.size =
    x.stats.registered + s'.lagging g .tracked src + x'.registry.size +
      s'.callsOf g ms (.claimed .release true) + ms.times (.claimed (.reclaim g) true)
  released : x'.stats.released + s'.lagging g .winning dst =
    x.stats.released + s'.lagging g .winning src + s'.callsOf g ms (.claimed .release true)
  returned : s'.callsOf g ms (.claimed .release true) + s'.lagging g .winning src +
    s'.lagging g .won src =
      s'.lagging g .winning dst + s'.lagging g .won dst + s'.callsOf g ms (.returned true)
  served : ms.times (.claimed (.reclaim g) true) + s'.lagging g .reporting src +
    s'.lagging g .serving src + x.stats.reclaimed + x.stats.releaseFailures =
      s'.lagging g .reporting dst + s'.lagging g .serving dst + x'.stats.reclaimed +
        x'.stats.releaseFailures + ms.times (.aborted g)
  taken : ms.times (.taken g) + s'.lagging g .carried src =
    s'.lagging g .carried dst + ms.times (.claimed (.reclaim g) true) +
      ms.times (.claimed (.reclaim g) false)

/-- Whether something that has happened to a handle can be in a sum of a guard. -/
def Mark.adds (g : GuardId) : Mark → Bool
  | claimed .release won | returned won => won
  | claimed (.reclaim g') _ | taken g' | aborted g' => g' = g
  | _ => false

/-- What the sums of a guard have of the guard itself. -/
def Gist.terms (x : Gist) : Nat × Nat × Nat × Nat × Nat :=
  (x.registry.size, x.stats.registered, x.stats.released, x.stats.reclaimed,
    x.stats.releaseFailures)

variable {src dst spots : Multiset Spot} {h ms : History} {x x' : Gist}

/-- Nothing moves. -/
theorem Gist.Shifts.idle (hterms : x'.terms = x.terms)
    (hlag : ∀ lag, s'.lagging g lag dst = s'.lagging g lag src)
    (hms : ∀ y ∈ ms, y.2.adds g = false) :
    x.Shifts x' s' g src dst ms := by
  have hcalls : ∀ m : Mark, m.adds g = true → s'.callsOf g ms m = 0 := by
    refine fun m hm => List.countP_eq_zero.mpr fun y hy => ?_
    have := hms y hy
    grind
  have htimes : ∀ m : Mark, m.adds g = true → ms.times m = 0 := by
    refine fun m hm => List.count_eq_zero.mpr fun hin => ?_
    obtain ⟨y, hy, rfl⟩ := List.mem_map.mp hin
    simp [hms y hy] at hm
  simp only [Gist.terms, Prod.mk.injEq] at hterms
  obtain ⟨hsize, hregistered, hreleased, hreclaimed, hfailures⟩ := hterms
  have hclaimed := hcalls (.claimed .release true) rfl
  have hreturned := hcalls (.returned true) rfl
  have htaken := htimes (.taken g) (by simp [Mark.adds])
  have habortions := htimes (.aborted g) (by simp [Mark.adds])
  have hreclaims := fun won => htimes (.claimed (.reclaim g) won) (by simp [Mark.adds])
  constructor <;>
    simp only [hlag, hclaimed, hreturned, htaken, habortions, hreclaims] <;> omega

theorem Store.Touches.terms_eq {g' : GuardId} {f : Gist → Gist} (ht : s.Touches s' g' f)
    (hx : s.gist? g = some x) (hx' : s'.gist? g = some x') (hf : ∀ y : Gist, (f y).terms = y.terms) :
    x'.terms = x.terms := by
  rw [ht.gist_eq hx hx']
  split
  · exact hf x
  · rfl

@[simp] theorem Gist.erase_stats (x : Gist) (id : HandleId) : (x.erase id).stats = x.stats := rfl

@[simp] theorem Gist.count_stats (x : Gist) (f : Stats → Stats) : (x.count f).stats = f x.stats := rfl

@[simp] theorem Gist.count_registry (x : Gist) (f : Stats → Stats) :
    (x.count f).registry = x.registry := rfl

/-- A handle leaves the registry of a guard. -/
theorem Gist.erase_size {id : HandleId} (hid : id ∈ x.registry.ids) :
    (x.erase id).registry.size + 1 = x.registry.size := by
  simp only [Gist.erase, Registry.erase, Registry.size, List.length_erase_of_mem hid]
  have := List.length_pos_of_mem hid
  omega

/-- What every act does to the sums of a guard. -/
theorem Act.shifts (a : Act s src s' dst ms) (hx : s.gist? g = some x) (hx' : s'.gist? g = some x')
    (hlisted : ∀ id e, .asking id ∈ src → s.resource? id = some e → e.state = .active →
      e.guard = g → id ∈ x.registry.ids) :
    x.Shifts x' s' g src dst ms := by
  have same : s'.gist? g = s.gist? g → x'.terms = x.terms := fun heq =>
    congrArg Gist.terms (Option.some.inj (hx'.symm.trans (heq.trans hx)))
  have howns : ∀ id e, s.resource? id = some e → s'.owns g id = (e.guard == g) := by
    intro id e he
    rw [a.extends.owns_eq ⟨e, he⟩, Store.owns_of_eq he]
  cases a with
  | still hs => exact .idle (same (hs.gist g)) (fun _ => rfl) nofun
  | reach _ hs hspot =>
    refine .idle (same (hs.gist g)) ?_ nofun
    rcases hspot with rfl | rfl <;> simp [Spot.lag?]
  | @found _ g' _ _ hg _ _ _ _ _ _ _ _ hgist _ hspot =>
    have hne : g ≠ g' := by
      rintro rfl
      rw [hg] at hx
      cases hx
    refine .idle (same (by rw [hgist, if_neg hne])) ?_ nofun
    rcases hspot with rfl | rfl <;> simp [Spot.lag?]
  | grant hs | call _ hs | share _ _ _ hs | use _ _ _ hs =>
    exact .idle (same (hs.gist g)) (by simp [Spot.lag?]) nofun
  | giveUp _ _ _ hs | rebind _ _ _ hs =>
    exact .idle (same (hs.gist g)) (by simp [Spot.lag?, Entry.leaving]) nofun
  | refuse | bind | miss | done | number | lose | handBack =>
    exact .idle (same rfl) (by simp [Spot.lag?]) (by simp [Mark.adds])
  | yield _ hs => exact .idle (same (hs.gist g)) (by simp [Spot.lag?]) (by simp [Mark.adds])
  | queue _ _ _ hs | inject _ _ _ _ hs | leak _ hs =>
    exact .idle (hs.terms_eq hx hx' fun _ => rfl) (by simp [Spot.lag?]) (by simp [Mark.adds])
  | @interrupt _ g' hs =>
    refine .idle (hs.terms_eq hx hx' fun _ => rfl) (fun _ => rfl) ?_
    rw [Store.thrownAway_eq]
    rintro _ hin
    obtain ⟨id, -, rfl⟩ := List.mem_map.mp hin
    rfl
  | @track _ g' _ hs =>
    obtain rfl := hs.gist_eq hx hx'
    by_cases hg : g' = g <;> constructor <;>
      simp [hg, Spot.lag?, Gist.insert, Registry.insert, Registry.size]
    omega
  | @register _ g' _ hs =>
    obtain rfl := hs.gist_eq hx hx'
    by_cases hg : g' = g <;> constructor <;> simp [hg, Spot.lag?]
  | @claim _ id e he hactive hs =>
    obtain rfl := hs.gist_eq hx hx'
    by_cases hg : e.guard = g
    · have hsize := Gist.erase_size (hlisted id e (by simp) he hactive hg)
      constructor <;> simp [hg, howns id e he, Spot.lag?]
      omega
    · constructor <;> simp [hg, howns id e he, Spot.lag?]
  | @prepare _ id e he hs =>
    obtain rfl := hs.gist_eq hx hx'
    by_cases hg : e.guard = g <;> constructor <;>
      simp [hg, howns id e he, Spot.lag?]
  | @win _ id e he hs =>
    obtain rfl := Option.some.inj (hx'.symm.trans ((hs.gist g).trans hx))
    by_cases hg : e.guard = g <;> constructor <;>
      simp [hg, howns id e he, Spot.lag?]
  | @take _ g' _ _ _ _ _ _ hs =>
    have hterms := hs.terms_eq hx hx' fun _ => rfl
    simp only [Gist.terms, Prod.mk.injEq] at hterms
    by_cases hg : g' = g <;> constructor <;> simp [hg, hterms, Spot.lag?]
  | @reclaim _ g' id e y he _ hy hin hs =>
    obtain rfl := hs.gist_eq hx hx'
    by_cases hg : g' = g
    · obtain rfl : y = x := Option.some.inj (hy.symm.trans (hg ▸ hx))
      have hsize := Gist.erase_size hin
      constructor <;> simp [hg, Spot.lag?]
      omega
    · constructor <;> simp [hg, Spot.lag?]
  | @discard _ g' _ _ _ _ hs =>
    obtain rfl := hs.gist_eq hx hx'
    by_cases hg : g' = g <;> constructor <;> simp [hg, Spot.lag?]
  | @report _ g' _ hs | @abort _ g' _ hs =>
    obtain rfl := Option.some.inj (hx'.symm.trans ((hs.gist g).trans hx))
    by_cases hg : g' = g <;> constructor <;> simp [hg, Spot.lag?] <;> omega
  | @succeed _ g' _ hs | @fail _ g' _ hs =>
    obtain rfl := hs.gist_eq hx hx'
    by_cases hg : g' = g <;> constructor <;> simp [hg, Spot.lag?]
    omega

/-- What an act does to the sums is right, so the sums stay right. -/
theorem Gist.Adds.shift {spots' : Multiset Spot} (hadds : x.Adds s g spots h) (hp : Placed s spots h)
    (hs : s.Extends s') (hspots : spots' + src = spots + dst) (hshifts : x.Shifts x' s' g src dst ms) :
    x'.Adds s' g spots' (h ++ ms) := by
  have hlag : ∀ lag, s'.lagging g lag spots' + s'.lagging g lag src =
      s.lagging g lag spots + s'.lagging g lag dst := fun lag => by
    rw [← Store.lagging_add, hspots, Store.lagging_add, hs.lagging_eq hp.spots]
  have htracked := hlag .tracked
  have hwinning := hlag .winning
  have hwon := hlag .won
  have hcarried := hlag .carried
  have hreporting := hlag .reporting
  have hserving := hlag .serving
  obtain ⟨h₁, h₂, h₃, h₄, h₅⟩ := hadds
  obtain ⟨d₁, d₂, d₃, d₄, d₅⟩ := hshifts
  constructor <;> simp only [Store.callsOf_append, History.times_append, hp.callsOf_eq hs] <;> omega

/-- A guard that there is not has no handles, -/
theorem Placed.owns_eq_false (hp : Placed s spots h) (hg : s.gist? g = none) (id : HandleId) :
    s.owns g id = false := by
  unfold Store.owns
  split
  · next e he =>
    refine beq_eq_false_iff_ne.mpr ?_
    rintro rfl
    obtain ⟨y, hy⟩ := hp.entries id e he
    rw [hg] at hy
    cases hy
  · rfl

/-- no calls, -/
theorem Placed.callsOf_eq_zero (hp : Placed s spots h) (hg : s.gist? g = none) (m : Mark) :
    s.callsOf g h m = 0 :=
  List.countP_eq_zero.mpr fun y _ => by simp [hp.owns_eq_false hg]

/-- and nothing that lags behind. -/
theorem Placed.lagging_eq_zero (hp : Placed s spots h) (hg : s.gist? g = none) (lag : Lag) :
    s.lagging g lag spots = 0 := by
  have hruns : ∀ g', s.Runs g' → g' ≠ g := by
    rintro g' ⟨y, hy⟩ rfl
    rw [hg] at hy
    cases hy
  refine Multiset.countP_eq_zero.mpr fun y hy => ?_
  have hplaced := hp.spots y hy
  cases y with
  | tracked g' id | reporting g' id | serving g' id =>
    obtain ⟨e, he, rfl⟩ := hplaced
    simp [Spot.lag?, hruns _ (hp.entries id e he)]
  | carried g' id =>
    obtain ⟨-, x, -, hx, -⟩ := hplaced
    simp [Spot.lag?, hruns _ ⟨x, hx⟩]
  | _ => simp [Spot.lag?, hp.owns_eq_false hg]

/-- A new guard has nothing to add up. -/
theorem Act.adds_new (hp : Placed s spots h) (a : Act s src s' dst ms) {spots' : Multiset Spot}
    (hspots : spots' + src = spots + dst) (hg : s.gist? g = none) (hx' : s'.gist? g = some x') :
    x'.Adds s' g spots' (h ++ ms) := by
  obtain ⟨y, hy, -⟩ | ⟨-, hfresh, rfl, rfl, hdst⟩ := a.gist_cases hx'
  · rw [hg] at hy
    cases hy
  have hlag : ∀ lag, s'.lagging g lag spots' = 0 := fun lag => by
    have hnew : s'.lagging g lag dst = 0 := by rcases hdst with rfl | rfl <;> simp [Spot.lag?]
    rw [add_zero] at hspots
    rw [hspots, Store.lagging_add, hnew, a.extends.lagging_eq hp.spots, hp.lagging_eq_zero hg]
  have hcalls : ∀ m, s'.callsOf g h m = 0 := fun m => by
    rw [hp.callsOf_eq a.extends, hp.callsOf_eq_zero hg]
  have hclaimed : h.times (.claimed (.reclaim g) true) = 0 := by
    refine hp.times_eq_zero hg ?_
    rintro id ⟨e, he, rfl⟩
    exact hp.entries id e he
  have hlost : h.times (.claimed (.reclaim g) false) = 0 := by
    refine hp.times_eq_zero hg ?_
    rintro id ⟨-, y, -, hy, -⟩
    exact ⟨y, hy⟩
  have haborted : h.times (.aborted g) = 0 := by
    refine hp.times_eq_zero hg ?_
    rintro id ⟨e, he, rfl⟩
    exact hp.entries id e he
  have htaken : h.times (.taken g) = 0 := by
    refine hp.times_eq_zero hg ?_
    rintro id ⟨-, y, -, hy, -⟩
    exact ⟨y, hy⟩
  rw [List.append_nil]
  constructor <;>
    simp [hlag, hcalls, hclaimed, hlost, haborted, htaken, hfresh.registry, hfresh.stats, Registry.size]

end Sums

/-! ## Deeds in the sums -/

/-- The handles to which something has happened, in order. -/
def History.handles (h : History) (m : Mark) : List HandleId :=
  (h.filter fun x => x.2 = m).map Prod.fst

theorem History.handles_append (h h' : History) (m : Mark) :
    handles (h ++ h') m = h.handles m ++ h'.handles m := by
  rw [handles, List.filter_append, List.map_append, handles, handles]

theorem History.length_handles (h : History) (m : Mark) : (h.handles m).length = h.times m := by
  rw [handles, List.length_map, times, List.count, List.countP_map, List.countP_eq_length_filter]
  rfl

theorem History.count_handles (h : History) (m : Mark) (id : HandleId) :
    (h.handles m).count id = h.count (id, m) := by
  rw [handles, List.count, List.countP_map, List.countP_filter, List.count]
  refine List.countP_congr fun x _ => ?_
  simp [Prod.ext_iff]

/-- The handles among the items that the source of a guard has handed to the worker, in order. -/
def Trace.reclaims (tr : Trace) (g : GuardId) : List HandleId := (tr.delivered g).filterMap Item.id?

theorem Trace.reclaims_append (tr tr' : Trace) (g : GuardId) :
    reclaims (tr ++ tr') g = tr.reclaims g ++ tr'.reclaims g := by
  rw [reclaims, delivered_append, List.filterMap_append, reclaims, reclaims]

/-- Whether something done is neither an item handed out nor the news of a handle that was not closed. -/
def Deed.isPlain (d : Deed) : Bool := !d.isNews && d.delivered?.isNone

theorem Deed.isNews_of_abort {d : Deed} (hd : d.isAbort = true) : d.isNews = true := by
  unfold isAbort at hd
  split at hd
  · rfl
  · cases hd

theorem Trace.aborted_of_plain {tr : Trace} (htr : ∀ d ∈ tr, d.isPlain = true) (g : GuardId) :
    tr.aborted g = 0 := by
  refine List.countP_eq_zero.mpr fun d hd => ?_
  have := htr d (List.mem_filter.mp hd).1
  grind [Deed.isPlain, Deed.isNews_of_abort]

theorem Trace.reclaims_of_plain {tr : Trace} (htr : ∀ d ∈ tr, d.isPlain = true) (g : GuardId) :
    tr.reclaims g = [] := by
  have hnone : tr.delivered g = [] := List.filterMap_eq_nil_iff.mpr fun d hd => by
    have hplain := htr d (List.mem_filter.mp hd).1
    rw [Deed.isPlain, Bool.and_eq_true] at hplain
    exact Option.isNone_iff_eq_none.mp hplain.2
  rw [reclaims, hnone]
  rfl

theorem Store.plain_accepts (s : Store) (g : GuardId) (item : Item) :
    ∀ d ∈ s.accepts g item, d.isPlain = true := by
  unfold accepts
  split <;> simp [Deed.isPlain, Deed.isNews, Deed.delivered?]

theorem Store.plain_tells (s : Store) (g : GuardId) (about : Option HandleId) {d : Diagnostic}
    (hd : d.kind ≠ .notProperlyClosed) : ∀ x ∈ s.tells g about d, x.isPlain = true := by
  cases d <;> simp_all [tells, Deed.isPlain, Deed.isNews, Deed.delivered?, Diagnostic.kind]

theorem Progress.plain_ends (p : Progress) (path : Path) (id : HandleId) :
    ∀ d ∈ p.ends path id, d.isPlain = true := by
  cases p <;> simp [ends, Deed.isPlain, Deed.isNews, Deed.delivered?]

/-- Items are handed out to a worker that looks for one, and the news of a handle comes from a worker that
is about to say what it found. -/
theorem Frame.plain_deeds (s : Store) (path : Path) (p : Progress) {frame : Frame}
    (hpolling : ∀ g, frame ≠ .worker g .polling)
    (hreporting : ∀ g id, frame ≠ .worker g (.reporting id)) :
    ∀ d ∈ frame.deeds s path p, d.isPlain = true := by
  unfold deeds
  split
  · split
    · exact s.plain_accepts _ _
    · nofun
  · exact List.forall_mem_cons.mpr ⟨rfl, p.plain_ends _ _⟩
  · exact p.plain_ends _ _
  · split
    · exact s.plain_accepts _ _
    · nofun
  · split
    · exact s.plain_tells _ _ (by simp [Diagnostic.kind])
    · nofun
  · exact s.plain_accepts _ _
  · exact absurd rfl (hpolling _)
  · split
    · nofun
    · simp [Deed.isPlain, Deed.isNews, Deed.delivered?]
  · exact absurd rfl (hreporting _ _)
  · split
    · exact s.plain_tells _ _ (by cases ‹Option Panic› <;> simp [Entry.announcement, Diagnostic.kind])
    · nofun
  · exact s.plain_tells _ _ (by simp [Diagnostic.kind])
  · nofun

/-- Nobody takes a handle but a worker that looks for an item, and no item is given up but by one that says
what it found. -/
theorem Frame.times_marks (s : Store) (g : GuardId) {frame : Frame} :
    ((∀ g, frame ≠ .worker g .polling) → (frame.marks s).times (.taken g) = 0) ∧
      ((∀ g id, frame ≠ .worker g (.reporting id)) → (frame.marks s).times (.aborted g) = 0) := by
  have hthrown : ∀ g', (s.thrownAway g').times (.taken g) = 0 ∧ (s.thrownAway g').times (.aborted g) = 0 :=
    fun g' => ⟨times_thrownAway s g' (by simp), times_thrownAway s g' (by simp)⟩
  unfold marks
  split
  · unfold Command.marks
    repeat' split
    all_goals first
      | exact ⟨fun _ => (hthrown _).1, fun _ => (hthrown _).2⟩
      | exact ⟨fun _ => rfl, fun _ => rfl⟩
  · split <;> simp
  · simp
  · rw [Store.returnedBy_lost]
    simp
  · rw [Store.returnedBy_ran]
    simp
  · unfold Store.dropMark
    repeat' split
    all_goals simp
  · simp
  · exact ⟨fun _ => (hthrown _).1, fun _ => (hthrown _).2⟩
  · refine ⟨fun h => absurd rfl (h _), fun _ => ?_⟩
    unfold Store.takenBy
    split <;> simp
  · simp
  · refine ⟨fun _ => ?_, fun h => absurd rfl (h _ _)⟩
    unfold Store.abortedBy
    repeat' split
    all_goals simp
  · simp
  · exact ⟨fun _ => (hthrown _).1, fun _ => (hthrown _).2⟩
  · exact ⟨fun _ => rfl, fun _ => rfl⟩

/-- The worker gives up an item exactly when its sink panics at what it found. -/
theorem Frame.aborted_deeds (s : Store) (path : Path) (p : Progress) (g : GuardId) (frame : Frame) :
    (frame.deeds s path p).aborted g = (frame.marks s).times (.aborted g) := by
  by_cases hreporting : ∃ g' id, frame = .worker g' (.reporting id)
  · obtain ⟨g', id, rfl⟩ := hreporting
    simp only [deeds, marks, Store.abortedBy]
    cases s.resource? id with
    | none => rfl
    | some e =>
      simp only [Store.tells]
      generalize (s.emit g' (.notProperlyClosed e.address)).2.isSome = panicked
      by_cases hg : g' = g <;> cases panicked <;>
        simp [Trace.aborted, Trace.of, Deed.guard?, Deed.isAbort, History.times, hg]
  · have hreporting : ∀ g' id, frame ≠ .worker g' (.reporting id) := fun g' id h =>
      hreporting ⟨g', id, h⟩
    rw [(times_marks s g).2 hreporting]
    by_cases hpolling : ∃ g', frame = .worker g' .polling
    · obtain ⟨g', rfl⟩ := hpolling
      simp only [deeds, Store.handsOut]
      split
      · simp [Trace.aborted, Trace.of, Deed.isAbort, List.countP_filter]
      · rfl
    · exact Trace.aborted_of_plain
        (plain_deeds s path p (fun g' h => hpolling ⟨g', h⟩) hreporting) g

/-- Every handle that is handed out is taken. -/
theorem Frame.reclaims_deeds (s : Store) (path : Path) (p : Progress) (g : GuardId) (frame : Frame) :
    (frame.deeds s path p).reclaims g = (frame.marks s).handles (.taken g) := by
  by_cases hpolling : ∃ g', frame = .worker g' .polling
  · obtain ⟨g', rfl⟩ := hpolling
    simp only [deeds, Store.handsOut, marks, Store.takenBy]
    cases (s.pollNext g').2 with
    | item item =>
      by_cases hg : g' = g <;> cases item <;>
        simp [Trace.reclaims, Trace.delivered, Trace.outs, Trace.of, Deed.guard?, Deed.delivered?,
          Item.id?, History.handles, hg]
    | _ => rfl
  · have hpolling : ∀ g', frame ≠ .worker g' .polling := fun g' h => hpolling ⟨g', h⟩
    have hnone := (times_marks s g).1 hpolling
    rw [← History.length_handles, List.length_eq_zero_iff] at hnone
    rw [hnone]
    by_cases hreporting : ∃ g' id, frame = .worker g' (.reporting id)
    · obtain ⟨g', id, rfl⟩ := hreporting
      simp only [deeds]
      split
      · by_cases hg : g' = g <;>
          simp [Trace.reclaims, Trace.delivered, Trace.outs, Store.tells, Trace.of, Deed.guard?,
            Deed.delivered?, hg]
      · rfl
    · exact Trace.reclaims_of_plain
        (plain_deeds s path p hpolling fun g' id h => hreporting ⟨g', id, h⟩) g

/-! ## All systems -/

namespace System
variable {w : System} {h : History} {tr : Trace} {g : GuardId} {x : Gist}

/-- The sums of every guard are right, every handle that a worker has taken was handed out, and every item
that it has given up was given up because the sink panicked. -/
structure AddsUp (w : System) (h : History) (tr : Trace) : Prop where
  adds : ∀ g x, w.store.gist? g = some x → x.Adds w.store g w.spots h
  aborted : ∀ g, tr.aborted g = h.times (.aborted g)
  taken : ∀ g, tr.reclaims g = h.handles (.taken g)

/-- What an event does, seen from the sums of a guard. -/
theorem Orderly.occur_deeds (hw : w.Orderly h) (e : Event) :
    ∃ src dst, Act w.store src (w.occur e).store dst (w.marks e) ∧ src ⊆ w.spots ∧
      (w.occur e).spots + src = w.spots + dst ∧
      (∀ g, (w.deeds e).aborted g = (w.marks e).times (.aborted g)) ∧
      ∀ g, (w.deeds e).reclaims g = (w.marks e).handles (.taken g) := by
  obtain ⟨t, frame, rfl, ht⟩ | ⟨hidles, hmarks, hacting⟩ := occur_cases hw.1 e
  · obtain ⟨hsub, hoccur, hstore, hact, -⟩ := acts_acting hw.2.spots ht
    have hspots := spots_act hw.1 ht
    rw [hoccur]
    simp only [marks, deeds, ht]
    exact ⟨_, _, hstore ▸ hact, hsub, hspots,
      fun g => Frame.aborted_deeds _ _ _ g frame,
      fun g => Frame.reclaims_deeds _ _ _ g frame⟩
  · have hplain : ∀ d ∈ w.deeds e, d.isPlain = true := by
      cases e with
      | move m =>
        cases m with
        | act t => simp [deeds, hacting t rfl]
        | expire t => simp [deeds]
      | inject g id =>
        simp only [deeds]
        split
        · exact w.store.plain_accepts _ _
        · simp
      | _ => simp [deeds]
    refine ⟨0, 0, hmarks ▸ hidles.act, Multiset.zero_subset _, by rw [hidles.spots], fun g => ?_,
      fun g => ?_⟩
    · rw [Trace.aborted_of_plain hplain, hmarks]
      rfl
    · rw [Trace.reclaims_of_plain hplain, hmarks]
      rfl

theorem AddsUp.step (ha : w.AddsUp h tr) (hw : w.Orderly h) (hr : w.Regular h) (e : Event) :
    (w.occur e).AddsUp (h ++ w.marks e) (tr ++ w.deeds e) := by
  obtain ⟨src, dst, hact, hsrc, hspots, haborted, hreclaims⟩ := hw.occur_deeds e
  refine ⟨fun g x' hx' => ?_, fun g => ?_, fun g => ?_⟩
  · cases hx : w.store.gist? g with
    | none => exact hact.adds_new hw.2 hspots hx hx'
    | some x =>
      refine (ha.adds g x hx).shift hw.2 hact.extends hspots (hact.shifts hx hx' ?_)
      intro id e he hentry hactive hg
      exact (hw.mem_registry hr hx).mpr
        ⟨e, hentry, hg, hactive, hw.entered hr g (.inr (hsrc he))⟩
  · rw [Trace.aborted_append, History.times_append, ha.aborted, haborted]
  · rw [Trace.reclaims_append, History.handles_append, ha.taken, hreclaims]

/-- All sums are right, whatever has happened since the start. -/
theorem addsUp_after (probes : Array Probe) (environment : Environment) (output : Output)
    (es : List Event) : ((boot probes environment output).after es).AddsUp
      ((boot probes environment output).history es) ((boot probes environment output).trace es) := by
  induction es using List.reverseRecOn with
  | nil =>
    refine ⟨fun g x hx => ?_, fun _ => rfl, fun _ => rfl⟩
    simp [after, boot, Store.gist?, Store.guard?] at hx
  | append_singleton es e ih =>
    rw [after_snoc, history_snoc, trace_snoc]
    exact ih.step (orderly_after probes environment output es)
      (regular_after probes environment output es) e

end System

end Reclaim

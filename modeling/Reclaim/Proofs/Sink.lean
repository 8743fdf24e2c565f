import Reclaim.Proofs.Sites
import Reclaim.Proofs.Sums

/-!
# Sinks that panic

A worker that has claimed a handle first tells the sink of its guard, and only then runs the callback.
If the sink panics at that, the handle is released and the callback never runs; if it does not, the
callback runs once and is counted once, whatever else the sink panics at. When a sink panics is its own
matter, which may go by all that it was told before.

* `Site.Candid` : what a sink was told, and when it panicked;
* `Deed.isNewsOf`, `Frame.news_deeds`, `System.Told` : the worker tells the sink of every handle that it
  has claimed, once;
* `System.Reclaimed` : what a worker makes of a handle that it has claimed;
* `System.reclaims_unless_sink_panics`.
-/

namespace Reclaim

/-! ## When sinks panic -/

namespace Site
variable {s s' : Store} {ms : History} {g : GuardId} {a a' : Site} {tr ds : Trace}

/-- A step says nothing, or one thing, at which the sink panics or not after all that it was told before.
What is news of a handle gives its address. -/
theorem Step.tells (hs : a.Step s ms g ds a') : (∀ d ∈ ds, d.said? = none) ∨
    ∃ about x, ds = [.said g about x (a.config.sink.panicsAt a.said x)] ∧
      ∀ address, x = .notProperlyClosed address →
        ∃ id e, about = some id ∧ s.resource? id = some e ∧ e.address = address := by
  have quiet : ∀ {about x}, x.kind ≠ .notProperlyClosed → ds = [.said g about x (a.config.sink.panicsAt a.said x)] →
      (∀ d ∈ ds, d.said? = none) ∨ ∃ about x, ds = [.said g about x (a.config.sink.panicsAt a.said x)] ∧
        ∀ address, x = .notProperlyClosed address →
          ∃ id e, about = some id ∧ s.resource? id = some e ∧ e.address = address :=
    fun hx hds => .inr ⟨_, _, hds, fun _ hnews => absurd (congrArg Diagnostic.kind hnews) hx⟩
  cases hs with
  | visit hv =>
    cases hv with
    | leak => exact quiet (by simp [Diagnostic.kind]) rfl
    | _ => exact .inl (by simp [Deed.said?])
  | chore hc =>
    generalize a.stage = stage at hc
    cases hc with
    | report he hsink | abort he hsink =>
      refine .inr ⟨_, _, by rw [hsink], ?_⟩
      rintro _ ⟨⟩
      exact ⟨_, _, rfl, he, rfl⟩
    | @announce _ e panic _ hsink | @balk _ e panic _ _ hsink =>
      refine quiet ?_ (by rw [hsink])
      cases panic <;> simp [Entry.announcement, Diagnostic.kind]
    | farewell => exact quiet (by simp [Diagnostic.kind]) rfl
    | _ => exact .inl (by simp [Deed.said?])

/-- The sink panicked at what it was told exactly when that makes it panic after all that it was told
before, and the news of a handle gave its address. -/
structure Candid (s : Store) (g : GuardId) (a : Site) (tr : Trace) : Prop where
  said : a.said = tr.words
  flags : ∀ (told : Trace) about x panicked later, tr = told ++ .said g about x panicked :: later →
    panicked = a.config.sink.panicsAt told.words x
  news : ∀ about address panicked, .said g about (.notProperlyClosed address) panicked ∈ tr →
    ∃ id e, about = some id ∧ s.resource? id = some e ∧ e.address = address

theorem Candid.fresh (ha : a.Fresh) : a.Candid s g [] :=
  ⟨ha.said, by simp, nofun⟩

theorem Candid.later (h : a.Candid s g tr) (hext : s.Extends s') : a.Candid s' g tr := by
  refine ⟨h.said, h.flags, fun about address panicked hin => ?_⟩
  obtain ⟨id, e, rfl, he, rfl⟩ := h.news about address panicked hin
  obtain ⟨e', he', hl⟩ := hext.entry id e he
  exact ⟨id, e', rfl, he', hl.address⟩

theorem Candid.step (h : a.Candid s g tr) (hs : a.Step s ms g ds a') : a'.Candid s g (tr ++ ds) := by
  have hsaid : a'.said = a.said ++ ds.words := by
    cases hs with
    | visit hv => exact hv.shown.1
    | chore hc => exact hc.said
  refine ⟨by rw [hsaid, h.said, Trace.words_append], ?_, ?_⟩
  · intro told about x panicked later heq
    rw [hs.config]
    obtain ⟨rest, rfl, hds⟩ | ⟨rest, htr, hrest⟩ := List.append_eq_append_iff.mp heq
    · -- it was said in this step
      obtain hquiet | ⟨about', x', rfl, -⟩ := hs.tells
      · have := hquiet (.said g about x panicked) (by rw [hds]; simp)
        cases this
      · rw [List.singleton_eq_append_iff] at hds
        obtain ⟨rfl, hcons⟩ | ⟨-, hnil⟩ := hds
        · cases hcons
          rw [List.append_nil, ← h.said]
        · cases hnil
    · cases rest with
      | nil =>
        -- it was said in this step, after nothing else
        obtain hquiet | ⟨about', x', rfl, -⟩ := hs.tells
        · have := hquiet (.said g about x panicked) (by rw [← List.nil_append ds, ← hrest]; simp)
          cases this
        · cases hrest
          rw [List.append_nil] at htr
          rw [← htr, h.said]
      | cons d rest =>
        cases hrest
        exact h.flags told about x panicked rest htr
  · intro about address panicked hin
    rcases List.mem_append.mp hin with hin | hin
    · exact h.news about address panicked hin
    · obtain hquiet | ⟨about', x', rfl, hnews⟩ := hs.tells
      · have := hquiet _ hin
        cases this
      · cases List.mem_singleton.mp hin
        exact hnews address rfl

end Site

/-! ## News of handles -/

/-- Whether the sink of a guard has been told that the handle was not closed. -/
def Deed.isNewsOf (g : GuardId) (id : HandleId) (d : Deed) : Bool :=
  match d with
  | said g' about (.notProperlyClosed _) _ => g' = g && about = some id
  | _ => false

theorem Deed.isNews_of {g : GuardId} {id : HandleId} {d : Deed} (hd : d.isNewsOf g id = true) :
    d.isNews = true := by
  unfold isNewsOf at hd
  split at hd
  · rfl
  · cases hd

/-- What is news of a handle. -/
theorem Deed.isNewsOf_iff {g : GuardId} {id : HandleId} {d : Deed} : d.isNewsOf g id = true ↔
    ∃ address panicked, d = .said g (some id) (.notProperlyClosed address) panicked := by
  unfold isNewsOf
  split
  · simp only [Bool.and_eq_true, decide_eq_true_eq]
    constructor
    · rintro ⟨rfl, rfl⟩
      exact ⟨_, _, rfl⟩
    · rintro ⟨address, panicked, ⟨⟩⟩
      exact ⟨rfl, rfl⟩
  · next hd =>
    refine ⟨nofun, ?_⟩
    rintro ⟨address, panicked, rfl⟩
    exact absurd rfl (hd _ _ _ _)

theorem Trace.news_of_plain {tr : Trace} (htr : ∀ d ∈ tr, d.isNews = false) (g : GuardId)
    (id : HandleId) : tr.countP (Deed.isNewsOf g id) = 0 ∧
      tr.countP (fun d => d.isNewsOf g id && d.isAbort) = 0 := by
  have hnone : ∀ d ∈ tr, ¬d.isNewsOf g id = true := fun d hd hnews =>
    Bool.false_ne_true ((htr d hd).symm.trans (Deed.isNews_of hnews))
  exact ⟨List.countP_eq_zero.mpr hnone,
    List.countP_eq_zero.mpr fun d hd h => hnone d hd (Bool.and_eq_true_iff.mp h).1⟩

/-- The sink is told of a handle by the worker that has claimed it, when it says what it found, and it
gives the handle up if the sink panics at that. -/
theorem Frame.news_deeds {s : Store} {frame : Frame} (hp : ∀ y ∈ frame.spots, y.Placed s) (path : Path)
    (p : Progress) (g : GuardId) (id : HandleId) :
    (frame.deeds s path p).countP (Deed.isNewsOf g id) = frame.spots.count (.reporting g id) ∧
      (frame.deeds s path p).countP (fun d => d.isNewsOf g id && d.isAbort) =
        (frame.marks s).count (id, .aborted g) := by
  by_cases hreporting : ∃ g' id', frame = .worker g' (.reporting id')
  · obtain ⟨g', id', rfl⟩ := hreporting
    obtain ⟨e, he, -⟩ : s.Owns g' id' := hp _ (Multiset.mem_singleton_self _)
    simp only [deeds, marks, spots, Store.abortedBy, he, Store.tells]
    generalize (s.emit g' (.notProperlyClosed e.address)).2.isSome = panicked
    by_cases hown : g' = g ∧ id' = id
    · obtain ⟨rfl, rfl⟩ := hown
      cases panicked <;> simp [Deed.isNewsOf, Deed.isAbort]
    · have hspot : Spot.reporting g id ≠ .reporting g' id' := fun h => hown (by cases h; exact ⟨rfl, rfl⟩)
      have hother : Deed.isNewsOf g id
          (.said g' (some id') (.notProperlyClosed e.address) panicked) = false := by
        simpa [Deed.isNewsOf] using hown
      rw [Multiset.count_singleton, if_neg hspot, List.countP_singleton, List.countP_singleton, hother]
      refine ⟨rfl, ?_⟩
      cases panicked
      · rfl
      · simp only [Bool.false_and, Bool.false_eq_true, if_false, if_true]
        rw [List.count_singleton, if_neg]
        exact fun h => hown (by cases (beq_iff_eq.mp h); exact ⟨rfl, rfl⟩)
  · have hreporting : ∀ g' id', frame ≠ .worker g' (.reporting id') := fun g' id' h =>
      hreporting ⟨g', id', h⟩
    have hnews : ∀ d ∈ frame.deeds s path p, d.isNews = false := by
      by_cases hpolling : ∃ g', frame = .worker g' .polling
      · obtain ⟨g', rfl⟩ := hpolling
        simp only [deeds, Store.handsOut]
        split <;> simp [Deed.isNews]
      · intro d hd
        have hplain := plain_deeds s path p (fun g' h => hpolling ⟨g', h⟩) hreporting d hd
        simpa using (Bool.and_eq_true_iff.mp hplain).1
    have hspots : frame.spots.count (.reporting g id) = 0 := by
      unfold spots
      split <;> simp at hreporting ⊢
    have hmarks := (times_marks s g).2 hreporting
    rw [← History.length_handles, List.length_eq_zero_iff] at hmarks
    rw [hspots, ← History.count_handles, hmarks]
    exact Trace.news_of_plain hnews g id

/-- Whoever comes to be about to say what it found in a handle has claimed it. -/
theorem Act.count_reporting {s s' : Store} {src dst : Multiset Spot} {ms : History}
    (a : Act s src s' dst ms) (g : GuardId) (id : HandleId) :
    dst.count (.reporting g id) = ms.count (id, .claimed (.reclaim g) true) ∨ (src = dst ∧ ms = []) := by
  have hleft : ∀ (c : Prop) [Decidable c] id', (if c then {.dropped id'} else 0 : Multiset Spot).count
      (.reporting g id) = 0 := by
    intro c _ id'
    split <;> simp
  cases a with
  | still => exact .inr ⟨rfl, rfl⟩
  | reach _ _ hspot => rcases hspot with rfl | rfl <;> simp
  | found _ _ _ _ _ _ _ _ _ _ _ hspot => rcases hspot with rfl | rfl <;> simp
  | rebind | giveUp | win | yield => simp [Entry.leaving, hleft]
  | @reclaim _ g' id' =>
    left
    by_cases hown : g' = g ∧ id' = id
    · obtain ⟨rfl, rfl⟩ := hown
      simp
    · rw [Multiset.count_singleton, if_neg fun h => hown (by cases h; exact ⟨rfl, rfl⟩),
        List.count_singleton, if_neg fun h => hown (by cases (beq_iff_eq.mp h); exact ⟨rfl, rfl⟩)]
  | interrupt =>
    left
    rw [Store.thrownAway_eq, List.count_eq_zero.mpr]
    · rfl
    · simp
  | _ => simp

/-- Once a worker has said what it found in a handle, it is not about to say so. -/
theorem Frame.spots_reported {s : Store} {g : GuardId} {id : HandleId} {e : Entry} (t fresh : ThreadId)
    (he : s.resource? id = some e) (g' : GuardId) (id' : HandleId) :
    ((Frame.worker g (.reporting id)).advance t fresh s).2.spots.count (.reporting g' id') = 0 := by
  simp only [Frame.advance, WorkerPoint.advance, he]
  split <;> simp [Progress.spots, Frame.spots]

namespace System
variable {w : System} {h : History} {tr : Trace} {id : HandleId} {e : Entry} {x : Gist}

/-- Of every handle that the worker of a guard has claimed, it has told the sink or is about to, and it
has given up those at whose news the sink panicked. -/
structure Told (w : System) (h : History) (tr : Trace) : Prop where
  news : ∀ g id, tr.countP (Deed.isNewsOf g id) + w.spots.count (.reporting g id) =
    h.count (id, .claimed (.reclaim g) true)
  aborted : ∀ g id, tr.countP (fun d => d.isNewsOf g id && d.isAbort) = h.count (id, .aborted g)

theorem Told.step (ht : w.Told h tr) (hw : w.Orderly h) (e : Event) :
    (w.occur e).Told (h ++ w.marks e) (tr ++ w.deeds e) := by
  obtain ⟨t, frame, rfl, hacting⟩ | ⟨hidles, hmarks, hno⟩ := occur_cases hw.1 e
  · obtain ⟨hsub, hoccur, hstore, hact, -⟩ := acts_acting hw.2.spots hacting
    have hspots := spots_act hw.1 hacting
    have hnews := fun g id => frame.news_deeds (fun y hy => hw.2.spots y (hsub hy)) (.over (w.below t))
      (frame.advance t w.threads.size w.store).2 g id
    rw [hoccur]
    simp only [marks, deeds, hacting]
    refine ⟨fun g id => ?_, fun g id => ?_⟩
    · have hcount := congrArg (Multiset.count (.reporting g id)) hspots
      rw [Multiset.count_add, Multiset.count_add] at hcount
      have hold := ht.news g id
      have hgoes : (frame.advance t w.threads.size w.store).2.spots.count (.reporting g id) =
          (frame.marks w.store).count (id, .claimed (.reclaim g) true) := by
        by_cases hreporting : ∃ g' id', frame = .worker g' (.reporting id')
        · obtain ⟨g', id', rfl⟩ := hreporting
          obtain ⟨e, he, -⟩ : w.store.Owns g' id' := hw.2.spots _ (hsub (Multiset.mem_singleton_self _))
          rw [Frame.spots_reported t _ he]
          simp only [Frame.marks, Store.abortedBy, he]
          split <;> simp
        · have hnone : frame.spots.count (.reporting g id) = 0 := by
            refine Multiset.count_eq_zero.mpr fun hin => hreporting ?_
            unfold Frame.spots at hin
            split at hin <;> simp at hin ⊢
          obtain h | ⟨h, hms⟩ := hact.count_reporting g id
          · exact h
          · rw [← h, hnone, hms]
            rfl
      rw [List.countP_append, List.count_append, (hnews g id).1]
      omega
    · rw [List.countP_append, List.count_append, (hnews g id).2, ht.aborted]
  · have hquiet : ∀ d ∈ w.deeds e, d.isNews = false := by
      cases e with
      | move m =>
        cases m with
        | act t => simp [deeds, hno t rfl]
        | expire t => simp [deeds]
      | inject g id =>
        intro d hd
        simp only [deeds, Store.accepts] at hd
        repeat' split at hd
        all_goals simp_all [Deed.isNews]
      | _ => simp [deeds]
    refine ⟨fun g id => ?_, fun g id => ?_⟩
    · rw [List.countP_append, (Trace.news_of_plain hquiet g id).1, hidles.spots, hmarks, List.append_nil,
        add_zero]
      exact ht.news g id
    · rw [List.countP_append, (Trace.news_of_plain hquiet g id).2, hmarks, List.append_nil, add_zero]
      exact ht.aborted g id

/-- The sinks of all guards were told of what was claimed, whatever has happened since the start. -/
theorem told_after (probes : Array Probe) (environment : Environment) (output : Output)
    (es : List Event) : ((boot probes environment output).after es).Told
      ((boot probes environment output).history es) ((boot probes environment output).trace es) := by
  induction es using List.reverseRecOn with
  | nil => exact ⟨fun _ _ => by simp [after, boot, spots]; rfl, fun _ _ => rfl⟩
  | append_singleton es e ih =>
    rw [after_snoc, history_snoc, trace_snoc]
    exact ih.step (orderly_after probes environment output es) e


/-! ## What becomes of handles -/

/-- What a sink was told of a handle, when it was told once: before and afterwards it was told nothing of
it, and if it panicked the worker has given the handle up. -/
theorem Told.once (ht : w.Told h tr) {g : GuardId} {a : Site} (hc : a.Candid w.store g (tr.of g))
    (he : w.store.resource? id = some e) (hclaimed : h.count (id, .claimed (.reclaim g) true) = 1)
    (hreporting : w.spots.count (.reporting g id) = 0) :
    ∃ (told later : Trace) (panicked : Bool), tr.of g =
        told ++ .said g (some id) (.notProperlyClosed e.address) panicked :: later ∧
      (∀ d ∈ told ++ later, d.isNewsOf g id = false) ∧
      panicked = a.config.sink.panicsAt told.words (.notProperlyClosed e.address) ∧
      h.count (id, .aborted g) = panicked.toNat := by
  have hof : ∀ p : Deed → Bool, (tr.of g).countP (fun d => d.isNewsOf g id && p d) =
      tr.countP fun d => d.isNewsOf g id && p d := by
    intro p
    rw [Trace.of, List.countP_filter]
    refine List.countP_congr fun d _ => ?_
    have hguard : d.isNewsOf g id = true → d.guard? = some g := fun hd => by
      obtain ⟨address, panicked, rfl⟩ := Deed.isNewsOf_iff.mp hd
      rfl
    simp only [Bool.and_eq_true, decide_eq_true_eq]
    exact ⟨fun h => h.1, fun h => ⟨h, hguard h.1⟩⟩
  have hnews : (tr.of g).countP (Deed.isNewsOf g id) = 1 := by
    have hall : (tr.of g).countP (Deed.isNewsOf g id) = tr.countP (Deed.isNewsOf g id) := by
      simpa only [Bool.and_true] using hof fun _ => true
    have := ht.news g id
    omega
  have haborted := (hof Deed.isAbort).trans (ht.aborted g id)
  obtain ⟨d, hin, hd⟩ := List.countP_pos_iff.mp (hnews ▸ Nat.zero_lt_one)
  obtain ⟨address, panicked, rfl⟩ := Deed.isNewsOf_iff.mp hd
  obtain ⟨told, later, heq⟩ := List.append_of_mem hin
  obtain ⟨_, e', ⟨⟩, he', rfl⟩ := hc.news _ _ _ hin
  cases he.symm.trans he'
  have hothers : ∀ d ∈ told ++ later, ¬d.isNewsOf g id = true := by
    refine List.countP_eq_zero.mp ?_
    rw [heq, List.countP_append, List.countP_cons_of_pos hd] at hnews
    rw [List.countP_append]
    omega
  refine ⟨told, later, panicked, heq, fun d hd => Bool.eq_false_of_not_eq_true (hothers d hd),
    hc.flags _ _ _ _ _ heq, ?_⟩
  have hquiet : ∀ part : Trace, (∀ d ∈ part, d ∈ told ++ later) →
      part.countP (fun d => d.isNewsOf g id && d.isAbort) = 0 := fun part hpart =>
    List.countP_eq_zero.mpr fun d hd h => hothers d (hpart d hd) (Bool.and_eq_true_iff.mp h).1
  rw [heq, List.countP_append, List.countP_cons, hquiet told fun d => List.mem_append_left _,
    hquiet later fun d => List.mem_append_right _, hd] at haborted
  rw [← haborted]
  cases panicked <;> rfl

/-- What has become of a handle that the worker of its guard has claimed, and that nobody is busy
with any more, when the sink panicked or not at the news that it was not closed. -/
structure Reclaimed (w : System) (h : History) (id : HandleId) (e : Entry) (x : Gist) (panicked : Bool) :
    Prop where
  /-- The handle is released and its guard does not keep track of it. -/
  gone : e.state = .released ∧ id ∉ x.registry.ids
  /-- Its callback has started once, unless the sink panicked. -/
  runs : (w.store.runs.map Prod.fst).count id = if panicked then 0 else 1
  /-- The worker has counted that once, as a success or as a failure, on the same condition. -/
  settled : h.count (id, .settled e.guard false) + h.count (id, .settled e.guard true) =
    if panicked then 0 else 1
  /-- Its counters say how often it has counted so. -/
  counted : x.stats.reclaimed = h.times (.settled e.guard false) ∧
    x.stats.releaseFailures = h.times (.settled e.guard true)

/-- A handle that the worker of its guard has claimed was claimed once, and is released. -/
theorem Regular.claimed_by_worker (hr : w.Regular h) (he : w.store.resource? id = some e)
    (hx : w.store.gist? e.guard = some x) (hwon : (id, .claimed (.reclaim e.guard) true) ∈ h) :
    h.count (id, .claimed (.reclaim e.guard) true) = 1 ∧ (w.life h id e x).released = 1 ∧
      (w.life h id e x).listed = 0 := by
  have hlisted := (hr id e x he hx).sound.listed
  have hwins := (hr id e x he hx).sound.wins
  have hcount := saw_of_mem (w := w) (x := x) hwon rfl
  rw [← saw_life (w := w) (x := x) (m := .claimed (.reclaim e.guard) true) rfl]
  omega

theorem Orderly.reclaimed (hw : w.Orderly h) (hr : w.Regular h) (he : w.store.resource? id = some e)
    (hx : w.store.gist? e.guard = some x) (hc : x.Counts w.store e.guard h)
    (hwon : (id, .claimed (.reclaim e.guard) true) ∈ h) (hs : w.Settled id) {panicked : Bool}
    (haborted : h.count (id, .aborted e.guard) = panicked.toNat) :
    w.Reclaimed h id e x panicked := by
  obtain ⟨hclaimed, hreleased, hlisted⟩ := hr.claimed_by_worker he hx hwon
  obtain ⟨hruns, hsettled⟩ := hr.finished hw he hx hs
  rw [runs_life] at hruns
  refine ⟨⟨state_of_life.2.mp hreleased, List.count_eq_zero.mp hlisted⟩, ?_, ?_, hc.reclaimed,
    hc.failures⟩ <;> cases panicked <;> simp at haborted ⊢ <;> omega

/-- The callback of a handle that the worker has claimed has not started before it has told the sink, nor
if the sink panicked at that. -/
theorem Regular.heard_before (hr : w.Regular h) (he : w.store.resource? id = some e)
    (hx : w.store.gist? e.guard = some x) (hwon : (id, .claimed (.reclaim e.guard) true) ∈ h)
    (hruns : (w.store.runs.map Prod.fst).count id ≠ 0) :
    w.spots.count (.reporting e.guard id) = 0 ∧ h.count (id, .aborted e.guard) = 0 := by
  have hreleased := (hr.claimed_by_worker he hx hwon).2.1
  have hheard := (hr id e x he hx).heard.runs
  rw [saw_life (m := .aborted e.guard) rfl, on_life (y := .reporting e.guard id) ⟨rfl, rfl⟩,
    runs_life] at hheard
  omega

section
variable (probes : Array Probe) (environment : Environment) (output : Output) (es : List Event)

/-- A handle that the worker of its guard has claimed, and that it is not about to speak of, is one that
the sink was told of once. -/
theorem told_once_after {id : HandleId} {e : Entry} {x : Gist}
    (he : ((boot probes environment output).after es).store.resource? id = some e)
    (hx : ((boot probes environment output).after es).store.gist? e.guard = some x)
    (hwon : (id, .claimed (.reclaim e.guard) true) ∈ (boot probes environment output).history es)
    (hreporting : ((boot probes environment output).after es).spots.count (.reporting e.guard id) = 0) :
    ∃ told later : Trace, ((boot probes environment output).trace es).of e.guard =
        told ++ .said e.guard (some id) (.notProperlyClosed e.address)
          (x.config.sink.panicsAt told.words (.notProperlyClosed e.address)) :: later ∧
      (∀ d ∈ told ++ later, d.isNewsOf e.guard id = false) ∧
      ((boot probes environment output).history es).count (id, .aborted e.guard) =
        (x.config.sink.panicsAt told.words (.notProperlyClosed e.address)).toNat := by
  obtain ⟨y, hy, rfl⟩ := Option.map_eq_some_iff.mp hx
  obtain ⟨a, ha, hdesk⟩ := site_of_guard hy
  have hconfig : a.config = y.config := by rw [hdesk]; rfl
  have hcandid : a.Candid ((boot probes environment output).after es).store e.guard
      (((boot probes environment output).trace es).of e.guard) :=
    site_in_store_after (P := fun s a _ tr => a.Candid s e.guard tr) probes environment output es
      (fun h => .fresh h) (fun hext h hs => (h.step hs).later hext)
      (fun hext h => ⟨h.said, h.flags, (h.later hext).news⟩) ha
  obtain ⟨told, later, panicked, htrace, hothers, hflag, haborted⟩ :=
    (told_after probes environment output es).once hcandid he
      ((regular_after probes environment output es).claimed_by_worker he hx hwon).1 hreporting
  rw [hconfig] at hflag
  subst hflag
  exact ⟨told, later, htrace, hothers, haborted⟩

/-- Whatever happens in a process, the worker of a guard tells the sink once of a handle that it has
claimed; then the handle has its callback run and counted once, unless the sink panics at that, which
is up to the sink and all that it was told before. The callback does not run before the sink has been
told, and if the sink has panicked at the news it never will. -/
theorem reclaims_unless_sink_panics {id : HandleId} {e : Entry} {x : Gist}
    (he : ((boot probes environment output).after es).store.resource? id = some e)
    (hx : ((boot probes environment output).after es).store.gist? e.guard = some x)
    (hwon : (id, .claimed (.reclaim e.guard) true) ∈ (boot probes environment output).history es) :
    (((boot probes environment output).after es).Settled id → ∃ told later : Trace,
        ((boot probes environment output).trace es).of e.guard =
          told ++ .said e.guard (some id) (.notProperlyClosed e.address)
            (x.config.sink.panicsAt told.words (.notProperlyClosed e.address)) :: later ∧
        (∀ d ∈ told ++ later, d.isNewsOf e.guard id = false) ∧
        ((boot probes environment output).after es).Reclaimed
          ((boot probes environment output).history es) id e x
          (x.config.sink.panicsAt told.words (.notProperlyClosed e.address))) ∧
      ((((boot probes environment output).after es).store.runs.map Prod.fst).count id ≠ 0 →
        ∃ told later : Trace, ((boot probes environment output).trace es).of e.guard =
            told ++ .said e.guard (some id) (.notProperlyClosed e.address) false :: later ∧
          x.config.sink.panicsAt told.words (.notProperlyClosed e.address) = false) ∧
      (.said e.guard (some id) (.notProperlyClosed e.address) true ∈
          (boot probes environment output).trace es →
        ∀ es', (((boot probes environment output).after (es ++ es')).store.runs.map
          Prod.fst).count id = 0) := by
  have hw := orderly_after probes environment output es
  have hr := regular_after probes environment output es
  refine ⟨fun hs => ?_, fun hruns => ?_, fun hin es' => ?_⟩
  · have hreporting : ((boot probes environment output).after es).spots.count (.reporting e.guard id) = 0 := by
      rw [← on_life (h := (boot probes environment output).history es) (e := e) (x := x)
        (y := .reporting e.guard id) ⟨rfl, rfl⟩]
      exact hs.on hw.1 rfl
    obtain ⟨told, later, htrace, hothers, haborted⟩ :=
      told_once_after probes environment output es he hx hwon hreporting
    exact ⟨told, later, htrace, hothers,
      hw.reclaimed hr he hx (counts_after probes environment output es hx) hwon hs haborted⟩
  · obtain ⟨hreporting, hzero⟩ := hr.heard_before he hx hwon hruns
    obtain ⟨told, later, htrace, -, haborted⟩ :=
      told_once_after probes environment output es he hx hwon hreporting
    have hflag : x.config.sink.panicsAt told.words (.notProperlyClosed e.address) = false :=
      Bool.toNat_eq_zero.mp (haborted.symm.trans hzero)
    exact ⟨told, later, hflag ▸ htrace, hflag⟩
  · obtain ⟨e', he', hle⟩ := (extends_after hw es').entry id e he
    obtain ⟨x', hx', -⟩ := (extends_after hw es').gist e.guard x hx
    rw [← after_append] at he' hx'
    by_contra hruns
    have hwon' : (id, .claimed (.reclaim e'.guard) true) ∈
        (boot probes environment output).history (es ++ es') := by
      rw [hle.guard, history_append]
      exact List.mem_append_left _ hwon
    have hzero := ((regular_after probes environment output (es ++ es')).heard_before he'
      (hle.guard ▸ hx') hwon' hruns).2
    rw [hle.guard, ← (told_after probes environment output (es ++ es')).aborted, List.countP_eq_zero,
      trace_append] at hzero
    exact hzero _ (List.mem_append_left _ hin) (by simp [Deed.isNewsOf, Deed.isAbort])

end


/-- The sink panics at the first handle that was not closed. -/
def panicsAtFirst (told : List Diagnostic) (d : Diagnostic) : Bool :=
  d.kind == .notProperlyClosed && !(told.any fun d => d.kind == .notProperlyClosed)

/-- Two handles are dropped, and the sink of their guard panics when the worker speaks of the first. -/
def unheard : List Event :=
  .join .caller
      [.startGuard "g" { panics := panicsAtFirst } .plain none,
        .register (.guard "g") "x" { address := 1, callback := some {} },
        .register (.guard "g") "y" { address := 2, callback := some {} },
        .drop "x", .drop "y"] ::
    (List.replicate 24 (.move (.act 0)) ++ List.replicate 32 (.move (.act 1)))

theorem reclaims_unless_sink_panics_unheard :
    ∃ e₁ e₂ x, ((boot #[] none {}).after unheard).store.resource? ⟨1⟩ = some e₁ ∧
      ((boot #[] none {}).after unheard).store.resource? ⟨2⟩ = some e₂ ∧
      ((boot #[] none {}).after unheard).store.gist? 0 = some x ∧
      ((boot #[] none {}).after unheard).Reclaimed ((boot #[] none {}).history unheard) ⟨1⟩ e₁ x true ∧
      (∀ es', (((boot #[] none {}).after (unheard ++ es')).store.runs.map Prod.fst).count ⟨1⟩ = 0) ∧
      ((boot #[] none {}).after unheard).Reclaimed ((boot #[] none {}).history unheard) ⟨2⟩ e₂ x false := by
  have hentry₁ : (((boot #[] none {}).after unheard).store.resource? ⟨1⟩).map
      (fun e => (e.guard, e.address)) = some (0, 1) := by
    decide +kernel
  have hentry₂ : (((boot #[] none {}).after unheard).store.resource? ⟨2⟩).map
      (fun e => (e.guard, e.address)) = some (0, 2) := by
    decide +kernel
  have hgist : (((boot #[] none {}).after unheard).store.gist? 0).isSome = true := by
    decide +kernel
  have hsettled : ((boot #[] none {}).after unheard).Settled ⟨1⟩ ∧
      ((boot #[] none {}).after unheard).Settled ⟨2⟩ := by
    unfold Settled
    decide +kernel
  have hwon : ∀ id ∈ [(⟨1⟩ : HandleId), ⟨2⟩],
      (id, .claimed (.reclaim 0) true) ∈ (boot #[] none {}).history unheard := by
    decide +kernel
  have hsaid : .said 0 (some ⟨1⟩) (.notProperlyClosed 1) true ∈ (boot #[] none {}).trace unheard := by
    decide +kernel
  have hran : (((boot #[] none {}).after unheard).store.runs.map Prod.fst).count ⟨2⟩ = 1 := by
    decide +kernel
  obtain ⟨e₁, he₁, heq₁⟩ := Option.map_eq_some_iff.mp hentry₁
  obtain ⟨e₂, he₂, heq₂⟩ := Option.map_eq_some_iff.mp hentry₂
  obtain ⟨x, hx⟩ := Option.isSome_iff_exists.mp hgist
  obtain ⟨hguard₁, haddress₁⟩ := Prod.mk.inj heq₁
  obtain ⟨hguard₂, -⟩ := Prod.mk.inj heq₂
  obtain ⟨hreclaimed₁, -, hnever⟩ := reclaims_unless_sink_panics #[] none {} unheard he₁
    (hguard₁ ▸ hx) (hguard₁ ▸ hwon ⟨1⟩ (by simp))
  obtain ⟨hreclaimed₂, -, -⟩ := reclaims_unless_sink_panics #[] none {} unheard he₂
    (hguard₂ ▸ hx) (hguard₂ ▸ hwon ⟨2⟩ (by simp))
  obtain ⟨told₁, _, -, -, h₁⟩ := hreclaimed₁ hsettled.1
  obtain ⟨told₂, _, -, -, h₂⟩ := hreclaimed₂ hsettled.2
  have hnever := hnever (hguard₁ ▸ haddress₁ ▸ hsaid)
  have hflag₁ : x.config.sink.panicsAt told₁.words (.notProperlyClosed e₁.address) = true := by
    have hnone := hnever []
    rw [List.append_nil] at hnone
    have hruns := h₁.runs
    rw [hnone] at hruns
    by_contra hquiet
    rw [if_neg hquiet] at hruns
    cases hruns
  have hflag₂ : x.config.sink.panicsAt told₂.words (.notProperlyClosed e₂.address) = false := by
    have hruns := h₂.runs
    rw [hran] at hruns
    by_contra hloud
    rw [if_pos (Bool.eq_true_of_not_eq_false hloud)] at hruns
    cases hruns
  exact ⟨e₁, e₂, x, he₁, he₂, hx, hflag₁ ▸ h₁, hnever, hflag₂ ▸ h₂⟩

end System

end Reclaim

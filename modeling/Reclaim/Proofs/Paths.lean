import Reclaim.Proofs.Chains
import Reclaim.Proofs.Commit
import Reclaim.Proofs.Speech

/-!
# Who runs a callback

A callback runs for whoever has claimed its handle, and what the worker of a guard counts afterwards is how
that run has ended. What comes to a plain source nobody has tried to release.

* `Life.Untried`, `System.untried_after` : what is dropped has not been released;
* `Deed.call?`, `Frame.call_deeds` : only a frame of a callback begins or ends one;
* `System.Orderly.call_claimed` : and only after its claim;
* `Trace.paths`, `System.paths_after` : the paths on which a callback has run;
* `System.settled_after` : what a worker has counted is how a callback ended.
-/

namespace Reclaim

/-! ## What is dropped -/

namespace Life
variable {g : GuardId} {id : HandleId} {b a : Life}

/-- As soon as a handle goes to its source, nobody has tried to release it, or will. -/
def Untried (id : HandleId) (b : Life) : Prop :=
  b.on (.queueing id) + b.saw .queued + b.saw .refused ≠ 0 →
    b.saw (.claimed .release true) = 0 ∧ b.saw (.claimed .release false) = 0

theorem Step.untried (hs : Step g id b a) (hsound : b.Sound g id) (hk : b.Kept g id) (h : b.Untried id) :
    a.Untried id := by
  have hplace := hk.place
  have husers := hsound.users
  have hwins := hsound.wins
  have hlosses := hsound.losses
  unfold Untried at *
  simp only [on, saw] at *
  cases hs
  all_goals
    rename_i flow
    have h₁ := flow.on (.queueing id)
    have h₂ := flow.on (.asking id)
    simp [-Multiset.count_eq_zero] at h₁ h₂
    simp [List.count_replicate, -Multiset.count_eq_zero, -Nat.add_eq_zero_iff]
    omega

/-- Whatever happens to a handle of a plain guard. -/
theorem Steps.untried (hs : Steps g id b a) (hr : b.Regular g id) (hp : b.exposed = false)
    (h : b.Untried id) : a.Untried id ∧ a.Regular g id ∧ a.exposed = false := by
  induction hs with
  | refl => exact ⟨h, hr, hp⟩
  | tail _ hstep ih =>
    obtain ⟨hu, hr, hp⟩ := ih
    exact ⟨hstep.untried hr.sound (hr.kept hp) hu, hr.step hstep, hstep.exposed.trans hp⟩

end Life

namespace System
variable {w : System} {h : History} {id : HandleId} {e : Entry} {x : Gist}
variable (probes : Array Probe) (environment : Environment) (output : Output) (es : List Event)

/-- What comes to a plain source nobody has tried to release. -/
theorem untried_after (he : ((boot probes environment output).after es).store.resource? id = some e)
    (hx : ((boot probes environment output).after es).store.gist? e.guard = some x) (hp : x.exposed = false) :
    (((boot probes environment output).after es).life
      ((boot probes environment output).history es) id e x).Untried id := by
  refine (after_induction _ (fun w h => (w.Orderly h ∧ w.Regular h) ∧ ∀ id e x,
    w.store.resource? id = some e → w.store.gist? e.guard = some x → x.exposed = false →
      (w.life h id e x).Untried id) ⟨⟨orderly_boot probes environment output, ?_⟩, ?_⟩
    (fun w h event hw => ?_) es).2 id e x he hx hp
  · exact fun id e x he => by simp [boot, Store.resource?] at he
  · exact fun id e x he => by simp [boot, Store.resource?] at he
  obtain ⟨⟨horderly, hr⟩, hall⟩ := hw
  refine ⟨⟨horderly.step event, hr.step horderly event⟩, fun id e' x' he' hx' hp' => ?_⟩
  cases he : w.store.resource? id with
  | none =>
    obtain ⟨src, dst, hact, -, hspots⟩ := horderly.occur event
    rw [life, hact.born horderly.2 hspots he he' hx']
    simp [Life.Untried, Life.new, Life.on, Life.saw]
  | some e =>
    obtain ⟨x, hx⟩ := horderly.2.entries id e he
    obtain ⟨e'', x'', he'', hx'', hle, hlx, hsteps⟩ := horderly.steps_occur event he hx
    cases he'.symm.trans he''
    rw [hle.guard] at hx'
    cases hx'.symm.trans hx''
    have hp : x.exposed = false := hlx.exposed.symm.trans hp'
    exact (hsteps.untried (hr id e x he hx) hp (hall id e x he hx hp)).1

end System

/-! ## Callbacks that begin and end -/

/-- The callback that has begun or ended, and on which path. -/
def Deed.call? : Deed → Option (Path × HandleId)
  | began path id | ended path id _ => some (path, id)
  | _ => none

theorem Store.call_accepts {s : Store} {g : GuardId} {item : Item} {d : Deed} (hin : d ∈ s.accepts g item) :
    d.call? = none := by
  unfold accepts at hin
  split at hin
  · cases List.mem_singleton.mp hin
    rfl
  · cases hin

theorem Callback.outcome_panic (f : ReleaseFn) : f.outcome.panic? = f.panic := by
  unfold outcome
  cases f.panic <;> rfl

theorem Progress.mem_ends {p : Progress} {path : Path} {id : HandleId} {d : Deed} (hin : d ∈ p.ends path id) :
    ∃ o, p = .finish o ∧ d = .ended path id o.panic? := by
  cases p with
  | finish o => exact ⟨o, rfl, List.mem_singleton.mp hin⟩
  | _ => cases hin

/-- Only a frame of a callback begins or ends one, on its own path. -/
theorem Frame.call_deeds {s : Store} {path path' : Path} {p : Progress} {x : Frame} {id : HandleId}
    {d : Deed} (hin : d ∈ x.deeds s path p) (hd : d.call? = some (path', id)) :
    path' = path ∧ ∃ q, x = .callback id q ∧ (d = .began path id ∧ q = .enter ∨
      ∃ o, p = .finish o ∧ d = .ended path id o.panic?) := by
  have hnone : d.call? ≠ none := fun h => by cases h.symm.trans hd
  cases x with
  | callback id' q =>
    cases q with
    | enter =>
      rcases List.mem_cons.mp hin with rfl | hin
      · cases hd
        exact ⟨rfl, _, rfl, .inl ⟨rfl, rfl⟩⟩
      · obtain ⟨o, hp, rfl⟩ := Progress.mem_ends hin
        cases hd
        exact ⟨rfl, _, rfl, .inr ⟨o, hp, rfl⟩⟩
    | running call => cases hin
    | ran call replies =>
      obtain ⟨o, hp, rfl⟩ := Progress.mem_ends hin
      cases hd
      exact ⟨rfl, _, rfl, .inr ⟨o, hp, rfl⟩⟩
  | commands todo done =>
    cases todo with
    | nil => cases hin
    | cons c todo =>
      cases c with
      | inject guard handle =>
        simp only [deeds] at hin
        split at hin
        · exact absurd (Store.call_accepts hin) hnone
        · cases hin
      | _ => cases hin
  | drop id' q =>
    cases q with
    | check => cases hin
    | enqueue =>
      simp only [deeds] at hin
      split at hin
      · exact absurd (Store.call_accepts hin) hnone
      · cases hin
    | leak =>
      simp only [deeds, Store.tells] at hin
      split at hin
      · cases List.mem_singleton.mp hin
        cases hd
      · cases hin
  | flush g patience gate q =>
    cases q with
    | request => exact absurd (Store.call_accepts hin) hnone
    | _ => cases hin
  | worker g q =>
    cases q with
    | polling =>
      simp only [deeds, Store.handsOut] at hin
      split at hin
      · cases List.mem_singleton.mp hin
        cases hd
      · cases hin
    | processing item =>
      cases item with
      | flush k => cases hin
      | reclaim id' =>
        simp only [deeds] at hin
        split at hin
        · cases hin
        · cases List.mem_singleton.mp hin
          cases hd
    | reporting id' | announcing id' panic =>
      simp only [deeds, Store.tells] at hin
      split at hin
      · cases List.mem_singleton.mp hin
        cases hd
      · cases hin
    | farewell exit =>
      cases List.mem_singleton.mp hin
      cases hd
    | _ => cases hin
  | _ => cases hin

namespace System
variable {w : System} {h : History} {t : ThreadId} {id : HandleId}

/-- Whoever waits for a callback that is about to go on has claimed the handle. -/
theorem Orderly.calling_claimed (hw : w.Orderly h) (hr : w.Regular h) {q : CallbackPoint}
    (ht : w.acting? t = some (.callback id q)) : (id, .claimed (.over (w.below t)) true) ∈ h := by
  obtain ⟨name, rest, out, hth, -⟩ := acting?_eq_some ht
  have hbelow : w.below t = rest := by simp only [below, hth]
  have hstacked : Stacked (.callback id q :: rest) := hw.1 _ (thread?_mem hth)
  rw [hbelow]
  cases rest with
  | nil => cases hstacked.1
  | cons y rest =>
    have hawaits := hstacked.1.2 id rfl
    have hspot : ∀ z ∈ y.spots, z ∈ w.spots := fun z hz =>
      mem_spots.mpr ⟨_, thread?_mem hth, y, List.mem_cons_of_mem _ List.mem_cons_self, hz⟩
    cases y with
    | release id' p =>
      cases p with
      | running =>
        cases hawaits
        have hwon : .won id ∈ w.spots := hspot _ (Multiset.mem_singleton_self _)
        obtain ⟨e, he⟩ : w.store.Known id := hw.2.spots _ hwon
        obtain ⟨x, hx⟩ := hw.2.entries id e he
        have hsum := (hr id e x he hx).sound.won
        have hon : (w.life h id e x).on (.won id) = w.spots.count (.won id) := on_life rfl
        have := Multiset.count_pos.mpr hwon
        change (id, .claimed .release true) ∈ h
        exact mem_of_saw (w := w) (e := e) (x := x) (by omega) trivial
      | _ => cases hawaits
    | worker g p =>
      cases p with
      | running id' =>
        cases hawaits
        have hserving : .serving g id ∈ w.spots := hspot _ (Multiset.mem_singleton_self _)
        obtain ⟨e, he, rfl⟩ : w.store.Owns g id := hw.2.spots _ hserving
        obtain ⟨x, hx⟩ := hw.2.entries id e he
        have hregular := hr id e x he hx
        have hon : (w.life h id e x).on (.serving e.guard id) = w.spots.count (.serving e.guard id) :=
          on_life ⟨rfl, rfl⟩
        have := Multiset.count_pos.mpr hserving
        change (id, .claimed (.reclaim e.guard) true) ∈ h
        refine mem_of_saw (w := w) (e := e) (x := x) ?_ rfl
        have := hregular.heard.settled
        omega
      | _ => cases hawaits
    | _ => cases hawaits

/-- A callback that begins or ends does so on the path that has claimed its handle. -/
theorem Orderly.call_claimed (hw : w.Orderly h) (hr : w.Regular h) {event : Event} {path : Path} {d : Deed}
    (hin : d ∈ w.deeds event) (hd : d.call? = some (path, id)) : (id, .claimed path true) ∈ h := by
  cases event with
  | move m =>
    cases m with
    | act t =>
      simp only [deeds] at hin
      cases ht : w.acting? t with
      | none =>
        rw [ht] at hin
        cases hin
      | some frame =>
        rw [ht] at hin
        obtain ⟨rfl, q, rfl, -⟩ := Frame.call_deeds hin hd
        exact hw.calling_claimed hr ht
    | expire t => cases hin
  | inject g id' =>
    simp only [deeds] at hin
    split at hin
    · cases (Store.call_accepts hin).symm.trans hd
    · cases hin
  | _ => cases hin

end System

/-! ## Paths -/

/-- The path on which the callback of a handle begins, if this is that. -/
def Deed.path? (id : HandleId) : Deed → Option Path
  | began path id' => if id' = id then some path else none
  | _ => none

/-- The paths on which the callback of a handle has run, in order. -/
def Trace.paths (tr : Trace) (id : HandleId) : List Path := tr.filterMap (Deed.path? id)

theorem Deed.path?_eq_some {id : HandleId} {path : Path} {d : Deed} (h : d.path? id = some path) :
    d = .began path id := by
  cases d with
  | began path' id' =>
    simp only [path?] at h
    split at h
    · next heq =>
      cases h
      rw [heq]
    · cases h
  | _ => cases h

theorem Trace.length_paths (tr : Trace) (id : HandleId) :
    (tr.paths id).length = (tr.filterMap Deed.began?).count id := by
  induction tr with
  | nil => rfl
  | cons d tr ih =>
    unfold paths at ih ⊢
    cases d with
    | began path id' =>
      by_cases hid : id' = id <;> simp [Deed.path?, Deed.began?, hid, ih]
    | _ => exact ih

namespace System
variable {w : System} {h : History}

/-- The runs of callbacks are those that have begun. -/
theorem Orderly.begun_after (hw : w.Orderly h) (es : List Event) :
    (w.after es).store.begun = w.store.begun ++ (w.trace es).filterMap Deed.began? := by
  induction es generalizing w h with
  | nil => simp [System.after, trace]
  | cons e es ih =>
    rw [System.after, trace, ih (hw.step e), hw.begun_occur e, begins, List.filterMap_append, List.append_assoc]

/-- Every run of a callback has been on the path that has claimed its handle, and that can be one path
only. -/
theorem paths_after (probes : Array Probe) (environment : Environment) (output : Output)
    (es : List Event) (id : HandleId) :
    (((boot probes environment output).trace es).paths id).length =
        ((boot probes environment output).after es).store.begun.count id ∧
      ∀ path ∈ ((boot probes environment output).trace es).paths id,
        (id, .claimed path true) ∈ (boot probes environment output).history es := by
  constructor
  · rw [Trace.length_paths, (orderly_boot probes environment output).begun_after]
    rfl
  · induction es using List.reverseRecOn with
    | nil => exact List.forall_mem_nil _
    | append_singleton es e ih =>
      intro path hpath
      rw [trace_snoc, Trace.paths, List.filterMap_append] at hpath
      rw [history_snoc]
      refine List.mem_append_left _ ?_
      rcases List.mem_append.mp hpath with hold | hnew
      · exact ih path hold
      · obtain ⟨d, hd, heq⟩ := List.mem_filterMap.mp hnew
        obtain rfl := Deed.path?_eq_some heq
        exact (orderly_after probes environment output es).call_claimed
          (regular_after probes environment output es) hd rfl

end System

/-! ## What is counted -/

/-- What the worker is about to count has happened. -/
def Site.Ran (g : GuardId) (a : Site) (tr : Trace) : Prop :=
  ∀ id panic, a.stage = .point (.settling id panic) → .ended (.reclaim g) id panic ∈ tr

theorem Site.Ran.step {s : Store} {ms : History} {g : GuardId} {a a' : Site} {tr ds : Trace}
    (h : a.Ran g tr) (hs : a.Step s ms g ds a') : a'.Ran g (tr ++ ds) := by
  intro id panic hstage
  cases hs with
  | visit => exact List.mem_append_left _ (h id panic hstage)
  | @chore ds d cells stage hc =>
    refine List.mem_append_right _ ?_
    generalize hold : a.stage = before at hc
    change stage = _ at hstage
    cases hc with
    | run panic' =>
      cases hstage
      exact List.mem_cons_of_mem _ List.mem_cons_self
    | leave panic' =>
      cases hstage
      exact List.mem_cons_self
    | _ => cases hstage

namespace System

/-- What the worker of a guard has counted is how a callback has ended that it started. -/
theorem settled_after (probes : Array Probe) (environment : Environment) (output : Output)
    (es : List Event) {g : GuardId} {id : HandleId} {failed : Bool}
    (hin : (id, .settled g failed) ∈ (boot probes environment output).history es) :
    ∃ panic, .ended (.reclaim g) id panic ∈ (boot probes environment output).trace es ∧
      failed = panic.isSome := by
  induction es using List.reverseRecOn with
  | nil => cases hin
  | append_singleton es e ih =>
    rw [history_snoc] at hin
    rw [trace_snoc]
    rcases List.mem_append.mp hin with hold | hnew
    · obtain ⟨panic, hended, hfailed⟩ := ih hold
      exact ⟨panic, List.mem_append_left _ hended, hfailed⟩
    · have hm := manned_after probes environment output es
      generalize hw : (boot probes environment output).after es = w at hnew hm
      obtain ⟨t, panic, ht, hfailed⟩ := marks_settled hnew
      obtain ⟨name, rest, out, hth, -⟩ := acting?_eq_some ht
      obtain rfl : rest = [] := (hm.nested _ (thread?_mem hth)).worker
      -- the thread that counts is the worker's own, so this is the stage of the guard's site
      obtain ⟨d, hd, rfl⟩ := hm.staffed.employed t _ g (.point (.settling id panic)) hth rfl
      have hsite := site?_eq hd
      rw [stageAt_eq hth rfl, ← hw] at hsite
      have hran := site_after (P := fun a _ tr => a.Ran g tr) probes environment output es
        (fun hfresh id panic hstage => by cases hfresh.stage.symm.trans hstage) (fun h hs => h.step hs)
        (fun h => h) hsite
      exact ⟨panic, List.mem_append_left _ (List.mem_of_mem_filter (hran id panic rfl)), hfailed⟩

end System

end Reclaim

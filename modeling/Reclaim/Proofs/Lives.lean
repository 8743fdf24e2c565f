import Reclaim.Proofs.Balance
import Reclaim.Proofs.Passage

/-!
# The lives of all handles

What one life adds up to holds of every handle of a process, whatever has happened since the start:
a life begins in balance when the handle is numbered, and everything after that goes by its steps.

* `Life.Regular` : all sums of a life; `Life.Regular.steps`;
* `Act.born` : the life of a new handle; `System.life` : of a handle in a system;
* `System.Orderly.steps_occur`, `System.Orderly.steps_after` : what becomes of it;
* `System.regular_after` : all lives are regular;
* `System.Settled` : no release of a handle is under way, so nothing keeps it busy (`Settled.on`) and
  its callback has run if it was to (`Regular.finished`).
-/

namespace Reclaim

namespace Life

/-- All that adds up in the life of a handle. -/
structure Regular (g : GuardId) (id : HandleId) (b : Life) : Prop where
  sound : b.Sound g id
  claims : b.FirstWins
  heard : b.Heard g id
  kept : b.exposed = false → b.Kept g id

variable {g : GuardId} {id : HandleId} {b a : Life}

theorem Step.exposed (hs : Step g id b a) : a.exposed = b.exposed := by
  cases hs <;> rfl

theorem Regular.step (h : b.Regular g id) (hs : Step g id b a) : a.Regular g id where
  sound := h.sound.step hs
  claims := hs.claims h.sound h.claims
  heard := h.heard.step hs
  kept hp := (h.kept (hs.exposed ▸ hp)).step h.sound hs

theorem Regular.steps (h : b.Regular g id) (hs : Steps g id b a) : a.Regular g id := by
  induction hs with
  | refl => exact h
  | tail _ hstep ih => exact ih.step hstep

/-- The callback starts once at most, and only for a handle that has been released. -/
theorem Regular.runs_le_released (h : b.Regular g id) : b.runs ≤ b.released := by
  have := h.heard.runs
  omega

/-- The life of a handle that has just been numbered. -/
def new (g : GuardId) (id : HandleId) (address : Address) (x : Gist) : Life where
  released := 0
  owners := 1
  users := 0
  bound := 0
  listed := 0
  pending := 0
  runs := 0
  closed := x.interrupted.toNat
  exposed := x.exposed
  refuses := x.refuses
  spots := {.numbered g id}
  trace := [.numbered address]

/-- A life begins in balance. -/
theorem regular_new (g : GuardId) (id : HandleId) (address : Address) {x : Gist}
    (hx : x.refuses = true → x.exposed = true) : (new g id address x).Regular g id where
  sound := by constructor <;> simp [new, on, saw]
  claims := Or.inl ⟨rfl, rfl⟩
  heard := ⟨by simp [new, on, saw], by simp [new, on, saw]⟩
  kept hp := by
    have hrefuses : x.refuses = false := by
      rw [Bool.eq_false_iff]
      intro hr
      exact absurd (hx hr) (by simp [show x.exposed = false from hp])
    constructor <;> try simp [new, on, saw]
    · exact ⟨hp, hrefuses⟩
    · cases x.interrupted <;> simp

end Life

section Acts
variable {s s' : Store} {src dst spots spots' : Multiset Spot} {h ms : History}

/-- What a mark relies on includes its handle. -/
theorem Mark.Placed.known {id : HandleId} {m : Mark} (hm : m.Placed s id) : s.Known id := by
  cases m with
  | numbered address => exact hm.imp fun _ he => he.1
  | claimed path won =>
    cases path with
    | release => exact hm
    | reclaim g =>
      cases won
      · exact Store.Admits.known hm
      · exact Store.Owns.known hm
  | aborted g | settled g => exact Store.Owns.known hm
  | taken g => exact Store.Admits.known hm
  | _ => exact hm

/-- No spot is about a handle that there is not. -/
theorem Placed.filter_spots (hp : Placed s spots h) (g : GuardId) {id : HandleId}
    (hid : ¬s.Known id) : spots.filter (Spot.Concerns g id) = 0 := by
  rw [Multiset.filter_eq_nil]
  intro y hy hc
  have hy := hp.spots y hy
  cases y with
  | enrolling | granting => exact hc
  | numbered g' id' | tracked g' id' | reporting g' id' | serving g' id' =>
    obtain ⟨-, rfl⟩ := hc
    exact hid (Store.Owns.known hy)
  | carried g' id' =>
    obtain ⟨-, rfl⟩ := hc
    exact hid (Store.Admits.known hy)
  | _ =>
    obtain rfl := hc
    exact hid hy

/-- Nothing has happened to a handle that there is not. -/
theorem Placed.of_eq_nil (hp : Placed s spots h) (g : GuardId) {id : HandleId}
    (hid : ¬s.Known id) : h.of g id = [] := by
  rw [History.of, List.map_eq_nil_iff, List.filter_eq_nil_iff]
  rintro ⟨id', m⟩ hin hc
  have hc : id' = id ∧ m.Concerns g := by simpa using hc
  obtain rfl := hc.1
  exact hid (hp.marks id' m hin).known

/-- What has happened to a handle, one by one. -/
theorem History.count_of (h : History) {g : GuardId} {m : Mark} (hm : m.Concerns g)
    (id : HandleId) : (h.of g id).count m = h.count (id, m) := by
  induction h with
  | nil => rfl
  | cons y h ih =>
    obtain ⟨id', m'⟩ := y
    rw [← List.singleton_append, of_append, List.count_append, ih, of_singleton, List.count_append]
    by_cases hy : id' = id ∧ m' = m
    · obtain ⟨rfl, rfl⟩ := hy
      simp [hm]
    · split
      · next hc => simp [List.count_singleton, hc.1]
      · simp [hy]

/-- The life of a new handle. -/
theorem Act.born (hp : Placed s spots h) (a : Act s src s' dst ms)
    (hspots : spots' + src = spots + dst) {id : HandleId} {e' : Entry} {x' : Gist}
    (hnew : s.resource? id = none) (he' : s'.resource? id = some e') (hx' : s'.gist? e'.guard = some x') :
    s'.life id e' x' (spots'.filter (Spot.Concerns e'.guard id)) ((h ++ ms).of e'.guard id) =
      .new e'.guard id e'.address x' := by
  have hunknown : ¬s.Known id := by simp [Store.Known, hnew]
  have hbound : (s.names.handles.map Prod.snd).count id = 0 := by
    rw [List.count_eq_zero]
    intro hin
    obtain ⟨⟨name, _⟩, hname, rfl⟩ := List.mem_map.mp hin
    exact hunknown (hp.named _ ⟨name, hname⟩)
  have hruns : (s.runs.map Prod.fst).count id = 0 := by
    rw [List.count_eq_zero]
    intro hin
    obtain ⟨⟨_, address⟩, hrun, rfl⟩ := List.mem_map.mp hin
    obtain ⟨e, he, -⟩ := hp.runs _ _ hrun
    exact hunknown ⟨e, he⟩
  have hspot := hp.filter_spots e'.guard hunknown
  rw [History.of_append, hp.of_eq_nil _ hunknown]
  obtain ⟨g, r, f, hid, rfl, rfl, rfl, rfl, rfl⟩ := a.entry_new hnew he'
  have hx : s.gist? g = some x' := hx'
  have hlisted : x'.registry.ids.count id = 0 :=
    List.count_eq_zero.mpr fun hin => hunknown (hp.listed g x' id hx hin).known
  have hpending : x'.waiting.count id = 0 := by
    rw [List.count_eq_zero]
    intro hin
    exact hunknown (hp.waiting g x' id hx hin).known
  have hspots' : spots'.filter (Spot.Concerns g id) = {.numbered g id} := by
    have hleft : Multiset.filter (Spot.Concerns g id) {.enrolling g} = 0 := filter_other not_false
    have htaken : Multiset.filter (Spot.Concerns g id) {.numbered g id} = {.numbered g id} :=
      Spot.Concerns.filter ⟨rfl, rfl⟩
    have h := congrArg (Multiset.filter (Spot.Concerns g id)) hspots
    rwa [Multiset.filter_add, Multiset.filter_add, hspot, hleft, htaken, zero_add, add_zero] at h
  simp only [Store.life, Life.new]
  simp [hspots', hlisted, hpending, HandleState.claims, Mark.Concerns]
  exact ⟨hbound, hruns⟩

end Acts

/-! ## All systems -/

namespace System

/-- The life of a handle with this entry, whose own guard has this gist. -/
def life (w : System) (h : History) (id : HandleId) (e : Entry) (x : Gist) : Life :=
  w.store.life id e x (w.spots.filter (Spot.Concerns e.guard id)) (h.of e.guard id)

/-- All lives are regular. -/
def Regular (w : System) (h : History) : Prop :=
  ∀ id e x, w.store.resource? id = some e → w.store.gist? e.guard = some x →
    (w.life h id e x).Regular e.guard id

section Reading
variable {w : System} {h : History} {id : HandleId} {e : Entry} {x : Gist}

/-- A life saw what happened to its handle. -/
theorem saw_life {m : Mark} (hm : m.Concerns e.guard) :
    (w.life h id e x).saw m = h.count (id, m) := h.count_of hm id

theorem life_released_eq_zero (he : e.state = .active) : (w.life h id e x).released = 0 :=
  Store.life_active he ..

theorem life_released_eq_one (he : e.state = .released) : (w.life h id e x).released = 1 :=
  Store.life_released he ..

/-- A handle is active or released. -/
theorem state_of_life :
    ((w.life h id e x).released = 0 ↔ e.state = .active) ∧
      ((w.life h id e x).released = 1 ↔ e.state = .released) := by
  cases hs : e.state with
  | active => simp [life_released_eq_zero hs]
  | released => simp [life_released_eq_one hs]

theorem saw_of_mem {m : Mark} (hin : (id, m) ∈ h) (hm : m.Concerns e.guard) :
    (w.life h id e x).saw m ≠ 0 := by
  rw [saw_life hm, ← Nat.pos_iff_ne_zero, List.count_pos_iff]
  exact hin

theorem mem_of_saw {m : Mark} (hs : (w.life h id e x).saw m ≠ 0) (hm : m.Concerns e.guard) :
    (id, m) ∈ h := by
  rwa [saw_life hm, ← Nat.pos_iff_ne_zero, List.count_pos_iff] at hs

theorem on_life {y : Spot} (hy : y.Concerns e.guard id) :
    (w.life h id e x).on y = w.spots.count y := by
  rw [Life.on, life, Store.life, Multiset.count_filter_of_pos hy]

theorem runs_life : (w.life h id e x).runs = (w.store.runs.map Prod.fst).count id := rfl

theorem listed_life : (w.life h id e x).listed = x.registry.ids.count id := rfl

end Reading

variable {w : System} {h : History}

/-- Whatever happens, a handle goes on by steps. -/
theorem Orderly.steps_occur (hw : w.Orderly h) (event : Event) {id : HandleId} {e : Entry} {x : Gist}
    (he : w.store.resource? id = some e) (hx : w.store.gist? e.guard = some x) :
    ∃ e' x', (w.occur event).store.resource? id = some e' ∧
      (w.occur event).store.gist? e.guard = some x' ∧ e.Later e' ∧ x.Later x' ∧
      Life.Steps e.guard id (w.life h id e x)
        ((w.occur event).life (h ++ w.marks event) id e' x') := by
  obtain ⟨src, dst, hact, hsrc, hspots⟩ := hw.occur event
  obtain ⟨e', he', hle⟩ := hact.extends.entry id e he
  obtain ⟨x', hx', hlx⟩ := hact.extends.gist e.guard x hx
  refine ⟨e', x', he', hx', hle, hlx, ?_⟩
  rw [life, life, hle.guard]
  exact hact.steps hw.2 hsrc hspots he he' hx hx'

theorem Orderly.steps_after (hw : w.Orderly h) (es : List Event) {id : HandleId} {e : Entry} {x : Gist}
    (he : w.store.resource? id = some e) (hx : w.store.gist? e.guard = some x) :
    ∃ e' x', (w.after es).store.resource? id = some e' ∧
      (w.after es).store.gist? e.guard = some x' ∧
      Life.Steps e.guard id (w.life h id e x)
        ((w.after es).life (h ++ w.history es) id e' x') := by
  induction es generalizing w h e x with
  | nil =>
    rw [history, List.append_nil]
    exact ⟨e, x, he, hx, .refl⟩
  | cons event es ih =>
    obtain ⟨e', x', he', hx', hle, -, hsteps⟩ := hw.steps_occur event he hx
    obtain ⟨e'', x'', he'', hx'', hsteps'⟩ := ih (hw.step event) he' (hle.guard ▸ hx')
    rw [hle.guard] at hx'' hsteps'
    rw [history, ← List.append_assoc]
    exact ⟨e'', x'', he'', hx'', hsteps.trans hsteps'⟩

theorem Regular.step (hr : w.Regular h) (hw : w.Orderly h) (event : Event) :
    (w.occur event).Regular (h ++ w.marks event) := by
  intro id e' x' he' hx'
  cases he : w.store.resource? id with
  | none =>
    obtain ⟨src, dst, hact, hsrc, hspots⟩ := hw.occur event
    rw [life, hact.born hw.2 hspots he he' hx']
    exact Life.regular_new _ _ _ ((hw.step event).2.refuses e'.guard x' hx')
  | some e =>
    obtain ⟨x, hx⟩ := hw.2.entries id e he
    obtain ⟨e'', x'', he'', hx'', hle, -, hsteps⟩ := hw.steps_occur event he hx
    cases he'.symm.trans he''
    rw [hle.guard] at hx' ⊢
    cases hx'.symm.trans hx''
    exact (hr id e x he hx).steps hsteps

theorem Regular.after (hr : w.Regular h) (hw : w.Orderly h) (es : List Event) :
    (w.after es).Regular (h ++ w.history es) := by
  induction es generalizing w h with
  | nil =>
    rw [history, List.append_nil]
    exact hr
  | cons e es ih =>
    rw [history, ← List.append_assoc]
    exact ih (hr.step hw e) (hw.step e)

/-- Whatever has happened since the start, all lives are regular. -/
theorem regular_after (probes : Array Probe) (environment : Environment) (output : Output)
    (es : List Event) :
    ((boot probes environment output).after es).Regular
      ((boot probes environment output).history es) := by
  refine (after_induction _ (fun w h => w.Orderly h ∧ w.Regular h)
    ⟨orderly_boot probes environment output, fun id e x he => ?_⟩ (fun w h e hw => ?_) es).2
  · simp [boot, Store.resource?] at he
  · exact ⟨hw.1.step e, hw.2.step hw.1 e⟩

end System

/-! ## Releases under way -/

/-- The handle that a call to release or the item of a worker is about. -/
def Frame.about? : Frame → Option HandleId
  | .release id _ => some id
  | .worker _ (.took (.reclaim id)) => some id
  | .worker _ (.processing (.reclaim id)) => some id
  | .worker _ (.reporting id) => some id
  | .worker _ (.running id) => some id
  | .worker _ (.settling id _) => some id
  | .worker _ (.announcing id _) => some id
  | _ => none

/-- No call to release the handle is under way, and no worker has it in hand. -/
def System.Settled (w : System) (id : HandleId) : Prop :=
  ∀ th ∈ w.threads, ∀ frame ∈ th.stack, frame.about? ≠ some id

/-- The handle that a spot keeps busy. -/
def Spot.busy? : Spot → Option HandleId
  | .asking id => some id
  | .winning id => some id
  | .calling id => some id
  | .won id => some id
  | .lost id => some id
  | .carried _ id => some id
  | .reporting _ id => some id
  | .serving _ id => some id
  | _ => none

theorem Frame.about_of_spots {frame : Frame} {y : Spot} (hy : y ∈ frame.spots) {id : HandleId}
    (hid : y.busy? = some id) : frame.about? = some id ∨ frame.callback? = some id := by
  cases frame with
  | register q p => cases p <;> simp [spots] at hy <;> subst hy <;> cases hid
  | release id' p =>
    left
    cases p <;> simp [spots] at hy <;> subst hy <;> exact hid
  | callback id' p =>
    right
    cases p <;> simp [spots] at hy
    subst hy
    exact hid
  | drop id' p => cases p <;> simp [spots] at hy <;> subst hy <;> cases hid
  | bindGuard name g =>
    simp [spots] at hy
    subst hy
    cases hid
  | worker g p =>
    left
    cases p with
    | took item | processing item =>
      cases item <;> simp [spots] at hy
      subst hy
      exact hid
    | _ =>
      simp [spots] at hy
      try subst hy; exact hid
  | _ => simp [spots] at hy

/-- Whoever waits for a callback is about its handle. -/
theorem Frame.about_of_awaits {frame : Frame} {id : HandleId} (h : frame.awaits? = some id) :
    frame.about? = some id := by
  cases frame with
  | release id' p =>
    cases p with
    | running => exact h
    | _ => cases h
  | worker g p =>
    cases p with
    | running id' => exact h
    | _ => cases h
  | _ => cases h

namespace System
variable {w : System} {h : History} {id : HandleId} {e : Entry} {x : Gist}

/-- Nothing keeps a settled handle busy. -/
theorem Settled.on (hs : w.Settled id) (hd : w.Disciplined) {y : Spot} (hy : y.busy? = some id) :
    (w.life h id e x).on y = 0 := by
  rw [Life.on, Multiset.count_eq_zero]
  intro hin
  obtain ⟨th, hth, frame, hframe, hspot⟩ := mem_spots.mp (Multiset.mem_of_mem_filter hin)
  rcases Frame.about_of_spots hspot hy with habout | hcallback
  · exact hs th hth frame hframe habout
  · -- a callback is waited for below it
    obtain ⟨frame', hframe', hawaits⟩ := (hd th hth).awaited hframe hcallback
    exact hs th hth frame' hframe' (Frame.about_of_awaits hawaits)

/-- A handle that nobody is busy with has had its callback started if it has been released, and
counted if the worker has claimed it, except where the sink panicked at the news. -/
theorem Regular.finished (hr : w.Regular h) (hw : w.Orderly h)
    (he : w.store.resource? id = some e) (hx : w.store.gist? e.guard = some x)
    (hs : w.Settled id) :
    (w.life h id e x).runs + h.count (id, .aborted e.guard) = (w.life h id e x).released ∧
      h.count (id, .settled e.guard false) + h.count (id, .settled e.guard true) +
          h.count (id, .aborted e.guard) =
        h.count (id, .claimed (.reclaim e.guard) true) := by
  have hheard := (hr id e x he hx).heard
  have hruns := hheard.runs
  have hsettled := hheard.settled
  have hwinning : (w.life h id e x).on (.winning id) = 0 := hs.on hw.1 rfl
  have hcalling : (w.life h id e x).on (.calling id) = 0 := hs.on hw.1 rfl
  have hreporting : (w.life h id e x).on (.reporting e.guard id) = 0 := hs.on hw.1 rfl
  have hserving : (w.life h id e x).on (.serving e.guard id) = 0 := hs.on hw.1 rfl
  rw [saw_life (m := .aborted e.guard) rfl] at hruns hsettled
  rw [saw_life (m := .settled e.guard false) rfl, saw_life (m := .settled e.guard true) rfl,
    saw_life (m := .claimed (.reclaim e.guard) true) rfl] at hsettled
  omega

end System

end Reclaim

import Reclaim.Proofs.Counters
import Reclaim.Proofs.Lives

/-!
# Fates

A source that no outsider reaches gets handles from their drops only. Then a handle is held, or
released, or on its way through the source, or lost to an interruption, and always only one of
these; the worker finds what it takes.

* `Fate`, `Fate.Of` : what can have become of a handle; `Life.Kept.met` : it has met one fate;
* `System.LosesNone` : what that amounts to for a guard; `System.loses_none`.
-/

namespace Reclaim

/-- What can have become of a handle. -/
inductive Fate where
  /-- It is active, and held or being dropped. -/
  | held
  /-- A call has claimed it. -/
  | released
  /-- It has been dropped and waits in the source. -/
  | pending
  /-- The worker has taken it from the source. -/
  | taken
  /-- An interruption has thrown it away. -/
  | thrown
  /-- It was dropped after the interruption. -/
  | refused
deriving DecidableEq

/-- A drop of the handle is under way that has not yet come to the source. -/
def System.Dropping (w : System) (id : HandleId) : Prop :=
  .dropped id ∈ w.spots ∨ .queueing id ∈ w.spots

/-- What has become of the handle with this entry, whose own guard has this gist. -/
def Fate.Of (w : System) (h : History) (id : HandleId) (e : Entry) (x : Gist) : Fate → Prop
  | held => e.state = .active ∧ (e.owners ≠ 0 ∨ e.users ≠ 0 ∨ w.Dropping id)
  | released => (id, .claimed .release true) ∈ h
  | pending => id ∈ x.waiting
  | taken => (id, .taken e.guard) ∈ h
  | thrown => (id, .thrown e.guard) ∈ h
  | refused => (id, .refused) ∈ h

/-! ## One fate at a time -/

namespace Life
variable {g : GuardId} {id : HandleId} {b : Life}

/-- How often a handle has met a fate. -/
def met (g : GuardId) (id : HandleId) (b : Life) : Fate → Nat
  | .held =>
      if b.released = 0 then min (b.owners + b.users) 1 + b.on (.dropped id) + b.on (.queueing id)
      else 0
  | .released => b.saw (.claimed .release true)
  | .pending => b.pending
  | .taken => b.saw (.taken g)
  | .thrown => b.saw (.thrown g)
  | .refused => b.saw .refused

/-- A handle of a plain guard meets one fate. -/
theorem Kept.met (hk : b.Kept g id) (h : b.Sound g id) :
    b.met g id .held + b.met g id .released + b.met g id .pending + b.met g id .taken +
      b.met g id .thrown + b.met g id .refused = 1 := by
  have hlisted := h.listed
  have hwins := h.wins
  have hactive := hk.active
  have hqueued := hk.queued
  have htaken := hk.taken
  have hreleased := hk.released
  simp only [Life.met]
  split <;> omega

/-- One fate only. -/
theorem existsUnique_met (h : b.met g id .held + b.met g id .released + b.met g id .pending +
    b.met g id .taken + b.met g id .thrown + b.met g id .refused = 1) :
    ∃! f, b.met g id f ≠ 0 := by
  have hone : ∀ f f', b.met g id f ≠ 0 → b.met g id f' ≠ 0 → f' = f := by
    intro f f' hf hf'
    cases f <;> cases f' <;> first | rfl | (exfalso; omega)
  have hsome : ∃ f, b.met g id f ≠ 0 := by
    by_contra hnone
    have hzero : ∀ f, b.met g id f = 0 := fun f => by
      by_contra hf
      exact hnone ⟨f, hf⟩
    simp [hzero] at h
  obtain ⟨f, hf⟩ := hsome
  exact ⟨f, hf, fun f' hf' => hone f f' hf hf'⟩

/-- The guard keeps track of a handle that has been dropped while active. -/
theorem Kept.listed_eq_one (hk : b.Kept g id) (h : b.Sound g id) (hactive : b.released = 0)
    (hdropped : b.saw .queued + b.saw .refused ≠ 0) : b.listed = 1 := by
  have hlisted := h.listed
  have honce := h.once
  have := hk.undropped
  omega

/-- A handle that waits, that has been thrown away or that has been refused is active. -/
theorem Kept.released_eq_zero (hk : b.Kept g id) (h : b.Sound g id)
    (hcome : b.pending + b.saw (.thrown g) + b.saw .refused ≠ 0) : b.released = 0 := by
  have hlisted := h.listed
  have hreleased := hk.released
  omega

/-- What has been taken is still carried, or has been claimed by the worker. -/
theorem Kept.claimed_of_taken (hk : b.Kept g id) (h : b.Sound g id) (htaken : b.saw (.taken g) ≠ 0)
    (hcarried : b.on (.carried g id) = 0) :
    b.saw (.claimed (.reclaim g) true) ≠ 0 ∧ b.released = 1 := by
  have hclaimed := hk.taken
  have hwins := h.wins
  have hlisted := h.listed
  omega

end Life

/-- A fate is one that the handle has met. -/
theorem Fate.of_iff {w : System} {h : History} {id : HandleId} {e : Entry} {x : Gist} {f : Fate} :
    f.Of w h id e x ↔ (w.life h id e x).met e.guard id f ≠ 0 := by
  cases f with
  | held =>
    have hdropped : (w.life h id e x).on (.dropped id) = w.spots.count (.dropped id) :=
      System.on_life rfl
    have hqueueing : (w.life h id e x).on (.queueing id) = w.spots.count (.queueing id) :=
      System.on_life rfl
    have howners : (w.life h id e x).owners = e.owners := rfl
    have husers : (w.life h id e x).users = e.users := rfl
    rw [Of, System.Dropping, ← Multiset.count_pos, ← Multiset.count_pos, Life.met, hdropped, hqueueing,
      howners, husers]
    cases hs : e.state with
    | active =>
      rw [System.life_released_eq_zero hs, if_pos rfl]
      simp only [true_and]
      omega
    | released =>
      rw [System.life_released_eq_one hs, if_neg one_ne_zero]
      simp
  | pending => exact List.count_pos_iff.symm.trans Nat.pos_iff_ne_zero
  | released | taken | thrown | refused =>
    simp only [Of, Life.met]
    rw [System.saw_life (by simp [Mark.Concerns]), ← Nat.pos_iff_ne_zero, List.count_pos_iff]

/-! ## A guard that loses nothing -/

namespace System
variable {w : System} {h : History} {g : GuardId} {x : Gist}

/-- Nothing gets lost between the owners of a guard's handles and its worker, and nothing is handled
twice. -/
structure LosesNone (w : System) (h : History) (g : GuardId) (x : Gist) : Prop where
  /-- No handle waits twice, -/
  distinct : x.waiting.Nodup
  /-- and those that wait have been dropped while active, and are kept track of. -/
  waiting : ∀ id ∈ x.waiting, ∃ e, w.store.resource? id = some e ∧ e.guard = g ∧ e.owners = 0 ∧
    e.users = 0 ∧ ¬w.Dropping id ∧ e.state = .active ∧ id ∈ x.registry.ids
  /-- The worker finds what it takes. -/
  found : (∀ id, (id, .claimed (.reclaim g) false) ∉ h) ∧ x.stats.discarded = 0
  /-- Every handle has met one fate. -/
  fates : ∀ id e, w.store.resource? id = some e → e.guard = g → ∃! f, Fate.Of w h id e x f
  /-- A handle comes to the source once at most. -/
  dropped : ∀ id e, w.store.resource? id = some e → e.guard = g →
    h.count (id, .queued) + h.count (id, .refused) ≤ 1
  /-- What has been taken is in the worker's hands or has been claimed by it. -/
  taken : ∀ id e, w.store.resource? id = some e → e.guard = g → (id, .taken g) ∈ h →
    (.carried g id ∈ w.spots ∧ e.state = .active) ∨
      ((id, .claimed (.reclaim g) true) ∈ h ∧ e.state = .released)
  /-- What an interruption keeps from the worker stays active and kept track of, and its callback
  never starts. -/
  stranded : ∀ id e, w.store.resource? id = some e → e.guard = g →
    (id, .thrown g) ∈ h ∨ (id, .refused) ∈ h →
      x.interrupted = true ∧ e.owners = 0 ∧ e.users = 0 ∧ e.state = .active ∧
        id ∈ x.registry.ids ∧ (w.store.runs.map Prod.fst).count id = 0
  /-- What is dropped after the interruption is not queued but offered to the sink as a leak, once. -/
  leaked : ∀ id e, w.store.resource? id = some e → e.guard = g → (id, .refused) ∈ h →
    h.count (id, .queued) = 0 ∧ h.count (id, .leaked) + w.spots.count (.leaking id) = 1
  /-- The sink has been offered these leaks and no others. -/
  told : x.leaks = w.store.leaksOf g h

/-- A plain source holds handles of its own guard only. -/
theorem own_of_admits (hx : w.store.gist? g = some x) (hp : x.exposed = false) {id : HandleId}
    (hid : w.store.Admits g id) : ∃ e, w.store.resource? id = some e ∧ e.guard = g := by
  obtain ⟨e, x', he, hx', hown⟩ := hid
  cases hx.symm.trans hx'
  exact ⟨e, he, hown hp⟩

section Handle
variable {id : HandleId} {e : Entry}

variable (hr : w.Regular h) (he : w.store.resource? id = some e)
  (hx : w.store.gist? e.guard = some x) (hp : x.exposed = false)
include hr he hx hp

/-- The worker never claims a handle in vain. -/
theorem Regular.found : (id, .claimed (.reclaim e.guard) false) ∉ h := by
  intro hin
  exact saw_of_mem hin rfl ((hr id e x he hx).kept hp).found

/-- A handle that has come to the source has no holders left. -/
theorem Regular.unheld (hcome : (w.life h id e x).saw .queued + (w.life h id e x).saw .refused ≠ 0) :
    e.owners = 0 ∧ e.users = 0 ∧ ¬w.Dropping id := by
  have hplace := ((hr id e x he hx).kept hp).place
  have howners : (w.life h id e x).owners = e.owners := rfl
  have husers : (w.life h id e x).users = e.users := rfl
  have hdropped : (w.life h id e x).on (.dropped id) = w.spots.count (.dropped id) := on_life rfl
  have hqueueing : (w.life h id e x).on (.queueing id) = w.spots.count (.queueing id) := on_life rfl
  rw [Dropping, ← Multiset.count_pos, ← Multiset.count_pos]
  omega

/-- A handle that has come to the source while active is kept track of. -/
theorem Regular.listed (hactive : (w.life h id e x).released = 0)
    (hcome : (w.life h id e x).saw .queued + (w.life h id e x).saw .refused ≠ 0) :
    id ∈ x.registry.ids := by
  have hlisted := ((hr id e x he hx).kept hp).listed_eq_one (hr id e x he hx).sound hactive hcome
  rw [← List.count_pos_iff, ← listed_life (w := w) (h := h) (e := e), hlisted]
  exact one_pos

theorem Regular.fate : ∃! f, Fate.Of w h id e x f := by
  have hmet := ((hr id e x he hx).kept hp).met (hr id e x he hx).sound
  simpa only [Fate.of_iff] using Life.existsUnique_met hmet

theorem Regular.waits_once : x.waiting.count id ≤ 1 := by
  have hmet := ((hr id e x he hx).kept hp).met (hr id e x he hx).sound
  have : (w.life h id e x).met e.guard id .pending = x.waiting.count id := rfl
  omega

theorem Regular.waits (hin : id ∈ x.waiting) : e.owners = 0 ∧ e.users = 0 ∧ ¬w.Dropping id ∧
    e.state = .active ∧ id ∈ x.registry.ids := by
  have hk := (hr id e x he hx).kept hp
  have hpending : 0 < (w.life h id e x).pending := List.count_pos_iff.mpr hin
  have hqueued := hk.queued
  have hactive := hk.released_eq_zero (hr id e x he hx).sound (by omega)
  obtain ⟨howners, husers, hdrop⟩ := hr.unheld he hx hp (by omega)
  exact ⟨howners, husers, hdrop, state_of_life.1.mp hactive, hr.listed he hx hp hactive (by omega)⟩

theorem Regular.dropped_once : h.count (id, .queued) + h.count (id, .refused) ≤ 1 := by
  have hplace := ((hr id e x he hx).kept hp).place
  have hqueued : (w.life h id e x).saw .queued = h.count (id, .queued) := saw_life trivial
  have hrefused : (w.life h id e x).saw .refused = h.count (id, .refused) := saw_life trivial
  omega

theorem Regular.taken (hin : (id, .taken e.guard) ∈ h) :
    (.carried e.guard id ∈ w.spots ∧ e.state = .active) ∨
      ((id, .claimed (.reclaim e.guard) true) ∈ h ∧ e.state = .released) := by
  have hk := (hr id e x he hx).kept hp
  have hsound := (hr id e x he hx).sound
  by_cases hcarried : (w.life h id e x).on (.carried e.guard id) = 0
  · right
    obtain ⟨hwon, hreleased⟩ := hk.claimed_of_taken hsound (saw_of_mem hin rfl) hcarried
    exact ⟨mem_of_saw hwon rfl, state_of_life.2.mp hreleased⟩
  · left
    refine ⟨?_, state_of_life.1.mp (hk.carried hsound hcarried).2⟩
    rw [on_life (y := .carried e.guard id) ⟨rfl, rfl⟩] at hcarried
    exact Multiset.count_pos.mp (Nat.pos_iff_ne_zero.mpr hcarried)

theorem Regular.stranded (hin : (id, .thrown e.guard) ∈ h ∨ (id, .refused) ∈ h) :
    x.interrupted = true ∧ e.owners = 0 ∧ e.users = 0 ∧ e.state = .active ∧
      id ∈ x.registry.ids ∧ (w.store.runs.map Prod.fst).count id = 0 := by
  have hk := (hr id e x he hx).kept hp
  have hlost : (w.life h id e x).saw (.thrown e.guard) + (w.life h id e x).saw .refused ≠ 0 := by
    rcases hin with hin | hin
    · have hthrown := saw_of_mem (w := w) (x := x) hin rfl
      omega
    · have hrefused := saw_of_mem (w := w) (e := e) (x := x) hin trivial
      omega
  have hqueued := hk.queued
  have hactive := hk.released_eq_zero (hr id e x he hx).sound (by omega)
  obtain ⟨howners, husers, -⟩ := hr.unheld he hx hp (by omega)
  have hruns := (hr id e x he hx).runs_le_released
  refine ⟨?_, howners, husers, state_of_life.1.mp hactive, hr.listed he hx hp hactive (by omega),
    Nat.le_zero.mp (hactive ▸ hruns)⟩
  -- only an interruption throws away, and only after it anything is refused
  have hclosed : (w.life h id e x).closed = x.interrupted.toNat := rfl
  cases hi : x.interrupted with
  | true => rfl
  | false =>
    rw [hi] at hclosed
    exact absurd (hk.closed.2.1 hclosed) hlost

theorem Regular.leaked_once (hin : (id, .refused) ∈ h) :
    h.count (id, .queued) = 0 ∧ h.count (id, .leaked) + w.spots.count (.leaking id) = 1 := by
  have hk := (hr id e x he hx).kept hp
  have hplace := hk.place
  have hrefused := hk.refused
  have hcount := saw_of_mem (w := w) (e := e) (x := x) hin trivial
  have hleaking : (w.life h id e x).on (.leaking id) = w.spots.count (.leaking id) := on_life rfl
  have hleaked : (w.life h id e x).saw .leaked = h.count (id, .leaked) := saw_life trivial
  have hnever : (w.life h id e x).saw .queued = h.count (id, .queued) := saw_life trivial
  omega

end Handle

theorem Orderly.losesNone (hw : w.Orderly h) (hr : w.Regular h) (hx : w.store.gist? g = some x)
    (hc : x.Counts w.store g h) (hp : x.exposed = false) : w.LosesNone h g x := by
  have hfound : ∀ id, (id, .claimed (.reclaim g) false) ∉ h := by
    intro id hin
    obtain ⟨e, he, rfl⟩ := own_of_admits hx hp (hw.2.marks id _ hin)
    exact hr.found he hx hp hin
  exact
    { distinct := by
        rw [List.nodup_iff_count_le_one]
        intro id
        by_cases hin : id ∈ x.waiting
        · obtain ⟨e, he, rfl⟩ := own_of_admits hx hp (hw.2.waiting g x id hx hin)
          exact hr.waits_once he hx hp
        · rw [List.count_eq_zero.mpr hin]
          exact Nat.zero_le 1
      waiting := by
        intro id hin
        obtain ⟨e, he, rfl⟩ := own_of_admits hx hp (hw.2.waiting g x id hx hin)
        exact ⟨e, he, rfl, hr.waits he hx hp hin⟩
      found := by
        refine ⟨hfound, hc.discarded.trans ?_⟩
        rw [History.times, List.count_eq_zero]
        intro hin
        obtain ⟨⟨id, _⟩, hmem, rfl⟩ := List.mem_map.mp hin
        exact hfound id hmem
      fates := by
        rintro id e he rfl
        exact hr.fate he hx hp
      dropped := by
        rintro id e he rfl
        exact hr.dropped_once he hx hp
      taken := by
        rintro id e he rfl
        exact hr.taken he hx hp
      stranded := by
        rintro id e he rfl
        exact hr.stranded he hx hp
      leaked := by
        rintro id e he rfl
        exact hr.leaked_once he hx hp
      told := hc.leaks }

/-- Whatever happens in a process, a guard whose source no outsider reaches loses none of its handles
and handles none twice, and a handle that has been released, taken, thrown away or refused has met
its fate for good. -/
theorem loses_none (probes : Array Probe) (environment : Environment) (output : Output)
    (es : List Event) {g : GuardId} {x : Gist}
    (hx : ((boot probes environment output).after es).store.gist? g = some x)
    (hp : x.exposed = false) :
    ((boot probes environment output).after es).LosesNone
        ((boot probes environment output).history es) g x ∧
      ∀ es' id e (f : Fate), ((boot probes environment output).after es).store.resource? id = some e →
        e.guard = g → f ≠ .held → f ≠ .pending →
        f.Of ((boot probes environment output).after es)
          ((boot probes environment output).history es) id e x →
        ∃ e' x', ((boot probes environment output).after (es ++ es')).store.resource? id = some e' ∧
          ((boot probes environment output).after (es ++ es')).store.gist? g = some x' ∧
          f.Of ((boot probes environment output).after (es ++ es'))
            ((boot probes environment output).history (es ++ es')) id e' x' := by
  have hw := orderly_after probes environment output es
  refine ⟨hw.losesNone (regular_after probes environment output es) hx
    (counts_after probes environment output es hx) hp, ?_⟩
  intro es' id e f he hg hheld hpending hf
  obtain ⟨e', he', hle⟩ := (extends_after hw es').entry id e he
  obtain ⟨x', hx', -⟩ := (extends_after hw es').gist g x hx
  rw [after_append, history_append]
  refine ⟨e', x', he', hx', ?_⟩
  cases f with
  | held => exact absurd rfl hheld
  | pending => exact absurd rfl hpending
  | released | refused => exact List.mem_append_left _ hf
  | taken | thrown =>
    rw [Fate.Of, hle.guard]
    exact List.mem_append_left _ hf

/-- One of two handles is dropped, the guard shuts down before its worker has looked, and the other
is dropped after that. -/
def stranding : List Event :=
  .join .caller
      [.startGuard "g" {} .plain none,
        .register (.guard "g") "x" { address := 7, callback := some {} },
        .register (.guard "g") "y" { address := 8, callback := some {} },
        .drop "x", .shutdown "g", .drop "y"] ::
    (List.replicate 24 (.move (.act 0)) ++ List.replicate 8 (.move (.act 1)) ++
      List.replicate 8 (.move (.act 0)))

theorem loses_none_stranding :
    ∃ x, ((boot #[] none {}).after stranding).store.gist? 0 = some x ∧ x.exposed = false ∧
      ((boot #[] none {}).after stranding).LosesNone ((boot #[] none {}).history stranding) 0 x ∧
      (⟨1⟩, .thrown 0) ∈ (boot #[] none {}).history stranding ∧
      (⟨2⟩, .refused) ∈ (boot #[] none {}).history stranding := by
  have hrun : (((boot #[] none {}).after stranding).store.gist? 0).map Gist.exposed =
      some false := by
    decide +kernel
  obtain ⟨x, hx, hp⟩ := Option.map_eq_some_iff.mp hrun
  refine ⟨x, hx, hp, (loses_none #[] none {} stranding hx hp).1, ?_, ?_⟩
  · decide +kernel
  · decide +kernel

end System

end Reclaim

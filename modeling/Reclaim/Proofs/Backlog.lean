import Reclaim.Proofs.Containment
import Reclaim.Proofs.Fixtures

/-!
# What waits for a worker

What the worker of a guard makes of the items that wait for it, whichever they are: handles that the guard
keeps track of, handles that it does not, handles that come more than once, and flush requests. The sink takes
everything and the callbacks have no commands to carry out.

* `Registry.due` : the handles that are the guard's to release, by their first occurrence;
* `Ward.course`, `Ward.Sound.course_ran`, `Ward.Sound.count_course` : what becomes of the items, and what is counted;
* `Sink.mood`, `System.serve_mood` : a sink that stays in its mood;
* `System.Sits.backlog` : when the worker is through with each of the items;
* `System.Handled`, `System.backlog_handled` : what there is then.
-/

namespace Reclaim

/-! ## What is due -/

/-- The handles among the items that a guard keeps track of, by their first occurrence. -/
def Registry.due (r : Registry) (items : List Item) : List HandleId :=
  ((items.filterMap Item.id?).filter r.contains).eraseDups

namespace Registry
variable {r : Registry} {id : HandleId} {items : List Item}

theorem mem_due : id ∈ r.due items ↔ .reclaim id ∈ items ∧ id ∈ r.ids := by
  have hitem : ∀ i : Item, i.id? = some id ↔ i = .reclaim id := fun i => by cases i <;> simp [Item.id?]
  simp [due, contains, List.mem_eraseDups, hitem]

@[simp] theorem due_flush (ack : Nat) : r.due (.flush ack :: items) = r.due items := rfl

/-- What is due when the first item has been handled. -/
theorem due_reclaim (hr : r.ids.Nodup) : r.due (.reclaim id :: items) =
    if r.contains id then id :: (r.erase id).due items else (r.erase id).due items := by
  have hids : (Item.reclaim id :: items).filterMap Item.id? = id :: items.filterMap Item.id? := rfl
  unfold due
  rw [hids, List.filter_cons]
  split
  · rw [List.eraseDups_cons, List.filter_filter]
    refine congrArg (fun ids => id :: ids.eraseDups) (List.filter_congr fun id' _ => ?_)
    rw [Bool.eq_iff_iff]
    simp [contains, erase, hr.mem_erase_iff]
  · next hnot =>
    have hsame : r.erase id = r := by
      rw [erase, List.erase_of_not_mem (by simpa [contains] using hnot)]
    rw [hsame]

theorem nodup_due (hr : r.ids.Nodup) (items : List Item) : (r.due items).Nodup := by
  induction items generalizing r with
  | nil => exact .nil
  | cons item items ih =>
    cases item with
    | flush ack => exact ih hr
    | reclaim id =>
      rw [due_reclaim hr]
      split
      · refine List.nodup_cons.mpr ⟨fun hin => ?_, ih (r := r.erase id) (hr.erase id)⟩
        exact (hr.mem_erase_iff.mp (mem_due.mp hin).2).1 rfl
      · exact ih (r := r.erase id) (hr.erase id)

end Registry

/-- What a worker has counted that has run the callbacks of some handles, which end like this, and has found
nothing to release for the other items. -/
structure Stats.Counts (c c' : Stats) (ids : List HandleId) (fate : HandleId → Option Panic)
    (items : List Item) : Prop where
  registered : c'.registered = c.registered
  released : c'.released = c.released
  reclaimed : c'.reclaimed = c.reclaimed + ids.countP fun id => (fate id).isNone
  releaseFailures : c'.releaseFailures = c.releaseFailures + ids.countP fun id => (fate id).isSome
  discarded : c'.discarded + ids.length = c.discarded + (items.filterMap Item.id?).length

/-! ## What becomes of the items -/

/-- How a callback has ended, if one has run. -/
def Upshot.ran? : Upshot → Option (HandleId × Option Panic)
  | .finished id _ panic _ => some (id, panic)
  | _ => none

/-- A callback has started or ended. -/
def Deed.isRun : Deed → Bool
  | began _ _ | ended _ _ _ => true
  | _ => false

theorem Upshot.deeds_runs (g : GuardId) (u : Upshot) : (u.deeds g).filter Deed.isRun =
    u.ran?.toList.flatMap fun (id, panic) => [.began (.reclaim g) id, .ended (.reclaim g) id panic] := by
  cases u <;> rfl

theorem Upshot.flatMap_deeds_runs (g : GuardId) (us : List Upshot) : (us.flatMap (Upshot.deeds g)).filter Deed.isRun =
    (us.filterMap Upshot.ran?).flatMap fun (id, panic) =>
      [.began (.reclaim g) id, .ended (.reclaim g) id panic] := by
  induction us with
  | nil => rfl
  | cons u us ih =>
    rw [List.flatMap_cons, List.filter_append, ih, deeds_runs, List.filterMap_cons]
    cases u.ran? <;> rfl

namespace Ward
variable {v : Ward} {items : List Item} {id : HandleId} {us : List Upshot} {g : GuardId}

/-- How a run of the callback of a handle ends. -/
def fate (v : Ward) (id : HandleId) : Option Panic := (v.resource? id).bind v.ending

/-- Each handle that the guard keeps track of comes once and is active. -/
structure Sound (v : Ward) : Prop where
  nodup : v.guard.registry.ids.Nodup
  active : ∀ id ∈ v.guard.registry.ids, ∃ e, v.resource? id = some e ∧ e.state = .active

theorem Sound.claimable? (h : v.Sound) (id : HandleId) :
    v.claimable? id = if v.guard.registry.contains id then v.resource? id else none := by
  unfold Ward.claimable?
  split
  · next hin =>
    obtain ⟨e, he, hactive⟩ := h.active id (by simpa [Registry.contains] using hin)
    simp [he, hactive]
  · rfl

/-- A handle that is the guard's to release is one that it keeps track of. -/
theorem Sound.isSome_claimable? (h : v.Sound) (id : HandleId) :
    (v.claimable? id).isSome = v.guard.registry.contains id := by
  rw [h.claimable?]
  split
  · next hin =>
    obtain ⟨e, he, -⟩ := h.active id (by simpa [Registry.contains] using hin)
    rw [he, hin]
    rfl
  · next hnot => simpa using hnot

theorem Sound.registry_handle (h : v.Sound) (item : Item) : (v.handle item).guard.registry =
    item.id?.elim v.guard.registry v.guard.registry.erase := by
  cases item with
  | flush ack => rfl
  | reclaim id =>
    simp only [handle, h.isSome_claimable?, Item.id?, Option.elim]
    split
    · rfl
    · next hnot =>
      rw [Registry.erase, List.erase_of_not_mem (by simpa [Registry.contains] using hnot)]
      rfl

theorem Sound.handle (h : v.Sound) (item : Item) : (v.handle item).Sound := by
  have hregistry := h.registry_handle item
  cases item with
  | flush ack => exact ⟨h.nodup, h.active⟩
  | reclaim id =>
    have hids : (v.handle (.reclaim id)).guard.registry.ids = v.guard.registry.ids.erase id :=
      congrArg Registry.ids hregistry
    refine ⟨hids ▸ h.nodup.erase id, fun id' hin => ?_⟩
    obtain ⟨hne, hin⟩ := h.nodup.mem_erase_iff.mp (hids ▸ hin)
    rw [resource?_handle, if_neg (by simp [Ne.symm hne])]
    exact h.active id' hin

theorem fate_handle (v : Ward) (item : Item) (id : HandleId) : (v.handle item).fate id = v.fate id := by
  have hfailing : (v.handle item).failing = v.failing := by
    cases item with
    | flush ack => rfl
    | reclaim id' =>
      simp only [handle]
      split <;> rfl
  have hending : (v.handle item).ending = v.ending := by
    funext e
    simp only [ending, hfailing]
  rw [fate, hending, resource?_handle, fate]
  split
  · cases v.resource? id <;> rfl
  · rfl

/-- What becomes of items that are handled one after the other, when the sink takes everything. -/
def course : Ward → List Item → List Upshot
  | _, [] => []
  | v, item :: items => v.upshot false false item :: (v.handle item).course items

/-- A sink that takes everything leaves nothing open. -/
theorem Upshots.eq_course (h : v.Upshots items us)
    (hmild : ∀ about d, .said g about d true ∉ us.flatMap (Upshot.deeds g)) : us = v.course items := by
  induction h with
  | nil v => rfl
  | @cons v item items us before after h ih =>
    simp only [List.flatMap_cons, List.mem_append, not_or] at hmild
    rw [course, ← ih fun about d => (hmild about d).2]
    congr 1
    cases item with
    | flush ack => rfl
    | reclaim id =>
      have hfirst := fun about d => (hmild about d).1
      simp only [upshot] at hfirst ⊢
      cases he : v.claimable? id with
      | none => rfl
      | some e =>
        rw [he] at hfirst
        cases before with
        | true =>
          have := hfirst (some id) (.notProperlyClosed e.address)
          simp [Upshot.claimed, Upshot.deeds, Upshot.sequel] at this
        | false =>
          cases after with
          | true =>
            have := hfirst (some id) (e.announcement (v.ending e))
            simp [Upshot.claimed, Upshot.deeds, Upshot.sequel] at this
          | false => rfl

/-- The first item, if it is a handle. -/
theorem Sound.upshot_reclaim (h : v.Sound) (id : HandleId) :
    (v.guard.registry.contains id = true ∧
      ∃ e, v.upshot false false (.reclaim id) = .finished id e (v.fate id) false) ∨
    (v.guard.registry.contains id = false ∧ v.upshot false false (.reclaim id) = .discarded id) := by
  cases hin : v.guard.registry.contains id with
  | true =>
    obtain ⟨e, he, -⟩ := h.active id (by simpa [Registry.contains] using hin)
    refine .inl ⟨rfl, e, ?_⟩
    simp only [upshot, h.claimable?, hin, if_true, he, fate, Option.bind_some]
    rfl
  | false =>
    refine .inr ⟨rfl, ?_⟩
    simp only [upshot, h.claimable?, hin, Bool.false_eq_true, if_false]

/-- The callbacks that run are those of the handles that are due. -/
theorem Sound.course_ran (h : v.Sound) (items : List Item) : (v.course items).filterMap Upshot.ran? =
    (v.guard.registry.due items).map fun id => (id, v.fate id) := by
  induction items generalizing v with
  | nil => rfl
  | cons item items ih =>
    have hrest := ih (h.handle item)
    have hregistry := h.registry_handle item
    simp only [fate_handle, hregistry] at hrest
    cases item with
    | flush ack => exact hrest
    | reclaim id =>
      rw [course, Registry.due_reclaim h.nodup]
      obtain ⟨hin, e, hupshot⟩ | ⟨hin, hupshot⟩ := h.upshot_reclaim id
      · rw [hupshot, List.filterMap_cons, hrest, hin, if_pos rfl, List.map_cons]
        rfl
      · rw [hupshot, List.filterMap_cons, hrest, hin]
        rfl

/-- What has been counted in the end. -/
theorem Sound.count_course (h : v.Sound) (items : List Item) (c : Stats) :
    c.Counts ((v.course items).foldl Upshot.count c) (v.guard.registry.due items) v.fate items := by
  induction items generalizing v c with
  | nil => exact ⟨rfl, rfl, rfl, rfl, rfl⟩
  | cons item items ih =>
    have hfate : (v.handle item).fate = v.fate := funext (v.fate_handle item)
    have hrest := ih (h.handle item)
    rw [hfate, h.registry_handle item] at hrest
    cases item with
    | flush ack =>
      obtain ⟨hregistered, hreleased, hreclaimed, hfailures, hdiscarded⟩ := hrest c
      exact ⟨hregistered, hreleased, hreclaimed, hfailures, hdiscarded⟩
    | reclaim id =>
      rw [course, Registry.due_reclaim h.nodup, List.foldl_cons]
      obtain ⟨hin, e, hupshot⟩ | ⟨hin, hupshot⟩ := h.upshot_reclaim id
      · obtain ⟨hregistered, hreleased, hreclaimed, hfailures, hdiscarded⟩ := hrest (c.settle (v.fate id))
        rw [hupshot, hin, if_pos rfl]
        refine ⟨hregistered.trans ?_, hreleased.trans ?_, hreclaimed.trans ?_, hfailures.trans ?_, ?_⟩
        · cases v.fate id <;> rfl
        · cases v.fate id <;> rfl
        · rw [List.countP_cons]
          cases v.fate id <;> simp [Stats.settle, Item.id?, Nat.add_assoc, Nat.add_comm 1]
        · rw [List.countP_cons]
          cases v.fate id <;> simp [Stats.settle, Item.id?, Nat.add_assoc, Nat.add_comm 1]
        · have hsettle : (c.settle (v.fate id)).discarded = c.discarded := by cases v.fate id <;> rfl
          rw [hsettle] at hdiscarded
          simp only [List.filterMap_cons, Item.id?, List.length_cons]
          exact congrArg (· + 1) hdiscarded
      · obtain ⟨hregistered, hreleased, hreclaimed, hfailures, hdiscarded⟩ :=
          hrest { c with discarded := c.discarded + 1 }
        rw [hupshot, hin, if_neg Bool.false_ne_true]
        refine ⟨hregistered, hreleased, hreclaimed, hfailures, hdiscarded.trans ?_⟩
        simp only [List.filterMap_cons, Item.id?, List.length_cons]
        omega

/-- The guard keeps track of what was not among the items. -/
theorem Sound.registry_foldl (h : v.Sound) (items : List Item) :
    (items.foldl Ward.handle v).guard.registry.ids =
      v.guard.registry.ids.filter fun id => id ∉ v.guard.registry.due items := by
  have hall : (items.foldl Ward.handle v).guard.registry.ids =
      v.guard.registry.ids.filter fun id => .reclaim id ∉ items := by
    induction items generalizing v with
    | nil => simp
    | cons item items ih =>
      have hregistry := h.registry_handle item
      rw [List.foldl_cons, ih (h.handle item), hregistry]
      cases item with
      | flush ack => simp [Item.id?]
      | reclaim id =>
        simp only [Item.id?, Option.elim, Registry.erase, h.nodup.erase_eq_filter, List.filter_filter]
        refine List.filter_congr fun id' _ => ?_
        by_cases hid : id' = id <;> simp [hid]
  rw [hall]
  refine List.filter_congr fun id hin => ?_
  simp [Registry.mem_due, hin]

end Ward

/-! ## A sink that stays in its mood -/

@[simp] theorem Sink.moody_panicsAt (sink : Sink) : sink.moody sink.panicsAt = sink := by cases sink <;> rfl

/-- A sink that takes everything does not panic at anything that it is told. -/
theorem Frame.deeds_mild {s : Store} {g : GuardId} {path : Path} {p : Progress} {about : Option HandleId}
    {d : Diagnostic} (hmild : ∀ d, (s.emit g d).2 = none) (x : Frame) :
    .said g about d true ∉ x.deeds s path p := by
  intro hin
  have htells : ∀ {g' about' d'}, .said g about d true ∈ s.tells g' about' d' → False := fun {g' about' d'} h => by
    obtain ⟨rfl, -, -, hpanics⟩ := Deed.said.inj (List.mem_singleton.mp h)
    rw [hmild] at hpanics
    cases hpanics
  rcases said_deeds hin with ⟨point, rfl, -⟩ | ⟨id, e, rfl, he, -⟩
  · cases point with
    | polling =>
      simp only [deeds, Store.handsOut] at hin
      split at hin <;> simp at hin
    | processing item =>
      cases item with
      | flush ack => cases hin
      | reclaim id =>
        simp only [deeds] at hin
        split at hin <;> simp at hin
    | reporting id | announcing id panic =>
      simp only [deeds] at hin
      split at hin
      · exact htells hin
      · cases hin
    | farewell exit => exact htells hin
    | _ => cases hin
  · simp only [deeds, he] at hin
    exact htells hin

namespace System
variable {w : System} {g : GuardId} {t : ThreadId} {name : ThreadName} {x : Guard} {v : Ward} {c : Stats}
  {l : List Diagnostic} {items : List Item}

theorem humour_mood (hx : w.store.guard? g = some x) : w.humour g x.config.sink.panicsAt = w := by
  have hstore : w.store.humour g x.config.sink.panicsAt = w.store :=
    Store.modifyGuard_eq_self fun y hy => by
      cases hx.symm.trans hy
      simp [Guard.humour, Config.withSink]
  rw [humour, hstore]

/-- A guard keeps its configuration when a thread has its turn. -/
theorem config_turn (hx : w.store.guard? g = some x) (t : ThreadId) :
    ∃ x', (w.occur (.move (.act t))).store.guard? g = some x' ∧ x'.config = x.config := by
  cases hacting : w.acting? t with
  | none => exact ⟨x, by rw [occur_not_acting hacting, hx], rfl⟩
  | some frame =>
    rw [occur_acting hacting]
    exact config_act hx t

/-- When the sink of a guard stays in its mood, all that happens is that the thread acts. -/
theorem serve_mood (hx : w.store.guard? g = some x) (n : Nat) :
    serve g t w (List.replicate n x.config.sink.panicsAt) = w.after (turns t n) ∧
      tale g t w (List.replicate n x.config.sink.panicsAt) = w.trace (turns t n) := by
  induction n generalizing w x with
  | zero => exact ⟨rfl, rfl⟩
  | succ n ih =>
    obtain ⟨x', hx', hconfig⟩ := config_turn hx t
    obtain ⟨hserve, htale⟩ := ih hx'
    rw [hconfig] at hserve htale
    rw [List.replicate_succ, serve, tale, humour_mood hx, hserve, htale]
    exact ⟨rfl, rfl⟩

/-- When the sink takes everything, nothing that the thread does makes it panic. -/
theorem trace_mild (hx : w.store.guard? g = some x) (hquiet : ∀ told d, x.config.sink.panicsAt told d = false) (n : Nat)
    (about : Option HandleId) (d : Diagnostic) : .said g about d true ∉ w.trace (turns t n) := by
  induction n generalizing w x with
  | zero => exact List.not_mem_nil
  | succ n ih =>
    rw [turns, List.replicate_succ, trace, List.mem_append, not_or]
    obtain ⟨x', hx', hconfig⟩ := config_turn hx t
    refine ⟨fun hin => ?_, ih hx' (hconfig ▸ hquiet)⟩
    simp only [deeds] at hin
    split at hin
    · next frame hacting =>
      refine frame.deeds_mild (fun d => ?_) hin
      simp only [Store.emit, hx, Option.map_some, hquiet]
      rfl
    · cases hin

/-! ## When the items have been handled -/

section Times
variable {mood : Mood} {moods : List Mood} {ds : Trace} {w' : System}

/-- How often the thread acts from here to there, while the sink stays in its mood. -/
theorem Leads.spends {m : Nat} (h : Leads g t w (List.replicate m mood) ds w' moods) :
    ∃ j, j ≤ m ∧ m ≤ moods.length + j ∧ System.serve g t w (List.replicate j mood) = w' ∧
      System.tale g t w (List.replicate j mood) = ds := by
  obtain ⟨spent, hspent, hserve, htale⟩ := h
  obtain ⟨hlength, hreplicate, -⟩ := List.append_eq_replicate_iff.mp hspent.symm
  rw [hreplicate] at hserve htale
  exact ⟨spent.length, by omega, by omega, hserve, htale⟩

/-- For each number of items there is a time when the worker has handled so many of them. -/
theorem Sits.backlog (h : w.Sits g t (worker name g .polling) v c l) (hfeeds : v.guard.source.Feeds items)
    (htame : v.Tame) (mood : Mood) :
    ∃ n : Nat → Nat, n 0 = 0 ∧ (∀ k, k < items.length → n k < n (k + 1)) ∧
      ∀ k, k ≤ items.length → n k ≤ 11 * k ∧
        ∃ us, v.Upshots (items.take k) us ∧ tale g t w (List.replicate (n k) mood) = us.flatMap (Upshot.deeds g) ∧
          (serve g t w (List.replicate (n k) mood)).Sits g t (worker name g .polling)
            ((items.take k).foldl Ward.handle v) (us.foldl Upshot.count c) (l ++ us.flatMap Upshot.words) := by
  induction items generalizing w v c l with
  | nil =>
    refine ⟨fun _ => 0, rfl, fun k hk => absurd hk (Nat.not_lt_zero k), fun k _ => ⟨Nat.zero_le _, [], ?_, rfl, ?_⟩⟩
    · rw [List.take_nil]
      exact .nil v
    · rw [List.take_nil]
      simpa [serve] using h
  | cons i items ih =>
    obtain ⟨w₁, moods, before, after, -, hleads, hsits⟩ :=
      h.item hfeeds htame (Nat.le_of_eq (List.length_replicate ).symm)
    obtain ⟨j, hj, -, hserve, htale⟩ := hleads.spends
    -- something has been done, so that the worker has acted
    have hpos : 0 < j := by
      rcases Nat.eq_zero_or_pos j with rfl | hpos
      · cases htale
      · exact hpos
    obtain ⟨n, hzero, hlater, hthen⟩ := ih hsits (Ward.feeds_handle hfeeds) (htame.handle i)
    refine ⟨fun k => k.casesOn 0 fun k => j + n k, rfl, fun k hk => ?_, fun k hk => ?_⟩
    · cases k with
      | zero => exact Nat.lt_of_lt_of_le hpos (Nat.le_add_right j _)
      | succ k => exact Nat.add_lt_add_left (hlater k (Nat.lt_of_succ_lt_succ hk)) j
    · cases k with
      | zero => exact ⟨Nat.le_refl _, [], .nil v, rfl, by simpa [serve] using h⟩
      | succ k =>
        obtain ⟨hle, us, hus, htale', hsits'⟩ := hthen k (Nat.le_of_succ_le_succ hk)
        refine ⟨by simp only; omega, _ :: us, .cons before after hus, ?_, ?_⟩
        · rw [List.replicate_add, tale_append, htale, hserve, htale', List.flatMap_cons]
        · rw [List.replicate_add, serve_append, hserve]
          simpa using hsits'

end Times

end System

/-- How a run of the callback of a handle ends. -/
def Store.fate (s : Store) (id : HandleId) : Option Panic := (s.resource? id).bind s.ending

/-- What there is when the worker of a guard has handled some of the items that waited, and what has been done
until then. -/
structure System.Handled (w w' : System) (tr : Trace) (g : GuardId) (t : ThreadId) (name : ThreadName) (x : Guard)
    (handled left : List Item) : Prop where
  waits : w'.thread? t = some (worker name g .polling)
  /-- The callbacks that have run are those of the handles that were due, once each, one after the other. -/
  once : (x.registry.due handled).Nodup
  runs : tr.filter Deed.isRun = (x.registry.due handled).flatMap fun id =>
    [.began (.reclaim g) id, .ended (.reclaim g) id (w.store.fate id)]
  /-- The guard keeps track of the others, and has counted what has become of the items. -/
  guard : ∃ x', w'.store.guard? g = some x' ∧ x'.source.Feeds left ∧
    x'.registry.ids = x.registry.ids.filter (fun id => id ∉ x.registry.due handled) ∧
    x.stats.Counts x'.stats (x.registry.due handled) w.store.fate handled
  /-- What was due is released, and nothing else is. -/
  released : ∀ id, w'.store.resource? id =
    if id ∈ x.registry.due handled then (w.store.resource? id).map fun e => { e with state := .released }
    else w.store.resource? id
  /-- Exactly the flush requests among the handled items have been answered. -/
  answered : ∀ ack, w'.store.acks[ack]? =
    if .flush ack ∈ handled then (w.store.acks[ack]?).map (·.send ()) else w.store.acks[ack]?

namespace System
variable {w : System} {g : GuardId} {t : ThreadId} {name : ThreadName} {x : Guard} {p : WorkerPoint}
  {items : List Item}

/-- A worker has handled items when it stands at what there is after them. -/
theorem Sits.toHandled {v : Ward} {w' : System} {tr : Trace} {handled left : List Item} {l : List Diagnostic}
    (hregistry : v.guard.registry = x.registry) (hresource : ∀ id, v.resource? id = w.store.resource? id)
    (hfate : v.fate = w.store.fate) (hacks : v.acks = w.store.acks) (hsound : v.Sound)
    (hfeeds : v.guard.source.Feeds (handled ++ left)) (htr : tr = (v.course handled).flatMap (Upshot.deeds g))
    (h : w'.Sits g t (worker name g .polling) (handled.foldl Ward.handle v)
      ((v.course handled).foldl Upshot.count x.stats) l) : w.Handled w' tr g t name x handled left := by
  have hdue : ∀ id, id ∈ x.registry.due handled ↔ .reclaim id ∈ handled ∧ (v.claimable? id).isSome := fun id => by
    rw [Registry.mem_due, hsound.isSome_claimable?, hregistry, Registry.contains, List.contains_iff_mem]
  obtain ⟨x', hx', hblank, hstats, -⟩ := h.stands.guard
  have hsource : x'.source = (handled.foldl Ward.handle v).guard.source := by rw [← hblank]; rfl
  have hids : x'.registry = (handled.foldl Ward.handle v).guard.registry := by rw [← hblank]; rfl
  exact
    { waits := h.thread
      once := Registry.nodup_due (hregistry ▸ hsound.nodup) handled
      runs := by
        have hran := hsound.course_ran handled
        rw [hregistry, hfate] at hran
        rw [htr, Upshot.flatMap_deeds_runs, hran, List.flatMap_map]
      guard := by
        refine ⟨x', hx', hsource ▸ Ward.feeds_foldl hfeeds, ?_, ?_⟩
        · rw [hids, hsound.registry_foldl, hregistry]
        · rw [hstats, ← hregistry, ← hfate]
          exact hsound.count_course handled x.stats
      released := fun id => by
        rw [h.stands.resource?, Ward.resource?_foldl, hresource]
        exact if_congr (hdue id).symm rfl rfl
      answered := fun ack => by rw [h.stands.acks, Ward.acks_foldl, hacks] }

/-- What the worker of a guard makes of the items that wait for it. There is a time for each of them when it is
through with this item and those before it and has not touched those behind it; then it has run the callbacks of
the handles among them that were due, once each, by their first occurrence, the guard has forgotten these and has
counted how the callbacks ended and how many items there were besides, and of the flush requests exactly those
among them have been answered. -/
theorem backlog_handled (hth : w.thread? t = some (worker name g p)) (hp : p.isIdle = true)
    (hx : w.store.guard? g = some x) (hfeeds : x.source.Feeds items)
    (hquiet : ∀ told d, x.config.sink.panicsAt told d = false) (hnodup : x.registry.ids.Nodup)
    (hactive : ∀ id ∈ x.registry.ids, ∃ e, w.store.resource? id = some e ∧ e.state = .active ∧
      e.callback.isQuiet = true) :
    ∃ n : Nat → Nat, (∀ k, k < items.length → n k < n (k + 1)) ∧
      ∀ k, k ≤ items.length → n k ≤ 11 * k + 2 ∧
        w.Handled (w.after (turns t (n k))) (w.trace (turns t (n k))) g t name x (items.take k) (items.drop k) := by
  have hsits : w.Sits g t (worker name g p) (w.store.ward x) x.stats
      x.offered.toList := ⟨hth, stands_self hx⟩
  obtain ⟨w₀, moods, hidle, -, hsits⟩ := hsits.idle hp
    (show x.blank.source.Feeds items from ⟨hfeeds.queue, hfeeds.gate, hfeeds.swallows, hfeeds.panicsAt⟩)
    (Nat.le_of_eq (List.length_replicate (a := x.config.sink.panicsAt)).symm)
  obtain ⟨j, hj, -, hserve, htale⟩ := hidle.spends
  generalize hv : w.store.ward x = v at hsits
  have hcases : ∃ source state, (if p = .polling then v else v.call) = (v.inState state).feed source ∧
      source.Feeds items := by
    subst hv
    split
    · exact ⟨x.source, x.state, rfl, hfeeds⟩
    · exact ⟨x.source.ask.1, .waiting, rfl, ⟨hfeeds.queue, hfeeds.gate, hfeeds.swallows, hfeeds.panicsAt⟩⟩
  obtain ⟨source, state, hv₀, hfeeds₀⟩ := hcases
  rw [hv₀] at hsits
  subst hv
  set v := ((w.store.ward x).inState state).feed source with hv
  have hresource : ∀ id, v.resource? id = w.store.resource? id := fun id => ((stands_self hx).resource? id).symm
  have hfate : v.fate = w.store.fate := by
    funext id
    rw [Ward.fate, Store.fate, hresource]
    exact congrArg _ (funext fun e => ((stands_self hx).ending e).symm)
  have hsound : v.Sound := ⟨hnodup, fun id hin => by
    obtain ⟨e, he, hstate, -⟩ := hactive id hin
    exact ⟨e, (hresource id).trans he, hstate⟩⟩
  have htame : v.Tame := fun id e he => by
    obtain ⟨hin, he, -⟩ := Ward.claimable?_eq_some he
    obtain ⟨e', he', -, hcallback⟩ := hactive id (List.contains_iff_mem.mp hin)
    cases (((hresource id).symm.trans he).symm.trans he')
    exact hcallback
  obtain ⟨n, -, hlater, hthen⟩ := hsits.backlog hfeeds₀ htame x.config.sink.panicsAt
  refine ⟨fun k => j + n k, fun k hk => Nat.add_lt_add_left (hlater k hk) j, fun k hk => ⟨?_, ?_⟩⟩
  · have := (hthen k hk).1
    simp only
    omega
  · obtain ⟨-, us, hus, htale', hsits'⟩ := hthen k hk
    obtain ⟨hserved, htold⟩ := serve_mood (t := t) hx (j + n k)
    rw [List.replicate_add, serve_append, hserve] at hserved
    rw [List.replicate_add, tale_append, htale, hserve, htale', List.nil_append] at htold
    have hcourse := hus.eq_course fun about d => htold ▸ trace_mild hx hquiet (j + n k) about d
    subst hcourse
    refine Sits.toHandled rfl hresource hfate rfl hsound ?_ htold.symm (hserved ▸ hsits')
    rw [List.take_append_drop]
    exact hfeeds₀

/-- Three handles, the second of which panics, and items that name two of them, one twice, and one that there is
not. -/
def mixed : System where
  store :=
    { entries := #[{ guard := 0, address := 7, label := none, callback := {} },
        { guard := 0, address := 8, label := none, callback := { panic := some .other } },
        { guard := 0, address := 9, label := none, callback := {} }]
      guards := #[{
        config := Config.standard.withSink (.recorder "a" fun _ _ => false), worker := 0
        source := { queue := ⟨[.reclaim ⟨2⟩, .flush 0, .reclaim ⟨4⟩, .reclaim ⟨2⟩, .reclaim ⟨1⟩], false⟩ }
        registry := ⟨[⟨3⟩, ⟨2⟩, ⟨1⟩]⟩ }]
      acks := #[.pending] }
  threads := #[worker (.worker none) 0 .polling]

theorem backlog_handled_mixed :
    mixed.store.guards[0].registry.due mixed.store.guards[0].source.queue.items = [⟨2⟩, ⟨1⟩] ∧
      ∃ n ≤ 57, mixed.Handled (mixed.after (turns 0 n)) (mixed.trace (turns 0 n)) 0 0 (.worker none)
        mixed.store.guards[0] mixed.store.guards[0].source.queue.items [] := by
  have hactive : ∀ id ∈ mixed.store.guards[0].registry.ids, ∃ e, mixed.store.resource? id = some e ∧
      e.state = .active ∧ e.callback.isQuiet = true := fun id hin => by
    have hids : id = ⟨3⟩ ∨ id = ⟨2⟩ ∨ id = ⟨1⟩ := by simpa [mixed] using hin
    rcases hids with rfl | rfl | rfl <;> exact ⟨_, rfl, rfl, rfl⟩
  obtain ⟨n, -, hthen⟩ := backlog_handled (w := mixed) (g := 0) (t := 0) (x := mixed.store.guards[0])
    (p := .polling) rfl rfl rfl ⟨rfl, rfl, rfl, rfl⟩
    (fun _ _ => rfl) (by decide) hactive
  exact ⟨by decide, n 5, hthen 5 (by decide)⟩

end System

end Reclaim

import Reclaim.Proofs.Completion
import Reclaim.Proofs.Moods

/-!
# Panics of the sink

A panic of the sink costs the worker of a guard the item that it works on and nothing else. Two runs of the
worker through the same items, in which the sink panics at any times whatever, end alike; item by item they
differ in no more than what a panic cuts off.

* `Upshot`, `Upshot.deeds`, `Upshot.count` : what may become of an item, what the worker does and counts then;
* `Upshot.Twin` : how the upshots for an item may differ when the sink panics at other times;
* `Ward.handle`, `Ward.Upshots` : what there is after an item, and what becomes of items one after the other;
* `System.Sits.item`, `System.Sits.handles` : one item, and all of them;
* `System.panics_contained` : two runs through the same items.
-/

namespace Reclaim

/-! ## Upshots -/

/-- What becomes of an item. -/
inductive Upshot where
  /-- A flush request that is answered. -/
  | answered (ack : Nat)
  /-- A handle that is not the guard's to release. -/
  | discarded (id : HandleId)
  /-- A handle that is claimed, at which the sink panics before the callback. -/
  | aborted (id : HandleId) (e : Entry)
  /-- A handle that is claimed and whose callback ends, by a panic if there is one; the flag tells whether the sink
  panics afterwards. -/
  | finished (id : HandleId) (e : Entry) (panic : Option Panic) (balked : Bool)

namespace Upshot

/-- The item. -/
def item : Upshot → Item
  | answered ack => .flush ack
  | discarded id | aborted id _ | finished id _ _ _ => .reclaim id

/-- What the worker does once it has taken the item. -/
def sequel (g : GuardId) : Upshot → Trace
  | answered _ => []
  | discarded id => [.discarded g id]
  | aborted id e => [.said g (some id) (.notProperlyClosed e.address) true]
  | finished id e panic balked =>
    [.said g (some id) (.notProperlyClosed e.address) false, .began (.reclaim g) id,
      .ended (.reclaim g) id panic, .said g (some id) (e.announcement panic) balked]

/-- What the worker does with the item. -/
def deeds (g : GuardId) (u : Upshot) : Trace := .delivered g u.item :: u.sequel g

/-- What becomes of a claimed handle whose callback ends like this, when the sink panics before or after it. -/
def claimed (id : HandleId) (e : Entry) (panic : Option Panic) (before after : Bool) : Upshot :=
  if before then aborted id e else finished id e panic after

/-- What the sink is told. -/
def words : Upshot → List Diagnostic
  | answered _ | discarded _ => []
  | aborted _ e => [.notProperlyClosed e.address]
  | finished _ e panic _ => [.notProperlyClosed e.address, e.announcement panic]

/-- What is counted. -/
def count (c : Stats) : Upshot → Stats
  | answered _ | aborted _ _ => c
  | discarded _ => { c with discarded := c.discarded + 1 }
  | finished _ _ panic _ => c.settle panic

/-- How the upshots for an item may differ: a claimed handle may be cut off by a panic of the sink before the
callback, and after the callback the sink may panic or not. -/
inductive Twin : Upshot → Upshot → Prop
  | answered (ack : Nat) : Twin (.answered ack) (.answered ack)
  | discarded (id : HandleId) : Twin (.discarded id) (.discarded id)
  | aborted (id : HandleId) (e : Entry) : Twin (.aborted id e) (.aborted id e)
  | cut (id : HandleId) (e : Entry) (panic : Option Panic) (balked : Bool) :
      Twin (.aborted id e) (.finished id e panic balked)
  | spared (id : HandleId) (e : Entry) (panic : Option Panic) (balked : Bool) :
      Twin (.finished id e panic balked) (.aborted id e)
  | finished (id : HandleId) (e : Entry) (panic : Option Panic) (balked balked' : Bool) :
      Twin (.finished id e panic balked) (.finished id e panic balked')

end Upshot

namespace Ward
variable {v : Ward} {item : Item} {items : List Item} {f f' : Upshot} {fs fs' : List Upshot} {id : HandleId} {e : Entry}

/-- The worker takes the first item that waits. -/
def take (v : Ward) : Ward := (v.feed v.guard.source.poll.1).inState .processing

/-- The worker calls for another item. -/
def call (v : Ward) : Ward := (v.inState .waiting).feed v.guard.source.ask.1

/-- What there is when an item has been handled. -/
def handle (v : Ward) : Item → Ward
  | .flush ack => call { v.take with acks := v.acks.modify ack (·.send ()) }
  | .reclaim id => if (v.claimable? id).isSome then (v.take.claim id).call else v.take.call

/-- What becomes of an item, when the sink panics before or after the callback. -/
def upshot (v : Ward) (before after : Bool) : Item → Upshot
  | .flush ack => .answered ack
  | .reclaim id =>
    match v.claimable? id with
    | none => .discarded id
    | some e => .claimed id e (v.ending e) before after

/-- What may become of items that are handled one after the other. -/
inductive Upshots : Ward → List Item → List Upshot → Prop
  | nil (v : Ward) : Upshots v [] []
  | cons {v : Ward} {item : Item} {items : List Item} {fs : List Upshot} (before after : Bool)
      (h : Upshots (v.handle item) items fs) : Upshots v (item :: items) (v.upshot before after item :: fs)

theorem upshot_twin (v : Ward) (before after before' after' : Bool) (item : Item) :
    (v.upshot before after item).Twin (v.upshot before' after' item) := by
  cases item with
  | flush ack => exact .answered ack
  | reclaim id =>
    simp only [upshot]
    cases v.claimable? id with
    | none => exact .discarded id
    | some e =>
      cases before <;> cases before'
      · exact .finished id e _ _ _
      · exact .spared id e _ _
      · exact .cut id e _ _
      · exact .aborted id e

theorem Upshots.twins (h : v.Upshots items fs) (h' : v.Upshots items fs') : List.Forall₂ Upshot.Twin fs fs' := by
  induction h generalizing fs' with
  | nil v =>
    cases h'
    exact .nil
  | cons before after h ih =>
    cases h' with
    | cons before' after' h' => exact .cons (upshot_twin _ _ _ _ _ _) (ih h')

theorem Upshots.map_item (h : v.Upshots items fs) : fs.map Upshot.item = items := by
  induction h with
  | nil v => rfl
  | @cons v item items fs before after h ih =>
    rw [List.map_cons, ih]
    congr 1
    cases item with
    | flush ack => rfl
    | reclaim id =>
      simp only [upshot]
      cases v.claimable? id with
      | none => rfl
      | some e => cases before <;> rfl

/-- No callback of a handle that is the guard's to release has commands to carry out. -/
def Tame (v : Ward) : Prop := ∀ id e, v.claimable? id = some e → e.callback.isQuiet = true

theorem resource?_claim (v : Ward) (id id' : HandleId) : (v.claim id).resource? id' =
    if id = id' then (v.resource? id').map fun e => { e with state := .released } else v.resource? id' := by
  have h := Store.resource?_modifyEntry { entries := v.entries } id id' fun e => { e with state := .released }
  simp only [resource?, claim, Store.markReleased]
  rw [← h]
  simp only [Store.resource?]

theorem claimable?_eq_some (h : v.claimable? id = some e) :
    v.guard.registry.contains id = true ∧ v.resource? id = some e ∧ e.state = .active := by
  unfold claimable? at h
  split at h
  · next hin =>
    obtain ⟨he, hstate⟩ := Option.filter_eq_some_iff.mp h
    exact ⟨hin, he, by simpa using hstate⟩
  · cases h

theorem feeds_handle (h : v.guard.source.Feeds (item :: items)) : (v.handle item).guard.source.Feeds items := by
  have hpoll : v.guard.source.poll.1.Feeds items := by
    simp only [Source.poll, Queue.next, h.queue, Source.isOpen, h.gate, h.swallows]
    exact ⟨rfl, rfl, rfl, h.panicsAt⟩
  have hask : ∀ {x : Source}, x.Feeds items → x.ask.1.Feeds items := fun h =>
    ⟨h.queue, h.gate, h.swallows, h.panicsAt⟩
  cases item with
  | flush ack => exact hask hpoll
  | reclaim id =>
    simp only [handle]
    split <;> exact hask hpoll

/-- A handle becomes released exactly if it is the guard's to release when the worker comes to it. -/
theorem resource?_handle (v : Ward) (item : Item) (id : HandleId) : (v.handle item).resource? id =
    if item = .reclaim id ∧ (v.claimable? id).isSome then
      (v.resource? id).map fun e => { e with state := .released }
    else v.resource? id := by
  cases item with
  | flush ack => simp [handle, resource?, call, take, feed, inState]
  | reclaim id' =>
    have hclaim := v.take.resource?_claim id' id
    simp only [handle, Item.reclaim.injEq]
    by_cases hid : id' = id
    · subst hid
      cases v.claimable? id' with
      | none => simp [resource?, call, take, feed, inState]
      | some e =>
        rw [if_pos rfl] at hclaim
        simp only [Option.isSome_some, if_true, and_self]
        exact hclaim
    · rw [if_neg hid] at hclaim
      simp only [hid, false_and, if_false]
      split
      · exact hclaim
      · rfl

theorem claimable?_handle (v : Ward) (item : Item) (id : HandleId) : (v.handle item).claimable? id =
    if item = .reclaim id then none else v.claimable? id := by
  cases item with
  | flush ack => rfl
  | reclaim id' =>
    have hclaim := v.take.resource?_claim id' id
    simp only [handle, Item.reclaim.injEq]
    by_cases hid : id' = id
    · subst hid
      rw [if_pos rfl]
      cases hc : v.claimable? id' with
      | none => exact hc
      | some e =>
        rw [if_pos rfl] at hclaim
        simp only [Option.isSome_some, if_true, claimable?]
        rw [show (v.take.claim id').call.resource? id' = _ from hclaim]
        split
        · cases v.take.resource? id' <;> rfl
        · rfl
    · rw [if_neg hid] at hclaim
      rw [if_neg hid]
      split
      · have hcontains : (v.guard.registry.erase id').contains id = v.guard.registry.contains id := by
          simp [Registry.erase, Registry.contains, List.contains_eq_mem, List.mem_erase_of_ne (Ne.symm hid)]
        simp only [claimable?]
        rw [show (v.take.claim id').call.resource? id = v.resource? id from hclaim,
          show (v.take.claim id').call.guard.registry.contains id = v.guard.registry.contains id from hcontains]
      · rfl

theorem Tame.handle (h : v.Tame) (item : Item) : (v.handle item).Tame := fun id e he => by
  rw [claimable?_handle] at he
  split at he
  · cases he
  · exact h id e he

/-- What there is when all items have been handled. -/
theorem resource?_foldl (v : Ward) (items : List Item) (id : HandleId) : (items.foldl handle v).resource? id =
    if .reclaim id ∈ items ∧ (v.claimable? id).isSome then
      (v.resource? id).map fun e => { e with state := .released }
    else v.resource? id := by
  induction items generalizing v with
  | nil => simp
  | cons item items ih =>
    rw [List.foldl_cons, ih, resource?_handle, claimable?_handle]
    by_cases hitem : item = .reclaim id
    · simp [hitem]
    · simp [hitem, Ne.symm hitem]

/-- The flush requests among the items have been answered. -/
theorem acks_foldl (v : Ward) (items : List Item) (ack : Nat) : (items.foldl handle v).acks[ack]? =
    if .flush ack ∈ items then (v.acks[ack]?).map (·.send ()) else v.acks[ack]? := by
  induction items generalizing v with
  | nil => simp
  | cons item items ih =>
    rw [List.foldl_cons, ih]
    cases item with
    | reclaim id =>
      have hacks : (v.handle (.reclaim id)).acks = v.acks := by
        simp only [handle]
        split <;> rfl
      simp [hacks]
    | flush ack' =>
      have hacks : (v.handle (.flush ack')).acks = v.acks.modify ack' (·.send ()) := rfl
      rw [hacks, Array.getElem?_modify]
      by_cases hack : ack' = ack
      · subst hack
        have hsend : ∀ cell : Oneshot Unit, (cell.send ()).send () = cell.send () := fun cell => by
          cases cell <;> rfl
        simp [Option.map_map, Function.comp_def, hsend]
      · simp [hack, Ne.symm hack]

theorem guard_foldl (v : Ward) (items : List Item) (h : v.guard.state = .waiting) :
    (items.foldl handle v).guard.state = .waiting ∧ (items.foldl handle v).guard.exit = v.guard.exit := by
  induction items generalizing v with
  | nil => exact ⟨h, rfl⟩
  | cons item items ih =>
    have hitem : (v.handle item).guard.state = .waiting ∧ (v.handle item).guard.exit = v.guard.exit := by
      cases item with
      | flush ack => exact ⟨rfl, rfl⟩
      | reclaim id =>
        simp only [handle]
        split <;> exact ⟨rfl, rfl⟩
    obtain ⟨hstate, hexit⟩ := ih (v.handle item) hitem.1
    exact ⟨hstate, hexit.trans hitem.2⟩

/-- What comes after the items that have been handled still waits. -/
theorem feeds_foldl {rest : List Item} (h : v.guard.source.Feeds (items ++ rest)) :
    (items.foldl handle v).guard.source.Feeds rest := by
  induction items generalizing v with
  | nil => exact h
  | cons item items ih => exact ih (feeds_handle h)

end Ward

/-! ## The worker at an item -/

namespace System
variable {w : System} {g : GuardId} {t : ThreadId} {name : ThreadName} {v : Ward} {c : Stats}
  {l : List Diagnostic} {i : Item} {items : List Item} {id : HandleId} {e : Entry}

/-- A list that is long enough begins with as many elements as one likes. -/
theorem exists_cons {α : Type} {n : Nat} {xs : List α} (h : n + 1 ≤ xs.length) :
    ∃ x ys, xs = x :: ys ∧ n ≤ ys.length := by
  cases xs with
  | nil => simp at h
  | cons x ys => exact ⟨x, ys, rfl, by simpa using h⟩

/-- From calling for an item to waiting for it. -/
theorem Sits.recall {moods : List Mood} (h : w.Sits g t (worker name g .calling) v c l)
    (hfeeds : v.guard.source.Feeds items) (hlong : 1 ≤ moods.length) :
    ∃ w' moods', Leads g t w moods [] w' moods' ∧ moods.length ≤ moods'.length + 1 ∧
      w'.Sits g t (worker name g .polling) v.call c l := by
  obtain ⟨k, moods, rfl, -⟩ := exists_cons hlong
  obtain ⟨w', hleads, hsits⟩ := h.calling k moods hfeeds
  exact ⟨w', moods, hleads, by simp, hsits⟩

/-- A handle that has been claimed is settled, in whichever mood the sink is. -/
theorem Sits.claimed {moods : List Mood} (h : w.Sits g t (worker name g (.reporting id)) v c l)
    (he : v.resource? id = some e) (hquiet : e.callback.isQuiet = true) (hlong : 7 ≤ moods.length) :
    ∃ w' moods' before after, moods.length ≤ moods'.length + 7 ∧
      Leads g t w moods ((Upshot.claimed id e (v.ending e) before after).sequel g) w' moods' ∧
      w'.Sits g t (worker name g .calling) v ((Upshot.claimed id e (v.ending e) before after).count c)
        (l ++ (Upshot.claimed id e (v.ending e) before after).words) := by
  obtain ⟨k₁, moods₁, rfl, h₁⟩ := exists_cons hlong
  obtain ⟨k₂, moods, rfl, h₂⟩ := exists_cons h₁
  obtain ⟨w₁, before, p, hreport, hsits⟩ := h.report k₁ (k₂ :: moods) he
  cases before with
  | true =>
    obtain ⟨w₂, hrecover, hsits⟩ := Sits.recover k₂ moods hsits
    exact ⟨w₂, moods, true, false, by simp, hreport.trans hrecover, hsits⟩
  | false =>
    obtain ⟨k₃, moods₃, rfl, h₃⟩ := exists_cons h₂
    obtain ⟨k₄, moods, rfl, h₄⟩ := exists_cons h₃
    obtain ⟨w₂, moods₂, hcallback, hleft, hsits⟩ := Sits.callback moods hsits he hquiet
    obtain ⟨k₅, moods₅, rfl, h₅⟩ := exists_cons (h₄.trans hleft)
    obtain ⟨w₃, hsettle, hsits⟩ := hsits.settle k₅ moods₅
    obtain ⟨k₆, moods₆, rfl, h₆⟩ := exists_cons h₅
    obtain ⟨w₄, after, p, hannounce, hsits⟩ := hsits.announce k₆ moods₆ he
    have hleads := ((hreport.trans hcallback).trans hsettle).trans hannounce
    rw [List.append_assoc] at hsits
    cases after with
    | false => exact ⟨w₄, moods₆, false, false, by simp at hleft ⊢; omega, hleads, hsits⟩
    | true =>
      obtain ⟨k₇, moods₇, rfl, -⟩ := exists_cons h₆
      obtain ⟨w₅, hrecover, hsits⟩ := Sits.recover k₇ moods₇ hsits
      exact ⟨w₅, moods₇, false, true, by simp at hleft ⊢; omega, hleads.trans hrecover, hsits⟩

/-- The worker handles an item, in whichever mood the sink is, and waits for the next. -/
theorem Sits.item {moods : List Mood} (h : w.Sits g t (worker name g .polling) v c l)
    (hfeeds : v.guard.source.Feeds (i :: items)) (htame : v.Tame) (hlong : 11 ≤ moods.length) :
    ∃ w' moods' before after, moods.length ≤ moods'.length + 11 ∧
      Leads g t w moods ((v.upshot before after i).deeds g) w' moods' ∧
      w'.Sits g t (worker name g .polling) (v.handle i) ((v.upshot before after i).count c)
        (l ++ (v.upshot before after i).words) := by
  obtain ⟨k₁, moods₁, rfl, h₁⟩ := exists_cons hlong
  obtain ⟨k₂, moods₂, rfl, h₂⟩ := exists_cons h₁
  obtain ⟨k₃, moods, rfl, h₃⟩ := exists_cons h₂
  obtain ⟨w₁, hpolling, hsits, hrest⟩ := h.polling k₁ (k₂ :: k₃ :: moods) hfeeds
  obtain ⟨w₂, htook, hsits⟩ := hsits.took k₂ (k₃ :: moods)
  have htaken := hpolling.trans htook
  have hsits : w₂.Sits g t (worker name g (.processing i)) v.take c l := hsits
  cases i with
  | flush ack =>
    obtain ⟨w₃, hflush, hsits⟩ := hsits.flush k₃ moods
    obtain ⟨w₄, moods', hcalling, hleft, hsits⟩ := hsits.recall hrest (show 1 ≤ moods.length by omega)
    refine ⟨w₄, moods', false, false, by simp only [List.length_cons]; omega,
      (htaken.trans hflush).trans hcalling, ?_⟩
    exact (List.append_nil l).symm ▸ hsits
  | reclaim id =>
    cases he : v.claimable? id with
    | none =>
      obtain ⟨w₃, hdiscard, hsits⟩ := hsits.discard k₃ moods he
      obtain ⟨w₄, moods', hcalling, hleft, hsits⟩ := hsits.recall hrest (show 1 ≤ moods.length by omega)
      refine ⟨w₄, moods', false, false, by simp only [List.length_cons]; omega, ?_, ?_⟩
      · simp only [Ward.upshot, he]
        exact (htaken.trans hdiscard).trans hcalling
      · simp only [Ward.upshot, Ward.handle, he, Upshot.words, List.append_nil]
        exact hsits
    | some e =>
      obtain ⟨-, hresource, -⟩ := Ward.claimable?_eq_some he
      obtain ⟨w₃, hclaim, hsits⟩ := hsits.claim k₃ moods he
      have hclaimed : (v.take.claim id).resource? id = some { e with state := .released } := by
        rw [Ward.resource?_claim, if_pos rfl, show v.take.resource? id = some e from hresource]
        rfl
      obtain ⟨w₄, moods₄, before, after, hleft₄, hrun, hsits⟩ :=
        Sits.claimed hsits hclaimed (htame id e he) (show 7 ≤ moods.length by omega)
      obtain ⟨w₅, moods₅, hcalling, hleft₅, hsits⟩ := hsits.recall hrest (show 1 ≤ moods₄.length by omega)
      have hleads := ((htaken.trans hclaim).trans hrun).trans hcalling
      refine ⟨w₅, moods₅, before, after, by simp only [List.length_cons]; omega, ?_, ?_⟩
      · simp only [Ward.upshot, he]
        cases before <;> exact hleads
      · simp only [Ward.upshot, he, Ward.handle, Option.isSome_some, if_true]
        cases before <;> exact hsits

/-- The worker handles items, one after the other. -/
theorem Sits.handles {moods : List Mood} (h : w.Sits g t (worker name g .polling) v c l)
    (hfeeds : v.guard.source.Feeds items) (htame : v.Tame) (hlong : 11 * items.length ≤ moods.length) :
    ∃ w' moods' us, v.Upshots items us ∧ Leads g t w moods (us.flatMap (Upshot.deeds g)) w' moods' ∧
      w'.Sits g t (worker name g .polling) (items.foldl Ward.handle v) (us.foldl Upshot.count c)
        (l ++ us.flatMap Upshot.words) := by
  induction items generalizing w v c l moods with
  | nil => exact ⟨w, moods, [], .nil v, .refl g t w moods, by simpa using h⟩
  | cons i items ih =>
    rw [List.length_cons] at hlong
    obtain ⟨w₁, moods₁, before, after, hleft, hleads, hsits⟩ := h.item hfeeds htame (show 11 ≤ moods.length by omega)
    obtain ⟨w₂, moods₂, us, hus, hrest, hsits⟩ :=
      ih hsits (Ward.feeds_handle hfeeds) (htame.handle i) (show 11 * items.length ≤ moods₁.length by omega)
    exact ⟨w₂, moods₂, _ :: us, .cons before after hus, hleads.trans hrest, by simpa using hsits⟩

/-- A worker that has nothing to take waits, in whichever mood the sink is. -/
theorem Sits.waits (h : w.Sits g t (worker name g .polling) v c l) (hfeeds : v.guard.source.Feeds [])
    (moods : List Mood) :
    ∃ w', Leads g t w moods [] w' [] ∧ w'.Sits g t (worker name g .polling) v c l := by
  refine h.rests (fun s hs => ?_) moods
  obtain ⟨x, hx, hblank, -⟩ := hs.guard
  have hsource : x.source = v.guard.source := by rw [← hblank]; rfl
  simp [worker, Thread.isReady, Frame.isReady, Store.isSourceReady, hx, hsource, Source.isReady, Source.isInterrupted,
    Source.pending, Queue.pending, hfeeds.queue]

/-- From wherever it is idle the worker comes to wait for an item. -/
theorem Sits.idle {p : WorkerPoint} {moods : List Mood} (h : w.Sits g t (worker name g p) v c l)
    (hp : p.isIdle = true) (hfeeds : v.guard.source.Feeds items) (hlong : 2 ≤ moods.length) :
    ∃ w' moods', Leads g t w moods [] w' moods' ∧ moods.length ≤ moods'.length + 2 ∧
      w'.Sits g t (worker name g .polling) (if p = .polling then v else v.call) c l := by
  cases p with
  | polling => exact ⟨w, moods, .refl g t w moods, by omega, h⟩
  | calling =>
    obtain ⟨w', moods', hleads, hleft, hsits⟩ := h.recall hfeeds (show 1 ≤ moods.length by omega)
    exact ⟨w', moods', hleads, by omega, hsits⟩
  | starting =>
    obtain ⟨k, moods₁, rfl, h₁⟩ := exists_cons hlong
    obtain ⟨w₁, hstarting, hsits⟩ := h.starting k moods₁
    obtain ⟨w₂, moods₂, hcalling, hleft, hsits⟩ := hsits.recall hfeeds h₁
    exact ⟨w₂, moods₂, hstarting.trans hcalling, by simp only [List.length_cons]; omega, hsits⟩
  | _ => cases hp

/-- The worker handles all items and waits for more, in whichever mood the sink is. -/
theorem Sits.served {p : WorkerPoint} {moods : List Mood}
    (h : w.Sits g t (worker name g p) v c l) (hp : p.isIdle = true) (hfeeds : v.guard.source.Feeds items)
    (htame : v.Tame) (hlong : 11 * items.length + 2 ≤ moods.length) :
    ∃ us, (if p = .polling then v else v.call).Upshots items us ∧
      tale g t w moods = us.flatMap (Upshot.deeds g) ∧
      (serve g t w moods).Sits g t (worker name g .polling)
        (items.foldl Ward.handle (if p = .polling then v else v.call)) (us.foldl Upshot.count c)
        (l ++ us.flatMap Upshot.words) := by
  obtain ⟨w₁, moods₁, hidle, hleft, hsits⟩ := h.idle hp hfeeds (show 2 ≤ moods.length by omega)
  have hready : (if p = .polling then v else v.call).guard.source.Feeds items ∧
      (if p = .polling then v else v.call).Tame := by
    split
    · exact ⟨hfeeds, htame⟩
    · exact ⟨⟨hfeeds.queue, hfeeds.gate, hfeeds.swallows, hfeeds.panicsAt⟩, htame⟩
  obtain ⟨w₂, moods₂, us, hus, hhandles, hsits⟩ :=
    hsits.handles hready.1 hready.2 (show 11 * items.length ≤ moods₁.length by omega)
  obtain ⟨w₃, hwaits, hsits⟩ := hsits.waits (Ward.feeds_foldl ((List.append_nil items).symm ▸ hready.1)) moods₂
  have hleads := (hidle.trans hhandles).trans hwaits
  have hserve : serve g t w moods = w₃ := hleads.serve
  refine ⟨us, hus, ?_, hserve ▸ hsits⟩
  rw [hleads.tale]
  simp [tale]

/-- The worker that waits ends when its source is interrupted, in whichever mood the sink is. -/
theorem Sits.stops {moods : List Mood} (h : w.Sits g t (worker name g .polling) v c l)
    (hnone : v.guard.source.queue.items = []) (hlong : 5 ≤ moods.length) : ∃ w' panicked,
      Leads g t { w with store := (w.store.interrupt g).1 } moods [.said g none .interrupted panicked] w' [] ∧
        w'.Sits g t ⟨name, [], some .done⟩ (v.shut.shut.leave .regular) c (l ++ [.interrupted]) := by
  obtain ⟨k₁, moods₁, rfl, h₁⟩ := exists_cons hlong
  obtain ⟨k₂, moods₂, rfl, h₂⟩ := exists_cons h₁
  obtain ⟨k₃, moods₃, rfl, h₃⟩ := exists_cons h₂
  obtain ⟨k₄, moods₄, rfl, h₄⟩ := exists_cons h₃
  obtain ⟨k₅, moods₅, rfl, -⟩ := exists_cons h₄
  have hshut : System.Sits { w with store := (w.store.interrupt g).1 } g t (worker name g .polling) v.shut c l :=
    ⟨h.thread, (h.stands.interrupt hnone).1⟩
  obtain ⟨w₁, hhalt, hsits⟩ := hshut.halt k₁ (k₂ :: k₃ :: k₄ :: k₅ :: moods₅) rfl
  obtain ⟨w₂, panicked, hleaving, hsits⟩ := hsits.leaving moods₅ rfl
  obtain ⟨w₃, hrests, hsits⟩ := hsits.rests (fun _ _ => rfl) moods₅
  exact ⟨w₃, panicked, (hhalt.trans hleaving).trans hrests, hsits⟩

end System

/-! ## Two runs -/

/-- The discarded items are the same whenever the sink panics. -/
theorem discarded_twins {us us' : List Upshot} (h : List.Forall₂ Upshot.Twin us us') {c c' : Stats}
    (hc : c.discarded = c'.discarded) :
    (us.foldl Upshot.count c).discarded = (us'.foldl Upshot.count c').discarded := by
  have hsettle : ∀ (c : Stats) (panic : Option Panic), (c.settle panic).discarded = c.discarded := fun c panic => by
    cases panic <;> rfl
  induction h generalizing c c' with
  | nil => exact hc
  | cons htwin _ ih =>
    refine ih ?_
    cases htwin <;> simp [Upshot.count, hsettle, hc]

/-- What a worker has come to that has handled all items, and what it comes to when it is stopped then. -/
structure System.Served (w : System) (g : GuardId) (t : ThreadId) (name : ThreadName) (x : Guard)
    (moods : List Mood) (us : List Upshot) : Prop where
  /-- Every item has been handled, one after the other. -/
  handled : us.map Upshot.item = x.source.queue.items
  account : tale g t w moods = us.flatMap (Upshot.deeds g)
  waits : (serve g t w moods).thread? t = some (worker name g .polling)
  guard : ∃ x', (serve g t w moods).store.guard? g = some x' ∧ x'.state = .waiting ∧ x'.exit = x.exit ∧
    x'.source.isInterrupted = false ∧ x'.source.pending = 0 ∧ x'.stats = us.foldl Upshot.count x.stats ∧
      x'.offered.toList = x.offered.toList ++ us.flatMap Upshot.words
  /-- The handles that were the guard's to release are released. -/
  released : ∀ id, (serve g t w moods).store.resource? id =
    if .reclaim id ∈ x.source.queue.items ∧ (w.store.takeActive g id).2 = true then
      (w.store.resource? id).map fun e => { e with state := .released }
    else w.store.resource? id
  /-- The flush requests are answered. -/
  answered : ∀ ack, (serve g t w moods).store.acks[ack]? =
    if .flush ack ∈ x.source.queue.items then (w.store.acks[ack]?).map (·.send ()) else w.store.acks[ack]?
  /-- When the source is interrupted the worker ends, whether the sink panics at that or not. -/
  stops : ∀ moods', 5 ≤ moods'.length → ∃ panicked,
    let w' := { serve g t w moods with store := ((serve g t w moods).store.interrupt g).1 }
    tale g t w' moods' = [.said g none .interrupted panicked] ∧
      (serve g t w' moods').thread? t = some ⟨name, [], some .done⟩ ∧
      (serve g t w' moods').store.entries = (serve g t w moods).store.entries ∧
      (serve g t w' moods').store.acks = (serve g t w moods).store.acks ∧
      ((serve g t w' moods').store.guard? g).map (fun y => (y.state, y.exit, y.registry, y.stats)) =
        ((serve g t w moods).store.guard? g).map fun y => (.stopped, some .regular, y.registry, y.stats)

namespace System
variable {w : System} {g : GuardId} {t : ThreadId} {name : ThreadName} {x : Guard} {p : WorkerPoint}

/-- How things stand at a guard at first. -/
theorem stands_self (hx : w.store.guard? g = some x) :
    w.store.Stands g (w.store.ward x) x.stats x.offered.toList :=
  ⟨rfl, rfl, rfl, x, hx, rfl, rfl, rfl⟩

/-- The worker of a guard is through with all items that waited, in whichever mood the sink was. -/
theorem Sits.toServed {v₀ v : Ward} {us : List Upshot} {moods : List Mood}
    (hx : w.store.guard? g = some x) (hfeeds : x.source.Feeds x.source.queue.items)
    (hv : v = w.store.ward x) (hv₀ : v₀ = v ∨ v₀ = v.call)
    (hwaiting : v₀.guard.state = .waiting) (hus : v₀.Upshots x.source.queue.items us)
    (htale : tale g t w moods = us.flatMap (Upshot.deeds g))
    (h : (serve g t w moods).Sits g t (worker name g .polling) (x.source.queue.items.foldl Ward.handle v₀)
      (us.foldl Upshot.count x.stats) (x.offered.toList ++ us.flatMap Upshot.words)) :
    w.Served g t name x moods us := by
  subst hv
  have hclaimable : ∀ id, (v₀.claimable? id).isSome = (w.store.takeActive g id).2 := fun id => by
    have hcall : v₀.claimable? id = (w.store.ward x).claimable? id := by
      obtain rfl | rfl := hv₀ <;> rfl
    rw [hcall]
    obtain ⟨e, he, htaken, -⟩ | ⟨hnone, htaken⟩ := (stands_self hx).takeActive id
    · rw [he, htaken]
      rfl
    · rw [hnone, htaken]
      rfl
  have hresource : ∀ id, v₀.resource? id = w.store.resource? id := fun id => by
    obtain rfl | rfl := hv₀ <;> exact ((stands_self hx).resource? id).symm
  have hacks : v₀.acks = w.store.acks := by obtain rfl | rfl := hv₀ <;> rfl
  have hexit : v₀.guard.exit = x.exit := by obtain rfl | rfl := hv₀ <;> rfl
  have hfeeds₀ : v₀.guard.source.Feeds x.source.queue.items := by
    obtain rfl | rfl := hv₀ <;> exact ⟨hfeeds.queue, hfeeds.gate, hfeeds.swallows, hfeeds.panicsAt⟩
  have hrest := Ward.feeds_foldl ((List.append_nil x.source.queue.items).symm ▸ hfeeds₀)
  obtain ⟨hstate', hexit'⟩ := v₀.guard_foldl x.source.queue.items hwaiting
  obtain ⟨x', hx', hblank, hstats, hoffered⟩ := h.stands.guard
  have hsource : x'.source = (x.source.queue.items.foldl Ward.handle v₀).guard.source := by rw [← hblank]; rfl
  exact
    { handled := hus.map_item
      account := htale
      waits := h.thread
      guard := by
        refine ⟨x', hx', ?_, ?_, ?_, ?_, hstats, hoffered⟩
        · rw [← hstate', ← hblank]
          rfl
        · rw [← hexit, ← hexit', ← hblank]
          rfl
        · rw [hsource, Source.isInterrupted, hrest.queue]
        · rw [hsource, Source.pending, hrest.queue]
          rfl
      released := fun id => by
        rw [h.stands.resource?, Ward.resource?_foldl, hclaimable, hresource]
      answered := fun ack => by rw [h.stands.acks, Ward.acks_foldl, hacks]
      stops := fun moods' hlong => by
        obtain ⟨w', panicked, hleads, hsits⟩ := h.stops (by rw [hrest.queue]) hlong
        have hserve : serve g t { serve g t w moods with store := ((serve g t w moods).store.interrupt g).1 }
            moods' = w' := hleads.serve
        obtain ⟨x'', hx'', hblank', hstats', -⟩ := hsits.stands.guard
        refine ⟨panicked, ?_, ?_, ?_, ?_, ?_⟩
        · rw [hleads.tale]
          simp [tale]
        · rw [hserve, hsits.thread]
        · rw [hserve, hsits.stands.entries, h.stands.entries]
          rfl
        · rw [hserve, hsits.stands.acks, h.stands.acks]
          rfl
        · rw [hserve, hx'', hx', Option.map_some, Option.map_some, hstats', hstats]
          have hregistry : x''.registry = x'.registry := by
            rw [show x''.registry = x''.blank.registry from rfl, hblank', show x'.registry = x'.blank.registry from rfl,
              hblank]
            rfl
          have hstate : x''.state = .stopped ∧ x''.exit = some .regular := by
            rw [show x''.state = x''.blank.state from rfl, show x''.exit = x''.blank.exit from rfl, hblank']
            exact ⟨rfl, rfl⟩
          rw [hregistry, hstate.1, hstate.2] }

/-- A panic of the sink costs a worker the item that it works on and nothing else. However the sink of a guard
panics in two runs of its worker through the same items, the worker handles all of them and waits for more; what
there is in the end is the same, apart from the counters of releases and from what the sink was told; and item by
item the runs differ in no more than what a panic cuts off. -/
theorem panics_contained (hth : w.thread? t = some (worker name g p)) (hp : p.isIdle = true)
    (hx : w.store.guard? g = some x) (hfeeds : x.source.Feeds x.source.queue.items)
    (hwaiting : p = .polling → x.state = .waiting) (htame : (w.store.ward x).Tame)
    {moods moods' : List Mood} (hlong : 11 * x.source.queue.items.length + 2 ≤ moods.length)
    (hlong' : 11 * x.source.queue.items.length + 2 ≤ moods'.length) :
    ∃ us us', w.Served g t name x moods us ∧ w.Served g t name x moods' us' ∧ List.Forall₂ Upshot.Twin us us' ∧
      (serve g t w moods).store.entries = (serve g t w moods').store.entries ∧
      (serve g t w moods).store.acks = (serve g t w moods').store.acks ∧
      ((serve g t w moods).store.guard? g).map (fun y => (y.blank, y.stats.discarded)) =
        ((serve g t w moods').store.guard? g).map fun y => (y.blank, y.stats.discarded) := by
  have hsits : w.Sits g t (worker name g p) (w.store.ward x) x.stats x.offered.toList := ⟨hth, stands_self hx⟩
  obtain ⟨us, hus, htale, hend⟩ := hsits.served hp hfeeds htame hlong
  obtain ⟨us', hus', htale', hend'⟩ := hsits.served hp hfeeds htame hlong'
  generalize hv : w.store.ward x = v at *
  generalize hv₀ : (if p = .polling then v else v.call) = v₀ at *
  have hcases : v₀ = v ∨ v₀ = v.call := by
    rw [← hv₀]
    split
    · exact .inl rfl
    · exact .inr rfl
  have hstate : v₀.guard.state = .waiting := by
    rw [← hv₀]
    split
    · next h =>
      rw [← hv]
      exact hwaiting h
    · rfl
  refine ⟨us, us', hend.toServed hx hfeeds hv.symm hcases hstate hus htale,
    hend'.toServed hx hfeeds hv.symm hcases hstate hus' htale', hus.twins hus',
    hend.stands.entries.trans hend'.stands.entries.symm, hend.stands.acks.trans hend'.stands.acks.symm, ?_⟩
  obtain ⟨y, hy, hblank, hstats, -⟩ := hend.stands.guard
  obtain ⟨y', hy', hblank', hstats', -⟩ := hend'.stands.guard
  rw [hy, hy', Option.map_some, Option.map_some, hblank, hblank', hstats, hstats',
    discarded_twins (hus.twins hus') rfl]

/-- A worker that has been left a handle and a request of a flush. -/
def leftover : System where
  store :=
    { entries := #[{ guard := 0, address := 7, label := none, callback := {}, owners := 0 }]
      guards := #[{
        config := Config.standard.withSink (.recorder "a" fun _ _ => false), worker := 0
        source := { queue := ⟨[.reclaim ⟨1⟩, .flush 0], false⟩ }, registry := ⟨[⟨1⟩]⟩ }]
      acks := #[.pending] }
  threads := #[worker (.worker none) 0 .starting]

/-- The sink panics at every handle that the worker finds, or at the second diagnostic that it is told. -/
theorem panics_contained_leftover :
    ∃ us us', leftover.Served 0 0 (.worker none) leftover.store.guards[0]
        (List.replicate 24 fun _ d => d.kind == .notProperlyClosed) us ∧
      leftover.Served 0 0 (.worker none) leftover.store.guards[0]
        (List.replicate 24 fun told _ => told.length == 1) us' ∧
      List.Forall₂ Upshot.Twin us us' := by
  have htame : (leftover.store.ward leftover.store.guards[0]).Tame := fun id e he => by
    obtain ⟨hlisted, he, -⟩ := Ward.claimable?_eq_some he
    have hlisted : id ∈ [(⟨1⟩ : HandleId)] := List.contains_iff_mem.mp hlisted
    obtain rfl : id = ⟨1⟩ := List.mem_singleton.mp hlisted
    cases he
    rfl
  have hlong : ∀ mood, 11 * leftover.store.guards[0].source.queue.items.length + 2 ≤
      (List.replicate 24 mood : List Mood).length := fun mood => by
    rw [List.length_replicate]
    decide
  have hth : leftover.thread? 0 = some (worker (.worker none) 0 .starting) := rfl
  obtain ⟨us, us', hserved, hserved', htwins, -⟩ := panics_contained hth rfl rfl ⟨rfl, rfl, rfl, rfl⟩
    (fun h => by cases h) htame (hlong _) (hlong _)
  exact ⟨us, us', hserved, hserved', htwins⟩

end System

end Reclaim

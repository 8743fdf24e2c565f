import Reclaim.Proofs.Paths
import Reclaim.Proofs.Programs

/-!
# A sink in any mood

A worker left to itself, while the sink of its guard changes its mood: before each action it is decided anew
on which diagnostics the sink panics, so that nothing is assumed about when it does.

* `System.serve`, `System.tale` : a thread acts, once for each mood, and what it does;
* `Ward` : what there is of a guard besides the mood of the sink, the counters and what the sink was told;
  `Store.Stands` : how things stand with these three;
* `System.Sits`, `System.Leads` : where a thread is, and from where to where it gets;
* `System.Sits.polling`, `System.Sits.report`, `System.Sits.callback` and so on : one action each of the worker,
  and what a callback does.
-/

namespace Reclaim

/-! ## Moods -/

/-- When a sink panics, by what it was told before and the diagnostic. -/
abbrev Mood := List Diagnostic → Diagnostic → Bool

/-- The sink in a mood, if it can panic at all. -/
def Sink.moody (mood : Mood) : Sink → Sink
  | .recorder name _ => .recorder name mood
  | sink => sink

@[simp] theorem Sink.moody_moody (mood mood' : Mood) (sink : Sink) :
    (sink.moody mood).moody mood' = sink.moody mood' := by
  cases sink <;> rfl

/-- The guard with its sink in a mood. -/
def Guard.humour (mood : Mood) (x : Guard) : Guard :=
  { x with config := x.config.withSink (x.config.sink.moody mood) }

/-- The sink of the guard gets into a mood. -/
def Store.humour (s : Store) (g : GuardId) (mood : Mood) : Store :=
  s.modifyGuard g (Guard.humour mood)

namespace System

/-- The sink of the guard gets into a mood. -/
def humour (w : System) (g : GuardId) (mood : Mood) : System :=
  { w with store := w.store.humour g mood }

/-- A thread acts once for each mood of the sink of the guard, as long as it can. -/
def serve (g : GuardId) (t : ThreadId) : System → List Mood → System
  | w, [] => w
  | w, mood :: moods => serve g t ((w.humour g mood).occur (.move (.act t))) moods

/-- What the thread does at that. -/
def tale (g : GuardId) (t : ThreadId) : System → List Mood → Trace
  | _, [] => []
  | w, mood :: moods =>
    (w.humour g mood).deeds (.move (.act t)) ++
      tale g t ((w.humour g mood).occur (.move (.act t))) moods

end System

/-! ## What the worker leaves and finds -/

/-- What there is of a guard besides the mood of the sink, the counters and what the sink was told. -/
def Guard.blank (x : Guard) : Guard := { x.humour fun _ _ => false with stats := {}, offered := {} }

@[simp] theorem Guard.blank_humour (mood : Mood) (x : Guard) :
    (x.humour mood).blank = x.blank := by
  simp [blank, humour, Config.withSink]

/-- What a worker works on. -/
structure Ward where
  entries : Array Entry
  acks : Array (Oneshot Unit)
  failing : List (List Address)
  guard : Guard

/-- What the worker of this guard works on. -/
def Store.ward (s : Store) (x : Guard) : Ward := ⟨s.entries, s.acks, s.failing, x.blank⟩

namespace Ward

/-- The resource behind a handle. -/
def resource? (v : Ward) (id : HandleId) : Option Entry := Store.resource? { entries := v.entries } id

/-- The resource behind a handle that is the guard's to release. -/
def claimable? (v : Ward) (id : HandleId) : Option Entry :=
  if v.guard.registry.contains id then (v.resource? id).filter fun e => e.state == .active else none

/-- The handle has been claimed. -/
def claim (v : Ward) (id : HandleId) : Ward :=
  { v with
    entries := (Store.markReleased { entries := v.entries } id).entries
    guard := { v.guard with registry := v.guard.registry.erase id } }

/-- How a run of the callback of a resource ends. -/
def ending (v : Ward) (e : Entry) : Option Panic :=
  if (e.callback.probe.bind fun i => v.failing[i]?).any fun xs => xs.contains e.address then
    some (Probe.failure e.address)
  else e.callback.panic

/-- The worker is in this state. -/
def inState (v : Ward) (state : WorkerState) : Ward := { v with guard := { v.guard with state } }

/-- The source is this one. -/
def feed (v : Ward) (source : Source) : Ward := { v with guard := { v.guard with source } }

/-- The source has been interrupted. -/
def shut (v : Ward) : Ward := v.feed v.guard.source.interrupt.1

/-- The worker has ended. -/
def leave (v : Ward) (exit : Exit) : Ward :=
  { v with guard := { v.guard with state := .stopped, exit := some exit } }

end Ward

/-- The source is a plain queue of these items, which nobody has interrupted. -/
structure Source.Feeds (x : Source) (items : List Item) : Prop where
  queue : x.queue = ⟨items, false⟩
  gate : x.gate = none
  swallows : x.swallowsFlushes = false
  panicsAt : x.panicsAt = none

namespace Store
variable {s : Store} {g : GuardId} {v : Ward} {c : Stats} {l : List Diagnostic}

/-- How things stand at a guard: what there is, what has been counted, and what the sink was told. -/
structure Stands (s : Store) (g : GuardId) (v : Ward) (c : Stats) (l : List Diagnostic) : Prop where
  entries : s.entries = v.entries
  acks : s.acks = v.acks
  failing : s.failing = v.failing
  guard : ∃ x, s.guard? g = some x ∧ x.blank = v.guard ∧ x.stats = c ∧ x.offered.toList = l

theorem Stands.modifyGuard (h : s.Stands g v c l) {f : Guard → Guard} {v' : Guard} {c' : Stats}
    {l' : List Diagnostic} (hf : ∀ x, s.guard? g = some x → x.blank = v.guard → x.stats = c → x.offered.toList = l →
      (f x).blank = v' ∧ (f x).stats = c' ∧ (f x).offered.toList = l') :
    (s.modifyGuard g f).Stands g { v with guard := v' } c' l' := by
  obtain ⟨x, hx, hblank, hstats, hoffered⟩ := h.guard
  exact ⟨h.entries, h.acks, h.failing, f x, by rw [guard?_modifyGuard, if_pos rfl, hx, Option.map_some],
    hf x hx hblank hstats hoffered⟩

theorem Stands.humour (h : s.Stands g v c l) (mood : Mood) : (s.humour g mood).Stands g v c l :=
  h.modifyGuard fun x _ hblank hstats hoffered => ⟨(x.blank_humour mood).trans hblank, hstats, hoffered⟩

theorem Stands.log (h : s.Stands g v c l) (level : Level) (text : String) : (s.log level text).Stands g v c l :=
  ⟨h.entries, h.acks, h.failing, h.guard⟩

theorem Stands.resource? (h : s.Stands g v c l) (id : HandleId) : s.resource? id = v.resource? id := by
  simp only [Store.resource?, Ward.resource?, h.entries]

theorem Stands.ending (h : s.Stands g v c l) (e : Entry) : s.ending e = v.ending e := by
  simp only [Store.ending, tellProbe_eq, h.failing, Ward.ending]

theorem Stands.setWorkerState (h : s.Stands g v c l) (state : WorkerState) :
    (s.setWorkerState g state).Stands g (v.inState state) c l :=
  h.modifyGuard fun x _ hblank hstats hoffered => ⟨by rw [← hblank]; rfl, hstats, hoffered⟩

theorem Stands.modifyStats (h : s.Stands g v c l) (f : Stats → Stats) : (s.modifyStats g f).Stands g v (f c) l :=
  h.modifyGuard fun _ _ hblank hstats hoffered => ⟨hblank, congrArg f hstats, hoffered⟩

/-- What the sink does about a diagnostic is up to its mood. -/
theorem Stands.emit (h : s.Stands g v c l) (d : Diagnostic) : (s.emit g d).1.Stands g v c (l ++ [d]) := by
  obtain ⟨x, hx, hblank, hstats, hoffered⟩ := h.guard
  have hoffer : (s.modifyGuard g (·.offer d)).Stands g v c (l ++ [d]) :=
    h.modifyGuard fun x _ hblank hstats hoffered =>
      ⟨hblank, hstats, by simp [Guard.offer, Recorder.offer, Recorder.toList, ← hoffered]⟩
  simp only [Store.emit, hx, Option.map_some]
  exact ⟨hoffer.entries, hoffer.acks, hoffer.failing, hoffer.guard⟩

theorem Stands.callNext (h : s.Stands g v c l) {items : List Item} (hfeeds : v.guard.source.Feeds items) :
    (s.callNext g).1.Stands g (v.feed v.guard.source.ask.1) c l ∧ (s.callNext g).2 = false := by
  obtain ⟨x, hx, hblank, -⟩ := h.guard
  have hsource : x.source = v.guard.source := by rw [← hblank]; rfl
  simp only [Store.callNext, hx, hsource]
  refine ⟨h.modifyGuard fun x _ hblank hstats hoffered => ⟨by rw [← hblank]; rfl, hstats, hoffered⟩, ?_⟩
  simp [Source.ask, hfeeds.panicsAt]

theorem Stands.pollNext (h : s.Stands g v c l) {item : Item} {items : List Item}
    (hfeeds : v.guard.source.Feeds (item :: items)) :
    (s.pollNext g).1.Stands g (v.feed v.guard.source.poll.1) c l ∧ (s.pollNext g).2 = .item item ∧
      v.guard.source.poll.1.Feeds items := by
  obtain ⟨x, hx, hblank, -⟩ := h.guard
  have hsource : x.source = v.guard.source := by rw [← hblank]; rfl
  have hpoll : v.guard.source.poll =
      ({ v.guard.source with
        queue := ⟨items, false⟩, gate := none, delivered := item :: v.guard.source.delivered }, .item item) := by
    simp [Source.poll, Queue.next, hfeeds.queue, Source.isOpen, hfeeds.gate, hfeeds.swallows]
  simp only [Store.pollNext, hx, hsource, hpoll]
  exact ⟨h.modifyGuard fun x _ hblank hstats hoffered => ⟨by rw [← hblank]; rfl, hstats, hoffered⟩, trivial,
    rfl, rfl, hfeeds.swallows, hfeeds.panicsAt⟩

theorem Stands.answer (h : s.Stands g v c l) (k : Nat) :
    (s.answer k).Stands g { v with acks := v.acks.modify k (·.send ()) } c l :=
  ⟨h.entries, congrArg (fun cells => cells.modify k (·.send ())) h.acks, h.failing, h.guard⟩

/-- Where nothing waits, an interruption leaves nothing to destroy. -/
theorem Stands.interrupt (h : s.Stands g v c l) (hnone : v.guard.source.queue.items = []) :
    (s.interrupt g).1.Stands g v.shut c l ∧ (s.interrupt g).2 = [] := by
  obtain ⟨x, hx, hblank, -⟩ := h.guard
  have hsource : x.source = v.guard.source := by rw [← hblank]; rfl
  have hmodified : (s.modifySource g fun _ => v.guard.source.interrupt.1).Stands g
      { v with guard := { v.guard with source := v.guard.source.interrupt.1 } } c l :=
    h.modifyGuard fun x _ hblank hstats hoffered => ⟨by rw [← hblank]; rfl, hstats, hoffered⟩
  have hitems : v.guard.source.interrupt.2 = [] := hnone
  simp only [Store.interrupt, hx, hsource, hitems]
  exact ⟨hmodified, rfl⟩

/-- A handle is claimed exactly if it is the guard's to release. -/
theorem Stands.takeActive (h : s.Stands g v c l) (id : HandleId) :
    (∃ e, v.claimable? id = some e ∧ (s.takeActive g id).2 = true ∧
      (s.takeActive g id).1.Stands g (v.claim id) c l) ∨
    (v.claimable? id = none ∧ s.takeActive g id = (s, false)) := by
  obtain ⟨x, hx, hblank, -⟩ := h.guard
  have hregistry : x.registry = v.guard.registry := by rw [← hblank]; rfl
  have hclaim : ((s.markReleased id).untrack g id).Stands g (v.claim id) c l := by
    have hmarked : (s.markReleased id).Stands g
        { v with entries := (Store.markReleased { entries := v.entries } id).entries } c l := by
      refine ⟨?_, ?_, ?_, by simpa [markReleased] using h.guard⟩
      · simp only [markReleased, modifyEntry, ← h.entries]
        split <;> rfl
      · rw [← h.acks]
        unfold markReleased modifyEntry
        split <;> rfl
      · rw [← h.failing]
        unfold markReleased modifyEntry
        split <;> rfl
    exact hmarked.modifyGuard fun x _ hblank hstats hoffered => ⟨by rw [← hblank]; rfl, hstats, hoffered⟩
  simp only [Store.takeActive, hx, hregistry, h.resource?, Ward.claimable?]
  cases v.guard.registry.contains id with
  | false => exact .inr ⟨rfl, rfl⟩
  | true =>
    simp only [if_true]
    cases v.resource? id with
    | none => exact .inr ⟨rfl, rfl⟩
    | some e =>
      cases hstate : e.state with
      | active => exact .inl ⟨e, by simp [hstate], by simp only [hstate], by simpa only [hstate] using hclaim⟩
      | released => exact .inr ⟨by simp [hstate], by simp only [hstate]⟩

end Store

/-! ## Actions of the worker -/

/-- What a worker counts when a callback has ended. -/
def Stats.settle (c : Stats) : Option Panic → Stats
  | none => { c with reclaimed := c.reclaimed + 1 }
  | some _ => { c with releaseFailures := c.releaseFailures + 1 }

/-- A thread is here, and things stand like this at the guard. -/
structure System.Sits (w : System) (g : GuardId) (t : ThreadId) (th : Thread) (v : Ward) (c : Stats)
    (l : List Diagnostic) : Prop where
  thread : w.thread? t = some th
  stands : w.store.Stands g v c l

/-- From one system the thread comes to another and has some moods less then, and this is what it does
meanwhile. -/
def System.Leads (g : GuardId) (t : ThreadId) (w : System) (moods : List Mood)
    (ds : Trace) (w' : System) (moods' : List Mood) : Prop :=
  ∃ spent, moods = spent ++ moods' ∧ serve g t w spent = w' ∧ tale g t w spent = ds

namespace System
variable {w w' : System} {g : GuardId} {t : ThreadId} {name : ThreadName} {v v' : Ward} {c c' : Stats}
  {l l' : List Diagnostic} {items : List Item} {id : HandleId} {e : Entry}

theorem serve_append (w : System) (moods moods' : List Mood) :
    serve g t w (moods ++ moods') = serve g t (serve g t w moods) moods' := by
  induction moods generalizing w with
  | nil => rfl
  | cons k moods ih => exact ih _

theorem tale_append (w : System) (moods moods' : List Mood) :
    tale g t w (moods ++ moods') = tale g t w moods ++ tale g t (serve g t w moods) moods' := by
  induction moods generalizing w with
  | nil => rfl
  | cons k moods ih => simp only [List.cons_append, tale, serve, ih, List.append_assoc]

section Leads
variable {moods moods' : List Mood} {ds : Trace}

theorem Leads.serve (h : Leads g t w moods ds w' moods') : serve g t w moods = System.serve g t w' moods' := by
  obtain ⟨spent, rfl, rfl, -⟩ := h
  exact serve_append w spent moods'

theorem Leads.tale (h : Leads g t w moods ds w' moods') : tale g t w moods = ds ++ System.tale g t w' moods' := by
  obtain ⟨spent, rfl, rfl, rfl⟩ := h
  exact tale_append w spent moods'

end Leads

theorem Leads.refl (g : GuardId) (t : ThreadId) (w : System) (moods : List Mood) :
    Leads g t w moods [] w moods := ⟨[], rfl, rfl, rfl⟩

theorem Leads.trans {w₁ w₂ w₃ : System} {moods₁ moods₂ moods₃ : List Mood} {ds ds' : Trace}
    (h : Leads g t w₁ moods₁ ds w₂ moods₂) (h' : Leads g t w₂ moods₂ ds' w₃ moods₃) :
    Leads g t w₁ moods₁ (ds ++ ds') w₃ moods₃ := by
  obtain ⟨spent, rfl, rfl, rfl⟩ := h
  obtain ⟨spent', rfl, rfl, rfl⟩ := h'
  exact ⟨spent ++ spent', (List.append_assoc ..).symm, serve_append w₁ spent spent', tale_append w₁ spent spent'⟩

/-- One action of the frame at the top. -/
theorem Sits.act {x : Frame} {rest : List Frame} {s' : Store} {p : Progress}
    (h : w.Sits g t ⟨name, x :: rest, none⟩ v c l) (mood : Mood) (moods : List Mood)
    (hready : x.isReady (w.store.humour g mood) = true)
    (hadvance : x.advance t w.threads.size (w.store.humour g mood) = (s', p)) (hs' : s'.Stands g v' c' l') :
    ∃ w', Leads g t w (mood :: moods) (x.deeds (w.store.humour g mood) (.over rest) p) w' moods ∧
      w'.Sits g t ((Thread.mk name (x :: rest) none).progress rest p) v' c' l' := by
  have hthread : (w.humour g mood).thread? t = some ⟨name, x :: rest, none⟩ := h.thread
  have hacting : (w.humour g mood).acting? t = some x := by
    simp only [acting?, hthread]
    exact if_pos hready
  have hoccur := (occur_acting hacting).trans (act_eq hthread)
  obtain ⟨th, rest', hth, hstack, -, hall⟩ := thread?_act hacting
  cases hthread.symm.trans hth
  cases hstack
  have hadv : x.advance t (w.humour g mood).threads.size (w.humour g mood).store = (s', p) := hadvance
  refine ⟨(w.humour g mood).occur (.move (.act t)), ⟨[mood], rfl, rfl, ?_⟩, ?_, ?_⟩
  · simp only [tale, deeds, hacting, below, hthread, hadv, List.append_nil]
    rfl
  · rw [occur_acting hacting, hall, if_pos rfl, hadv]
  · rw [hoccur, hadv]
    exact hs'

/-- The thread of a worker that has come to a point. -/
def worker (name : ThreadName) (g : GuardId) (p : WorkerPoint) : Thread := ⟨name, [.worker g p], none⟩

/-- One action of the worker, from point to point. -/
theorem Sits.turn {p q : WorkerPoint} {s' : Store} {ds : Trace}
    (h : w.Sits g t (worker name g p) v c l) (mood : Mood) (moods : List Mood)
    (hready : (Frame.worker g p).isReady (w.store.humour g mood) = true)
    (hadvance : p.advance (w.store.humour g mood) g = (s', .goto (.worker g q))) (hs' : s'.Stands g v' c' l')
    (hds : (Frame.worker g p).deeds (w.store.humour g mood) .release (.goto (.worker g q)) = ds) :
    ∃ w', Leads g t w (mood :: moods) ds w' moods ∧ w'.Sits g t (worker name g q) v' c' l' := by
  obtain ⟨w', hleads, hsits⟩ := Sits.act h mood moods hready hadvance hs'
  exact ⟨w', hds ▸ hleads, hsits⟩

variable (mood : Mood) (moods : List Mood)

theorem Sits.starting (h : w.Sits g t (worker name g .starting) v c l) :
    ∃ w', Leads g t w (mood :: moods) [] w' moods ∧ w'.Sits g t (worker name g .calling) v c l :=
  h.turn mood moods rfl rfl ((h.stands.humour mood).log _ _) rfl

theorem Sits.calling (h : w.Sits g t (worker name g .calling) v c l) (hfeeds : v.guard.source.Feeds items) :
    ∃ w', Leads g t w (mood :: moods) [] w' moods ∧
      w'.Sits g t (worker name g .polling) ((v.inState .waiting).feed v.guard.source.ask.1) c l := by
  obtain ⟨hstands, hpanics⟩ :=
    ((h.stands.humour mood).setWorkerState .waiting).callNext hfeeds
  refine h.turn mood moods rfl ?_ hstands rfl
  rw [WorkerPoint.advance]
  generalize ((w.store.humour g mood).setWorkerState g .waiting).callNext g = r at hpanics
  obtain ⟨s', panics⟩ := r
  obtain rfl : panics = false := hpanics
  rfl

theorem Sits.polling {item : Item} (h : w.Sits g t (worker name g .polling) v c l)
    (hfeeds : v.guard.source.Feeds (item :: items)) :
    ∃ w', Leads g t w (mood :: moods) [.delivered g item] w' moods ∧
      w'.Sits g t (worker name g (.took item)) (v.feed v.guard.source.poll.1) c l ∧
      v.guard.source.poll.1.Feeds items := by
  have hs := h.stands.humour mood
  obtain ⟨hstands, hpoll, hrest⟩ := hs.pollNext hfeeds
  obtain ⟨x, hx, hblank, -⟩ := hs.guard
  have hsource : x.source = v.guard.source := by rw [← hblank]; rfl
  have hdeeds : (Frame.worker g .polling).deeds (w.store.humour g mood) .release
      (.goto (.worker g (.took item))) = [.delivered g item] := by
    simp only [Frame.deeds, Store.handsOut, hpoll]
  obtain ⟨w', hleads, hsits⟩ := h.turn mood moods
    (by simp [Frame.isReady, Store.isSourceReady, hx, hsource, Source.isReady, Source.isInterrupted,
      Source.pending, Queue.pending, hfeeds.queue, Source.isOpen, hfeeds.gate])
    (by
      rw [WorkerPoint.advance]
      generalize (w.store.humour g mood).pollNext g = r at hpoll
      obtain ⟨s', poll⟩ := r
      obtain rfl : poll = .item item := hpoll
      rfl)
    hstands hdeeds
  exact ⟨w', hleads, hsits, hrest⟩

theorem Sits.took {item : Item} (h : w.Sits g t (worker name g (.took item)) v c l) :
    ∃ w', Leads g t w (mood :: moods) [] w' moods ∧
      w'.Sits g t (worker name g (.processing item)) (v.inState .processing) c l :=
  h.turn mood moods rfl rfl ((h.stands.humour mood).setWorkerState .processing) rfl

theorem Sits.flush {k : Nat} (h : w.Sits g t (worker name g (.processing (.flush k))) v c l) :
    ∃ w', Leads g t w (mood :: moods) [] w' moods ∧
      w'.Sits g t (worker name g .calling) { v with acks := v.acks.modify k (·.send ()) } c l :=
  h.turn mood moods rfl rfl ((h.stands.humour mood).answer k) rfl

theorem Sits.claim (h : w.Sits g t (worker name g (.processing (.reclaim id))) v c l)
    (he : v.claimable? id = some e) :
    ∃ w', Leads g t w (mood :: moods) [] w' moods ∧
      w'.Sits g t (worker name g (.reporting id)) (v.claim id) c l := by
  obtain ⟨-, -, htaken, hstands⟩ | ⟨hnone, -⟩ := (h.stands.humour mood).takeActive id
  · refine h.turn mood moods rfl ?_ hstands (by simp only [Frame.deeds, htaken, if_true])
    rw [WorkerPoint.advance]
    generalize (w.store.humour g mood).takeActive g id = r at htaken
    obtain ⟨s', taken⟩ := r
    obtain rfl : taken = true := htaken
    rfl
  · cases hnone.symm.trans he

theorem Sits.discard (h : w.Sits g t (worker name g (.processing (.reclaim id))) v c l)
    (he : v.claimable? id = none) :
    ∃ w', Leads g t w (mood :: moods) [.discarded g id] w' moods ∧
      w'.Sits g t (worker name g .calling) v { c with discarded := c.discarded + 1 } l := by
  obtain ⟨e, hsome, -⟩ | ⟨-, htaken⟩ := (h.stands.humour mood).takeActive id
  · cases hsome.symm.trans he
  · have hadvance : WorkerPoint.advance (w.store.humour g mood) g (.processing (.reclaim id)) =
        ((w.store.humour g mood).countDiscarded g id, .goto (.worker g .calling)) := by
      rw [WorkerPoint.advance, htaken]
    exact h.turn mood moods rfl hadvance (((h.stands.humour mood).modifyStats _).log _ _)
      (by simp [Frame.deeds, htaken])

theorem Sits.settle {panic : Option Panic} (h : w.Sits g t (worker name g (.settling id panic)) v c l) :
    ∃ w', Leads g t w (mood :: moods) [] w' moods ∧ w'.Sits g t (worker name g (.announcing id panic)) v
      (c.settle panic) l := by
  cases panic with
  | none => exact h.turn mood moods rfl rfl ((h.stands.humour mood).modifyStats _) rfl
  | some p => exact h.turn mood moods rfl rfl ((h.stands.humour mood).modifyStats _) rfl

/-- Whatever the mood of the sink: when it panics at what has become of the resource the worker goes on all the
same, after one action more. -/
theorem Sits.announce {panic : Option Panic} (h : w.Sits g t (worker name g (.announcing id panic)) v c l)
    (he : v.resource? id = some e) :
    ∃ w' panicked p, Leads g t w (mood :: moods) [.said g (some id) (e.announcement panic) panicked] w' moods ∧
      w'.Sits g t (worker name g (if panicked then .aborted p else .calling)) v c
        (l ++ [e.announcement panic]) := by
  have hs := h.stands.humour mood
  have hstands := hs.emit (e.announcement panic)
  have he' : (w.store.humour g mood).resource? id = some e := (hs.resource? id).trans he
  have hdeeds : ∀ progress, (Frame.worker g (.announcing id panic)).deeds (w.store.humour g mood) .release progress =
      [.said g (some id) (e.announcement panic)
        ((w.store.humour g mood).emit g (e.announcement panic)).2.isSome] := fun progress => by
    simp only [Frame.deeds, he', Store.tells]
  cases hr : (w.store.humour g mood).emit g (e.announcement panic) with
  | mk s' panicked =>
    rw [hr] at hstands hdeeds
    cases panicked with
    | none =>
      obtain ⟨w', hleads, hsits⟩ := h.turn mood moods (q := .calling) rfl
        (by simp only [WorkerPoint.advance, he', hr]) hstands (hdeeds _)
      exact ⟨w', false, default, hleads, hsits⟩
    | some p =>
      obtain ⟨w', hleads, hsits⟩ := h.turn mood moods (q := .aborted p) rfl
        (by simp only [WorkerPoint.advance, he', hr]) hstands (hdeeds _)
      exact ⟨w', true, p, hleads, hsits⟩

/-- Either the sink panics at what the worker has found, or the callback is about to run. -/
theorem Sits.report (h : w.Sits g t (worker name g (.reporting id)) v c l) (he : v.resource? id = some e) :
    ∃ w' panicked p, Leads g t w (mood :: moods)
        [.said g (some id) (.notProperlyClosed e.address) panicked] w' moods ∧
      w'.Sits g t (if panicked then worker name g (.aborted p)
        else ⟨name, [.callback id .enter, .worker g (.running id)], none⟩) v c
          (l ++ [.notProperlyClosed e.address]) := by
  have hs := h.stands.humour mood
  have hstands := hs.emit (.notProperlyClosed e.address)
  have he' : (w.store.humour g mood).resource? id = some e := (hs.resource? id).trans he
  have hdeeds : ∀ progress, (Frame.worker g (.reporting id)).deeds (w.store.humour g mood) .release progress =
      [.said g (some id) (.notProperlyClosed e.address)
        ((w.store.humour g mood).emit g (.notProperlyClosed e.address)).2.isSome] := fun progress => by
    simp only [Frame.deeds, he', Store.tells]
  cases hr : (w.store.humour g mood).emit g (.notProperlyClosed e.address) with
  | mk s' panicked =>
    rw [hr] at hstands hdeeds
    cases panicked with
    | none =>
      have hadvance : WorkerPoint.advance (w.store.humour g mood) g (.reporting id) =
          (s', .call (.callback id .enter) (.worker g (.running id))) := by
        simp only [WorkerPoint.advance, he', hr]
      obtain ⟨w', hleads, hsits⟩ := Sits.act h mood moods rfl hadvance hstands
      exact ⟨w', false, default, (hdeeds _) ▸ hleads, hsits⟩
    | some p =>
      obtain ⟨w', hleads, hsits⟩ := h.turn mood moods (q := .aborted p) rfl
        (by simp only [WorkerPoint.advance, he', hr]) hstands (hdeeds _)
      exact ⟨w', true, p, hleads, hsits⟩

theorem receive_running (g : GuardId) (id : HandleId) (o : Outcome) :
    (Frame.worker g (.running id)).receive o = .worker g (.settling id o.panic?) := by
  cases o <;> rfl

theorem tellProbe_spares (s : Store) (e : Entry) : (s.tellProbe e).1.entries = s.entries ∧
    (s.tellProbe e).1.acks = s.acks ∧ (s.tellProbe e).1.guards = s.guards := by
  unfold Store.tellProbe
  split
  · exact ⟨rfl, rfl, rfl⟩
  · split <;> exact ⟨rfl, rfl, rfl⟩

omit mood in
/-- A quiet callback runs, and ends as it does whatever the mood of the sink. -/
theorem Sits.callback {k₁ k₂ k₃ : Mood}
    (h : w.Sits g t ⟨name, [.callback id .enter, .worker g (.running id)], none⟩ v c l)
    (he : v.resource? id = some e) (hquiet : e.callback.isQuiet = true) :
    ∃ w' moods', Leads g t w (k₁ :: k₂ :: k₃ :: moods)
        [.began (.reclaim g) id, .ended (.reclaim g) id (v.ending e)] w' moods' ∧
      moods.length ≤ moods'.length ∧ w'.Sits g t (worker name g (.settling id (v.ending e))) v c l := by
  have hs := h.stands.humour k₁
  have he' : (w.store.humour g k₁).resource? id = some e := (hs.resource? id).trans he
  have hending : (if (((w.store.humour g k₁).beginCall id e t).1.tellProbe e).2 then
      some (Probe.failure e.address) else e.callback.panic) = v.ending e := by
    rw [← hs.ending e, Store.ending, Store.tellProbe_eq, Store.tellProbe_eq]
    rfl
  have hstands : (((w.store.humour g k₁).beginCall id e t).1.tellProbe e).1.Stands g v c l := by
    obtain ⟨hentries, hacks, hguards⟩ := tellProbe_spares ((w.store.humour g k₁).beginCall id e t).1 e
    have hguard : ∀ g', (((w.store.humour g k₁).beginCall id e t).1.tellProbe e).1.guard? g' =
        (w.store.humour g k₁).guard? g' := fun g' => congrArg (·[g']?) hguards
    exact ⟨hentries.trans hs.entries, hacks.trans hs.acks,
      (Store.keeps_tellProbe ((w.store.humour g k₁).beginCall id e t).1 e).failing.trans hs.failing,
      (hguard g).symm ▸ hs.guard⟩
  cases hr : ((w.store.humour g k₁).beginCall id e t).1.tellProbe e with
  | mk s' fails =>
    rw [hr] at hending hstands
    cases fails with
    | true =>
      have hadvance : CallbackPoint.advance t (w.store.humour g k₁) id .enter =
          (s', .finish (.panic (Probe.failure e.address))) := by
        simp only [CallbackPoint.advance, he', hr]
      obtain ⟨w', hleads, hsits⟩ := Sits.act h k₁ (k₂ :: k₃ :: moods) rfl hadvance hstands
      rw [← hending]
      exact ⟨w', _, hleads, by simp only [List.length_cons]; omega, hsits⟩
    | false =>
      have hpanic : e.callback.outcome.panic? = v.ending e := (Callback.outcome_panic _).trans hending
      cases hbody : e.callback.body with
      | none =>
        have hadvance : CallbackPoint.advance t (w.store.humour g k₁) id .enter =
            (s', .finish e.callback.outcome) := by
          simp only [CallbackPoint.advance, he', hr, hbody]
        obtain ⟨w', hleads, hsits⟩ := Sits.act h k₁ (k₂ :: k₃ :: moods) rfl hadvance hstands
        rw [← hpanic]
        refine ⟨w', _, hleads, by simp only [List.length_cons]; omega, ?_⟩
        rw [worker, ← receive_running]
        exact hsits
      | some body =>
        obtain rfl : body = [] := by simpa [Callback.isQuiet, hbody] using hquiet
        -- the script of a quiet callback is empty, and ends with its first action
        generalize hcall : ((w.store.humour g k₁).beginCall id e t).2 = call
        have hadvance₁ : CallbackPoint.advance t (w.store.humour g k₁) id .enter =
            (s', .call (.commands [] []) (.callback id (.running call))) := by
          simp only [CallbackPoint.advance, he', hr, hbody, hcall]
        obtain ⟨w₁, hleads₁, hsits₁⟩ := Sits.act h k₁ (k₂ :: k₃ :: moods) rfl hadvance₁ hstands
        obtain ⟨w₂, hleads₂, hsits₂⟩ := Sits.act (p := .finish (.did [])) hsits₁ k₂ (k₃ :: moods) rfl rfl
          (hsits₁.stands.humour k₂)
        have hs₂ := hsits₂.stands.humour k₃
        have hadvance₃ : CallbackPoint.advance t (w₂.store.humour g k₃) id (.ran call []) =
            ((w₂.store.humour g k₃).endCall call [], .finish e.callback.outcome) := by
          simp only [CallbackPoint.advance, hs₂.resource?, he]
        obtain ⟨w₃, hleads₃, hsits₃⟩ := Sits.act hsits₂ k₃ moods rfl hadvance₃
          ⟨hs₂.entries, hs₂.acks, hs₂.failing, hs₂.guard⟩
        rw [← hpanic]
        refine ⟨w₃, moods, (hleads₁.trans hleads₂).trans hleads₃, le_refl _, ?_⟩
        rw [worker, ← receive_running]
        exact hsits₃

/-- A worker whose source has been interrupted leaves. -/
theorem Sits.halt (h : w.Sits g t (worker name g .polling) v c l) (hint : v.guard.source.isInterrupted = true) :
    ∃ w', Leads g t w (mood :: moods) [] w' moods ∧ w'.Sits g t (worker name g (.leaving .regular)) v c l := by
  have hs := h.stands.humour mood
  obtain ⟨x, hx, hblank, -⟩ := hs.guard
  have hsource : x.source = v.guard.source := by rw [← hblank]; rfl
  have hqueue : v.guard.source.queue.interrupted = true := hint
  have hpoll : v.guard.source.poll = (v.guard.source, .interrupted) := by
    simp [Source.poll, Queue.next, hqueue]
  have hpolled : (w.store.humour g mood).pollNext g =
      ((w.store.humour g mood).modifySource g fun _ => v.guard.source, .interrupted) := by
    simp only [Store.pollNext, hx, hsource, hpoll]
  have hstands : ((w.store.humour g mood).modifySource g fun _ => v.guard.source).Stands g v c l :=
    hs.modifyGuard fun x _ hblank hstats hoffered => ⟨by rw [← hblank]; rfl, hstats, hoffered⟩
  refine h.turn mood moods ?_ (by rw [WorkerPoint.advance, hpolled]) hstands ?_
  · simp [Frame.isReady, Store.isSourceReady, hx, hsource, Source.isReady, hint]
  · simp only [Frame.deeds, Store.handsOut, hpolled]

/-- A thread that cannot act stays where it is, in whichever mood the sink is. -/
theorem Sits.rests {th : Thread} (h : w.Sits g t th v c l)
    (hrest : ∀ s : Store, s.Stands g v c l → th.isReady s = false) (moods : List Mood) : ∃ w', Leads g t w moods [] w' [] ∧ w'.Sits g t th v c l := by
  induction moods generalizing w with
  | nil => exact ⟨w, .refl g t w [], h⟩
  | cons k moods ih =>
    have hs := h.stands.humour k
    have hthread : (w.humour g k).thread? t = some th := h.thread
    have hcannot : (w.humour g k).canAct t = false := by
      simp only [canAct, hthread]
      exact hrest _ hs
    have hnone : (w.humour g k).acting? t = none := by
      cases hacting : (w.humour g k).acting? t with
      | none => rfl
      | some x => exact absurd (canAct_iff.mpr ⟨x, hacting⟩) (by rw [hcannot]; exact Bool.false_ne_true)
    have hoccur := occur_not_acting hnone
    obtain ⟨w', hleads, hsits⟩ := ih (w := w.humour g k) ⟨hthread, hs⟩
    have hfirst : Leads g t w (k :: moods) [] (w.humour g k) moods :=
      ⟨[k], rfl, hoccur, by simp only [tale, deeds, hnone, List.append_nil]⟩
    exact ⟨w', hfirst.trans hleads, hsits⟩

omit mood in
/-- Whatever the mood of the sink, a worker that leaves with nothing waiting comes to its end. -/
theorem Sits.leaving {k₁ k₂ k₃ k₄ : Mood} {exit : Exit}
    (h : w.Sits g t (worker name g (.leaving exit)) v c l) (hnone : v.guard.source.queue.items = []) :
    ∃ w' panicked, Leads g t w (k₁ :: k₂ :: k₃ :: k₄ :: moods) [.said g none .interrupted panicked] w' moods ∧
      w'.Sits g t ⟨name, [], some .done⟩ (v.shut.leave exit) c (l ++ [.interrupted]) := by
  obtain ⟨hstands, htaken⟩ := (h.stands.humour k₁).interrupt hnone
  obtain ⟨w₁, hleaving, hsits⟩ := h.turn k₁ (k₂ :: k₃ :: k₄ :: moods) (q := .discarding exit []) rfl
    (congrArg (fun acks => (((w.store.humour g k₁).interrupt g).1,
      Progress.goto (.worker g (.discarding exit acks)))) htaken) hstands rfl
  obtain ⟨w₂, hclear, hsits⟩ := hsits.turn k₂ (k₃ :: k₄ :: moods) (q := .farewell exit) rfl rfl
    (hsits.stands.humour k₂) rfl
  obtain ⟨w₃, hfarewell, hsits⟩ := hsits.turn k₃ (k₄ :: moods) (q := .stopping exit) rfl rfl
    ((hsits.stands.humour k₃).emit .interrupted) rfl
  have hstopped : ((w₃.store.humour g k₄).modifyGuard g fun x =>
      { x with state := .stopped, exit := some exit }).Stands g (v.shut.leave exit) c (l ++ [.interrupted]) :=
    (hsits.stands.humour k₄).modifyGuard fun x _ hblank hstats hoffered =>
      ⟨by rw [← hblank]; rfl, hstats, hoffered⟩
  obtain ⟨w₄, hstopping, hsits⟩ := Sits.act (p := .finish .done) hsits k₄ moods
    rfl rfl hstopped
  exact ⟨w₄, _, ((hleaving.trans hclear).trans hfarewell).trans hstopping, hsits⟩

theorem Sits.recover {p : Panic} (h : w.Sits g t (worker name g (.aborted p)) v c l) :
    ∃ w', Leads g t w (mood :: moods) [] w' moods ∧ w'.Sits g t (worker name g .calling) v c l :=
  h.turn mood moods rfl rfl ((h.stands.humour mood).log _ _) rfl

end System

end Reclaim

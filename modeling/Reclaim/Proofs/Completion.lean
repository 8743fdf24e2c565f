import Reclaim.Proofs.Accounts
import Reclaim.Proofs.Barrier
import Reclaim.Proofs.Calls
import Reclaim.Proofs.Speech

/-!
# Programs that come to their end

Programs over a guard start when nobody is busy, go on in any order together with the worker of the guard,
and have all come to their end before somebody flushes the guard. When the flush has answered yes, the
worker is through with all that they have handed to it.

* `System.Ready` : a system in which programs may start; `Plan.Apt` : programs that may;
* `Plan.Schedule`, `System.Completes` : a run of programs, up to the flush;
* `System.Still`, `System.Completes.still` : no handle is on its way anywhere afterwards.
-/

namespace Reclaim

/-! ## The start -/

/-- How often calls have tried to claim the release of a handle. -/
def History.tries (h : History) (id : HandleId) : Nat :=
  h.count (id, .claimed .release true) + h.count (id, .claimed .release false)

/-- A worker that has nothing in hand. -/
def WorkerPoint.isIdle : WorkerPoint → Bool
  | starting | calling | polling => true
  | _ => false

/-- The source is a plain queue: there is no gate, it refuses and swallows nothing, and no call panics. -/
structure Source.IsPlain (x : Source) : Prop where
  gate : x.gate = none
  refuses : x.refuses = false
  swallows : x.swallowsFlushes = false
  panicsAt : x.panicsAt = none

/-- The source of a guard is a plain queue that is not interrupted, and its sink takes everything. -/
structure Guard.IsPlain (x : Guard) : Prop where
  gate : x.source.gate = none
  refuses : x.source.refuses = false
  swallows : x.source.swallowsFlushes = false
  panicsAt : x.source.panicsAt = none
  opened : x.source.isInterrupted = false
  quiet : ∀ told d, x.config.sink.panicsAt told d = false

/-- The guard with this name is plain, no callback has commands to carry out, and nobody is busy: there is
nothing but a worker of the guard that has nothing in hand. -/
structure System.Ready (w : System) (guard : String) (g : GuardId) : Prop where
  named : w.store.guardNamed guard = .ok g
  plain : ∃ x, w.store.guard? g = some x ∧ x.IsPlain
  calm : w.store.Calm
  idle : ∀ th ∈ w.threads, th.stack = [] ∨ ∃ p, th.stack = [.worker g p] ∧ p.isIdle = true

/-- Programs that may start in a store: what they register gets names of its own, with callbacks that have
no commands; they give up shares that there are; and each gets by with what is known at the start and
what it registers, and releases a handle only as long as a share of it is sure to be held. -/
structure Plan.Apt (start : Store) (ps : List (List Deal)) : Prop where
  distinct : (ps.flatten.filterMap Deal.enrols?).Nodup
  free : ∀ name ∈ ps.flatten.filterMap Deal.enrols?, start.names.handles.lookup name = none
  quiet : ∀ d ∈ ps.flatten, d.isQuiet = true
  shares : ∀ k, k.Valid start → (ps.flatten : Multiset Deal).countP (Deal.drops start k) ≤ k.shares start
  fits : ∀ p ∈ ps, Program.Fits (Plan.Keeps start ps.flatten) start.Knows p

/-- The programs join, a thread each. -/
def Plan.joins (guard : String) (ps : List (List Deal)) : List Event :=
  ps.map fun p => .join .helper (p.map (Deal.command guard))

/-- The thread of a program. -/
def Plan.thread (guard : String) (p : List Deal) : Thread :=
  ⟨.helper, [.commands (p.map (Deal.command guard)) []], none⟩

namespace System
variable {w : System} {h : History} {guard : String} {g : GuardId} {ps : List (List Deal)}

theorem after_joins (w : System) (guard : String) (ps : List (List Deal)) :
    w.after (Plan.joins guard ps) = ⟨w.store, w.threads ++ (ps.map (Plan.thread guard)).toArray⟩ ∧
      w.history (Plan.joins guard ps) = [] ∧ w.trace (Plan.joins guard ps) = [] := by
  induction ps generalizing w with
  | nil => simp [Plan.joins, after, history, trace]
  | cons p ps ih =>
    obtain ⟨hafter, hhistory, htrace⟩ := ih (w.occur (.join .helper (p.map (Deal.command guard))))
    refine ⟨hafter.trans ?_, hhistory, htrace⟩
    simp [occur, spawn, Plan.thread]

/-- Nothing has happened when the programs have joined. -/
theorem sound_joins (hw : w.Orderly h) (hrg : w.Regular h) (guard : String) (ps : List (List Deal)) :
    (w.after (Plan.joins guard ps)).Orderly h ∧ (w.after (Plan.joins guard ps)).Regular h := by
  obtain ⟨-, hhistory, -⟩ := w.after_joins guard ps
  have horderly := hw.after (Plan.joins guard ps)
  have hregular := hrg.after hw (Plan.joins guard ps)
  rw [hhistory, List.append_nil] at horderly hregular
  exact ⟨horderly, hregular⟩

/-- What stands for a handle stands for one that there is. -/
theorem Orderly.known (hw : w.Orderly h) : ∀ name id, (name, id) ∈ w.store.names.handles → w.store.Known id :=
  fun name id hid => hw.2.named id ⟨name, hid⟩

/-- What the frames of all threads hold when the programs have joined. -/
theorem tally_joins {α : Type} (f : Frame → Multiset α) (w : System) (guard : String)
    (ps : List (List Deal)) : (w.after (Plan.joins guard ps)).tally f =
      w.tally f + (ps.map fun p => f (.commands (p.map (Deal.command guard)) [])).sum := by
  rw [(w.after_joins guard ps).1]
  simp [tally, Thread.tally, Plan.thread, Function.comp_def]

theorem dealList_program (guard : String) (p : List Deal) (done : List Reply) :
    (Frame.commands (p.map (Deal.command guard)) done).dealList = p := by
  simp [Frame.dealList, List.filterMap_map]

/-- In a system that is ready nobody has anything to do for a program. -/
theorem Ready.tally_eq_zero {α : Type} (hr : w.Ready guard g) {f : Frame → Multiset α}
    (hf : ∀ p : WorkerPoint, p.isIdle = true → f (.worker g p) = 0) : w.tally f = 0 := by
  refine Multiset.eq_zero_of_forall_notMem fun a ha => ?_
  obtain ⟨th, hth, y, hy, hin⟩ := mem_tally.mp ha
  rcases hr.idle th hth with hstack | ⟨p, hstack, hp⟩ <;> rw [hstack] at hy
  · cases hy
  · rw [List.mem_singleton.mp hy, hf p hp] at hin
    exact Multiset.notMem_zero a hin

/-- What holds of every idle thread and of those of programs holds of all threads when the programs have
joined. -/
theorem Ready.forall_joins (hr : w.Ready guard g) {P : List Frame → Prop} (hnone : P [])
    (hworker : ∀ p : WorkerPoint, p.isIdle = true → P [.worker g p])
    (hprogram : ∀ p ∈ ps, P [.commands (p.map (Deal.command guard)) []]) :
    ∀ th ∈ (w.after (Plan.joins guard ps)).threads, P th.stack := by
  rw [(w.after_joins guard ps).1]
  intro th hth
  rcases Array.mem_append.mp hth with hth | hth
  · rcases hr.idle th hth with hstack | ⟨p, hstack, hp⟩ <;> rw [hstack]
    · exact hnone
    · exact hworker p hp
  · obtain ⟨p, hp, rfl⟩ := List.mem_map.mp (List.mem_toArray.mp hth)
    exact hprogram p hp

theorem sum_filterMap {α β : Type} (f : α → Option β) (ps : List (List α)) :
    (ps.map fun p => Multiset.ofList (p.filterMap f)).sum = Multiset.ofList (ps.flatten.filterMap f) := by
  induction ps with
  | nil => rfl
  | cons p ps ih =>
    rw [List.map_cons, List.sum_cons, ih, List.flatten_cons, List.filterMap_append, Multiset.coe_add]

/-- When the programs have joined, what all frames hold is what there is in the programs. -/
theorem Ready.tally_joined (hr : w.Ready guard g) {α : Type} {f : Frame → Multiset α}
    (hf : ∀ p : WorkerPoint, p.isIdle = true → f (.worker g p) = 0) {F : Deal → Option α}
    (hF : ∀ p : List Deal, f (.commands (p.map (Deal.command guard)) []) = Multiset.ofList (p.filterMap F)) :
    (w.after (Plan.joins guard ps)).tally f = Multiset.ofList (ps.flatten.filterMap F) := by
  rw [tally_joins, hr.tally_eq_zero hf, zero_add, ← sum_filterMap]
  simp only [hF]

/-- The books of a system in which programs have joined. -/
theorem Ready.books (hr : w.Ready guard g) (h : History) (ps : List (List Deal)) :
    (w.after (Plan.joins guard ps)).books h =
      { w.books h with
        deals := ps.flatten
        enrols := (ps.flatten.filterMap Deal.enrols? : List String)
        tried := h.tries } := by
  obtain ⟨hafter, -⟩ := w.after_joins guard ps
  have hspots : (w.after (Plan.joins guard ps)).spots = 0 := by
    refine (hr.tally_joined (F := fun _ => none) (fun p hp => ?_) fun p => by simp [Frame.spots]).trans (by simp)
    cases p <;> first | rfl | cases hp
  have hdeals : (w.after (Plan.joins guard ps)).tally Frame.deals = ps.flatten := by
    refine (hr.tally_joined (F := some) (fun _ _ => rfl) fun p => ?_).trans (by rw [List.filterMap_some])
    rw [Frame.deals, dealList_program, List.filterMap_some]
  have henrols : (w.after (Plan.joins guard ps)).tally Frame.enrols =
      (ps.flatten.filterMap Deal.enrols? : List String) :=
    hr.tally_joined (fun _ _ => rfl) fun p => congrArg
      (fun ds : List Deal => Multiset.ofList (ds.filterMap Deal.enrols?)) (dealList_program guard p [])
  refine Books.ext (by rw [System.books, hafter]; rfl) (by rw [System.books, hafter]; rfl)
    (funext fun id => ?_) hdeals henrols
  simp [System.books, hspots, History.tries]

/-- At the start the books are balanced. -/
theorem balanced_start (hp : Plan.Apt w.store ps) (hw : w.Orderly h) (hrg : w.Regular h) :
    Books.Balanced w.store h.tries ps.flatten
      { w.books h with
        deals := ps.flatten
        enrols := (ps.flatten.filterMap Deal.enrols? : List String)
        tried := h.tries } where
  names := ⟨[], rfl, by simp⟩
  distinct := by
    refine List.nodup_iff_count_le_one.mpr fun id => ?_
    by_cases hin : id ∈ w.store.names.handles.map Prod.snd
    · obtain ⟨⟨name, id⟩, hname, rfl⟩ := List.mem_map.mp hin
      obtain ⟨e, he⟩ := hw.2.named id ⟨name, hname⟩
      obtain ⟨x, hx⟩ := hw.2.entries id e he
      exact le_trans (Nat.le_add_left _ _) (hrg id e x he hx).sound.once.le
    · exact (List.count_eq_zero.mpr hin).le.trans (Nat.zero_le 1)
  places k id hk hfind := by
    cases k with
    | new name => cases hk.symm.trans hfind
    | old id' =>
      cases hfind
      obtain ⟨e, he⟩ := hk
      have hshares := hp.shares (.old id) ⟨e, he⟩
      refine ⟨?_, rfl⟩
      simp only [System.books, he, Option.map_some, Plan.left, Place.shares, Option.getD_some] at hshares ⊢
      congr 1
      omega
  coming name hname := by
    have hshares := hp.shares (.new name) (hp.free name (Multiset.mem_coe.mp hname))
    refine ⟨?_, by simp [Plan.tries]⟩
    simp only [Plan.left, Place.shares] at hshares ⊢
    omega
  unbound id n hnew hn := by
    obtain ⟨e, he, -⟩ := Option.map_eq_some_iff.mp hn
    exact absurd ⟨e, he⟩ hnew
  fresh name id hnone hid := by cases hnone.symm.trans hid
  kept name r f hr hf := .inl (Multiset.mem_coe.mpr (List.mem_filterMap.mpr ⟨_, hr, rfl⟩))

/-- The accounts start balanced. -/
theorem Ready.accounts (hr : w.Ready guard g) (hp' : Plan.Apt w.store ps) (hw : w.Orderly h)
    (hrg : w.Regular h) :
    (w.after (Plan.joins guard ps)).Accounts w.store h.tries ps.flatten guard g h := by
  have hstore : (w.after (Plan.joins guard ps)).store = w.store := by rw [(w.after_joins guard ps).1]
  obtain ⟨x, hx, hplain⟩ := hr.plain
  exact
    { tame := by
        refine hr.forall_joins (P := fun stack => ∀ y ∈ stack, y.Tame guard g) (List.forall_mem_nil _)
          (fun p hp => ?_)
          fun p hp => ?_
        · refine List.forall_mem_singleton.mpr ⟨rfl, ?_⟩
          cases p <;> first | rfl | cases hp
        · refine List.forall_mem_singleton.mpr fun c hc => ?_
          obtain ⟨d, hd, rfl⟩ := List.mem_map.mp hc
          exact .deal (hp'.quiet d (List.mem_flatten.mpr ⟨p, hp, hd⟩))
      calm := hstore ▸ hr.calm
      opens := hstore ▸ ⟨x, hx, hplain.opened, hplain.panicsAt, hplain.quiet⟩
      named := hstore ▸ hr.named
      failing := by rw [hstore]
      enrolled := by
        rw [hstore]
        refine hr.forall_joins (P := fun stack => ∀ y ∈ stack, y.Enrolled _ _ g _) (List.forall_mem_nil _)
          (fun p _ => List.forall_mem_singleton.mpr trivial) fun p hp => ?_
        refine List.forall_mem_singleton.mpr fun d hd => ?_
        exact List.mem_flatten.mpr ⟨p, hp, dealList_program guard p [] ▸ hd⟩
      abides := by
        rw [hstore]
        refine hr.forall_joins trivial (fun p _ => ⟨trivial, trivial⟩) fun p hp => ⟨?_, trivial⟩
        rw [dealList_program]
        exact hp'.fits p hp
      made := by
        rw [hstore]
        intro name id hnone hid
        cases hnone.symm.trans hid
      balanced := by
        rw [hr.books h ps]
        exact balanced_start hp' hw hrg }

/-! ## What is left when programs have ended -/

section Late
variable {start : Store} {first : HandleId → Nat} {plan : List Deal} {t : ThreadId} {th : Thread} {x : Frame}

/-- A late frame goes on with late frames. -/
theorem Accounts.late (ha : w.Accounts start first plan guard g h) (ht : w.acting? t = some x)
    (hx : x.isLate = true) : ∀ y ∈ (x.advance t w.threads.size w.store).2.frames, y.isLate = true := by
  have htame := ha.acting_tame ht
  cases hmajor : x.isMajor with
  | false => exact (Frame.advance_neutral ha.calm ha.opens htame hmajor).late hx
  | true =>
    cases x with
    | commands todo done =>
      cases todo with
      | nil => cases hmajor
      | cons c todo =>
        cases (List.forall_mem_cons.mp htame).1 with
        | @deal d => simp [Frame.isLate] at hx
        | flush patience =>
          rw [Frame.advance, advance_flush ha.named]
          exact List.forall_mem_cons.mpr ⟨rfl, List.forall_mem_singleton.mpr hx⟩
    | register => cases hx
    | _ => cases hmajor

/-- On a thread with frames of a kind only, which go on with frames of that kind, there will be such frames
only. -/
theorem Accounts.forall_after {P : Frame → Prop}
    (hplan : (plan.filterMap Deal.enrols?).Nodup)
    (hfree : ∀ name ∈ plan.filterMap Deal.enrols?, start.names.handles.lookup name = none)
    (hknown : ∀ name id, (name, id) ∈ start.names.handles → start.Known id)
    (hadvance : ∀ {w : System} {h t x}, w.Accounts start first plan guard g h → w.acting? t = some x → P x →
      ∀ y ∈ (x.advance t w.threads.size w.store).2.frames, P y)
    (hreceive : ∀ y, P y → y.waits = true → ∀ o, P (y.receive o))
    (ha : w.Accounts start first plan guard g h) (hw : w.Orderly h) (hrg : w.Regular h)
    (hth : w.thread? t = some th) (hall : ∀ x ∈ th.stack, P x) (moves : List Move) :
    ∃ th', (w.after (moves.map .move)).thread? t = some th' ∧ ∀ x ∈ th'.stack, P x := by
  induction moves generalizing w h th with
  | nil => exact ⟨th, hth, hall⟩
  | cons m moves ih =>
    suffices hstep : ∃ th', (w.occur (.move m)).thread? t = some th' ∧ ∀ x ∈ th'.stack, P x by
      obtain ⟨th', hth', hall'⟩ := hstep
      exact ih (ha.occur hplan hfree hknown hw hrg m).1 (hw.step _) (hrg.step hw _) hth' hall'
    have hgoes : ∀ {x rest p}, th.stack = x :: rest → (∀ y ∈ p.frames, P y) →
        ∀ y ∈ (th.progress rest p).stack, P y := fun hstack hp =>
      Thread.forall_frames (hstack ▸ hw.1 th (thread?_mem hth)) hp
        (fun y hy => hall y (hstack ▸ List.mem_cons_of_mem _ hy)) hreceive
    obtain ⟨x, rest, -, ht, hstack, hth'⟩ | ⟨g', gate, k, rest, -, hstack, hth'⟩ | ⟨hth', -⟩ :=
      thread?_occur hth (.move m)
    · exact ⟨_, hth', hgoes hstack (hadvance ha ht (hall x (hstack ▸ List.mem_cons_self)))⟩
    · exact ⟨_, hth', hgoes hstack (List.forall_mem_nil _)⟩
    · exact ⟨th, hth', hall⟩

variable (hplan : (plan.filterMap Deal.enrols?).Nodup)
  (hfree : ∀ name ∈ plan.filterMap Deal.enrols?, start.names.handles.lookup name = none)
  (hknown : ∀ name id, (name, id) ∈ start.names.handles → start.Known id)
include hplan hfree hknown

/-- Where there are late frames only, there will be late frames only. -/
theorem Accounts.late_after (ha : w.Accounts start first plan guard g h) (hw : w.Orderly h)
    (hrg : w.Regular h) (hth : w.thread? t = some th) (hlate : ∀ x ∈ th.stack, x.isLate = true)
    (moves : List Move) : ∃ th', (w.after (moves.map .move)).thread? t = some th' ∧
      ∀ x ∈ th'.stack, x.isLate = true :=
  ha.forall_after hplan hfree hknown (fun ha ht => ha.late ht) (fun _ => Frame.late_receive) hw hrg hth hlate moves

/-- All frames are late. -/
def Late (w : System) : Prop := ∀ th ∈ w.threads, ∀ x ∈ th.stack, x.isLate = true

theorem Accounts.all_late_after (ha : w.Accounts start first plan guard g h) (hw : w.Orderly h)
    (hrg : w.Regular h) (hlate : w.Late) (moves : List Move) : (w.after (moves.map .move)).Late := by
  intro th' hin
  obtain ⟨t, hth'⟩ := Array.mem_iff_getElem?.mp hin
  have hlt : t < w.threads.size := by
    rw [← (ha.after hplan hfree hknown hw hrg moves).2]
    exact (Array.getElem?_eq_some_iff.mp hth').choose
  have hth : w.thread? t = some w.threads[t] := Array.getElem?_eq_getElem hlt
  obtain ⟨th'', hth'', hall⟩ := ha.late_after hplan hfree hknown hw hrg hth
    (hlate _ (thread?_mem hth)) moves
  cases hth'.symm.trans hth''
  exact hall

omit hplan hfree hknown in
/-- Late frames hand nothing to a source but requests of flushes. -/
theorem accepted_late (htame : x.Tame guard g) (hx : x.isLate = true) {s : Store} {path : Path}
    {p : Progress} {g' : GuardId} {item : Item} (hin : .accepted g' item ∈ x.deeds s path p) :
    ∃ k, item = .flush k := by
  have haccepts : ∀ {g'' : GuardId} {item' : Item}, .accepted g' item ∈ s.accepts g'' item' → item = item' := by
    intro g'' item' hin
    unfold Store.accepts at hin
    split at hin
    · cases List.mem_singleton.mp hin
      rfl
    · cases hin
  have hends : ∀ {path id}, .accepted g' item ∉ p.ends path id := fun {path id} => by
    cases p <;> simp [Progress.ends]
  cases x with
  | commands todo done =>
    cases todo with
    | nil => cases hin
    | cons c todo =>
      cases (List.forall_mem_cons.mp htame).1 with
      | @deal d => simp [Frame.isLate] at hx
      | flush patience => cases hin
  | callback id q =>
    cases q with
    | enter => exact absurd ((List.mem_cons.mp hin).resolve_left fun h => by cases h) hends
    | running call => cases hin
    | ran call replies => exact absurd hin hends
  | flush g'' patience gate q =>
    cases q with
    | request => exact ⟨_, haccepts hin⟩
    | _ => cases hin
  | worker g'' q =>
    cases q with
    | polling =>
      simp only [Frame.deeds, Store.handsOut] at hin
      split at hin <;> simp at hin
    | processing item' =>
      cases item' with
      | flush k => cases hin
      | reclaim id =>
        simp only [Frame.deeds] at hin
        split at hin <;> simp at hin
    | reporting id | announcing id panic =>
      simp only [Frame.deeds, Store.tells] at hin
      split at hin <;> simp at hin
    | farewell exit => simp [Frame.deeds, Store.tells] at hin
    | _ => cases hin
  | give | rest => cases hin
  | _ => cases hx

end Late

end System

/-! ## The flush -/

/-- How far a thread has come that does nothing but flush a guard, with the answer if there is one. -/
inductive Flushes (guard : String) (g : GuardId) (patience : Patience) (name : ThreadName) :
    Option Bool → Thread → Prop
  | begins : Flushes guard g patience name none ⟨name, [.commands [.flush guard patience .opens] []], none⟩
  | waits (p : FlushPoint) :
      Flushes guard g patience name none ⟨name, [.flush g patience .opens p, .commands [] []], none⟩
  | rests (b : Bool) :
      Flushes guard g patience name (some b) ⟨name, [.rest g (.flag b), .commands [] []], none⟩
  | ends (b : Bool) : Flushes guard g patience name (some b) ⟨name, [.commands [] [.flag b]], none⟩
  | ended (b : Bool) : Flushes guard g patience name (some b) ⟨name, [], some (.did [.flag b])⟩

/-- A flush goes on, or answers. -/
theorem FlushPoint.advance_cases (s : Store) (g : GuardId) (patience : Patience) (p : FlushPoint) :
    (∃ p', (p.advance s g patience .opens).2 = .goto (.flush g patience .opens p')) ∨
      ∃ b, (p.advance s g patience .opens).2 = .goto (.rest g (.flag b)) ∨
        (p.advance s g patience .opens).2 = .finish (.flag b) := by
  cases p with
  | checkStopped | checkInterrupted =>
    simp only [advance]
    split
    · exact .inr ⟨false, .inr rfl⟩
    · exact .inl ⟨_, rfl⟩
  | request =>
    simp only [advance]
    generalize s.newAck.1.enqueue g (.flush s.newAck.2) = r
    obtain ⟨s', accepted⟩ := r
    cases accepted
    · exact .inr ⟨false, .inr rfl⟩
    · exact .inl ⟨_, rfl⟩
  | waiting k =>
    simp only [advance]
    split
    · exact .inr ⟨_, .inl rfl⟩
    · exact .inr ⟨_, .inr rfl⟩

section Flushes
variable {guard : String} {g : GuardId} {patience : Patience} {name : ThreadName} {a : Option Bool}
  {th : Thread} {x : Frame} {rest : List Frame} {s : Store}

/-- The thread gets further, and the flush may answer. -/
theorem Flushes.act (h : Flushes guard g patience name a th) (hstack : th.stack = x :: rest)
    (hguard : s.guardNamed guard = .ok g) (thread fresh : ThreadId) :
    ∃ a', Flushes guard g patience name a' (th.progress rest (x.advance thread fresh s).2) ∧
      (a' = a ∨ ∃ p, x = .flush g patience .opens p ∧ (p.advance s g patience .opens).2.answer? = a') := by
  cases h with
  | begins =>
    cases hstack
    rw [Frame.advance, advance_flush hguard]
    exact ⟨none, .waits _, .inl rfl⟩
  | waits p =>
    cases hstack
    rw [Frame.advance]
    obtain ⟨p', hp⟩ | ⟨b, hp | hp⟩ := p.advance_cases s g patience <;> rw [hp]
    · exact ⟨none, .waits p', .inl rfl⟩
    · exact ⟨some b, .rests b, .inr ⟨p, rfl, by rw [hp]; rfl⟩⟩
    · exact ⟨some b, .ends b, .inr ⟨p, rfl, by rw [hp]; rfl⟩⟩
  | rests b =>
    cases hstack
    exact ⟨some b, .ends b, .inl rfl⟩
  | ends b =>
    cases hstack
    exact ⟨some b, .ended b, .inl rfl⟩
  | ended b => cases hstack

/-- A flush whose patience runs out answers no. -/
theorem Flushes.expire (h : Flushes guard g patience name a th) {g' : GuardId} {gate : GateUse} {k : Nat}
    (hstack : th.stack = .flush g' .deadline gate (.waiting k) :: rest) :
    Flushes guard g patience name (some false) (th.progress rest (.finish (.flag false))) := by
  cases h <;> cases hstack
  exact .ends false

/-- A flush that has come to this end has answered yes. -/
theorem Flushes.answered (h : Flushes guard g patience name a th)
    (ho : th.outcome = some (.did [.flag true])) : a = some true := by
  cases h with
  | ended b =>
    cases ho
    rfl
  | _ => cases ho

end Flushes

namespace System
variable {w : System} {h : History} {guard : String} {g : GuardId} {start : Store}
  {first : HandleId → Nat} {plan : List Deal} {t : ThreadId} {patience : Patience} {name : ThreadName}

/-- A flush that has answered has done so by an action, or its deadline has passed. -/
theorem Accounts.flushes_after (hplan : (plan.filterMap Deal.enrols?).Nodup)
    (hfree : ∀ name ∈ plan.filterMap Deal.enrols?, start.names.handles.lookup name = none)
    (hknown : ∀ name id, (name, id) ∈ start.names.handles → start.Known id)
    (ha : w.Accounts start first plan guard g h) (hw : w.Orderly h) (hrg : w.Regular h)
    (hth : w.thread? t = some ⟨name, [.commands [.flush guard patience .opens] []], none⟩)
    (moves : List Move) :
    ∃ a th, (w.after (moves.map .move)).thread? t = some th ∧ Flushes guard g patience name a th ∧
      ∀ b, a = some b →
        (∃ moves₁ moves₂ p, moves = moves₁ ++ .act t :: moves₂ ∧
          (w.after (moves₁.map .move)).acting? t = some (.flush g patience .opens p) ∧
          (p.advance (w.after (moves₁.map .move)).store g patience .opens).2.answer? = some b) ∨
        (b = false ∧ ∃ moves₁ moves₂ k w', moves = moves₁ ++ .expire t :: moves₂ ∧
          (w.after (moves₁.map .move)).thread? t =
            some ⟨name, [.flush g patience .opens (.waiting k), .commands [] []], none⟩ ∧
          (w.after (moves₁.map .move)).move? (.expire t) = some w') := by
  induction moves using List.reverseRecOn with
  | nil => exact ⟨none, _, hth, .begins, fun b h => by cases h⟩
  | append_singleton moves m ih =>
    obtain ⟨a, th, hth, hflushes, hanswer⟩ := ih
    have haccounts := (ha.after hplan hfree hknown hw hrg moves).1
    rw [List.map_append, List.map_singleton, after_snoc]
    -- what has been answered before has been answered
    have hkeep : ∀ b, a = some b →
        (∃ moves₁ moves₂ p, moves ++ [m] = moves₁ ++ .act t :: moves₂ ∧
          (w.after (moves₁.map .move)).acting? t = some (.flush g patience .opens p) ∧
          (p.advance (w.after (moves₁.map .move)).store g patience .opens).2.answer? = some b) ∨
        (b = false ∧ ∃ moves₁ moves₂ k w', moves ++ [m] = moves₁ ++ .expire t :: moves₂ ∧
          (w.after (moves₁.map .move)).thread? t =
            some ⟨name, [.flush g patience .opens (.waiting k), .commands [] []], none⟩ ∧
          (w.after (moves₁.map .move)).move? (.expire t) = some w') := fun b hb => by
      rcases hanswer b hb with ⟨moves₁, moves₂, p, rfl, hacting⟩ | ⟨hno, moves₁, moves₂, k, w', rfl, hwaits⟩
      · exact .inl ⟨moves₁, moves₂ ++ [m], p, by simp, hacting⟩
      · exact .inr ⟨hno, moves₁, moves₂ ++ [m], k, w', by simp, hwaits⟩
    obtain ⟨x, rest, hm, ht, hstack, hth'⟩ | ⟨g', gate, k, rest, hm, hstack, hth'⟩ | ⟨hth', -⟩ :=
      thread?_occur hth (.move m)
    · cases hm
      obtain ⟨a', hflushes', rfl | ⟨p, rfl, hp⟩⟩ :=
        hflushes.act hstack haccounts.named t (w.after (moves.map .move)).threads.size
      · exact ⟨_, _, hth', hflushes', hkeep⟩
      · exact ⟨a', _, hth', hflushes', fun b hb => .inl ⟨moves, [], p, rfl, ht, hp.trans hb⟩⟩
    · cases hm
      cases hmove : (w.after (moves.map .move)).move? (.expire t) with
      | none => exact ⟨a, th, by simp only [System.occur, hmove, Option.getD_none, hth], hflushes, hkeep⟩
      | some w' =>
        refine ⟨_, _, hth', hflushes.expire hstack, fun b hb => .inr ?_⟩
        cases hb
        cases hflushes <;> cases hstack
        exact ⟨rfl, moves, [], k, w', rfl, hth, hmove⟩
    · exact ⟨a, th, hth', hflushes, hkeep⟩

/-- A thread that flushes the guard joins. -/
theorem Accounts.join_flush (ha : w.Accounts start first plan guard g h) (patience : Patience) :
    (w.occur (.join .helper [.flush guard patience .opens])).Accounts start first plan guard g h := by
  have hall : ∀ {P : List Frame → Prop}, (∀ th ∈ w.threads, P th.stack) →
      P [.commands [.flush guard patience .opens] []] →
      ∀ th ∈ (w.occur (.join .helper [.flush guard patience .opens])).threads, P th.stack :=
    fun hold hnew => forall_stack_join hold _ _ hnew
  have hbooks : (w.occur (.join .helper [.flush guard patience .opens])).books h = w.books h := by
    refine Books.ext rfl rfl (funext fun id => ?_) (tally_join _ _ _ _ rfl) (tally_join _ _ _ _ rfl)
    have hspots : (w.occur (.join .helper [.flush guard patience .opens])).spots = w.spots :=
      tally_join Frame.spots w _ _ rfl
    simp only [books, hspots]
  exact
    { tame := hall (P := fun stack => ∀ y ∈ stack, y.Tame guard g) ha.tame
        (List.forall_mem_singleton.mpr (List.forall_mem_singleton.mpr (.flush patience)))
      calm := ha.calm
      opens := ha.opens
      named := ha.named
      failing := ha.failing
      enrolled := hall (P := fun stack => ∀ y ∈ stack, y.Enrolled start plan g w.store) ha.enrolled
        (List.forall_mem_singleton.mpr (List.forall_mem_nil _))
      abides := hall ha.abides ⟨trivial, trivial⟩
      made := ha.made
      balanced := hbooks ▸ ha.balanced }

/-- Where all frames are late, sources accept nothing but requests of flushes. -/
theorem Accounts.accepts_flushes (hplan : (plan.filterMap Deal.enrols?).Nodup)
    (hfree : ∀ name ∈ plan.filterMap Deal.enrols?, start.names.handles.lookup name = none)
    (hknown : ∀ name id, (name, id) ∈ start.names.handles → start.Known id)
    (ha : w.Accounts start first plan guard g h) (hw : w.Orderly h) (hrg : w.Regular h) (hlate : w.Late)
    (moves : List Move) {g' : GuardId} {item : Item}
    (hin : item ∈ (w.trace (moves.map .move)).accepted g') : ∃ k, item = .flush k := by
  induction moves generalizing w h with
  | nil => cases hin
  | cons m moves ih =>
    rw [List.map_cons, trace, Trace.accepted_append] at hin
    rcases List.mem_append.mp hin with hnow | hlater
    · obtain ⟨d, hd, haccepted⟩ := List.mem_filterMap.mp hnow
      cases d with
      | accepted g'' item' =>
        cases haccepted
        cases m with
        | act t =>
          simp only [deeds] at hd
          cases ht : w.acting? t with
          | none =>
            rw [ht] at hd
            cases hd
          | some x =>
            rw [ht] at hd
            obtain ⟨th, hth, hx⟩ := acting_mem ht
            exact accepted_late (ha.tame th hth x hx) (hlate th hth x hx) (List.mem_of_mem_filter hd)
        | expire t => cases hd
      | _ => cases haccepted
    · exact ih (ha.occur hplan hfree hknown hw hrg m).1 (hw.step _) (hrg.step hw _)
        (ha.all_late_after hplan hfree hknown hw hrg hlate [m]) hlater

end System

/-! ## What the worker is through with -/

theorem Stage.busy_of_item {stage : Stage} {item : Item} (h : stage.item? = some item) :
    stage.isBusy = true := by
  cases stage with
  | point p => cases p <;> first | rfl | cases h
  | entering id | inside id => rfl
  | gone => cases h

/-- A source that has accepted some items and then only requests, and whose worker is through with the first,
has only requests left, and so has its worker. -/
theorem Site.Queued.only_flushes {a : Site} {tr : Trace} {first more : List Item} (hq : a.Queued tr)
    (hswallows : a.source.swallowsFlushes = false) (hopen : a.source.isInterrupted = false)
    (hins : tr.ins = first ++ more) (hmore : ∀ item ∈ more, ∃ k, item = .flush k)
    (hdone : first <+: a.stage.completed tr.outs) :
    a.source.queue.ids = [] ∧ ∀ id, a.stage.item? ≠ some (.reclaim id) := by
  have hcomplete := hq.books.complete hswallows hopen
  obtain ⟨outs, houts⟩ := hdone.trans (a.stage.completed_prefix tr.outs)
  have hmore' : outs ++ a.source.queue.items = more := by
    rw [← houts, List.append_assoc, hins] at hcomplete
    exact List.append_cancel_left hcomplete
  constructor
  · refine List.filterMap_eq_nil_iff.mpr fun item hin => ?_
    obtain ⟨k, rfl⟩ := hmore item (hmore' ▸ List.mem_append_right _ hin)
    rfl
  · intro id hitem
    have hlast := hq.hand _ hitem
    have hbusy := Stage.busy_of_item hitem
    -- what the worker has in hand it is not through with, so it came after the first items
    have hnil : outs ≠ [] := by
      rintro rfl
      rw [List.append_nil] at houts
      rw [Stage.completed, if_pos hbusy, ← houts] at hdone
      have hlength := hdone.length_le
      rw [List.length_dropLast] at hlength
      obtain rfl : first = [] := List.length_eq_zero_iff.mp (by omega)
      rw [← houts] at hlast
      cases hlast
    rw [← houts, List.getLast?_append_of_ne_nil _ hnil] at hlast
    obtain ⟨k, hk⟩ := hmore _ (hmore' ▸ List.mem_append_left _ (List.mem_of_getLast? hlast))
    cases hk

/-! ## A completed run -/

/-- A schedule of programs and of the flush after them. -/
structure Plan.Schedule where
  /-- What happens until the programs have ended. -/
  programs : List Move
  patience : Patience
  /-- What happens until the flush has ended. -/
  flush : List Move

/-- The programs join and go on. -/
def Plan.Schedule.work (c : Plan.Schedule) (guard : String) (ps : List (List Deal)) : List Event :=
  Plan.joins guard ps ++ c.programs.map .move

/-- Then somebody comes to flush the guard. -/
def Plan.Schedule.asked (c : Plan.Schedule) (guard : String) (ps : List (List Deal)) : List Event :=
  c.work guard ps ++ [.join .helper [.flush guard c.patience .opens]]

/-- And flushes it. -/
def Plan.Schedule.events (c : Plan.Schedule) (guard : String) (ps : List (List Deal)) : List Event :=
  c.asked guard ps ++ c.flush.map .move

/-- All programs have ended before the flush, and the flush has answered yes. -/
structure System.Completes (w : System) (guard : String) (ps : List (List Deal)) (c : Plan.Schedule) :
    Prop where
  ended : ∀ t th, w.threads.size ≤ t →
    (w.after (c.work guard ps)).thread? t = some th → th.stack = []
  flushed : ∃ th, (w.after (c.events guard ps)).thread? (w.threads.size + ps.length) = some th ∧
    th.outcome = some (.did [.flag true])

/-- No handle is on its way anywhere: there are late frames only, nothing waits at the guard, and its worker
has no handle in hand. -/
structure System.Still (w : System) (g : GuardId) : Prop where
  late : w.Late
  waiting : ∀ x, w.store.gist? g = some x → x.waiting = []
  idle : ∀ a, w.site? g = some a → ∀ id, a.stage.item? ≠ some (.reclaim id)

namespace System
variable {w : System} {h : History} {guard : String} {g : GuardId} {ps : List (List Deal)} {c : Plan.Schedule}

theorem thread?_after {t : ThreadId} {th : Thread} (hth : w.thread? t = some th) (es : List Event) :
    ∃ th', (w.after es).thread? t = some th' := by
  induction es generalizing w th with
  | nil => exact ⟨th, hth⟩
  | cons e es ih =>
    obtain ⟨x, rest, -, -, -, hth'⟩ | ⟨g', gate, k, rest, -, -, hth'⟩ | ⟨hth', -⟩ := thread?_occur hth e <;>
      exact ih hth'

/-- The threads when the programs have joined. -/
theorem Ready.late_joined (hr : w.Ready guard g) {t : ThreadId} {th : Thread} (hlt : t < w.threads.size)
    (hth : (w.after (Plan.joins guard ps)).thread? t = some th) : ∀ x ∈ th.stack, x.isLate = true := by
  rw [(w.after_joins guard ps).1, thread?, Array.getElem?_append_left hlt] at hth
  rcases hr.idle th (Array.mem_of_getElem? hth) with hstack | ⟨p, hstack, -⟩ <;> rw [hstack]
  · exact List.forall_mem_nil _
  · exact List.forall_mem_singleton.mpr rfl

/-- The source stays a plain queue. -/
theorem Ready.source_after (hr : w.Ready guard g) (hm : w.Manned h) (es : List Event) :
    ∃ a, (w.after es).site? g = some a ∧ a.source.IsPlain := by
  obtain ⟨x, hx, hplain⟩ := hr.plain
  obtain ⟨a₀, ha₀, hdesk⟩ := site_of_guard hx
  obtain ⟨a, ha, halike, -⟩ := hm.plain_after ha₀ es
  rw [show a₀.source = x.source from congrArg Desk.source hdesk] at halike
  have hgate := halike.gate
  rw [hplain.gate] at hgate
  exact ⟨a, ha, Option.not_isSome_iff_eq_none.mp (Bool.eq_false_iff.mp hgate),
    halike.refuses.trans hplain.refuses, halike.swallowsFlushes.trans hplain.swallows,
    halike.panicsAt.trans hplain.panicsAt⟩

section Run
variable (hr : w.Ready guard g) (hp : Plan.Apt w.store ps) (hw : w.Orderly h) (hrg : w.Regular h)
include hr hp hw hrg

theorem Ready.accounts_after (c : Plan.Schedule) :
    (w.after (c.work guard ps)).Accounts w.store h.tries ps.flatten guard g (h ++ w.history (c.work guard ps)) ∧
      (w.after (c.work guard ps)).threads.size = w.threads.size + ps.length := by
  obtain ⟨hafter, hhistory, -⟩ := w.after_joins guard ps
  obtain ⟨horderly, hregular⟩ := sound_joins hw hrg guard ps
  obtain ⟨haccounts, hsize⟩ :=
    (hr.accounts hp hw hrg).after hp.distinct hp.free hw.known horderly hregular c.programs
  rw [Plan.Schedule.work, after_append, history_append, hhistory, List.nil_append]
  refine ⟨haccounts, hsize.trans ?_⟩
  simp [hafter]

/-- On a thread that has frames of a kind only when the programs have joined, which go on with frames of that
kind, there are such frames only while the programs go on. -/
theorem Ready.forall_work {P : Frame → Prop}
    (hadvance : ∀ {w' : System} {h' t x}, w'.Accounts w.store h.tries ps.flatten guard g h' →
      w'.acting? t = some x → P x → ∀ y ∈ (x.advance t w'.threads.size w'.store).2.frames, P y)
    (hreceive : ∀ y, P y → y.waits = true → ∀ o, P (y.receive o)) (c : Plan.Schedule) {t : ThreadId} {th : Thread}
    (hall : ∀ th₀, (w.after (Plan.joins guard ps)).thread? t = some th₀ → ∀ x ∈ th₀.stack, P x)
    (hth : (w.after (c.work guard ps)).thread? t = some th) : ∀ x ∈ th.stack, P x := by
  obtain ⟨horderly, hregular⟩ := sound_joins hw hrg guard ps
  have haccounts := hr.accounts hp hw hrg
  rw [Plan.Schedule.work, after_append] at hth
  obtain ⟨th₀, hth₀⟩ : ∃ th₀, (w.after (Plan.joins guard ps)).thread? t = some th₀ := by
    have hsize := (haccounts.after hp.distinct hp.free hw.known horderly hregular c.programs).2
    obtain ⟨hlt, -⟩ := Array.getElem?_eq_some_iff.mp hth
    exact ⟨_, Array.getElem?_eq_getElem (hsize ▸ hlt)⟩
  obtain ⟨th', hth', hall'⟩ := haccounts.forall_after hp.distinct hp.free hw.known hadvance hreceive horderly
    hregular hth₀ (hall th₀ hth₀) c.programs
  cases hth.symm.trans hth'
  exact hall'

/-- When the programs have ended there are late frames only. -/
theorem Completes.late (hc : w.Completes guard ps c) : (w.after (c.work guard ps)).Late := by
  intro th hin
  obtain ⟨t, hth⟩ := Array.mem_iff_getElem?.mp hin
  rcases Nat.lt_or_ge t w.threads.size with hlt | hge
  · exact hr.forall_work hp hw hrg (fun ha ht => ha.late ht) (fun _ => Frame.late_receive) c
      (fun th₀ => hr.late_joined hlt) hth
  · rw [hc.ended t th hge hth]
    exact List.forall_mem_nil _

/-- When the flush has joined its thread is about to begin. -/
theorem Ready.joined (c : Plan.Schedule) :
    (w.after (c.asked guard ps)).Accounts w.store h.tries ps.flatten guard g
        (h ++ w.history (c.asked guard ps)) ∧
      (w.after (c.asked guard ps)).thread? (w.threads.size + ps.length) =
        some ⟨.helper, [.commands [.flush guard c.patience .opens] []], none⟩ := by
  obtain ⟨haccounts, hsize⟩ := hr.accounts_after hp hw hrg c
  rw [Plan.Schedule.asked, after_snoc, history_snoc, ← hsize]
  refine ⟨?_, ?_⟩
  · simpa [marks] using haccounts.join_flush c.patience
  · simp [System.occur, spawn, thread?]

/-- When programs have ended before, there are late frames only. -/
theorem Completes.late_asked (hc : w.Completes guard ps c) : (w.after (c.asked guard ps)).Late := by
  rw [Plan.Schedule.asked, after_snoc]
  exact forall_stack_join (P := fun stack => ∀ x ∈ stack, x.isLate = true) (hc.late hr hp hw hrg) _ _
    (List.forall_mem_singleton.mpr rfl)

/-- At the end the accounts are in order, and there are late frames only. -/
theorem Completes.closed (hc : w.Completes guard ps c) :
    (w.after (c.events guard ps)).Accounts w.store h.tries ps.flatten guard g
        (h ++ w.history (c.events guard ps)) ∧ (w.after (c.events guard ps)).Late := by
  obtain ⟨haccounts, -⟩ := hr.joined hp hw hrg c
  have hlate := hc.late_asked hr hp hw hrg
  have horderly := hw.after (c.asked guard ps)
  have hregular := hrg.after hw (c.asked guard ps)
  rw [Plan.Schedule.events, after_append, history_append, ← List.append_assoc]
  exact ⟨(haccounts.after hp.distinct hp.free hw.known horderly hregular c.flush).1,
    haccounts.all_late_after hp.distinct hp.free hw.known horderly hregular hlate c.flush⟩

end Run

section Boot
variable (probes : Array Probe) (environment : Environment) (output : Output) (es : List Event)
  (hr : ((boot probes environment output).after es).Ready guard g)
  (hp : Plan.Apt ((boot probes environment output).after es).store ps)
  (hc : ((boot probes environment output).after es).Completes guard ps c)
include hr hp hc

/-- After the programs have ended, the source accepts nothing but requests. -/
theorem Completes.accepts : ∃ more,
    ((boot probes environment output).trace (es ++ c.events guard ps)).accepted g =
        ((boot probes environment output).trace (es ++ c.work guard ps)).accepted g ++ more ∧
      ∀ item ∈ more, ∃ k, item = .flush k := by
  have hw := orderly_after probes environment output es
  have hrg := regular_after probes environment output es
  obtain ⟨haccounts, -⟩ := hr.joined hp hw hrg c
  have hlate := hc.late_asked hr hp hw hrg
  have hflushes : ∀ item ∈ ((((boot probes environment output).after es).after (c.asked guard ps)).trace
      (c.flush.map .move)).accepted g, ∃ k, item = .flush k := fun item =>
    haccounts.accepts_flushes hp.distinct hp.free hw.known (hw.after _) (hrg.after hw _) hlate c.flush
  refine ⟨_, ?_, hflushes⟩
  rw [← Trace.accepted_append, ← after_append]
  congr 1
  rw [Plan.Schedule.events, Plan.Schedule.asked, ← List.append_assoc, trace_append, ← List.append_assoc,
    trace_snoc]
  simp [deeds]

/-- When the flush has answered, the worker is through with what the source accepted before. -/
theorem Completes.passes : ∃ a,
    ((boot probes environment output).after (es ++ c.events guard ps)).site? g = some a ∧
      ((boot probes environment output).trace (es ++ c.work guard ps)).accepted g <+:
        a.stage.completed (((boot probes environment output).trace (es ++ c.events guard ps)).delivered g) := by
  have hw := orderly_after probes environment output es
  have hrg := regular_after probes environment output es
  obtain ⟨haccounts, hth⟩ := hr.joined hp hw hrg c
  have hsize := (hr.accounts_after hp hw hrg c).2
  generalize ht : ((boot probes environment output).after es).threads.size + ps.length = t at hth hsize
  -- the flush has answered yes by an action
  obtain ⟨th, hthread, houtcome⟩ := hc.flushed
  obtain ⟨answer, th', hth', hflushes, hanswer⟩ :=
    haccounts.flushes_after hp.distinct hp.free hw.known (hw.after _) (hrg.after hw _) hth c.flush
  rw [Plan.Schedule.events, after_append, ht] at hthread
  cases hthread.symm.trans hth'
  obtain ⟨moves₁, moves₂, p, hmoves, hacting, hp'⟩ :=
    (hanswer true (hflushes.answered houtcome)).resolve_right fun h => nomatch h.1
  rw [← after_append, ← after_append] at hacting hp'
  -- there is a guard to flush, with a plain source
  obtain ⟨a, ha, hplain⟩ :=
    hr.source_after (manned_after probes environment output es) (c.asked guard ps ++ moves₁.map .move)
  rw [← after_append] at ha
  obtain ⟨k, rfl, es₁, es₂, heq, hrequest, haccepted, hthrough⟩ :=
    (flush_barrier probes environment output _ ha hplain.refuses hplain.swallows).1 p true hacting hp'
  -- the request came after the programs, as there was no thread for it before
  have hafter : ∃ es₃, es₁ = es ++ c.work guard ps ++ es₃ := by
    rw [Plan.Schedule.asked, List.append_assoc (c.work guard ps), ← List.append_assoc] at heq
    rcases List.append_eq_append_iff.mp heq.symm with ⟨as, hes, -⟩ | ⟨bs, hes, -⟩
    · obtain ⟨name, rest, out, hth₁, -⟩ := acting?_eq_some hrequest
      obtain ⟨th₁, hth₁⟩ := thread?_after hth₁ as
      rw [← after_append, ← hes, after_append, thread?, Array.getElem?_eq_none (by omega)] at hth₁
      cases hth₁
    · exact ⟨bs, hes⟩
  obtain ⟨es₃, rfl⟩ := hafter
  obtain ⟨a', ha', hdone⟩ := (hthrough (.move (.act t) :: moves₂.map .move)).completed
  have hall : es ++ (c.asked guard ps ++ moves₁.map .move) ++ .move (.act t) :: moves₂.map .move =
      es ++ c.events guard ps := by
    simp [Plan.Schedule.events, hmoves]
  rw [hall, trace_append _ (es ++ c.work guard ps), Trace.accepted_append, List.append_assoc] at hdone
  exact ⟨a', hall ▸ ha', (List.prefix_append _ _).trans hdone⟩

/-- When the flush of a completed run has answered, no handle is on its way anywhere. -/
theorem Completes.still : ((boot probes environment output).after (es ++ c.events guard ps)).Still g := by
  obtain ⟨hend, hlate⟩ := hc.closed hr hp (orderly_after probes environment output es)
    (regular_after probes environment output es)
  rw [← after_append] at hend hlate
  obtain ⟨more, hins, hmore⟩ := hc.accepts probes environment output es hr hp
  obtain ⟨a, ha, hdone⟩ := hc.passes probes environment output es hr hp
  obtain ⟨y, hy, hopen, -⟩ := hend.opens
  obtain ⟨y', hy', -, hsource⟩ := guard?_site ha
  cases hy.symm.trans hy'
  obtain ⟨a', ha', hplain⟩ := hr.source_after (manned_after probes environment output es) (c.events guard ps)
  rw [← after_append] at ha'
  cases ha.symm.trans ha'
  obtain ⟨hids, hitem⟩ := (claimed_after probes environment output _ ha).queued.only_flushes hplain.swallows
    (hsource ▸ hopen) hins hmore hdone
  refine ⟨hlate, fun x hx => ?_, fun a' ha' => ?_⟩
  · rw [Store.gist?, hy] at hx
    cases hx
    rw [← hids, ← hsource]
    rfl
  · cases ha.symm.trans ha'
    exact hitem

end Boot

end System

end Reclaim

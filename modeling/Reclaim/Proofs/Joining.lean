import Reclaim.Proofs.Calls
import Reclaim.Proofs.Fixtures
import Reclaim.Proofs.Stopping

/-!
# Waiting for the worker's end

Whoever shuts a guard down interrupts its source. Of all calls on one guard a single one takes it on itself to
wait for the end of the worker, the first to ask; if that happens on the worker's own thread, nobody waits.
So a call on another thread comes back to a worker that has ended, for good, unless the end is being waited
for elsewhere at that moment, or the worker has taken that on itself.

* `Frame.takes`, `System.taking` : who has taken it on themselves to wait for which worker;
* `System.Attended` : what has become of those who have;
* `Frame.Shuts` : shutting down interrupts first;
* `System.Returned`, `System.shutdown_waits_unless_taken`.
-/

namespace Reclaim

/-! ## Who waits -/

/-- Who takes it on themselves with the next action of a frame to wait for the end of a worker. -/
def Frame.takes (thread : ThreadId) (s : Store) : Frame → List (GuardId × ThreadId)
  | .shutdown g .claim =>
    match s.guard? g with
    | some x => if x.joinable then [(g, thread)] else []
    | none => []
  | _ => []

namespace System

/-- Who takes it on themselves by an event to wait for the end of a worker. -/
def takes (w : System) : Event → List (GuardId × ThreadId)
  | .move (.act t) =>
    match w.acting? t with
    | some frame => frame.takes t w.store
    | none => []
  | _ => []

/-- All who have done so by a list of events: guards, each with the thread that has taken it on itself. -/
def taking (w : System) : List Event → List (GuardId × ThreadId)
  | [] => []
  | event :: events => w.takes event ++ (w.occur event).taking events

theorem taking_snoc (w : System) (es : List Event) (e : Event) :
    w.taking (es ++ [e]) = w.taking es ++ (w.after es).takes e := by
  induction es generalizing w with
  | nil => exact List.append_nil _
  | cons e' es ih => simp only [List.cons_append, taking, after, ih (w.occur e'), List.append_assoc]

/-- A thread waits for the end of a guard's worker. -/
def IsJoining (w : System) (t : ThreadId) (g : GuardId) : Prop :=
  ∃ th rest, w.thread? t = some th ∧ th.stack = .shutdown g .joining :: rest

/-- A thread has come to its end. -/
def HasEnded (w : System) (t : ThreadId) : Prop := ∃ th, w.thread? t = some th ∧ th.stack = []

end System

/-! ## What actions do to it -/

namespace Store
variable {s s' : Store} {g : GuardId}

theorem posts_eq (s : Store) (g : GuardId) :
    s.posts[g]? = (s.guard? g).map fun x => (x.worker, x.joinable) := by
  rw [posts, Array.getElem?_map, guard?]

theorem posts_addGuard (s : Store) (config : Config) (source : Source) (worker : ThreadId) :
    (s.addGuard config source worker).1.posts = s.posts.push (worker, true) := by
  simp [posts, addGuard]

end Store

/-- What an action does to the posts: nothing, or a guard starts, or somebody takes it on themselves to wait
for the end of a worker. -/
inductive Store.Posts (s s' : Store) : List (GuardId × ThreadId) → Prop
  | rest (h : s'.posts = s.posts) : Posts s s' []
  | start (worker : ThreadId) (h : s'.posts = s.posts.push (worker, true)) : Posts s s' []
  | take {g : GuardId} {worker : ThreadId} (thread : ThreadId) (hfree : s.posts[g]? = some (worker, true))
      (h : ∀ g', s'.posts[g']? = if g' = g then some (worker, false) else s.posts[g']?) :
      Posts s s' [(g, thread)]

theorem ShutdownPoint.claim_posts (thread : ThreadId) (s : Store) (g : GuardId) :
    s.Posts (ShutdownPoint.claim.advance thread s g).1 ((Frame.shutdown g .claim).takes thread s) := by
  simp only [advance, Frame.takes]
  cases hx : s.guard? g with
  | none => exact .rest rfl
  | some x =>
    cases hfree : x.joinable with
    | false =>
      simp only [hfree, Bool.false_eq_true, if_false]
      exact .rest rfl
    | true =>
      have hpost : s.posts[g]? = some (x.worker, true) := by rw [s.posts_eq, hx, ← hfree]; rfl
      have hafter : ∀ g', (s.modifyGuard g fun guard => { guard with joinable := false }).posts[g']? =
          if g' = g then some (x.worker, false) else s.posts[g']? := by
        intro g'
        rw [Store.posts_eq, Store.guard?_modifyGuard, Store.posts_eq]
        by_cases hg : g = g'
        · subst hg
          simp [hx]
        · simp [hg, Ne.symm hg]
      simp only [hfree, if_true]
      split <;> exact .take thread hpost hafter

theorem Frame.takes_eq_nil (thread : ThreadId) (s : Store) {frame : Frame} (hrare : ¬ frame.Rare) :
    frame.takes thread s = [] := by
  unfold takes
  split
  · exact absurd (.claim _) hrare
  · rfl

theorem Frame.advance_posts (thread fresh : ThreadId) (s : Store) (frame : Frame) :
    s.Posts (frame.advance thread fresh s).1 (frame.takes thread s) := by
  by_cases hrare : frame.Rare
  · cases hrare with
    | command hc todo done =>
      obtain ⟨probes, processWide, environment, hstore⟩ := hc.begin_store s
      rw [advance, Script.advance_fst, hstore]
      exact .rest rfl
    | enter id =>
      obtain ⟨calls, probes, hstore⟩ := CallbackPoint.enter_eq s thread id
      rw [advance, hstore]
      exact .rest rfl
    | claim g => exact ShutdownPoint.claim_posts thread s g
    | start q => exact .start fresh (s.posts_addGuard q.config _ fresh)
    | processWide p =>
      simp only [advance, Purpose.advance]
      split
      · exact .rest rfl
      · split
        · exact .rest rfl
        · exact .start fresh (s.posts_addGuard _ _ fresh)
  · rw [frame.takes_eq_nil thread s hrare]
    exact .rest (congrArg (·.2.1) (frame.routine thread fresh s hrare).fixtures)

/-! ## What becomes of those who wait -/

namespace System
variable {w : System} {h : History} {l : List (GuardId × ThreadId)} {g : GuardId} {t : ThreadId}

/-- All who have taken it on themselves to wait for the end of a guard's worker: nobody as long as the post
says so; and then one thread, which is the worker's, or still waits, or has waited until the worker's thread
came to its end. -/
structure Attended (w : System) (l : List (GuardId × ThreadId)) (g : GuardId) : Prop where
  free : (∀ worker, w.store.posts[g]? ≠ some (worker, false)) → l.filter (·.1 == g) = []
  taken : ∀ worker, w.store.posts[g]? = some (worker, false) → ∃ t, l.filter (·.1 == g) = [(g, t)] ∧
    (t = worker ∨ w.IsJoining t g ∨ w.HasEnded worker)

theorem HasEnded.occur (ht : w.HasEnded t) (e : Event) : (w.occur e).HasEnded t := by
  obtain ⟨th, hth, hstack⟩ := ht
  rcases thread?_occur hth e with ⟨frame, rest, -, -, hframe, -⟩ | ⟨g, gate, ack, rest, -, hflush, -⟩ |
    ⟨hsame, -⟩
  · cases hstack.symm.trans hframe
  · cases hstack.symm.trans hflush
  · exact ⟨th, hsame, hstack⟩

/-- Who waits for the end of a worker does so until the worker's thread has ended. -/
theorem IsJoining.occur (ht : w.IsJoining t g) (e : Event) :
    (w.occur e).IsJoining t g ∨ ∀ x, w.store.guard? g = some x → x.exit.isSome = true := by
  obtain ⟨th, rest, hth, hstack⟩ := ht
  rcases thread?_occur hth e with ⟨frame, rest', -, hact, hframe, -⟩ | ⟨g', gate, ack, rest', -, hflush, -⟩ |
    ⟨hsame, -⟩
  · refine .inr fun x hx => ?_
    obtain ⟨rfl, -⟩ := List.cons.inj (hstack.symm.trans hframe)
    have hready := isReady_acting hact
    simpa only [Frame.isReady, hx] using hready
  · cases hstack.symm.trans hflush
  · exact .inl ⟨th, rest, hsame, hstack⟩

/-- Whoever takes it on themselves to wait for the end of a worker is that worker, or waits from now on. -/
theorem of_mem_takes {e : Event} (htakes : (g, t) ∈ w.takes e) {x : Guard}
    (hx : w.store.guard? g = some x) : t = x.worker ∨ (w.occur e).IsJoining t g := by
  cases e with
  | move m =>
    cases m with
    | act t' =>
      simp only [takes] at htakes
      split at htakes
      · next frame hact =>
        cases frame with
        | shutdown g' p =>
          cases p with
          | claim =>
            simp only [Frame.takes] at htakes
            split at htakes
            · next x' hx' =>
              split at htakes
              · next hfree =>
                obtain ⟨rfl, rfl⟩ := Prod.mk.inj (List.mem_singleton.mp htakes)
                cases hx.symm.trans hx'
                by_cases hself : x.worker = t
                · exact .inl hself.symm
                · obtain ⟨th, rest, hth, hstack, -, hafter⟩ := thread?_act hact
                  have hprogress : ((Frame.shutdown g .claim).advance t w.threads.size w.store).2 =
                      .goto (.shutdown g .joining) := by
                    simp only [Frame.advance, ShutdownPoint.advance, hx, hfree, if_true, hself, if_false]
                  rw [occur_acting hact]
                  refine .inr ⟨_, rest, (hafter t).trans (if_pos rfl), ?_⟩
                  rw [hprogress]
                  rfl
              · cases htakes
            · cases htakes
          | interrupt | discarding acks | joining => cases htakes
        | _ => cases htakes
      · cases htakes
    | expire t' => cases htakes
  | _ => cases htakes

end System

/-! ## Shutting down interrupts first -/

/-- A guard that is being shut down is there, and from the first action on its source is interrupted. -/
def Frame.Shuts (s : Store) : Frame → Prop
  | .shutdown g .interrupt => s.Runs g
  | .shutdown g _ => ∃ x, s.gist? g = some x ∧ x.interrupted = true
  | _ => True

theorem Store.Extends.shuts {s s' : Store} (h : s.Extends s') {x : Frame} (hx : x.Shuts s) :
    x.Shuts s' := by
  cases x with
  | shutdown g p =>
    cases p with
    | interrupt => exact h.runs hx
    | discarding acks | claim | joining =>
      obtain ⟨y, hy, hint⟩ := hx
      obtain ⟨y', hy', hl⟩ := h.gist g y hy
      exact ⟨y', hy', hl.interrupted hint⟩
  | _ => trivial

theorem Frame.shuts_receive (s : Store) (x : Frame) (o : Outcome) : (x.receive o).Shuts s := by
  fun_cases receive x o <;> trivial

section Shuts
variable {s s' : Store} {thread fresh : ThreadId}

/-- A command that shuts a guard down names it. -/
theorem Command.Beginning.shuts {c : Command} {frame : Frame} (h : c.Beginning s s' (.operation frame))
    (hreaches : ∀ g, s.Reaches g → s.Runs g) : frame.Shuts s := by
  cases h with
  | shutdown hg | dropGuard hg => exact hreaches _ (Store.guardNamed_reaches hg)
  | _ => trivial

theorem ShutdownPoint.advance_shuts {g : GuardId} {p : ShutdownPoint}
    (hp : (Frame.shutdown g p).Shuts s) :
    ∀ x ∈ (p.advance thread s g).2.onto [], x.Shuts (p.advance thread s g).1 := by
  cases p with
  | interrupt =>
    obtain ⟨x, hx⟩ := hp
    refine List.forall_mem_singleton.mpr ⟨x.clear, ?_, rfl⟩
    simp only [advance, (s.touches_interrupt g).gist, hx, if_true, Option.map_some]
  | discarding acks =>
    cases acks with
    | nil => exact List.forall_mem_singleton.mpr hp
    | cons k acks => exact List.forall_mem_singleton.mpr hp
  | claim =>
    obtain ⟨x, hx, hint⟩ := hp
    simp only [advance]
    split
    · exact List.forall_mem_nil _
    · split
      · split
        · exact List.forall_mem_nil _
        · refine List.forall_mem_singleton.mpr ⟨x, ?_, hint⟩
          rw [Store.gist?, Store.guard?_modifyGuard, if_pos rfl, Option.map_map]
          exact hx
      · exact List.forall_mem_nil _
  | joining =>
    simp only [advance]
    split <;> exact List.forall_mem_nil _

variable (thread fresh) in
theorem Frame.advance_shuts {frame : Frame} (hreaches : ∀ g, s.Reaches g → s.Runs g)
    (hframe : frame.Shuts s) (hext : s.Extends (frame.advance thread fresh s).1) :
    (∀ x ∈ (frame.advance thread fresh s).2.onto [], x.Shuts (frame.advance thread fresh s).1) ∧
    ∀ name x y, (frame.advance thread fresh s).2 = .spawn name x y →
      x.Shuts (frame.advance thread fresh s).1 := by
  cases frame with
  | commands todo done =>
    cases todo with
    | nil => exact ⟨List.forall_mem_nil _, fun _ _ _ h => by cases h⟩
    | cons c todo =>
      simp only [advance, Script.advance] at hext ⊢
      cases hb : c.begin s with
      | mk s' b =>
        rw [hb] at hext
        cases b with
        | reply reply => exact ⟨List.forall_mem_singleton.mpr trivial, fun _ _ _ h => by cases h⟩
        | operation frame =>
          have hshuts := (Command.beginning_operation hb).shuts hreaches
          exact ⟨List.forall_mem_cons.mpr ⟨hext.shuts hshuts, List.forall_mem_singleton.mpr trivial⟩,
            fun _ _ _ h => by cases h⟩
  | shutdown g p =>
    refine ⟨p.advance_shuts hframe, fun name x y h => ?_⟩
    cases p <;> simp only [advance, ShutdownPoint.advance, discardNext] at h <;> (repeat' split at h) <;>
      cases h
  | bindGuard name g =>
    simp only [advance, Reclaim.bindGuard] at hext ⊢
    cases hold : s.guardNamed name with
    | error e => exact ⟨List.forall_mem_nil _, fun _ _ _ h => by cases h⟩
    | ok old =>
      have hruns := hreaches old (Store.guardNamed_reaches hold)
      simp only [hold] at hext ⊢
      split
      · exact ⟨List.forall_mem_nil _, fun _ _ _ h => by cases h⟩
      · exact ⟨List.forall_mem_cons.mpr ⟨hruns, List.forall_mem_singleton.mpr trivial⟩,
          fun _ _ _ h => by cases h⟩
  | give | rest => exact ⟨List.forall_mem_nil _, fun _ _ _ h => by cases h⟩
  | start q => exact ⟨List.forall_mem_singleton.mpr trivial, fun _ _ _ h => by cases h; trivial⟩
  | processWide p =>
    simp only [advance, Purpose.advance]
    repeat' split
    all_goals cases p <;> simp [Progress.onto, Purpose.frame, Shuts]
  | discard g acks =>
    cases acks with
    | nil => exact ⟨List.forall_mem_singleton.mpr trivial, fun _ _ _ h => by cases h⟩
    | cons k acks => exact ⟨List.forall_mem_singleton.mpr trivial, fun _ _ _ h => by cases h⟩
  | register _ p | release _ p | callback _ p | drop _ p | flush _ _ _ p | worker _ p =>
    cases p
    all_goals
      simp only [advance, RegisterPoint.advance, ReleasePoint.advance, endRelease, CallbackPoint.advance,
        DropPoint.advance, FlushPoint.advance, WorkerPoint.advance, discardNext]
      repeat' split
      all_goals simp_all [Progress.onto, Shuts]

end Shuts

namespace System
variable {w : System} {h : History}

/-- Every guard that is being shut down has had its source interrupted first. -/
def Shutting (w : System) : Prop := ∀ th ∈ w.threads, ∀ x ∈ th.stack, x.Shuts w.store

theorem Shutting.occur (hw : w.Shutting) (ho : w.Orderly h) (e : Event) : (w.occur e).Shutting := by
  have hext : w.store.Extends (w.occur e).store := extends_after ho [e]
  have hold : ∀ th ∈ w.threads, ∀ x ∈ th.stack, x.Shuts (w.occur e).store :=
    fun th hth x hx => hext.shuts (hw th hth x hx)
  refine forall_stack_occur (P := fun stack => ∀ x ∈ stack, x.Shuts (w.occur e).store) hold e
    (fun t frame he ht => ?_) (fun th hth g patience gate point rest o hstack => ?_)
    fun _ script _ => by simp [Frame.Shuts]
  · subst he
    obtain ⟨th, rest, hth, hstack, -⟩ := thread?_act ht
    obtain ⟨name, rest', out, hth', -⟩ := acting?_eq_some ht
    have hstore : (w.occur (.move (.act t))).store = (frame.advance t w.threads.size w.store).1 := by
      rw [occur_acting ht, act_eq hth']
    rw [hstore] at hext hold ⊢
    obtain ⟨honto, hspawn⟩ := Frame.advance_shuts t w.threads.size ho.2.reaches
      (hw th (thread?_mem hth) frame (by simp [hstack])) hext
    refine forall_stack_act
      (P := fun stack => ∀ x ∈ stack, x.Shuts (frame.advance t w.threads.size w.store).1) hold ht
      (fun th hth rest hstack => ?_) fun name x y h z hz => ?_
    · rw [Thread.stack_progress]
      exact Progress.forall_onto honto (fun x hx => hold th hth x (hstack ▸ List.mem_cons_of_mem _ hx))
        fun x o _ => x.shuts_receive _ o
    · rw [List.mem_singleton.mp hz]
      exact hspawn name x y h
  · rw [Thread.stack_progress]
    exact Progress.forall_onto (p := .finish o) (List.forall_mem_nil _)
      (fun x hx => hold th hth x (hstack ▸ List.mem_cons_of_mem _ hx)) fun x o _ => x.shuts_receive _ o

variable (probes : Array Probe) (environment : Environment) (output : Output) (es : List Event)

theorem shutting_after : ((boot probes environment output).after es).Shutting := by
  induction es using List.reverseRecOn with
  | nil => exact fun th hth => by simp [boot, after] at hth
  | append_singleton es e ih =>
    rw [after_snoc]
    exact ih.occur (orderly_after probes environment output es) e

end System

/-! ## What a call finds when it comes back -/

namespace System
variable {w : System} {g : GuardId} {t : ThreadId}

/-- An event does to the posts what the action does that it stands for. -/
theorem posts_occur (w : System) (e : Event) : w.store.Posts (w.occur e).store (w.takes e) := by
  cases e with
  | move m =>
    cases m with
    | act t =>
      cases hact : w.acting? t with
      | none => simpa only [takes, hact, occur_not_acting hact] using .rest rfl
      | some frame =>
        obtain ⟨name, rest, out, hth, -⟩ := acting?_eq_some hact
        simpa only [takes, hact, occur_acting hact, act_eq hth] using
          frame.advance_posts t w.threads.size w.store
    | expire t =>
      refine .rest ?_
      simp only [occur]
      cases hm : w.move? (.expire t) with
      | none => rfl
      | some w' =>
        obtain ⟨-, -, -, -, -, -, -, -, rfl⟩ := expire_cases hm
        rfl
  | join name script => exact .rest rfl
  | share id n =>
    refine .rest ?_
    simp only [occur]
    split
    · exact congrArg (·.2.1) (w.store.fixtures_modifyEntry id _)
    · rfl
  | inject g id =>
    refine .rest ?_
    simp only [occur]
    split
    · exact congrArg (·.2.1) (w.store.routine_enqueue g _).fixtures
    · rfl

variable (probes : Array Probe) (environment : Environment) (output : Output) (es : List Event)

/-- The thread of a worker that has ended has nothing left to do. -/
theorem hasEnded_of_exit {x : Guard} (hx : ((boot probes environment output).after es).store.guard? g = some x)
    (hexit : x.exit.isSome = true) : ((boot probes environment output).after es).HasEnded x.worker := by
  obtain ⟨a, ha, hdesk⟩ := site_of_guard hx
  rw [show x.worker = a.worker from congrArg Desk.worker hdesk.symm]
  refine (manned_after probes environment output es).ended ha ?_
  exact (shown_after probes environment output es ha).exit.mp
    (by rwa [show a.exit = x.exit from congrArg Desk.exit hdesk])

/-- A worker whose thread has nothing left to do has stopped. -/
theorem stopped_of_hasEnded {a : Site} (ha : ((boot probes environment output).after es).site? g = some a)
    (hended : ((boot probes environment output).after es).HasEnded a.worker) : a.state = .stopped := by
  obtain ⟨th, hth, hstack⟩ := hended
  have hstage : a.stage = .gone := by
    obtain ⟨d, -, rfl⟩ := Option.map_eq_some_iff.mp ha
    simp only [stageAt, hth, Option.bind_some, hstack]
    rfl
  have hstate := (shown_after probes environment output es ha).state
  rw [hstage] at hstate
  exact List.mem_singleton.mp hstate

theorem attended_after (g : GuardId) : ((boot probes environment output).after es).Attended
    ((boot probes environment output).taking es) g := by
  induction es using List.reverseRecOn with
  | nil => exact ⟨fun _ => rfl, fun worker h => by simp [after, boot, Store.posts] at h⟩
  | append_singleton es e ih =>
    rw [after_snoc, taking_snoc]
    -- a post that has been taken stays so, and whoever has taken it goes on waiting or is through
    have hkeep : ∀ {worker}, ((boot probes environment output).after es).store.posts[g]? =
        some (worker, false) → ∃ t, ((boot probes environment output).taking es).filter (·.1 == g) = [(g, t)] ∧
        (t = worker ∨ (((boot probes environment output).after es).occur e).IsJoining t g ∨
          (((boot probes environment output).after es).occur e).HasEnded worker) := by
      intro worker hpost
      obtain ⟨t, htook, hself | hjoining | hended⟩ := ih.taken worker hpost
      · exact ⟨t, htook, .inl hself⟩
      · refine ⟨t, htook, .inr ((hjoining.occur e).imp id fun hexit => ?_)⟩
        obtain ⟨x, hx, heq⟩ := Option.map_eq_some_iff.mp ((Store.posts_eq _ g).symm.trans hpost)
        obtain ⟨rfl, -⟩ := Prod.mk.inj heq
        exact (hasEnded_of_exit probes environment output es hx (hexit x hx)).occur e
      · exact ⟨t, htook, .inr (.inr (hended.occur e))⟩
    have hposts := ((boot probes environment output).after es).posts_occur e
    generalize htaken : ((boot probes environment output).after es).takes e = taken at hposts
    cases hposts with
    | rest hsame =>
      rw [List.append_nil]
      rw [← hsame] at hkeep
      exact ⟨fun hfree => ih.free (hsame ▸ hfree), fun worker => hkeep⟩
    | start worker hpush =>
      rw [List.append_nil]
      have hpost : ∀ worker', (((boot probes environment output).after es).occur e).store.posts[g]? =
          some (worker', false) ↔
          ((boot probes environment output).after es).store.posts[g]? = some (worker', false) := by
        intro worker'
        rw [hpush, Array.getElem?_push]
        split
        · next hsize => simp [hsize]
        · rfl
      exact ⟨fun hfree => ih.free fun worker' h => hfree worker' ((hpost worker').mpr h),
        fun worker' h => hkeep ((hpost worker').mp h)⟩
    | @take g' worker thread hfree hafter =>
      by_cases hg : g = g'
      · subst hg
        have hnone := ih.free fun worker' h => by cases hfree.symm.trans h
        obtain ⟨x, hx, heq⟩ := Option.map_eq_some_iff.mp ((Store.posts_eq _ g).symm.trans hfree)
        obtain ⟨rfl, -⟩ := Prod.mk.inj heq
        have hpost := (hafter g).trans (if_pos rfl)
        refine ⟨fun h => absurd hpost (h _), fun worker' h => ⟨thread, by simp [List.filter_append, hnone], ?_⟩⟩
        obtain ⟨rfl, -⟩ := Prod.mk.inj (Option.some.inj (hpost.symm.trans h))
        exact (of_mem_takes (htaken ▸ List.mem_singleton_self _) hx).imp id .inl
      · have hother : ((boot probes environment output).taking es ++ [(g', thread)]).filter (·.1 == g) =
            ((boot probes environment output).taking es).filter (·.1 == g) := by simp [Ne.symm hg]
        have hsame := (hafter g).trans (if_neg hg)
        rw [← hsame, ← hother] at hkeep
        exact ⟨fun h => hother.trans (ih.free (hsame ▸ h)), fun worker => hkeep⟩

variable {a : Site} {p : ShutdownPoint} {o : Outcome}

/-- What a call finds that comes back on a thread other than the worker's: a worker that has stopped, for good;
or else a single thread had taken it on itself to wait for the worker's end, another than this one, and it is
the worker's or still waits. -/
def Returned (w : System) (es : List Event) (t : ThreadId) (g : GuardId) (a : Site) : Prop :=
  (∀ es', ∃ a', (w.after (es ++ es')).site? g = some a' ∧
    Stopped (w.after (es ++ es')) (w.trace (es ++ es')) g a') ∨
  ∃ t', (w.taking es).filter (·.1 == g) = [(g, t')] ∧ t' ≠ t ∧
    (t' = a.worker ∨ (w.after es).IsJoining t' g)

/-- A call that shuts a guard down comes back when its source is interrupted, and to a worker that has ended
for good, unless the call is made on the worker's thread or the waiting has been left to another that is not
through with it. -/
theorem shutdown_waits_unless_taken
    (hact : ((boot probes environment output).after es).acting? t = some (.shutdown g p))
    (hreturns : (p.advance t ((boot probes environment output).after es).store g).2 = .finish o) :
    o = .done ∧ ∃ a, ((boot probes environment output).after es).site? g = some a ∧
      a.source.isInterrupted = true ∧
      (t ≠ a.worker → (boot probes environment output).Returned es t g a) := by
  obtain ⟨name, rest, out, hth, hready⟩ := acting?_eq_some hact
  have hshuts := shutting_after probes environment output es _ (thread?_mem hth) (.shutdown g p)
    List.mem_cons_self
  have hattended := attended_after probes environment output es g
  have hpoint : p = .claim ∨ p = .joining := by
    cases p with
    | interrupt => cases hreturns
    | discarding acks => cases acks <;> cases hreturns
    | claim => exact .inl rfl
    | joining => exact .inr rfl
  obtain ⟨x, hx, hint⟩ : ∃ x, ((boot probes environment output).after es).store.guard? g = some x ∧
      x.source.isInterrupted = true := by
    obtain ⟨y, hy, hint⟩ : ∃ y, ((boot probes environment output).after es).store.gist? g = some y ∧
        y.interrupted = true := by
      rcases hpoint with rfl | rfl <;> exact hshuts
    obtain ⟨x, hx, rfl⟩ := Option.map_eq_some_iff.mp hy
    exact ⟨x, hx, hint⟩
  obtain ⟨a, ha, hdesk⟩ := site_of_guard hx
  have hworker : a.worker = x.worker := congrArg Desk.worker hdesk
  have hint : a.source.isInterrupted = true := by rwa [show a.source = x.source from congrArg Desk.source hdesk]
  have hended : ((boot probes environment output).after es).HasEnded a.worker →
      (boot probes environment output).Returned es t g a := by
    intro h
    have hstate := stopped_of_hasEnded probes environment output es ha h
    refine .inl fun es' => ?_
    obtain ⟨a', ha', hstopped, -⟩ := (stopping_is_final probes environment output es ha).2 hstate es'
    exact ⟨a', ha', hstopped⟩
  rcases hpoint with rfl | rfl
  · simp only [ShutdownPoint.advance, hx] at hreturns
    cases hfree : x.joinable with
    | true =>
      simp only [hfree, if_true] at hreturns
      split at hreturns
      · next hself =>
        cases hreturns
        exact ⟨rfl, a, ha, hint, fun hother => absurd (hworker.trans hself).symm hother⟩
      · cases hreturns
    | false =>
      simp only [hfree, Bool.false_eq_true, if_false] at hreturns
      cases hreturns
      refine ⟨rfl, a, ha, hint, fun hother => ?_⟩
      obtain ⟨t', htook, hself | hjoining | h⟩ := hattended.taken a.worker
        (by rw [Store.posts_eq, hx, hworker, ← hfree]; rfl)
      · subst hself
        exact .inr ⟨_, htook, fun h => hother h.symm, .inl rfl⟩
      · refine .inr ⟨t', htook, fun heq => ?_, .inr hjoining⟩
        -- the top of its stack is another frame
        subst heq
        obtain ⟨th', rest', hth', hstack'⟩ := hjoining
        cases hth.symm.trans hth'
        cases hstack'
      · exact hended h
  · have hexit : x.exit.isSome = true := by simpa only [Frame.isReady, hx] using hready
    have hdone : o = .done := by
      simp only [ShutdownPoint.advance] at hreturns
      split at hreturns <;> cases hreturns <;> rfl
    exact ⟨hdone, a, ha, hint, fun _ =>
      hended (hworker ▸ hasEnded_of_exit probes environment output es hx hexit)⟩

end System

/-- The guard that a frame shuts down, and how far that has come. -/
def Frame.shutdown? : Frame → Option (GuardId × ShutdownPoint)
  | .shutdown g p => some (g, p)
  | _ => none

theorem Frame.of_shutdown? {frame : Option Frame} {g : GuardId} {p : ShutdownPoint}
    (h : frame.bind shutdown? = some (g, p)) : frame = some (.shutdown g p) := by
  obtain ⟨x, rfl, hx⟩ := Option.bind_eq_some_iff.mp h
  cases x with
  | shutdown g' p' =>
    cases hx
    rfl
  | _ => cases hx

namespace System

/-- The callback of a handle that the worker reclaims shuts the guard down, and before the callback is over the
owner does so too. -/
def shuttingWithin : List Event :=
  .join .caller
      [.startGuard "g" {} .plain none,
        .register (.guard "g") "x" { address := 7, callback := some { body := some [.shutdown "g"] } },
        .drop "x", .shutdown "g"] ::
    (List.replicate 12 (.move (.act 0)) ++ List.replicate 11 (.move (.act 1)) ++
      List.replicate 3 (.move (.act 0)))

/-- The owner's call comes back while the callback is still under way on the worker's thread. -/
theorem shutdown_waits_unless_taken_within :
    ∃ a, ((boot #[] none {}).after shuttingWithin).site? 0 = some a ∧ 0 ≠ a.worker ∧
      a.state = .processing ∧ a.stage = .inside ⟨1⟩ ∧ a.source.isInterrupted = true ∧
      (boot #[] none {}).Returned shuttingWithin 0 0 a ∧
      (boot #[] none {}).taking shuttingWithin = [(0, a.worker)] := by
  have hact : (((boot #[] none {}).after shuttingWithin).acting? 0).bind Frame.shutdown? =
      some (0, .claim) := by decide +kernel
  have hguard : (((boot #[] none {}).after shuttingWithin).store.guard? 0).map Guard.joinable = some false := by
    decide +kernel
  have hrun : (((boot #[] none {}).after shuttingWithin).site? 0).map
      (fun a => (a.state, a.stage, a.worker)) = some (.processing, .inside ⟨1⟩, 1) := by decide +kernel
  obtain ⟨x, hx, hfree⟩ := Option.map_eq_some_iff.mp hguard
  have hreturns : (ShutdownPoint.claim.advance 0 ((boot #[] none {}).after shuttingWithin).store 0).2 =
      .finish .done := by
    simp only [ShutdownPoint.advance, hx, hfree, Bool.false_eq_true, if_false]
  obtain ⟨-, a, ha, hint, hreturned⟩ := shutdown_waits_unless_taken #[] none {} shuttingWithin
    (Frame.of_shutdown? hact) hreturns
  obtain ⟨hstate, hstage, hworker⟩ : a.state = .processing ∧ a.stage = .inside ⟨1⟩ ∧ a.worker = 1 := by
    simpa [ha] using hrun
  have hother : 0 ≠ a.worker := by rw [hworker]; decide
  exact ⟨a, ha, hother, hstate, hstage, hint, hreturned hother, by rw [hworker]; decide +kernel⟩

end System

end Reclaim

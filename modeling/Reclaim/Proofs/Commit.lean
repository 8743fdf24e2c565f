import Reclaim.Proofs.Barrier
import Reclaim.Proofs.Below
import Reclaim.Proofs.Chains
import Reclaim.Proofs.Counters

/-!
# Commitment before callbacks

A release, by a call or by the worker of a guard, first retires the handle for good and only then runs the
callback, whose commands are carried out as if they stood in the script of their own. When they have been
carried out, all that is left is to hand down how the callback has ended; a panic changes nothing else.

* `System.NextTurn` : up to the next turn of a thread;
* `System.Retired` : a handle that cannot be found active any more; `System.Manned.retired`;
* `System.Ends`, `System.Settles`, `System.Inlines`, `System.CallsBack` : what is left of a release;
* `System.Commits` : a release from the beginning to the end; `System.commits_before_callback`.
-/

namespace Reclaim

/-! ## What no guard sees -/

/-- A handle, whoever is busy releasing it. -/
def Entry.idle (e : Entry) : Entry := { e with users := 0 }

namespace Store

/-- Nothing has changed but who is busy releasing what, and what has been noted of callbacks. -/
structure Same (s s' : Store) : Prop where
  guards : s'.guards = s.guards
  acks : s'.acks = s.acks
  names : s'.names = s.names
  processWide : s'.processWide = s.processWide
  environment : s'.environment = s.environment
  output : s'.output = s.output
  entry : ∀ id, (s'.resource? id).map Entry.idle = (s.resource? id).map Entry.idle

theorem same_endCall (s : Store) (call : Nat) (did : List Reply) : s.Same (s.endCall call did) :=
  ⟨rfl, rfl, rfl, rfl, rfl, rfl, fun _ => rfl⟩

theorem same_endUse (s : Store) (id : HandleId) : s.Same (s.endUse id).1 := by
  unfold endUse
  split
  · exact ⟨rfl, rfl, rfl, rfl, rfl, rfl, fun _ => rfl⟩
  · constructor
    case entry =>
      intro id'
      rw [resource?_modifyEntry]
      split
      · rw [Option.map_map]
        rfl
      · rfl
    all_goals
      unfold modifyEntry
      split <;> rfl

theorem same_enter (s : Store) (id : HandleId) (e : Entry) (thread : ThreadId) :
    s.Same ((s.beginCall id e thread).1.tellProbe e).1 := by
  unfold tellProbe
  repeat' split
  all_goals exact ⟨rfl, rfl, rfl, rfl, rfl, rfl, fun _ => rfl⟩

/-- The callback of a handle has a probe, which fails its address. -/
def Fails (s : Store) (e : Entry) : Prop :=
  ∃ i probe, e.callback.probe = some i ∧ s.probes[i]? = some probe ∧ e.address ∈ probe.failing

theorem tellProbe_iff (s : Store) (id : HandleId) (e : Entry) (thread : ThreadId) :
    ((s.beginCall id e thread).1.tellProbe e).2 = true ↔ s.Fails e := by
  have hprobes : (s.beginCall id e thread).1.probes = s.probes := rfl
  unfold tellProbe Fails
  rw [hprobes]
  cases hi : e.callback.probe with
  | none => simp
  | some i =>
    cases hp : s.probes[i]? with
    | none => simp [hp]
    | some probe => simp [hp, Probe.record]

end Store

theorem Entry.Later.fails {e e' : Entry} (h : e.Later e') {s : Store} : s.Fails e' ↔ s.Fails e := by
  rw [Store.Fails, Store.Fails, h.callback, h.address]

/-! ## Turns -/

namespace System

/-- Whatever happens before the next turn of a thread, and then its turn: the store that it finds, and the
system that it leaves. -/
inductive NextTurn (w : System) (t : ThreadId) : Store → System → Prop where
  | mk {es : List Event} (h : es.countP (Event.isTurn t) = 0) :
    w.NextTurn t (w.after es).store ((w.after es).occur (.move (.act t)))

section NextTurn
variable {w w' : System} {t : ThreadId} {th : Thread} {x : Frame} {rest : List Frame} {s : Store}

/-- What comes of the turn of a prompt thread. -/
theorem NextTurn.cases (h : w.NextTurn t s w') (hth : w.thread? t = some th) (hstack : th.stack = x :: rest)
    (hx : x.isPrompt = true) : ∃ es fresh, w' = w.after (es ++ [.move (.act t)]) ∧
      s = (w.after es).store ∧ w'.store = (x.advance t fresh s).1 ∧
      w'.thread? t = some (th.progress rest (x.advance t fresh s).2) := by
  obtain ⟨hes⟩ := h
  rename_i es
  have hth' := thread?_waiting hth hstack hx hes
  obtain ⟨name, stack, out⟩ := th
  obtain rfl : stack = x :: rest := hstack
  have ht : (w.after es).acting? t = some x := by
    simp only [acting?, hth', Frame.isReady_of_prompt hx, if_true]
  obtain ⟨th', rest', hth'', hstack', -, hall⟩ := thread?_act ht
  cases hth'.symm.trans hth''
  obtain rfl : rest = rest' := (List.cons.inj hstack').2
  refine ⟨es, (w.after es).threads.size, (after_snoc w es _).symm, rfl, ?_, ?_⟩
  · rw [occur_acting ht, store_act ht]
  · rw [occur_acting ht, hall, if_pos rfl]

end NextTurn

/-! ## The end of a release -/

/-- The last actions of a call leave everything as it is, and then the caller has the outcome; if nobody
holds the handle any more, it is dropped in between, and found released. -/
def Ends (w : System) (t : ThreadId) (th : Thread) (id : HandleId) (rest : List Frame) (o : Outcome) :
    Prop :=
  ∀ s w₁, w.NextTurn t s w₁ → s.Same w₁.store ∧ (w₁.thread? t = some (th.deliver o rest) ∨
    w₁.thread? t = some (th.on (.drop id .check :: .give o :: rest)) ∧
      ∀ s w₂, w₁.NextTurn t s w₂ → w₂.store = s ∧ w₂.thread? t = some (th.on (.give o :: rest)) ∧
        ∀ s w₃, w₂.NextTurn t s w₃ → w₃.store = s ∧ w₃.thread? t = some (th.deliver o rest))

/-- Nobody can find the handle active any more. -/
structure Retired (w : System) (id : HandleId) : Prop where
  /-- It is released, -/
  released : ∃ e, w.store.resource? id = some e ∧ e.state = .released
  /-- no registry counts it among the live ones, -/
  unlisted : ∀ g x, w.store.guard? g = some x → id ∉ x.registry.ids
  /-- no guard contains it, -/
  contains : ∀ g, w.store.contains g id = false
  /-- no worker can claim it, -/
  taken : ∀ g, w.store.takeActive g id = (w.store, false)
  /-- its callback has not started twice, -/
  once : w.store.begun.count id ≤ 1
  /-- and another call to release it answers no, without running anything. -/
  again : ∀ t th rest, w.thread? t = some th → th.stack = .release id .retire :: rest →
    ∀ s w', w.NextTurn t s w' → w'.store = s ∧ w'.thread? t = some (th.on (.release id .lost :: rest)) ∧
      w'.Ends t th id rest (.flag false)

section Retired
variable {w : System} {h : History} {t : ThreadId} {th : Thread} {id : HandleId} {e : Entry}
  {rest : List Frame}

theorem Orderly.released_after (hw : w.Orderly h) (he : w.store.resource? id = some e)
    (hreleased : e.state = .released) (es : List Event) :
    ∃ e', (w.after es).store.resource? id = some e' ∧ e.Later e' ∧ e'.state = .released := by
  obtain ⟨e', he', hl⟩ := (extends_after hw es).entry id e he
  exact ⟨e', he', hl, hl.released hreleased⟩

theorem Orderly.ends (hw : w.Orderly h) (he : w.store.resource? id = some e)
    (hreleased : e.state = .released) {p : ReleasePoint}
    (hp : p = .lost ∨ ∃ panic, p = .ran panic) (hth : w.thread? t = some (th.on (.release id p :: rest))) :
    w.Ends t th id rest p.outcome := by
  intro s w₁ hturn
  have hprompt : (Frame.release id p).isPrompt = true := by
    obtain rfl | ⟨panic, rfl⟩ := hp <;> rfl
  have hadvance : ∀ s, p.advance s id = endRelease s id p.outcome := by
    obtain rfl | ⟨panic, rfl⟩ := hp <;> exact fun _ => rfl
  obtain ⟨es, fresh, rfl, rfl, hstore, hthread⟩ := hturn.cases hth rfl hprompt
  have hsame := (w.after es).store.same_endUse id
  simp only [Frame.advance, hadvance, endRelease] at hstore hthread
  generalize (w.after es).store.endUse id = r at hsame hstore hthread
  obtain ⟨s', gone⟩ := r
  cases gone with
  | false =>
    exact ⟨hstore ▸ hsame, .inl (hthread.trans (congrArg some (th.deliver_on _ _ _)))⟩
  | true =>
    -- nobody holds the handle any more
    refine ⟨hstore ▸ hsame, .inr ⟨hthread, fun s w₂ hturn' => ?_⟩⟩
    obtain ⟨es', fresh', rfl, rfl, hstore', hthread'⟩ := hturn'.cases hthread rfl rfl
    obtain ⟨e', he', -, hreleased'⟩ := hw.released_after he hreleased (es ++ [.move (.act t)] ++ es')
    rw [after_append] at he'
    simp only [Frame.advance, DropPoint.advance, he', Option.map_some, hreleased'] at hstore' hthread'
    refine ⟨hstore', hthread', fun s w₃ hturn'' => ?_⟩
    obtain ⟨es'', fresh'', rfl, rfl, hstore'', hthread''⟩ := hturn''.cases hthread' rfl rfl
    exact ⟨hstore'', hthread''.trans (congrArg some (th.deliver_on _ _ _))⟩

/-- A released handle cannot be found active any more. -/
theorem Manned.retired (hm : w.Manned h) (hr : w.Regular h) (he : w.store.resource? id = some e)
    (hreleased : e.state = .released) : w.Retired id := by
  have hunlisted : ∀ g x, w.store.guard? g = some x → id ∉ x.registry.ids := by
    intro g x hx hin
    have hgist : w.store.gist? g = some x.gist := by simp [Store.gist?, hx]
    obtain ⟨e', he', -, hactive, -⟩ := (hm.orderly.mem_registry hr hgist).mp hin
    cases he.symm.trans he'
    cases hreleased.symm.trans hactive
  refine ⟨⟨e, he, hreleased⟩, hunlisted, fun g => ?_, fun g => ?_,
    List.nodup_iff_count_le_one.mp (hr.begun_nodup hm.orderly) id,
    fun t th rest hth hstack s w' hturn => ?_⟩
  · unfold Store.contains
    split
    · next x _ hx =>
      have hno : x.registry.contains id = false := by
        simpa [Registry.contains] using hunlisted g x hx
      rw [hno, Bool.and_false]
    · rfl
  · obtain ⟨-, -, -, hactive, -⟩ | ⟨-, hlost⟩ := @Store.takeActive_cases w.store g id e he
    · cases hreleased.symm.trans hactive
    · exact hlost
  · obtain ⟨es, fresh, rfl, rfl, hstore, hthread⟩ := hturn.cases hth hstack rfl
    obtain ⟨e', he', -, hreleased'⟩ := hm.orderly.released_after he hreleased es
    have hlost : (w.after es).store.retire id = ((w.after es).store, false) := by
      obtain ⟨hactive, -⟩ | ⟨-, hlost⟩ := Store.retire_cases he'
      · cases hreleased'.symm.trans hactive
      · exact hlost
    simp only [Frame.advance, ReleasePoint.advance, hlost] at hstore hthread
    refine ⟨hstore, hthread, ?_⟩
    obtain ⟨e'', he'', -, hreleased''⟩ :=
      hm.orderly.released_after he hreleased (es ++ [.move (.act t)])
    exact (hm.orderly.after _).ends he'' hreleased'' (.inl rfl) hthread

end Retired

end System

/-! ## The callback -/

namespace Path

/-- The frame that is about to claim the release. -/
def claiming (path : Path) (id : HandleId) : Frame :=
  match path with
  | .release => .release id .retire
  | .reclaim g => .worker g (.processing (.reclaim id))

/-- The frame that has claimed it, and has not called the callback. -/
def claimed (path : Path) (id : HandleId) : Frame :=
  match path with
  | .release => .release id .count
  | .reclaim g => .worker g (.reporting id)

/-- What it does before it calls the callback: a call counts the release, a worker says that the handle was
not closed, which may panic. -/
def announces (path : Path) (s : Store) (id : HandleId) (e : Entry) : Store × Option Panic :=
  match path with
  | .release => (s.countReleased id, none)
  | .reclaim g => s.emit g (.notProperlyClosed e.address)

/-- The frame that waits for the callback. -/
def awaiting (path : Path) (id : HandleId) : Frame :=
  match path with
  | .release => .release id .running
  | .reclaim g => .worker g (.running id)

/-- The frame that goes on after the callback, which has panicked or not. -/
def resuming (path : Path) (id : HandleId) (panic : Option Panic) : Frame :=
  match path with
  | .release => .release id (.ran panic)
  | .reclaim g => .worker g (.settling id panic)

theorem receive_outcome (path : Path) (id : HandleId) (f : ReleaseFn) :
    (path.awaiting id).receive (Callback.outcome f) = path.resuming id f.panic := by
  unfold Callback.outcome
  cases path <;> cases f.panic <;> rfl

theorem receive_panic (path : Path) (id : HandleId) (p : Panic) :
    (path.awaiting id).receive (.panic p) = path.resuming id (some p) := by
  cases path <;> rfl

end Path

/-- The release that a frame is about to claim. -/
def Frame.claim? : Frame → Option (Path × HandleId)
  | .release id .retire => some (.release, id)
  | .worker g (.processing (.reclaim id)) => some (.reclaim g, id)
  | _ => none

theorem Frame.claim?_eq_some {x : Frame} {path : Path} {id : HandleId} (h : x.claim? = some (path, id)) :
    x = path.claiming id := by
  unfold claim? at h
  split at h
  all_goals cases h
  all_goals rfl

namespace System

/-- After the callback a call hands down how it ended; a worker counts it, now and not before. -/
def Settles (w : System) (t : ThreadId) (th : Thread) (path : Path) (id : HandleId) (rest : List Frame)
    (panic : Option Panic) : Prop :=
  match path with
  | .release => w.Ends t th id rest (ReleasePoint.ran panic).outcome
  | .reclaim g => ∀ s w', w.NextTurn t s w' →
      w'.store = (if panic.isSome then s.countFailure g else s.countReclaimed g) ∧
        w'.thread? t = some (th.on (.worker g (.announcing id panic) :: rest))

/-- The commands of a callback are carried out, whatever happens meanwhile, as they are in a process in
which they stand on the stack without the callback and the release; when they have been carried out, the
callback has ended and leaves everything else as it is. -/
def Inlines (w : System) (t : ThreadId) (th : Thread) (path : Path) (id : HandleId) (rest : List Frame)
    (call : Nat) (body : List Command) (panic : Option Panic) : Prop :=
  ∀ es,
    (∃ fs, fs ≠ [] ∧ (w.after es).thread? t =
        some (th.on (fs ++ .callback id (.running call) :: path.awaiting id :: rest)) ∧
      (w.put t (th.on (.commands body [] :: rest))).after es = (w.after es).put t (th.on (fs ++ rest))) ∨
    ∃ before after replies, es = before ++ after ∧ (w.after before).thread? t =
        some (th.on (.callback id (.ran call replies) :: path.awaiting id :: rest)) ∧
      (w.put t (th.on (.commands body [] :: rest))).after before =
        (w.after before).put t (th.deliver (.did replies) rest) ∧
      ∀ s w', (w.after before).NextTurn t s w' → s.Same w'.store ∧
        w'.thread? t = some (th.on (path.resuming id panic :: rest)) ∧
        w'.Settles t th path id rest panic

/-- A callback starts: it panics at once if it has a probe that fails its address, and only then; otherwise it
carries out its commands, if it has any. -/
def CallsBack (w : System) (t : ThreadId) (th : Thread) (path : Path) (id : HandleId) (e : Entry)
    (rest : List Frame) : Prop :=
  ∀ s w', w.NextTurn t s w' → s.Same w'.store ∧
    ((∃ panic, (s.Fails e ∧ panic = some (Probe.failure e.address) ∨
          ¬s.Fails e ∧ e.callback.body = none ∧ panic = e.callback.panic) ∧
        w'.thread? t = some (th.on (path.resuming id panic :: rest)) ∧
        w'.Settles t th path id rest panic) ∨
      ¬s.Fails e ∧ ∃ body call, e.callback.body = some body ∧
        w'.thread? t = some (th.on (.commands body [] :: .callback id (.running call) ::
          path.awaiting id :: rest)) ∧
        w'.Inlines t th path id rest call body e.callback.panic)

section CallsBack
variable {w : System} {h : History} {t : ThreadId} {th : Thread} {path : Path} {id : HandleId} {e : Entry}
  {rest : List Frame}

theorem Orderly.settles (hw : w.Orderly h) (he : w.store.resource? id = some e)
    (hreleased : e.state = .released) {panic : Option Panic}
    (hth : w.thread? t = some (th.on (path.resuming id panic :: rest))) :
    w.Settles t th path id rest panic := by
  cases path with
  | release => exact hw.ends he hreleased (.inr ⟨panic, rfl⟩) hth
  | reclaim g =>
    intro s w' hturn
    obtain ⟨es, fresh, rfl, rfl, hstore, hthread⟩ := hturn.cases hth rfl rfl
    cases panic <;> exact ⟨hstore, hthread⟩

/-- What a frame above a callback that has started hands down is the end of a script. -/
theorem Nested.did {w : System} (hw : w.Nested) {o : Outcome} {call : Nat}
    (hth : w.thread? t = some (th.deliver o (.callback id (.running call) :: path.awaiting id :: rest))) :
    ∃ replies, o = .did replies := by
  cases o with
  | did replies => exact ⟨replies, rfl⟩
  | value reply | panic p =>
    have hon := (hw _ (thread?_mem hth)).1
    cases path <;> cases hon.2 _ rfl

/-- A callback that has carried out its commands ends. -/
theorem Orderly.returns (hw : w.Orderly h) (he : w.store.resource? id = some e)
    (hreleased : e.state = .released) {call : Nat} {replies : List Reply}
    (hth : w.thread? t = some (th.on (.callback id (.ran call replies) :: path.awaiting id :: rest))) :
    ∀ s w', w.NextTurn t s w' → s.Same w'.store ∧
      w'.thread? t = some (th.on (path.resuming id e.callback.panic :: rest)) ∧
      w'.Settles t th path id rest e.callback.panic := by
  intro s w' hturn
  obtain ⟨es, fresh, rfl, rfl, hstore, hthread⟩ := hturn.cases hth rfl rfl
  obtain ⟨e₁, he₁, hl, -⟩ := hw.released_after he hreleased es
  obtain ⟨e₂, he₂, -, hreleased₂⟩ := hw.released_after he hreleased (es ++ [.move (.act t)])
  simp only [Frame.advance, CallbackPoint.advance, he₁, hl.callback] at hstore hthread
  have hresume : (w.after (es ++ [.move (.act t)])).thread? t =
      some (th.on (path.resuming id e.callback.panic :: rest)) := by
    rw [hthread, ← path.receive_outcome]
    rfl
  exact ⟨hstore ▸ Store.same_endCall _ _ _, hresume, (hw.after _).settles he₂ hreleased₂ hresume⟩

theorem Manned.inlines (hm : w.Manned h) (he : w.store.resource? id = some e)
    (hreleased : e.state = .released) {call : Nat} {body : List Command}
    (hth : w.thread? t = some (th.on (.commands body [] :: .callback id (.running call) ::
      path.awaiting id :: rest))) :
    w.Inlines t th path id rest call body e.callback.panic := by
  intro es
  obtain ⟨fs, hfs, hthread, hrebase⟩ | ⟨before, later, o, heq, hthread, hrebase⟩ :=
    @rebase_after w t th [.commands body []] _ hth (List.cons_ne_nil _ _) rest es
  · exact .inl ⟨fs, hfs, hthread, hrebase⟩
  · have hm' := hm.after before
    obtain ⟨replies, rfl⟩ := hm'.nested.did hthread
    obtain ⟨e', he', hl, hreleased'⟩ := hm.orderly.released_after he hreleased before
    refine .inr ⟨before, later, replies, heq, hthread, hrebase, ?_⟩
    rw [← hl.callback]
    exact hm'.orderly.returns he' hreleased' hthread

theorem Manned.callsBack (hm : w.Manned h) (he : w.store.resource? id = some e)
    (hreleased : e.state = .released)
    (hth : w.thread? t = some (th.on (.callback id .enter :: path.awaiting id :: rest))) :
    w.CallsBack t th path id e rest := by
  intro s w' hturn
  obtain ⟨es, fresh, rfl, rfl, hstore, hthread⟩ := hturn.cases hth rfl rfl
  obtain ⟨e₁, he₁, hl₁, -⟩ := hm.orderly.released_after he hreleased es
  obtain ⟨e₂, he₂, hl₂, hreleased₂⟩ := hm.orderly.released_after he hreleased (es ++ [.move (.act t)])
  have hm' := hm.after (es ++ [.move (.act t)])
  have hsame := (w.after es).store.same_enter id e₁ t
  have hfails := ((w.after es).store.tellProbe_iff id e₁ t).trans hl₁.fails
  simp only [Frame.advance, CallbackPoint.advance, he₁] at hstore hthread
  generalize ((w.after es).store.beginCall id e₁ t).1.tellProbe e₁ = r at hsame hfails hstore hthread
  obtain ⟨s', fails⟩ := r
  have hstore' : (w.after (es ++ [.move (.act t)])).store = s' := by
    rw [hstore]
    cases fails with
    | true => rfl
    | false => cases e₁.callback.body <;> rfl
  refine ⟨hstore' ▸ hsame, ?_⟩
  cases fails with
  | true =>
    have hresume : (w.after (es ++ [.move (.act t)])).thread? t =
        some (th.on (path.resuming id (some (Probe.failure e.address)) :: rest)) := by
      rw [hthread, ← path.receive_panic, hl₁.address]
      rfl
    exact .inl ⟨_, .inl ⟨hfails.mp rfl, rfl⟩, hresume, hm'.orderly.settles he₂ hreleased₂ hresume⟩
  | false =>
    have hrun : ¬(w.after es).store.Fails e := fun h => absurd (hfails.mpr h) Bool.false_ne_true
    rw [hl₁.callback] at hthread
    cases hbody : e.callback.body with
    | none =>
      have hresume : (w.after (es ++ [.move (.act t)])).thread? t =
          some (th.on (path.resuming id e.callback.panic :: rest)) := by
        rw [hthread, hbody, ← path.receive_outcome]
        rfl
      exact .inl ⟨_, .inr ⟨hrun, rfl, rfl⟩, hresume, hm'.orderly.settles he₂ hreleased₂ hresume⟩
    | some body =>
      rw [hbody] at hthread
      refine .inr ⟨hrun, body, _, rfl, hthread, ?_⟩
      rw [← hl₂.callback]
      exact hm'.inlines he₂ hreleased₂ hthread

end CallsBack

end System

/-! ## What the worker counts -/

/-- How often the worker of a guard has counted a callback that returned, and one that panicked. -/
def Store.verdicts (s : Store) (g : GuardId) : Option (Nat × Nat) :=
  (s.guard? g).map fun x => (x.stats.reclaimed, x.stats.releaseFailures)

theorem Store.verdicts_eq (s : Store) (g : GuardId) :
    s.verdicts g = (s.gist? g).map fun x => (x.stats.reclaimed, x.stats.releaseFailures) := by
  rw [verdicts, gist?, Option.map_map]
  rfl

/-- Only a worker that is about to count a callback counts one. -/
theorem Frame.settled_marks {s : Store} {x : Frame} {g : GuardId} {id : HandleId} {failed : Bool}
    (h : (id, .settled g failed) ∈ x.marks s) :
    ∃ panic, x = .worker g (.settling id panic) ∧ failed = panic.isSome := by
  have hthrown : ∀ g', (id, .settled g failed) ∉ s.thrownAway g' := by
    intro g' hin
    rw [Store.thrownAway_eq] at hin
    simp at hin
  cases x with
  | worker g' p =>
    cases p with
    | polling =>
      simp only [marks, Store.takenBy] at h
      split at h
      · simp at h
      · cases h
    | processing item => cases item <;> simp [marks] at h
    | settling id' panic =>
      simp only [marks, List.mem_singleton, Prod.mk.injEq, Mark.settled.injEq] at h
      obtain ⟨rfl, rfl, hfailed⟩ := h
      exact ⟨panic, rfl, hfailed⟩
    | leaving exit => exact absurd h (hthrown g')
    | reporting id' =>
      simp only [marks, Store.abortedBy] at h
      repeat' split at h
      all_goals simp at h
    | _ => cases h
  | shutdown g' p =>
    cases p with
    | interrupt => exact absurd h (hthrown g')
    | _ => cases h
  | commands todo done =>
    cases todo with
    | nil => cases h
    | cons c todo =>
      cases c with
      | interrupt guard =>
        simp only [marks, Command.marks] at h
        split at h
        · exact absurd h (hthrown _)
        · cases h
      | _ => cases h
  | register q p =>
    cases p with
    | allocate =>
      simp only [marks] at h
      split at h
      · simp at h
      · cases h
    | _ => cases h
  | release id' p => cases p <;> simp [marks, Store.returnedBy] at h
  | drop id' p =>
    cases p with
    | enqueue =>
      simp only [marks, Store.dropMark, List.mem_singleton, Prod.mk.injEq] at h
      split at h
      · cases h.2
      · split at h <;> cases h.2
    | leak => simp [marks] at h
    | check => cases h
  | _ => cases h

namespace System

theorem marks_settled {w : System} {e : Event} {g : GuardId} {id : HandleId} {failed : Bool}
    (h : (id, .settled g failed) ∈ w.marks e) :
    ∃ t panic, w.acting? t = some (.worker g (.settling id panic)) ∧ failed = panic.isSome := by
  unfold marks at h
  split at h
  · split at h
    · next t _ frame ht =>
      obtain ⟨panic, rfl, hfailed⟩ := Frame.settled_marks h
      exact ⟨t, panic, ht, hfailed⟩
    · cases h
  · cases h

/-- Every guard keeps its worker. -/
theorem Manned.worker_after {w : System} {h : History} (hm : w.Manned h) {g : GuardId} {d : Desk}
    (hd : w.store.desk? g = some d) (es : List Event) :
    ∃ d', (w.after es).store.desk? g = some d' ∧ d'.worker = d.worker := by
  have hsite : ∃ a', (w.after es).site? g = some a' ∧ a'.worker = d.worker := by
    refine hm.site_continues (P := fun a' _ _ => a'.worker = d.worker) (site?_eq hd) rfl
      (fun h hs => ?_) (fun h => h) es
    cases hs with
    | visit hv => exact hv.about.1.trans h
    | chore hc => exact hc.about.1.trans h
  obtain ⟨a', ha', hworker⟩ := hsite
  exact ⟨a'.toDesk, site?_desk ha', hworker⟩

/-- The worker of a guard counts no callback before its thread is about to. -/
theorem verdicts_after (probes : Array Probe) (environment : Environment) (output : Output)
    (es : List Event) {t : ThreadId} {th : Thread} {g : GuardId} {stage : Stage}
    (hth : ((boot probes environment output).after es).thread? t = some th)
    (hduty : duty th.stack = some (g, stage)) (es' : List Event)
    (hnever : ∀ before later, es' = before ++ later → later ≠ [] → ∀ id panic,
      (((boot probes environment output).after (es ++ before)).thread? t).map Thread.stack ≠
        some [.worker g (.settling id panic)]) :
    ((boot probes environment output).after (es ++ es')).store.verdicts g =
      ((boot probes environment output).after es).store.verdicts g := by
  have hm := manned_after probes environment output es
  obtain ⟨d, hd, rfl⟩ := hm.staffed.employed t th g stage hth hduty
  induction es' using List.reverseRecOn with
  | nil => rw [List.append_nil]
  | append_singleton es' e ih =>
    have hih := ih fun before later heq hne =>
      hnever before (later ++ [e]) (by rw [heq, List.append_assoc]) (by simp)
    rw [← hih, ← List.append_assoc, after_snoc]
    have hstep := hnever es' [e] rfl (List.cons_ne_nil _ _)
    have hw := manned_after probes environment output (es ++ es')
    obtain ⟨d', hd', hworker⟩ := hm.worker_after hd es'
    rw [← after_append] at hd'
    have hcounts := fun x => @counts_after probes environment output (es ++ es') g x
    have hcounts' := fun x => @counts_after probes environment output (es ++ es' ++ [e]) g x
    rw [history_snoc, after_snoc] at hcounts'
    generalize (boot probes environment output).after (es ++ es') = v at hstep hw hd' hcounts hcounts' ⊢
    -- nothing is counted by this event
    have hnone : ∀ failed, (v.marks e).times (.settled g failed) = 0 := by
      intro failed
      refine List.count_eq_zero.mpr fun hin => ?_
      obtain ⟨⟨id, m⟩, hin, rfl⟩ := List.mem_map.mp hin
      obtain ⟨t', panic, ht', -⟩ := marks_settled hin
      obtain ⟨name, rest, out, hth', -⟩ := acting?_eq_some ht'
      obtain rfl : rest = [] := (hw.nested _ (thread?_mem hth')).worker
      obtain ⟨d'', hd'', rfl⟩ := hw.staffed.employed t' _ g _ hth' rfl
      cases hd'.symm.trans hd''
      rw [← hworker, hth'] at hstep
      exact hstep id panic rfl
    obtain ⟨x, hx⟩ : ∃ x, v.store.gist? g = some x := by
      obtain ⟨guard, hguard, -⟩ := Option.map_eq_some_iff.mp hd'
      exact ⟨guard.gist, by simp [Store.gist?, hguard]⟩
    obtain ⟨src, dst, hact, -⟩ := hw.orderly.occur e
    obtain ⟨x', hx', -⟩ := hact.extends.gist g x hx
    have hbefore := hcounts x hx
    have hafter := hcounts' x' hx'
    rw [Store.verdicts_eq, Store.verdicts_eq, hx, hx', Option.map_some, Option.map_some,
      hafter.reclaimed, hafter.failures, hbefore.reclaimed, hbefore.failures, History.times_append,
      History.times_append, hnone, hnone, Nat.add_zero, Nat.add_zero]

/-! ## A release from the beginning to the end -/

/-- A thread that is about to claim the release of a handle commits to it before it calls the callback. -/
structure Commits (w : System) (t : ThreadId) (th : Thread) (path : Path) (id : HandleId) (e : Entry)
    (rest : List Frame) : Prop where
  /-- The first action retires the handle and does nothing else: it is released and out of the registry, -/
  retires : (w.occur (.move (.act t))).store = (w.store.markReleased id).untrack e.guard id
  claims : (w.occur (.move (.act t))).thread? t = some (th.on (path.claimed id :: rest))
  /-- there is one live handle less, -/
  live : ∀ x, w.store.guard? e.guard = some x → ∃ x',
    (w.occur (.move (.act t))).store.guard? e.guard = some x' ∧ x'.registry.size + 1 = x.registry.size
  /-- and whatever happens from now on, nobody can find the handle active. -/
  retired : ∀ es, ((w.occur (.move (.act t))).after es).Retired id
  /-- The second action counts the release, or says that the handle was not closed; then comes the callback. -/
  calls : ∀ s w', (w.occur (.move (.act t))).NextTurn t s w' →
    w'.store = (path.announces s id e).1 ∧ ((path.announces s id e).2 = none →
      w'.thread? t = some (th.on (.callback id .enter :: path.awaiting id :: rest)) ∧
        w'.CallsBack t th path id e rest)
  /-- What a worker counts is the same as long as it has not come to the point after the callback. -/
  uncounted : ∀ g, path = .reclaim g → ∀ es, (∀ before later, es = before ++ later → later ≠ [] →
    ∀ id' panic, ((w.after before).thread? t).map Thread.stack ≠ some [.worker g (.settling id' panic)]) →
      (w.after es).store.verdicts g = w.store.verdicts g

section Commits
variable {w : System} {h : History} {t : ThreadId} {th : Thread} {path : Path} {id : HandleId} {e : Entry}
  {rest : List Frame}

/-- A handle that leaves the registry is one live handle less. -/
theorem live_untrack {s : Store} {g : GuardId} {x : Guard} (hx : s.guard? g = some x)
    (hin : id ∈ x.registry.ids) : ∃ x', ((s.markReleased id).untrack g id).guard? g = some x' ∧
      x'.registry.size + 1 = x.registry.size := by
  refine ⟨{ x with registry := x.registry.erase id }, ?_, ?_⟩
  · rw [Store.untrack, Store.guard?_modifyGuard, if_pos rfl, Store.markReleased, Store.guard?_modifyEntry, hx,
      Option.map_some]
  · have hpos := List.length_pos_of_mem hin
    have hlength := List.length_erase_of_mem hin
    simp only [Registry.erase, Registry.size]
    omega

theorem Manned.claim (hm : w.Manned h) (hr : w.Regular h)
    (hth : w.thread? t = some th) (hstack : th.stack = path.claiming id :: rest)
    (he : w.store.resource? id = some e) (hactive : e.state = .active)
    (hown : ∀ g, path = .reclaim g → w.store.contains g id = true) :
    (w.occur (.move (.act t))).store = (w.store.markReleased id).untrack e.guard id ∧
      (w.occur (.move (.act t))).thread? t = some (th.on (path.claimed id :: rest)) ∧
      ∃ x, w.store.guard? e.guard = some x ∧ id ∈ x.registry.ids := by
  have hturn : w.NextTurn t w.store (w.occur (.move (.act t))) := @NextTurn.mk w t [] rfl
  have hprompt : (path.claiming id).isPrompt = true := by cases path <;> rfl
  obtain ⟨-, fresh, -, -, hstore, hthread⟩ := hturn.cases hth hstack hprompt
  cases path with
  | release =>
    simp only [Path.claiming, Frame.advance, ReleasePoint.advance, Store.retire_eq he hactive] at hstore hthread
    have hasking : .asking id ∈ w.spots :=
      mem_spots.mpr ⟨th, thread?_mem hth, _, hstack ▸ List.mem_cons_self, Multiset.mem_singleton_self _⟩
    obtain ⟨x, hx⟩ := hm.orderly.2.entries id e he
    have hin := (hm.orderly.mem_registry hr hx).mpr
      ⟨e, he, rfl, hactive, hm.orderly.entered hr e.guard (.inr hasking)⟩
    obtain ⟨guard, hguard, rfl⟩ := Option.map_eq_some_iff.mp hx
    exact ⟨hstore, hthread.trans (by rfl), guard, hguard, hin⟩
  | reclaim g =>
    have hcontains := hown g rfl
    unfold Store.contains at hcontains
    split at hcontains
    · next e' x he' hx =>
      cases he.symm.trans he'
      rw [Bool.and_eq_true, beq_iff_eq] at hcontains
      obtain ⟨rfl, hlisted⟩ := hcontains
      simp only [Path.claiming, Frame.advance, WorkerPoint.advance,
        Store.takeActive_eq hx hlisted he hactive] at hstore hthread
      exact ⟨hstore, hthread, x, hx, by simpa [Registry.contains] using hlisted⟩
    · cases hcontains

theorem CallsBack.of_later {e' : Entry} (h : w.CallsBack t th path id e' rest) (hl : e.Later e') :
    w.CallsBack t th path id e rest := by
  unfold CallsBack Store.Fails at h ⊢
  rw [hl.callback, hl.address] at h
  exact h

/-- A thread that has claimed the release announces it, and then calls the callback. -/
theorem Manned.announces (hm : w.Manned h) (he : w.store.resource? id = some e)
    (hreleased : e.state = .released) (hth : w.thread? t = some (th.on (path.claimed id :: rest))) :
    ∀ s w', w.NextTurn t s w' → w'.store = (path.announces s id e).1 ∧
      ((path.announces s id e).2 = none →
        w'.thread? t = some (th.on (.callback id .enter :: path.awaiting id :: rest)) ∧
          w'.CallsBack t th path id e rest) := by
  intro s w' hturn
  have hprompt : (path.claimed id).isPrompt = true := by cases path <;> rfl
  obtain ⟨es, fresh, rfl, rfl, hstore, hthread⟩ := hturn.cases hth rfl hprompt
  obtain ⟨e₁, he₁, hl₁, -⟩ := hm.orderly.released_after he hreleased es
  obtain ⟨e₂, he₂, hl₂, hreleased₂⟩ := hm.orderly.released_after he hreleased (es ++ [.move (.act t)])
  have hcalls := fun hthread =>
    (@callsBack _ _ t th path id e₂ rest (hm.after (es ++ [.move (.act t)])) he₂ hreleased₂ hthread).of_later hl₂
  cases path with
  | release => exact ⟨hstore, fun _ => ⟨hthread, hcalls hthread⟩⟩
  | reclaim g =>
    simp only [Path.claimed, Frame.advance, WorkerPoint.advance, he₁, hl₁.address] at hstore hthread
    simp only [Path.announces]
    generalize (w.after es).store.emit g (.notProperlyClosed e.address) = r at hstore hthread ⊢
    obtain ⟨s', panic⟩ := r
    cases panic with
    | some p => exact ⟨hstore, fun h => by cases h⟩
    | none => exact ⟨hstore, fun _ => ⟨hthread, hcalls hthread⟩⟩

end Commits

/-- Whatever has happened in a process, a call that is about to release an active handle, and a worker that
is about to release one of its guard, retire it for good before they call the callback, whose commands
have the effect that they have in a script of their own; when it has ended, by a panic or not, all that is
left is to say so. -/
theorem commits_before_callback (probes : Array Probe) (environment : Environment) (output : Output)
    (es : List Event) {t : ThreadId} {th : Thread} {path : Path} {id : HandleId} {e : Entry}
    {rest : List Frame} (hth : ((boot probes environment output).after es).thread? t = some th)
    (hstack : th.stack = path.claiming id :: rest)
    (he : ((boot probes environment output).after es).store.resource? id = some e)
    (hactive : e.state = .active)
    (hown : ∀ g, path = .reclaim g →
      ((boot probes environment output).after es).store.contains g id = true) :
    ((boot probes environment output).after es).Commits t th path id e rest := by
  have hm := manned_after probes environment output es
  have hr := regular_after probes environment output es
  obtain ⟨hstore, hthread, x, hx, hin⟩ := hm.claim hr hth hstack he hactive hown
  have hverdicts := fun g stage hduty es' =>
    @verdicts_after probes environment output es t th g stage hth hduty es'
  simp only [after_append] at hverdicts
  generalize (boot probes environment output).after es = w at hm hr hth he hown hstore hthread hx hverdicts ⊢
  have hm' := hm.after [.move (.act t)]
  have hr' := hr.after hm.orderly [.move (.act t)]
  have he' : (w.occur (.move (.act t))).store.resource? id = some { e with state := .released } := by
    rw [hstore, (Store.claims_markReleased w.store e.guard id).entry, if_pos rfl, he, Option.map_some]
  refine ⟨hstore, hthread, fun y hy => ?_, fun es' => ?_, ?_, fun g hg es' hnever => ?_⟩
  · cases hx.symm.trans hy
    rw [hstore]
    exact live_untrack hx hin
  · obtain ⟨e₁, he₁, -, hreleased⟩ := hm'.orderly.released_after he' rfl es'
    exact (hm'.after es').retired (hr'.after hm'.orderly es') he₁ hreleased
  · have hcalls := hm'.announces he' rfl hthread
    exact hcalls
  · subst hg
    have hnil : rest = [] := (hstack ▸ hm.nested _ (thread?_mem hth)).worker
    subst hnil
    have hduty : duty th.stack = some (g, .point (.processing (.reclaim id))) := by
      rw [hstack]
      rfl
    exact hverdicts g _ hduty es' hnever

/-- A call is about to release one handle, and a worker another; the callback of the first panics in the
end, after it has released itself, registered a third handle and shut down the guard. -/
def committing : List Event :=
  .join .caller
      [.startGuard "g" {} .plain none,
        .register (.guard "g") "x"
          { address := 1,
            callback := some
              { body := some
                  [.release "x" none, .register (.guard "g") "z" { address := 3, callback := some {} },
                    .ask (.contains "g" "x"), .shutdown "g"],
                panic := some (.text "stuck") } },
        .register (.guard "g") "y" { address := 2, callback := some { body := some [.release "x" none] } },
        .drop "y", .release "x" none] ::
    (List.replicate 19 (.move (.act 0)) ++ List.replicate 4 (.move (.act 1)))

theorem commits_before_callback_committing :
    (∃ th e rest, ((boot #[] none {}).after committing).store.resource? ⟨1⟩ = some e ∧
      th.stack = Path.release.claiming ⟨1⟩ :: rest ∧
      ((boot #[] none {}).after committing).Commits 0 th .release ⟨1⟩ e rest) ∧
    ∃ th e rest, ((boot #[] none {}).after committing).store.resource? ⟨2⟩ = some e ∧
      th.stack = (Path.reclaim 0).claiming ⟨2⟩ :: rest ∧
      ((boot #[] none {}).after committing).Commits 1 th (.reclaim 0) ⟨2⟩ e rest := by
  have hthreads : [0, 1].map (fun t => (((boot #[] none {}).after committing).thread? t).map
      fun th => th.stack.head?.bind Frame.claim?) =
        [some (some (.release, ⟨1⟩)), some (some (.reclaim 0, ⟨2⟩))] := by
    decide +kernel
  have hentries : [⟨1⟩, ⟨2⟩].map (fun id => (((boot #[] none {}).after committing).store.resource? id).map
      Entry.state) = [some .active, some .active] := by
    decide +kernel
  have hown : ((boot #[] none {}).after committing).store.contains 0 ⟨2⟩ = true := by decide +kernel
  have hcommits : ∀ t path id,
      (((boot #[] none {}).after committing).thread? t).map (fun th => th.stack.head?.bind Frame.claim?) =
        some (some (path, id)) →
      (((boot #[] none {}).after committing).store.resource? id).map Entry.state = some .active →
      (∀ g, path = .reclaim g → ((boot #[] none {}).after committing).store.contains g id = true) →
      ∃ th e rest, ((boot #[] none {}).after committing).store.resource? id = some e ∧
        th.stack = path.claiming id :: rest ∧
        ((boot #[] none {}).after committing).Commits t th path id e rest := by
    intro t path id hth hactive hown
    obtain ⟨th, hth, hfirst⟩ := Option.map_eq_some_iff.mp hth
    obtain ⟨x, hx, hclaim⟩ := Option.bind_eq_some_iff.mp hfirst
    obtain ⟨rest, hstack⟩ := List.head?_eq_some_iff.mp hx
    rw [Frame.claim?_eq_some hclaim] at hstack
    obtain ⟨e, he, hactive⟩ := Option.map_eq_some_iff.mp hactive
    exact ⟨th, e, rest, he, hstack, commits_before_callback #[] none {} committing hth hstack he hactive hown⟩
  refine ⟨hcommits 0 .release ⟨1⟩ (List.cons.inj hthreads).1 (List.cons.inj hentries).1 (by rintro g ⟨⟩), ?_⟩
  refine hcommits 1 (.reclaim 0) ⟨2⟩ (List.cons.inj (List.cons.inj hthreads).2).1
    (List.cons.inj (List.cons.inj hentries).2).1 ?_
  rintro _ ⟨⟩
  exact hown

end System

end Reclaim

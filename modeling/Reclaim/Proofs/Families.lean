import Reclaim.Proofs.Calls
import Reclaim.Proofs.Placement

/-!
# Families of handles

A family of handles is given by the names of their variables. Its callbacks release handles of the
family, in cycles of any shape, give up shares, ask questions, and perhaps register further handles; what
else there is in the process may have callbacks of any kind, as long as nobody registers a handle with
another callback under a name of the family.

* `Family`, `Command.isLink`, `Callback.isLink` : what a callback of a family consists of;
* `Command.isLoyal` : what may be registered, by the command or by what it registers;
* `System.Loyal` : the variables of the family hold handles with such callbacks; `System.Loyal.after`.
-/

namespace Reclaim

/-- A family of handles. -/
structure Family where
  /-- The names of the variables that hold them. -/
  holds : String → Bool
  /-- Whether their callbacks register further handles. -/
  registers : Bool

/-- Whether a callback of the family may consist of such commands. -/
def Command.isLink (F : Family) : Command → Bool
  | .release handle _ => F.holds handle
  | .drop _ | .ask _ => true
  | .register .. | .acquire .. => F.registers
  | _ => false

/-- Whether the callback is one of the family. -/
def Callback.isLink (F : Family) (f : ReleaseFn) : Bool := (f.body.getD []).all (Command.isLink F)

mutual

/-- Whether all that the command registers under a name of the family is one of it, what is registered by
the callbacks of what it registers included. -/
def Command.isLoyal (F : Family) : Command → Bool
  | .register _ handle ⟨_, _, some ⟨_, _, some body, _⟩⟩ =>
    (!F.holds handle || body.all (Command.isLink F)) && allLoyal F body
  | .acquire _ handle ⟨_, _, some ⟨_, _, some body, _⟩⟩ =>
    (!F.holds handle || body.all (Command.isLink F)) && allLoyal F body
  | _ => true

/-- Whether all commands are loyal. -/
def allLoyal (F : Family) : List Command → Bool
  | [] => true
  | c :: rest => c.isLoyal F && allLoyal F rest

end

/-- Whether the script of a thread that joins is loyal. -/
def Event.isLoyal (F : Family) : Event → Bool
  | .join _ script => allLoyal F script
  | _ => true

/-- The callback of a registration under this name is one of the family if the name is, and loyal. -/
def Registration.Loyal (F : Family) (handle : String) (r : Registration Command) : Prop :=
  ∀ f, r.callback = some f →
    (F.holds handle = true → f.isLink F = true) ∧ allLoyal F (f.body.getD []) = true

variable {F : Family}

theorem Registration.loyal_of_body {handle : String} {r : Registration Command}
    (h : ∀ address label probe listed body panic, r = ⟨address, label, some ⟨probe, listed, some body, panic⟩⟩ →
      ((!F.holds handle || body.all (Command.isLink F)) && allLoyal F body) = true) :
    Registration.Loyal F handle r := by
  rintro f hf
  obtain ⟨address, label, callback⟩ := r
  obtain ⟨probe, listed, body, panic⟩ := f
  cases hf
  cases body with
  | none => exact ⟨fun _ => rfl, by simp [allLoyal]⟩
  | some body =>
    obtain ⟨hlink, hloyal⟩ := Bool.and_eq_true_iff.mp (h _ _ _ _ _ _ rfl)
    refine ⟨fun hholds => ?_, hloyal⟩
    simpa [hholds, Callback.isLink] using hlink

theorem Command.loyal_register {target : Target} {handle : String} {r : Registration Command}
    (h : (register target handle r).isLoyal F = true) : Registration.Loyal F handle r := by
  refine Registration.loyal_of_body ?_
  rintro _ _ _ _ _ _ rfl
  simpa only [isLoyal] using h

theorem Command.loyal_acquire {guard handle : String} {r : Registration Command}
    (h : (acquire guard handle r).isLoyal F = true) : Registration.Loyal F handle r := by
  refine Registration.loyal_of_body ?_
  rintro _ _ _ _ _ _ rfl
  simpa only [isLoyal] using h

/-! ## Loyal stores and frames -/

namespace Store

/-- The callback of the handle is one of the family. -/
def Linked (F : Family) (s : Store) (id : HandleId) : Prop :=
  ∃ e, s.resource? id = some e ∧ e.callback.isLink F = true

theorem Extends.linked {s s' : Store} (h : s.Extends s') {id : HandleId} (hid : s.Linked F id) :
    s'.Linked F id := by
  obtain ⟨e, he, hlink⟩ := hid
  obtain ⟨e', he', hl⟩ := h.entry id e he
  exact ⟨e', he', hl.callback ▸ hlink⟩

/-- The variables of the family hold handles of it, and all callbacks are loyal. -/
structure Loyal (F : Family) (s : Store) : Prop where
  named : ∀ name id, F.holds name = true → (name, id) ∈ s.names.handles → s.Linked F id
  bodies : ∀ id e, s.resource? id = some e → allLoyal F (e.callback.body.getD []) = true

/-- The handle that a variable of the family holds. -/
theorem Loyal.handleNamed {s : Store} (h : s.Loyal F) {name : String} {id : HandleId}
    (hname : F.holds name = true) (hid : s.handleNamed name = .ok id) : s.Linked F id := by
  unfold Store.handleNamed at hid
  split at hid
  · cases hid
  · next id' hlookup =>
    split at hid
    · split at hid <;> cases hid
      exact h.named name id hname (mem_of_lookup hlookup)
    · cases hid

/-- A store with the same names and callbacks is as loyal. -/
theorem Loyal.extends {s s' : Store} (h : s.Loyal F) (hs : s.Extends s')
    (hnames : s'.names.handles = s.names.handles)
    (hnew : ∀ id, s.resource? id = none → s'.resource? id = none) : s'.Loyal F where
  named name id hname hin := hs.linked (h.named name id hname (hnames ▸ hin))
  bodies id e' he' := by
    cases he : s.resource? id with
    | none => cases (hnew id he).symm.trans he'
    | some e =>
      obtain ⟨e'', he'', hl⟩ := hs.entry id e he
      cases he'.symm.trans he''
      rw [hl.callback]
      exact h.bodies id e he

end Store

/-- What a frame will register under a name of the family is one of it. -/
def Frame.Loyal (F : Family) (s : Store) : Frame → Prop
  | .commands todo _ => allLoyal F todo = true
  | .register q .allocate => Registration.Loyal F q.handle q.registration
  | .register q (.track id) | .register q (.count id) | .register q (.bind id) =>
    F.holds q.handle = true → s.Linked F id
  | .processWide (.register handle r) => Registration.Loyal F handle r
  | _ => True

theorem Frame.Loyal.extends {s s' : Store} (hs : s.Extends s') {x : Frame} (hx : x.Loyal F s) :
    x.Loyal F s' := by
  cases x with
  | commands todo done => exact hx
  | register q p =>
    cases p with
    | track id | count id | bind id => exact fun h => hs.linked (hx h)
    | allocate => exact hx
    | _ => trivial
  | processWide p => cases p <;> exact hx
  | _ => trivial

theorem Frame.Loyal.receive {s : Store} {x : Frame} (hx : x.Loyal F s) (o : Outcome) :
    (x.receive o).Loyal F s := by
  fun_cases Frame.receive x o with
  | case1 => exact hx
  | _ => trivial

/-- All frames that a progress goes on with are loyal. -/
def Progress.Loyal (F : Family) (s : Store) : Progress → Prop
  | .goto x => x.Loyal F s
  | .call x y => x.Loyal F s ∧ y.Loyal F s
  | .spawn _ x y => x.Loyal F s ∧ y.Loyal F s
  | .finish _ => True

theorem Progress.Loyal.onto {s : Store} {p : Progress} (hp : p.Loyal F s) :
    ∀ x ∈ p.onto [], x.Loyal F s := by
  cases p with
  | goto x => simpa [Progress.onto, Progress.Loyal] using hp
  | call x y => simpa [Progress.onto, Progress.Loyal] using hp
  | spawn name x y => simpa [Progress.onto] using hp.2
  | finish o => simp [Progress.onto]

/-! ## What actions keep loyal -/

section Acts
variable {s s' : Store} {src dst : Multiset Spot} {ms : History}

/-- Only a registration that comes to its end names a handle. -/
theorem Act.handles_eq (a : Act s src s' dst ms) (h : ∀ id, src ≠ {.counted id}) :
    s'.names.handles = s.names.handles := by
  cases a with
  | bind | rebind => exact absurd rfl (h _)
  | found _ _ _ _ _ _ _ hhandles => exact hhandles
  | refuse | number | lose | miss | done | handBack => rfl
  | still h | reach _ h | grant h | track h | register h | share _ _ _ h | giveUp _ _ _ h
  | use _ _ _ h | claim _ _ h | prepare _ h | call _ h | win _ h | yield _ h | queue _ _ _ h | leak _ h
  | take _ _ _ h | reclaim _ _ _ _ h | discard _ _ h | report h | abort h | succeed h | fail h
  | interrupt h | inject _ _ _ _ h => exact h.handles

/-- Only registrations bear on loyalty. -/
theorem Store.Loyal.act (hs : s.Loyal F) (a : Act s src s' dst ms)
    (hcounted : ∀ id, src ≠ {.counted id}) (henrolling : ∀ g, src ≠ {.enrolling g}) : s'.Loyal F := by
  refine hs.extends a.extends (a.handles_eq hcounted) fun id hnone => ?_
  cases he : s'.resource? id with
  | none => rfl
  | some e =>
    obtain ⟨g, r, f, -, -, -, hsrc, -⟩ := a.entry_new hnone he
    exact absurd hsrc (henrolling g)

end Acts

theorem Command.Beginning.loyal {s s' : Store} {c : Command} {frame : Frame} (h : c.Beginning s s' (.operation frame))
    (hc : c.isLoyal F = true) : frame.Loyal F s' := by
  cases h with
  | register | registerProcessWide => exact loyal_register hc
  | acquire => exact loyal_acquire hc
  | _ => trivial

theorem Script.advance_loyal {s : Store} (hs : s.Loyal F) {todo : List Command} (done : List Reply)
    (hx : allLoyal F todo = true) :
    (advance s todo done).1.Loyal F ∧ (advance s todo done).2.Loyal F (advance s todo done).1 := by
  cases todo with
  | nil => exact ⟨hs, trivial⟩
  | cons c todo =>
    rw [allLoyal, Bool.and_eq_true] at hx
    obtain ⟨dst, hact, -⟩ := c.begin_act s
    have hs' := hs.act hact (fun id => (Multiset.singleton_ne_zero _).symm)
      fun g => (Multiset.singleton_ne_zero _).symm
    simp only [advance]
    cases hb : c.begin s with
    | mk s' b =>
      rw [hb] at hs'
      cases b with
      | reply reply => exact ⟨hs', hx.2⟩
      | operation frame =>
        exact ⟨hs', (Command.beginning_operation hb).loyal hx.1, hx.2⟩

/-- A registration numbers a handle with the callback that it was asked for. -/
theorem Store.Loyal.allocate {s : Store} (hs : s.Loyal F) {q : RegisterRequest} {f : ReleaseFn}
    (hf : q.registration.callback = some f) (hx : Registration.Loyal F q.handle q.registration) :
    (s.allocate q.guard q.registration f).1.Loyal F ∧ (F.holds q.handle = true →
      (s.allocate q.guard q.registration f).1.Linked F (s.allocate q.guard q.registration f).2) := by
  have hextends := (Act.number (s := s) q.guard q.registration f).extends
  refine ⟨⟨fun name id hname hin => hextends.linked (hs.named name id hname hin), fun id e he => ?_⟩,
    fun hholds => ⟨_, s.resource?_allocate_new _ _ _, (hx f hf).1 hholds⟩⟩
  rw [resource?_allocate] at he
  split at he
  · cases he
    exact (hx f hf).2
  · exact hs.bodies id e he

/-- A handle goes into a variable. -/
theorem Store.Loyal.bindHandle {s : Store} (hs : s.Loyal F) {name : String} {id : HandleId}
    (hid : F.holds name = true → s.Linked F id) : (s.bindHandle name id).Loyal F where
  named name' id' hname hin := by
    rcases List.mem_cons.mp hin with heq | hin
    · cases heq
      exact hid hname
    · exact hs.named name' id' hname hin
  bodies := hs.bodies

theorem RegisterPoint.advance_loyal {s : Store} (hs : s.Loyal F) {q : RegisterRequest} {p : RegisterPoint}
    (hx : (Frame.register q p).Loyal F s) :
    (p.advance s q).1.Loyal F ∧ (p.advance s q).2.Loyal F (p.advance s q).1 := by
  cases p with
  | allocate =>
    simp only [advance]
    cases hc : q.registration.check with
    | error e => exact ⟨hs, trivial⟩
    | ok f =>
      exact hs.allocate (Registration.check_ok hc) hx
  | track id =>
    have hextends := (s.touches_track q.guard id).extends fun _ => ⟨rfl, rfl, rfl, fun h => h⟩
    exact ⟨hs.extends hextends rfl fun id' h => ((s.touches_track q.guard id).entry id').trans h,
      fun h => hextends.linked (hx h)⟩
  | count id =>
    have ht := (s.touches_modifyStats q.guard fun c => { c with registered := c.registered + 1 }).trans
      (Store.alike_log _ .trace ("registered " ++ id.text ++ " for address " ++ q.registration.address.text))
    have hextends := ht.extends fun _ => ⟨rfl, rfl, rfl, fun h => h⟩
    exact ⟨hs.extends hextends rfl fun id' h => (ht.entry id').trans h, fun h => hextends.linked (hx h)⟩
  | bind id =>
    have hbind := @Store.Loyal.bindHandle F s hs q.handle id hx
    simp only [advance]
    split
    · exact ⟨hbind, trivial⟩
    · next old hold =>
      obtain ⟨-, e, he, -⟩ := Store.handleNamed_held hold
      have he' : (s.bindHandle q.handle id).resource? old = some e := he
      obtain ⟨-, ha⟩ := Store.dropShare_amends he'
      have hs' : ((s.bindHandle q.handle id).dropShare old).1.Loyal F := by
        refine hbind.extends (ha.extends fun _ => ⟨rfl, rfl, rfl, rfl, fun h => h⟩) ha.handles fun id' h => ?_
        rw [ha.entry, h]
        split <;> rfl
      split
      · exact ⟨hs', trivial, trivial⟩
      · exact ⟨hs', trivial⟩
  | dropping id => exact ⟨hs, trivial⟩
  | report id => exact ⟨hs, trivial⟩

theorem Frame.spots_ne {frame : Frame} (h : ∀ q p, frame ≠ .register q p) :
    (∀ id, frame.spots ≠ {.counted id}) ∧ ∀ g, frame.spots ≠ {.enrolling g} := by
  cases frame with
  | register q p => exact absurd rfl (h q p)
  | release id p | callback id p | drop id p => cases p <;> simp [spots]
  | worker g p =>
    cases p with
    | took item | processing item => cases item <;> simp [spots]
    | _ => simp [spots]
  | _ => simp [spots]

theorem CallbackPoint.advance_loyal {thread : ThreadId} {s : Store} (hs : s.Loyal F) (id : HandleId)
    (p : CallbackPoint) : (p.advance thread s id).2.Loyal F (p.advance thread s id).1 := by
  cases p with
  | enter =>
    simp only [advance]
    split
    · trivial
    · next e he =>
      have hbody := hs.bodies id e he
      generalize (s.beginCall id e thread).1.tellProbe e = r
      obtain ⟨s', fails⟩ := r
      cases fails
      · cases hb : e.callback.body with
        | none => trivial
        | some body =>
          rw [hb] at hbody
          exact ⟨hbody, trivial⟩
      · trivial
  | running call => trivial
  | ran call replies =>
    simp only [advance]
    split <;> trivial

theorem Purpose.advance_loyal {fresh : ThreadId} {s : Store} {p : Purpose}
    (hx : (Frame.processWide p).Loyal F s) : (p.advance fresh s).2.Loyal F (p.advance fresh s).1 := by
  have hframe : ∀ s' g, (p.frame g).Loyal F s' := by
    cases p with
    | bind => exact fun _ _ => trivial
    | register => exact fun _ _ => hx
  simp only [advance]
  split
  · exact hframe _ _
  · split
    · trivial
    · exact ⟨trivial, hframe _ _⟩

/-- Whatever a frame does, the store stays loyal, and so does what it goes on with. -/
theorem Frame.advance_loyal {thread fresh : ThreadId} {s : Store} (hs : s.Loyal F) {frame : Frame}
    (hp : ∀ x ∈ frame.spots, x.Placed s) (hx : frame.Loyal F s) :
    (frame.advance thread fresh s).1.Loyal F ∧
      (frame.advance thread fresh s).2.Loyal F (frame.advance thread fresh s).1 := by
  by_cases hregister : ∃ q p, frame = .register q p
  · obtain ⟨q, p, rfl⟩ := hregister
    exact p.advance_loyal hs hx
  · obtain ⟨hact, -⟩ := @Frame.advance_acts thread fresh s frame hp
    obtain ⟨hcounted, henrolling⟩ := spots_ne fun q p h => hregister ⟨q, p, h⟩
    refine ⟨hs.act hact hcounted henrolling, ?_⟩
    cases frame with
    | commands todo done => exact (Script.advance_loyal hs done hx).2
    | register q p => exact absurd ⟨q, p, rfl⟩ hregister
    | callback id p => exact p.advance_loyal hs id
    | processWide p => exact p.advance_loyal hx
    | give | rest => trivial
    | discard g acks => cases acks <;> trivial
    | start q => exact ⟨trivial, trivial⟩
    | bindGuard name g =>
      simp only [advance, Reclaim.bindGuard]
      repeat' split
      all_goals trivial
    | release _ p | drop _ p | shutdown _ p | flush _ _ _ p | worker _ p =>
      cases p <;> simp only [advance, ReleasePoint.advance, endRelease, DropPoint.advance,
        ShutdownPoint.advance, FlushPoint.advance, WorkerPoint.advance, discardNext] <;> repeat' split
      all_goals trivial

/-! ## Systems -/

namespace System

/-- The store is loyal, and so are all frames. -/
structure Loyal (F : Family) (w : System) : Prop where
  store : w.store.Loyal F
  frames : ∀ th ∈ w.threads, ∀ x ∈ th.stack, x.Loyal F w.store

theorem Loyal.occur {w : System} {h : History} (hl : w.Loyal F) (hw : w.Orderly h) {e : Event}
    (he : e.isLoyal F = true) : (w.occur e).Loyal F := by
  obtain ⟨src, dst, hact, -⟩ := hw.occur e
  have hold : ∀ th ∈ w.threads, ∀ x ∈ th.stack, x.Loyal F (w.occur e).store :=
    fun th hth x hx => (hl.frames th hth x hx).extends hact.extends
  have hacting : ∀ t frame, e = .move (.act t) → w.acting? t = some frame → (w.occur e).store.Loyal F ∧
      (frame.advance t w.threads.size w.store).2.Loyal F (w.occur e).store := by
    rintro t frame rfl ht
    obtain ⟨hsub, hoccur, hstore, -⟩ := acts_acting hw.2.spots ht
    obtain ⟨name, rest, out, hth, -⟩ := acting?_eq_some ht
    rw [hoccur, hstore]
    exact Frame.advance_loyal hl.store (fun x hx => hw.2.spots x (hsub hx))
      (hl.frames _ (thread?_mem hth) frame (by simp))
  constructor
  · obtain ⟨t, frame, hturn, ht⟩ | ⟨hidles, -, -⟩ := occur_cases hw.1 e
    · exact (hacting t frame hturn ht).1
    · exact hl.store.act hidles.act (fun _ => (Multiset.singleton_ne_zero _).symm)
        fun _ => (Multiset.singleton_ne_zero _).symm
  · refine forall_stack_occur (P := fun stack => ∀ x ∈ stack, x.Loyal F (w.occur e).store) hold e
      (fun t frame hturn ht => ?_) (fun th hth g patience gate point rest o hstack => ?_) ?_
    · have hp := (hacting t frame hturn ht).2
      refine forall_stack_act (P := fun stack => ∀ x ∈ stack, x.Loyal F (w.occur e).store) hold ht
        (fun th hth rest hstack => ?_) fun name x y hspawn => ?_
      · rw [Thread.stack_progress]
        exact Progress.forall_onto hp.onto
          (fun x hx => hold th hth x (hstack ▸ List.mem_cons_of_mem frame hx)) fun x o hx => hx.receive o
      · rw [hspawn] at hp
        exact List.forall_mem_singleton.mpr hp.1
    · rw [Thread.stack_progress]
      exact Progress.forall_onto (by simp [Progress.onto])
        (fun x hx => hold th hth x (hstack ▸ List.mem_cons_of_mem _ hx)) fun x o hx => hx.receive o
    · rintro name script rfl
      exact List.forall_mem_singleton.mpr he

variable (probes : Array Probe) (environment : Environment) (output : Output)

theorem loyal_boot : (boot probes environment output).Loyal F where
  store := ⟨fun name id _ hin => by simp [boot] at hin, fun id e he => by simp [boot, Store.resource?] at he⟩
  frames th hth := by simp [boot] at hth

/-- If all scripts have been loyal so far, the process is. -/
theorem Loyal.after {w : System} {h : History} (hl : w.Loyal F) (hw : w.Orderly h) {es : List Event}
    (hes : es.all (Event.isLoyal F) = true) : (w.after es).Loyal F := by
  induction es generalizing w h with
  | nil => exact hl
  | cons e es ih =>
    rw [List.all_cons, Bool.and_eq_true] at hes
    exact ih (hl.occur hw hes.1) (hw.step e) hes.2

end System

end Reclaim

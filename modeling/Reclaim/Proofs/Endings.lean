import Reclaim.Proofs.Accounts
import Reclaim.Proofs.Paths

/-!
# How callbacks end

As long as nobody changes what probes fail, it is a matter of the handle alone whether its callback returns
or panics, and at what: of the callback, of its probe, and of the address.

* `Frame.Spared` : a callback that its probe has not failed;
* `Frame.ended_deeds` : how a callback ends;
* `System.Accounts.ended_after` : how all callbacks end while programs run.
-/

namespace Reclaim

theorem Store.ending_later {s : Store} {e e' : Entry} (h : e.Later e') : s.ending e' = s.ending e := by
  simp only [Store.ending, Store.tellProbe_eq, h.callback, h.address]

/-! ## Frames -/

namespace Frame

/-- A callback that goes on after its start has not been failed by its probe, so it ends as it is made to. -/
def Spared (s : Store) : Frame → Prop
  | .callback id (.running _) | .callback id (.ran _ _) =>
    ∃ e, s.resource? id = some e ∧ s.ending e = e.callback.panic
  | _ => True

theorem spared_of_not_inside {x : Frame} (h : x.isInside = false) (s : Store) : x.Spared s := by
  unfold Spared
  split
  · cases h
  · cases h
  · trivial

theorem Spared.later {s s' : Store} {x : Frame} (h : x.Spared s) (hext : s.Extends s')
    (hfailing : s'.failing = s.failing) : x.Spared s' := by
  unfold Spared at h ⊢
  split
  · obtain ⟨e, he, heq⟩ := h
    obtain ⟨e', he', hl⟩ := hext.entry _ e he
    exact ⟨e', he', by rw [Store.ending_later hl, Store.ending_congr hfailing, heq, hl.callback]⟩
  · obtain ⟨e, he, heq⟩ := h
    obtain ⟨e', he', hl⟩ := hext.entry _ e he
    exact ⟨e', he', by rw [Store.ending_later hl, Store.ending_congr hfailing, heq, hl.callback]⟩
  · trivial

theorem Spared.receive {s : Store} {x : Frame} (h : x.Spared s) (o : Outcome) : (x.receive o).Spared s := by
  unfold Frame.receive
  split
  all_goals first
    | exact h
    | trivial

/-- Only a callback goes on as a callback after its start. -/
theorem advance_not_inside {thread fresh : ThreadId} {s : Store} {x : Frame} (hx : x.callback? = none)
    (hspawned : (x.advance thread fresh s).2.spawned = []) :
    ∀ y ∈ (x.advance thread fresh s).2.frames, y.isInside = false := by
  have hcount := advance_inside thread fresh s x
  have hinside : [x].countP isInside = 0 := by
    cases x with
    | callback => cases hx
    | _ => rfl
  have hstarts : x.starts.length = 0 := by
    cases x with
    | callback => cases hx
    | _ => rfl
  rw [hinside, hstarts] at hcount
  have hnone := List.countP_eq_zero.mp (Nat.le_zero.mp hcount)
  generalize (x.advance thread fresh s).2 = p at hnone hspawned
  intro y hy
  cases p with
  | spawn => cases hspawned
  | finish => cases hy
  | goto | call => simpa using hnone y hy

end Frame

namespace CallbackPoint
variable {thread : ThreadId} {s : Store} {id : HandleId} {e : Entry} {p : CallbackPoint}

/-- A callback that starts ends at once, as it has to, or has not been failed by its probe. -/
theorem enter_cases (he : s.resource? id = some e) :
    (∃ o, (enter.advance thread s id).2 = .finish o ∧ o.panic? = s.ending e) ∨
      ((∃ body call, (enter.advance thread s id).2 = .call (.commands body []) (.callback id (running call))) ∧
        s.ending e = e.callback.panic) := by
  have hfails : ((s.beginCall id e thread).1.tellProbe e).2 = (s.tellProbe e).2 := by
    rw [Store.tellProbe_eq, Store.tellProbe_eq]
    rfl
  simp only [advance, he, Store.ending, ← hfails]
  generalize (s.beginCall id e thread).1.tellProbe e = r
  obtain ⟨s', fails⟩ := r
  cases fails
  · cases e.callback.body with
    | none => exact .inl ⟨_, rfl, e.callback.outcome_panic⟩
    | some body => exact .inr ⟨⟨body, _, rfl⟩, rfl⟩
  · exact .inl ⟨_, rfl, rfl⟩

theorem finish_panic {o : Outcome} (he : s.resource? id = some e) (hx : (Frame.callback id p).Spared s)
    (hp : (p.advance thread s id).2 = .finish o) : o.panic? = s.ending e := by
  cases p with
  | enter =>
    obtain ⟨o', ho', heq⟩ | ⟨⟨body, call, hcall⟩, -⟩ := enter_cases he
    · cases ho'.symm.trans hp
      exact heq
    · cases hcall.symm.trans hp
  | running call => cases hp
  | ran call replies =>
    obtain ⟨e', he', heq⟩ := hx
    cases he.symm.trans he'
    simp only [advance, he] at hp
    cases hp
    rw [heq, e.callback.outcome_panic]

theorem advance_spared (he : s.resource? id = some e) (hx : (Frame.callback id p).Spared s) :
    ∀ y ∈ (p.advance thread s id).2.frames, y.Spared s := by
  cases p with
  | enter =>
    obtain ⟨o, ho, -⟩ | ⟨⟨body, call, hcall⟩, heq⟩ := enter_cases he
    · rw [ho]
      exact List.forall_mem_nil _
    · rw [hcall]
      exact List.forall_mem_cons.mpr ⟨trivial, List.forall_mem_singleton.mpr ⟨e, he, heq⟩⟩
  | running call => exact List.forall_mem_singleton.mpr hx
  | ran call replies =>
    simp only [advance, he]
    exact List.forall_mem_nil _

end CallbackPoint

/-- A callback ends as it has to. -/
theorem Frame.ended_deeds {thread fresh : ThreadId} {s : Store} {path path' : Path} {x : Frame}
    {id : HandleId} {panic : Option Panic} {e : Entry} (hx : x.Spared s) (he : s.resource? id = some e)
    (hin : .ended path' id panic ∈ x.deeds s path (x.advance thread fresh s).2) : panic = s.ending e := by
  obtain ⟨-, q, rfl, ⟨heq, -⟩ | ⟨o, ho, heq⟩⟩ := call_deeds hin rfl
  · cases heq
  · cases heq
    exact CallbackPoint.finish_panic he hx ho

/-! ## Runs -/

namespace System
variable {start : Store} {first : HandleId → Nat} {plan : List Deal} {guard : String} {g : GuardId}
  {w : System} {h : History}

/-- No callback under way has been failed by its probe. -/
def Spares (w : System) : Prop := ∀ th ∈ w.threads, ∀ x ∈ th.stack, x.Spared w.store

/-- A callback that is about to go on is of a handle that there is. -/
theorem Orderly.known_of_callback (hw : w.Orderly h) {t : ThreadId} {id : HandleId} {p : CallbackPoint}
    (ht : w.acting? t = some (.callback id p)) (hx : (Frame.callback id p).Spared w.store) :
    ∃ e, w.store.resource? id = some e := by
  cases p with
  | enter => exact hw.2.spots _ ((acts_acting hw.2.spots ht).1 (Multiset.mem_singleton_self (Spot.calling id)))
  | running call | ran call replies => exact hx.imp fun _ he => he.1

theorem Accounts.spares_act (ha : w.Accounts start first plan guard g h)
    (hplan : (plan.filterMap Deal.enrols?).Nodup)
    (hfree : ∀ name ∈ plan.filterMap Deal.enrols?, start.names.handles.lookup name = none)
    (hknown : ∀ name id, (name, id) ∈ start.names.handles → start.Known id)
    (hw : w.Orderly h) (hrg : w.Regular h) (hs : w.Spares) {t : ThreadId} {x : Frame}
    (ht : w.acting? t = some x) : (w.act t).Spares := by
  obtain ⟨name, rest, out, hth, -⟩ := acting?_eq_some ht
  have hp := ha.proceeds hplan hfree hknown hw hrg ht
  have hext := hw.extends_acting ht
  have hx : x.Spared w.store := hs _ (thread?_mem hth) x List.mem_cons_self
  have hlater : ∀ {y : Frame}, y.Spared w.store → y.Spared (w.act t).store := fun hy => by
    rw [act_eq hth]
    exact hy.later hext hp.bides.failing
  have hframes : ∀ y ∈ (x.advance t w.threads.size w.store).2.frames, y.Spared (w.act t).store := by
    intro y hy
    cases hcallback : x.callback? with
    | none => exact Frame.spared_of_not_inside (Frame.advance_not_inside hcallback hp.spawned y hy) _
    | some id =>
      cases x with
      | callback id p =>
        obtain ⟨e, he⟩ := hw.known_of_callback ht hx
        exact hlater (CallbackPoint.advance_spared he hx y hy)
      | _ => cases hcallback
  refine forall_stack_act (P := fun stack => ∀ y ∈ stack, y.Spared (w.act t).store)
    (fun th hth y hy => hlater (hs th hth y hy)) ht (fun th hth rest hstack => ?_) fun name y z heq => ?_
  · exact Thread.forall_frames (hstack ▸ hw.1 th hth) hframes
      (fun y hy => hlater (hs th hth y (hstack ▸ List.mem_cons_of_mem x hy))) fun y hy _ => hy.receive
  · have hspawned := hp.spawned
    rw [heq] at hspawned
    cases hspawned

/-- While programs run, callbacks end as they have to. -/
theorem Accounts.ended_after (ha : w.Accounts start first plan guard g h)
    (hplan : (plan.filterMap Deal.enrols?).Nodup)
    (hfree : ∀ name ∈ plan.filterMap Deal.enrols?, start.names.handles.lookup name = none)
    (hknown : ∀ name id, (name, id) ∈ start.names.handles → start.Known id)
    (hw : w.Orderly h) (hrg : w.Regular h) (hs : w.Spares) (moves : List Move) :
    (w.after (moves.map .move)).Spares ∧ ∀ path id panic, .ended path id panic ∈ w.trace (moves.map .move) →
      ∃ e, (w.after (moves.map .move)).store.resource? id = some e ∧ panic = start.ending e := by
  induction moves generalizing w h with
  | nil => exact ⟨hs, fun _ _ _ hin => by cases hin⟩
  | cons m moves ih =>
    have hstep : (w.occur (.move m)).Spares ∧ ∀ path id panic, .ended path id panic ∈ w.deeds (.move m) →
        ∃ e, w.store.resource? id = some e ∧ panic = w.store.ending e := by
      cases m with
      | act t =>
        simp only [deeds]
        cases ht : w.acting? t with
        | none =>
          rw [occur_not_acting ht]
          exact ⟨hs, fun _ _ _ hin => by cases hin⟩
        | some x =>
          rw [occur_acting ht]
          refine ⟨ha.spares_act hplan hfree hknown hw hrg hs ht, fun path id panic hin => ?_⟩
          obtain ⟨name, rest, out, hth, -⟩ := acting?_eq_some ht
          have hx : x.Spared w.store := hs _ (thread?_mem hth) x List.mem_cons_self
          obtain ⟨-, q, rfl, -⟩ := Frame.call_deeds hin rfl
          obtain ⟨e, he⟩ := hw.known_of_callback ht hx
          exact ⟨e, he, Frame.ended_deeds hx he hin⟩
      | expire t =>
        refine ⟨?_, fun _ _ _ hin => by cases hin⟩
        cases hm : w.move? (.expire t) with
        | none => rwa [System.occur, hm]
        | some w' =>
          rw [System.occur, hm]
          have hstore := (spots_expire hw.1 hm).1
          refine forall_stack_expire (P := fun stack => ∀ y ∈ stack, y.Spared w'.store) (hstore ▸ hs) hm
            fun th hth _ _ _ _ rest o hstack => ?_
          exact Thread.forall_frames (hstack ▸ hw.1 th hth) (List.forall_mem_nil _)
            (fun y hy => hstore ▸ hs th hth y (hstack ▸ List.mem_cons_of_mem _ hy)) fun y hy _ => hy.receive
    obtain ⟨hocc, -⟩ := ha.occur hplan hfree hknown hw hrg m
    obtain ⟨hspares, hended⟩ := ih hocc (hw.step _) (hrg.step hw _) hstep.1
    refine ⟨hspares, fun path id panic hin => ?_⟩
    rw [List.map_cons, trace] at hin
    rcases List.mem_append.mp hin with hnow | hlater
    · obtain ⟨e, he, heq⟩ := hstep.2 path id panic hnow
      obtain ⟨e', he', hl⟩ := (extends_after hw ((m :: moves).map .move)).entry id e he
      exact ⟨e', he', by rw [heq, Store.ending_congr ha.failing, Store.ending_later hl]⟩
    · exact hended path id panic hlater

end System

end Reclaim

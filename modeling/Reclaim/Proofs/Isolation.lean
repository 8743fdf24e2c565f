import Reclaim.Proofs.Company

/-!
# Guards are isolated

What becomes of a guard depends on its own affairs only: on what is done at it and to its handles, and on what is
put into its source. Step by step, a process keeps in company with the one where the guard is alone and to which
nothing but those affairs happens.

* `Begun`, `Command.begun` : how commands start in company and alone;
* `Ensues`, `Errands.ensues` : what a step of a thread leaves in company and alone;
* `System.Alone`, `System.Alone.happens`, `System.Alone.ensue` : one happening, and a whole run;
* `Standing`, `Store.standing` : all that there is to say of a guard, whatever numbers its handles have;
* `Run.standing_eq` : a guard is what its affairs make of it where it is alone;
* `Run.Isolates`, `Run.guards_isolated` : guards are isolated.

Two guards with the same affairs are the same, since both are what these affairs make of a guard alone. Handles of
other guards come in twice. Through a guard they may be released, which is the affair of their own guard and of no
other. And their numbers may be put into its source, where all of them are one: that of no handle, which the worker
discards.
-/

namespace Reclaim

/-! ## Affairs -/

section Affairs
variable {os : List GuardId} {g g' : GuardId} {id : HandleId}

theorem affairsAt_self (affairs : List Affair) : affairsAt g (.ok g) affairs = affairs := if_pos rfl

theorem affairsAt_other (hne : g' ≠ g) (affairs : List Affair) : affairsAt g (.ok g') affairs = [] := if_neg hne

theorem affairsAt_error (what : Missing) (affairs : List Affair) : affairsAt g (.error what) affairs = [] := rfl

theorem affairsOf_error (what : Missing) (affair : HandleId → Affair) : affairsOf os g (.error what) affair = [] := rfl

theorem affairsOf_own (h : ownerIn os id = some g) (affair : HandleId → Affair) :
    affairsOf os g (.ok id) affair = [affair (rankIn os g id)] := if_pos h

theorem affairsOf_other (h : ownerIn os id ≠ some g) (affair : HandleId → Affair) :
    affairsOf os g (.ok id) affair = [] := if_neg h

end Affairs

/-! ## Commands -/

/-- How a command starts, and what it means for the guard alone. -/
inductive Begun (c : Census) (a : Solo) (t : ThreadId) : Store × Begin → Solo → Prop
  | reply {s store : Store} (r : Reply) : s.Alone c store → Begun c a t (s, .reply r) { a with store }
  | elsewhere {s store : Store} {x : Frame} : s.Alone c store → x.Foreign c →
      Begun c a t (s, .operation x) { a with store }
  | here {s store : Store} {x x' : Frame} : s.Alone c store → x.Alone c x' →
      Begun c a t (s, .operation x) (({ a with store } : Solo).begin (c.label t) x')

/-- The affairs with the names of threads that they have where the guard is alone. -/
def Census.told (c : Census) (affairs : List Affair) : List Affair := affairs.map (Affair.relabel c.label)

section Commands
variable {c : Census} {s : Store} {a : Solo} (h : s.Alone c a.store)
include h

/-- A command that starts an operation at a guard. -/
theorem Begun.at {g : GuardId} {t : ThreadId} {x x' : Frame} {affair : Affair}
    (hx : g ≠ c.guard → x.Foreign c) (hx' : g = c.guard → x.Alone c x')
    (hmeet : a.meet (affair.relabel c.label) = a.begin (c.label t) x') :
    Begun c a t (s, .operation x) (a.after (c.told (affairsAt c.guard (.ok g) [affair]))) := by
  by_cases hg : g = c.guard
  · rw [hg, affairsAt_self]
    show Begun c a t _ (a.meet (affair.relabel c.label))
    rw [hmeet]
    exact .here h (hx' hg)
  · rw [affairsAt_other hg]
    exact .elsewhere h (hx hg)

omit h in
/-- A command that does something to a guard at once. -/
theorem Begun.doing {g : GuardId} {t : ThreadId} {b : Begin} {s' store : Store} {affair : Affair}
    (hb : ∀ {s store}, s.Alone c store → Begun c a t (s, b) { a with store })
    (hs : g = c.guard → s'.Alone c store) (hs' : g ≠ c.guard → s'.Alone c a.store)
    (hmeet : a.meet (affair.relabel c.label) = { a with store }) :
    Begun c a t (s', b) (a.after (c.told (affairsAt c.guard (.ok g) [affair]))) := by
  by_cases hg : g = c.guard
  · rw [hg, affairsAt_self]
    show Begun c a t _ (a.meet (affair.relabel c.label))
    rw [hmeet]
    exact hb (hs hg)
  · rw [affairsAt_other hg]
    exact hb (hs' hg)

/-- A command that interrupts the source of a guard. -/
theorem Begun.interrupt (g : GuardId) (t : ThreadId) :
    Begun c a t ((s.interrupt g).1, .operation (.discard g (s.interrupt g).2))
      (a.after (c.told (affairsAt c.guard (.ok g) [.interrupt t]))) := by
  by_cases hg : g = c.guard
  · subst hg
    rw [affairsAt_self]
    exact .here h.interrupt.1 (.discard h.interrupt.2)
  · rw [affairsAt_other hg]
    exact .elsewhere (h.interrupt_other hg).1 ⟨hg, (h.interrupt_other hg).2⟩

/-- A call to release a handle, through whichever guard. -/
theorem Begun.release (id : HandleId) (t : ThreadId) : Begun c a t (s.beginUse id, .operation (.release id .retire))
    (a.after (c.told (affairsOf c.owners c.guard (.ok id) (.release t)))) := by
  by_cases hid : c.owns id
  · rw [affairsOf_own hid]
    have hs : (s.beginUse id).Alone c (a.store.beginUse (c.rank id)) :=
      h.modifyEntry (fun _ => rfl) (fun _ => rfl) hid fun _ => rfl
    exact .here hs (.release (fun hne => by cases hne) hid)
  · rw [affairsOf_other hid]
    have hs : (s.beginUse id).Alone c a.store := h.modifyEntry_other (fun _ => rfl) (fun _ => rfl) hid
    exact .elsewhere hs hid

/-- A share of a handle is given up, and with the last one the handle is dropped. -/
theorem Begun.drop (id : HandleId) (t : ThreadId) (r : Reply) :
    Begun c a t ((s.dropShare id).1, if (s.dropShare id).2 then .operation (.drop id .check) else .reply r)
      (a.after (c.told (affairsOf c.owners c.guard (.ok id) (.drop t)))) := by
  by_cases hid : c.owns id
  · rw [affairsOf_own hid]
    show Begun c a t _ (a.giveUp (c.label t) (c.rank id))
    have hm := h.dropShare hid
    rw [Solo.giveUp]
    generalize s.dropShare id = p, a.store.dropShare (c.rank id) = p' at hm
    cases hm with
    | intro last hs =>
      cases last with
      | true => exact .here hs (.drop .check hid)
      | false => exact .reply _ hs
  · rw [affairsOf_other hid]
    have hs := h.dropShare_other hid
    generalize s.dropShare id = p at hs
    obtain ⟨s₁, last⟩ := p
    cases last with
    | true => exact .elsewhere hs hid
    | false => exact .reply _ hs

/-- A guard is let go, and shut down unless it is the process-wide one. -/
theorem Begun.letGo (g : GuardId) (t : ThreadId) (r : Reply) :
    Begun c a t (s, if s.isProcessWide g then .reply r else .operation (.shutdown g .interrupt))
      (a.after (c.told (if s.isProcessWide c.guard then [] else affairsAt c.guard (.ok g) [.shutdown t]))) := by
  by_cases hg : g = c.guard
  · subst hg
    split
    · exact .reply _ h
    · exact Begun.at h (fun hne => ⟨hne, trivial⟩) (fun _ => .shutdown .interrupt) rfl
  · rw [affairsAt_other hg, ite_self]
    split
    · exact .reply _ h
    · exact .elsewhere h ⟨hg, trivial⟩

/-- A command starts in company as the affairs it means for the guard start alone. -/
theorem Command.begun {k : Command} (hk : k.IsDiscreet) (t : ThreadId) :
    Begun c a t (k.begin s) (a.after (c.told (k.affairs c.owners s c.guard t))) := by
  cases k with
  | register target handle r =>
    cases target with
    | processWide => exact .elsewhere h hk
    | guard guard =>
      rw [begin, begin?, affairs]
      cases s.guardNamed guard with
      | error what => exact .reply _ h
      | ok g =>
        refine Begun.at h (fun hne => ⟨hk, hne⟩) ?_ rfl
        rintro rfl
        exact .register hk .allocate
  | acquire guard handle r =>
    rw [begin, begin?, affairs]
    cases s.guardNamed guard with
    | error what => exact .reply _ h
    | ok g =>
      refine Begun.at h (fun hne => ⟨hk, hne⟩) ?_ rfl
      rintro rfl
      exact .register hk .allocate
  | release handle via =>
    rw [begin, begin?, affairs]
    cases s.handleNamed handle with
    | error what =>
      rw [affairsOf_error, ite_self]
      exact .reply _ h
    | ok id =>
      cases via with
      | none => exact Begun.release h id t
      | some guard =>
        have hall : (some guard).all (fun guard => (s.guardNamed guard).isOk) = (s.guardNamed guard).isOk := rfl
        rw [hall]
        simp only [bind, Except.bind, pure, Except.pure]
        cases s.guardNamed guard with
        | error what => exact .reply _ h
        | ok g => exact Begun.release h id t
  | drop handle =>
    rw [begin, begin?, affairs]
    cases s.handleNamed handle with
    | error what => exact .reply _ h
    | ok id =>
      simp only [bind, Except.bind]
      have hbegun := Begun.drop h id t .done
      generalize s.dropShare id = p at hbegun ⊢
      obtain ⟨s₁, last⟩ := p
      cases last <;> exact hbegun
  | inject guard handle =>
    rw [begin, begin?, affairs]
    cases s.sourceNamed guard with
    | error what => cases s.idNamed handle <;> exact .reply _ h
    | ok g =>
      cases s.idNamed handle with
      | error what => exact .reply _ h
      | ok id =>
        refine Begun.doing (.reply _) ?_ ?_
          (show a.meet _ = { a with store := (a.store.enqueue 0 (.reclaim (c.rank id))).1 } from rfl)
        · rintro rfl
          exact (h.enqueue (.reclaim id)).store
        · exact fun hne => h.enqueue_other hne (i := .reclaim id) trivial
  | flush guard patience gate =>
    rw [begin, begin?, affairs]
    cases flushGuard s guard gate with
    | error what => exact .reply _ h
    | ok g =>
      refine Begun.at h (fun hne => ⟨hne, trivial⟩) ?_ rfl
      rintro rfl
      exact .flush patience gate .checkStopped
  | letThrough guard n =>
    rw [begin, begin?, affairs]
    cases s.sourceNamed guard with
    | error what => exact .reply _ h
    | ok g =>
      refine Begun.doing (fun hs => .elsewhere hs trivial) ?_ ?_ rfl
      · rintro rfl
        rw [h.pendingAt]
        exact h.permit _
      · exact fun hne => h.permit_other hne _
  | interrupt guard =>
    rw [begin, begin?, affairs]
    cases s.sourceNamed guard with
    | error what => exact .reply _ h
    | ok g => exact Begun.interrupt h g t
  | shutdown guard =>
    rw [begin, begin?, affairs]
    cases s.guardNamed guard with
    | error what => exact .reply _ h
    | ok g =>
      refine Begun.at h (fun hne => ⟨hne, trivial⟩) ?_ rfl
      rintro rfl
      exact .shutdown .interrupt
  | startGuard guard setup kind panicsAt =>
    rw [begin, begin?]
    cases setup.config s.environment guard with
    | error e => exact .reply _ h
    | ok config => exact .elsewhere h trivial
  | dropGuard guard =>
    rw [begin, begin?, affairs]
    cases s.guardNamed guard with
    | error what =>
      rw [affairsAt_error, ite_self]
      exact .reply _ h
    | ok g =>
      have hs : (s.forgetGuard guard).Alone c a.store := { h with }
      have hbegun := Begun.letGo hs g t .done
      simp only [bind, Except.bind, pure, Except.pure]
      by_cases hwide : (s.forgetGuard guard).isProcessWide g
      · rw [if_pos hwide] at hbegun ⊢
        exact hbegun
      · rw [if_neg hwide] at hbegun ⊢
        exact hbegun
  | choose recorder setup =>
    rw [begin, begin?]
    cases setup.config s.environment recorder with
    | error e => exact .reply _ h
    | ok config =>
      simp only [Store.choose]
      cases s.processWide.running with
      | some g => exact .reply _ h
      | none => exact .reply _ { h with }
  | processWide guard insists => exact .elsewhere h trivial
  | setEnvironment environment => exact .reply _ { h with }
  | failOn address => exact .reply _ (h.failOn address)
  | ask query => exact .reply _ h

end Commands

/-! ## Threads -/

/-- What a step of a thread leaves in company, and what it leaves alone: the store, what the thread has under way,
and what a thread has that starts with the step. -/
structure Ensues (c : Census) (a : Solo) (t fresh : ThreadId) (xs : List Frame) (r : Store × Progress) (a' : Solo) :
    Prop where
  store : r.1.Alone c a'.store
  self : Errands c (r.2.onto xs) (a'.errands (c.label t))
  started : Errands c (r.2.spawned.flatMap Thread.stack) (a'.errands (c.label fresh))
  others : ∀ u, u ≠ t → u ≠ fresh → a'.errands (c.label u) = a.errands (c.label u)

theorem Solo.act_eq {a : Solo} {t : ThreadId} {x : Frame} {xs : List Frame} (h : a.errands t = x :: xs) :
    a.act t = ⟨(x.advance t 0 a.store).1,
      Function.update a.errands t (((x.advance t 0 a.store).2.onto xs).filter Frame.isErrand)⟩ := by
  rw [act, h]

theorem SourceKind.source_fresh (kind : SourceKind) (panicsAt : Option Nat) :
    (kind.source panicsAt).queue.items = [] ∧ (kind.source panicsAt).delivered = [] := by
  cases kind <;> exact ⟨rfl, rfl⟩

section Threads
variable {c : Census} {s : Store} {a : Solo} {t fresh : ThreadId} {xs : List Frame}

theorem Frame.Alone.affairs {x x' : Frame} (hx : x.Alone c x') : x.affairs c.owners s c.guard t fresh = [.act t] := by
  have hc := hx.concerns
  cases hx with
  | register hr hp => cases hp <;> exact if_pos hc
  | _ => exact if_pos hc

theorem Errands.eq_nil {xs' : List Frame} (h : Errands c [] xs') : xs' = [] := by
  cases h with
  | elsewhere => rfl

/-- A step that has no thread start. -/
theorem Ensues.of_act {store : Store} {r : Store × Progress} {es : List Frame} (hne : fresh ≠ t)
    (hfresh : a.errands (c.label fresh) = []) (hspawned : r.2.spawned = []) (hs : r.1.Alone c store)
    (hself : Errands c (r.2.onto xs) es) :
    Ensues c a t fresh xs r ⟨store, Function.update a.errands (c.label t) es⟩ where
  store := hs
  self := by
    show Errands c _ (Function.update a.errands (c.label t) es (c.label t))
    rw [Function.update_self]
    exact hself
  started := by
    show Errands c _ (Function.update a.errands (c.label t) es (c.label fresh))
    rw [hspawned, Function.update_of_ne (c.label.injective.ne hne), hfresh]
    exact .elsewhere (List.forall_mem_nil _)
  others u hu _ := Function.update_of_ne (c.label.injective.ne hu) ..

/-- A step that is none of the guard's, but may do something to it. -/
theorem Ensues.of_elsewhere {store : Store} {s₁ : Store} {p : Progress} (hfresh : a.errands (c.label fresh) = [])
    (hself : a.errands (c.label t) = []) (hs : s₁.Alone c store) (hp : p.Foreign c) (hxs : ∀ x ∈ xs, x.Foreign c) :
    Ensues c a t fresh xs (s₁, p) { a with store } where
  store := hs
  self := by
    show Errands c (p.onto xs) (a.errands (c.label t))
    rw [hself]
    exact .elsewhere (hp.onto hxs)
  started := by
    show Errands c (p.spawned.flatMap Thread.stack) (a.errands (c.label fresh))
    have hspawned : p.spawned = [] := by
      cases p with
      | spawn name x y => exact hp.elim
      | _ => rfl
    rw [hspawned, hfresh]
    exact .elsewhere (List.forall_mem_nil _)
  others _ _ _ := rfl

/-- A step that begins an operation at the guard. -/
theorem Ensues.of_begin {store : Store} {s₁ : Store} {p : Progress} {x x' : Frame} {ys : List Frame}
    (hne : fresh ≠ t) (hfresh : a.errands (c.label fresh) = []) (hspawned : p.spawned = []) (hs : s₁.Alone c store)
    (hx : x.Alone c x') (honto : p.onto xs = x :: ys) (hys : ∀ y ∈ ys, y.Foreign c) :
    Ensues c a t fresh xs (s₁, p) (({ a with store } : Solo).begin (c.label t) x') :=
  .of_act hne hfresh hspawned hs (honto ▸ .here hx hys)

variable (h : s.Alone c a.store) (hne : fresh ≠ t) (hfresh : a.errands (c.label fresh) = [])
include h hne hfresh

/-- A step of an operation at the guard. -/
theorem Frame.Alone.ensues {x x' : Frame} (hx : x.Alone c x') (hxs : ∀ y ∈ xs, y.Foreign c)
    (hself : a.errands (c.label t) = [x']) (howners : (x.advance t fresh s).1.owners <+: c.owners) :
    ∃ c', c.Grows c' ∧ Ensues c' a t fresh xs (x.advance t fresh s)
      (a.after (c.told (x.affairs c.owners s c.guard t fresh))) := by
  obtain ⟨hg, hs, hp⟩ := hx.advance h t fresh 0 howners
  have honto := hp.onto fun y hy => (hxs y hy).mono hg
  have hspawned : (x.advance t fresh s).2.spawned = [] := by
    generalize (x.advance t fresh s).2 = p, (x'.advance (c.label t) 0 a.store).2 = p' at hp
    cases hp <;> rfl
  refine ⟨_, hg, ?_⟩
  rw [hx.affairs]
  show Ensues _ a t fresh xs _ (a.act (c.label t))
  rw [Solo.act_eq hself]
  obtain ⟨-⟩ := hg
  exact .of_act hne hfresh hspawned hs honto

omit h in
/-- A step of a callback, or of its commands. -/
theorem Ensued.ensues {x' : Frame} {xs' : List Frame} {r : Store × Progress}
    (hr : Ensued c r xs (x'.advance (c.label t) 0 a.store) xs') (hself : a.errands (c.label t) = x' :: xs') :
    ∃ c', c.Grows c' ∧ Ensues c' a t fresh xs r (a.after (c.told [.act t])) := by
  obtain ⟨hg, hs, hstack, hspawned⟩ := hr
  refine ⟨_, hg, ?_⟩
  show Ensues _ a t fresh xs _ (a.act (c.label t))
  rw [Solo.act_eq hself]
  obtain ⟨-⟩ := hg
  exact .of_act hne hfresh hspawned hs hstack

omit h hne in
/-- A step elsewhere. -/
theorem Elsewhere.ensues {r : Store × Progress} (hr : Elsewhere c r a.store) (hxs : ∀ y ∈ xs, y.Foreign c)
    (hself : a.errands (c.label t) = []) : ∃ c', c.Grows c' ∧ Ensues c' a t fresh xs r a := by
  obtain ⟨s₁, p⟩ := r
  obtain ⟨hg, hs, hp⟩ := hr
  have hxs := fun y hy => (hxs y hy).mono hg
  refine ⟨_, hg, ?_⟩
  obtain ⟨-⟩ := hg
  exact .of_elsewhere hfresh hself hs hp hxs

omit h hne in
/-- What is answered at once goes on with the answer. -/
theorem Begun.ensues_reply {s₁ : Store} {r : Reply} {a' : Solo} {p : Progress} (hb : Begun c a t (s₁, .reply r) a')
    (hp : p.Foreign c) (hxs : ∀ y ∈ xs, y.Foreign c) (hself : a.errands (c.label t) = []) :
    Ensues c a t fresh xs (s₁, p) a' := by
  cases hb with
  | reply _ hs => exact .of_elsewhere hfresh hself hs hp hxs

omit h in
/-- What starts an operation goes on when that is over. -/
theorem Begun.ensues_operation {s₁ : Store} {x y : Frame} {a' : Solo} (hb : Begun c a t (s₁, .operation x) a')
    (hy : y.Foreign c) (hxs : ∀ y ∈ xs, y.Foreign c) (hself : a.errands (c.label t) = []) :
    Ensues c a t fresh xs (s₁, .call x y) a' := by
  cases hb with
  | elsewhere hs hx => exact .of_elsewhere hfresh hself hs ⟨hx, hy⟩ hxs
  | here hs hx => exact .of_begin hne hfresh rfl hs hx rfl (List.forall_mem_cons.mpr ⟨hy, hxs⟩)

/-- A script goes on. -/
theorem Script.ensues {todo : List Command} (hx : ∀ k ∈ todo, k.IsDiscreet) (done : List Reply)
    (hxs : ∀ y ∈ xs, y.Foreign c) (hself : a.errands (c.label t) = []) :
    Ensues c a t fresh xs (Script.advance s todo done)
      (a.after (c.told ((Frame.commands todo done).affairs c.owners s c.guard t fresh))) := by
  cases todo with
  | nil => exact .of_elsewhere hfresh hself h trivial hxs
  | cons k todo =>
    obtain ⟨hk, htodo⟩ := List.forall_mem_cons.mp hx
    have hbegun := Command.begun h hk t
    rw [Script.advance, Frame.affairs]
    generalize k.begin s = r at hbegun
    obtain ⟨s₁, b⟩ := r
    cases b with
    | reply r => exact hbegun.ensues_reply hfresh htodo hxs hself
    | operation x => exact hbegun.ensues_operation hne hfresh htodo hxs hself

/-- A handle goes into its variable, and the one that was there is dropped. -/
theorem RegisterPoint.ensues_bind {q : RegisterRequest} (hr : q.registration.IsDiscreet) (id : HandleId)
    (hxs : ∀ y ∈ xs, y.Foreign c) (hself : a.errands (c.label t) = []) :
    Ensues c a t fresh xs ((RegisterPoint.bind id).advance s q)
      (a.after (c.told ((Frame.register q (.bind id)).affairs c.owners s c.guard t fresh))) := by
  have hbound : (s.bindHandle q.handle id).Alone c a.store := { h with }
  rw [RegisterPoint.advance, Frame.affairs]
  cases s.handleNamed q.handle with
  | error what => exact .of_elsewhere hfresh hself hbound ⟨hr, trivial⟩ hxs
  | ok old =>
    have hbegun := Begun.drop hbound old t .done
    simp only
    generalize (s.bindHandle q.handle id).dropShare old = r at hbegun ⊢
    obtain ⟨s₁, last⟩ := r
    cases last with
    | true => exact hbegun.ensues_operation hne hfresh ⟨hr, trivial⟩ hxs hself
    | false => exact hbegun.ensues_reply hfresh ⟨hr, trivial⟩ hxs hself

/-- A guard goes into a variable, and the one that was there is shut down. -/
theorem bindGuard_ensues (name : String) (g : GuardId) (hxs : ∀ y ∈ xs, y.Foreign c)
    (hself : a.errands (c.label t) = []) :
    Ensues c a t fresh xs (bindGuard s name g)
      (a.after (c.told ((Frame.bindGuard name g).affairs c.owners s c.guard t fresh))) := by
  have hbound : (s.bindGuard name g).Alone c a.store := { h with }
  rw [bindGuard, Frame.affairs]
  cases s.guardNamed name with
  | error what =>
    rw [affairsAt_error, ite_self]
    exact .of_elsewhere hfresh hself hbound trivial hxs
  | ok old =>
    have hbegun := Begun.letGo hbound old t .done
    simp only
    split
    · rw [if_pos ‹_›] at hbegun
      exact hbegun.ensues_reply hfresh trivial hxs hself
    · rw [if_neg ‹_›] at hbegun
      exact hbegun.ensues_operation hne hfresh trivial hxs hself

/-- A guard starts, with its worker on a new thread; the thread that starts it goes on with something else. -/
theorem Ensues.of_start (config : Config) (source : Source) (hitems : source.queue.items = [])
    (hdelivered : source.delivered = []) (name : ThreadName) {y : Frame} (hy : y.Foreign c)
    (hxs : ∀ y ∈ xs, y.Foreign c) (hself : a.errands (c.label t) = []) :
    Ensues c a t fresh xs ((s.addGuard config source fresh).1, .spawn name (.worker s.guards.size .starting) y)
      (a.after (c.told (if s.guards.size = c.guard then [.start config source fresh] else []))) := by
  have hrest : ∀ x ∈ y :: xs, x.Foreign c := List.forall_mem_cons.mpr ⟨hy, hxs⟩
  split
  · next hsize =>
    have hs := h.addGuard config hitems fresh hsize hdelivered
    refine ⟨hs, ?_, ?_, fun u _ hu => Function.update_of_ne (c.label.injective.ne hu) ..⟩
    · show Errands c (y :: xs) (Function.update a.errands (c.label fresh) _ (c.label t))
      rw [Function.update_of_ne (c.label.injective.ne hne.symm), hself]
      exact .elsewhere hrest
    · show Errands c [.worker s.guards.size .starting]
        (Function.update a.errands (c.label fresh) [.worker 0 .starting] (c.label fresh))
      rw [Function.update_self, hsize]
      exact .here (.worker .starting) (List.forall_mem_nil _)
  · next hsize =>
    have hs := h.addGuard_other config hitems fresh hsize
    refine ⟨hs, ?_, ?_, fun _ _ _ => rfl⟩
    · show Errands c (y :: xs) (a.errands (c.label t))
      rw [hself]
      exact .elsewhere hrest
    · show Errands c [.worker s.guards.size .starting] (a.errands (c.label fresh))
      rw [hfresh]
      exact .elsewhere fun x hx => by
        rw [List.mem_singleton.mp hx]
        exact ⟨hsize, trivial⟩

omit hfresh in
/-- The guard starts, and the thread that starts it goes on with an operation at it. -/
theorem Ensues.of_start_begin (config : Config) (source : Source) (hitems : source.queue.items = [])
    (hdelivered : source.delivered = []) (name : ThreadName) (hsize : s.guards.size = c.guard) {x x' : Frame}
    (hx : x.Alone c x') (hxs : ∀ y ∈ xs, y.Foreign c) :
    Ensues c a t fresh xs ((s.addGuard config source fresh).1, .spawn name (.worker s.guards.size .starting) x)
      ((a.meet (.start config source (c.label fresh))).begin (c.label t) x') where
  store := h.addGuard config hitems fresh hsize hdelivered
  self := by
    show Errands c (x :: xs) (Function.update (Function.update a.errands (c.label fresh) [.worker 0 .starting])
      (c.label t) [x'] (c.label t))
    rw [Function.update_self]
    exact .here hx hxs
  started := by
    show Errands c [.worker s.guards.size .starting] (Function.update (Function.update a.errands (c.label fresh)
      [.worker 0 .starting]) (c.label t) [x'] (c.label fresh))
    rw [Function.update_of_ne (c.label.injective.ne hne), Function.update_self, hsize]
    exact .here (.worker .starting) (List.forall_mem_nil _)
  others u ht hu := by
    show Function.update (Function.update a.errands (c.label fresh) _) (c.label t) _ (c.label u) = _
    rw [Function.update_of_ne (c.label.injective.ne ht), Function.update_of_ne (c.label.injective.ne hu)]

/-- The process-wide guard is wanted. -/
theorem Purpose.ensues {p : Purpose} (hp : p.IsDiscreet) (hxs : ∀ y ∈ xs, y.Foreign c)
    (hself : a.errands (c.label t) = []) :
    Ensues c a t fresh xs (p.advance fresh s)
      (a.after (c.told ((Frame.processWide p).affairs c.owners s c.guard t fresh))) := by
  rw [Purpose.advance, Frame.affairs]
  cases s.processWide.running with
  | some g =>
    cases p with
    | bind name insists =>
      simp only [Purpose.affairs, ite_self]
      exact .of_elsewhere hfresh hself h trivial hxs
    | register handle r =>
      simp only
      split
      · next hg =>
        subst hg
        exact .of_begin hne hfresh rfl h (.register hp .allocate) rfl hxs
      · next hg => exact .of_elsewhere hfresh hself h ⟨hp, hg⟩ hxs
  | none =>
    cases s.processWideConfig with
    | error e => exact .of_elsewhere hfresh hself h trivial hxs
    | ok config =>
      cases p with
      | bind name insists =>
        have hstart := Ensues.of_start h hne hfresh config .plain rfl rfl
          (.worker config.threadName?) (y := .bindGuard name s.guards.size) trivial hxs hself
        exact ⟨{ hstart.store with }, hstart.self, hstart.started, hstart.others⟩
      | register handle r =>
        by_cases hsize : s.guards.size = c.guard
        · have hx : Frame.Alone c (.register ⟨s.guards.size, handle, r, false⟩ .allocate)
              (.register ⟨0, "", r, false⟩ .allocate) := hsize ▸ .register hp .allocate
          have hstart := Ensues.of_start_begin h hne config .plain rfl rfl (.worker config.threadName?) hsize hx hxs
          simp only [if_pos hsize]
          exact ⟨{ hstart.store with }, hstart.self, hstart.started, hstart.others⟩
        · have hstart := Ensues.of_start h hne hfresh config .plain rfl rfl
            (.worker config.threadName?) (y := .register ⟨s.guards.size, handle, r, false⟩ .allocate) ⟨hp, hsize⟩
            hxs hself
          simp only [if_neg hsize] at hstart ⊢
          exact ⟨{ hstart.store with }, hstart.self, hstart.started, hstart.others⟩

/-- A step that is not at the guard. -/
theorem Frame.Foreign.ensues {x : Frame} (hx : x.Foreign c) (hxs : ∀ y ∈ xs, y.Foreign c)
    (hself : a.errands (c.label t) = []) (howners : (x.advance t fresh s).1.owners <+: c.owners) :
    ∃ c', c.Grows c' ∧ Ensues c' a t fresh xs (x.advance t fresh s)
      (a.after (c.told (x.affairs c.owners s c.guard t fresh))) := by
  have same {r : Store × Progress} {a' : Solo} (hr : Ensues c a t fresh xs r a') :
      ∃ c', c.Grows c' ∧ Ensues c' a t fresh xs r a' := ⟨c, .refl c, hr⟩
  have hc := hx.concerns
  -- what has nothing to do with the guard is none of its affairs
  have apart (hr : Elsewhere c (x.advance t fresh s) a.store)
      (hnone : x.affairs c.owners s c.guard t fresh = if x.concerns c.owners c.guard then [.act t] else []) :
      ∃ c', c.Grows c' ∧ Ensues c' a t fresh xs (x.advance t fresh s)
        (a.after (c.told (x.affairs c.owners s c.guard t fresh))) := by
    rw [hnone, hc]
    exact hr.ensues hfresh hxs hself
  cases x with
  | commands todo done => exact same (Script.ensues h hne hfresh hx done hxs hself)
  | give o => exact apart (.same h trivial) rfl
  | rest g reply => exact apart (.same h trivial) rfl
  | register q p =>
    cases p with
    | bind id => exact same (RegisterPoint.ensues_bind h hne hfresh hx.1 id hxs hself)
    | allocate => exact apart (RegisterPoint.elsewhere h hx (fun _ hne => by cases hne) howners) rfl
    | track id => exact apart (RegisterPoint.elsewhere h hx (fun _ hne => by cases hne) howners) rfl
    | count id => exact apart (RegisterPoint.elsewhere h hx (fun _ hne => by cases hne) howners) rfl
    | dropping id => exact apart (RegisterPoint.elsewhere h hx (fun _ hne => by cases hne) howners) rfl
    | report id => exact apart (RegisterPoint.elsewhere h hx (fun _ hne => by cases hne) howners) rfl
  | release id p => exact apart (ReleasePoint.elsewhere h p hx) rfl
  | callback id p => exact apart (CallbackPoint.elsewhere h hx.1 hx.2 t) rfl
  | drop id p => exact apart (DropPoint.elsewhere h p hx) rfl
  | flush g patience gate p => exact apart (FlushPoint.elsewhere h patience gate hx.1 hx.2) rfl
  | discard g ks => exact apart (discardNext_elsewhere h hx.2 (fun _ hks => ⟨hx.1, hks⟩) trivial) rfl
  | shutdown g p => exact apart (ShutdownPoint.elsewhere h hx.1 hx.2 t) rfl
  | start q =>
    obtain ⟨hitems, hdelivered⟩ := q.kind.source_fresh q.panicsAt
    exact same (Ensues.of_start h hne hfresh q.config _ hitems hdelivered _ trivial hxs hself)
  | bindGuard name g => exact same (bindGuard_ensues h hne hfresh name g hxs hself)
  | processWide p => exact same (Purpose.ensues h hne hfresh hx hxs hself)
  | worker g p => exact apart (WorkerPoint.elsewhere h hx.1 hx.2) rfl

omit h hne hfresh in
/-- No frame that is elsewhere is above a callback of one of the guard's handles. -/
theorem not_amidCallback (hxs : ∀ x ∈ xs, x.Foreign c) : amidCallback c.owners c.guard xs = false := by
  unfold amidCallback
  split
  · next todo done id p ys =>
    have hcallback := hxs (.callback id p) (List.mem_cons_of_mem _ List.mem_cons_self)
    exact beq_eq_false_iff_ne.mpr hcallback.1
  · rfl

/-- A step of a thread. -/
theorem Errands.ensues {x : Frame} (hstack : Errands c (x :: xs) (a.errands (c.label t)))
    (howners : (x.advance t fresh s).1.owners <+: c.owners) :
    ∃ c', c.Grows c' ∧ Ensues c' a t fresh xs (x.advance t fresh s)
      (a.after (c.told (if amidCallback c.owners c.guard (x :: xs) then [.act t]
        else x.affairs c.owners s c.guard t fresh))) := by
  generalize hself : a.errands (c.label t) = es at hstack
  cases hstack with
  | elsewhere hxs =>
    obtain ⟨hx, hrest⟩ := List.forall_mem_cons.mp hxs
    rw [not_amidCallback hxs]
    exact hx.ensues h hne hfresh hrest hself howners
  | here hx hxs =>
    have hno : amidCallback c.owners c.guard (x :: xs) = false := by cases hx <;> rfl
    rw [hno]
    exact hx.ensues h hne hfresh hxs hself howners
  | @callback id p p' y y' ys hp hid hx hxs =>
    have haffairs : (Frame.callback id p).affairs c.owners s c.guard t fresh = [.act t] :=
      if_pos (beq_iff_eq.mpr hid)
    rw [haffairs, ite_self]
    exact (CallbackPoint.ensued h hp hid hx hxs t).ensues hne hfresh hself
  | @commands todo done k k' id y y' ys htodo hk hid hx hxs =>
    have hamid : amidCallback c.owners c.guard (.commands todo done :: .callback id (.running k) :: y :: ys) = true :=
      beq_iff_eq.mpr hid
    rw [if_pos hamid]
    exact (Script.ensued h htodo done hk hid hx hxs).ensues hne hfresh hself

end Threads

/-! ## Systems -/

/-- The second process is the guard's part of the first. -/
structure System.Alone (c : Census) (w : System) (a : Solo) : Prop where
  store : w.store.Alone c a.store
  errands : ∀ t, Errands c (w.stack t) (a.errands (c.label t))

/-- By the scripts of threads that join, nothing is registered whose callback calls back into a guard. -/
def Happening.IsDiscreet : Happening → Prop
  | .event (.join _ script) => ∀ k ∈ script, k.IsDiscreet
  | _ => True

theorem Solo.after_append (a : Solo) (as bs : List Affair) : a.after (as ++ bs) = (a.after as).after bs :=
  List.foldl_append ..

theorem System.stack_eq {w : System} {t : ThreadId} {th : Thread} (h : w.thread? t = some th) :
    w.stack t = th.stack := by
  rw [stack, h]
  rfl

theorem System.stack_of_le {w : System} {t : ThreadId} (h : w.threads.size ≤ t) : w.stack t = [] := by
  rw [stack, thread?, Array.getElem?_eq_none h]
  rfl

/-- The stack of a thread that starts with a step. -/
theorem Progress.stack_spawned (p : Progress) (i : Nat) :
    ((p.spawned[i]?).map Thread.stack).getD [] = if i = 0 then p.spawned.flatMap Thread.stack else [] := by
  cases p with
  | spawn name x y =>
    cases i with
    | zero => rfl
    | succ i => rfl
  | _ => simp [spawned]

theorem System.ensue_append (w : System) (hs hs' : List Happening) : w.ensue (hs ++ hs') = (w.ensue hs).ensue hs' := by
  induction hs generalizing w with
  | nil => rfl
  | cons h hs ih => exact ih (w.happens h)

theorem System.course_append (os : List GuardId) (g : GuardId) (w : System) (hs hs' : List Happening) :
    w.course os g (hs ++ hs') = w.course os g hs ++ (w.ensue hs).course os g hs' := by
  induction hs generalizing w with
  | nil => rfl
  | cons h hs ih => rw [List.cons_append, course, course, ih, List.append_assoc, ensue]

namespace System.Alone
variable {c : Census} {w : System} {a : Solo} (hw : w.Alone c a)
include hw

theorem withStore {s store : Store} (hs : s.Alone c store) :
    ({ w with store := s } : System).Alone c { a with store } :=
  ⟨hs, hw.errands⟩

theorem errands_of_le {t : ThreadId} (ht : w.threads.size ≤ t) : a.errands (c.label t) = [] := by
  have hstack := hw.errands t
  rw [stack_of_le ht] at hstack
  exact hstack.eq_nil

/-- A thread acts. -/
theorem act {t : ThreadId} {x : Frame} (ht : w.acting? t = some x) (howners : (w.act t).store.owners <+: c.owners) :
    ∃ c', c.Grows c' ∧ (w.act t).Alone c' (a.after (c.told (if amidCallback c.owners c.guard (w.stack t) then [.act t]
      else x.affairs c.owners w.store c.guard t w.threads.size))) := by
  obtain ⟨th, rest, hth, hstack, hlt, hthreads⟩ := thread?_act ht
  have hself := hw.errands t
  rw [stack_eq hth, hstack] at hself ⊢
  have hstore : (w.act t).store = (x.advance t w.threads.size w.store).1 := by
    obtain ⟨name, rest', out, hth', -⟩ := acting?_eq_some ht
    rw [act_eq hth']
  rw [hstore] at howners
  obtain ⟨c', hg, he⟩ := Errands.ensues hw.store (Nat.ne_of_gt hlt) (hw.errands_of_le (Nat.le_refl _)) hself howners
  refine ⟨c', hg, hstore ▸ he.store, fun u => ?_⟩
  rw [System.stack, hthreads u]
  by_cases hu : t = u
  · subst hu
    rw [if_pos rfl, Option.map_some, Option.getD_some, Thread.stack_progress]
    exact he.self
  rw [if_neg hu]
  by_cases hsize : u = w.threads.size
  · subst hsize
    rw [if_neg (Nat.lt_irrefl _), Nat.sub_self, Progress.stack_spawned, if_pos rfl]
    exact he.started
  have hother := (hw.errands u).mono hg
  have hrest := he.others u (Ne.symm hu) hsize
  obtain ⟨-⟩ := hg
  rw [hrest]
  split
  · exact hother
  · next hge =>
    rw [Progress.stack_spawned,
      if_neg (Nat.sub_ne_zero_of_lt (Nat.lt_of_le_of_ne (Nat.le_of_not_lt hge) (Ne.symm hsize)))]
    rwa [stack_of_le (Nat.le_of_not_lt hge)] at hother

omit hw in
/-- A deadline that cannot pass is nobody's affair. -/
theorem affairs_of_not_expired {t : ThreadId} (hm : w.move? (.expire t) = none) :
    w.affairs c.owners c.guard (.event (.move (.expire t))) = [] := by
  rw [System.affairs]
  rw [System.move?] at hm
  split
  · next name x rest out hth =>
    simp only [hth, Option.bind_some, Thread.expired?] at hm
    cases hx : x.expired? w.store with
    | none => exact if_neg (by simp)
    | some o => simp [hx] at hm
  · rfl

/-- The stacks after a thread has gone on with something else, and has something else under way at the guard. -/
theorem errands_modify {t : ThreadId} {th th' : Thread} (hth : w.thread? t = some th) {es : List Frame}
    (hes : Errands c th'.stack es) (u : ThreadId) :
    Errands c (System.stack ⟨w.store, w.threads.modify t fun _ => th'⟩ u)
      (Function.update a.errands (c.label t) es (c.label u)) := by
  rw [System.stack, System.thread?, Array.getElem?_modify]
  by_cases hu : t = u
  · subst hu
    rw [if_pos rfl, show w.threads[t]? = _ from hth, Function.update_self]
    exact hes
  · rw [if_neg hu, Function.update_of_ne (c.label.injective.ne (Ne.symm hu))]
    exact hw.errands u

/-- A deadline passes. -/
theorem expire (t : ThreadId) : (w.occur (.move (.expire t))).Alone c
    (a.after (c.told (w.affairs c.owners c.guard (.event (.move (.expire t)))))) := by
  cases hm : w.move? (.expire t) with
  | none =>
    rw [affairs_of_not_expired hm, System.occur, hm]
    exact hw
  | some w' =>
    obtain ⟨⟨name, stack, out⟩, g, gate, k, rest, hth, hstack, hpending, rfl⟩ := expire_cases hm
    simp only at hstack
    subst hstack
    have hexpired : ((Frame.flush g .deadline gate (.waiting k)).expired? w.store).isSome = true := by
      rw [Frame.expired?, if_pos hpending]
      rfl
    rw [System.occur, hm, Option.getD_some, System.affairs, hth]
    simp only [hexpired, Bool.and_true]
    have hself := hw.errands t
    rw [stack_eq hth] at hself
    -- whoever was waiting, the operation is over, and nothing of the guard's is left under way
    have hover (hrest : ∀ x ∈ rest, x.Foreign c) : Errands c ((Thread.mk name (.flush g .deadline gate (.waiting k) ::
        rest) out).progress rest (.finish (.flag false))).stack [] := by
      rw [Thread.stack_progress]
      exact .elsewhere (Progress.Foreign.onto (p := .finish (.flag false)) trivial hrest)
    generalize hes : a.errands (c.label t) = es at hself
    cases hself with
    | elsewhere hxs =>
      obtain ⟨hx, hrest⟩ := List.forall_mem_cons.mp hxs
      rw [if_neg (by simp [hx.concerns])]
      refine ⟨hw.store, fun u => ?_⟩
      have hu := hw.errands_modify hth (hover hrest) u
      rwa [← hes, Function.update_eq_self] at hu
    | here hx hrest =>
      rw [if_pos hx.concerns]
      exact ⟨hw.store, hw.errands_modify hth (hover hrest)⟩

/-- A thread joins. -/
theorem join (name : ThreadName) {script : List Command} (hdiscreet : ∀ k ∈ script, k.IsDiscreet) :
    (w.occur (.join name script)).Alone c a := by
  refine ⟨hw.store, fun t => ?_⟩
  rw [System.occur, System.spawn, System.stack, System.thread?, Array.getElem?_push]
  split
  · next ht =>
    rw [hw.errands_of_le (Nat.le_of_eq ht.symm)]
    exact .elsewhere fun x hx => by
      rw [List.mem_singleton.mp hx]
      exact hdiscreet
  · exact hw.errands t

/-- An outsider puts a number into a source. -/
theorem put (g : GuardId) (id : HandleId) : ({ w with store := (w.store.enqueue g (.reclaim id)).1 } : System).Alone c
    (a.after (c.told (if g = c.guard then [.put (c.rank id)] else []))) := by
  split
  · next hg =>
    subst hg
    exact hw.withStore (hw.store.enqueue (.reclaim id)).store
  · next hg => exact hw.withStore (hw.store.enqueue_other hg (i := .reclaim id) trivial)

/-- Whatever happens, it is for the guard what its affairs are alone. -/
theorem happens {h : Happening} (hdiscreet : h.IsDiscreet) (howners : (w.happens h).store.owners <+: c.owners) :
    ∃ c', c.Grows c' ∧ (w.happens h).Alone c' (a.after (c.told (w.affairs c.owners c.guard h))) := by
  have same {w' : System} {a' : Solo} (hw' : w'.Alone c a') : ∃ c', c.Grows c' ∧ w'.Alone c' a' :=
    ⟨c, .refl c, hw'⟩
  cases h with
  | event e =>
    cases e with
    | move m =>
      cases m with
      | act t =>
        rw [System.happens] at howners ⊢
        rw [System.affairs]
        cases ht : w.acting? t with
        | none =>
          rw [occur_not_acting ht]
          exact same hw
        | some x =>
          rw [occur_acting ht] at howners ⊢
          exact hw.act ht howners
      | expire t => exact same (hw.expire t)
    | join name script => exact same (hw.join name hdiscreet)
    | share id shares =>
      refine same ?_
      rw [System.happens, System.occur, System.affairs]
      cases hheld : w.isHeld id with
      | false => exact hw
      | true =>
        rw [Bool.true_and, if_pos rfl]
        by_cases hid : c.owns id
        · rw [if_pos (beq_iff_eq.mpr hid)]
          exact hw.withStore (hw.store.modifyEntry (fun _ => rfl) (fun _ => rfl) hid fun _ => rfl)
        · rw [if_neg fun heq => hid (beq_iff_eq.mp heq)]
          exact hw.withStore (hw.store.modifyEntry_other (fun _ => rfl) (fun _ => rfl) hid)
    | inject g id =>
      refine same ?_
      rw [System.happens, System.occur, System.affairs]
      cases hopen : w.knows id && w.isExposed g with
      | false => exact hw
      | true =>
        have hput := hw.put g id
        simp only [Bool.true_and, if_true, beq_iff_eq]
        exact hput
  | put g id => exact same (hw.put g id)
  | interrupt g =>
    refine same ?_
    rw [System.happens, System.affairs]
    split
    · next hg =>
      subst hg
      exact hw.withStore hw.store.interruptAtOnce
    · next hg => exact hw.withStore (hw.store.interruptAtOnce_other hg)

/-- The same of a whole run. -/
theorem ensue {hs : List Happening} (hdiscreet : ∀ h ∈ hs, h.IsDiscreet)
    (howners : (w.ensue hs).store.owners <+: c.owners) :
    ∃ c', c.Grows c' ∧ (w.ensue hs).Alone c' (a.after (c.told (w.course c.owners c.guard hs))) := by
  induction hs generalizing c w a with
  | nil => exact ⟨c, .refl c, hw⟩
  | cons h hs ih =>
    obtain ⟨hh, hhs⟩ := List.forall_mem_cons.mp hdiscreet
    have hfirst := ((w.happens h).owners_ensue hs).trans howners
    obtain ⟨c', hg, hw'⟩ := hw.happens hh hfirst
    obtain ⟨hacks, hruns⟩ := hg
    obtain ⟨c'', hg', hw''⟩ := ih hw' hhs howners
    refine ⟨c'', (Census.Grows.intro hacks hruns).trans hg', ?_⟩
    rw [System.course, Census.told, List.map_append, Solo.after_append]
    exact hw''

end System.Alone

/-! ## What there is to say of a guard -/

/-- The item with another number for its handle; requests go without numbers. -/
def Item.renamed (rank : HandleId → HandleId) : Item → Item
  | .reclaim id => .reclaim (rank id)
  | .flush _ => .flush 0

/-- The guard with other numbers for handles and threads. -/
def Guard.renamed (rank : HandleId → HandleId) (label : ThreadId → ThreadId) (x : Guard) : Guard :=
  { x with
    worker := label x.worker
    registry := ⟨x.registry.ids.map rank⟩
    source := { x.source with
      queue := { x.source.queue with items := x.source.queue.items.map (Item.renamed rank) }
      delivered := x.source.delivered.map (Item.renamed rank) } }

/-- A guard with its registry, counters, source, worker and diagnostics, its handles, and the runs of their
callbacks. -/
structure Standing where
  guard : Option Guard
  handles : List Entry
  calls : List Call

/-- What there is to say of a guard, with its handles by their ranks and with other names for threads. -/
def Store.standing (s : Store) (os : List GuardId) (g : GuardId) (label : ThreadId → ThreadId) : Standing where
  guard := (s.guard? g).map (Guard.renamed (rankIn os g) label)
  handles := (s.own g).map Entry.alone
  calls := (s.calls.toList.filter fun k => decide (ownerIn os k.id = some g)).map (Call.renamed (rankIn os g) label)

/-- What there is to say of a guard that is alone. -/
def Solo.standing (a : Solo) : Standing where
  guard := (a.store.guard? 0).map (Guard.renamed id id)
  handles := a.store.entries.toList
  calls := a.store.calls.toList

section Standing
variable {c : Census}

theorem Item.Alone.renamed {i i' : Item} (h : i.Alone c i') : i.renamed c.rank = i'.renamed id := by
  cases h <;> rfl

theorem renamed_items {is is' : List Item} (h : List.Forall₂ (Item.Alone c) is is') :
    is.map (Item.renamed c.rank) = is'.map (Item.renamed id) := by
  induction h with
  | nil => rfl
  | cons hi _ ih => rw [List.map_cons, List.map_cons, hi.renamed, ih]

theorem Guard.Alone.renamed {x x' : Guard} (h : Guard.Alone c x x') :
    x.renamed c.rank c.label = x'.renamed id id := by
  cases h with
  | intro hsource _ =>
    obtain ⟨config, worker, source, registry, stats, state, joinable, exit, offered⟩ := x
    cases hsource with
    | intro hitems hdelivered =>
      simp only [Guard.renamed, renamed_items hitems, renamed_items hdelivered, List.map_id, id_eq]

/-- All that there is to say of the guard is the same in company and alone. -/
theorem Store.Alone.standing {s : Store} {a : Solo} (h : s.Alone c a.store) :
    s.standing c.owners c.guard c.label = a.standing := by
  have hguard : (s.guard? c.guard).map (Guard.renamed c.rank c.label) =
      (a.store.guard? 0).map (Guard.renamed id id) := by
    have hx := h.guard?
    generalize s.guard? c.guard = x, a.store.guard? 0 = x' at hx
    cases hx with
    | none => rfl
    | some hx => exact congrArg some hx.renamed
  have hhandles := h.entries.symm
  have hcalls := h.calls.symm
  simp only [Store.standing, Solo.standing]
  exact Standing.mk.injEq .. ▸ ⟨hguard, hhandles, hcalls⟩

end Standing

/-! ## Runs -/

/-- A run of a process, in which callbacks do not call back into a guard. -/
structure Run where
  probes : Array Probe
  environment : Environment
  output : Output
  happenings : List Happening
  discreet : ∀ h ∈ happenings, h.IsDiscreet

namespace Run
variable (r : Run)

/-- The process before the run. -/
def start : System := System.boot r.probes r.environment r.output

/-- The process after so many happenings. -/
def after (n : Nat) : System := r.start.ensue (r.happenings.take n)

/-- The guards of all handles of the run. -/
def owners : List GuardId := (r.start.ensue r.happenings).store.owners

/-- What there is to say of a guard after so many happenings. -/
def standing (g : GuardId) (label : ThreadId ↪ ThreadId) (n : Nat) : Standing :=
  (r.after n).store.standing r.owners g label

/-- The affairs of a guard during so many happenings. -/
def course (g : GuardId) (label : ThreadId ↪ ThreadId) (n : Nat) : List Affair :=
  (r.start.course r.owners g (r.happenings.take n)).map (Affair.relabel label)

theorem alone_start (g : GuardId) (os : List GuardId) (label : ThreadId ↪ ThreadId) :
    r.start.Alone ⟨g, os, label, fun _ => none, fun _ => none⟩ (Solo.boot r.probes) where
  store := {
    owners := List.nil_prefix
    entries := rfl
    guards := .nil
    others := fun _ hx => by
      rw [start, System.boot, Store.guard?] at hx
      cases hx
    calls := rfl
    acks := ⟨fun hk => (by cases hk), fun hk => (by cases hk), fun _ => rfl⟩
    probes := rfl
    runs := ⟨fun hk => by cases hk⟩
    discreet := List.forall_mem_nil _ }
  errands t := by
    rw [System.stack_of_le (Nat.zero_le t)]
    exact .elsewhere (List.forall_mem_nil _)

/-- After every part of the run the guard is what it is alone. -/
theorem alone_after (g : GuardId) (label : ThreadId ↪ ThreadId) (n : Nat) :
    ∃ c : Census, c.guard = g ∧ c.owners = r.owners ∧ c.label = label ∧
      (r.after n).Alone c ((Solo.boot r.probes).after (r.course g label n)) := by
  have howners : (r.after n).store.owners <+: r.owners := by
    have hall : r.start.ensue r.happenings = (r.after n).ensue (r.happenings.drop n) := by
      rw [after, ← System.ensue_append, List.take_append_drop]
    rw [owners, hall]
    exact System.owners_ensue _ _
  have hdiscreet : ∀ h ∈ r.happenings.take n, h.IsDiscreet := fun h hh => r.discreet h (List.mem_of_mem_take hh)
  obtain ⟨c', hg, hw⟩ := (r.alone_start g r.owners label).ensue hdiscreet howners
  obtain ⟨-⟩ := hg
  exact ⟨_, rfl, rfl, rfl, hw⟩

theorem course_succ {n : Nat} {h : Happening} (hn : r.happenings[n]? = some h) (g : GuardId)
    (label : ThreadId ↪ ThreadId) : r.course g label (n + 1) =
      r.course g label n ++ ((r.after n).affairs r.owners g h).map (Affair.relabel label) := by
  rw [course, List.take_add_one, hn, System.course_append, List.map_append]
  congr 2
  exact List.append_nil _

/-- A guard is what its affairs make of it where it is alone. -/
theorem standing_eq (g : GuardId) (label : ThreadId ↪ ThreadId) (n : Nat) :
    r.standing g label n = ((Solo.boot r.probes).after (r.course g label n)).standing := by
  obtain ⟨c, rfl, howners, rfl, hw⟩ := r.alone_after g label n
  rw [standing, ← howners]
  exact hw.store.standing

/-- What is none of its affairs leaves a guard as it is. -/
theorem standing_succ {n : Nat} {h : Happening} (hn : r.happenings[n]? = some h) {g : GuardId}
    (hnone : (r.after n).affairs r.owners g h = []) (label : ThreadId ↪ ThreadId) :
    r.standing g label (n + 1) = r.standing g label n := by
  rw [standing_eq, standing_eq, r.course_succ hn, hnone, List.map_nil, List.append_nil]

end Run

/-! ## Releases and items of other guards' handles -/

/-- The frame is a step of a call to release the handle: the call, through whichever guard, the claim, the callback,
or the drop of a handle that nobody holds any more. -/
def Frame.Releases (s : Store) (id : HandleId) : Frame → Prop
  | .commands (.release handle _ :: _) _ => s.handleNamed handle = .ok id
  | .release id' _ | .callback id' _ | .drop id' _ => id' = id
  | _ => False

/-- The release of a handle is the affair of its guard only. -/
theorem Frame.Releases.affairs {s : Store} {id : HandleId} {x : Frame} (hx : x.Releases s id) {os : List GuardId}
    {g : GuardId} (hid : ownerIn os id ≠ some g) (t fresh : ThreadId) : x.affairs os s g t fresh = [] := by
  unfold Frame.Releases at hx
  split at hx
  · rw [Frame.affairs, Command.affairs, hx, affairsOf_other hid, ite_self]
  · subst hx
    exact if_neg fun heq => hid (beq_iff_eq.mp heq)
  · subst hx
    exact if_neg fun heq => hid (beq_iff_eq.mp heq)
  · subst hx
    exact if_neg fun heq => hid (beq_iff_eq.mp heq)
  · exact hx.elim

/-- No callback that does not call back into a guard carries out such a call. -/
theorem Frame.Releases.not_amidCallback {s : Store} {id : HandleId} {x : Frame} (hx : x.Releases s id) {c : Census}
    {xs es : List Frame} (hstack : Errands c (x :: xs) es) : amidCallback c.owners c.guard (x :: xs) = false := by
  cases hstack with
  | elsewhere hxs => exact Reclaim.not_amidCallback hxs
  | here hx _ => cases hx <;> rfl
  | callback => rfl
  | @commands todo done k k' id' y y' ys htodo hk hid hy hys =>
    unfold Frame.Releases at hx
    split at hx
    · next heq =>
      cases heq
      cases htodo _ List.mem_cons_self
    all_goals contradiction

/-- A call to release a handle through a guard is a call to release the handle. -/
theorem Command.begin_release {s : Store} {guard : String} {g : GuardId} (hg : s.guardNamed guard = .ok g)
    (handle : String) : (Command.release handle (some guard)).begin s = (Command.release handle none).begin s := by
  simp only [begin, begin?, bind, Except.bind, hg]

theorem Store.takeActive_of_false {s : Store} {g : GuardId} {id : HandleId} (h : (s.takeActive g id).2 = false) :
    s.takeActive g id = (s, false) := by
  rw [takeActive] at h ⊢
  cases hx : s.guard? g with
  | none => rfl
  | some guard =>
    simp only [hx] at h ⊢
    by_cases hin : guard.registry.contains id
    · rw [if_pos hin] at h ⊢
      cases he : s.resource? id with
      | none => rfl
      | some e =>
        simp only [he] at h ⊢
        cases hstate : e.state with
        | released => rfl
        | active => simp [hstate] at h
    · rw [if_neg hin]

namespace Run
variable (r : Run) {n : Nat} {t : ThreadId} {g : GuardId} {id : HandleId}

/-- No step of a call to release a handle touches another guard. -/
theorem standing_of_releases {x : Frame} (hn : r.happenings[n]? = some (.event (.move (.act t))))
    (hx : (r.after n).acting? t = some x) (hreleases : x.Releases (r.after n).store id)
    (hid : ownerIn r.owners id ≠ some g) (label : ThreadId ↪ ThreadId) :
    r.standing g label (n + 1) = r.standing g label n := by
  refine r.standing_succ hn ?_ label
  obtain ⟨c, rfl, howners, -, hw⟩ := r.alone_after g label n
  obtain ⟨name, rest, out, hth, -⟩ := System.acting?_eq_some hx
  have hstack := hw.errands t
  rw [System.stack_eq hth] at hstack
  have hno := hreleases.not_amidCallback hstack
  simp only [System.affairs, hx]
  rw [System.stack_eq hth, ← howners, hno]
  exact hreleases.affairs (howners ▸ hid) t _

/-- All that a worker does with the number of another guard's handle is to count it as discarded. -/
theorem store_of_discard (hx : (r.after n).acting? t = some (.worker g (.processing (.reclaim id))))
    (hid : ownerIn r.owners id ≠ some g) :
    ((r.after n).occur (.move (.act t))).store = (r.after n).store.countDiscarded g id := by
  obtain ⟨c, rfl, howners, -, hw⟩ := r.alone_after g (.refl _) n
  have hno : ((r.after n).store.takeActive c.guard id).2 = false := by
    rw [Bool.eq_false_iff]
    intro hyes
    exact hid (howners ▸ hw.store.owns_of_takeActive hyes)
  obtain ⟨name, rest, out, hth, -⟩ := System.acting?_eq_some hx
  rw [System.occur_acting hx, System.act_eq hth]
  simp only [Frame.advance, WorkerPoint.advance, Store.takeActive_of_false hno]

end Run

/-! ## Isolation -/

/-- Guards are isolated during a run. -/
structure Run.Isolates (r : Run) : Prop where
  /-- All the way a guard is what its affairs make of it where it is alone. -/
  alone : ∀ g label n, r.standing g label n = ((Solo.boot r.probes).after (r.course g label n)).standing
  /-- Two guards with the same affairs, in whichever runs, are the same. -/
  same : ∀ (r' : Run) g g' label label' n n', r'.probes = r.probes → r'.course g' label' n' = r.course g label n →
    r'.standing g' label' n' = r.standing g label n
  /-- The numbers by which its handles go there are in the order of their own numbers. -/
  ordered : ∀ g id id', ownerIn r.owners id = some g → ownerIn r.owners id' = some g →
    ((rankIn r.owners g id).number < (rankIn r.owners g id').number ↔ id.number < id'.number)
  /-- What is none of its affairs leaves a guard as it is. -/
  untouched : ∀ g label n h, r.happenings[n]? = some h → (r.after n).affairs r.owners g h = [] →
    r.standing g label (n + 1) = r.standing g label n
  /-- Through whichever guard a handle is released, the same happens. -/
  through : ∀ n handle guard g, (r.after n).store.guardNamed guard = .ok g →
    (Command.release handle (some guard)).begin (r.after n).store =
      (Command.release handle none).begin (r.after n).store
  /-- And no step of it touches any guard but that of the handle. -/
  releases : ∀ g label n t x id, r.happenings[n]? = some (.event (.move (.act t))) →
    (r.after n).acting? t = some x → x.Releases (r.after n).store id → ownerIn r.owners id ≠ some g →
      r.standing g label (n + 1) = r.standing g label n
  /-- A worker that takes the number of another guard's handle counts it as discarded, and that is all; the handle
  stays as it is. -/
  discards : ∀ n t g id, (r.after n).acting? t = some (.worker g (.processing (.reclaim id))) →
    ownerIn r.owners id ≠ some g →
      ((r.after n).occur (.move (.act t))).store = (r.after n).store.countDiscarded g id ∧
        ∀ id', ((r.after n).occur (.move (.act t))).store.resource? id' = (r.after n).store.resource? id'

/-- **Guards are isolated.** -/
theorem Run.guards_isolated (r : Run) : r.Isolates where
  alone := r.standing_eq
  same r' g g' label label' n n' hprobes hcourse := by
    rw [standing_eq, standing_eq, hprobes, hcourse]
  ordered g id id' hid hid' := rankIn_lt_iff hid hid'
  untouched g label n h hn hnone := r.standing_succ hn hnone label
  through n handle guard g hg := Command.begin_release hg handle
  releases g label n t x id hn hx hreleases hid := r.standing_of_releases hn hx hreleases hid label
  discards n t g id hx hid :=
    have hstore := r.store_of_discard hx hid
    ⟨hstore, fun _ => hstore ▸ rfl⟩

/-- A handle of one guard is put into the source of another, and released through the other. -/
def crossing : Run where
  probes := #[]
  environment := none
  output := {}
  happenings :=
    .event (.join .caller
      [.startGuard "g" {} .plain none, .startGuard "other" {} .gated none,
        .register (.guard "g") "x" { address := 7, callback := some { body := some [.failOn 8] } },
        .inject "other" "x", .letThrough "other" 1, .release "x" (some "other")]) ::
      (List.replicate 20 [.event (.move (.act 0)), .event (.move (.act 1)), .event (.move (.act 2))]).flatten
  discreet := by
    refine List.forall_mem_cons.mpr ⟨?_, fun h hh => ?_⟩
    · simp [Happening.IsDiscreet, Command.IsDiscreet, Registration.IsDiscreet, Callback.IsDiscreet, Command.isAside]
    · obtain ⟨hs, hround, hh⟩ := List.mem_flatten.mp hh
      rw [List.eq_of_mem_replicate hround] at hh
      simp only [List.mem_cons, List.not_mem_nil, or_false] at hh
      rcases hh with rfl | rfl | rfl <;> trivial

/-- The other guard counts that it has discarded the handle and nothing else, as it does where it is alone with what
was put into its source, and the release counts where the handle belongs. -/
theorem Run.guards_isolated_crossing : crossing.Isolates ∧
    (crossing.standing 0 (.refl _) 61).guard.map Guard.stats = some { registered := 1, released := 1 } ∧
    (crossing.standing 1 (.refl _) 61).guard.map Guard.stats = some { discarded := 1 } ∧
    ((Solo.boot #[]).after (crossing.course 1 (.refl _) 61)).standing.guard.map Guard.stats =
      some { discarded := 1 } := by
  have hisolated := crossing.guards_isolated
  have hother : (crossing.standing 1 (.refl _) 61).guard.map Guard.stats = some { discarded := 1 } := by
    decide +kernel
  exact ⟨hisolated, by decide +kernel, hother, hisolated.alone 1 (.refl _) 61 ▸ hother⟩

end Reclaim

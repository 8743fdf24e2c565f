import Reclaim.Proofs.Lockstep

/-!
# Requests to flush leave no trace

Some calls to flush are left out of the scripts of a run, and of the callbacks that they register; and with
them the moves at these calls and at their requests. What is left is a run, and what has become of its guards,
handles, callbacks and scripts is the same.

* `Frame.isFlushing` : what a thread does at a call to flush, a worker at a request, or whoever destroys one;
* `System.Thinned`, `System.Thinned.act`, `System.Thinned.expire` : two systems, and a move of one of their threads;
* `Happening`, `System.happens`, `Prunes` : what happens to a process, its queues within everyone's reach, and
  what is left of it;
* `Partly`, `Thread.Thinned.partly` : what is left of the answers so far;
* `System.Reflects`, `System.Follows` : what both runs come to, and that they do all the way;
* `System.flushes_transparent` : whatever calls to flush are left out.
-/

namespace Reclaim

/-- A step of a call to flush, of a worker at a request, which takes it, answers it, or calls for what
comes next, or of a thread that destroys a request. -/
def Frame.isFlushing (s : Store) : Frame → Bool
  | .commands (.flush .. :: _) _ => true
  | .flush .. => true
  | .discard _ (_ :: _) => true
  | .shutdown _ (.discarding (_ :: _)) => true
  | .worker _ .calling => true
  | .worker g .polling =>
    match (s.pollNext g).2 with
    | .item (.flush _) => true
    | _ => false
  | .worker _ (.took (.flush _)) => true
  | .worker _ (.processing (.flush _)) => true
  | .worker _ (.discarding _ (_ :: _)) => true
  | _ => false

/-! ## Frames -/

theorem Command.lot_cases (c : Command) : c.lot = .kept ∨ c.lot = .shown := by
  cases c with
  | ask query => cases query <;> first | exact .inl rfl | exact .inr rfl
  | _ => exact .inl rfl

section Frames
variable {b : Bond} {t fresh : ThreadId} {s s' : Store}

/-- One answer more on both sides. -/
theorem Frame.Thinned.answered {ls ms : List Lot} {todo todo' : List Command} {done done' : List Reply}
    (ha : Answers ls done.reverse done'.reverse) (hp : Pruned b.queued ms todo todo') {c : Command} {r r' : Reply}
    (hshown : r.Shown r') (hkept : c.lot = .kept → r' = r) :
    Frame.Thinned b t (.script (ls ++ c.lot :: ms)) (.commands todo (r :: done)) (.commands todo' (r' :: done')) := by
  have hr : Answers [c.lot] [r] [r'] := by
    rcases c.lot_cases with hlot | hlot
    · rw [hkept hlot, hlot]
      exact .kept r .nil
    · rw [hlot]
      exact .shown hshown .nil
  have hanswers : Answers (ls ++ [c.lot]) (r :: done).reverse (r' :: done').reverse := by
    rw [List.reverse_cons, List.reverse_cons]
    exact ha.append hr
  have hcommands := Frame.Thinned.commands (t := t) hanswers hp
  rwa [List.append_assoc] at hcommands

/-- One answer more, to a call that is left out. -/
theorem Frame.Thinned.answered_cut {ls ms : List Lot} {todo todo' : List Command} {done done' : List Reply}
    (ha : Answers ls done.reverse done'.reverse) (hp : Pruned b.queued ms todo todo') (r : Reply) :
    Frame.Thinned b t (.script (ls ++ .cut :: ms)) (.commands todo (r :: done)) (.commands todo' done') := by
  have hr : Answers [.cut] [r] [] := .cut r .nil
  have hanswers : Answers (ls ++ [.cut]) (r :: done).reverse done'.reverse := by
    rw [List.reverse_cons, ← List.append_nil done'.reverse]
    exact ha.append hr
  have hcommands := Frame.Thinned.commands (t := t) hanswers hp
  rwa [List.append_assoc] at hcommands

variable (h : s.Thinned b s')
include h

/-- A flush by a name for guards over queues is of such a guard. -/
theorem Store.Thinned.flushGuard {name : String} (hq : b.queued name) {gate : GateUse} {g : GuardId}
    (hg : Command.flushGuard s name gate = .ok g) : ∃ u, b.staff g = some (u, true) := by
  have hname : s.guardNamed name = .ok g := by
    cases gate with
    | opens => exact hg
    | leaves =>
      rw [Command.flushGuard, Store.sourceNamed] at hg
      cases hname : s.guardNamed name with
      | error what =>
        rw [hname] at hg
        cases hg
      | ok g' =>
        rw [hname] at hg
        simp only at hg
        split at hg
        · cases hg
          rfl
        · cases hg
  rw [Store.guardNamed] at hname
  cases hlookup : s.names.guards.lookup name with
  | none =>
    rw [hlookup] at hname
    cases hname
  | some g' =>
    rw [hlookup] at hname
    cases hname
    exact h.named (mem_of_lookup hlookup) hq

/-- Both scripts go on, or one of them alone, with a call to flush that is left out of the other. -/
theorem Script.together {ls ms : List Lot} {todo todo' : List Command} {done done' : List Reply}
    (ha : Answers ls done.reverse done'.reverse) (hp : Pruned b.queued ms todo todo') :
    Together b t fresh (.script (ls ++ ms)) (Script.advance s todo done) (Script.advance s' todo' done') ∨
      (Frame.commands todo done).isFlushing s = true ∧
        Apart b t (.script (ls ++ ms)) (Script.advance s todo done) s' (.commands todo' done') := by
  cases hp with
  | nil =>
    left
    rw [List.append_nil]
    exact .same h (.did ha)
  | @cut name patience gate ls todo todo' hq hp =>
    refine .inr ⟨rfl, b, .refl _ t b, ?_⟩
    cases hguard : Command.flushGuard s name gate with
    | error what =>
      have hbegin : Command.begin s (.flush name patience gate) = (s, .reply (.missing what)) := by
        rw [Command.begin, Command.begin?, hguard]
        rfl
      rw [Script.advance, hbegin]
      exact ⟨h, .goto (Frame.Thinned.answered_cut ha hp _)⟩
    | ok g =>
      obtain ⟨u, hu⟩ := h.flushGuard hq hguard
      have hbegin : Command.begin s (.flush name patience gate) =
          (s, .operation (.flush g patience gate .checkStopped)) := by
        rw [Command.begin, Command.begin?, hguard]
        rfl
      rw [Script.advance, hbegin]
      exact ⟨h, .call patience gate hu fun r => Frame.Thinned.answered_cut ha hp r⟩
  | @kept c c' ms todo todo' hc hp =>
    left
    obtain ⟨hm, hx⟩ := Command.begin_thinned (t := t) h hc
    rw [Script.advance, Script.advance]
    generalize c.begin s = p, c'.begin s' = p' at hm hx
    obtain ⟨r, x⟩ := p
    obtain ⟨r', x'⟩ := p'
    cases hx with
    | reply hshown hkept => exact .same hm (.goto (Frame.Thinned.answered ha hp hshown hkept))
    | operation hlot hx =>
      exact .same hm (.call hx fun o _ => Frame.Thinned.answered ha hp (.same _) fun _ => rfl)

/-- Outside a worker's loop a frame can act if its counterpart can. -/
theorem Frame.Thinned.isReady_eq {k : Yield} {x x' : Frame} (hx : Frame.Thinned b t k x x')
    (hne : ∀ {g point}, x ≠ .worker g point) : x'.isReady s' = x.isReady s := by
  cases hx with
  | rest reply hs => rw [Frame.isReady, Frame.isReady, h.isAtRest hs]
  | flush g patience gate hp =>
    cases hp with
    | waiting hk => rw [Frame.isReady, Frame.isReady, h.isAckPending hk]
    | _ => rfl
  | shutdown g hp =>
    cases hp with
    | joining =>
      rw [Frame.isReady, Frame.isReady]
      have hx := h.guard? g
      generalize s.guard? g = x, s'.guard? g = x' at hx
      cases hx with
      | none => rfl
      | some hx => cases hx with | intro => rfl
    | _ => rfl
  | @register _ _ _ _ _ point _ _ => cases point <;> rfl
  | @release id point _ => cases point <;> rfl
  | worker => exact (hne rfl).elim
  | late => exact (hne rfl).elim
  | _ => rfl

/-- A frame that cannot act has a counterpart that cannot. -/
theorem Frame.Thinned.isReady {k : Yield} {x x' : Frame} (hx : Frame.Thinned b t k x x')
    (hready : x.isReady s = false) : x'.isReady s' = false := by
  by_cases hworker : ∃ g point, x = .worker g point
  · obtain ⟨g, point, rfl⟩ := hworker
    cases hx with
    | worker _ _ hk =>
      cases hk with
      | polling => exact h.isSourceReady hready
      | _ => cases hready
    | late _ _ hl => cases hl <;> cases hready
  · exact (hx.isReady_eq h fun heq => hworker ⟨_, _, heq⟩).trans hready

/-- Both frames act, or one alone, at a call or at a request that the other goes without. -/
theorem Frame.Thinned.advance {k : Yield} {x x' : Frame} (hx : Frame.Thinned b t k x x')
    (hready : x.isReady s = true) :
    (Together b t fresh k (x.advance t fresh s) (x'.advance t fresh s') ∧ x'.isReady s' = true) ∨
      (x.isFlushing s = true ∧ Apart b t k (x.advance t fresh s) s' x') := by
  have both (hk : ∀ {g point}, x ≠ .worker g point)
      (htogether : Together b t fresh k (x.advance t fresh s) (x'.advance t fresh s')) :
      (Together b t fresh k (x.advance t fresh s) (x'.advance t fresh s') ∧ x'.isReady s' = true) ∨
        (x.isFlushing s = true ∧ Apart b t k (x.advance t fresh s) s' x') :=
    .inl ⟨htogether, (hx.isReady_eq h hk).trans hready⟩
  cases hx with
  | commands ha hp =>
    rcases Script.together h ha hp with htogether | hapart
    · exact .inl ⟨htogether, rfl⟩
    · exact .inr hapart
  | give ho => exact both (fun hne => by cases hne) (.same h (.plain ho))
  | rest reply hs => exact both (fun hne => by cases hne) (.same h (.plain rfl))
  | discard hs hks =>
    obtain htogether | ⟨⟨n, ls, rfl⟩, hapart⟩ :=
      discardNext_thinned h fresh hks (fun _ _ hks => .discard hs hks) (.rest .done hs)
    · exact .inl ⟨htogether, rfl⟩
    · exact .inr ⟨rfl, hapart⟩
  | register hr hd => exact both (fun hne => by cases hne) (RegisterPoint.together h hr hd)
  | release id hp => exact both (fun hne => by cases hne) (ReleasePoint.together h id hp)
  | enter id => exact both (fun hne => by cases hne) (CallbackPoint.together_enter h id)
  | ran hrun hbody ha => exact both (fun hne => by cases hne) (CallbackPoint.together_ran h hrun hbody ha)
  | drop id point => exact both (fun hne => by cases hne) (DropPoint.together h id point)
  | flush g patience gate hp => exact both (fun hne => by cases hne) (FlushPoint.together h g patience gate hp)
  | shutdown g hp =>
    obtain htogether | ⟨⟨n, ls, rfl⟩, hapart⟩ := ShutdownPoint.together h fresh g hp
    · exact both (fun hne => by cases hne) htogether
    · exact .inr ⟨rfl, hapart⟩
  | start hq => exact both (fun hne => by cases hne) (StartRequest.together h hq)
  | bindGuard hq => exact both (fun hne => by cases hne) (bindGuard_together h hq)
  | processWide hp => exact both (fun hne => by cases hne) (Purpose.together h hp)
  | worker hs hp hk =>
    obtain htogether | ⟨⟨rfl, k, hpoll⟩ | ⟨exit, n, ls, rfl⟩, hapart⟩ := WorkerPoint.together h hs hp hk hready
    · exact .inl htogether
    · exact .inr ⟨by rw [Frame.isFlushing, hpoll], hapart⟩
    · exact .inr ⟨rfl, hapart⟩
  | late hs hp hl =>
    refine .inr ⟨?_, WorkerPoint.alone h hs hp hl⟩
    cases hl <;> rfl

/-- A deadline passes for both frames, or for neither. -/
theorem Frame.Thinned.expired? {k : Yield} {x x' : Frame} (hx : Frame.Thinned b t k x x') :
    (x.expired? s = none ∧ x'.expired? s' = none) ∨
      ∃ o, k = .plain ∧ o.isPlain = true ∧ x.expired? s = some o ∧ x'.expired? s' = some o := by
  cases hx with
  | flush g patience gate hp =>
    cases hp with
    | waiting hk =>
      cases patience with
      | unlimited => exact .inl ⟨rfl, rfl⟩
      | deadline =>
        rw [Frame.expired?, Frame.expired?, h.isAckPending hk]
        split
        · exact .inr ⟨_, rfl, rfl, rfl, rfl⟩
        · exact .inl ⟨rfl, rfl⟩
    | _ => cases patience <;> exact .inl ⟨rfl, rfl⟩
  | _ => exact .inl ⟨rfl, rfl⟩

end Frames

/-! ## Systems -/

/-- Two systems, the second without the calls that are left out. -/
structure System.Thinned (b : Bond) (w w' : System) : Prop where
  store : w.store.Thinned b w'.store
  threads : Paired (Thread.Thinned b) (fun t => b.scripts t = none) w.threads w'.threads

/-- The thread whose move it is. -/
def Move.thread : Move → ThreadId
  | act t => t
  | expire t => t

/-- The thread is at a call to flush, or is a worker at a request. -/
def System.isFlushing (w : System) (t : ThreadId) : Bool :=
  match w.thread? t with
  | some ⟨_, frame :: _, _⟩ => frame.isFlushing w.store
  | _ => false

theorem System.occur_move_act (w : System) (t : ThreadId) :
    w.occur (.move (.act t)) = if w.canAct t = true then w.act t else w := by
  simp only [System.occur, System.move?]
  split <;> rfl

theorem System.canAct_eq {w : System} {t : ThreadId} {name : ThreadName} {frame : Frame} {rest : List Frame}
    {out : Option Outcome} (h : w.thread? t = some ⟨name, frame :: rest, out⟩) :
    w.canAct t = frame.isReady w.store := by
  simp only [System.canAct, h, Thread.isReady]

namespace System.Thinned
variable {b b' : Bond} {w w' : System} {t : ThreadId} {k : Yield}

/-- Other threads stay as they correspond. -/
theorem threads_modify (hw : System.Thinned b w w') (hl : Bond.Leads k t b b') {x x' : Thread}
    (hx : Thread.Thinned b' t x x') :
    Paired (Thread.Thinned b') (fun t => b'.scripts t = none) (w.threads.modify t fun _ => x)
      (w'.threads.modify t fun _ => x') := by
  rw [hl.joined]
  exact hw.threads.modify t (fun _ _ _ _ => hx) fun u y y' hne hy =>
    hy.mono hl.toGrows fun hs => hl.post hs fun _ => hne

/-- The same when only one of the threads acts. -/
theorem threads_modify_left (hw : System.Thinned b w w') (hl : Bond.Leads k t b b') {x x' : Thread}
    (hthread : w'.thread? t = some x') (hx : Thread.Thinned b' t x x') :
    Paired (Thread.Thinned b') (fun t => b'.scripts t = none) (w.threads.modify t fun _ => x) w'.threads := by
  rw [hl.joined]
  refine hw.threads.modify_left t (fun _ y' _ hy' _ => ?_) fun u y y' hne hy =>
    hy.mono hl.toGrows fun hs => hl.post hs fun _ => hne
  obtain rfl := Option.some.inj (hthread.symm.trans hy')
  exact hx

/-- What both threads start. -/
theorem spawned {fresh : ThreadId} {p p' : Progress} (hp : Progress.Thinned b t fresh k p p')
    {xs xs' : Array Thread} (hxs : Paired (Thread.Thinned b) (fun t => b.scripts t = none) xs xs')
    (hsize : xs.size = fresh) :
    Paired (Thread.Thinned b) (fun t => b.scripts t = none) (xs ++ p.spawned) (xs' ++ p'.spawned) := by
  cases hp with
  | spawn name hx _ =>
    subst hsize
    simp only [Progress.spawned, Array.appendList_cons, Array.appendList_nil]
    exact hxs.push ⟨rfl, .frames hx .loop, .none⟩ (fun _ _ _ _ h => h) fun _ _ h => h
  | _ => simpa [Progress.spawned] using hxs

/-- An action of both threads, or of one of them alone. -/
theorem act (hw : System.Thinned b w w') (t : ThreadId) : ∃ b', b.Grows b' ∧ b'.scripts = b.scripts ∧
    (System.Thinned b' (w.occur (.move (.act t))) (w'.occur (.move (.act t))) ∨
      w.isFlushing t = true ∧ System.Thinned b' (w.occur (.move (.act t))) w') := by
  rw [System.occur_move_act, System.occur_move_act]
  have hpair := hw.threads t
  generalize hthread : w.threads[t]? = x at hpair
  generalize hthread' : w'.threads[t]? = x' at hpair
  have hthread : w.thread? t = x := hthread
  have hthread' : w'.thread? t = x' := hthread'
  cases hpair with
  | none =>
    refine ⟨b, .refl b, rfl, .inl ?_⟩
    rw [if_neg (by simp [System.canAct, hthread]), if_neg (by simp [System.canAct, hthread'])]
    exact hw
  | @some x x' hx =>
    obtain ⟨name, stack, out⟩ := x
    obtain ⟨name', stack', out'⟩ := x'
    obtain ⟨hname, hstack, hout⟩ := hx
    cases hstack with
    | empty =>
      refine ⟨b, .refl b, rfl, .inl ?_⟩
      rw [if_neg (by simp [System.canAct, hthread, Thread.isReady]),
        if_neg (by simp [System.canAct, hthread', Thread.isReady])]
      exact hw
    | @frames k frame frame' rest rest' hf hrest =>
      rw [System.canAct_eq hthread, System.canAct_eq hthread']
      cases hready : frame.isReady w.store with
      | false =>
        refine ⟨b, .refl b, rfl, .inl ?_⟩
        rw [hf.isReady hw.store hready]
        exact hw
      | true =>
        rcases hf.advance hw.store hready with ⟨⟨b', hl, hs, hp⟩, hready'⟩ |
          ⟨hflushing, b', hl, hs, hp⟩
        · refine ⟨b', hl.toGrows, hl.joined, .inl ?_⟩
          rw [hready', if_pos rfl, if_pos rfl, System.act_eq hthread, System.act_eq hthread', hw.threads.size_eq]
          have hx : Thread.Thinned b' t (Thread.progress ⟨name, frame :: rest, out⟩ rest _)
              (Thread.progress ⟨name', frame' :: rest', out'⟩ rest' _) :=
            Thread.Thinned.progress hname (Outcome.Thinned.monos hl.toGrows hout) (hrest.leads hl) hp
          exact ⟨hs, spawned hp (hw.threads_modify hl hx) (by simp)⟩
        · refine ⟨b', hl.toGrows, hl.joined, .inr ⟨?_, ?_⟩⟩
          · simp only [System.isFlushing, hthread]
            exact hflushing
          · rw [if_pos rfl, System.act_eq hthread]
            have hx : Thread.Thinned b' t (Thread.progress ⟨name, frame :: rest, out⟩ rest _)
                ⟨name', frame' :: rest', out'⟩ :=
              Thread.Thinned.progress_alone hname (Outcome.Thinned.monos hl.toGrows hout) (hrest.leads hl) hp rfl
            refine ⟨hs, ?_⟩
            have hnone : (frame.advance t w.threads.size w.store).2.spawned = [] := by
              generalize (frame.advance t w.threads.size w.store).2 = p at hp
              cases hp <;> rfl
            rw [hnone]
            simpa using hw.threads_modify_left hl hthread' hx
    | @flushing k g u patience gate point todo done frame' rest rest' hstaff hp hcommands hrest =>
      rw [System.canAct_eq hthread]
      have hflushing : w.isFlushing t = true := by simp only [System.isFlushing, hthread, Frame.isFlushing]
      cases hready : (Frame.flush g patience gate point).isReady w.store with
      | false => exact ⟨b, .refl b, rfl, .inr ⟨hflushing, hw⟩⟩
      | true =>
        obtain ⟨b', hl, hs, hgoes⟩ := FlushPoint.alone (t := t) hw.store patience gate hstaff hp
        refine ⟨b', hl.toGrows, hl.joined, .inr ⟨hflushing, ?_⟩⟩
        have hpost {g : GuardId} {queue : Bool} (hs : b.staff g = some (t, queue)) : b'.post g = b.post g :=
          hl.post hs fun hk => by cases hk
        have hcommands := fun r => (hcommands r).mono hl.toGrows hpost
        have hrest := hrest.mono hl.toGrows hpost
        have hout := Outcome.Thinned.monos hl.toGrows hout
        rw [if_pos rfl, System.act_eq hthread]
        simp only [Frame.advance]
        rcases hgoes with ⟨point', hgoto, hcut⟩ | ⟨reply, hfinish⟩
        · rw [hgoto]
          have hx : Thread.Thinned b' t ⟨name, .flush g patience gate point' :: .commands todo done :: rest, out⟩
              ⟨name', frame' :: rest', out'⟩ :=
            ⟨hname, .flushing patience gate (hl.staff hstaff) hcut hcommands hrest, hout⟩
          exact ⟨hs, by simpa [Progress.spawned, Thread.progress] using hw.threads_modify_left hl hthread' hx⟩
        · rw [hfinish]
          have hx : Thread.Thinned b' t ⟨name, .commands todo (reply :: done) :: rest, out⟩
              ⟨name', frame' :: rest', out'⟩ := ⟨hname, .frames (hcommands reply) hrest, hout⟩
          exact ⟨hs, by
            simpa [Progress.spawned, Thread.progress, Thread.deliver, Frame.receive, Outcome.reply] using
              hw.threads_modify_left hl hthread' hx⟩

/-- A deadline passes for both threads, for one of them alone, or for neither. -/
theorem expire (hw : System.Thinned b w w') (t : ThreadId) :
    System.Thinned b (w.occur (.move (.expire t))) (w'.occur (.move (.expire t))) ∨
      w.isFlushing t = true ∧ System.Thinned b (w.occur (.move (.expire t))) w' := by
  have hpair := hw.threads t
  generalize hthread : w.threads[t]? = x at hpair
  generalize hthread' : w'.threads[t]? = x' at hpair
  have hthread : w.thread? t = x := hthread
  have hthread' : w'.thread? t = x' := hthread'
  simp only [System.occur, System.move?, hthread, hthread']
  cases hpair with
  | none => exact .inl hw
  | @some x x' hx =>
    obtain ⟨name, stack, out⟩ := x
    obtain ⟨name', stack', out'⟩ := x'
    obtain ⟨hname, hstack, hout⟩ := hx
    cases hstack with
    | empty => exact .inl hw
    | @frames k frame frame' rest rest' hf hrest =>
      left
      simp only [Option.bind_some, Thread.expired?]
      rcases hf.expired? hw.store with ⟨hno, hno'⟩ | ⟨o, hk, ho, hyes, hyes'⟩
      · rw [hno, hno']
        exact hw
      · rw [hyes, hyes']
        exact ⟨hw.store, hw.threads_modify (.refl k t b)
          (Thread.Thinned.deliver hname hout hrest hk ho)⟩
    | @flushing k g u patience gate point todo done frame' rest rest' hstaff hp hcommands hrest =>
      refine .inr ⟨by simp only [System.isFlushing, hthread, Frame.isFlushing], ?_⟩
      simp only [Option.bind_some, Thread.expired?]
      cases hexpired : (Frame.flush g patience gate point).expired? w.store with
      | none => exact hw
      | some o =>
        have hx : Thread.Thinned b t ⟨name, .commands todo (o.reply :: done) :: rest, out⟩
            ⟨name', frame' :: rest', out'⟩ := ⟨hname, .frames (hcommands o.reply) hrest, hout⟩
        exact ⟨hw.store, hw.threads_modify_left (.refl k t b) hthread' hx⟩

/-- Nothing has happened yet. -/
theorem boot (queued : String → Prop) (probes : Array Probe) (environment : Environment) (output : Output) :
    System.Thinned { queued } (System.boot probes environment output) (System.boot probes environment output) where
  store :=
    { entries := fun _ => .none rfl
      guards := fun _ => .none rfl
      calls := fun _ => .none rfl
      acks := ⟨fun h => (nomatch h), fun h => (nomatch h), fun _ => rfl⟩
      probes := rfl
      names := rfl
      processWide := rfl
      environment := rfl
      output := ⟨rfl, rfl, .same _⟩
      named := fun h => nomatch h
      running := fun h => nomatch h }
  threads := fun _ => .none rfl

end System.Thinned

/-! ## What happens -/

/-- Something that happens to a process whose queues are all within everyone's reach. -/
inductive Happening where
  | event (event : Event)
  /-- An outsider puts a number into the source of any guard, known or not. -/
  | put (guard : GuardId) (id : HandleId)
  /-- An outsider interrupts the source of any guard, and destroys the requests that were pending before
  anything else happens. -/
  | interrupt (guard : GuardId)

/-- The source of a guard is interrupted, and the requests that were pending are destroyed. -/
def Store.interruptAtOnce (s : Store) (g : GuardId) : Store :=
  (s.interrupt g).2.foldl closeAck (s.interrupt g).1

/-- The system after something has happened. -/
def System.happens (w : System) : Happening → System
  | .event e => w.occur e
  | .put g id => { w with store := (w.store.enqueue g (.reclaim id)).1 }
  | .interrupt g => { w with store := w.store.interruptAtOnce g }

/-- The system after a list of happenings. -/
def System.ensue (w : System) : List Happening → System
  | [] => w
  | h :: hs => (w.happens h).ensue hs

/-- The second happening is the first, with a pruned script if it is a thread that joins. -/
inductive Happening.Pruned (queued : String → Prop) : List Lot → Happening → Happening → Prop where
  | join (name : ThreadName) {ls : List Lot} {cs cs' : List Command} : Reclaim.Pruned queued ls cs cs' →
      Happening.Pruned queued ls (.event (.join name cs)) (.event (.join name cs'))
  | same (h : Happening) : (∀ name cs, h ≠ .event (.join name cs)) → Happening.Pruned queued [] h h

/-- Something that happens, and what is left of it without some calls to flush. -/
structure Prunes (queued : String → Prop) where
  full : Happening
  rest : Happening
  /-- What becomes of the commands of a thread that joins. -/
  lots : List Lot
  pruned : Happening.Pruned queued lots full rest

/-! ### One happening -/

namespace Store.Thinned
variable {b b' : Bond} {s s' : Store}

/-- A thread more changes nothing of what corresponds in the stores. -/
theorem joined (h : s.Thinned b s') (t : ThreadId) (ls : List Lot) (hg : b.Grows (b.onScript t ls)) :
    s.Thinned (b.onScript t ls) s' :=
  { h with
    entries := h.entries_mono hg rfl
    guards := h.guards_mono hg rfl fun _ _ _ => rfl
    calls := h.calls_mono hg rfl }

/-- A holder gives out shares in both. -/
theorem share (h : s.Thinned b s') (id : HandleId) (shares : Nat) :
    (s.modifyEntry id fun e => { e with owners := e.owners + shares }).Thinned b
      (s'.modifyEntry id fun e => { e with owners := e.owners + shares }) :=
  h.modifyEntry id fun e e' he => by
    cases he with
    | intro hbody hf => exact .intro hbody hf

end Store.Thinned

namespace System.Thinned
variable {b b' : Bond} {w w' : System}

theorem interruptAtOnce (hw : System.Thinned b w w') (g : GuardId) :
    System.Thinned b { w with store := w.store.interruptAtOnce g }
      { w' with store := w'.store.interruptAtOnce g } := by
  obtain ⟨hm, hks⟩ := hw.store.interrupt g
  refine ⟨?_, hw.threads⟩
  simp only [Store.interruptAtOnce]
  generalize (w.store.interrupt g).1 = s, (w'.store.interrupt g).1 = s' at hm
  generalize (w.store.interrupt g).2 = ks, (w'.store.interrupt g).2 = ks' at hks
  induction hks generalizing s s' with
  | nil => exact hm
  | kept hk _ ih => exact ih _ _ (hm.closeAck hk)
  | cut hk _ ih => exact ih _ _ (hm.closeAck_cut hk)

theorem isHeld (hw : System.Thinned b w w') (id : HandleId) : w'.isHeld id = w.isHeld id := by
  rw [System.isHeld, System.isHeld]
  have he := hw.store.resource? id
  generalize w.store.resource? id = e, w'.store.resource? id = e' at he
  cases he with
  | none => rfl
  | some he => cases he with | intro => rfl

theorem isExposed (hw : System.Thinned b w w') (g : GuardId) : w'.isExposed g = w.isExposed g := by
  rw [System.isExposed, System.isExposed]
  have hx := hw.store.guard? g
  generalize w.store.guard? g = x, w'.store.guard? g = x' at hx
  cases hx with
  | none => rfl
  | some hx =>
    cases hx with
    | intro _ hsource _ => exact congrArg Option.isSome hsource.gate

/-- The number goes into both sources, or into neither. -/
theorem put (hw : System.Thinned b w w') (g : GuardId) (id : HandleId) :
    System.Thinned b { w with store := (w.store.enqueue g (.reclaim id)).1 }
      { w' with store := (w'.store.enqueue g (.reclaim id)).1 } :=
  ⟨(hw.store.enqueue g (.reclaim id)).store, hw.threads⟩

/-- Something that happens to both, or a move of one alone at a call or at a request that the other goes
without. -/
theorem happens (hw : System.Thinned b w w') {ls : List Lot} {h h' : Happening}
    (hp : Happening.Pruned b.queued ls h h') : ∃ b', b.Grows b' ∧
      (∀ name cs, h = .event (.join name cs) → b'.scripts w.threads.size = some ls) ∧
      (System.Thinned b' (w.happens h) (w'.happens h') ∨
        ∃ m : Move, h = .event (.move m) ∧ w.isFlushing m.thread = true ∧
          System.Thinned b' (w.happens h) w') := by
  cases hp with
  | @join name ls cs cs' hp =>
    have hfresh := hw.threads.fresh_of_le (Nat.le_refl w.threads.size)
    have hg := b.grows_onScript hfresh ls
    refine ⟨_, hg, fun _ _ _ => Function.update_self .., .inl ⟨hw.store.joined _ _ hg, ?_⟩⟩
    have hcommands : Frame.Thinned (b.onScript w.threads.size ls) w.threads.size (.script ([] ++ ls))
      (.commands cs []) (.commands cs' []) := .commands .nil hp
    refine hw.threads.push ⟨rfl, .frames hcommands (.script (Function.update_self ..)), .none⟩
      (fun t _ _ _ hx => hx.mono hg fun _ => rfl) fun t hlt hnone => ?_
    exact (Function.update_of_ne (Nat.ne_of_gt hlt) ..).trans hnone
  | same h hne =>
    have both (heq : System.Thinned b (w.happens h) (w'.happens h)) : ∃ b', b.Grows b' ∧
        (∀ name cs, h = .event (.join name cs) → b'.scripts w.threads.size = some []) ∧
        (System.Thinned b' (w.happens h) (w'.happens h) ∨
          ∃ m : Move, h = .event (.move m) ∧ w.isFlushing m.thread = true ∧
            System.Thinned b' (w.happens h) w') :=
      ⟨b, .refl b, fun name cs h => (hne name cs h).elim, .inl heq⟩
    cases h with
    | put g id => exact both (hw.put g id)
    | interrupt g => exact both (hw.interruptAtOnce g)
    | event e =>
      cases e with
      | join name script => exact (hne name script rfl).elim
      | share id shares =>
        refine both ?_
        simp only [System.happens, System.occur, hw.isHeld]
        split
        · exact ⟨hw.store.share id shares, hw.threads⟩
        · exact hw
      | inject g id =>
        refine both ?_
        have hknows : w'.knows id = w.knows id := by rw [System.knows, System.knows, hw.store.names]
        simp only [System.happens, System.occur, hknows, hw.isExposed]
        split
        · exact hw.put g id
        · exact hw
      | move m =>
        cases m with
        | act t =>
          obtain ⟨b', hg, -, hboth | ⟨hflushing, halone⟩⟩ := hw.act t
          · exact ⟨b', hg, fun _ _ h => (by cases h), .inl hboth⟩
          · exact ⟨b', hg, fun _ _ h => (by cases h), .inr ⟨_, rfl, hflushing, halone⟩⟩
        | expire t =>
          rcases hw.expire t with hboth | ⟨hflushing, halone⟩
          · exact both hboth
          · exact ⟨b, .refl b, fun _ _ h => (by cases h), .inr ⟨_, rfl, hflushing, halone⟩⟩

end System.Thinned

/-! ## Answers so far -/

/-- The answers that a script has got so far. -/
def Frame.answered : Frame → List Reply
  | .commands _ done => done.reverse
  | _ => []

/-- The answers that the script of a thread has got so far; its frame is at the bottom of the stack. -/
def Thread.answered (x : Thread) : List Reply :=
  match x.outcome with
  | some (.did rs) => rs
  | _ => (x.stack.getLast?.map Frame.answered).getD []

/-- What is left of the first answers of a script. -/
def Partly (ls : List Lot) (rs rs' : List Reply) : Prop := ∃ ms, ms <+: ls ∧ Answers ms rs rs'

namespace Answers
variable {ls : List Lot} {rs rs' qs : List Reply} {r : Reply}

theorem length_eq (h : Answers ls rs rs') : ls.length = rs.length := by
  induction h with
  | nil => rfl
  | cut _ _ ih => exact congrArg (· + 1) ih
  | kept _ _ ih => exact congrArg (· + 1) ih
  | shown _ _ ih => exact congrArg (· + 1) ih

/-- The last answer was left out, or has its counterpart. -/
theorem snoc_cases (h : Answers ls (rs ++ [r]) rs') : ∃ ms lot, ls = ms ++ [lot] ∧
    (Answers ms rs rs' ∨ ∃ r' qs', rs' = qs' ++ [r'] ∧ r.Shown r' ∧ Answers ms rs qs') := by
  induction rs generalizing ls rs' with
  | nil =>
    cases h with
    | cut _ h => cases h with | nil => exact ⟨[], .cut, rfl, .inl .nil⟩
    | kept _ h => cases h with | nil => exact ⟨[], .kept, rfl, .inr ⟨r, [], rfl, .same r, .nil⟩⟩
    | shown hr h => cases h with | nil => exact ⟨[], .shown, rfl, .inr ⟨_, [], rfl, hr, .nil⟩⟩
  | cons q rs ih =>
    cases h with
    | cut _ h =>
      obtain ⟨ms, lot, rfl, h | ⟨r', qs', rfl, hr, h⟩⟩ := ih h
      · exact ⟨.cut :: ms, lot, rfl, .inl (h.cut q)⟩
      · exact ⟨.cut :: ms, lot, rfl, .inr ⟨r', qs', rfl, hr, h.cut q⟩⟩
    | kept _ h =>
      obtain ⟨ms, lot, rfl, h | ⟨r', qs', rfl, hr, h⟩⟩ := ih h
      · exact ⟨.kept :: ms, lot, rfl, .inl (h.kept q)⟩
      · exact ⟨.kept :: ms, lot, rfl, .inr ⟨r', q :: qs', rfl, hr, h.kept q⟩⟩
    | @shown _ q' _ _ _ hq h =>
      obtain ⟨ms, lot, rfl, h | ⟨r', qs', rfl, hr, h⟩⟩ := ih h
      · exact ⟨.shown :: ms, lot, rfl, .inl (h.shown hq)⟩
      · exact ⟨.shown :: ms, lot, rfl, .inr ⟨r', q' :: qs', rfl, hr, h.shown hq⟩⟩

/-- What is left of the same answers differs in what is shown only. -/
theorem coherent (h : Answers ls rs rs') (h' : Answers ls rs qs) :
    List.Forall₂ (fun r r' => ∃ q : Reply, q.Shown r ∧ q.Shown r') rs' qs := by
  induction h generalizing qs with
  | nil =>
    cases h' with
    | nil => exact .nil
  | cut r _ ih =>
    cases h' with
    | cut _ h' => exact ih h'
  | kept r _ ih =>
    cases h' with
    | kept _ h' => exact .cons ⟨r, .same r, .same r⟩ (ih h')
  | @shown r r' _ _ _ hr _ ih =>
    cases h' with
    | shown hr' h' => exact .cons ⟨r, hr, hr'⟩ (ih h')

end Answers

/-- Of two answers that are not alike at most one can stand for the same answer. -/
theorem Reply.Shown.not_both {q : Reply} (h : q.Shown .done) (h' : q.Shown (.flag true)) : False := by
  cases h with
  | same => cases h'

/-- An answer that may be any has been left out if what is left does not depend on it. -/
theorem Partly.of_forall {ls : List Lot} {rs rs' : List Reply}
    (h : ∀ r, r = .done ∨ r = .flag true → Partly ls (rs ++ [r]) rs') : Partly ls rs rs' := by
  obtain ⟨ms, hms, h₁⟩ := h .done (.inl rfl)
  obtain ⟨ns, hns, h₂⟩ := h (.flag true) (.inr rfl)
  obtain ⟨ms, lot, rfl, h₁ | ⟨r₁, qs₁, rfl, hr₁, h₁⟩⟩ := h₁.snoc_cases
  · exact ⟨ms, (List.prefix_append ms [lot]).trans hms, h₁⟩
  obtain ⟨ns, lot', rfl, h₂ | ⟨r₂, qs₂, heq, hr₂, h₂⟩⟩ := h₂.snoc_cases
  · exact ⟨ns, (List.prefix_append ns [lot']).trans hns, h₂⟩
  · obtain ⟨-, rfl⟩ := List.append_singleton_inj.mp heq
    cases hr₁ with
    | same => cases hr₂

/-- An answer that may be any, and is given on both sides, has its counterpart. -/
theorem Partly.of_forall_snoc {ls : List Lot} {rs rs' : List Reply}
    (h : ∀ r, r = .done ∨ r = .flag true → Partly ls (rs ++ [r]) (rs' ++ [r])) : Partly ls rs rs' := by
  obtain ⟨ms, hms, h₁⟩ := h .done (.inl rfl)
  obtain ⟨ns, hns, h₂⟩ := h (.flag true) (.inr rfl)
  obtain ⟨ms, lot, rfl, h₁ | ⟨r₁, qs₁, heq, hr₁, h₁⟩⟩ := h₁.snoc_cases
  · obtain ⟨ns, lot', rfl, h₂ | ⟨r₂, qs₂, heq, hr₂, h₂⟩⟩ := h₂.snoc_cases
    · -- the same answers would be left with either answer at their end
      have hlots : ms = ns := by
        refine (List.prefix_of_prefix_length_le ((List.prefix_append ms [lot]).trans hms)
          ((List.prefix_append ns [lot']).trans hns) ?_).eq_of_length ?_
        · rw [h₁.length_eq, h₂.length_eq]
        · rw [h₁.length_eq, h₂.length_eq]
      subst hlots
      have hall := h₁.coherent h₂
      have hlast := List.forall₂_reverse_iff.mpr hall
      rw [List.reverse_append, List.reverse_append] at hlast
      cases hlast with
      | cons hr _ =>
        obtain ⟨q, hq, hq'⟩ := hr
        exact (hq.not_both hq').elim
    · obtain ⟨rfl, -⟩ := List.append_singleton_inj.mp heq
      exact ⟨ns, (List.prefix_append ns [lot']).trans hns, h₂⟩
  · obtain ⟨rfl, -⟩ := List.append_singleton_inj.mp heq
    exact ⟨ms, (List.prefix_append ms [lot]).trans hms, h₁⟩

/-- Only a script waits as a script, and it gets the answer. -/
theorem Frame.receive_eq_commands {x : Frame} {o : Outcome} {todo : List Command} {done : List Reply}
    (h : x.receive o = .commands todo done) :
    ∃ before, x = .commands todo before ∧ done = o.reply :: before := by
  unfold Frame.receive at h
  split at h <;> first | cases h
  exact ⟨_, rfl, rfl⟩

section Answered
variable {b : Bond} {t : ThreadId} {k : Yield}

/-- What a frame says of the answers so far: those of a script correspond, and a worker has none. -/
def Frame.Reckons (k : Yield) (x x' : Frame) : Prop :=
  match k with
  | .script ls => Partly ls x.answered x'.answered
  | .plain => True
  | .loop => x.answered = [] ∧ x'.answered = []

theorem Frame.Thinned.reckons {x x' : Frame} (h : Frame.Thinned b t k x x') : Frame.Reckons k x x' := by
  cases h with
  | commands ha _ => exact ⟨_, List.prefix_append _ _, ha⟩
  | worker => exact ⟨rfl, rfl⟩
  | late => exact ⟨rfl, rfl⟩
  | _ => trivial

theorem Frame.Awaits.reckons {x x' : Frame} (h : Frame.Awaits b t k x x') : Frame.Reckons k x x' := by
  cases k with
  | plain => trivial
  | loop =>
    have hframe := h .done rfl
    generalize hx : x.receive .done = y, hx' : x'.receive .done = y' at hframe
    have hnone {x y : Frame} (hx : x.receive .done = y) (hy : ∀ todo done, y ≠ .commands todo done) :
        x.answered = [] := by
      cases x with
      | commands todo done => exact (hy _ _ hx.symm).elim
      | _ => rfl
    cases hframe with
    | worker => exact ⟨hnone hx fun _ _ h => (by cases h), hnone hx' fun _ _ h => (by cases h)⟩
    | late => exact ⟨hnone hx fun _ _ h => (by cases h), hnone hx' fun _ _ h => (by cases h)⟩
  | script ls =>
    refine Partly.of_forall_snoc fun r hr => ?_
    have hframe := h (.value r) (by cases hr <;> rfl)
    generalize hx : x.receive (.value r) = y, hx' : x'.receive (.value r) = y' at hframe
    cases hframe with
    | commands ha _ =>
      obtain ⟨done, rfl, rfl⟩ := Frame.receive_eq_commands hx
      obtain ⟨done', rfl, rfl⟩ := Frame.receive_eq_commands hx'
      rw [List.reverse_cons, List.reverse_cons] at ha
      exact ⟨_, List.prefix_append _ _, ha⟩

/-- The frame at the bottom says so of the script of the thread. -/
theorem Rest.partly {xs xs' : List Frame} (hr : Rest b t k xs xs') {x x' : Frame} (hx : Frame.Reckons k x x')
    {ls : List Lot} (hs : b.scripts t = some ls) :
    ∃ y y', (x :: xs).getLast? = some y ∧ (x' :: xs').getLast? = some y' ∧
      Partly ls y.answered y'.answered := by
  induction hr generalizing x x' with
  | script hs' =>
    obtain rfl := Option.some.inj (hs.symm.trans hs')
    exact ⟨x, x', rfl, rfl, hx⟩
  | loop => exact ⟨x, x', rfl, rfl, [], List.nil_prefix, by rw [hx.1, hx.2]; exact .nil⟩
  | @body id call _ _ _ _ _ _ ih =>
    have hrunning : Frame.Reckons .plain (.callback id (.running call)) (.callback id (.running call)) := trivial
    obtain ⟨y, y', hy, hy', hp⟩ := ih hrunning
    exact ⟨y, y', by rw [List.getLast?_cons_cons, hy], by rw [List.getLast?_cons_cons, hy'], hp⟩
  | caller hawaits _ ih =>
    obtain ⟨y, y', hy, hy', hp⟩ := ih hawaits.reckons
    exact ⟨y, y', by rw [List.getLast?_cons_cons, hy], by rw [List.getLast?_cons_cons, hy'], hp⟩

/-- What is left of the answers that a thread's script has got so far. -/
theorem Thread.Thinned.partly {x x' : Thread} (h : Thread.Thinned b t x x') {ls : List Lot}
    (hs : b.scripts t = some ls) : Partly ls x.answered x'.answered := by
  obtain ⟨name, stack, out⟩ := x
  obtain ⟨name', stack', out'⟩ := x'
  obtain ⟨-, hstack, hout⟩ := h
  have hlast : Partly ls ((stack.getLast?.map Frame.answered).getD [])
      ((stack'.getLast?.map Frame.answered).getD []) := by
    cases hstack with
    | empty => exact ⟨[], List.nil_prefix, .nil⟩
    | frames hx hr =>
      obtain ⟨y, y', hy, hy', hp⟩ := hr.partly hx.reckons hs
      rw [hy, hy']
      exact hp
    | @flushing k g _ patience gate point todo done x' xs xs' _ _ hx hr =>
      have hreckons : Frame.Reckons k (.commands todo done) x' := by
        cases k with
        | plain => trivial
        | loop => nomatch hx .done
        | script ls =>
          refine Partly.of_forall fun r _ => ?_
          have hpartly := (hx r).reckons
          simp only [Frame.Reckons, Frame.answered, List.reverse_cons] at hpartly
          exact hpartly
      obtain ⟨y, y', hy, hy', hp⟩ := hr.partly hreckons hs
      rw [List.getLast?_cons_cons, hy, hy']
      exact hp
  cases hout with
  | none => exact hlast
  | @some o _ ho =>
    cases ho with
    | did hs' ha =>
      obtain rfl := Option.some.inj (hs.symm.trans hs')
      exact ⟨_, List.prefix_rfl, ha⟩
    | same _ hplain =>
      cases o with
      | did => cases hplain
      | _ => exact hlast

end Answered

/-! ## What both runs come to -/

/-- The second guard has come to the same: configuration, registry, counters, diagnostics, the end of its worker. Its
source lacks the requests that were not made, and the worker is said to wait while the other is at one of them. -/
structure Guard.Reflects (acks : Nat → Option (Option Nat)) (x x' : Guard) : Prop where
  alike : x' = { x with source := x'.source, state := x'.state }
  interrupted : x'.source.isInterrupted = x.source.isInterrupted
  pending : Abridged acks x.source.queue.items x'.source.queue.items
  delivered : Abridged acks x.source.delivered x'.source.delivered
  state : x'.state = x.state ∨ x'.state = .waiting ∧ x.state ≠ .stopped ∧
    ∃ k rest, acks k = some none ∧ x.source.delivered = .flush k :: rest

/-- The answers that the script of a thread has got so far. -/
def System.answered (w : System) (t : ThreadId) : List Reply := ((w.thread? t).map Thread.answered).getD []

/-- The second system has come to the same, but for the calls to flush that were left out. -/
structure System.Reflects (b : Bond) (w w' : System) : Prop where
  entries : ∀ id, Option.Rel (Entry.Thinned b id) (w.store.resource? id) (w'.store.resource? id)
  guards : ∀ g, Option.Rel (Guard.Reflects b.acks) (w.store.guard? g) (w'.store.guard? g)
  /-- The runs of callbacks, in order, with their threads and answers. -/
  calls : ∀ i, Option.Rel (Call.Thinned b i) w.store.calls[i]? w'.store.calls[i]?
  /-- The requests that were made in both runs have come to the same. -/
  requests : Matched b.acks w.store.acks w'.store.acks
  probes : w'.store.probes = w.store.probes
  names : w'.store.names = w.store.names
  processWide : w'.store.processWide = w.store.processWide
  output : Output.Thinned w.store.output w'.store.output
  threads : ∀ t, Option.Rel
    (fun x x' : Thread => x'.name = x.name ∧ Option.Rel (Outcome.Thinned b t) x.outcome x'.outcome)
    (w.thread? t) (w'.thread? t)
  answers : ∀ t ls, b.scripts t = some ls → Partly ls (w.answered t) (w'.answered t)

/-- A run and what is left of it: the second system goes along with the first, but for moves of threads that are
at a call to flush or at a request. All the way both have come to the same. -/
inductive System.Follows {queued : String → Prop} :
    Bond → System → System → List (Prunes queued) → List Happening → Prop where
  | done {b : Bond} {w w' : System} : System.Reflects b w w' → Follows b w w' [] []
  | both {b b' : Bond} {w w' : System} (p : Prunes queued) {ps : List (Prunes queued)} {hs : List Happening} :
      System.Reflects b w w' → b.Grows b' →
        (∀ name cs, p.full = .event (.join name cs) → b'.scripts w.threads.size = some p.lots) →
          Follows b' (w.happens p.full) (w'.happens p.rest) ps hs → Follows b w w' (p :: ps) (p.rest :: hs)
  | left {b b' : Bond} {w w' : System} {p : Prunes queued} (m : Move) {ps : List (Prunes queued)}
      {hs : List Happening} : System.Reflects b w w' → b.Grows b' → p.full = .event (.move m) →
        w.isFlushing m.thread = true → Follows b' (w.happens p.full) w' ps hs → Follows b w w' (p :: ps) hs

theorem Both.rel {α β : Type} {R R' : α → β → Prop} {fresh : Prop} {x : Option α} {y : Option β}
    (h : Both R fresh x y) (hR : ∀ a b, R a b → R' a b) : Option.Rel R' x y := by
  cases h with
  | some h => exact .some (hR _ _ h)
  | none => exact .none

theorem Guard.Thinned.reflects {b : Bond} {g : GuardId} {x x' : Guard} (h : Guard.Thinned b g x x') :
    Guard.Reflects b.acks x x' := by
  cases h with
  | intro _ hsource hstate =>
    refine ⟨rfl, hsource.interrupted, hsource.items, hsource.delivered, ?_⟩
    cases hp : b.post g with
    | level =>
      rw [hp] at hstate
      exact .inl hstate
    | idle =>
      rw [hp] at hstate
      exact .inl (hstate.2.trans hstate.1.symm)
    | late =>
      rw [hp] at hstate
      obtain ⟨-, hne, hwaiting, hlast⟩ := hstate
      exact .inr ⟨hwaiting, hne, hlast⟩

namespace System.Thinned
variable {b : Bond} {w w' : System}

theorem reflects (hw : System.Thinned b w w') : System.Reflects b w w' where
  entries id := (hw.store.resource? id).rel fun _ _ h => h
  guards g := (hw.store.guard? g).rel fun _ _ h => h.reflects
  calls i := (hw.store.calls i).rel fun _ _ h => h
  requests := hw.store.acks
  probes := hw.store.probes
  names := hw.store.names
  processWide := hw.store.processWide
  output := hw.store.output
  threads t := (hw.threads t).rel fun _ _ h => ⟨h.name, h.outcome⟩
  answers t ls hs := by
    have hpair := hw.threads t
    rw [System.answered, System.answered, System.thread?, System.thread?]
    generalize w.threads[t]? = x, w'.threads[t]? = x' at hpair
    cases hpair with
    | some hx => exact hx.partly hs
    | none => exact ⟨[], List.nil_prefix, .nil⟩

/-- Of every run a run is left that goes along with it. -/
theorem run (hw : System.Thinned b w w') {queued : String → Prop} (hq : b.queued = queued)
    (ps : List (Prunes queued)) : ∃ hs, System.Follows b w w' ps hs := by
  induction ps generalizing b w w' with
  | nil => exact ⟨[], .done hw.reflects⟩
  | cons p ps ih =>
    have hpruned : Happening.Pruned b.queued p.lots p.full p.rest := by
      rw [hq]
      exact p.pruned
    obtain ⟨b', hg, hjoined, hnext | ⟨m, hm, hflushing, hnext⟩⟩ := hw.happens hpruned
    · obtain ⟨hs, hfollows⟩ := ih hnext (hg.queued.trans hq)
      exact ⟨p.rest :: hs, .both p hw.reflects hg hjoined hfollows⟩
    · obtain ⟨hs, hfollows⟩ := ih hnext (hg.queued.trans hq)
      exact ⟨hs, .left m hw.reflects hg hm hflushing hfollows⟩

end System.Thinned

/-- The threads that join, and what becomes of the commands of their scripts. -/
def System.enrolled {queued : String → Prop} (w : System) : List (Prunes queued) → List (ThreadId × List Lot)
  | [] => []
  | p :: ps =>
    match p.full with
    | .event (.join ..) => (w.threads.size, p.lots) :: (w.happens p.full).enrolled ps
    | _ => (w.happens p.full).enrolled ps

/-- At the end both have come to the same. -/
theorem System.Follows.ensue {queued : String → Prop} {b : Bond} {w w' : System} {ps : List (Prunes queued)}
    {hs : List Happening} (h : System.Follows b w w' ps hs) :
    ∃ b', b.Grows b' ∧ (∀ x ∈ w.enrolled ps, b'.scripts x.1 = some x.2) ∧
      System.Reflects b' (w.ensue (ps.map Prunes.full)) (w'.ensue hs) := by
  induction h with
  | done hr => exact ⟨_, .refl _, fun _ h => (nomatch h), hr⟩
  | @both b b' w w' p ps hs _ hg hjoined _ ih =>
    obtain ⟨b'', hg', henrolled, hr⟩ := ih
    refine ⟨b'', hg.trans hg', fun x hx => ?_, hr⟩
    rw [System.enrolled] at hx
    split at hx
    · next name cs hfull =>
      rcases List.mem_cons.mp hx with rfl | hx
      · exact hg'.scripts (hjoined name cs hfull)
      · exact henrolled x hx
    · exact henrolled x hx
  | @left b b' w w' p m ps hs _ hg hm _ _ ih =>
    obtain ⟨b'', hg', henrolled, hr⟩ := ih
    refine ⟨b'', hg.trans hg', fun x hx => henrolled x ?_, hr⟩
    rw [System.enrolled, hm] at hx
    rw [hm]
    exact hx

/-- **Requests to flush leave no trace.** Whatever calls to flush guards over queues are left out of the scripts
and callbacks of a run, a run is left that goes along with it, without the moves at these calls and at their
requests; and all the way, and at the end, both have come to the same. -/
theorem System.flushes_transparent (probes : Array Probe) (environment : Environment) (output : Output)
    (queued : String → Prop) (ps : List (Prunes queued)) :
    ∃ hs, System.Follows { queued } (System.boot probes environment output)
        (System.boot probes environment output) ps hs ∧
      ∃ b : Bond, b.queued = queued ∧
        (∀ x ∈ (System.boot probes environment output).enrolled ps, b.scripts x.1 = some x.2) ∧
        System.Reflects b ((System.boot probes environment output).ensue (ps.map Prunes.full))
          ((System.boot probes environment output).ensue hs) := by
  obtain ⟨hs, hfollows⟩ := (System.Thinned.boot queued probes environment output).run rfl ps
  obtain ⟨b, hg, henrolled, hr⟩ := hfollows.ensue
  exact ⟨hs, hfollows, b, hg.queued, henrolled, hr⟩


/-! ## A run without its flushes -/

/-- A move, to go along with or to leave out. -/
def Prunes.move {queued : String → Prop} (m : Move) : Prunes queued :=
  ⟨.event (.move m), .event (.move m), [], .same _ nofun⟩

/-- A handle is dropped. One call to flush is answered, another gives up while its request is pending, which is
destroyed when the guard is shut down. -/
def flushed : List Command :=
  [.startGuard "g" {} .plain none, .register (.guard "g") "x" { address := 1, callback := some {} }, .drop "x",
    .flush "g" .unlimited .opens, .flush "g" .deadline .opens, .shutdown "g", .ask (.stats "g")]

/-- The same without the calls to flush. -/
def unflushed : List Command :=
  [.startGuard "g" {} .plain none, .register (.guard "g") "x" { address := 1, callback := some {} }, .drop "x",
    .shutdown "g", .ask (.stats "g")]

theorem pruned_flushed :
    Pruned (fun name => name = "g") [.kept, .kept, .kept, .cut, .cut, .kept, .kept] flushed unflushed := by
  have simple : ∀ {c : Command} {ls cs cs'}, c.isSimple = true → Pruned (fun name => name = "g") ls cs cs' →
      Pruned (fun name => name = "g") (c.lot :: ls) (c :: cs) (c :: cs') :=
    fun hc h => .kept (.simple hc) h
  refine .kept (.startGuard {} none fun _ => rfl) (.kept (.register _ _ (.callback _ _ (.bare _ _ _))) ?_)
  exact simple (c := .drop "x") rfl (.cut _ _ rfl (.cut _ _ rfl
    (simple (c := .shutdown "g") rfl (simple (c := .ask (.stats "g")) rfl .nil))))

/-- A schedule for the script and the worker of its guard. -/
def flushingMoves : List Move :=
  List.replicate 18 (.act 0) ++ List.replicate 20 (.act 1) ++ List.replicate 6 (.act 0) ++ .expire 0 ::
    List.replicate 6 (.act 0) ++ List.replicate 8 (.act 1) ++ List.replicate 4 (.act 0)

/-- The run of the script, to be left without its calls to flush. -/
def flushing : List (Prunes fun name => name = "g") :=
  ⟨.event (.join .caller flushed), .event (.join .caller unflushed), _, .join .caller pruned_flushed⟩ ::
    flushingMoves.map Prunes.move

theorem System.flushes_transparent_flushing :
    ∃ hs, System.Follows { queued := fun name => name = "g" } (System.boot #[] none {}) (System.boot #[] none {})
        flushing hs ∧
      ((((System.boot #[] none {}).ensue (flushing.map Prunes.full)).thread? 0).bind Thread.outcome =
        some (.did [.text "ok", .info ⟨⟨1⟩, 1, none, .active⟩, .done, .flag true, .flag false, .done,
          .stats ⟨1, 0, 1, 0, 0⟩])) ∧
      ((((System.boot #[] none {}).ensue hs).thread? 0).bind Thread.outcome =
        some (.did [.text "ok", .info ⟨⟨1⟩, 1, none, .active⟩, .done, .done, .stats ⟨1, 0, 1, 0, 0⟩])) := by
  obtain ⟨hs, hfollows, b, -, hscripts, hreflects⟩ :=
    System.flushes_transparent #[] none {} (fun name => name = "g") flushing
  have hfull : ((((System.boot #[] none {}).ensue (flushing.map Prunes.full)).thread? 0).bind Thread.outcome =
      some (.did [.text "ok", .info ⟨⟨1⟩, 1, none, .active⟩, .done, .flag true, .flag false, .done,
        .stats ⟨1, 0, 1, 0, 0⟩])) := by
    decide +kernel
  have hlots : b.scripts 0 = some [.kept, .kept, .kept, .cut, .cut, .kept, .kept] :=
    hscripts (0, _) (List.mem_cons_self ..)
  refine ⟨hs, hfollows, hfull, ?_⟩
  have hthread := hreflects.threads 0
  generalize ((System.boot #[] none {}).ensue (flushing.map Prunes.full)).thread? 0 = x,
    ((System.boot #[] none {}).ensue hs).thread? 0 = x' at hfull hthread
  cases hthread with
  | none => cases hfull
  | @some x x' hx =>
    obtain ⟨-, houtcome⟩ := hx
    simp only [Option.bind_some] at hfull ⊢
    rw [hfull] at houtcome
    generalize x'.outcome = o at houtcome
    cases houtcome with
    | some h =>
      cases h with
      | same _ hplain => cases hplain
      | did hs ha =>
        cases hlots.symm.trans hs
        -- the answers to the calls to flush are left out
        rw [ha.eq_kept (by decide)]
        rfl

end Reclaim

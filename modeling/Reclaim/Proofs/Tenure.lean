import Reclaim.Proofs.Fixtures

/-!
# The process-wide guard

Whatever is done in a process, it has one process-wide guard at most. Until that guard starts, every
configuration chosen for it is accepted, and a start that fails changes nothing; it starts with the
configuration accepted last, or else with the one that the environment asks for at that moment. From then
on everybody who asks for it gets it, and every choice comes too late.

* `Bid`, `System.bidding` : what is done with the process-wide guard, and what came of it, in order;
* `Bid.config` : the configuration that all that asks for;
* `Tenure.Step` : what an action does to what the store knows of it;
* `Store.Tenured`, `Store.Tenured.step` : what all bids so far come to;
* `System.process_wide_life`.
-/

namespace Reclaim

/-! ## Bids -/

/-- Something done with the process-wide guard, and what came of it. -/
inductive Bid where
  /-- A configuration was chosen for it. -/
  | chose (config : Config) (accepted : Bool)
  /-- The environment was changed. -/
  | changed (environment : Environment)
  /-- Somebody has asked for it and got this guard, which may have been started for that. -/
  | granted (g : GuardId) (started : Bool)
  /-- Somebody has asked for it in vain. -/
  | denied

namespace Bid

/-- The configuration, if it was accepted. -/
def accepted? : Bid → Option Config
  | chose config true => some config
  | _ => none

/-- The new environment. -/
def changed? : Bid → Option Environment
  | changed environment => some environment
  | _ => none

/-- Something that happens before the guard starts only: choices are accepted, and nobody gets it. -/
def isEarly : Bid → Bool
  | chose _ accepted => accepted
  | changed _ => true
  | granted .. => false
  | denied => true

/-- Something that happens after the guard has started: choices come too late, and everybody gets it. -/
def isLate (g : GuardId) : Bid → Bool
  | chose _ accepted => !accepted
  | changed _ => true
  | granted g' started => g' = g && !started
  | denied => false

/-- The environment after some bids. -/
def environment (first : Environment) (l : List Bid) : Environment :=
  (l.filterMap changed?).getLast?.getD first

/-- The configuration accepted last. -/
def chosen (l : List Bid) : Option Config := (l.filterMap accepted?).getLast?

/-- The configuration that some bids ask for: the one accepted last, or else the one that the environment
asks for. -/
def config (first : Environment) (l : List Bid) : Except Error Config :=
  match chosen l with
  | some config => .ok config
  | none => Config.fromEnvironment (environment first l)

end Bid

/-- The guard that somebody goes on with who has asked for the process-wide one. -/
def Frame.given : Frame → List GuardId
  | .bindGuard _ g => [g]
  | .register q _ => [q.guard]
  | _ => []

/-- What a command that acts at once does with the process-wide guard. -/
def Command.bids (s : Store) : Command → List Bid
  | .choose recorder setup =>
    match setup.config s.environment recorder with
    | .ok config => [.chose config (s.choose config).isOk]
    | .error _ => []
  | .setEnvironment environment => [.changed environment]
  | _ => []

/-- What somebody gets who has asked for the process-wide guard. -/
def Progress.bids : Progress → List Bid
  | .goto x => x.given.map (.granted · false)
  | .spawn _ _ x => x.given.map (.granted · true)
  | .finish _ => [.denied]
  | .call .. => []

/-- What the next action of a frame does with the process-wide guard. -/
def Frame.bids (fresh : ThreadId) (s : Store) : Frame → List Bid
  | .commands (c :: _) _ => c.bids s
  | .processWide p => (p.advance fresh s).2.bids
  | _ => []

namespace System

/-- What an event does with the process-wide guard. -/
def bids (w : System) : Event → List Bid
  | .move (.act t) =>
    match w.acting? t with
    | some frame => frame.bids w.threads.size w.store
    | none => []
  | _ => []

/-- What a list of events does with it. -/
def bidding (w : System) : List Event → List Bid
  | [] => []
  | event :: events => w.bids event ++ (w.occur event).bidding events

theorem bidding_append (w : System) (es es' : List Event) :
    w.bidding (es ++ es') = w.bidding es ++ (w.after es).bidding es' := by
  induction es generalizing w with
  | nil => rfl
  | cons e es ih =>
    simp only [List.cons_append, bidding, after, ih (w.occur e), List.append_assoc]

theorem bidding_snoc (w : System) (es : List Event) (e : Event) :
    w.bidding (es ++ [e]) = w.bidding es ++ (w.after es).bids e := by
  rw [bidding_append]
  simp [bidding]

end System

/-! ## What actions do to it -/

/-- What an action does to it: nothing, or what one bid does. -/
inductive Tenure.Step (a : Tenure) : List Bid → Tenure → Prop
  | rest : Step a [] a
  | change (environment : Environment) : Step a [.changed environment] { a with environment }
  | accept (config : Config) (h : a.running = none) :
      Step a [.chose config true] { a with chosen := some config }
  | refuse (config : Config) {g : GuardId} (h : a.running = some g) : Step a [.chose config false] a
  | grant {g : GuardId} (h : a.running = some g) : Step a [.granted g false] a
  | deny {e : Error} (h : a.running = none) (hnone : a.chosen = none)
      (hconfig : Config.fromEnvironment a.environment = .error e) : Step a [.denied] a
  | start (g : GuardId) (h : a.running = none) :
      Step a [.granted g true] { a with running := some g, chosen := none }

section Frames

/-- Choosing is accepted until the guard runs. -/
theorem Store.choose_eq (s : Store) (config : Config) : s.choose config =
    match s.processWide.running with
    | some _ => .error .alreadyRunning
    | none => .ok { s with processWide.chosen := some config } := rfl

theorem Command.bids_eq_nil (s : Store) {c : Command} (hrare : ¬ c.Rare) : c.bids s = [] := by
  cases c with
  | choose recorder setup => exact absurd (.choose recorder setup) hrare
  | setEnvironment environment => exact absurd (.setEnvironment environment) hrare
  | _ => rfl

theorem Command.Rare.begin_tenure {c : Command} (hc : c.Rare) (s : Store) :
    s.tenure.Step (c.bids s) (c.begin s).1.tenure := by
  cases hc with
  | setEnvironment environment => exact .change environment
  | failOn address => exact .rest
  | choose recorder setup =>
    simp only [bids, begin, begin?]
    cases setup.config s.environment recorder with
    | error e => exact .rest
    | ok config =>
      simp only [Store.choose_eq]
      cases hrunning : s.processWide.running with
      | none =>
        have hstep := Tenure.Step.accept (a := s.tenure) config hrunning
        simp only [Store.tenure, hrunning] at hstep ⊢
        exact hstep
      | some g => exact Tenure.Step.refuse (a := s.tenure) config hrunning

theorem Purpose.given_frame (p : Purpose) (g : GuardId) : (p.frame g).given = [g] := by
  cases p <;> rfl

theorem Purpose.advance_tenure (fresh : ThreadId) (s : Store) (p : Purpose) :
    s.tenure.Step (p.advance fresh s).2.bids (p.advance fresh s).1.tenure := by
  unfold advance
  cases hrunning : s.processWide.running with
  | some g =>
    simp only [Progress.bids, p.given_frame]
    exact .grant hrunning
  | none =>
    simp only [Store.processWideConfig]
    cases hchosen : s.processWide.chosen with
    | some config =>
      simp only [Progress.bids, p.given_frame]
      exact .start _ hrunning
    | none =>
      cases hconfig : Config.fromEnvironment s.environment with
      | error e => exact .deny hrunning hchosen hconfig
      | ok config =>
        simp only [Progress.bids, p.given_frame]
        exact .start _ hrunning

theorem Frame.bids_eq_nil (fresh : ThreadId) (s : Store) {frame : Frame} (hrare : ¬ frame.Rare) :
    frame.bids fresh s = [] := by
  unfold bids
  split
  · next c todo done => exact c.bids_eq_nil s fun hc => hrare (.command hc todo done)
  · next p => exact absurd (.processWide p) hrare
  · rfl

/-- Every frame makes one bid at most. -/
theorem Frame.advance_tenure (thread fresh : ThreadId) (s : Store) (frame : Frame) :
    s.tenure.Step (frame.bids fresh s) (frame.advance thread fresh s).1.tenure := by
  by_cases hrare : frame.Rare
  · cases hrare with
    | command hc todo done =>
      rw [advance, Script.advance_fst]
      exact hc.begin_tenure s
    | enter id =>
      obtain ⟨calls, probes, hstore⟩ := CallbackPoint.enter_eq s thread id
      rw [advance, hstore]
      exact .rest
    | claim g =>
      simp only [advance, ShutdownPoint.advance]
      repeat' split
      all_goals exact .rest
    | start q => exact .rest
    | processWide p => exact p.advance_tenure fresh s
  · rw [frame.bids_eq_nil fresh s hrare, show (frame.advance thread fresh s).1.tenure = s.tenure from
      congrArg Prod.fst (frame.routine thread fresh s hrare).fixtures]
    exact .rest

end Frames

/-! ## What all bids come to -/

namespace Bid
variable {first : Environment} {l : List Bid}

theorem environment_snoc (b : Bid) :
    environment first (l ++ [b]) = b.changed?.getD (environment first l) := by
  simp only [environment, List.filterMap_append, List.filterMap_cons, List.filterMap_nil]
  cases b.changed? <;> simp

theorem chosen_snoc (b : Bid) : chosen (l ++ [b]) = b.accepted?.or (chosen l) := by
  simp only [chosen, List.filterMap_append, List.filterMap_cons, List.filterMap_nil]
  cases b.accepted? <;> simp

end Bid

namespace Store
variable {s s' : Store} {first : Environment} {l : List Bid} {bids : List Bid}

/-- All that has been done with the process-wide guard: while it does not run, everything has been early;
if it does, it was granted for the first time when it was started, with the configuration that was asked for
before, and what came later was late. -/
structure Tenured (s : Store) (first : Environment) (l : List Bid) : Prop where
  environment : s.environment = Bid.environment first l
  vacant : s.processWide.running = none → s.processWide.chosen = Bid.chosen l ∧ ∀ b ∈ l, b.isEarly = true
  held : ∀ g, s.processWide.running = some g → ∃ l₁ l₂ x, l = l₁ ++ .granted g true :: l₂ ∧
    (∀ b ∈ l₁, b.isEarly = true) ∧ (∀ b ∈ l₂, b.isLate g = true) ∧
    s.gist? g = some x ∧ Bid.config first l₁ = .ok x.config
  /-- Whoever has asked in vain did so when the environment asked for nothing that there is, and nothing
  had been chosen. -/
  denied : ∀ l₁ l₂, l = l₁ ++ .denied :: l₂ → Bid.chosen l₁ = none ∧
    ∃ e, Config.fromEnvironment (Bid.environment first l₁) = .error e

/-- What the process-wide guard would start with now is what all bids so far ask for. -/
theorem Tenured.processWideConfig (h : s.Tenured first l) (hrunning : s.processWide.running = none) :
    s.processWideConfig = Bid.config first l := by
  cases hchosen : Bid.chosen l <;>
    simp only [Store.processWideConfig, Bid.config, (h.vacant hrunning).1, h.environment, hchosen]

/-- A failed attempt stays where it was in the log. -/
theorem Tenured.denied_snoc {b : Bid} (h : s.Tenured first l)
    (hb : b = .denied → Bid.chosen l = none ∧
      ∃ e, Config.fromEnvironment (Bid.environment first l) = .error e)
    (l₁ l₂ : List Bid) (heq : l ++ [b] = l₁ ++ .denied :: l₂) : Bid.chosen l₁ = none ∧
      ∃ e, Config.fromEnvironment (Bid.environment first l₁) = .error e := by
  rcases List.eq_nil_or_concat l₂ with rfl | ⟨l₂, b', rfl⟩
  · obtain ⟨rfl, hlast⟩ := List.append_inj' heq rfl
    exact hb (List.singleton_inj.mp hlast)
  · rw [List.concat_eq_append, ← List.cons_append, ← List.append_assoc] at heq
    exact h.denied l₁ l₂ (List.append_inj' heq rfl).1

/-- What the next bid adds while the guard does not run, and goes on not to. -/
theorem Tenured.early {b : Bid} (h : s.Tenured first l) (hrunning : s.processWide.running = none)
    (hstill : s'.processWide.running = none)
    (henv : s'.environment = b.changed?.getD s.environment)
    (hchosen : s'.processWide.chosen = b.accepted?.or s.processWide.chosen) (hb : b.isEarly = true)
    (hdenied : b = .denied → Bid.chosen l = none ∧
      ∃ e, Config.fromEnvironment (Bid.environment first l) = .error e) :
    s'.Tenured first (l ++ [b]) where
  environment := by rw [Bid.environment_snoc, ← h.environment, henv]
  vacant _ := by
    obtain ⟨hold, hearly⟩ := h.vacant hrunning
    refine ⟨by rw [Bid.chosen_snoc, ← hold, hchosen], ?_⟩
    exact List.forall_mem_append.mpr ⟨hearly, List.forall_mem_singleton.mpr hb⟩
  held g hg := by cases hstill.symm.trans hg
  denied := h.denied_snoc hdenied

/-- What the next bid adds when the guard runs. -/
theorem Tenured.late {b : Bid} {g : GuardId} (h : s.Tenured first l) (hs : s.Extends s')
    (hrunning : s.processWide.running = some g) (hstill : s'.processWide.running = some g)
    (henv : s'.environment = b.changed?.getD s.environment) (hb : b.isLate g = true) :
    s'.Tenured first (l ++ [b]) where
  environment := by rw [Bid.environment_snoc, ← h.environment, henv]
  vacant hnone := by cases hnone.symm.trans hstill
  held g' hg' := by
    cases hstill.symm.trans hg'
    obtain ⟨l₁, l₂, x, rfl, hearly, hlate, hx, hconfig⟩ := h.held g hrunning
    obtain ⟨x', hx', hl⟩ := hs.gist g x hx
    refine ⟨l₁, l₂ ++ [b], x', by simp, hearly, ?_, hx', hl.config ▸ hconfig⟩
    exact List.forall_mem_append.mpr ⟨hlate, List.forall_mem_singleton.mpr hb⟩
  denied := h.denied_snoc fun hd => by
    subst hd
    cases hb

/-- Whatever is done with it next. -/
theorem Tenured.step (h : s.Tenured first l) (hs : s.Extends s') (hstep : s.tenure.Step bids s'.tenure)
    (hstart : ∀ g, s.processWide.running = none → s'.processWide.running = some g →
      ∃ x, s'.gist? g = some x ∧ s.processWideConfig = .ok x.config) :
    s'.Tenured first (l ++ bids) := by
  generalize ha : s.tenure = a at hstep
  generalize ha' : s'.tenure = a' at hstep
  have hrun : a.running = s.processWide.running := by rw [← ha]; rfl
  have hrun' : a'.running = s'.processWide.running := by rw [← ha']; rfl
  have hchosen : a.chosen = s.processWide.chosen := by rw [← ha]; rfl
  have hchosen' : a'.chosen = s'.processWide.chosen := by rw [← ha']; rfl
  have henv : a.environment = s.environment := by rw [← ha]; rfl
  have henv' : a'.environment = s'.environment := by rw [← ha']; rfl
  -- while the guard does not run a bid is early, and late when it does
  cases hstep with
  | rest =>
    rw [List.append_nil]
    exact
      { environment := by rw [← henv', henv, h.environment]
        vacant := fun hnone => by
          rw [← hchosen', hchosen]
          exact h.vacant (by rw [← hrun, hrun', hnone])
        held := fun g hg => by
          obtain ⟨l₁, l₂, x, heq, hearly, hlate, hx, hconfig⟩ := h.held g (by rw [← hrun, hrun', hg])
          obtain ⟨x', hx', hl⟩ := hs.gist g x hx
          exact ⟨l₁, l₂, x', heq, hearly, hlate, hx', hl.config ▸ hconfig⟩
        denied := h.denied }
  | change environment =>
    cases hrunning : s.processWide.running with
    | none =>
      exact h.early hrunning (by rw [← hrun', hrun, hrunning]) henv'.symm (hchosen'.symm.trans hchosen) rfl
        fun hd => by cases hd
    | some g => exact h.late hs hrunning (by rw [← hrun', hrun, hrunning]) henv'.symm rfl
  | accept config hnone =>
    exact h.early (hrun.symm.trans hnone) (hrun'.symm.trans hnone) (henv'.symm.trans henv)
      hchosen'.symm rfl fun hd => by cases hd
  | refuse config hsome =>
    exact h.late hs (hrun.symm.trans hsome) (hrun'.symm.trans hsome) (henv'.symm.trans henv) rfl
  | @grant g hsome =>
    exact h.late hs (hrun.symm.trans hsome) (hrun'.symm.trans hsome) (henv'.symm.trans henv)
      (by simp [Bid.isLate])
  | deny hnone hfree hconfig =>
    refine h.early (hrun.symm.trans hnone) (hrun'.symm.trans hnone) (henv'.symm.trans henv)
      (hchosen'.symm.trans hchosen) rfl fun _ => ?_
    rw [← h.environment, ← (h.vacant (hrun.symm.trans hnone)).1, ← hchosen, ← henv]
    exact ⟨hfree, _, hconfig⟩
  | start g hnone =>
    have hrunning := hrun.symm.trans hnone
    obtain ⟨x, hx, hconfig⟩ := hstart g hrunning hrun'.symm
    exact
      { environment := by rw [Bid.environment_snoc, ← h.environment, ← henv', ← henv]; rfl
        vacant := fun hnone' => by cases hnone'.symm.trans hrun'.symm
        held := fun g' hg' => by
          cases hrun'.trans hg'
          exact ⟨l, [], x, rfl, (h.vacant hrunning).2, List.forall_mem_nil _, hx,
            (h.processWideConfig hrunning).symm.trans hconfig⟩
        denied := h.denied_snoc fun hd => by cases hd }

end Store

/-! ## Asking and choosing -/

namespace Store
variable {s : Store} {first : Environment} {l : List Bid}

theorem guard?_addGuard_self (s : Store) (config : Config) (source : Source) (worker : ThreadId) :
    (s.addGuard config source worker).1.guard? s.guards.size = some { config, worker, source } ∧
      s.guard? s.guards.size = none := by
  simp [addGuard, guard?]

/-- Who asks for the guard gets it if it runs. -/
theorem advance_running {g : GuardId} (h : s.processWide.running = some g) (p : Purpose) (fresh : ThreadId) :
    p.advance fresh s = (s, .goto (p.frame g)) := by
  simp only [Purpose.advance, h]

/-- A start for which there is no configuration changes nothing. -/
theorem advance_denied {e : Error} (h : s.processWide.running = none) (hconfig : s.processWideConfig = .error e)
    (p : Purpose) (fresh : ThreadId) : p.advance fresh s = (s, .finish (p.refuse e)) := by
  simp only [Purpose.advance, h, hconfig]

/-- What a start leads to: a new guard over a plain source, with this configuration. -/
structure Starts (s : Store) (p : Purpose) (fresh : ThreadId) (config : Config) (g : GuardId) (s' : Store) :
    Prop where
  advance : p.advance fresh s = (s', .spawn (.worker config.threadName?) (.worker g .starting) (p.frame g))
  running : s'.processWide.running = some g
  guard : s'.guard? g = some { config, worker := fresh, source := .plain }
  new : s.guard? g = none

theorem advance_starts {config : Config} (h : s.processWide.running = none)
    (hconfig : s.processWideConfig = .ok config) (p : Purpose) (fresh : ThreadId) :
    ∃ g s', s.Starts p fresh config g s' := by
  obtain ⟨hguard, hnew⟩ := s.guard?_addGuard_self config .plain fresh
  refine ⟨s.guards.size,
    { (s.addGuard config .plain fresh).1 with processWide := ⟨some s.guards.size, none⟩ }, ?_, rfl, hguard, hnew⟩
  simp only [Purpose.advance, h, hconfig]
  rfl

end Store

/-- If the guard runs after an action of a frame that was made when it did not, it has started with the
configuration that was there for it. -/
theorem Frame.advance_started {thread fresh : ThreadId} {s : Store} {frame : Frame} {g : GuardId}
    (h : s.processWide.running = none)
    (h' : (frame.advance thread fresh s).1.processWide.running = some g) :
    ∃ x, (frame.advance thread fresh s).1.gist? g = some x ∧ s.processWideConfig = .ok x.config := by
  have hsame : (frame.advance thread fresh s).1.tenure.running ≠ s.tenure.running := by
    intro heq
    cases (h.symm.trans heq.symm).trans h'
  have hbid : ∀ g, .granted g true ∈ frame.bids fresh s → ∃ p, frame = .processWide p := by
    intro g hin
    cases frame with
    | processWide p => exact ⟨p, rfl⟩
    | commands todo done =>
      cases todo with
      | nil => cases hin
      | cons c todo =>
        cases c with
        | choose recorder setup =>
          simp only [Frame.bids, Command.bids] at hin
          split at hin <;> simp at hin
        | setEnvironment environment => simp [Frame.bids, Command.bids] at hin
        | _ => cases hin
    | _ => cases hin
  have hstep := frame.advance_tenure thread fresh s
  generalize hb : frame.bids fresh s = bids at hstep
  generalize (frame.advance thread fresh s).1.tenure = a at hstep hsame
  cases hstep with
  | start g' hnone =>
    obtain ⟨p, rfl⟩ := hbid g' (hb ▸ List.mem_singleton_self _)
    cases hconfig : s.processWideConfig with
    | error e =>
      simp only [Frame.advance, Store.advance_denied h hconfig] at h'
      cases h.symm.trans h'
    | ok config =>
      obtain ⟨g₁, s₁, hstarts⟩ := Store.advance_starts h hconfig p fresh
      simp only [Frame.advance, hstarts.advance] at h' ⊢
      cases hstarts.running.symm.trans h'
      exact ⟨_, by rw [Store.gist?, hstarts.guard]; rfl, rfl⟩
  | _ => exact absurd rfl hsame

namespace System
variable {w : System} {h : History} {first : Environment} {l : List Bid}

/-- The log goes on with every event. -/
theorem tenured_occur (ht : w.store.Tenured first l) (hw : w.Orderly h) (e : Event) :
    (w.occur e).store.Tenured first (l ++ w.bids e) := by
  have hext : w.store.Extends (w.occur e).store := extends_after hw [e]
  have hrest : w.bids e = [] → (w.occur e).store.tenure = w.store.tenure →
      (w.occur e).store.Tenured first (l ++ w.bids e) := by
    intro hbids hsame
    rw [hbids]
    refine ht.step hext (hsame ▸ .rest) fun g hnone hsome => ?_
    cases (hnone.symm.trans (congrArg Tenure.running hsame).symm).trans hsome
  cases e with
  | move m =>
    cases m with
    | act t =>
      cases hact : w.acting? t with
      | none => exact hrest (by simp only [bids, hact]) (by rw [occur_not_acting hact])
      | some frame =>
        obtain ⟨name, rest, out, hth, -⟩ := acting?_eq_some hact
        have hstore : (w.occur (.move (.act t))).store = (frame.advance t w.threads.size w.store).1 := by
          rw [occur_acting hact, act_eq hth]
        have hbids : w.bids (.move (.act t)) = frame.bids w.threads.size w.store := by simp only [bids, hact]
        rw [hstore] at hext ⊢
        rw [hbids]
        exact ht.step hext (frame.advance_tenure t w.threads.size w.store) fun g hnone hsome =>
          Frame.advance_started hnone hsome
    | expire t =>
      refine hrest rfl ?_
      simp only [occur]
      cases hm : w.move? (.expire t) with
      | none => rfl
      | some w' => rw [Option.getD_some, (spots_expire hw.1 hm).1]
  | join name script => exact hrest rfl rfl
  | share id n =>
    refine hrest rfl ?_
    simp only [occur]
    split
    · exact congrArg Prod.fst (w.store.fixtures_modifyEntry id _)
    · rfl
  | inject g id =>
    refine hrest rfl ?_
    simp only [occur]
    split
    · exact congrArg Prod.fst (w.store.routine_enqueue g _).fixtures
    · rfl

variable (probes : Array Probe) (environment : Environment) (output : Output) (es : List Event)

theorem tenured_after : ((boot probes environment output).after es).store.Tenured environment
    ((boot probes environment output).bidding es) := by
  induction es using List.reverseRecOn with
  | nil =>
    exact
      { environment := rfl
        vacant := fun _ => ⟨rfl, List.forall_mem_nil _⟩
        held := fun g hg => by cases hg
        denied := fun l₁ l₂ heq => by cases l₁ <;> cases heq }
  | append_singleton es e ih =>
    rw [after_snoc, bidding_snoc]
    exact tenured_occur ih (orderly_after probes environment output es) e

/-- The process-wide guard of a system, after all that has been done with it since the environment was as
it was first. -/
structure ProcessWideLife (w : System) (first : Environment) (l : List Bid) : Prop where
  /-- Until it runs nobody gets it, and every choice is accepted. -/
  vacant : w.store.processWide.running = none → ∀ b ∈ l, b.isEarly = true
  /-- It was started once, with the configuration that had been asked for; whoever asks for it later gets
  the same guard, and every later choice is refused. -/
  held : ∀ g, w.store.processWide.running = some g → ∃ l₁ l₂ x, l = l₁ ++ .granted g true :: l₂ ∧
    (∀ b ∈ l₁, b.isEarly = true) ∧ (∀ b ∈ l₂, b.isLate g = true) ∧
    w.store.guard? g = some x ∧ Bid.config first l₁ = .ok x.config
  /-- Nobody asks for it in vain but as long as nothing has been chosen and the environment asks for
  nothing that there is. -/
  denied : ∀ l₁ l₂, l = l₁ ++ .denied :: l₂ → Bid.chosen l₁ = none ∧
    ∃ e, Config.fromEnvironment (Bid.environment first l₁) = .error e
  /-- Whoever asks for it now gets it if it runs; or else it starts if there is a configuration for it, and
  if there is none nothing changes. -/
  asking : ∀ (p : Purpose) (fresh : ThreadId),
    (∀ g, w.store.processWide.running = some g → p.advance fresh w.store = (w.store, .goto (p.frame g))) ∧
    (w.store.processWide.running = none →
      (∀ e, Bid.config first l = .error e → p.advance fresh w.store = (w.store, .finish (p.refuse e))) ∧
      ∀ config, Bid.config first l = .ok config → ∃ g s', w.store.Starts p fresh config g s')
  /-- Choosing for it now is accepted if it does not run, and changes nothing if it does. -/
  choosing : ∀ recorder setup config, setup.config w.store.environment recorder = .ok config →
    (w.store.processWide.running = none → (Command.choose recorder setup).begin w.store =
      ({ w.store with processWide.chosen := some config }, .reply (.text "ok"))) ∧
    ∀ g, w.store.processWide.running = some g → (Command.choose recorder setup).begin w.store =
      (w.store, .reply (.error .alreadyRunning))
  /-- Whether it keeps track of a handle can be asked without starting it. -/
  contains : ∀ handle id, w.store.handleNamed handle = .ok id →
    (Command.ask (.containsProcessWide handle)).begin w.store =
      (w.store, .reply (.flag (w.store.processWide.running.any fun g => w.store.contains g id)))

/-- A process has one process-wide guard at most, which starts with the configuration accepted last before
that, or else with the one that the environment asks for then, and stays the one for good. -/
theorem process_wide_life :
    ProcessWideLife ((boot probes environment output).after es) environment
      ((boot probes environment output).bidding es) ∧
    ∀ g x, ((boot probes environment output).after es).store.processWide.running = some g →
      ((boot probes environment output).after es).store.guard? g = some x → ∀ es',
      ((boot probes environment output).after (es ++ es')).store.processWide.running = some g ∧
      ∃ x', ((boot probes environment output).after (es ++ es')).store.guard? g = some x' ∧
        x'.config = x.config := by
  have ht := tenured_after probes environment output es
  have hw := orderly_after probes environment output es
  constructor
  · refine
      { vacant := fun hnone => (ht.vacant hnone).2
        held := fun g hg => ?_
        denied := ht.denied
        asking := fun p fresh => ⟨fun g hg => Store.advance_running hg p fresh, fun hnone => ?_⟩
        choosing := fun recorder setup config hconfig => ⟨fun hnone => ?_, fun g hg => ?_⟩
        contains := fun handle id hid => ?_ }
    · obtain ⟨l₁, l₂, x, heq, hearly, hlate, hx, hconfig⟩ := ht.held g hg
      obtain ⟨y, hy, rfl⟩ := Option.map_eq_some_iff.mp hx
      exact ⟨l₁, l₂, y, heq, hearly, hlate, hy, hconfig⟩
    · rw [← ht.processWideConfig hnone]
      exact ⟨fun e he => Store.advance_denied hnone he p fresh, fun config hconfig =>
        Store.advance_starts hnone hconfig p fresh⟩
    · simp only [Command.begin, Command.begin?, hconfig, Store.choose_eq, hnone]
    · simp only [Command.begin, Command.begin?, hconfig, Store.choose_eq, hg]
    · cases hrunning : ((boot probes environment output).after es).store.processWide.running <;>
        simp [Command.begin, Command.begin?, Query.answer, Query.answer?, hid, hrunning, bind, Except.bind,
          pure, Except.pure]
  · intro g x hg hx es'
    have ht' := tenured_after probes environment output (es ++ es')
    have hext := extends_after hw es'
    rw [bidding_append] at ht'
    rw [after_append] at ht' ⊢
    obtain ⟨l₁, l₂, -, heq, -⟩ := ht.held g hg
    have hin : .granted g true ∈ (boot probes environment output).bidding es ++
        ((boot probes environment output).after es).bidding es' := by simp [heq]
    obtain ⟨x', hx', hl⟩ := hext.gist g x.gist (by rw [Store.gist?, hx]; rfl)
    obtain ⟨y, hy, rfl⟩ := Option.map_eq_some_iff.mp hx'
    refine ⟨?_, y, hy, hl.config⟩
    cases hrunning : (((boot probes environment output).after es).after es').store.processWide.running with
    | none => cases (ht'.vacant hrunning).2 _ hin
    | some g' =>
      obtain ⟨l₁', l₂', -, heq', hearly, hlate, -⟩ := ht'.held g' hrunning
      rw [heq'] at hin
      rcases List.mem_append.mp hin with hin | hin
      · cases hearly _ hin
      · rcases List.mem_cons.mp hin with heq | hin
        · cases heq
          rfl
        · exact absurd (hlate _ hin) (by simp [Bid.isLate])

/-- The guard is asked for in vain, chosen, started, asked for again after another choice and another
environment have come too late, and shut down. -/
def reconfiguring : List Event :=
  .join .caller
      [.setEnvironment (some "loud".toUTF8), .processWide "p" false, .choose "r" { threadName := some "w" },
        .processWide "p" false, .setEnvironment none, .choose "r" {}, .processWide "q" false,
        .shutdown "q"] ::
    (List.replicate 30 [.move (.act 0), .move (.act 1)]).flatten

theorem process_wide_life_reconfiguring :
    ((boot #[] none {}).bidding reconfiguring).map Bid.isEarly =
      [true, true, true, false, true, false, false] ∧
    (((boot #[] none {}).bidding reconfiguring).filterMap Bid.accepted?).map
      (fun c => (c.threadName, c.sink.recorderName?)) = [("w", some "r")] ∧
    ((boot #[] none {}).bidding reconfiguring).filterMap Bid.changed? = [some "loud".toUTF8, none] ∧
    ∃ x, ((boot #[] none {}).after reconfiguring).store.guard? 0 = some x ∧
      (x.config.threadName, x.config.sink.recorderName?) = ("w", some "r") ∧ x.state = .stopped ∧
      ∀ es, ((boot #[] none {}).after (reconfiguring ++ es)).store.processWide.running = some 0 := by
  have hrun : (((boot #[] none {}).after reconfiguring).store.guard? 0).map
      (fun x => ((x.config.threadName, x.config.sink.recorderName?), x.state)) = some (("w", some "r"), .stopped) := by
    decide +kernel
  obtain ⟨x, hx, heq⟩ := Option.map_eq_some_iff.mp hrun
  obtain ⟨hconfig, hstate⟩ := Prod.mk.inj heq
  exact ⟨by decide +kernel, by decide +kernel, by decide +kernel, x, hx, hconfig, hstate, fun es =>
    ((process_wide_life #[] none {} reconfiguring).2 0 x (by decide +kernel) hx es).1⟩

end System

end Reclaim

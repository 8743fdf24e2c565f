import Reclaim.Operation.Script

/-!
# How commands begin

A command looks up what it names, and then does one thing to the store, or nothing. What is to be said of the
beginning of every command is said case by case of what it comes to.

* `Command.Beginning` : what a command makes of the store, and what it starts with;
* `Command.begin_cases` : a command begins so, unless it names something unknown and is answered at once;
  `Command.beginning_operation` : one that starts an operation does.
-/

namespace Reclaim

/-- A step that may fail has succeeded, so its parts have. -/
theorem bind_ok {ε α β : Type} {x : Except ε α} {f : α → Except ε β} {b : β}
    (h : x >>= f = .ok b) : ∃ a, x = .ok a ∧ f a = .ok b := by
  cases x with
  | error e => cases h
  | ok a => exact ⟨a, rfl, h⟩

/-- Choosing is accepted until the guard runs. -/
theorem Store.choose_cases (s : Store) (config : Config) :
    (s.processWide.running = none ∧ s.choose config = .ok { s with processWide.chosen := some config }) ∨
      ∃ g, s.processWide.running = some g ∧ s.choose config = .error .alreadyRunning := by
  unfold choose
  split
  · next g hlate => exact .inr ⟨g, hlate, rfl⟩
  · next hearly => exact .inl ⟨hearly, rfl⟩

namespace Command

/-- What a command that names nothing unknown makes of the store, and what it starts with. -/
inductive Beginning (s : Store) : Command → Store → Begin → Prop where
  | register {guard : String} {g : GuardId} (handle : String) (r : Registration Command)
      (hg : s.guardNamed guard = .ok g) : Beginning s (.register (.guard guard) handle r) s
        (.operation (.register ⟨g, handle, r, false⟩ .allocate))
  | registerProcessWide (handle : String) (r : Registration Command) : Beginning s (.register .processWide handle r) s
      (.operation (.processWide (.register handle r)))
  | acquire {guard : String} {g : GuardId} (handle : String) (r : Registration Command)
      (hg : s.guardNamed guard = .ok g) : Beginning s (.acquire guard handle r) s
        (.operation (.register ⟨g, handle, r, true⟩ .allocate))
  | release {handle : String} {id : HandleId} (via : Option String) (hid : s.handleNamed handle = .ok id) :
      Beginning s (.release handle via) (s.beginUse id) (.operation (.release id .retire))
  /-- The last share is given up, -/
  | drop {handle : String} {id : HandleId} (hid : s.handleNamed handle = .ok id) (hlast : (s.dropShare id).2 = true) :
      Beginning s (.drop handle) (s.dropShare id).1 (.operation (.drop id .check))
  /-- or another one. -/
  | part {handle : String} {id : HandleId} (hid : s.handleNamed handle = .ok id)
      (hlast : (s.dropShare id).2 = false) : Beginning s (.drop handle) (s.dropShare id).1 (.reply .done)
  | inject {guard handle : String} {g : GuardId} {id : HandleId} (hg : s.sourceNamed guard = .ok g)
      (hid : s.idNamed handle = .ok id) : Beginning s (.inject guard handle) (s.enqueue g (.reclaim id)).1
        (.reply (.flag (s.enqueue g (.reclaim id)).2))
  | flush {guard : String} {g : GuardId} (patience : Patience) {gate : GateUse}
      (hg : flushGuard s guard gate = .ok g) : Beginning s (.flush guard patience gate) s
        (.operation (.flush g patience gate .checkStopped))
  | letThrough {guard : String} {g : GuardId} (n : Nat) (hg : s.sourceNamed guard = .ok g) :
      Beginning s (.letThrough guard n) (s.permit g (min n (s.pendingAt g)))
        (.operation (.rest g (.count (min n (s.pendingAt g)))))
  | interrupt {guard : String} {g : GuardId} (hg : s.sourceNamed guard = .ok g) :
      Beginning s (.interrupt guard) (s.interrupt g).1 (.operation (.discard g (s.interrupt g).2))
  | shutdown {guard : String} {g : GuardId} (hg : s.guardNamed guard = .ok g) :
      Beginning s (.shutdown guard) s (.operation (.shutdown g .interrupt))
  | startGuard {guard : String} {setup : Setup} {config : Config} (kind : SourceKind) (panicsAt : Option Nat)
      (hconfig : setup.config s.environment guard = .ok config) :
      Beginning s (.startGuard guard setup kind panicsAt) s (.operation (.start ⟨guard, config, kind, panicsAt⟩))
  | startRefused {guard : String} {setup : Setup} {e : Error} (kind : SourceKind) (panicsAt : Option Nat)
      (hconfig : setup.config s.environment guard = .error e) :
      Beginning s (.startGuard guard setup kind panicsAt) s (.reply (.error e))
  | dropGuard {guard : String} {g : GuardId} (hg : s.guardNamed guard = .ok g) (hown : s.isProcessWide g = false) :
      Beginning s (.dropGuard guard) (s.forgetGuard guard) (.operation (.shutdown g .interrupt))
  /-- The process-wide guard goes on. -/
  | forgetGuard {guard : String} {g : GuardId} (hg : s.guardNamed guard = .ok g) (hown : s.isProcessWide g = true) :
      Beginning s (.dropGuard guard) (s.forgetGuard guard) (.reply .done)
  | choose {recorder : String} {setup : Setup} {config : Config}
      (hconfig : setup.config s.environment recorder = .ok config) (hearly : s.processWide.running = none) :
      Beginning s (.choose recorder setup) { s with processWide.chosen := some config } (.reply (.text "ok"))
  | chooseLate {recorder : String} {setup : Setup} {config : Config} {g : GuardId}
      (hconfig : setup.config s.environment recorder = .ok config) (hlate : s.processWide.running = some g) :
      Beginning s (.choose recorder setup) s (.reply (.error .alreadyRunning))
  | chooseRefused {recorder : String} {setup : Setup} {e : Error}
      (hconfig : setup.config s.environment recorder = .error e) :
      Beginning s (.choose recorder setup) s (.reply (.error e))
  | processWide (guard : String) (insists : Bool) : Beginning s (.processWide guard insists) s
      (.operation (.processWide (.bind guard insists)))
  | setEnvironment (environment : Environment) : Beginning s (.setEnvironment environment) { s with environment }
      (.reply .done)
  | failOn (address : Address) : Beginning s (.failOn address)
      { s with probes := s.probes.modify 0 fun p => p.failOn address } (.reply .done)
  | ask (query : Query) : Beginning s (.ask query) s (.reply (query.answer s))

variable {s s' : Store} {c : Command} {b : Begin}

theorem beginning_of_begin? (h : c.begin? s = .ok (s', b)) : c.Beginning s s' b := by
  cases c with
  | register target handle r =>
    cases target with
    | guard guard =>
      obtain ⟨g, hg, h⟩ := bind_ok h
      cases h
      exact .register handle r hg
    | processWide =>
      cases h
      exact .registerProcessWide handle r
  | acquire guard handle r =>
    obtain ⟨g, hg, h⟩ := bind_ok h
    cases h
    exact .acquire handle r hg
  | release handle via =>
    obtain ⟨id, hid, h⟩ := bind_ok h
    cases via with
    | none =>
      cases h
      exact .release none hid
    | some guard =>
      obtain ⟨g, -, h⟩ := bind_ok h
      cases h
      exact .release (some guard) hid
  | drop handle =>
    obtain ⟨id, hid, h⟩ := bind_ok h
    have hlast := @Beginning.drop s handle id hid
    have hpart := @Beginning.part s handle id hid
    generalize s.dropShare id = r at h hlast hpart
    obtain ⟨s₁, last⟩ := r
    cases last <;> cases h
    · exact hpart rfl
    · exact hlast rfl
  | inject guard handle =>
    obtain ⟨g, hg, h⟩ := bind_ok h
    obtain ⟨id, hid, h⟩ := bind_ok h
    cases h
    exact .inject hg hid
  | flush guard patience gate =>
    obtain ⟨g, hg, h⟩ := bind_ok h
    cases h
    exact .flush patience hg
  | letThrough guard n =>
    obtain ⟨g, hg, h⟩ := bind_ok h
    cases h
    exact .letThrough n hg
  | interrupt guard =>
    obtain ⟨g, hg, h⟩ := bind_ok h
    cases h
    exact .interrupt hg
  | shutdown guard =>
    obtain ⟨g, hg, h⟩ := bind_ok h
    cases h
    exact .shutdown hg
  | startGuard guard setup kind panicsAt =>
    simp only [begin?] at h
    split at h
    · next e hconfig =>
      cases h
      exact .startRefused kind panicsAt hconfig
    · next config hconfig =>
      cases h
      exact .startGuard kind panicsAt hconfig
  | dropGuard guard =>
    obtain ⟨g, hg, h⟩ := bind_ok h
    simp only at h
    split at h
    · next hown =>
      cases h
      exact .forgetGuard hg hown
    · next hown =>
      cases h
      exact .dropGuard hg (eq_false_of_ne_true hown)
  | choose recorder setup =>
    simp only [begin?] at h
    split at h
    · next e hconfig =>
      cases h
      exact .chooseRefused hconfig
    · next config hconfig =>
      obtain ⟨hearly, hchoose⟩ | ⟨g, hlate, hchoose⟩ := s.choose_cases config
      · rw [hchoose] at h
        cases h
        exact .choose hconfig hearly
      · rw [hchoose] at h
        cases h
        exact .chooseLate hconfig hlate
  | processWide guard insists =>
    cases h
    exact .processWide guard insists
  | setEnvironment environment =>
    cases h
    exact .setEnvironment environment
  | failOn address =>
    cases h
    exact .failOn address
  | ask query =>
    cases h
    exact .ask query

/-- A command begins, or names something unknown and is answered at once. -/
theorem begin_cases (s : Store) (c : Command) :
    c.Beginning s (c.begin s).1 (c.begin s).2 ∨
      ∃ what, c.begin? s = .error what ∧ c.begin s = (s, .reply (.missing what)) := by
  unfold begin
  split
  · next started hstarted => exact .inl (beginning_of_begin? hstarted)
  · next what hwhat => exact .inr ⟨what, hwhat, rfl⟩

/-- A command that starts an operation names nothing unknown. -/
theorem beginning_operation {frame : Frame} (h : c.begin s = (s', .operation frame)) :
    c.Beginning s s' (.operation frame) := by
  obtain hbeginning | ⟨what, -, hmissing⟩ := c.begin_cases s
  · rwa [h] at hbeginning
  · cases h.symm.trans hmissing

end Command

end Reclaim

import Reclaim.Proofs.Books

/-!
# Accounts of programs

While programs run over a guard, whoever acts, their books stay balanced.

* `Program.Fits` : a program that uses only what it holds; `Abides` : all programs in a stack do;
* `System.Accounts` : the accounts of a system in which programs run; `System.Proceeds` : an action that
  keeps to them;
* `System.Accounts.neutral`, `System.Accounts.begins`, `System.Accounts.registers` : every action does;
* `System.Accounts.after` : so the accounts go on.
-/

namespace Reclaim

/-! ## Programs and frames -/

/-- A program that gets by with names that it knows, or registers, and releases a handle only as long as a
share of it is sure to be held: one that the program gives up later, or one that nobody gives up. -/
def Program.Fits (keeps : String → Prop) : (String → Prop) → List Deal → Prop
  | _, [] => True
  | known, .register name r :: p =>
      Fits keeps (fun x => (x = name ∧ ∃ f, r.check = .ok f) ∨ known x) p
  | known, .release name _ :: p => known name ∧ (.drop name ∈ p ∨ keeps name) ∧ Fits keeps known p
  | known, .drop name :: p => known name ∧ Fits keeps known p

theorem Program.Fits.mono {keeps known known' : String → Prop} {p : List Deal}
    (h : Fits keeps known p) (hle : ∀ x, known x → known' x) : Fits keeps known' p := by
  induction p generalizing known known' with
  | nil => trivial
  | cons d p ih =>
    cases d with
    | register name r => exact ih h fun x => Or.imp_right (hle x)
    | release name through => exact ⟨hle _ h.1, h.2.1, ih h.2.2 hle⟩
    | drop name => exact ⟨hle _ h.1, ih h.2 hle⟩

/-- Before the new handle is in its place. -/
def RegisterPoint.isPending : RegisterPoint → Bool
  | allocate | track _ | count _ | bind _ => true
  | dropping _ | report _ => false

namespace Frame

/-- What a frame has still to do of a program. -/
def dealList : Frame → List Deal
  | .commands todo _ => todo.filterMap Command.deal?
  | _ => []

/-- The same, in no order. -/
def deals (x : Frame) : Multiset Deal := x.dealList

/-- The names that a frame has still to give. -/
def enrols : Frame → Multiset String
  | .commands todo _ => ((todo.filterMap Command.deal?).filterMap Deal.enrols? : List String)
  | .register q p => if p.isPending then {q.handle} else 0
  | _ => 0

theorem deals_receive (x : Frame) (o : Outcome) (h : x.waits = true) : (x.receive o).deals = x.deals := by
  cases waiting_of_waits h with
  | commands => rfl
  | _ => cases o <;> rfl

theorem enrols_receive (x : Frame) (o : Outcome) (h : x.waits = true) : (x.receive o).enrols = x.enrols := by
  cases waiting_of_waits h with
  | commands => rfl
  | _ => cases o <;> rfl

theorem deals_of_minor {x : Frame} (h : x.isMinor = true) : x.dealList = [] ∧ x.enrols = 0 := by
  cases x with
  | commands todo done =>
    obtain rfl : todo = [] := by simpa [isMinor] using h
    exact ⟨rfl, rfl⟩
  | register q p =>
    cases p with
    | report id => exact ⟨rfl, rfl⟩
    | _ => cases h
  | _ => exact ⟨rfl, rfl⟩

theorem minor_of_not_major {guard : String} {g : GuardId} {x : Frame} (hx : x.Tame guard g)
    (h : x.isMajor = false) : x.isMinor = true := by
  cases x with
  | commands todo done =>
    cases todo with
    | nil => rfl
    | cons => cases h
  | register q p =>
    cases p with
    | report id => rfl
    | dropping id => exact absurd hx.2.2 (by simp [RegisterPoint.isPlain])
    | _ => cases h
  | _ => rfl

end Frame

/-- The name that a frame is about to give to a new handle. -/
def Frame.Gives : Frame → String → Prop
  | .register q p, name => name = q.handle ∧ p.isPending = true ∧ ∃ f, q.registration.check = .ok f
  | _, _ => False

/-- Every program in a stack gets by with names that are known, and with those that frames above it are
about to give. -/
def Abides (keeps : String → Prop) : (String → Prop) → List Frame → Prop
  | _, [] => True
  | known, x :: rest =>
      Program.Fits keeps known x.dealList ∧ Abides keeps (fun name => x.Gives name ∨ known name) rest

section Abides
variable {keeps known known' : String → Prop} {x y : Frame} {rest : List Frame}

theorem Abides.mono (h : Abides keeps known rest) (hle : ∀ x, known x → known' x) :
    Abides keeps known' rest := by
  induction rest generalizing known known' with
  | nil => trivial
  | cons x rest ih => exact ⟨h.1.mono hle, ih h.2 fun name => Or.imp_right (hle name)⟩

theorem Frame.not_gives_of_minor (h : x.isMinor = true) (name : String) : ¬x.Gives name := by
  cases x with
  | register q p =>
    cases p with
    | report id => exact fun h => by cases h.2.1
    | _ => cases h
  | _ => exact id

/-- Minor frames make no difference. -/
theorem Abides.cons_minor (h : Abides keeps known rest) (hx : x.isMinor = true) :
    Abides keeps known (x :: rest) :=
  ⟨(Frame.deals_of_minor hx).1 ▸ trivial, h.mono fun _ => .inr⟩

theorem Abides.of_minor (h : Abides keeps known (x :: rest)) (hx : x.isMinor = true) :
    Abides keeps known rest :=
  h.2.mono fun name hname => hname.resolve_left (Frame.not_gives_of_minor hx name)

/-- A program that goes on gets by as before. -/
theorem Abides.receive {guard : String} {g : GuardId} (h : Abides keeps known (x :: rest))
    (hx : x.Tame guard g) (hwaits : x.waits = true) (o : Outcome) :
    Abides keeps known (x.receive o :: rest) := by
  have hminor : ∀ {y : Frame}, x.isMinor = true → y.isMinor = true → Abides keeps known (y :: rest) :=
    fun hx hy => (h.of_minor hx).cons_minor hy
  cases Frame.waiting_of_waits hwaits with
  | commands => exact h
  | register => exact absurd hx.2.2 (by simp [RegisterPoint.isPlain])
  | _ => cases o <;> exact hminor rfl rfl

/-- A thread goes on with frames on top of what was below, which may have been told how the top one
ended. -/
theorem Abides.progress {guard : String} {g : GuardId} {th : Thread} {p : Progress}
    (hrest : Abides keeps known rest) (htame : ∀ y ∈ rest, y.Tame guard g) (hs : Stacked (x :: rest))
    (hp : ∀ y ∈ p.frames, y.isMinor = true) : Abides keeps known (th.progress rest p).stack := by
  cases p with
  | goto y => exact hrest.cons_minor (hp y List.mem_cons_self)
  | call y z =>
    exact (hrest.cons_minor (hp z (by simp [Progress.frames]))).cons_minor (hp y List.mem_cons_self)
  | spawn name y z => exact hrest.cons_minor (hp z (by simp [Progress.frames]))
  | finish o =>
    cases rest with
    | nil => trivial
    | cons y rest => exact hrest.receive (htame y List.mem_cons_self) (hs.waits y rfl) o

end Abides

/-! ## Registrations -/

/-- The registration has made the resource behind this handle of a guard. -/
def Registration.Made (r : Registration Command) (g : GuardId) (s : Store) (id : HandleId) : Prop :=
  ∃ f e, r.check = .ok f ∧ s.resource? id = some e ∧ e.guard = g ∧ e.address = r.address ∧
    e.label = r.label ∧ e.callback = f

theorem Registration.Made.extends {r : Registration Command} {g : GuardId} {s s' : Store} {id : HandleId}
    (h : r.Made g s id) (hs : s.Extends s') : r.Made g s' id := by
  obtain ⟨f, e, hf, he, hg, haddress, hlabel, hcallback⟩ := h
  obtain ⟨e', he', hl⟩ := hs.entry id e he
  exact ⟨f, e', hf, he', hl.guard.trans hg, hl.address.trans haddress, hl.label.trans hlabel,
    hl.callback.trans hcallback⟩

/-- The handle that a registration is about to take further. -/
def RegisterPoint.id? : RegisterPoint → Option HandleId
  | track id | count id | bind id => some id
  | _ => none

/-- What the frame has still to do is part of the plan, and so is the registration that it carries out,
which has made its handle since the start. -/
def Frame.Enrolled (start : Store) (plan : List Deal) (g : GuardId) (s : Store) : Frame → Prop
  | .commands todo _ => ∀ d ∈ todo.filterMap Command.deal?, d ∈ plan
  | .register q p => p.isPending = true → .register q.handle q.registration ∈ plan ∧
      ∀ id, p.id? = some id → q.registration.Made g s id ∧ ¬start.Known id
  | _ => True

section Enrolled
variable {start s s' : Store} {plan : List Deal} {g : GuardId} {x : Frame}

theorem Frame.Enrolled.extends (h : x.Enrolled start plan g s) (hs : s.Extends s') :
    x.Enrolled start plan g s' := by
  cases x with
  | register q p => exact fun hp => (h hp).imp_right fun hid id hin => (hid id hin).imp_left (·.extends hs)
  | _ => exact h

theorem Frame.enrolled_of_minor (h : x.isMinor = true) : x.Enrolled start plan g s := by
  cases x with
  | commands todo done =>
    obtain rfl : todo = [] := by simpa [isMinor] using h
    exact List.forall_mem_nil _
  | register q p =>
    cases p with
    | report id => exact fun h => by cases h
    | _ => cases h
  | _ => trivial

theorem Frame.Enrolled.receive (h : x.Enrolled start plan g s) (hwaits : x.waits = true) (o : Outcome) :
    (x.receive o).Enrolled start plan g s := by
  cases waiting_of_waits hwaits with
  | commands => exact h
  | _ => cases o <;> trivial

end Enrolled

/-! ## Accounts of a system -/

/-- A name that stands for a handle. -/
def Store.Knows (s : Store) (name : String) : Prop := ∃ id, s.names.handles.lookup name = some id

/-- Somebody keeps a share of what the name stands for when all is done. -/
def Plan.Keeps (start : Store) (plan : List Deal) (name : String) : Prop :=
  Plan.left start plan (start.place name) ≠ 0

namespace System

/-- The books of a system, by what has happened to handles. -/
def books (w : System) (h : History) : Books where
  names := w.store.names.handles
  owners id := (w.store.resource? id).map Entry.owners
  tried id := h.count (id, .claimed .release true) + h.count (id, .claimed .release false) +
    w.spots.count (.asking id)
  deals := w.tally Frame.deals
  enrols := w.tally Frame.enrols

/-- In a system programs run over a guard, with this to do since the start in all. -/
structure Accounts (start : Store) (first : HandleId → Nat) (plan : List Deal) (guard : String) (g : GuardId)
    (w : System) (h : History) : Prop where
  tame : ∀ th ∈ w.threads, ∀ x ∈ th.stack, x.Tame guard g
  calm : w.store.Calm
  opens : w.store.Open g
  named : w.store.guardNamed guard = .ok g
  failing : w.store.failing = start.failing
  enrolled : ∀ th ∈ w.threads, ∀ x ∈ th.stack, x.Enrolled start plan g w.store
  abides : ∀ th ∈ w.threads, Abides (Plan.Keeps start plan) w.store.Knows th.stack
  /-- A handle with a new name was made by the registration of that name. -/
  made : ∀ name id, start.names.handles.lookup name = none →
    w.store.names.handles.lookup name = some id → ∃ r, .register name r ∈ plan ∧ r.Made g w.store id
  balanced : (w.books h).Balanced start first plan

section Books
variable {w : System} {h : History} {t : ThreadId} {x : Frame} {r : Store × Progress}

/-- What an action makes of the books. -/
theorem books_act (hw : w.Disciplined) (ht : w.acting? t = some x)
    (hr : x.advance t w.threads.size w.store = r) (ms : History) :
    ((w.act t).books (h ++ ms)).names = r.1.names.handles ∧
    ((w.act t).books (h ++ ms)).owners = (fun id => (r.1.resource? id).map Entry.owners) ∧
    (∀ id, ((w.act t).books (h ++ ms)).tried id + x.spots.count (.asking id) = (w.books h).tried id +
      (ms.count (id, .claimed .release true) + ms.count (id, .claimed .release false) +
        r.2.spots.count (.asking id))) ∧
    ((w.act t).books (h ++ ms)).deals + x.deals = (w.books h).deals + r.2.tally Frame.deals ∧
    ((w.act t).books (h ++ ms)).enrols + x.enrols = (w.books h).enrols + r.2.tally Frame.enrols := by
  subst hr
  obtain ⟨name, rest, out, hth, -⟩ := acting?_eq_some ht
  have hstore : (w.act t).store = (x.advance t w.threads.size w.store).1 := by rw [act_eq hth]
  refine ⟨by rw [books, hstore], by simp only [books, hstore], fun id => ?_,
    tally_act Frame.deals_receive hw ht, tally_act Frame.enrols_receive hw ht⟩
  have hspots := congrArg (Multiset.count (.asking id)) (spots_act hw ht)
  rw [Multiset.count_add, Multiset.count_add] at hspots
  simp only [books, List.count_append]
  omega

end Books

variable {start : Store} {first : HandleId → Nat} {plan : List Deal} {guard : String} {g : GuardId}
  {w : System} {h : History} {t : ThreadId} {x : Frame}

/-- What has to be said of an action for the accounts to go on. -/
structure Proceeds (start : Store) (plan : List Deal) (guard : String) (g : GuardId) (w : System)
    (h : History) (t : ThreadId) (x : Frame) (r : Store × Progress) : Prop where
  bides : w.store.Bides r.1
  spawned : r.2.spawned = []
  tame : ∀ y ∈ r.2.frames, y.Tame guard g
  quiet : ∀ id e, w.store.resource? id = none → r.1.resource? id = some e → e.callback.isQuiet = true
  enrolled : ∀ y ∈ r.2.frames, y.Enrolled start plan g r.1
  abides : ∀ th rest, th ∈ w.threads → th.stack = x :: rest →
    Abides (Plan.Keeps start plan) r.1.Knows (th.progress rest r.2).stack
  lookup : ∀ name id, w.store.names.handles.lookup name = some id →
    r.1.names.handles.lookup name = some id
  made : ∀ name id, r.1.names.handles.lookup name = some id →
    w.store.names.handles.lookup name = some id ∨
      ∃ reg, .register name reg ∈ plan ∧ reg.Made g r.1 id
  books : (w.books h).Step start plan ((w.act t).books (h ++ x.marks w.store))

end System

/-- What holds of the frames that a progress goes on with and of those below holds of all that a thread
goes on with. -/
theorem Thread.forall_frames {P : Frame → Prop} {th : Thread} {x : Frame} {rest : List Frame} {p : Progress}
    (hs : Stacked (x :: rest)) (hp : ∀ y ∈ p.frames, P y) (hrest : ∀ y ∈ rest, P y)
    (hreceive : ∀ y, P y → y.waits = true → ∀ o, P (y.receive o)) :
    ∀ y ∈ (th.progress rest p).stack, P y := by
  cases p with
  | goto y => exact List.forall_mem_cons.mpr ⟨hp y List.mem_cons_self, hrest⟩
  | call y z =>
    exact List.forall_mem_cons.mpr ⟨hp y List.mem_cons_self,
      List.forall_mem_cons.mpr ⟨hp z (by simp [Progress.frames]), hrest⟩⟩
  | spawn name y z => exact List.forall_mem_cons.mpr ⟨hp z (by simp [Progress.frames]), hrest⟩
  | finish o =>
    cases rest with
    | nil => exact List.forall_mem_nil _
    | cons y rest =>
      obtain ⟨hy, hrest⟩ := List.forall_mem_cons.mp hrest
      exact List.forall_mem_cons.mpr ⟨hreceive y hy (hs.waits y rfl) o, hrest⟩

/-- What a thread goes on with when its top frame does not end. -/
theorem Thread.stack_goes {th : Thread} {rest : List Frame} {p : Progress} (hspawned : p.spawned = [])
    (hframes : p.frames ≠ []) : (th.progress rest p).stack = p.frames ++ rest := by
  cases p with
  | goto | call => rfl
  | spawn => cases hspawned
  | finish => exact absurd rfl hframes

namespace System
variable {start : Store} {first : HandleId → Nat} {plan : List Deal} {guard : String} {g : GuardId}
  {w : System} {h : History} {t : ThreadId} {x : Frame} {r : Store × Progress}

/-- An action changes nothing of what resources are. -/
theorem Orderly.extends_acting (hw : w.Orderly h) (ht : w.acting? t = some x) :
    w.store.Extends (x.advance t w.threads.size w.store).1 := by
  obtain ⟨hsub, -, -, -⟩ := acts_acting hw.2.spots ht
  exact (Frame.advance_acts fun y hy => hw.2.spots y (hsub hy)).1.extends

/-- The accounts go on with every action. -/
theorem Accounts.proceed (ha : w.Accounts start first plan guard g h)
    (hnodup : (plan.filterMap Deal.enrols?).Nodup)
    (hfree : ∀ name ∈ plan.filterMap Deal.enrols?, start.names.handles.lookup name = none)
    (hknown : ∀ name id, (name, id) ∈ start.names.handles → start.Known id)
    (hw : w.Orderly h) (ht : w.acting? t = some x) (hr : x.advance t w.threads.size w.store = r)
    (hp : w.Proceeds start plan guard g h t x r) :
    (w.act t).Accounts start first plan guard g (h ++ x.marks w.store) := by
  subst hr
  obtain ⟨name, rest, out, hth, -⟩ := acting?_eq_some ht
  have hstore : (w.act t).store = (x.advance t w.threads.size w.store).1 := by rw [act_eq hth]
  have hext := hw.extends_acting ht
  have hnew : ∀ name y z, (x.advance t w.threads.size w.store).2 ≠ .spawn name y z := fun name y z heq => by
    have hspawned := hp.spawned
    rw [heq] at hspawned
    cases hspawned
  exact
    { tame := forall_stack_act (P := fun stack => ∀ y ∈ stack, y.Tame guard g) ha.tame ht
        (fun th hth rest hstack => Thread.forall_frames (hstack ▸ hw.1 th hth) hp.tame
          (fun y hy => ha.tame th hth y (hstack ▸ List.mem_cons_of_mem x hy)) fun y hy => hy.receive)
        fun name y z heq => absurd heq (hnew name y z)
      calm := fun id e' he' => by
        rw [hstore] at he'
        cases he : w.store.resource? id with
        | none => exact hp.quiet id e' he he'
        | some e =>
          obtain ⟨e'', he'', hl⟩ := hext.entry id e he
          cases he'.symm.trans he''
          rw [hl.callback]
          exact ha.calm id e he
      opens := hstore ▸ hp.bides.opens ha.opens
      named := by
        rw [hstore, Store.guardNamed, hp.bides.guards]
        exact ha.named
      failing := hstore ▸ hp.bides.failing.trans ha.failing
      enrolled := by
        rw [hstore]
        exact forall_stack_act (P := fun stack => ∀ y ∈ stack, y.Enrolled start plan g _)
          (fun th hth y hy => (ha.enrolled th hth y hy).extends hext) ht
          (fun th hth rest hstack => Thread.forall_frames (hstack ▸ hw.1 th hth) hp.enrolled
            (fun y hy => (ha.enrolled th hth y (hstack ▸ List.mem_cons_of_mem x hy)).extends hext)
            fun y hy => hy.receive)
          fun name y z heq => absurd heq (hnew name y z)
      abides := by
        rw [hstore]
        refine forall_stack_act (P := Abides _ _) (fun th hth => (ha.abides th hth).mono ?_) ht
          (fun th hth rest hstack => hp.abides th rest hth hstack) fun name y z heq => absurd heq (hnew name y z)
        rintro name ⟨id, hid⟩
        exact ⟨id, hp.lookup name id hid⟩
      made := fun name id hnone hid => by
        rw [hstore] at hid ⊢
        rcases hp.made name id hid with hold | hmade
        · exact (ha.made name id hnone hold).imp fun reg h => h.imp_right (·.extends hext)
        · exact hmade
      balanced := ha.balanced.step hnodup hfree hknown hp.books }

theorem Accounts.acting_tame (ha : w.Accounts start first plan guard g h) (ht : w.acting? t = some x) :
    x.Tame guard g := by
  obtain ⟨th, hth, hx⟩ := acting_mem ht
  exact ha.tame th hth x hx

theorem Accounts.acting_enrolled (ha : w.Accounts start first plan guard g h) (ht : w.acting? t = some x) :
    x.Enrolled start plan g w.store := by
  obtain ⟨th, hth, hx⟩ := acting_mem ht
  exact ha.enrolled th hth x hx

/-- An action that concerns no accounts. -/
theorem Accounts.neutral (ha : w.Accounts start first plan guard g h) (hw : w.Orderly h)
    (ht : w.acting? t = some x) (hr : x.advance t w.threads.size w.store = r) (hmajor : x.isMajor = false) :
    w.Proceeds start plan guard g h t x r := by
  have hx : x.Tame guard g := ha.acting_tame ht
  have hn : x.Neutral guard g w.store r := hr ▸ Frame.advance_neutral ha.calm ha.opens hx hmajor
  have hminor := Frame.minor_of_not_major hx hmajor
  have hhandles := hn.keeps.handles
  have hknows : w.store.Knows = r.1.Knows := by
    unfold Store.Knows
    rw [hhandles]
  have htally : ∀ {α : Type} (f : Frame → Multiset α), (∀ y : Frame, y.isMinor = true → f y = 0) →
      r.2.tally f = 0 := fun f hf => by
    have hframes := hn.minor
    generalize r.2 = p at hframes
    cases p with
    | goto y => exact hf y (hframes y List.mem_cons_self)
    | call y z | spawn name y z =>
      rw [Progress.tally, hf y (hframes y List.mem_cons_self), hf z (hframes z (by simp [Progress.frames])), add_zero]
    | finish => rfl
  have hdeals : ∀ y : Frame, y.isMinor = true → y.deals = 0 := fun y hy => by
    rw [Frame.deals, (Frame.deals_of_minor hy).1]
    rfl
  exact
    { bides := hn.keeps.toBides
      spawned := hn.spawned
      tame := hn.tame
      quiet := fun id e hnone he => by
        have howners := hn.keeps.owners id
        rw [hnone, he] at howners
        cases howners
      enrolled := fun y hy => Frame.enrolled_of_minor (hn.minor y hy)
      abides := fun th rest hth hstack => by
        have habides := hstack ▸ ha.abides th hth
        rw [hknows] at habides
        exact (habides.of_minor hminor).progress (fun y hy => ha.tame th hth y (hstack ▸ List.mem_cons_of_mem x hy))
          (hstack ▸ hw.1 th hth) hn.minor
      lookup := fun name id hid => hhandles ▸ hid
      made := fun name id hid => .inl (hhandles ▸ hid)
      books := by
        obtain ⟨hnames, howners, htried, hds, hxs⟩ := books_act (h := h) hw.1 ht hr (x.marks w.store)
        rw [htally _ hdeals, hdeals x hminor, add_zero, add_zero] at hds
        rw [htally _ fun y hy => (Frame.deals_of_minor hy).2, (Frame.deals_of_minor hminor).2, add_zero,
          add_zero] at hxs
        have heq : (w.act t).books (h ++ x.marks w.store) = w.books h := by
          refine Books.ext (hnames.trans hhandles) (howners.trans (funext hn.keeps.owners))
            (funext fun id => ?_) hds hxs
          have hasks := hn.asks id
          have := htried id
          omega
        rw [heq]
        exact .rest }

/-- A name that programs may use stands for a handle that is held, if somebody is still to give it up or
keeps it. -/
theorem Accounts.held (ha : w.Accounts start first plan guard g h)
    (hfree : ∀ name ∈ plan.filterMap Deal.enrols?, start.names.handles.lookup name = none)
    (hknown : ∀ name id, (name, id) ∈ start.names.handles → start.Known id) {name : String} {id : HandleId}
    (hid : w.store.names.handles.lookup name = some id)
    (hheld : .drop name ∈ w.tally Frame.deals ∨ Plan.Keeps start plan name) :
    w.store.handleNamed name = .ok id ∧ ∃ e, w.store.resource? id = some e ∧ e.owners ≠ 0 := by
  have hfind := (ha.balanced.find_place hfree name).trans hid
  obtain ⟨howners, -⟩ := ha.balanced.places _ id (Books.place_valid hknown name) hfind
  obtain ⟨e, he, heq⟩ := Option.map_eq_some_iff.mp howners
  have hpos : e.owners ≠ 0 := by
    rw [heq]
    rcases hheld with hin | hkeeps
    · have hcount : 0 < (w.books h).deals.countP (Deal.drops start (start.place name)) :=
        Multiset.countP_pos.mpr ⟨_, hin, rfl⟩
      omega
    · unfold Plan.Keeps at hkeeps
      omega
  refine ⟨?_, e, he, hpos⟩
  simp only [Store.handleNamed, hid, he, if_neg hpos]

section Begin
variable {c : Command} {d : Deal} {todo : List Command} {done : List Reply} (done' : List Reply)

theorem mem_deals {cs : List Command} (hd : d ∈ cs.filterMap Command.deal?) : d ∈ (Frame.commands cs done).deals :=
  Multiset.mem_coe.mpr hd

theorem deals_cons (hc : c.deal? = some d) :
    (Frame.commands (c :: todo) done).deals = d ::ₘ (Frame.commands todo done').deals := by
  simp [Frame.deals, Frame.dealList, hc]

theorem enrols_cons (hc : c.deal? = some d) : (Frame.commands (c :: todo) done).enrols =
    ((d.enrols?.toList : List String) : Multiset String) + (Frame.commands todo done').enrols := by
  simp only [Frame.enrols, List.filterMap_cons, hc]
  cases d.enrols? <;> simp

/-- A deal that begins is no longer to be done. -/
theorem deals_begun {old new : Multiset Deal} {p : Progress} {d : Deal} {c : Command}
    (hc : c.deal? = some d) (h : new + (Frame.commands (c :: todo) done).deals = old + p.tally Frame.deals)
    (hp : p.tally Frame.deals = (Frame.commands todo done').deals) : old = d ::ₘ new := by
  rw [hp, deals_cons done' hc, Multiset.add_cons, ← Multiset.cons_add] at h
  exact (add_right_cancel h).symm

/-- Beginning a deal gives no handle its place yet. -/
theorem enrols_begun {old new : Multiset String} {p : Progress} {d : Deal} {c : Command}
    (hc : c.deal? = some d) (h : new + (Frame.commands (c :: todo) done).enrols = old + p.tally Frame.enrols)
    (hp : p.tally Frame.enrols =
      ((d.enrols?.toList : List String) : Multiset String) + (Frame.commands todo done').enrols) :
    new = old := by
  rw [hp, enrols_cons done' hc] at h
  exact add_right_cancel h

end Begin

/-- A command begins: a frame for it comes on top of its program, or it is over at once. -/
theorem Accounts.begun {c : Command} {todo : List Command} {done : List Reply} (done' : List Reply)
    (ys : List Frame) (ha : w.Accounts start first plan guard g h) (ht : w.acting? t = some (.commands (c :: todo) done))
    (hbides : w.store.Bides r.1) (hhandles : r.1.names.handles = w.store.names.handles)
    (hentries : ∀ id, w.store.resource? id = none → r.1.resource? id = none) (hspawned : r.2.spawned = [])
    (hframes : r.2.frames = ys ++ [.commands todo done']) (htame : ∀ y ∈ ys, y.Tame guard g)
    (henrolled : ∀ y ∈ ys, y.Enrolled start plan g r.1)
    (habides : ∀ rest, Abides (Plan.Keeps start plan) w.store.Knows rest →
      Abides (Plan.Keeps start plan) w.store.Knows (ys ++ .commands todo done' :: rest))
    (hbooks : (w.books h).Step start plan
      ((w.act t).books (h ++ (Frame.commands (c :: todo) done).marks w.store))) :
    w.Proceeds start plan guard g h t (.commands (c :: todo) done) r := by
  have hforall : ∀ {P : Frame → Prop}, (∀ y ∈ ys, P y) → P (.commands todo done') → ∀ y ∈ r.2.frames, P y := by
    intro P hys hlast y hy
    rw [hframes] at hy
    rcases List.mem_append.mp hy with hy | hy
    · exact hys y hy
    · rw [List.mem_singleton.mp hy]
      exact hlast
  exact
    { bides := hbides
      spawned := hspawned
      tame := hforall htame (List.forall_mem_cons.mp (ha.acting_tame ht)).2
      quiet := fun id e hnone he => by
        rw [hentries id hnone] at he
        cases he
      enrolled := hforall henrolled fun d hd => by
        obtain ⟨c', hc', hd⟩ := List.mem_filterMap.mp hd
        exact ha.acting_enrolled ht d (List.mem_filterMap.mpr ⟨c', List.mem_cons_of_mem c hc', hd⟩)
      abides := fun th rest hth hstack => by
        have hknows : r.1.Knows = w.store.Knows := by
          unfold Store.Knows
          rw [hhandles]
        have hbelow : Abides (Plan.Keeps start plan) w.store.Knows rest :=
          (hstack ▸ ha.abides th hth).2.mono fun name hname => hname.resolve_left id
        have hgoes : (th.progress rest r.2).stack = ys ++ .commands todo done' :: rest := by
          rw [Thread.stack_goes hspawned (by simp [hframes]), hframes, List.append_assoc]
          rfl
        rw [hknows, hgoes]
        exact habides rest hbelow
      lookup := fun name id hid => hhandles ▸ hid
      made := fun name id hid => .inl (hhandles ▸ hid)
      books := hbooks }

section Begins
variable {todo : List Command} {done : List Reply} (ha : w.Accounts start first plan guard g h)

include ha

/-- A program at the top of a stack can be carried out as things stand. -/
theorem Accounts.fits {cs : List Command} (ht : w.acting? t = some (.commands cs done)) :
    Program.Fits (Plan.Keeps start plan) w.store.Knows (cs.filterMap Command.deal?) := by
  obtain ⟨th, rest, hth, hstack, -⟩ := thread?_act ht
  exact (hstack ▸ ha.abides th (thread?_mem hth)).1

/-- A registration begins. -/
theorem Accounts.begins_register (hw : w.Orderly h) {name : String} {r₀ : Registration Command}
    (ht : w.acting? t = some (.commands ((Deal.register name r₀).command guard :: todo) done))
    (hquiet : (Deal.register name r₀).isQuiet = true)
    (hr : Script.advance w.store ((Deal.register name r₀).command guard :: todo) done = r) :
    w.Proceeds start plan guard g h t (.commands ((Deal.register name r₀).command guard :: todo) done) r := by
  have hin := ha.acting_enrolled ht (.register name r₀) (by simp)
  have hfits : Program.Fits _ _ (.register name r₀ :: todo.filterMap Command.deal?) := ha.fits ht
  obtain ⟨hnames, howners, htried, hds, hxs⟩ := books_act (h := h) hw.1 ht hr []
  rw [advance_register ha.named] at hr
  subst hr
  have hd := Deal.deal?_command guard (.register name r₀)
  have hds := deals_begun done hd hds (zero_add _)
  have hxs := enrols_begun done hd hxs rfl
  refine ha.begun done [_] ht (.refl _) rfl (fun _ => id) rfl rfl
    (List.forall_mem_singleton.mpr ⟨rfl, hquiet, rfl⟩)
    (List.forall_mem_singleton.mpr fun _ => ⟨hin, fun id hid => by cases hid⟩) (fun rest hrest => ?_) ?_
  · refine ⟨trivial, Program.Fits.mono hfits fun name' => Or.imp_left fun h => ⟨h.1, rfl, h.2⟩, ?_⟩
    exact hrest.mono fun name' h => .inr (.inr h)
  · have heq : (w.act t).books (h ++ []) =
        { w.books h with deals := ((w.act t).books (h ++ [])).deals } :=
      Books.ext hnames howners (funext fun id => by simpa [Progress.spots, Frame.spots] using htried id)
        rfl hxs
    exact heq ▸ .enrol hds

section Held
variable (hfree : ∀ name ∈ plan.filterMap Deal.enrols?, start.names.handles.lookup name = none)
  (hknown : ∀ name id, (name, id) ∈ start.names.handles → start.Known id) (hw : w.Orderly h) {name : String}
include hfree hknown hw

/-- A release begins. -/
theorem Accounts.begins_release {through : Bool}
    (ht : w.acting? t = some (.commands ((Deal.release name through).command guard :: todo) done))
    (hr : Script.advance w.store ((Deal.release name through).command guard :: todo) done = r) :
    w.Proceeds start plan guard g h t (.commands ((Deal.release name through).command guard :: todo) done) r := by
  have hd := Deal.deal?_command guard (.release name through)
  have hfits : Program.Fits _ _ (.release name through :: todo.filterMap Command.deal?) := ha.fits ht
  obtain ⟨⟨id, hid⟩, hshare, hfits⟩ := hfits
  obtain ⟨hnamed, -⟩ := ha.held hfree hknown hid
    (hshare.imp_left fun hin => mem_tally_acting ht
      (mem_deals (by rw [List.filterMap_cons_some hd]; exact .tail _ hin)))
  obtain ⟨hnames, howners, htried, hds, hxs⟩ := books_act (h := h) hw.1 ht hr []
  rw [advance_release ha.named through hnamed] at hr
  subst hr
  have hkeeps : w.store.Keeps (w.store.beginUse id) := w.store.keeps_modifyEntry id fun _ => rfl
  have hds := deals_begun done hd hds (zero_add _)
  have hxs := enrols_begun done hd hxs rfl
  refine ha.begun done [_] ht hkeeps.toBides hkeeps.handles (fun id' hnone => ?_) rfl rfl
    (List.forall_mem_singleton.mpr trivial) (List.forall_mem_singleton.mpr trivial)
    (fun rest hrest => ⟨trivial, hfits.mono fun _ => .inr, hrest.mono fun _ h => .inr (.inr h)⟩) ?_
  · have howner := hkeeps.owners id'
    rw [hnone] at howner
    exact Option.map_eq_none_iff.mp howner
  · have heq : (w.act t).books (h ++ []) =
        { w.books h with
          deals := ((w.act t).books (h ++ [])).deals
          tried := Function.update (w.books h).tried id ((w.books h).tried id + 1) } := by
      refine Books.ext (hnames.trans hkeeps.handles) (howners.trans (funext hkeeps.owners))
        (funext fun id' => ?_) rfl hxs
      have htried := htried id'
      by_cases hne : id' = id
      · subst hne
        simpa [Progress.spots, Frame.spots] using htried
      · simpa [Progress.spots, Frame.spots, hne] using htried
    exact heq ▸ .use hds hid

/-- A share is given up, and with the last one the drop of the handle begins. -/
theorem Accounts.begins_drop
    (ht : w.acting? t = some (.commands ((Deal.drop name).command guard :: todo) done))
    (hr : Script.advance w.store ((Deal.drop name).command guard :: todo) done = r) :
    w.Proceeds start plan guard g h t (.commands ((Deal.drop name).command guard :: todo) done) r := by
  have hd := Deal.deal?_command guard (.drop name)
  have hfits : Program.Fits _ _ (.drop name :: todo.filterMap Command.deal?) := ha.fits ht
  obtain ⟨⟨id, hid⟩, hfits⟩ := hfits
  obtain ⟨hnamed, e, he, hheld⟩ := ha.held hfree hknown hid
    (.inl (mem_tally_acting ht (mem_deals (by simp))))
  obtain ⟨n, hn⟩ := Nat.exists_eq_succ_of_ne_zero hheld
  obtain ⟨hnames, howners, htried, hds, hxs⟩ := books_act (h := h) hw.1 ht hr []
  obtain ⟨hstore, hgoes⟩ := advance_drop guard todo done hnamed
  rw [hr] at hstore hgoes
  have hamends := (Store.dropShare_amends he).2
  have hbides : w.store.Bides (w.store.dropShare id).1 := by
    simp only [Store.dropShare, he]
    exact w.store.bides_modifyEntry id _
  rw [← hstore] at hamends hbides
  have hbooks : ∀ done', r.2.tally Frame.deals = (Frame.commands todo done').deals →
      r.2.tally Frame.enrols = 0 + (Frame.commands todo done').enrols →
      (∀ id', r.2.spots.count (.asking id') = 0) →
      (w.books h).Step start plan ((w.act t).books (h ++ [])) := fun done' hdeals henrols hspots => by
    have hds := deals_begun done' hd hds hdeals
    have hxs := enrols_begun done' hd hxs henrols
    have heq : (w.act t).books (h ++ []) =
        { w.books h with
          deals := ((w.act t).books (h ++ [])).deals
          owners := Function.update (w.books h).owners id (some n) } := by
      refine Books.ext (hnames.trans hamends.handles) (howners.trans (funext fun id' => ?_))
        (funext fun id' => ?_) rfl hxs
      · rw [hamends.entry]
        by_cases hne : id = id'
        · subst hne
          simp [he, hn]
        · simp [hne, Function.update_of_ne (Ne.symm hne), books]
      · simpa [Frame.spots, hspots] using htried id'
    exact heq ▸ .drop hds hid (by simp [books, he, hn])
  have hentries : ∀ id', w.store.resource? id' = none → r.1.resource? id' = none := fun id' hnone => by
    rw [hamends.entry, hnone]
    split <;> rfl
  rcases hgoes with hgoes | hgoes
  · refine ha.begun done [.drop id .check] ht hbides hamends.handles hentries ?_ ?_
      (List.forall_mem_singleton.mpr trivial) (List.forall_mem_singleton.mpr trivial)
      (fun rest hrest => ⟨trivial, hfits.mono fun _ => .inr, hrest.mono fun _ h => .inr (.inr h)⟩)
      (hbooks done ?_ ?_ fun id' => ?_) <;> rw [hgoes]
    · rfl
    · rfl
    · exact zero_add _
    · rfl
    · simp [Progress.spots, Frame.spots]
  · refine ha.begun (.done :: done) [] ht hbides hamends.handles hentries ?_ ?_ (List.forall_mem_nil _)
      (List.forall_mem_nil _) (fun rest hrest => ⟨hfits, hrest.mono fun _ => .inr⟩)
      (hbooks (.done :: done) ?_ ?_ fun id' => ?_) <;> rw [hgoes]
    · rfl
    · rfl
    · rfl
    · exact (zero_add _).symm
    · simp [Progress.spots, Frame.spots]

end Held

/-- A flush begins, which is nobody's deal. -/
theorem Accounts.begins_flush (hw : w.Orderly h) {patience : Patience}
    (ht : w.acting? t = some (.commands (.flush guard patience .opens :: todo) done))
    (hr : Script.advance w.store (.flush guard patience .opens :: todo) done = r) :
    w.Proceeds start plan guard g h t (.commands (.flush guard patience .opens :: todo) done) r := by
  have hfits := ha.fits ht
  obtain ⟨hnames, howners, htried, hds, hxs⟩ := books_act (h := h) hw.1 ht hr []
  rw [advance_flush ha.named] at hr
  subst hr
  refine ha.begun done [_] ht (.refl _) rfl (fun _ => id) rfl rfl
    (List.forall_mem_singleton.mpr trivial) (List.forall_mem_singleton.mpr trivial)
    (fun rest hrest => ⟨trivial, Program.Fits.mono hfits fun _ => .inr, hrest.mono fun _ h => .inr (.inr h)⟩) ?_
  have heq : (w.act t).books (h ++ []) = w.books h :=
    Books.ext hnames howners (funext fun id => by simpa [Progress.spots, Frame.spots] using htried id)
      (add_right_cancel (hds.trans (congrArg _ (zero_add _)))) (add_right_cancel (hxs.trans (congrArg _ (zero_add _))))
  exact heq ▸ .rest

/-- A deal begins, or a flush. -/
theorem Accounts.begins (hfree : ∀ name ∈ plan.filterMap Deal.enrols?, start.names.handles.lookup name = none)
    (hknown : ∀ name id, (name, id) ∈ start.names.handles → start.Known id) (hw : w.Orderly h) {c : Command}
    (ht : w.acting? t = some (.commands (c :: todo) done)) (hr : Script.advance w.store (c :: todo) done = r) :
    w.Proceeds start plan guard g h t (.commands (c :: todo) done) r := by
  have hc := (List.forall_mem_cons.mp (ha.acting_tame ht)).1
  cases hc with
  | @deal d hquiet =>
    cases d with
    | register name r₀ => exact ha.begins_register hw ht hquiet hr
    | release name through => exact ha.begins_release hfree hknown hw ht hr
    | drop name => exact ha.begins_drop hfree hknown hw ht hr
  | flush patience => exact ha.begins_flush hw ht hr

end Begins

section Register
variable {q : RegisterRequest} {p p' : RegisterPoint}

/-- What a registration makes of the books: releases and what there is to do stay as they are. -/
theorem books_register (hw : w.Disciplined) (ht : w.acting? t = some (.register q p))
    (hr : p.advance w.store q = r) (hgoes : (∃ p', r.2 = .goto (.register q p')) ∨ ∃ o, r.2 = .finish o) :
    ((w.act t).books (h ++ (Frame.register q p).marks w.store)).tried = (w.books h).tried ∧
    ((w.act t).books (h ++ (Frame.register q p).marks w.store)).deals = (w.books h).deals ∧
    ((w.act t).books (h ++ (Frame.register q p).marks w.store)).enrols + (Frame.register q p).enrols =
      (w.books h).enrols + r.2.tally Frame.enrols := by
  obtain ⟨-, -, htried, hds, hxs⟩ := books_act (h := h) hw ht hr ((Frame.register q p).marks w.store)
  have hclaims : ∀ id won, ((Frame.register q p).marks w.store).count (id, .claimed .release won) = 0 :=
    fun id won => List.count_eq_zero.mpr (Frame.not_claimed rfl w.store id won)
  have hspots : ∀ p id, (Frame.register q p).spots.count (.asking id) = 0 := fun p id =>
    Multiset.count_eq_zero.mpr (Frame.not_asking rfl id)
  refine ⟨funext fun id => ?_, ?_, hxs⟩
  · have htried := htried id
    rw [hclaims, hclaims, hspots] at htried
    rcases hgoes with ⟨p', hgoes⟩ | ⟨o, hgoes⟩ <;> rw [hgoes] at htried
    · simpa [Progress.spots, hspots] using htried
    · exact htried
  · rcases hgoes with ⟨p', hgoes⟩ | ⟨o, hgoes⟩ <;> rw [hgoes] at hds <;> exact add_right_cancel hds

/-- A registration goes on. -/
theorem Accounts.registering (ha : w.Accounts start first plan guard g h)
    (ht : w.acting? t = some (.register q p)) (hgoes : r.2 = .goto (.register q p')) (hplain : p'.isPlain = true)
    (hbides : w.store.Bides r.1)
    (hquiet : ∀ id e, w.store.resource? id = none → r.1.resource? id = some e → e.callback.isQuiet = true)
    (henrolled : (Frame.register q p').Enrolled start plan g r.1)
    (hgives : ∀ name, (Frame.register q p).Gives name ∨ w.store.Knows name →
      (Frame.register q p').Gives name ∨ r.1.Knows name)
    (hlookup : ∀ name id, w.store.names.handles.lookup name = some id →
      r.1.names.handles.lookup name = some id)
    (hmade : ∀ name id, r.1.names.handles.lookup name = some id →
      w.store.names.handles.lookup name = some id ∨
        ∃ reg, .register name reg ∈ plan ∧ reg.Made g r.1 id)
    (hbooks : (w.books h).Step start plan ((w.act t).books (h ++ (Frame.register q p).marks w.store))) :
    w.Proceeds start plan guard g h t (.register q p) r := by
  obtain ⟨hguard, hcalm, -⟩ := ha.acting_tame ht
  have hframes : ∀ {P : Frame → Prop}, P (.register q p') → ∀ y ∈ r.2.frames, P y := fun hP y hy => by
    rw [hgoes] at hy
    rwa [List.mem_singleton.mp hy]
  exact
    { bides := hbides
      spawned := by rw [hgoes]; rfl
      tame := hframes ⟨hguard, hcalm, hplain⟩
      quiet := hquiet
      enrolled := hframes henrolled
      abides := fun th rest hth hstack => by
        rw [hgoes]
        exact ⟨trivial, (hstack ▸ ha.abides th hth).2.mono hgives⟩
      lookup := hlookup
      made := hmade
      books := hbooks }

/-- A registration is refused, or a new handle gets its number. -/
theorem Accounts.numbers (ha : w.Accounts start first plan guard g h) (hw : w.Orderly h)
    (ht : w.acting? t = some (.register q .allocate)) (hr : RegisterPoint.allocate.advance w.store q = r) :
    w.Proceeds start plan guard g h t (.register q .allocate) r := by
  obtain ⟨rfl, hcalm, -⟩ := ha.acting_tame ht
  obtain ⟨hplan, -⟩ := ha.acting_enrolled ht rfl
  obtain ⟨hnames, howners, -⟩ := books_act (h := h) hw.1 ht hr ((Frame.register q .allocate).marks w.store)
  have hbooks := books_register (h := h) hw.1 ht hr
  simp only [RegisterPoint.advance] at hr
  cases hcheck : q.registration.check with
  | error e =>
    simp only [hcheck] at hr
    subst hr
    obtain ⟨htried, hds, hxs⟩ := hbooks (.inr ⟨_, rfl⟩)
    have hgives : ∀ name, ¬(Frame.register q .allocate).Gives name := by
      intro name hname
      obtain ⟨-, -, f, hf⟩ := hname
      cases hcheck.symm.trans hf
    exact
      { bides := .refl _
        spawned := rfl
        tame := List.forall_mem_nil _
        quiet := fun id e hnone he => by cases hnone.symm.trans he
        enrolled := List.forall_mem_nil _
        abides := fun th rest hth hstack => by
          have hbelow : Abides (Plan.Keeps start plan) w.store.Knows rest :=
            (hstack ▸ ha.abides th hth).2.mono fun name hname => hname.resolve_left (hgives name)
          exact hbelow.progress (fun y hy => ha.tame th hth y (hstack ▸ .tail _ hy)) (hstack ▸ hw.1 th hth)
            (List.forall_mem_nil _)
        lookup := fun _ _ => id
        made := fun _ _ => .inl
        books := by
          have heq : (w.act t).books (h ++ (Frame.register q .allocate).marks w.store) =
              { w.books h with
                enrols := ((w.act t).books (h ++ (Frame.register q .allocate).marks w.store)).enrols } :=
            Books.ext hnames howners htried hds rfl
          refine heq ▸ .refuse (q := q) ?_ hplan hcheck
          rw [← Multiset.singleton_add, add_comm]
          exact (add_zero _).symm.trans hxs.symm }
  | ok f =>
    simp only [hcheck] at hr
    subst hr
    obtain ⟨htried, hds, hxs⟩ := hbooks (.inl ⟨_, rfl⟩)
    have hfresh := w.store.resource?_allocate_self q.guard q.registration f
    have hnew := w.store.resource?_allocate_new q.guard q.registration f
    have hentry := w.store.resource?_allocate q.guard q.registration f
    refine ha.registering ht rfl rfl ⟨rfl, rfl, fun _ => rfl⟩ (fun id e hnone he => ?_)
      (fun _ => ⟨hplan, ?_⟩) (fun name => Or.imp_left fun h => ⟨h.1, rfl, f, hcheck⟩) (fun _ _ => id)
      (fun _ _ => .inl) ?_
    · rw [hentry] at he
      split at he
      · cases he
        have hcallback := Registration.check_ok hcheck
        rwa [Registration.isQuiet, hcallback] at hcalm
      · cases hnone.symm.trans he
    · rintro id ⟨⟩
      refine ⟨⟨f, _, hcheck, hnew, rfl, rfl, rfl, rfl⟩, fun hknown => ?_⟩
      obtain ⟨howners, -⟩ := ha.balanced.places (.old _) _ hknown rfl
      simp [books, hfresh] at howners
    · have heq : (w.act t).books (h ++ (Frame.register q .allocate).marks w.store) =
          { w.books h with
            owners := Function.update (w.books h).owners (w.store.allocate q.guard q.registration f).2
              (some 1) } := by
        refine Books.ext hnames (howners.trans (funext fun id => ?_)) htried hds (add_right_cancel hxs)
        rw [hentry]
        by_cases hid : id = (w.store.allocate q.guard q.registration f).2
        · subst hid
          simp
        · simp [hid, books]
      exact heq ▸ .number (by simp [books, hfresh])

/-- A registration is tracked or counted. -/
theorem Accounts.goes (ha : w.Accounts start first plan guard g h) (hw : w.Orderly h) {id : HandleId}
    (ht : w.acting? t = some (.register q p)) (hr : p.advance w.store q = r) (hid : p.id? = some id)
    (hid' : p'.id? = some id) (hgoes : r.2 = .goto (.register q p')) (hkeeps : w.store.Keeps r.1) :
    w.Proceeds start plan guard g h t (.register q p) r := by
  have hpending : ∀ {p : RegisterPoint}, p.id? = some id → p.isPending = true ∧ p.isPlain = true := fun {p} hp => by
    cases p <;> first | exact ⟨rfl, rfl⟩ | cases hp
  have henrolled := ha.acting_enrolled ht (hpending hid).1
  obtain ⟨hnames, howners, -⟩ := books_act (h := h) hw.1 ht hr ((Frame.register q p).marks w.store)
  obtain ⟨htried, hds, hxs⟩ := books_register (h := h) hw.1 ht hr (.inl ⟨p', hgoes⟩)
  have hext : w.store.Extends r.1 := hr ▸ hw.extends_acting ht
  have hknows : r.1.Knows = w.store.Knows := by
    unfold Store.Knows
    rw [hkeeps.handles]
  refine ha.registering ht hgoes (hpending hid').2 hkeeps.toBides (fun id e hnone he => ?_)
    (fun _ => ⟨henrolled.1, fun id' hin => ?_⟩) (fun name => ?_) (fun name id hname => hkeeps.handles ▸ hname)
    (fun name id hname => .inl (hkeeps.handles ▸ hname)) ?_
  · have howner := hkeeps.owners id
    rw [hnone, he] at howner
    cases howner
  · cases hid'.symm.trans hin
    exact (henrolled.2 id hid).imp_left (·.extends hext)
  · rw [hknows]
    exact Or.imp_left fun h => ⟨h.1, (hpending hid').1, h.2.2⟩
  · have heq : (w.act t).books (h ++ (Frame.register q p).marks w.store) = w.books h := by
      refine Books.ext (hnames.trans hkeeps.handles) (howners.trans (funext hkeeps.owners)) htried hds ?_
      rw [hgoes, Progress.tally, Frame.enrols, Frame.enrols, (hpending hid).1, (hpending hid').1] at hxs
      exact add_right_cancel hxs
    exact heq ▸ .rest

/-- A handle that is about to go into its place is in none, and nobody has tried to release it. -/
theorem Regular.unbound (hrg : w.Regular h) (hw : w.Orderly h) {id : HandleId} {e : Entry}
    (ht : w.acting? t = some (.register q (.bind id))) (he : w.store.resource? id = some e) :
    id ∉ (w.books h).names.map Prod.snd ∧ (w.books h).tried id = 0 := by
  obtain ⟨x, hx⟩ := hw.2.entries id e he
  have hsound := (hrg id e x he hx).sound
  obtain ⟨hsub, -, -, -⟩ := acts_acting hw.2.spots ht
  have hspot : w.spots.count (.counted id) ≠ 0 :=
    Multiset.count_ne_zero.mpr (hsub (Multiset.mem_singleton_self _))
  have hon : (w.life h id e x).on (.counted id) = w.spots.count (.counted id) := on_life rfl
  have hunbound : (w.life h id e x).bound = 0 := by
    have := hsound.once
    omega
  obtain ⟨hactive, -, hasking⟩ := hsound.fresh hunbound
  have hwins := hsound.wins
  obtain ⟨hlosses, -⟩ := hsound.losses hactive
  have hasked : (w.life h id e x).on (.asking id) = w.spots.count (.asking id) := on_life rfl
  rw [hactive, saw_life (m := .claimed .release true) trivial] at hwins
  rw [saw_life (m := .claimed .release false) trivial] at hlosses
  refine ⟨List.count_eq_zero.mp hunbound, ?_⟩
  simp only [books]
  omega

/-- A new handle goes into its place. -/
theorem Accounts.binds (ha : w.Accounts start first plan guard g h)
    (hnodup : (plan.filterMap Deal.enrols?).Nodup)
    (hfree : ∀ name ∈ plan.filterMap Deal.enrols?, start.names.handles.lookup name = none)
    (hw : w.Orderly h) (hrg : w.Regular h) {id : HandleId} (ht : w.acting? t = some (.register q (.bind id)))
    (hr : (RegisterPoint.bind id).advance w.store q = r) :
    w.Proceeds start plan guard g h t (.register q (.bind id)) r := by
  obtain ⟨hplan, hid⟩ := ha.acting_enrolled ht rfl
  obtain ⟨hmade, hnew⟩ := hid id rfl
  obtain ⟨-, e, -, he, -⟩ := (show q.registration.Made g w.store id from hmade)
  obtain ⟨hunbound, htried₀⟩ := hrg.unbound hw ht he
  have hcoming : q.handle ∈ (w.books h).enrols :=
    mem_tally_acting ht (Multiset.mem_singleton_self _)
  have hnone := ha.balanced.lookup_coming hfree hnodup hcoming
  obtain ⟨hnames, howners, -⟩ := books_act (h := h) hw.1 ht hr ((Frame.register q (.bind id)).marks w.store)
  have hbooks := books_register (h := h) hw.1 ht hr
  have hnamed : w.store.handleNamed q.handle = .error .handle := by
    simp only [Store.handleNamed, show w.store.names.handles.lookup q.handle = none from hnone]
  simp only [RegisterPoint.advance, hnamed] at hr
  subst hr
  obtain ⟨htried, hds, hxs⟩ := hbooks (.inl ⟨_, rfl⟩)
  have hlookup : ∀ name, (w.store.bindHandle q.handle id).names.handles.lookup name =
      if name = q.handle then some id else w.store.names.handles.lookup name := fun name =>
    Books.lookup_cons_eq name q.handle id _
  refine ha.registering ht rfl rfl ⟨rfl, rfl, fun _ => rfl⟩ (fun id' e' hnone' he' => ?_)
    (fun hpending => by cases hpending)
    (fun name hname => .inr ?_) (fun name id' hid' => ?_) (fun name id' hid' => ?_) ?_
  · cases hnone'.symm.trans he'
  · rw [Store.Knows, hlookup]
    split
    · exact ⟨id, rfl⟩
    · next hne => exact hname.resolve_left fun h => hne h.1
  · rw [hlookup, if_neg]
    · exact hid'
    · rintro rfl
      cases (show w.store.names.handles.lookup q.handle = none from hnone).symm.trans hid'
  · rw [hlookup] at hid'
    split at hid'
    · next heq =>
      cases hid'
      exact .inr ⟨q.registration, heq ▸ hplan, hmade⟩
    · exact .inl hid'
  · have heq : (w.act t).books (h ++ (Frame.register q (.bind id)).marks w.store) =
        { w.books h with
          enrols := ((w.act t).books (h ++ (Frame.register q (.bind id)).marks w.store)).enrols
          names := (q.handle, id) :: (w.books h).names } :=
      Books.ext hnames howners htried hds rfl
    refine heq ▸ .bind ?_ hnew hunbound htried₀ ?_
    · rw [← Multiset.singleton_add, add_comm]
      exact (add_zero _).symm.trans hxs.symm
    · simp [books, he]

/-- A registration is taken further. -/
theorem Accounts.registers (ha : w.Accounts start first plan guard g h)
    (hnodup : (plan.filterMap Deal.enrols?).Nodup)
    (hfree : ∀ name ∈ plan.filterMap Deal.enrols?, start.names.handles.lookup name = none)
    (hw : w.Orderly h) (hrg : w.Regular h) (ht : w.acting? t = some (.register q p))
    (hr : p.advance w.store q = r) (hmajor : (Frame.register q p).isMajor = true) :
    w.Proceeds start plan guard g h t (.register q p) r := by
  cases p with
  | allocate => exact ha.numbers hw ht hr
  | track id =>
    subst hr
    exact ha.goes hw ht rfl rfl rfl rfl (w.store.keeps_modifyGuard _ fun _ _ => rfl)
  | count id =>
    subst hr
    exact ha.goes hw ht rfl rfl rfl rfl ((w.store.keeps_modifyStats _ _).trans (Store.keeps_log ..))
  | bind id => exact ha.binds hnodup hfree hw hrg ht hr
  | dropping id =>
    exact absurd (ha.acting_tame ht).2.2 (by simp [RegisterPoint.isPlain])
  | report id => cases hmajor

end Register

/-- The accounts go on when somebody's patience runs out. -/
theorem Accounts.expire {w' : System} (ha : w.Accounts start first plan guard g h) (hw : w.Orderly h)
    (hm : w.move? (.expire t) = some w') :
    w'.Accounts start first plan guard g h ∧ w'.threads.size = w.threads.size := by
  obtain ⟨hstore, hspots, -⟩ := spots_expire hw.1 hm
  have hforall : ∀ {P : List Frame → Prop}, (∀ th ∈ w.threads, P th.stack) →
      (∀ th ∈ w.threads, ∀ y rest o, th.stack = y :: rest → y.isMinor = true →
        P (th.progress rest (.finish o)).stack) → ∀ th ∈ w'.threads, P th.stack := fun hall hfinish =>
    forall_stack_expire hall hm fun th hth _ _ _ _ rest o hstack => hfinish th hth _ rest o hstack rfl
  have hframes : ∀ {P : Frame → Prop}, (∀ th ∈ w.threads, ∀ y ∈ th.stack, P y) →
      (∀ y, P y → y.waits = true → ∀ o, P (y.receive o)) → ∀ th ∈ w'.threads, ∀ y ∈ th.stack, P y :=
    fun {P} hall hreceive => hforall (P := fun stack => ∀ y ∈ stack, P y) hall fun th hth y rest o hstack _ =>
      Thread.forall_frames (hstack ▸ hw.1 th hth) (List.forall_mem_nil _)
        (fun z hz => hall th hth z (hstack ▸ List.mem_cons_of_mem y hz)) hreceive
  have htally : ∀ {α : Type} (f : Frame → Multiset α), (∀ x o, x.waits = true → f (x.receive o) = f x) →
      (∀ g gate k, f (.flush g .deadline gate (.waiting k)) = 0) → w'.tally f = w.tally f := fun f hf hzero => by
    obtain ⟨th, g', gate, k, rest, hth, hstack, -, rfl⟩ := expire_cases hm
    rw [← tally_expire hf hw.1 hth hstack (.flag false), hzero, add_zero]
  have hbooks : w'.books h = w.books h := by
    refine Books.ext ?_ ?_ ?_ (htally _ Frame.deals_receive fun _ _ _ => rfl)
      (htally _ Frame.enrols_receive fun _ _ _ => rfl) <;> simp only [books, hstore, hspots]
  refine ⟨?_, ?_⟩
  · exact
      { tame := hframes ha.tame fun y hy => hy.receive
        calm := hstore ▸ ha.calm
        opens := hstore ▸ ha.opens
        named := hstore ▸ ha.named
        failing := hstore ▸ ha.failing
        enrolled := by
          rw [hstore]
          exact hframes ha.enrolled fun y hy => hy.receive
        abides := by
          rw [hstore]
          refine hforall ha.abides fun th hth y rest o hstack hminor => ?_
          exact ((hstack ▸ ha.abides th hth).of_minor hminor).progress
            (fun z hz => ha.tame th hth z (hstack ▸ List.mem_cons_of_mem y hz)) (hstack ▸ hw.1 th hth)
            (List.forall_mem_nil _)
        made := by
          rw [hstore]
          exact ha.made
        balanced := hbooks ▸ ha.balanced }
  · obtain ⟨th, g', gate, k, rest, hth, hstack, -, rfl⟩ := expire_cases hm
    exact Array.size_modify

/-! ## Runs -/

section Run
variable (hnodup : (plan.filterMap Deal.enrols?).Nodup)
  (hfree : ∀ name ∈ plan.filterMap Deal.enrols?, start.names.handles.lookup name = none)
  (hknown : ∀ name id, (name, id) ∈ start.names.handles → start.Known id)
include hnodup hfree hknown

/-- Every action keeps to the accounts. -/
theorem Accounts.proceeds (ha : w.Accounts start first plan guard g h) (hw : w.Orderly h)
    (hrg : w.Regular h) (ht : w.acting? t = some x) :
    w.Proceeds start plan guard g h t x (x.advance t w.threads.size w.store) := by
  cases hmajor : x.isMajor with
  | false => exact ha.neutral hw ht rfl hmajor
  | true =>
    cases x with
    | commands todo done =>
      cases todo with
      | nil => cases hmajor
      | cons c todo => exact ha.begins hfree hknown hw ht rfl
    | register q p => exact ha.registers hnodup hfree hw hrg ht rfl hmajor
    | _ => cases hmajor

theorem Accounts.occur (ha : w.Accounts start first plan guard g h) (hw : w.Orderly h)
    (hrg : w.Regular h) (m : Move) :
    (w.occur (.move m)).Accounts start first plan guard g (h ++ w.marks (.move m)) ∧
      (w.occur (.move m)).threads.size = w.threads.size := by
  cases m with
  | act t =>
    simp only [marks]
    cases ht : w.acting? t with
    | none =>
      rw [occur_not_acting ht, List.append_nil]
      exact ⟨ha, rfl⟩
    | some x =>
      have hp := ha.proceeds hnodup hfree hknown hw hrg ht
      rw [occur_acting ht]
      refine ⟨ha.proceed hnodup hfree hknown hw ht rfl hp, ?_⟩
      obtain ⟨name, rest, out, hth, -⟩ := acting?_eq_some ht
      rw [act_eq hth, hp.spawned]
      simp
  | expire t =>
    simp only [marks, List.append_nil, System.occur]
    cases hm : w.move? (.expire t) with
    | none => exact ⟨ha, rfl⟩
    | some w' => exact ha.expire hw hm

/-- As long as only threads that there are act, the accounts go on. -/
theorem Accounts.after (ha : w.Accounts start first plan guard g h) (hw : w.Orderly h)
    (hrg : w.Regular h) (moves : List Move) :
    (w.after (moves.map .move)).Accounts start first plan guard g (h ++ w.history (moves.map .move)) ∧
      (w.after (moves.map .move)).threads.size = w.threads.size := by
  induction moves generalizing w h with
  | nil =>
    rw [List.map_nil, history, List.append_nil]
    exact ⟨ha, rfl⟩
  | cons m moves ih =>
    obtain ⟨hocc, hsize⟩ := ha.occur hnodup hfree hknown hw hrg m
    obtain ⟨hafter, hsize'⟩ := ih hocc (hw.step _) (hrg.step hw _)
    rw [List.map_cons, history, ← List.append_assoc]
    exact ⟨hafter, hsize'.trans hsize⟩

end Run

end System

end Reclaim

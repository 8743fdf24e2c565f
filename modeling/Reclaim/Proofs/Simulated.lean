import Reclaim.Proofs.Settling
import Reclaim.Proofs.Windows

/-!
# What simulations come to

However the threads of a simulation take turns with the worker, every handle is released once: by the thread
that opened it, or by the worker if it leaked. So the counters, the ledger and what the sink was told follow
from the draws.

* `System.Completes.told` : what the sink was told in a completed run, in order;
* `Simulation.Decided`, `Simulation.decided`, `Simulation.decides` : what has become of a handle by the errand
  that closes it, and that there are no other handles;
* `Simulation.stats_end`, `Simulation.calls_perm`, `Simulation.rounds_perm` : counters, callbacks, reports;
* `Simulation.mem_violations` : what a simulation complains about;
* `Simulation.runThreads_eq` : by the standard schedule the threads end, and the flush is answered;
* `Simulation.programs`, `Simulation.releasesIn`, `Simulation.leakedIn` : what can be read off scripts;
* `Simulation.report`, `Simulation.summary_eq` : the summary, field by field;
* `Simulation.Result`, `Simulation.result_of_completes` : simulations, whatever their parameters and their
  draws are.
-/

namespace Reclaim

/-! ## What the sink was told -/

theorem Stage.closed_of_over {stage : Stage} (h : stage.isOver = true) : stage.isClosed = true := by
  cases stage with
  | point p => cases p <;> first | rfl | cases h
  | entering | inside => cases h
  | gone => rfl

/-- Nothing has leaked, as nothing was refused. -/
theorem Plan.End.no_leaks {start : Store} {before : History} {done : Trace} {plan : List Deal} {g : GuardId}
    {w : System} {h : History} {tr : Trace} (hend : Plan.End start before done plan g w h tr) {x : Guard}
    (hx : w.store.guard? g = some x) (hcounts : x.gist.Counts w.store g h) (hexposed : x.gist.exposed = false) :
    x.offered.toList.filterMap Diagnostic.leak? = [] := by
  have hgist : w.store.gist? g = some x.gist := by rw [Store.gist?, hx]; rfl
  refine hcounts.leaks.trans (List.filterMap_eq_nil_iff.mpr ?_)
  rintro ⟨id, m⟩ hin
  cases m with
  | leaked =>
    obtain ⟨e, he⟩ := hend.orderly.2.marks id _ hin
    rw [Store.leakOf?, he, Option.bind_some]
    split
    · next hg =>
      subst hg
      have hrefused := hend.regular.refused_of_leaked he hgist hexposed (.inl hin)
      exact absurd hrefused (List.count_eq_zero.mp (hend.rested id e he rfl).refused)
    · rfl
  | _ => rfl

namespace System
variable {guard : String} {g : GuardId} {ps : List (List Deal)} {c : Plan.Schedule}
variable (probes : Array Probe) (environment : Environment) (output : Output) (es : List Event)

/-- In a completed run the sink was told, in this order, of every handle that the worker has released, and of
nothing else. -/
theorem Completes.told (hr : ((boot probes environment output).after es).Ready guard g)
    (hp : Plan.Apt ((boot probes environment output).after es).store ps)
    (hc : ((boot probes environment output).after es).Completes guard ps c) :
    ∃ x, ((boot probes environment output).after (es ++ c.events guard ps)).store.guard? g = some x ∧
      ∃ rounds : List (HandleId × Option Panic), (rounds.map Prod.fst).Nodup ∧
        (∀ id panic, .ended (.reclaim g) id panic ∈
          (boot probes environment output).trace (es ++ c.events guard ps) ↔ (id, panic) ∈ rounds) ∧
        x.offered.toList = Trace.words (rounds.flatMap
          (((boot probes environment output).after (es ++ c.events guard ps)).store.round g)) := by
  have hend := hc.end probes environment output es hr hp
  have hrest := hc.atRest probes environment output es hr hp
  obtain ⟨x, hx, hcounts, -⟩ := hend.guard
  obtain ⟨a, ha, hspeech⟩ := hrest.speech probes environment output _ (by rw [Store.gist?, hx]; rfl)
  obtain ⟨a', ha', hdesk⟩ := site_of_guard hx
  cases ha.symm.trans ha'
  have hshown := shown_after probes environment output _ ha
  -- the source is open, so the worker has not ended
  have hopen : a.stage.isOver = false := by
    have hsource : a.source = x.source := congrArg Desk.source hdesk
    have hinterrupted : a.source.isInterrupted = false :=
      hsource ▸ (hrest.plain x.gist (by rw [Store.gist?, hx]; rfl)).2.1
    refine Bool.eq_false_iff.mpr fun hover => ?_
    rw [hshown.closed (Stage.closed_of_over hover)] at hinterrupted
    cases hinterrupted
  obtain ⟨rounds, hreclaims, hwork, hended, -⟩ := hspeech.closed (hrest.idle a ha)
  refine ⟨x, hx, rounds, hreclaims ▸ hspeech.once.1, hended, ?_⟩
  have hleaks : ∀ d ∈ x.offered.toList, d.leak? = none :=
    List.filterMap_eq_nil_iff.mp (hend.no_leaks hx hcounts (hrest.plain x.gist (by rw [Store.gist?, hx]; rfl)).1)
  have hsaid : x.offered.toList = (((boot probes environment output).trace (es ++ c.events guard ps)).of g).words :=
    (congrArg Desk.said hdesk).symm.trans hshown.said
  rw [← hwork hopen, Trace.words_work, ← hsaid, List.filter_eq_self.mpr fun d hd => ?_]
  rw [hleaks d hd]
  rfl

end System

namespace Simulation

/-! ## Threads side by side -/

theorem flatten_map_flatMap {α β : Type} (f : α → List β) (xss : List (List α)) :
    (xss.map fun xs => xs.flatMap f).flatten = xss.flatten.flatMap f := by
  rw [List.flatMap_def, List.map_flatten, List.flatten_flatten, List.map_map]
  rfl

theorem flatten_programs (ess : List (List Errand)) : (ess.map program).flatten = program ess.flatten :=
  flatten_map_flatMap Errand.deals ess

theorem flatten_commands (ess : List (List Errand)) : (ess.map commands).flatten = commands ess.flatten :=
  flatten_map_flatMap Errand.commands ess

/-- Where there are no handles there are no names for them. -/
theorem names_blank {s : Store} {spots : Multiset Spot} {h : History} (hw : Placed s spots h)
    (hentries : s.entries = #[]) : s.names.handles = [] := by
  refine List.eq_nil_iff_forall_not_mem.mpr fun x hin => ?_
  obtain ⟨name, id⟩ := x
  obtain ⟨e, he⟩ := hw.named id ⟨name, hin⟩
  simp [Store.resource?, hentries] at he

section Apt
variable {s : Store} (hnames : s.names.handles = []) {ess : List (List Errand)} (ht : Tidy ess.flatten)
include hnames ht

theorem drops_le_shares (k : Place) :
    ((ess.map program).flatten : Multiset Deal).countP (Deal.drops s k) ≤ k.shares s := by
  rw [flatten_programs]
  cases k with
  | old id =>
    refine (Multiset.countP_eq_zero.mpr fun deal hin => ?_).trans_le (Nat.zero_le _)
    cases deal with
    | drop name =>
      change s.place name ≠ .old id
      rw [place_blank hnames]
      nofun
    | _ => exact fun h => h
  | new name =>
    rw [(countP_program hnames _ _).1, countP_isDrop, ← Function.comp_def handleName, ← List.map_map]
    exact List.nodup_iff_count_le_one.mp (ht.closed_nodup.map handleName_injective) name

/-- Threads with tidy errands, none of which uses what it does not hold, may start when there are no handles
yet. -/
theorem apt_programs
    (hfits : ∀ es ∈ ess, Program.Fits (Plan.Keeps s (ess.map program).flatten) s.Knows (program es)) :
    Plan.Apt s (ess.map program) where
  distinct := by
    rw [flatten_programs, enrols_program]
    exact ht.distinct.map handleName_injective
  free := fun name _ => by rw [hnames]; rfl
  quiet := by
    rw [flatten_programs]
    exact quiet_program _
  shares := fun k _ => drops_le_shares hnames ht k
  fits := List.forall_mem_map.mpr hfits

end Apt

/-! ## What becomes of the handles -/

/-- The handle of an address. -/
def handleOf (w : System) (a : Address) : HandleId :=
  (w.store.names.handles.lookup (handleName a)).getD default

/-- What an errand that closes a handle after so many releases has led to. -/
structure Decided (g : GuardId) (w : System) (h : History) (tr : Trace) (a : Address) (n : Nat) (id : HandleId)
    (e : Entry) : Prop where
  named : w.store.names.handles.lookup (handleName a) = some id
  entry : w.store.resource? id = some e
  guard : e.guard = g
  address : e.address = a
  label : e.label = none
  verdict : e.verdict id h tr = if n = 0 then .reclaimed e none else .called n
  ended : n = 0 → .ended (.reclaim g) id none ∈ tr

section End
variable {start : Store} {before : History} {done : Trace} {es : List Errand} {g : GuardId} {w : System}
  {h : History} {tr : Trace} (hnames : start.names.handles = []) (ht : Tidy es)
include hnames ht

/-- A handle that is closed belongs to nobody in the end, and has been released as often as that says. -/
theorem counts_closed (first : HandleId → Nat) {a : Address} {n : Nat}
    (hin : (a, n) ∈ es.filterMap Errand.closed?) :
    Plan.left start (program es) (.new (handleName a)) = 0 ∧
      Plan.tries start first (program es) (.new (handleName a)) = n := by
  obtain ⟨hdrops, hreleases⟩ := countP_program hnames es (handleName a)
  rw [Plan.left, Plan.tries, hdrops, hreleases, ht.countP_isDrop hin, ht.countP_isRelease hin]
  exact ⟨rfl, zero_add n⟩

variable (hend : Plan.End start before done (program es) g w h tr)
include hend

/-- What is closed after no release has been reclaimed, and everything else released. -/
theorem decided {a : Address} {n : Nat} (hin : (a, n) ∈ es.filterMap Errand.closed?) :
    ∃ id e, Decided g w h tr a n id e := by
  have ha : a ∈ es.filterMap Errand.opened? := ht.closed.mem_iff.mp (List.mem_map.mpr ⟨_, hin, rfl⟩)
  have hplan : .register (handleName a) ((Registration.start a).releaseWith { listed := false }) ∈ program es :=
    register_mem_program.mpr ⟨a, ha, rfl, rfl⟩
  have hvalid : (Place.new (handleName a)).Valid start := by
    change start.names.handles.lookup _ = none
    rw [hnames]
    rfl
  obtain ⟨id, hid⟩ := hend.enrolled _ _ _ hplan (check_start (ht.nonzero a ha) _)
  obtain ⟨hfresh, r, hr, f, e, hf, he, hg, haddress, hlabel, hcallback⟩ := hend.new _ hvalid id hid
  obtain ⟨a', -, hname, rfl⟩ := register_mem_program.mp hr
  obtain rfl := handleName_injective hname
  cases hf.symm.trans (check_start (ht.nonzero a ha) _)
  obtain ⟨howners, htries⟩ := hend.counts _ hvalid id e hid he
  obtain ⟨hleft, htried⟩ := counts_closed hnames ht before.tries hin
  rw [hleft] at howners
  rw [htried] at htries
  have hcalm : ∀ panic, .ended (.reclaim g) id panic ∈ tr → panic = none := fun panic hended => by
    rcases hend.endings id e panic he hg hended with ⟨hknown, -⟩ | ⟨-, rfl⟩
    · exact absurd hknown hfresh
    · simp [Store.ending, Store.tellProbe_eq, hcallback]
  suffices hverdict : (n = 0 ∧ e.verdict id h tr = .reclaimed e none ∧ .ended (.reclaim g) id none ∈ tr) ∨
      (n ≠ 0 ∧ e.verdict id h tr = .called n) by
    refine ⟨id, e, hid, he, hg, haddress, hlabel, ?_, fun hzero => ?_⟩
    · rcases hverdict with ⟨hzero, hv, -⟩ | ⟨hpos, hv⟩
      · rw [if_pos hzero, hv]
      · rw [if_neg hpos, hv]
    · exact (hverdict.resolve_right fun h => h.1 hzero).2.2
  rcases hend.verdict_cases he hg with ⟨hpos, hv⟩ | ⟨-, howned, -⟩ | ⟨hzero, -, panic, hv, hended⟩
  · exact .inr ⟨htries ▸ hpos, htries ▸ hv⟩
  · exact absurd howners howned
  · obtain rfl := hcalm panic hended
    exact .inl ⟨htries ▸ hzero, hv, hended⟩

/-- There are no other handles. -/
theorem decides (hentries : start.entries = #[]) {id : HandleId} {e : Entry} (he : w.store.resource? id = some e) :
    ∃ a n, (a, n) ∈ es.filterMap Errand.closed? ∧ Decided g w h tr a n id e := by
  obtain ⟨k, hk, hid⟩ := hend.placed id e he
  cases k with
  | old id' =>
    obtain ⟨e', he'⟩ := hk
    simp [Store.resource?, hentries] at he'
  | new name =>
    obtain ⟨-, r, hr, -⟩ := hend.new name hk id hid
    obtain ⟨a, ha, rfl, -⟩ := register_mem_program.mp hr
    obtain ⟨⟨a, n⟩, hin, rfl⟩ := List.mem_map.mp (ht.closed.mem_iff.mpr ha)
    obtain ⟨id', e', hd⟩ := decided hnames ht hend hin
    cases hid.symm.trans hd.named
    cases he.symm.trans hd.entry
    exact ⟨a, n, hin, hd⟩

/-! ## Sums over all handles -/

omit hnames ht hend in
theorem Decided.handleOf {a : Address} {n : Nat} {id : HandleId} {e : Entry} (hd : Decided g w h tr a n id e) :
    handleOf w a = id := by
  rw [Simulation.handleOf, hd.named, Option.getD_some]

/-- The handles of different addresses differ. -/
theorem handles_nodup : ((es.filterMap Errand.closed?).map fun x => handleOf w x.1).Nodup := by
  have hnodup := ht.closed_nodup
  refine (hnodup.of_map _).map_on fun x hx y hy heq => ?_
  obtain ⟨id, e, hd⟩ := decided hnames ht hend hx
  obtain ⟨id', e', hd'⟩ := decided hnames ht hend hy
  rw [hd.handleOf, hd'.handleOf] at heq
  subst heq
  cases hd.entry.symm.trans hd'.entry
  exact List.inj_on_of_nodup_map hnodup hx hy (hd.address.symm.trans hd'.address)

omit hnames ht hend in
theorem length_eq_sum_count {α : Type} [DecidableEq α] {xs ys : List α} (hnodup : ys.Nodup)
    (hsub : ∀ x ∈ xs, x ∈ ys) : xs.length = (ys.map xs.count).sum := by
  rw [← List.sum_toFinset_count_eq_length, ← List.sum_toFinset _ hnodup]
  refine Finset.sum_subset (fun x hx => List.mem_toFinset.mpr (hsub x (List.mem_toFinset.mp hx)))
    fun x _ hx => List.count_eq_zero.mpr fun hin => hx (List.mem_toFinset.mpr hin)

variable (hentries : start.entries = #[])
include hentries

/-- What there is as often of each handle as its errand says is all in all what the errands say. -/
theorem length_handles {xs : List HandleId} (F : Nat → Nat) (hxs : ∀ id ∈ xs, w.store.Known id)
    (hF : ∀ a n id e, Decided g w h tr a n id e → xs.count id = F n) :
    xs.length = ((es.filterMap Errand.closed?).map fun x => F x.2).sum := by
  rw [length_eq_sum_count (handles_nodup hnames ht hend) fun id hin => ?_]
  · rw [List.map_map]
    refine congrArg List.sum (List.map_congr_left fun x hx => ?_)
    obtain ⟨id, e, hd⟩ := decided hnames ht hend hx
    rw [Function.comp_apply, hd.handleOf, hF _ _ _ _ hd]
  · obtain ⟨e, he⟩ := hxs id hin
    obtain ⟨a, n, hx, hd⟩ := decides hnames ht hend hentries he
    exact List.mem_map.mpr ⟨_, hx, hd.handleOf⟩

/-- The counters in the end. -/
theorem stats_end : ∃ x, w.store.guard? g = some x ∧ x.registry.size = 0 ∧ x.stats =
    { registered := (es.filterMap Errand.opened?).length,
      released := (es.filterMap Errand.opened?).length - es.countP Errand.leaks,
      reclaimed := es.countP Errand.leaks } := by
  obtain ⟨x, hx, hreleased, hreclaimed, hfailures, hdiscarded, hregistered⟩ := hend.counters
  have hsize : x.registry.ids.length = 0 := by
    rw [length_handles hnames ht hend hentries (fun _ => 0) (fun id hin => ?_) fun a n id e hd => ?_]
    · simp
    · obtain ⟨e, he, -⟩ := hend.orderly.2.listed g x.gist id (by rw [Store.gist?, hx]; rfl) hin
      exact ⟨e, he⟩
    · rw [hend.count_registry hx hd.entry hd.guard, hd.verdict]
      split <;> rfl
  have hcalls : x.stats.released =
      ((es.filterMap Errand.closed?).map fun x => if x.2 = 0 then 0 else 1).sum := by
    rw [hreleased]
    refine length_handles hnames ht hend hentries (fun n => if n = 0 then 0 else 1) (fun id hin => ?_)
      fun a n id e hd => ?_
    · obtain ⟨e, he, -⟩ := Plan.End.owns_of_filter hin
      exact ⟨e, he⟩
    · rw [Plan.End.count_won h tr hd.entry hd.guard, hd.verdict]
      split <;> rfl
  have hsettled : ∀ failed id, id ∈ h.handles (.settled g failed) → w.store.Known id := by
    intro failed id hin
    obtain ⟨e, he, -⟩ := hend.owns_of_settled hin
    exact ⟨e, he⟩
  have hworker : x.stats.reclaimed =
      ((es.filterMap Errand.closed?).map fun x => if x.2 = 0 then 1 else 0).sum := by
    rw [hreclaimed]
    refine length_handles hnames ht hend hentries (fun n => if n = 0 then 1 else 0) (hsettled false)
      fun a n id e hd => ?_
    have hreclaims := congrArg Verdict.reclaims hd.verdict
    rw [h.count_handles, ← hd.guard]
    refine hreclaims.trans ?_
    split <;> rfl
  have hfailed : x.stats.releaseFailures = 0 := by
    rw [hfailures, length_handles hnames ht hend hentries (fun _ => 0) (hsettled true) fun a n id e hd => ?_]
    · simp
    · have hfailures := congrArg Verdict.failures hd.verdict
      rw [h.count_handles, ← hd.guard]
      refine hfailures.trans ?_
      split <;> rfl
  obtain ⟨hleaks, hkept⟩ := sum_closed es
  have hlength : (es.filterMap Errand.opened?).length = (es.filterMap Errand.closed?).length := by
    rw [← ht.closed.length_eq, List.length_map]
  rw [hsize, hcalls, hworker, hfailed, hleaks] at hregistered
  rw [hleaks] at hworker
  refine ⟨x, hx, hsize, Stats.ext ?_ ?_ hworker hdiscarded hfailed⟩
  · change x.stats.registered = (es.filterMap Errand.opened?).length
    omega
  · change x.stats.released = (es.filterMap Errand.opened?).length - es.countP Errand.leaks
    omega

/-- Every callback has run once. -/
theorem begun_perm : w.store.begun.Perm ((es.filterMap Errand.closed?).map fun x => handleOf w x.1) := by
  have hnodup := handles_nodup hnames ht hend
  have hknown : ∀ id ∈ w.store.begun, w.store.Known id := fun id hin => by
    obtain ⟨⟨id, address⟩, hrun, rfl⟩ := List.mem_map.mp hin
    obtain ⟨e, he, -⟩ := hend.orderly.2.runs _ _ hrun
    exact ⟨e, he⟩
  have hhandle : ∀ id, w.store.Known id → id ∈ (es.filterMap Errand.closed?).map fun x => handleOf w x.1 := by
    rintro id ⟨e, he⟩
    obtain ⟨a, n, hx, hd⟩ := decides hnames ht hend hentries he
    exact List.mem_map.mpr ⟨_, hx, hd.handleOf⟩
  refine List.perm_iff_count.mpr fun id => ?_
  by_cases hid : id ∈ (es.filterMap Errand.closed?).map fun x => handleOf w x.1
  · obtain ⟨x, hx, rfl⟩ := List.mem_map.mp hid
    obtain ⟨id, e, hd⟩ := decided hnames ht hend hx
    have hstate : e.state = .released := by
      have hstate := congrArg Verdict.state hd.verdict
      refine hstate.trans ?_
      split <;> rfl
    rw [List.count_eq_one_of_mem hnodup hid, hd.handleOf, (hend.rested id e hd.entry hd.guard).runs, hstate]
    rfl
  · rw [List.count_eq_zero.mpr hid, List.count_eq_zero]
    exact fun hin => hid (hhandle id (hknown id hin))

/-- So every address has been released once. -/
theorem calls_perm : (w.store.calls.toList.map Call.address).Perm (es.filterMap Errand.opened?) := by
  let address (id : HandleId) : Address := ((w.store.resource? id).map Entry.address).getD 0
  have hruns : w.store.calls.toList.map Call.address = w.store.begun.map address := by
    have hsnd : w.store.calls.toList.map Call.address = w.store.runs.map Prod.snd := by
      rw [Store.runs, List.map_map]
      rfl
    rw [hsnd, Store.begun, List.map_map]
    refine List.map_congr_left fun run hrun => ?_
    obtain ⟨e, he, haddress⟩ := hend.orderly.2.runs run.1 run.2 hrun
    simp only [address, Function.comp_apply, he, Option.map_some, Option.getD_some, haddress]
  have hclosed : ((es.filterMap Errand.closed?).map fun x => handleOf w x.1).map address =
      (es.filterMap Errand.closed?).map Prod.fst := by
    rw [List.map_map]
    refine List.map_congr_left fun x hx => ?_
    obtain ⟨id, e, hd⟩ := decided hnames ht hend hx
    simp only [address, Function.comp_apply, hd.handleOf, hd.entry, Option.map_some, Option.getD_some,
      hd.address]
  rw [hruns]
  exact ((begun_perm hnames ht hend hentries).map address).trans (hclosed ▸ ht.closed)

/-- The rounds of the worker are those for the handles that leak. -/
theorem rounds_perm {rounds : List (HandleId × Option Panic)} (hnodup : (rounds.map Prod.fst).Nodup)
    (hended : ∀ id panic, .ended (.reclaim g) id panic ∈ tr ↔ (id, panic) ∈ rounds)
    (hclaims : ∀ id panic, .ended (.reclaim g) id panic ∈ tr → (id, .claimed (.reclaim g) true) ∈ h) :
    rounds.Perm ((leaked es).map fun a => (handleOf w a, none)) := by
  have hleaks : ((leaked es).map fun a => (handleOf w a, (none : Option Panic))).Nodup := by
    have hsub : (((es.filterMap Errand.closed?).filter fun x => x.2 == 0).map fun x => handleOf w x.1).Nodup :=
      (handles_nodup hnames ht hend).sublist (List.filter_sublist.map _)
    rw [leaked, List.map_map]
    have hpair : Function.Injective fun id : HandleId => (id, (none : Option Panic)) := fun _ _ heq =>
      (Prod.mk.inj heq).1
    have hmap := hsub.map hpair
    rwa [List.map_map] at hmap
  have hround : ∀ a ∈ leaked es, ∃ id e, Decided g w h tr a 0 id e ∧ (id, none) ∈ rounds := fun a ha => by
    obtain ⟨id, e, hd⟩ := decided hnames ht hend (mem_leaked.mp ha)
    exact ⟨id, e, hd, (hended _ _).mp (hd.ended rfl)⟩
  refine (List.perm_ext_iff_of_nodup (hnodup.of_map _) hleaks).mpr fun x => ?_
  obtain ⟨id, panic⟩ := x
  refine ⟨fun hin => ?_, fun hin => ?_⟩
  · have hclaimed := hclaims id panic ((hended id panic).mpr hin)
    obtain ⟨e, he, -⟩ := hend.orderly.2.marks id _ hclaimed
    obtain ⟨a, n, hx, hd⟩ := decides hnames ht hend hentries he
    obtain ⟨panic', hverdict, -⟩ := (hend.becomes id e he hd.guard).of_claimed (hd.guard ▸ hclaimed)
    have hzero : n = 0 := by
      by_contra hne
      have hpaths := congrArg Verdict.paths (hverdict.symm.trans (hd.verdict.trans (if_neg hne)))
      cases hpaths
    subst hzero
    have hnone := (hended _ _).mp (hd.ended rfl)
    obtain rfl : panic = none := (Prod.mk.inj (List.inj_on_of_nodup_map hnodup hin hnone rfl)).2
    exact List.mem_map.mpr ⟨a, mem_leaked.mpr hx, by rw [hd.handleOf]⟩
  · obtain ⟨a, ha, heq⟩ := List.mem_map.mp hin
    obtain ⟨id', e, hd, hin⟩ := hround a ha
    rw [← heq, hd.handleOf]
    exact hin

omit hentries in
/-- What the sink is told of the handles that leak. -/
theorem words_leaked : Trace.words (((leaked es).map fun a => (handleOf w a, none)).flatMap (w.store.round g)) =
    (leaked es).flatMap fun a => [.notProperlyClosed a, .destroyed none a] := by
  have hround : ∀ a ∈ leaked es, Trace.words (w.store.round g (handleOf w a, none)) =
      [.notProperlyClosed a, .destroyed none a] := fun a ha => by
    obtain ⟨id, e, hd⟩ := decided hnames ht hend (mem_leaked.mp ha)
    simp only [Store.round, hd.handleOf, hd.entry]
    rw [← hd.address, ← hd.label]
    rfl
  rw [Trace.words, List.flatMap_map, List.filterMap_flatMap]
  exact List.flatMap_congr hround

end End

/-! ## The ledger -/

/-- The slot of an address says how often it has been recorded. -/
theorem slots_recordAll (l : Ledger) (as : List Address) (i : Nat) :
    (l.recordAll as).slots[i]? = l.slots[i]?.map (· + as.countP fun a => a.toNat = i + 1) := by
  induction as generalizing l with
  | nil => simp [Ledger.recordAll]
  | cons a as ih =>
    have hrecord : (l.record a).slots[i]? = l.slots[i]?.map (· + if a.toNat = i + 1 then 1 else 0) := by
      have hzero : a = 0 ↔ a.toNat = 0 := by
        rw [← UInt64.toNat_inj]
        rfl
      unfold Ledger.record
      split
      · next ha =>
        have hne : a.toNat ≠ i + 1 := by
          rw [hzero.mp ha]
          exact (Nat.succ_ne_zero i).symm
        simp [hne]
      · next ha =>
        have hpos : 0 < a.toNat := Nat.pos_of_ne_zero (mt hzero.mpr ha)
        have heq : a.toNat - 1 = i ↔ a.toNat = i + 1 := Nat.sub_eq_iff_eq_add hpos
        simp only [Array.getElem?_modify, heq]
        split
        · rfl
        · simp
    rw [Ledger.recordAll, List.foldl_cons]
    change ((l.record a).recordAll as).slots[i]? = _
    rw [ih, hrecord, Option.map_map, List.countP_cons]
    congr 1
    funext n
    simp only [Function.comp_apply, decide_eq_true_eq]
    omega

/-- A ledger complains about the addresses up to its size that have not been recorded once. -/
theorem mem_violations_recordAll {n : Nat} {as : List Address} {a k : Nat} :
    (a, k) ∈ ((Ledger.empty n).recordAll as).violations ↔
      (1 ≤ a ∧ a ≤ n) ∧ as.countP (fun x => x.toNat = a) = k ∧ k ≠ 1 := by
  rw [Ledger.mem_violations, slots_recordAll, Ledger.empty, Array.getElem?_replicate, and_assoc]
  refine and_congr_right fun hone => ?_
  rw [Nat.sub_add_cancel hone]
  by_cases hle : a ≤ n
  · rw [if_pos (Nat.sub_one_lt_of_le hone hle), Option.map_some, Option.some_inj, zero_add]
    exact (and_iff_right hle).symm
  · have hslot : ¬a - 1 < n := by omega
    rw [if_neg hslot, Option.map_none]
    exact iff_of_false (fun h => Option.some_ne_none k h.1.symm) fun h => hle h.1

end Simulation

/-! ## The standard schedule -/

/-- Threads that are spawned join one by one. -/
theorem Session.spawnAll_eq (s : Session) (scripts : List (List Command)) :
    (s.spawnAll scripts).1.system = s.system.after (scripts.map (.join .helper)) := by
  have hjoins : ∀ w : System, scripts.foldl (fun w script => (w.spawn .helper (.commands script [])).1) w =
      w.after (scripts.map (.join .helper)) := by
    induction scripts with
    | nil => exact fun _ => rfl
    | cons script rest ih => exact fun _ => ih _
  unfold Session.spawnAll
  exact (List.foldl_hom Prod.fst fun _ _ => rfl).symm.trans (hjoins s.system)

namespace Simulation

/-! ## Simulations -/

/-- How often scripts release the handle of an address. -/
def releasesIn (scripts : List (List Command)) (a : Address) : Nat :=
  scripts.flatten.countP (isRelease (handleName a))

/-- How often they drop it. -/
def dropsIn (scripts : List (List Command)) (a : Address) : Nat := scripts.flatten.countP (isDrop (handleName a))

/-- Of some addresses, those whose handles are not released by scripts. -/
def leakedIn (scripts : List (List Command)) (as : List Address) : List Address :=
  as.filter fun a => releasesIn scripts a == 0

section Simulations
variable {σ : Type} (d : Draws σ) (init : UInt64 → σ) (p : Params)

/-- What all threads do, deal by deal; they do nothing else. -/
def programs : List (List Deal) := (scripts d init p).map fun script => script.filterMap Command.deal?

/-- How many handles there are. -/
def count : Nat := p.threads.toNat * p.handles.toNat

/-- Their addresses. -/
def everyAddress : List Address := (List.range (count p)).map fun i => UInt64.ofNat (i + 1)

/-- How many handles leak, by what each thread draws from the seed and its number. -/
def leaks : Nat :=
  ((List.range p.threads.toNat).map fun t => leaksDrawn d p.handles.toNat 0 (init (p.seed + .ofNat t))).sum

/-- What the draws come to. -/
def finalStats : Stats where
  registered := count p
  released := count p - leaks d init p
  reclaimed := leaks d init p

/-- The fields of the summary: what was asked for, the time that it took, and what the draws come to. -/
def report (elapsed : Nat) : List (String × Nat) :=
  [("threads", p.threads.toNat), ("handles", count p), ("seed", p.seed.toNat), ("elapsed_ms", elapsed),
    ("registered", count p), ("released", count p - leaks d init p), ("reclaimed", leaks d init p),
    ("discarded", 0), ("release_failures", 0), ("live", 0)]

/-- Fields in braces, a line each. -/
def braced (fields : List (String × Nat)) : String :=
  "\x7b\n" ++ ",\n".intercalate (fields.map fun (name, n) => "  \"" ++ name ++ "\": " ++ toString n) ++ "\n\x7d"

theorem toNat_total (hsize : count p < 2 ^ 64) : (p.threads * p.handles).toNat = count p := by
  rw [UInt64.toNat_mul]
  exact Nat.mod_eq_of_lt hsize

/-- The summary says what the report says. -/
theorem summary_eq (hsize : count p < 2 ^ 64) (elapsed : Nat) :
    summary p elapsed (finalStats d init p) 0 = braced (report d init p elapsed) := by
  rw [summary, toNat_total p hsize]
  rfl

/-! ## All threads -/

/-- The errands of each thread. -/
def threadErrands : List (List Errand) :=
  (List.range p.threads.toNat).map fun t =>
    errands d (addresses p.handles (.ofNat t)) [] (init (p.seed + .ofNat t))

/-- The errands of all threads. -/
def allErrands : List Errand := (threadErrands d init p).flatten

theorem scripts_eq : scripts d init p = (threadErrands d init p).map commands := by
  rw [threadErrands, List.map_map]
  rfl

/-- Threads do nothing but what errands do. -/
theorem programs_eq : programs d init p = (threadErrands d init p).map program := by
  have hdeals : Command.deal? ∘ Deal.command guardName = some := funext (Deal.deal?_command guardName)
  rw [programs, scripts_eq, List.map_map]
  refine List.map_congr_left fun es _ => ?_
  rw [Function.comp_apply, commands_eq, List.filterMap_map, hdeals, List.filterMap_some]

/-- So the threads that join carry out the scripts. -/
theorem joins_programs : Plan.joins guardName (programs d init p) = (scripts d init p).map (.join .helper) := by
  rw [Plan.joins, programs_eq, scripts_eq, List.map_map, List.map_map]
  exact List.map_congr_left fun es _ => by rw [Function.comp_apply, Function.comp_apply, commands_eq]

theorem flatten_allErrands : (programs d init p).flatten = program (allErrands d init p) := by
  rw [programs_eq, flatten_programs, allErrands]

theorem flatten_scripts : (scripts d init p).flatten = commands (allErrands d init p) := by
  rw [scripts_eq, flatten_commands, allErrands]

/-- The addresses of all threads are all numbers from one on. -/
theorem addresses_all (handles : UInt64) (threads : Nat) :
    ((List.range threads).map fun t => addresses handles (.ofNat t)).flatten =
      (List.range (threads * handles.toNat)).map fun i => UInt64.ofNat (i + 1) := by
  induction threads with
  | zero => simp
  | succ t ih =>
    rw [List.range_succ, List.map_append, List.flatten_append, ih, Nat.succ_mul, List.range_add, List.map_append,
      List.map_map]
    congr 1
    rw [List.map_singleton, List.flatten_singleton, addresses]
    refine List.map_congr_left fun i _ => ?_
    simp only [addressOf, Function.comp_apply, UInt64.ofNat_add, UInt64.ofNat_mul, UInt64.ofNat_toNat]
    rfl

theorem opened_all : (allErrands d init p).filterMap Errand.opened? = everyAddress p := by
  rw [everyAddress, count, ← addresses_all, allErrands, threadErrands, List.filterMap_flatten, List.map_map]
  refine congrArg List.flatten (List.map_congr_left fun t _ => ?_)
  exact opened_errands d _ _ _

variable {d} (hd : d.InRange)
include hd

theorem leaks_all : (allErrands d init p).countP Errand.leaks = leaks d init p := by
  rw [allErrands, threadErrands, List.countP_flatten, List.map_map, leaks]
  refine congrArg List.sum (List.map_congr_left fun t _ => ?_)
  rw [Function.comp_apply, leaks_errands hd, addresses, List.length_map, List.length_range]
  rfl

theorem closed_all : (((allErrands d init p).filterMap Errand.closed?).map Prod.fst).Perm
    ((allErrands d init p).filterMap Errand.opened?) := by
  rw [allErrands, threadErrands, List.filterMap_flatten, List.filterMap_flatten, List.map_flatten]
  simp only [List.map_map, ← List.flatMap_def]
  refine List.Perm.flatMap_left _ fun t _ => ?_
  simp only [Function.comp_apply, opened_errands]
  exact closed_errands hd _ _ _

/-- All threads together are tidy, as long as the addresses fit into a word. -/
theorem tidy_all (hsize : count p < 2 ^ 64) : Tidy (allErrands d init p) := by
  have htoNat : ∀ i ∈ List.range (count p), (UInt64.ofNat (i + 1)).toNat = i + 1 := fun i hi =>
    UInt64.toNat_ofNat_of_lt' (Nat.lt_of_le_of_lt (List.mem_range.mp hi) hsize)
  refine ⟨?_, fun a ha => ?_, closed_all init p hd⟩
  · rw [opened_all]
    refine List.nodup_range.map_on fun i hi j hj heq => ?_
    have hnat := congrArg UInt64.toNat heq
    rw [htoNat i hi, htoNat j hj] at hnat
    exact Nat.succ.inj hnat
  · rw [opened_all] at ha
    obtain ⟨i, hi, rfl⟩ := List.mem_map.mp ha
    intro hzero
    have hnat := htoNat i hi
    rw [hzero] at hnat
    cases hnat

omit hd in
theorem length_everyAddress : (everyAddress p).length = count p := by
  rw [everyAddress, List.length_map, List.length_range]

/-- Every address is closed. -/
theorem closed_of_mem {a : Address} (ha : a ∈ everyAddress p) :
    ∃ n, (a, n) ∈ (allErrands d init p).filterMap Errand.closed? := by
  rw [← opened_all d init p] at ha
  obtain ⟨⟨a, n⟩, hin, rfl⟩ := List.mem_map.mp ((closed_all init p hd).mem_iff.mpr ha)
  exact ⟨n, hin⟩

/-- The handles that leak are those that no thread releases. -/
theorem leaked_perm (hsize : count p < 2 ^ 64) :
    (leaked (allErrands d init p)).Perm (leakedIn (scripts d init p) (everyAddress p)) := by
  have ht := tidy_all init p hd hsize
  have hmem : ∀ a, a ∈ leaked (allErrands d init p) ↔ a ∈ leakedIn (scripts d init p) (everyAddress p) := by
    intro a
    rw [mem_leaked, leakedIn, List.mem_filter, beq_iff_eq, releasesIn, flatten_scripts]
    constructor
    · intro hin
      refine ⟨?_, ht.countP_isRelease hin⟩
      rw [← opened_all d init p]
      exact ht.closed.mem_iff.mp (List.mem_map.mpr ⟨_, hin, rfl⟩)
    · rintro ⟨ha, hzero⟩
      obtain ⟨n, hin⟩ := closed_of_mem init p hd ha
      rw [ht.countP_isRelease hin] at hzero
      exact hzero ▸ hin
  have hnodup : (everyAddress p).Nodup := opened_all d init p ▸ ht.distinct
  exact (List.perm_ext_iff_of_nodup (ht.closed_nodup.sublist (List.filter_sublist.map _))
    (hnodup.filter _)).mpr hmem

/-- They are as many as the draws say. -/
theorem length_leakedIn (hsize : count p < 2 ^ 64) :
    (leakedIn (scripts d init p) (everyAddress p)).length = leaks d init p := by
  rw [← (leaked_perm init p hd hsize).length_eq, length_leaked, leaks_all init p hd]

/-- The threads may start side by side. -/
theorem apt_all (hsize : count p < 2 ^ 64) {s : Store} (hnames : s.names.handles = []) :
    Plan.Apt s (programs d init p) := by
  have ht := tidy_all init p hd hsize
  rw [programs_eq]
  refine apt_programs hnames ht fun es hes => ?_
  have hopened : ∀ a ∈ es.filterMap Errand.opened?, a ≠ 0 := fun a ha => ht.nonzero a <| by
    rw [allErrands, List.filterMap_flatten]
    exact List.mem_flatten.mpr ⟨_, List.mem_map_of_mem hes, ha⟩
  obtain ⟨t, -, rfl⟩ := List.mem_map.mp hes
  rw [opened_errands] at hopened
  exact errands_fit hd _ _ _ hopened (List.forall_mem_nil _)

omit hd in
/-- A simulation complains about the addresses whose callbacks have not run once. -/
theorem mem_violations (hsize : count p < 2 ^ 64) {s : Session} {a k : Nat} :
    (a, k) ∈ violations s p ↔ (1 ≤ a ∧ a ≤ count p) ∧
      (s.store.calls.toList.map Call.address).countP (fun x => x.toNat = a) = k ∧ k ≠ 1 := by
  rw [violations, toNat_total p hsize]
  exact mem_violations_recordAll

omit hd in
/-- So it does not when that of every address has. -/
theorem violations_eq_nil (hsize : count p < 2 ^ 64) {s : Session}
    (hcalls : (s.store.calls.toList.map Call.address).Perm (everyAddress p)) : violations s p = [] := by
  refine List.eq_nil_iff_forall_not_mem.mpr fun x hin => ?_
  obtain ⟨a, k⟩ := x
  obtain ⟨⟨hone, hle⟩, hcount, hne⟩ := (mem_violations p hsize).mp hin
  refine hne (hcount.symm.trans ?_)
  rw [hcalls.countP_eq, everyAddress, List.countP_map]
  refine (List.countP_congr fun j hj => ?_).trans
    (List.count_eq_one_of_mem List.nodup_range (List.mem_range.mpr (Nat.sub_one_lt_of_le hone hle)))
  rw [Function.comp_apply, decide_eq_true_iff, beq_iff_eq,
    UInt64.toNat_ofNat_of_lt' (Nat.lt_of_le_of_lt (List.mem_range.mp hj) hsize)]
  omega

omit hd in
/-- Side by side by the standard schedule the threads end, and the flush after them is answered. -/
theorem runThreads_eq (probes : Array Probe) (environment : Environment) (output : Output) (es : List Event)
    {g : GuardId} (hr : ((System.boot probes environment output).after es).Ready guardName g)
    (hp : Plan.Apt ((System.boot probes environment output).after es).store (programs d init p)) {s : Session}
    (hs : s.system = (System.boot probes environment output).after es) :
    (runThreads d init s p).2 = true ∧ ∃ c : Plan.Schedule,
      ((System.boot probes environment output).after es).Completes guardName (programs d init p) c ∧
      (runThreads d init s p).1.system =
        (System.boot probes environment output).after (es ++ c.events guardName (programs d init p)) := by
  obtain ⟨c, hc, hwork, hevents⟩ := hr.settles probes environment output es hp
  obtain ⟨th, hth, hout⟩ := hc.flushed
  have hspawned : (s.spawnAll (scripts d init p)).1.settle.system =
      ((System.boot probes environment output).after es).after (c.work guardName (programs d init p)) := by
    rw [← hwork, joins_programs, ← hs, ← Session.spawnAll_eq]
    rfl
  have hflushed : (runThreads d init s p).1.system =
      ((System.boot probes environment output).after es).after (c.events guardName (programs d init p)) := by
    rw [← hevents, ← hspawned]
    rfl
  have hsize := (hr.accounts_after hp (System.orderly_after probes environment output es)
    (System.regular_after probes environment output es) c).2
  refine ⟨beq_iff_eq.mpr ?_, c, hc, hflushed.trans (System.after_append ..).symm⟩
  change ((runThreads d init s p).1.system.thread?
    (s.spawnAll (scripts d init p)).1.settle.system.threads.size).bind Thread.outcome = some (.did [.flag true])
  rw [hspawned, hsize, hflushed, hth, Option.bind_some, hout]

end Simulations

/-- What a simulation comes to. -/
structure Result {σ : Type} (d : Draws σ) (init : UInt64 → σ) (p : Params) (g : GuardId) (w : System)
    (h : History) (tr : Trace) : Prop where
  /-- No handle is left, the counters are those of the draws, and the sink was told of the handles that leak
  and of nothing else. -/
  guard : ∃ x, w.store.guard? g = some x ∧ x.registry.size = 0 ∧ x.stats = finalStats d init p ∧
    x.offered.toList.Perm ((leakedIn (scripts d init p) (everyAddress p)).flatMap fun a =>
      [.notProperlyClosed a, .destroyed none a])
  /-- All handles are counted, each as released or as reclaimed. -/
  sums : (finalStats d init p).registered = (p.threads * p.handles).toNat ∧
    (finalStats d init p).released + (finalStats d init p).reclaimed = (finalStats d init p).registered
  /-- Reclaimed are the handles that no thread releases, as many as the draws say. -/
  leaks : (leakedIn (scripts d init p) (everyAddress p)).length = leaks d init p
  /-- The callback of every address has run once. -/
  calls : (w.store.calls.toList.map Call.address).Perm (everyAddress p)
  /-- Every handle is dropped by one thread, once, and what has become of it is what the threads have done. -/
  dropped : ∀ a ∈ everyAddress p, dropsIn (scripts d init p) a = 1
  handles : ∀ a ∈ everyAddress p, ∃ id e, Decided g w h tr a (releasesIn (scripts d init p) a) id e
  /-- Complaints would be about the addresses whose callbacks have not run once. -/
  complaints : ∀ (s : Session) (a k : Nat), (a, k) ∈ violations s p ↔ (1 ≤ a ∧ a ≤ count p) ∧
    (s.store.calls.toList.map Call.address).countP (fun x => x.toNat = a) = k ∧ k ≠ 1
  /-- So the simulation ends with its summary and a shutdown, and without a complaint. -/
  concludes : ∀ (s : Session) (elapsed : Nat), s.system = w → violations s p = [] ∧
    conclude s true g p elapsed =
      (((s.say (braced (report d init p elapsed))).runCaller (.shutdown guardName)).1, none)

/-- Threads that may start have come to this when they have completed. -/
theorem result_of_apt (probes : Array Probe) (environment : Environment) (output : Output) (es : List Event)
    {σ : Type} {d : Draws σ} (hd : d.InRange) (init : UInt64 → σ) (p : Params) (hsize : count p < 2 ^ 64)
    {g : GuardId} {c : Plan.Schedule} (hr : ((System.boot probes environment output).after es).Ready guardName g)
    (hnew : ((System.boot probes environment output).after es).store.entries = #[])
    (hp : Plan.Apt ((System.boot probes environment output).after es).store (programs d init p))
    (hc : ((System.boot probes environment output).after es).Completes guardName (programs d init p) c) :
    Result d init p g
      ((System.boot probes environment output).after (es ++ c.events guardName (programs d init p)))
      ((System.boot probes environment output).history (es ++ c.events guardName (programs d init p)))
      ((System.boot probes environment output).trace (es ++ c.events guardName (programs d init p))) := by
  have hnames := names_blank (System.orderly_after probes environment output es).2 hnew
  have ht := tidy_all init p hd hsize
  have hend := hc.end probes environment output es hr hp
  rw [flatten_allErrands] at hend
  obtain ⟨y, hy, rounds, hnodup, hended, htold⟩ := hc.told probes environment output es hr hp
  have hclaims : ∀ id panic, .ended (.reclaim g) id panic ∈
      (System.boot probes environment output).trace (es ++ c.events guardName (programs d init p)) →
      (id, .claimed (.reclaim g) true) ∈
        (System.boot probes environment output).history (es ++ c.events guardName (programs d init p)) :=
    fun _ _ => System.ended_claimed probes environment output _
  generalize (System.boot probes environment output).after (es ++ c.events guardName (programs d init p)) = w
    at hend hy htold ⊢
  generalize (System.boot probes environment output).history (es ++ c.events guardName (programs d init p)) = h
    at hend hclaims ⊢
  generalize (System.boot probes environment output).trace (es ++ c.events guardName (programs d init p)) = tr
    at hend hended hclaims ⊢
  obtain ⟨x, hx, hempty, hstats⟩ := stats_end hnames ht hend hnew
  cases hy.symm.trans hx
  have hcalls := calls_perm hnames ht hend hnew
  rw [opened_all] at hcalls
  have hfinal : y.stats = finalStats d init p := by
    rw [hstats, opened_all, length_everyAddress, leaks_all init p hd]
    rfl
  have hle : leaks d init p ≤ count p := by
    rw [← length_leakedIn init p hd hsize, ← length_everyAddress p]
    exact List.length_filter_le _ _
  have htold' : y.offered.toList.Perm ((leaked (allErrands d init p)).flatMap fun a =>
      [.notProperlyClosed a, .destroyed none a]) := by
    rw [htold, ← words_leaked hnames ht hend]
    exact ((rounds_perm hnames ht hend hnew hnodup hended hclaims).flatMap_right _).filterMap _
  refine {
    guard := ⟨y, hy, hempty, hfinal, htold'.trans ((leaked_perm init p hd hsize).flatMap_right _)⟩
    sums := ⟨(toNat_total p hsize).symm, Nat.sub_add_cancel hle⟩
    leaks := length_leakedIn init p hd hsize
    calls := hcalls
    dropped := fun a ha => ?_
    handles := fun a ha => ?_
    complaints := fun s a k => mem_violations p hsize
    concludes := fun s elapsed hs => ?_ }
  · obtain ⟨n, hin⟩ := closed_of_mem init p hd ha
    rw [dropsIn, flatten_scripts, ht.countP_isDrop hin]
  · obtain ⟨n, hin⟩ := closed_of_mem init p hd ha
    rw [releasesIn, flatten_scripts, ht.countP_isRelease hin]
    exact decided hnames ht hend hin
  · have hfaultless : violations s p = [] := violations_eq_nil p hsize (by rw [Session.store, hs]; exact hcalls)
    have hguard : s.store.guard? g = some y := by rw [Session.store, hs]; exact hy
    have hquiet : violations (s.say (summary p elapsed (finalStats d init p) 0)) p = [] := hfaultless
    refine ⟨hfaultless, ?_⟩
    rw [← summary_eq d init p hsize elapsed]
    simp only [conclude, if_true, hguard, hfinal, hempty, hquiet, List.isEmpty_nil]

/-- Threads over a new guard, with whatever draws. However they and the worker take turns, when the threads have
ended and a flush has answered, the simulation has come to what its parameters and the draws say. By the standard
schedule, which is one of all these, the threads end, and the flush is answered. -/
theorem result_of_completes (probes : Array Probe) (environment : Environment) (output : Output)
    (es : List Event) {σ : Type} {d : Draws σ} (hd : d.InRange) (init : UInt64 → σ) (p : Params)
    (hsize : p.threads.toNat * p.handles.toNat < 2 ^ 64) {g : GuardId}
    (hr : ((System.boot probes environment output).after es).Ready guardName g)
    (hnew : ((System.boot probes environment output).after es).store.entries = #[]) :
    Plan.joins guardName (programs d init p) = (scripts d init p).map (.join .helper) ∧
    (∀ c : Plan.Schedule,
      ((System.boot probes environment output).after es).Completes guardName (programs d init p) c →
      Result d init p g
        ((System.boot probes environment output).after (es ++ c.events guardName (programs d init p)))
        ((System.boot probes environment output).history (es ++ c.events guardName (programs d init p)))
        ((System.boot probes environment output).trace (es ++ c.events guardName (programs d init p)))) ∧
    ∀ s : Session, s.system = (System.boot probes environment output).after es →
      (runThreads d init s p).2 = true ∧ ∃ c : Plan.Schedule,
        ((System.boot probes environment output).after es).Completes guardName (programs d init p) c ∧
        (runThreads d init s p).1.system =
          (System.boot probes environment output).after (es ++ c.events guardName (programs d init p)) := by
  have hnames := names_blank (System.orderly_after probes environment output es).2 hnew
  have hp : Plan.Apt _ (programs d init p) := apt_all init p hd hsize hnames
  refine ⟨joins_programs d init p, fun c hc => ?_, fun s hs => ?_⟩
  · exact result_of_apt probes environment output es hd init p hsize hr hnew hp hc
  · exact runThreads_eq init p probes environment output es hr hp hs

/-- Draws that count: every third handle leaks, and every second release is repeated. -/
def counting : Draws Nat where
  index k n := (k % n, k + 1)
  leaks k := (k % 3 == 0, k + 1)
  again k := (k % 2 == 0, k + 1)

/-- Two threads with two handles each. -/
def small : Params := { handles := 2, ratio := 0, threads := 2, seed := 5 }

/-- The guard is started. -/
def started : List Event :=
  .join .caller [.startGuard guardName { mode := some "stdout" } .plain none] ::
    (List.replicate 8 (.move (.act 0)) ++ List.replicate 3 (.move (.act 1)))

/-- The threads and the worker take turns, and then a flush. -/
def turns : Plan.Schedule where
  programs := (List.replicate 35 [.act 2, .act 1, .act 3]).flatten
  patience := .deadline
  flush := List.replicate 5 (.act 4) ++ List.replicate 12 (.act 1) ++ List.replicate 2 (.act 4)

/-- So it is for two threads that take turns with the worker: one of four handles leaks. -/
theorem result_of_completes_small :
    counting.InRange ∧
    finalStats counting UInt64.toNat small = { registered := 4, released := 3, reclaimed := 1 } ∧
    leakedIn (scripts counting UInt64.toNat small) (everyAddress small) = [3] ∧
    Result counting UInt64.toNat small 0
      ((System.boot #[] none {}).after
        (started ++ turns.events guardName (programs counting UInt64.toNat small)))
      ((System.boot #[] none {}).history
        (started ++ turns.events guardName (programs counting UInt64.toNat small)))
      ((System.boot #[] none {}).trace
        (started ++ turns.events guardName (programs counting UInt64.toNat small))) ∧
    (runThreads counting UInt64.toNat { system := (System.boot #[] none {}).after started } small).2 = true ∧
    ∃ c : Plan.Schedule,
      ((System.boot #[] none {}).after started).Completes guardName (programs counting UInt64.toNat small) c ∧
      (runThreads counting UInt64.toNat { system := (System.boot #[] none {}).after started } small).1.system =
        (System.boot #[] none {}).after
          (started ++ c.events guardName (programs counting UInt64.toNat small)) := by
  have hd : counting.InRange := fun k n hn => Nat.mod_lt k hn
  have hr : ((System.boot #[] none {}).after started).Ready guardName 0 :=
    System.ready_of_checks .stdout (by decide +kernel) (fun _ _ => rfl) (System.sink_stays 4 rfl)
      (by decide +kernel) (by decide +kernel) (by decide +kernel)
  have hc : ((System.boot #[] none {}).after started).Completes guardName (programs counting UInt64.toNat small)
      turns :=
    System.completes_of_threads (by decide +kernel) (by decide +kernel)
  obtain ⟨-, hresult, hstandard⟩ :=
    result_of_completes #[] none {} started hd UInt64.toNat small (by decide) hr (by decide +kernel)
  exact ⟨hd, by decide +kernel, by decide +kernel, hresult turns hc,
    hstandard { system := (System.boot #[] none {}).after started } (by dsimp only)⟩

end Simulation

end Reclaim

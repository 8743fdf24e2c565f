import Reclaim.Proofs.Nesting
import Reclaim.Proofs.Sums

/-!
# Conservation of the counters

When no registration and no call of a guard is between the registry and the counter, and its worker is
between two items, every registration is in the registry or accounted for by one counter, or its item
was given up at a panic of the sink.

* `System.Quiescent` : nothing is in between; `System.Conserved` : the counters of a guard then;
* `Act.stats_le` : an act counts once at most; `System.counted_le`;
* `System.conserves`.
-/

namespace Reclaim

/-- Whether the frame is between the registry of a guard and its counters, or its worker's and inside
an item. -/
def Frame.isBetween (s : Store) (g : GuardId) : Frame → Bool
  | .register q (.count _) => q.guard == g
  | .release id .count => s.owns g id
  | .worker g' p => g' == g && p.isBusy
  | _ => false

/-- All that a guard has counted. -/
def Stats.sum (c : Stats) : Nat :=
  c.registered + c.released + c.reclaimed + c.discarded + c.releaseFailures

section Acts
variable {s s' : Store} {src dst : Multiset Spot} {ms : History} {g : GuardId} {x x' : Gist}

theorem Store.Touches.stats_le {g' : GuardId} {f : Gist → Gist} (ht : s.Touches s' g' f)
    (hx : s.gist? g = some x) (hx' : s'.gist? g = some x')
    (hf : (f x).stats.sum ≤ x.stats.sum + 1) : x'.stats.sum ≤ x.stats.sum + 1 := by
  rw [ht.gist_eq hx hx']
  split
  · exact hf
  · exact Nat.le_succ _

/-- An act counts once at most. -/
theorem Act.stats_le (a : Act s src s' dst ms) (hx : s.gist? g = some x)
    (hx' : s'.gist? g = some x') : x'.stats.sum ≤ x.stats.sum + 1 := by
  have same : s'.gist? g = s.gist? g → x'.stats.sum ≤ x.stats.sum + 1 := fun heq => by
    rw [Option.some.inj (hx'.symm.trans (heq.trans hx))]
    exact Nat.le_succ _
  cases a with
  | still hs | reach _ hs | report hs | abort hs | grant hs => exact same (hs.gist g)
  | call _ hs | share _ _ _ hs | giveUp _ _ _ hs | use _ _ _ hs => exact same (hs.gist g)
  | rebind _ _ _ hs | win _ hs | yield _ hs => exact same (hs.gist g)
  | refuse | bind | miss | done | number | lose | handBack => exact same rfl
  | @found _ g' _ _ hg _ _ _ _ _ _ _ _ hgist =>
    have hne : g ≠ g' := by
      rintro rfl
      rw [hg] at hx
      cases hx
    exact same (by rw [hgist, if_neg hne])
  | claim _ _ hs | reclaim _ _ _ _ hs =>
    rw [hs.gist_eq hx hx']
    split <;> exact Nat.le_succ _
  | track hs | queue _ _ _ hs | inject _ _ _ _ hs => exact hs.stats_le hx hx' (Nat.le_succ _)
  | leak _ hs | take _ _ _ hs | interrupt hs => exact hs.stats_le hx hx' (Nat.le_succ _)
  | register hs | prepare _ hs | discard _ _ hs | succeed hs | fail hs =>
    refine hs.stats_le hx hx' ?_
    simp only [Gist.count, Stats.sum]
    omega

end Acts

namespace System
variable {w : System} {h : History} {tr : Trace} {g : GuardId} {x : Gist}

/-- No registration and no call of a guard is between the registry and the counter, and the worker of
the guard is not inside an item. -/
def Quiescent (w : System) (g : GuardId) : Prop :=
  ∀ th ∈ w.threads, ∀ frame ∈ th.stack, frame.isBetween w.store g = false

/-- What the counters of a guard say when nothing is in between. -/
structure Conserved (w : System) (h : History) (tr : Trace) (g : GuardId) (x : Gist) : Prop where
  /-- A registration is in the registry, counted as released, or given up. -/
  registered : x.stats.registered = x.registry.size + x.stats.released + x.stats.reclaimed +
    x.stats.releaseFailures + tr.aborted g
  /-- Calls that won are counted, -/
  released : x.stats.released = w.store.callsOf g h (.claimed .release true)
  /-- and they have come to an end, by returning so or by a panic of the callback, or wait for it. -/
  returned : x.stats.released =
    w.store.callsOf g h (.returned true) + w.store.lagging g .won w.spots
  /-- Handles that the worker has been given are reclaimed, failed, discarded or given up. -/
  delivered : (tr.reclaims g).length =
    x.stats.reclaimed + x.stats.releaseFailures + x.stats.discarded + tr.aborted g
  /-- There are never more releases than registrations. -/
  total : x.stats.totalReleased ≤ x.stats.registered
  /-- Unless the sink has panicked at the news of a handle that was not closed, what is outstanding is
  what the registry has, and the difference does not saturate. -/
  outstanding : (∀ about a, Deed.said g about (.notProperlyClosed a) true ∉ tr) →
    x.stats.outstanding = x.registry.size ∧
      x.stats.registered = x.stats.totalReleased + x.stats.outstanding

/-- Nothing lags behind that nothing is in between for. -/
theorem Quiescent.lagging_eq_zero (hq : w.Quiescent g) (lag : Lag) (hlag : lag ≠ .won) :
    w.store.lagging g lag w.spots = 0 := by
  refine Multiset.countP_eq_zero.mpr fun y hy heq => ?_
  obtain ⟨th, hth, frame, hframe, hin⟩ := mem_spots.mp hy
  have hno := hq th hth frame hframe
  unfold Frame.spots at hin
  split at hin <;> simp at hin <;> subst hin <;> simp [Spot.lag?] at heq <;>
    simp [Frame.isBetween, WorkerPoint.isBusy, heq] at hno
  all_goals exact hlag heq.2.symm

theorem AddsUp.conserved (ha : w.AddsUp h tr) (hx : w.store.gist? g = some x)
    (hc : x.Counts w.store g h) (hq : w.Quiescent g) : w.Conserved h tr g x := by
  obtain ⟨hregistered, hreleased, hreturned, hserved, htaken⟩ := ha.adds g x hx
  have hdiscarded := hc.discarded
  have hreclaims := (congrArg List.length (ha.taken g)).trans (h.length_handles (.taken g))
  have haborted := ha.aborted g
  have htracked := hq.lagging_eq_zero .tracked nofun
  have hwinning := hq.lagging_eq_zero .winning nofun
  have hcarried := hq.lagging_eq_zero .carried nofun
  have hreporting := hq.lagging_eq_zero .reporting nofun
  have hserving := hq.lagging_eq_zero .serving nofun
  have hsum : x.stats.registered = x.registry.size + x.stats.released + x.stats.reclaimed +
      x.stats.releaseFailures + tr.aborted g := by omega
  refine ⟨hsum, by omega, by omega, by omega, ?_, fun hquiet => ?_⟩
  · rw [Stats.totalReleased]
    omega
  · have hzero : tr.aborted g = 0 := by
      refine List.countP_eq_zero.mpr fun d hd habort => ?_
      obtain ⟨hin, hguard⟩ := List.mem_filter.mp hd
      cases d with
      | said g' about d panicked =>
        obtain rfl : g' = g := by simpa [Deed.guard?] using hguard
        cases d with
        | notProperlyClosed a => exact hquiet about a ((show panicked = true from habort) ▸ hin)
        | _ => cases habort
      | _ => cases habort
    simp only [Stats.outstanding, Stats.totalReleased]
    omega

/-- A guard has not counted more than there have been events. -/
theorem counted_le (probes : Array Probe) (environment : Environment) (output : Output)
    (es : List Event) {g : GuardId} {x : Gist}
    (hx : ((boot probes environment output).after es).store.gist? g = some x) :
    x.stats.sum ≤ es.length := by
  induction es using List.reverseRecOn generalizing x with
  | nil => simp [after, boot, Store.gist?, Store.guard?] at hx
  | append_singleton es e ih =>
    rw [after_snoc] at hx
    obtain ⟨src, dst, hact, -⟩ := (orderly_after probes environment output es).occur e
    rw [List.length_append, List.length_singleton]
    cases hold : ((boot probes environment output).after es).store.gist? g with
    | none =>
      rw [(hact.gist_new hold hx).1.stats]
      exact Nat.zero_le _
    | some y => exact (hact.stats_le hold hx).trans (Nat.succ_le_succ (ih hold))

/-- Whatever has happened in a process, no guard has counted more than that, so no counter wraps around
within as many events as it can count, and when nothing is in between the counters of a guard, its
registry and the items that were given up account for each other. -/
theorem conserves (probes : Array Probe) (environment : Environment) (output : Output)
    (es : List Event) {g : GuardId} {x : Gist}
    (hx : ((boot probes environment output).after es).store.gist? g = some x) :
    x.stats.sum ≤ es.length ∧
      (((boot probes environment output).after es).Quiescent g →
        ((boot probes environment output).after es).Conserved
          ((boot probes environment output).history es)
          ((boot probes environment output).trace es) g x) :=
  ⟨counted_le probes environment output es hx,
    (addsUp_after probes environment output es).conserved hx
      (counts_after probes environment output es hx)⟩

/-- The sink panics at the third handle that was not closed, and at nothing else. -/
def panicsAtThird (told : List Diagnostic) (d : Diagnostic) : Bool :=
  d.kind == .notProperlyClosed && (told.countP fun d => d.kind == .notProperlyClosed) == 2

/-- One handle is released and put into the source from outside as well, the callback of another
panics at its release, a third is dropped, and so is a fourth whose callback panics, and a fifth at
whose news the sink panics. The sixth stays. -/
def tallied : List Event :=
  .join .caller
      [.startGuard "g" { panics := panicsAtThird } .gated none,
        .register (.guard "g") "a" { address := 1, callback := some {} },
        .register (.guard "g") "b" { address := 2, callback := some { panic := some .other } },
        .register (.guard "g") "c" { address := 3, callback := some {} },
        .register (.guard "g") "d" { address := 4, callback := some { panic := some .other } },
        .register (.guard "g") "e" { address := 5, callback := some {} },
        .register (.guard "g") "f" { address := 6, callback := some {} },
        .inject "g" "a", .release "a" none, .release "b" none, .drop "c", .drop "d", .drop "e",
        .letThrough "g" 4] ::
    (List.replicate 100 [.move (.act 0), .move (.act 1)]).flatten

theorem conserves_tallied :
    ∃ x, ((boot #[] none {}).after tallied).store.gist? 0 = some x ∧
      x.stats = ⟨6, 2, 1, 1, 1⟩ ∧
      ((boot #[] none {}).trace tallied).aborted 0 = 1 ∧
      ((boot #[] none {}).after tallied).Conserved ((boot #[] none {}).history tallied)
        ((boot #[] none {}).trace tallied) 0 x := by
  have hstats : (((boot #[] none {}).after tallied).store.gist? 0).map Gist.stats =
      some ⟨6, 2, 1, 1, 1⟩ := by
    decide +kernel
  have haborted : ((boot #[] none {}).trace tallied).aborted 0 = 1 := by
    decide +kernel
  have hq : ((boot #[] none {}).after tallied).Quiescent 0 := by
    unfold Quiescent
    decide +kernel
  obtain ⟨x, hx, hstats⟩ := Option.map_eq_some_iff.mp hstats
  exact ⟨x, hx, hstats, haborted, (conserves #[] none {} tallied hx).2 hq⟩

end System

end Reclaim

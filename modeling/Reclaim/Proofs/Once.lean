import Reclaim.Proofs.Counters
import Reclaim.Proofs.Lives
import Reclaim.Proofs.Replies

/-!
# Released once

However calls, drops, workers and outsiders compete for a handle, the first claim wins and every
other is in vain, the callback starts for the one that has won only, and every call answers what its own
claim has come to.

* `History.claims` : the claims on a handle, in order;
* `System.ReleasedOnce` : what that amounts to for a handle; `System.released_once`.
-/

namespace Reclaim

/-- The claims on a handle by calls and by the worker of a guard, in order. -/
def History.claims (h : History) (g : GuardId) (id : HandleId) : List Bool :=
  (h.of g id).filterMap Mark.claim?

namespace System
variable {w : System} {h : History} {id : HandleId} {e : Entry}

/-- The callback of a handle starts for whoever claims its release first. -/
structure ReleasedOnce (w : System) (h : History) (id : HandleId) (e : Entry) : Prop where
  /-- The callback has started once at most, -/
  once : (w.store.runs.map Prod.fst).count id ≤ 1
  /-- always with the address that the handle was registered with, -/
  address : (id, .numbered e.address) ∈ h ∧ ∀ a, (id, a) ∈ w.store.runs → a = e.address
  /-- never while the handle is active, -/
  active : e.state = .active → (w.store.runs.map Prod.fst).count id = 0
  /-- and certainly for a released handle that nobody is busy with. -/
  released : e.state = .released → w.Settled id → (w.store.runs.map Prod.fst).count id = 1
  /-- An active handle has not been claimed; then the first claim wins and all others are in
  vain. -/
  claims : (e.state = .active ∧ h.claims e.guard id = []) ∨
    (e.state = .released ∧ ∃ n, h.claims e.guard id = true :: List.replicate n false)
  /-- The worker of another guard claims it in vain. -/
  foreign : ∀ g, (id, .claimed (.reclaim g) true) ∈ h → g = e.guard
  /-- Every call that is about to claim the release answers what that comes to: no, or after its callback yes
  or the panic that the callback has ended with. -/
  replies : ∀ t th rest, w.thread? t = some th → th.stack = .release id .retire :: rest →
    w.Replies t th id rest
  /-- So there are as many answers as there are claims by calls, when all have come to their end. -/
  answers : ∀ won, h.count (id, .returned won) ≤ h.count (id, .claimed .release won) ∧
    (w.Settled id → h.count (id, .returned won) = h.count (id, .claimed .release won))
  /-- A worker that has won counts the callback that it has run. -/
  counted : w.Settled id →
    h.count (id, .settled e.guard false) + h.count (id, .settled e.guard true) =
      h.count (id, .claimed (.reclaim e.guard) true)

section Handle
variable {x : Gist} (he : w.store.resource? id = some e) (hx : w.store.gist? e.guard = some x)
include he

theorem Orderly.run_address (hw : w.Orderly h) {a : Address} (hrun : (id, a) ∈ w.store.runs) :
    a = e.address := by
  obtain ⟨e', he', rfl⟩ := hw.2.runs id a hrun
  cases he.symm.trans he'
  rfl

theorem Orderly.winner_owns (hw : w.Orderly h) {g : GuardId}
    (hin : (id, .claimed (.reclaim g) true) ∈ h) : g = e.guard := by
  obtain ⟨e', he', rfl⟩ := hw.2.marks id _ hin
  cases he.symm.trans he'
  rfl

include hx

theorem Regular.claims (hr : w.Regular h) : (e.state = .active ∧ h.claims e.guard id = []) ∨
    (e.state = .released ∧ ∃ n, h.claims e.guard id = true :: List.replicate n false) := by
  rcases (hr id e x he hx).claims with ⟨hactive, hnone⟩ | ⟨hreleased, n, hn⟩
  · exact .inl ⟨state_of_life.1.mp hactive, hnone⟩
  · exact .inr ⟨state_of_life.2.mp hreleased, n, hn⟩

/-- A call that has come to its end answers what its claim has come to. -/
theorem Regular.answers (hr : w.Regular h) (hw : w.Orderly h) (won : Bool) :
    h.count (id, .returned won) ≤ h.count (id, .claimed .release won) ∧
      (w.Settled id → h.count (id, .returned won) = h.count (id, .claimed .release won)) := by
  have hsound := (hr id e x he hx).sound
  have hreturned : (w.life h id e x).saw (.returned won) = h.count (id, .returned won) :=
    saw_life trivial
  have hclaimed : (w.life h id e x).saw (.claimed .release won) =
      h.count (id, .claimed .release won) := saw_life trivial
  rw [← hreturned, ← hclaimed]
  cases won with
  | true =>
    have hwon := hsound.won
    refine ⟨by omega, fun hs => ?_⟩
    have hwinning : (w.life h id e x).on (.winning id) = 0 := hs.on hw.1 rfl
    have hending : (w.life h id e x).on (.won id) = 0 := hs.on hw.1 rfl
    omega
  | false =>
    have hlost := hsound.lost
    refine ⟨by omega, fun hs => ?_⟩
    have hending : (w.life h id e x).on (.lost id) = 0 := hs.on hw.1 rfl
    omega

end Handle

theorem Manned.releasedOnce (hm : w.Manned h) (hr : w.Regular h)
    (he : w.store.resource? id = some e) (hsink : (id, .aborted e.guard) ∉ h) :
    w.ReleasedOnce h id e := by
  have hw := hm.orderly
  obtain ⟨x, hx⟩ := hw.2.entries id e he
  have hlisted := (hr id e x he hx).sound.listed
  have hruns := (hr id e x he hx).runs_le_released
  have hquiet : h.count (id, .aborted e.guard) = 0 := List.count_eq_zero.mpr hsink
  exact
    { once := hruns.trans (by omega)
      address := ⟨hw.2.numbered id e he, fun _ hrun => hw.run_address he hrun⟩
      active := by
        intro hactive
        rw [life_released_eq_zero hactive] at hruns
        exact Nat.le_zero.mp hruns
      released := by
        intro hreleased hs
        have hruns := (hr.finished hw he hx hs).1
        rwa [hquiet, Nat.add_zero, life_released_eq_one hreleased] at hruns
      claims := hr.claims he hx
      foreign := fun _ hin => hw.winner_owns he hin
      replies := fun _ _ _ hth hstack => hm.replies hth hstack
      answers := hr.answers he hx hw
      counted := by
        intro hs
        have hsettled := (hr.finished hw he hx hs).2
        rwa [hquiet, Nat.add_zero] at hsettled }

/-- Whatever happens in a process, a handle whose guard's sink has not panicked at the news that it was not
closed is released once: the first claim wins, it alone starts the callback, every call answers what its
own claim has come to, every worker counts the items that came too late, and a released handle stays
released. -/
theorem released_once (probes : Array Probe) (environment : Environment) (output : Output)
    (es : List Event) {id : HandleId} {e : Entry}
    (he : ((boot probes environment output).after es).store.resource? id = some e)
    (hsink : (id, .aborted e.guard) ∉ (boot probes environment output).history es) :
    ((boot probes environment output).after es).ReleasedOnce
        ((boot probes environment output).history es) id e ∧
      (∀ g x, ((boot probes environment output).after es).store.gist? g = some x →
        x.stats.discarded =
          ((boot probes environment output).history es).times (.claimed (.reclaim g) false)) ∧
      ∀ es', ∃ e', ((boot probes environment output).after (es ++ es')).store.resource? id = some e' ∧
        e'.address = e.address ∧ (e.state = .released → e'.state = .released) := by
  have hm := manned_after probes environment output es
  refine ⟨hm.releasedOnce (regular_after probes environment output es) he hsink, ?_, ?_⟩
  · intro g x hx
    exact (counts_after probes environment output es hx).discarded
  · intro es'
    obtain ⟨e', he', hl⟩ := (extends_after hm.orderly es').entry id e he
    rw [after_append]
    exact ⟨e', he', hl.address, hl.released⟩

/-- An outsider puts a handle into the source of its guard, its owner releases it, and the worker
comes too late. -/
def contested : List Event :=
  .join .caller
      [.startGuard "g" {} .gated none,
        .register (.guard "g") "x" { address := 7, callback := some {} },
        .inject "g" "x", .release "x" none, .letThrough "g" 1] ::
    (List.replicate 32 [.move (.act 0), .move (.act 1)]).flatten

theorem released_once_contested :
    (⟨1⟩, .returned true) ∈ (boot #[] none {}).history contested ∧
    (⟨1⟩, .claimed (.reclaim 0) false) ∈ (boot #[] none {}).history contested ∧
    ∃ e, ((boot #[] none {}).after contested).store.resource? ⟨1⟩ = some e ∧ e.state = .released ∧
      ((boot #[] none {}).after contested).ReleasedOnce ((boot #[] none {}).history contested) ⟨1⟩ e := by
  have hrun : (((boot #[] none {}).after contested).store.resource? ⟨1⟩).map (fun e => (e.state, e.guard)) =
      some (.released, 0) := by
    decide +kernel
  have hquiet : (⟨1⟩, .aborted 0) ∉ (boot #[] none {}).history contested := by decide +kernel
  obtain ⟨e, he, heq⟩ := Option.map_eq_some_iff.mp hrun
  obtain ⟨hstate, hguard⟩ := Prod.mk.inj heq
  refine ⟨by decide +kernel, by decide +kernel, e, he, hstate, ?_⟩
  exact (released_once #[] none {} contested he (hguard ▸ hquiet)).1

end System

end Reclaim

import Reclaim.Proofs.Staff
import Mathlib.Data.List.Infix

/-!
# Sites

What holds of a site, going by all that has been done there.

* `Manned.site_continues`, `System.site_in_store_after`, `System.site_after` : what holds of a site and
  survives every step there holds for good;
* `Source.Move`, `Site.Step.move` : what a step does to the source;
* `Site.Queued` : the source, and what it has accepted and handed out;
* `Site.Shown` : what the worker is said to be doing, and what has been said;
* `Site.Claimed` : every handle that the worker is through with has been claimed.
-/

namespace Reclaim

/-! ## Runs of a site -/

namespace System
variable {w w' : System} {h : History} {g : GuardId}

/-- What a turn makes of the site of one guard: there is none, a new one, one where nothing is done, or
one at which a step is made. -/
theorem Turn.site {ds : Trace} {ms : History} (ht : Turn w w' ds ms) (g : GuardId) :
    (w.site? g = none ∧ w'.site? g = none ∧ ds.of g = []) ∨
    (w.site? g = none ∧ ds.of g = [] ∧ ∃ a, w'.site? g = some a ∧ a.Fresh) ∨
    (ds.of g = [] ∧ ∃ a cells, w.site? g = some a ∧ w'.site? g = some { a with cells }) ∨
    (∃ a a', w.site? g = some a ∧ w'.site? g = some a' ∧ a.Step w.store ms g (ds.of g) a') := by
  cases ht with
  | rest hsite hds =>
    cases ha : w.site? g with
    | none => exact .inl ⟨rfl, (hsite g).trans ha, hds g⟩
    | some a => exact .inr (.inr (.inl ⟨hds g, a, a.cells, rfl, (hsite g).trans ha⟩))
  | @found g' a hg ha hfresh hsite hds =>
    by_cases heq : g = g'
    · subst heq
      exact .inr (.inl ⟨hg, hds g, a, ha, hfresh⟩)
    · cases hold : w.site? g with
      | none => exact .inl ⟨rfl, (hsite g heq).trans hold, hds g⟩
      | some b => exact .inr (.inr (.inl ⟨hds g, b, b.cells, rfl, (hsite g heq).trans hold⟩))
  | @step g' a a' ha ha' hstep hsite hds =>
    by_cases heq : g = g'
    · subst heq
      exact .inr (.inr (.inr ⟨a, a', ha, ha', hstep⟩))
    · cases hold : w.site? g with
      | none => exact .inl ⟨rfl, (hsite g heq).trans (by rw [hold]; rfl), hds g heq⟩
      | some b =>
        exact .inr (.inr (.inl ⟨hds g heq, b, a'.cells, rfl, (hsite g heq).trans (by rw [hold]; rfl)⟩))

/-- The site of a guard that there is stays, and what holds of it and survives every step there, and
whatever becomes of the cells, holds for good. -/
theorem Manned.site_continues {P : Site → History → Trace → Prop} (hm : w.Manned h) {a : Site}
    (ha : w.site? g = some a) (start : P a [] [])
    (step : ∀ {s ms a a' h tr ds}, P a h tr → a.Step s ms g ds a' → P a' (h ++ ms) (tr ++ ds))
    (other : ∀ {a cells h ms tr}, P a h tr → P { a with cells } (h ++ ms) tr) (es : List Event) :
    ∃ a', (w.after es).site? g = some a' ∧ P a' (w.history es) ((w.trace es).of g) := by
  induction es using List.reverseRecOn with
  | nil => exact ⟨a, ha, start⟩
  | append_singleton es e ih =>
    obtain ⟨b, hb, hP⟩ := ih
    rw [after_snoc, history_snoc, trace_snoc, Trace.of_append]
    rcases ((hm.after es).turn e).1.site g with ⟨hnone, -⟩ | ⟨hnone, -⟩ | h | h
    · cases hnone.symm.trans hb
    · cases hnone.symm.trans hb
    · obtain ⟨hds, c, cells, hc, hc'⟩ := h
      cases hb.symm.trans hc
      rw [hds, List.append_nil]
      exact ⟨_, hc', other hP⟩
    · obtain ⟨c, c', hc, hc', hstep⟩ := h
      cases hb.symm.trans hc
      exact ⟨c', hc', step hP hstep⟩

/-- What holds of a new site in some store and survives every step there, and whatever becomes of the
store otherwise, holds of every site that comes to be. -/
theorem Manned.site_starts {P : Store → Site → History → Trace → Prop} (hm : w.Manned h)
    (hnone : w.site? g = none) (start : ∀ {s a h}, a.Fresh → P s a h [])
    (step : ∀ {s s' ms a a' h tr ds}, s.Extends s' → P s a h tr → a.Step s ms g ds a' →
      P s' a' (h ++ ms) (tr ++ ds))
    (other : ∀ {s s' a cells h ms tr}, s.Extends s' → P s a h tr → P s' { a with cells } (h ++ ms) tr)
    (es : List Event) : ((w.after es).site? g = none ∧ (w.trace es).of g = []) ∨
      ∃ a, (w.after es).site? g = some a ∧
        P (w.after es).store a (w.history es) ((w.trace es).of g) := by
  induction es using List.reverseRecOn with
  | nil => exact .inl ⟨hnone, rfl⟩
  | append_singleton es e ih =>
    obtain ⟨src, dst, hact, -⟩ := (hm.after es).orderly.occur e
    have hext := hact.extends
    rw [after_snoc, history_snoc, trace_snoc, Trace.of_append]
    rcases ((hm.after es).turn e).1.site g with
      ⟨hold, hnew, hds⟩ | ⟨hold, hds, b, hb, hfresh⟩ | ⟨hds, b, cells, hb, hb'⟩ | ⟨b, b', hb, hb', hstep⟩ <;>
      rcases ih with ⟨hno, htr⟩ | ⟨a, ha, hP⟩
    · exact .inl ⟨hnew, by rw [hds, htr, List.append_nil]⟩
    · cases hold.symm.trans ha
    · exact .inr ⟨b, hb, by rw [hds, htr]; exact start hfresh⟩
    · cases hold.symm.trans ha
    · cases hno.symm.trans hb
    · cases hb.symm.trans ha
      exact .inr ⟨_, hb', by rw [hds, List.append_nil]; exact other hext hP⟩
    · cases hno.symm.trans hb
    · cases hb.symm.trans ha
      exact .inr ⟨b', hb', step hext hP hstep⟩

variable (probes : Array Probe) (environment : Environment) (output : Output) (es : List Event)

/-- What holds of a new site in some store and survives every step there, and whatever becomes of the
store otherwise, holds of every site. -/
theorem site_in_store_after {P : Store → Site → History → Trace → Prop}
    (start : ∀ {s a h}, a.Fresh → P s a h [])
    (step : ∀ {s s' ms a a' h tr ds}, s.Extends s' → P s a h tr → a.Step s ms g ds a' →
      P s' a' (h ++ ms) (tr ++ ds))
    (other : ∀ {s s' a cells h ms tr}, s.Extends s' → P s a h tr → P s' { a with cells } (h ++ ms) tr)
    {a : Site} (ha : ((boot probes environment output).after es).site? g = some a) :
    P ((boot probes environment output).after es).store a ((boot probes environment output).history es)
      (((boot probes environment output).trace es).of g) := by
  have hboot : (boot probes environment output).site? g = none := by
    simp [boot, site?, Store.desk?, Store.guard?]
  obtain ⟨hnone, -⟩ | ⟨b, hb, hP⟩ :=
    (manned_boot probes environment output).site_starts hboot @start @step @other es
  · cases hnone.symm.trans ha
  · cases hb.symm.trans ha
    exact hP

/-- What holds of a new site and survives every step there, and whatever becomes of the cells, holds of
every site. -/
theorem site_after {P : Site → History → Trace → Prop} (start : ∀ {a h}, a.Fresh → P a h [])
    (step : ∀ {s ms a a' h tr ds}, P a h tr → a.Step s ms g ds a' → P a' (h ++ ms) (tr ++ ds))
    (other : ∀ {a cells h ms tr}, P a h tr → P { a with cells } (h ++ ms) tr)
    {a : Site} (ha : ((boot probes environment output).after es).site? g = some a) :
    P a ((boot probes environment output).history es)
      (((boot probes environment output).trace es).of g) :=
  site_in_store_after (P := fun _ => P) probes environment output es start (fun _ => step)
    (fun _ => other) ha

end System

/-! ## Sources -/

/-- What a step at a site does to the source: which items are accepted, and which are handed out. -/
inductive Source.Move (x : Source) : List Item → List Item → Source → Prop
  | rest {x' : Source} (hqueue : x'.queue = x.queue) (hdelivered : x'.delivered = x.delivered) :
      Move x [] [] x'
  | put {x' : Source} {item : Item} (hopen : x.isInterrupted = false) (hrefuses : x.refuses = false)
      (hqueue : x'.queue = { x.queue with items := x.queue.items ++ [item] })
      (hdelivered : x'.delivered = x.delivered) : Move x [item] [] x'
  | take {x' : Source} {item : Item} {rest : List Item} (hopen : x.isInterrupted = false)
      (hitems : x.queue.items = item :: rest) (hqueue : x'.queue = { x.queue with items := rest })
      (hdelivered : x'.delivered = item :: x.delivered) : Move x [] [item] x'
  | swallow {x' : Source} {k : Nat} {rest : List Item} (hopen : x.isInterrupted = false)
      (hswallows : x.swallowsFlushes = true) (hitems : x.queue.items = .flush k :: rest)
      (hqueue : x'.queue = { x.queue with items := rest }) (hdelivered : x'.delivered = x.delivered) :
      Move x [] [] x'
  | interrupt {x' : Source} (hqueue : x'.queue = ⟨[], true⟩)
      (hdelivered : x'.delivered = x.delivered) : Move x [] [] x'

/-- What kind of a source it is. -/
structure Source.Alike (x x' : Source) : Prop where
  refuses : x'.refuses = x.refuses
  swallowsFlushes : x'.swallowsFlushes = x.swallowsFlushes
  panicsAt : x'.panicsAt = x.panicsAt
  gate : x'.gate.isSome = x.gate.isSome

namespace Source
variable {x x' : Source} {item : Item}

theorem enqueue_eq_some (h : x.enqueue item = some x') : x.isInterrupted = false ∧ x.refuses = false ∧
    x' = { x with queue := { x.queue with items := x.queue.items ++ [item] } } := by
  unfold enqueue Queue.enqueue at h
  split at h
  · cases h
  · next hrefuses =>
    split at h
    · cases h
    · next q hq =>
      split at hq
      · cases hq
      · next hint =>
        cases hq
        cases h
        exact ⟨Bool.eq_false_iff.mpr hint, Bool.eq_false_iff.mpr hrefuses, rfl⟩

theorem enqueue_eq_none (h : x.enqueue item = none) : x.refuses = true ∨ x.isInterrupted = true := by
  unfold enqueue Queue.enqueue at h
  split at h
  · next hrefuses => exact .inl hrefuses
  · split at h
    · next hq =>
      split at hq
      · next hint => exact .inr hint
      · cases hq
    · cases h

theorem poll_eq (x : Source) :
    (x.poll = (x, .interrupted) ∧ x.isInterrupted = true) ∨ x.poll = (x, .wait) ∨
    (∃ item rest, x.isInterrupted = false ∧ x.queue.items = item :: rest ∧
      (x.poll = ({ x with
          queue := { x.queue with items := rest }
          gate := x.gate.map (· - 1)
          delivered := item :: x.delivered }, .item item) ∨
        ∃ k, item = .flush k ∧ x.swallowsFlushes = true ∧
          x.poll = ({ x with queue := { x.queue with items := rest }, gate := x.gate.map (· - 1) },
            .swallowed k))) := by
  unfold poll Queue.next
  split
  · next hint =>
    split at hint
    · next hyes => exact .inl ⟨rfl, hyes⟩
    · split at hint <;> cases hint
  · exact .inr (.inl rfl)
  · next item q hitem =>
    split at hitem
    · cases hitem
    · next hno =>
      split at hitem
      · cases hitem
      · next item' rest hitems =>
        cases hitem
        split
        · refine .inr (.inr ⟨item, rest, Bool.eq_false_iff.mpr hno, hitems, ?_⟩)
          simp only
          split
          · next k hswallows => exact .inr ⟨k, rfl, hswallows, rfl⟩
          · exact .inl rfl
        · exact .inr (.inl rfl)

/-- A look that finds nothing changes nothing. -/
theorem poll_fst (h : x.poll.2 = .interrupted ∨ x.poll.2 = .wait) : x.poll.1 = x := by
  rcases x.poll_eq with ⟨heq, -⟩ | heq | ⟨item, rest, -, -, heq | ⟨k, -, -, heq⟩⟩ <;>
    rw [heq] at h ⊢ <;> rcases h with ⟨⟨⟩⟩ | ⟨⟨⟩⟩

theorem poll_item (h : x.poll.2 = .item item) : x.queue.items = item :: x.poll.1.queue.items := by
  rcases x.poll_eq with ⟨heq, -⟩ | heq | ⟨item, rest, -, hitems, heq | ⟨k, -, -, heq⟩⟩ <;>
    rw [heq] at h ⊢ <;> cases h
  exact hitems

theorem poll_swallowed {k : Nat} (h : x.poll.2 = .swallowed k) :
    x.queue.items = .flush k :: x.poll.1.queue.items ∧ x.swallowsFlushes = true := by
  rcases x.poll_eq with ⟨heq, -⟩ | heq | ⟨item, rest, -, hitems, heq | ⟨k, rfl, hswallows, heq⟩⟩ <;>
    rw [heq] at h ⊢ <;> cases h
  exact ⟨hitems, hswallows⟩

end Source

namespace Site
variable {s : Store} {ms : History} {g : GuardId} {a a' : Site} {ds : Trace}

/-- Whatever happens at a site, the source makes a move. -/
theorem Step.move (hs : a.Step s ms g ds a') :
    a.source.Move ds.ins ds.outs a'.source ∧ a.source.Alike a'.source := by
  cases hs with
  | visit h =>
    cases h with
    | accept h =>
      obtain ⟨hopen, hrefuses, rfl⟩ := Source.enqueue_eq_some h
      exact ⟨.put hopen hrefuses rfl rfl, ⟨rfl, rfl, rfl, rfl⟩⟩
    | ask h hgate =>
      obtain ⟨hopen, hrefuses, rfl⟩ := Source.enqueue_eq_some h
      rcases hgate with rfl | rfl
      · exact ⟨.put hopen hrefuses rfl rfl, ⟨rfl, rfl, rfl, rfl⟩⟩
      · exact ⟨.put hopen hrefuses rfl rfl, ⟨rfl, rfl, rfl, Option.isSome_map⟩⟩
    | permit => exact ⟨.rest rfl rfl, ⟨rfl, rfl, rfl, Option.isSome_map⟩⟩
    | interrupt => exact ⟨.interrupt rfl rfl, ⟨rfl, rfl, rfl, rfl⟩⟩
    | _ => exact ⟨.rest rfl rfl, ⟨rfl, rfl, rfl, rfl⟩⟩
  | chore h =>
    have hpoll := a.source.poll_eq
    generalize hstage : a.stage = stage at h
    cases h with
    | stop h | wait h =>
      rcases hpoll with ⟨heq, -⟩ | heq | ⟨item, rest, -, -, heq | ⟨k, -, -, heq⟩⟩ <;>
        rw [heq] at h ⊢ <;> first | exact ⟨.rest rfl rfl, ⟨rfl, rfl, rfl, rfl⟩⟩ | cases h
    | swallow h =>
      rcases hpoll with ⟨heq, -⟩ | heq | ⟨item, rest, hopen, hitems, heq | ⟨k, rfl, hswallows, heq⟩⟩ <;>
        rw [heq] at h ⊢ <;> cases h
      exact ⟨.swallow hopen hswallows hitems rfl rfl, ⟨rfl, rfl, rfl, Option.isSome_map⟩⟩
    | take h =>
      rcases hpoll with ⟨heq, -⟩ | heq | ⟨item, rest, hopen, hitems, heq | ⟨k, rfl, hswallows, heq⟩⟩ <;>
        rw [heq] at h ⊢ <;> cases h
      exact ⟨.take hopen hitems rfl rfl, ⟨rfl, rfl, rfl, Option.isSome_map⟩⟩
    | interrupt => exact ⟨.interrupt rfl rfl, ⟨rfl, rfl, rfl, rfl⟩⟩
    | _ => exact ⟨.rest rfl rfl, ⟨rfl, rfl, rfl, rfl⟩⟩

end Site

/-- The source agrees with what it has accepted and handed out so far. -/
structure Source.Books (x : Source) (ins outs : List Item) : Prop where
  delivered : x.delivered = outs.reverse
  /-- What it hands out and what waits there is what it has accepted, or some of it, in order. -/
  kept : (outs ++ x.queue.items).Sublist ins
  /-- Nothing gets lost except at the end, unless requests are swallowed. -/
  order : x.swallowsFlushes = false → outs ++ x.queue.items <+: ins
  /-- Until an interruption, nothing gets lost at all. -/
  complete : x.swallowsFlushes = false → x.isInterrupted = false → outs ++ x.queue.items = ins
  closed : x.isInterrupted = true → x.queue.items = []

namespace Source.Books
variable {x x' : Source} {ins outs ins' outs' : List Item}

theorem fresh (kind : SourceKind) (panicsAt : Option Nat) : (kind.source panicsAt).Books [] [] := by
  cases kind <;> exact ⟨rfl, .slnil, fun _ => List.prefix_rfl, fun _ _ => rfl, nofun⟩

/-- Every move of a source keeps to its books. -/
theorem move (hb : x.Books ins outs) (h : x.Move ins' outs' x') (hx : x.Alike x') :
    x'.Books (ins ++ ins') (outs ++ outs') := by
  obtain ⟨hdel, hkept, horder, hcomplete, hclosed⟩ := hb
  have hlike := hx.swallowsFlushes
  cases h with
  | rest hqueue hdelivered =>
    rw [List.append_nil, List.append_nil]
    exact ⟨hdelivered.trans hdel, hqueue ▸ hkept, fun h => hqueue ▸ horder (hlike ▸ h),
      fun h hopen => hqueue ▸ hcomplete (hlike ▸ h) (by rw [isInterrupted, ← hqueue]; exact hopen),
      fun hint => hqueue ▸ hclosed (by rw [isInterrupted, ← hqueue]; exact hint)⟩
  | @put _ item hopen _ hqueue hdelivered =>
    rw [List.append_nil]
    have hopen' : x'.isInterrupted = false := by rw [isInterrupted, hqueue]; exact hopen
    refine ⟨hdelivered.trans hdel, ?_, fun h => ?_, fun h _ => ?_, fun h => ?_⟩ <;>
      simp only [hqueue, ← List.append_assoc]
    · exact hkept.append (.refl [item])
    · exact hcomplete (hlike ▸ h) hopen ▸ List.prefix_rfl
    · rw [hcomplete (hlike ▸ h) hopen]
    · rw [h] at hopen'
      cases hopen'
  | @take _ item rest hopen hitems hqueue hdelivered =>
    have hopen' : x'.isInterrupted = false := by rw [isInterrupted, hqueue]; exact hopen
    have hsame : outs ++ [item] ++ x'.queue.items = outs ++ x.queue.items := by
      simp [hqueue, hitems]
    rw [List.append_nil]
    refine ⟨?_, hsame ▸ hkept, fun h => hsame ▸ horder (hlike ▸ h),
      fun h _ => hsame ▸ hcomplete (hlike ▸ h) hopen, fun h => ?_⟩
    · simp [hdelivered, hdel]
    · rw [h] at hopen'
      cases hopen'
  | @swallow _ k rest hopen hswallows hitems hqueue hdelivered =>
    have hopen' : x'.isInterrupted = false := by rw [isInterrupted, hqueue]; exact hopen
    rw [List.append_nil, List.append_nil]
    refine ⟨hdelivered.trans hdel, ?_, fun h => ?_, fun h => ?_, fun h => ?_⟩
    · have hless : (outs ++ rest).Sublist (outs ++ .flush k :: rest) :=
        (List.sublist_cons_self _ rest).append_left outs
      rw [hqueue]
      exact hless.trans (hitems ▸ hkept)
    · rw [hlike, hswallows] at h
      cases h
    · rw [hlike, hswallows] at h
      cases h
    · rw [h] at hopen'
      cases hopen'
  | interrupt hqueue hdelivered =>
    rw [List.append_nil, List.append_nil]
    refine ⟨hdelivered.trans hdel, ?_, fun h => ?_, fun _ h => ?_, fun _ => by rw [hqueue]⟩
    · rw [hqueue, List.append_nil]
      exact (List.sublist_append_left outs _).trans hkept
    · rw [hqueue, List.append_nil]
      exact (List.prefix_append outs _).trans (horder (hlike ▸ h))
    · rw [isInterrupted, hqueue] at h
      cases h

end Source.Books

section Acts
variable {s : Store} {ms : History} {g : GuardId} {d d' : Desk} {ds : Trace} {cells : Cells}

/-- Others hand nothing out. -/
theorem Visit.outs {src dst : Multiset Stake} (h : Visit s ms g d src ds d' cells dst) :
    ds.outs = [] := by
  cases h <;> rfl

/-- A worker is handed an item, or is inside the one that it was inside of, or leaves it. -/
theorem Chore.hand {stage stage' : Stage} (h : Chore s ms g d stage ds d' cells stage') :
    (∃ item, stage' = .point (.took item) ∧ ds.outs = [item]) ∨
      (ds.outs = [] ∧ (∀ item, stage'.item? = some item → stage.item? = some item) ∧
        (stage'.isBusy = true → stage.isBusy = true)) := by
  cases h with
  | take => exact .inl ⟨_, rfl, rfl⟩
  | _ => exact .inr ⟨rfl, by simp [Stage.item?], by simp [Stage.isBusy, WorkerPoint.isBusy]⟩

end Acts

namespace Site
variable {s : Store} {ms : History} {g : GuardId} {a a' : Site} {h : History} {tr ds : Trace}

/-- The source agrees with what it has accepted and handed out, and the worker is inside what it has
been handed last. -/
structure Queued (a : Site) (tr : Trace) : Prop where
  books : a.source.Books tr.ins tr.outs
  hand : ∀ item, a.stage.item? = some item → tr.outs.getLast? = some item
  busy : a.stage.isBusy = true → tr.outs ≠ []

theorem Queued.fresh (ha : a.Fresh) : a.Queued [] := by
  obtain ⟨kind, panicsAt, hsource⟩ := ha.source
  refine ⟨hsource ▸ .fresh kind panicsAt, ?_, ?_⟩ <;> rw [ha.stage] <;> nofun

theorem Queued.step (hq : a.Queued tr) (hs : a.Step s ms g ds a') : a'.Queued (tr ++ ds) := by
  obtain ⟨hmove, halike⟩ := hs.move
  have hbooks := hq.books.move hmove halike
  rw [← Trace.ins_append, ← Trace.outs_append] at hbooks
  cases hs with
  | visit h =>
    refine ⟨hbooks, ?_, ?_⟩ <;> rw [Trace.outs_append, h.outs, List.append_nil]
    · exact hq.hand
    · exact hq.busy
  | chore h =>
    obtain ⟨item, rfl, hout⟩ | ⟨hout, hitem, hbusy⟩ := h.hand <;>
      refine ⟨hbooks, ?_, ?_⟩ <;> rw [Trace.outs_append, hout]
    · rintro _ ⟨⟩
      exact List.getLast?_concat
    · exact fun _ => List.concat_ne_nil item tr.outs
    · rw [List.append_nil]
      exact fun item h => hq.hand item (hitem item h)
    · rw [List.append_nil]
      exact fun h => hq.busy (hbusy h)

end Site

/-- An interruption is for good. -/
theorem Source.Move.isInterrupted {x x' : Source} {ins outs : List Item} (h : x.Move ins outs x')
    (hint : x.isInterrupted = true) : x'.isInterrupted = true := by
  cases h with
  | rest hqueue => rw [Source.isInterrupted, hqueue]; exact hint
  | interrupt hqueue => rw [Source.isInterrupted, hqueue]
  | put hopen | take hopen | swallow hopen =>
    rw [hint] at hopen
    cases hopen

/-- Nothing gets into an interrupted source, and nothing out of it. -/
theorem Source.Move.closed {x x' : Source} {ins outs : List Item} (h : x.Move ins outs x')
    (hint : x.isInterrupted = true) : ins = [] ∧ outs = [] := by
  cases h with
  | rest | interrupt | swallow => exact ⟨rfl, rfl⟩
  | put hopen | take hopen =>
    rw [hint] at hopen
    cases hopen

/-! ## What a worker shows -/

namespace Stage

/-- What a worker that has come so far is said to be doing. -/
def states : Stage → List WorkerState
  | point .starting | point .polling | point (.took _) | point (.leaving _) => [.waiting]
  | point (.discarding ..) | point (.farewell _) | point (.stopping _) => [.waiting]
  | point .calling => [.waiting, .processing]
  | gone => [.stopped]
  | _ => [.processing]

/-- Whether the worker has interrupted its source and will not ask for another item. -/
def isClosed : Stage → Bool
  | point (.discarding ..) | point (.farewell _) | point (.stopping _) | gone => true
  | _ => false

/-- Whether the worker has said that it has ended. -/
def isOver : Stage → Bool
  | point (.stopping _) | gone => true
  | _ => false

theorem states_eq_stopped {stage : Stage} (h : .stopped ∈ stage.states) : stage = .gone := by
  cases stage with
  | point p => cases p <;> simp [states] at h
  | entering id | inside id => simp [states] at h
  | gone => rfl

end Stage

/-- How what a worker is said to be doing can change. -/
inductive WorkerState.Next : WorkerState → WorkerState → Prop
  | same (state : WorkerState) : Next state state
  | process : Next .waiting .processing
  | wait : Next .processing .waiting
  | stop : Next .waiting .stopped

section Acts
variable {s : Store} {ms : History} {g : GuardId} {d d' : Desk} {ds : Trace} {cells : Cells}

/-- Others do not change what a worker is said to be doing, and say nothing but leaks. -/
theorem Visit.shown {src dst : Multiset Stake} (h : Visit s ms g d src ds d' cells dst) :
    d'.said = d.said ++ ds.words ∧ d'.state = d.state ∧ d'.exit = d.exit ∧
      .interrupted ∉ ds.words := by
  cases h with
  | leak => exact ⟨rfl, rfl, rfl, by simp [Trace.words, Deed.said?]⟩
  | _ => exact ⟨(List.append_nil _).symm, rfl, rfl, List.not_mem_nil⟩

/-- What a worker says is kept. -/
theorem Chore.said {stage stage' : Stage} (h : Chore s ms g d stage ds d' cells stage') :
    d'.said = d.said ++ ds.words := by
  cases h <;> first | rfl | exact (List.append_nil _).symm

/-- A worker that shows how far it has come goes on to do so. -/
theorem Chore.states {stage stage' : Stage} (h : Chore s ms g d stage ds d' cells stage')
    (hstate : d.state ∈ stage.states) : d'.state ∈ stage'.states ∧ d.state.Next d'.state := by
  have same : ∀ {state : WorkerState}, state ∈ [d.state] → d.state.Next state := fun h => by
    rw [List.mem_singleton.mp h]
    exact .same _
  cases h with
  | call | unwind =>
    refine ⟨List.mem_singleton_self _, ?_⟩
    rcases List.mem_cons.mp hstate with heq | hmem
    · rw [heq]
      exact .same _
    · rw [List.mem_singleton.mp hmem]
      exact .wait
  | process =>
    rw [List.mem_singleton.mp hstate]
    exact ⟨List.mem_singleton_self _, .process⟩
  | finish =>
    rw [List.mem_singleton.mp hstate]
    exact ⟨List.mem_singleton_self _, .stop⟩
  | start | answer | discard | announce | recover =>
    exact ⟨by simp_all [Stage.states], .same _⟩
  | _ => exact ⟨hstate, .same _⟩

theorem Entry.announcement_ne (e : Entry) (panic : Option Panic) :
    e.announcement panic ≠ .interrupted := by
  cases panic <;> nofun

/-- A worker closes its source before it ends. -/
theorem Chore.closed {stage stage' : Stage} (h : Chore s ms g d stage ds d' cells stage')
    (hclosed : stage.isClosed = true → d.source.isInterrupted = true) :
    (stage'.isClosed = true → d'.source.isInterrupted = true) ∧
      stage'.isOver.toNat = stage.isOver.toNat + ds.words.count .interrupted ∧
      (d'.exit.isSome = true ↔ stage' = .gone ∨ d.exit.isSome = true) := by
  cases h with
  | interrupt => exact ⟨fun _ => rfl, rfl, by simp⟩
  | destroy | clear | farewell | finish =>
    exact ⟨fun _ => hclosed rfl, by simp [Stage.isOver, Trace.words, Deed.said?], by simp⟩
  | announce | balk =>
    refine ⟨nofun, ?_, by simp⟩
    simp [Stage.isOver, Trace.words, Deed.said?, Entry.announcement_ne]
  | _ => exact ⟨nofun, rfl, by simp⟩

end Acts

namespace Site
variable {s : Store} {ms : History} {g : GuardId} {a a' : Site} {tr ds : Trace}

/-- Nobody changes the configuration of a guard. -/
theorem Step.config (hs : a.Step s ms g ds a') : a'.config = a.config := by
  cases hs with
  | visit hv => cases hv <;> rfl
  | chore hc =>
    generalize a.stage = stage at hc
    cases hc <;> rfl

/-- What has been said is kept, the worker is said to be doing what it does, and before it ends it closes
its source and says so once. -/
structure Shown (a : Site) (tr : Trace) : Prop where
  said : a.said = tr.words
  state : a.state ∈ a.stage.states
  exit : a.exit.isSome = true ↔ a.stage = .gone
  closed : a.stage.isClosed = true → a.source.isInterrupted = true
  farewells : tr.words.count .interrupted = a.stage.isOver.toNat

theorem Shown.fresh (ha : a.Fresh) : a.Shown [] := by
  obtain ⟨-, hstate, hexit, hsaid, hstage, -⟩ := ha
  exact ⟨hsaid, by rw [hstate, hstage]; exact List.mem_singleton_self _, by simp [hexit, hstage],
    by rw [hstage]; nofun, by rw [hstage]; rfl⟩

theorem Shown.step (h : a.Shown tr) (hs : a.Step s ms g ds a') :
    a'.Shown (tr ++ ds) ∧ a.state.Next a'.state := by
  obtain ⟨hsaid, hstate, hexit, hclosed, hfarewells⟩ := h
  have hmove := hs.move.1
  cases hs with
  | visit hv =>
    obtain ⟨hsaid', hstate', hexit', hquiet⟩ := hv.shown
    refine ⟨⟨?_, ?_, ?_, fun h => hmove.isInterrupted (hclosed h), ?_⟩, hstate' ▸ .same _⟩
    · rw [hsaid', hsaid, Trace.words_append]
    · exact hstate' ▸ hstate
    · exact hexit' ▸ hexit
    · rw [Trace.words_append, List.count_append, hfarewells, List.count_eq_zero.mpr hquiet, add_zero]
  | chore hc =>
    obtain ⟨hstate', hnext⟩ := hc.states hstate
    obtain ⟨hclosed', hover, hexit'⟩ := hc.closed hclosed
    refine ⟨⟨?_, hstate', hexit'.trans ?_, hclosed', ?_⟩, hnext⟩
    · rw [hc.said, hsaid, Trace.words_append]
    · refine ⟨fun h => h.elim id fun h => ?_, .inl⟩
      rw [hexit.mp h] at hc
      cases hc
    · rw [Trace.words_append, List.count_append, hfarewells, hover]

end Site

/-- The source of a guard stays of its kind, and its configuration stays. -/
theorem System.Manned.plain_after {w : System} {h : History} {g : GuardId} {a : Site} (hm : w.Manned h)
    (ha : w.site? g = some a) (es : List Event) :
    ∃ a', (w.after es).site? g = some a' ∧ a.source.Alike a'.source ∧ a'.config = a.config :=
  hm.site_continues (P := fun a' _ _ => a.source.Alike a'.source ∧ a'.config = a.config) ha
    ⟨⟨rfl, rfl, rfl, rfl⟩, rfl⟩
    (fun h hs => by
      have halike := hs.move.2
      exact ⟨⟨halike.refuses.trans h.1.refuses, halike.swallowsFlushes.trans h.1.swallowsFlushes,
        halike.panicsAt.trans h.1.panicsAt, halike.gate.trans h.1.gate⟩, hs.config.trans h.2⟩)
    (fun h => h) es

/-- A guard has the sink that it had earlier. -/
theorem System.sink_stays {probes : Array Probe} {environment : Environment} {output : Output} {es : List Event}
    {g : GuardId} {sink : Sink} (n : Nat)
    (h : (((boot probes environment output).after (es.take n)).site? g).map (fun a => a.config.sink) = some sink) :
    (((boot probes environment output).after es).site? g).map (fun a => a.config.sink) = some sink := by
  obtain ⟨a, ha, hsink⟩ := Option.map_eq_some_iff.mp h
  obtain ⟨a', ha', -, hconfig⟩ :=
    (manned_after probes environment output (es.take n)).plain_after ha (es.drop n)
  rw [← after_append, List.take_append_drop] at ha'
  rw [ha', Option.map_some, hconfig, hsink]

/-! ## What a worker has claimed -/

/-- Whether the worker has not yet tried to claim what it has been handed. -/
def Stage.isNew : Stage → Bool
  | point (.took _) | point (.processing _) => true
  | _ => false

/-- The items that a worker that has come so far has tried to claim, or answered. -/
def Stage.tried (stage : Stage) (outs : List Item) : List Item :=
  if stage.isNew then outs.dropLast else outs

/-- The items that a worker that has come so far is through with. -/
def Stage.completed (stage : Stage) (outs : List Item) : List Item :=
  if stage.isBusy then outs.dropLast else outs

theorem Stage.completed_of_idle {stage : Stage} (h : ¬stage.isBusy = true) (outs : List Item) :
    stage.completed outs = outs := if_neg h

theorem Stage.completed_prefix (stage : Stage) (outs : List Item) : stage.completed outs <+: outs := by
  unfold completed
  split
  · exact List.dropLast_prefix outs
  · exact List.prefix_rfl

theorem Stage.completed_prefix_tried (stage : Stage) (outs : List Item) :
    stage.completed outs <+: stage.tried outs := by
  unfold completed tried
  by_cases hbusy : stage.isBusy = true
  · rw [if_pos hbusy]
    split
    · exact List.prefix_rfl
    · exact List.dropLast_prefix outs
  · have hnew : ¬stage.isNew = true := by
      cases stage with
      | point p => cases p <;> simp_all [isBusy, WorkerPoint.isBusy, isNew]
      | _ => simp [isNew]
    rw [if_neg hbusy, if_neg hnew]

/-- Of what a worker has been handed, it tries to claim what it is inside of last. -/
theorem Chore.tried {s : Store} {ms : History} {g : GuardId} {d d' : Desk} {ds : Trace}
    {cells : Cells} {stage stage' : Stage} (h : Chore s ms g d stage ds d' cells stage')
    {outs : List Item} (hhand : ∀ item, stage.item? = some item → outs.getLast? = some item)
    {id : HandleId} (hin : .reclaim id ∈ stage'.tried (outs ++ ds.outs)) :
    .reclaim id ∈ stage.tried outs ∨ ∃ won, (id, .claimed (.reclaim g) won) ∈ ms := by
  have hlast : ∀ {item}, stage.item? = some item → .reclaim id ∈ outs →
      .reclaim id ∈ outs.dropLast ∨ .reclaim id = item := fun hitem hin => by
    rw [← List.dropLast_append_getLast? _ (hhand _ hitem)] at hin
    simpa using hin
  cases h with
  | answer =>
    have hin : .reclaim id ∈ outs := by
      simpa [Stage.tried, Stage.isNew, Trace.outs, Deed.delivered?] using hin
    rcases hlast rfl hin with hin | ⟨⟨⟩⟩
    exact .inl hin
  | claim hmark | discard hmark =>
    have hin : .reclaim id ∈ outs := by
      simpa [Stage.tried, Stage.isNew, Trace.outs, Deed.delivered?] using hin
    rcases hlast rfl hin with hin | ⟨⟨⟩⟩
    · exact .inl hin
    · exact .inr ⟨_, hmark⟩
  | _ => exact .inl (by simpa [Stage.tried, Stage.isNew, Trace.outs, Deed.delivered?] using hin)

namespace Site
variable {s : Store} {ms : History} {g : GuardId} {a a' : Site} {h : History} {tr ds : Trace}

/-- Every handle that the worker is through with has been claimed, here or before. -/
structure Claimed (g : GuardId) (a : Site) (h : History) (tr : Trace) : Prop where
  queued : a.Queued tr
  tried : ∀ id, .reclaim id ∈ a.stage.tried tr.outs → ∃ won, (id, .claimed (.reclaim g) won) ∈ h

theorem Claimed.fresh (ha : a.Fresh) : a.Claimed g h [] :=
  ⟨.fresh ha, fun id hin => by rw [ha.stage] at hin; cases hin⟩

theorem Claimed.step (hc : a.Claimed g h tr) (hs : a.Step s ms g ds a') :
    a'.Claimed g (h ++ ms) (tr ++ ds) := by
  have hqueued := hc.queued.step hs
  have hold : ∀ {id}, .reclaim id ∈ a.stage.tried tr.outs →
      ∃ won, (id, .claimed (.reclaim g) won) ∈ h ++ ms := fun hin =>
    (hc.tried _ hin).imp fun _ => List.mem_append_left ms
  refine ⟨hqueued, fun id hin => ?_⟩
  rw [Trace.outs_append] at hin
  cases hs with
  | visit hv =>
    rw [hv.outs, List.append_nil] at hin
    exact hold hin
  | chore hchore =>
    rcases hchore.tried hc.queued.hand hin with hin | ⟨won, hin⟩
    · exact hold hin
    · exact ⟨won, List.mem_append_right h hin⟩

end Site

end Reclaim

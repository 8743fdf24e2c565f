import Reclaim.Store

/-!
# Answers to questions

* `Query.answer` : the answer to a question, read off the store.
-/

namespace Reclaim

namespace Query

/-- A question about a guard. -/
def aboutGuard (s : Store) (name : String) (f : Guard → Reply) : Except Missing Reply := do
  let g ← s.guardNamed name
  match s.guard? g with
  | some guard => return f guard
  | none => throw .guard

/-- A question about a source within reach. -/
def aboutSource (s : Store) (name : String) (f : Source → Reply) : Except Missing Reply := do
  let g ← s.sourceNamed name
  match s.guard? g with
  | some guard => return f guard.source
  | none => throw .source

/-- A question about a handle in a variable. -/
def aboutHandle (s : Store) (name : String) (f : HandleInfo → Reply) : Except Missing Reply := do
  let id ← s.handleNamed name
  match s.info? id with
  | some i => return f i
  | none => throw .handle

/-- How two numbers compare. -/
def ordering (a b : HandleId) : Ordering := Ord.compare a.number b.number

/-- What a probe reports about itself and one address. -/
def probeReport (p : Probe) (address : Address) : ProbeReport :=
  ⟨p.total, p.order, p.duplicates, p.count address⟩

/-- The answer, or what the question names and does not exist. -/
def answer? (s : Store) : Query → Except Missing Reply
  | .contains guard handle => do
      let g ← s.guardNamed guard
      let id ← s.handleNamed handle
      return .flag (s.contains g id)
  | .containsProcessWide handle => do
      let id ← s.handleNamed handle
      match s.processWide.running with
      | some g => return .flag (s.contains g id)
      | none => return .flag false
  | .info handle => aboutHandle s handle .info
  | .debugHandle handle => aboutHandle s handle fun i => .text i.debug
  | .idText handle => do
      let id ← s.idNamed handle
      return .text id.text
  | .compare handle other => do
      let a ← s.idNamed handle
      let b ← s.idNamed other
      return .order (ordering a b)
  | .live guard => aboutGuard s guard fun g => .count g.registry.size
  | .stats guard => aboutGuard s guard fun g => .stats g.stats
  | .workerState guard => aboutGuard s guard fun g => .text g.state.name
  | .debugGuard guard => aboutGuard s guard fun g => .text g.debug
  | .pending guard => aboutSource s guard fun source => .count source.pending
  | .isInterrupted guard => aboutSource s guard fun source => .flag source.isInterrupted
  | .probe address =>
      match s.probes[0]? with
      | some p => .ok (.probe (probeReport p address))
      | none => .ok (.probe (probeReport {} address))
  | .record name address =>
      match s.recorder? name with
      | some r => .ok (.record r.messages ((r.about address).map Diagnostic.kind))
      | none => .error .sink

/-- The answer to a question. -/
def answer (s : Store) (q : Query) : Reply :=
  match q.answer? s with
  | .ok reply => reply
  | .error what => .missing what

end Query

end Reclaim

import Reclaim.Config

/-!
# Output

The log and standard output of the process.

* `Output.log` : a log record, kept if the limit lets it pass;
* `Output.line` : a line of standard output;
* `Sink.deliver` : what a sink writes for a diagnostic.
-/

namespace Reclaim

/-- What has been logged and printed. -/
structure Output where
  /-- The least severe level that is logged; `none` logs nothing. -/
  limit : Option Level := none
  records : Array (Level × String) := #[]
  text : String := ""
deriving DecidableEq, Repr, Inhabited

namespace Output

/-- A record, if the limit lets it pass. -/
def log (o : Output) (level : Level) (text : String) : Output :=
  if level.passes o.limit then { o with records := o.records.push (level, text) } else o

/-- A line of standard output. -/
def line (o : Output) (text : String) : Output := { o with text := o.text ++ text ++ "\n" }

/-- The same limit with nothing written. -/
def cleared (o : Output) : Output := { limit := o.limit }

end Output

/-- What a sink writes for a diagnostic; a recorder writes nothing. -/
def Sink.deliver (sink : Sink) (o : Output) (d : Diagnostic) : Output :=
  match sink with
  | log => o.log d.level d.text
  | stdout => o.line d.text
  | silent => o
  | recorder .. => o

/-- What a sink writes for a list of diagnostics. -/
def Sink.deliverAll (sink : Sink) (o : Output) (ds : List Diagnostic) : Output :=
  ds.foldl sink.deliver o

end Reclaim

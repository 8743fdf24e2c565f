import Reclaim.Error
import Reclaim.Text.Blank

/-!
# Diagnostics modes

Where a guard's diagnostics go when nobody chose a sink by hand: to the log, to standard output,
or nowhere.

* `Mode.normalise` : the form in which a mode's name is compared and quoted;
* `Mode.parse` : the mode that a text names.
-/

namespace Reclaim

/-- Where diagnostics go. -/
inductive Mode where
  | log
  | stdout
  | off
deriving DecidableEq, Repr, Inhabited

namespace Mode

/-- The mode of a guard that nobody configured. -/
def standard : Mode := log

/-- The name of the mode. -/
def name : Mode → String
  | log => "Log"
  | stdout => "Stdout"
  | off => "Off"

/-- White space around a name and the case of ASCII letters do not count. -/
def normalise (text : String) : String :=
  Text.lowerAscii (Text.trim text)

/-- The mode with this normalised name. -/
def named? (name : String) : Option Mode :=
  if name = "log" then some log
  else if name = "stdout" then some stdout
  else if name = "off" ∨ name = "none" then some off
  else none

/-- The refusal of a name, quoted in its normalised form. -/
def unknown (name : String) : Error :=
  .invalidArgument "diagnostics"
    ("unknown diagnostics mode '" ++ name ++ "', expected log, stdout or off")

/-- The mode that a text names. -/
def parse (text : String) : Except Error Mode :=
  match named? (normalise text) with
  | some mode => .ok mode
  | none => .error (unknown (normalise text))

end Mode

end Reclaim

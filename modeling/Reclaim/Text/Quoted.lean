import Reclaim.Text.Unprintable

/-!
# Quoted texts and the layout of debug texts

* `Text.quote` : a text between double quotes, on one line whatever it holds;
* `Text.option` : an optional value, `None` or `Some(..)`;
* `Text.record`, `Text.openRecord` : a name with named fields, complete or with the rest left out.
-/

namespace Reclaim.Text

/-- A hexadecimal digit, in lower case. -/
def hexDigit (n : Nat) : Char :=
  if n < 10 then Char.ofNat (48 + n) else Char.ofNat (87 + n)

/-- A number in hexadecimal, without leading zeros. -/
def hex (n : Nat) : List Char :=
  if n < 16 then [hexDigit n] else hex (n / 16) ++ [hexDigit (n % 16)]

/-- How one character stands inside quotes: quote and backslash get a backslash, the usual control
characters their letters, and whatever cannot be seen its number. -/
def escapeChar (c : Char) : List Char :=
  if c = '"' then ['\\', '"']
  else if c = '\\' then ['\\', '\\']
  else if c = '\n' then ['\\', 'n']
  else if c = '\t' then ['\\', 't']
  else if c = '\r' then ['\\', 'r']
  else if c = '\x00' then ['\\', '0']
  else if isUnprintable c then ['\\', 'u', '\x7b'] ++ hex c.toNat ++ ['\x7d']
  else [c]

/-- The text between double quotes. -/
def quote (s : String) : String :=
  String.ofList ('"' :: s.toList.flatMap escapeChar ++ ['"'])

/-- An optional value, given the text of its content. -/
def option : Option String → String
  | none => "None"
  | some text => "Some(" ++ text ++ ")"

/-- `name: text` for each field, separated by commas. -/
def fields (fs : List (String × String)) : String :=
  ", ".intercalate (fs.map fun f => f.1 ++ ": " ++ f.2)

/-- A name with all its fields. -/
def record (name : String) (fs : List (String × String)) : String :=
  name ++ " \x7b " ++ fields fs ++ " \x7d"

/-- A name with some of its fields and dots for the others. -/
def openRecord (name : String) (fs : List (String × String)) : String :=
  let shown := if fs.isEmpty then "" else fields fs ++ ", "
  name ++ " \x7b " ++ shown ++ ".. \x7d"

end Reclaim.Text

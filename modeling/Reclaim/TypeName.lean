/-!
# Short type names

The label of a resource that belongs to a type is the type's own name, without the path in front of
it and without the arguments behind it.

* `TypeName.base` : the name up to its arguments;
* `TypeName.afterSeparator?` : what follows the last `::`;
* `TypeName.short` : both cuts.
-/

namespace Reclaim.TypeName

/-- The name up to the first `<`. -/
def base (full : List Char) : List Char := full.takeWhile (· != '<')

/-- What follows the last place where two colons stand side by side. -/
def afterSeparator? : List Char → Option (List Char)
  | [] => none
  | c :: rest =>
    match afterSeparator? rest with
    | some tail => some tail
    | none =>
      match rest with
      | [] => none
      | d :: tail => if c = ':' ∧ d = ':' then some tail else none

/-- The last segment of the path, on characters. -/
def shortChars (full : List Char) : List Char :=
  (afterSeparator? (base full)).getD (base full)

/-- The type's own name. -/
def short (full : String) : String := String.ofList (shortChars full.toList)

end Reclaim.TypeName

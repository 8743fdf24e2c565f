/-!
# White space and ASCII case

* `Text.isBlank` : the Unicode property White_Space;
* `Text.trim` : a text without the white space around it;
* `Text.lowerAscii` : the letters `A` to `Z` in lower case, every other character untouched.
-/

namespace Reclaim.Text

/-- The Unicode property White_Space. -/
def isBlank (c : Char) : Bool :=
  let n := c.toNat
  (9 ≤ n && n ≤ 13) || n == 0x20 || n == 0x85 || n == 0xA0 || n == 0x1680
    || (0x2000 ≤ n && n ≤ 0x200A) || n == 0x2028 || n == 0x2029 || n == 0x202F
    || n == 0x205F || n == 0x3000

/-- The characters between the first and the last that are not white space. -/
def trimChars (cs : List Char) : List Char :=
  ((cs.dropWhile isBlank).reverse.dropWhile isBlank).reverse

/-- The text without the white space around it. -/
def trim (s : String) : String :=
  String.ofList (trimChars s.toList)

/-- ASCII capitals in lower case; no other character changes. -/
def lowerAscii (s : String) : String :=
  String.ofList (s.toList.map Char.toLower)

end Reclaim.Text

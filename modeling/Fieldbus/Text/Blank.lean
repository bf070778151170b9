/-!
# Blank characters

White space as Unicode defines it (the property `White_Space`), and the trimming that goes by it.

* `isBlank`: membership in the property.
* `trim`, `trimEnd`: drop blank characters at both ends, or at the end only.
* `isBlankText`: nothing is left after trimming.
-/

namespace Fieldbus.Text

/-- The characters of the Unicode property `White_Space`. -/
def isBlank (c : Char) : Bool :=
  let n := c.toNat
  (0x9 ≤ n && n ≤ 0xD) || n == 0x20 || n == 0x85 || n == 0xA0 || n == 0x1680 ||
    (0x2000 ≤ n && n ≤ 0x200A) || n == 0x2028 || n == 0x2029 || n == 0x202F || n == 0x205F ||
    n == 0x3000

/-- The characters without the blank ones at the end. -/
def trimEndChars (cs : List Char) : List Char :=
  (cs.reverse.dropWhile isBlank).reverse

/-- The characters without the blank ones at either end. -/
def trimChars (cs : List Char) : List Char :=
  trimEndChars (cs.dropWhile isBlank)

/-- The text without blank characters at the end. -/
def trimEnd (s : String) : String :=
  String.ofList (trimEndChars s.toList)

/-- The text without blank characters at either end. -/
def trim (s : String) : String :=
  String.ofList (trimChars s.toList)

/-- Whether a text holds blank characters only. -/
def isBlankText (s : String) : Bool :=
  s.toList.all isBlank

end Fieldbus.Text

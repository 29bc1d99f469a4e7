/-!
# Blank characters

White space in two senses: the wide one of Unicode, which is what is trimmed off both ends of a
text, and the five ASCII characters that may stand between the parts of a value.
Specification: `SPEC_FULL.md` §9.
-/

namespace DebugProbe

namespace Blank

/-- Whether a character has the Unicode property White_Space. -/
def isSpace (c : Char) : Bool :=
  let code := c.toNat
  (9 ≤ code && code ≤ 13) || code == 0x20 || code == 0x85 || code == 0xA0 || code == 0x1680 ||
    (0x2000 ≤ code && code ≤ 0x200A) || code == 0x2028 || code == 0x2029 || code == 0x202F ||
    code == 0x205F || code == 0x3000

/-- Space, tabulator, line feed, form feed or carriage return. -/
def isAsciiSpace (c : Char) : Bool :=
  c == ' ' || c == '\t' || c == '\n' || c == '\x0C' || c == '\r'

/-- The text without white space at either end. -/
def trim (text : List Char) : List Char :=
  ((text.dropWhile isSpace).reverse.dropWhile isSpace).reverse

end Blank

end DebugProbe

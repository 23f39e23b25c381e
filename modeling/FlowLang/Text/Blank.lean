/-!
# Blank characters

What counts as white space when a text is trimmed. There are two classes: the characters with the Unicode
property White_Space, and these together with the four information separators. Source lines are trimmed of
the second class, numerals in settings of the first.
-/

namespace FlowLang.Text

/-- The character has the Unicode property White_Space. -/
def isSpace (c : Char) : Bool :=
  let n := c.toNat
  (0x09 ≤ n && n ≤ 0x0D) || n == 0x20 || n == 0x85 || n == 0xA0 || n == 0x1680
    || (0x2000 ≤ n && n ≤ 0x200A) || n == 0x2028 || n == 0x2029 || n == 0x202F || n == 0x205F || n == 0x3000

/-- The character is one of the information separators U+001C to U+001F. -/
def isSeparator (c : Char) : Bool :=
  0x1C ≤ c.toNat && c.toNat ≤ 0x1F

/-- The character is removed from both ends of a source line. -/
def isBlank (c : Char) : Bool :=
  isSpace c || isSeparator c

end FlowLang.Text

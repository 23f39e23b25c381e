import FlowLang.Text.Digits
import FlowLang.Text.Printable

/-!
# Quoted texts

A text between quotation marks on one line. The mark is the apostrophe, or the double quote for a text that has
apostrophes and no double quotes. The backslash and the mark in use are written behind a backslash, tabulator and
line ends by their letters, and other unprintable characters by their code point in base sixteen.
-/

namespace FlowLang.Text

/-- The character that a quoted text usually stands between. -/
def apostrophe : Char := '\x27'

/-- The character that a text with apostrophes stands between. -/
def doubleQuote : Char := '\x22'

/-- The quotation mark for a text. -/
def quoteMark (t : Text) : Char :=
  if t.contains apostrophe && !t.contains doubleQuote then doubleQuote else apostrophe

/-- One character of a text between two marks. -/
def escape (mark c : Char) : Text :=
  if c = '\\' || c = mark then ['\\', c]
  else if c = '\t' then "\\t".toList
  else if c = '\n' then "\\n".toList
  else if c = '\r' then "\\r".toList
  else if isPrintable c then [c]
  else if c.toNat < 0x100 then "\\x".toList ++ hex 2 c.toNat
  else if c.toNat < 0x10000 then "\\u".toList ++ hex 4 c.toNat
  else "\\U".toList ++ hex 8 c.toNat

/-- The text between quotation marks. -/
def quoted (t : Text) : Text :=
  let mark := quoteMark t
  mark :: t.flatMap (escape mark) ++ [mark]

end FlowLang.Text

import FlowLang.Json.Basic

/-!
# Writing JSON

A value as JSON on one line, without spaces. Quotes, backslashes and control characters in texts are escaped, all other
characters stand as themselves.
-/

namespace FlowLang.Json

open Text

/-- One character of a text. -/
def writeChar (c : Char) : Text :=
  if c = '"' || c = '\\' then ['\\', c]
  else if c.toNat < 0x20 then "\\u".toList ++ hex 4 c.toNat
  else [c]

/-- A text between double quotes. -/
def writeText (t : Text) : Text :=
  '"' :: t.flatMap writeChar ++ ['"']

/-- One letter of a text that may hold halves of surrogate pairs. -/
def writeLetter : Letter → Text
  | .char c => writeChar c
  | .half unit => "\\u".toList ++ hex 4 unit

/-- A text that may hold halves of surrogate pairs, between double quotes. -/
def writeLoose (t : LooseText) : Text :=
  '"' :: t.letters.flatMap writeLetter ++ ['"']

mutual

/-- A value as JSON. -/
def write : Json → Text
  | .null => "null".toList
  | .bool b => if b then "true".toList else "false".toList
  | .int i => ofInt i
  | .float .notANumber => "NaN".toList
  | .float (.infinity negative) => if negative then "-Infinity".toList else "Infinity".toList
  | .float x => x.exact
  | .text t => writeText t
  | .loose t => writeLoose t
  | .array items => "[".toList ++ joinWith ",".toList (writeItems items) ++ "]".toList
  | .object members => "\x7b".toList ++ joinWith ",".toList (writeMembers members) ++ "\x7d".toList

/-- The values of an array as JSON. -/
def writeItems : List Json → List Text
  | [] => []
  | item :: rest => item.write :: writeItems rest

/-- The members of an object as JSON. -/
def writeMembers : List (Text × Json) → List Text
  | [] => []
  | (name, value) :: rest => (writeText name ++ ":".toList ++ value.write) :: writeMembers rest

end

end FlowLang.Json

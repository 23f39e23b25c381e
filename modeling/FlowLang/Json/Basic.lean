import FlowLang.Decimal.Basic
import FlowLang.Text.Loose
import FlowLang.Text.Quoted

/-!
# Values

The values that a JSON text can stand for. Whole numbers and numbers with a fraction or an exponent are told apart, and
an object keeps its members in order. `display` writes a value on one line for messages.
-/

namespace FlowLang

open Text

/-- A JSON value. -/
inductive Json where
  | null
  | bool (b : Bool)
  | int (i : Int)
  | float (x : Binary64)
  | text (t : Text)
  /-- a text with halves of surrogate pairs -/
  | loose (t : LooseText)
  | array (items : List Json)
  | object (members : List (Text × Json))

namespace Json

/-- The value that a text is, with halves of surrogate pairs or without. -/
def ofLoose (t : LooseText) : Json :=
  match t.text? with
  | some s => .text s
  | none => .loose t

/-- The value of the last member with a name, for an object. -/
def member? (name : Text) : Json → Option Json
  | .object members => (members.reverse.find? fun m => m.1 == name).map Prod.snd
  | _ => none

mutual

/-- A value on one line: texts quoted, truth values capitalised, `None` for null. -/
def display : Json → Text
  | .null => "None".toList
  | .bool b => if b then "True".toList else "False".toList
  | .int i => ofInt i
  | .float x => x.exact
  | .text t => quoted t
  | .loose t => quoted t.shown
  | .array items => "[".toList ++ joinWith ", ".toList (displayItems items) ++ "]".toList
  | .object members => "\x7b".toList ++ joinWith ", ".toList (displayMembers members) ++ "\x7d".toList

/-- The values of an array, each on one line. -/
def displayItems : List Json → List Text
  | [] => []
  | item :: rest => item.display :: displayItems rest

/-- The members of an object, each as its name and its value. -/
def displayMembers : List (Text × Json) → List Text
  | [] => []
  | (name, value) :: rest => (quoted name ++ ": ".toList ++ value.display) :: displayMembers rest

end

end Json

end FlowLang

import FlowLang.Text.Basic

/-!
# Signatures

The head of a function definition, `name(a, b)`. Reading one never fails: without an opening parenthesis the whole
text is the name, without a closing one the parameters run to the end, and blank parameters are dropped.
-/

namespace FlowLang

open Text

/-- The name of a function and the names of its parameters. -/
structure Signature where
  name : Text
  params : List Text
  deriving DecidableEq, Repr

namespace Signature

/-- The parameters between commas, trimmed, without the blank ones. -/
def parseParams (t : Text) : List Text :=
  ((splitOn ',' t).map trim).filter (!·.isEmpty)

/-- Reads a signature. The parameters stand between the first opening and the first closing parenthesis of the text,
so there are none when a closing one comes first. -/
def parse (text : Text) : Signature :=
  let t := trim text
  let name := t.takeWhile (· != '(')
  match t.dropWhile (· != '(') with
  | [] => ⟨t, []⟩
  | _ :: rest => ⟨trim name, if name.contains ')' then [] else parseParams (rest.takeWhile (· != ')'))⟩

/-- The signature as it is declared in C++, every type left to deduction. -/
def declaration (s : Signature) : Text :=
  "auto ".toList ++ s.name ++ "(".toList
    ++ joinWith ", ".toList (s.params.map ("auto ".toList ++ ·)) ++ ")".toList

/-- The declaration with the brace that opens the body of the function. -/
def opening (s : Signature) : Text :=
  s.declaration ++ " \x7b".toList

end Signature

end FlowLang

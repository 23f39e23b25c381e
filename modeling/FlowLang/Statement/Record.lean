import FlowLang.Statement.Basic
import FlowLang.Text.Quoted

/-!
# Statements as records

A statement written on one line as the name of its kind with its fields in parentheses, texts quoted and the line
number last: `Say(expr='1', line=1)`.
-/

namespace FlowLang

open Text

/-- The name of the statement's kind. -/
def Statement.kind : Statement → Text
  | .comment _ => "Comment".toList
  | .blockEnd => "End".toList
  | .define _ => "FunctionDef".toList
  | .returnValue _ => "Return".toList
  | .say _ => "Say".toList
  | .bind _ _ => "Let".toList
  | .dropped _ => "Dropped".toList
  | .ifThen _ => "If".toList
  | .elseBranch => "Else".toList
  | .loopTimes _ => "Loop".toList
  | .whileDo _ => "While".toList
  | .grow _ => "Grow".toList
  | .breakLoop => "Break".toList
  | .continueLoop => "Continue".toList
  | .expression _ => "ExprStmt".toList

/-- A field of a record: a text or a sequence of texts. -/
inductive FieldValue where
  | text (t : Text)
  | texts (ts : List Text)
  deriving DecidableEq, Repr

/-- The statement's fields with their names, in order. -/
def Statement.fields : Statement → List (Text × FieldValue)
  | .comment text | .dropped text => [("text".toList, .text text)]
  | .define s => [("name".toList, .text s.name), ("params".toList, .texts s.params)]
  | .returnValue e | .say e | .expression e => [("expr".toList, .text e)]
  | .bind name value => [("name".toList, .text name), ("expr".toList, .text value)]
  | .ifThen c | .whileDo c => [("condition".toList, .text c)]
  | .loopTimes n => [("count".toList, .text n)]
  | .grow name => [("var".toList, .text name)]
  | .blockEnd | .elseBranch | .breakLoop | .continueLoop => []

/-- A sequence in parentheses; a single member is followed by a comma. -/
def writeSequence (members : List Text) : Text :=
  match members with
  | [m] => "(".toList ++ m ++ ",)".toList
  | ms => "(".toList ++ joinWith ", ".toList ms ++ ")".toList

/-- The value of a field with its texts quoted. -/
def FieldValue.write : FieldValue → Text
  | .text t => quoted t
  | .texts ts => writeSequence (ts.map quoted)

/-- The record of a statement. -/
def Numbered.record (s : Numbered) : Text :=
  let written := s.statement.fields.map fun f => f.1 ++ "=".toList ++ f.2.write
  s.statement.kind ++ "(".toList
    ++ joinWith ", ".toList (written ++ ["line=".toList ++ ofInt s.line]) ++ ")".toList

end FlowLang

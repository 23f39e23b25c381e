import FlowLang.Statement.Signature

/-!
# Statements

Flow is a language of lines: every line that is not blank is one statement, recognised by how it starts and ends. The
statement keeps the texts that its C++ form needs and nothing else; where a line stands in its program is recorded
beside it (`Numbered`).
-/

namespace FlowLang

open Text

/-- A statement of Flow. -/
inductive Statement where
  /-- `-- text` -/
  | comment (text : Text)
  /-- `end`, which closes the innermost block -/
  | blockEnd
  /-- `define name(a, b)` -/
  | define (signature : Signature)
  /-- `return value` -/
  | returnValue (value : Text)
  /-- `say value` -/
  | say (value : Text)
  /-- `let name = value` -/
  | bind (name value : Text)
  /-- `let` without an equals sign; such a line is kept but has no meaning -/
  | dropped (text : Text)
  /-- `if condition then` -/
  | ifThen (condition : Text)
  /-- `else` -/
  | elseBranch
  /-- `loop count times` -/
  | loopTimes (count : Text)
  /-- `while condition do` -/
  | whileDo (condition : Text)
  /-- `grow name` -/
  | grow (name : Text)
  /-- `break` -/
  | breakLoop
  /-- `continue` -/
  | continueLoop
  /-- any other line -/
  | expression (text : Text)
  deriving DecidableEq, Repr

/-- A statement with the number of the line that it stands on. -/
structure Numbered where
  line : Int
  statement : Statement
  deriving DecidableEq, Repr

namespace Statement

/-- The statement opens a block that a later `end` closes. -/
def opensBlock : Statement → Bool
  | .define _ | .ifThen _ | .loopTimes _ | .whileDo _ => true
  | _ => false

/-! ## Forms

Every form of a statement but the last is recognised on its own: by a word that is the whole line, by a word that the
line starts with, or by two words around a text.
-/

/-- The whole line is `word`. -/
def wholeLine? (word : String) (s : Statement) (line : Text) : Option Statement :=
  if line = word.toList then some s else none

/-- The line starts with `lead`; the statement is made of the rest. -/
def leading? (lead : String) (make : Text → Statement) (line : Text) : Option Statement :=
  (after? lead.toList line).map make

/-- The line starts with `lead` and ends with `tail`; the statement is made of the trimmed text between. -/
def enclosed? (lead tail : String) (make : Text → Statement) (line : Text) : Option Statement :=
  (between? lead.toList tail.toList line).map fun text => make (trim text)

/-- What stands behind `let `: a name and a value around the first equals sign. Without one the whole line is
dropped. -/
def ofBinding (line binding : Text) : Statement :=
  match cut? "=".toList binding with
  | some (name, value) => .bind (trim name) (trim value)
  | none => .dropped line

/-- The structured forms of a line, in the order in which they are tried. -/
def forms : List (Text → Option Statement) :=
  [leading? "--" fun text => .comment (trim text),
   wholeLine? "end" .blockEnd,
   leading? "define " fun text => .define (.parse text),
   leading? "return " .returnValue,
   leading? "say " .say,
   fun line => leading? "let " (ofBinding line) line,
   enclosed? "if " "then" .ifThen,
   wholeLine? "else" .elseBranch,
   enclosed? "loop " "times" .loopTimes,
   enclosed? "while " "do" .whileDo,
   leading? "grow " fun text => .grow (trim text),
   wholeLine? "break" .breakLoop,
   wholeLine? "continue" .continueLoop]

/-- The statement on a line: the first structured form that it has, else an expression. -/
def ofLine (line : Text) : Statement :=
  (forms.findSome? (· line)).getD (.expression line)

end Statement

/-- The statements of lines of which the first has the number `first`; blank lines have none. -/
def statementsFrom (first : Int) : List Text → List Numbered
  | [] => []
  | raw :: rest =>
    if (trim raw).isEmpty then statementsFrom (first + 1) rest
    else ⟨first, .ofLine (trim raw)⟩ :: statementsFrom (first + 1) rest

/-- The statements of a program, its lines counted from one. -/
def statements (source : Text) : List Numbered :=
  statementsFrom 1 (lines source)

end FlowLang

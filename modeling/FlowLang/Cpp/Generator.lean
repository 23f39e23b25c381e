import FlowLang.Cpp.Expression
import FlowLang.Cpp.Scope
import FlowLang.Statement.Basic

/-!
# Generation

The program is translated one statement at a time. What a statement is written as depends on the statement alone
(`Statement.code?`); the scope only decides into which buffer and how far indented it goes.
-/

namespace FlowLang

open Text Cpp

/-- The code around the code of an expression. -/
def Cpp.Code.wrap (before after : String) (c : Code) : Code :=
  { c with text := before.toList ++ c.text ++ after.toList }

/-- The factor by which `grow` multiplies. It is not written like the golden ratio in an expression. -/
def growFactor : Text := "1.618033988749895".toList

/-- The line of C++ for a statement, with the headers that it needs. A dropped line has none. -/
def Statement.code? : Statement → Option Code
  | .comment text => some { text := "// ".toList ++ text }
  | .blockEnd => some { text := "\x7d".toList }
  | .define signature => some { text := signature.opening }
  | .returnValue value => some ((translate value).wrap "return " ";")
  | .say value =>
    let code := (translate value).wrap "std::cout << " " << std::endl;"
    some { code with headers := { iostream := true : Headers }.union code.headers }
  | .bind name value =>
    let code := translate value
    some { code with text := "auto ".toList ++ name ++ " = ".toList ++ code.text ++ ";".toList }
  | .dropped _ => none
  | .ifThen condition => some ((translate condition).wrap "if (" ") \x7b")
  | .elseBranch => some { text := "\x7d else \x7b".toList }
  | .loopTimes count => some ((translate count).wrap "for (int _i = 0; _i < " "; _i++) \x7b")
  | .whileDo condition => some ((translate condition).wrap "while (" ") \x7b")
  | .grow name => some { text := name ++ " *= ".toList ++ growFactor ++ ";".toList }
  | .breakLoop => some { text := "break;".toList }
  | .continueLoop => some { text := "continue;".toList }
  | .expression text => some ((translate text).wrap "" ";")

/-- The headers that a statement needs. -/
def Statement.headers (s : Statement) : Headers :=
  match s.code? with
  | some code => code.headers
  | none => .none

/-- The line of C++ for a statement; no line for a dropped one. -/
def Statement.code (s : Statement) : List Text :=
  (s.code?.map Code.text).toList

namespace Cpp

/-- Goes back to the main program when the last block of a function has been closed. -/
def Scope.leaveFunction (s : Scope) : Scope :=
  match s.mode, s.blocks with
  | .function, [] => s.endFunction
  | _, _ => s

/-- Writes the lines one after another. -/
def Scope.emitAll (s : Scope) (texts : List Text) : Scope :=
  texts.foldl Scope.emit s

/-- Takes a statement into the scope: writes its line, and opens and closes blocks as the statement does. -/
def Scope.place (s : Scope) (n : Numbered) : Scope :=
  let code := n.statement.code
  match n.statement with
  | .blockEnd => (s.closeBlock.emitAll code).leaveFunction
  | .define signature => s.beginFunction signature.opening n.line
  | .ifThen _ => (s.emitAll code).openBlock .ifThen n.line
  | .elseBranch => (s.closeBlock.emitAll code).openBlock .elseBranch n.line
  | .loopTimes _ => (s.emitAll code).openBlock .loopTimes n.line
  | .whileDo _ => (s.emitAll code).openBlock .whileDo n.line
  | _ => s.emitAll code

/-- A generation in progress: the headers needed so far, and the scope with what has been written. -/
structure Generator where
  headers : Headers
  scope : Scope
  deriving DecidableEq, Repr

namespace Generator

/-- Nothing translated yet. -/
def initial : Generator :=
  ⟨.none, .initial⟩

/-- Translates one statement. -/
def step (g : Generator) (n : Numbered) : Generator :=
  ⟨g.headers.union n.statement.headers, g.scope.place n⟩

/-- Translates statements one after another. -/
def run (g : Generator) (ns : List Numbered) : Generator :=
  ns.foldl step g

/-- The lines of the whole program: a title, the headers, the functions, and the main program. -/
def outputLines (g : Generator) : List Text :=
  "// Generated by flowc — the Flow compiler".toList :: g.headers.lines
    ++ [] :: g.scope.functionLines
    ++ "int main() \x7b".toList :: g.scope.mainLines
    ++ ["    return 0;".toList, "\x7d".toList]

/-- The text of the whole program, each line ended by a line feed. -/
def assemble (g : Generator) : Text :=
  joinWith "\n".toList g.outputLines ++ "\n".toList

/-- Translates a program on top of what has been translated before, and gives the whole text. -/
def generate (g : Generator) (source : Text) : Generator × Text :=
  let after := g.run (statements source)
  (after, after.assemble)

end Generator

end Cpp

/-- The C++ program for a Flow program. -/
def transpile (source : Text) : Text :=
  (Generator.initial.generate source).2

end FlowLang

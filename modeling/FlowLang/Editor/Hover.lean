import FlowLang.Cpp.Generator
import FlowLang.Editor.Position
import FlowLang.Statement.Record

/-!
# Hovers

What an editor shows about a line: the kind of its statement and the C++ that it becomes, as it would be written at the
top of the main program.
-/

namespace FlowLang.Editor

open Text Cpp

/-- What an editor shows about a part of a document. -/
structure Hover where
  value : Text
  range : Range
  deriving DecidableEq, Repr

/-- The C++ lines for a line of Flow, without indentation. -/
def preview (line : Text) : List Text :=
  let scope := (Generator.initial.step ⟨0, .ofLine line⟩).scope
  ((scope.functionLines ++ scope.mainLines).map trim).filter (!·.isEmpty)

/-- The kind of a statement in bold, and below it the C++ in a code block. -/
def describe (kind : Text) (cpp : List Text) : Text :=
  "**".toList ++ kind ++ "**".toList ++
    if cpp.isEmpty then "\n\n_(emits nothing)_".toList
    else "\n```cpp\n".toList ++ joinWith "\n".toList cpp ++ "\n```".toList

/-- What to show at a position: nothing beyond the last line and on blank lines. -/
def hover (source : Text) (p : Position) : Option Hover :=
  match (lines source)[p.line]? with
  | none => none
  | some raw =>
    let line := trim raw
    if line.isEmpty then none
    else
      let indent := raw.length - (trimLeft raw).length
      some ⟨describe (Statement.ofLine line).kind (preview line), .onLine p.line indent (indent + line.length)⟩

end FlowLang.Editor

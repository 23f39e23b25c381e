import FlowLang.Editor.Position
import FlowLang.Text.Word

/-!
# Completions

The words that an editor offers at a position: the keywords of Flow and its built-in values, as far as they start with
the word being typed.
-/

namespace FlowLang.Editor

open Text

/-- What kind of word is offered. -/
inductive WordKind where
  | keyword
  | value
  deriving DecidableEq, Repr

/-- A word that can be offered. -/
structure Completion where
  word : Text
  kind : WordKind
  detail : Text
  deriving DecidableEq, Repr

/-- The keywords with what they do. -/
def keywords : List (String × String) :=
  [("say", "Print a value followed by a newline"),
   ("let", "Bind a name: let x = value"),
   ("if", "Conditional block: if cond then ... end"),
   ("then", "Ends the condition of an if"),
   ("else", "Alternative branch of an if"),
   ("end", "Close the innermost block"),
   ("loop", "Repeat a block: loop n times ... end"),
   ("times", "Ends the count of a loop"),
   ("while", "Loop while a condition holds: while cond do ... end"),
   ("do", "Ends the condition of a while"),
   ("define", "Define a function: define name(a, b) ... end"),
   ("return", "Return a value from a function"),
   ("grow", "Multiply a variable in place by the golden ratio"),
   ("break", "Leave the innermost loop"),
   ("continue", "Skip to the next loop iteration"),
   ("and", "Logical and"),
   ("or", "Logical or"),
   ("not", "Logical negation")]

/-- The built-in values with what they are. -/
def builtins : List (String × String) :=
  [("phi", "The golden ratio, 1.6180339887498948"),
   ("true", "Boolean literal true"),
   ("false", "Boolean literal false")]

/-- All words, the keywords first. -/
def vocabulary : List Completion :=
  keywords.map (fun w => ⟨w.1.toList, .keyword, w.2.toList⟩)
    ++ builtins.map (fun w => ⟨w.1.toList, .value, w.2.toList⟩)

/-- The word being typed at the end of a text: its longest end of word characters. -/
def typedWord (before : Text) : Text :=
  (before.reverse.takeWhile isWord).reverse

/-- The words that start with what is being typed at a position. Beyond the last line nothing is. -/
def complete (source : Text) (p : Position) : List Completion :=
  let line := ((lines source)[p.line]?).getD []
  let typed := typedWord (line.take p.character)
  vocabulary.filter fun c => typed.isPrefixOf c.word

end FlowLang.Editor

import FlowLang.Editor.Position
import FlowLang.Statement.Basic

/-!
# Outlines

The functions of a document, one symbol for each definition. A symbol spans from the line of its `define` to the `end`
that closes it, to the line before the next definition if that one comes first, or to the end of the document.
-/

namespace FlowLang.Editor

open Text

/-- A function in the outline of a document. -/
structure Symbol where
  name : Text
  detail : Text
  range : Range
  /-- the name on the line of the definition -/
  selection : Range
  deriving DecidableEq, Repr

/-- A definition and the line that it stands on, counted from one. -/
structure Definition where
  line : Int
  signature : Signature
  deriving DecidableEq, Repr

/-- The text of a line counted from zero, empty beyond the last. -/
def lineAt (lines : List Text) (index : Nat) : Text :=
  (lines[index]?).getD []

namespace Definition

/-- The definition's line counted from zero. -/
def index (d : Definition) : Nat :=
  (d.line - 1).toNat

/-- From the start of the definition's line to the end of line `last`, which is counted from one. -/
def rangeTo (lines : List Text) (d : Definition) (last : Int) : Range :=
  let stop := (min last lines.length - 1).toNat
  ⟨⟨d.index, 0⟩, ⟨stop, (lineAt lines stop).length⟩⟩

/-- The column of the name: its first occurrence behind the word `define`. -/
def nameColumn (text name : Text) : Nat :=
  let behind := match position? "define".toList text with
    | some column => column + "define".length
    | none => "define".length - 1
  match position? name (text.drop behind) with
  | some column => behind + column
  | none => 0

/-- The definition's name on its line. -/
def selection (lines : List Text) (d : Definition) : Range :=
  let column := nameColumn (lineAt lines d.index) d.signature.name
  .onLine d.index column (column + d.signature.name.length)

/-- The symbol of a definition that ends on line `last`. -/
def symbol (lines : List Text) (d : Definition) (last : Int) : Symbol where
  name := d.signature.name
  detail := d.signature.declaration
  range := d.rangeTo lines last
  selection := d.selection lines

end Definition

/-- An outline in progress: the definition that is open, how many blocks are open in it, and the symbols found. -/
structure Outline where
  current : Option Definition
  depth : Nat
  symbols : List Symbol
  deriving DecidableEq, Repr

namespace Outline

/-- Nothing found yet. -/
def initial : Outline :=
  ⟨none, 0, []⟩

/-- The open definition ends on line `last`. -/
def close (lines : List Text) (o : Outline) (last : Int) : Outline :=
  match o.current with
  | some d => ⟨none, 0, o.symbols ++ [d.symbol lines last]⟩
  | none => o

/-- Takes one statement into the outline. -/
def step (lines : List Text) (o : Outline) (n : Numbered) : Outline :=
  match n.statement with
  | .define signature => { o.close lines (n.line - 1) with current := some ⟨n.line, signature⟩, depth := 1 }
  | .blockEnd =>
    if o.current.isSome then
      if o.depth ≤ 1 then o.close lines n.line else { o with depth := o.depth - 1 }
    else o
  | s => if o.current.isSome && s.opensBlock then { o with depth := o.depth + 1 } else o

/-- Takes statements into the outline one after another. -/
def run (lines : List Text) (o : Outline) (ns : List Numbered) : Outline :=
  ns.foldl (step lines) o

end Outline

/-- The functions of a document in order. -/
def symbols (source : Text) : List Symbol :=
  let all := lines source
  (((Outline.initial.run all (statements source))).close all all.length).symbols

end FlowLang.Editor

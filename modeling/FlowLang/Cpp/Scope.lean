import FlowLang.Text.Basic

/-!
# Scopes and buffers

Generated lines go to one of two buffers: function definitions are collected ahead of the main program, everything else
goes into its body. A line is indented by four spaces for each open block.
-/

namespace FlowLang.Cpp

/-- Which of the two buffers takes the lines. -/
inductive Mode where
  | main
  | function
  deriving DecidableEq, Repr

/-- What an open block belongs to. -/
inductive BlockKind where
  | main
  | function
  | ifThen
  | elseBranch
  | loopTimes
  | whileDo
  deriving DecidableEq, Repr

/-- An open block and the line that opened it. -/
structure Block where
  kind : BlockKind
  line : Int
  deriving DecidableEq, Repr

/-- The open blocks, the innermost first, and the two buffers. -/
structure Scope where
  mode : Mode
  blocks : List Block
  functionLines : List Text
  mainLines : List Text
  deriving DecidableEq, Repr

namespace Scope

/-- Nothing written yet, inside the body of the main program. -/
def initial : Scope :=
  ⟨.main, [⟨.main, 0⟩], [], []⟩

/-- The number of open blocks. -/
def depth (s : Scope) : Nat :=
  s.blocks.length

/-- A line behind four spaces for each level. -/
def indented (level : Nat) (text : Text) : Text :=
  List.replicate (4 * level) ' ' ++ text

/-- Writes one line at the present depth into the present buffer. -/
def emit (s : Scope) (text : Text) : Scope :=
  match s.mode with
  | .main => { s with mainLines := s.mainLines ++ [indented s.depth text] }
  | .function => { s with functionLines := s.functionLines ++ [indented s.depth text] }

/-- Opens a block inside the present ones. -/
def openBlock (s : Scope) (kind : BlockKind) (line : Int) : Scope :=
  { s with blocks := ⟨kind, line⟩ :: s.blocks }

/-- Closes the innermost block; with nothing open nothing changes. -/
def closeBlock (s : Scope) : Scope :=
  { s with blocks := s.blocks.tail }

/-- Starts a function definition. One already in progress is abandoned: its open blocks are forgotten and their braces
stay unclosed. -/
def beginFunction (s : Scope) (header : Text) (line : Int) : Scope :=
  ({ s with mode := .function, blocks := [] }.emit header).openBlock .function line

/-- Goes back to the main program, a blank line after the definition. -/
def endFunction (s : Scope) : Scope :=
  { s with mode := .main, functionLines := s.functionLines ++ [[]] }

end Scope

end FlowLang.Cpp

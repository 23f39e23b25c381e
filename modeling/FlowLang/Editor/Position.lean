import FlowLang.Json.Basic

/-!
# Positions

A place in a document: a line and a character on it, both counted from zero. Editors send them as numbers, which have
to fit in 31 bits.
-/

namespace FlowLang.Editor

open Text

/-- A place in a document. -/
structure Position where
  line : Nat
  character : Nat
  deriving DecidableEq, Repr

/-- The part of a document between two places. -/
structure Range where
  start : Position
  stop : Position
  deriving DecidableEq, Repr

/-- A part of a line. -/
def Range.onLine (line first last : Nat) : Range :=
  ⟨⟨line, first⟩, ⟨line, last⟩⟩

/-- One of the two numbers of a position. -/
inductive Coordinate where
  | line
  | character
  deriving DecidableEq, Repr

/-- The name of the number. -/
def Coordinate.name : Coordinate → Text
  | .line => "line".toList
  | .character => "character".toList

/-- A number of a position is no whole number from 0 to 2^31 - 1. -/
structure OutOfRange where
  coordinate : Coordinate
  given : Json

/-- A refused number as it is named in the message. A text stands there as itself. -/
def OutOfRange.shown (e : OutOfRange) : Text :=
  match e.given with
  | .text t => t
  | v => v.display

/-- The wording of a refusal. -/
def OutOfRange.message (e : OutOfRange) : Text :=
  "Position.".toList ++ e.coordinate.name ++ " should be in range [0:2147483647], but was ".toList
    ++ e.shown ++ ".".toList

/-- The number that a coordinate stands for; a truth value counts as one or zero. -/
def coordinate (c : Coordinate) (given : Json) : Except OutOfRange Nat :=
  match given with
  | .int i => if 0 ≤ i ∧ i < Int.pow 2 31 then .ok i.toNat else .error ⟨c, given⟩
  | .bool b => .ok b.toNat
  | _ => .error ⟨c, given⟩

/-- The position with the given numbers. The line is looked at first. -/
def Position.ofValues (line character : Json) : Except OutOfRange Position :=
  match coordinate .line line with
  | .error e => .error e
  | .ok l =>
    match coordinate .character character with
    | .error e => .error e
    | .ok c => .ok ⟨l, c⟩

end FlowLang.Editor

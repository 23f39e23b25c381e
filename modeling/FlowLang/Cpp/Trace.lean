import FlowLang.Cpp.Generator
import FlowLang.Json.Basic

/-!
# Traces

What a generation does at each statement: the lines that it adds to the two buffers, and the state that it leaves. A
trace also takes values that are no statement; such a value is refused and changes nothing.
-/

namespace FlowLang.Cpp

open Text

/-- What can be handed to a generation. -/
inductive Input where
  | statement (n : Numbered)
  | other (value : Json)

/-- A value that is no statement was handed to a generation. -/
structure Unhandled where
  value : Json

/-- The wording of a refusal. -/
def Unhandled.message (u : Unhandled) : Text :=
  "Unhandled statement: ".toList ++ u.value.display

/-- What one statement did to a generation. -/
structure TraceStep where
  /-- the lines added to the functions -/
  function : List Text
  /-- the lines added to the main program -/
  main : List Text
  /-- the generation afterwards -/
  after : Generator

namespace Generator

/-- Translates one input. -/
def take (g : Generator) : Input → Except Unhandled Generator
  | .statement n => .ok (g.step n)
  | .other value => .error ⟨value⟩

/-- What the step from one generation to a later one added. -/
def stepBetween (before after : Generator) : TraceStep where
  function := after.scope.functionLines.drop before.scope.functionLines.length
  main := after.scope.mainLines.drop before.scope.mainLines.length
  after := after

/-- The steps of a generation and where it ends. -/
def trace (g : Generator) : List Input → List (Except Unhandled TraceStep) × Generator
  | [] => ([], g)
  | input :: rest =>
    match g.take input with
    | .ok after =>
      let (steps, last) := after.trace rest
      (.ok (g.stepBetween after) :: steps, last)
    | .error e =>
      let (steps, last) := g.trace rest
      (.error e :: steps, last)

end Generator

end FlowLang.Cpp

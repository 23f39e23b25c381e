import FlowLang.Cpp.Header
import FlowLang.Decimal.Numeral

/-!
# Expressions

How the text of a Flow expression becomes the text of a C++ expression. A few forms are recognised as a whole: the
golden ratio, a quoted text, a truth value, a numeral. The power operator, the only one with structure, splits the
expression at its first occurrence. Everything else passes through with the worded operators spelled as symbols.
-/

namespace FlowLang.Cpp

open Text

/-- The golden ratio as written for `phi`. -/
def phiLiteral : Text := "1.6180339887498948".toList

/-- The text starts and ends with a double quote; a single one does both. -/
def isQuoted (t : Text) : Bool :=
  t.head? == some '"' && t.getLast? == some '"'

/-- The text is one of the two truth values. -/
def isTruthValue (t : Text) : Bool :=
  t == "true".toList || t == "false".toList

/-- The worded operators spelled as symbols: first every ` and `, then every ` or `, then every `not `. -/
def spellOperators (t : Text) : Text :=
  replaceAll "not ".toList "!".toList
    (replaceAll " or ".toList " || ".toList
      (replaceAll " and ".toList " && ".toList t))

/-- The power operator with the spaces that it needs around it. -/
def powerMark : Text := " ^ ".toList

/-- The call that raises one piece of code to the power of another. -/
def power (base exponent : Code) : Code where
  text := "std::pow(".toList ++ base.text ++ ", ".toList ++ exponent.text ++ ")".toList
  headers := { cmath := true : Headers }.union (base.headers.union exponent.headers)

/-- The C++ form of an expression without blanks around it. -/
def translateTrimmed (t : Text) : Code :=
  if t = "phi".toList then { text := phiLiteral }
  else if isQuoted t then
    { text := "std::string(".toList ++ t ++ ")".toList, headers := { string := true } }
  else if isTruthValue t then { text := t }
  else if isNumeral t then { text := t }
  else
    match _cut : cut? powerMark t with
    | some (base, exponent) => power (translateTrimmed (trim base)) (translateTrimmed (trim exponent))
    | none => { text := spellOperators t }
termination_by t.length
decreasing_by
  all_goals
    have := length_of_cut? _cut
    have := length_trim_le base
    have := length_trim_le exponent
    have : powerMark.length = 3 := rfl
    omega

/-- The C++ form of an expression. -/
def translate (expression : Text) : Code :=
  translateTrimmed (trim expression)

end FlowLang.Cpp

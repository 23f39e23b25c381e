import FlowLang.Text.Digits

/-!
# Issues

What can be wrong with a value that was given from outside, and where in the given data it stands. Each kind of issue
has a short code and a sentence.
-/

namespace FlowLang

open Text

/-- What is wrong with a value. -/
inductive IssueKind where
  | missing
  | notText
  | notList
  | notObject
  | notJson
  | notWhole
  | unreadableWhole
  | tooLargeWhole
  | fractional
  | notFinite
  | notNumber
  | unreadableNumber
  | below (least : Nat)
  | above (greatest : Nat)
  | notAbove (bound : Nat)
  | notLogLevel
  deriving DecidableEq, Repr

namespace IssueKind

/-- The code of an issue. -/
def code : IssueKind → Text
  | .missing => "missing".toList
  | .notText => "string_type".toList
  | .notList => "list_type".toList
  | .notObject => "model_attributes_type".toList
  | .notJson => "json_invalid".toList
  | .notWhole => "int_type".toList
  | .unreadableWhole => "int_parsing".toList
  | .tooLargeWhole => "int_parsing_size".toList
  | .fractional => "int_from_float".toList
  | .notFinite => "finite_number".toList
  | .notNumber => "float_type".toList
  | .unreadableNumber => "float_parsing".toList
  | .below _ => "greater_than_equal".toList
  | .above _ => "less_than_equal".toList
  | .notAbove _ => "greater_than".toList
  | .notLogLevel => "literal_error".toList

/-- The issue as a sentence. -/
def message : IssueKind → Text
  | .missing => "Field required".toList
  | .notText => "Input should be a valid string".toList
  | .notList => "Input should be a valid list".toList
  | .notObject => "Input should be a valid dictionary or object to extract fields from".toList
  | .notJson => "JSON decode error".toList
  | .notWhole => "Input should be a valid integer".toList
  | .unreadableWhole => "Input should be a valid integer, unable to parse string as an integer".toList
  | .tooLargeWhole => "Unable to parse input string as an integer, exceeded maximum size".toList
  | .fractional => "Input should be a valid integer, got a number with a fractional part".toList
  | .notFinite => "Input should be a finite number".toList
  | .notNumber => "Input should be a valid number".toList
  | .unreadableNumber => "Input should be a valid number, unable to parse string as a number".toList
  | .below least => "Input should be greater than or equal to ".toList ++ ofNat least
  | .above greatest => "Input should be less than or equal to ".toList ++ ofNat greatest
  | .notAbove bound => "Input should be greater than ".toList ++ ofNat bound
  | .notLogLevel => "Input should be 'DEBUG', 'INFO', 'WARNING', 'ERROR' or 'CRITICAL'".toList

end IssueKind

/-- One step on the way to a value in the given data: a name or a position. -/
inductive LocationStep where
  | name (n : Text)
  | index (i : Nat)
  deriving DecidableEq, Repr

/-- Something wrong with a value, and the way to it. -/
structure Issue where
  kind : IssueKind
  location : List LocationStep
  deriving DecidableEq, Repr

/-- One step in words. -/
def LocationStep.write : LocationStep → Text
  | .name n => n
  | .index i => ofNat i

/-- The issue in words, behind the way to the value. -/
def Issue.message (i : Issue) : Text :=
  joinWith ".".toList (i.location.map LocationStep.write) ++ ": ".toList ++ i.kind.message

end FlowLang

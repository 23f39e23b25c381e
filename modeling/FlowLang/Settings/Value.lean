import FlowLang.Json.Basic
import FlowLang.Log
import FlowLang.Settings.Issue

/-!
# Checking values

How a given value is taken as a text, a list of texts, a whole number, a duration or a log level. Numbers may also be
given as texts, as the values of an environment are.
-/

namespace FlowLang.Value

open Text

/-- The text without the white space around it. -/
def trimSpace (t : Text) : Text :=
  ((t.dropWhile isSpace).reverse.dropWhile isSpace).reverse

/-- A text as it is. Halves of surrogate pairs in it read as the replacement character. -/
def text : Json → Except IssueKind Text
  | .text t => .ok t
  | .loose t => .ok t.shown
  | _ => .error .notText

/-- A text, or nothing. -/
def optionalText : Json → Except IssueKind (Option Text)
  | .null => .ok none
  | v => (text v).map some

/-- The text without its underscores if each of them stands alone inside of it; else the text as it is. -/
def ungroup (t : Text) : Text :=
  if (splitOn '_' t).all (!·.isEmpty) then t.filter (· != '_') else t

/-- The digits other than zero. -/
def isLeadingDigit (c : Char) : Bool :=
  c.isDigit && c != '0'

/-- Removes the zeros in front of a whole number, and the underscores among them. If nothing but a point or the end
follows, the last of them stays. What is left starts with a digit or a minus sign, else the text is no whole number. -/
def dropZeros? (t : Text) : Option Text :=
  let zeros := t.takeWhile fun c => c == '0' || c == '_'
  let rest := t.drop zeros.length
  let starts := rest.head?.any fun c => isLeadingDigit c || c == '-'
  match zeros with
  | [] => if starts then some rest else none
  | c :: _ =>
    if c != '0' then none
    else if starts then some rest
    else if rest.isEmpty || rest.head? == some '.' then some (zeros.drop (zeros.length - 1) ++ rest)
    else none

/-- Removes a point with zeros, at least one, and nothing else behind it. -/
def dropPoint (t : Text) : Text :=
  let zeros := (t.dropWhile (· != '.')).drop 1
  if !zeros.isEmpty && zeros.all (· == '0') then t.takeWhile (· != '.') else t

/-- Removes the zeros right behind a minus sign. If nothing follows, one of them stays. -/
def dropSignedZeros : Text → Text
  | '-' :: rest =>
    let digits := rest.dropWhile (· == '0')
    '-' :: if digits.isEmpty then rest.take 1 else digits
  | t => t

/-- The number that is written by digits, with or without a minus sign. -/
def plainWhole? (t : Text) : Option Int :=
  let (negative, digits) := match t with
    | '-' :: rest => (true, rest)
    | _ => (false, t)
  let n : Int := Numeral.value digits
  if Numeral.isDigits digits then some (if negative then -n else n) else none

/-- The longest whole number that is read, counted in characters without the zeros in front. -/
def longestWhole : Nat := 4300

/-- Reads a whole number: white space around it, a plus sign, zeros in front, a minus sign, digits with single
underscores between them, and a point with zeros behind it. Zeros may also stand in front behind the minus sign. -/
def readWhole (t : Text) : Except IssueKind Int :=
  let trimmed := trimSpace t
  let unsigned := match trimmed with
    | '+' :: '-' :: _ => none
    | '+' :: rest => some rest
    | _ => some trimmed
  let cleaned := (unsigned.bind dropZeros?).map fun s => dropSignedZeros (ungroup (dropPoint s))
  match cleaned, cleaned.bind plainWhole? with
  | some s, some i => if longestWhole < s.length then .error .tooLargeWhole else .ok i
  | _, _ => .error .unreadableWhole

/-- A whole number. One that is given with a fraction or an exponent has to fit in 64 bits, the least such number
excluded. -/
def whole : Json → Except IssueKind Int
  | .int i => .ok i
  | .bool b => .ok b.toNat
  | .float x =>
    match x with
    | .finite .. =>
      match x.toInt? with
      | none => .error .fractional
      | some i => if -Int.pow 2 63 < i ∧ i < Int.pow 2 63 then .ok i else .error .tooLargeWhole
    | _ => .error .notFinite
  | .text t => readWhole t
  | _ => .error .notWhole

/-- A whole number that is at least `least`. -/
def wholeFrom (least : Nat) (v : Json) : Except IssueKind Nat :=
  (whole v).bind fun i => if i < least then .error (.below least) else .ok i.toNat

/-- A whole number from `least` to `greatest`. -/
def wholeWithin (least greatest : Nat) (v : Json) : Except IssueKind Nat :=
  (wholeFrom least v).bind fun n => if greatest < n then .error (.above greatest) else .ok n

/-- Reads a number: a numeral with white space around it, or one with single underscores between its characters. -/
def readNumber? (t : Text) : Option Binary64 :=
  let plain := Numeral.parse? (trimSpace t)
  let grouped :=
    if (splitOn '_' t).all (!·.isEmpty) then Numeral.parse? (t.filter (· != '_')) else none
  (plain.or grouped).map Binary64.ofNumeral

/-- A number. A whole one that is too large for a finite number is none. -/
def number : Json → Except IssueKind Binary64
  | .int i =>
    match Binary64.ofInt i with
    | .infinity _ => .error .notNumber
    | x => .ok x
  | .bool b => .ok (.ofInt b.toNat)
  | .float x => .ok x
  | .text t => (readNumber? t).elim (.error .unreadableNumber) .ok
  | _ => .error .notNumber

/-- A number above zero. -/
def duration (v : Json) : Except IssueKind Binary64 :=
  (number v).bind fun x => if x.isPositive then .ok x else .error (.notAbove 0)

/-- The name of a log level. -/
def logLevel : Json → Except IssueKind LogLevel
  | .text t => (LogLevel.ofName? t).elim (.error .notLogLevel) .ok
  | _ => .error .notLogLevel

/-- The issues of the items of a list that are no texts, each with its position, and the texts. -/
def textItems (position : Nat) : List Json → List (Nat × IssueKind) × List Text
  | [] => ([], [])
  | item :: rest =>
    let (issues, ts) := textItems (position + 1) rest
    match text item with
    | .ok t => (issues, t :: ts)
    | .error e => ((position, e) :: issues, ts)

end FlowLang.Value

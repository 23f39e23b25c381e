import FlowLang.Text.Basic

/-!
# Numerals

The texts that name a number: an optional sign, then `inf`, `infinity` or `nan` in letters of any case, or decimal
digits with an optional point and an optional exponent. Only ASCII letters and digits count, and nothing may stand
before or behind.
-/

namespace FlowLang

/-- What a numeral stands for. -/
inductive Numeral where
  | infinity (negative : Bool)
  | notANumber
  /-- `digits` times ten to the power `exponent`, below zero if `negative` -/
  | decimal (negative : Bool) (digits : Nat) (exponent : Int)
  deriving DecidableEq, Repr

namespace Numeral

/-- Splits off a sign; the flag is set for a minus. -/
def sign : Text → Bool × Text
  | '-' :: rest => (true, rest)
  | '+' :: rest => (false, rest)
  | t => (false, t)

/-- The number written by decimal digits. -/
def value (digits : Text) : Nat :=
  Nat.ofDigitChars 10 digits 0

/-- Digits and nothing else, at least one. -/
def isDigits (t : Text) : Bool :=
  !t.isEmpty && t.all Char.isDigit

/-- What may follow the digits of a decimal: nothing, or an `e` with a signed whole number. -/
def exponent? : Text → Option Int
  | [] => some 0
  | e :: rest =>
    let (negative, digits) := sign rest
    if e.toLower = 'e' ∧ isDigits digits then
      some (if negative then -(value digits : Int) else value digits)
    else none

/-- Digits, an optional point with more digits, and an exponent. There is a digit on one side of the point. -/
def decimal? (negative : Bool) (t : Text) : Option Numeral :=
  let whole := t.takeWhile Char.isDigit
  match t.dropWhile Char.isDigit with
  | '.' :: rest =>
    let fraction := rest.takeWhile Char.isDigit
    if whole.isEmpty && fraction.isEmpty then none
    else (exponent? (rest.dropWhile Char.isDigit)).map fun e =>
      .decimal negative (value (whole ++ fraction)) (e - fraction.length)
  | rest =>
    if whole.isEmpty then none
    else (exponent? rest).map fun e => .decimal negative (value whole) e

/-- Reads a numeral. -/
def parse? (t : Text) : Option Numeral :=
  let (negative, body) := sign t
  let word := body.map Char.toLower
  if word = "inf".toList ∨ word = "infinity".toList then some (.infinity negative)
  else if word = "nan".toList then some .notANumber
  else decimal? negative body

end Numeral

/-- The text is a numeral. -/
def isNumeral (t : Text) : Bool :=
  (Numeral.parse? t).isSome

end FlowLang

import FlowLang.Text.Digits

/-!
# Texts with halves of surrogate pairs

JSON can name half of a surrogate pair that stands alone. Such a half is no character: what holds one has no encoding,
so it can be neither written into a file nor sent.
-/

namespace FlowLang

open Text

/-- A character, or half of a surrogate pair that stands alone. -/
inductive Letter where
  | char (c : Char)
  | half (unit : Nat)
  deriving DecidableEq, Repr

/-- The letter with a number. -/
def Letter.ofUnit (unit : Nat) : Letter :=
  if 0xD800 ≤ unit ∧ unit < 0xE000 then .half unit else .char (Char.ofNat unit)

/-- The character that a letter is. -/
def Letter.char? : Letter → Option Char
  | .char c => some c
  | .half _ => none

/-- A text that may hold halves of surrogate pairs. -/
structure LooseText where
  letters : List Letter
  deriving DecidableEq, Repr

namespace LooseText

/-- The text, if it has no halves. -/
def text? (t : LooseText) : Option Text :=
  t.letters.mapM Letter.char?

/-- The text with a character for each half. -/
def read (standIn : Nat → Char) (t : LooseText) : Text :=
  t.letters.map fun l => match l with
    | .char c => c
    | .half unit => standIn unit

/-- The text with the replacement character for each half. -/
def shown (t : LooseText) : Text :=
  t.read fun _ => '�'

/-- Why the text has no encoding, in words: where its first halves stand. -/
def encodingFault (t : LooseText) : Text :=
  let position := (t.letters.takeWhile (·.char?.isSome)).length
  let place := match (t.letters.drop position).takeWhile (·.char?.isNone) with
    | [.half unit] => "character '\\u".toList ++ hex 4 unit ++ "' in position ".toList ++ ofNat position
    | halves => "characters in position ".toList ++ ofNat position ++ "-".toList ++ ofNat (position + halves.length - 1)
  "'utf-8' codec can't encode ".toList ++ place ++ ": surrogates not allowed".toList

end LooseText

end FlowLang

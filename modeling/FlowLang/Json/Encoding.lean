import FlowLang.Json.Parser
import FlowLang.Text.Utf8

/-!
# JSON in bytes

JSON comes in one of the encodings of Unicode. A byte order mark tells which; without one the zeros among the first
bytes do, because the first two characters of a value are ASCII.
-/

namespace FlowLang.Json

open Text

/-- How texts are laid out in bytes. -/
inductive Encoding where
  | utf8
  | utf16 (bigEndian : Bool)
  | utf32 (bigEndian : Bool)
  deriving DecidableEq, Repr

/-- The byte order marks and what they tell. A longer one comes before one that it starts with. -/
def byteOrderMarks : List (Bytes × Encoding) :=
  [([0x00, 0x00, 0xFE, 0xFF], .utf32 true), ([0xFF, 0xFE, 0x00, 0x00], .utf32 false),
   ([0xFE, 0xFF], .utf16 true), ([0xFF, 0xFE], .utf16 false), ([0xEF, 0xBB, 0xBF], .utf8)]

/-- What the zeros among the first bytes tell. -/
def encodingOfZeros (bytes : Bytes) : Encoding :=
  match (bytes.take 4).map (· == 0) with
  | [true, second, _, _] => if second then .utf32 true else .utf16 true
  | [false, true, third, fourth] => if third && fourth then .utf32 false else .utf16 false
  | [first, second] =>
    if bytes.length = 2 then if first then .utf16 true else if second then .utf16 false else .utf8
    else .utf8
  | _ => .utf8

/-- The encoding of bytes, and the bytes behind a byte order mark. -/
def encodingOf (bytes : Bytes) : Encoding × Bytes :=
  match byteOrderMarks.find? fun m => m.1.isPrefixOf bytes with
  | some (mark, encoding) => (encoding, bytes.drop mark.length)
  | none => (encodingOfZeros bytes, bytes)

/-- The number that bytes make. -/
def numberOf (bigEndian : Bool) (bytes : Bytes) : Nat :=
  (if bigEndian then bytes else bytes.reverse).foldl (fun n b => 256 * n + b.toNat) 0

/-- The numbers that each two bytes make; none if one byte is left over. -/
def pairs (bigEndian : Bool) : Bytes → Option (List Nat)
  | [] => some []
  | [_] => none
  | a :: b :: rest => (pairs bigEndian rest).map (numberOf bigEndian [a, b] :: ·)

/-- The numbers that each four bytes make; none if bytes are left over. -/
def quadruples (bigEndian : Bool) : Bytes → Option (List Nat)
  | [] => some []
  | a :: b :: c :: d :: rest => (quadruples bigEndian rest).map (numberOf bigEndian [a, b, c, d] :: ·)
  | _ => none

/-- The text that bytes stand for in an encoding. A half of a surrogate pair among them reads as the replacement
character. -/
def decode? : Encoding → Bytes → Option Text
  | .utf8, bytes => (Utf8.decode bytes).toOption
  | .utf16 bigEndian, bytes => (pairs bigEndian bytes).map fun us => (ofUnits us).shown
  | .utf32 bigEndian, bytes =>
    (quadruples bigEndian bytes).bind fun codes =>
      if codes.all (· < 0x110000) then some (codes.flatMap fun code => (ofUnits [code]).shown) else none

/-- Reads a value from bytes. -/
def parseBytes (bytes : Bytes) : Except Fault Json :=
  let (encoding, content) := encodingOf bytes
  match decode? encoding content with
  | some t => parse t
  | none => .error .notText

end FlowLang.Json

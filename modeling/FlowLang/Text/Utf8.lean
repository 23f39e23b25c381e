import FlowLang.Text.Digits

/-!
# UTF-8

Texts as bytes. Decoding first divides the bytes into pieces: a well-formed character, or the longest start of one that
is broken off (`pieces`). A strict reader stops at the first broken piece and says where and why, a lenient one puts the
replacement character in its place.
-/

namespace FlowLang

/-- A sequence of bytes. -/
abbrev Bytes := List UInt8

namespace Utf8

open Text

/-- Why bytes are no character. -/
inductive Reason where
  /-- no character starts with this byte -/
  | start
  /-- a byte that cannot go on with the character -/
  | continuation
  /-- the bytes end within a character -/
  | ending
  deriving DecidableEq, Repr

/-- The reason in words. -/
def Reason.message : Reason → Text
  | .start => "invalid start byte".toList
  | .continuation => "invalid continuation byte".toList
  | .ending => "unexpected end of data".toList

/-- What the bytes at the front of a sequence are, and how many of them it takes. -/
structure Piece where
  content : Except Reason Char
  bytes : Bytes

/-- The ranges that the bytes behind a first byte have to lie in; none if no character starts with it. -/
def tails? (lead : Nat) : Option (List (Nat × Nat)) :=
  let any := (0x80, 0xBF)
  if lead < 0x80 then some []
  else if lead < 0xC2 then none
  else if lead < 0xE0 then some [any]
  else if lead = 0xE0 then some [(0xA0, 0xBF), any]
  else if lead = 0xED then some [(0x80, 0x9F), any]
  else if lead < 0xF0 then some [any, any]
  else if lead = 0xF0 then some [(0x90, 0xBF), any, any]
  else if lead < 0xF4 then some [any, any, any]
  else if lead = 0xF4 then some [(0x80, 0x8F), any, any]
  else none

/-- The bits of the code point that are in the first byte of a character of `count` more bytes. -/
def leadBits (lead count : Nat) : Nat :=
  match count with
  | 0 => lead
  | 1 => lead - 0xC0
  | 2 => lead - 0xE0
  | _ => lead - 0xF0

/-- Reads the bytes behind the first one. `taken` are the bytes of the character so far, `code` the bits of them. -/
def takeTails (taken : Bytes) (code : Nat) : List (Nat × Nat) → Bytes → Piece
  | [], _ => ⟨.ok (Char.ofNat code), taken⟩
  | _ :: _, [] => ⟨.error .ending, taken⟩
  | (low, high) :: more, b :: rest =>
    if low ≤ b.toNat ∧ b.toNat ≤ high then takeTails (taken ++ [b]) (code * 64 + (b.toNat - 0x80)) more rest
    else ⟨.error .continuation, taken⟩

/-- The piece at the front of a sequence. -/
def front (lead : UInt8) (rest : Bytes) : Piece :=
  match tails? lead.toNat with
  | none => ⟨.error .start, [lead]⟩
  | some tails => takeTails [lead] (leadBits lead.toNat tails.length) tails rest

/-- The pieces of a sequence behind its first `skip` bytes. -/
def piecesFrom : Nat → Bytes → List Piece
  | _, [] => []
  | skip + 1, _ :: rest => piecesFrom skip rest
  | 0, lead :: rest =>
    let piece := front lead rest
    piece :: piecesFrom (piece.bytes.length - 1) rest

/-- The pieces of a sequence. -/
def pieces (bytes : Bytes) : List Piece :=
  piecesFrom 0 bytes

/-- The text of a sequence, with the replacement character for each broken piece. -/
def decodeLossy (bytes : Bytes) : Text :=
  (pieces bytes).map fun p => match p.content with
    | .ok c => c
    | .error _ => '�'

/-- Where a sequence stops being a text: the position of the broken piece, its bytes, and what is wrong with it. -/
structure Malformed where
  position : Nat
  bytes : Bytes
  reason : Reason
  deriving DecidableEq, Repr

/-- The fault in words. -/
def Malformed.message (m : Malformed) : Text :=
  let place := match m.bytes with
    | [b] => "byte 0x".toList ++ hex 2 b.toNat ++ " in position ".toList ++ ofNat m.position
    | bs => "bytes in position ".toList ++ ofNat m.position ++ "-".toList ++ ofNat (m.position + bs.length - 1)
  "'utf-8' codec can't decode ".toList ++ place ++ ": ".toList ++ m.reason.message

/-- The text of pieces of which the first starts at `position`. -/
def join (position : Nat) : List Piece → Except Malformed Text
  | [] => .ok []
  | p :: rest =>
    match p.content with
    | .error reason => .error ⟨position, p.bytes, reason⟩
    | .ok c => (join (position + p.bytes.length) rest).map (c :: ·)

/-- The text of a sequence, if all of it is one. -/
def decode (bytes : Bytes) : Except Malformed Text :=
  join 0 (pieces bytes)

/-- The bytes of a text. -/
def encode (t : Text) : Bytes :=
  t.flatMap String.utf8EncodeChar

end Utf8

/-- Every carriage return, alone or with a line feed behind it, becomes a line feed. -/
def Text.unifyNewlines : Text → Text
  | '\r' :: '\n' :: rest => '\n' :: unifyNewlines rest
  | '\r' :: rest => '\n' :: unifyNewlines rest
  | c :: rest => c :: unifyNewlines rest
  | [] => []

end FlowLang

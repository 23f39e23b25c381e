import FlowLang.Json.Parser
import FlowLang.Text.Quoted
import FlowLang.Text.Utf8

/-!
# Request targets

What a request asks for: a path, and a query that is passed on unread. A target is a reference as a client writes it; its
fragment and an authority in front are left out, `.` and `..` among the parts of the path are resolved, and escapes in
the path are undone. A reference that is too long or holds a control character is no target.
-/

namespace FlowLang.Service

open Text

/-- The path that a request asks for, and its query. -/
structure Target where
  path : Text
  query : Option Text
  deriving DecidableEq, Repr

namespace Target

/-- Resolves `.` and `..` among the parts of a path; `..` does not go above the root. -/
def resolveDots (parts : List Text) : List Text :=
  parts.foldl (fun kept part =>
    if part == ".".toList then kept
    else if part == "..".toList then if kept == [[]] then kept else kept.dropLast
    else kept ++ [part]) []

/-- The bytes of a text in which two digits of base sixteen behind a percent sign stand for one byte. -/
def unescapedBytes : Text → Bytes
  | '%' :: a :: b :: rest =>
    match Json.hexValue? a, Json.hexValue? b with
    | some x, some y => UInt8.ofNat (16 * x + y) :: unescapedBytes rest
    | _, _ => Utf8.encode ['%'] ++ unescapedBytes (a :: b :: rest)
  | c :: rest => Utf8.encode [c] ++ unescapedBytes rest
  | [] => []

/-- The text with its escapes undone. -/
def unescape (t : Text) : Text :=
  Utf8.decodeLossy (unescapedBytes t)

/-- The characters that stand as themselves in the address of a redirection. -/
def isPlain (c : Char) : Bool :=
  c.isAlphanum || "_.-~:/%#?=@[]!$&'()*+,;".toList.contains c

/-- The text with every other character written by the escapes of its bytes. -/
def escape (t : Text) : Text :=
  t.flatMap fun c =>
    if isPlain c then [c]
    else (Utf8.encode [c]).flatMap fun b => '%' :: (hex 2 b.toNat).map Char.toUpper

/-- Why a reference is no target. -/
inductive Fault where
  | tooLong
  /-- a control character stands at a place -/
  | control (c : Char) (place : Nat)
  deriving DecidableEq, Repr

/-- What is said about a reference that is no target. -/
def Fault.message : Fault → Text
  | .tooLong => "URL too long".toList
  | .control c place =>
    "Invalid non-printable ASCII character in URL, ".toList ++ quoted [c] ++ " at position ".toList
      ++ ofNat place ++ ".".toList

/-- The most characters that a reference has. -/
def longestReference : Nat := 65536

/-- The control characters of ASCII. -/
def isControl (c : Char) : Bool :=
  c.toNat < 0x20 || c.toNat == 0x7F

/-- What keeps a reference from being a target. -/
def fault? (reference : Text) : Option Fault :=
  if longestReference < reference.length then some .tooLong
  else
    let plain := reference.takeWhile fun c => !isControl c
    (reference.drop plain.length).head?.map fun c => .control c plain.length

/-- The target that a reference names. -/
def ofReference (reference : Text) : Target :=
  let relevant := reference.takeWhile (· != '#')
  let address := relevant.takeWhile (· != '?')
  let query := match relevant.dropWhile (· != '?') with
    | [] => none
    | _ :: q => some q
  let below := match after? "//".toList address with
    | some rest => rest.dropWhile (· != '/')
    | none => address
  let parts := splitOn '/' ('/' :: below.dropWhile (· == '/'))
  let path := joinWith "/".toList (resolveDots parts)
  ⟨if path.isEmpty then "/".toList else unescape path, query⟩

/-- Reads a reference. -/
def parse (reference : Text) : Except Fault Target :=
  match fault? reference with
  | some f => .error f
  | none => .ok (ofReference reference)

/-- The address of a path at the place that a request came to, with the request's query. -/
def address (t : Target) (origin path : Text) : Text :=
  escape (origin ++ path ++ match t.query with
    | some q => if q.isEmpty then [] else '?' :: q
    | none => [])

end Target

end FlowLang.Service

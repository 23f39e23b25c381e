import FlowLang.Json.Basic

/-!
# Reading JSON

A reader that tells where it gave up: at the start of a value that is none, the opening quote of a text that does not
end, the backslash or the letter `u` of a bad escape, or the character that should have been a comma, a colon or a
quote. While it reads, a place is the number of characters that are left there. Besides the standard's values it takes
`NaN`, `Infinity` and `-Infinity`. It does not take whole numbers of more than 4300 digits, nor values that lie too deep
inside of others.
-/

namespace FlowLang.Json

open Text

/-- Why a text cannot be read. -/
inductive Fault where
  /-- there is no value, and this is the place where that shows -/
  | misplaced (place : Nat)
  /-- a whole number has too many digits -/
  | tooLong
  /-- there are too many values inside of each other -/
  | tooDeep
  /-- the bytes that were given stand for no text -/
  | notText
  deriving DecidableEq, Repr

/-- The digits that a whole number may have. -/
def longestNumber : Nat := 4300

/-- The arrays and objects that may lie inside of each other. -/
def deepestNesting : Nat := 960

/-- A result, and the text behind what was read, which is shorter than the text before. -/
structure Parsed (α : Type) (before : Text) where
  value : α
  rest : Text
  shorter : rest.length < before.length

/-- The characters that may stand between the parts of a value. -/
def isGap (c : Char) : Bool :=
  c == ' ' || c == '\t' || c == '\n' || c == '\r'

/-- The text from its first character that is no gap. -/
def skipGap (t : Text) : Text :=
  t.dropWhile isGap

theorem length_skipGap_le (t : Text) : (skipGap t).length ≤ t.length :=
  length_dropWhile_le _ t

/-! ## Texts -/

/-- The character for a letter behind a backslash. -/
def escaped? : Char → Option Char
  | '"' => some '"'
  | '\\' => some '\\'
  | '/' => some '/'
  | 'b' => some '\x08'
  | 'f' => some '\x0c'
  | 'n' => some '\n'
  | 'r' => some '\r'
  | 't' => some '\t'
  | _ => none

/-- The value of a digit in base sixteen. -/
def hexValue? (c : Char) : Option Nat :=
  if c.isDigit then some (c.toNat - 48)
  else if 'a' ≤ c ∧ c ≤ 'f' then some (c.toNat - 87)
  else if 'A' ≤ c ∧ c ≤ 'F' then some (c.toNat - 55)
  else none

/-- The number written by digits in base sixteen. -/
def hexNumber? (digits : List Char) : Option Nat :=
  digits.foldlM (fun n c => (hexValue? c).map (16 * n + ·)) 0

/-- The units of a text up to its closing quote, and what is behind. A unit is a code point, or half of a surrogate
pair when it was written as an escape. An escape in base sixteen needs its four digits and one more character. -/
def units (opening : Nat) : Text → Except Fault (List Nat × Text)
  | [] => .error (.misplaced opening)
  | '"' :: rest => .ok ([], rest)
  | ['\\'] => .error (.misplaced opening)
  | '\\' :: 'u' :: a :: b :: c :: d :: e :: rest =>
    match hexNumber? [a, b, c, d] with
    | some n => (units opening (e :: rest)).map fun r => (n :: r.1, r.2)
    | none => .error (.misplaced (rest.length + 6))
  | '\\' :: 'u' :: rest => .error (.misplaced (rest.length + 1))
  | '\\' :: c :: rest =>
    match escaped? c with
    | some d => (units opening rest).map fun r => (d.toNat :: r.1, r.2)
    | none => .error (.misplaced (rest.length + 2))
  | c :: rest =>
    if c.toNat < 0x20 then .error (.misplaced (rest.length + 1))
    else (units opening rest).map fun r => (c.toNat :: r.1, r.2)

/-- The letters that units make. The two halves of a surrogate pair make one character. -/
def lettersOf : List Nat → List Letter
  | [] => []
  | [u] => [.ofUnit u]
  | u :: v :: rest =>
    if 0xD800 ≤ u ∧ u < 0xDC00 ∧ 0xDC00 ≤ v ∧ v < 0xE000 then
      .char (Char.ofNat (0x10000 + (u - 0xD800) * 0x400 + (v - 0xDC00))) :: lettersOf rest
    else .ofUnit u :: lettersOf (v :: rest)

/-- The text of a list of units. -/
def ofUnits (us : List Nat) : LooseText :=
  ⟨lettersOf us⟩

theorem length_units {opening : Nat} {t : Text} {us : List Nat} {rest : Text}
    (h : units opening t = .ok (us, rest)) : rest.length < t.length := by
  fun_induction units opening t generalizing us rest with
  | case1 => cases h
  | case2 => cases h; simp
  | case3 => cases h
  | case4 a b c d e r n _ ih =>
    cases hr : units opening (e :: r) with
    | error => simp [hr, Except.map] at h
    | ok p =>
      obtain ⟨ps, pr⟩ := p
      simp only [hr, Except.map, Except.ok.injEq, Prod.mk.injEq] at h
      have := ih hr
      simp only [List.length_cons] at this ⊢
      rw [← h.2]
      omega
  | case5 => cases h
  | case6 => cases h
  | case7 c r _ _ d _ ih =>
    cases hr : units opening r with
    | error => simp [hr, Except.map] at h
    | ok p =>
      obtain ⟨ps, pr⟩ := p
      simp only [hr, Except.map, Except.ok.injEq, Prod.mk.injEq] at h
      have := ih hr
      simp only [List.length_cons]
      rw [← h.2]
      omega
  | case8 => cases h
  | case9 => cases h
  | case10 c r _ _ _ _ _ _ ih =>
    cases hr : units opening r with
    | error => simp [hr, Except.map] at h
    | ok p =>
      obtain ⟨ps, pr⟩ := p
      simp only [hr, Except.map, Except.ok.injEq, Prod.mk.injEq] at h
      have := ih hr
      simp only [List.length_cons]
      rw [← h.2]
      omega

/-- Reads a text from behind its opening quote. -/
def string (t : Text) : Except Fault (Parsed LooseText t) :=
  match h : units (t.length + 1) t with
  | .ok (us, rest) => .ok ⟨ofUnits us, rest, length_units h⟩
  | .error fault => .error fault

/-! ## Numbers and names -/

/-- The fraction of a number: a point with digits behind it. -/
def fraction (t : Text) : Text × Text :=
  match t with
  | '.' :: rest =>
    let digits := rest.takeWhile Char.isDigit
    if digits.isEmpty then ([], t) else (digits, rest.dropWhile Char.isDigit)
  | _ => ([], t)

/-- The exponent of a number: the letter, an optional sign and digits. -/
def exponent? (t : Text) : Option (Int × Text) :=
  match t with
  | e :: rest =>
    let (negative, behind) := Numeral.sign rest
    let digits := behind.takeWhile Char.isDigit
    if e.toLower = 'e' ∧ !digits.isEmpty then
      let n : Int := Numeral.value digits
      some (if negative then -n else n, behind.dropWhile Char.isDigit)
    else none
  | [] => none

/-- Reads a number. Its whole part is a single zero or starts with another digit. -/
def number? (t : Text) : Option (Except Fault Json × Text) :=
  let (negative, body) := match t with
    | '-' :: rest => (true, rest)
    | _ => (false, t)
  let whole := match body with
    | '0' :: _ => ['0']
    | _ => body.takeWhile Char.isDigit
  if whole.isEmpty then none
  else
    let (places, behind) := fraction (body.drop whole.length)
    match exponent? behind with
    | some (e, rest) =>
      some (.ok (.float (.ofNumeral (.decimal negative (Numeral.value (whole ++ places)) (e - places.length)))), rest)
    | none =>
      if !places.isEmpty then
        let digits := Numeral.value (whole ++ places)
        some (.ok (.float (.ofNumeral (.decimal negative digits (-(places.length : Int))))), behind)
      else if longestNumber < whole.length then some (.error .tooLong, behind)
      else
        let n : Int := Numeral.value whole
        some (.ok (.int (if negative then -n else n)), behind)

/-- The values that are written as a name. -/
def names : List (String × Json) :=
  [("null", .null), ("true", .bool true), ("false", .bool false), ("NaN", .float .notANumber),
   ("Infinity", .float (.infinity false)), ("-Infinity", .float (.infinity true))]

/-- Reads a name or a number. -/
def scalar? (t : Text) : Option (Except Fault Json × Text) :=
  match names.findSome? fun n => (after? n.1.toList t).map fun rest => (.ok n.2, rest) with
  | some r => some r
  | none => number? t

/-! ## Values -/

mutual

/-- Reads a value with room for so many more inside of each other. -/
def value (room : Nat) (t : Text) : Except Fault (Parsed Json t) :=
  match t with
  | [] => .error (.misplaced 0)
  | '"' :: rest =>
    match string rest with
    | .ok p => .ok ⟨.ofLoose p.value, p.rest, Nat.lt_succ_of_lt p.shorter⟩
    | .error fault => .error fault
  | '[' :: rest =>
    if room = 0 then .error .tooDeep else
    have hs := length_skipGap_le rest
    match hg : skipGap rest with
    | ']' :: behind => .ok ⟨.array [], behind, by simp only [hg, List.length_cons] at hs ⊢; omega⟩
    | first =>
      match items (room - 1) first with
      | .ok p => .ok ⟨.array p.value, p.rest, by
          have := p.shorter
          simp only [hg, List.length_cons] at hs ⊢
          omega⟩
      | .error fault => .error fault
  | '\x7b' :: rest =>
    if room = 0 then .error .tooDeep else
    have hs := length_skipGap_le rest
    match hg : skipGap rest with
    | '\x7d' :: behind => .ok ⟨.object [], behind, by simp only [hg, List.length_cons] at hs ⊢; omega⟩
    | first =>
      match members (room - 1) first with
      | .ok p => .ok ⟨.object p.value, p.rest, by
          have := p.shorter
          simp only [hg, List.length_cons] at hs ⊢
          omega⟩
      | .error fault => .error fault
  | c :: cs =>
    match scalar? (c :: cs) with
    | some (.ok v, rest) =>
      if h : rest.length < (c :: cs).length then .ok ⟨v, rest, h⟩ else .error (.misplaced (c :: cs).length)
    | some (.error fault, _) => .error fault
    | none => .error (.misplaced (c :: cs).length)
termination_by (t.length, 0)
decreasing_by
  all_goals
    simp only [hg, List.length_cons] at hs ⊢
    apply Prod.Lex.left
    omega

/-- Reads the values of an array up to its closing bracket. -/
def items (room : Nat) (t : Text) : Except Fault (Parsed (List Json) t) :=
  match value room t with
  | .error fault => .error fault
  | .ok p =>
    have hp := p.shorter
    have hs := length_skipGap_le p.rest
    match hg : skipGap p.rest with
    | ']' :: behind => .ok ⟨[p.value], behind, by simp only [hg, List.length_cons] at hs; omega⟩
    | ',' :: behind =>
      have hb := length_skipGap_le behind
      match items room (skipGap behind) with
      | .ok q => .ok ⟨p.value :: q.value, q.rest, by
          have := q.shorter
          simp only [hg, List.length_cons] at hs
          omega⟩
      | .error fault => .error fault
    | other => .error (.misplaced other.length)
termination_by (t.length, 1)
decreasing_by
  · apply Prod.Lex.right
    omega
  · apply Prod.Lex.left
    simp only [hg, List.length_cons] at hs
    omega

/-- Reads the members of an object up to its closing brace. Halves of surrogate pairs in a name read as the replacement
character. -/
def members (room : Nat) (t : Text) : Except Fault (Parsed (List (Text × Json)) t) :=
  match t with
  | '"' :: rest =>
    match string rest with
    | .error fault => .error fault
    | .ok name =>
      have hn := name.shorter
      have hc := length_skipGap_le name.rest
      match hcolon : skipGap name.rest with
      | ':' :: behindColon =>
        have hv := length_skipGap_le behindColon
        match value room (skipGap behindColon) with
        | .error fault => .error fault
        | .ok p =>
          have hp := p.shorter
          have hs := length_skipGap_le p.rest
          match hg : skipGap p.rest with
          | '\x7d' :: behind => .ok ⟨[(name.value.shown, p.value)], behind, by
              simp only [hg, hcolon, List.length_cons] at hs hc ⊢
              omega⟩
          | ',' :: behind =>
            have hb := length_skipGap_le behind
            match members room (skipGap behind) with
            | .ok q => .ok ⟨(name.value.shown, p.value) :: q.value, q.rest, by
                have := q.shorter
                simp only [hg, hcolon, List.length_cons] at hs hc ⊢
                omega⟩
            | .error fault => .error fault
          | other => .error (.misplaced other.length)
      | other => .error (.misplaced other.length)
  | other => .error (.misplaced other.length)
termination_by (t.length, 1)
decreasing_by
  · apply Prod.Lex.left
    simp only [hcolon, List.length_cons] at hc ⊢
    omega
  · apply Prod.Lex.left
    simp only [hg, hcolon, List.length_cons] at hs hc ⊢
    omega

end

/-- Reads a text that is one value and gaps. The place of a fault is counted from the start of the text. -/
def parse (t : Text) : Except Fault Json :=
  match value deepestNesting (skipGap t) with
  | .error (.misplaced left) => .error (.misplaced (t.length - left))
  | .error fault => .error fault
  | .ok p =>
    match skipGap p.rest with
    | [] => .ok p.value
    | rest => .error (.misplaced (t.length - rest.length))

end FlowLang.Json

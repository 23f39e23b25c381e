import FlowLang.Text.Basic

/-!
# Environment files

A file of settings, one `NAME=value` after another. The word `export` may stand in front of a name, a name may stand in
apostrophes, a comment may follow a value, and a name without a value is declared and nothing else. A value in
apostrophes or double quotes may run over several lines. What has another form is passed over up to the end of its line.
Lines end with line feeds.

A value may refer to other variables, `${NAME}` or `${NAME:-default}`: to those above it in the file, and to those of
the environment.
-/

namespace FlowLang.EnvFile

open Text

/-- A name and its value; no value if the name is only declared. -/
abbrev Binding := Text × Option Text

/-! ## Reading -/

/-- A blank character that ends no line. -/
def isInlineBlank (c : Char) : Bool :=
  isBlank c && c != '\n'

/-- The text from its first character that is no inline blank. -/
def skipInline (t : Text) : Text :=
  t.dropWhile isInlineBlank

/-- What stands on the lines below. -/
def dropLine (t : Text) : Text :=
  (t.dropWhile (· != '\n')).drop 1

/-- The word `export` with blanks behind it removed. -/
def dropExport (t : Text) : Text :=
  match after? "export".toList t with
  | some (c :: rest) => if isInlineBlank c then skipInline rest else t
  | _ => t

/-- The text up to the closing mark, and what is behind it. A backslash and the character behind it belong together, so
that a mark behind a backslash does not close. -/
def closing? (mark : Char) : Text → Option (Text × Text)
  | '\\' :: c :: rest => (closing? mark rest).map fun p => ('\\' :: c :: p.1, p.2)
  | c :: rest => if c = mark then some ([], rest) else (closing? mark rest).map fun p => (c :: p.1, p.2)
  | [] => none

/-- What a character behind a backslash stands for between apostrophes. -/
def plainEscape? : Char → Option Char
  | '\\' => some '\\'
  | '\x27' => some '\x27'
  | _ => none

/-- What a character behind a backslash stands for between double quotes. -/
def quoteEscape? : Char → Option Char
  | '\\' => some '\\'
  | '\x27' => some '\x27'
  | '\x22' => some '\x22'
  | 'a' => some '\x07'
  | 'b' => some '\x08'
  | 'f' => some '\x0c'
  | 'n' => some '\n'
  | 'r' => some '\r'
  | 't' => some '\t'
  | 'v' => some '\x0b'
  | _ => none

/-- The text with its escapes undone; a backslash before any other character stays. -/
def unescape (escape? : Char → Option Char) : Text → Text
  | '\\' :: c :: rest =>
    match escape? c with
    | some d => d :: unescape escape? rest
    | none => '\\' :: unescape escape? (c :: rest)
  | c :: rest => c :: unescape escape? rest
  | [] => []

/-- The text before blanks with a comment behind them. -/
def beforeComment : Text → Text
  | [] => []
  | c :: rest =>
    if isBlank c && (trimLeft rest).head? == some '#' then [] else c :: beforeComment rest

/-- The end of a binding: only a comment may follow on its line. -/
def finish (b : Binding) (t : Text) : Option Binding × Text :=
  match skipInline t with
  | [] => (some b, [])
  | '\n' :: rest => (some b, rest)
  | c :: rest => (if c = '#' then some b else none, dropLine (c :: rest))

/-- A value between marks, from behind the opening one. -/
def quotedValue (name : Text) (mark : Char) (escape? : Char → Option Char) (t : Text) : Option Binding × Text :=
  match closing? mark t with
  | some (content, behind) => finish (name, some (unescape escape? content)) behind
  | none => (none, dropLine t)

/-- What stands behind a name. -/
def readValue (name : Text) (t : Text) : Option Binding × Text :=
  match skipInline t with
  | '=' :: rest =>
    match skipInline rest with
    | '\x27' :: body => quotedValue name '\x27' plainEscape? body
    | '\x22' :: body => quotedValue name '\x22' quoteEscape? body
    | _ => (some (name, some (trim (beforeComment (rest.takeWhile (· != '\n'))))), dropLine rest)
  | other => finish (name, none) other

/-- The characters of a name that stands in no apostrophes. -/
def isNameCharacter (c : Char) : Bool :=
  !(c == '=' || c == '#' || isBlank c)

/-- What stands at the front of a text, and what is behind it. -/
def readBinding (t : Text) : Option Binding × Text :=
  let start := dropExport t
  match start with
  | '\x27' :: body =>
    let name := body.takeWhile (· != '\x27')
    match body.dropWhile (· != '\x27') with
    | _ :: behind => if name.isEmpty then (none, dropLine start) else readValue name behind
    | [] => (none, dropLine start)
  | _ =>
    let name := start.takeWhile isNameCharacter
    if name.isEmpty then (none, dropLine start) else readValue name (start.dropWhile isNameCharacter)

/-! ### What is read is behind -/

theorem length_skipInline_le (t : Text) : (skipInline t).length ≤ t.length :=
  length_dropWhile_le _ t

theorem length_dropLine_le (t : Text) : (dropLine t).length ≤ t.length := by
  have := length_dropWhile_le (· != '\n') t
  simp only [dropLine, List.length_drop]
  omega

theorem length_dropLine_cons {c : Char} (h : c ≠ '\n') (t : Text) : (dropLine (c :: t)).length ≤ t.length := by
  have hd : (c :: t).dropWhile (· != '\n') = t.dropWhile (· != '\n') := by simp [h]
  have := length_dropWhile_le (· != '\n') t
  simp only [dropLine, hd, List.length_drop]
  omega

theorem dropExport_eq_or_lt (t : Text) : dropExport t = t ∨ (dropExport t).length < t.length := by
  unfold dropExport
  split
  · next c rest h =>
    have hl := congrArg List.length (after?_eq_some_iff.mp h)
    have := length_skipInline_le rest
    split
    · right
      simp only [List.length_append, List.length_cons] at hl
      omega
    · exact Or.inl rfl
  · exact Or.inl rfl

theorem length_closing? {mark : Char} {t content behind : Text} (h : closing? mark t = some (content, behind)) :
    behind.length < t.length := by
  fun_induction closing? mark t generalizing content behind with
  | case1 c rest ih =>
    obtain ⟨p, hp, he⟩ := Option.map_eq_some_iff.mp h
    have := ih hp
    simp only [Prod.mk.injEq] at he
    simp only [List.length_cons, ← he.2]
    omega
  | case2 rest hne =>
    simp only [Option.some.injEq, Prod.mk.injEq] at h
    simp only [List.length_cons, ← h.2]
    omega
  | case3 c rest hne hc ih =>
    obtain ⟨p, hp, he⟩ := Option.map_eq_some_iff.mp h
    have := ih hp
    simp only [Prod.mk.injEq] at he
    simp only [List.length_cons, ← he.2]
    omega
  | case4 => cases h

theorem length_finish_le (b : Binding) (t : Text) : (finish b t).2.length ≤ t.length := by
  have hs := length_skipInline_le t
  unfold finish
  split
  · simp
  · next rest h =>
    rw [h] at hs
    simp only [List.length_cons] at hs ⊢
    omega
  · next c rest _ h =>
    rw [h] at hs
    exact Nat.le_trans (length_dropLine_le _) hs

theorem length_quotedValue_le (name : Text) (mark : Char) (escape? : Char → Option Char) (t : Text) :
    (quotedValue name mark escape? t).2.length ≤ t.length := by
  unfold quotedValue
  split
  · next content behind h =>
    have := length_finish_le (name, some (unescape escape? content)) behind
    have := length_closing? h
    omega
  · exact length_dropLine_le t

theorem length_readValue_le (name t : Text) : (readValue name t).2.length ≤ t.length := by
  have hs := length_skipInline_le t
  unfold readValue
  split
  · next rest h =>
    rw [h, List.length_cons] at hs
    have hr := length_skipInline_le rest
    split
    · next body hb =>
      rw [hb, List.length_cons] at hr
      have := length_quotedValue_le name '\x27' plainEscape? body
      omega
    · next body hb =>
      rw [hb, List.length_cons] at hr
      have := length_quotedValue_le name '\x22' quoteEscape? body
      omega
    · have := length_dropLine_le rest
      simp only
      omega
  · exact Nat.le_trans (length_finish_le _ _) hs

/-- Something is read wherever a line does not start with a blank. -/
theorem length_readBinding {c : Char} (hc : isBlank c = false) (t : Text) :
    (readBinding (c :: t)).2.length < (c :: t).length := by
  have hn : c ≠ '\n' := by rintro rfl; exact absurd hc (by decide)
  have hx := dropExport_eq_or_lt (c :: t)
  have he : (dropExport (c :: t)).length ≤ (c :: t).length := by
    rcases hx with h | h
    · exact Nat.le_of_eq (congrArg List.length h)
    · exact Nat.le_of_lt h
  have hline : (dropLine (dropExport (c :: t))).length < (c :: t).length := by
    rcases hx with h | h
    · rw [h]
      exact Nat.lt_succ_of_le (length_dropLine_cons hn t)
    · exact Nat.lt_of_le_of_lt (length_dropLine_le _) h
  unfold readBinding
  simp only
  split
  · next body hb =>
    rw [hb, List.length_cons] at he
    split
    · next x behind hbehind =>
      have hd := length_dropWhile_le (· != '\x27') body
      rw [hbehind, List.length_cons] at hd
      split
      · exact hline
      · have := length_readValue_le (body.takeWhile (· != '\x27')) behind
        omega
    · exact hline
  · split
    · exact hline
    · next hne =>
      have hv := length_readValue_le ((dropExport (c :: t)).takeWhile isNameCharacter)
        ((dropExport (c :: t)).dropWhile isNameCharacter)
      have hsum := congrArg List.length
        (List.takeWhile_append_dropWhile (p := isNameCharacter) (l := dropExport (c :: t)))
      have hpos : 0 < ((dropExport (c :: t)).takeWhile isNameCharacter).length := by
        cases h : (dropExport (c :: t)).takeWhile isNameCharacter with
        | nil => simp [h] at hne
        | cons => simp
      simp only [List.length_append] at hsum
      omega

/-- The bindings of a file, in order. -/
def bindings (t : Text) : List Binding :=
  match _trimmed : trimLeft t with
  | [] => []
  | c :: rest =>
    let read := readBinding (c :: rest)
    read.1.toList ++ bindings read.2
termination_by t.length
decreasing_by
  have hc : isBlank c = false := by
    have := List.head?_dropWhile_not isBlank t
    rw [trimLeft] at _trimmed
    simpa [_trimmed] using this
  have := length_trimLeft_le t
  have := length_readBinding hc rest
  rw [_trimmed] at *
  omega

/-! ## References -/

/-- A reference to a variable, and what stands for it if there is no such variable. -/
structure Reference where
  name : Text
  default : Option Text
  deriving DecidableEq, Repr

/-- The reference at the front of a text, and the number of its characters. -/
def reference? (t : Text) : Option (Reference × Nat) :=
  match after? "$\x7b".toList t with
  | none => none
  | some body =>
    let name := body.takeWhile fun c => !(c == '\x7d' || c == ':')
    match body.drop name.length with
    | '\x7d' :: _ => some (⟨name, none⟩, name.length + 3)
    | ':' :: '-' :: rest =>
      let default := rest.takeWhile (· != '\x7d')
      if default.length < rest.length then some (⟨name, some default⟩, name.length + default.length + 5) else none
    | _ => none

/-- The references at all places of a text, those inside of other references too. -/
def references : Text → List Reference
  | [] => []
  | c :: rest => ((reference? (c :: rest)).map Prod.fst).toList ++ references rest

/-- The text behind its first `skip` characters, with what they stand for in the place of references. -/
def expandFrom (resolve : Reference → Text) : Nat → Text → Text
  | _, [] => []
  | skip + 1, _ :: rest => expandFrom resolve skip rest
  | 0, c :: rest =>
    match reference? (c :: rest) with
    | some (r, length) => resolve r ++ expandFrom resolve (length - 1) rest
    | none => c :: expandFrom resolve 0 rest

/-- The text with what they stand for in the place of references. -/
def expand (resolve : Reference → Text) (t : Text) : Text :=
  expandFrom resolve 0 t

/-- What a reference stands for: a variable of the file, else one of the environment, else the default. A name that is
only declared stands for nothing. -/
def resolve (environment : List (Text × Text)) (known : List Binding) (r : Reference) : Text :=
  match known.find? fun b => b.1 == r.name with
  | some b => b.2.getD []
  | none =>
    match environment.reverse.find? fun v => v.1 == r.name with
    | some v => v.2
    | none => r.default.getD []

/-- Gives a name a value. A name that is there already keeps its place. -/
def assign (known : List Binding) (b : Binding) : List Binding :=
  if known.any fun k => k.1 == b.1 then known.map fun k => if k.1 == b.1 then b else k
  else known ++ [b]

/-- The variables of a file, each once, in the order in which they first come. -/
def parse (environment : List (Text × Text)) (source : Text) : List Binding :=
  (bindings source).foldl
    (fun known b => assign known (b.1, b.2.map (expand (resolve environment known)))) []

end FlowLang.EnvFile

import FlowLang.Text.Quoted

/-!
# Reading quoted texts

A quoted text can be read from left to right: the mark that it starts with ends it, a backslash tells how many characters
belong together, and so it is known where the text ends, whatever follows. Every character that it is written with may stand on
a line.
-/

namespace FlowLang.Text

/-! ## The reader -/

/-- Where the reader of a quoted text stands. -/
inductive Reading where
  | plain
  /-- behind a backslash -/
  | escaped
  /-- in a code point: how many digits follow the next one, and what those before it are worth -/
  | digits (behind value : Nat)

/-- How many digits a code point has that is written by this letter. -/
def codeWidth? : Char → Option Nat
  | 'x' => some 2
  | 'u' => some 4
  | 'U' => some 8
  | _ => none

/-- The character that stands behind a backslash as this one. -/
def unescaped : Char → Char
  | 't' => '\t'
  | 'n' => '\n'
  | 'r' => '\r'
  | c => c

def digitValue (c : Char) : Nat :=
  if c.isDigit then c.toNat - 48 else c.toNat - 87

def prepend (c : Char) (p : Text × Text) : Text × Text :=
  (c :: p.1, p.2)

/-- Reads a text up to the closing mark. Gives the text and what follows the mark. -/
def readQuoted (mark : Char) : Reading → Text → Option (Text × Text)
  | _, [] => none
  | .plain, c :: cs =>
    if c = mark then some ([], cs)
    else if c = '\\' then readQuoted mark .escaped cs
    else (readQuoted mark .plain cs).map (prepend c)
  | .escaped, c :: cs =>
    match codeWidth? c with
    | some width => readQuoted mark (.digits (width - 1) 0) cs
    | none => (readQuoted mark .plain cs).map (prepend (unescaped c))
  | .digits 0 value, c :: cs => (readQuoted mark .plain cs).map (prepend (Char.ofNat (16 * value + digitValue c)))
  | .digits (behind + 1) value, c :: cs => readQuoted mark (.digits behind (16 * value + digitValue c)) cs

/-- The characters that quoted texts stand between. -/
def IsMark (mark : Char) : Prop :=
  mark = apostrophe ∨ mark = doubleQuote

instance (mark : Char) : Decidable (IsMark mark) :=
  inferInstanceAs (Decidable (_ ∨ _))

/-- Reads the quoted text that a text starts with. -/
def unquote? : Text → Option (Text × Text)
  | [] => none
  | mark :: cs => if IsMark mark then readQuoted mark .plain cs else none

/-! ## Digits -/

theorem digitValue_digitChar {n : Nat} (h : n < 16) : digitValue (Nat.digitChar n) = n := by
  revert n
  decide

theorem add_digitValue_last (n : Nat) : 16 * (n / 16) + digitValue (Nat.digitChar (n % 16)) = n := by
  rw [digitValue_digitChar (Nat.mod_lt n (by decide)), Nat.div_add_mod]

theorem div_lt_pow {width n : Nat} (h : n < Nat.pow 16 (width + 1)) : n / 16 < Nat.pow 16 width :=
  Nat.div_lt_of_lt_mul (Nat.mul_comm _ _ ▸ h)

/-- The digits before the last ones add up to the number that they write. -/
theorem readQuoted_hex (mark : Char) {width n : Nat} (h : n < Nat.pow 16 width) (behind : Nat) (rest : Text) :
    readQuoted mark (.digits (behind + width) 0) (hex width n ++ rest) = readQuoted mark (.digits behind n) rest := by
  induction width generalizing n behind rest with
  | zero =>
      have hzero : n = 0 := Nat.lt_one_iff.mp h
      rw [hzero]
      rfl
  | succ width ih =>
      have hbehind : behind + (width + 1) = behind + 1 + width := by omega
      rw [hex, List.append_assoc, hbehind, ih (div_lt_pow h), List.singleton_append, readQuoted, add_digitValue_last]

theorem readQuoted_code (mark : Char) {width : Nat} {c : Char} (h : c.toNat < Nat.pow 16 (width + 1)) (rest : Text) :
    readQuoted mark (.digits width 0) (hex (width + 1) c.toNat ++ rest) =
      (readQuoted mark .plain rest).map (prepend c) := by
  have hdigits := readQuoted_hex mark (div_lt_pow h) 0 (Nat.digitChar (c.toNat % 16) :: rest)
  rw [Nat.zero_add] at hdigits
  rw [hex, List.append_assoc, List.singleton_append, hdigits, readQuoted, add_digitValue_last, Char.ofNat_toNat]

/-! ## Escapes -/

theorem isMark_quoteMark (t : Text) : IsMark (quoteMark t) := by
  unfold quoteMark
  split
  · exact .inr rfl
  · exact .inl rfl

variable {mark c : Char}

theorem IsMark.ne_backslash (h : IsMark mark) : '\\' ≠ mark := by
  rcases h with rfl | rfl <;> decide

/-- A mark behind a backslash stands for itself. -/
theorem IsMark.escaped (h : IsMark mark) : codeWidth? mark = none ∧ unescaped mark = mark := by
  rcases h with rfl | rfl <;> exact ⟨rfl, rfl⟩

/-- Behind a backslash the reader goes on with the escape. -/
theorem readQuoted_backslash (h : IsMark mark) (t : Text) :
    readQuoted mark .plain ('\\' :: t) = readQuoted mark .escaped t := by
  rw [readQuoted, if_neg h.ne_backslash, if_pos rfl]

theorem readQuoted_letter (h : IsMark mark) (letter : Char) (hcode : codeWidth? letter = none) (rest : Text) :
    readQuoted mark .plain ('\\' :: letter :: rest) =
      (readQuoted mark .plain rest).map (prepend (unescaped letter)) := by
  rw [readQuoted_backslash h, readQuoted, hcode]

theorem readQuoted_codePoint (h : IsMark mark) {letter : Char} {width : Nat} (hcode : codeWidth? letter = some (width + 1))
    (hc : c.toNat < Nat.pow 16 (width + 1)) (rest : Text) :
    readQuoted mark .plain ('\\' :: letter :: (hex (width + 1) c.toNat ++ rest)) =
      (readQuoted mark .plain rest).map (prepend c) := by
  rw [readQuoted_backslash h, readQuoted, hcode]
  exact readQuoted_code mark hc rest

/-- What is written for one character is read as that character, whatever follows. -/
theorem readQuoted_escape (h : IsMark mark) (c : Char) (rest : Text) :
    readQuoted mark .plain (escape mark c ++ rest) = (readQuoted mark .plain rest).map (prepend c) := by
  unfold escape
  split
  · rename_i hself
    have hescaped : codeWidth? c = none ∧ unescaped c = c := by
      simp only [Bool.or_eq_true, decide_eq_true_eq] at hself
      rcases hself with rfl | rfl
      · exact ⟨rfl, rfl⟩
      · exact h.escaped
    have hletter := readQuoted_letter h c hescaped.1 rest
    rwa [hescaped.2] at hletter
  rename_i hother
  split
  · rename_i hc
    exact hc ▸ readQuoted_letter h 't' rfl rest
  split
  · rename_i hc
    exact hc ▸ readQuoted_letter h 'n' rfl rest
  split
  · rename_i hc
    exact hc ▸ readQuoted_letter h 'r' rfl rest
  split
  · simp only [Bool.or_eq_true, decide_eq_true_eq, not_or] at hother
    rw [List.singleton_append, readQuoted, if_neg hother.2, if_neg hother.1]
  split
  · rename_i hsmall
    exact readQuoted_codePoint h (show codeWidth? 'x' = some (1 + 1) from rfl) hsmall rest
  split
  · rename_i hmiddle
    exact readQuoted_codePoint h (show codeWidth? 'u' = some (3 + 1) from rfl) hmiddle rest
  · exact readQuoted_codePoint h (show codeWidth? 'U' = some (7 + 1) from rfl) c.val.toNat_lt rest

theorem readQuoted_escapes (h : IsMark mark) (t rest : Text) :
    readQuoted mark .plain (t.flatMap (escape mark) ++ mark :: rest) = some (t, rest) := by
  induction t with
  | nil => exact if_pos rfl
  | cons c t ih =>
      rw [List.flatMap_cons, List.append_assoc, readQuoted_escape h, ih]
      rfl

/-- A quoted text is read back, and what follows it is left. -/
theorem unquote?_quoted (t rest : Text) : unquote? (quoted t ++ rest) = some (t, rest) := by
  have hmark := isMark_quoteMark t
  rw [quoted, List.append_assoc, List.singleton_append, List.cons_append, unquote?, if_pos hmark]
  exact readQuoted_escapes hmark t rest

/-! ## Characters on a line -/

/-- The character is a control character, or it separates lines or paragraphs. -/
def breaksLine (c : Char) : Bool :=
  c.toNat < 0x20 || (0x7F ≤ c.toNat && c.toNat < 0xA0) || c.toNat = 0x2028 || c.toNat = 0x2029

theorem isPrintable_eq_false {r : Range} (hr : r ∈ unprintable) (hlow : r.1 ≤ c.toNat) (hhigh : c.toNat ≤ r.2) :
    isPrintable c = false := by
  rw [isPrintable, inRanges_eq_true_iff.mpr ⟨r, hr, hlow, hhigh⟩]
  rfl

theorem breaksLine_eq_false (h : isPrintable c = true) : breaksLine c = false := by
  have hnot {r : Range} (hr : r ∈ unprintable) : ¬(r.1 ≤ c.toNat ∧ c.toNat ≤ r.2) := by
    rintro ⟨hlow, hhigh⟩
    rw [isPrintable_eq_false hr hlow hhigh] at h
    cases h
  have hcontrol := hnot (r := (0x0000, 0x001F)) (by decide +kernel)
  have hdelete := hnot (r := (0x007F, 0x00A0)) (by decide +kernel)
  have hseparator := hnot (r := (0x2028, 0x202F)) (by decide +kernel)
  simp only [breaksLine, Bool.or_eq_false_iff, Bool.and_eq_false_iff, decide_eq_false_iff_not]
  omega

/-- The printable characters that need no table. -/
def isBasic (c : Char) : Bool :=
  0x20 ≤ c.toNat && c.toNat < 0x7F

theorem isPrintable_of_isBasic (h : isBasic c = true) : isPrintable c = true := by
  have htable : unprintable.all (fun r => r.2 < 0x20 || 0x7F ≤ r.1) = true := by decide +kernel
  simp only [isBasic, Bool.and_eq_true, decide_eq_true_eq] at h
  rw [isPrintable, Bool.not_eq_true', Bool.eq_false_iff]
  intro hin
  obtain ⟨r, hr, hlow, hhigh⟩ := inRanges_eq_true_iff.mp hin
  have hrange := List.all_eq_true.mp htable r hr
  simp only [Bool.or_eq_true, decide_eq_true_eq] at hrange
  omega

theorem isPrintable_of_all {t : Text} (h : t.all isBasic = true) : ∀ c ∈ t, isPrintable c = true :=
  fun c hc => isPrintable_of_isBasic (List.all_eq_true.mp h c hc)

theorem isPrintable_of_mem_hex {width n : Nat} (h : c ∈ hex width n) : isPrintable c = true := by
  induction width generalizing n with
  | zero => cases h
  | succ width ih =>
      rcases List.mem_append.mp h with h | h
      · exact ih h
      · have hdigit : ∀ k < 16, isBasic (Nat.digitChar k) = true := by decide
        rw [List.mem_singleton.mp h]
        exact isPrintable_of_isBasic (hdigit _ (Nat.mod_lt _ (by decide)))

theorem IsMark.isPrintable (h : IsMark mark) : isPrintable mark = true := by
  apply isPrintable_of_isBasic
  rcases h with rfl | rfl <;> rfl

theorem isPrintable_of_mem_code {letters : Text} {width n : Nat} (hletters : letters.all isBasic = true)
    (h : c ∈ letters ++ hex width n) : isPrintable c = true := by
  rcases List.mem_append.mp h with h | h
  · exact isPrintable_of_all hletters c h
  · exact isPrintable_of_mem_hex h

theorem isPrintable_of_mem_escape (h : IsMark mark) {x : Char} (hc : c ∈ escape mark x) : isPrintable c = true := by
  unfold escape at hc
  split at hc
  · rename_i hself
    have hx : isPrintable x = true := by
      simp only [Bool.or_eq_true, decide_eq_true_eq] at hself
      rcases hself with rfl | rfl
      · exact isPrintable_of_isBasic rfl
      · exact h.isPrintable
    rcases List.mem_cons.mp hc with rfl | hc
    · exact isPrintable_of_isBasic rfl
    · rwa [List.mem_singleton.mp hc]
  split at hc
  · exact isPrintable_of_all rfl c hc
  split at hc
  · exact isPrintable_of_all rfl c hc
  split at hc
  · exact isPrintable_of_all rfl c hc
  split at hc
  · rename_i hprintable
    rwa [List.mem_singleton.mp hc]
  split at hc
  · exact isPrintable_of_mem_code rfl hc
  split at hc
  · exact isPrintable_of_mem_code rfl hc
  · exact isPrintable_of_mem_code rfl hc

theorem isPrintable_of_mem_quoted {t : Text} (h : c ∈ quoted t) : isPrintable c = true := by
  have hmark := isMark_quoteMark t
  rw [quoted] at h
  rcases List.mem_cons.mp h with rfl | h
  · exact hmark.isPrintable
  rcases List.mem_append.mp h with h | h
  · obtain ⟨x, -, hx⟩ := List.mem_flatMap.mp h
    exact isPrintable_of_mem_escape hmark hx
  · rw [List.mem_singleton.mp h]
    exact hmark.isPrintable

end FlowLang.Text

import FlowLang.Decimal.Numeral
import FlowLang.Proofs.Text.Occurrence
import Mathlib.Data.List.Forall2

/-!
# The grammar of numerals

A numeral is read once from left to right: all digits at the start, a point, all digits behind it, and what is left must be
an exponent. The grammar only says of which parts a numeral is made, and leaves open where one of them ends. The two agree
because of how the parts start: none of them starts with a character that the part before it could go on with.
-/

namespace FlowLang

/-! ## Letters in either case -/

namespace Text

/-- Only a letter in lower case and the same letter in upper case become it. -/
theorem toLower_eq_iff {letter : Char} (h : letter.isLower = true) (c : Char) :
    c.toLower = letter ↔ c = letter ∨ c = letter.toUpper := by
  delta Char.isLower at h
  rw [Bool.and_eq_true, decide_eq_true_eq, decide_eq_true_eq] at h
  delta Char.toLower Char.toUpper
  rw [dif_pos h]
  simp only [Char.ext_iff, ← UInt32.toNat_inj, UInt32.le_iff_toNat_le, ge_iff_le] at h ⊢
  split <;> grind [UInt32.toNat_add]

/-- The text is the word with every letter in lower or in upper case. -/
def AnyCase (word t : Text) : Prop :=
  List.Forall₂ (fun letter c => c = letter ∨ c = letter.toUpper) word t

theorem map_toLower_eq_iff {word : Text} (h : ∀ letter ∈ word, letter.isLower = true) {t : Text} :
    t.map Char.toLower = word ↔ AnyCase word t := by
  unfold AnyCase
  induction word generalizing t with
  | nil => rw [List.map_eq_nil_iff, List.forall₂_nil_left_iff]
  | cons letter word ih =>
      obtain ⟨hletter, hword⟩ := List.forall_mem_cons.mp h
      cases t with
      | nil => simp
      | cons c t => rw [List.map_cons, List.cons.injEq, List.forall₂_cons, toLower_eq_iff hletter, ih hword]

theorem AnyCase.exists_letter {word t : Text} (h : AnyCase word t) {c : Char} (hc : c ∈ t) :
    ∃ letter ∈ word, c = letter ∨ c = letter.toUpper := by
  unfold AnyCase at h
  induction h with
  | nil => cases hc
  | cons hfirst _ ih =>
      rcases List.mem_cons.mp hc with rfl | hc
      · exact ⟨_, List.mem_cons_self, hfirst⟩
      · obtain ⟨letter, hletter, hcase⟩ := ih hc
        exact ⟨letter, List.mem_cons_of_mem _ hletter, hcase⟩

end Text

namespace Numeral

open Text

/-! ## Parts of a numeral -/

def tenDigits : Text := "0123456789".toList

/-- One or more digits. -/
structure Digits (t : Text) : Prop where
  nonempty : t ≠ []
  digit : t ⊆ tenDigits

/-- A sign, or none. -/
inductive Sign : Text → Prop
  | absent : Sign []
  | plus : Sign ['+']
  | minus : Sign ['-']

/-- Digits, with or without a point. There are digits in front of the point or behind it. -/
inductive Mantissa : Text → Prop
  | whole {ds : Text} (h : Digits ds) : Mantissa ds
  | point {ds fs : Text} (h : Digits ds) (hfs : fs ⊆ tenDigits) : Mantissa (ds ++ '.' :: fs)
  | fraction {fs : Text} (h : Digits fs) : Mantissa ('.' :: fs)

/-- The letter for a power of ten and digits with an optional sign, or nothing. -/
inductive Exponent : Text → Prop
  | absent : Exponent []
  | power {e : Char} {s ds : Text} (he : e = 'e' ∨ e = 'E') (hs : Sign s) (hds : Digits ds) : Exponent (e :: (s ++ ds))

/-- The words for what is no finite number. -/
def numberWords : List String := ["inf", "infinity", "nan"]

/-- One of the words in letters of any case, or a decimal. -/
inductive Unsigned : Text → Prop
  | named {word : String} {t : Text} (hword : word ∈ numberWords) (h : AnyCase word.toList t) : Unsigned t
  | decimal {m e : Text} (hm : Mantissa m) (he : Exponent e) : Unsigned (m ++ e)

/-- The texts that are numerals. -/
inductive Spelled : Text → Prop
  | intro {s t : Text} (hs : Sign s) (ht : Unsigned t) : Spelled (s ++ t)

variable {ds e fs m rest s t : Text}

/-! ## How parts start -/

/-- The text starts with none of the characters. -/
def StartsWithout (chars t : Text) : Prop :=
  ∀ c ∈ chars, t.head? ≠ some c

theorem startsWithout_nil (chars : Text) : StartsWithout chars [] := by
  intro c _ h
  cases h

theorem startsWithout_cons {chars : Text} {c : Char} (h : c ∉ chars) (t : Text) : StartsWithout chars (c :: t) := by
  intro d hd heq
  cases heq
  exact h hd

theorem Digits.startsWithout_append (h : Digits ds) (rest : Text) : StartsWithout ['+', '-'] (ds ++ rest) := by
  obtain ⟨d, more, rfl⟩ := List.exists_cons_of_ne_nil h.nonempty
  have hdigits : isForeign ['+', '-'] tenDigits = true := rfl
  exact startsWithout_cons (not_mem_of_isForeign hdigits (h.digit List.mem_cons_self)) _

theorem Digits.startsWithout (h : Digits ds) : StartsWithout ['+', '-'] ds := by
  have hstart := h.startsWithout_append []
  rwa [List.append_nil] at hstart

theorem Mantissa.startsWithout_append (h : Mantissa m) (rest : Text) : StartsWithout ['+', '-'] (m ++ rest) := by
  cases h with
  | whole h => exact h.startsWithout_append rest
  | point h _ =>
      rw [List.append_assoc]
      exact h.startsWithout_append _
  | fraction _ => exact startsWithout_cons (by decide) _

theorem Exponent.startsWithout (h : Exponent e) : StartsWithout ('.' :: tenDigits) e := by
  cases h with
  | absent => exact startsWithout_nil _
  | power he _ _ =>
      rcases he with rfl | rfl
      · exact startsWithout_cons (by decide) _
      · exact startsWithout_cons (by decide) _

/-- The letters of the words, in either case. -/
def wordLetters : Text := "afintyAFINTY".toList

theorem mem_wordLetters {word : String} (hword : word ∈ numberWords) (h : AnyCase word.toList t) {c : Char} (hc : c ∈ t) :
    c ∈ wordLetters := by
  have hall : ∀ word ∈ numberWords,
      (word.toList.all fun letter => wordLetters.contains letter && wordLetters.contains letter.toUpper) = true := by
    decide
  obtain ⟨letter, hletter, hcase⟩ := h.exists_letter hc
  have hboth := List.all_eq_true.mp (hall word hword) letter hletter
  rw [Bool.and_eq_true, List.contains_iff_mem, List.contains_iff_mem] at hboth
  rcases hcase with rfl | rfl
  · exact hboth.1
  · exact hboth.2

theorem Unsigned.startsWithout (h : Unsigned t) : StartsWithout ['+', '-'] t := by
  cases h with
  | named hword h =>
      intro c hc hhead
      have hletters : isForeign ['+', '-'] wordLetters = true := rfl
      exact not_mem_of_isForeign hletters (mem_wordLetters hword h (List.mem_of_head? hhead)) hc
  | decimal hm _ => exact hm.startsWithout_append _

/-! ## Digits -/

theorem isDigit_iff_mem {c : Char} : c.isDigit = true ↔ c ∈ tenDigits := by
  constructor
  · intro h
    obtain ⟨hlow, hhigh⟩ : 48 ≤ c.toNat ∧ c.toNat ≤ 57 := Char.isDigit_iff_toNat.mp h
    have hsmall : c.toNat - 48 < 10 := by omega
    have hchar : Nat.digitChar (c.toNat - 48) = c := by
      rw [← Char.toNat_inj, Nat.toNat_digitChar_of_lt_ten hsmall]
      omega
    have hall : ∀ n < 10, Nat.digitChar n ∈ tenDigits := by decide
    exact hchar ▸ hall _ hsmall
  · exact List.all_eq_true.mp (show tenDigits.all Char.isDigit = true from rfl) c

theorem isDigits_iff : isDigits t = true ↔ Digits t := by
  rw [isDigits, Bool.and_eq_true, Bool.not_eq_true', List.isEmpty_eq_false_iff, List.all_eq_true]
  simp only [isDigit_iff_mem]
  exact ⟨fun h => ⟨h.1, h.2⟩, fun h => ⟨h.nonempty, h.digit⟩⟩

/-- All digits at the start are taken, as far as the text does not go on with another one. -/
theorem takeWhile_isDigit_append (hds : ds ⊆ tenDigits) (hrest : StartsWithout tenDigits rest) :
    (ds ++ rest).takeWhile Char.isDigit = ds ∧ (ds ++ rest).dropWhile Char.isDigit = rest := by
  have hdigits : ∀ c ∈ ds, c.isDigit = true := fun c hc => isDigit_iff_mem.mpr (hds hc)
  rw [List.takeWhile_append_of_pos hdigits, List.dropWhile_append_of_pos hdigits]
  cases rest with
  | nil => exact ⟨List.append_nil ds, rfl⟩
  | cons c rest =>
      have hc : ¬c.isDigit = true := fun h => hrest c (isDigit_iff_mem.mp h) rfl
      rw [List.takeWhile_cons_of_neg hc, List.dropWhile_cons_of_neg hc]
      exact ⟨List.append_nil ds, rfl⟩

theorem exists_digits (t : Text) :
    ∃ ds rest, t = ds ++ rest ∧ ds ⊆ tenDigits ∧ StartsWithout tenDigits rest := by
  refine ⟨t.takeWhile Char.isDigit, t.dropWhile Char.isDigit, List.takeWhile_append_dropWhile.symm, ?_, ?_⟩
  · intro c hc
    exact isDigit_iff_mem.mp (List.all_eq_true.mp List.all_takeWhile c hc)
  · intro c hc hhead
    have hnot := List.head?_dropWhile_not Char.isDigit t
    rw [hhead] at hnot
    exact Bool.eq_false_iff.mp hnot (isDigit_iff_mem.mpr hc)

/-! ## Signs and exponents -/

theorem exists_sign (t : Text) : ∃ s, Sign s ∧ t = s ++ (sign t).2 := by
  unfold sign
  split
  · exact ⟨['-'], .minus, rfl⟩
  · exact ⟨['+'], .plus, rfl⟩
  · exact ⟨[], .absent, rfl⟩

theorem sign_append (hs : Sign s) (ht : StartsWithout ['+', '-'] t) : (sign (s ++ t)).2 = t := by
  cases hs with
  | absent =>
      show (sign t).2 = t
      unfold sign
      split
      · exact absurd rfl (ht '-' (by decide))
      · exact absurd rfl (ht '+' (by decide))
      · rfl
  | plus => rfl
  | minus => rfl

theorem isSome_exponent?_iff : (exponent? t).isSome = true ↔ Exponent t := by
  cases t with
  | nil => exact iff_of_true rfl .absent
  | cons e rest =>
      have hsome : (exponent? (e :: rest)).isSome = true ↔ e.toLower = 'e' ∧ isDigits (sign rest).2 = true := by
        simp [exponent?]
      rw [hsome, isDigits_iff, toLower_eq_iff (by decide)]
      constructor
      · rintro ⟨he, hdigits⟩
        obtain ⟨s, hs, hrest⟩ := exists_sign rest
        rw [hrest]
        exact .power he hs hdigits
      · intro h
        cases h with
        | power he hs hds =>
            have hsign := sign_append hs hds.startsWithout
            exact ⟨he, hsign.symm ▸ hds⟩

/-! ## Decimals -/

theorem isSome_decimal?_point (negative : Bool) (hds : ds ⊆ tenDigits) (hfs : fs ⊆ tenDigits)
    (hrest : StartsWithout tenDigits rest) :
    (decimal? negative (ds ++ '.' :: (fs ++ rest))).isSome = true ↔ (ds ≠ [] ∨ fs ≠ []) ∧ Exponent rest := by
  have hpoint : StartsWithout tenDigits ('.' :: (fs ++ rest)) := startsWithout_cons (by decide) _
  obtain ⟨htake, hdrop⟩ := takeWhile_isDigit_append hds hpoint
  obtain ⟨htake', hdrop'⟩ := takeWhile_isDigit_append hfs hrest
  simp only [decimal?, htake, hdrop, htake', hdrop', ← isSome_exponent?_iff]
  cases ds <;> cases fs <;> simp

theorem isSome_decimal?_whole (negative : Bool) (hds : ds ⊆ tenDigits) (hrest : StartsWithout ('.' :: tenDigits) rest) :
    (decimal? negative (ds ++ rest)).isSome = true ↔ ds ≠ [] ∧ Exponent rest := by
  obtain ⟨htake, hdrop⟩ := takeWhile_isDigit_append hds fun c hc => hrest c (List.mem_cons_of_mem _ hc)
  rw [← isSome_exponent?_iff]
  unfold decimal?
  rw [htake, hdrop]
  split
  · exact absurd rfl (hrest '.' List.mem_cons_self)
  · cases ds <;> simp

theorem isSome_decimal?_iff (negative : Bool) :
    (decimal? negative t).isSome = true ↔ ∃ m e, Mantissa m ∧ Exponent e ∧ t = m ++ e := by
  constructor
  · intro h
    -- the parts of the text are those at which reading stops
    obtain ⟨ds, rest, rfl, hds, hrest⟩ := exists_digits t
    by_cases hpoint : rest.head? = some '.'
    · obtain ⟨behind, rfl⟩ := List.head?_eq_some_iff.mp hpoint
      obtain ⟨fs, e, rfl, hfs, he⟩ := exists_digits behind
      obtain ⟨hne, hexponent⟩ := (isSome_decimal?_point negative hds hfs he).mp h
      refine ⟨ds ++ '.' :: fs, e, ?_, hexponent, by simp⟩
      by_cases hnil : ds = []
      · subst hnil
        exact .fraction ⟨hne.resolve_left (not_not_intro rfl), hfs⟩
      · exact .point ⟨hnil, hds⟩ hfs
    · have hstart : StartsWithout ('.' :: tenDigits) rest := List.forall_mem_cons.mpr ⟨hpoint, hrest⟩
      obtain ⟨hne, hexponent⟩ := (isSome_decimal?_whole negative hds hstart).mp h
      exact ⟨ds, rest, .whole ⟨hne, hds⟩, hexponent, rfl⟩
  · rintro ⟨m, e, hm, he, rfl⟩
    -- reading stops at the parts, since an exponent starts with neither a digit nor a point
    have hdigits : StartsWithout tenDigits e := fun c hc => he.startsWithout c (List.mem_cons_of_mem _ hc)
    cases hm with
    | whole h => exact (isSome_decimal?_whole negative h.digit he.startsWithout).mpr ⟨h.nonempty, he⟩
    | @point ds fs h hfs =>
        rw [List.append_assoc, List.cons_append]
        exact (isSome_decimal?_point negative h.digit hfs hdigits).mpr ⟨.inl h.nonempty, he⟩
    | fraction h => exact (isSome_decimal?_point negative (List.nil_subset _) h.digit hdigits).mpr ⟨.inr h.nonempty, he⟩

/-! ## Numerals -/

theorem unsigned_iff (negative : Bool) :
    Unsigned t ↔ (∃ word ∈ numberWords, AnyCase word.toList t) ∨ (decimal? negative t).isSome = true := by
  rw [isSome_decimal?_iff]
  constructor
  · intro h
    cases h with
    | named hword h => exact .inl ⟨_, hword, h⟩
    | decimal hm he => exact .inr ⟨_, _, hm, he, rfl⟩
  · rintro (⟨word, hword, h⟩ | ⟨m, e, hm, he, rfl⟩)
    · exact .named hword h
    · exact .decimal hm he

theorem isSome_parse?_iff : (parse? t).isSome = true ↔ Unsigned (sign t).2 := by
  have hlower : ∀ word ∈ numberWords, word.toList.all Char.isLower = true := by decide
  have hword {word : String} (h : word ∈ numberWords) :
      (sign t).2.map Char.toLower = word.toList ↔ AnyCase word.toList (sign t).2 :=
    map_toLower_eq_iff (List.all_eq_true.mp (hlower word h))
  rw [unsigned_iff (sign t).1]
  unfold parse?
  dsimp only
  split
  · rename_i hinfinite
    rcases hinfinite with h | h
    · exact iff_of_true rfl (.inl ⟨"inf", by decide, (hword (by decide)).mp h⟩)
    · exact iff_of_true rfl (.inl ⟨"infinity", by decide, (hword (by decide)).mp h⟩)
  · rename_i hinfinite
    split
    · rename_i h
      exact iff_of_true rfl (.inl ⟨"nan", by decide, (hword (by decide)).mp h⟩)
    · rename_i hnan
      refine (or_iff_right ?_).symm
      rintro ⟨word, hmem, h⟩
      have heq := (hword hmem).mpr h
      simp only [numberWords, List.mem_cons, List.not_mem_nil, or_false] at hmem
      rcases hmem with rfl | rfl | rfl
      · exact hinfinite (.inl heq)
      · exact hinfinite (.inr heq)
      · exact hnan heq

/-! ## Characters of numerals -/

def characters : Text := "+-.0123456789aefintyAEFINTY".toList

theorem tenDigits_subset : tenDigits ⊆ characters := by
  decide

theorem Sign.subset (h : Sign s) : s ⊆ characters := by
  cases h <;> decide

theorem Digits.subset (h : Digits ds) : ds ⊆ characters :=
  List.Subset.trans h.digit tenDigits_subset

theorem Mantissa.subset (h : Mantissa m) : m ⊆ characters := by
  have hpoint : '.' ∈ characters := by decide
  cases h with
  | whole h => exact h.subset
  | point h hfs =>
      have hfraction := List.Subset.trans hfs tenDigits_subset
      exact List.append_subset.mpr ⟨h.subset, List.cons_subset.mpr ⟨hpoint, hfraction⟩⟩
  | fraction h => exact List.cons_subset.mpr ⟨hpoint, h.subset⟩

theorem Exponent.subset (h : Exponent e) : e ⊆ characters := by
  cases h with
  | absent => exact List.nil_subset _
  | power he hs hds =>
      have hpower := List.append_subset.mpr ⟨hs.subset, hds.subset⟩
      rcases he with rfl | rfl
      · exact List.cons_subset.mpr ⟨by decide, hpower⟩
      · exact List.cons_subset.mpr ⟨by decide, hpower⟩

theorem Unsigned.subset (h : Unsigned t) : t ⊆ characters := by
  have hletters : wordLetters ⊆ characters := by decide
  cases h with
  | named hword h => exact fun c hc => hletters (mem_wordLetters hword h hc)
  | decimal hm he => exact List.append_subset.mpr ⟨hm.subset, he.subset⟩

theorem Spelled.subset (h : Spelled t) : t ⊆ characters := by
  obtain ⟨hs, ht⟩ := h
  exact List.append_subset.mpr ⟨hs.subset, ht.subset⟩

end Numeral

/-- The recogniser accepts what the grammar spells, and nothing else. -/
theorem isNumeral_iff {t : Text} : isNumeral t = true ↔ Numeral.Spelled t := by
  rw [isNumeral, Numeral.isSome_parse?_iff]
  constructor
  · intro h
    obtain ⟨s, hs, ht⟩ := Numeral.exists_sign t
    rw [ht]
    exact .intro hs h
  · rintro ⟨hs, ht⟩
    rwa [Numeral.sign_append hs ht.startsWithout]

end FlowLang

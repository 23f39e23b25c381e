import FlowLang.Text.Blank

/-!
# Texts

A text is the list of its characters. This module holds the operations that the rest of the library is
written in: trimming, recognising what a text starts or ends with, cutting it at a mark, splitting it at a
character, and replacing a word by another. Each comes with the equation that says what it does to the text.
-/

namespace FlowLang

/-- A text is the sequence of its characters; lengths, columns and cuts count characters. -/
abbrev Text := List Char

namespace Text

/-! ## Trimming -/

/-- The text without the blank characters at its start. -/
def trimLeft (t : Text) : Text :=
  t.dropWhile isBlank

/-- The text without the blank characters at its end. -/
def trimRight (t : Text) : Text :=
  (t.reverse.dropWhile isBlank).reverse

/-- The text without the blank characters at both ends. -/
def trim (t : Text) : Text :=
  trimRight (trimLeft t)

theorem length_dropWhile_le (p : Char → Bool) (t : Text) : (t.dropWhile p).length ≤ t.length :=
  (List.dropWhile_sublist p).length_le

theorem length_trimLeft_le (t : Text) : (trimLeft t).length ≤ t.length :=
  length_dropWhile_le _ t

theorem length_trimRight_le (t : Text) : (trimRight t).length ≤ t.length := by
  have h := length_dropWhile_le isBlank t.reverse
  simpa [trimRight] using h

theorem length_trim_le (t : Text) : (trim t).length ≤ t.length :=
  Nat.le_trans (length_trimRight_le _) (length_trimLeft_le t)

/-! ## Starts and ends -/

/-- What follows `lead` when the text starts with it. -/
def after? : Text → Text → Option Text
  | [], t => some t
  | _ :: _, [] => none
  | p :: ps, c :: cs => if p = c then after? ps cs else none

/-- What precedes `tail` when the text ends with it. -/
def before? (tail t : Text) : Option Text :=
  (after? tail.reverse t.reverse).map List.reverse

/-- The text between `lead` and `tail` when it starts with the one and, beyond that, ends with the other. -/
def between? (lead tail t : Text) : Option Text :=
  (after? lead t).bind (before? tail)

theorem after?_eq_some_iff {lead t r : Text} : after? lead t = some r ↔ t = lead ++ r := by
  induction lead generalizing t with
  | nil => simp [after?, eq_comm]
  | cons p ps ih =>
    cases t with
    | nil => simp [after?]
    | cons c cs =>
      by_cases h : p = c
      · simp [after?, h, ih]
      · simp [after?, h, Ne.symm h]

theorem before?_eq_some_iff {tail t r : Text} : before? tail t = some r ↔ t = r ++ tail := by
  simp only [before?, Option.map_eq_some_iff, after?_eq_some_iff]
  constructor
  · rintro ⟨u, hu, rfl⟩
    have := congrArg List.reverse hu
    simpa using this
  · rintro rfl
    exact ⟨r.reverse, by simp, by simp⟩

theorem between?_eq_some_iff {lead tail t r : Text} :
    between? lead tail t = some r ↔ t = lead ++ r ++ tail := by
  simp only [between?, Option.bind_eq_some_iff, after?_eq_some_iff, before?_eq_some_iff]
  constructor
  · rintro ⟨u, rfl, rfl⟩
    simp
  · rintro rfl
    exact ⟨r ++ tail, by simp, rfl⟩

/-! ## Cutting and splitting -/

/-- The texts around the first occurrence of `mark`. -/
def cut? (mark : Text) : Text → Option (Text × Text)
  | [] => if mark.isEmpty then some ([], []) else none
  | c :: cs =>
    match after? mark (c :: cs) with
    | some rest => some ([], rest)
    | none => (cut? mark cs).map fun p => (c :: p.1, p.2)

/-- The position of the first occurrence of `mark`. -/
def position? (mark t : Text) : Option Nat :=
  (cut? mark t).map fun p => p.1.length

/-- The mark occurs in the text. -/
def occurs (mark t : Text) : Bool :=
  (cut? mark t).isSome

theorem eq_of_cut? {mark t a b : Text} (h : cut? mark t = some (a, b)) : t = a ++ mark ++ b := by
  induction t generalizing a b with
  | nil =>
    simp only [cut?] at h
    split at h
    · next he =>
      simp only [Option.some.injEq, Prod.mk.injEq] at h
      simp [List.isEmpty_iff.mp he, ← h.1, ← h.2]
    · cases h
  | cons c cs ih =>
    simp only [cut?] at h
    split at h
    · next rest hr =>
      simp only [Option.some.injEq, Prod.mk.injEq] at h
      rw [after?_eq_some_iff.mp hr, ← h.1, ← h.2]
      simp
    · simp only [Option.map_eq_some_iff, Prod.mk.injEq] at h
      obtain ⟨⟨a', b'⟩, hc, rfl, rfl⟩ := h
      simp [ih hc]

theorem length_of_cut? {mark t a b : Text} (h : cut? mark t = some (a, b)) :
    t.length = a.length + mark.length + b.length := by
  simp [eq_of_cut? h, Nat.add_assoc]

/-- The pieces of the text between the occurrences of `sep`; there is always at least one. -/
def splitOn (sep : Char) : Text → List Text
  | [] => [[]]
  | c :: cs => if c = sep then [] :: splitOn sep cs else (splitOn sep cs).modifyHead (c :: ·)

/-- The lines of a text: its pieces between line feeds. -/
def lines (t : Text) : List Text :=
  splitOn '\n' t

theorem splitOn_ne_nil (sep : Char) (t : Text) : splitOn sep t ≠ [] := by
  cases t with
  | nil => simp [splitOn]
  | cons c cs =>
    simp only [splitOn]
    split
    · simp
    · have := splitOn_ne_nil sep cs
      cases h : splitOn sep cs with
      | nil => exact absurd h this
      | cons l ls => simp

/-- The texts one after another with `sep` between each two neighbours. -/
def joinWith (sep : Text) (ts : List Text) : Text :=
  sep.intercalate ts

/-! ## Replacing -/

/-- Replaces from left to right, after skipping the first `skip` characters. -/
def replaceFrom (old new : Text) : Nat → Text → Text
  | _, [] => []
  | skip + 1, _ :: cs => replaceFrom old new skip cs
  | 0, c :: cs =>
    match after? old (c :: cs) with
    | some _ => new ++ replaceFrom old new (old.length - 1) cs
    | none => c :: replaceFrom old new 0 cs

/-- Every occurrence of `old` replaced by `new`, from left to right and without overlap. -/
def replaceAll (old new t : Text) : Text :=
  replaceFrom old new 0 t

theorem replaceFrom_eq_drop (old new : Text) (skip : Nat) (t : Text) :
    replaceFrom old new skip t = replaceFrom old new 0 (t.drop skip) := by
  induction t generalizing skip with
  | nil => cases skip <;> simp [replaceFrom]
  | cons c cs ih =>
    cases skip with
    | zero => rfl
    | succ n => simpa [replaceFrom] using ih n

@[simp] theorem replaceAll_nil (old new : Text) : replaceAll old new [] = [] := rfl

/-- At an occurrence the replacement is written and the search goes on behind it. -/
theorem replaceAll_append {old : Text} (new : Text) (h : old ≠ []) (t : Text) :
    replaceAll old new (old ++ t) = new ++ replaceAll old new t := by
  cases old with
  | nil => exact absurd rfl h
  | cons p ps =>
    have hp : after? (p :: ps) (p :: (ps ++ t)) = some t := after?_eq_some_iff.mpr rfl
    simp only [replaceAll, List.cons_append, replaceFrom, hp]
    rw [replaceFrom_eq_drop]
    simp

/-- Where there is no occurrence the character stays. -/
theorem replaceAll_cons {old : Text} (new : Text) {c : Char} {cs : Text} (h : after? old (c :: cs) = none) :
    replaceAll old new (c :: cs) = c :: replaceAll old new cs := by
  simp [replaceAll, replaceFrom, h]

end Text

end FlowLang

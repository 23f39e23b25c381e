import FlowLang.Editor.Completion
import FlowLang.Editor.Outline
import Mathlib.Data.List.DropRight

/-!
# What a completion offers

The word being typed is the longest end of what stands before the cursor that has only word characters. The words that are
offered are those that it is the start of, so every character typed behind it can only narrow them.
-/

namespace FlowLang.Editor

open Text

variable {before w v : Text} {c : Char}

/-! ## The word being typed -/

/-- The longest end of a text that has only word characters. -/
structure Typed (before w : Text) : Prop where
  isSuffix : w <:+ before
  isWord : ∀ c ∈ w, isWord c = true
  longest : ∀ v, v <:+ before → (∀ c ∈ v, Text.isWord c = true) → v <:+ w

theorem typedWord_eq (before : Text) : typedWord before = before.rtakeWhile isWord := rfl

theorem isSuffix_typedWord (hsuffix : v <:+ before) (hword : ∀ c ∈ v, isWord c = true) : v <:+ typedWord before := by
  obtain ⟨front, rfl⟩ := hsuffix
  have hback : ∀ c ∈ v.reverse, isWord c = true := fun c hc => hword c (List.mem_reverse.mp hc)
  rw [typedWord, List.reverse_append, List.takeWhile_append_of_pos hback, List.reverse_append, List.reverse_reverse]
  exact List.suffix_append _ _

theorem typed_typedWord (before : Text) : Typed before (typedWord before) := by
  rw [typedWord_eq]
  exact ⟨List.rtakeWhile_suffix _ _, fun c hc => List.mem_rtakeWhile_imp hc, fun v => isSuffix_typedWord⟩

theorem typed_iff : Typed before w ↔ w = typedWord before := by
  constructor
  · intro h
    have hshort := isSuffix_typedWord h.isSuffix h.isWord
    have hlong := h.longest _ (typed_typedWord before).isSuffix (typed_typedWord before).isWord
    exact hshort.eq_of_length_le hlong.length_le
  · rintro rfl
    exact typed_typedWord before

theorem typedWord_concat (before : Text) (h : isWord c = true) : typedWord (before ++ [c]) = typedWord before ++ [c] := by
  rw [typedWord_eq, List.rtakeWhile_concat_pos isWord before c h, typedWord_eq]

theorem typedWord_concat_of_not (before : Text) (h : isWord c = false) : typedWord (before ++ [c]) = [] := by
  rw [typedWord_eq, List.rtakeWhile_concat_neg isWord before c (by simp [h])]

/-! ## The words offered -/

/-- The words that go on with what is typed. -/
def extending (w : Text) : List Completion :=
  vocabulary.filter fun c => decide (w <+: c.word)

theorem complete_eq (source : Text) (p : Position) :
    complete source p = extending (typedWord ((lineAt (lines source) p.line).take p.character)) := by
  apply List.filter_congr
  intro c _
  rw [Bool.eq_iff_iff, List.isPrefixOf_iff_prefix, decide_eq_true_iff]
  rfl

theorem extending_nil : extending [] = vocabulary := by
  apply List.filter_eq_self.mpr
  intro c _
  exact decide_eq_true (List.nil_prefix)

theorem extending_sublist (h : w <+: v) : (extending v).Sublist (extending w) := by
  apply List.monotone_filter_right
  intro c hc
  exact decide_eq_true (h.trans (of_decide_eq_true hc))

theorem nodup_extending (w : Text) : ((extending w).map Completion.word).Nodup := by
  have hall : (vocabulary.map Completion.word).Nodup := by decide +kernel
  exact (List.filter_sublist.map _).nodup hall

theorem take_succ_of_getElem? {row : Text} {n : Nat} (h : row[n]? = some c) : row.take (n + 1) = row.take n ++ [c] := by
  rw [List.take_add_one, h, Option.toList_some]

/-- The words that are offered are those that the word being typed is the start of, in the order of the vocabulary and each
once. The vocabulary has the keywords and behind them the values. One more word character leaves some of the words, and
behind any other character and at the start of a line there are all. Behind the end of a line the cursor stands at its
end. -/
theorem completions_extend_typed (source : Text) (p : Position) :
    let row := lineAt (lines source) p.line
    vocabulary.map (fun c => (String.ofList c.word, c.kind)) =
      ["say", "let", "if", "then", "else", "end", "loop", "times", "while", "do", "define", "return", "grow", "break",
        "continue", "and", "or", "not"].map (·, .keyword) ++
      ["phi", "true", "false"].map (·, .value) ∧
    (∃ w, (∀ v, Typed (row.take p.character) v ↔ v = w) ∧
      complete source p = vocabulary.filter fun c => decide (w <+: c.word)) ∧
    ((complete source p).map Completion.word).Nodup ∧
    (∀ c, row[p.character]? = some c → isWord c = true →
      (complete source { p with character := p.character + 1 }).Sublist (complete source p)) ∧
    (p.character = 0 → complete source p = vocabulary) ∧
    (∀ n c, p.character = n + 1 → row[n]? = some c → isWord c = false → complete source p = vocabulary) ∧
    (row.length ≤ p.character → complete source p = complete source { p with character := row.length }) ∧
    ((lines source).length ≤ p.line → row = [] ∧ complete source p = vocabulary) := by
  intro row
  have heq := complete_eq source
  refine ⟨rfl, ⟨_, fun v => typed_iff, heq p⟩, ?_, ?_, ?_, ?_, ?_, ?_⟩
  · rw [heq]
    exact nodup_extending _
  · intro c hc hword
    rw [heq, heq, take_succ_of_getElem? hc, typedWord_concat _ hword]
    exact extending_sublist (List.prefix_append _ _)
  · intro hzero
    rw [heq, hzero]
    exact extending_nil
  · intro n c hn hc hword
    rw [heq, hn, take_succ_of_getElem? hc, typedWord_concat_of_not _ hword, extending_nil]
  · intro hlength
    rw [heq, heq, List.take_of_length_le hlength, List.take_length]
  · intro hbehind
    have hrow : row = [] := by
      simp only [row, lineAt, List.getElem?_eq_none hbehind, Option.getD_none]
    refine ⟨hrow, ?_⟩
    rw [heq, show lineAt (lines source) p.line = [] from hrow, List.take_nil]
    exact extending_nil

/-- At the end of a line, in its last word, behind the blank before that, at its start, and below the last line. -/
theorem completions_extend_typed_value :
    let source := "let x = ph".toList
    (lineAt (lines source) 0)[9]? = some 'h' ∧ isWord 'h' = true ∧
      (complete source ⟨0, 10⟩).Sublist (complete source ⟨0, 9⟩) ∧
      (complete source ⟨0, 10⟩).map Completion.word = ["phi".toList] ∧
      (lineAt (lines source) 0)[7]? = some ' ' ∧ isWord ' ' = false ∧ complete source ⟨0, 8⟩ = vocabulary ∧
      (lineAt (lines source) 0).length ≤ 99 ∧ complete source ⟨0, 99⟩ = complete source ⟨0, 10⟩ ∧
      (lines source).length ≤ 1 ∧ complete source ⟨1, 4⟩ = vocabulary ∧ complete source ⟨0, 0⟩ = vocabulary := by
  intro source
  have hletter : (lineAt (lines source) 0)[9]? = some 'h' := by decide
  have hword : isWord 'h' = true := by decide +kernel
  have hblank : (lineAt (lines source) 0)[7]? = some ' ' := by decide
  have hnone : isWord ' ' = false := by decide +kernel
  have hlength : (lineAt (lines source) 0).length ≤ 99 := by decide
  have hbehind : (lines source).length ≤ 1 := by decide
  have hphi : (complete source ⟨0, 10⟩).map Completion.word = ["phi".toList] := by decide +kernel
  obtain ⟨-, -, -, hnarrow, -⟩ := completions_extend_typed source ⟨0, 9⟩
  obtain ⟨-, -, -, -, hstart, -⟩ := completions_extend_typed source ⟨0, 0⟩
  obtain ⟨-, -, -, -, -, hall, -⟩ := completions_extend_typed source ⟨0, 8⟩
  obtain ⟨-, -, -, -, -, -, hend, -⟩ := completions_extend_typed source ⟨0, 99⟩
  obtain ⟨-, -, -, -, -, -, -, hbelow⟩ := completions_extend_typed source ⟨1, 4⟩
  exact ⟨hletter, hword, hnarrow 'h' hletter hword, hphi, hblank, hnone, hall 7 ' ' rfl hblank hnone, hlength, hend hlength,
    hbehind, (hbelow hbehind).2, hstart rfl⟩

end FlowLang.Editor

import FlowLang.Cpp.Expression
import FlowLang.Proofs.Text.Basic

/-!
# What translation keeps of an expression

Translating an expression takes away blanks and a few words, and adds a few others. The characters that occur in none of
them stay, in their order, and no characters come in but those of the words.
-/

namespace FlowLang.Cpp

open Text

/-- The words that translation takes away or adds. -/
def translationWords : List String :=
  ["phi", "1.6180339887498948", "std::string(", "std::pow(", ", ", ")", " ^ ", " and ", " && ", " or ", " || ", "not ", "!"]

/-- No character of the class is blank or occurs in a word of translation. -/
structure Untouched (p : Char → Bool) : Prop where
  blank : ∀ c, isBlank c = true → p c = false
  word : ∀ w ∈ translationWords, w.toList.filter p = []

variable {p : Char → Bool}

/-- No blank is in a class of characters that are all listed and not blank. -/
theorem eq_false_of_isBlank (marks : Text) (hmarks : marks.any isBlank = false) (hp : ∀ c, p c = true → c ∈ marks) (c : Char)
    (hc : isBlank c = true) : p c = false := by
  rw [Bool.eq_false_iff]
  exact fun h => List.any_eq_false.mp hmarks c (hp c h) hc

/-- Those of the words that spelling the operators takes away or adds. -/
def operatorSpellings : List String :=
  [" and ", " && ", " or ", " || ", "not ", "!"]

theorem operatorSpellings_subset : operatorSpellings ⊆ translationWords := by
  decide

theorem filter_spellOperators (h : ∀ w ∈ operatorSpellings, w.toList.filter p = []) (t : Text) :
    (spellOperators t).filter p = t.filter p := by
  unfold spellOperators
  rw [filter_replaceAll (h "not " (by decide)) (h "!" (by decide)) (by decide),
    filter_replaceAll (h " or " (by decide)) (h " || " (by decide)) (by decide),
    filter_replaceAll (h " and " (by decide)) (h " && " (by decide)) (by decide)]

theorem filter_power (h : Untouched p) (base exponent : Code) :
    (power base exponent).text.filter p = base.text.filter p ++ exponent.text.filter p := by
  unfold power
  rw [List.filter_append, List.filter_append, List.filter_append, List.filter_append, h.word "std::pow(" (by decide),
    h.word ", " (by decide), h.word ")" (by decide), List.append_nil, List.append_nil, List.nil_append]

theorem filter_translateTrimmed (h : Untouched p) (t : Text) : (translateTrimmed t).text.filter p = t.filter p := by
  fun_induction translateTrimmed t with
  | case1 => exact (h.word "1.6180339887498948" (by decide)).trans (h.word "phi" (by decide)).symm
  | case2 t _ _ =>
      rw [List.filter_append, List.filter_append, h.word "std::string(" (by decide), h.word ")" (by decide)]
      simp
  | case3 => rfl
  | case4 => rfl
  | case5 t _ _ _ _ base exponent hcut ihBase ihExponent =>
      rw [filter_power h, ihBase, ihExponent, filter_trim h.blank, filter_trim h.blank, eq_of_cut? hcut,
        List.filter_append, List.filter_append]
      have hmark : powerMark.filter p = [] := h.word " ^ " (by decide)
      rw [hmark, List.append_nil]
  | case6 t _ _ _ _ _ => exact filter_spellOperators (fun w hw => h.word w (operatorSpellings_subset hw)) t

theorem filter_translate (h : Untouched p) (e : Text) : (translate e).text.filter p = e.filter p := by
  rw [translate, filter_translateTrimmed h, filter_trim h.blank]

/-! ## Where the characters come from -/

section
variable {P : Char → Prop} (hwords : ∀ w ∈ translationWords, ∀ c ∈ w.toList, P c)
include hwords

theorem forall_mem_spellOperators {t : Text} (h : ∀ c ∈ t, P c) : ∀ c ∈ spellOperators t, P c := by
  unfold spellOperators
  exact forall_mem_replaceAll (hwords "!" (by decide)) (forall_mem_replaceAll (hwords " || " (by decide))
    (forall_mem_replaceAll (hwords " && " (by decide)) h))

theorem forall_mem_translateTrimmed {t : Text} (h : ∀ c ∈ t, P c) : ∀ c ∈ (translateTrimmed t).text, P c := by
  fun_induction translateTrimmed t with
  | case1 => exact hwords "1.6180339887498948" (by decide)
  | case2 t _ _ =>
      have hopen := hwords "std::string(" (by decide)
      have hclose := hwords ")" (by decide)
      exact List.forall_mem_append.mpr ⟨List.forall_mem_append.mpr ⟨hopen, h⟩, hclose⟩
  | case3 => exact h
  | case4 => exact h
  | case5 t _ _ _ _ base exponent hcut ihBase ihExponent =>
      rw [eq_of_cut? hcut, List.forall_mem_append, List.forall_mem_append] at h
      obtain ⟨⟨hbase, _⟩, hexponent⟩ := h
      have hleft := ihBase fun c hc => hbase c ((isInfix_trim base).subset hc)
      have hright := ihExponent fun c hc => hexponent c ((isInfix_trim exponent).subset hc)
      have hopen := hwords "std::pow(" (by decide)
      have hcomma := hwords ", " (by decide)
      have hclose := hwords ")" (by decide)
      unfold power
      rw [List.forall_mem_append, List.forall_mem_append, List.forall_mem_append, List.forall_mem_append]
      exact ⟨⟨⟨⟨hopen, hleft⟩, hcomma⟩, hright⟩, hclose⟩
  | case6 t _ _ _ _ _ => exact forall_mem_spellOperators hwords h

/-- What holds of all characters of an expression, and of the words of translation, holds of its translation. -/
theorem forall_mem_translate {e : Text} (h : ∀ c ∈ e, P c) : ∀ c ∈ (translate e).text, P c :=
  forall_mem_translateTrimmed hwords fun c hc => h c ((isInfix_trim e).subset hc)

end

end FlowLang.Cpp

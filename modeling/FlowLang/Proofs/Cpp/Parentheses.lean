import FlowLang.Proofs.Cpp.Expression
import FlowLang.Proofs.Text.Balance

/-!
# Parentheses of expressions

An expression is split at power operators wherever these stand, also between a parenthesis and the one that closes it. What
translation adds are whole calls, each with both of its parentheses. So an expression and its translation have the same
surplus of opening parentheses, and no part of the translation from its start closes more than some part of the expression
does. In this form, which asks for no balance, the statement holds of both sides of a split.
-/

namespace FlowLang.Cpp

open Text

def isParenthesis (c : Char) : Bool :=
  c == '(' || c == ')'

/-- The second text opens as much as the first, and its lowest point is no lower. -/
structure Keeps (t s : Text) : Prop where
  surplus_eq : surplus '(' ')' s = surplus '(' ')' t
  lowest_le : lowest '(' ')' t ≤ lowest '(' ')' s

namespace Keeps

variable {a b r s t : Text}

theorem of_filter_eq (h : s.filter isParenthesis = t.filter isParenthesis) : Keeps t s where
  surplus_eq := by rw [← surplus_filter (p := isParenthesis) rfl rfl s, h, surplus_filter rfl rfl]
  lowest_le := Int.le_of_eq (by rw [← lowest_filter (p := isParenthesis) rfl rfl s, h, lowest_filter rfl rfl])

theorem trans (hrs : Keeps r s) (hst : Keeps s t) : Keeps r t :=
  ⟨hst.surplus_eq.trans hrs.surplus_eq, Int.le_trans hrs.lowest_le hst.lowest_le⟩

theorem append (ha : Keeps a s) (hb : Keeps b t) : Keeps (a ++ b) (s ++ t) := by
  have hlowA := ha.lowest_le
  have hlowB := hb.lowest_le
  constructor
  · rw [surplus_append, surplus_append, ha.surplus_eq, hb.surplus_eq]
  · rw [lowest_append, lowest_append, ha.surplus_eq]
    omega

theorem enclose (h : Keeps t s) : Keeps t ('(' :: (s ++ [')'])) := by
  have hopen : surplus '(' ')' ['('] = 1 := rfl
  have hclose : surplus '(' ')' [')'] = -1 := rfl
  have hend : lowest '(' ')' [')'] = -1 := rfl
  have htotal := h.surplus_eq
  have hlow := h.lowest_le
  have hnonpos := lowest_nonpos '(' ')' t
  -- the added closing parenthesis falls back to the surplus of the whole text, which is one of its own points
  have hwhole : lowest '(' ')' t ≤ surplus '(' ')' t := lowest_le_surplus (List.prefix_refl t)
  constructor
  · rw [surplus_cons, surplus_append, hopen, hclose]
    omega
  · rw [lowest, lowest_append, hopen, hend]
    omega

/-- A call around a text adds one parenthesis on either side. -/
theorem call {opening : Text} (hopening : opening.filter isParenthesis = ['(']) (h : Keeps t s) :
    Keeps t (opening ++ s ++ ")".toList) := by
  refine h.enclose.trans (of_filter_eq ?_)
  rw [List.filter_append, List.filter_append, hopening, List.append_assoc, ← List.filter_append]
  rfl

theorem of_trim (h : Keeps (trim t) s) : Keeps t s :=
  (of_filter_eq (filter_trim (eq_false_of_isBlank ['(', ')'] rfl (by simp [isParenthesis])) t)).trans h

end Keeps

theorem keeps_power {a b : Text} {base exponent : Code} (hbase : Keeps a base.text) (hexponent : Keeps b exponent.text) :
    Keeps (a ++ powerMark ++ b) (power base exponent).text := by
  have hmark : Keeps powerMark ", ".toList := .of_filter_eq rfl
  have hopening : "std::pow(".toList.filter isParenthesis = ['('] := rfl
  have hcall := ((hbase.append hmark).append hexponent).call hopening
  rwa [← List.append_assoc "std::pow(".toList, ← List.append_assoc "std::pow(".toList] at hcall

theorem keeps_translateTrimmed (t : Text) : Keeps t (translateTrimmed t).text := by
  fun_induction translateTrimmed t with
  -- of the forms that are recognised as a whole, a quoted text is put into a call
  | case1 => exact .of_filter_eq rfl
  | case2 => exact (Keeps.of_filter_eq rfl).call rfl
  | case3 => exact .of_filter_eq rfl
  | case4 => exact .of_filter_eq rfl
  | case5 t _ _ _ _ base exponent hcut ihBase ihExponent =>
      rw [eq_of_cut? hcut]
      exact keeps_power ihBase.of_trim ihExponent.of_trim
  | case6 t _ _ _ _ _ => exact .of_filter_eq (filter_spellOperators (by decide) t)

theorem keeps_translate (e : Text) : Keeps e (translate e).text :=
  (keeps_translateTrimmed (trim e)).of_trim

/-! ## Brackets of other kinds -/

/-- A square bracket or a brace. -/
def isBracket (c : Char) : Bool :=
  c == '[' || c == ']' || c == '\x7b' || c == '\x7d'

theorem untouched_isBracket : Untouched isBracket where
  blank := eq_false_of_isBlank ['[', ']', '\x7b', '\x7d'] rfl (by simp [isBracket, or_assoc])
  word := by decide

/-- Translation keeps the surplus of opening parentheses and lets it fall no lower than in the expression. So it keeps
balanced parentheses balanced, and it keeps all other brackets in their order. -/
theorem translate_keeps_brackets (e : Text) :
    surplus '(' ')' (translate e).text = surplus '(' ')' e ∧
      lowest '(' ')' e ≤ lowest '(' ')' (translate e).text ∧
      (Balanced '(' ')' e → Balanced '(' ')' (translate e).text) ∧
      (translate e).text.filter isBracket = e.filter isBracket := by
  have hkeeps := keeps_translate e
  refine ⟨hkeeps.surplus_eq, hkeeps.lowest_le, fun hbalanced => ?_, filter_translate untouched_isBracket e⟩
  obtain ⟨htotal, hlow⟩ := balanced_iff.mp hbalanced
  exact balanced_iff.mpr ⟨hkeeps.surplus_eq.trans htotal, Int.le_trans hlow hkeeps.lowest_le⟩

/-- The power operator stands inside of the parentheses, and each side of it has one of them. -/
theorem translate_keeps_brackets_split :
    Balanced '(' ')' "x[f(a ^ b)] ^ \x7b2\x7d".toList ∧
      Balanced '(' ')' (translate "x[f(a ^ b)] ^ \x7b2\x7d".toList).text ∧
      ¬Balanced '(' ')' "x[f(a".toList := by
  have h : Balanced '(' ')' "x[f(a ^ b)] ^ \x7b2\x7d".toList := by decide
  exact ⟨h, (translate_keeps_brackets _).2.2.1 h, by decide⟩

end FlowLang.Cpp

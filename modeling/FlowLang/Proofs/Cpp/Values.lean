import FlowLang.Proofs.Cpp.Powers

/-!
# Values that stand for themselves

A rule of its own passes truth values on as they are, and another one numerals. Neither kind of value has a space in it, and
all operators that are looked for behind these rules have one. So the values would pass through without the rules too, on
their own and as operands of a power.
-/

namespace FlowLang.Cpp

open Text

/-- For which kinds of values there is a rule. -/
structure ValueRules where
  truthValues : Bool
  numerals : Bool

variable {t base exponent : Text} (rules : ValueRules)

theorem length_trim_lt_of_cut? (h : cut? powerMark t = some (base, exponent)) :
    (trim base).length < t.length ∧ (trim exponent).length < t.length := by
  have hlength := length_of_cut? h
  have hmark : powerMark.length = 3 := rfl
  have hbase := length_trim_le base
  have hexponent := length_trim_le exponent
  omega

/-- The C++ form of an expression without blanks around it, when there are only these rules for values. -/
def translateTrimmedBy (t : Text) : Code :=
  if t = "phi".toList then { text := phiLiteral }
  else if isQuoted t then
    { text := "std::string(".toList ++ t ++ ")".toList, headers := { string := true } }
  else if rules.truthValues && isTruthValue t then { text := t }
  else if rules.numerals && isNumeral t then { text := t }
  else
    match _cut : cut? powerMark t with
    | some (base, exponent) => power (translateTrimmedBy (trim base)) (translateTrimmedBy (trim exponent))
    | none => { text := spellOperators t }
termination_by t.length
decreasing_by
  · exact (length_trim_lt_of_cut? _cut).1
  · exact (length_trim_lt_of_cut? _cut).2

/-- The C++ form of an expression, when there are only these rules for values. -/
def translateBy (expression : Text) : Code :=
  translateTrimmedBy rules (trim expression)

/-! ## Expressions without spaces -/

theorem not_isInfix_of_space {mark : Text} (hmark : ' ' ∈ mark) (h : ' ' ∉ t) : ¬mark <:+: t :=
  fun hoccurs => h (hoccurs.subset hmark)

theorem cut?_powerMark_of_not_mem (h : ' ' ∉ t) : cut? powerMark t = none :=
  Option.not_isSome_iff_eq_none.mp (mt occurs_iff.mp (not_isInfix_of_space (by decide) h))

theorem spellOperators_of_not_mem (h : ' ' ∉ t) : spellOperators t = t :=
  spellOperators_eq_self (not_isInfix_of_space (by decide) h) (not_isInfix_of_space (by decide) h)
    (not_isInfix_of_space (by decide) h)

theorem translateTrimmed_of_not_mem (h : ' ' ∉ t) (hphi : t ≠ "phi".toList) (hquoted : ¬isQuoted t = true) :
    translateTrimmed t = { text := t } := by
  rw [translateTrimmed, if_neg hphi, if_neg hquoted, cut?_powerMark_of_not_mem h, spellOperators_of_not_mem h]
  split
  · rfl
  · split <;> rfl

theorem space_not_mem_of_isTruthValue (h : isTruthValue t = true) : ' ' ∉ t :=
  fun hspace => absurd h (Bool.eq_false_iff.mp (not_named_of_space hspace).2.1)

theorem space_not_mem_of_isNumeral (h : isNumeral t = true) : ' ' ∉ t :=
  fun hspace => absurd h (Bool.eq_false_iff.mp (not_named_of_space hspace).2.2)

/-! ## Rules for values are redundant -/

theorem translateTrimmedBy_eq (t : Text) : translateTrimmedBy rules t = translateTrimmed t := by
  fun_induction translateTrimmedBy rules t with
  | case1 => rw [translateTrimmed, if_pos rfl]
  | case2 t hphi hquoted => rw [translateTrimmed, if_neg hphi, if_pos hquoted]
  | case3 t hphi hquoted htruth =>
      have hspace := space_not_mem_of_isTruthValue (Bool.and_eq_true_iff.mp htruth).2
      exact (translateTrimmed_of_not_mem hspace hphi hquoted).symm
  | case4 t hphi hquoted _ hnumeral =>
      have hspace := space_not_mem_of_isNumeral (Bool.and_eq_true_iff.mp hnumeral).2
      exact (translateTrimmed_of_not_mem hspace hphi hquoted).symm
  | case5 t _ hquoted _ _ base exponent hcut ihBase ihExponent =>
      rw [ihBase, ihExponent, translateTrimmed_of_cut? (Bool.eq_false_iff.mpr hquoted) hcut]
  | case6 t hphi hquoted _ _ hcut =>
      -- a rule that was left out may apply here, but only to a text without spaces
      by_cases hspace : ' ' ∈ t
      · obtain ⟨_, htruth, hnumeral⟩ := not_named_of_space hspace
        have hpower : occurs powerMark t = false := by simp [occurs, hcut]
        have hplain : IsPlain t := ⟨hphi, Bool.eq_false_iff.mpr hquoted, htruth, hnumeral, hpower⟩
        exact hplain.translateTrimmed_eq.symm
      · rw [translateTrimmed_of_not_mem hspace hphi hquoted, spellOperators_of_not_mem hspace]

/-- A text is recognised as a numeral exactly if the grammar spells it, and then it has no characters but those of numerals. And
with a rule for numerals or without one, with a rule for truth values or without one, every expression becomes the same code
and needs the same headers. -/
theorem numerals_exact_rules_redundant :
    (∀ t : Text, isNumeral t = true ↔ Numeral.Spelled t) ∧
      (∀ t : Text, isNumeral t = true → ∀ c ∈ t, c ∈ "+-.0123456789aefintyAEFINTY".toList) ∧
      ∀ (rules : ValueRules) (e : Text), translateBy rules e = translate e := by
  refine ⟨fun t => isNumeral_iff, ?_, ?_⟩
  · intro t h c hc
    exact (isNumeral_iff.mp h).subset hc
  · intro rules e
    exact translateTrimmedBy_eq rules (trim e)

/-- Letters of both cases, the longer of two words of which one starts the other, a line feed behind a numeral, a point without
digits in front of it, and values as operands when there is no rule for them. -/
theorem numerals_exact_rules_redundant_mixed :
    Numeral.Spelled "-iNFinITy".toList ∧ ¬Numeral.Spelled "infinit".toList ∧ ¬Numeral.Spelled "+1.e5\n".toList ∧
      (isNumeral "+.5E-07".toList = true ∧ ∀ c ∈ "+.5E-07".toList, c ∈ "+-.0123456789aefintyAEFINTY".toList) ∧
      translateBy ⟨false, false⟩ "true ^ -inf ^ 1e3".toList = translate "true ^ -inf ^ 1e3".toList := by
  obtain ⟨hspelled, hcharacters, hrules⟩ := numerals_exact_rules_redundant
  have hfraction : isNumeral "+.5E-07".toList = true := by decide
  exact ⟨(hspelled _).mp (by decide), mt (hspelled _).mpr (by decide), mt (hspelled _).mpr (by decide),
    ⟨hfraction, hcharacters _ hfraction⟩, hrules _ _⟩

end FlowLang.Cpp

import FlowLang.Proofs.Cpp.Operators

/-!
# Chains of powers

An expression is split at its first power operator, and both sides are translated again. So operands with power operators
between them become calls inside of each other, from the right. An operand that ends like a power operator is left out: with
the operator behind it, it would be split inside.
-/

namespace FlowLang.Cpp

open Text

/-- A text that can stand on either side of a power operator. -/
structure IsOperand (p : Text) : Prop where
  nonempty : p ≠ []
  trimmed : Trimmed p
  quote : '"' ∉ p
  apart : ¬" ^ ".toList <:+: p
  last : ¬" ^".toList <:+ p

instance (p : Text) : Decidable (IsOperand p) :=
  decidable_of_iff (p ≠ [] ∧ Trimmed p ∧ '"' ∉ p ∧ ¬occurs " ^ ".toList p = true ∧ ¬" ^".toList <:+ p)
    ⟨fun h => ⟨h.1, h.2.1, h.2.2.1, mt occurs_iff.mpr h.2.2.2.1, h.2.2.2.2⟩,
      fun h => ⟨h.1, h.2, h.3, mt occurs_iff.mp h.4, h.5⟩⟩

/-- The call that raises the first text to the power of the second. -/
def powerCall (base exponent : Text) : Text :=
  "std::pow(".toList ++ base ++ ", ".toList ++ exponent ++ ")".toList

/-- The first text to the power of the second, this one to the power of the third, and so on. -/
def nestedPowers : List Text → Text
  | [] => []
  | [t] => t
  | t :: u :: ts => powerCall t (nestedPowers (u :: ts))

theorem text_power (base exponent : Code) : (power base exponent).text = powerCall base.text exponent.text :=
  rfl

theorem headers_power (base exponent : Code) :
    (power base exponent).headers = { cmath := true : Headers }.union (base.headers.union exponent.headers) :=
  rfl

/-! ## Where an expression is split -/

/-- Of the forms that are recognised as a whole, only a quoted text can have a power operator in it. -/
theorem translateTrimmed_of_cut? {t base exponent : Text} (hquoted : isQuoted t = false)
    (hcut : cut? powerMark t = some (base, exponent)) :
    translateTrimmed t = power (translateTrimmed (trim base)) (translateTrimmed (trim exponent)) := by
  have hspace : ' ' ∈ t := by simp [eq_of_cut? hcut, powerMark]
  obtain ⟨hphi, htruth, hnumeral⟩ := not_named_of_space hspace
  rw [translateTrimmed, if_neg hphi, if_neg (by simp [hquoted]), if_neg (by simp [htruth]), if_neg (by simp [hnumeral])]
  split
  · rename_i hsome
    rw [hcut] at hsome
    cases hsome
    rfl
  · rename_i hnone
    rw [hcut] at hnone
    cases hnone

variable {p q rest : Text} {ps : List Text}

/-- With the operator behind it, an operand is split nowhere inside. -/
theorem IsOperand.not_isInfix_append (h : IsOperand p) : ¬powerMark <:+: p ++ powerMark.dropLast := by
  have hmark : powerMark = " ^".toList ++ [' '] := rfl
  have hshort : p ++ powerMark.dropLast = p ++ [' '] ++ ['^'] := by simp [powerMark]
  rw [hshort, List.infix_concat_iff, List.infix_concat_iff]
  -- the operator would end with the caret, with the blank before it, or within the operand
  rintro (hend | hend | hinside)
  · obtain ⟨front, hfront, _⟩ := (List.suffix_concat_iff.mp hend).resolve_left (by decide)
    exact absurd (List.append_inj_right' (hmark.symm.trans hfront) rfl) (by decide)
  · obtain ⟨front, hfront, hends⟩ := (List.suffix_concat_iff.mp hend).resolve_left (by decide)
    exact h.last (List.append_inj_left' (hmark.symm.trans hfront) rfl ▸ hends)
  · exact h.apart hinside

theorem IsOperand.translateTrimmed_append (hp : IsOperand p) (hrest : Trimmed rest) (hquote : '"' ∉ rest) :
    translateTrimmed (p ++ powerMark ++ rest) = power (translateTrimmed p) (translateTrimmed rest) := by
  have hquoted : isQuoted (p ++ powerMark ++ rest) = false := by
    apply isQuoted_of_not_mem
    simp [hp.quote, hquote, powerMark]
  have hcut := cut?_append_mark (by decide) hp.not_isInfix_append rest
  rw [translateTrimmed_of_cut? hquoted hcut, hp.trimmed.trim_eq, hrest.trim_eq]

theorem IsOperand.translate_eq (h : IsOperand p) : translate p = translateTrimmed p := by
  rw [translate, h.trimmed.trim_eq]

theorem IsOperand.headers_eq (h : IsOperand p) : (translateTrimmed p).headers = .none := by
  have hcut : cut? powerMark p = none := Option.not_isSome_iff_eq_none.mp (mt occurs_iff.mp h.apart)
  have hquoted : ¬isQuoted p = true := Bool.eq_false_iff.mp (isQuoted_of_not_mem h.quote)
  rw [translateTrimmed, if_neg hquoted, hcut]
  split
  · rfl
  · split
    · rfl
    · split <;> rfl

/-! ## Chains -/

theorem trimmed_chain (h : ∀ q ∈ ps, IsOperand q) : Trimmed (joinWith powerMark ps) :=
  trimmed_joinWith fun q hq => ⟨(h q hq).nonempty, (h q hq).trimmed⟩

/-- The first operand is split off, and the others are a chain again. -/
theorem translateTrimmed_chain (h : ∀ r ∈ p :: q :: ps, IsOperand r) :
    translateTrimmed (joinWith powerMark (p :: q :: ps)) =
      power (translateTrimmed p) (translateTrimmed (joinWith powerMark (q :: ps))) := by
  obtain ⟨hp, hrest⟩ := List.forall_mem_cons.mp h
  have hquote : '"' ∉ joinWith powerMark (q :: ps) := not_mem_joinWith (by decide) fun r hr => (hrest r hr).quote
  rw [joinWith_cons_cons, hp.translateTrimmed_append (trimmed_chain hrest) hquote]

theorem text_chain (h : ∀ r ∈ p :: ps, IsOperand r) :
    (translateTrimmed (joinWith powerMark (p :: ps))).text =
      nestedPowers ((p :: ps).map fun r => (translateTrimmed r).text) := by
  induction ps generalizing p with
  | nil => rw [joinWith_singleton, List.map_singleton, nestedPowers]
  | cons q ps ih =>
      have hrest := ih (List.forall_mem_cons.mp h).2
      rw [translateTrimmed_chain h, text_power, hrest, List.map_cons, List.map_cons, List.map_cons, nestedPowers]

theorem headers_chain (h : ∀ r ∈ p :: q :: ps, IsOperand r) :
    (translateTrimmed (joinWith powerMark (p :: q :: ps))).headers = { cmath := true } := by
  obtain ⟨hp, hrest⟩ := List.forall_mem_cons.mp h
  rw [translateTrimmed_chain h, headers_power, hp.headers_eq, Headers.none_union]
  induction ps generalizing p q with
  | nil => rw [joinWith_singleton, (hrest q List.mem_cons_self).headers_eq, Headers.union_none]
  | cons r ps ih =>
      obtain ⟨hq, hmore⟩ := List.forall_mem_cons.mp hrest
      rw [translateTrimmed_chain hrest, headers_power, hq.headers_eq, Headers.none_union, ih hrest hq hmore,
        Headers.union_self]

/-- Two or more operands with power operators between them become nested calls, the last power first, of the operands'
translations. They need the header for powers and no other, whatever is needed already. -/
theorem translate_power_chain {operands : List Text} (hlength : 2 ≤ operands.length) (h : ∀ p ∈ operands, IsOperand p) :
    (translate (joinWith " ^ ".toList operands)).text = nestedPowers (operands.map fun p => (translate p).text) ∧
      ∀ before : Headers,
        before.union (translate (joinWith " ^ ".toList operands)).headers = { before with cmath := true } := by
  obtain ⟨p, q, ps, rfl⟩ : ∃ p q ps, operands = p :: q :: ps := by
    match operands, hlength with
    | p :: q :: ps, _ => exact ⟨p, q, ps, rfl⟩
  have htranslate : translate (joinWith " ^ ".toList (p :: q :: ps)) = translateTrimmed (joinWith powerMark (p :: q :: ps)) :=
    congrArg translateTrimmed (trimmed_chain h).trim_eq
  have htexts : (p :: q :: ps).map (fun r => (translate r).text) = (p :: q :: ps).map fun r => (translateTrimmed r).text :=
    List.map_congr_left fun r hr => congrArg Code.text (h r hr).translate_eq
  rw [htranslate, htexts, text_chain h, headers_chain h]
  refine ⟨rfl, fun before => ?_⟩
  simp [Headers.union]

/-- Operands that look like parts of the operator, that are named values, or that have worded operators in them. -/
theorem translate_power_chain_mixed :
    (translate "^ ^ phi ^ a ^b ^ not (c ^ 2".toList).text =
        "std::pow(^, std::pow(1.6180339887498948, std::pow(a ^b, std::pow(!(c, 2))))".toList ∧
      ({ iostream := true, string := true : Headers }.union (translate "^ ^ phi ^ a ^b ^ not (c ^ 2".toList).headers) =
        { iostream := true, string := true, cmath := true } := by
  have hplain (t : Text) (ht : IsPlain (trim t)) : (translate t).text = spellOperators (trim t) :=
    congrArg Code.text ht.translateTrimmed_eq
  have hphi : (translate "phi".toList).text = phiLiteral := by
    rw [translate, translateTrimmed]
    rfl
  have htwo : (translate "2".toList).text = "2".toList := by
    rw [translate, translateTrimmed]
    decide
  have h := @translate_power_chain ["^".toList, "phi".toList, "a ^b".toList, "not (c".toList, "2".toList] (by decide) (by decide)
  rw [List.map_cons, List.map_cons, List.map_cons, List.map_cons, List.map_singleton, hphi, htwo,
    hplain "^".toList (by decide), hplain "a ^b".toList (by decide), hplain "not (c".toList (by decide)] at h
  exact ⟨h.1.trans (by decide), h.2 _⟩

end FlowLang.Cpp

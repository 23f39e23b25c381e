import FlowLang.Proofs.Cpp.Operators
import FlowLang.Proofs.Text.Names

/-!
# Names and quoted parts of an expression

Operators are spelled wherever their words stand. An operator with two operands stands between spaces, so spelling it cannot
touch a name. A negation needs a space behind it only: a name that ends like one, and has a space behind it, loses its end.
Quoted parts are not set apart either, so the operators in them are spelled too.
-/

namespace FlowLang.Cpp

open Text

/-- The words of the operators. -/
def operatorWords : List Text :=
  ["and".toList, "or".toList, "not".toList]

/-- The names in a text that are no operators. -/
def operands (t : Text) : List Text :=
  (names t).filter (!operatorWords.contains ·)

/-- The names in an expression that are no operators and are not quoted. -/
def identifiers (e : Text) : List Text :=
  operands (unquoted e)

variable {a b t v w : Text} {c : Char}

theorem operands_append_cons (hc : isNameChar c = false) (a b : Text) :
    operands (a ++ c :: b) = operands a ++ operands b := by
  rw [operands, names_append_cons hc, List.filter_append, operands, operands]

theorem operands_append_of_getLast? (h : a.getLast?.any isNameChar = false) (b : Text) :
    operands (a ++ b) = operands a ++ operands b := by
  rcases List.eq_nil_or_concat a with rfl | ⟨front, c, rfl⟩
  · rfl
  · have hc : isNameChar c = false := by simpa using h
    rw [List.concat_eq_append, ← List.append_cons, operands_append_cons hc, operands_append_cons hc]
    simp [operands]

theorem operands_of_all (hne : w ≠ []) (h : w.all isNameChar = true) :
    operands w = if w ∈ operatorWords then [] else [w] := by
  rw [operands, names_of_all hne h]
  split
  · rename_i hmem
    simpa using hmem
  · rename_i hmem
    simpa using hmem

/-! ## Operators with two operands -/

theorem operands_enclosed (a w b : Text) :
    operands (a ++ (enclosed ' ' w ++ b)) = operands a ++ (operands w ++ operands b) := by
  have hspace : isNameChar ' ' = false := by decide
  have htext : a ++ (enclosed ' ' w ++ b) = a ++ ' ' :: (w ++ ' ' :: b) := by simp [enclosed]
  rw [htext, operands_append_cons hspace, operands_append_cons hspace]

theorem operands_replaceAll_enclosed {word symbol : Text} (h : operands symbol = operands word) (t : Text) :
    operands (replaceAll (enclosed ' ' word) (enclosed ' ' symbol) t) = operands t := by
  apply congr_replaceAll operands (enclosed_ne_nil ' ' word)
  intro a b
  rw [operands_enclosed, operands_enclosed, h]

/-- A name has a negation right behind it, so that spelling the negation takes its end away. -/
def Clipped (t : Text) : Prop :=
  ∃ c, isNameChar c = true ∧ c :: "not ".toList <:+: t

instance (t : Text) : Decidable (Clipped t) :=
  decidable_of_iff (t.any (fun c => isNameChar c && occurs (c :: "not ".toList) t) = true) <| by
    simp only [List.any_eq_true, Bool.and_eq_true, occurs_iff, Clipped]
    exact ⟨fun ⟨c, _, h⟩ => ⟨c, h⟩, fun ⟨c, h⟩ => ⟨c, h.2.subset List.mem_cons_self, h⟩⟩

theorem space_not_mem_cons_not (hc : isNameChar c = true) : ' ' ∉ c :: "not".toList := by
  refine List.not_mem_cons_of_ne_of_not_mem ?_ (by decide)
  rintro rfl
  exact absurd hc (by decide)

theorem clipped_append_space_iff : Clipped (a ++ ' ' :: b) ↔ Clipped (a ++ [' ']) ∨ Clipped b := by
  unfold Clipped
  rw [← exists_or]
  refine exists_congr fun c => ?_
  rw [← and_or_left]
  refine and_congr_right fun hc => ?_
  exact isInfix_append_sep_iff (space_not_mem_cons_not hc) a b

theorem clipped_last_space_iff (hw : ' ' ∉ w) :
    Clipped (w ++ [' ']) ↔ ∃ c, isNameChar c = true ∧ c :: "not".toList <:+ w := by
  refine exists_congr fun c => and_congr_right fun _ => ?_
  exact isInfix_last_sep_iff (c :: "not".toList) hw

theorem not_clipped_of_not_mem {d : Char} (hd : d ∈ "not ".toList) (h : d ∉ t) : ¬Clipped t := by
  rintro ⟨c, _, hoccurs⟩
  exact h (hoccurs.subset (List.mem_cons_of_mem c hd))

theorem clipped_replaceAll_enclosed {word symbol : Text} (hword : 't' ∉ word) (hsymbol : 't' ∉ symbol) (t : Text) :
    Clipped (replaceAll (enclosed ' ' word) (enclosed ' ' symbol) t) ↔ Clipped t := by
  -- around the word nothing can be clipped but what stands before its first space and behind its last
  have henclosed {w : Text} (hw : 't' ∉ w) (a b : Text) :
      Clipped (a ++ (enclosed ' ' w ++ b)) ↔ Clipped (a ++ [' ']) ∨ Clipped b := by
    have htext : a ++ (enclosed ' ' w ++ b) = a ++ ' ' :: (w ++ ' ' :: b) := by simp [enclosed]
    have hnone : ¬Clipped (w ++ [' ']) := not_clipped_of_not_mem (d := 't') (by decide) (by simpa using hw)
    rw [htext, clipped_append_space_iff, clipped_append_space_iff (a := w)]
    simp [hnone]
  refine Iff.of_eq (congr_replaceAll Clipped (enclosed_ne_nil ' ' word) (fun a b => propext ?_) t)
  rw [henclosed hword, henclosed hsymbol]

/-! ## Negations -/

/-- How many characters the operands have together. -/
def operandLength (t : Text) : Nat :=
  (operands t).flatten.length

theorem operandLength_le (h : w.all isNameChar = true) : operandLength w ≤ w.length := by
  by_cases hne : w = []
  · rw [hne]
    decide
  · rw [operandLength, operands_of_all hne h]
    split <;> simp

theorem operandLength_append_of_getLast? (h : a.getLast?.any isNameChar = false) (b : Text) :
    operandLength (a ++ b) = operandLength a + operandLength b := by
  simp [operandLength, operands_append_of_getLast? h]

theorem operandLength_append_cons (hc : isNameChar c = false) (a b : Text) :
    operandLength (a ++ c :: b) = operandLength a + operandLength b := by
  simp [operandLength, operands_append_cons hc]

theorem operands_append_not (h : v.getLast?.any isNameChar = false) : operands (v ++ "not".toList) = operands v := by
  have hnot : operands "not".toList = [] := by decide
  rw [operands_append_of_getLast? h, hnot, List.append_nil]

/-- No operator is longer than a negation, so a name with one right behind it is an operand, and longer than the name. -/
theorem operandLength_lt_append_not (h : v.getLast?.any isNameChar = true) :
    operandLength v < operandLength (v ++ "not".toList) := by
  obtain ⟨front, last, rfl, hlast, hfront⟩ := exists_last_name v
  have hne : last ≠ [] := by
    rintro rfl
    rw [List.append_nil, hfront] at h
    cases h
  have hall : (last ++ "not".toList).all isNameChar = true := by
    rw [List.all_append, hlast]
    decide
  have hlonger : last ++ "not".toList ∉ operatorWords := by
    have hshort : ∀ w ∈ operatorWords, w.length ≤ 3 := by decide
    intro hmem
    have hlength := hshort _ hmem
    have hpositive := List.length_pos_iff.mpr hne
    have hthree : "not".toList.length = 3 := rfl
    rw [List.length_append] at hlength
    omega
  have hwhole : operandLength (last ++ "not".toList) = last.length + 3 := by
    rw [operandLength, operands_of_all (by simp) hall, if_neg hlonger]
    simp
  have hpart := operandLength_le hlast
  rw [List.append_assoc, operandLength_append_of_getLast? hfront, operandLength_append_of_getLast? hfront, hwhole]
  omega

theorem clipped_append_not_iff (hv : ' ' ∉ v) :
    Clipped (v ++ "not".toList ++ [' ']) ↔ v.getLast?.any isNameChar = true := by
  rw [clipped_last_space_iff (List.not_mem_append hv (by decide))]
  constructor
  · rintro ⟨c, hc, front, hfront⟩
    rw [List.append_cons] at hfront
    obtain rfl := List.append_cancel_right hfront
    simpa using hc
  · intro h
    rcases List.eq_nil_or_concat v with rfl | ⟨front, c, rfl⟩
    · cases h
    · exact ⟨c, by simpa using h, front, by simp⟩

/-- The second text has the operands of the first, unless one is clipped there: then some of their characters are gone. -/
def Clips (t s : Text) : Prop :=
  (¬Clipped t ∧ operands s = operands t) ∨ (Clipped t ∧ operandLength s < operandLength t)

theorem operandLength_eq {s : Text} (h : operands s = operands t) : operandLength s = operandLength t := by
  rw [operandLength, h, operandLength]

theorem Clips.operandLength_le {s : Text} (h : Clips t s) : operandLength s ≤ operandLength t := by
  rcases h with ⟨_, heq⟩ | ⟨_, hlt⟩
  · exact Nat.le_of_eq (operandLength_eq heq)
  · exact Nat.le_of_lt hlt

theorem Clips.operands_eq_iff {s : Text} (h : Clips t s) : operands s = operands t ↔ ¬Clipped t := by
  rcases h with ⟨hclipped, heq⟩ | ⟨hclipped, hlt⟩
  · exact iff_of_true heq hclipped
  · exact iff_of_false (fun heq => Nat.ne_of_lt hlt (operandLength_eq heq)) (fun hnot => hnot hclipped)

/-- Two texts that end apart from what follows are clipped on their own. -/
theorem Clips.append {s rest r : Text} (hfirst : Clips (w ++ [' ']) s) (hs : s.getLast?.any isNameChar = false)
    (hrest : Clips rest r) : Clips (w ++ ' ' :: rest) (s ++ r) := by
  have hspace : (w ++ [' ']).getLast?.any isNameChar = false := by
    rw [List.getLast?_concat]
    decide
  rw [Clips, clipped_append_space_iff, List.append_cons w ' ' rest, operands_append_of_getLast? hspace,
    operands_append_of_getLast? hs, operandLength_append_of_getLast? hspace, operandLength_append_of_getLast? hs]
  have hfirstLength := hfirst.operandLength_le
  have hrestLength := hrest.operandLength_le
  rcases hfirst with ⟨hfirst, heq⟩ | ⟨hfirst, hlt⟩
  · rcases hrest with ⟨hrest, heq'⟩ | ⟨hrest, hlt'⟩
    · exact .inl ⟨not_or.mpr ⟨hfirst, hrest⟩, by rw [heq, heq']⟩
    · exact .inr ⟨.inr hrest, by omega⟩
  · exact .inr ⟨.inl hfirst, by omega⟩

/-- A word with a space behind it is spelled on its own, whatever follows. -/
theorem exists_spelled_word (hw : ' ' ∉ w) :
    ∃ s, s.getLast?.any isNameChar = false ∧ Clips (w ++ [' ']) s ∧
      ∀ rest, replaceAll "not ".toList "!".toList (w ++ ' ' :: rest) =
        s ++ replaceAll "not ".toList "!".toList rest := by
  have hspace : isNameChar ' ' = false := by decide
  have hmark : isNameChar '!' = false := by decide
  by_cases hends : "not".toList <:+ w
  · obtain ⟨v, rfl⟩ := hends
    have hv : ' ' ∉ v := fun h => hw (List.mem_append_left _ h)
    refine ⟨v ++ ['!'], by simpa using hmark, ?_, ?_⟩
    · rw [Clips, clipped_append_not_iff hv, operands_append_cons hspace, operands_append_cons hmark,
        operandLength_append_cons hspace, operandLength_append_cons hmark]
      by_cases hlast : v.getLast?.any isNameChar = true
      · exact .inr ⟨hlast, Nat.add_lt_add_right (operandLength_lt_append_not hlast) _⟩
      · exact .inl ⟨hlast, by rw [operands_append_not (Bool.eq_false_iff.mpr hlast)]⟩
    · intro rest
      have hspelled := replaceAll_append_word_sep "!".toList (by decide : ' ' ∉ "not".toList) hv rest
      rwa [← List.append_assoc, ← List.append_assoc] at hspelled
  · refine ⟨w ++ [' '], by simpa using hspace, .inl ⟨?_, rfl⟩, ?_⟩
    · rw [clipped_last_space_iff hw]
      rintro ⟨c, _, hsuffix⟩
      exact hends ((List.suffix_cons c _).trans hsuffix)
    · intro rest
      rw [← List.append_cons]
      exact replaceAll_append_sep (by decide) hw hends rest

theorem clips_replaceAll_not (t : Text) : Clips t (replaceAll "not ".toList "!".toList t) := by
  induction t using word_induction ' ' with
  | last w hw =>
      have hnone : ¬"not ".toList <:+: w := fun h => hw (h.subset (by decide))
      rw [replaceAll_eq_self _ hnone]
      exact .inl ⟨not_clipped_of_not_mem (d := ' ') (by decide) hw, rfl⟩
  | more w rest hw ih =>
      obtain ⟨s, hs, hword, hspelled⟩ := exists_spelled_word hw
      rw [hspelled]
      exact hword.append hs ih

theorem spellOperators_eq (t : Text) :
    spellOperators t = replaceAll "not ".toList "!".toList
      (replaceAll (enclosed ' ' "or".toList) (enclosed ' ' "||".toList)
        (replaceAll (enclosed ' ' "and".toList) (enclosed ' ' "&&".toList) t)) := rfl

theorem operands_spellOperators_iff (t : Text) : operands (spellOperators t) = operands t ↔ ¬Clipped t := by
  have hclips := clips_replaceAll_not (replaceAll (enclosed ' ' "or".toList) (enclosed ' ' "||".toList)
    (replaceAll (enclosed ' ' "and".toList) (enclosed ' ' "&&".toList) t))
  have hiff := hclips.operands_eq_iff
  rwa [← spellOperators_eq, operands_replaceAll_enclosed (by decide), operands_replaceAll_enclosed (by decide),
    clipped_replaceAll_enclosed (by decide) (by decide), clipped_replaceAll_enclosed (by decide) (by decide)] at hiff

/-! ## Quoted parts -/

/-- The marks that are looked for. -/
def operatorMarks : List Text :=
  [" and ".toList, " or ".toList, "not ".toList]

/-- No replacement adds letters, and one that finds its mark takes some away. -/
theorem not_isInfix_of_countP_le {old new s : Text} (hnew : new.countP Char.isAlpha < old.countP Char.isAlpha)
    (h : s.countP Char.isAlpha ≤ (replaceAll old new s).countP Char.isAlpha) : ¬old <:+: s :=
  fun hoccurs => Nat.not_lt_of_le h (countP_replaceAll_lt hnew hoccurs)

theorem spellOperators_eq_self_iff (t : Text) : spellOperators t = t ↔ ∀ mark ∈ operatorMarks, occurs mark t = false := by
  simp only [operatorMarks, Bool.eq_false_iff, ne_eq, occurs_iff, List.forall_mem_cons, List.not_mem_nil,
    false_implies, implies_true, and_true]
  constructor
  · intro h
    have hor (s : Text) : (replaceAll " or ".toList " || ".toList s).countP Char.isAlpha ≤ s.countP Char.isAlpha :=
      countP_replaceAll_le (by decide) (by decide) s
    have hnot (s : Text) : (replaceAll "not ".toList "!".toList s).countP Char.isAlpha ≤ s.countP Char.isAlpha :=
      countP_replaceAll_le (by decide) (by decide) s
    have hletters := hnot (replaceAll " or ".toList " || ".toList (replaceAll " and ".toList " && ".toList t))
    rw [← spellOperators, h] at hletters
    have hfirst : ¬" and ".toList <:+: t := not_isInfix_of_countP_le (by decide) (Nat.le_trans hletters (hor _))
    rw [replaceAll_eq_self _ hfirst] at hletters
    have hsecond : ¬" or ".toList <:+: t := not_isInfix_of_countP_le (by decide) hletters
    rw [spellOperators, replaceAll_eq_self _ hfirst, replaceAll_eq_self _ hsecond] at h
    have hthird : ¬"not ".toList <:+: t := not_isInfix_of_countP_le (by decide) (congrArg (List.countP Char.isAlpha) h).ge
    exact ⟨hfirst, hsecond, hthird⟩
  · rintro ⟨hfirst, hsecond, hthird⟩
    exact spellOperators_eq_self hfirst hsecond hthird

theorem unquoted_spellOperators (t : Text) : unquoted (spellOperators t) = spellOperators (unquoted t) := by
  unfold spellOperators
  rw [unquoted_replaceAll (by decide) (by decide) (by decide), unquoted_replaceAll (by decide) (by decide) (by decide),
    unquoted_replaceAll (by decide) (by decide) (by decide)]

theorem quotations_spellOperators (t : Text) : quotations (spellOperators t) = (quotations t).map spellOperators := by
  unfold spellOperators
  rw [quotations_replaceAll (by decide) (by decide) (by decide), quotations_replaceAll (by decide) (by decide) (by decide),
    quotations_replaceAll (by decide) (by decide) (by decide), List.map_map, List.map_map]
  rfl

theorem identifiers_trim (e : Text) : identifiers (trim e) = identifiers e := by
  rw [identifiers, operands, names_unquoted_trim, identifiers, operands]

/-- Translating a plain expression keeps its identifiers exactly if none of them that ends like a negation has a space behind
it. Its quoted parts are spelled like the rest, so they are kept exactly if they hold no mark of an operator. -/
theorem identifiers_kept_iff {e : Text} (h : IsPlain (trim e)) :
    (identifiers (translate e).text = identifiers e ↔ ¬Clipped (unquoted (trim e))) ∧
      quotations (translate e).text = (quotations e).map spellOperators ∧
        (quotations (translate e).text = quotations e ↔
          ∀ q ∈ quotations e, ∀ mark ∈ operatorMarks, occurs mark q = false) := by
  have htext : (translate e).text = spellOperators (trim e) := by rw [translate, h.translateTrimmed_eq]
  have hquotations : quotations (translate e).text = (quotations e).map spellOperators := by
    rw [htext, quotations_spellOperators, quotations_trim]
  refine ⟨?_, hquotations, ?_⟩
  · rw [← identifiers_trim e, htext, identifiers, unquoted_spellOperators]
    exact operands_spellOperators_iff _
  · have hsame : (quotations e).map spellOperators = quotations e ↔ ∀ q ∈ quotations e, spellOperators q = q := by
      conv => lhs; rhs; rw [← List.map_id (quotations e)]
      exact List.map_inj_left
    simp only [hquotations, hsame, spellOperators_eq_self_iff]

/-- A name that ends like a negation before a bracket, and the word of an operator in quotes. -/
theorem identifiers_kept_iff_unharmed :
    let e := "  not knot(x) and f(\"or\", y) ".toList
    IsPlain (trim e) ∧ identifiers (translate e).text = identifiers e ∧ quotations (translate e).text = quotations e := by
  have hplain : IsPlain (trim "  not knot(x) and f(\"or\", y) ".toList) := by decide
  obtain ⟨hidentifiers, -, hquotations⟩ := identifiers_kept_iff hplain
  exact ⟨hplain, hidentifiers.mpr (by decide), hquotations.mpr (by decide)⟩

/-- A name loses its end, and an operator in quotes is spelled. -/
theorem identifier_and_quotation_changed :
    let e := "knot f(\"a and b\")".toList
    occurs powerMark e = false ∧ IsPlain (trim e) ∧ (translate e).text = "k!f(\"a && b\")".toList ∧
      identifiers e = ["knot".toList, "f".toList] ∧ identifiers (translate e).text = ["k".toList, "f".toList] ∧
        quotations e = ["a and b".toList] ∧ quotations (translate e).text = ["a && b".toList] := by
  have hplain : IsPlain (trim "knot f(\"a and b\")".toList) := by decide
  have htext : (translate "knot f(\"a and b\")".toList).text = "k!f(\"a && b\")".toList := by
    rw [translate, hplain.translateTrimmed_eq]
    decide
  refine ⟨by decide, hplain, htext, by decide, ?_, by decide, ?_⟩
  · rw [htext]
    decide
  · rw [htext]
    decide

end FlowLang.Cpp

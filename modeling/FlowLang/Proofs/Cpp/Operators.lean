import FlowLang.Cpp.Expression
import FlowLang.Proofs.Decimal.Numeral
import FlowLang.Proofs.Text.Words

/-!
# Worded operators

An expression that is none of the recognised forms has its worded operators spelled as symbols, by three replacements one
after another. On words with single spaces between them the three come to one reading of the words from left to right.
-/

namespace FlowLang.Cpp

open Text

/-! ## Plain expressions -/

/-- The text is none of the forms that are recognised as a whole, and the power operator does not occur in it. -/
structure IsPlain (t : Text) : Prop where
  phi : t ≠ "phi".toList
  quoted : isQuoted t = false
  truth : isTruthValue t = false
  numeral : isNumeral t = false
  power : occurs powerMark t = false

instance (t : Text) : Decidable (IsPlain t) :=
  decidable_of_iff
    (t ≠ "phi".toList ∧ isQuoted t = false ∧ isTruthValue t = false ∧ isNumeral t = false ∧
      occurs powerMark t = false)
    ⟨fun h => ⟨h.1, h.2.1, h.2.2.1, h.2.2.2.1, h.2.2.2.2⟩, fun h => ⟨h.1, h.2, h.3, h.4, h.5⟩⟩

theorem IsPlain.translateTrimmed_eq {t : Text} (h : IsPlain t) : translateTrimmed t = { text := spellOperators t } := by
  have hcut : cut? powerMark t = none := by simpa [occurs] using h.power
  rw [translateTrimmed, if_neg h.phi, if_neg (by simp [h.quoted]), if_neg (by simp [h.truth]), if_neg (by simp [h.numeral])]
  split
  · rename_i hsome
    rw [hcut] at hsome
    cases hsome
  · rfl

theorem isNumeral_of_space {t : Text} (h : ' ' ∈ t) : isNumeral t = false := by
  rw [Bool.eq_false_iff, ne_eq, isNumeral_iff]
  exact fun hspelled => absurd (hspelled.subset h) (by decide)

theorem isQuoted_of_not_mem {t : Text} (h : '"' ∉ t) : isQuoted t = false := by
  rw [isQuoted, Bool.and_eq_false_iff]
  left
  rw [beq_eq_false_iff_ne]
  exact fun hhead => h (List.mem_of_head? hhead)

/-- A text with a space is no word that stands for a value. -/
theorem not_named_of_space {t : Text} (h : ' ' ∈ t) :
    t ≠ "phi".toList ∧ isTruthValue t = false ∧ isNumeral t = false := by
  have hother {s : Text} (hs : ' ' ∉ s) : t ≠ s := fun heq => hs (heq ▸ h)
  refine ⟨hother (by decide), ?_, isNumeral_of_space h⟩
  rw [isTruthValue, Bool.or_eq_false_iff, beq_eq_false_iff_ne, beq_eq_false_iff_ne]
  exact ⟨hother (by decide), hother (by decide)⟩

theorem spellOperators_eq_self {t : Text} (hand : ¬" and ".toList <:+: t) (hor : ¬" or ".toList <:+: t)
    (hnot : ¬"not ".toList <:+: t) : spellOperators t = t := by
  rw [spellOperators, replaceAll_eq_self _ hand, replaceAll_eq_self _ hor, replaceAll_eq_self _ hnot]

/-! ## All operators at once -/

/-- The symbol for a worded operator with an operand on either side; any other word is its own. -/
def symbolOf (w : Text) : Text :=
  if w = "and".toList then "&&".toList else if w = "or".toList then "||".toList else w

/-- The words with single spaces between them and every operator spelled, in one reading. Behind the first word, which `inner`
tells, an operator between two words becomes its symbol. The last word stays, and any other negation is glued to what
follows. -/
def spellWords (inner : Bool) : List Text → Text
  | [] => []
  | [w] => w
  | w :: v :: ws =>
    (if w = "not".toList then "!".toList else (if inner then symbolOf w else w) ++ " ".toList) ++ spellWords true (v :: ws)

theorem exchange_exchange (w : Text) :
    exchange "or".toList "||".toList (exchange "and".toList "&&".toList w) = symbolOf w := by
  unfold exchange symbolOf
  split
  · decide
  · rfl

theorem symbolOf_cases (w : Text) : symbolOf w = w ∨ symbolOf w = "&&".toList ∨ symbolOf w = "||".toList := by
  unfold symbolOf
  split
  · exact .inr (.inl rfl)
  · split
    · exact .inr (.inr rfl)
    · exact .inl rfl

theorem space_not_mem_symbolOf {w : Text} (h : ' ' ∉ w) : ' ' ∉ symbolOf w := by
  rcases symbolOf_cases w with hw | hw | hw <;> rw [hw]
  · exact h
  · decide
  · decide

/-- Negations, and words that end like one, are not changed, and there are no others afterwards. -/
theorem isSuffix_symbolOf_iff {w : Text} : "not".toList <:+ symbolOf w ↔ "not".toList <:+ w := by
  unfold symbolOf
  split
  · rename_i hand
    rw [hand]
    decide
  · split
    · rename_i hor
      rw [hor]
      decide
    · rfl

/-- The operators with two operands, spelled by the first two replacements. -/
theorem replaceAll_and_or {w : Text} {ws : List Text} (hws : ∀ v ∈ w :: ws, ' ' ∉ v) (hand : Apart "and".toList ws)
    (hor : Apart "or".toList ws) :
    replaceAll " or ".toList " || ".toList (replaceAll " and ".toList " && ".toList (joinWith [' '] (w :: ws))) =
      joinWith [' '] (w :: mapInit symbolOf ws) := by
  have hfirst := replaceAll_joinWith_enclosed "&&".toList (by decide) hws hand
  have hspaces : ∀ v ∈ w :: mapInit (exchange "and".toList "&&".toList) ws, ' ' ∉ v := by
    obtain ⟨hw, hrest⟩ := List.forall_mem_cons.mp hws
    refine List.forall_mem_cons.mpr ⟨hw, forall_mem_mapInit _ hrest fun v hv => ?_⟩
    unfold exchange
    split
    · decide
    · exact hv
  have hsecond := replaceAll_joinWith_enclosed "||".toList (by decide) hspaces
    (hor.mapInit_exchange (by decide))
  have hboth : exchange "or".toList "||".toList ∘ exchange "and".toList "&&".toList = symbolOf := funext exchange_exchange
  rw [mapInit_mapInit, hboth] at hsecond
  exact (congrArg _ hfirst).trans hsecond

/-- No word of the list but the last ends like a negation without being one. -/
def NegationsApart (ws : List Text) : Prop :=
  ∀ w ∈ ws.dropLast, "not".toList <:+ w → w = "not".toList

instance (ws : List Text) : Decidable (NegationsApart ws) :=
  inferInstanceAs (Decidable (∀ w ∈ ws.dropLast, "not".toList <:+ w → w = "not".toList))

theorem NegationsApart.tail {w : Text} {ws : List Text} (h : NegationsApart (w :: ws)) : NegationsApart ws := by
  intro v hv
  apply h v
  rw [List.dropLast_cons_of_ne_nil (by rintro rfl; cases hv)]
  exact List.mem_cons_of_mem w hv

theorem NegationsApart.head {w : Text} {ws : List Text} (h : NegationsApart (w :: ws)) (hne : ws ≠ [])
    (hends : "not".toList <:+ w) : w = "not".toList := by
  apply h w _ hends
  rw [List.dropLast_cons_of_ne_nil hne]
  exact List.mem_cons_self

/-- Of a word before others, a negation is glued to them and anything else keeps its space. -/
theorem replaceAll_not_append {w v : Text} (hends : "not".toList <:+ w → w = "not".toList) (hv : v = w ∨ v = symbolOf w)
    (hspace : ' ' ∉ w) (rest : Text) :
    replaceAll "not ".toList "!".toList (v ++ ' ' :: rest) =
      (if w = "not".toList then "!".toList else v ++ " ".toList) ++ replaceAll "not ".toList "!".toList rest := by
  split
  · rename_i heq
    have hnot : v = "not".toList := by
      subst heq
      rcases hv with rfl | rfl <;> rfl
    rw [hnot]
    exact replaceAll_append "!".toList (by decide) rest
  · rename_i hne
    have hapart : ' ' ∉ v ∧ ¬"not".toList <:+ v := by
      rcases hv with rfl | rfl
      · exact ⟨hspace, fun h => hne (hends h)⟩
      · exact ⟨space_not_mem_symbolOf hspace, fun h => hne (hends (isSuffix_symbolOf_iff.mp h))⟩
    rw [List.append_assoc]
    exact replaceAll_append_sep (by decide) hapart.1 hapart.2 rest

theorem replaceAll_not_mapInit {ws : List Text} (hws : ∀ w ∈ ws, ' ' ∉ w) (hnot : NegationsApart ws) :
    replaceAll "not ".toList "!".toList (joinWith [' '] (mapInit symbolOf ws)) = spellWords true ws := by
  induction ws with
  | nil => rfl
  | cons w ws ih =>
      obtain ⟨hw, hrest⟩ := List.forall_mem_cons.mp hws
      cases ws with
      | nil =>
          have hnone : ¬"not ".toList <:+: w := fun h => hw (h.subset (by decide))
          rw [mapInit, joinWith_singleton, replaceAll_eq_self _ hnone, spellWords]
      | cons v ws =>
          have hne := List.cons_ne_nil v ws
          rw [mapInit_cons _ w hne, joinWith_cons ' ' _ (mapInit_ne_nil _ hne),
            replaceAll_not_append (hnot.head hne) (.inr rfl) hw, ih hrest hnot.tail, spellWords, if_pos rfl]

/-- The three replacements on words with single spaces between them are one reading of the words. -/
theorem spellOperators_joinWith {w : Text} {ws : List Text} (hne : ws ≠ []) (hws : ∀ v ∈ w :: ws, ' ' ∉ v)
    (hand : Apart "and".toList ws) (hor : Apart "or".toList ws) (hnot : NegationsApart (w :: ws)) :
    spellOperators (joinWith [' '] (w :: ws)) = spellWords false (w :: ws) := by
  obtain ⟨hw, hrest⟩ := List.forall_mem_cons.mp hws
  rw [spellOperators, replaceAll_and_or hws hand hor, joinWith_cons ' ' w (mapInit_ne_nil _ hne),
    replaceAll_not_append (hnot.head hne) (.inl rfl) hw, replaceAll_not_mapInit hrest hnot.tail]
  obtain ⟨v, ws, rfl⟩ := List.exists_cons_of_ne_nil hne
  rfl

/-! ## Expressions made of words -/

/-- A text that can stand between spaces: it is not empty, and has neither blanks nor quotes. -/
structure IsWord (w : Text) : Prop where
  nonempty : w ≠ []
  blank : w.any isBlank = false
  quote : '"' ∉ w

instance (w : Text) : Decidable (IsWord w) :=
  decidable_of_iff (w ≠ [] ∧ w.any isBlank = false ∧ '"' ∉ w) ⟨fun h => ⟨h.1, h.2.1, h.2.2⟩, fun h => ⟨h.1, h.2, h.3⟩⟩

namespace IsWord

variable {w : Text} {ws : List Text}

theorem isBlank_eq_false (h : IsWord w) {c : Char} (hc : c ∈ w) : isBlank c = false :=
  Bool.eq_false_iff.mpr (List.any_eq_false.mp h.blank c hc)

theorem space_not_mem (h : IsWord w) : ' ' ∉ w :=
  fun hmem => absurd (h.isBlank_eq_false hmem) (by decide)

theorem trimmed (h : IsWord w) : Trimmed w where
  head := by
    cases hhead : w.head? with
    | none => rfl
    | some c => exact h.isBlank_eq_false (List.mem_of_head? hhead)
  last := by
    cases hlast : w.getLast? with
    | none => rfl
    | some c => exact h.isBlank_eq_false (List.mem_of_getLast? hlast)

theorem trimmed_joinWith (hwords : ∀ v ∈ w :: ws, IsWord v) : Trimmed (joinWith [' '] (w :: ws)) :=
  Text.trimmed_joinWith fun v hv => ⟨(hwords v hv).nonempty, (hwords v hv).trimmed⟩

theorem isPlain_joinWith (hwords : ∀ v ∈ w :: ws, IsWord v) (hne : ws ≠ []) (hpower : "^".toList ∉ ws.dropLast) :
    IsPlain (joinWith [' '] (w :: ws)) := by
  have hspace : ' ' ∈ joinWith [' '] (w :: ws) := by
    rw [joinWith_cons ' ' w hne]
    exact List.mem_append_right _ List.mem_cons_self
  have hquote : '"' ∉ joinWith [' '] (w :: ws) := not_mem_joinWith (by decide) fun v hv => (hwords v hv).quote
  obtain ⟨hphi, htruth, hnumeral⟩ := not_named_of_space hspace
  refine ⟨hphi, isQuoted_of_not_mem hquote, htruth, hnumeral, ?_⟩
  rw [Bool.eq_false_iff, ne_eq, occurs_iff]
  exact fun h => hpower (mem_dropLast_of_enclosed_isInfix (by decide) (fun v hv => (hwords v hv).space_not_mem) h)

end IsWord

/-- An expression of two or more words is the same words with every operator spelled at once, and needs no header. Only words
that share a space with a neighbour, or that end like a negation, could tell the replacements from one reading. -/
theorem translate_words_at_once {words : List Text} (hlength : 2 ≤ words.length) (hwords : ∀ w ∈ words, IsWord w)
    (hpower : "^".toList ∉ words.tail.dropLast) (hand : Apart "and".toList words) (hor : Apart "or".toList words)
    (hnot : NegationsApart words) :
    (translate (joinWith " ".toList words)).text = spellWords false words ∧
      ∀ before : Headers, before.union (translate (joinWith " ".toList words)).headers = before := by
  obtain ⟨w, ws, rfl⟩ := List.exists_cons_of_length_pos (show 0 < words.length by omega)
  have hne : ws ≠ [] := by
    rintro rfl
    exact absurd hlength (by simp)
  have hspaces : ∀ v ∈ w :: ws, ' ' ∉ v := fun v hv => (hwords v hv).space_not_mem
  have hcode : translate (joinWith [' '] (w :: ws)) = { text := spellWords false (w :: ws) } := by
    rw [translate, (IsWord.trimmed_joinWith hwords).trim_eq, (IsWord.isPlain_joinWith hwords hne hpower).translateTrimmed_eq,
      spellOperators_joinWith hne hspaces hand.tail hor.tail hnot]
  have hsep : " ".toList = [' '] := rfl
  rw [hsep, hcode]
  exact ⟨rfl, Headers.union_none⟩

/-- Negations before negations and before an operator, an operator in the first place, and a last word that only ends like a
negation. -/
theorem translate_words_at_once_chained :
    (translate "and not not a or not b and not or knot".toList).text = "and !!a || !b && !|| knot".toList ∧
      ∀ before : Headers, before.union (translate "and not not a or not b and not or knot".toList).headers = before :=
  @translate_words_at_once (["and", "not", "not", "a", "or", "not", "b", "and", "not", "or", "knot"].map String.toList)
    (by decide) (by decide) (by decide) (by decide) (by decide) (by decide)

end FlowLang.Cpp

import FlowLang.Proofs.Text.Basic

/-!
# Where a mark occurs

A mark that occurs in two texts one behind the other occurs in one of them, unless it runs over the place between them. It
cannot do so where a character stands that the mark does not have there. Nor can replacing a word bring in a mark that has
no character of the new word.
-/

namespace FlowLang.Text

variable {mark a b t : Text}

theorem after?_eq_none_iff {lead t : Text} : after? lead t = none ↔ ¬lead <+: t := by
  rw [Option.eq_none_iff_forall_not_mem]
  constructor
  · rintro h ⟨rest, hrest⟩
    exact h rest (after?_eq_some_iff.mpr hrest.symm)
  · intro h rest hrest
    exact h ⟨rest, (after?_eq_some_iff.mp hrest).symm⟩

theorem occurs_iff : occurs mark t = true ↔ mark <:+: t := by
  unfold occurs
  induction t with
  | nil =>
      rw [List.infix_nil]
      cases mark <;> simp [cut?]
  | cons c cs ih =>
      rw [List.infix_cons_iff, ← ih, cut?]
      cases h : after? mark (c :: cs) with
      | some rest =>
          have hlead : mark <+: c :: cs := ⟨rest, (after?_eq_some_iff.mp h).symm⟩
          exact iff_of_true rfl (Or.inl hlead)
      | none => simp [after?_eq_none_iff.mp h]

/-- A text is cut at a mark where none starts before: neither in what stands in front, nor over its end. -/
theorem cut?_append_mark (hmark : mark ≠ []) (h : ¬mark <:+: a ++ mark.dropLast) (b : Text) :
    cut? mark (a ++ mark ++ b) = some (a, b) := by
  induction a with
  | nil =>
      obtain ⟨c, cs, rfl⟩ := List.exists_cons_of_ne_nil hmark
      have hafter : after? (c :: cs) (c :: (cs ++ b)) = some b := after?_eq_some_iff.mpr rfl
      simp [cut?, hafter]
  | cons c a ih =>
      have hrest : ¬mark <:+: a ++ mark.dropLast := fun hrest => h (List.infix_cons hrest)
      have hshort : c :: a ++ mark.dropLast <+: c :: a ++ mark ++ b :=
        ((List.prefix_append_right_inj _).mpr (List.dropLast_prefix mark)).trans (List.prefix_append _ b)
      have hlength : mark.length ≤ (c :: a ++ mark.dropLast).length := by
        simp
        omega
      have hstarts : after? mark (c :: (a ++ mark ++ b)) = none :=
        after?_eq_none_iff.mpr fun hstarts => h (List.prefix_of_prefix_length_le hstarts hshort hlength).isInfix
      rw [List.cons_append, List.cons_append, cut?, hstarts, ih hrest]
      rfl

theorem isInfix_of_isInfix_append {d : Char} {ds : Text} (h : d ∉ a) (hoccurs : d :: ds <:+: a ++ b) :
    d :: ds <:+: b := by
  induction a with
  | nil => exact hoccurs
  | cons c a ih =>
      obtain ⟨hc, ha⟩ := not_or.mp (mt List.mem_cons.mpr h)
      refine ih ha ((List.infix_cons_iff.mp hoccurs).resolve_left ?_)
      exact fun hstarts => hc (List.cons_prefix_cons.mp hstarts).1

theorem cut?_append_of_not_mem {d : Char} (ds : Text) (h : d ∉ a) (b : Text) :
    cut? (d :: ds) (a ++ (d :: ds) ++ b) = some (a, b) := by
  refine cut?_append_mark (List.cons_ne_nil d ds) (fun hoccurs => ?_) b
  have hlength := (isInfix_of_isInfix_append h hoccurs).length_le
  rw [List.length_dropLast, List.length_cons] at hlength
  omega

/-! ## Two texts -/

/-- The last character is none that the mark goes on behind, so no occurrence of it runs over the end. -/
def endsApart (mark t : Text) : Bool :=
  t.getLast?.all (!mark.dropLast.contains ·)

/-- The first character is none that the mark has behind its start, so no occurrence of it runs over the start. -/
def startsApart (mark t : Text) : Bool :=
  t.head?.all (!mark.tail.contains ·)

theorem isInfix_append_iff (h : endsApart mark a = true ∨ startsApart mark b = true) :
    mark <:+: a ++ b ↔ mark <:+: a ∨ mark <:+: b := by
  rw [List.infix_append_iff_ne_nil]
  refine ⟨?_, Or.imp_right Or.inl⟩
  rintro (ha | hb | ⟨front, back, hfront, hback, rfl, htail, hlead⟩)
  · exact Or.inl ha
  · exact Or.inr hb
  · -- the last character in front is one of the mark before its end, the first one behind one after its start
    exfalso
    obtain ⟨front, c, rfl⟩ := (List.eq_nil_or_concat front).resolve_left hfront
    obtain ⟨d, back, rfl⟩ := List.exists_cons_of_ne_nil hback
    have hfirst : d ∈ (front ++ c :: d :: back).tail := by
      cases front <;> simp
    obtain ⟨before, rfl⟩ := htail
    obtain ⟨behind, rfl⟩ := hlead
    simp [endsApart, startsApart, hfirst] at h

theorem occurs_append (h : endsApart mark a = true ∨ startsApart mark b = true) :
    occurs mark (a ++ b) = (occurs mark a || occurs mark b) := by
  rw [Bool.eq_iff_iff, Bool.or_eq_true, occurs_iff, occurs_iff, occurs_iff]
  exact isInfix_append_iff h

/-- Around a text stand two others that the mark does not run over. -/
theorem occurs_around (ha : endsApart mark a = true) (hb : startsApart mark b = true) (t : Text) :
    occurs mark (a ++ t ++ b) = (occurs mark a || occurs mark t || occurs mark b) := by
  rw [occurs_append (Or.inr hb), occurs_append (Or.inl ha)]

/-! ## Words without characters of the mark -/

/-- No character of the word is one of the mark. -/
def isForeign (mark word : Text) : Bool :=
  word.all (!mark.contains ·)

variable {word : Text}

theorem not_mem_of_isForeign (h : isForeign mark word = true) {c : Char} (hc : c ∈ word) : c ∉ mark := by
  simpa using List.all_eq_true.mp h c hc

theorem endsApart_of_isForeign (hne : word ≠ []) (h : isForeign mark word = true) (a : Text) :
    endsApart mark (a ++ word) = true := by
  obtain ⟨front, c, rfl⟩ := (List.eq_nil_or_concat word).resolve_left hne
  have hc : c ∉ mark.dropLast := fun hmem => not_mem_of_isForeign h (by simp) (List.dropLast_subset mark hmem)
  simp [endsApart, hc]

theorem startsApart_of_isForeign (h : isForeign mark word = true) : startsApart mark word = true := by
  cases word with
  | nil => rfl
  | cons c cs =>
      have hc : c ∉ mark.tail := fun hmem => not_mem_of_isForeign h List.mem_cons_self (List.mem_of_mem_tail hmem)
      simp [startsApart, hc]

theorem not_isInfix_of_isForeign (hmark : mark ≠ []) (h : isForeign mark word = true) : ¬mark <:+: word := by
  obtain ⟨c, cs, rfl⟩ := List.exists_cons_of_ne_nil hmark
  intro hwithin
  exact not_mem_of_isForeign h (hwithin.subset List.mem_cons_self) List.mem_cons_self

theorem occurs_append_of_isForeign (hmark : mark ≠ []) (h : isForeign mark word = true) (t : Text) :
    occurs mark (word ++ t) = occurs mark t := by
  by_cases hne : word = []
  · rw [hne, List.nil_append]
  · have hends : endsApart mark word = true := endsApart_of_isForeign hne h []
    have hword : occurs mark word = false := by
      rw [Bool.eq_false_iff, ne_eq, occurs_iff]
      exact not_isInfix_of_isForeign hmark h
    rw [occurs_append (Or.inl hends), hword, Bool.false_or]

theorem isInfix_joinWith_iff (hmark : mark ≠ []) (hne : word ≠ []) (hword : isForeign mark word = true)
    (ls : List Text) : mark <:+: joinWith word ls ↔ ∃ l ∈ ls, mark <:+: l := by
  induction ls with
  | nil => simp [joinWith, hmark]
  | cons l ls ih =>
      cases ls with
      | nil => simp [joinWith]
      | cons k ls =>
          rw [joinWith_cons_cons, isInfix_append_iff
            (Or.inl (endsApart_of_isForeign hne hword l)), ih, isInfix_append_iff (Or.inr (startsApart_of_isForeign hword))]
          simp [not_isInfix_of_isForeign hmark hword]

theorem occurs_joinWith (hmark : mark ≠ []) (hne : word ≠ []) (hword : isForeign mark word = true) (ls : List Text) :
    occurs mark (joinWith word ls) = ls.any (occurs mark) := by
  rw [Bool.eq_iff_iff, occurs_iff, isInfix_joinWith_iff hmark hne hword, List.any_eq_true]
  simp only [occurs_iff]

/-! ## Replacing -/

section
variable {old new : Text} (hne : new ≠ [])
include hne

theorem isPrefix_of_isPrefix_replaceFrom (hnew : ∀ c ∈ new, c ∉ mark) (h : mark <+: replaceFrom old new 0 t) :
    mark <+: t := by
  induction t generalizing mark with
  | nil => exact h
  | cons c cs ih =>
      cases mark with
      | nil => exact List.nil_prefix
      | cons d ds =>
          unfold replaceFrom at h
          split at h
          · obtain ⟨e, es, rfl⟩ := List.exists_cons_of_ne_nil hne
            obtain ⟨rfl, _⟩ := List.cons_prefix_cons.mp h
            exact absurd List.mem_cons_self (hnew d List.mem_cons_self)
          · obtain ⟨rfl, hrest⟩ := List.cons_prefix_cons.mp h
            have hds := ih (fun e he hd => hnew e he (List.mem_cons_of_mem _ hd)) hrest
            exact List.cons_prefix_cons.mpr ⟨rfl, hds⟩

theorem isInfix_of_isInfix_replaceFrom (hmark : mark ≠ []) (hnew : isForeign mark new = true) (skip : Nat)
    (h : mark <:+: replaceFrom old new skip t) : mark <:+: t := by
  induction t generalizing skip with
  | nil => cases skip <;> exact h
  | cons c cs ih =>
      cases skip with
      | succ skip => exact List.infix_cons (ih skip h)
      | zero =>
          have hlead : mark <+: replaceFrom old new 0 (c :: cs) → mark <+: c :: cs :=
            isPrefix_of_isPrefix_replaceFrom hne fun _ => not_mem_of_isForeign hnew
          unfold replaceFrom at h hlead
          split at h
          · rcases (isInfix_append_iff (Or.inl (endsApart_of_isForeign hne hnew []))).mp h with h | h
            · exact absurd h (not_isInfix_of_isForeign hmark hnew)
            · exact List.infix_cons (ih _ h)
          · rename_i hafter
            simp only [hafter] at hlead
            rcases List.infix_cons_iff.mp h with h | h
            · exact (hlead h).isInfix
            · exact List.infix_cons (ih 0 h)

/-- A mark that shares no character with the new word is not made by replacing. -/
theorem isInfix_of_isInfix_replaceAll (hmark : mark ≠ []) (hnew : isForeign mark new = true)
    (h : mark <:+: replaceAll old new t) : mark <:+: t :=
  isInfix_of_isInfix_replaceFrom hne hmark hnew 0 h

end

end FlowLang.Text

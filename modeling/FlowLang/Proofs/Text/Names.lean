import FlowLang.Proofs.Text.Blank
import FlowLang.Proofs.Text.Words

/-!
# Names and quoted parts

The names in a text are its longest pieces of letters, digits and underscores. Quotes pair up from the left, and what stands
between the two of a pair is quoted; a last quote that has no partner quotes nothing. Replacing a word without quotes goes
through the quoted parts and the rest one by one, and blanks around a text change neither its names nor its quoted parts.
-/

namespace FlowLang.Text

/-! ## Names -/

/-- An ASCII letter, a digit or an underscore. -/
def isNameChar (c : Char) : Bool :=
  c.isAlphanum || c == '_'

/-- The longest pieces of a text that are made of such characters, in order. -/
def names (t : Text) : List Text :=
  (t.splitOnP (!isNameChar ·)).filter (!·.isEmpty)

variable {a b t w : Text} {c : Char}

@[simp] theorem names_nil : names [] = [] := rfl

/-- Names end at every other character. -/
theorem names_append_cons (hc : isNameChar c = false) (a b : Text) : names (a ++ c :: b) = names a ++ names b := by
  rw [names, List.splitOnP_append_cons a b (by simp [hc]), List.filter_append, names, names]

theorem names_cons (hc : isNameChar c = false) (t : Text) : names (c :: t) = names t :=
  names_append_cons hc [] t

theorem names_of_all (hne : w ≠ []) (h : w.all isNameChar = true) : names w = [w] := by
  have hsplit : w.splitOnP (!isNameChar ·) = [w] :=
    List.splitOnP_eq_singleton fun c hc => by simp [List.all_eq_true.mp h c hc]
  rw [names, hsplit]
  simpa using hne

theorem toNat_bounds_of_isNameChar (h : isNameChar c = true) : 48 ≤ c.toNat ∧ c.toNat ≤ 122 := by
  delta isNameChar Char.isAlphanum Char.isAlpha Char.isUpper Char.isLower Char.isDigit at h
  simp only [Bool.or_eq_true, Bool.and_eq_true, decide_eq_true_eq, beq_iff_eq, UInt32.le_iff_toNat_le, ge_iff_le] at h
  rcases h with ((⟨hlow, hhigh⟩ | ⟨hlow, hhigh⟩) | ⟨hlow, hhigh⟩) | rfl
  · exact ⟨Nat.le_trans (by decide) hlow, Nat.le_trans hhigh (by decide)⟩
  · exact ⟨Nat.le_trans (by decide) hlow, hhigh⟩
  · exact ⟨hlow, Nat.le_trans hhigh (by decide)⟩
  · decide

theorem isNameChar_of_isBlank (h : isBlank c = true) : isNameChar c = false := by
  rw [Bool.eq_false_iff]
  intro hname
  have hbounds := toNat_bounds_of_isNameChar hname
  simp only [isBlank, isSpace, isSeparator, Bool.or_eq_true, Bool.and_eq_true, decide_eq_true_eq, beq_iff_eq] at h
  omega

theorem names_append_left_of_blank (h : ∀ c ∈ a, isBlank c = true) (b : Text) : names (a ++ b) = names b := by
  induction a with
  | nil => rfl
  | cons c a ih =>
      obtain ⟨hc, ha⟩ := List.forall_mem_cons.mp h
      rw [List.cons_append, names_cons (isNameChar_of_isBlank hc), ih ha]

theorem names_append_right_of_blank (a : Text) (h : ∀ c ∈ b, isBlank c = true) : names (a ++ b) = names a := by
  cases b with
  | nil => rw [List.append_nil]
  | cons c b =>
      obtain ⟨hc, hb⟩ := List.forall_mem_cons.mp h
      have hnone := names_append_left_of_blank hb []
      rw [List.append_nil, names_nil] at hnone
      rw [names_append_cons (isNameChar_of_isBlank hc), hnone, List.append_nil]

/-- A text ends with a piece of a name, which is empty if another character stands at its end. -/
theorem exists_last_name (t : Text) :
    ∃ front last, t = front ++ last ∧ last.all isNameChar = true ∧ front.getLast?.any isNameChar = false := by
  refine ⟨(t.reverse.dropWhile isNameChar).reverse, (t.reverse.takeWhile isNameChar).reverse, ?_, ?_, ?_⟩
  · rw [← List.reverse_append, List.takeWhile_append_dropWhile, List.reverse_reverse]
  · rw [List.all_reverse]
    exact List.all_takeWhile
  · have hhead := List.head?_dropWhile_not isNameChar t.reverse
    rw [List.getLast?_reverse]
    cases hc : (t.reverse.dropWhile isNameChar).head? with
    | none => rfl
    | some c =>
        rw [hc] at hhead
        exact hhead

/-! ## Quoted parts -/

/-- Of the pieces between quotes, those that are not quoted. -/
def outside : List Text → List Text
  | p :: _ :: r :: ps => p :: outside (r :: ps)
  | ps => ps

/-- Of the pieces between quotes, those that are quoted. -/
def inside : List Text → List Text
  | _ :: q :: r :: ps => q :: inside (r :: ps)
  | _ => []

/-- The text with one quote in the place of each quoted part and its quotes. -/
def unquoted (t : Text) : Text :=
  joinWith ['"'] (outside (splitOn '"' t))

/-- The quoted parts of a text, in order. -/
def quotations (t : Text) : List Text :=
  inside (splitOn '"' t)

theorem outside_cons_cons (p q : Text) {ps : List Text} (hne : ps ≠ []) : outside (p :: q :: ps) = p :: outside ps := by
  obtain ⟨r, ps, rfl⟩ := List.exists_cons_of_ne_nil hne
  rfl

theorem inside_cons_cons (p q : Text) {ps : List Text} (hne : ps ≠ []) : inside (p :: q :: ps) = q :: inside ps := by
  obtain ⟨r, ps, rfl⟩ := List.exists_cons_of_ne_nil hne
  rfl

theorem outside_map (f : Text → Text) : (ps : List Text) → outside (ps.map f) = (outside ps).map f
  | p :: _ :: r :: ps => congrArg (f p :: ·) (outside_map f (r :: ps))
  | [] | [_] | [_, _] => rfl

theorem inside_map (f : Text → Text) : (ps : List Text) → inside (ps.map f) = (inside ps).map f
  | _ :: q :: r :: ps => congrArg (f q :: ·) (inside_map f (r :: ps))
  | [] | [_] | [_, _] => rfl

section
variable {old new : Text} (hold : old ≠ []) (hquote : '"' ∉ old) (hnew : '"' ∉ new)
include hold hquote hnew

theorem unquoted_replaceAll (t : Text) : unquoted (replaceAll old new t) = replaceAll old new (unquoted t) := by
  rw [unquoted, splitOn_replaceAll hold hquote hnew, outside_map, ← replaceAll_joinWith hold hquote, unquoted]

theorem quotations_replaceAll (t : Text) : quotations (replaceAll old new t) = (quotations t).map (replaceAll old new) := by
  rw [quotations, splitOn_replaceAll hold hquote hnew, inside_map, quotations]

end

/-! ## The ends of a text -/

theorem outside_modifyHead (f : Text → Text) : (ps : List Text) → outside (ps.modifyHead f) = (outside ps).modifyHead f
  | _ :: _ :: _ :: _ => rfl
  | [] | [_] | [_, _] => rfl

theorem inside_modifyHead (f : Text → Text) : (ps : List Text) → inside (ps.modifyHead f) = inside ps
  | _ :: _ :: _ :: _ => rfl
  | [] | [_] | [_, _] => rfl

theorem outside_ne_nil {ps : List Text} (hne : ps ≠ []) : outside ps ≠ [] := by
  match ps with
  | [_] | [_, _] => exact hne
  | _ :: _ :: _ :: _ => exact List.cons_ne_nil _ _

theorem joinWith_modifyHead_cons (sep c : Char) {ps : List Text} (hne : ps ≠ []) :
    joinWith [sep] (ps.modifyHead (c :: ·)) = c :: joinWith [sep] ps := by
  obtain ⟨p, ps, rfl⟩ := List.exists_cons_of_ne_nil hne
  by_cases hlast : ps = []
  · rw [hlast]
    rfl
  · rw [List.modifyHead_cons, joinWith_cons sep _ hlast, joinWith_cons sep p hlast, List.cons_append]

theorem unquoted_append_left (h : '"' ∉ a) (t : Text) : unquoted (a ++ t) = a ++ unquoted t := by
  induction a with
  | nil => rfl
  | cons c a ih =>
      obtain ⟨hc, ha⟩ := not_or.mp (mt List.mem_cons.mpr h)
      rw [List.cons_append, unquoted, splitOn, if_neg (Ne.symm hc), outside_modifyHead,
        joinWith_modifyHead_cons '"' c (outside_ne_nil (splitOn_ne_nil '"' _)), ← unquoted, ih ha, List.cons_append]

theorem quotations_append_left (h : '"' ∉ a) (t : Text) : quotations (a ++ t) = quotations t := by
  induction a with
  | nil => rfl
  | cons c a ih =>
      obtain ⟨hc, ha⟩ := not_or.mp (mt List.mem_cons.mpr h)
      rw [List.cons_append, quotations, splitOn, if_neg (Ne.symm hc), inside_modifyHead, ← quotations, ih ha]

/-- The last piece is not quoted, and whatever it is the others are what they are. -/
theorem exists_outside_append : (front : List Text) → ∃ kept, ∀ last, outside (front ++ [last]) = kept ++ [last]
  | [] => ⟨[], fun _ => rfl⟩
  | [p] => ⟨[p], fun _ => rfl⟩
  | p :: q :: front => by
      obtain ⟨kept, hkept⟩ := exists_outside_append front
      refine ⟨p :: kept, fun last => ?_⟩
      rw [List.cons_append, List.cons_append, outside_cons_cons p q (by simp), hkept, List.cons_append]

theorem inside_append_singleton (last last' : Text) :
    (front : List Text) → inside (front ++ [last]) = inside (front ++ [last'])
  | [] => rfl
  | [_] => rfl
  | p :: q :: front => by
      rw [List.cons_append, List.cons_append, inside_cons_cons p q (by simp), List.cons_append, List.cons_append,
        inside_cons_cons p q (by simp), inside_append_singleton last last' front]

theorem joinWith_append_singleton (sep : Char) (ps : List Text) (last b : Text) :
    joinWith [sep] (ps ++ [last ++ b]) = joinWith [sep] (ps ++ [last]) ++ b := by
  induction ps with
  | nil => rw [List.nil_append, List.nil_append, joinWith_singleton, joinWith_singleton]
  | cons p ps ih =>
      rw [List.cons_append, joinWith_cons sep p (by simp), ih, List.cons_append, joinWith_cons sep p (by simp),
        List.append_assoc, List.cons_append]

theorem unquoted_append_right (t : Text) (h : '"' ∉ b) : unquoted (t ++ b) = unquoted t ++ b := by
  obtain ⟨front, last, hsplit⟩ := exists_splitOn_append '"' t
  obtain ⟨kept, hkept⟩ := exists_outside_append front
  have hwhole := hsplit [] List.not_mem_nil
  rw [List.append_nil, List.append_nil] at hwhole
  rw [unquoted, hsplit b h, hkept, joinWith_append_singleton, unquoted, hwhole, hkept]

theorem quotations_append_right (t : Text) (h : '"' ∉ b) : quotations (t ++ b) = quotations t := by
  obtain ⟨front, last, hsplit⟩ := exists_splitOn_append '"' t
  have hwhole := hsplit [] List.not_mem_nil
  rw [List.append_nil, List.append_nil] at hwhole
  rw [quotations, hsplit b h, quotations, hwhole]
  exact inside_append_singleton _ _ front

theorem quote_not_mem_of_blank (h : ∀ c ∈ a, isBlank c = true) : '"' ∉ a :=
  not_mem_of_blank (by decide) h

theorem names_unquoted_trim (t : Text) : names (unquoted (trim t)) = names (unquoted t) := by
  obtain ⟨before, after, hbefore, hafter, ht⟩ := exists_trim t
  conv => rhs; rw [ht, unquoted_append_left (quote_not_mem_of_blank hbefore), names_append_left_of_blank hbefore,
    unquoted_append_right _ (quote_not_mem_of_blank hafter), names_append_right_of_blank _ hafter]

theorem quotations_trim (t : Text) : quotations (trim t) = quotations t := by
  obtain ⟨before, after, hbefore, hafter, ht⟩ := exists_trim t
  conv => rhs; rw [ht, quotations_append_left (quote_not_mem_of_blank hbefore),
    quotations_append_right _ (quote_not_mem_of_blank hafter)]

end FlowLang.Text

import FlowLang.Proofs.Text.Basic
import FlowLang.Text.Utf8

/-!
# Blanks around lines

What the lines of a text hold (`contents`) does not change with the blanks at the ends of the text, nor with those at the
ends of its lines. A carriage return before a line feed is such a blank.
-/

namespace FlowLang.Text

variable {a b t : Text} {c sep : Char}

/-! ## Trimming -/

theorem exists_trimLeft (t : Text) : ∃ blanks, (∀ c ∈ blanks, isBlank c = true) ∧ t = blanks ++ trimLeft t :=
  ⟨t.takeWhile isBlank, List.all_eq_true.mp List.all_takeWhile, List.takeWhile_append_dropWhile.symm⟩

theorem exists_trimRight (t : Text) : ∃ blanks, (∀ c ∈ blanks, isBlank c = true) ∧ t = trimRight t ++ blanks := by
  obtain ⟨blanks, hblanks, ht⟩ := exists_trimLeft t.reverse
  refine ⟨blanks.reverse, fun c hc => hblanks c (List.mem_reverse.mp hc), ?_⟩
  have h := congrArg List.reverse ht
  rwa [List.reverse_reverse, List.reverse_append] at h

/-- Around the trimmed text stand blanks. -/
theorem exists_trim (t : Text) :
    ∃ before after, (∀ c ∈ before, isBlank c = true) ∧ (∀ c ∈ after, isBlank c = true) ∧ t = before ++ (trim t ++ after) := by
  obtain ⟨before, hbefore, ht⟩ := exists_trimLeft t
  obtain ⟨after, hafter, hleft⟩ := exists_trimRight (trimLeft t)
  exact ⟨before, after, hbefore, hafter, ht.trans (congrArg (before ++ ·) hleft)⟩

theorem not_mem_of_blank (hc : isBlank c = false) (h : ∀ d ∈ t, isBlank d = true) : c ∉ t :=
  fun hmem => absurd (h c hmem) (by simp [hc])

section
variable {before after : Text} (hbefore : ∀ c ∈ before, isBlank c = true) (hafter : ∀ c ∈ after, isBlank c = true)
include hbefore hafter

theorem trim_around (ht : Trimmed t) : trim (before ++ (t ++ after)) = t := by
  rw [trim_append_of_blank hbefore, ht.trim_append_of_blank hafter]

theorem not_mem_around (hc : isBlank c = false) (ht : c ∉ t) : c ∉ before ++ (t ++ after) := by
  simp [not_mem_of_blank hc hbefore, not_mem_of_blank hc hafter, ht]

end

theorem trimLeft_append_cons (hc : isBlank c = false) (a b : Text) : trimLeft (a ++ c :: b) = trimLeft a ++ c :: b := by
  induction a with
  | nil => exact trimLeft_eq_self (t := c :: b) hc
  | cons d a ih =>
      unfold trimLeft at ih ⊢
      by_cases hd : isBlank d = true
      · simp [hd, ih]
      · simp [hd]

theorem trimRight_append_cons (hc : isBlank c = false) (a b : Text) :
    trimRight (a ++ c :: b) = a ++ c :: trimRight b := by
  have h := trimLeft_append_cons hc b.reverse a.reverse
  unfold trimLeft at h
  simp [trimRight, h]

theorem trim_append_cons (hc : isBlank c = false) (a b : Text) :
    trim (a ++ c :: b) = trimLeft a ++ c :: trimRight b := by
  rw [trim, trimLeft_append_cons hc, trimRight_append_cons hc]

theorem trim_eq_nil (h : ∀ c ∈ t, isBlank c = true) : trim t = [] := by
  have hnil := trim_append_of_blank h []
  rwa [List.append_nil] at hnil

theorem trimRight_append_of_blank (a : Text) (h : ∀ c ∈ b, isBlank c = true) : trimRight (a ++ b) = trimRight a := by
  have hreverse : ∀ c ∈ b.reverse, isBlank c = true := fun c hc => h c (List.mem_reverse.mp hc)
  rw [trimRight, List.reverse_append, List.dropWhile_append_of_pos hreverse, trimRight]

theorem trim_append_right_of_blank (a : Text) (h : ∀ c ∈ b, isBlank c = true) : trim (a ++ b) = trim a := by
  by_cases ha : ∀ c ∈ a, isBlank c = true
  · rw [trim_append_of_blank ha, trim_eq_nil h, trim_eq_nil ha]
  · -- what is not blank in the text keeps its end apart from its start
    obtain ⟨c, hca, hc⟩ : ∃ c ∈ a, isBlank c = false := by simpa using ha
    obtain ⟨x, y, rfl⟩ := List.append_of_mem hca
    rw [List.append_assoc, List.cons_append, trim_append_cons hc, trim_append_cons hc, trimRight_append_of_blank y h]

@[simp] theorem trim_trimLeft (t : Text) : trim (trimLeft t) = trim t := by
  obtain ⟨blanks, hblanks, ht⟩ := exists_trimLeft t
  conv => rhs; rw [ht, trim_append_of_blank hblanks]

@[simp] theorem trim_trimRight (t : Text) : trim (trimRight t) = trim t := by
  obtain ⟨blanks, hblanks, ht⟩ := exists_trimRight t
  conv => rhs; rw [ht, trim_append_right_of_blank _ hblanks]

theorem mem_trimLeft_iff (hc : isBlank c = false) : c ∈ trimLeft t ↔ c ∈ t := by
  refine ⟨fun h => (trimLeft_isSuffix t).subset h, fun h => ?_⟩
  obtain ⟨x, y, rfl⟩ := List.append_of_mem h
  rw [trimLeft_append_cons hc]
  simp

/-- The blanks at the end of a text do not depend on what stands before it. -/
theorem trimRight_cons (c : Char) (t : Text) : trimRight (c :: t) = trimRight (c :: trimRight t) := by
  obtain ⟨blanks, hblanks, ht⟩ := exists_trimRight t
  conv => lhs; rw [ht, ← List.cons_append, trimRight_append_of_blank _ hblanks]

/-! ## Pieces -/

theorem splitOn_of_not_mem (h : sep ∉ t) : splitOn sep t = [t] := by
  have hpieces : ∀ l ∈ [t], sep ∉ l := by simpa using h
  have hsplit := splitOn_joinWith hpieces (by simp)
  rwa [joinWith_singleton] at hsplit

/-- What is put behind a text and has no separator belongs to its last piece. -/
theorem exists_splitOn_append (sep : Char) (a : Text) :
    ∃ (front : List Text) (last : Text), ∀ b, sep ∉ b → splitOn sep (a ++ b) = front ++ [last ++ b] := by
  induction a with
  | nil => exact ⟨[], [], fun b hb => splitOn_of_not_mem hb⟩
  | cons d a ih =>
      obtain ⟨front, last, h⟩ := ih
      by_cases hd : d = sep
      · exact ⟨[] :: front, last, fun b hb => by simp [splitOn, hd, h b hb]⟩
      · cases front with
        | nil => exact ⟨[], d :: last, fun b hb => by simp [splitOn, hd, h b hb]⟩
        | cons piece front => exact ⟨(d :: piece) :: front, last, fun b hb => by simp [splitOn, hd, h b hb]⟩

theorem map_trim_splitOn_append_of_blank (a : Text) (h : ∀ c ∈ b, isBlank c = true) (hsep : sep ∉ b) :
    (splitOn sep (a ++ b)).map trim = (splitOn sep a).map trim := by
  obtain ⟨front, last, hsplit⟩ := exists_splitOn_append sep a
  have ha := hsplit [] List.not_mem_nil
  rw [List.append_nil, List.append_nil] at ha
  rw [hsplit b hsep, ha, List.map_append, List.map_append, List.map_singleton, List.map_singleton,
    trim_append_right_of_blank last h]

/-! ## Lines -/

/-- What the lines of a text hold, without the blanks around it. Blank lines hold nothing. -/
def contents (t : Text) : List Text :=
  ((lines t).map trim).filter (!·.isEmpty)

theorem contents_append_newline (a b : Text) : contents (a ++ '\n' :: b) = contents a ++ contents b := by
  simp [contents, lines, splitOn_append_cons]

theorem contents_eq_nil (h : ∀ c ∈ t, isBlank c = true) : contents t = [] := by
  rw [contents, List.filter_eq_nil_iff]
  intro held hheld
  obtain ⟨line, hline, rfl⟩ := List.mem_map.mp hheld
  have hblank : ∀ c ∈ line, isBlank c = true := fun c hc => h c ((isInfix_of_mem_splitOn hline).subset hc)
  simp [trim_eq_nil hblank]

theorem contents_append_of_blank (a : Text) (h : ∀ c ∈ b, isBlank c = true) : contents (a ++ b) = contents a := by
  by_cases hnewline : '\n' ∈ b
  · -- up to the first line feed the blanks belong to the last line, behind it stand blank lines
    obtain ⟨x, y, rfl, hx⟩ := List.eq_append_cons_of_mem hnewline
    obtain ⟨hxblank, hyblank⟩ := List.forall_mem_append.mp h
    have hy := contents_eq_nil (List.forall_mem_cons.mp hyblank).2
    rw [← List.append_assoc, contents_append_newline, hy, List.append_nil, contents, contents, lines, lines,
      map_trim_splitOn_append_of_blank a hxblank hx]
  · rw [contents, contents, lines, lines, map_trim_splitOn_append_of_blank a h hnewline]

theorem contents_cons_of_blank (h : isBlank c = true) (t : Text) : contents (c :: t) = contents t := by
  by_cases hc : c = '\n'
  · subst hc
    exact contents_append_newline [] t
  · obtain ⟨line, ls, hls⟩ := List.exists_cons_of_ne_nil (splitOn_ne_nil '\n' t)
    have hline : trim (c :: line) = trim line := trim_append_of_blank (a := [c]) (by simpa using h) line
    simp [contents, lines, splitOn, hc, hls, hline]

theorem contents_of_blank_append (h : ∀ c ∈ a, isBlank c = true) (b : Text) : contents (a ++ b) = contents b := by
  induction a with
  | nil => rfl
  | cons c a ih =>
      obtain ⟨hc, ha⟩ := List.forall_mem_cons.mp h
      rw [List.cons_append, contents_cons_of_blank hc, ih ha]

theorem contents_trim (t : Text) : contents (trim t) = contents t := by
  obtain ⟨before, hbefore, ht⟩ := exists_trimLeft t
  obtain ⟨after, hafter, hleft⟩ := exists_trimRight (trimLeft t)
  conv => rhs; rw [ht, contents_of_blank_append hbefore, hleft, contents_append_of_blank _ hafter]
  rfl

/-! ## Line ends -/

/-- Every carriage return stands before a line feed. -/
def PairedReturns (t : Text) : Prop :=
  ∀ i : Nat, t[i]? = some '\r' → t[i + 1]? = some '\n'

theorem PairedReturns.tail (h : PairedReturns (c :: t)) : PairedReturns t :=
  fun i hi => h (i + 1) hi

theorem PairedReturns.head (h : PairedReturns ('\r' :: t)) : t.head? = some '\n' := by
  have hhead := h 0 rfl
  rwa [List.getElem?_cons_succ, ← List.head?_eq_getElem?] at hhead

instance decidablePairedReturns : (t : Text) → Decidable (PairedReturns t)
  | [] => isTrue nofun
  | c :: t =>
    have := decidablePairedReturns t
    decidable_of_iff ((c = '\r' → t.head? = some '\n') ∧ PairedReturns t) <| by
      refine ⟨fun h => ?_, fun h => ⟨fun hc => (hc ▸ h).head, h.tail⟩⟩
      intro i hi
      cases i with
      | zero => rw [List.getElem?_cons_succ, ← List.head?_eq_getElem?, h.1 (by simpa using hi)]
      | succ i => exact h.2 i hi

/-- Making all line ends the same takes from the lines at most blanks at their ends. -/
theorem map_trimRight_lines_unifyNewlines (h : PairedReturns t) :
    (lines (unifyNewlines t)).map trimRight = (lines t).map trimRight := by
  unfold lines
  fun_induction unifyNewlines t with
  | case1 rest ih =>
      rw [splitOn, if_pos rfl, List.map_cons, ih h.tail.tail]
      rfl
  | case2 rest hrest =>
      obtain ⟨more, rfl⟩ := List.head?_eq_some_iff.mp h.head
      exact absurd rfl (hrest more)
  | case3 c rest _ _ ih =>
      obtain ⟨line, ls, hls⟩ := List.exists_cons_of_ne_nil (splitOn_ne_nil '\n' rest)
      obtain ⟨line', ls', hls'⟩ := List.exists_cons_of_ne_nil (splitOn_ne_nil '\n' (unifyNewlines rest))
      have hrest := ih h.tail
      rw [splitOn, splitOn]
      split
      · rw [List.map_cons, List.map_cons, hrest]
      · rw [hls, hls', List.map_cons, List.map_cons, List.cons.injEq] at hrest
        rw [hls, hls', List.modifyHead_cons, List.modifyHead_cons, List.map_cons, List.map_cons, trimRight_cons c line,
          trimRight_cons c line', hrest.1, hrest.2]
  | case4 => rfl

theorem contents_unifyNewlines (h : PairedReturns t) : contents (unifyNewlines t) = contents t := by
  have htrim (ls : List Text) : ls.map trim = (ls.map trimRight).map trim := by simp
  rw [contents, contents, htrim, map_trimRight_lines_unifyNewlines h, ← htrim]

theorem replaceAll_eq_unifyNewlines (h : PairedReturns t) :
    replaceAll "\r\n".toList "\n".toList t = unifyNewlines t := by
  fun_induction unifyNewlines t with
  | case1 rest ih =>
      rw [← ih h.tail.tail]
      exact replaceAll_append _ (by decide) rest
  | case2 rest hrest =>
      obtain ⟨more, rfl⟩ := List.head?_eq_some_iff.mp h.head
      exact absurd rfl (hrest more)
  | case3 c rest _ hc ih =>
      have hafter : after? "\r\n".toList (c :: rest) = none := if_neg (Ne.symm hc)
      rw [replaceAll_cons _ hafter, ih h.tail]
  | case4 => rfl

end FlowLang.Text

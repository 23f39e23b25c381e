import FlowLang.Statement.Basic

/-!
# The lines of statements

The statements of a program are those of its lines that are not blank, in order, each with the number of its line.
-/

namespace FlowLang

open Text

variable {first : Int} {ls : List Text} {n : Numbered}

theorem statementsFrom_append (first : Int) (as bs : List Text) :
    statementsFrom first (as ++ bs) = statementsFrom first as ++ statementsFrom (first + as.length) bs := by
  induction as generalizing first with
  | nil => simp [statementsFrom]
  | cons raw as ih =>
      have hline : first + 1 + (as.length : Int) = first + ((raw :: as).length : Int) := by
        simp only [List.length_cons, Int.natCast_add, Int.cast_ofNat_Int]; omega
      simp only [List.cons_append, statementsFrom, ih, hline]
      split <;> rfl

/-- The statement on a line, if the line is not blank. -/
def lineStatement? (raw : Text) : Option Statement :=
  if (trim raw).isEmpty then none else some (.ofLine (trim raw))

/-- Without their numbers, the statements of lines are those of each line. -/
theorem map_statement_statementsFrom (first : Int) (ls : List Text) :
    (statementsFrom first ls).map Numbered.statement = ls.filterMap lineStatement? := by
  induction ls generalizing first with
  | nil => rfl
  | cons raw ls ih =>
      rw [statementsFrom, List.filterMap_cons, lineStatement?]
      split
      · exact ih (first + 1)
      · exact congrArg (_ :: ·) (ih (first + 1))

/-- A line that is not blank has its statement behind those of the lines above and before those of the lines below. -/
theorem statementsFrom_split {i : Nat} {raw : Text} (hi : ls[i]? = some raw) (hraw : trim raw ≠ []) :
    statementsFrom first ls = statementsFrom first (ls.take i) ++
      ⟨first + i, .ofLine (trim raw)⟩ :: statementsFrom (first + i + 1) (ls.drop (i + 1)) := by
  obtain ⟨hlt, hget⟩ := List.getElem?_eq_some_iff.mp hi
  have hls : ls = ls.take i ++ raw :: ls.drop (i + 1) := by
    rw [← hget, List.getElem_cons_drop, List.take_append_drop]
  have hlen : (ls.take i).length = i := List.length_take_of_le (Nat.le_of_lt hlt)
  conv => lhs; rw [hls]
  rw [statementsFrom_append, hlen]
  simp [statementsFrom, hraw]

theorem exists_line_of_mem_statementsFrom (h : n ∈ statementsFrom first ls) :
    ∃ (i : Nat) (raw : Text), ls[i]? = some raw ∧ trim raw ≠ [] ∧ n = ⟨first + i, .ofLine (trim raw)⟩ := by
  induction ls generalizing first with
  | nil => cases h
  | cons raw ls ih =>
      have below : n ∈ statementsFrom (first + 1) ls → ∃ (i : Nat) (r : Text), (raw :: ls)[i]? = some r ∧
          trim r ≠ [] ∧ n = ⟨first + i, .ofLine (trim r)⟩ := by
        intro hn
        obtain ⟨i, r, hi, hr, rfl⟩ := ih hn
        have hline : first + 1 + (i : Int) = first + ((i + 1 : Nat) : Int) := by omega
        exact ⟨i + 1, r, hi, hr, by rw [hline]⟩
      simp only [statementsFrom] at h
      split at h
      · exact below h
      · rename_i hraw
        rcases List.mem_cons.mp h with rfl | h
        · exact ⟨0, raw, rfl, by simpa using hraw, by simp⟩
        · exact below h

theorem line_bounds_of_mem_statementsFrom (h : n ∈ statementsFrom first ls) :
    first ≤ n.line ∧ n.line < first + ls.length := by
  obtain ⟨i, raw, hi, _, rfl⟩ := exists_line_of_mem_statementsFrom h
  obtain ⟨hlt, _⟩ := List.getElem?_eq_some_iff.mp hi
  constructor
  · show first ≤ first + (i : Int)
    omega
  · show first + (i : Int) < first + ls.length
    omega

theorem pairwise_line_statementsFrom (first : Int) (ls : List Text) :
    (statementsFrom first ls).Pairwise (·.line < ·.line) := by
  induction ls generalizing first with
  | nil => exact .nil
  | cons raw ls ih =>
      simp only [statementsFrom]
      split
      · exact ih _
      · refine List.pairwise_cons.mpr ⟨?_, ih _⟩
        intro n hn
        have h := (line_bounds_of_mem_statementsFrom hn).1
        show first < n.line
        omega

/-! ## Whole programs -/

variable {source : Text}

theorem line_bounds_of_mem_statements (h : n ∈ statements source) : 1 ≤ n.line ∧ n.line ≤ (lines source).length := by
  have h := line_bounds_of_mem_statementsFrom h
  omega

theorem pairwise_line_statements (source : Text) : (statements source).Pairwise (·.line < ·.line) :=
  pairwise_line_statementsFrom 1 (lines source)

theorem line_bounds_of_split {before after : List Numbered} (h : statements source = before ++ n :: after) :
    ∀ m ∈ after, n.line < m.line ∧ m.line ≤ (lines source).length := by
  intro m hm
  have hp := pairwise_line_statements source
  rw [h] at hp
  have hmem : m ∈ statements source := by rw [h]; simp [hm]
  exact ⟨(List.pairwise_cons.mp (List.pairwise_append.mp hp).2.1).1 m hm, (line_bounds_of_mem_statements hmem).2⟩

theorem eq_of_line_eq {m : Numbered} (hn : n ∈ statements source) (hm : m ∈ statements source)
    (h : n.line = m.line) : n = m := by
  obtain ⟨i, raw, hi, _, rfl⟩ := exists_line_of_mem_statementsFrom hn
  obtain ⟨j, raw', hj, _, rfl⟩ := exists_line_of_mem_statementsFrom hm
  have hij : i = j := by
    have h : (1 : Int) + i = 1 + j := h
    omega
  subst hij
  rw [hi] at hj
  cases hj
  rfl

end FlowLang

import FlowLang.Proofs.Cpp.Sections
import FlowLang.Proofs.Text.Blank

/-!
# How a program is laid out

Blank lines, the blanks around a line, the kind of line end, and bindings without a value play no part in the translation
of a program.
-/

namespace FlowLang

open Text Cpp

/-- The lines that count, without the blanks around them. -/
def significantLines (source : Text) : List Text :=
  ((lines source).map trim).filter fun line => !line.isEmpty && !(Statement.ofLine line).isDropped

theorem significantLines_eq (source : Text) :
    significantLines source = (contents source).filter fun line => !(Statement.ofLine line).isDropped := by
  simp [significantLines, contents, List.filter_filter, Bool.and_comm]

theorem filter_map_statement (source : Text) :
    ((statements source).map Numbered.statement).filter (!·.isDropped) =
      (significantLines source).map Statement.ofLine := by
  rw [statements, map_statement_statementsFrom, significantLines]
  induction lines source with
  | nil => rfl
  | cons raw ls ih =>
      cases hraw : (trim raw).isEmpty with
      | true => simp [lineStatement?, hraw, ih]
      | false => cases hdropped : (Statement.ofLine (trim raw)).isDropped <;> simp [lineStatement?, hraw, hdropped, ih]

theorem Statement.eq_dropped_of_isDropped {s : Statement} (h : s.isDropped = true) : ∃ text, s = .dropped text := by
  cases s <;> cases h
  exact ⟨_, rfl⟩

/-- Programs with the same lines that count have the same translation, whatever the numbers of these lines. -/
theorem transpile_congr {s t : Text} (h : significantLines s = significantLines t) : transpile s = transpile t := by
  have hwritten : ∀ s : Statement, (!s.isDropped) = false → s.effect = .stays ∧ s.code = [] := by
    intro s hs
    obtain ⟨text, rfl⟩ := Statement.eq_dropped_of_isDropped (by simpa using hs)
    exact ⟨rfl, rfl⟩
  have hneeded : ∀ s : Statement, (!s.isDropped) = false → s.headers = .none := by
    intro s hs
    obtain ⟨text, rfl⟩ := Statement.eq_dropped_of_isDropped (by simpa using hs)
    rfl
  refine Generator.assemble_congr ?_ fun m => ?_
  · rw [Generator.headers_run, Generator.headers_run, ← Generator.headersOf_filter hneeded,
      ← Generator.headersOf_filter hneeded (List.map _ (statements t)), filter_map_statement, filter_map_statement, h]
  · rw [Generator.buffer_run, Generator.buffer_run, ← Standing.addedAll_filter hwritten,
      ← Standing.addedAll_filter hwritten _ _ (List.map _ (statements t)), filter_map_statement, filter_map_statement, h]

theorem transpile_eq_of_contents {s t : Text} (h : contents s = contents t) : transpile s = transpile t := by
  refine transpile_congr ?_
  rw [significantLines_eq, significantLines_eq, h]

theorem transpile_trim (s : Text) : transpile (trim s) = transpile s :=
  transpile_eq_of_contents (contents_trim s)

theorem transpile_unifyNewlines {s : Text} (h : PairedReturns s) : transpile (unifyNewlines s) = transpile s :=
  transpile_eq_of_contents (contents_unifyNewlines h)

end FlowLang

import FlowLang.Editor.Hover
import FlowLang.Proofs.Cpp.Standing
import FlowLang.Proofs.Statement.Lines
import FlowLang.Proofs.Text.Basic

/-!
# Hovers and generated lines

A hover shows a line as it would be written at the top of the main program. The generator writes the same text wherever
the line stands: what came before decides only the buffer, the indentation and a blank line.
-/

namespace FlowLang.Editor

open Text Cpp

/-- The second generation has these lines behind those of the first. -/
structure Appends (g h : Generator) (function main : List Text) : Prop where
  functionLines : h.scope.functionLines = g.scope.functionLines ++ function
  mainLines : h.scope.mainLines = g.scope.mainLines ++ main

/-- Lines without indentation, and without the blank ones. -/
def bare (ls : List Text) : List Text :=
  (ls.map trim).filter (!·.isEmpty)

@[simp] theorem bare_nil : bare [] = [] := rfl

theorem bare_append (as bs : List Text) : bare (as ++ bs) = bare as ++ bare bs := by
  simp [bare]

theorem bare_blank {ls : List Text} (h : ∀ line ∈ ls, line = []) : bare ls = [] := by
  unfold bare
  rw [List.filter_eq_nil_iff]
  intro line hline
  obtain ⟨raw, hraw, rfl⟩ := List.mem_map.mp hline
  rw [h raw hraw]
  decide

theorem bare_indented (level : Nat) (ls : List Text) : bare (ls.map (Scope.indented level)) = bare ls := by
  have hspaces : ∀ c ∈ List.replicate (4 * level) ' ', isBlank c = true := by
    intro c hc
    rw [List.eq_of_mem_replicate hc]
    rfl
  have htrim (t : Text) : trim (Scope.indented level t) = trim t := trim_append_of_blank hspaces t
  simp only [bare, List.map_map, Function.comp_def, htrim]

/-! ## One step -/

variable {g : Generator} {n : Numbered} {function main : List Text}

theorem exists_appends (g : Generator) (n : Numbered) : ∃ function main, Appends g (g.step n) function main := by
  obtain ⟨_, _, _, hbuffer⟩ := Scope.exists_buffer_place g.scope n
  exact ⟨_, _, hbuffer .function, hbuffer .main⟩

/-- Whatever the generation was, a step appends the line of its statement, indented somehow, and blank lines. -/
theorem Appends.bare_eq (h : Appends g (g.step n) function main) : bare (function ++ main) = bare n.statement.code := by
  obtain ⟨level, blank, hblank, hbuffer⟩ := Scope.exists_buffer_place g.scope n
  -- what is appended is determined by the two generations, so these are the lines of the statement
  have hfunction := List.append_cancel_left (h.functionLines.symm.trans (hbuffer .function))
  have hmain := List.append_cancel_left (h.mainLines.symm.trans (hbuffer .main))
  rw [hfunction, hmain]
  cases g.scope.target n <;> simp [bare_append, bare_indented, bare_blank hblank]

theorem preview_eq (line : Text) : preview line = bare (Statement.ofLine line).code :=
  Appends.bare_eq (g := .initial) (n := ⟨0, .ofLine line⟩) ⟨rfl, rfl⟩

/-! ## Hovers -/

variable {source raw : Text} {p : Position}

theorem hover_of_line (hraw : (lines source)[p.line]? = some raw) (hne : trim raw ≠ []) :
    hover source p = some ⟨describe (Statement.ofLine (trim raw)).kind (preview (trim raw)),
      .onLine p.line (raw.length - (trimLeft raw).length) (raw.length - (trimLeft raw).length + (trim raw).length)⟩ := by
  simp [hover, hraw, hne]

/-- The text of a hover: the kind in bold, and the lines between fences, or a remark if there are none. -/
theorem describe_eq (kind : Text) (cpp : List Text) :
    describe kind cpp = "**".toList ++ kind ++ "**".toList ++
      (if cpp = [] then "\n\n_(emits nothing)_".toList
      else "\n```cpp\n".toList ++ "\n".toList.intercalate cpp ++ "\n```".toList) := by
  cases cpp with
  | nil => rfl
  | cons line rest => rfl

theorem hover_eq_none_iff : hover source p = none ↔ ∀ raw, (lines source)[p.line]? = some raw → trim raw = [] := by
  cases hraw : (lines source)[p.line]? with
  | none => simp [hover, hraw]
  | some raw => by_cases hne : trim raw = [] <;> simp [hover, hraw, hne]

/-- A hover is there exactly on the lines that are not blank, and says what the generator does at the line: the kind of its
statement and the lines that it appends to the program, which are the same after every generation. -/
theorem hover_shows_appended (source : Text) (p : Position) :
    (hover source p = none ↔ ∀ raw, (lines source)[p.line]? = some raw → trim raw = []) ∧
    (∀ character, hover source ⟨p.line, character⟩ = hover source p) ∧
    ∀ raw, (lines source)[p.line]? = some raw → trim raw ≠ [] →
      ∃ before n after shown, statements source = before ++ n :: after ∧
        n.line = (p.line : Int) + 1 ∧ (∀ m ∈ statements source, m.line = (p.line : Int) + 1 → m = n) ∧
        (∃ function main, Appends (Generator.initial.run before) (Generator.initial.run (before ++ [n])) function main ∧
          bare (function ++ main) = preview (trim raw)) ∧
        (∀ g function main, Appends g (g.step n) function main → bare (function ++ main) = preview (trim raw)) ∧
        hover source p = some shown ∧
        shown.value = "**".toList ++ n.statement.kind ++ "**".toList ++
          (if preview (trim raw) = [] then "\n\n_(emits nothing)_".toList
          else "\n```cpp\n".toList ++ "\n".toList.intercalate (preview (trim raw)) ++ "\n```".toList) ∧
        shown.range.start.line = p.line ∧ shown.range.stop.line = p.line ∧
        (raw.drop shown.range.start.character).take
          (shown.range.stop.character - shown.range.start.character) = trim raw := by
  refine ⟨hover_eq_none_iff, fun _ => rfl, ?_⟩
  intro raw hraw hne
  have hsplit : statements source = _ := statementsFrom_split hraw hne
  have hmem : (⟨1 + p.line, .ofLine (trim raw)⟩ : Numbered) ∈ statements source := by
    rw [hsplit]
    simp
  refine ⟨_, _, _, _, hsplit, Int.add_comm _ _, ?_, ?_, ?_, hover_of_line hraw hne, describe_eq _ _, rfl, rfl, ?_⟩
  · intro m hm hline
    exact eq_of_line_eq hm hmem (hline.trans (Int.add_comm _ _))
  · obtain ⟨function, main, happends⟩ := exists_appends (Generator.initial.run _) ⟨1 + p.line, .ofLine (trim raw)⟩
    refine ⟨function, main, ?_, happends.bare_eq.trans (preview_eq _).symm⟩
    unfold Generator.run
    rw [List.foldl_append]
    exact happends
  · intro g function main happends
    exact happends.bare_eq.trans (preview_eq _).symm
  · simpa only [Range.onLine, Nat.add_sub_cancel_left] using take_drop_trim raw

/-- The `end` of a function appends a blank line too, which the hover does not show. -/
theorem hover_shows_appended_end :
    ∃ before n after shown, statements "define f(x)\n\n  say x\n\tend \n".toList = before ++ n :: after ∧ n.line = 4 ∧
      (∃ function main, Appends (Generator.initial.run before) (Generator.initial.run (before ++ [n])) function main ∧
        bare (function ++ main) = ["\x7d".toList]) ∧
      hover "define f(x)\n\n  say x\n\tend \n".toList ⟨3, 9⟩ = some shown ∧
      shown.value = "**End**\n```cpp\n\x7d\n```".toList ∧ shown.range.start.line = 3 := by
  have hpreview : preview (trim "\tend ".toList) = ["\x7d".toList] := by decide
  obtain ⟨before, n, after, shown, hsplit, hline, hsame, ⟨function, main, happends, hbare⟩, _, hshown, hvalue, hstart, _⟩ :=
    (hover_shows_appended "define f(x)\n\n  say x\n\tend \n".toList ⟨3, 9⟩).2.2 "\tend ".toList (by decide) (by decide)
  obtain rfl : ⟨4, .blockEnd⟩ = n := hsame _ (by decide) rfl
  rw [hpreview] at hbare hvalue
  exact ⟨before, _, after, shown, hsplit, hline, ⟨function, main, happends, hbare⟩, hshown, hvalue, hstart⟩

end FlowLang.Editor

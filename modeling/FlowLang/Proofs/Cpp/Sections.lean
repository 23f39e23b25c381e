import FlowLang.Proofs.Cpp.Expression
import FlowLang.Proofs.Cpp.Program
import FlowLang.Proofs.Cpp.Standing
import FlowLang.Proofs.Statement.Texts

/-!
# Reading generated programs

The texts of a program are written as they are into the generated lines. All the same no line that they make can be taken
for the end of a section: a text has no line feed, the lines inside a function are indented, and those at its borders are
declarations and braces. So a generated program can be taken apart into its headers, its functions and its main program,
and its number of lines can be told from the statements.
-/

namespace FlowLang

open Text Cpp

/-! ## The characters of lines -/

/-- The words between which the texts of a statement are written. -/
def codeWords : List String :=
  translationWords ++
    ["// ", "\x7d", "auto ", "(", " \x7b", "return ", ";", "std::cout << ", " << std::endl;", " = ", "if (", ") \x7b",
     "\x7d else \x7b", "for (int _i = 0; _i < ", "; _i++) \x7b", "while (", " *= ", "1.618033988749895", "break;", "continue;",
     ""]

section
variable {P : Char → Prop} (hwords : ∀ w ∈ codeWords, ∀ c ∈ w.toList, P c)
include hwords

theorem forall_mem_around (before after : String) (hbefore : before ∈ codeWords) (hafter : after ∈ codeWords)
    {value : Text} (h : ∀ c ∈ value, P c) : ∀ c ∈ before.toList ++ (translate value).text ++ after.toList, P c := by
  have htranslated : ∀ c ∈ (translate value).text, P c :=
    forall_mem_translate (fun w hw => hwords w (List.mem_append_left _ hw)) h
  rw [List.forall_mem_append, List.forall_mem_append]
  exact ⟨⟨hwords before hbefore, htranslated⟩, hwords after hafter⟩

theorem forall_mem_declaration {signature : Signature} (hname : ∀ c ∈ signature.name, P c)
    (hparams : ∀ p ∈ signature.params, ∀ c ∈ p, P c) : ∀ c ∈ signature.declaration, P c := by
  have hauto := hwords "auto " (by decide)
  have hjoin : ∀ c ∈ joinWith ", ".toList (signature.params.map ("auto ".toList ++ ·)), P c := by
    refine forall_mem_joinWith (hwords ", " (by decide)) ?_
    intro l hl
    obtain ⟨p, hp, rfl⟩ := List.mem_map.mp hl
    exact List.forall_mem_append.mpr ⟨hauto, hparams p hp⟩
  unfold Signature.declaration
  rw [List.forall_mem_append, List.forall_mem_append, List.forall_mem_append, List.forall_mem_append]
  exact ⟨⟨⟨⟨hauto, hname⟩, hwords "(" (by decide)⟩, hjoin⟩, hwords ")" (by decide)⟩

/-- What holds of all characters of a statement's texts, and of the words around them, holds of its line. -/
theorem forall_mem_code {s : Statement} (h : ∀ t ∈ s.texts, ∀ c ∈ t, P c) : ∀ line ∈ s.code, ∀ c ∈ line, P c := by
  have single {t : Text} (ht : ∀ c ∈ t, P c) : ∀ line ∈ [t], ∀ c ∈ line, P c := by
    intro line hline
    rw [List.mem_singleton.mp hline]
    exact ht
  rw [Statement.code_eq_written]
  cases s with
  | comment text =>
      exact single (List.forall_mem_append.mpr ⟨hwords "// " (by decide), h text (by simp [Statement.texts])⟩)
  | define signature =>
      have hname := h signature.name (by simp [Statement.texts])
      have hparams : ∀ p ∈ signature.params, ∀ c ∈ p, P c := fun p hp => h p (by simp [Statement.texts, hp])
      exact single (List.forall_mem_append.mpr ⟨forall_mem_declaration hwords hname hparams, hwords " \x7b" (by decide)⟩)
  | bind name value =>
      have hname := h name (by simp [Statement.texts])
      have hvalue := forall_mem_translate (fun w hw => hwords w (List.mem_append_left _ hw))
        (h value (by simp [Statement.texts]))
      refine single ?_
      rw [List.forall_mem_append, List.forall_mem_append, List.forall_mem_append, List.forall_mem_append]
      exact ⟨⟨⟨⟨hwords "auto " (by decide), hname⟩, hwords " = " (by decide)⟩, hvalue⟩, hwords ";" (by decide)⟩
  | grow name =>
      refine single ?_
      rw [List.forall_mem_append, List.forall_mem_append, List.forall_mem_append]
      exact ⟨⟨⟨h name (by simp [Statement.texts]), hwords " *= " (by decide)⟩, hwords "1.618033988749895" (by decide)⟩,
        hwords ";" (by decide)⟩
  | expression text =>
      exact single (forall_mem_around hwords "" ";" (by decide) (by decide)
        (h text (by simp [Statement.texts])))
  | returnValue value =>
      exact single (forall_mem_around hwords "return " ";" (by decide) (by decide)
        (h value (by simp [Statement.texts])))
  | say value =>
      exact single (forall_mem_around hwords "std::cout << " " << std::endl;" (by decide) (by decide)
        (h value (by simp [Statement.texts])))
  | ifThen condition =>
      exact single (forall_mem_around hwords "if (" ") \x7b" (by decide) (by decide)
        (h condition (by simp [Statement.texts])))
  | whileDo condition =>
      exact single (forall_mem_around hwords "while (" ") \x7b" (by decide) (by decide)
        (h condition (by simp [Statement.texts])))
  | loopTimes count =>
      exact single (forall_mem_around hwords "for (int _i = 0; _i < " "; _i++) \x7b" (by decide)
        (by decide) (h count (by simp [Statement.texts])))
  | blockEnd => exact single (hwords "\x7d" (by decide))
  | elseBranch => exact single (hwords "\x7d else \x7b" (by decide))
  | breakLoop => exact single (hwords "break;" (by decide))
  | continueLoop => exact single (hwords "continue;" (by decide))
  | dropped text => intro line hline; cases hline

end

theorem newline_not_mem_indented {level : Nat} {t : Text} (h : '\n' ∉ t) : '\n' ∉ Scope.indented level t := by
  unfold Scope.indented
  rw [List.mem_append]
  rintro (hc | hc)
  · cases List.eq_of_mem_replicate hc
  · exact h hc

/-- No generated line runs over its end. -/
theorem newline_not_mem_buffer (source : Text) (m : Mode) :
    ∀ line ∈ (Generator.initial.run (statements source)).scope.buffer m, '\n' ∉ line := by
  intro line hline
  rw [Generator.buffer_run] at hline
  rcases Standing.mem_addedAll hline with rfl | ⟨s, hs, level, t, ht, rfl⟩
  · exact List.not_mem_nil
  · obtain ⟨n, hn, rfl⟩ := List.mem_map.mp hs
    have hwords : ∀ w ∈ codeWords, '\n' ∉ w.toList := by decide +kernel
    have hcode := forall_mem_code (P := (· ≠ '\n')) (fun w hw c hc hnewline => hwords w hw (hnewline ▸ hc))
      (s := n.statement) fun t ht c hc hnewline => newline_not_mem_texts hn ht (hnewline ▸ hc)
    exact newline_not_mem_indented fun hc => hcode t ht '\n' hc rfl

/-! ## The lines of functions -/

/-- The line that opens the main program. -/
def mainLine : Text :=
  "int main() \x7b".toList

theorem head?_indented (level : Nat) (t : Text) :
    (Scope.indented level t).head? = if level = 0 then t.head? else some ' ' := by
  cases level with
  | zero => rfl
  | succ level => rfl

namespace Cpp.Standing

variable {p : Standing} {s : Statement}

/-- A line of a function is indented, is blank, or starts as a brace or a declaration does. -/
theorem head?_added_function (hp : p.FunctionOpen) {line : Text} (h : line ∈ p.added s .function) :
    line.head? ≠ some 'i' := by
  rcases mem_added h with rfl | ⟨t, ht, rfl⟩
  · decide
  · rw [head?_indented]
    have indented (hlevel : p.level s = p.depth) (he : ∀ signature, s.effect ≠ .defines signature) :
        (if p.level s = 0 then t.head? else some ' ') ≠ some 'i' := by
      have hmode : p.mode = .function := by
        unfold added at h
        split at h
        · rename_i htarget
          rw [htarget, target_of_effect he]
        · cases h
      rw [hlevel, if_neg (Nat.ne_of_gt (hp hmode))]
      decide
    cases he : s.effect with
    | stays => exact indented (by simp only [level, he]) (by simp [he])
    | opens kind => exact indented (by simp only [level, he]) (by simp [he])
    | alternates =>
        rw [Statement.eq_elseBranch_of_effect he] at ht
        rw [List.mem_singleton.mp ht]
        split <;> decide
    | closes =>
        rw [Statement.eq_blockEnd_of_effect he] at ht
        rw [List.mem_singleton.mp ht]
        split <;> decide
    | defines signature =>
        rw [Statement.eq_define_of_effect he] at ht
        rw [List.mem_singleton.mp ht]
        split
        · show some 'a' ≠ some 'i'
          decide
        · decide

theorem head?_addedAll_function (hp : p.FunctionOpen) {ss : List Statement} :
    ∀ line ∈ addedAll .function p ss, line.head? ≠ some 'i' := by
  induction ss generalizing p with
  | nil => intro line hline; cases hline
  | cons s ss ih =>
      intro line hline
      rcases List.mem_append.mp hline with hline | hline
      · exact head?_added_function hp hline
      · exact ih (hp.after s) line hline

end Cpp.Standing

theorem mainLine_not_mem_functionLines (ns : List Numbered) :
    mainLine ∉ (Generator.initial.run ns).scope.functionLines := by
  intro h
  have hadded : mainLine ∈ Standing.addedAll .function .initial (ns.map Numbered.statement) :=
    Generator.buffer_run ns .function ▸ h
  exact Standing.head?_addedAll_function Standing.functionOpen_initial mainLine hadded rfl

/-! ## Taking a program apart -/

/-- The lines of a generated program, section by section. -/
structure Sections where
  headers : List Text
  functions : List Text
  main : List Text
  closing : List Text
  deriving DecidableEq, Repr

/-- Takes lines apart: the headers stand behind the title and end at the first blank line, the functions end at the first
line that opens the main program, and the main program ends before the last three lines. -/
def Sections.ofLines (ls : List Text) : Sections :=
  let behind := (ls.dropWhile (· != [])).tail
  let body := (behind.dropWhile (· != mainLine)).tail
  { headers := (ls.takeWhile (· != [])).tail
    functions := behind.takeWhile (· != mainLine)
    main := body.take (body.length - 3)
    closing := body.drop (body.length - 3) }

/-- Takes a program apart. The last of its lines is what stands behind the last line feed. -/
def Sections.read (program : Text) : Sections :=
  .ofLines (lines program)

theorem Sections.ofLines_eq {title : Text} {headers functions main : List Text} (hblank : [] ∉ title :: headers)
    (hmain : mainLine ∉ functions) (a b c : Text) :
    ofLines (title :: headers ++ [] :: (functions ++ mainLine :: (main ++ [a, b, c]))) =
      ⟨headers, functions, main, [a, b, c]⟩ := by
  have hlength : (main ++ [a, b, c]).length - 3 = main.length := by simp
  unfold ofLines
  rw [takeWhile_ne_append hblank, dropWhile_ne_append hblank]
  dsimp only [List.tail_cons]
  rw [takeWhile_ne_append hmain, dropWhile_ne_append hmain, List.tail_cons, hlength, List.take_left, List.drop_left]

namespace Cpp

namespace Headers

/-- Every header. -/
def all : Headers :=
  ⟨true, true, true⟩

theorem lines_subset_all (h : Headers) : h.lines ⊆ all.lines := by
  obtain ⟨iostream, string, cmath⟩ := h
  cases iostream <;> cases string <;> cases cmath <;> decide

/-- The headers that lines ask for. -/
def ofLines (ls : List Text) : Headers where
  iostream := ls.contains "#include <iostream>".toList
  string := ls.contains "#include <string>".toList
  cmath := ls.contains "#include <cmath>".toList

theorem ofLines_lines (h : Headers) : ofLines h.lines = h := by
  obtain ⟨iostream, string, cmath⟩ := h
  cases iostream <;> cases string <;> cases cmath <;> decide

end Headers

namespace Generator

variable {g : Generator}

theorem lines_assemble (h : ∀ m, ∀ line ∈ g.scope.buffer m, '\n' ∉ line) : lines g.assemble = g.outputLines ++ [[]] := by
  have hjoin : g.assemble = joinWith ['\n'] (g.outputLines ++ [[]]) :=
    (joinWith_append_nil '\n' (by simp [outputLines])).symm
  have hall : ∀ line ∈ Headers.all.lines, '\n' ∉ line := by decide
  have hheaders : ∀ line ∈ g.headers.lines, '\n' ∉ line := fun line hline => hall line (g.headers.lines_subset_all hline)
  have hfunctions : ∀ line ∈ g.scope.functionLines, '\n' ∉ line := h .function
  have hmain : ∀ line ∈ g.scope.mainLines, '\n' ∉ line := h .main
  rw [lines, hjoin, splitOn_joinWith]
  · intro line hline
    simp only [outputLines, List.mem_append, List.mem_cons, List.not_mem_nil, or_false] at hline
    rcases hline with ((((rfl | hline) | rfl | hline) | rfl | hline) | rfl | rfl) | rfl
    · decide
    · exact hheaders line hline
    · decide
    · exact hfunctions line hline
    · decide
    · exact hmain line hline
    · decide
    · decide
    · decide
  · simp

theorem read_assemble (h : ∀ m, ∀ line ∈ g.scope.buffer m, '\n' ∉ line) (hmain : mainLine ∉ g.scope.functionLines) :
    Sections.read g.assemble =
      { headers := g.headers.lines, functions := g.scope.functionLines, main := g.scope.mainLines
        closing := ["    return 0;".toList, "\x7d".toList, []] } := by
  -- the lines, with the three borders in view
  have hlines : lines g.assemble =
      ("// Generated by flowc — the Flow compiler".toList :: g.headers.lines) ++
        [] :: (g.scope.functionLines ++ mainLine :: (g.scope.mainLines ++ ["    return 0;".toList, "\x7d".toList, []])) := by
    rw [lines_assemble h, outputLines]
    simp only [List.append_assoc, List.cons_append, List.nil_append]
    rfl
  have hall : [] ∉ Headers.all.lines := by decide
  have hblank : [] ∉ "// Generated by flowc — the Flow compiler".toList :: g.headers.lines :=
    List.not_mem_cons_of_ne_of_not_mem (by decide) fun hmem => hall (g.headers.lines_subset_all hmem)
  rw [Sections.read, hlines, Sections.ofLines_eq hblank hmain]

end Generator

end Cpp

theorem read_transpile (source : Text) :
    Sections.read (transpile source) =
      { headers := (Generator.initial.run (statements source)).headers.lines
        functions := (Generator.initial.run (statements source)).scope.functionLines
        main := (Generator.initial.run (statements source)).scope.mainLines
        closing := ["    return 0;".toList, "\x7d".toList, []] } :=
  Generator.read_assemble (newline_not_mem_buffer source) (mainLine_not_mem_functionLines _)

/-! ## The number of lines -/

/-- The line was dropped. -/
def Statement.isDropped : Statement → Bool
  | .dropped _ => true
  | _ => false

/-- The `end` of a definition comes before any further definition, when `depth` blocks of it are open. -/
def endFollows : Nat → List Statement → Bool
  | _, [] => false
  | depth, s :: ss =>
    match s.effect with
    | .stays | .alternates => endFollows depth ss
    | .opens _ => endFollows (depth + 1) ss
    | .closes => depth ≤ 1 || endFollows (depth - 1) ss
    | .defines _ => false

/-- The number of definitions that are closed by an `end`. -/
def closedDefinitions : List Statement → Nat
  | [] => 0
  | s :: ss => (if s.isDefine && endFollows 1 ss then 1 else 0) + closedDefinitions ss

theorem length_code (s : Statement) : s.code.length = if s.isDropped then 0 else 1 := by
  cases s <;> rfl

namespace Cpp.Standing

variable {p : Standing}

/-- How many functions are left on the way through statements. -/
def leavings : Standing → List Statement → Nat
  | _, [] => 0
  | p, s :: ss => (if p.leaves s then 1 else 0) + leavings (p.after s) ss

theorem length_added (p : Standing) (s : Statement) :
    (p.added s .function).length + (p.added s .main).length =
      (if s.isDropped then 0 else 1) + if p.leaves s then 1 else 0 := by
  rw [← length_code]
  unfold added
  cases p.target s <;> cases p.leaves s <;> simp

theorem length_addedAll (p : Standing) (ss : List Statement) :
    (addedAll .function p ss).length + (addedAll .main p ss).length =
      ss.countP (!·.isDropped) + leavings p ss := by
  induction ss generalizing p with
  | nil => rfl
  | cons s ss ih =>
      have hhead := length_added p s
      have htail := ih (p.after s)
      rw [addedAll_cons, addedAll_cons, List.length_append, List.length_append, List.countP_cons, leavings]
      cases hs : s.isDropped <;> simp [hs] at hhead ⊢ <;> omega

/-- A function in progress is left when its `end` follows, and so is every definition further on. -/
theorem leavings_eq (hp : p.FunctionOpen) (ss : List Statement) :
    leavings p ss = (if p.mode = .function ∧ endFollows p.depth ss then 1 else 0) + closedDefinitions ss := by
  induction ss generalizing p with
  | nil => simp [leavings, endFollows, closedDefinitions]
  | cons s ss ih =>
      have hdefine (he : ∀ signature, s.effect ≠ .defines signature) : s.isDefine = false := by
        simp [Statement.isDefine, Statement.signature?_of_effect he]
      rw [leavings, ih (hp.after s), closedDefinitions]
      cases he : s.effect with
      | stays => simp [leaves_of_effect, hdefine, after, endFollows, he]
      | opens kind => simp [leaves_of_effect, hdefine, after, endFollows, he]
      | alternates =>
          -- the block that is closed and opened again is there only inside a function
          by_cases hm : p.mode = .function
          · have hdepth : p.depth - 1 + 1 = p.depth := Nat.sub_add_cancel (hp hm)
            simp [leaves_of_effect, hdefine, after, endFollows, he, hdepth]
          · simp [leaves_of_effect, hdefine, after, he, hm]
      | closes =>
          by_cases hd : p.depth ≤ 1
          · by_cases hm : p.mode = .function <;> simp [leaves, hdefine, after, endFollows, he, hd, hm]
          · simp [leaves, hdefine, after, endFollows, he, hd]
      | defines signature =>
          have hs : s.isDefine = true := by rw [Statement.eq_define_of_effect he]; rfl
          simp [leaves_of_effect, after, endFollows, he, hs]

end Cpp.Standing

/-! ## Every program -/

theorem Cpp.Generator.length_outputLines (g : Generator) :
    g.outputLines.length = 5 + g.headers.lines.length + (g.scope.functionLines.length + g.scope.mainLines.length) := by
  simp only [outputLines, List.length_append, List.length_cons, List.length_nil]
  omega

/-- Every statement that is not dropped has one line, and a function that is left has a blank one. -/
theorem length_buffers (ns : List Numbered) :
    (Generator.initial.run ns).scope.functionLines.length + (Generator.initial.run ns).scope.mainLines.length =
      ns.countP (!·.statement.isDropped) + closedDefinitions (ns.map Numbered.statement) := by
  have hfunction := congrArg List.length (Generator.buffer_run ns .function)
  have hmain := congrArg List.length (Generator.buffer_run ns .main)
  have hadded := Standing.length_addedAll .initial (ns.map Numbered.statement)
  rw [← hfunction, ← hmain, Standing.leavings_eq Standing.functionOpen_initial, List.countP_map,
    if_neg (fun h => nomatch h.1), Nat.zero_add] at hadded
  exact hadded

/-- A generated program can be taken apart: up to the first blank line stand its headers, up to the first line that opens
the main program its functions, which never hold that line, and before the two closing lines its main program. So programs
with the same text have the same headers, the same functions and the same main program. The number of its lines is told by
the statements that are not dropped, and by the definitions that are closed. -/
theorem transpile_unambiguous (source : Text) :
    Sections.read (transpile source) =
      { headers := (Generator.initial.run (statements source)).headers.lines
        functions := (Generator.initial.run (statements source)).scope.functionLines
        main := (Generator.initial.run (statements source)).scope.mainLines
        closing := ["    return 0;".toList, "\x7d".toList, []] } ∧
    mainLine ∉ (Generator.initial.run (statements source)).scope.functionLines ∧
    (∀ other, transpile other = transpile source →
      (Generator.initial.run (statements other)).headers = (Generator.initial.run (statements source)).headers ∧
      (Generator.initial.run (statements other)).scope.functionLines =
        (Generator.initial.run (statements source)).scope.functionLines ∧
      (Generator.initial.run (statements other)).scope.mainLines =
        (Generator.initial.run (statements source)).scope.mainLines) ∧
    (transpile source).count '\n' =
      5 + (Generator.initial.run (statements source)).headers.lines.length +
        (statements source).countP (!·.statement.isDropped) +
        closedDefinitions ((statements source).map Numbered.statement) := by
  refine ⟨read_transpile source, mainLine_not_mem_functionLines _, ?_, ?_⟩
  · intro other hother
    have hread := read_transpile source
    rw [← hother, read_transpile other, Sections.mk.injEq] at hread
    obtain ⟨hheaders, hfunctions, hmain, _⟩ := hread
    refine ⟨?_, hfunctions, hmain⟩
    rw [← Headers.ofLines_lines (Generator.initial.run (statements other)).headers, hheaders, Headers.ofLines_lines]
  · have hlines : lines (transpile source) = _ := Generator.lines_assemble (newline_not_mem_buffer source)
    have hcount := length_splitOn '\n' (transpile source)
    have hbuffers := length_buffers (statements source)
    rw [← lines, hlines, List.length_append, Generator.length_outputLines, hbuffers, List.length_singleton] at hcount
    omega

/-- Two programs with the same text, and in their function the words that open a main program. -/
theorem transpile_unambiguous_imitated :
    transpile "define f()\nint main() \x7b\nend".toList = transpile "define f\n\n int main() \x7b\nend\nlet x".toList ∧
    (Generator.initial.run (statements "define f()\nint main() \x7b\nend".toList)).scope.functionLines =
      (Generator.initial.run (statements "define f\n\n int main() \x7b\nend\nlet x".toList)).scope.functionLines ∧
    (transpile "define f\n\n int main() \x7b\nend\nlet x".toList).count '\n' = 9 := by
  have htext : transpile "define f()\nint main() \x7b\nend".toList =
      transpile "define f\n\n int main() \x7b\nend\nlet x".toList := by decide +kernel
  obtain ⟨_, _, hother, hcount⟩ := transpile_unambiguous "define f\n\n int main() \x7b\nend\nlet x".toList
  exact ⟨htext, (hother _ htext).2.1, hcount.trans (by decide +kernel)⟩

end FlowLang

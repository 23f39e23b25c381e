import FlowLang.Proofs.Cpp.Standing
import FlowLang.Proofs.Statement.Lines
import FlowLang.Proofs.Text.Basic

/-!
# Generating in pieces

A program can be handed over in pieces. Each piece goes on where the last one has stopped, with its lines counted anew, and
the text that has been generated is that of all pieces so far, joined by line feeds. The numbers of lines are all that
differs: they stand in the open blocks, and nothing else depends on them.
-/

namespace FlowLang

open Text Cpp

/-! ## The kinds of open blocks -/

/-- The kinds of the open blocks behind a statement. -/
def Statement.kindsBehind (kinds : List BlockKind) (s : Statement) : List BlockKind :=
  match s.effect with
  | .stays => kinds
  | .opens kind => kind :: kinds
  | .alternates => .elseBranch :: kinds.tail
  | .closes => kinds.tail
  | .defines _ => [.function]

namespace Cpp.Scope

/-- The kinds of the open blocks, the innermost first. -/
def kinds (s : Scope) : List BlockKind :=
  s.blocks.map Block.kind

@[simp] theorem kinds_write (s : Scope) (ls : List Text) : (s.write ls).kinds = s.kinds := by
  rw [kinds, blocks_write, kinds]

@[simp] theorem kinds_openBlock (s : Scope) (kind : BlockKind) (line : Int) :
    (s.openBlock kind line).kinds = kind :: s.kinds := rfl

@[simp] theorem kinds_closeBlock (s : Scope) : s.closeBlock.kinds = s.kinds.tail :=
  List.map_tail

@[simp] theorem kinds_leaveFunction (s : Scope) : s.leaveFunction.kinds = s.kinds := by
  rcases leaveFunction_cases s with ⟨_, he⟩ | ⟨_, _, he⟩
  · rw [he]
  · rw [he]
    rfl

theorem kinds_place (s : Scope) (n : Numbered) : (s.place n).kinds = n.statement.kindsBehind s.kinds := by
  unfold Statement.kindsBehind
  cases he : n.statement.effect with
  | stays => rw [place_of_stays he, kinds_write]
  | opens kind => rw [place_of_opens he, kinds_openBlock, kinds_write]
  | alternates => rw [place_of_alternates he, kinds_openBlock, kinds_write, kinds_closeBlock]
  | closes => rw [place_of_closes he, kinds_leaveFunction, kinds_write, kinds_closeBlock]
  | defines signature =>
      rw [place_of_defines he, kinds_openBlock, kinds_write]
      rfl

theorem kinds_placeAll (s : Scope) (ns : List Numbered) :
    (s.placeAll ns).kinds = (ns.map Numbered.statement).foldl Statement.kindsBehind s.kinds := by
  induction ns generalizing s with
  | nil => rfl
  | cons n ns ih => rw [placeAll_cons, ih, kinds_place, List.map_cons, List.foldl_cons]

end Cpp.Scope

/-! ## Joined pieces -/

/-- Joined pieces have the statements of each piece, apart from the numbers of lines. -/
theorem map_statement_joinWith {sources : List Text} (hne : sources ≠ []) :
    (statements (joinWith "\n".toList sources)).map Numbered.statement =
      (sources.flatMap statements).map Numbered.statement := by
  have hlines : lines (joinWith "\n".toList sources) = sources.flatMap lines := splitOn_joinWith_flatMap '\n' hne
  have hpieces : (sources.flatMap statements).map Numbered.statement =
      (sources.flatMap lines).filterMap lineStatement? := by
    rw [List.map_flatMap, List.filterMap_flatMap]
    exact congrArg (sources.flatMap ·) (funext fun source => map_statement_statementsFrom 1 (lines source))
  rw [statements, map_statement_statementsFrom, hlines, hpieces]

namespace Cpp.Generator

/-- What a generation has after a part of its work is still there later. -/
structure Extends (before after : Generator) : Prop where
  functions : before.scope.functionLines <+: after.scope.functionLines
  main : before.scope.mainLines <+: after.scope.mainLines
  iostream : before.headers.iostream = true → after.headers.iostream = true
  string : before.headers.string = true → after.headers.string = true
  cmath : before.headers.cmath = true → after.headers.cmath = true

theorem Extends.trans {f g h : Generator} (hfg : Extends f g) (hgh : Extends g h) : Extends f h where
  functions := hfg.functions.trans hgh.functions
  main := hfg.main.trans hgh.main
  iostream := hgh.iostream ∘ hfg.iostream
  string := hgh.string ∘ hfg.string
  cmath := hgh.cmath ∘ hfg.cmath

theorem extends_run (g : Generator) (ns : List Numbered) : Extends g (g.run ns) := by
  have hbuffer (m : Mode) : g.scope.buffer m <+: (g.run ns).scope.buffer m := by
    rw [scope_run, Scope.buffer_placeAll]
    exact List.prefix_append _ _
  have hheaders := headers_run g ns
  constructor
  · exact hbuffer .function
  · exact hbuffer .main
  all_goals
    intro h
    rw [hheaders]
    simp [Headers.union, h]

/-! ## Runs over the same statements -/

section
variable {ns ms : List Numbered} (h : ns.map Numbered.statement = ms.map Numbered.statement)
include h

theorem mode_run_congr : (initial.run ns).scope.mode = (initial.run ms).scope.mode := by
  have hstanding : (initial.run ns).scope.standing = (initial.run ms).scope.standing := by
    rw [scope_run, scope_run, Scope.standing_placeAll, Scope.standing_placeAll, h]
  exact congrArg Standing.mode hstanding

theorem kinds_run_congr : (initial.run ns).scope.kinds = (initial.run ms).scope.kinds := by
  rw [scope_run, scope_run, Scope.kinds_placeAll, Scope.kinds_placeAll, h]

end

/-! ## Piece by piece -/

/-- Hands over pieces one after another. Gives the generation behind each piece, and the text that it gives then. -/
def generateAll : Generator → List Text → List (Generator × Text)
  | _, [] => []
  | g, source :: rest => g.generate source :: (g.generate source).1.generateAll rest

theorem length_generateAll (g : Generator) (sources : List Text) : (g.generateAll sources).length = sources.length := by
  induction sources generalizing g with
  | nil => rfl
  | cons source rest ih => rw [generateAll, List.length_cons, ih, List.length_cons]

theorem run_append (g : Generator) (as bs : List Numbered) : g.run (as ++ bs) = (g.run as).run bs :=
  List.foldl_append

/-- The generation behind a piece has taken the statements of all pieces up to it. -/
theorem eq_of_getElem?_generateAll {g after : Generator} {sources : List Text} {k : Nat} {text : Text}
    (h : (g.generateAll sources)[k]? = some (after, text)) :
    after = g.run ((sources.take (k + 1)).flatMap statements) ∧ text = after.assemble := by
  induction sources generalizing g k with
  | nil => cases h
  | cons source rest ih =>
      cases k with
      | zero =>
          cases h
          simp
      | succ k =>
          obtain ⟨hafter, htext⟩ := ih h
          refine ⟨?_, htext⟩
          rw [hafter, List.take_succ_cons, List.flatMap_cons, run_append]
          rfl

theorem pairwise_extends (g : Generator) (sources : List Text) :
    (g :: (g.generateAll sources).map Prod.fst).Pairwise Extends := by
  induction sources generalizing g with
  | nil => exact List.pairwise_singleton _ _
  | cons source rest ih =>
      have hlater := ih (g.generate source).1
      have hfirst : Extends g (g.generate source).1 := extends_run g (statements source)
      refine List.pairwise_cons.mpr ⟨?_, hlater⟩
      intro after hafter
      rcases List.mem_cons.mp hafter with rfl | hafter
      · exact hfirst
      · exact hfirst.trans ((List.pairwise_cons.mp hlater).1 after hafter)

end Cpp.Generator

/-- A program handed over in pieces: behind each piece, the generated text is that of the pieces so far joined by line
feeds, and mode and open blocks are those of the joined program up to the numbers of lines. Buffers and headers only
grow. -/
theorem generateAll_eq_transpile (sources : List Text) :
    (Generator.initial.generateAll sources).length = sources.length ∧
    (∀ k after text, (Generator.initial.generateAll sources)[k]? = some (after, text) →
      let whole := joinWith "\n".toList (sources.take (k + 1))
      text = transpile whole ∧
      after.scope.mode = (Generator.initial.run (statements whole)).scope.mode ∧
      after.scope.blocks.map Block.kind = (Generator.initial.run (statements whole)).scope.blocks.map Block.kind) ∧
    (Generator.initial :: (Generator.initial.generateAll sources).map Prod.fst).Pairwise Generator.Extends := by
  refine ⟨Generator.length_generateAll _ _, ?_, Generator.pairwise_extends _ _⟩
  intro k after text h whole
  obtain ⟨rfl, rfl⟩ := Generator.eq_of_getElem?_generateAll h
  have hne : sources.take (k + 1) ≠ [] := by
    intro hnil
    rw [List.take_eq_nil_iff] at hnil
    rcases hnil with hk | hnil
    · cases hk
    · rw [hnil] at h
      cases h
  have hstatements := (map_statement_joinWith hne).symm
  exact ⟨Generator.assemble_run_congr hstatements, Generator.mode_run_congr hstatements,
    Generator.kinds_run_congr hstatements⟩

/-- Behind the second piece the same kinds of blocks are open as in the joined program, under other numbers. -/
theorem generateAll_eq_transpile_unfinished :
    ∃ after text,
      (Generator.initial.generateAll ["define f(a)".toList, "if a then\nsay 1".toList])[1]? = some (after, text) ∧
      text = transpile "define f(a)\nif a then\nsay 1".toList ∧
      after.scope.blocks = [⟨.ifThen, 1⟩, ⟨.function, 1⟩] ∧
      (Generator.initial.run (statements "define f(a)\nif a then\nsay 1".toList)).scope.blocks =
        [⟨.ifThen, 2⟩, ⟨.function, 1⟩] := by
  obtain ⟨_, hpieces, _⟩ := generateAll_eq_transpile ["define f(a)".toList, "if a then\nsay 1".toList]
  exact ⟨_, _, rfl, (hpieces 1 _ _ rfl).1, by decide +kernel, by decide +kernel⟩

end FlowLang

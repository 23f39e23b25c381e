import FlowLang.Proofs.Cpp.Scope
import FlowLang.Proofs.Statement.Lines

/-!
# The open blocks of a run

After any part of a program the blocks that are open have been opened one after another, each by a statement of its kind.
The body of the main program and a function are only ever the outermost block. An `else` or an `end` without its block, and
a definition in the middle of one, keep all of this (`Stacked`).
-/

namespace FlowLang

open Text Cpp

/-- The kind of block that a statement opens. -/
def Statement.openedKind? : Statement → Option BlockKind
  | .define _ => some .function
  | .ifThen _ => some .ifThen
  | .elseBranch => some .elseBranch
  | .loopTimes _ => some .loopTimes
  | .whileDo _ => some .whileDo
  | _ => none

/-- The kinds of blocks that can stand inside another. -/
def innerKinds : List BlockKind :=
  [.ifThen, .elseBranch, .loopTimes, .whileDo]

theorem Statement.openedKind?_of_opens {s : Statement} {kind : BlockKind} (h : s.effect = .opens kind) :
    s.openedKind? = some kind ∧ kind ∈ innerKinds := by
  cases s <;> cases h <;> exact ⟨rfl, by decide⟩

namespace Cpp.Scope

variable {ns : List Numbered} {s : Scope} {n : Numbered}

/-- The open blocks of a scope that has taken the statements `ns`. The innermost block is the first of the list. -/
structure Stacked (ns : List Numbered) (s : Scope) : Prop where
  inner : ∀ b ∈ s.blocks.dropLast, b.kind ∈ innerKinds
  main : ∀ b ∈ s.blocks, b.kind = .main → b.line = 0 ∧ s.mode = .main ∧ ∀ n ∈ ns, n.statement.isDefine = false
  function : ∀ b ∈ s.blocks, b.kind = .function → s.mode = .function
  opened : ∀ b ∈ s.blocks, b.kind ≠ .main → ∃ n ∈ ns, n.line = b.line ∧ n.statement.openedKind? = some b.kind
  increasing : s.blocks.Pairwise fun inner outer => outer.line < inner.line

/-! ## Single changes -/

theorem stacked_initial : Stacked [] initial where
  inner := by simp [initial]
  main := by simp [initial]
  function := by simp [initial]
  opened := by simp [initial]
  increasing := List.pairwise_singleton _ _

theorem stacked_nil (hb : s.blocks = []) : Stacked ns s := by
  constructor <;> simp [hb]

namespace Stacked

theorem write (h : Stacked ns s) (ls : List Text) : Stacked ns (s.write ls) where
  inner := by simpa using h.inner
  main := by simpa using h.main
  function := by simpa using h.function
  opened := by simpa using h.opened
  increasing := by simpa using h.increasing

theorem closeBlock (h : Stacked ns s) : Stacked ns s.closeBlock where
  inner b hb := by
    rw [blocks_closeBlock, ← List.tail_dropLast] at hb
    exact h.inner b (List.mem_of_mem_tail hb)
  main b hb := h.main b (List.mem_of_mem_tail hb)
  function b hb := h.function b (List.mem_of_mem_tail hb)
  opened b hb := h.opened b (List.mem_of_mem_tail hb)
  increasing := h.increasing.tail

/-- A function is left only when nothing is open any more. -/
theorem leaveFunction (h : Stacked ns s) : Stacked ns s.leaveFunction := by
  rcases leaveFunction_cases s with ⟨_, he⟩ | ⟨_, hb, he⟩
  · rw [he]
    exact h
  · rw [he]
    exact stacked_nil hb

theorem append (h : Stacked ns s) (hn : n.statement.isDefine = false) : Stacked (ns ++ [n]) s where
  inner := h.inner
  main b hb hk := by
    obtain ⟨hline, hmode, hns⟩ := h.main b hb hk
    refine ⟨hline, hmode, fun m hm => ?_⟩
    rcases List.mem_append.mp hm with hm | hm
    · exact hns m hm
    · rw [List.mem_singleton.mp hm]
      exact hn
  function := h.function
  opened b hb hk := by
    obtain ⟨m, hm, hmb⟩ := h.opened b hb hk
    exact ⟨m, List.mem_append_left _ hm, hmb⟩
  increasing := h.increasing

theorem openBlock {kind : BlockKind} (h : Stacked ns s) (hn : n ∈ ns) (hline : ∀ b ∈ s.blocks, b.line < n.line)
    (hopened : n.statement.openedKind? = some kind) (hkind : kind ∈ innerKinds) :
    Stacked ns (s.openBlock kind n.line) where
  inner b hb := by
    cases hs : s.blocks with
    | nil => simp [Scope.openBlock, hs] at hb
    | cons c cs =>
        simp only [Scope.openBlock, hs, List.dropLast_cons_cons, List.mem_cons] at hb
        rcases hb with rfl | hb
        · exact hkind
        · exact h.inner b (hs ▸ hb)
  main b hb hk := by
    rcases List.mem_cons.mp hb with rfl | hb
    · cases hk
      exact absurd hkind (by decide)
    · exact h.main b hb hk
  function b hb hk := by
    rcases List.mem_cons.mp hb with rfl | hb
    · cases hk
      exact absurd hkind (by decide)
    · exact h.function b hb hk
  opened b hb hk := by
    rcases List.mem_cons.mp hb with rfl | hb
    · exact ⟨n, hn, rfl, hopened⟩
    · exact h.opened b hb hk
  increasing := List.pairwise_cons.mpr ⟨hline, h.increasing⟩

/-- Every open block was opened above a statement that is still to come. -/
theorem line_lt (h : Stacked ns s) (hline : ∀ m ∈ ns, m.line < n.line) (hpos : 0 < n.line) :
    ∀ b ∈ s.blocks, b.line < n.line := by
  intro b hb
  by_cases hk : b.kind = .main
  · rw [(h.main b hb hk).1]
    exact hpos
  · obtain ⟨m, hm, hmb, _⟩ := h.opened b hb hk
    rw [← hmb]
    exact hline m hm

/-! ## Steps and runs -/

theorem place (h : Stacked ns s) (hline : ∀ m ∈ ns, m.line < n.line) (hpos : 0 < n.line) :
    Stacked (ns ++ [n]) (s.place n) := by
  have hmem : n ∈ ns ++ [n] := by simp
  have hbelow := h.line_lt hline hpos
  have hpass (he : ∀ signature, n.statement.effect ≠ .defines signature) : Stacked (ns ++ [n]) s :=
    h.append (by simp [Statement.isDefine, Statement.signature?_of_effect he])
  cases he : n.statement.effect with
  | stays =>
      rw [place_of_stays he]
      exact (hpass (by simp [he])).write _
  | opens kind =>
      rw [place_of_opens he]
      obtain ⟨hopened, hkind⟩ := Statement.openedKind?_of_opens he
      exact ((hpass (by simp [he])).write _).openBlock hmem (by simpa using hbelow) hopened hkind
  | alternates =>
      -- whatever block is closed here, the program's own or that of a function, an `else` takes its place
      rw [place_of_alternates he]
      refine ((hpass (by simp [he])).closeBlock.write _).openBlock hmem ?_ ?_ (by decide)
      · intro b hb
        rw [blocks_write, blocks_closeBlock] at hb
        exact hbelow b (List.mem_of_mem_tail hb)
      · rw [Statement.eq_elseBranch_of_effect he]
        rfl
  | closes =>
      rw [place_of_closes he]
      exact ((hpass (by simp [he])).closeBlock.write _).leaveFunction
  | defines signature =>
      rw [place_of_defines he]
      have hblocks : ((s.outside.write [signature.declaration ++ " \x7b".toList]).openBlock .function n.line).blocks =
          [⟨.function, n.line⟩] := by simp [Scope.openBlock, outside]
      constructor
      all_goals rw [hblocks]
      · simp
      · simp
      · simp
      · intro b hb _
        rw [List.mem_singleton.mp hb]
        exact ⟨n, hmem, rfl, by rw [Statement.eq_define_of_effect he]; rfl⟩
      · exact List.pairwise_singleton _ _

theorem placeAll (h : Stacked ns s) {ms : List Numbered} (hpos : ∀ m ∈ ms, 0 < m.line)
    (hline : (ns ++ ms).Pairwise (·.line < ·.line)) : Stacked (ns ++ ms) (s.placeAll ms) := by
  induction ms generalizing ns s with
  | nil => simpa using h
  | cons m ms ih =>
      have hm : ∀ k ∈ ns, k.line < m.line := fun k hk => (List.pairwise_append.mp hline).2.2 k hk m (by simp)
      rw [List.append_cons] at hline ⊢
      exact ih (h.place hm (hpos m (by simp))) (fun k hk => hpos k (by simp [hk])) hline

/-- A block that is not the outermost has a kind that can stand inside another. -/
theorem mem_innerKinds (h : Stacked ns s) {inner outer : List Block} {b : Block} (hb : s.blocks = inner ++ b :: outer)
    (houter : outer ≠ []) : b.kind ∈ innerKinds := by
  apply h.inner b
  rw [hb, List.dropLast_append_cons, List.dropLast_cons_of_ne_nil houter]
  simp

/-- A block of any other kind is the outermost one. -/
theorem outer_eq_nil (h : Stacked ns s) {inner outer : List Block} {b : Block} (hb : s.blocks = inner ++ b :: outer)
    (hk : b.kind ∉ innerKinds) : outer = [] := by
  exact Classical.not_not.mp fun houter => hk (h.mem_innerKinds hb houter)

end Stacked

theorem stacked_of_isPrefix {source : Text} (h : ns <+: statements source) : Stacked ns (initial.placeAll ns) := by
  have hline : ns.Pairwise (·.line < ·.line) := (pairwise_line_statements source).sublist h.sublist
  have hpos : ∀ m ∈ ns, 0 < m.line := by
    intro m hm
    have := (line_bounds_of_mem_statements (h.subset hm)).1
    omega
  exact stacked_initial.placeAll hpos hline

end Cpp.Scope

/-! ## Every run -/

/-- After every part of every program: a function in progress has an open block; the body of the main program is open only
as the outermost block, in the main program and before the first definition; a function is open only as the outermost
block and inside a function; each block was opened below those around it, and the line that opened it has the statement
of its kind. -/
theorem blocks_invariant (source : Text) (ns : List Numbered) (h : ns <+: statements source) :
    let s := (Generator.initial.run ns).scope
    (s.mode = .function → 1 ≤ s.depth) ∧
    s.blocks.Pairwise (fun inner outer => outer.line < inner.line) ∧
    ∀ inner b outer, s.blocks = inner ++ b :: outer →
      (b.kind = .main → outer = [] ∧ b.line = 0 ∧ s.mode = .main ∧ ∀ n ∈ ns, n.statement.isDefine = false) ∧
      (b.kind = .function → outer = [] ∧ s.mode = .function) ∧
      (outer ≠ [] → b.kind ∈ innerKinds) ∧
      (b.kind ≠ .main → ∃ (i : Nat) (raw : Text), b.line = (i : Int) + 1 ∧ (lines source)[i]? = some raw ∧
        (Statement.ofLine (trim raw)).openedKind? = some b.kind) := by
  intro s
  have hs : s = Scope.initial.placeAll ns := Generator.scope_run _ _
  have hopen : s.FunctionOpen := hs ▸ Scope.functionOpen_initial.placeAll ns
  have hstack : s.Stacked ns := hs ▸ Scope.stacked_of_isPrefix h
  refine ⟨hopen.depth_pos, hstack.increasing, fun inner b outer hb => ?_⟩
  have hmem : b ∈ s.blocks := by rw [hb]; simp
  refine ⟨fun hk => ⟨hstack.outer_eq_nil hb (by rw [hk]; decide), hstack.main b hmem hk⟩,
    fun hk => ⟨hstack.outer_eq_nil hb (by rw [hk]; decide), hstack.function b hmem hk⟩,
    hstack.mem_innerKinds hb, fun hk => ?_⟩
  obtain ⟨n, hn, hline, hkind⟩ := hstack.opened b hmem hk
  obtain ⟨i, raw, hi, _, rfl⟩ := exists_line_of_mem_statementsFrom (h.subset hn)
  exact ⟨i, raw, by rw [← hline]; exact Int.add_comm _ _, hi, hkind⟩

/-- Inside a function whose own block an `else` has replaced, a loop: before the `end` two blocks are open. -/
theorem blocks_invariant_replaced :
    [⟨1, .define ⟨"f".toList, []⟩⟩, ⟨2, .elseBranch⟩, ⟨4, .loopTimes "2".toList⟩] <+:
      statements "define f()\nelse\n\nloop 2 times\nend".toList ∧
    (Generator.initial.run [⟨1, .define ⟨"f".toList, []⟩⟩, ⟨2, .elseBranch⟩, ⟨4, .loopTimes "2".toList⟩]).scope.blocks =
      [⟨.loopTimes, 4⟩, ⟨.elseBranch, 2⟩] ∧
    ∃ (i : Nat) (raw : Text), (4 : Int) = (i : Int) + 1 ∧
      (lines "define f()\nelse\n\nloop 2 times\nend".toList)[i]? = some raw ∧
      (Statement.ofLine (trim raw)).openedKind? = some .loopTimes := by
  have hpart : [⟨1, .define ⟨"f".toList, []⟩⟩, ⟨2, .elseBranch⟩, ⟨4, .loopTimes "2".toList⟩] <+:
      statements "define f()\nelse\n\nloop 2 times\nend".toList := by decide
  obtain ⟨_, _, hblocks⟩ := blocks_invariant _ _ hpart
  exact ⟨hpart, by decide, (hblocks [] ⟨.loopTimes, 4⟩ [⟨.elseBranch, 2⟩] (by decide)).2.2.2 (by decide)⟩

end FlowLang

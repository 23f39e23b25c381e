import FlowLang.Cpp.Generator

/-!
# What a statement does to a scope

A statement acts on the open blocks in one of five ways, and what it writes goes behind what one buffer already holds.
Every run keeps a function in progress inside an open block (`FunctionOpen`).
-/

namespace FlowLang

open Text

/-- What a statement does to the open blocks. -/
inductive Effect where
  | stays
  | opens (kind : Cpp.BlockKind)
  | alternates
  | closes
  | defines (signature : Signature)
  deriving DecidableEq, Repr

namespace Statement

def effect : Statement → Effect
  | .ifThen _ => .opens .ifThen
  | .loopTimes _ => .opens .loopTimes
  | .whileDo _ => .opens .whileDo
  | .elseBranch => .alternates
  | .blockEnd => .closes
  | .define signature => .defines signature
  | _ => .stays

/-- The signature that a definition declares. -/
def signature? : Statement → Option Signature
  | .define signature => some signature
  | _ => none

def isDefine (s : Statement) : Bool :=
  s.signature?.isSome

theorem signature?_of_effect {s : Statement} (h : ∀ signature, s.effect ≠ .defines signature) :
    s.signature? = none := by
  cases s <;> first | rfl | exact absurd rfl (h _)

theorem eq_elseBranch_of_effect {s : Statement} (h : s.effect = .alternates) : s = .elseBranch := by
  cases s <;> first | rfl | cases h

theorem eq_blockEnd_of_effect {s : Statement} (h : s.effect = .closes) : s = .blockEnd := by
  cases s <;> first | rfl | cases h

theorem eq_define_of_effect {s : Statement} {signature : Signature} (h : s.effect = .defines signature) :
    s = .define signature := by
  cases s <;> cases h
  rfl

end Statement

namespace Cpp.Scope

/-! ## Buffers -/

/-- The lines written so far into one of the two buffers. -/
def buffer (s : Scope) : Mode → List Text
  | .main => s.mainLines
  | .function => s.functionLines

/-- The scope with finished lines behind those of its present buffer. -/
def write (s : Scope) (ls : List Text) : Scope :=
  match s.mode with
  | .main => { s with mainLines := s.mainLines ++ ls }
  | .function => { s with functionLines := s.functionLines ++ ls }

@[simp] theorem mode_write (s : Scope) (ls : List Text) : (s.write ls).mode = s.mode := by
  unfold write; split <;> rfl

@[simp] theorem blocks_write (s : Scope) (ls : List Text) : (s.write ls).blocks = s.blocks := by
  unfold write; split <;> rfl

@[simp] theorem depth_write (s : Scope) (ls : List Text) : (s.write ls).depth = s.depth := by
  simp [depth]

theorem buffer_write (s : Scope) (ls : List Text) (m : Mode) :
    (s.write ls).buffer m = s.buffer m ++ if m = s.mode then ls else [] := by
  cases hs : s.mode <;> cases m <;> simp [write, buffer, hs]

@[simp] theorem write_nil (s : Scope) : s.write [] = s := by
  unfold write; split <;> simp

@[simp] theorem write_write (s : Scope) (as bs : List Text) : (s.write as).write bs = s.write (as ++ bs) := by
  cases hs : s.mode <;> simp [write, hs]

theorem emit_eq_write (s : Scope) (text : Text) : s.emit text = s.write [indented s.depth text] := rfl

theorem emitAll_eq_write (s : Scope) (texts : List Text) :
    s.emitAll texts = s.write (texts.map (indented s.depth)) := by
  induction texts generalizing s with
  | nil => simp [emitAll]
  | cons text texts ih =>
      have h := ih (s.emit text)
      rw [emit_eq_write] at h
      simpa [emitAll, emit_eq_write] using h

/-! ## Blocks -/

@[simp] theorem mode_openBlock (s : Scope) (kind : BlockKind) (line : Int) : (s.openBlock kind line).mode = s.mode := rfl

@[simp] theorem depth_openBlock (s : Scope) (kind : BlockKind) (line : Int) :
    (s.openBlock kind line).depth = s.depth + 1 := rfl

@[simp] theorem buffer_openBlock (s : Scope) (kind : BlockKind) (line : Int) :
    (s.openBlock kind line).buffer = s.buffer := by
  funext m; cases m <;> rfl

@[simp] theorem mode_closeBlock (s : Scope) : s.closeBlock.mode = s.mode := rfl

@[simp] theorem blocks_closeBlock (s : Scope) : s.closeBlock.blocks = s.blocks.tail := rfl

@[simp] theorem depth_closeBlock (s : Scope) : s.closeBlock.depth = s.depth - 1 := by
  simp [depth]

@[simp] theorem buffer_closeBlock (s : Scope) : s.closeBlock.buffer = s.buffer := by
  funext m; cases m <;> rfl

theorem write_openBlock (s : Scope) (kind : BlockKind) (line : Int) (ls : List Text) :
    (s.openBlock kind line).write ls = (s.write ls).openBlock kind line := by
  cases hs : s.mode <;> simp [write, openBlock, hs]

@[simp] theorem closeBlock_openBlock (s : Scope) (kind : BlockKind) (line : Int) :
    (s.openBlock kind line).closeBlock = s := rfl

/-! ## One statement -/

variable {s : Scope} {n : Numbered}

/-- The scope in which a function is declared: no block is open, and only the buffers stay. -/
def outside (s : Scope) : Scope :=
  { s with mode := .function, blocks := [] }

@[simp] theorem mode_outside (s : Scope) : s.outside.mode = .function := rfl

@[simp] theorem depth_outside (s : Scope) : s.outside.depth = 0 := rfl

@[simp] theorem buffer_outside (s : Scope) : s.outside.buffer = s.buffer := by
  funext m; cases m <;> rfl

theorem place_of_stays (h : n.statement.effect = .stays) :
    s.place n = s.write (n.statement.code.map (indented s.depth)) := by
  rw [← emitAll_eq_write]
  unfold place
  cases hn : n.statement <;> rw [hn] at h <;> first | rfl | cases h

theorem place_of_opens {kind : BlockKind} (h : n.statement.effect = .opens kind) :
    s.place n = (s.write (n.statement.code.map (indented s.depth))).openBlock kind n.line := by
  rw [← emitAll_eq_write]
  unfold place
  cases hn : n.statement <;> rw [hn] at h <;> cases h <;> rfl

theorem place_of_alternates (h : n.statement.effect = .alternates) :
    s.place n =
      (s.closeBlock.write [indented (s.depth - 1) "\x7d else \x7b".toList]).openBlock .elseBranch n.line := by
  rw [← depth_closeBlock, ← emit_eq_write]
  unfold place
  rw [Statement.eq_elseBranch_of_effect h]
  rfl

theorem place_of_closes (h : n.statement.effect = .closes) :
    s.place n = (s.closeBlock.write [indented (s.depth - 1) "\x7d".toList]).leaveFunction := by
  rw [← depth_closeBlock, ← emit_eq_write]
  unfold place
  rw [Statement.eq_blockEnd_of_effect h]
  rfl

theorem place_of_defines {signature : Signature} (h : n.statement.effect = .defines signature) :
    s.place n = (s.outside.write [signature.declaration ++ " \x7b".toList]).openBlock .function n.line := by
  unfold place
  rw [Statement.eq_define_of_effect h]
  rfl

/-! ## Functions in progress -/

/-- A function in progress has an open block. -/
def FunctionOpen (s : Scope) : Prop :=
  s.mode = .function → s.blocks ≠ []

theorem FunctionOpen.depth_pos (h : s.FunctionOpen) (hm : s.mode = .function) : 0 < s.depth :=
  List.length_pos_iff.mpr (h hm)

theorem leaveFunction_of_functionOpen (h : s.FunctionOpen) : s.leaveFunction = s := by
  unfold leaveFunction
  split
  · rename_i hm hb
    exact absurd hb (h hm)
  · rfl

theorem leaveFunction_of_nil (hm : s.mode = .function) (hb : s.blocks = []) : s.leaveFunction = s.endFunction := by
  simp [leaveFunction, hm, hb]

theorem leaveFunction_cases (s : Scope) :
    (s.FunctionOpen ∧ s.leaveFunction = s) ∨
      (s.mode = .function ∧ s.blocks = [] ∧ s.leaveFunction = s.endFunction) := by
  by_cases h : s.FunctionOpen
  · exact Or.inl ⟨h, leaveFunction_of_functionOpen h⟩
  · obtain ⟨hm, hb⟩ := Classical.not_imp.mp h
    have hb := Classical.not_not.mp hb
    exact Or.inr ⟨hm, hb, leaveFunction_of_nil hm hb⟩

/-- The blank line behind a function is the only line that leaving it adds. -/
theorem buffer_leaveFunction (s : Scope) (m : Mode) :
    s.leaveFunction.buffer m = s.buffer m ++
      if m = .function ∧ s.mode = .function ∧ s.blocks = [] then [[]] else [] := by
  rcases leaveFunction_cases s with ⟨h, he⟩ | ⟨hm, hb, he⟩
  · rw [he, if_neg (fun hc => h hc.2.1 hc.2.2), List.append_nil]
  · rw [he]
    cases m <;> simp [buffer, endFunction, hm, hb]

theorem functionOpen_initial : initial.FunctionOpen := by
  intro h; cases h

theorem functionOpen_openBlock (s : Scope) (kind : BlockKind) (line : Int) : (s.openBlock kind line).FunctionOpen := by
  intro _ h; cases h

theorem functionOpen_leaveFunction (s : Scope) : s.leaveFunction.FunctionOpen := by
  rcases leaveFunction_cases s with ⟨h, he⟩ | ⟨_, _, he⟩
  · rw [he]; exact h
  · rw [he]; intro h; cases h

theorem FunctionOpen.write (h : s.FunctionOpen) (ls : List Text) : (s.write ls).FunctionOpen := by
  intro hm
  rw [blocks_write]
  exact h (by simpa using hm)

theorem FunctionOpen.place (h : s.FunctionOpen) (n : Numbered) : (s.place n).FunctionOpen := by
  cases he : n.statement.effect with
  | stays => rw [place_of_stays he]; exact h.write _
  | opens kind => rw [place_of_opens he]; exact functionOpen_openBlock _ _ _
  | alternates => rw [place_of_alternates he]; exact functionOpen_openBlock _ _ _
  | closes => rw [place_of_closes he]; exact functionOpen_leaveFunction _
  | defines signature => rw [place_of_defines he]; exact functionOpen_openBlock _ _ _

theorem mode_place_of_closes (h : n.statement.effect = .closes) :
    (s.place n).mode = if s.depth ≤ 1 then .main else s.mode := by
  rw [place_of_closes h]
  by_cases hd : s.depth ≤ 1
  · have hb : s.blocks.tail = [] := List.length_eq_zero_iff.mp (by rw [List.length_tail]; exact Nat.sub_eq_zero_of_le hd)
    rw [if_pos hd]
    cases hm : s.mode with
    | main => simp [leaveFunction, hm]
    | function => rw [leaveFunction_of_nil (by simpa using hm) (by simpa using hb)]; rfl
  · rw [if_neg hd, leaveFunction_of_functionOpen]
    · simp
    · intro _ hb
      have hb : s.blocks.tail = [] := by simpa using hb
      have hlen := List.length_tail (l := s.blocks)
      rw [hb] at hlen
      exact hd (Nat.le_of_sub_eq_zero hlen.symm)

theorem depth_leaveFunction (s : Scope) : s.leaveFunction.depth = s.depth := by
  rcases leaveFunction_cases s with ⟨_, he⟩ | ⟨_, _, he⟩ <;> rw [he]
  rfl

theorem depth_place_of_closes (h : n.statement.effect = .closes) : (s.place n).depth = s.depth - 1 := by
  rw [place_of_closes h, depth_leaveFunction]
  simp

/-! ## What a statement adds -/

/-- The buffer that takes the line of a statement. -/
def target (s : Scope) (n : Numbered) : Mode :=
  if n.statement.isDefine then .function else s.mode

theorem target_of_effect (h : ∀ signature, n.statement.effect ≠ .defines signature) : s.target n = s.mode := by
  simp [target, Statement.isDefine, Statement.signature?_of_effect h]

theorem target_of_defines {signature : Signature} (h : n.statement.effect = .defines signature) :
    s.target n = .function := by
  simp [target, Statement.isDefine, Statement.signature?, Statement.eq_define_of_effect h]

/-! ## Runs -/

/-- Takes statements into the scope one after another. -/
def placeAll (s : Scope) (ns : List Numbered) : Scope :=
  ns.foldl place s

@[simp] theorem placeAll_nil (s : Scope) : s.placeAll [] = s := rfl

@[simp] theorem placeAll_cons (s : Scope) (n : Numbered) (ns : List Numbered) :
    s.placeAll (n :: ns) = (s.place n).placeAll ns := rfl

@[simp] theorem placeAll_append (s : Scope) (as bs : List Numbered) :
    s.placeAll (as ++ bs) = (s.placeAll as).placeAll bs :=
  List.foldl_append

theorem FunctionOpen.placeAll (h : s.FunctionOpen) (ns : List Numbered) : (s.placeAll ns).FunctionOpen := by
  induction ns generalizing s with
  | nil => exact h
  | cons n ns ih => exact ih (h.place n)

end Cpp.Scope

theorem Cpp.Generator.scope_run (g : Generator) (ns : List Numbered) : (g.run ns).scope = g.scope.placeAll ns := by
  induction ns generalizing g with
  | nil => rfl
  | cons n ns ih => exact ih (g.step n)

end FlowLang

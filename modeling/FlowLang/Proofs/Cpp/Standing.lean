import FlowLang.Proofs.Cpp.Scope

/-!
# Where a scope stands

What a statement does depends on two things only: whether a function is in progress, and how many blocks are open. They
decide the lines that are added to each buffer, and how the next statement finds the scope. So statements add the same
lines to whatever has been written before, and the numbers of their lines play no part in it.
-/

namespace FlowLang

open Text

namespace Cpp

/-- Which buffer takes the lines, and how many blocks are open. -/
structure Standing where
  mode : Mode
  depth : Nat
  deriving DecidableEq, Repr

namespace Standing

/-! ## One statement -/

/-- The standing behind a statement. -/
def after (p : Standing) (s : Statement) : Standing :=
  match s.effect with
  | .stays => p
  | .opens _ => ⟨p.mode, p.depth + 1⟩
  | .alternates => ⟨p.mode, p.depth - 1 + 1⟩
  | .closes => ⟨if p.depth ≤ 1 then .main else p.mode, p.depth - 1⟩
  | .defines _ => ⟨.function, 1⟩

/-- The buffer that takes the line of a statement. -/
def target (p : Standing) (s : Statement) : Mode :=
  if s.isDefine then .function else p.mode

/-- The level at which the line of a statement is written. -/
def level (p : Standing) (s : Statement) : Nat :=
  match s.effect with
  | .stays | .opens _ => p.depth
  | .alternates | .closes => p.depth - 1
  | .defines _ => 0

/-- The statement is the `end` of the function in progress. -/
def leaves (p : Standing) (s : Statement) : Bool :=
  s.effect = .closes ∧ p.mode = .function ∧ p.depth ≤ 1

/-- The lines that a statement adds to a buffer. Behind the end of a function stands a blank one. -/
def added (p : Standing) (s : Statement) (m : Mode) : List Text :=
  if m = p.target s then s.code.map (Scope.indented (p.level s)) ++ (if p.leaves s then [[]] else []) else []

variable {p : Standing} {s : Statement}

theorem target_of_effect (h : ∀ signature, s.effect ≠ .defines signature) : p.target s = p.mode := by
  simp [target, Statement.isDefine, Statement.signature?_of_effect h]

theorem leaves_of_effect (h : s.effect ≠ .closes) : p.leaves s = false := by
  simp [leaves, h]

theorem mem_added {m : Mode} {line : Text} (h : line ∈ p.added s m) :
    line = [] ∨ ∃ t ∈ s.code, line = Scope.indented (p.level s) t := by
  unfold added at h
  split at h
  · rcases List.mem_append.mp h with h | h
    · obtain ⟨t, ht, rfl⟩ := List.mem_map.mp h
      exact Or.inr ⟨t, ht, rfl⟩
    · split at h
      · exact Or.inl (List.mem_singleton.mp h)
      · cases h
  · cases h

/-- A function in progress has an open block. -/
def FunctionOpen (p : Standing) : Prop :=
  p.mode = .function → 0 < p.depth

theorem FunctionOpen.after (hp : p.FunctionOpen) (s : Statement) : (p.after s).FunctionOpen := by
  intro hm
  unfold Standing.after at hm ⊢
  cases he : s.effect with
  | stays => exact hp (by simpa [he] using hm)
  | opens kind => exact Nat.succ_pos _
  | alternates => exact Nat.succ_pos _
  | closes =>
      simp only [he] at hm ⊢
      split at hm
      · cases hm
      · omega
  | defines signature => exact Nat.one_pos

/-! ## Statements one after another -/

/-- The standing behind statements. -/
def afterAll (p : Standing) (ss : List Statement) : Standing :=
  ss.foldl after p

/-- The lines that statements add to a buffer. -/
def addedAll (m : Mode) : Standing → List Statement → List Text
  | _, [] => []
  | p, s :: ss => p.added s m ++ addedAll m (p.after s) ss

@[simp] theorem afterAll_nil (p : Standing) : p.afterAll [] = p := rfl

@[simp] theorem afterAll_cons (p : Standing) (s : Statement) (ss : List Statement) :
    p.afterAll (s :: ss) = (p.after s).afterAll ss := rfl

@[simp] theorem afterAll_append (p : Standing) (as bs : List Statement) :
    p.afterAll (as ++ bs) = (p.afterAll as).afterAll bs :=
  List.foldl_append

@[simp] theorem addedAll_nil (m : Mode) (p : Standing) : addedAll m p [] = [] := rfl

@[simp] theorem addedAll_cons (m : Mode) (p : Standing) (s : Statement) (ss : List Statement) :
    addedAll m p (s :: ss) = p.added s m ++ addedAll m (p.after s) ss := rfl

@[simp] theorem addedAll_append (m : Mode) (p : Standing) (as bs : List Statement) :
    addedAll m p (as ++ bs) = addedAll m p as ++ addedAll m (p.afterAll as) bs := by
  induction as generalizing p with
  | nil => rfl
  | cons s as ih => simp [ih]

section
variable {keep : Statement → Bool}

/-- Statements that write nothing and leave the blocks alone can be left out. -/
theorem addedAll_filter (h : ∀ s, keep s = false → s.effect = .stays ∧ s.code = []) (m : Mode) (p : Standing)
    (ss : List Statement) : addedAll m p (ss.filter keep) = addedAll m p ss := by
  induction ss generalizing p with
  | nil => rfl
  | cons s ss ih =>
      cases hs : keep s with
      | true => rw [List.filter_cons_of_pos hs, addedAll_cons, addedAll_cons, ih]
      | false =>
          obtain ⟨heffect, hcode⟩ := h s hs
          have hafter : p.after s = p := by simp only [after, heffect]
          have hadded : p.added s m = [] := by simp [added, hcode, leaves, heffect]
          rw [List.filter_cons_of_neg (by simp [hs]), addedAll_cons, hafter, hadded, ih, List.nil_append]

end

theorem mem_addedAll {m : Mode} {line : Text} {ss : List Statement} (h : line ∈ addedAll m p ss) :
    line = [] ∨ ∃ s ∈ ss, ∃ level, ∃ t ∈ s.code, line = Scope.indented level t := by
  induction ss generalizing p with
  | nil => cases h
  | cons s ss ih =>
      rcases List.mem_append.mp h with h | h
      · rcases mem_added h with hline | ⟨t, ht, hline⟩
        · exact Or.inl hline
        · exact Or.inr ⟨s, List.mem_cons_self, p.level s, t, ht, hline⟩
      · rcases ih h with hline | ⟨s', hs', hrest⟩
        · exact Or.inl hline
        · exact Or.inr ⟨s', List.mem_cons_of_mem _ hs', hrest⟩

end Standing

/-! ## The standing of a scope -/

namespace Scope

variable {s : Scope} {n : Numbered}

def standing (s : Scope) : Standing :=
  ⟨s.mode, s.depth⟩

/-- Where a scope stands behind a statement depends on where it stood. -/
theorem standing_place (s : Scope) (n : Numbered) : (s.place n).standing = s.standing.after n.statement := by
  unfold standing Standing.after
  cases he : n.statement.effect with
  | stays =>
      rw [place_of_stays he, mode_write, depth_write]
  | opens kind =>
      rw [place_of_opens he, mode_openBlock, depth_openBlock, mode_write, depth_write]
  | alternates =>
      rw [place_of_alternates he, mode_openBlock, depth_openBlock, mode_write, depth_write, mode_closeBlock,
        depth_closeBlock]
  | closes =>
      rw [mode_place_of_closes he, depth_place_of_closes he]
  | defines signature =>
      rw [place_of_defines he, mode_openBlock, depth_openBlock, mode_write, depth_write, mode_outside, depth_outside]

theorem blocks_tail_eq_nil_iff (s : Scope) : s.blocks.tail = [] ↔ s.depth ≤ 1 := by
  rw [← List.length_eq_zero_iff, List.length_tail]
  unfold depth
  omega

/-- The lines that a statement adds depend on where the scope stands. -/
theorem buffer_place (s : Scope) (n : Numbered) (m : Mode) :
    (s.place n).buffer m = s.buffer m ++ s.standing.added n.statement m := by
  unfold Standing.added
  cases he : n.statement.effect with
  | stays =>
      rw [place_of_stays he, buffer_write, Standing.target_of_effect (by simp [he]), Standing.leaves_of_effect (by simp [he])]
      simp [Standing.level, he, standing]
  | opens kind =>
      rw [place_of_opens he, buffer_openBlock, buffer_write, Standing.target_of_effect (by simp [he]),
        Standing.leaves_of_effect (by simp [he])]
      simp [Standing.level, he, standing]
  | alternates =>
      rw [place_of_alternates he, buffer_openBlock, buffer_write, Standing.target_of_effect (by simp [he]),
        Standing.leaves_of_effect (by simp [he]), Statement.eq_elseBranch_of_effect he, buffer_closeBlock, mode_closeBlock]
      rfl
  | closes =>
      have hcode : n.statement.code = ["\x7d".toList] := by rw [Statement.eq_blockEnd_of_effect he]; rfl
      have hlevel : s.standing.level n.statement = s.depth - 1 := by simp [Standing.level, he, standing]
      have hleaves : s.standing.leaves n.statement = true ↔ s.mode = .function ∧ s.blocks.tail = [] := by
        simp [Standing.leaves, he, standing, blocks_tail_eq_nil_iff]
      have htarget : s.standing.target n.statement = s.mode := Standing.target_of_effect (by simp [he])
      rw [place_of_closes he, buffer_leaveFunction, buffer_write, htarget, hcode, hlevel, buffer_closeBlock, mode_closeBlock,
        mode_write, mode_closeBlock, blocks_write, blocks_closeBlock, List.append_assoc]
      -- the blank line goes to the functions only when the brace does, because both need a function in progress
      by_cases hm : m = s.mode
      · subst hm
        simp [hleaves]
      · have hnot : ¬(m = .function ∧ s.mode = .function ∧ s.blocks.tail = []) := fun h => hm (h.1.trans h.2.1.symm)
        rw [if_neg hm, if_neg hm, if_neg hnot, List.append_nil]
  | defines signature =>
      have hdefine := Statement.eq_define_of_effect he
      rw [place_of_defines he, buffer_openBlock, buffer_write, buffer_outside, mode_outside,
        Standing.leaves_of_effect (by simp [he])]
      simp [Standing.target, Standing.level, hdefine, Statement.effect, Statement.isDefine, Statement.signature?,
        Statement.code, Statement.code?, Signature.opening, indented]

/-- In every scope a statement adds its own line to one buffer, at some level, and at most blank lines besides. -/
theorem exists_buffer_place (s : Scope) (n : Numbered) :
    ∃ (level : Nat) (blank : List Text), (∀ line ∈ blank, line = []) ∧
      ∀ m, (s.place n).buffer m = s.buffer m ++
        if m = s.target n then n.statement.code.map (indented level) ++ blank else [] := by
  refine ⟨s.standing.level n.statement, if s.standing.leaves n.statement then [[]] else [], ?_, buffer_place s n⟩
  intro line hline
  split at hline
  · exact List.mem_singleton.mp hline
  · cases hline

theorem standing_placeAll (s : Scope) (ns : List Numbered) :
    (s.placeAll ns).standing = s.standing.afterAll (ns.map Numbered.statement) := by
  induction ns generalizing s with
  | nil => rfl
  | cons n ns ih => rw [placeAll_cons, ih, standing_place, List.map_cons, Standing.afterAll_cons]

theorem buffer_placeAll (s : Scope) (ns : List Numbered) (m : Mode) :
    (s.placeAll ns).buffer m = s.buffer m ++ Standing.addedAll m s.standing (ns.map Numbered.statement) := by
  induction ns generalizing s with
  | nil => simp
  | cons n ns ih =>
      rw [placeAll_cons, ih, buffer_place, standing_place, List.map_cons, Standing.addedAll_cons, List.append_assoc]

end Scope

/-! ## Generators -/

/-- The standing at the start of a program. -/
def Standing.initial : Standing :=
  Scope.initial.standing

theorem Standing.functionOpen_initial : Standing.initial.FunctionOpen := by
  intro h; cases h

namespace Generator

variable {ns ms : List Numbered}

theorem buffer_run (ns : List Numbered) (m : Mode) :
    (initial.run ns).scope.buffer m = Standing.addedAll m .initial (ns.map Numbered.statement) := by
  have h := Scope.buffer_placeAll Scope.initial ns m
  have hempty : Scope.initial.buffer m = [] := by cases m <;> rfl
  rw [hempty, List.nil_append] at h
  rw [scope_run]
  exact h

/-- The headers that statements need together. -/
def headersOf (ss : List Statement) : Headers :=
  ss.foldr (fun s h => s.headers.union h) .none

theorem headers_run (g : Generator) (ns : List Numbered) :
    (g.run ns).headers = g.headers.union (headersOf (ns.map Numbered.statement)) := by
  induction ns generalizing g with
  | nil => exact (Headers.union_none _).symm
  | cons n ns ih =>
      have h := ih (g.step n)
      rw [step, Headers.union_assoc] at h
      exact h

theorem headersOf_filter {keep : Statement → Bool} (h : ∀ s, keep s = false → s.headers = .none) (ss : List Statement) :
    headersOf (ss.filter keep) = headersOf ss := by
  induction ss with
  | nil => rfl
  | cons s ss ih =>
      have hcons : headersOf (s :: ss) = s.headers.union (headersOf ss) := rfl
      cases hs : keep s with
      | true =>
          rw [List.filter_cons_of_pos hs, hcons, ← ih]
          rfl
      | false => rw [List.filter_cons_of_neg (by simp [hs]), hcons, h s hs, Headers.none_union, ih]

theorem assemble_congr {f g : Generator} (hheaders : f.headers = g.headers)
    (hbuffer : ∀ m, f.scope.buffer m = g.scope.buffer m) : f.assemble = g.assemble := by
  have hfunction : f.scope.functionLines = g.scope.functionLines := hbuffer .function
  have hmain : f.scope.mainLines = g.scope.mainLines := hbuffer .main
  unfold assemble outputLines
  rw [hheaders, hfunction, hmain]

/-- The text of a program does not depend on the numbers of its lines. -/
theorem assemble_run_congr (h : ns.map Numbered.statement = ms.map Numbered.statement) :
    (initial.run ns).assemble = (initial.run ms).assemble := by
  refine assemble_congr ?_ fun m => ?_
  · rw [headers_run, headers_run, h]
  · rw [buffer_run, buffer_run, h]

end Generator

end Cpp

end FlowLang

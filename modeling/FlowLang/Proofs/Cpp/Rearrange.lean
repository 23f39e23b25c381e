import FlowLang.Proofs.Cpp.Braces

/-!
# Definitions can stand anywhere

A definition forgets the blocks that are open around it, so the main program behind it is written at other levels. Nothing
else depends on where the definitions stand: with all of them moved to the front, a program has the same headers, the same
functions, and the same main program up to its indentation. This holds also where the main program is not balanced.
-/

namespace FlowLang

open Text Cpp

/-! ## Bodies -/

/-- How many blocks are open behind a statement when `depth` are open before it. There is no such number for a definition,
nor for an `end` or an `else` that belongs to none of these blocks. -/
def Effect.depthBehind? : Effect → Nat → Option Nat
  | .stays, depth => some depth
  | .opens _, depth => some (depth + 1)
  | .alternates, depth + 1 => some (depth + 1)
  | .closes, depth + 1 => some depth
  | _, _ => none

/-- How many blocks are open behind statements, when every `end` and every `else` among them belongs to a block that is
counted and none of them is a definition. -/
def depthBehind? (depth : Nat) (ss : List Statement) : Option Nat :=
  ss.foldlM (fun depth s => s.effect.depthBehind? depth) depth

theorem depthBehind?_cons {depth : Nat} {s : Statement} {ss : List Statement} :
    depthBehind? depth (s :: ss) = (s.effect.depthBehind? depth).bind (depthBehind? · ss) :=
  List.foldlM_cons

theorem depthBehind?_append {depth between : Nat} {as : List Statement} (h : depthBehind? depth as = some between)
    (bs : List Statement) : depthBehind? depth (as ++ bs) = depthBehind? between bs := by
  unfold depthBehind? at h ⊢
  rw [List.foldlM_append, h]
  rfl

/-- A well-nested body closes the blocks that it opens, and no others. -/
theorem WellNested.depthBehind?_eq {body : List Statement} (h : WellNested .function body) (depth : Nat) :
    depthBehind? depth body = some depth := by
  generalize hm : Mode.function = m at h
  induction h generalizing depth with
  | nil => rfl
  | simple hstays => rw [depthBehind?_cons, hstays]; rfl
  | append _ _ iha ihb => rw [depthBehind?_append (iha depth hm), ihb depth hm]
  | block hopens _ ih =>
      rw [depthBehind?_cons, hopens]
      exact depthBehind?_append (ih (depth + 1) hm) [.blockEnd]
  | branch _ _ ihBody ihOther =>
      rw [depthBehind?_cons]
      refine (depthBehind?_append (ihBody (depth + 1) hm) _).trans ?_
      rw [depthBehind?_cons]
      exact depthBehind?_append (ihOther (depth + 1) hm) [.blockEnd]
  | definition _ _ => cases hm

namespace Cpp.Standing

variable {p : Standing} {s : Statement} {m : Mode} {around depth behind : Nat}

/-- Inside a function and `around` blocks of it, a statement that belongs to inner blocks stays in the function. -/
theorem function_after (haround : 0 < around) (h : s.effect.depthBehind? depth = some behind) :
    after ⟨.function, around + depth⟩ s = ⟨.function, around + behind⟩ ∧
      added ⟨.function, around + depth⟩ s .main = [] := by
  have hadded (he : ∀ signature, s.effect ≠ .defines signature) : added ⟨.function, around + depth⟩ s .main = [] := by
    rw [added, target_of_effect he]
    rfl
  cases he : s.effect with
  | stays =>
      cases he ▸ h
      exact ⟨by simp only [after, he], hadded (by simp [he])⟩
  | opens kind =>
      cases he ▸ h
      exact ⟨by simp only [after, he, Nat.add_assoc], hadded (by simp [he])⟩
  | alternates =>
      cases depth with
      | zero => cases he ▸ h
      | succ depth =>
          cases he ▸ h
          exact ⟨by simp only [after, he]; rfl, hadded (by simp [he])⟩
  | closes =>
      cases depth with
      | zero => cases he ▸ h
      | succ depth =>
          cases he ▸ h
          -- a block is open around the one that is closed, so the function goes on
          have hdeep : ¬around + (behind + 1) ≤ 1 := by omega
          exact ⟨by simp only [after, he, if_neg hdeep]; rfl, hadded (by simp [he])⟩
  | defines signature => cases he ▸ h

theorem function_afterAll {body : List Statement} (haround : 0 < around) (h : depthBehind? depth body = some behind) :
    afterAll ⟨.function, around + depth⟩ body = ⟨.function, around + behind⟩ ∧
      addedAll .main ⟨.function, around + depth⟩ body = [] := by
  induction body generalizing depth with
  | nil =>
      cases h
      exact ⟨rfl, rfl⟩
  | cons s body ih =>
      rw [depthBehind?_cons] at h
      obtain ⟨next, hnext, hrest⟩ := Option.bind_eq_some_iff.mp h
      obtain ⟨hafter, hadded⟩ := function_after haround hnext
      rw [afterAll_cons, addedAll_cons, hafter, hadded]
      exact ih hrest

/-- Where a definition begins, what was open before it plays no part any more. -/
theorem addedAll_define (m : Mode) (p q : Standing) (signature : Signature) (ss : List Statement) :
    addedAll m p (.define signature :: ss) = addedAll m q (.define signature :: ss) := rfl

theorem afterAll_define (p : Standing) (signature : Signature) (ss : List Statement) :
    p.afterAll (.define signature :: ss) = afterAll ⟨.function, 1⟩ ss := rfl

theorem mode_after_of_main (hp : p.mode = .main) (hs : s.isDefine = false) : (p.after s).mode = .main := by
  cases he : s.effect with
  | defines signature =>
      rw [Statement.eq_define_of_effect he] at hs
      cases hs
  | closes => simp only [after, he, hp, ite_self]
  | _ => simp only [after, he, hp]

end Cpp.Standing

/-! ## Pieces of programs -/

/-- A line without the spaces at its start. -/
def Cpp.Scope.unindented (line : Text) : Text :=
  line.dropWhile (· == ' ')

theorem Cpp.Scope.unindented_indented (level : Nat) (t : Text) : unindented (indented level t) = unindented t := by
  unfold unindented indented
  rw [List.dropWhile_append_of_pos]
  intro c hc
  rw [List.eq_of_mem_replicate hc]
  rfl

open Standing

/-- A whole definition, or a single statement of the main program. -/
inductive Piece where
  | definition (signature : Signature) (body : List Statement) (closed : depthBehind? 0 body = some 0)
  | single (s : Statement) (free : s.isDefine = false)

namespace Piece

def statements : Piece → List Statement
  | .definition signature body _ => .define signature :: (body ++ [.blockEnd])
  | .single s _ => [s]

def isDefinition : Piece → Bool
  | .definition _ _ _ => true
  | .single _ _ => false

/-- All definitions in their order, and behind them everything else in its order. -/
def definitionsFirst (pieces : List Piece) : List Piece :=
  pieces.filter isDefinition ++ pieces.filter (!·.isDefinition)

/-- The lines of a piece among the functions. -/
def functionLines (piece : Piece) : List Text :=
  addedAll .function .initial piece.statements

/-- The lines of a piece in the main program, without indentation. -/
def mainLines (piece : Piece) : List Text :=
  (addedAll .main .initial piece.statements).map Scope.unindented

/-! ### One piece -/

variable {p : Standing}

theorem afterAll_definition (p : Standing) (signature : Signature) {body : List Statement}
    (closed : depthBehind? 0 body = some 0) : p.afterAll (definition signature body closed).statements = ⟨.main, 0⟩ := by
  rw [statements, afterAll_define, afterAll_append, (function_afterAll Nat.one_pos closed).1]
  rfl

theorem mainLines_definition (p : Standing) (signature : Signature) {body : List Statement}
    (closed : depthBehind? 0 body = some 0) : addedAll .main p (definition signature body closed).statements = [] := by
  have hbody := function_afterAll Nat.one_pos closed
  have hdefine : p.added (.define signature) .main = [] := rfl
  have hafter : p.after (.define signature) = ⟨.function, 1 + 0⟩ := rfl
  rw [statements, addedAll_cons, hdefine, hafter, addedAll_append, hbody.1, hbody.2]
  rfl

/-- In the main program a statement adds its line, indented somehow, and nothing else. -/
theorem mainLines_single (hp : p.mode = .main) {s : Statement} (free : s.isDefine = false) :
    (p.added s .main).map Scope.unindented = s.code.map Scope.unindented := by
  have hleaves : p.leaves s = false := by simp [leaves, hp]
  have htarget : p.target s = .main := by simp [target, free, hp]
  simp [added, hleaves, htarget, Function.comp_def, Scope.unindented_indented]

/-- What a piece adds in the main program does not depend on how deep it stands, indentation apart. -/
theorem added_piece (piece : Piece) (hp : p.mode = .main) :
    (p.afterAll piece.statements).mode = .main ∧
      addedAll .function p piece.statements = piece.functionLines ∧
      (addedAll .main p piece.statements).map Scope.unindented = piece.mainLines := by
  cases piece with
  | definition signature body closed =>
      refine ⟨?_, addedAll_define _ _ _ _ _, ?_⟩
      · rw [afterAll_definition]
      · rw [mainLines, mainLines_definition, mainLines_definition]
  | single s free =>
      have hfunction {q : Standing} (hq : q.mode = .main) : q.added s .function = [] := by
        simp [added, target, free, hq]
      refine ⟨mode_after_of_main hp free, ?_, ?_⟩
      · simp [functionLines, statements, hfunction hp, hfunction (q := .initial) rfl]
      · simp [mainLines, statements, -List.map_append, mainLines_single hp free, mainLines_single (p := .initial) rfl free]

/-! ### Whole programs -/

theorem added_pieces (pieces : List Piece) (hp : p.mode = .main) :
    addedAll .function p (pieces.flatMap statements) = pieces.flatMap functionLines ∧
      (addedAll .main p (pieces.flatMap statements)).map Scope.unindented = pieces.flatMap mainLines := by
  induction pieces generalizing p with
  | nil => exact ⟨rfl, rfl⟩
  | cons piece pieces ih =>
      obtain ⟨hmode, hfunction, hmain⟩ := added_piece piece hp
      obtain ⟨ihFunction, ihMain⟩ := ih hmode
      simp only [List.flatMap_cons, addedAll_append, List.map_append]
      exact ⟨by rw [hfunction, ihFunction], by rw [hmain, ihMain]⟩

theorem functionLines_of_single {piece : Piece} (h : piece.isDefinition = false) : piece.functionLines = [] := by
  cases piece with
  | definition => cases h
  | single s free => simp [functionLines, statements, added, target, free, Standing.initial, Scope.standing, Scope.initial]

theorem mainLines_of_definition {piece : Piece} (h : piece.isDefinition = true) : piece.mainLines = [] := by
  cases piece with
  | definition signature body closed => rw [mainLines, mainLines_definition, List.map_nil]
  | single => cases h

theorem flatMap_filter_of_eq_nil {f : Piece → List Text} {keep : Piece → Bool}
    (h : ∀ piece, keep piece = false → f piece = []) (pieces : List Piece) :
    (pieces.filter keep).flatMap f = pieces.flatMap f := by
  induction pieces with
  | nil => rfl
  | cons piece pieces ih =>
      cases hk : keep piece with
      | true => rw [List.filter_cons_of_pos hk, List.flatMap_cons, List.flatMap_cons, ih]
      | false =>
          rw [List.filter_cons_of_neg (by rw [hk]; exact Bool.false_ne_true), List.flatMap_cons, h piece hk, ih,
            List.nil_append]

theorem functionLines_definitionsFirst (pieces : List Piece) :
    (definitionsFirst pieces).flatMap functionLines = pieces.flatMap functionLines := by
  have hrest : (pieces.filter (!·.isDefinition)).flatMap functionLines = [] := by
    rw [List.flatMap_eq_nil_iff]
    intro piece hpiece
    exact functionLines_of_single (by simpa using (List.mem_filter.mp hpiece).2)
  rw [definitionsFirst, List.flatMap_append, hrest, List.append_nil,
    flatMap_filter_of_eq_nil fun _ => functionLines_of_single]

theorem mainLines_definitionsFirst (pieces : List Piece) :
    (definitionsFirst pieces).flatMap mainLines = pieces.flatMap mainLines := by
  have hfirst : (pieces.filter isDefinition).flatMap mainLines = [] := by
    rw [List.flatMap_eq_nil_iff]
    intro piece hpiece
    exact mainLines_of_definition (List.mem_filter.mp hpiece).2
  rw [definitionsFirst, List.flatMap_append, hfirst, List.nil_append,
    flatMap_filter_of_eq_nil fun piece h => mainLines_of_definition (by simpa using h)]

end Piece

/-- Headers are needed together, in whatever order they are asked for. -/
theorem Cpp.Generator.headersOf_perm {as bs : List Statement} (h : as.Perm bs) : headersOf as = headersOf bs := by
  refine h.foldr_eq' ?_ _
  intro s _ t _ rest
  rw [← Headers.union_assoc, Headers.union_comm t.headers, Headers.union_assoc]

/-- With all definitions moved to the front, a program has the same headers and the same functions, and its main program
has the same lines up to the spaces before them. -/
theorem run_definitionsFirst (pieces : List Piece) (ns moved : List Numbered)
    (h : ns.map Numbered.statement = pieces.flatMap Piece.statements)
    (hmoved : moved.map Numbered.statement = (Piece.definitionsFirst pieces).flatMap Piece.statements) :
    (Generator.initial.run moved).headers.lines = (Generator.initial.run ns).headers.lines ∧
    (Generator.initial.run moved).scope.functionLines = (Generator.initial.run ns).scope.functionLines ∧
    (Generator.initial.run moved).scope.mainLines.map Scope.unindented =
      (Generator.initial.run ns).scope.mainLines.map Scope.unindented := by
  have hperm : (moved.map Numbered.statement).Perm (ns.map Numbered.statement) := by
    rw [h, hmoved]
    exact (List.filter_append_perm Piece.isDefinition pieces).flatMap_right Piece.statements
  have hbuffer (ms : List Numbered) (m : Mode) :
      (Generator.initial.run ms).scope.buffer m = addedAll m .initial (ms.map Numbered.statement) :=
    Generator.buffer_run ms m
  obtain ⟨hfunction, hmain⟩ := Piece.added_pieces (p := .initial) pieces rfl
  obtain ⟨hfunction', hmain'⟩ := Piece.added_pieces (p := .initial) (Piece.definitionsFirst pieces) rfl
  refine ⟨?_, ?_, ?_⟩
  · rw [Generator.headers_run, Generator.headers_run, Generator.headersOf_perm hperm]
  · refine (hbuffer moved .function).trans (Eq.trans ?_ (hbuffer ns .function).symm)
    rw [hmoved, h, hfunction, hfunction', Piece.functionLines_definitionsFirst]
  · refine (congrArg _ (hbuffer moved .main)).trans (Eq.trans ?_ (congrArg _ (hbuffer ns .main).symm))
    rw [hmoved, h, hmain, hmain', Piece.mainLines_definitionsFirst]

/-- A definition inside a block whose `else` comes behind it, in a program with one `end` too many. -/
theorem run_definitionsFirst_unbalanced :
    (Generator.initial.run (statements
      "define f(x)\nloop 3 times\nreturn x\nend\nend\nif a then\nelse\nend\nend".toList)).scope.mainLines.map
        Scope.unindented =
      (Generator.initial.run (statements
        "if a then\ndefine f(x)\nloop 3 times\nreturn x\nend\nend\nelse\nend\nend".toList)).scope.mainLines.map
          Scope.unindented := by
  have h := run_definitionsFirst
    [.single (.ifThen "a".toList) rfl, .definition ⟨"f".toList, ["x".toList]⟩
      (.loopTimes "3".toList :: ([.returnValue "x".toList] ++ [.blockEnd]))
      ((WellNested.block rfl (.simple rfl)).depthBehind?_eq 0),
     .single .elseBranch rfl, .single .blockEnd rfl, .single .blockEnd rfl]
    (statements "if a then\ndefine f(x)\nloop 3 times\nreturn x\nend\nend\nelse\nend\nend".toList)
    (statements "define f(x)\nloop 3 times\nreturn x\nend\nend\nif a then\nelse\nend\nend".toList)
    (by decide +kernel) (by decide +kernel)
  exact h.2.2

end FlowLang

import FlowLang.Proofs.Cpp.Needs
import FlowLang.Proofs.Cpp.Rearrange
import FlowLang.Proofs.Text.Splice

/-!
# Comments in generated programs

A comment becomes a line of its own and changes no other line. But a C++ compiler joins the next line to a comment that ends
with a backslash, and so never sees it. Comments play no part in a program exactly if that hits no line of code, whichever of
the other comments are left out.
-/

namespace FlowLang

open Text Cpp

/-! ## Leaving out -/

/-- Some of the members of a list that may be left out are left out. -/
inductive LeavesOut {α : Type} (may : α → Prop) : List α → List α → Prop
  | nil : LeavesOut may [] []
  | keep (a : α) {as bs : List α} (h : LeavesOut may as bs) : LeavesOut may (a :: as) (a :: bs)
  | drop {a : α} {as bs : List α} (ha : may a) (h : LeavesOut may as bs) : LeavesOut may (a :: as) bs

def Statement.IsComment (s : Statement) : Prop :=
  ∃ text, s = .comment text

/-- The statement on the line is a comment. -/
def IsCommentLine (raw : Text) : Prop :=
  ∃ s, lineStatement? raw = some s ∧ s.IsComment

/-- The statements that are no comments. -/
def codeOf (ss : List Statement) : List Statement :=
  ss.filter fun s => match s with
    | .comment _ => false
    | _ => true

theorem codeOf_cons {s : Statement} (hs : ¬s.IsComment) (ss : List Statement) : codeOf (s :: ss) = s :: codeOf ss := by
  cases s with
  | comment text => exact absurd ⟨text, rfl⟩ hs
  | _ => rfl

namespace LeavesOut

section
variable {α : Type} {may : α → Prop} {as bs : List α}

theorem refl (as : List α) : LeavesOut may as as := by
  induction as with
  | nil => exact .nil
  | cons a as ih => exact .keep a ih

theorem cons_iff {a : α} :
    LeavesOut may (a :: as) bs ↔ (∃ rest, bs = a :: rest ∧ LeavesOut may as rest) ∨ may a ∧ LeavesOut may as bs := by
  constructor
  · intro h
    cases h with
    | keep _ h => exact Or.inl ⟨_, rfl, h⟩
    | drop ha h => exact Or.inr ⟨ha, h⟩
  · rintro (⟨rest, rfl, h⟩ | ⟨ha, h⟩)
    · exact .keep a h
    · exact .drop ha h

theorem subset (h : LeavesOut may as bs) : bs ⊆ as := by
  induction h with
  | nil => exact List.Subset.refl _
  | keep a _ ih => exact List.cons_subset_cons a ih
  | drop _ _ ih => exact List.subset_cons_of_subset _ ih

end

variable {ss kept : List Statement}

theorem codeOf (ss : List Statement) : LeavesOut Statement.IsComment ss (codeOf ss) := by
  induction ss with
  | nil => exact .nil
  | cons s ss ih =>
      by_cases hs : s.IsComment
      · obtain ⟨text, rfl⟩ := hs
        exact .drop ⟨text, rfl⟩ ih
      · rw [codeOf_cons hs]
        exact .keep s ih

/-- Leaving out lines of comments leaves out comments. -/
theorem filterMap {ls ms : List Text} (h : LeavesOut IsCommentLine ls ms) :
    LeavesOut Statement.IsComment (ls.filterMap lineStatement?) (ms.filterMap lineStatement?) := by
  induction h with
  | nil => exact .nil
  | keep raw _ ih =>
      rw [List.filterMap_cons, List.filterMap_cons]
      cases lineStatement? raw with
      | none => exact ih
      | some s => exact .keep s ih
  | drop hraw _ ih =>
      obtain ⟨s, hs, hcomment⟩ := hraw
      rw [List.filterMap_cons, hs]
      exact .drop hcomment ih

theorem exists_lines {ls : List Text} (h : LeavesOut Statement.IsComment (ls.filterMap lineStatement?) kept) :
    ∃ ms, LeavesOut IsCommentLine ls ms ∧ ms.filterMap lineStatement? = kept := by
  induction ls generalizing kept with
  | nil =>
      cases h
      exact ⟨[], .nil, rfl⟩
  | cons raw ls ih =>
      cases hraw : lineStatement? raw with
      | none =>
          rw [List.filterMap_cons, hraw] at h
          obtain ⟨ms, hms, rfl⟩ := ih h
          exact ⟨raw :: ms, .keep raw hms, by rw [List.filterMap_cons, hraw]⟩
      | some s =>
          rw [List.filterMap_cons, hraw] at h
          rcases cons_iff.mp h with ⟨rest, rfl, hrest⟩ | ⟨hcomment, hrest⟩
          · obtain ⟨ms, hms, rfl⟩ := ih hrest
            exact ⟨raw :: ms, .keep raw hms, by rw [List.filterMap_cons, hraw]⟩
          · obtain ⟨ms, hms, rfl⟩ := ih hrest
            exact ⟨ms, .drop ⟨s, hraw, hcomment⟩ hms, rfl⟩

end LeavesOut

/-! ## The lines of comments -/

theorem isRemark_indented (level : Nat) (t : Text) : isRemark (Scope.indented level t) = isRemark t := by
  exact congrArg ("//".toList.isPrefixOf ·) (Scope.unindented_indented level t)

theorem isRemark_comment (level : Nat) (text : Text) : isRemark (Scope.indented level ("// ".toList ++ text)) = true := by
  rw [isRemark_indented]
  rfl

theorem isContinued_comment (level : Nat) (text : Text) :
    isContinued (Scope.indented level ("// ".toList ++ text)) = isContinued text := by
  unfold isContinued Scope.indented
  rw [List.getLast?_append, List.getLast?_append]
  cases text.getLast? <;> rfl

/-- Only comments can be continued. -/
theorem isContinued_of_mem_code {s : Statement} (hs : ¬s.IsComment) {t : Text} (h : t ∈ s.code) (level : Nat) :
    isContinued (Scope.indented level t) = false := by
  have hlast := getLast?_of_mem_code (fun text heq => hs ⟨text, heq⟩) h
  unfold isContinued Scope.indented
  rw [List.getLast?_append]
  cases hc : t.getLast? with
  | none => rw [hc] at hlast; simp at hlast
  | some c =>
      rw [hc] at hlast
      have hne : c ≠ '\\' := by
        rintro rfl
        exact absurd hlast (by decide)
      simpa using hne

namespace Cpp.Standing

variable {p : Standing} {m : Mode} {s : Statement} {ss kept : List Statement}

theorem after_comment (p : Standing) (text : Text) : p.after (.comment text) = p := rfl

theorem added_comment (p : Standing) (text : Text) (m : Mode) :
    p.added (.comment text) m = if m = p.mode then [Scope.indented p.depth ("// ".toList ++ text)] else [] := by
  simp [added, target, level, leaves, Statement.isDefine, Statement.signature?, Statement.effect, Statement.code,
    Statement.code?]

theorem isContinued_added (hs : ¬s.IsComment) {line : Text} (h : line ∈ p.added s m) : isContinued line = false := by
  rcases mem_added h with rfl | ⟨t, ht, rfl⟩
  · rfl
  · exact isContinued_of_mem_code hs ht _

theorem isRemark_of_isContinued {line : Text} (h : line ∈ addedAll m p ss) (hc : isContinued line = true) :
    isRemark line = true := by
  rcases mem_addedAll h with rfl | ⟨s, -, level, t, ht, rfl⟩
  · cases hc
  · by_cases hs : s.IsComment
    · obtain ⟨text, rfl⟩ := hs
      obtain rfl := List.mem_singleton.mp ht
      exact isRemark_comment level text
    · rw [isContinued_of_mem_code hs ht] at hc
      cases hc

/-- Comments change nothing but the remarks. -/
theorem filter_addedAll (h : LeavesOut Statement.IsComment ss kept) (m : Mode) (p : Standing) :
    (addedAll m p kept).filter (!isRemark ·) = (addedAll m p ss).filter (!isRemark ·) := by
  induction h generalizing p with
  | nil => rfl
  | keep s _ ih => rw [addedAll_cons, addedAll_cons, List.filter_append, List.filter_append, ih]
  | drop hs _ ih =>
      obtain ⟨text, rfl⟩ := hs
      have hremark : (p.added (.comment text) m).filter (!isRemark ·) = [] := by
        rw [added_comment]
        split
        · exact List.filter_cons_of_neg (by rw [isRemark_comment]; decide)
        · rfl
      rw [addedAll_cons, List.filter_append, hremark, after_comment, List.nil_append, ih]

/-! ## Covered lines -/

theorem isChain_append_iff {as bs : List Text} (h : ∀ line ∈ as, isContinued line = false) :
    (as ++ bs).IsChain Covered ↔ bs.IsChain Covered := by
  induction as with
  | nil => rfl
  | cons line as ih =>
      obtain ⟨hline, has⟩ := List.forall_mem_cons.mp h
      rw [List.cons_append, List.isChain_cons, ih has]
      exact ⟨And.right, fun hchain => ⟨fun next _ hcontinued => absurd hcontinued (by simp [hline]), hchain⟩⟩

/-- The first of the lines that statements add to a buffer is a remark. -/
def StartsWithRemark (m : Mode) (p : Standing) (ss : List Statement) : Prop :=
  ∃ line, (addedAll m p ss).head? = some line ∧ isRemark line = true

/-- Whichever comments are left out, no line of code is joined to a comment before it, nor is the line `next` behind all. -/
def Inert (next : Text) (m : Mode) (p : Standing) (ss : List Statement) : Prop :=
  ∀ kept, LeavesOut Statement.IsComment ss kept → (addedAll m p kept ++ [next]).IsChain Covered

/-- A comment that ends with a backslash has a remark as the next line of code in its buffer. -/
def Guarded (m : Mode) (p : Standing) (ss : List Statement) : Prop :=
  ∀ before text after, ss = before ++ .comment text :: after → isContinued text = true → (p.afterAll before).mode = m →
    StartsWithRemark m (p.afterAll before) (codeOf after)

theorem startsWithRemark_of_leavesOut (h : LeavesOut Statement.IsComment ss kept)
    (hcode : StartsWithRemark m p (codeOf ss)) : StartsWithRemark m p kept := by
  induction h generalizing p with
  | nil => exact hcode
  | drop hs _ ih =>
      obtain ⟨text, rfl⟩ := hs
      exact ih hcode
  | keep s _ ih =>
      by_cases hs : s.IsComment
      · obtain ⟨text, rfl⟩ := hs
        unfold StartsWithRemark
        rw [addedAll_cons, added_comment]
        split
        · exact ⟨_, rfl, isRemark_comment _ _⟩
        · exact ih hcode
      · rw [codeOf_cons hs] at hcode
        unfold StartsWithRemark at hcode ⊢
        rw [addedAll_cons] at hcode ⊢
        cases hadded : p.added s m with
        | nil =>
            rw [hadded] at hcode
            exact ih hcode
        | cons line rest =>
            rw [hadded] at hcode
            exact hcode

theorem inert_code {next : Text} (hs : ¬s.IsComment) : Inert next m p (s :: ss) ↔ Inert next m (p.after s) ss := by
  have hchain (kept : List Statement) : (addedAll m p (s :: kept) ++ [next]).IsChain Covered ↔
      (addedAll m (p.after s) kept ++ [next]).IsChain Covered := by
    rw [addedAll_cons, List.append_assoc, isChain_append_iff fun line hline => isContinued_added hs hline]
  constructor
  · intro h kept hkept
    exact (hchain kept).mp (h _ (.keep s hkept))
  · intro h kept hkept
    rcases LeavesOut.cons_iff.mp hkept with ⟨rest, rfl, hrest⟩ | ⟨hcomment, -⟩
    · exact (hchain rest).mpr (h rest hrest)
    · exact absurd hcomment hs

theorem inert_comment {next text : Text} (hnext : isRemark next = false) :
    Inert next m p (.comment text :: ss) ↔
      Inert next m p ss ∧ (p.mode = m → isContinued text = true → StartsWithRemark m p (codeOf ss)) := by
  have hhead (kept : List Statement) :
      (∀ line ∈ (addedAll m p kept ++ [next]).head?, isRemark line = true) ↔ StartsWithRemark m p kept := by
    unfold StartsWithRemark
    cases addedAll m p kept with
    | nil => simp [hnext]
    | cons line rest => simp
  have hchain (kept : List Statement) : (addedAll m p (.comment text :: kept) ++ [next]).IsChain Covered ↔
      (p.mode = m → isContinued text = true → StartsWithRemark m p kept) ∧
        (addedAll m p kept ++ [next]).IsChain Covered := by
    rw [addedAll_cons, added_comment, after_comment]
    by_cases hm : m = p.mode
    · rw [if_pos hm, List.append_assoc, List.singleton_append, List.isChain_cons, ← hhead]
      simp only [Covered, isContinued_comment, hm, forall_const]
      exact and_congr_left fun _ => ⟨fun h hc line hline => h line hline hc, fun h line hline hc => h hc line hline⟩
    · rw [if_neg hm, List.nil_append]
      exact ⟨fun h => ⟨fun hmode => absurd hmode.symm hm, h⟩, And.right⟩
  constructor
  · intro h
    refine ⟨fun kept hkept => h kept (.drop ⟨text, rfl⟩ hkept), ?_⟩
    exact ((hchain _).mp (h _ (.keep _ (.codeOf ss)))).1
  · rintro ⟨hrest, hguard⟩ kept hkept
    rcases LeavesOut.cons_iff.mp hkept with ⟨rest, rfl, hleaves⟩ | ⟨-, hleaves⟩
    · exact (hchain rest).mpr ⟨fun hm hc => startsWithRemark_of_leavesOut hleaves (hguard hm hc), hrest rest hleaves⟩
    · exact hrest kept hleaves

theorem guarded_cons : Guarded m p (s :: ss) ↔
    Guarded m (p.after s) ss ∧
      ∀ text, s = .comment text → p.mode = m → isContinued text = true → StartsWithRemark m p (codeOf ss) := by
  constructor
  · intro h
    refine ⟨fun before text after hss hc hm => h (s :: before) text after (by rw [hss]; rfl) hc hm, ?_⟩
    rintro text rfl hm hc
    exact h [] text ss rfl hc hm
  · rintro ⟨hrest, hhere⟩ before text after hss hc hm
    cases before with
    | nil =>
        obtain ⟨rfl, rfl⟩ := List.cons.inj hss
        exact hhere text rfl hm hc
    | cons s' before =>
        obtain ⟨rfl, rfl⟩ := List.cons.inj hss
        exact hrest before text after rfl hc hm

theorem inert_iff_guarded {next : Text} (hnext : isRemark next = false) (m : Mode) (p : Standing) (ss : List Statement) :
    Inert next m p ss ↔ Guarded m p ss := by
  induction ss generalizing p with
  | nil =>
      constructor
      · intro _ before text after hss
        simp at hss
      · intro _ kept hkept
        cases hkept
        exact List.isChain_singleton next
  | cons s ss ih =>
      rw [guarded_cons, ← ih]
      by_cases hs : s.IsComment
      · obtain ⟨text, rfl⟩ := hs
        rw [inert_comment hnext, after_comment]
        simp
      · rw [inert_code hs]
        exact ⟨fun h => ⟨h, fun text heq => absurd ⟨text, heq⟩ hs⟩, And.left⟩

end Cpp.Standing

/-! ## Whole programs -/

open Standing

/-- The line behind those of a buffer. -/
def lineBehind : Mode → Text
  | .function => mainLine
  | .main => "    return 0;".toList

/-- The lines of the program for statements. The last one is what stands behind the last line feed. -/
def programLines (ss : List Statement) : List Text :=
  ("// Generated by flowc — the Flow compiler".toList :: (Generator.headersOf ss).lines ++ [[]]) ++
    (addedAll .function .initial ss ++ lineBehind .function ::
      (addedAll .main .initial ss ++ lineBehind .main :: ["\x7d".toList, []]))

variable {ss kept : List Statement}

theorem lines_transpile (source : Text) :
    lines (transpile source) = programLines ((statements source).map Numbered.statement) := by
  have hlines : lines (transpile source) = _ := Generator.lines_assemble (newline_not_mem_buffer source)
  have hheaders := Generator.headers_run .initial (statements source)
  have hfunction : (Generator.initial.run (statements source)).scope.functionLines = _ :=
    Generator.buffer_run (statements source) .function
  have hmain : (Generator.initial.run (statements source)).scope.mainLines = _ :=
    Generator.buffer_run (statements source) .main
  rw [show Generator.initial.headers = .none from rfl, Headers.none_union] at hheaders
  rw [hlines, Generator.outputLines, programLines, hheaders, hfunction, hmain]
  simp only [List.append_assoc, List.cons_append, List.nil_append]
  rfl

theorem exists_programLines_eq (ss : List Statement) : ∃ front, programLines ss = front ++ ["\x7d".toList, []] :=
  ⟨("// Generated by flowc — the Flow compiler".toList :: (Generator.headersOf ss).lines ++ [[]]) ++
    (addedAll .function .initial ss ++ lineBehind .function :: (addedAll .main .initial ss ++ [lineBehind .main])), by
    simp only [programLines, List.append_assoc, List.cons_append, List.nil_append]⟩

theorem isContinued_header (h : Headers) : ∀ line ∈ "// Generated by flowc — the Flow compiler".toList :: h.lines ++ [[]],
    isContinued line = false := by
  have hall : ∀ line ∈ Headers.all.lines, isContinued line = false := by decide +kernel
  intro line hline
  simp only [List.mem_append, List.mem_cons, List.not_mem_nil, or_false] at hline
  rcases hline with (rfl | hline) | rfl
  · decide +kernel
  · exact hall line (h.lines_subset_all hline)
  · rfl

theorem isRemark_of_mem_programLines {line : Text} (h : line ∈ programLines ss) (hc : isContinued line = true) :
    isRemark line = true := by
  unfold programLines at h
  rcases List.mem_append.mp h with h | h
  · rw [isContinued_header _ line h] at hc
    cases hc
  · rcases List.mem_append.mp h with h | h
    · exact isRemark_of_isContinued h hc
    · rcases List.mem_cons.mp h with rfl | h
      · cases hc
      · rcases List.mem_append.mp h with h | h
        · exact isRemark_of_isContinued h hc
        · have hclosing : ∀ line ∈ lineBehind .main :: ["\x7d".toList, []], isContinued line = false := by decide
          rw [hclosing line h] at hc
          cases hc

/-- What a C++ compiler sees of a generated program. -/
theorem effective_transpile (source : Text) :
    effective (transpile source) =
      joinWith "\n".toList (visible false (programLines ((statements source).map Numbered.statement))) := by
  have hnewline : ∀ line ∈ programLines ((statements source).map Numbered.statement), '\n' ∉ line := by
    intro line hline
    rw [← lines_transpile] at hline
    exact not_mem_of_mem_splitOn hline
  have hjoin : joinWith "\n".toList (programLines ((statements source).map Numbered.statement)) = transpile source := by
    rw [← lines_transpile]
    exact joinWith_splitOn '\n' (transpile source)
  have hvisible := filter_lines_splice hnewline (fun line hline hc => isRemark_of_mem_programLines hline hc)
    (by simp [programLines])
  rw [hjoin] at hvisible
  rw [effective, hvisible.1]

theorem isChain_programLines (ss : List Statement) :
    (programLines ss).IsChain Covered ↔ ∀ m, (addedAll m .initial ss ++ [lineBehind m]).IsChain Covered := by
  have hmain : ∀ line ∈ [lineBehind .function], isContinued line = false := by decide
  have hclosing : ∀ line ∈ lineBehind .main :: ["\x7d".toList, []], isContinued line = false := by decide
  have hend : (lineBehind .main :: ["\x7d".toList, []]).IsChain Covered := by
    have h : (lineBehind .main :: ["\x7d".toList, []] ++ []).IsChain Covered := (isChain_append_iff hclosing).mpr .nil
    rwa [List.append_nil] at h
  have hbody (rest : List Text) : (lineBehind .function :: rest).IsChain Covered ↔ rest.IsChain Covered :=
    isChain_append_iff hmain
  have hsplit : (addedAll .main .initial ss ++ lineBehind .main :: ["\x7d".toList, []]).IsChain Covered ↔
      (addedAll .main .initial ss ++ [lineBehind .main]).IsChain Covered ∧ _ := List.isChain_split
  rw [programLines, isChain_append_iff (isContinued_header _), List.isChain_split, hbody, hsplit]
  constructor
  · rintro ⟨hfunction, hmain, -⟩ m
    cases m with
    | function => exact hfunction
    | main => exact hmain
  · exact fun h => ⟨h .function, h .main, hend⟩

theorem headersOf_leavesOut (h : LeavesOut Statement.IsComment ss kept) :
    Generator.headersOf kept = Generator.headersOf ss := by
  induction h with
  | nil => rfl
  | keep s _ ih => exact congrArg (Headers.union s.headers) ih
  | drop hs _ ih =>
      obtain ⟨text, rfl⟩ := hs
      exact ih.trans (Headers.none_union _).symm

theorem filter_programLines (h : LeavesOut Statement.IsComment ss kept) :
    (programLines kept).filter (!isRemark ·) = (programLines ss).filter (!isRemark ·) := by
  have hfunction := filter_addedAll h .function .initial
  have hmain := filter_addedAll h .main .initial
  simp only [programLines, List.filter_append, List.filter_cons, headersOf_leavesOut h, hfunction, hmain]

theorem isRemark_lineBehind (m : Mode) : isRemark (lineBehind m) = false := by
  cases m <;> rfl

theorem guarded_codeOf (m : Mode) (p : Standing) (ss : List Statement) : Guarded m p (codeOf ss) := by
  intro before text after hss
  have hmem : Statement.comment text ∈ codeOf ss := by simp [hss]
  cases (List.mem_filter.mp hmem).2

/-- The same lines are visible whichever comments are left out, exactly if the comments of both buffers are guarded. -/
theorem visible_programLines_iff (ss : List Statement) :
    (∀ kept, LeavesOut Statement.IsComment ss kept →
      visible false (programLines kept) = visible false (programLines ss)) ↔ ∀ m, Guarded m .initial ss := by
  have hall {ss kept : List Statement} (h : LeavesOut Statement.IsComment ss kept) (hguarded : ∀ m, Guarded m .initial ss) :
      visible false (programLines kept) = (programLines kept).filter (!isRemark ·) := by
    rw [visible_eq_filter_iff, isChain_programLines]
    exact ⟨by simp, fun m => (inert_iff_guarded (isRemark_lineBehind m) m _ ss).mpr (hguarded m) kept h⟩
  constructor
  · intro h m
    rw [← inert_iff_guarded (isRemark_lineBehind m)]
    intro kept hkept
    -- without any comments nothing is hidden, so nothing is hidden with some of them
    have hseen : visible false (programLines kept) = (programLines kept).filter (!isRemark ·) := calc
      visible false (programLines kept) = visible false (programLines ss) := h kept hkept
      _ = visible false (programLines (codeOf ss)) := (h _ (.codeOf ss)).symm
      _ = (programLines (codeOf ss)).filter (!isRemark ·) := hall (.refl _) fun m => guarded_codeOf m _ ss
      _ = (programLines ss).filter (!isRemark ·) := filter_programLines (.codeOf ss)
      _ = (programLines kept).filter (!isRemark ·) := (filter_programLines hkept).symm
    rw [visible_eq_filter_iff, isChain_programLines] at hseen
    exact hseen.2 m
  · intro h kept hkept
    rw [hall hkept h, hall (.refl ss) h, filter_programLines hkept]

/-! ## Sources -/

theorem effective_eq_iff (s t : Text) :
    effective (transpile s) = effective (transpile t) ↔
      visible false (programLines ((statements s).map Numbered.statement)) =
        visible false (programLines ((statements t).map Numbered.statement)) := by
  have hback (source : Text) : lines (effective (transpile source)) =
      visible false (programLines ((statements source).map Numbered.statement)) := by
    rw [effective_transpile]
    refine splitOn_joinWith (fun line hline => ?_) ?_
    · have hmem := mem_of_mem_visible hline
      rw [← lines_transpile] at hmem
      exact not_mem_of_mem_splitOn hmem
    · obtain ⟨front, hfront⟩ := exists_programLines_eq ((statements source).map Numbered.statement)
      obtain ⟨behind, hvisible⟩ := exists_visible_append false front ["\x7d".toList, []]
      rw [hfront, hvisible]
      cases behind <;> simp [visible, isContinued, isRemark]
  constructor
  · intro h
    rw [← hback, ← hback, h]
  · intro h
    rw [effective_transpile, effective_transpile, h]

theorem statements_joinWith {source : Text} {kept : List Text} (h : LeavesOut IsCommentLine (lines source) kept) :
    (statements (joinWith "\n".toList kept)).map Numbered.statement = kept.filterMap lineStatement? := by
  rw [statements, map_statement_statementsFrom]
  cases kept with
  | nil => rfl
  | cons line rest =>
      have hnewline : ∀ l ∈ line :: rest, '\n' ∉ l := fun l hl => not_mem_of_mem_splitOn (h.subset hl)
      have hlines : lines (joinWith "\n".toList (line :: rest)) = line :: rest := splitOn_joinWith hnewline (by simp)
      rw [hlines]

/-- Leaving out comments makes no difference exactly if every comment that ends with a backslash has a remark as the next line
of code in its buffer. -/
theorem comments_inert_iff (source : Text) :
    (∀ kept, LeavesOut IsCommentLine (lines source) kept →
      effective (transpile (joinWith "\n".toList kept)) = effective (transpile source)) ↔
    ∀ before text after, (statements source).map Numbered.statement = before ++ .comment text :: after →
      text.getLast? = some '\\' →
      ∃ line, (addedAll (Standing.initial.afterAll before).mode (Standing.initial.afterAll before) (codeOf after)).head? =
        some line ∧ isRemark line = true := by
  have hsource : (statements source).map Numbered.statement = (lines source).filterMap lineStatement? :=
    map_statement_statementsFrom 1 (lines source)
  have hkept : (∀ kept, LeavesOut IsCommentLine (lines source) kept →
      effective (transpile (joinWith "\n".toList kept)) = effective (transpile source)) ↔
      ∀ m, Guarded m .initial ((statements source).map Numbered.statement) := by
    rw [← visible_programLines_iff]
    constructor
    · intro h kept hleaves
      rw [hsource] at hleaves
      obtain ⟨ms, hms, rfl⟩ := hleaves.exists_lines
      rw [← statements_joinWith hms]
      exact (effective_eq_iff _ _).mp (h ms hms)
    · intro h kept hleaves
      rw [effective_eq_iff, statements_joinWith hleaves]
      exact h _ (hsource ▸ hleaves.filterMap)
  rw [hkept]
  constructor
  · intro h before text after hss hlast
    exact h _ before text after hss (beq_iff_eq.mpr hlast) rfl
  · rintro h m before text after hss hlast rfl
    exact h before text after hss (eq_of_beq hlast)

/-- A comment that ends with a backslash hides the line below. -/
theorem comment_hides_line :
    LeavesOut IsCommentLine (lines "-- a\\\nbreak".toList) ["break".toList] ∧
      effective (transpile "break".toList) ≠ effective (transpile "-- a\\\nbreak".toList) := by
  refine ⟨.drop ⟨_, rfl, "a\\".toList, by decide⟩ (.keep _ .nil), by decide +kernel⟩

end FlowLang

import FlowLang.Editor.Outline
import FlowLang.Proofs.Cpp.Scope
import FlowLang.Proofs.Statement.Lines

/-!
# Outlines follow the generator

An outline counts open blocks by a number, the generator by the stack of its scope. On every program, balanced or not,
the two agree on whether a function is in progress and how deep it is (`Follows`). So the symbols of a document are the
functions that are generated, and each of them ends where the generator leaves it.
-/

namespace FlowLang.Editor

open Text Cpp

variable {all : List Text} {o : Outline} {s : Scope} {n : Numbered}

/-! ## One statement -/

namespace Outline

theorem symbols_close (all : List Text) (o : Outline) (last : Int) :
    (o.close all last).symbols = o.symbols ++ o.current.toList.map (·.symbol all last) := by
  unfold close
  split <;> rename_i h <;> simp [h]

theorem step_of_defines (all : List Text) (o : Outline) {signature : Signature} (h : n.statement.effect = .defines signature) :
    o.step all n = { o.close all (n.line - 1) with current := some ⟨n.line, signature⟩, depth := 1 } := by
  unfold step
  rw [Statement.eq_define_of_effect h]

theorem step_of_closes (all : List Text) (o : Outline) (h : n.statement.effect = .closes) :
    o.step all n = if o.current.isSome then
      if o.depth ≤ 1 then o.close all n.line else { o with depth := o.depth - 1 } else o := by
  unfold step
  rw [Statement.eq_blockEnd_of_effect h]

theorem step_of_opens (all : List Text) (o : Outline) {kind : BlockKind} (h : n.statement.effect = .opens kind) :
    o.step all n = if o.current.isSome then { o with depth := o.depth + 1 } else o := by
  unfold step
  cases hn : n.statement <;> rw [hn] at h <;> cases h <;> simp [Statement.opensBlock]

theorem step_of_alternates (all : List Text) (o : Outline) (h : n.statement.effect = .alternates) : o.step all n = o := by
  unfold step
  rw [Statement.eq_elseBranch_of_effect h]
  simp [Statement.opensBlock]

theorem step_of_stays (all : List Text) (o : Outline) (h : n.statement.effect = .stays) : o.step all n = o := by
  unfold step
  cases hn : n.statement <;> simp_all [Statement.effect, Statement.opensBlock]

end Outline

/-! ## The two block counts -/

/-- The outline has a definition open exactly while the scope is in a function, and then both count the same blocks. -/
structure Follows (o : Outline) (s : Scope) : Prop where
  open_iff : o.current.isSome = true ↔ s.mode = .function
  depth_eq : o.current.isSome = true → o.depth = s.depth

theorem follows_initial : Follows Outline.initial Scope.initial :=
  ⟨by decide, by decide⟩

/-- An `else` closes one block and opens one. This keeps the count because a function in progress has an open block. -/
theorem Follows.step (h : Follows o s) (hs : s.FunctionOpen) (all : List Text) (n : Numbered) :
    Follows (o.step all n) (s.place n) := by
  cases he : n.statement.effect with
  | stays =>
      rw [Outline.step_of_stays all o he, Scope.place_of_stays he]
      exact ⟨by simpa using h.open_iff, by simpa using h.depth_eq⟩
  | opens kind =>
      rw [Outline.step_of_opens all o he, Scope.place_of_opens he]
      by_cases hc : o.current.isSome = true
      · rw [if_pos hc]
        exact ⟨by simpa using h.open_iff, fun _ => by simpa using h.depth_eq hc⟩
      · rw [if_neg hc]
        exact ⟨by simpa using h.open_iff, fun h' => absurd h' hc⟩
  | alternates =>
      rw [Outline.step_of_alternates all o he, Scope.place_of_alternates he]
      refine ⟨by simpa using h.open_iff, fun hc => ?_⟩
      have hopen := hs.depth_pos (h.open_iff.mp hc)
      rw [h.depth_eq hc]
      simp only [Scope.depth_openBlock, Scope.depth_write, Scope.depth_closeBlock]
      omega
  | closes =>
      rw [Outline.step_of_closes all o he]
      by_cases hc : o.current.isSome = true
      · rw [if_pos hc, h.depth_eq hc]
        by_cases hd : s.depth ≤ 1
        · obtain ⟨d, hcur⟩ := Option.isSome_iff_exists.mp hc
          have hm : (s.place n).mode = .main := by rw [Scope.mode_place_of_closes he, if_pos hd]
          rw [if_pos hd]
          exact ⟨by simp [Outline.close, hcur, hm], by simp [Outline.close, hcur]⟩
        · have hm : (s.place n).mode = s.mode := by rw [Scope.mode_place_of_closes he, if_neg hd]
          rw [if_neg hd]
          exact ⟨by rw [hm]; exact h.open_iff, fun _ => (Scope.depth_place_of_closes he).symm⟩
      · have hm : (s.place n).mode ≠ .function := by
          rw [Scope.mode_place_of_closes he]
          split
          · exact fun h' => by cases h'
          · exact fun h' => hc (h.open_iff.mpr h')
        rw [if_neg hc]
        exact ⟨⟨fun h' => absurd h' hc, fun h' => absurd h' hm⟩, fun h' => absurd h' hc⟩
  | defines signature =>
      rw [Outline.step_of_defines all o he, Scope.place_of_defines he]
      exact ⟨by simp, by simp⟩

theorem Follows.run (h : Follows o s) (hs : s.FunctionOpen) (all : List Text) (ns : List Numbered) :
    Follows (o.run all ns) (s.placeAll ns) := by
  induction ns generalizing o s with
  | nil => exact h
  | cons n ns ih => exact ih (h.step hs all n) (hs.place n)

/-! ## Where a function ends -/

/-- The line on which the function in progress ends, among statements that are still to come: the line of the statement
that takes the scope back to the main program, the line before a further definition, or the last line of the document. -/
def functionEnd (total : Int) (s : Scope) : List Numbered → Int
  | [] => total
  | n :: ns =>
    if n.statement.isDefine then n.line - 1
    else if (s.place n).mode = .main then n.line
    else functionEnd total (s.place n) ns

theorem functionEnd_bounds {first total : Int} {ns : List Numbered} (hfirst : first ≤ total)
    (hns : ∀ n ∈ ns, first < n.line ∧ n.line ≤ total) (s : Scope) :
    first ≤ functionEnd total s ns ∧ functionEnd total s ns ≤ total := by
  induction ns generalizing s with
  | nil => exact ⟨hfirst, Int.le_refl _⟩
  | cons n ns ih =>
      have hn := hns n (List.mem_cons_self)
      have hrest := ih (fun m hm => hns m (List.mem_cons_of_mem _ hm)) (s.place n)
      unfold functionEnd
      split
      · omega
      · split
        · omega
        · exact hrest

/-- The symbols of the definitions among statements that a scope is still to take. -/
def definedSymbols (all : List Text) (s : Scope) : List Numbered → List Symbol
  | [] => []
  | n :: ns =>
    let rest := definedSymbols all (s.place n) ns
    match n.statement.signature? with
    | some signature =>
      Definition.symbol all ⟨n.line, signature⟩ (functionEnd all.length (s.place n) ns) :: rest
    | none => rest

theorem definedSymbols_cons_of_not_define {ns : List Numbered} (h : ∀ signature, n.statement.effect ≠ .defines signature) :
    definedSymbols all s (n :: ns) = definedSymbols all (s.place n) ns := by
  simp [definedSymbols, Statement.signature?_of_effect h]

theorem functionEnd_cons_of_not_define {total : Int} {ns : List Numbered}
    (h : ∀ signature, n.statement.effect ≠ .defines signature) :
    functionEnd total s (n :: ns) =
      if (s.place n).mode = .main then n.line else functionEnd total (s.place n) ns := by
  simp [functionEnd, Statement.isDefine, Statement.signature?_of_effect h]

/-- All symbols of a document as they can be told in its middle: those found so far, that of the definition which is open,
and those of the definitions still to come. -/
def foreseen (all : List Text) (o : Outline) (s : Scope) (ns : List Numbered) : List Symbol :=
  o.symbols ++ o.current.toList.map (·.symbol all (functionEnd all.length s ns)) ++ definedSymbols all s ns

/-- While a statement leaves the open definition open, what is foreseen stays the same. -/
theorem Follows.foreseen_eq {o' : Outline} {ns : List Numbered} (h : Follows o' (s.place n))
    (he : ∀ signature, n.statement.effect ≠ .defines signature)
    (hcurrent : o'.current = o.current) (hsymbols : o'.symbols = o.symbols) :
    foreseen all o' (s.place n) ns = foreseen all o s (n :: ns) := by
  unfold foreseen
  rw [hsymbols, hcurrent, definedSymbols_cons_of_not_define he, functionEnd_cons_of_not_define he]
  cases hcur : o.current with
  | none => rfl
  | some d =>
      have hm : (s.place n).mode = .function := h.open_iff.mp (by rw [hcurrent, hcur]; rfl)
      rw [if_neg (by rw [hm]; exact fun h' => by cases h')]

theorem Follows.foreseen_step (h : Follows o s) (hs : s.FunctionOpen) (n : Numbered) (ns : List Numbered) :
    foreseen all (o.step all n) (s.place n) ns = foreseen all o s (n :: ns) := by
  have hnext := h.step hs all n
  cases he : n.statement.effect with
  | stays =>
      have hstep := Outline.step_of_stays all o he
      exact hnext.foreseen_eq (by simp [he]) (by rw [hstep]) (by rw [hstep])
  | alternates =>
      have hstep := Outline.step_of_alternates all o he
      exact hnext.foreseen_eq (by simp [he]) (by rw [hstep]) (by rw [hstep])
  | opens kind =>
      have hstep := Outline.step_of_opens all o he
      refine hnext.foreseen_eq (by simp [he]) ?_ ?_ <;> rw [hstep] <;> split <;> rfl
  | closes =>
      have hstep := Outline.step_of_closes all o he
      by_cases hc : o.current.isSome = true
      · rw [if_pos hc] at hstep
        by_cases hd : o.depth ≤ 1
        · -- the block that is closed is the function itself
          have hm : (s.place n).mode = .main := by
            rw [Scope.mode_place_of_closes he, if_pos (h.depth_eq hc ▸ hd)]
          obtain ⟨d, hcur⟩ := Option.isSome_iff_exists.mp hc
          rw [hstep, if_pos hd]
          unfold foreseen
          rw [definedSymbols_cons_of_not_define (by simp [he]), functionEnd_cons_of_not_define (by simp [he]), if_pos hm]
          simp [Outline.close, hcur]
        · rw [if_neg hd] at hstep
          exact hnext.foreseen_eq (by simp [he]) (by rw [hstep]) (by rw [hstep])
      · rw [if_neg hc] at hstep
        exact hnext.foreseen_eq (by simp [he]) (by rw [hstep]) (by rw [hstep])
  | defines signature =>
      have hn := Statement.eq_define_of_effect he
      rw [Outline.step_of_defines all o he]
      simp [foreseen, Outline.symbols_close, definedSymbols, functionEnd, Statement.isDefine, hn, Statement.signature?]

theorem Follows.symbols_run (h : Follows o s) (all : List Text) (hs : s.FunctionOpen) (ns : List Numbered) :
    ((o.run all ns).close all all.length).symbols = foreseen all o s ns := by
  induction ns generalizing o s with
  | nil => simp [Outline.run, Outline.symbols_close, foreseen, functionEnd, definedSymbols]
  | cons n ns ih =>
      rw [← h.foreseen_step hs n ns]
      exact ih (h.step hs all n) (hs.place n)

theorem symbols_eq_definedSymbols (source : Text) :
    symbols source = definedSymbols (lines source) Scope.initial (statements source) := by
  have h := follows_initial.symbols_run (lines source) Scope.functionOpen_initial (statements source)
  simpa [symbols, foreseen, Outline.initial] using h

/-! ## The symbols in order -/

theorem definedSymbols_append (all : List Text) (s : Scope) (before rest : List Numbered) :
    ∃ above : List Symbol, above.length = before.countP (·.statement.isDefine) ∧
      definedSymbols all s (before ++ rest) = above ++ definedSymbols all (s.placeAll before) rest := by
  induction before generalizing s with
  | nil => exact ⟨[], rfl, rfl⟩
  | cons n before ih =>
      obtain ⟨above, hlen, happ⟩ := ih (s.place n)
      cases hn : n.statement.signature? with
      | none => exact ⟨above, by simp [Statement.isDefine, hn, hlen], by simp [definedSymbols, hn, happ]⟩
      | some signature =>
          refine ⟨Definition.symbol all ⟨n.line, signature⟩
            (functionEnd all.length (s.place n) (before ++ rest)) :: above, ?_, ?_⟩
          · simp [Statement.isDefine, hn, hlen]
          · simp [definedSymbols, hn, happ]

theorem length_definedSymbols (all : List Text) (s : Scope) (ns : List Numbered) :
    (definedSymbols all s ns).length = ns.countP (·.statement.isDefine) := by
  obtain ⟨above, hlen, happ⟩ := definedSymbols_append all s ns []
  rw [List.append_nil] at happ
  simpa [happ, definedSymbols] using hlen

theorem getElem?_symbols {source : Text} {before after : List Numbered} {signature : Signature}
    (hsplit : statements source = before ++ n :: after) (hn : n.statement = .define signature) :
    (symbols source)[before.countP (·.statement.isDefine)]? =
      some (Definition.symbol (lines source) ⟨n.line, signature⟩
        (functionEnd (lines source).length ((Scope.initial.placeAll before).place n) after)) := by
  obtain ⟨above, hlen, happ⟩ := definedSymbols_append (lines source) Scope.initial before (n :: after)
  rw [symbols_eq_definedSymbols, hsplit, happ, ← hlen, List.getElem?_append_right (Nat.le_refl _)]
  simp [definedSymbols, hn, Statement.signature?]

/-! ## Header lines -/

/-- The line declares a function. -/
def isHeaderLine (line : Text) : Bool :=
  "auto ".toList.isPrefixOf line

theorem isHeaderLine_declaration (signature : Signature) (t : Text) : isHeaderLine (signature.declaration ++ t) = true := by
  unfold isHeaderLine Signature.declaration
  rw [List.isPrefixOf_iff_prefix, List.append_assoc, List.append_assoc, List.append_assoc, List.append_assoc]
  exact List.prefix_append _ _

theorem isHeaderLine_indented {level : Nat} (h : level ≠ 0) (t : Text) : isHeaderLine (Scope.indented level t) = false := by
  obtain ⟨k, rfl⟩ := Nat.exists_eq_succ_of_ne_zero h
  simp [isHeaderLine, Scope.indented, Nat.mul_succ, List.replicate_succ, List.isPrefixOf]

theorem isHeaderLine_indented_brace (level : Nat) (t : Text) :
    isHeaderLine (Scope.indented level ('\x7d' :: t)) = false := by
  by_cases h : level = 0
  · subst h
    simp [isHeaderLine, Scope.indented, List.isPrefixOf]
  · exact isHeaderLine_indented h _

/-- Apart from declarations, a function's lines are indented, closing braces, or blank. -/
theorem headerLines_place (hs : s.FunctionOpen) (n : Numbered) :
    (s.place n).functionLines.filter isHeaderLine =
      s.functionLines.filter isHeaderLine ++
        (n.statement.signature?.map (·.declaration ++ " \x7b".toList)).toList := by
  show ((s.place n).buffer .function).filter isHeaderLine = (s.buffer .function).filter isHeaderLine ++ _
  have hindent (ls : List Text) : ((s.write (ls.map (Scope.indented s.depth))).buffer .function).filter isHeaderLine =
      (s.buffer .function).filter isHeaderLine := by
    rw [Scope.buffer_write, List.filter_append]
    split
    · rename_i hm
      have hd : s.depth ≠ 0 := Nat.ne_of_gt (hs.depth_pos hm.symm)
      simp [isHeaderLine_indented hd]
    · simp
  cases he : n.statement.effect with
  | stays =>
      rw [Scope.place_of_stays he, hindent, Statement.signature?_of_effect (by simp [he])]
      simp
  | opens kind =>
      rw [Scope.place_of_opens he, Scope.buffer_openBlock, hindent, Statement.signature?_of_effect (by simp [he])]
      simp
  | alternates =>
      rw [Scope.place_of_alternates he, Scope.buffer_openBlock, Scope.buffer_write,
        Statement.signature?_of_effect (by simp [he])]
      have hbrace := isHeaderLine_indented_brace (s.depth - 1) " else \x7b".toList
      split <;> simp_all
  | closes =>
      rw [Scope.place_of_closes he, Scope.buffer_leaveFunction, Scope.buffer_write,
        Statement.signature?_of_effect (by simp [he])]
      have hbrace := isHeaderLine_indented_brace (s.depth - 1) []
      have hblank : isHeaderLine [] = false := rfl
      split <;> split <;> simp_all
  | defines signature =>
      rw [Scope.place_of_defines he, Statement.eq_define_of_effect he]
      simp [Scope.buffer_write, Statement.signature?, isHeaderLine_declaration]

theorem headerLines_placeAll (hs : s.FunctionOpen) (ns : List Numbered) :
    (s.placeAll ns).functionLines.filter isHeaderLine =
      s.functionLines.filter isHeaderLine ++
        (ns.filterMap (·.statement.signature?)).map (·.declaration ++ " \x7b".toList) := by
  induction ns generalizing s with
  | nil => simp
  | cons n ns ih =>
      rw [Scope.placeAll_cons, ih (hs.place n), headerLines_place hs n]
      cases hn : n.statement.signature? <;> simp [hn]

theorem headerLines_definedSymbols (all : List Text) (s : Scope) (ns : List Numbered) :
    (definedSymbols all s ns).map (·.detail ++ " \x7b".toList) =
      (ns.filterMap (·.statement.signature?)).map (·.declaration ++ " \x7b".toList) := by
  induction ns generalizing s with
  | nil => rfl
  | cons n ns ih => cases hn : n.statement.signature? <;> simpa [definedSymbols, hn, Definition.symbol] using ih (s.place n)

/-! ## The outline of a document -/

/-- The range of a symbol ends on the line that it was given. -/
theorem Definition.stop_symbol {d : Definition} {last : Int} (h : 1 ≤ last) (h' : last ≤ all.length) :
    ((d.symbol all last).range.stop.line : Int) + 1 = last := by
  show (((min last all.length - 1).toNat : Nat) : Int) + 1 = last
  omega

/-- On every document the outline keeps step with the generator: at each statement it has a definition open exactly when
the generator is in a function, at the same depth. So there is one symbol for each definition, in order, with the header
line that the generator writes, and it ends where the generator leaves the function. -/
theorem symbols_follow_generator (source : Text) :
    (∀ ns, ns <+: statements source →
      ((Outline.initial.run (lines source) ns).current.isSome = true ↔
        (Generator.initial.run ns).scope.mode = .function) ∧
      ((Outline.initial.run (lines source) ns).current.isSome = true →
        (Outline.initial.run (lines source) ns).depth = (Generator.initial.run ns).scope.depth)) ∧
    (symbols source).length = (statements source).countP (·.statement.isDefine) ∧
    (symbols source).map (·.detail ++ " \x7b".toList) =
      (Generator.initial.run (statements source)).scope.functionLines.filter isHeaderLine ∧
    ∀ before n signature after, statements source = before ++ n :: after → n.statement = .define signature →
      ∃ symbol, (symbols source)[before.countP (·.statement.isDefine)]? = some symbol ∧
        symbol.name = signature.name ∧
        symbol.range.start = ⟨(n.line - 1).toNat, 0⟩ ∧
        (Generator.initial.run (before ++ [n])).scope.functionLines =
          (Generator.initial.run before).scope.functionLines ++ [symbol.detail ++ " \x7b".toList] ∧
        (symbol.range.stop.line : Int) + 1 =
          functionEnd (lines source).length (Generator.initial.run (before ++ [n])).scope after := by
  have hopen := Scope.functionOpen_initial
  refine ⟨?_, ?_, ?_, ?_⟩
  · intro ns _
    rw [Generator.scope_run]
    have h := follows_initial.run hopen (lines source) ns
    exact ⟨h.open_iff, h.depth_eq⟩
  · rw [symbols_eq_definedSymbols, length_definedSymbols]
  · rw [symbols_eq_definedSymbols, headerLines_definedSymbols, Generator.scope_run]
    exact (headerLines_placeAll hopen (statements source)).symm
  · intro before n signature after hsplit hn
    have he : n.statement.effect = .defines signature := by rw [hn]; rfl
    have hline : 1 ≤ n.line ∧ n.line ≤ (lines source).length :=
      line_bounds_of_mem_statements (by rw [hsplit]; simp)
    have hend := functionEnd_bounds hline.2 (line_bounds_of_split hsplit) ((Scope.initial.placeAll before).place n)
    simp only [Generator.scope_run, Scope.placeAll_append, Scope.placeAll_cons, Scope.placeAll_nil]
    refine ⟨_, getElem?_symbols hsplit hn, rfl, rfl, ?_, ?_⟩
    · rw [Scope.place_of_defines he]
      show (Scope.buffer (Scope.openBlock _ _ _) .function) = _
      rw [Scope.buffer_openBlock, Scope.buffer_write]
      rfl
    · exact Definition.stop_symbol (by omega) hend.2

/-- A function whose `else` has no `if`, abandoned by the next definition, ends on the line before that one. -/
theorem symbols_follow_generator_abandoned :
    ∃ symbol, (symbols "define f(a)\nelse\n\ndefine g()\nend".toList)[0]? = some symbol ∧
      symbol.name = "f".toList ∧ (symbol.range.stop.line : Int) + 1 = 3 := by
  obtain ⟨symbol, hget, hname, _, _, hstop⟩ :=
    (symbols_follow_generator "define f(a)\nelse\n\ndefine g()\nend".toList).2.2.2 []
      ⟨1, .define ⟨"f".toList, ["a".toList]⟩⟩ ⟨"f".toList, ["a".toList]⟩
      [⟨2, .elseBranch⟩, ⟨4, .define ⟨"g".toList, []⟩⟩, ⟨5, .blockEnd⟩] (by decide) rfl
  exact ⟨symbol, hget, hname, hstop.trans (by decide)⟩

end FlowLang.Editor

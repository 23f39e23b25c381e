import FlowLang.Proofs.Editor.Outline
import FlowLang.Proofs.Statement.Signatures
import FlowLang.Proofs.Text.Occurrence
import Mathlib.Data.List.Forall2

/-!
# Where symbols stand

The name of a symbol is searched for on the line of its definition, behind the word `define`. Only blanks stand between the
two, and a name does not start with a blank, so the search finds the name itself and no other place with the same text. A
symbol ends before the next one starts, since no function runs past a further definition.
-/

namespace FlowLang.Editor

open Text

/-! ## The column of a name -/

/-- Behind blanks, the word `define` and more blanks, the name stands on the line at the column. It does not start with a
blank: the column is the first one behind the word that has none, unless the name is empty. -/
def NameAt (raw name : Text) (column : Nat) : Prop :=
  ∃ indent gap rest, raw = indent ++ "define".toList ++ gap ++ name ++ rest ∧
    (∀ c ∈ indent, isBlank c = true) ∧ (∀ c ∈ gap, isBlank c = true) ∧ name.head?.any isBlank = false ∧
    column = (indent ++ "define".toList ++ gap).length

theorem NameAt.take_drop {raw name : Text} {column : Nat} (h : NameAt raw name column) :
    (raw.drop column).take (column + name.length - column) = name := by
  obtain ⟨indent, gap, rest, rfl, _, _, _, rfl⟩ := h
  rw [List.append_assoc _ name rest, List.drop_left, Nat.add_sub_cancel_left, List.take_left]

theorem NameAt.le_length {raw name : Text} {column : Nat} (h : NameAt raw name column) :
    column + name.length ≤ raw.length := by
  obtain ⟨indent, gap, rest, rfl, _, _, _, rfl⟩ := h
  simp only [List.length_append]
  omega

/-- An empty name is found at once, any other one behind all of the blanks. -/
theorem exists_position?_name {gap name : Text} (hgap : ∀ c ∈ gap, isBlank c = true)
    (hname : name.head?.any isBlank = false) (rest : Text) :
    ∃ before behind, (∀ c ∈ before, isBlank c = true) ∧ gap ++ name ++ rest = before ++ name ++ behind ∧
      position? name (gap ++ name ++ rest) = some before.length := by
  cases name with
  | nil =>
      refine ⟨[], gap ++ rest, List.forall_mem_nil _, by simp, ?_⟩
      rw [List.append_nil, position?]
      cases gap ++ rest <;> rfl
  | cons d ds =>
      have hd : d ∉ gap := not_mem_of_blank hname hgap
      refine ⟨gap, rest, hgap, rfl, ?_⟩
      rw [position?, cut?_append_of_not_mem ds hd rest]
      rfl

theorem nameAt_nameColumn {indent gap name rest : Text} (hindent : ∀ c ∈ indent, isBlank c = true)
    (hgap : ∀ c ∈ gap, isBlank c = true) (hname : name.head?.any isBlank = false) {raw : Text}
    (hraw : raw = indent ++ "define".toList ++ (gap ++ name ++ rest)) :
    NameAt raw name (Definition.nameColumn raw name) := by
  obtain ⟨before, behind, hbefore, hsplit, hposition⟩ := exists_position?_name hgap hname rest
  have hword : position? "define".toList raw = some indent.length := by
    have hd : 'd' ∉ indent := not_mem_of_blank (by decide) hindent
    rw [hraw]
    exact congrArg (Option.map _) (cut?_append_of_not_mem "efine".toList hd _)
  have hdrop : raw.drop (indent.length + "define".length) = gap ++ name ++ rest := by
    have hlength : indent.length + "define".length = (indent ++ "define".toList).length := by
      rw [List.length_append]
      rfl
    rw [hraw, hlength, List.drop_left]
  refine ⟨indent, before, behind, by rw [hraw, hsplit]; simp, hindent, hbefore, hname, ?_⟩
  simp only [Definition.nameColumn, hword, hdrop, hposition, List.length_append]
  rfl

/-! ## Symbols of definitions -/

theorem exists_define_of_ofLine {line : Text} {signature : Signature} (h : Statement.ofLine line = .define signature) :
    ∃ text, line = "define ".toList ++ text ∧ Signature.Written text signature := by
  cases Statement.derives_iff.mpr h with
  | structured hform =>
      cases hform with
      | @define text _ hwritten => exact ⟨text, rfl, hwritten⟩

/-- On the line of a definition the name is found where it stands. -/
theorem nameAt_of_ofLine {raw : Text} {signature : Signature} (h : Statement.ofLine (trim raw) = .define signature) :
    NameAt raw signature.name (Definition.nameColumn raw signature.name) := by
  obtain ⟨text, htrim, hwritten⟩ := exists_define_of_ofLine h
  obtain ⟨indent, tail, hindent, _, hraw⟩ := exists_trim raw
  obtain ⟨gap, rest, hgap, htext⟩ := hwritten.exists_name
  have hname : signature.name.head?.any isBlank = false := by
    rw [← hwritten.parse_eq]
    exact (Signature.readable_parse text).name.head
  have hspace : ∀ c ∈ ' ' :: gap, isBlank c = true := List.forall_mem_cons.mpr ⟨by decide, hgap⟩
  have hkeyword : "define ".toList = "define".toList ++ [' '] := rfl
  have hline : raw = indent ++ "define".toList ++ (' ' :: gap ++ signature.name ++ (rest ++ tail)) := by
    rw [hraw, htrim, htext, hkeyword]
    simp only [List.append_assoc, List.cons_append, List.nil_append]
  exact nameAt_nameColumn hindent hspace hname hline

/-- A place before another one, or the same. -/
instance : LE Position where
  le a b := a.line < b.line ∨ a.line = b.line ∧ a.character ≤ b.character

/-- The range lies inside of the other one. -/
def Range.Within (inner outer : Range) : Prop :=
  outer.start ≤ inner.start ∧ inner.stop ≤ outer.stop

/-- A symbol shows a definition in the lines of a document. -/
structure Shows (all : List Text) (n : Numbered) (symbol : Symbol) : Prop where
  named : n.statement.signature?.map Signature.name = some symbol.name
  /-- the range starts with the definition's line -/
  start : symbol.range.start = ⟨(n.line - 1).toNat, 0⟩
  ordered : symbol.range.start.line ≤ symbol.range.stop.line
  /-- and it ends with a line -/
  stop : (all[symbol.range.stop.line]?).map List.length = some symbol.range.stop.character
  selection_start : symbol.selection.start.line = symbol.range.start.line
  selection_stop : symbol.selection.stop.line = symbol.range.start.line
  within : symbol.selection.Within symbol.range
  /-- on the definition's line the selection is the name -/
  selected : ∃ raw, all[symbol.range.start.line]? = some raw ∧
    (raw.drop symbol.selection.start.character).take
        (symbol.selection.stop.character - symbol.selection.start.character) = symbol.name ∧
    NameAt raw symbol.name symbol.selection.start.character

theorem map_length_getElem? {all : List Text} {i : Nat} (h : i < all.length) :
    (all[i]?).map List.length = some (lineAt all i).length := by
  rw [lineAt, List.getElem?_eq_getElem h]
  rfl

theorem shows_symbol {all : List Text} {n : Numbered} {signature : Signature} {raw : Text} {last : Int}
    (hn : n.statement = .define signature) (hraw : all[(n.line - 1).toNat]? = some raw)
    (hline : Statement.ofLine (trim raw) = .define signature) (hfirst : 1 ≤ n.line) (hlast : n.line ≤ last)
    (htotal : last ≤ all.length) : Shows all n (Definition.symbol all ⟨n.line, signature⟩ last) := by
  have hat : lineAt all (n.line - 1).toNat = raw := by rw [lineAt, hraw, Option.getD_some]
  have hname : NameAt raw signature.name
      (Definition.nameColumn (lineAt all (n.line - 1).toNat) signature.name) := hat.symm ▸ nameAt_of_ofLine hline
  have hordered : (n.line - 1).toNat ≤ (min last all.length - 1).toNat := by omega
  refine ⟨by rw [hn]; rfl, rfl, hordered, map_length_getElem? ?_, rfl, rfl, ⟨.inr ⟨rfl, Nat.zero_le _⟩, ?_⟩,
    raw, hraw, hname.take_drop, hname⟩
  · show (min last all.length - 1).toNat < all.length
    omega
  · rcases Nat.lt_or_eq_of_le hordered with hlt | heq
    · exact .inl hlt
    · refine .inr ⟨heq, ?_⟩
      show _ ≤ (lineAt all (min last all.length - 1).toNat).length
      rw [← heq, hat]
      exact hname.le_length

/-! ## All symbols of a document -/

variable {source : Text} {ns : List Numbered}

theorem eq_define_of_signature? {s : Statement} {signature : Signature} (h : s.signature? = some signature) :
    s = .define signature := by
  cases s <;> cases h
  rfl

theorem functionEnd_lt {total : Int} (hsorted : ns.Pairwise (·.line < ·.line)) (s : Cpp.Scope) :
    ∀ m ∈ ns, m.statement.isDefine = true → functionEnd total s ns < m.line := by
  induction ns generalizing s with
  | nil => exact List.forall_mem_nil _
  | cons n ns ih =>
      obtain ⟨hn, hrest⟩ := List.pairwise_cons.mp hsorted
      intro m hm hdefine
      unfold functionEnd
      split
      · rcases List.mem_cons.mp hm with rfl | hm
        · omega
        · have := hn m hm
          omega
      · rename_i hother
        have hm := (List.mem_cons.mp hm).resolve_left (by rintro rfl; exact hother hdefine)
        split
        · exact hn m hm
        · exact ih hrest (s.place n) m hm hdefine

/-- The end of a function that is defined among the statements of a document. -/
theorem functionEnd_mem_bounds {n : Numbered} (hmem : ∀ m ∈ n :: ns, m ∈ statements source)
    (hsorted : (n :: ns).Pairwise (·.line < ·.line)) (s : Cpp.Scope) :
    1 ≤ n.line ∧ n.line ≤ functionEnd (lines source).length s ns ∧
      functionEnd (lines source).length s ns ≤ (lines source).length := by
  have hline := line_bounds_of_mem_statements (hmem n List.mem_cons_self)
  refine ⟨hline.1, functionEnd_bounds hline.2 (fun m hm => ⟨(List.pairwise_cons.mp hsorted).1 m hm, ?_⟩) s⟩
  exact (line_bounds_of_mem_statements (hmem m (List.mem_cons_of_mem n hm))).2

theorem forall₂_definedSymbols (hmem : ∀ n ∈ ns, n ∈ statements source) (hsorted : ns.Pairwise (·.line < ·.line))
    (s : Cpp.Scope) :
    List.Forall₂ (Shows (lines source)) (ns.filter (·.statement.isDefine)) (definedSymbols (lines source) s ns) := by
  induction ns generalizing s with
  | nil => exact .nil
  | cons n ns ih =>
      have hrest := ih (List.forall_mem_cons.mp hmem).2 (List.pairwise_cons.mp hsorted).2 (s.place n)
      cases hsignature : n.statement.signature? with
      | none => simpa [definedSymbols, Statement.isDefine, hsignature] using hrest
      | some signature =>
          have hn := eq_define_of_signature? hsignature
          obtain ⟨hfirst, hlast, htotal⟩ := functionEnd_mem_bounds hmem hsorted (s.place n)
          obtain ⟨i, raw, hraw, _, hi⟩ := exists_line_of_mem_statementsFrom (hmem n List.mem_cons_self)
          have hindex : (n.line - 1).toNat = i := by
            rw [hi]
            show (1 + (i : Int) - 1).toNat = i
            omega
          have hline : Statement.ofLine (trim raw) = .define signature := by rw [← hn, hi]
          rw [List.filter_cons_of_pos (by simp [Statement.isDefine, hsignature])]
          simp only [definedSymbols, hsignature]
          exact .cons (shows_symbol hn (hindex.symm ▸ hraw) hline hfirst hlast htotal) hrest

theorem exists_shows_of_mem {all : List Text} {found : List Symbol} {symbol : Symbol}
    (h : List.Forall₂ (Shows all) ns found) (hmem : symbol ∈ found) : ∃ n ∈ ns, Shows all n symbol := by
  induction h with
  | nil => cases hmem
  | cons hn _ ih =>
      rcases List.mem_cons.mp hmem with rfl | hmem
      · exact ⟨_, List.mem_cons_self, hn⟩
      · obtain ⟨m, hm, hshows⟩ := ih hmem
        exact ⟨m, List.mem_cons_of_mem _ hm, hshows⟩

theorem pairwise_definedSymbols (hmem : ∀ n ∈ ns, n ∈ statements source) (hsorted : ns.Pairwise (·.line < ·.line))
    (s : Cpp.Scope) :
    (definedSymbols (lines source) s ns).Pairwise (fun a b => a.range.stop.line < b.range.start.line) := by
  induction ns generalizing s with
  | nil => exact .nil
  | cons n ns ih =>
      obtain ⟨_, hmemRest⟩ := List.forall_mem_cons.mp hmem
      obtain ⟨_, hrest⟩ := List.pairwise_cons.mp hsorted
      have hpairs := ih hmemRest hrest (s.place n)
      cases hsignature : n.statement.signature? with
      | none => simpa [definedSymbols, hsignature] using hpairs
      | some signature =>
          simp only [definedSymbols, hsignature]
          refine .cons (fun symbol hsymbol => ?_) hpairs
          -- the function ends before any further definition, and with such a one the other symbol starts
          obtain ⟨m, hm, hshows⟩ := exists_shows_of_mem (forall₂_definedSymbols hmemRest hrest (s.place n)) hsymbol
          obtain ⟨hm, hdefine⟩ := List.mem_filter.mp hm
          obtain ⟨hfirst, hlast, htotal⟩ := functionEnd_mem_bounds hmem hsorted (s.place n)
          have hstop := Definition.stop_symbol (d := ⟨n.line, signature⟩) (Int.le_trans hfirst hlast) htotal
          have hbefore : functionEnd (lines source).length (s.place n) ns < m.line :=
            functionEnd_lt hrest (s.place n) m hm hdefine
          have hstart : symbol.range.start.line = (m.line - 1).toNat := congrArg Position.line hshows.start
          omega

/-- There is one symbol for each definition, in order. Its range goes from the start of the definition's line to the end of a
line, its selection is the name on the definition's line, and it ends on a line before the next one starts. -/
theorem symbols_show_definitions (source : Text) :
    List.Forall₂ (Shows (lines source)) ((statements source).filter (·.statement.isDefine)) (symbols source) ∧
      (symbols source).Pairwise (fun a b => a.range.stop.line < b.range.start.line) := by
  rw [symbols_eq_definedSymbols]
  exact ⟨forall₂_definedSymbols (fun _ h => h) (pairwise_line_statements source) _,
    pairwise_definedSymbols (fun _ h => h) (pairwise_line_statements source) _⟩

/-- A name that is a part of the word before it and stands among its own parameters. -/
example : (symbols "\t define  fine (a, fine)\n\ndefine (".toList).map (fun s => (s.selection, s.range.stop)) =
    [(.onLine 0 10 14, ⟨1, 0⟩), (.onLine 2 6 6, ⟨2, 8⟩)] := by
  decide

end FlowLang.Editor

import FlowLang.Proofs.Cpp.Sections
import FlowLang.Proofs.Text.Occurrence

/-!
# Headers and the names that need them

A header is listed exactly when a name of it stands in the generated code, as long as the program itself does not write
`std::`. The words around a text never complete such a name together with it, and neither do trimming and the spelling of
operators.
-/

namespace FlowLang

open Text Cpp

namespace Cpp

/-- One of the headers. -/
inductive Header where
  | iostream
  | string
  | cmath
  deriving DecidableEq, Repr

namespace Header

/-- The line that asks for a header. -/
def line : Header → Text
  | .iostream => "#include <iostream>".toList
  | .string => "#include <string>".toList
  | .cmath => "#include <cmath>".toList

/-- The name for which code needs a header. -/
def mark : Header → Text
  | .iostream => "std::cout".toList
  | .string => "std::string(".toList
  | .cmath => "std::pow(".toList

end Header

/-- How every such name starts. -/
def qualifier : Text := "std::".toList

variable {x : Header} {t : Text}

namespace Headers

def has (h : Headers) : Header → Bool
  | .iostream => h.iostream
  | .string => h.string
  | .cmath => h.cmath

@[simp] theorem has_none (x : Header) : none.has x = false := by
  cases x <;> rfl

@[simp] theorem has_union (h k : Headers) (x : Header) : (h.union k).has x = (h.has x || k.has x) := by
  cases x <;> rfl

theorem mem_lines_iff {h : Headers} : x.line ∈ h.lines ↔ h.has x = true := by
  obtain ⟨iostream, string, cmath⟩ := h
  cases x <;> cases iostream <;> cases string <;> cases cmath <;> decide

theorem lines_sublist_all (h : Headers) : h.lines.Sublist all.lines := by
  obtain ⟨iostream, string, cmath⟩ := h
  cases iostream <;> cases string <;> cases cmath <;> decide

end Headers

/-! ## Expressions -/

theorem occurs_mark_eq_false (x : Header) (h : occurs qualifier t = false) : occurs x.mark t = false := by
  have hstart : qualifier <+: x.mark := by cases x <;> exact ⟨_, rfl⟩
  rw [Bool.eq_false_iff, ne_eq, occurs_iff] at h ⊢
  exact fun hmark => h (hstart.isInfix.trans hmark)

theorem occurs_qualifier_of_isInfix {u : Text} (hu : u <:+: t) (h : occurs qualifier t = false) :
    occurs qualifier u = false := by
  rw [Bool.eq_false_iff, ne_eq, occurs_iff] at h ⊢
  exact fun hq => h (hq.trans hu)

theorem occurs_qualifier_replaceAll {old new : Text} (hne : new ≠ []) (hnew : isForeign qualifier new = true)
    (h : occurs qualifier t = false) : occurs qualifier (replaceAll old new t) = false := by
  rw [Bool.eq_false_iff, ne_eq, occurs_iff] at h ⊢
  exact fun hq => h (isInfix_of_isInfix_replaceAll hne (by decide) hnew hq)

theorem occurs_qualifier_spellOperators (h : occurs qualifier t = false) : occurs qualifier (spellOperators t) = false := by
  unfold spellOperators
  apply occurs_qualifier_replaceAll (by decide) (by decide)
  apply occurs_qualifier_replaceAll (by decide) (by decide)
  exact occurs_qualifier_replaceAll (by decide) (by decide) h

theorem occurs_mark_quoted (x : Header) (h : occurs qualifier t = false) :
    occurs x.mark ("std::string(".toList ++ t ++ ")".toList) = { string := true : Headers }.has x := by
  rw [occurs_around (by cases x <;> rfl) (by cases x <;> rfl), occurs_mark_eq_false x h]
  cases x <;> decide +kernel

theorem occurs_mark_power (x : Header) (base exponent : Code) :
    occurs x.mark (power base exponent).text =
      ({ cmath := true : Headers }.has x || (occurs x.mark base.text || occurs x.mark exponent.text)) := by
  have hopen : occurs x.mark "std::pow(".toList = { cmath := true : Headers }.has x := by cases x <;> decide +kernel
  have hcomma : occurs x.mark ", ".toList = false := by cases x <;> decide +kernel
  have hclose : occurs x.mark ")".toList = false := by cases x <;> decide +kernel
  have hends : endsApart x.mark ("std::pow(".toList ++ base.text ++ ", ".toList) = true :=
    endsApart_of_isForeign (by decide) (by cases x <;> decide +kernel) _
  unfold power
  rw [occurs_around hends (by cases x <;> rfl), occurs_around (by cases x <;> rfl) (by cases x <;> rfl), hopen, hcomma,
    hclose]
  simp [Bool.or_assoc]

theorem has_headers_power (x : Header) (base exponent : Code) :
    (power base exponent).headers.has x =
      ({ cmath := true : Headers }.has x || (base.headers.has x || exponent.headers.has x)) := by
  cases x <;> rfl

theorem occurs_mark_translateTrimmed (x : Header) (h : occurs qualifier t = false) :
    occurs x.mark (translateTrimmed t).text = (translateTrimmed t).headers.has x := by
  fun_induction translateTrimmed t with
  | case1 =>
      show occurs x.mark phiLiteral = Headers.none.has x
      cases x <;> decide +kernel
  | case2 t _ _ => exact occurs_mark_quoted x h
  | case3 => rw [occurs_mark_eq_false x h, Headers.has_none]
  | case4 => rw [occurs_mark_eq_false x h, Headers.has_none]
  | case5 t _ _ _ _ base exponent hcut ihBase ihExponent =>
      have hbase : trim base <:+: t := by
        rw [eq_of_cut? hcut, List.append_assoc]
        exact (isInfix_trim base).trans List.infix_append_left
      have hexponent : trim exponent <:+: t := by
        rw [eq_of_cut? hcut]
        exact (isInfix_trim exponent).trans List.infix_append_right
      have ihBase := ihBase (occurs_qualifier_of_isInfix hbase h)
      have ihExponent := ihExponent (occurs_qualifier_of_isInfix hexponent h)
      rw [occurs_mark_power, ihBase, ihExponent, has_headers_power]
  | case6 t _ _ _ _ _ => rw [occurs_mark_eq_false x (occurs_qualifier_spellOperators h), Headers.has_none]

theorem occurs_mark_translate (x : Header) (h : occurs qualifier t = false) :
    occurs x.mark (translate t).text = (translate t).headers.has x :=
  occurs_mark_translateTrimmed x (occurs_qualifier_of_isInfix (isInfix_trim t) h)

/-! ## Statements -/

theorem occurs_qualifier_declaration {signature : Signature} (hname : occurs qualifier signature.name = false)
    (hparams : ∀ p ∈ signature.params, occurs qualifier p = false) : occurs qualifier signature.declaration = false := by
  have hauto (t : Text) (ht : occurs qualifier t = false) : occurs qualifier ("auto ".toList ++ t) = false := by
    rw [occurs_append (Or.inl (by decide)), ht]
    rfl
  have hjoin : occurs qualifier (joinWith ", ".toList (signature.params.map ("auto ".toList ++ ·))) = false := by
    rw [Bool.eq_false_iff, ne_eq, occurs_iff, isInfix_joinWith_iff (by decide) (by decide) (by decide)]
    rintro ⟨l, hl, hq⟩
    obtain ⟨p, hp, rfl⟩ := List.mem_map.mp hl
    rw [← occurs_iff, hauto p (hparams p hp)] at hq
    cases hq
  have hopen : endsApart qualifier ("auto ".toList ++ signature.name ++ "(".toList) = true :=
    endsApart_of_isForeign (by decide) (by decide) _
  unfold Signature.declaration
  rw [occurs_around hopen (by decide), occurs_append (Or.inr (by decide)), hauto _ hname, hjoin]
  rfl

/-- The words before an expression in a line. -/
def wordsBefore : List String := ["return ", "if (", "for (int _i = 0; _i < ", "while (", ""]

/-- The words behind an expression in a line. -/
def wordsBehind : List String := [";", ") \x7b", "; _i++) \x7b"]

theorem endsApart_of_mem_wordsBefore (x : Header) :
    ∀ w ∈ wordsBefore, endsApart x.mark w.toList = true ∧ occurs x.mark w.toList = false := by
  cases x <;> decide +kernel

theorem startsApart_of_mem_wordsBehind (x : Header) :
    ∀ w ∈ wordsBehind, startsApart x.mark w.toList = true ∧ occurs x.mark w.toList = false := by
  cases x <;> decide +kernel

theorem occurs_mark_around (x : Header) (before behind : String) (hbefore : before ∈ wordsBefore)
    (hbehind : behind ∈ wordsBehind) (h : occurs qualifier t = false) :
    [before.toList ++ (translate t).text ++ behind.toList].any (occurs x.mark) = (translate t).headers.has x := by
  obtain ⟨hends, hb⟩ := endsApart_of_mem_wordsBefore x before hbefore
  obtain ⟨hstarts, ha⟩ := startsApart_of_mem_wordsBehind x behind hbehind
  rw [List.any_cons, List.any_nil, occurs_around hends hstarts, hb, ha, occurs_mark_translate x h]
  simp

theorem any_occurs_singleton (x : Header) {line : Text} (h : occurs qualifier line = false) :
    [line].any (occurs x.mark) = Headers.none.has x := by
  rw [List.any_cons, List.any_nil, occurs_mark_eq_false x h, Headers.has_none]
  rfl

end Cpp

/-- The names in the line of a statement are those of the headers that it needs. -/
theorem any_occurs_code (x : Header) {s : Statement} (h : ∀ t ∈ s.texts, occurs qualifier t = false) :
    s.code.any (occurs x.mark) = s.headers.has x := by
  rw [Statement.code_eq_written]
  cases s with
  | comment text =>
      refine any_occurs_singleton x ?_
      rw [occurs_append (Or.inl (by decide)), h text (by simp [Statement.texts])]
      rfl
  | blockEnd => exact any_occurs_singleton x (by decide)
  | define signature =>
      have hname := h signature.name (by simp [Statement.texts])
      have hparams : ∀ p ∈ signature.params, occurs qualifier p = false := fun p hp => h p (by simp [Statement.texts, hp])
      refine any_occurs_singleton x ?_
      rw [occurs_append (Or.inr (by decide)), occurs_qualifier_declaration hname hparams]
      rfl
  | returnValue value =>
      exact occurs_mark_around x "return " ";" (by decide) (by decide) (h value (by simp [Statement.texts]))
  | say value =>
      have hopen : occurs x.mark "std::cout << ".toList = { iostream := true : Headers }.has x := by
        cases x <;> decide +kernel
      have hclose : occurs x.mark " << std::endl;".toList = false := by cases x <;> decide +kernel
      show _ = ({ iostream := true : Headers }.union (translate value).headers).has x
      rw [Statement.written, List.any_cons, List.any_nil, occurs_around (by cases x <;> rfl) (by cases x <;> rfl), hopen,
        hclose, occurs_mark_translate x (h value (by simp [Statement.texts])), Headers.has_union]
      simp
  | bind name value =>
      have hbefore : occurs qualifier ("auto ".toList ++ name ++ " = ".toList) = false := by
        rw [occurs_around (by decide) (by decide), h name (by simp [Statement.texts])]
        rfl
      have hends : endsApart x.mark ("auto ".toList ++ name ++ " = ".toList) = true :=
        endsApart_of_isForeign (by decide) (by cases x <;> decide +kernel) _
      have hclose : occurs x.mark ";".toList = false := by cases x <;> decide +kernel
      show _ = (translate value).headers.has x
      rw [Statement.written, List.any_cons, List.any_nil, occurs_around hends (by cases x <;> rfl), hclose,
        occurs_mark_eq_false x hbefore, occurs_mark_translate x (h value (by simp [Statement.texts]))]
      simp
  | dropped text => exact (Headers.has_none x).symm
  | ifThen condition =>
      exact occurs_mark_around x "if (" ") \x7b" (by decide) (by decide) (h condition (by simp [Statement.texts]))
  | elseBranch => exact any_occurs_singleton x (by decide)
  | loopTimes count =>
      exact occurs_mark_around x "for (int _i = 0; _i < " "; _i++) \x7b" (by decide) (by decide)
        (h count (by simp [Statement.texts]))
  | whileDo condition =>
      exact occurs_mark_around x "while (" ") \x7b" (by decide) (by decide) (h condition (by simp [Statement.texts]))
  | grow name =>
      refine any_occurs_singleton x ?_
      rw [occurs_append (Or.inr (by decide)), occurs_append (Or.inr (by decide)), occurs_append (Or.inr (by decide)),
        h name (by simp [Statement.texts])]
      rfl
  | breakLoop => exact any_occurs_singleton x (by decide)
  | continueLoop => exact any_occurs_singleton x (by decide)
  | expression text =>
      exact occurs_mark_around x "" ";" (by decide) (by decide) (h text (by simp [Statement.texts]))

/-! ## Buffers -/

namespace Cpp

theorem occurs_mark_indented (x : Header) (level : Nat) (t : Text) :
    occurs x.mark (Scope.indented level t) = occurs x.mark t := by
  have hspace : ' ' ∉ x.mark := by cases x <;> decide
  have hspaces : isForeign x.mark (List.replicate (4 * level) ' ') = true := by
    rw [isForeign, List.all_eq_true]
    intro c hc
    rw [List.eq_of_mem_replicate hc]
    simpa using hspace
  exact occurs_append_of_isForeign (by cases x <;> decide) hspaces t

namespace Standing

variable {f : Text → Bool} (hblank : f [] = false) (hindented : ∀ level t, f (Scope.indented level t) = f t)
include hblank hindented

theorem any_added (p : Standing) (s : Statement) :
    ((p.added s .function).any f || (p.added s .main).any f) = s.code.any f := by
  have hcode : (s.code.map (Scope.indented (p.level s))).any f = s.code.any f := by
    rw [List.any_map]
    congr 1
    funext t
    exact hindented _ t
  have hend : (if p.leaves s then [[]] else []).any f = false := by
    split <;> simp [hblank]
  unfold added
  cases p.target s <;> simp [hcode, hend]

/-- What is found in some line of the statements is found in some line of the buffers, whichever it is written to. -/
theorem any_addedAll (p : Standing) (ss : List Statement) :
    ((addedAll .function p ss).any f || (addedAll .main p ss).any f) = ss.any fun s => s.code.any f := by
  induction ss generalizing p with
  | nil => rfl
  | cons s ss ih =>
      rw [addedAll_cons, addedAll_cons, List.any_append, List.any_append, List.any_cons, ← ih (p.after s),
        ← any_added hblank hindented p s]
      ac_rfl

end Standing

namespace Generator

theorem has_headersOf (x : Header) (ss : List Statement) : (headersOf ss).has x = ss.any (·.headers.has x) := by
  induction ss with
  | nil => exact Headers.has_none x
  | cons s ss ih => rw [List.any_cons, ← ih, headersOf, List.foldr_cons, Headers.has_union]; rfl

/-- Some generated line has the name of a header exactly when the header is needed. -/
theorem any_occurs_buffers (x : Header) {ns : List Numbered}
    (h : ∀ n ∈ ns, ∀ t ∈ n.statement.texts, occurs qualifier t = false) :
    ((initial.run ns).scope.functionLines.any (occurs x.mark) || (initial.run ns).scope.mainLines.any (occurs x.mark)) =
      (initial.run ns).headers.has x := by
  have hfunction : (initial.run ns).scope.functionLines = _ := buffer_run ns .function
  have hmain : (initial.run ns).scope.mainLines = _ := buffer_run ns .main
  have hblank : occurs x.mark [] = false := by cases x <;> rfl
  have hheaders : (initial.run ns).headers.has x = (headersOf (ns.map Numbered.statement)).has x := by
    rw [headers_run, Headers.has_union]
    exact congrArg (· || _) (Headers.has_none x)
  rw [hfunction, hmain, Standing.any_addedAll hblank (occurs_mark_indented x), hheaders, has_headersOf, Bool.eq_iff_iff,
    List.any_eq_true, List.any_eq_true]
  refine exists_congr fun s => and_congr_right fun hs => ?_
  obtain ⟨n, hn, rfl⟩ := List.mem_map.mp hs
  rw [any_occurs_code x (h n hn)]

/-- The lines around the buffers hold no name of a header. -/
theorem occurs_mark_assemble (x : Header) (g : Generator) :
    occurs x.mark g.assemble =
      (g.scope.functionLines.any (occurs x.mark) || g.scope.mainLines.any (occurs x.mark)) := by
  have hall : Headers.all.lines.any (occurs x.mark) = false := by cases x <;> decide +kernel
  have hheaders : g.headers.lines.any (occurs x.mark) = false := by
    rw [List.any_eq_false] at hall ⊢
    exact fun line hline => hall line (g.headers.lines_subset_all hline)
  have htitle : occurs x.mark "// Generated by flowc — the Flow compiler".toList = false := by cases x <;> decide +kernel
  have hblank : occurs x.mark [] = false := by cases x <;> rfl
  have hopen : occurs x.mark "int main() \x7b".toList = false := by cases x <;> decide +kernel
  have hreturn : occurs x.mark "    return 0;".toList = false := by cases x <;> decide +kernel
  have hclose : occurs x.mark "\x7d".toList = false := by cases x <;> decide +kernel
  have hnewline : occurs x.mark "\n".toList = false := by cases x <;> decide +kernel
  unfold assemble outputLines
  rw [occurs_append (Or.inr (by cases x <;> rfl)), hnewline,
    occurs_joinWith (by cases x <;> decide) (by decide) (by cases x <;> decide)]
  simp only [List.any_append, List.any_cons, List.any_nil, hheaders, htitle, hblank, hopen, hreturn, hclose, Bool.false_or,
    Bool.or_false]

end Generator

end Cpp

/-! ## Lines that ask for headers -/

/-- The line asks for one of the headers. -/
def asksForHeader (line : Text) : Bool :=
  Headers.all.lines.contains line

theorem borders_of_asksForHeader {line : Text} (h : asksForHeader line = true) :
    line.head? = some '#' ∧ line.getLast? = some '>' := by
  have hall : ∀ line ∈ Headers.all.lines, line.head? = some '#' ∧ line.getLast? = some '>' := by decide
  exact hall line (List.contains_iff_mem.mp h)

theorem getLast?_of_mem_code {s : Statement} {t : Text} (hs : ∀ text, s ≠ .comment text) (h : t ∈ s.code) :
    t.getLast? ∈ [some ';', some '\x7b', some '\x7d'] := by
  have last {u w : Text} {c : Char} (hw : w.getLast? = some c)
      (hc : some c ∈ [some ';', some '\x7b', some '\x7d']) :
      (u ++ w).getLast? ∈ [some ';', some '\x7b', some '\x7d'] := by
    rw [List.getLast?_append, hw]
    exact hc
  rw [Statement.code_eq_written] at h
  cases s with
  | comment text => exact absurd rfl (hs text)
  | dropped text => cases h
  | blockEnd => rw [List.mem_singleton.mp h]; decide
  | define signature => rw [List.mem_singleton.mp h]; exact last rfl (by decide)
  | returnValue value => rw [List.mem_singleton.mp h]; exact last rfl (by decide)
  | say value => rw [List.mem_singleton.mp h]; exact last rfl (by decide)
  | bind name value => rw [List.mem_singleton.mp h]; exact last rfl (by decide)
  | ifThen condition => rw [List.mem_singleton.mp h]; exact last rfl (by decide)
  | elseBranch => rw [List.mem_singleton.mp h]; decide
  | loopTimes count => rw [List.mem_singleton.mp h]; exact last rfl (by decide)
  | whileDo condition => rw [List.mem_singleton.mp h]; exact last rfl (by decide)
  | grow name => rw [List.mem_singleton.mp h]; exact last rfl (by decide)
  | breakLoop => rw [List.mem_singleton.mp h]; decide
  | continueLoop => rw [List.mem_singleton.mp h]; decide
  | expression text => rw [List.mem_singleton.mp h]; exact last rfl (by decide)

/-- A comment starts with slashes; every other line ends as a statement or at a brace. -/
theorem borders_of_mem_code {s : Statement} {t : Text} (h : t ∈ s.code) :
    t.head? = some '/' ∨ t.getLast? ∈ [some ';', some '\x7b', some '\x7d'] := by
  by_cases hs : ∃ text, s = .comment text
  · obtain ⟨text, rfl⟩ := hs
    rw [List.mem_singleton.mp h]
    exact Or.inl rfl
  · exact Or.inr (getLast?_of_mem_code (fun text heq => hs ⟨text, heq⟩) h)

theorem asksForHeader_indented {s : Statement} {t : Text} (h : t ∈ s.code) (level : Nat) :
    asksForHeader (Scope.indented level t) = false := by
  rw [Bool.eq_false_iff]
  intro hasks
  obtain ⟨hhead, hlast⟩ := borders_of_asksForHeader hasks
  rcases borders_of_mem_code h with ht | ht
  · rw [head?_indented, ht] at hhead
    split at hhead <;> cases hhead
  · unfold Scope.indented at hlast
    rw [List.getLast?_append] at hlast
    cases hc : t.getLast? with
    | none => rw [hc] at ht; simp at ht
    | some c =>
        rw [hc] at hlast ht
        cases hlast
        exact absurd ht (by decide)

theorem asksForHeader_buffer (ns : List Numbered) (m : Mode) :
    ∀ line ∈ (Generator.initial.run ns).scope.buffer m, asksForHeader line = false := by
  intro line hline
  rw [Generator.buffer_run] at hline
  rcases Standing.mem_addedAll hline with rfl | ⟨s, hs, level, t, ht, rfl⟩
  · rfl
  · exact asksForHeader_indented ht level

/-- Of the lines of a program those that ask for headers are the lines of its headers. -/
theorem filter_asksForHeader (source : Text) :
    (lines (transpile source)).filter asksForHeader = (Generator.initial.run (statements source)).headers.lines := by
  have hlines : lines (transpile source) = _ := Generator.lines_assemble (newline_not_mem_buffer source)
  have hbuffer (m : Mode) : ((Generator.initial.run (statements source)).scope.buffer m).filter asksForHeader = [] := by
    rw [List.filter_eq_nil_iff]
    intro line hline
    rw [asksForHeader_buffer _ m line hline]
    exact Bool.false_ne_true
  have hfunction : (Generator.initial.run (statements source)).scope.functionLines.filter asksForHeader = [] :=
    hbuffer .function
  have hmain : (Generator.initial.run (statements source)).scope.mainLines.filter asksForHeader = [] := hbuffer .main
  have hheaders : ∀ line ∈ (Generator.initial.run (statements source)).headers.lines, asksForHeader line = true :=
    fun line hline => List.contains_iff_mem.mpr (Headers.lines_subset_all _ hline)
  have htitle : asksForHeader "// Generated by flowc — the Flow compiler".toList = false := by decide +kernel
  have hblank : asksForHeader [] = false := by decide +kernel
  have hopen : asksForHeader "int main() \x7b".toList = false := by decide +kernel
  have hreturn : asksForHeader "    return 0;".toList = false := by decide +kernel
  have hclose : asksForHeader "\x7d".toList = false := by decide +kernel
  rw [hlines, Generator.outputLines]
  simp only [List.filter_append, List.filter_cons, htitle, hblank, hopen, hreturn, hclose, hfunction, hmain,
    List.filter_eq_self.mpr hheaders, List.filter_nil, Bool.false_eq_true, if_false, List.append_nil]

theorem line_mem_transpile_iff (x : Header) (source : Text) :
    x.line ∈ lines (transpile source) ↔ (Generator.initial.run (statements source)).headers.has x = true := by
  have hasks : asksForHeader x.line = true := by cases x <;> decide +kernel
  rw [← Headers.mem_lines_iff, ← filter_asksForHeader, List.mem_filter]
  exact ⟨fun h => ⟨h, hasks⟩, And.left⟩

/-! ## Every program -/

theorem occurs_mark_transpile (x : Header) {source : Text} (h : ¬qualifier <:+: source) :
    occurs x.mark (transpile source) = (Generator.initial.run (statements source)).headers.has x := by
  have hsource : occurs qualifier source = false := by rwa [Bool.eq_false_iff, ne_eq, occurs_iff]
  have htexts : ∀ n ∈ statements source, ∀ t ∈ n.statement.texts, occurs qualifier t = false :=
    fun n hn t ht => occurs_qualifier_of_isInfix (isInfix_of_mem_statements hn ht) hsource
  exact (Generator.occurs_mark_assemble x _).trans (Generator.any_occurs_buffers x htexts)

/-- A program that does not itself write `std::` is translated to one that lists each header exactly when its text has the
name that needs it. In every program the lines of the headers stand once at most, and in their fixed order. -/
theorem headers_iff_needed (source : Text) :
    (¬"std::".toList <:+: source →
      ("#include <iostream>".toList ∈ lines (transpile source) ↔ "std::cout".toList <:+: transpile source) ∧
      ("#include <string>".toList ∈ lines (transpile source) ↔ "std::string(".toList <:+: transpile source) ∧
      ("#include <cmath>".toList ∈ lines (transpile source) ↔ "std::pow(".toList <:+: transpile source)) ∧
    ((lines (transpile source)).filter fun line =>
        ["#include <iostream>".toList, "#include <string>".toList, "#include <cmath>".toList].contains line).Sublist
      ["#include <iostream>".toList, "#include <string>".toList, "#include <cmath>".toList] := by
  constructor
  · intro h
    have hiff (x : Header) : x.line ∈ lines (transpile source) ↔ x.mark <:+: transpile source := by
      rw [line_mem_transpile_iff, ← occurs_mark_transpile x h, occurs_iff]
    exact ⟨hiff .iostream, hiff .string, hiff .cmath⟩
  · have hsublist := Headers.lines_sublist_all (Generator.initial.run (statements source)).headers
    rw [← filter_asksForHeader] at hsublist
    exact hsublist

/-- The headers are needed in another order than theirs, and the sign of a power inside of a quoted text needs none. -/
theorem headers_iff_needed_quoted :
    ¬"std::".toList <:+: "let s = \"a ^ b\"\nsay s".toList ∧
    "#include <iostream>".toList ∈ lines (transpile "let s = \"a ^ b\"\nsay s".toList) ∧
    "#include <string>".toList ∈ lines (transpile "let s = \"a ^ b\"\nsay s".toList) ∧
    "#include <cmath>".toList ∉ lines (transpile "let s = \"a ^ b\"\nsay s".toList) := by
  have hsource : ¬"std::".toList <:+: "let s = \"a ^ b\"\nsay s".toList := by
    rw [← occurs_iff]
    decide +kernel
  obtain ⟨hiostream, hstring, hcmath⟩ := (headers_iff_needed "let s = \"a ^ b\"\nsay s".toList).1 hsource
  refine ⟨hsource, hiostream.mpr ?_, hstring.mpr ?_, fun h => absurd (hcmath.mp h) ?_⟩
  · rw [← occurs_iff]
    decide +kernel
  · rw [← occurs_iff]
    decide +kernel
  · rw [← occurs_iff]
    decide +kernel

end FlowLang

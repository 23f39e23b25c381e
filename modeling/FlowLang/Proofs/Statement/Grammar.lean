import FlowLang.Proofs.Statement.Texts
import FlowLang.Proofs.Text.Blank
import Mathlib.Data.List.TakeWhile

/-!
# The grammar of lines

Every form of a line has a rule of its own, and none of the rules asks whether another one fits. No two of them fit the same
line, since the words that their lines start with are no starts of each other. So the forms can be tried in any order.
-/

namespace FlowLang

open Text

/-! ## Signatures -/

/-- A text is written as a signature. -/
inductive Signature.Written : Text → Signature → Prop
  /-- without parentheses, all of the text is the name -/
  | bare {text : Text} (hopen : '(' ∉ text) : Written text ⟨trim text, []⟩
  /-- the entries run to a closing parenthesis, or else to the end; the blank ones are no parameters -/
  | listed {name behind : Text} {entries : List Text} (hopen : '(' ∉ name) (hclose : ')' ∉ name)
      (hentries : ∀ e ∈ entries, ',' ∉ e ∧ ')' ∉ e) (hbehind : behind = [] ∨ behind.head? = some ')') :
      Written (name ++ '(' :: (joinWith ",".toList entries ++ behind))
        ⟨trim name, (entries.map trim).filter (!·.isEmpty)⟩
  /-- a closing parenthesis before the opening one leaves no parameters -/
  | closed {name rest : Text} (hopen : '(' ∉ name) (hclose : ')' ∈ name) : Written (name ++ '(' :: rest) ⟨trim name, []⟩

namespace Signature

theorem parse_of_not_mem {text : Text} (h : '(' ∉ text) : parse text = ⟨trim text, []⟩ := by
  have hdrop : (trim text).dropWhile (· != '(') = [] := by
    rw [List.dropWhile_eq_nil_iff]
    intro c hc
    exact bne_iff_ne.mpr fun hopen => h (hopen ▸ (isInfix_trim text).subset hc)
  simp only [parse, hdrop]

theorem parse_append {name : Text} (h : '(' ∉ name) (rest : Text) :
    parse (name ++ '(' :: rest) =
      ⟨trim name, if ')' ∈ name then [] else parseParams ((trimRight rest).takeWhile (· != ')'))⟩ := by
  have hleft : '(' ∉ trimLeft name := fun hc => h ((trimLeft_isSuffix name).subset hc)
  have hclose : (trimLeft name).contains ')' = true ↔ ')' ∈ name := by
    rw [List.contains_iff_mem, mem_trimLeft_iff (by decide)]
  unfold parse
  rw [trim_append_cons (by decide)]
  simp only [takeWhile_ne_append hleft, dropWhile_ne_append hleft, trim_trimLeft, hclose]

theorem parseParams_joinWith_entries {entries : List Text} (h : ∀ e ∈ entries, ',' ∉ e) :
    parseParams (joinWith ",".toList entries) = (entries.map trim).filter (!·.isEmpty) := by
  cases entries with
  | nil => rfl
  | cons e entries =>
      have hsplit : splitOn ',' (joinWith ",".toList (e :: entries)) = e :: entries := splitOn_joinWith h (by simp)
      rw [parseParams, hsplit]

theorem parseParams_trimRight (t : Text) : parseParams (trimRight t) = parseParams t := by
  obtain ⟨blanks, hblanks, ht⟩ := exists_trimRight t
  have hcomma : ',' ∉ blanks := not_mem_of_blank (by decide) hblanks
  conv => rhs; rw [ht, parseParams, map_trim_splitOn_append_of_blank _ hblanks hcomma]
  rfl

theorem Written.parse_eq {text : Text} {s : Signature} (h : Written text s) : parse text = s := by
  cases h with
  | bare hopen => exact parse_of_not_mem hopen
  | closed hopen hclose => rw [parse_append hopen, if_pos hclose]
  | @listed name behind entries hopen hclose hentries hbehind =>
      have hinside : ')' ∉ joinWith ",".toList entries := not_mem_joinWith (by decide) fun e he => (hentries e he).2
      have hparams := parseParams_joinWith_entries fun e he => (hentries e he).1
      rw [parse_append hopen, if_neg hclose]
      rcases hbehind with rfl | hbehind
      · have hright : ∀ c ∈ trimRight (joinWith ",".toList entries), (c != ')') = true := by
          intro c hc
          exact bne_iff_ne.mpr fun hcc => hinside (hcc ▸ (trimRight_isPrefix _).subset hc)
        rw [List.append_nil, List.takeWhile_eq_self_iff.mpr hright, parseParams_trimRight, hparams]
      · obtain ⟨rest, rfl⟩ := List.head?_eq_some_iff.mp hbehind
        rw [trimRight_append_cons (by decide), takeWhile_ne_append hinside, hparams]

theorem exists_written (text : Text) : ∃ s, Written text s := by
  by_cases hopen : '(' ∈ text
  · obtain ⟨name, rest, rfl, hname⟩ := List.eq_append_cons_of_mem hopen
    by_cases hclose : ')' ∈ name
    · exact ⟨_, .closed hname hclose⟩
    · obtain ⟨inside, behind, hrest, hinside, hbehind⟩ :
          ∃ inside behind, rest = inside ++ behind ∧ ')' ∉ inside ∧ (behind = [] ∨ behind.head? = some ')') := by
        by_cases hmem : ')' ∈ rest
        · obtain ⟨inside, more, rfl, hinside⟩ := List.eq_append_cons_of_mem hmem
          exact ⟨inside, ')' :: more, rfl, hinside, Or.inr rfl⟩
        · exact ⟨rest, [], (List.append_nil rest).symm, hmem, Or.inl rfl⟩
      have hjoin : joinWith ",".toList (splitOn ',' inside) = inside := joinWith_splitOn ',' inside
      have hentries : ∀ e ∈ splitOn ',' inside, ',' ∉ e ∧ ')' ∉ e := fun e he =>
        ⟨not_mem_of_mem_splitOn he, fun hc => hinside ((isInfix_of_mem_splitOn he).subset hc)⟩
      have hwritten := Written.listed hname hclose hentries hbehind
      rw [hjoin, ← hrest] at hwritten
      exact ⟨_, hwritten⟩
  · exact ⟨_, .bare hopen⟩

theorem written_iff {text : Text} {s : Signature} : Written text s ↔ parse text = s := by
  refine ⟨Written.parse_eq, ?_⟩
  rintro rfl
  obtain ⟨s, hs⟩ := exists_written text
  exact hs.parse_eq ▸ hs

end Signature

/-! ## Rules -/

namespace Statement

/-- The rules of the structured forms. -/
inductive Structured : Text → Statement → Prop
  | comment (text : Text) : Structured ("--".toList ++ text) (.comment (trim text))
  | blockEnd : Structured "end".toList .blockEnd
  | define {text : Text} {signature : Signature} (h : Signature.Written text signature) :
      Structured ("define ".toList ++ text) (.define signature)
  | returnValue (value : Text) : Structured ("return ".toList ++ value) (.returnValue value)
  | say (value : Text) : Structured ("say ".toList ++ value) (.say value)
  | bind {name : Text} (h : '=' ∉ name) (value : Text) :
      Structured ("let ".toList ++ (name ++ '=' :: value)) (.bind (trim name) (trim value))
  | dropped {text : Text} (h : '=' ∉ text) : Structured ("let ".toList ++ text) (.dropped ("let ".toList ++ text))
  | ifThen (middle : Text) : Structured ("if ".toList ++ middle ++ "then".toList) (.ifThen (trim middle))
  | elseBranch : Structured "else".toList .elseBranch
  | loopTimes (middle : Text) : Structured ("loop ".toList ++ middle ++ "times".toList) (.loopTimes (trim middle))
  | whileDo (middle : Text) : Structured ("while ".toList ++ middle ++ "do".toList) (.whileDo (trim middle))
  | grow (name : Text) : Structured ("grow ".toList ++ name) (.grow (trim name))
  | breakLoop : Structured "break".toList .breakLoop
  | continueLoop : Structured "continue".toList .continueLoop

/-- What a line is: what a structured form says, and an expression exactly if none fits. -/
inductive Derives : Text → Statement → Prop
  | structured {line : Text} {s : Statement} (h : Structured line s) : Derives line s
  | expression {line : Text} (h : ∀ s, ¬Structured line s) : Derives line (.expression line)

variable {line : Text} {s : Statement}

/-! ### Forms and rules -/

theorem wholeLine?_eq_some_iff {word : String} {r : Statement} :
    wholeLine? word r line = some s ↔ line = word.toList ∧ r = s := by
  simp [wholeLine?]

theorem leading?_eq_some_iff {lead : String} {make : Text → Statement} :
    leading? lead make line = some s ↔ ∃ rest, line = lead.toList ++ rest ∧ make rest = s := by
  simp [leading?, after?_eq_some_iff]

theorem enclosed?_eq_some_iff {lead tail : String} {make : Text → Statement} :
    enclosed? lead tail make line = some s ↔
      ∃ middle, line = lead.toList ++ middle ++ tail.toList ∧ make (trim middle) = s := by
  simp [enclosed?, between?_eq_some_iff]

theorem structured_ofBinding (binding : Text) :
    Structured ("let ".toList ++ binding) (ofBinding ("let ".toList ++ binding) binding) := by
  by_cases h : '=' ∈ binding
  · obtain ⟨name, value, rfl, hname⟩ := List.eq_append_cons_of_mem h
    have hcut : cut? "=".toList (name ++ '=' :: value) = some (name, value) := cut?_append hname value
    rw [ofBinding, hcut]
    exact .bind hname value
  · have hcut : cut? "=".toList binding = none := cut?_eq_none h
    rw [ofBinding, hcut]
    exact .dropped h

theorem structured_of_form {form : Text → Option Statement} (hform : form ∈ forms) (h : form line = some s) :
    Structured line s := by
  simp only [forms, List.mem_cons, List.not_mem_nil, or_false] at hform
  rcases hform with rfl | rfl | rfl | rfl | rfl | rfl | rfl | rfl | rfl | rfl | rfl | rfl | rfl
  · obtain ⟨text, rfl, rfl⟩ := leading?_eq_some_iff.mp h; exact .comment text
  · obtain ⟨rfl, rfl⟩ := wholeLine?_eq_some_iff.mp h; exact .blockEnd
  · obtain ⟨text, rfl, rfl⟩ := leading?_eq_some_iff.mp h; exact .define (Signature.written_iff.mpr rfl)
  · obtain ⟨value, rfl, rfl⟩ := leading?_eq_some_iff.mp h; exact .returnValue value
  · obtain ⟨value, rfl, rfl⟩ := leading?_eq_some_iff.mp h; exact .say value
  · obtain ⟨binding, rfl, rfl⟩ := leading?_eq_some_iff.mp h; exact structured_ofBinding binding
  · obtain ⟨middle, rfl, rfl⟩ := enclosed?_eq_some_iff.mp h; exact .ifThen middle
  · obtain ⟨rfl, rfl⟩ := wholeLine?_eq_some_iff.mp h; exact .elseBranch
  · obtain ⟨middle, rfl, rfl⟩ := enclosed?_eq_some_iff.mp h; exact .loopTimes middle
  · obtain ⟨middle, rfl, rfl⟩ := enclosed?_eq_some_iff.mp h; exact .whileDo middle
  · obtain ⟨name, rfl, rfl⟩ := leading?_eq_some_iff.mp h; exact .grow name
  · obtain ⟨rfl, rfl⟩ := wholeLine?_eq_some_iff.mp h; exact .breakLoop
  · obtain ⟨rfl, rfl⟩ := wholeLine?_eq_some_iff.mp h; exact .continueLoop

theorem Structured.exists_form (h : Structured line s) : ∃ form ∈ forms, form line = some s := by
  have whole {k : Nat} {word : String} {r : Statement} (hk : forms[k]? = some (wholeLine? word r)) :
      ∃ form ∈ forms, form word.toList = some r :=
    ⟨_, List.mem_of_getElem? hk, wholeLine?_eq_some_iff.mpr ⟨rfl, rfl⟩⟩
  have leading {k : Nat} {lead : String} {make : Text → Statement} (hk : forms[k]? = some (leading? lead make))
      (rest : Text) : ∃ form ∈ forms, form (lead.toList ++ rest) = some (make rest) :=
    ⟨_, List.mem_of_getElem? hk, leading?_eq_some_iff.mpr ⟨rest, rfl, rfl⟩⟩
  have enclosed {k : Nat} {lead tail : String} {make : Text → Statement}
      (hk : forms[k]? = some (enclosed? lead tail make)) (middle : Text) :
      ∃ form ∈ forms, form (lead.toList ++ middle ++ tail.toList) = some (make (trim middle)) :=
    ⟨_, List.mem_of_getElem? hk, enclosed?_eq_some_iff.mpr ⟨middle, rfl, rfl⟩⟩
  have binding {rest : Text} {r : Statement} (hr : ofBinding ("let ".toList ++ rest) rest = r) :
      ∃ form ∈ forms, form ("let ".toList ++ rest) = some r :=
    ⟨_, List.mem_of_getElem? (i := 5) rfl, leading?_eq_some_iff.mpr ⟨rest, rfl, hr⟩⟩
  match h with
  | .comment text => exact leading (k := 0) rfl text
  | .blockEnd => exact whole (k := 1) rfl
  | .define hwritten => exact hwritten.parse_eq ▸ leading (k := 2) rfl _
  | .returnValue value => exact leading (k := 3) rfl value
  | .say value => exact leading (k := 4) rfl value
  | .bind hname value =>
      refine binding ?_
      have hcut : cut? "=".toList (_ ++ '=' :: value) = some (_, value) := cut?_append hname value
      rw [ofBinding, hcut]
  | .dropped htext =>
      refine binding ?_
      have hcut : cut? "=".toList _ = none := cut?_eq_none htext
      rw [ofBinding, hcut]
  | .ifThen middle => exact enclosed (k := 6) rfl middle
  | .elseBranch => exact whole (k := 7) rfl
  | .loopTimes middle => exact enclosed (k := 8) rfl middle
  | .whileDo middle => exact enclosed (k := 9) rfl middle
  | .grow name => exact leading (k := 10) rfl name
  | .breakLoop => exact whole (k := 11) rfl
  | .continueLoop => exact whole (k := 12) rfl

/-! ### One form at most -/

/-- What the lines of each form start with. -/
def leads : List Text :=
  ["--".toList, "end".toList, "define ".toList, "return ".toList, "say ".toList, "let ".toList, "if ".toList,
   "else".toList, "loop ".toList, "while ".toList, "grow ".toList, "break".toList, "continue".toList]

theorem isPrefix_of_mem_zip : ∀ p ∈ forms.zip leads, p.1 line = some s → p.2 <+: line := by
  have whole (word : String) (r : Statement) (h : wholeLine? word r line = some s) : word.toList <+: line := by
    obtain ⟨rfl, _⟩ := wholeLine?_eq_some_iff.mp h
    exact List.prefix_rfl
  have leading (lead : String) (make : Text → Statement) (h : leading? lead make line = some s) :
      lead.toList <+: line := by
    obtain ⟨rest, rfl, _⟩ := leading?_eq_some_iff.mp h
    exact List.prefix_append _ _
  have enclosed (lead tail : String) (make : Text → Statement) (h : enclosed? lead tail make line = some s) :
      lead.toList <+: line := by
    obtain ⟨middle, rfl, _⟩ := enclosed?_eq_some_iff.mp h
    rw [List.append_assoc]
    exact List.prefix_append _ _
  simp only [forms, leads, List.zip_cons_cons, List.zip_nil_right, List.forall_mem_cons]
  exact ⟨leading _ _, whole _ _, leading _ _, leading _ _, leading _ _, leading _ _, enclosed _ _ _, whole _ _,
    enclosed _ _ _, enclosed _ _ _, leading _ _, whole _ _, whole _ _, List.forall_mem_nil _⟩

theorem pairwise_leads : leads.Pairwise fun a b => ¬a <+: b ∧ ¬b <+: a := by
  decide

/-- No two forms fit the same line. -/
theorem pairwise_forms (line : Text) : forms.Pairwise fun f g => f line = none ∨ g line = none := by
  have hforms : forms = (forms.zip leads).map Prod.fst := rfl
  have hleads : leads = (forms.zip leads).map Prod.snd := rfl
  have hapart := pairwise_leads
  rw [hleads, List.pairwise_map] at hapart
  rw [hforms, List.pairwise_map]
  refine hapart.imp_of_mem fun {p q} hp hq hpq => ?_
  cases hf : p.1 line with
  | none => exact Or.inl rfl
  | some r =>
      cases hg : q.1 line with
      | none => exact Or.inr rfl
      | some s =>
          rcases List.prefix_or_prefix_of_prefix (isPrefix_of_mem_zip p hp hf) (isPrefix_of_mem_zip q hq hg) with h | h
          · exact absurd h hpq.1
          · exact absurd h hpq.2

/-- Where no two of them fit, it is enough that one of the forms fits. -/
theorem findSome?_eq_some_iff_of_pairwise {fs : List (Text → Option Statement)}
    (h : fs.Pairwise fun f g => f line = none ∨ g line = none) :
    fs.findSome? (· line) = some s ↔ ∃ f ∈ fs, f line = some s := by
  refine ⟨List.exists_of_findSome?_eq_some, ?_⟩
  rintro ⟨f, hf, hs⟩
  induction fs with
  | nil => cases hf
  | cons g fs ih =>
      obtain ⟨hg, hfs⟩ := List.pairwise_cons.mp h
      rw [List.findSome?_cons]
      rcases List.mem_cons.mp hf with rfl | hf
      · rw [hs]
      · rcases hg f hf with hnone | hnone
        · rw [hnone]
          exact ih hfs hf
        · rw [hnone] at hs
          cases hs

theorem findSome?_forms_iff : forms.findSome? (· line) = some s ↔ Structured line s := by
  rw [findSome?_eq_some_iff_of_pairwise (pairwise_forms line)]
  exact ⟨fun ⟨_, hform, h⟩ => structured_of_form hform h, Structured.exists_form⟩

theorem findSome?_perm {order : List (Text → Option Statement)} (h : order.Perm forms) (line : Text) :
    order.findSome? (· line) = forms.findSome? (· line) := by
  have hpairwise : order.Pairwise fun f g => f line = none ∨ g line = none :=
    h.symm.pairwise (pairwise_forms line) fun hfg => hfg.symm
  refine Option.ext fun s => ?_
  rw [findSome?_eq_some_iff_of_pairwise hpairwise, findSome?_eq_some_iff_of_pairwise (pairwise_forms line)]
  simp only [h.mem_iff]

/-! ### Words around a text -/

/-- A word that ends with a character which another word does not have cannot run into that word. -/
theorem isPrefix_and_isSuffix_iff {lead tail : Text} {c : Char} (hlead : lead.getLast? = some c) (htail : c ∉ tail)
    (t : Text) : lead <+: t ∧ tail <:+ t ↔ ∃ middle, t = lead ++ middle ++ tail := by
  constructor
  · rintro ⟨⟨rest, rfl⟩, before, hbefore⟩
    rcases List.append_eq_append_iff.mp hbefore with ⟨shared, rfl, rfl⟩ | ⟨middle, rfl, rfl⟩
    · cases hshared : shared.getLast? with
      | none =>
          obtain rfl := List.getLast?_eq_none_iff.mp hshared
          exact ⟨[], by simp⟩
      | some d =>
          rw [List.getLast?_append, hshared] at hlead
          obtain rfl : d = c := by simpa using hlead
          exact absurd (List.mem_append_left rest (List.mem_of_getLast? hshared)) htail
    · exact ⟨middle, (List.append_assoc ..).symm⟩
  · rintro ⟨middle, rfl⟩
    exact ⟨⟨middle ++ tail, by simp⟩, ⟨lead ++ middle, rfl⟩⟩

/-! ### Every line -/

theorem derives_iff : Derives line s ↔ ofLine line = s := by
  unfold ofLine
  constructor
  · intro h
    cases h with
    | structured h => rw [findSome?_forms_iff.mpr h]; rfl
    | expression h =>
        have hnone : forms.findSome? (· line) = none :=
          Option.eq_none_iff_forall_ne_some.mpr fun s hs => h s (findSome?_forms_iff.mp hs)
        rw [hnone]
        rfl
  · rintro rfl
    cases hform : forms.findSome? (· line) with
    | some s => exact .structured (findSome?_forms_iff.mp hform)
    | none =>
        refine .expression fun s hs => ?_
        rw [findSome?_forms_iff.mpr hs] at hform
        cases hform

/-- The words around the text of the forms that have two. -/
def enclosures : List (Text × Text) :=
  [("if ".toList, "then".toList), ("loop ".toList, "times".toList), ("while ".toList, "do".toList)]

theorem enclosures_apart (line : Text) :
    ∀ p ∈ enclosures, p.1 <+: line ∧ p.2 <:+ line ↔ ∃ middle, line = p.1 ++ middle ++ p.2 := by
  simp only [enclosures, List.forall_mem_cons]
  refine ⟨?_, ?_, ?_, List.forall_mem_nil _⟩ <;>
    exact isPrefix_and_isSuffix_iff (c := ' ') (by decide) (by decide) line

theorem statementsFrom_singleton_iff {first number : Int} {raw : Text} :
    statementsFrom first [raw] = [⟨number, s⟩] ↔ trim raw ≠ [] ∧ first = number ∧ ofLine (trim raw) = s := by
  by_cases h : trim raw = [] <;> simp [statementsFrom, h]

/-- A line is what the grammar says, with the number that it has. At most one structured form fits it, so the order in which
they are tried does not matter, and the words around a text are not read twice. -/
theorem ofLine_decides_grammar (line : Text) :
    (∀ s, Derives line s ↔ ofLine line = s) ∧
      (∀ first number s,
        statementsFrom first [line] = [⟨number, s⟩] ↔ trim line ≠ [] ∧ first = number ∧ Derives (trim line) s) ∧
      forms.Pairwise (fun f g => f line = none ∨ g line = none) ∧
      (∀ order : List (Text → Option Statement), order.Perm forms →
        (order.findSome? (· line)).getD (.expression line) = ofLine line) ∧
      ∀ p ∈ enclosures, p.1 <+: line ∧ p.2 <:+ line ↔ ∃ middle, line = p.1 ++ middle ++ p.2 := by
  refine ⟨fun s => derives_iff, fun first number s => ?_, pairwise_forms line, fun order horder => ?_,
    enclosures_apart line⟩
  · rw [statementsFrom_singleton_iff, derives_iff]
  · rw [findSome?_perm horder, ofLine]

theorem ofLine_decides_grammar_while_do :
    forms.reverse.Perm forms ∧
      (forms.reverse.findSome? (· "while do".toList)).getD (.expression "while do".toList) = .whileDo [] ∧
      ("while ".toList, "do".toList) ∈ enclosures ∧
      ∃ middle, "while do".toList = "while ".toList ++ middle ++ "do".toList := by
  have hline : ofLine "while do".toList = .whileDo [] := by decide
  have hwords : ("while ".toList, "do".toList) ∈ enclosures := by decide
  obtain ⟨-, -, -, horder, hapart⟩ := ofLine_decides_grammar "while do".toList
  exact ⟨forms.reverse_perm, (horder _ forms.reverse_perm).trans hline, hwords, (hapart _ hwords).mp (by decide)⟩

end Statement

end FlowLang

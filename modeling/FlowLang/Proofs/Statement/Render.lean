import FlowLang.Proofs.Cpp.Standing
import FlowLang.Proofs.Statement.Texts

/-!
# Writing statements down again

Every statement has a line of its own in Flow. Reading these lines gives back the statements that were read from any
program, however it was spaced, so that the program written anew means the same.
-/

namespace FlowLang

open Text

theorem blank_space : ∀ c ∈ [' '], isBlank c = true := by
  intro c hc
  rw [List.mem_singleton.mp hc]
  rfl

/-! ## Signatures -/

namespace Signature

/-- The signature as it is written in Flow. -/
def render (s : Signature) : Text :=
  s.name ++ "(".toList ++ joinWith ", ".toList s.params ++ ")".toList

/-- What holds of every signature that has been read. -/
structure Readable (s : Signature) : Prop where
  name : Trimmed s.name
  no_open : '(' ∉ s.name
  params : ∀ p ∈ s.params, Trimmed p ∧ p ≠ [] ∧ ',' ∉ p ∧ ')' ∉ p
  /-- behind a closing parenthesis no parameters are read -/
  no_close : s.params ≠ [] → ')' ∉ s.name

theorem readable_of_mem_parseParams {p t : Text} (h : p ∈ parseParams t) (hclose : ')' ∉ t) :
    Trimmed p ∧ p ≠ [] ∧ ',' ∉ p ∧ ')' ∉ p := by
  obtain ⟨hp, hne⟩ := List.mem_filter.mp h
  obtain ⟨q, hq, rfl⟩ := List.mem_map.mp hp
  have hcomma : ',' ∉ q := not_mem_of_mem_splitOn hq
  have hsub : trim q ⊆ q := (isInfix_trim q).subset
  exact ⟨trimmed_trim q, by simpa using hne, fun hc => hcomma (hsub hc),
    fun hc => hclose ((isInfix_of_mem_splitOn hq).subset (hsub hc))⟩

theorem readable_parse (text : Text) : (parse text).Readable := by
  have hopen := not_mem_takeWhile_ne '(' (trim text)
  simp only [parse]
  split
  · rename_i hdrop
    have hname : (trim text).takeWhile (· != '(') = trim text := by
      have h := List.takeWhile_append_dropWhile (p := (· != '(')) (l := trim text)
      rwa [hdrop, List.append_nil] at h
    rw [hname] at hopen
    exact ⟨trimmed_trim text, hopen, List.forall_mem_nil _, fun h => absurd rfl h⟩
  · rename_i c rest hdrop
    have hsub : trim ((trim text).takeWhile (· != '(')) ⊆ (trim text).takeWhile (· != '(') := (isInfix_trim _).subset
    refine ⟨trimmed_trim _, fun hc => hopen (hsub hc), ?_, ?_⟩
    · intro p hp
      split at hp
      · cases hp
      · exact readable_of_mem_parseParams hp (not_mem_takeWhile_ne ')' rest)
    · intro hparams hc
      split at hparams
      · exact hparams rfl
      · rename_i hclose
        exact hclose (List.contains_iff_mem.mpr (hsub hc))

theorem parseParams_joinWith {ps : List Text} (h : ∀ p ∈ ps, Trimmed p ∧ p ≠ [] ∧ ',' ∉ p ∧ ')' ∉ p) :
    parseParams (joinWith ", ".toList ps) = ps := by
  cases ps with
  | nil => rfl
  | cons p ps =>
      obtain ⟨hp, hps⟩ := List.forall_mem_cons.mp h
      have hcomma : ∀ l ∈ p :: ps.map ([' '] ++ ·), ',' ∉ l := by
        refine List.forall_mem_cons.mpr ⟨hp.2.2.1, fun l hl => ?_⟩
        obtain ⟨q, hq, rfl⟩ := List.mem_map.mp hl
        exact List.not_mem_cons_of_ne_of_not_mem (by decide) (hps q hq).2.2.1
      have hspace : ∀ q ∈ ps, (trim ∘ ([' '] ++ ·)) q = q := by
        intro q hq
        rw [Function.comp_apply, trim_append_of_blank blank_space, (hps q hq).1.trim_eq]
      have hjoin : joinWith ", ".toList (p :: ps) = _ := joinWith_cons_gap ',' [' '] p ps
      rw [parseParams, hjoin, splitOn_joinWith hcomma (List.cons_ne_nil _ _), List.map_cons, List.map_map, hp.1.trim_eq,
        List.map_congr_left hspace, List.map_id', List.filter_eq_self]
      intro q hq
      simpa using (h q hq).2.1

theorem trimmed_render {s : Signature} (h : Trimmed s.name) : Trimmed s.render := by
  have hhead : (s.name ++ "(".toList).head?.any isBlank = false := by
    rw [List.head?_append]
    cases hc : s.name.head? with
    | none => rfl
    | some c =>
        have hname := h.head
        rwa [hc] at hname
  have hlast : (joinWith ", ".toList s.params ++ ")".toList).getLast?.any isBlank = false := by
    rw [List.getLast?_append]
    rfl
  rw [render, List.append_assoc]
  exact trimmed_append (by simp) (by simp) hhead hlast

/-- Reading a signature that was read and written down gives it back. -/
theorem Readable.parse_render {s : Signature} (h : s.Readable) : parse s.render = s := by
  have hrender : s.render = s.name ++ '(' :: (joinWith ", ".toList s.params ++ ')' :: []) := by
    simp [render]
  have hclose : ')' ∉ joinWith ", ".toList s.params := not_mem_joinWith (by decide) fun p hp => (h.params p hp).2.2.2
  unfold parse
  rw [(trimmed_render h.name).trim_eq, hrender]
  dsimp only
  rw [takeWhile_ne_append h.no_open, dropWhile_ne_append h.no_open]
  dsimp only
  rw [takeWhile_ne_append hclose, parseParams_joinWith h.params, h.name.trim_eq]
  -- parameters are read back unless a closing parenthesis stands before them, and then there are none
  by_cases hparams : s.params = []
  · rw [hparams, ite_self, ← hparams]
  · rw [if_neg fun hc => h.no_close hparams (List.contains_iff_mem.mp hc)]

example : (parse "f)a ( b".toList).render = "f)a()".toList := by decide

end Signature

/-! ## Statements -/

namespace Statement

/-- The statement as a line of Flow. -/
def render : Statement → Text
  | .comment text => "-- ".toList ++ text
  | .blockEnd => "end".toList
  | .define signature => "define ".toList ++ signature.render
  | .returnValue value => "return ".toList ++ value
  | .say value => "say ".toList ++ value
  | .bind name value => "let ".toList ++ name ++ " = ".toList ++ value
  | .dropped text => text
  | .ifThen condition => "if ".toList ++ condition ++ " then".toList
  | .elseBranch => "else".toList
  | .loopTimes count => "loop ".toList ++ count ++ " times".toList
  | .whileDo condition => "while ".toList ++ condition ++ " do".toList
  | .grow name => "grow ".toList ++ name
  | .breakLoop => "break".toList
  | .continueLoop => "continue".toList
  | .expression text => text

variable {line : Text} {s : Statement}

/-- A form is the one of a line when it fits and none before it does. -/
theorem ofLine_of_form (k : Nat) {form : Text → Option Statement} (hform : forms[k]? = some form)
    (hbefore : (forms.take k).all (fun f => (f line).isNone) = true) (h : form line = some s) : ofLine line = s := by
  obtain ⟨hlt, hget⟩ := List.getElem?_eq_some_iff.mp hform
  have hforms : forms = forms.take k ++ form :: forms.drop (k + 1) := by
    rw [← hget, List.getElem_cons_drop, List.take_append_drop]
  have hnone : (forms.take k).findSome? (· line) = none := by
    rw [List.findSome?_eq_none_iff]
    intro f hf
    simpa using List.all_eq_true.mp hbefore f hf
  rw [ofLine, hforms, List.findSome?_append, hnone, List.findSome?_cons, h]
  rfl

/-- Reading the line of a statement gives the statement back. -/
def ReadsBack (s : Statement) : Prop :=
  trim s.render ≠ [] ∧ ofLine (trim s.render) = s

theorem readsBack_of_append {a b : Text} (hrender : s.render = a ++ b) (ha : a ≠ []) (hb : b ≠ [])
    (hhead : a.head?.any isBlank = false) (hlast : b.getLast?.any isBlank = false) (hs : ofLine (a ++ b) = s) :
    ReadsBack s := by
  unfold ReadsBack
  rw [hrender, (trimmed_append ha hb hhead hlast).trim_eq]
  exact ⟨fun h => ha (List.append_eq_nil_iff.mp h).1, hs⟩

/-! ### One form after another -/

theorem readsBack_comment {text : Text} (h : Trimmed text) : ReadsBack (.comment text) := by
  by_cases hne : text = []
  · subst hne
    exact ⟨by decide, by decide⟩
  · have hline : ofLine ("-- ".toList ++ text) = .comment text := by
      refine ofLine_of_form 0 rfl rfl ?_
      show some (Statement.comment (trim ([' '] ++ text))) = _
      rw [trim_append_of_blank blank_space, h.trim_eq]
    exact readsBack_of_append rfl (by decide) hne (by decide) h.last hline

theorem readsBack_define {signature : Signature} (h : signature.Readable) : ReadsBack (.define signature) := by
  have hline : ofLine ("define ".toList ++ signature.render) = .define signature := by
    refine ofLine_of_form 2 rfl rfl ?_
    show some (Statement.define (.parse signature.render)) = _
    rw [h.parse_render]
  have hne : signature.render ≠ [] := by simp [Signature.render]
  exact readsBack_of_append rfl (by decide) hne (by decide) (Signature.trimmed_render h.name).last hline

theorem ofLine_bind {name tail value : Text} (hname : Trimmed name) (hequals : '=' ∉ name) (htail : trim tail = value) :
    ofLine ("let ".toList ++ (name ++ [' '] ++ '=' :: tail)) = .bind name value := by
  have hcut : cut? "=".toList (name ++ [' '] ++ '=' :: tail) = some (name ++ [' '], tail) := by
    refine cut?_append ?_ tail
    rw [List.mem_append]
    rintro (hc | hc)
    · exact hequals hc
    · exact absurd hc (by decide)
  refine ofLine_of_form 5 rfl rfl ?_
  show some (ofBinding _ (name ++ [' '] ++ '=' :: tail)) = _
  rw [ofBinding, hcut]
  dsimp only
  rw [hname.trim_append_of_blank blank_space, htail]

theorem render_bind (name value : Text) :
    (Statement.bind name value).render = "let ".toList ++ (name ++ [' '] ++ '=' :: [' ']) ++ value := by
  have hequals : " = ".toList = [' '] ++ '=' :: [' '] := by decide
  show "let ".toList ++ name ++ " = ".toList ++ value = _
  rw [hequals, List.append_assoc "let ".toList, ← List.append_assoc name]

theorem readsBack_bind {name value : Text} (hname : Trimmed name) (hequals : '=' ∉ name) (hvalue : Trimmed value) :
    ReadsBack (.bind name value) := by
  by_cases hne : value = []
  · -- without a value the line ends at the equals sign
    have hrender : (Statement.bind name value).render = "let ".toList ++ (name ++ [' '] ++ '=' :: []) ++ [' '] := by
      rw [render_bind, hne, List.append_nil, List.append_cons _ '=' [' '], ← List.append_assoc]
    have htrimmed : Trimmed ("let ".toList ++ (name ++ [' '] ++ '=' :: [])) :=
      trimmed_append (by decide) (by simp) (by decide) (by rw [List.getLast?_append]; rfl)
    unfold ReadsBack
    rw [hrender, htrimmed.trim_append_of_blank blank_space]
    exact ⟨by simp, ofLine_bind hname hequals hne.symm⟩
  · have hline : ofLine ("let ".toList ++ (name ++ [' '] ++ '=' :: ([' '] ++ value))) = .bind name value :=
      ofLine_bind hname hequals (by rw [trim_append_of_blank blank_space, hvalue.trim_eq])
    refine readsBack_of_append (render_bind name value) (by simp) hne (by rfl) hvalue.last ?_
    rw [List.append_assoc, List.append_assoc (name ++ [' '])]
    exact hline

theorem enclosed?_render (lead tail : String) (make : Text → Statement) {text : Text} (h : Trimmed text) :
    enclosed? lead tail make (lead.toList ++ text ++ ([' '] ++ tail.toList)) = some (make text) := by
  have hbetween : between? lead.toList tail.toList (lead.toList ++ text ++ ([' '] ++ tail.toList)) =
      some (text ++ [' ']) := by
    rw [between?_eq_some_iff]
    simp
  rw [enclosed?, hbetween, Option.map_some, h.trim_append_of_blank blank_space]

theorem readsBack_ifThen {condition : Text} (h : Trimmed condition) : ReadsBack (.ifThen condition) :=
  readsBack_of_append rfl (by simp) (by decide) (by rfl) (by decide)
    (ofLine_of_form 6 rfl rfl (enclosed?_render "if " "then" _ h))

theorem readsBack_loopTimes {count : Text} (h : Trimmed count) : ReadsBack (.loopTimes count) :=
  readsBack_of_append rfl (by simp) (by decide) (by rfl) (by decide)
    (ofLine_of_form 8 rfl rfl (enclosed?_render "loop " "times" _ h))

theorem readsBack_whileDo {condition : Text} (h : Trimmed condition) : ReadsBack (.whileDo condition) :=
  readsBack_of_append rfl (by simp) (by decide) (by rfl) (by decide)
    (ofLine_of_form 9 rfl rfl (enclosed?_render "while " "do" _ h))

theorem readsBack_grow {name : Text} (h : Trimmed name) (hne : name ≠ []) : ReadsBack (.grow name) := by
  have hline : ofLine ("grow ".toList ++ name) = .grow name := by
    refine ofLine_of_form 10 rfl rfl ?_
    show some (Statement.grow (trim name)) = _
    rw [h.trim_eq]
  exact readsBack_of_append rfl (by decide) hne (by decide) h.last hline

/-- A line that is its own rendering reads back as what it was read as. -/
theorem readsBack_of_render_eq (h : Trimmed line) (hne : line ≠ []) (hrender : s.render = line) (hs : ofLine line = s) :
    ReadsBack s := by
  unfold ReadsBack
  rw [hrender, h.trim_eq]
  exact ⟨hne, hs⟩

theorem readsBack_ofBinding {binding : Text} (h : Trimmed line) (hne : line ≠ [])
    (hs : ofLine line = ofBinding line binding) : ReadsBack (ofBinding line binding) := by
  unfold ofBinding at hs ⊢
  split
  · rename_i name value hcut
    have hequals : '=' ∉ trim name := fun hc => not_mem_of_cut? hcut ((isInfix_trim name).subset hc)
    exact readsBack_bind (trimmed_trim name) hequals (trimmed_trim value)
  · rename_i hcut
    rw [hcut] at hs
    exact readsBack_of_render_eq h hne rfl hs

/-- A line that starts with a word and a blank goes on behind them. -/
theorem trim_rest_ne_nil {lead rest : Text} (h : Trimmed (lead ++ [' '] ++ rest)) : trim rest ≠ [] := by
  have hlast := h.last
  rw [List.getLast?_append] at hlast
  cases hc : rest.getLast? with
  | none =>
      rw [hc, Option.none_or, List.getLast?_append] at hlast
      cases hlast
  | some c =>
      rw [hc] at hlast
      exact trim_ne_nil (List.mem_of_getLast? hc) hlast

/-! ### Every line -/

/-- Whatever a line was read as is read again from the line that it is rendered as. -/
theorem readsBack_ofLine (h : Trimmed line) (hne : line ≠ []) : ReadsBack (ofLine line) := by
  rcases ofLine_cases line with ⟨form, hform, hs⟩ | hs
  · simp only [forms, List.mem_cons, List.not_mem_nil, or_false] at hform
    have whole {word : String} {r : Statement} (hrender : r.render = word.toList)
        (hs : wholeLine? word r line = some (ofLine line)) : ReadsBack (ofLine line) := by
      unfold wholeLine? at hs
      split at hs
      · rename_i hline
        have hr : r = ofLine line := Option.some.inj hs
        exact readsBack_of_render_eq h hne (by rw [← hr, hrender, hline]) rfl
      · cases hs
    rcases hform with rfl | rfl | rfl | rfl | rfl | rfl | rfl | rfl | rfl | rfl | rfl | rfl | rfl
    · obtain ⟨rest, _, hmake⟩ := Option.map_eq_some_iff.mp hs
      rw [← hmake]
      exact readsBack_comment (trimmed_trim rest)
    · exact whole rfl hs
    · obtain ⟨rest, _, hmake⟩ := Option.map_eq_some_iff.mp hs
      rw [← hmake]
      exact readsBack_define (Signature.readable_parse rest)
    · obtain ⟨rest, hrest, hmake⟩ := Option.map_eq_some_iff.mp hs
      exact readsBack_of_render_eq h hne (by rw [← hmake]; exact (after?_eq_some_iff.mp hrest).symm) rfl
    · obtain ⟨rest, hrest, hmake⟩ := Option.map_eq_some_iff.mp hs
      exact readsBack_of_render_eq h hne (by rw [← hmake]; exact (after?_eq_some_iff.mp hrest).symm) rfl
    · obtain ⟨binding, _, hmake⟩ := Option.map_eq_some_iff.mp hs
      rw [← hmake]
      exact readsBack_ofBinding h hne hmake.symm
    · obtain ⟨text, _, hmake⟩ := Option.map_eq_some_iff.mp hs
      rw [← hmake]
      exact readsBack_ifThen (trimmed_trim text)
    · exact whole rfl hs
    · obtain ⟨text, _, hmake⟩ := Option.map_eq_some_iff.mp hs
      rw [← hmake]
      exact readsBack_loopTimes (trimmed_trim text)
    · obtain ⟨text, _, hmake⟩ := Option.map_eq_some_iff.mp hs
      rw [← hmake]
      exact readsBack_whileDo (trimmed_trim text)
    · obtain ⟨rest, hrest, hmake⟩ := Option.map_eq_some_iff.mp hs
      have hline : line = "grow".toList ++ [' '] ++ rest := after?_eq_some_iff.mp hrest
      rw [← hmake]
      exact readsBack_grow (trimmed_trim rest) (trim_rest_ne_nil (hline ▸ h))
    · exact whole rfl hs
    · exact whole rfl hs
  · rw [hs]
    exact readsBack_of_render_eq h hne rfl hs

theorem newline_not_mem_render (h : ∀ t ∈ s.texts, '\n' ∉ t) : '\n' ∉ s.render := by
  have append {a b : Text} (ha : '\n' ∉ a) (hb : '\n' ∉ b) : '\n' ∉ a ++ b := by
    rw [List.mem_append]
    exact fun hc => hc.elim ha hb
  cases s with
  | comment text => exact append (by decide) (h text (by simp [texts]))
  | define signature =>
      have hjoin : '\n' ∉ joinWith ", ".toList signature.params :=
        not_mem_joinWith (by decide) fun p hp => h p (by simp [texts, hp])
      exact append (by decide) (append (append (append (h signature.name (by simp [texts])) (by decide)) hjoin) (by decide))
  | returnValue value => exact append (by decide) (h value (by simp [texts]))
  | say value => exact append (by decide) (h value (by simp [texts]))
  | bind name value =>
      exact append (append (append (by decide) (h name (by simp [texts]))) (by decide)) (h value (by simp [texts]))
  | dropped text => exact h text (by simp [texts])
  | ifThen condition => exact append (append (by decide) (h condition (by simp [texts]))) (by decide)
  | loopTimes count => exact append (append (by decide) (h count (by simp [texts]))) (by decide)
  | whileDo condition => exact append (append (by decide) (h condition (by simp [texts]))) (by decide)
  | grow name => exact append (by decide) (h name (by simp [texts]))
  | expression text => exact h text (by simp [texts])
  | blockEnd => decide
  | elseBranch => decide
  | breakLoop => decide
  | continueLoop => decide

end Statement

/-! ## Programs -/

/-- The program with one line for each statement. -/
def renderAll (ss : List Statement) : Text :=
  joinWith "\n".toList (ss.map Statement.render)

theorem statementsFrom_render (first : Int) {ss : List Statement} (h : ∀ s ∈ ss, s.ReadsBack) :
    statementsFrom first (ss.map Statement.render) = ss.mapIdx fun i s => ⟨first + i, s⟩ := by
  induction ss generalizing first with
  | nil => rfl
  | cons s ss ih =>
      obtain ⟨⟨hne, hs⟩, hss⟩ := List.forall_mem_cons.mp h
      have hline (i : Nat) : first + 1 + (i : Int) = first + ((i + 1 : Nat) : Int) := by omega
      rw [List.map_cons, statementsFrom, if_neg (by simpa using hne), hs, ih _ hss, List.mapIdx_cons]
      simp [hline]

theorem statements_renderAll {ss : List Statement} (h : ∀ s ∈ ss, s.ReadsBack) (hnewline : ∀ s ∈ ss, '\n' ∉ s.render) :
    statements (renderAll ss) = ss.mapIdx fun i s => ⟨(i : Int) + 1, s⟩ := by
  cases ss with
  | nil => rfl
  | cons s ss =>
      have hlines : lines (renderAll (s :: ss)) = (s :: ss).map Statement.render := by
        refine splitOn_joinWith ?_ (by simp)
        intro l hl
        obtain ⟨r, hr, rfl⟩ := List.mem_map.mp hl
        exact hnewline r hr
      rw [statements, hlines, statementsFrom_render 1 h]
      simp [Int.add_comm]

theorem readsBack_of_mem_statements {source : Text} {n : Numbered} (h : n ∈ statements source) :
    n.statement.ReadsBack := by
  obtain ⟨i, raw, _, hne, rfl⟩ := exists_line_of_mem_statementsFrom h
  exact Statement.readsBack_ofLine (trimmed_trim raw) hne

theorem map_statement_mapIdx (ss : List Statement) :
    (ss.mapIdx fun i s => (⟨(i : Int) + 1, s⟩ : Numbered)).map Numbered.statement = ss := by
  refine List.ext_getElem? fun i => ?_
  cases hi : ss[i]? <;> simp [hi]

/-- A program written anew, one line for each of its statements, has the same statements, on lines one, two, three and so
on, and the same translation. -/
theorem statements_rendered (source : Text) :
    statements (renderAll ((statements source).map Numbered.statement)) =
      ((statements source).map Numbered.statement).mapIdx (fun i s => ⟨(i : Int) + 1, s⟩) ∧
    transpile (renderAll ((statements source).map Numbered.statement)) = transpile source := by
  have hread : statements (renderAll ((statements source).map Numbered.statement)) =
      ((statements source).map Numbered.statement).mapIdx (fun i s => ⟨(i : Int) + 1, s⟩) := by
    refine statements_renderAll ?_ ?_
    · intro s hs
      obtain ⟨n, hn, rfl⟩ := List.mem_map.mp hs
      exact readsBack_of_mem_statements hn
    · intro s hs
      obtain ⟨n, hn, rfl⟩ := List.mem_map.mp hs
      exact Statement.newline_not_mem_render fun t ht => newline_not_mem_texts hn ht
  -- the lines have other numbers now, which the translation does not see
  refine ⟨hread, Cpp.Generator.assemble_run_congr ?_⟩
  rw [hread, map_statement_mapIdx]

end FlowLang

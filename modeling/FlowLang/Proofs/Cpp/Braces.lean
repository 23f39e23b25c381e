import FlowLang.Proofs.Cpp.Expression
import FlowLang.Proofs.Cpp.Program
import FlowLang.Proofs.Cpp.Standing
import FlowLang.Proofs.Statement.Texts
import FlowLang.Proofs.Text.Balance

/-!
# The braces of generated programs

In a well-nested program every brace that is written is closed, in each of the two buffers. A definition inside a block of
the main program makes the scope forget the block, but the text of the block is closed all the same.
-/

namespace FlowLang

open Text Cpp

/-! ## Well-nested statements -/

/-- Statements in which every block and every definition is closed by its own `end`, and an `else` stands only in an `if`,
once. A definition can stand anywhere in the main program, also inside a block, but not inside a definition. -/
inductive WellNested : Mode → List Statement → Prop
  | nil {m} : WellNested m []
  | simple {m s} : s.effect = .stays → WellNested m [s]
  | append {m as bs} : WellNested m as → WellNested m bs → WellNested m (as ++ bs)
  | block {m s kind body} : s.effect = .opens kind → WellNested m body → WellNested m (s :: (body ++ [.blockEnd]))
  | branch {m condition body other} : WellNested m body → WellNested m other →
      WellNested m (.ifThen condition :: (body ++ .elseBranch :: (other ++ [.blockEnd])))
  | definition {signature body} : WellNested .function body →
      WellNested .main (.define signature :: (body ++ [.blockEnd]))

/-! ## The braces of lines -/

def isBrace (c : Char) : Bool :=
  c == '\x7b' || c == '\x7d'

theorem untouched_isBrace : Untouched isBrace where
  blank := eq_false_of_isBlank ['\x7b', '\x7d'] rfl (by simp [isBrace])
  word := by decide

/-- The braces of lines, one after another. -/
def braces (ls : List Text) : Text :=
  ls.flatten.filter isBrace

@[simp] theorem braces_nil : braces [] = [] := rfl

@[simp] theorem braces_cons (t : Text) (ls : List Text) : braces (t :: ls) = t.filter isBrace ++ braces ls := by
  simp [braces]

@[simp] theorem braces_append (as bs : List Text) : braces (as ++ bs) = braces as ++ braces bs := by
  simp [braces]

theorem braces_singleton (t : Text) : braces [t] = t.filter isBrace := by
  rw [braces_cons, braces_nil, List.append_nil]

theorem braces_indented (level : Nat) (ls : List Text) : braces (ls.map (Scope.indented level)) = braces ls := by
  induction ls with
  | nil => rfl
  | cons t ls ih =>
      have hspaces : (List.replicate (4 * level) ' ').filter isBrace = [] := by
        simp [isBrace]
      rw [List.map_cons, braces_cons, braces_cons, ih, Scope.indented, List.filter_append, hspaces, List.nil_append]

theorem braces_blank {ls : List Text} (h : ∀ line ∈ ls, line = []) : braces ls = [] := by
  simp only [braces, List.flatten_eq_nil_iff.mpr h, List.filter_nil]

/-! ## The braces of a statement -/

/-- The braces that a statement writes. -/
def Effect.braces : Effect → Text
  | .stays => []
  | .opens _ | .defines _ => ['\x7b']
  | .alternates => ['\x7d', '\x7b']
  | .closes => ['\x7d']

theorem braces_around (before after : String) (value : Text) (h : value.filter isBrace = []) :
    braces [before.toList ++ (translate value).text ++ after.toList] =
      before.toList.filter isBrace ++ after.toList.filter isBrace := by
  rw [braces_singleton, List.filter_append, List.filter_append, filter_translate untouched_isBrace, h, List.append_nil]

theorem braces_declaration {signature : Signature} (hname : signature.name.filter isBrace = [])
    (hparams : ∀ p ∈ signature.params, p.filter isBrace = []) :
    signature.declaration.filter isBrace = [] := by
  have hjoin : (joinWith ", ".toList (signature.params.map ("auto ".toList ++ ·))).filter isBrace = [] := by
    rw [filter_joinWith (by decide), List.filter_flatten, List.flatten_eq_nil_iff]
    intro l hl
    rw [List.map_map] at hl
    obtain ⟨p, hp, rfl⟩ := List.mem_map.mp hl
    rw [Function.comp_apply, List.filter_append, hparams p hp]
    rfl
  unfold Signature.declaration
  rw [List.filter_append, List.filter_append, List.filter_append, List.filter_append, hname, hjoin]
  rfl

/-- A statement whose texts have no braces writes those of its effect. -/
theorem braces_code {s : Statement} (h : ∀ t ∈ s.texts, t.filter isBrace = []) : braces s.code = s.effect.braces := by
  rw [Statement.code_eq_written]
  cases s with
  | comment text =>
      rw [Statement.written, braces_singleton, List.filter_append, h text (by simp [Statement.texts])]
      rfl
  | define signature =>
      have hname := h signature.name (by simp [Statement.texts])
      have hparams : ∀ p ∈ signature.params, p.filter isBrace = [] := fun p hp => h p (by simp [Statement.texts, hp])
      rw [Statement.written, braces_singleton, List.filter_append, braces_declaration hname hparams]
      rfl
  | bind name value =>
      have hname := h name (by simp [Statement.texts])
      have hvalue := h value (by simp [Statement.texts])
      rw [Statement.written, braces_singleton, List.filter_append, List.filter_append, List.filter_append,
        List.filter_append, filter_translate untouched_isBrace, hname, hvalue]
      rfl
  | grow name =>
      rw [Statement.written, braces_singleton, List.filter_append, List.filter_append, List.filter_append,
        h name (by simp [Statement.texts])]
      rfl
  | expression text => exact braces_around "" ";" text (h text (by simp [Statement.texts]))
  | returnValue value => exact braces_around "return " ";" value (h value (by simp [Statement.texts]))
  | say value => exact braces_around "std::cout << " " << std::endl;" value (h value (by simp [Statement.texts]))
  | ifThen condition => exact braces_around "if (" ") \x7b" condition (h condition (by simp [Statement.texts]))
  | whileDo condition => exact braces_around "while (" ") \x7b" condition (h condition (by simp [Statement.texts]))
  | loopTimes count =>
      exact braces_around "for (int _i = 0; _i < " "; _i++) \x7b" count (h count (by simp [Statement.texts]))
  | blockEnd => rfl
  | elseBranch => rfl
  | dropped text => rfl
  | breakLoop => rfl
  | continueLoop => rfl

namespace Cpp.Scope

variable {s t u : Scope} {n : Numbered}

/-- The braces of a statement go to the buffer that takes its line. -/
theorem braces_place (s : Scope) (h : ∀ t ∈ n.statement.texts, t.filter isBrace = []) (m : Mode) :
    braces ((s.place n).buffer m) =
      braces (s.buffer m) ++ if m = s.target n then n.statement.effect.braces else [] := by
  obtain ⟨level, blank, hblank, hbuffer⟩ := exists_buffer_place s n
  rw [hbuffer, braces_append]
  split
  · rw [braces_append, braces_indented, braces_code h, braces_blank hblank, List.append_nil]
  · rfl

/-! ## Steps -/

/-- The second scope has written balanced braces since the first, and is as deep in the same function or in the main
program. In the main program the depth says nothing: a definition forgets it. -/
structure Balances (s t : Scope) : Prop where
  mode : t.mode = s.mode
  depth : s.mode = .function → t.depth = s.depth
  buffer : ∀ m, Grows '\x7b' '\x7d' (braces (s.buffer m)) (braces (t.buffer m))

/-- The second scope is inside one block more than the first. -/
structure Enters (s t : Scope) : Prop where
  mode : t.mode = s.mode
  depth : s.mode = .function → t.depth = s.depth + 1
  here : GrowsOpen '\x7b' '\x7d' (braces (s.buffer s.mode)) (braces (t.buffer s.mode))
  elsewhere : ∀ m, m ≠ s.mode → Grows '\x7b' '\x7d' (braces (s.buffer m)) (braces (t.buffer m))

theorem Balances.refl (s : Scope) : Balances s s :=
  ⟨rfl, fun _ => rfl, fun _ => .refl _⟩

theorem Balances.trans (hst : Balances s t) (htu : Balances t u) : Balances s u where
  mode := htu.mode.trans hst.mode
  depth hs := (htu.depth (hst.mode.trans hs)).trans (hst.depth hs)
  buffer m := (hst.buffer m).trans (htu.buffer m)

theorem Enters.trans (hst : Enters s t) (htu : Balances t u) : Enters s u where
  mode := htu.mode.trans hst.mode
  depth hs := (htu.depth (hst.mode.trans hs)).trans (hst.depth hs)
  here := hst.here.trans (htu.buffer _)
  elsewhere m hm := (hst.elsewhere m hm).trans (htu.buffer m)

variable (htexts : ∀ t ∈ n.statement.texts, t.filter isBrace = [])
include htexts

theorem balances_place_of_stays (h : n.statement.effect = .stays) : Balances s (s.place n) where
  mode := by rw [place_of_stays h, mode_write]
  depth _ := by rw [place_of_stays h, depth_write]
  buffer m := by
    rw [braces_place s htexts, h]
    simpa [Effect.braces] using Grows.refl _

theorem enters_place_of_opens {kind : BlockKind} (h : n.statement.effect = .opens kind) : Enters s (s.place n) := by
  have htarget : s.target n = s.mode := target_of_effect (by simp [h])
  refine ⟨by rw [place_of_opens h, mode_openBlock, mode_write],
    fun _ => by rw [place_of_opens h, depth_openBlock, depth_write], ?_, ?_⟩
  · rw [braces_place s htexts, htarget, if_pos rfl, h]
    exact (Grows.refl _).opened
  · intro m hm
    rw [braces_place s htexts, htarget, if_neg hm, List.append_nil]
    exact .refl _

/-- A definition enters its block from outside all blocks. -/
theorem enters_place_of_defines {signature : Signature} (h : n.statement.effect = .defines signature) :
    Enters s.outside (s.place n) := by
  have htarget : s.target n = .function := target_of_defines h
  refine ⟨by rw [place_of_defines h, mode_openBlock, mode_write],
    fun _ => by rw [place_of_defines h, depth_openBlock, depth_write], ?_, ?_⟩
  · rw [braces_place s htexts, htarget, mode_outside, if_pos rfl, h, buffer_outside]
    exact (Grows.refl _).opened
  · intro m hm
    rw [mode_outside] at hm
    rw [braces_place s htexts, htarget, if_neg hm, List.append_nil, buffer_outside]
    exact .refl _

theorem Enters.place_of_alternates (hst : Enters s t) (h : n.statement.effect = .alternates) : Enters s (t.place n) := by
  have htarget : t.target n = s.mode := (target_of_effect (by simp [h])).trans hst.mode
  refine ⟨?_, ?_, ?_, ?_⟩
  · rw [Scope.place_of_alternates h, mode_openBlock, mode_write, mode_closeBlock, hst.mode]
  · intro hs
    rw [Scope.place_of_alternates h, depth_openBlock, depth_write, depth_closeBlock, hst.depth hs, Nat.add_sub_cancel]
  · rw [braces_place t htexts, htarget, if_pos rfl, h]
    show GrowsOpen _ _ _ (_ ++ ['\x7d', '\x7b'])
    rw [List.append_cons]
    exact (hst.here.closed (by decide)).opened
  · intro m hm
    rw [braces_place t htexts, htarget, if_neg hm, List.append_nil]
    exact hst.elsewhere m hm

theorem Enters.grows_of_closes (hst : Enters s t) (h : n.statement.effect = .closes) (m : Mode) :
    Grows '\x7b' '\x7d' (braces (s.buffer m)) (braces ((t.place n).buffer m)) := by
  have htarget : t.target n = s.mode := (target_of_effect (by simp [h])).trans hst.mode
  rw [braces_place t htexts, htarget, h]
  by_cases hm : m = s.mode
  · rw [if_pos hm, hm]
    exact hst.here.closed (by decide)
  · rw [if_neg hm, List.append_nil]
    exact hst.elsewhere m hm

theorem Enters.balances_of_closes (hst : Enters s t) (hs : s.FunctionOpen) (h : n.statement.effect = .closes) :
    Balances s (t.place n) := by
  refine ⟨?_, ?_, hst.grows_of_closes htexts h⟩
  · rw [mode_place_of_closes h]
    cases hm : s.mode with
    | main =>
        have ht : t.mode = .main := hst.mode.trans hm
        rw [ht, ite_self]
    | function =>
        -- inside a function a block is open around the one that is closed, so the function goes on
        have hpos := hs.depth_pos hm
        have hdepth := hst.depth hm
        rw [if_neg (by omega), hst.mode, hm]
  · intro hm
    rw [depth_place_of_closes h, hst.depth hm, Nat.add_sub_cancel]

theorem Enters.balances_of_closes_outside (hst : Enters s.outside t) (hs : s.mode = .main)
    (h : n.statement.effect = .closes) : Balances s (t.place n) := by
  refine ⟨?_, ?_, ?_⟩
  · have hdepth : t.depth = 1 := hst.depth rfl
    rw [mode_place_of_closes h, hdepth, if_pos (Nat.le_refl 1), hs]
  · intro hm
    rw [hs] at hm
    cases hm
  · intro m
    simpa using hst.grows_of_closes htexts h m

end Cpp.Scope

/-! ## Runs -/

open Scope

theorem WellNested.balances {m : Mode} {ss : List Statement} (h : WellNested m ss) {s : Scope} {ns : List Numbered}
    (hs : s.FunctionOpen) (hmode : s.mode = m) (hns : ns.map Numbered.statement = ss)
    (htexts : ∀ n ∈ ns, ∀ t ∈ n.statement.texts, t.filter isBrace = []) : Balances s (s.placeAll ns) := by
  -- over the grammar, for every scope: a body starts in the one that its opener leaves
  induction h generalizing s ns with
  | nil =>
      rw [List.map_eq_nil_iff.mp hns]
      exact .refl s
  | simple hstays =>
      obtain ⟨n, _, rfl, hn, hnil⟩ := List.map_eq_cons_iff.mp hns
      rw [List.map_eq_nil_iff.mp hnil] at htexts ⊢
      exact balances_place_of_stays (htexts n (by simp)) (hn ▸ hstays)
  | append _ _ iha ihb =>
      obtain ⟨as, bs, rfl, ha, hb⟩ := List.map_eq_append_iff.mp hns
      have hfirst := iha hs hmode ha (fun n hn => htexts n (List.mem_append_left _ hn))
      rw [placeAll_append]
      exact hfirst.trans (ihb (hs.placeAll as) (hfirst.mode.trans hmode) hb
        (fun n hn => htexts n (List.mem_append_right _ hn)))
  | block hopens _ ih =>
      obtain ⟨o, nb, e, rfl, ho, hb, he⟩ := exists_eq_of_map_block hns
      have hentered := enters_place_of_opens (s := s) (htexts o (by simp)) (ho ▸ hopens)
      have hbody := ih (hs.place o) (hentered.mode.trans hmode) hb (fun n hn => htexts n (by simp [hn]))
      rw [placeAll_cons, placeAll_append]
      exact (hentered.trans hbody).balances_of_closes (htexts e (by simp)) hs he
  | branch _ _ ihBody ihOther =>
      obtain ⟨o, nb, a, no, e, rfl, ho, hb, ha, hother, he⟩ := exists_eq_of_map_branch hns
      have hopens : o.statement.effect = .opens .ifThen := by rw [ho]; rfl
      have hentered := enters_place_of_opens (s := s) (htexts o (by simp)) hopens
      have hbody := ihBody (hs.place o) (hentered.mode.trans hmode) hb (fun n hn => htexts n (by simp [hn]))
      have helse := (hentered.trans hbody).place_of_alternates (htexts a (by simp)) ha
      have hrest := ihOther (((hs.place o).placeAll nb).place a) (helse.mode.trans hmode) hother
        (fun n hn => htexts n (by simp [hn]))
      rw [placeAll_cons, placeAll_append, placeAll_cons, placeAll_append]
      exact (helse.trans hrest).balances_of_closes (htexts e (by simp)) hs he
  | definition _ ih =>
      obtain ⟨d, nb, e, rfl, hd, hb, he⟩ := exists_eq_of_map_block hns
      -- the body balances against the scope outside all blocks, whatever was open around the definition
      have hentered := enters_place_of_defines (s := s) (htexts d (by simp)) (by rw [hd]; rfl)
      have hbody := ih (hs.place d) hentered.mode hb (fun n hn => htexts n (by simp [hn]))
      rw [placeAll_cons, placeAll_append]
      exact (hentered.trans hbody).balances_of_closes_outside (htexts e (by simp)) hmode he

/-! ## Programs -/

theorem braces_lines (h : Headers) : braces h.lines = [] := by
  obtain ⟨iostream, string, cmath⟩ := h
  cases iostream <;> cases string <;> cases cmath <;> rfl

/-- Around the main program stands one more pair of braces. -/
theorem braces_outputLines (g : Generator) :
    braces g.outputLines =
      braces g.scope.functionLines ++ '\x7b' :: (braces g.scope.mainLines ++ ['\x7d']) := by
  unfold Generator.outputLines
  rw [braces_append, braces_append, braces_append, braces_cons, braces_cons, braces_cons, braces_lines]
  simp only [List.append_assoc]
  rfl

theorem balanced_joinWith {ls : List Text} (h : Balanced '\x7b' '\x7d' (braces ls)) :
    Balanced '\x7b' '\x7d' (joinWith "\n".toList ls) := by
  refine .of_filter (p := isBrace) rfl rfl ?_
  rw [filter_joinWith rfl]
  exact h

theorem balanced_assemble {g : Generator} (h : Balanced '\x7b' '\x7d' (braces g.outputLines)) :
    Balanced '\x7b' '\x7d' g.assemble := by
  refine .of_filter (p := isBrace) rfl rfl ?_
  unfold Generator.assemble
  have hend : "\n".toList.filter isBrace = [] := rfl
  rw [List.filter_append, filter_joinWith hend, hend, List.append_nil]
  exact h

theorem filter_isBrace_of_isInfix {source t : Text} (hopen : '\x7b' ∉ source) (hclose : '\x7d' ∉ source)
    (h : t <:+: source) : t.filter isBrace = [] := by
  rw [List.filter_eq_nil_iff]
  intro c hc hbrace
  simp only [isBrace, Bool.or_eq_true, beq_iff_eq] at hbrace
  rcases hbrace with rfl | rfl
  · exact hopen (h.subset hc)
  · exact hclose (h.subset hc)

/-- From a well-nested program without braces comes a program with balanced braces, and its functions and its main program
are each balanced on their own. -/
theorem transpile_balanced (source : Text) (hopen : '\x7b' ∉ source) (hclose : '\x7d' ∉ source)
    (h : WellNested .main ((statements source).map Numbered.statement)) :
    Balanced '\x7b' '\x7d' (transpile source) ∧
    Balanced '\x7b' '\x7d'
      (joinWith "\n".toList (Generator.initial.run (statements source)).scope.functionLines) ∧
    Balanced '\x7b' '\x7d' (joinWith "\n".toList (Generator.initial.run (statements source)).scope.mainLines) := by
  have hrun : Balances Scope.initial (Scope.initial.placeAll (statements source)) :=
    h.balances functionOpen_initial rfl rfl
      fun n hn t ht => filter_isBrace_of_isInfix hopen hclose (isInfix_of_mem_statements hn ht)
  have hbuffer (m : Mode) : Balanced '\x7b' '\x7d' (braces ((Scope.initial.placeAll (statements source)).buffer m)) := by
    obtain ⟨w, hw, hgrown⟩ := hrun.buffer m
    have hinitial : braces (Scope.initial.buffer m) = [] := by cases m <;> rfl
    rw [hgrown, hinitial, List.nil_append]
    exact hw
  have hscope : (Generator.initial.run (statements source)).scope = Scope.initial.placeAll (statements source) :=
    Generator.scope_run _ _
  refine ⟨balanced_assemble ?_, balanced_joinWith ?_, balanced_joinWith ?_⟩
  · rw [braces_outputLines, hscope]
    exact (hbuffer .function).append ((hbuffer .main).enclose (by decide))
  · rw [hscope]
    exact hbuffer .function
  · rw [hscope]
    exact hbuffer .main

/-- A definition inside a block of the main program, before the `else` of the block. -/
theorem transpile_balanced_nested :
    WellNested .main ((statements "if a then\ndefine f()\nbreak\nend\nelse\nend".toList).map
      Numbered.statement) ∧
    Balanced '\x7b' '\x7d' (transpile "if a then\ndefine f()\nbreak\nend\nelse\nend".toList) := by
  have h : WellNested .main ((statements "if a then\ndefine f()\nbreak\nend\nelse\nend".toList).map
      Numbered.statement) := by
    have hstatements : (statements "if a then\ndefine f()\nbreak\nend\nelse\nend".toList).map
        Numbered.statement =
          .ifThen "a".toList :: ([.define ⟨"f".toList, []⟩, .breakLoop, .blockEnd] ++
            .elseBranch :: ([] ++ [.blockEnd])) := by decide
    rw [hstatements]
    exact .branch (.definition (.simple rfl)) .nil
  exact ⟨h, (transpile_balanced _ (by decide) (by decide) h).1⟩

end FlowLang

import FlowLang.Runner

/-!
# The scratch directory of a run

A run makes a directory, writes the program into it, has it built and runs it. Once the program is written, whatever ends the
run goes through the removal of the directory, an error that is raised too. Before that the run ends where it stands. So a
directory is left behind in one case only: it was made and is there, and the program cannot be written into it, be it for an
error of the outside or because it is no text.
-/

namespace FlowLang.Runner

/-- How far a run has come. -/
inductive Stage where
  | begun
  | made (directory : Text)
  /-- the program is in the directory -/
  | written (directory : Text)
  /-- the program is built -/
  | built (directory : Text)
  /-- the result is known, and the directory is still to be removed -/
  | judged (directory : Text) (result : Except RunFault Verdict)
  | over (result : Except RunFault Verdict)

/-- A run, and the directories that it made and that are there. -/
structure Progress where
  stage : Stage := .begun
  present : List Text := []

section

variable (settings : Settings) (longestWait : Option Nat)

/-- One step of a run, or the loss of its directory before the program is in it. -/
inductive Step : Progress → Progress → Prop where
  | refuse (ds : List Text) : Step ⟨.begun, ds⟩ ⟨.over (.ok (.failed .scratch)), ds⟩
  | make (ds : List Text) (d : Text) : Step ⟨.begun, ds⟩ ⟨.made d, d :: ds⟩
  | vanish (ds : List Text) (d : Text) : Step ⟨.made d, ds⟩ ⟨.made d, ds.erase d⟩
  | leave (ds : List Text) (d : Text) : Step ⟨.made d, ds⟩ ⟨.over (.ok (.failed .scratch)), ds⟩
  | write {ds : List Text} {d : Text} (hpresent : d ∈ ds) : Step ⟨.made d, ds⟩ ⟨.written d, ds⟩
  | build (ds : List Text) (d : Text) {p q : ProcessOutcome}
      (hawaited : awaited longestWait settings.compileTimeout p = .ok q) (hbuilt : buildFailure? settings q = none) :
      Step ⟨.written d, ds⟩ ⟨.built d, ds⟩
  | reject (ds : List Text) (d : Text) {p q : ProcessOutcome} {why : RunFailure}
      (hawaited : awaited longestWait settings.compileTimeout p = .ok q) (hfailed : buildFailure? settings q = some why) :
      Step ⟨.written d, ds⟩ ⟨.judged d (.ok (.failed why)), ds⟩
  /-- the compiler cannot be waited for -/
  | abandon (ds : List Text) (d : Text) {p : ProcessOutcome} {fault : RunFault}
      (hawaited : awaited longestWait settings.compileTimeout p = .error fault) :
      Step ⟨.written d, ds⟩ ⟨.judged d (.error fault), ds⟩
  | run (ds : List Text) (d : Text) (p : ProcessOutcome) :
      Step ⟨.built d, ds⟩ ⟨.judged d ((awaited longestWait settings.runTimeout p).map (judge settings)), ds⟩
  | remove (ds : List Text) (d : Text) (r : Except RunFault Verdict) : Step ⟨.judged d r, ds⟩ ⟨.over r, ds.erase d⟩

/-- Any number of steps. -/
inductive Reaches (x : Progress) : Progress → Prop where
  | refl : Reaches x x
  | step {y z : Progress} (hreaches : Reaches x y) (hstep : Step settings longestWait y z) : Reaches x z

/-- What comes of a program that is written. -/
def resultOf (build run : ProcessOutcome) : Except RunFault Verdict :=
  match awaited longestWait settings.compileTimeout build with
  | .error fault => .error fault
  | .ok p =>
    match buildFailure? settings p with
    | some why => .ok (.failed why)
    | none => (awaited longestWait settings.runTimeout run).map (judge settings)

end

variable {cpp : Text} {id : Int} {settings : Settings} {longestWait : Option Nat} {outside : Outside}

/-! ## The report is the end of the steps -/

theorem compileAndRun_of_ready (cpp : Text) (id : Int) (settings : Settings) {d : Text}
    (hscratch : outside.scratch = .ready d) :
    (compileAndRun cpp id settings outside).effects.leftover = [] ∧
      (compileAndRun cpp id settings outside).result =
        resultOf settings outside.longestWait outside.build outside.run := by
  rw [compileAndRun, hscratch, resultOf]
  dsimp only
  cases awaited outside.longestWait settings.compileTimeout outside.build with
  | error fault => exact ⟨rfl, rfl⟩
  | ok p =>
      dsimp only
      cases buildFailure? settings p <;> exact ⟨rfl, rfl⟩

/-- A program that is written is built and run, and its directory is removed. -/
theorem reaches_of_written (build run : ProcessOutcome) {d : Text} {x : Progress}
    (hwritten : Reaches settings longestWait x ⟨.written d, [d]⟩) :
    Reaches settings longestWait x ⟨.over (resultOf settings longestWait build run), []⟩ := by
  have hremove (r : Except RunFault Verdict) (hjudged : Reaches settings longestWait x ⟨.judged d r, [d]⟩) :
      Reaches settings longestWait x ⟨.over r, []⟩ := by
    have hover := hjudged.step (.remove [d] d r)
    rwa [List.erase_cons_head] at hover
  rw [resultOf]
  cases hawaited : awaited longestWait settings.compileTimeout build with
  | error fault => exact hremove _ (hwritten.step (.abandon [d] d hawaited))
  | ok p =>
      dsimp only
      cases hbuild : buildFailure? settings p with
      | some why => exact hremove _ (hwritten.step (.reject [d] d hawaited hbuild))
      | none => exact hremove _ ((hwritten.step (.build [d] d hawaited hbuild)).step (.run [d] d run))

theorem reaches_compileAndRun (cpp : Text) (id : Int) (settings : Settings) (outside : Outside) :
    Reaches settings outside.longestWait {}
      ⟨.over (compileAndRun cpp id settings outside).result,
        (compileAndRun cpp id settings outside).effects.leftover⟩ := by
  have hmade (d : Text) : Reaches settings outside.longestWait {} ⟨.made d, [d]⟩ := Reaches.refl.step (.make [] d)
  cases hscratch : outside.scratch with
  | refused e =>
      rw [compileAndRun, hscratch]
      exact Reaches.refl.step (.refuse [])
  | vanished d =>
      have hgone := (hmade d).step (.vanish [d] d)
      rw [List.erase_cons_head] at hgone
      rw [compileAndRun, hscratch]
      exact hgone.step (.leave [] d)
  | unwritable d e =>
      rw [compileAndRun, hscratch]
      exact (hmade d).step (.leave [d] d)
  | ready d =>
      obtain ⟨hleftover, hresult⟩ := compileAndRun_of_ready cpp id settings hscratch
      rw [hleftover, hresult]
      exact reaches_of_written outside.build outside.run ((hmade d).step (.write (List.mem_singleton_self d)))

/-! ## Nothing else is an end of the steps -/

/-- What is present at each stage, and the outside that brought the run there. -/
def Accounted (settings : Settings) (longestWait : Option Nat) : Progress → Prop
  | ⟨.begun, ds⟩ => ds = []
  | ⟨.made d, ds⟩ => ds = [d] ∨ ds = []
  | ⟨.written d, ds⟩ => ds = [d]
  | ⟨.built d, ds⟩ =>
    ds = [d] ∧ ∃ build p, awaited longestWait settings.compileTimeout build = .ok p ∧ buildFailure? settings p = none
  | ⟨.judged d r, ds⟩ => ds = [d] ∧ ∃ build run, r = resultOf settings longestWait build run
  | ⟨.over r, ds⟩ =>
    ∃ outside : Outside, outside.longestWait = longestWait ∧ ∀ cpp id,
      (compileAndRun cpp id settings outside).result = r ∧ (compileAndRun cpp id settings outside).effects.leftover = ds

theorem Accounted.step {x y : Progress} (h : Accounted settings longestWait x) (hstep : Step settings longestWait x y) :
    Accounted settings longestWait y := by
  cases hstep with
  | refuse ds =>
      obtain rfl := h
      exact ⟨⟨.refused ⟨0, [], none⟩, .timedOut, .timedOut, longestWait⟩, rfl, fun cpp id => ⟨rfl, rfl⟩⟩
  | make ds d =>
      obtain rfl := h
      exact .inl rfl
  | vanish ds d =>
      rcases h with rfl | rfl
      · exact .inr (List.erase_cons_head d [])
      · exact .inr rfl
  | leave ds d =>
      -- where the directory is gone the outside has taken it
      rcases h with rfl | rfl
      · exact ⟨⟨.unwritable d ⟨0, [], none⟩, .timedOut, .timedOut, longestWait⟩, rfl, fun cpp id => ⟨rfl, rfl⟩⟩
      · exact ⟨⟨.vanished d, .timedOut, .timedOut, longestWait⟩, rfl, fun cpp id => ⟨rfl, rfl⟩⟩
  | write hpresent =>
      rcases h with rfl | rfl
      · exact rfl
      · cases hpresent
  | @build ds d p q hawaited hbuilt => exact ⟨h, p, q, hawaited, hbuilt⟩
  | @reject ds d p q why hawaited hfailed => exact ⟨h, p, .timedOut, by simp only [resultOf, hawaited, hfailed]⟩
  | @abandon ds d p fault hawaited => exact ⟨h, p, .timedOut, by simp only [resultOf, hawaited]⟩
  | run ds d p =>
      obtain ⟨hpresent, build, q, hawaited, hbuilt⟩ := h
      exact ⟨hpresent, build, p, by simp only [resultOf, hawaited, hbuilt]⟩
  | remove ds d r =>
      obtain ⟨rfl, build, run, rfl⟩ := h
      refine ⟨⟨.ready d, build, run, longestWait⟩, rfl, fun cpp id => ?_⟩
      obtain ⟨hleftover, hresult⟩ := @compileAndRun_of_ready ⟨.ready d, build, run, longestWait⟩ cpp id settings d rfl
      exact ⟨hresult, by rw [hleftover, List.erase_cons_head]⟩

theorem Reaches.accounted {x : Progress} (hreaches : Reaches settings longestWait {} x) :
    Accounted settings longestWait x := by
  induction hreaches with
  | refl => exact rfl
  | step _ hstep ih => exact ih.step hstep

theorem leftover_eq_nil_iff :
    (compileAndRun cpp id settings outside).effects.leftover = [] ↔ ∀ d e, outside.scratch ≠ .unwritable d e := by
  cases hscratch : outside.scratch with
  | refused e => simp [compileAndRun, hscratch, scratchFailure]
  | vanished d => simp [compileAndRun, hscratch, scratchFailure]
  | unwritable d e => simp [compileAndRun, hscratch, scratchFailure]
  | ready d => simp [(compileAndRun_of_ready cpp id settings hscratch).1]

theorem leftover_loose_eq_nil_iff {program : LooseText} :
    (compileAndRunLoose program id settings outside).effects.leftover = [] ↔
      (∀ d e, outside.scratch ≠ .unwritable d e) ∧ ∀ d, outside.scratch = .ready d → program.text? ≠ none := by
  by_cases h : program.text? = none ∧ ∃ d, outside.scratch = .ready d
  · obtain ⟨htext, d, hscratch⟩ := h
    simp [compileAndRunLoose, htext, hscratch]
  · have heq : compileAndRunLoose program id settings outside =
        compileAndRun (program.text?.getD []) id settings outside := by
      unfold compileAndRunLoose
      split
      · exact absurd ⟨‹_›, _, ‹_›⟩ h
      · rfl
    rw [heq, leftover_eq_nil_iff]
    exact ⟨fun hwritable => ⟨hwritable, fun d hready htext => h ⟨htext, d, hready⟩⟩, And.left⟩

/-- The steps of a run come to an end with the result and the directories that are reported, and to no other. They leave a
directory behind if and only if it is there and the program cannot be written into it. A program that is no text never can. -/
theorem directories_left (settings : Settings) :
    (∀ longestWait r ds, Reaches settings longestWait {} ⟨.over r, ds⟩ ↔
      ∃ outside : Outside, outside.longestWait = longestWait ∧ ∀ cpp id,
        (compileAndRun cpp id settings outside).result = r ∧
          (compileAndRun cpp id settings outside).effects.leftover = ds) ∧
      (∀ cpp id outside,
        ((compileAndRun cpp id settings outside).effects.leftover = [] ↔ ∀ d e, outside.scratch ≠ .unwritable d e) ∧
          ∀ d e, outside.scratch = .unwritable d e →
            (compileAndRun cpp id settings outside).effects.leftover = [d] ∧
              (compileAndRun cpp id settings outside).result = .ok (.failed .scratch)) ∧
      ∀ program id outside,
        (compileAndRunLoose program id settings outside).effects.leftover = [] ↔
          (∀ d e, outside.scratch ≠ .unwritable d e) ∧ ∀ d, outside.scratch = .ready d → program.text? ≠ none := by
  refine ⟨fun longestWait r ds => ⟨Reaches.accounted, ?_⟩, fun cpp id outside => ⟨leftover_eq_nil_iff, ?_⟩,
    fun program id outside => leftover_loose_eq_nil_iff⟩
  · rintro ⟨outside, rfl, hreport⟩
    have hends := reaches_compileAndRun [] 0 settings outside
    rwa [(hreport [] 0).1, (hreport [] 0).2] at hends
  · intro d e hscratch
    rw [compileAndRun, hscratch]
    exact ⟨rfl, rfl⟩

/-- The disk is full when the program is to be written, and a program is half of a surrogate pair. -/
theorem directory_left_behind :
    (compileAndRun "int main() {}".toList 1 {}
      { scratch := .unwritable "/tmp/flowc_1_a".toList ⟨28, "No space left on device".toList, none⟩
        build := .exited 0 [] []
        run := .exited 0 [] [] }).effects.leftover = ["/tmp/flowc_1_a".toList] ∧
      (compileAndRunLoose ⟨[.half 0xD800]⟩ 1 {}
        { scratch := .ready "/tmp/flowc_1_a".toList
          build := .exited 0 [] []
          run := .exited 0 [] [] }).effects.leftover = ["/tmp/flowc_1_a".toList] :=
  ⟨rfl, rfl⟩

end FlowLang.Runner

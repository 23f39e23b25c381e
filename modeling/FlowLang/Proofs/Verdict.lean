import FlowLang.Runner
import FlowLang.Proofs.Text.Utf8

/-!
# The verdict on a run

A run goes through three stages: the program is written into a directory, built, and run. The first stage that goes wrong
decides what is said, and the table of these texts has one row for every way in which a stage can end. A call of the outside
may end in a fault instead of a result. Every stage has clauses for the faults that it can meet, so none of them goes past it,
but for one: a process that was started may be one that cannot be waited for as long as the settings allow.
-/

namespace FlowLang

open Text

/-- The program is written and built. -/
structure Outside.Builds (o : Outside) (settings : Settings) : Prop where
  ready : ∃ directory, o.scratch = .ready directory
  built : ∃ out err, o.build = .exited 0 out err
  buildAwaited : o.CanWait settings.compileTimeout

/-- Everything that is asked of the outside goes well. -/
structure Outside.Succeeds (o : Outside) (settings : Settings) : Prop extends o.Builds settings where
  ran : ∃ out err, o.run = .exited 0 out err
  runAwaited : o.CanWait settings.runTimeout

/-- The compiler and the program can be waited for as long as the settings allow. -/
structure Outside.Awaitable (o : Outside) (settings : Settings) : Prop where
  build : o.CanWait settings.compileTimeout
  run : o.CanWait settings.runTimeout

namespace Runner

variable {cpp : Text} {id : Int} {settings : Settings} {outside : Outside}

/-! ## Stages -/

theorem buildFailure?_eq_none_iff {p : ProcessOutcome} :
    buildFailure? settings p = none ↔ ∃ out err, p = .exited 0 out err := by
  cases p with
  | failed e => simp [buildFailure?]
  | timedOut => simp [buildFailure?]
  | exited code out err => simp [buildFailure?]

theorem success_judge_iff {p : ProcessOutcome} : (judge settings p).success = true ↔ ∃ out err, p = .exited 0 out err := by
  cases p with
  | failed e => simp [judge, Verdict.success]
  | timedOut => simp [judge, Verdict.success]
  | exited code out err => by_cases h : code = 0 <;> simp [judge, Verdict.success, h]

theorem awaited_eq_ok_iff {timeout : Binary64} {p q : ProcessOutcome} :
    awaited outside.longestWait timeout p = .ok q ↔ p = q ∧ ((∃ e, p = .failed e) ∨ outside.CanWait timeout) := by
  by_cases hwait : outside.CanWait timeout
  · simp [awaited_of_canWait hwait, hwait]
  · by_cases hstarted : ∃ e, p = .failed e
    · obtain ⟨e, rfl⟩ := hstarted
      simp [awaited]
    · simp [awaited_of_started hwait (not_exists.mp hstarted), hstarted, hwait]

theorem awaited_eq_error_iff {timeout : Binary64} {p : ProcessOutcome} {fault : RunFault} :
    awaited outside.longestWait timeout p = .error fault ↔
      fault = .overlongWait timeout ∧ (∀ e, p ≠ .failed e) ∧ ¬outside.CanWait timeout := by
  by_cases hwait : outside.CanWait timeout
  · simp [awaited_of_canWait hwait, hwait]
  · by_cases hstarted : ∃ e, p = .failed e
    · obtain ⟨e, rfl⟩ := hstarted
      simp [awaited]
    · have hstarted := not_exists.mp hstarted
      simp [awaited_of_started hwait hstarted, hstarted, hwait, eq_comm]

/-- How far a run comes, and what is reported then. -/
inductive Course (cpp : Text) (id : Int) (settings : Settings) (o : Outside) : RunReport → Prop where
  | stopped {e : OsError} {leftover : List Text} (hscratch : ∀ d, o.scratch ≠ .ready d) :
      Course cpp id settings o (scratchFailure settings id e leftover)
  | abandoned {d : Text} {fault : RunFault} (hscratch : o.scratch = .ready d)
      (hawaited : awaited o.longestWait settings.compileTimeout o.build = .error fault) :
      Course cpp id settings o ⟨.error fault, { calls := [makeDirectory settings id, buildCall settings d cpp] }⟩
  | rejected {d : Text} {why : RunFailure} (hscratch : o.scratch = .ready d)
      (hawaited : awaited o.longestWait settings.compileTimeout o.build = .ok o.build)
      (hbuild : buildFailure? settings o.build = some why) :
      Course cpp id settings o ⟨.ok (.failed why), { calls := [makeDirectory settings id, buildCall settings d cpp] }⟩
  | judged {d : Text} (hscratch : o.scratch = .ready d) (hbuilds : o.Builds settings) :
      Course cpp id settings o
        ⟨(awaited o.longestWait settings.runTimeout o.run).map (judge settings),
          { calls := [makeDirectory settings id, buildCall settings d cpp, runCall settings d] }⟩

theorem course (cpp : Text) (id : Int) (settings : Settings) (outside : Outside) :
    Course cpp id settings outside (compileAndRun cpp id settings outside) := by
  unfold compileAndRun
  cases hscratch : outside.scratch with
  | refused e => exact .stopped (by simp [hscratch])
  | vanished d => exact .stopped (by simp [hscratch])
  | unwritable d e => exact .stopped (by simp [hscratch])
  | ready d =>
      dsimp only
      cases hawaited : awaited outside.longestWait settings.compileTimeout outside.build with
      | error fault => exact .abandoned hscratch hawaited
      | ok build =>
          obtain ⟨rfl, hwait⟩ := awaited_eq_ok_iff.mp hawaited
          dsimp only
          cases hbuild : buildFailure? settings outside.build with
          | some why => exact .rejected hscratch hawaited hbuild
          | none =>
              obtain ⟨out, err, hbuilt⟩ := buildFailure?_eq_none_iff.mp hbuild
              have hwait : outside.CanWait settings.compileTimeout := hwait.resolve_left (by simp [hbuilt])
              exact .judged hscratch ⟨⟨d, hscratch⟩, ⟨out, err, hbuilt⟩, hwait⟩

/-- A process was started that cannot be waited for this long. -/
inductive Overlong (settings : Settings) (o : Outside) : Binary64 → Prop where
  | build {d : Text} (hscratch : o.scratch = .ready d) (hstarted : ∀ e, o.build ≠ .failed e)
      (hwait : ¬o.CanWait settings.compileTimeout) : Overlong settings o settings.compileTimeout
  | run (hbuilds : o.Builds settings) (hstarted : ∀ e, o.run ≠ .failed e)
      (hwait : ¬o.CanWait settings.runTimeout) : Overlong settings o settings.runTimeout

namespace Course

variable {report : RunReport}

theorem result_of_not_ready (h : Course cpp id settings outside report) (hscratch : ∀ d, outside.scratch ≠ .ready d) :
    report.result = .ok (.failed .scratch) := by
  cases h with
  | stopped => rfl
  | abandoned hready => exact absurd hready (hscratch _)
  | rejected hready => exact absurd hready (hscratch _)
  | judged hready => exact absurd hready (hscratch _)

theorem result_of_buildFailure (h : Course cpp id settings outside report) {d : Text} {why : RunFailure}
    (hscratch : outside.scratch = .ready d)
    (hawaited : awaited outside.longestWait settings.compileTimeout outside.build = .ok outside.build)
    (hbuild : buildFailure? settings outside.build = some why) : report.result = .ok (.failed why) := by
  cases h with
  | stopped hnone => exact absurd hscratch (hnone d)
  | abandoned _ hfault => simp [hawaited] at hfault
  | rejected _ _ hwhy =>
      rw [hbuild] at hwhy
      rw [Option.some.inj hwhy]
  | judged _ hbuilds => simp [buildFailure?_eq_none_iff.mpr hbuilds.built] at hbuild

theorem result_of_builds (h : Course cpp id settings outside report) (hbuilds : outside.Builds settings) :
    report.result = (awaited outside.longestWait settings.runTimeout outside.run).map (judge settings) := by
  obtain ⟨d, hready⟩ := hbuilds.ready
  cases h with
  | stopped hscratch => exact absurd hready (hscratch d)
  | abandoned _ hfault => simp [awaited_of_canWait hbuilds.buildAwaited] at hfault
  | rejected _ _ hwhy => simp [buildFailure?_eq_none_iff.mpr hbuilds.built] at hwhy
  | judged => rfl

theorem returns (h : Course cpp id settings outside report) (hwait : outside.Awaitable settings) :
    ∃ v, report.result = .ok v := by
  cases h with
  | stopped => exact ⟨_, rfl⟩
  | abandoned _ hfault => simp [awaited_of_canWait hwait.build] at hfault
  | rejected => exact ⟨_, rfl⟩
  | judged => exact ⟨judge settings outside.run, by simp only [awaited_of_canWait hwait.run, Except.map]⟩

theorem raises_iff (h : Course cpp id settings outside report) {fault : RunFault} :
    report.result = .error fault ↔ ∃ timeout, fault = .overlongWait timeout ∧ Overlong settings outside timeout := by
  constructor
  · intro hresult
    cases h with
    | stopped => cases hresult
    | abandoned hscratch hfault =>
        obtain rfl := Except.error.inj hresult
        obtain ⟨rfl, hstarted, hwait⟩ := awaited_eq_error_iff.mp hfault
        exact ⟨_, rfl, .build hscratch hstarted hwait⟩
    | rejected => cases hresult
    | judged _ hbuilds =>
        cases hawaited : awaited outside.longestWait settings.runTimeout outside.run with
        | ok p => simp [hawaited, Except.map] at hresult
        | error raised =>
            simp only [hawaited, Except.map] at hresult
            obtain rfl := Except.error.inj hresult
            obtain ⟨rfl, hstarted, hwait⟩ := awaited_eq_error_iff.mp hawaited
            exact ⟨_, rfl, .run hbuilds hstarted hwait⟩
  · rintro ⟨timeout, rfl, hoverlong⟩
    cases hoverlong with
    | build hready hstarted hwait =>
        have hfault := awaited_of_started hwait hstarted
        cases h with
        | stopped hscratch => exact absurd hready (hscratch _)
        | abandoned _ hraised =>
            obtain rfl := Except.error.inj (hraised.symm.trans hfault)
            rfl
        | rejected _ hawaited => simp [hfault] at hawaited
        | judged _ hbuilds => exact absurd hbuilds.buildAwaited hwait
    | run hbuilds hstarted hwait => rw [h.result_of_builds hbuilds, awaited_of_started hwait hstarted, Except.map]

theorem success_iff (h : Course cpp id settings outside report) :
    (∃ v, report.result = .ok v ∧ v.success = true) ↔ outside.Succeeds settings := by
  constructor
  · rintro ⟨v, hresult, hsuccess⟩
    cases h with
    | stopped =>
        obtain rfl := Except.ok.inj hresult
        cases hsuccess
    | abandoned => cases hresult
    | rejected =>
        obtain rfl := Except.ok.inj hresult
        cases hsuccess
    | judged _ hbuilds =>
        cases hawaited : awaited outside.longestWait settings.runTimeout outside.run with
        | error fault => simp [hawaited, Except.map] at hresult
        | ok p =>
            simp only [hawaited, Except.map] at hresult
            obtain rfl := Except.ok.inj hresult
            obtain ⟨rfl, hwait⟩ := awaited_eq_ok_iff.mp hawaited
            obtain ⟨out, err, hran⟩ := success_judge_iff.mp hsuccess
            exact ⟨hbuilds, ⟨out, err, hran⟩, hwait.resolve_left (by simp [hran])⟩
  · intro hgood
    refine ⟨judge settings outside.run, ?_, success_judge_iff.mpr hgood.ran⟩
    rw [h.result_of_builds hgood.toBuilds, awaited_of_canWait hgood.runAwaited, Except.map]

/-- The compiler is called once there is a directory, and what it is given to build is the program. -/
theorem build_mem_iff (h : Course cpp id settings outside report) {command : List Text} {timeout : Binary64} {source : Text} :
    .build command timeout source ∈ report.effects.calls ↔
      ∃ directory, outside.scratch = .ready directory ∧
        command = settings.compiler :: settings.compilerFlags ++
          ["-o".toList, directory ++ "/program".toList, directory ++ "/program.cpp".toList] ∧
        timeout = settings.compileTimeout ∧ source = cpp := by
  cases h with
  | stopped hscratch => simp [scratchFailure, makeDirectory, hscratch]
  | abandoned hscratch => simp [hscratch, makeDirectory, buildCall, programFile, sourceFile]
  | rejected hscratch => simp [hscratch, makeDirectory, buildCall, programFile, sourceFile]
  | judged hscratch => simp [hscratch, makeDirectory, buildCall, runCall, programFile, sourceFile]

theorem run_mem_iff (h : Course cpp id settings outside report) {command : List Text} {timeout : Binary64} :
    .run command timeout ∈ report.effects.calls ↔
      ∃ directory, outside.scratch = .ready directory ∧ outside.Builds settings ∧
        command = [directory ++ "/program".toList] ∧ timeout = settings.runTimeout := by
  cases h with
  | stopped hscratch => simp [scratchFailure, makeDirectory, hscratch]
  | abandoned _ hfault =>
      have hnot : ¬outside.Builds settings := fun hbuilds => by simp [awaited_of_canWait hbuilds.buildAwaited] at hfault
      simp [hnot, makeDirectory, buildCall]
  | rejected _ _ hwhy =>
      have hnot : ¬outside.Builds settings := fun hbuilds => by
        simp [buildFailure?_eq_none_iff.mpr hbuilds.built] at hwhy
      simp [hnot, makeDirectory, buildCall]
  | judged hscratch hbuilds => simp [hscratch, hbuilds, makeDirectory, buildCall, runCall, programFile]

theorem makeDirectory_mem_iff (h : Course cpp id settings outside report) {stem : Text} {parent : Option Text} :
    .makeDirectory stem parent ∈ report.effects.calls ↔ .makeDirectory stem parent = makeDirectory settings id := by
  cases h with
  | stopped => simp [scratchFailure]
  | abandoned => simp [buildCall]
  | rejected => simp [buildCall]
  | judged => simp [buildCall, runCall]

theorem calls_isPrefix (h : Course cpp id settings outside report) : ∃ d, report.effects.calls <+:
    [makeDirectory settings id, buildCall settings d cpp, runCall settings d] := by
  cases h with
  | stopped => exact ⟨[], List.prefix_append [_] [_, _]⟩
  | @abandoned d => exact ⟨d, List.prefix_append [_, _] [_]⟩
  | @rejected d => exact ⟨d, List.prefix_append [_, _] [_]⟩
  | @judged d => exact ⟨d, List.prefix_refl _⟩

theorem head?_calls (h : Course cpp id settings outside report) :
    report.effects.calls.head? = some (makeDirectory settings id) := by
  cases h <;> rfl

end Course

/-! ## Faults -/

/-- What a call of the outside ends in instead of a result. -/
inductive Fault where
  | os (e : OsError)
  | timeout
  | raised (fault : RunFault)
  deriving DecidableEq, Repr

/-- What is said of the faults of one kind. A missing file is an error of the operating system, too. -/
inductive Clause where
  | missing (why : RunFailure)
  | os (why : OsError → RunFailure)
  | timeout (why : RunFailure)

def Clause.catch? : Clause → Fault → Option RunFailure
  | .missing why, .os e => if e.isMissing then some why else none
  | .os why, .os e => some (why e)
  | .timeout why, .timeout => some why
  | _, _ => none

/-- Goes on with a result. The first clause that catches a fault ends the run; a fault that no clause catches is raised. -/
def guarded {α : Type} (clauses : List Clause) (result : Except Fault α) (next : α → Except Fault Verdict) :
    Except Fault Verdict :=
  match result with
  | .ok a => next a
  | .error fault =>
    match clauses.findSome? (·.catch? fault) with
    | some why => .ok (.failed why)
    | none => .error fault

def scratchResult : ScratchOutcome → Except Fault Text
  | .ready directory => .ok directory
  | .refused e => .error (.os e)
  | .vanished directory => .error (.os (.missing (sourceFile directory)))
  | .unwritable _ e => .error (.os e)

def processResult : Except RunFault ProcessOutcome → Except Fault (Int × Bytes × Bytes)
  | .ok (.exited code out err) => .ok (code, out, err)
  | .ok .timedOut => .error .timeout
  | .ok (.failed e) => .error (.os e)
  | .error fault => .error (.raised fault)

def scratchClauses : List Clause :=
  [.os fun _ => .scratch]

def buildClauses (settings : Settings) : List Clause :=
  [.missing (.compilerMissing settings.compiler), .os (.compilerNotStarted settings.compiler),
    .timeout (.buildTimedOut settings.compileTimeout)]

def runClauses (settings : Settings) : List Clause :=
  [.timeout (.programTimedOut settings.runTimeout), .os .programNotStarted]

/-- A run in which faults are raised and have to be caught. -/
def attempt (settings : Settings) (outside : Outside) : Except Fault Verdict :=
  guarded scratchClauses (scratchResult outside.scratch) fun _ =>
    guarded (buildClauses settings)
        (processResult (awaited outside.longestWait settings.compileTimeout outside.build)) fun (code, _, err) =>
      if code ≠ 0 then .ok (.failed (.buildRejected (printedText err)))
      else
        guarded (runClauses settings)
            (processResult (awaited outside.longestWait settings.runTimeout outside.run)) fun (code, out, err) =>
          if code ≠ 0 then .ok (.failed (.programFailed (printedText err))) else .ok (.printed (printedText out))

/-- No clause of the last stage catches a wait that cannot be made. -/
theorem guarded_runClauses (settings : Settings) (run : Except RunFault ProcessOutcome) :
    guarded (runClauses settings) (processResult run) (fun (code, out, err) =>
        if code ≠ 0 then .ok (.failed (.programFailed (printedText err))) else .ok (.printed (printedText out))) =
      (run.map (judge settings)).mapError .raised := by
  cases run with
  | error fault => rfl
  | ok p =>
      cases p with
      | failed e => rfl
      | timedOut => rfl
      | exited code out err =>
          by_cases hcode : code = 0
          · subst hcode
            rfl
          · simp only [guarded, processResult, judge, Except.map, hcode, ne_eq, not_false_eq_true, if_true, if_false]
            rfl

theorem attempt_eq (cpp : Text) (id : Int) (settings : Settings) (outside : Outside) :
    attempt settings outside = (compileAndRun cpp id settings outside).result.mapError .raised := by
  unfold attempt compileAndRun
  cases outside.scratch with
  | refused e => rfl
  | vanished directory => rfl
  | unwritable directory e => rfl
  | ready directory =>
      cases awaited outside.longestWait settings.compileTimeout outside.build with
      | error fault => rfl
      | ok build =>
          cases build with
          | failed e =>
              by_cases hmissing : e.isMissing = true
              · simp only [guarded, scratchResult, processResult, buildClauses, Clause.catch?, buildFailure?, hmissing,
                  List.findSome?_cons, if_true]
                rfl
              · simp only [guarded, scratchResult, processResult, buildClauses, Clause.catch?, buildFailure?, hmissing,
                  List.findSome?_cons, if_false, Bool.false_eq_true]
                rfl
          | timedOut => rfl
          | exited code out err =>
              by_cases hcode : code = 0
              · simp only [guarded, scratchResult, processResult, buildFailure?, hcode, ne_eq, not_true_eq_false, if_false,
                  if_true]
                exact guarded_runClauses settings _
              · simp only [guarded, scratchResult, processResult, buildFailure?, hcode, ne_eq, not_false_eq_true, if_true,
                  if_false]
                rfl

/-! ## What a process printed -/

/-- Reads what a process printed: UTF-8, in which a byte that no character starts with is replaced, and the two other ends of a
line are read as a line feed. -/
structure Decodes (read : Bytes → Text) : Prop where
  nil : read [] = []
  text {t : Text} (ht : '\r' ∉ t) (bytes : Bytes) : read (Utf8.encode t ++ bytes) = t ++ read bytes
  pair (bytes : Bytes) : read (Utf8.encode ['\r', '\n'] ++ bytes) = '\n' :: read bytes
  lone {c : Char} (hc : c ≠ '\n') (bytes : Bytes) :
    read (Utf8.encode ['\r', c] ++ bytes) = '\n' :: read (Utf8.encode [c] ++ bytes)
  stray {b : UInt8} (hb : 0x80 ≤ b.toNat ∧ b.toNat < 0xC2 ∨ 0xF5 ≤ b.toNat) (bytes : Bytes) :
    read (b :: bytes) = '�' :: read bytes

theorem decodes_printedText : Decodes printedText where
  nil := rfl
  text ht bytes := by rw [printedText, Utf8.decodeLossy_encode_append, unifyNewlines_append ht, printedText]
  pair bytes := by simp [printedText, Utf8.decodeLossy_encode_append, unifyNewlines]
  lone hc bytes := by simp [printedText, Utf8.decodeLossy_encode_append, unifyNewlines, hc]
  stray {b} hb bytes := by
    have hstray : Utf8.tails? b.toNat = none := by
      unfold Utf8.tails?
      grind
    rw [printedText, Utf8.decodeLossy_stray hstray, printedText]
    rfl

/-! ## The table of results -/

/-- What is said, and whether the run counts as a success. A row stands for the first stage that went wrong. -/
inductive Tabled (settings : Settings) (o : Outside) : Text → Bool → Prop where
  | scratch (hscratch : ∀ d, o.scratch ≠ .ready d) : Tabled settings o "Failed to write temp file".toList false
  | compilerMissing {d : Text} {e : OsError} (hscratch : o.scratch = .ready d) (hbuild : o.build = .failed e)
      (he : e.isMissing = true) : Tabled settings o (settings.compiler ++ " not found".toList) false
  | compilerNotStarted {d : Text} {e : OsError} (hscratch : o.scratch = .ready d) (hbuild : o.build = .failed e)
      (he : e.isMissing = false) :
      Tabled settings o ("Failed to start ".toList ++ settings.compiler ++ ": ".toList ++ e.message) false
  | buildRejected {d : Text} {code : Int} {out err : Bytes} (hscratch : o.scratch = .ready d)
      (hbuild : o.build = .exited code out err) (hcode : code ≠ 0) (hwait : o.CanWait settings.compileTimeout) :
      Tabled settings o ("Compilation error:\n".toList ++ printedText err) false
  | buildTimedOut {d : Text} (hscratch : o.scratch = .ready d) (hbuild : o.build = .timedOut)
      (hwait : o.CanWait settings.compileTimeout) :
      Tabled settings o ("Compilation timed out after ".toList ++ settings.compileTimeout.brief ++ "s".toList) false
  | programNotStarted {e : OsError} (hbuilds : o.Builds settings) (hrun : o.run = .failed e) :
      Tabled settings o ("Failed to run: ".toList ++ e.message) false
  | programTimedOut (hbuilds : o.Builds settings) (hrun : o.run = .timedOut) (hwait : o.CanWait settings.runTimeout) :
      Tabled settings o ("Execution timed out after ".toList ++ settings.runTimeout.brief ++ "s".toList) false
  | programFailed {out err : Bytes} {code : Int} (hbuilds : o.Builds settings) (hrun : o.run = .exited code out err)
      (hcode : code ≠ 0) (hwait : o.CanWait settings.runTimeout) :
      Tabled settings o ("Runtime error:\n".toList ++ printedText err) false
  | printed {out err : Bytes} (hbuilds : o.Builds settings) (hrun : o.run = .exited 0 out err)
      (hwait : o.CanWait settings.runTimeout) (hprinted : printedText out ≠ []) : Tabled settings o (printedText out) true
  | silent {out err : Bytes} (hbuilds : o.Builds settings) (hrun : o.run = .exited 0 out err)
      (hwait : o.CanWait settings.runTimeout) (hprinted : printedText out = []) :
      Tabled settings o "(no output)".toList true

variable {text : Text} {success : Bool}

theorem Tabled.ne_nil (h : Tabled settings outside text success) : text ≠ [] := by
  cases h with
  | scratch => decide
  | compilerMissing => exact List.append_ne_nil_of_right_ne_nil _ (by decide)
  | compilerNotStarted =>
      exact List.append_ne_nil_of_left_ne_nil (List.append_ne_nil_of_right_ne_nil _ (by decide)) _
  | buildRejected => exact List.append_ne_nil_of_left_ne_nil (by decide) _
  | buildTimedOut => exact List.append_ne_nil_of_right_ne_nil _ (by decide)
  | programNotStarted => exact List.append_ne_nil_of_left_ne_nil (by decide) _
  | programTimedOut => exact List.append_ne_nil_of_right_ne_nil _ (by decide)
  | programFailed => exact List.append_ne_nil_of_left_ne_nil (by decide) _
  | printed _ _ _ hprinted => exact hprinted
  | silent => decide

/-- The row of a build that went wrong. -/
theorem tabled_of_buildFailure {d : Text} {why : RunFailure} (hscratch : outside.scratch = .ready d)
    (hwait : (∃ e, outside.build = .failed e) ∨ outside.CanWait settings.compileTimeout)
    (hbuild : buildFailure? settings outside.build = some why) : Tabled settings outside why.message false := by
  cases houtcome : outside.build with
  | failed e =>
      rw [houtcome, buildFailure?] at hbuild
      obtain rfl := Option.some.inj hbuild
      cases he : e.isMissing with
      | true => exact .compilerMissing hscratch houtcome he
      | false => exact .compilerNotStarted hscratch houtcome he
  | timedOut =>
      rw [houtcome, buildFailure?] at hbuild
      obtain rfl := Option.some.inj hbuild
      exact .buildTimedOut hscratch houtcome (hwait.resolve_left (by simp [houtcome]))
  | exited code out err =>
      by_cases hcode : code = 0
      · simp [houtcome, buildFailure?, hcode] at hbuild
      · rw [houtcome, buildFailure?, if_neg hcode] at hbuild
        obtain rfl := Option.some.inj hbuild
        exact .buildRejected hscratch houtcome hcode (hwait.resolve_left (by simp [houtcome]))

/-- The row of a program that was run. -/
theorem tabled_of_builds (hbuilds : outside.Builds settings)
    (hwait : (∃ e, outside.run = .failed e) ∨ outside.CanWait settings.runTimeout) :
    Tabled settings outside (judge settings outside.run).output (judge settings outside.run).success := by
  cases hrun : outside.run with
  | failed e => exact .programNotStarted hbuilds hrun
  | timedOut => exact .programTimedOut hbuilds hrun (hwait.resolve_left (by simp [hrun]))
  | exited code out err =>
      have hwait : outside.CanWait settings.runTimeout := hwait.resolve_left (by simp [hrun])
      by_cases hcode : code = 0
      · subst hcode
        by_cases hprinted : printedText out = []
        · rw [judge, if_pos rfl, Verdict.output, if_pos (by simpa using hprinted)]
          exact .silent hbuilds hrun hwait hprinted
        · rw [judge, if_pos rfl, Verdict.output, if_neg (by simpa using hprinted)]
          exact .printed hbuilds hrun hwait hprinted
      · rw [judge, if_neg hcode]
        exact .programFailed hbuilds hrun hcode hwait

theorem Course.tabled {report : RunReport} (h : Course cpp id settings outside report) {v : Verdict}
    (hresult : report.result = .ok v) : Tabled settings outside v.output v.success := by
  cases h with
  | stopped hscratch =>
      obtain rfl := Except.ok.inj hresult
      exact .scratch hscratch
  | abandoned => cases hresult
  | rejected hscratch hawaited hbuild =>
      obtain rfl := Except.ok.inj hresult
      exact tabled_of_buildFailure hscratch (awaited_eq_ok_iff.mp hawaited).2 hbuild
  | judged _ hbuilds =>
      cases hawaited : awaited outside.longestWait settings.runTimeout outside.run with
      | error fault => simp [hawaited, Except.map] at hresult
      | ok p =>
          simp only [hawaited, Except.map] at hresult
          obtain rfl := Except.ok.inj hresult
          obtain ⟨rfl, hwait⟩ := awaited_eq_ok_iff.mp hawaited
          exact tabled_of_builds hbuilds hwait

theorem Tabled.result (h : Tabled settings outside text success) (cpp : Text) (id : Int) :
    ∃ v, (compileAndRun cpp id settings outside).result = .ok v ∧ text = v.output ∧ success = v.success := by
  have hcourse := course cpp id settings outside
  -- the result of a program that was waited for
  have hjudged (hbuilds : outside.Builds settings) {p : ProcessOutcome} (hrun : outside.run = p)
      (hawaited : awaited outside.longestWait settings.runTimeout p = .ok p) :
      (compileAndRun cpp id settings outside).result = .ok (judge settings p) := by
    rw [hcourse.result_of_builds hbuilds, hrun, hawaited, Except.map]
  cases h with
  | scratch hscratch => exact ⟨_, hcourse.result_of_not_ready hscratch, rfl, rfl⟩
  | compilerMissing hscratch hbuild he =>
      refine ⟨_, hcourse.result_of_buildFailure hscratch (by rw [hbuild]; rfl) (by rw [hbuild, buildFailure?, if_pos he]), ?_⟩
      exact ⟨rfl, rfl⟩
  | compilerNotStarted hscratch hbuild he =>
      refine ⟨_, hcourse.result_of_buildFailure hscratch (by rw [hbuild]; rfl)
        (by rw [hbuild, buildFailure?, if_neg (by simp [he])]), ?_⟩
      exact ⟨rfl, rfl⟩
  | buildRejected hscratch hbuild hcode hwait =>
      refine ⟨_, hcourse.result_of_buildFailure hscratch (awaited_of_canWait hwait _)
        (by rw [hbuild, buildFailure?, if_neg hcode]), ?_⟩
      exact ⟨rfl, rfl⟩
  | buildTimedOut hscratch hbuild hwait =>
      refine ⟨_, hcourse.result_of_buildFailure hscratch (awaited_of_canWait hwait _) (by rw [hbuild, buildFailure?]), ?_⟩
      exact ⟨rfl, rfl⟩
  | programNotStarted hbuilds hrun => exact ⟨_, hjudged hbuilds hrun rfl, rfl, rfl⟩
  | programTimedOut hbuilds hrun hwait => exact ⟨_, hjudged hbuilds hrun (awaited_of_canWait hwait _), rfl, rfl⟩
  | programFailed hbuilds hrun hcode hwait =>
      refine ⟨_, hjudged hbuilds hrun (awaited_of_canWait hwait _), ?_⟩
      rw [judge, if_neg hcode]
      exact ⟨rfl, rfl⟩
  | printed hbuilds hrun hwait hprinted =>
      refine ⟨_, hjudged hbuilds hrun (awaited_of_canWait hwait _), ?_⟩
      rw [judge, if_pos rfl, Verdict.output, if_neg (by simpa using hprinted)]
      exact ⟨rfl, rfl⟩
  | silent hbuilds hrun hwait hprinted =>
      refine ⟨_, hjudged hbuilds hrun (awaited_of_canWait hwait _), ?_⟩
      rw [judge, if_pos rfl, Verdict.output, if_pos (by simpa using hprinted)]
      exact ⟨rfl, rfl⟩

theorem tabled_iff (cpp : Text) (id : Int) :
    Tabled settings outside text success ↔
      ∃ v, (compileAndRun cpp id settings outside).result = .ok v ∧ text = v.output ∧ success = v.success := by
  constructor
  · intro h
    exact h.result cpp id
  · rintro ⟨v, hresult, rfl, rfl⟩
    exact (course cpp id settings outside).tabled hresult

/-- A run comes to a verdict if what it starts can be waited for, and raises an error only if a process was started that cannot.
It makes a directory, has the program built once it is there, and runs what was built. The verdict says what the table has for
the first stage that went wrong, and is good exactly if none did. What processes print is decoded. -/
theorem first_failure_decides (cpp : Text) (id : Int) (settings : Settings) (outside : Outside) :
    let report := compileAndRun cpp id settings outside
    (outside.CanWait settings.compileTimeout → outside.CanWait settings.runTimeout → ∃ v, report.result = .ok v) ∧
      (∀ fault, report.result = .error fault ↔
        ∃ timeout, fault = .overlongWait timeout ∧ Overlong settings outside timeout) ∧
      attempt settings outside = report.result.mapError .raised ∧
      (∃ directory, report.effects.calls <+:
        [makeDirectory settings id, buildCall settings directory cpp, runCall settings directory]) ∧
      report.effects.calls.head? = some (.makeDirectory ("flowc_".toList ++ ofInt id ++ "_".toList)
        (settings.scratchDir.filter (!·.isEmpty))) ∧
      (∀ command timeout source, .build command timeout source ∈ report.effects.calls ↔
        ∃ directory, outside.scratch = .ready directory ∧
          command = settings.compiler :: settings.compilerFlags ++
            ["-o".toList, directory ++ "/program".toList, directory ++ "/program.cpp".toList] ∧
          timeout = settings.compileTimeout ∧ source = cpp) ∧
      (∀ command timeout, .run command timeout ∈ report.effects.calls ↔
        ∃ directory, outside.scratch = .ready directory ∧ outside.Builds settings ∧
          command = [directory ++ "/program".toList] ∧ timeout = settings.runTimeout) ∧
      ((∃ v, report.result = .ok v ∧ v.success = true) ↔ outside.Succeeds settings) ∧
      (∀ v, report.result = .ok v → v.output ≠ []) ∧
      (∀ text success, Tabled settings outside text success ↔
        ∃ v, report.result = .ok v ∧ text = v.output ∧ success = v.success) ∧
      Decodes printedText := by
  intro report
  have hcourse : Course cpp id settings outside report := course cpp id settings outside
  refine ⟨fun hbuild hrun => hcourse.returns ⟨hbuild, hrun⟩, fun fault => hcourse.raises_iff,
    attempt_eq cpp id settings outside, hcourse.calls_isPrefix, hcourse.head?_calls, ?_, ?_, hcourse.success_iff, ?_, ?_,
    decodes_printedText⟩
  · exact fun command timeout source => hcourse.build_mem_iff
  · exact fun command timeout => hcourse.run_mem_iff
  · exact fun v hresult => (hcourse.tabled hresult).ne_nil
  · exact fun text success => tabled_iff cpp id

/-- A program that fails and says why, in a line that is no text. -/
theorem first_failure_decides_complaint :
    let o : Outside :=
      { scratch := .ready "/tmp/flowc_1_a".toList
        build := .exited 0 [] []
        run := .exited (-11) [] [98, 255, 13, 10]
        longestWait := some 2147483647 }
    let report := compileAndRun "int main() {}".toList 1 {} o
    o.CanWait ({} : Settings).compileTimeout ∧ o.CanWait ({} : Settings).runTimeout ∧
      (∃ v, report.result = .ok v ∧ v.output = "Runtime error:\nb�\n".toList ∧ v.success = false) ∧
      .build ["g++".toList, "-std=c++17".toList, "-o".toList, "/tmp/flowc_1_a/program".toList,
        "/tmp/flowc_1_a/program.cpp".toList] ({} : Settings).compileTimeout "int main() {}".toList ∈ report.effects.calls := by
  intro o report
  have hbuild : o.CanWait ({} : Settings).compileTimeout := canWait_iff.mpr (by decide)
  have hrun : o.CanWait ({} : Settings).runTimeout := canWait_iff.mpr (by decide)
  obtain ⟨hreturns, -, -, -, -, hbuilt, -, -, -, htable, hdecodes⟩ :=
    first_failure_decides "int main() {}".toList 1 {} o
  have hprinted : printedText [98, 255, 13, 10] = "b�\n".toList :=
    calc printedText [98, 255, 13, 10]
      _ = 'b' :: printedText [255, 13, 10] := hdecodes.text (t := ['b']) (by decide) [255, 13, 10]
      _ = 'b' :: '�' :: printedText [13, 10] := by rw [hdecodes.stray (by decide)]
      _ = 'b' :: '�' :: '\n' :: printedText [] := by rw [← hdecodes.pair []]; rfl
      _ = "b�\n".toList := rfl
  obtain ⟨v, hresult, houtput, hsuccess⟩ := (htable _ _).mp
    (.programFailed ⟨⟨_, rfl⟩, ⟨[], [], rfl⟩, hbuild⟩ rfl (by decide) hrun)
  refine ⟨hbuild, hrun, ⟨v, hresult, ?_, hsuccess.symm⟩, (hbuilt _ _ _).mpr ⟨_, rfl, by decide, rfl, rfl⟩⟩
  rw [← houtput, hprinted]
  rfl

/-- A time limit that the settings accept and no process can be waited for, and a compiler whose name the table has to bear. -/
theorem wait_overlong :
    (compileAndRun "int main() {}".toList 1 { compileTimeout := .ofInt 3000000 }
      { scratch := .ready "/tmp/flowc_1_a".toList
        build := .exited 0 [] []
        run := .exited 0 [] []
        longestWait := some 2147483647 }).result = .error (.overlongWait (.ofInt 3000000)) ∧
      (compileAndRun "int main() {}".toList 1 { compiler := "clang++".toList }
        { scratch := .ready "/tmp/flowc_1_a".toList
          build := .failed ⟨2, "No such file or directory".toList, none⟩
          run := .timedOut }).result.map Verdict.output = .ok "clang++ not found".toList := by
  constructor <;> rfl

end Runner

end FlowLang

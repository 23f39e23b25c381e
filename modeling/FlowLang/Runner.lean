import FlowLang.Settings.Basic

/-!
# Building and running

A C++ program is written into a scratch directory of its own, built by the configured compiler and run. What the outside
does at each stage is given (`Outside`); the runner decides which stage is reached, what is asked of the outside
(`Call`), and what comes of it (`Verdict`). A failure of a stage is told in words. Two errors are not: a process cannot be
waited for as long as the settings say, and a program cannot be written because it is no text (`RunFault`).
-/

namespace FlowLang

open Text

/-- What comes of starting a process. -/
inductive ProcessOutcome where
  | exited (code : Int) (out err : Bytes)
  | timedOut
  | failed (e : OsError)
  deriving DecidableEq, Repr

/-- What comes of making a scratch directory and writing the program into it. -/
inductive ScratchOutcome where
  /-- the directory could not be made -/
  | refused (e : OsError)
  /-- the directory is there and the program is in it -/
  | ready (directory : Text)
  /-- the directory was made and is gone before the program could be written -/
  | vanished (directory : Text)
  /-- the directory is there, but the program could not be written -/
  | unwritable (directory : Text) (e : OsError)
  deriving DecidableEq, Repr

/-- What the outside does at each stage. -/
structure Outside where
  scratch : ScratchOutcome
  build : ProcessOutcome
  run : ProcessOutcome
  /-- for how many milliseconds a process can be waited for; for any time if there is no number -/
  longestWait : Option Nat := none
  deriving DecidableEq, Repr

/-- A process can be waited for this long. -/
def Outside.CanWait (o : Outside) (timeout : Binary64) : Prop :=
  ∀ limit, o.longestWait = some limit → timeout.exceeds limit = false

/-- What is asked of the outside. -/
inductive Call where
  /-- make a directory whose name starts with `stem`, in `parent` or else where temporary files go -/
  | makeDirectory (stem : Text) (parent : Option Text)
  /-- start the compiler while the program's file holds `source` -/
  | build (command : List Text) (timeout : Binary64) (source : Text)
  /-- start the program -/
  | run (command : List Text) (timeout : Binary64)
  deriving DecidableEq, Repr

/-- Why a program was not built or did not run to a good end. -/
inductive RunFailure where
  | scratch
  | compilerMissing (compiler : Text)
  | compilerNotStarted (compiler : Text) (e : OsError)
  | buildTimedOut (limit : Binary64)
  | buildRejected (diagnostics : Text)
  | programTimedOut (limit : Binary64)
  | programNotStarted (e : OsError)
  | programFailed (diagnostics : Text)
  deriving DecidableEq, Repr

/-- The failure in words. -/
def RunFailure.message : RunFailure → Text
  | .scratch => "Failed to write temp file".toList
  | .compilerMissing compiler => compiler ++ " not found".toList
  | .compilerNotStarted compiler e => "Failed to start ".toList ++ compiler ++ ": ".toList ++ e.message
  | .buildTimedOut limit => "Compilation timed out after ".toList ++ limit.brief ++ "s".toList
  | .buildRejected diagnostics => "Compilation error:\n".toList ++ diagnostics
  | .programTimedOut limit => "Execution timed out after ".toList ++ limit.brief ++ "s".toList
  | .programNotStarted e => "Failed to run: ".toList ++ e.message
  | .programFailed diagnostics => "Runtime error:\n".toList ++ diagnostics

/-- What comes of building and running a program. -/
inductive Verdict where
  | printed (output : Text)
  | failed (why : RunFailure)
  deriving DecidableEq, Repr

namespace Verdict

/-- The program was built and ran to a good end. -/
def success : Verdict → Bool
  | .printed _ => true
  | .failed _ => false

/-- What to show: the failure in words, or what the program printed, and a remark if that is nothing. -/
def output : Verdict → Text
  | .printed text => if text.isEmpty then "(no output)".toList else text
  | .failed why => why.message

end Verdict

/-- An error that is not told in words but raised. -/
inductive RunFault where
  /-- a process was started that cannot be waited for as long as it may take -/
  | overlongWait (timeout : Binary64)
  /-- the program holds halves of surrogate pairs -/
  | unencodable (program : LooseText)
  deriving DecidableEq, Repr

/-- What the error says of itself. -/
def RunFault.message : RunFault → Text
  | .overlongWait (.infinity _) => "cannot convert float infinity to integer".toList
  | .overlongWait _ => "timeout is too large".toList
  | .unencodable program => program.encodingFault

/-- What happened outside: the calls, the records in the log, and the directories left behind. -/
structure Effects where
  calls : List Call := []
  logs : List LogRecord := []
  leftover : List Text := []
  deriving DecidableEq, Repr

namespace Effects

/-- Nothing happened. -/
def none : Effects := {}

/-- One happening after another. -/
def append (a b : Effects) : Effects :=
  ⟨a.calls ++ b.calls, a.logs ++ b.logs, a.leftover ++ b.leftover⟩

/-- One record in the log. -/
def log (r : LogRecord) : Effects :=
  { logs := [r] }

end Effects

/-- The verdict, or the error that was raised instead, with everything that happened on the way to it. -/
structure RunReport where
  result : Except RunFault Verdict
  effects : Effects

namespace Runner

/-- What a process printed: invalid bytes are replaced and all line ends are line feeds. -/
def printedText (bytes : Bytes) : Text :=
  unifyNewlines (Utf8.decodeLossy bytes)

/-- The call for a scratch directory. An empty name for its parent counts as none. -/
def makeDirectory (settings : Settings) (id : Int) : Call :=
  .makeDirectory ("flowc_".toList ++ ofInt id ++ "_".toList) (settings.scratchDir.filter (!·.isEmpty))

/-- The file of the program in its directory. -/
def sourceFile (directory : Text) : Text :=
  directory ++ "/program.cpp".toList

/-- The built program in its directory. -/
def programFile (directory : Text) : Text :=
  directory ++ "/program".toList

/-- The call of the compiler. -/
def buildCall (settings : Settings) (directory cpp : Text) : Call :=
  .build (settings.compiler :: settings.compilerFlags
      ++ ["-o".toList, programFile directory, sourceFile directory])
    settings.compileTimeout cpp

/-- The call of the program. -/
def runCall (settings : Settings) (directory : Text) : Call :=
  .run [programFile directory] settings.runTimeout

/-- What is wrong with a build, if anything. Only here a missing file is told apart from other errors. -/
def buildFailure? (settings : Settings) : ProcessOutcome → Option RunFailure
  | .failed e =>
    some (if e.isMissing then .compilerMissing settings.compiler else .compilerNotStarted settings.compiler e)
  | .timedOut => some (.buildTimedOut settings.compileTimeout)
  | .exited code _ err => if code = 0 then none else some (.buildRejected (printedText err))

/-- The verdict on a run. -/
def judge (settings : Settings) : ProcessOutcome → Verdict
  | .failed e => .failed (.programNotStarted e)
  | .timedOut => .failed (.programTimedOut settings.runTimeout)
  | .exited code out err =>
    if code = 0 then .printed (printedText out) else .failed (.programFailed (printedText err))

/-- The record of a program that could not be written. -/
def scratchRecord (id : Int) (e : OsError) : LogRecord :=
  ⟨.warning, "flow #".toList ++ ofInt id ++ ": cannot write scratch source: ".toList ++ e.message⟩

/-- Nothing beyond the scratch directory was reached. -/
def scratchFailure (settings : Settings) (id : Int) (e : OsError) (leftover : List Text) : RunReport :=
  ⟨.ok (.failed .scratch), ⟨[makeDirectory settings id], [scratchRecord id e], leftover⟩⟩

/-- What comes of a process that may take so long. One that was started is waited for, if that can be done. -/
def awaited (longestWait : Option Nat) (timeout : Binary64) : ProcessOutcome → Except RunFault ProcessOutcome
  | .failed e => .ok (.failed e)
  | p => if longestWait.any timeout.exceeds then .error (.overlongWait timeout) else .ok p

/-- Builds and runs a program. The directory is removed at the end, unless the program could not be written into it. -/
def compileAndRun (cpp : Text) (id : Int) (settings : Settings) (outside : Outside) : RunReport :=
  match outside.scratch with
  | .refused e => scratchFailure settings id e []
  | .vanished directory => scratchFailure settings id (.missing (sourceFile directory)) []
  | .unwritable directory e => scratchFailure settings id e [directory]
  | .ready directory =>
    let begun := [makeDirectory settings id, buildCall settings directory cpp]
    match awaited outside.longestWait settings.compileTimeout outside.build with
    | .error fault => ⟨.error fault, { calls := begun }⟩
    | .ok build =>
      match buildFailure? settings build with
      | some why => ⟨.ok (.failed why), { calls := begun }⟩
      | none =>
        ⟨(awaited outside.longestWait settings.runTimeout outside.run).map (judge settings),
          { calls := begun ++ [runCall settings directory] }⟩

/-! ## Waiting -/

variable {outside : Outside} {timeout : Binary64} {p : ProcessOutcome}

theorem canWait_iff : outside.CanWait timeout ↔ outside.longestWait.any timeout.exceeds = false := by
  cases h : outside.longestWait <;> simp [Outside.CanWait, h]

theorem awaited_of_canWait (h : outside.CanWait timeout) (p : ProcessOutcome) :
    awaited outside.longestWait timeout p = .ok p := by
  cases p with
  | failed e => rfl
  | timedOut => simp [awaited, canWait_iff.mp h]
  | exited code out err => simp [awaited, canWait_iff.mp h]

theorem awaited_of_started (h : ¬outside.CanWait timeout) (hstarted : ∀ e, p ≠ .failed e) :
    awaited outside.longestWait timeout p = .error (.overlongWait timeout) := by
  rw [canWait_iff, Bool.not_eq_false] at h
  cases p with
  | failed e => exact absurd rfl (hstarted e)
  | timedOut => simp [awaited, h]
  | exited code out err => simp [awaited, h]

/-- Builds and runs a program that may be no text. Then it is not written, and its directory is not removed. -/
def compileAndRunLoose (cpp : LooseText) (id : Int) (settings : Settings) (outside : Outside) : RunReport :=
  match cpp.text?, outside.scratch with
  | none, .ready directory => ⟨.error (.unencodable cpp), { calls := [makeDirectory settings id], leftover := [directory] }⟩
  | text, _ => compileAndRun (text.getD []) id settings outside

end Runner

end FlowLang

import FlowLang.Cpp.Generator
import FlowLang.Runner
import FlowLang.Service.Clock
import FlowLang.Service.Counter
import FlowLang.Service.History

/-!
# The compiler service

The state that all requests to one service share: its settings, the number of the last compilation, and the history. A
compilation takes the next number, turns the program into C++, builds and runs it, and is remembered, unless an error is
raised. Only its first and its last step touch the state.
-/

namespace FlowLang

open Text

namespace Service

/-- The golden ratio as the service reports it. -/
def phi : Text := "1.618033988749895".toList

/-- The name under which the service reports itself. -/
def serviceName : Text := "flow-chat".toList

/-- The version of the program. -/
def version : Text := "2.0.0".toList

/-! ## Programs -/

/-- A program as a client sends it. -/
inductive Source where
  | text (t : Text)
  /-- a text of JSON with halves of surrogate pairs -/
  | loose (t : LooseText)
  deriving DecidableEq, Repr

instance : Coe Text Source := ⟨.text⟩

/-- A character of its own for each half of a surrogate pair, from the code point `plane` on. -/
def standIn (plane unit : Nat) : Char :=
  Char.ofNat (plane + (unit - 0xD800))

/-- The C++ of a program that holds halves of surrogate pairs. A half means nothing to the compiler, so the C++ has one
exactly where it has different characters if different ones stand for the halves. -/
def transpileLoose (t : LooseText) : LooseText :=
  let plane := 0xF0000
  ⟨List.zipWith
    (fun a b => if a = b then .char a else .half (0xD800 + (a.toNat - plane)))
    (transpile (t.read (standIn plane))) (transpile (t.read (standIn 0x100000)))⟩

namespace Source

/-- The program with the replacement character for each half of a surrogate pair. -/
def shown : Source → Text
  | .text t => t
  | .loose t => t.shown

/-- The program holds halves of surrogate pairs. -/
def isLoose : Source → Bool
  | .text _ => false
  | .loose _ => true

/-- The C++ holds halves of surrogate pairs. -/
def hasLooseCode : Source → Bool
  | .text _ => false
  | .loose t => (transpileLoose t).text?.isNone

/-- What comes of building and running the C++. -/
def report (source : Source) (id : Int) (settings : Settings) (outside : Outside) : RunReport :=
  match source with
  | .text t => Runner.compileAndRun (transpile t) id settings outside
  | .loose t => Runner.compileAndRunLoose (transpileLoose t) id settings outside

end Source

end Service

/-- The state of a service. -/
structure Service where
  settings : Settings
  counter : Service.Counter
  history : Service.History
  started : Binary64
  deriving DecidableEq, Repr

namespace Service

/-- A service that has compiled nothing yet. -/
def create (settings : Settings) (counter : Counter) (started : Binary64) : Except History.LimitFault Service :=
  (History.ofLimit settings.historyLimit).map fun history => ⟨settings, counter, history, started⟩

theorem eq_of_create {settings : Settings} {counter : Counter} {started : Binary64} {s : Service}
    (h : create settings counter started = .ok s) : s = ⟨settings, counter, .empty settings.historyLimit, started⟩ := by
  rw [create, History.ofLimit] at h
  split at h
  · cases h
  · rw [if_neg (by omega)] at h
    cases h
    rfl

/-- The record of a compilation in the log: its number, a mark for how it went, and the start of its first line. -/
def logLine (r : CompilationRecord) : LogRecord :=
  let firstLine := r.flow.takeWhile (· != '\n')
  .info ("flow #".toList ++ ofInt r.id ++ (if r.success then " ✓ ".toList else " ✗ ".toList) ++ firstLine.take 60)

/-- Takes the next number for a compilation. -/
def begin (s : Service) : Service :=
  { s with counter := s.counter.next }

/-- Remembers a finished compilation. -/
def finish (s : Service) (r : CompilationRecord) : Service :=
  { s with history := s.history.add r }

/-- The record of a compilation of `source` under a number, from what came of the run. -/
def recordOf (id : Int) (source : Source) (clock : Clock) (v : Verdict) : CompilationRecord :=
  ⟨id, source.shown, transpile source.shown, v.success, v.output, clock.utc.write, source.isLoose⟩

/-- Compiles a program: takes a number, builds and runs the C++, and remembers what came of it. If an error is raised,
nothing is remembered. -/
def compile (s : Service) (clock : Clock) (outside : Outside) (source : Source) :
    Service × Except RunFault CompilationRecord × Effects :=
  let begun := s.begin
  let id := begun.counter.current
  let report := source.report id s.settings outside
  match report.result with
  | .error fault => (begun, .error fault, report.effects)
  | .ok verdict =>
    let record := recordOf id source clock verdict
    (begun.finish record, .ok record, report.effects.append (.log (logLine record)))

section

variable {s : Service} {clock : Clock} {outside : Outside} {source : Source}

theorem compile_of_ok {v : Verdict} (h : (source.report s.begin.counter.current s.settings outside).result = .ok v) :
    s.compile clock outside source =
      (s.begin.finish (recordOf s.begin.counter.current source clock v), .ok (recordOf s.begin.counter.current source clock v),
        (source.report s.begin.counter.current s.settings outside).effects.append
          (.log (logLine (recordOf s.begin.counter.current source clock v)))) := by
  simp only [compile, h]

theorem compile_of_error {fault : RunFault}
    (h : (source.report s.begin.counter.current s.settings outside).result = .error fault) :
    s.compile clock outside source =
      (s.begin, .error fault, (source.report s.begin.counter.current s.settings outside).effects) := by
  simp only [compile, h]

end

/-- What a client is told about a compilation. -/
structure Reply where
  cpp : Text
  output : Text
  success : Bool
  id : Int
  deriving DecidableEq, Repr

/-- The reply to the program of a compilation. -/
def CompilationRecord.reply (r : CompilationRecord) : Reply :=
  ⟨r.cpp, r.output, r.success, r.id⟩

/-- How long the service has been up, to a tenth of a second. -/
def uptime (s : Service) (clock : Clock) : Binary64 :=
  (clock.elapsed.sub s.started).toTenths

/-- How the service is. -/
structure Health where
  compilations : Int
  uptime : Binary64
  ideas : Nat
  deriving DecidableEq, Repr

/-- How the service is at a time. -/
def health (s : Service) (clock : Clock) : Health :=
  ⟨s.counter.current, s.uptime clock, s.history.length⟩

end Service

end FlowLang

import FlowLang.FileTree
import FlowLang.Json.Parser
import FlowLang.Settings.EnvFile
import FlowLang.Settings.Value

/-!
# Settings

The settings of the compiler service. Each can be given by an argument, by a variable of the environment or in the file
`.env` of the current directory, and the first of these that gives it wins; one that none gives has a default. Names
count in any case of letters, and names that belong to no setting are ignored.
-/

namespace FlowLang

open Text

/-- The settings of the service. -/
structure Settings where
  host : Text := "0.0.0.0".toList
  port : Nat := 9602
  staticDir : Text := "static".toList
  compiler : Text := "g++".toList
  compilerFlags : List Text := ["-std=c++17".toList]
  compileTimeout : Binary64 := .ofInt 5
  runTimeout : Binary64 := .ofInt 5
  scratchDir : Option Text := none
  historyLimit : Nat := 500
  logLevel : LogLevel := .info
  deriving DecidableEq, Repr

/-- A variable of the environment. -/
abbrev Variable := Text × Text

/-- The places from which settings can come besides arguments. -/
inductive Settings.Origin where
  | environment
  | file
  deriving DecidableEq, Repr

/-- Why there are no settings. -/
inductive Settings.Fault where
  /-- the list of flags in the environment or the file is no JSON -/
  | flags (origin : Settings.Origin)
  /-- the file is no text -/
  | encoding (m : Utf8.Malformed)
  /-- values that are not right -/
  | invalid (issues : List Issue)
  deriving DecidableEq, Repr

/-- The wording of a fault in the list of flags. -/
def Settings.Origin.flagsMessage (o : Settings.Origin) : Text :=
  "error parsing value for field \"compiler_flags\" from source \"".toList
    ++ (match o with
      | .environment => "EnvSettingsSource".toList
      | .file => "DotEnvSettingsSource".toList)
    ++ "\"".toList

/-- The fault in words: one line for each wrong value. -/
def Settings.Fault.message : Settings.Fault → Text
  | .flags origin => origin.flagsMessage
  | .encoding m => m.message
  | .invalid issues => joinWith "\n".toList (issues.map Issue.message)

/-- The data from which settings are made. -/
structure Settings.Sources where
  arguments : List (Text × Json) := []
  environment : List Variable := []
  file : List EnvFile.Binding := []

namespace Settings

/-- The text with its ASCII letters in lower case. -/
def lowerCase (t : Text) : Text :=
  t.map Char.toLower

/-- The variables of the environment as bindings. -/
def Sources.outer (s : Sources) : List EnvFile.Binding :=
  s.environment.map fun v => (v.1, some v.2)

/-- The value of the last variable with a name, in any case of letters; none if that one has no value. -/
def lookup? (name : String) (vars : List EnvFile.Binding) : Option Text :=
  (vars.reverse.find? fun v => lowerCase v.1 == name.toList).bind Prod.snd

/-- The first of some names under which there is a value gives it. -/
def firstOf? (names : List String) (vars : List EnvFile.Binding) : Option Text :=
  names.findSome? (lookup? · vars)

/-- The argument with exactly one of some names, the first name first; else the last one that has one of the names in
another case of letters. The name comes with the value; in the second case it is the first of the names. -/
def argument? (names : List String) (args : List (Text × Json)) : Option (Text × Json) :=
  let exact := names.findSome? fun name => args.find? fun a => a.1 == name.toList
  let similar := (args.reverse.find? fun a => names.any fun name => lowerCase name.toList == lowerCase a.1).map
    fun a => ((names.headD "").toList, a.2)
  exact.or similar

/-- The flags of one origin: JSON, in which null stands for nothing given. -/
def originFlags (origin : Origin) (vars : List EnvFile.Binding) : Except Fault (Option Json) :=
  match lookup? "flowc_compiler_flags" vars with
  | none => .ok none
  | some t =>
    match Json.parse t with
    | .ok .null => .ok none
    | .ok v => .ok (some v)
    | .error _ => .error (.flags origin)

/-- What is given for a setting: the name for messages, and the value. -/
abbrev Given := Option (Text × Json)

/-- What is given for the setting `field`, which is a text in the environment and the file. -/
def given (s : Sources) (field : String) : Given :=
  let name := "flowc_" ++ field
  let outer := (lookup? name s.outer).or (lookup? name s.file)
  ((argument? [field] s.arguments).map fun a => (field.toList, a.2)).or
    (outer.map fun t => (field.toList, .text t))

/-- What is given for the port, which has two more names. -/
def givenPort (s : Sources) : Given :=
  let names := ["flowc_port", "port"]
  let outer := (firstOf? names s.outer).or (firstOf? names s.file)
  (argument? ["FLOWC_PORT", "PORT", "port"] s.arguments).or
    (outer.map fun t => ("FLOWC_PORT".toList, .text t))

/-- A checked setting: its issues, and its value, which is the default if none is given or the given one is wrong. -/
structure Checked (α : Type) where
  issues : List Issue
  value : α

/-- Checks what is given for a setting. -/
def check {α : Type} (given : Given) (default : α) (read : Json → Except IssueKind α) : Checked α :=
  match given with
  | none => ⟨[], default⟩
  | some (name, v) =>
    match read v with
    | .ok a => ⟨[], a⟩
    | .error kind => ⟨[⟨kind, [.name name]⟩], default⟩

/-- Checks the flags: a list, every item of it a text. -/
def checkFlags (given : Option Json) (default : List Text) : Checked (List Text) :=
  let field := LocationStep.name "compiler_flags".toList
  match given with
  | none => ⟨[], default⟩
  | some (.array items) =>
    let (issues, ts) := Value.textItems 0 items
    ⟨issues.map fun i => ⟨i.2, [field, .index i.1]⟩, ts⟩
  | some _ => ⟨[⟨.notList, [field]⟩], default⟩

/-- Makes the settings, or tells everything that is wrong with what is given, in the order of the settings. -/
def make (s : Sources) : Except Fault Settings :=
  match originFlags .environment s.outer with
  | .error e => .error e
  | .ok environmentFlags =>
  match originFlags .file s.file with
  | .error e => .error e
  | .ok fileFlags =>
    let flagsArgument := (argument? ["compiler_flags"] s.arguments).map Prod.snd
    let defaults : Settings := {}
    let host := check (given s "host") defaults.host Value.text
    let port := check (givenPort s) defaults.port (Value.wholeWithin 1 65535)
    let staticDir := check (given s "static_dir") defaults.staticDir Value.text
    let compiler := check (given s "compiler") defaults.compiler Value.text
    let flags := checkFlags ((flagsArgument.or environmentFlags).or fileFlags) defaults.compilerFlags
    let compileTimeout := check (given s "compile_timeout") defaults.compileTimeout Value.duration
    let runTimeout := check (given s "run_timeout") defaults.runTimeout Value.duration
    let scratchDir := check (given s "scratch_dir") defaults.scratchDir Value.optionalText
    let historyLimit := check (given s "history_limit") defaults.historyLimit (Value.wholeFrom 1)
    let logLevel := check (given s "log_level") defaults.logLevel Value.logLevel
    let issues := host.issues ++ port.issues ++ staticDir.issues ++ compiler.issues ++ flags.issues
      ++ compileTimeout.issues ++ runTimeout.issues ++ scratchDir.issues ++ historyLimit.issues ++ logLevel.issues
    if issues.isEmpty then
      .ok ⟨host.value, port.value, staticDir.value, compiler.value, flags.value, compileTimeout.value, runTimeout.value,
        scratchDir.value, historyLimit.value, logLevel.value⟩
    else .error (.invalid issues)

/-- The variables in the file `.env` of the current directory, if there is one. -/
def readEnvFile (environment : List Variable) (files : FileTree) : Except Utf8.Malformed (List EnvFile.Binding) :=
  match files.get? [".env".toList] with
  | some (.file content) => (Utf8.decode content).map fun t => EnvFile.parse environment (unifyNewlines t)
  | _ => .ok []

/-- Makes the settings from arguments, the environment and the files. -/
def load (arguments : List (Text × Json)) (environment : List Variable) (files : FileTree) : Except Fault Settings :=
  match readEnvFile environment files with
  | .error m => .error (.encoding m)
  | .ok file => make ⟨arguments, environment, file⟩

/-- Settings that are made when they are first asked for and stay the same from then on. -/
structure Cache where
  made : Option Settings := none
  deriving DecidableEq, Repr

/-- The settings of a cache, made from the environment and the files if there are none yet. A fault is not kept. -/
def Cache.get (c : Cache) (environment : List Variable) (files : FileTree) : Except Fault (Settings × Cache) :=
  match c.made with
  | some settings => .ok (settings, c)
  | none => (load [] environment files).map fun settings => (settings, ⟨some settings⟩)

end Settings

end FlowLang

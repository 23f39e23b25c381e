import FlowLang.CommandLine.Basic

/-!
# The program

Puts the command line to work on real files: looks at the files that the arguments name, runs the command line on them,
and carries out what it decides. No process is started here, so a program that should be built and run is answered with
an error of the compiler's start.
-/

namespace FlowLang.CommandLine

open Text

/-- What is at a path. -/
def lookAt (path : Text) : IO (Option FileEntry) := do
  try
    return some (.file (← IO.FS.readBinFile (String.ofList path)).toList)
  catch e =>
    match e with
    | .inappropriateType .. => return some .directory
    | _ => return none

/-- Adds what is found on the way along a path. -/
def explore (files : FileTree) (path : Text) : IO FileTree := do
  let parts := splitOn '/' path
  let mut known := files
  for i in List.range parts.length do
    let reached := joinWith "/".toList (parts.take (i + 1))
    if let .ok (.free place) := known.resolve reached then
      if let some entry ← lookAt reached then
        known := known.put place entry
  return known

/-- The paths that arguments lead to. -/
def pathsOf (args : List Text) : List Text :=
  match parseArguments args with
  | .ok (.work a) => [".env".toList, a.input, outputPath a]
  | _ => []

/-- The names of variables that settings are read from: those of the settings, and those that the file of settings
refers to. -/
def variableNames (files : FileTree) : List String :=
  let referred := match files.stat? ".env".toList with
    | some (.file content) => (EnvFile.references (Utf8.decodeLossy content)).map fun r => String.ofList r.name
    | _ => []
  ["FLOWC_HOST", "FLOWC_PORT", "PORT", "FLOWC_STATIC_DIR", "FLOWC_COMPILER", "FLOWC_COMPILER_FLAGS",
    "FLOWC_COMPILE_TIMEOUT", "FLOWC_RUN_TIMEOUT", "FLOWC_SCRATCH_DIR", "FLOWC_HISTORY_LIMIT", "FLOWC_LOG_LEVEL"]
    ++ referred

/-- The variables of the environment with some names. -/
def environment (names : List String) : IO (List Variable) := do
  let found ← names.mapM fun name => return (name, ← IO.getEnv name)
  return found.filterMap fun v => v.2.map fun value => (v.1.toList, value.toList)

/-- An outside in which no process can be started. -/
def withoutProcesses : Outside :=
  let refusal : ProcessOutcome := .failed ⟨38, "Function not implemented".toList, none⟩
  { scratch := .ready ".".toList, build := refusal, run := refusal }

/-- The path of a place. -/
def pathOf (place : Place) : Text :=
  if place.head? = Place.root.head? then '/' :: joinWith "/".toList (place.drop 1) else joinWith "/".toList place

end FlowLang.CommandLine

open FlowLang FlowLang.CommandLine in
/-- Runs the command line. -/
def main (args : List String) : IO UInt32 := do
  let args := args.map String.toList
  let files ← (pathsOf args).foldlM explore .empty
  let world : World :=
    { files, environment := ← environment (variableNames files), outside := withoutProcesses, process := 0 }
  let outcome := CommandLine.run world args
  for (place, content) in files.changesSince outcome.files do
    IO.FS.writeBinFile (String.ofList (pathOf place)) ⟨content.toArray⟩
  IO.print (String.ofList outcome.stdout)
  IO.eprint (String.ofList outcome.stderr)
  if let .uncaught e := outcome.ending then
    IO.eprintln (String.ofList e.message)
  return outcome.ending.status.toUInt32

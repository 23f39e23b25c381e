import FlowLang.CommandLine.Arguments
import FlowLang.Cpp.Generator
import FlowLang.Runner
import FlowLang.Statement.Record

/-!
# The command line

Reads a Flow program from a file and writes the C++ beside it, prints its statements instead, or builds and runs the
result as well. The world that it works in is given as a value, and what it does to the world is part of the outcome.
-/

namespace FlowLang.CommandLine

open Text

/-- What the command line works in. -/
structure World where
  files : FileTree
  environment : List Variable
  outside : Outside
  /-- the number of this process, under which a program is built -/
  process : Int
  /-- how settings are made from the environment and the files -/
  load : List Variable → FileTree → Except Settings.Fault Settings := Settings.load []

/-- An error that ends the work without a message of its own. -/
inductive Uncaught where
  | file (e : FileError)
  | encoding (m : Utf8.Malformed)
  | settings (f : Settings.Fault)
  | run (f : RunFault)
  deriving DecidableEq, Repr

/-- The error in words. -/
def Uncaught.message : Uncaught → Text
  | .file e => e.message
  | .encoding m => m.message
  | .settings f => f.message
  | .run f => f.message

/-- How the work ends. -/
inductive Ending where
  | exit (status : Nat)
  | uncaught (e : Uncaught)
  deriving DecidableEq, Repr

/-- The status of the process. -/
def Ending.status : Ending → Nat
  | .exit status => status
  | .uncaught _ => 1

/-- What the work leaves. -/
structure Outcome where
  ending : Ending
  stdout : Text := []
  stderr : Text := []
  files : FileTree
  effects : Effects := .none

/-- How the program is called. -/
def usage : Text :=
  "usage: flowc [-h] [-o OUTPUT] [--emit-statements] [--run] input\n".toList

/-- The help. -/
def help : Text :=
  usage ++ ("\nFlow to C++ transpiler\n"
    ++ "\npositional arguments:\n"
    ++ "  input                 Input .flow file\n"
    ++ "\noptions:\n"
    ++ "  -h, --help            show this help message and exit\n"
    ++ "  -o OUTPUT, --output OUTPUT\n"
    ++ "                        Output .cpp file (default: <input>.cpp)\n"
    ++ "  --emit-statements     Print the classified statement for each line\n"
    ++ "  --run                 Compile the output with the configured compiler and\n"
    ++ "                        run it\n").toList

/-- The path without the extension of its last part. Dots that the last part starts with start no extension. -/
def withoutExtension (path : Text) : Text :=
  let directory := (path.reverse.dropWhile (· != '/')).reverse
  let name := path.drop directory.length
  let dots := name.takeWhile (· == '.')
  let rest := name.drop dots.length
  if rest.contains '.' then directory ++ dots ++ ((rest.reverse.dropWhile (· != '.')).drop 1).reverse
  else path

/-- Where the C++ goes: to the given output, unless that is empty, else beside the input. -/
def outputPath (a : Arguments) : Text :=
  match a.output with
  | some (c :: rest) => c :: rest
  | _ => withoutExtension a.input ++ ".cpp".toList

/-- The lines with a line feed behind each. -/
def printLines (ls : List Text) : Text :=
  ls.flatMap (· ++ "\n".toList)

/-- Builds and runs the written program, and prints what comes of it. -/
def buildAndRun (w : World) (files : FileTree) (cpp printed : Text) : Outcome :=
  match w.load w.environment files with
  | .error f => { ending := .uncaught (.settings f), stdout := printed, files }
  | .ok settings =>
    let report := Runner.compileAndRun cpp w.process settings w.outside
    match report.result with
    | .error f => { ending := .uncaught (.run f), stdout := printed, files, effects := report.effects }
    | .ok verdict =>
      { ending := .exit (if verdict.success then 0 else 1)
        stdout := printed ++ verdict.output ++ (if verdict.output.getLast? = some '\n' then [] else "\n".toList)
        files
        effects := report.effects }

/-- Works on the text of the input. -/
def translateSource (w : World) (a : Arguments) (source : Text) : Outcome :=
  if a.emitStatements then
    { ending := .exit 0, stdout := printLines ((statements source).map Numbered.record), files := w.files }
  else
    let cpp := transpile source
    let path := outputPath a
    match w.files.write path (Utf8.encode cpp) with
    | .error e => { ending := .uncaught (.file e), files := w.files }
    | .ok files =>
      let printed := "Transpiled ".toList ++ a.input ++ " → ".toList ++ path ++ "\n".toList
      if a.run then buildAndRun w files cpp printed
      else { ending := .exit 0, stdout := printed, files }

/-- Does what the arguments ask for. -/
def work (w : World) (a : Arguments) : Outcome :=
  match w.files.read a.input with
  | .error e =>
    let missing := match e with
      | .os o => o.isMissing
      | .nullCharacter => false
    if missing then
      { ending := .exit 1, stderr := "Error: File '".toList ++ a.input ++ "' not found\n".toList, files := w.files }
    else { ending := .uncaught (.file e), files := w.files }
  | .ok content =>
    match Utf8.decode content with
    | .error m => { ending := .uncaught (.encoding m), files := w.files }
    | .ok source => translateSource w a (unifyNewlines source)

/-- Runs the program with arguments. -/
def run (w : World) (args : List Text) : Outcome :=
  match parseArguments args with
  | .error fault =>
    { ending := .exit 2, stderr := usage ++ "flowc: error: ".toList ++ fault.message ++ "\n".toList, files := w.files }
  | .ok .help => { ending := .exit 0, stdout := help, files := w.files }
  | .ok (.work a) => work w a

end FlowLang.CommandLine

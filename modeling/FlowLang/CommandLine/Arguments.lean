import FlowLang.Text.DecimalDigit
import FlowLang.Text.Quoted

/-!
# Arguments of the command line

`flowc [-h] [-o OUTPUT] [--emit-statements] [--run] input`. Options may stand anywhere before `--`, long ones may be
shortened as long as they stay unambiguous, and a value may be joined to its option. An argument that looks like a
negative number or has a space in it is no option.
-/

namespace FlowLang.CommandLine

open Text

/-- The options. -/
inductive Switch where
  | help
  | output
  | emitStatements
  | run
  deriving DecidableEq, Repr

/-- The spellings of the options. -/
def spellings : List (Text × Switch) :=
  [("-h".toList, .help), ("--help".toList, .help), ("-o".toList, .output), ("--output".toList, .output),
   ("--emit-statements".toList, .emitStatements), ("--run".toList, .run)]

/-- The option with exactly this spelling. -/
def switch? (t : Text) : Option Switch :=
  (spellings.find? fun s => s.1 == t).map Prod.snd

/-- How an option is named in messages: all its spellings. -/
def Switch.name (s : Switch) : Text :=
  joinWith "/".toList ((spellings.filter fun p => p.2 == s).map Prod.fst)

/-- What is wrong with the arguments. -/
inductive ArgumentFault where
  | inputMissing
  | valueMissing (s : Switch)
  | valueUnexpected (s : Switch) (value : Text)
  | ambiguous (given : Text) (candidates : List Text)
  | unrecognized (extra : List Text)
  deriving DecidableEq, Repr

/-- The fault in words. -/
def ArgumentFault.message : ArgumentFault → Text
  | .inputMissing => "the following arguments are required: input".toList
  | .valueMissing s => "argument ".toList ++ s.name ++ ": expected one argument".toList
  | .valueUnexpected s value =>
    "argument ".toList ++ s.name ++ ": ignored explicit argument ".toList ++ quoted value
  | .ambiguous given candidates =>
    "ambiguous option: ".toList ++ given ++ " could match ".toList ++ joinWith ", ".toList candidates
  | .unrecognized extra => "unrecognized arguments: ".toList ++ joinWith " ".toList extra

/-! ## Recognising options -/

/-- A value joined to an option: behind an equals sign, or directly behind the letter of a short one. -/
inductive Joined where
  | equals (value : Text)
  | direct (value : Text)
  deriving DecidableEq, Repr

/-- What one argument is. -/
inductive Token where
  | plain (t : Text)
  | option (s : Switch) (joined : Option Joined)
  | unknown (t : Text)
  deriving DecidableEq, Repr

/-- The parts before and behind the first equals sign. -/
def splitEquals (t : Text) : Text × Option Text :=
  match cut? "=".toList t with
  | some (name, value) => (name, some value)
  | none => (t, none)

/-- Digits of any script, at least one, and at most a line feed behind them. -/
def isDigitRun (t : Text) : Bool :=
  match t.dropWhile isDecimalDigit with
  | [] => !t.isEmpty
  | rest => rest == "\n".toList && t.length != 1

/-- A minus sign with digits behind it, or with a point and digits behind that. -/
def isNegativeNumber (t : Text) : Bool :=
  match t with
  | '-' :: rest =>
    isDigitRun rest || match rest.dropWhile isDecimalDigit with
      | '.' :: fraction => isDigitRun fraction
      | _ => false
  | _ => false

/-- What an argument that starts like an option and has no exact spelling is. -/
def recognizeOther (t : Text) : Token :=
  if isNegativeNumber t || t.contains ' ' then .plain t else .unknown t

/-- What an argument is. -/
def recognize (t : Text) : Except ArgumentFault Token :=
  if t.head? ≠ some '-' then .ok (.plain t)
  else
    match switch? t with
    | some s => .ok (.option s none)
    | none =>
    if t.length = 1 then .ok (.plain t)
    else
      let (name, value) := splitEquals t
      match switch? name, value with
      | some s, some v => .ok (.option s (some (.equals v)))
      | _, _ =>
        if "--".toList.isPrefixOf t then
          match spellings.filter fun s => name.isPrefixOf s.1 with
          | [] => .ok (recognizeOther t)
          | [(_, s)] => .ok (.option s (value.map .equals))
          | several => .error (.ambiguous t (several.map Prod.fst))
        else
          match switch? (t.take 2) with
          | some s => .ok (.option s (some (.direct (t.drop 2))))
          | none => .ok (recognizeOther t)

/-- What the arguments before the first `--` are, and the arguments behind it, which are all plain. -/
def tokens : List Text → Except ArgumentFault (List Token × Option (List Text))
  | [] => .ok ([], none)
  | t :: rest =>
    if t = "--".toList then .ok ([], some rest)
    else
      match recognize t, tokens rest with
      | .error e, _ => .error e
      | .ok _, .error e => .error e
      | .ok token, .ok (more, behind) => .ok (token :: more, behind)

/-! ## Taking arguments -/

/-- What the arguments ask for. -/
structure Arguments where
  input : Text
  output : Option Text
  emitStatements : Bool
  run : Bool
  deriving DecidableEq, Repr

/-- What has been taken so far. -/
structure Taken where
  input : Option Text := none
  output : Option Text := none
  emitStatements : Bool := false
  run : Bool := false
  extra : List Text := []
  deriving DecidableEq, Repr

/-- What to do: show the help, or work. -/
inductive Wish where
  | help
  | work (a : Arguments)
  deriving DecidableEq, Repr

/-- Everything has been taken. A missing input is told before anything that is too much. -/
def Taken.finish (t : Taken) : Except ArgumentFault Wish :=
  match t.input with
  | none => .error .inputMissing
  | some input =>
    if t.extra.isEmpty then .ok (.work ⟨input, t.output, t.emitStatements, t.run⟩)
    else .error (.unrecognized t.extra)

/-- The next argument is a plain one. -/
def startsPlain : List Token → Bool
  | .plain _ :: _ => true
  | _ => false

/-- The letters directly behind `-h` are short options as well. The help is shown unless they are wrong. -/
def helpWith (rest : List Token) : Text → Except ArgumentFault Wish
  | [] => .ok .help
  | '-' :: letters => .error (.valueUnexpected .help ('-' :: letters))
  | 'h' :: '=' :: value => .error (.valueUnexpected .help value)
  | 'h' :: letters => helpWith rest letters
  | ['o'] => if startsPlain rest then .ok .help else .error (.valueMissing .output)
  | _ :: _ => .ok .help

/-- Takes the arguments behind `--`. The dashes themselves are too much unless the input stands behind them. -/
def Taken.behindDashes (t : Taken) : Option (List Text) → Taken
  | none => t
  | some plain =>
    match t.input, plain with
    | none, a :: more => { t with input := some a, extra := t.extra ++ more }
    | _, _ => { t with extra := t.extra ++ "--".toList :: plain }

/-- Takes the arguments from left to right. Dashes directly behind the input belong to it. -/
def take (behind : Option (List Text)) (t : Taken) : List Token → Except ArgumentFault Wish
  | [] => (t.behindDashes behind).finish
  | [.plain a] =>
    if t.input.isSome then ({ t with extra := t.extra ++ [a] }.behindDashes behind).finish
    else { t with input := some a, extra := t.extra ++ behind.getD [] }.finish
  | .plain a :: rest =>
    if t.input.isSome then take behind { t with extra := t.extra ++ [a] } rest
    else take behind { t with input := some a } rest
  | .unknown a :: rest => take behind { t with extra := t.extra ++ [a] } rest
  | .option .help none :: _ => .ok .help
  | .option .help (some (.equals value)) :: _ => .error (.valueUnexpected .help value)
  | .option .help (some (.direct letters)) :: rest => helpWith rest letters
  | .option .output (some (.equals value)) :: rest => take behind { t with output := some value } rest
  | .option .output (some (.direct value)) :: rest => take behind { t with output := some value } rest
  | .option .output none :: .plain value :: rest => take behind { t with output := some value } rest
  | .option .output none :: _ => .error (.valueMissing .output)
  | .option .emitStatements none :: rest => take behind { t with emitStatements := true } rest
  | .option .run none :: rest => take behind { t with run := true } rest
  | .option s (some (.equals value)) :: _ => .error (.valueUnexpected s value)
  | .option s (some (.direct value)) :: _ => .error (.valueUnexpected s value)

/-- Reads the arguments. -/
def parseArguments (args : List Text) : Except ArgumentFault Wish :=
  match tokens args with
  | .error e => .error e
  | .ok (ts, behind) => take behind {} ts

end FlowLang.CommandLine

import FlowLang.Text.Basic

/-!
# Log records

What the program reports about itself while it works: a level and a message.
-/

namespace FlowLang

/-- How severe a record is. -/
inductive LogLevel where
  | debug
  | info
  | warning
  | error
  | critical
  deriving DecidableEq, Repr

namespace LogLevel

/-- The levels from the least to the most severe. -/
def all : List LogLevel :=
  [.debug, .info, .warning, .error, .critical]

/-- The name of a level. -/
def name : LogLevel → Text
  | .debug => "DEBUG".toList
  | .info => "INFO".toList
  | .warning => "WARNING".toList
  | .error => "ERROR".toList
  | .critical => "CRITICAL".toList

/-- The severity as a number. -/
def severity : LogLevel → Nat
  | .debug => 10
  | .info => 20
  | .warning => 30
  | .error => 40
  | .critical => 50

/-- The level with a name. -/
def ofName? (t : Text) : Option LogLevel :=
  all.find? (·.name == t)

end LogLevel

/-- One record of the log. -/
structure LogRecord where
  level : LogLevel
  message : Text
  deriving DecidableEq, Repr

/-- A record as its level and its message. -/
def LogRecord.write (r : LogRecord) : Text :=
  r.level.name ++ " ".toList ++ r.message

/-- A record of ordinary progress. -/
def LogRecord.info (message : Text) : LogRecord :=
  ⟨.info, message⟩

end FlowLang

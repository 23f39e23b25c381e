import FlowLang.Service.Basic

/-!
# Launching

What is done to bring up the service: logging is set up, two records say where it listens, and the web server is
started on it.
-/

namespace FlowLang.Service

open Text

/-- A step of bringing up the service. -/
inductive LaunchStep where
  | setUpLog (level : LogLevel) (format : Text)
  | record (r : LogRecord)
  | listen (host : Text) (port : Nat) (level : Text) (title version : Text)
  deriving DecidableEq, Repr

/-- The layout of the log's lines. -/
def logFormat : Text := "%(asctime)s - %(name)s - %(levelname)s - %(message)s".toList

/-- A record that starts with the name of the service. -/
def announce (message : Text) : LaunchStep :=
  .record (.info ("[".toList ++ serviceName ++ "] ".toList ++ message))

/-- The steps of bringing up the service. -/
def launch (settings : Settings) : Except History.LimitFault (List LaunchStep) :=
  (Service.create settings {} (.ofInt 0)).map fun _ =>
    [.setUpLog settings.logLevel logFormat,
     announce ("Listening on ".toList ++ settings.host ++ ":".toList ++ ofNat settings.port),
     announce ("phi = ".toList ++ phi),
     .listen settings.host settings.port (settings.logLevel.name.map Char.toLower) "flowc".toList version]

end FlowLang.Service

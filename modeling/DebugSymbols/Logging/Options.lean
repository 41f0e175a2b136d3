/-!
# Log options

How the log is written and how much of it, each chosen by a word in any case.
-/

namespace DebugSymbols.Logging

inductive LogFormat where
  | pretty
  /-- One object for each event. -/
  | json
deriving DecidableEq

/-- The least important events that are logged. -/
inductive LogLevel where
  | error
  | warn
  | info
  | debug
  | trace
deriving DecidableEq

inductive LoggingError where
  | invalidFormat (word : String)
  | invalidLevel (word : String)
  | initializationFailed (reason : String)
  | fileError (reason : String)
deriving DecidableEq

def LoggingError.message : LoggingError → String
  | invalidFormat word => "Unknown log format: " ++ word ++ ". Use 'pretty' or 'json'"
  | invalidLevel word =>
    "Unknown log level: " ++ word ++ ". Use 'error', 'warn', 'info', 'debug', or 'trace'"
  | initializationFailed reason => "Failed to initialize logging: " ++ reason
  | fileError reason => "File logging error: " ++ reason

/-- A word with its ASCII letters in lower case. No letter beyond ASCII has a lower case that occurs
in the words chosen from here. -/
def lowerCase (word : String) : String :=
  String.ofList (word.toList.map Char.toLower)

def LogFormat.read (word : String) : Except LoggingError LogFormat :=
  let choice := lowerCase word
  if choice ∈ ["pretty", "dev", "development"] then .ok .pretty
  else if choice ∈ ["json", "prod", "production"] then .ok .json
  else .error (.invalidFormat word)

def LogLevel.read (word : String) : Except LoggingError LogLevel :=
  let choice := lowerCase word
  if choice ∈ ["error", "err"] then .ok .error
  else if choice ∈ ["warn", "warning"] then .ok .warn
  else if choice = "info" then .ok .info
  else if choice ∈ ["debug", "dbg"] then .ok .debug
  else if choice = "trace" then .ok .trace
  else .error (.invalidLevel word)

def LogLevel.label : LogLevel → String
  | error => "ERROR"
  | warn => "WARN"
  | info => "INFO"
  | debug => "DEBUG"
  | trace => "TRACE"

end DebugSymbols.Logging

import DebugSymbols.Environment
import DebugSymbols.FileTree
import DebugSymbols.Logging.Options

/-!
# Setting up logging

Logging is set up once for the whole process; a second attempt fails. Before it gets that far, a
word that is no format fails, and so does a log file whose directory cannot be made. The default log
file lies in the home directory under a name that starts with the date.
-/

namespace DebugSymbols.Logging

structure LogDate where
  year : Nat
  month : Nat
  day : Nat
deriving DecidableEq

/-- The decimal digits of `n`, filled with zeros to at least `width`. -/
def padded (width n : Nat) : List Char :=
  (Nat.toDigits 10 n).leftpad width '0'

/-- The date as year, month and day with hyphens between them. -/
def LogDate.text (d : LogDate) : String :=
  String.ofList (padded 4 d.year ++ '-' :: padded 2 d.month ++ '-' :: padded 2 d.day)

/-- The directory of the default log file: one in the home directory, or the directory for temporary
files when there is no home. -/
def defaultDirectory (environment : RawEnvironment) : String :=
  match environment.texts "HOME" with
  | some home => FilePath.inside home ".ilmap"
  | none => (environment.path? "TMPDIR").getD "/tmp"

def defaultPath (environment : RawEnvironment) (today : LogDate) : String :=
  FilePath.inside (defaultDirectory environment) (today.text ++ "-ilmap.log")

/-- Puts the log in place, unless the process has one. -/
def install (hasLog : Bool) : Except LoggingError Unit :=
  if hasLog then
    .error (.initializationFailed "a global default trace dispatcher has already been set")
  else .ok ()

def formatKey : String := "ILMAP_LOG_FORMAT"

/-- Sets up logging as the environment asks for. -/
def setUpFromEnvironment (environment : Environment) (hasLog : Bool) :
    Except LoggingError Unit := do
  let _ ←
    match environment formatKey with
    | some word => LogFormat.read word
    | none => pure .pretty
  install hasLog

/-- Sets up logging to a file: makes the directory of the file, if the path names one, then puts the
log in place. -/
def setUpFile (tree : FileTree) (path : String) (hasLog : Bool) :
    FileTree × Except LoggingError Unit :=
  let (tree, fault?) :=
    match FilePath.parent? path with
    | none | some "" => (tree, none)
    | some directory => tree.makeDirectories directory
  match fault? with
  | some fault => (tree, .error (.fileError fault.text))
  | none => (tree, install hasLog)

end DebugSymbols.Logging

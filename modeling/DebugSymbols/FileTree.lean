import DebugSymbols.FilePath

/-!
# A tree of files

Just enough of a file system to say what making a directory and those above it does: which places
exist, which of them are directories, and what is in the way otherwise. A path is walked from the
root; two dots lead to the directory above, and from the root nowhere.
-/

namespace DebugSymbols

/-- A tree of files. A place is written with a slash before each step that leads to it. The root is a
directory and is not listed. -/
structure FileTree where
  directories : List String
  files : List String
deriving DecidableEq

inductive FileFault where
  | exists
  | notADirectory
  | nameTooLong
  | nullCharacter
deriving DecidableEq

def FileFault.text : FileFault → String
  | .exists => "File exists (os error 17)"
  | notADirectory => "Not a directory (os error 20)"
  | nameTooLong => "File name too long (os error 36)"
  | nullCharacter => "file name contained an unexpected NUL byte"

namespace FileTree

/-- The most bytes that a path can have. -/
def longestPath : Nat := 4095

/-- The most bytes that a single step can have. -/
def longestStep : Nat := 255

/-- What keeps a path from being looked up at all. -/
def pathFault? (path : String) : Option FileFault :=
  if path.toList.contains '\x00' then some .nullCharacter
  else if longestPath < path.utf8ByteSize then some .nameTooLong
  else none

def steps (path : String) : List String :=
  ((FilePath.components path).steps.filter fun step => step ≠ ['.']).map String.ofList

/-- The place one step below the last one of a trail. -/
def below (trail : List String) (step : String) : String :=
  trail.headD "" ++ "/" ++ step

/-- Whether the steps lead to a directory. The trail holds the places passed, the last one first. -/
def leadsToDirectory (t : FileTree) (trail : List String) : List String → Bool
  | [] => true
  | step :: rest =>
    if step = ".." then t.leadsToDirectory trail.tail rest
    else t.directories.contains (below trail step)
      && t.leadsToDirectory (below trail step :: trail) rest

def isDirectory (t : FileTree) (path : String) : Bool :=
  (pathFault? path).isNone && t.leadsToDirectory [] (steps path)

/-- Follows the steps and makes the directories that are missing. The trail holds the places passed,
the last one first. A file on the way is no directory to go through; at the end, or once a directory
has been made, it is in the place of one to be made. -/
def makeAlong (t : FileTree) (hasMade : Bool) (trail : List String) :
    List String → FileTree × Option FileFault
  | [] => (t, none)
  | step :: rest =>
    let place := below trail step
    if step = ".." then t.makeAlong hasMade trail.tail rest
    else if longestStep < step.utf8ByteSize then (t, some .nameTooLong)
    else if t.directories.contains place then t.makeAlong hasMade (place :: trail) rest
    else if t.files.contains place then
      (t, some (if hasMade || rest.isEmpty then .exists else .notADirectory))
    else
      makeAlong { t with directories := place :: t.directories } true (place :: trail) rest

/-- Makes the directory at `path` and those above it that are missing. A directory that is there
already is as good as a new one. -/
def makeDirectories (t : FileTree) (path : String) : FileTree × Option FileFault :=
  match pathFault? path with
  | some fault => (t, some fault)
  | none => t.makeAlong false [] (steps path)

end FileTree

end DebugSymbols

import DebugSymbols.Error
import DebugSymbols.FilePath
import DebugSymbols.Identifiers

/-!
# Modules of the debugged process

What the debugged process tells about a module, each answer of which can fail, and the switches for
Just My Code that it offers. A module that reports its file through its own view of `/proc` is known
by the path under which the debugger finds that file.
-/

namespace DebugSymbols

structure ProcessId where
  value : UInt32
deriving DecidableEq

def ProcessId.digits (pid : ProcessId) : List Char :=
  Nat.toDigits 10 pid.value.toNat

instance : ToString ProcessId := ⟨fun pid => String.ofList pid.digits⟩

namespace FilePath

/-- The directory in which a process sees itself. -/
def selfDirectory : List Char :=
  ['/', 'p', 'r', 'o', 'c', '/', 's', 'e', 'l', 'f', '/']

/-- What follows the directory in which a process sees itself, if the path leads there. -/
def insideSelf? (path : List Char) : Option (List Char) :=
  if selfDirectory.isPrefixOf path then some (path.drop selfDirectory.length) else none

/-- The path that leads another process to where `path` leads the process `pid`. -/
def seenFromOutside (path : String) (pid : ProcessId) : String :=
  match insideSelf? path.toList with
  | some rest => String.ofList (['/', 'p', 'r', 'o', 'c', '/'] ++ pid.digits ++ '/' :: rest)
  | none => path

theorem insideSelf?_eq_some_iff {path rest : List Char} :
    insideSelf? path = some rest ↔ path = selfDirectory ++ rest := by
  unfold insideSelf?
  constructor
  · intro h
    split at h
    · next inside =>
      obtain ⟨rest', rfl⟩ := List.isPrefixOf_iff_prefix.1 inside
      rw [List.drop_left] at h
      rw [Option.some.inj h]
    · cases h
  · rintro rfl
    rw [if_pos (List.isPrefixOf_iff_prefix.2 (List.prefix_append _ _)), List.drop_left]

/-- A file has the same name for every process. -/
theorem nameOf_seenFromOutside (path : String) (pid : ProcessId) :
    nameOf (seenFromOutside path pid).toList = nameOf path.toList := by
  unfold seenFromOutside
  split
  · next rest inside =>
    have inSelf : path.toList = ['/', 'p', 'r', 'o', 'c', '/', 's', 'e', 'l', 'f'] ++ '/' :: rest :=
      insideSelf?_eq_some_iff.1 inside
    rw [inSelf, String.toList_ofList, nameOf_append_cons rfl, nameOf_append_cons rfl]
  · rfl

end FilePath

/-- An answer that may depend on what was asked before it, the earliest first. -/
def Varying (ρ α : Type) : Type :=
  List ρ → Except SymbolError α

namespace Varying

variable {ρ α : Type}

/-- Succeeds with `a`, whatever was asked before. -/
def ok (a : α) : Varying ρ α :=
  fun _ => .ok a

/-- Fails with `e`, whatever was asked before. -/
def error (e : SymbolError) : Varying ρ α :=
  fun _ => .error e

end Varying

structure LoadedModule where
  /-- By what the debugged process knows the module. -/
  key : String
  name : Except SymbolError String
  baseAddress : Except SymbolError Address
  size : Except SymbolError UInt32
  processId : Except SymbolError ProcessId
  /-- Whether the module was made at run time and so has no image. -/
  isDynamic : Except SymbolError Bool
  /-- Whether the module was loaded from a stream of bytes and not from a file. -/
  isInMemory : Except SymbolError Bool
  versionId : Except SymbolError ModuleId
  /-- Tells the process whether the module is the user's code. -/
  setUserCode : Bool → Except SymbolError Unit
  /-- Tells the process whether a method is the user's code. What comes of it may depend on the
  methods that the process was told of before in the load. -/
  setMethodUserCode : MethodToken → Bool → Varying MethodToken Unit

/-- The path of the module as the debugger sees it. The process number is asked for only when the
path needs it. -/
def LoadedModule.path (m : LoadedModule) : Except SymbolError String :=
  match m.name with
  | .error e => .error e
  | .ok name =>
    if FilePath.selfDirectory.isPrefixOf name.toList then
      m.processId.map (FilePath.seenFromOutside name)
    else .ok name

/-- The path has the file name that is in the name of the module. -/
theorem LoadedModule.exists_name_of_path {m : LoadedModule} {path : String}
    (h : m.path = .ok path) : ∃ name, m.name = .ok name ∧
      FilePath.nameOf path.toList = FilePath.nameOf name.toList := by
  unfold LoadedModule.path at h
  split at h
  · cases h
  · next name named =>
    refine ⟨name, named, ?_⟩
    split at h
    · cases read : m.processId with
      | error e =>
        rw [read] at h
        cases h
      | ok pid =>
        rw [read] at h
        cases h
        exact FilePath.nameOf_seenFromOutside name pid
    · cases h
      rfl

inductive SymbolStatus where
  | loaded
  /-- There were none, or they could not be loaded. -/
  | notFound
  /-- They were not wanted. -/
  | skipped
deriving DecidableEq

namespace SymbolStatus

def isLoaded (s : SymbolStatus) : Bool :=
  s == loaded

def text : SymbolStatus → String
  | loaded => "Loaded"
  | notFound => "NotFound"
  | skipped => "Skipped"

end SymbolStatus

/-- What is reported of a module once it is registered. -/
structure ModuleDescriptor where
  id : ModuleId
  name : String
  path : String
  status : SymbolStatus
  baseAddress : Address
  size : UInt32
deriving DecidableEq

end DebugSymbols

import DebugSymbols.Settings
import DebugSymbols.SymbolHost.Service

/-!
# Loading modules

When the debugged process reports a module, its symbols are opened, the switches for Just My Code
are set, and the module is registered. A policy decides by the path of a module whether symbols are
wanted; the usual one goes by the beginning of the file name, so that the modules of a framework can
be left out wherever they are installed. A module whose symbols cannot be opened is registered all the
same, and so is one whose switches cannot be set; a module that cannot be identified is not.
-/

namespace DebugSymbols

/-! ## Policies -/

abbrev LoadPolicy : Type :=
  String → Bool

def LoadPolicy.all : LoadPolicy :=
  fun _ => true

/-- A list of beginnings of file names, none of them empty. -/
structure SkipList where
  starts : List String
  starts_ne_empty : ∀ s ∈ starts, s ≠ ""

namespace SkipList

/-- The list of the given beginnings. An empty one would leave out every module and is dropped. -/
def ofList (starts : List String) : SkipList where
  starts := starts.filter (· ≠ "")
  starts_ne_empty := fun s h => by simpa using (List.mem_filter.1 h).2

/-- Whether the file name of `path` has a listed beginning. -/
def skips (l : SkipList) (path : String) : Bool :=
  l.starts.any fun start => start.toList.isPrefixOf (FilePath.nameOf path.toList)

def policy (l : SkipList) : LoadPolicy :=
  fun path => !l.skips path

/-- An item that is not empty leaves out the modules whose file names begin with it. -/
theorem skips_ofList_iff {starts : List String} {path : String} :
    (ofList starts).skips path = true ↔
      ∃ start ∈ starts, start ≠ "" ∧ start.toList <+: FilePath.nameOf path.toList := by
  simp [skips, ofList]

end SkipList

/-! ## Loaders -/

structure ModuleLoader where
  service : SymbolService
  policy : LoadPolicy
  /-- Given to the host for images that exist in memory only. -/
  reader : Option MemoryReader
  /-- Whether the methods that are not the user's code are marked as such. -/
  justMyCode : Bool

namespace ModuleLoader

/-- A loader that marks the user's code and has no access to memory. -/
def new (service : SymbolService) (policy : LoadPolicy) : ModuleLoader :=
  ⟨service, policy, none, true⟩

def ofSettings (service : SymbolService) (settings : SymbolSettings) : ModuleLoader :=
  ⟨service, (SkipList.ofList settings.skipStarts).policy, none, settings.justMyCode⟩

/-- Where the image of a module is, none for a module made at run time. A module loaded from a
stream has the layout of its file. -/
def source? (l : ModuleLoader) (m : LoadedModule) (path : String) :
    Except SymbolError (Option ImageSource) := do
  if ← m.isDynamic then return none
  if ← m.isInMemory then
    let base ← m.baseAddress
    let size ← m.size
    return some (.inMemory ⟨base, size.toUInt64⟩ .file l.reader)
  return some (.file path)

/-- Opens the symbols of a module. Whatever goes wrong with the host is an answer, not an error. -/
def openSymbols (l : ModuleLoader) (m : LoadedModule) (path : String) : Action SymbolAccess := do
  match ← l.source? m path with
  | none =>
    Action.note (.dynamicModule path)
    return .absent
  | some source =>
    match ← (l.service.load source).attempt with
    | .ok p => return .provider p
    | .error (.hostUnavailable reason) =>
      Action.note (.hostUnavailable path reason)
      return .hostUnavailable reason
    | .error e =>
      Action.note (.symbolsNotLoaded path e.message)
      return .absent

/-- Takes a method out of the user's code, after those in `earlier`. -/
def markMethod (m : LoadedModule) (name : String) (earlier : List MethodToken)
    (method : MethodToken) : Traced Unit := do
  Traced.enter (.methodUserCode m.key method false)
  match m.setMethodUserCode method false earlier with
  | .ok () => return ()
  | .error e => Traced.note (.methodRejected name method e.message)

/-- Takes methods out of the user's code one after the other, whichever are refused. -/
def markMethods (m : LoadedModule) (name : String) :
    (earlier methods : List MethodToken) → Traced Unit
  | _, [] => return ()
  | earlier, method :: rest => do
    markMethod m name earlier method
    markMethods m name (earlier ++ [method]) rest

/-- Sets the switches for Just My Code: the module is the user's code when it has symbols and the
loader marks such code, and then the methods that are not are taken out again. A failure is noted
and leaves the module usable. -/
def configureJustMyCode (l : ModuleLoader) (m : LoadedModule) (name : String)
    (symbols : SymbolAccess) : Traced Unit := do
  let provider? := if l.justMyCode then symbols.provider? else none
  Traced.enter (.userCode m.key provider?.isSome)
  match m.setUserCode provider?.isSome, provider? with
  | .error e, _ => Traced.note (.justMyCodeRejected name e.message)
  | .ok (), none => return ()
  | .ok (), some p =>
    match ← p.askNonUserMethods.attempt with
    | .error e => Traced.note (.nonUserMethodsUnlisted name e.message)
    | .ok methods =>
      markMethods m name [] methods
      Traced.note (.justMyCodeConfigured name methods.length)

/-- The identity of a module. Whatever keeps it from being read is a fault of the metadata. -/
def identify (m : LoadedModule) (path : String) : Except SymbolError ModuleId :=
  match m.versionId with
  | .ok id => .ok id
  | .error e => .error (.malformedMetadata (.identity path e.message))

/-- The symbols that a module gets, and what became of loading them. A module that the policy leaves
out gets none, and the host is not asked for it. -/
def chooseSymbols (l : ModuleLoader) (m : LoadedModule) (path : String) :
    Action (SymbolAccess × SymbolStatus) :=
  if l.policy path then do
    let symbols ← l.openSymbols m path
    return (symbols, if symbols.hasProvider then .loaded else .notFound)
  else do
    Action.note (.skippedByPolicy (FilePath.fileName path))
    return (.absent, .skipped)

/-- The description of a module: its identity first, then its place. -/
def describe (m : LoadedModule) (path : String) (status : SymbolStatus) :
    Except SymbolError ModuleDescriptor := do
  let id ← identify m path
  let base ← m.baseAddress
  let size ← m.size
  return ⟨id, FilePath.fileName path, path, status, base, size⟩

def enroll (m : LoadedModule) (path : String) (symbols : SymbolAccess) (status : SymbolStatus) :
    Action ModuleDescriptor := do
  let descriptor ← describe m path status
  Session.register ⟨descriptor.baseAddress, descriptor.size, symbols, m⟩
  Action.note (.moduleLoaded descriptor)
  return descriptor

/-- Loads and registers a module whose answers may change while that goes on: `early` is the module
until its symbols are open, `late` is the module from then on. Of each, an answer is asked for at
most once. -/
def loadChanging (l : ModuleLoader) (early late : LoadedModule) : Action ModuleDescriptor := do
  let path ← early.path
  let (symbols, status) ← l.chooseSymbols early path
  l.configureJustMyCode late (FilePath.fileName path) symbols
  enroll late path symbols status

def load (l : ModuleLoader) (m : LoadedModule) : Action ModuleDescriptor :=
  l.loadChanging m m

end ModuleLoader

end DebugSymbols

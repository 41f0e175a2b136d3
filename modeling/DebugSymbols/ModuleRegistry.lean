import DebugSymbols.SymbolProvider.Location

/-!
# The registry of modules

The modules that are known, in the order in which they were registered, each at an address of its
own. A module may have symbols, have none, or have been registered while the symbol host was out of
order; questions about the third kind fail with the reason of that. Looking something up changes
nothing: every question is a function of the registry.
-/

namespace DebugSymbols

/-- What symbols a registered module has. -/
inductive SymbolAccess where
  | provider (p : SymbolProvider)
  | absent
  /-- The symbol host was not available, for the given reason. -/
  | hostUnavailable (reason : String)

namespace SymbolAccess

def provider? : SymbolAccess → Option SymbolProvider
  | provider p => some p
  | _ => none

def hasProvider (a : SymbolAccess) : Bool :=
  a.provider?.isSome

/-- Why the host was not available, if that is why there are no symbols. -/
def hostReason? : SymbolAccess → Option String
  | hostUnavailable reason => some reason
  | _ => none

end SymbolAccess

structure ModuleEntry where
  address : Address
  size : UInt32
  symbols : SymbolAccess
  module : LoadedModule

structure ModuleLocation where
  location : CodeLocation
  module : LoadedModule

/-- The registered modules, oldest first. -/
structure ModuleRegistry where
  entries : List ModuleEntry
  addresses_nodup : (entries.map ModuleEntry.address).Nodup

/-- The provider of a registered module, or why there is none. -/
def ModuleEntry.provider (e : ModuleEntry) : Except SymbolError SymbolProvider :=
  match e.symbols with
  | .provider p => .ok p
  | .absent => .error (.noSymbols (.moduleAt e.address))
  | .hostUnavailable reason => .error (.hostUnavailable reason)

/-- Whether the file name of the module is `name`. A module whose path cannot be read has none. -/
def ModuleEntry.isNamed (e : ModuleEntry) (name : String) : Bool :=
  match e.module.path with
  | .ok path => FilePath.fileName path == name
  | .error _ => false

namespace ModuleRegistry

def empty : ModuleRegistry where
  entries := []
  addresses_nodup := List.nodup_nil

def size (r : ModuleRegistry) : Nat :=
  r.entries.length

def isEmpty (r : ModuleRegistry) : Bool :=
  r.entries.isEmpty

def find? (r : ModuleRegistry) (address : Address) : Option ModuleEntry :=
  r.entries.find? fun e => e.address == address

theorem find?_eq_none_iff {r : ModuleRegistry} {address : Address} :
    r.find? address = none ↔ address ∉ r.entries.map ModuleEntry.address := by
  simp [find?, List.find?_eq_none]

/-- Adds a module behind the others, at an address that is free. -/
def append (r : ModuleRegistry) (e : ModuleEntry) (free : r.find? e.address = none) :
    ModuleRegistry where
  entries := r.entries ++ [e]
  addresses_nodup := by
    rw [find?_eq_none_iff] at free
    rw [List.map_append, List.map_singleton, List.nodup_append]
    refine ⟨r.addresses_nodup, by simp, ?_⟩
    intro a ha b hb
    rw [List.mem_singleton] at hb
    rintro rfl
    exact free (hb ▸ ha)

/-- Registers a module. An address that is taken is refused, and the module there stays. -/
def insert (r : ModuleRegistry) (e : ModuleEntry) : Traced ModuleRegistry :=
  match h : r.find? e.address with
  | some _ => do
    Traced.note (.addressTaken e.address)
    Traced.fail (.invalidArgument (.addressTaken e.address))
  | none => do
    Traced.note (.moduleRegistered e.address e.size e.symbols.hasProvider
      e.symbols.hostReason?.isSome (r.size + 1))
    return r.append e h

theorem result_insert_of_free {r : ModuleRegistry} {e : ModuleEntry}
    (free : r.find? e.address = none) : (r.insert e).result = .ok (r.append e free) := by
  unfold insert
  split
  · next found => rw [free] at found; cases found
  · rfl

theorem result_insert_of_taken {r : ModuleRegistry} {e found : ModuleEntry}
    (taken : r.find? e.address = some found) :
    (r.insert e).result = .error (.invalidArgument (.addressTaken e.address)) := by
  unfold insert
  split
  · rfl
  · next free => rw [taken] at free; cases free

def moduleAt (r : ModuleRegistry) (address : Address) : Except SymbolError ModuleEntry :=
  match r.find? address with
  | some e => .ok e
  | none => .error (.notFound (.moduleAt address))

/-- The oldest module whose file name is `name`. -/
def moduleNamed (r : ModuleRegistry) (name : String) : Except SymbolError LoadedModule :=
  match r.entries.find? fun e => e.isNamed name with
  | some e => .ok e.module
  | none => .error (.notFound (.moduleNamed name))

def providerAt (r : ModuleRegistry) (address : Address) : Except SymbolError SymbolProvider :=
  match r.moduleAt address with
  | .ok e => e.provider
  | .error e => .error e

def locateAt (r : ModuleRegistry) (address : Address) (path : String) (line : UInt32) :
    Traced CodeLocation := do
  let p ← r.providerAt address
  p.locate path line

/-- Looks for a source position in one module after the other. `reason` is why the host was not
available for the oldest module so far of which that is so; it is the answer when no module has
the position. -/
def locateIn (path : String) (line : UInt32) (reason : Option String) :
    List ModuleEntry → Traced ModuleLocation
  | [] =>
    match reason with
    | some reason => Traced.fail (.hostUnavailable reason)
    | none => Traced.fail (.notFound (.codeAnywhere path line))
  | e :: rest =>
    match e.symbols with
    | .provider p => do
      match ← (p.locate path line).attempt with
      | .ok location =>
        Traced.note (.locationResolved e.address path line location.method)
        return ⟨location, e.module⟩
      | .error failure =>
        Traced.note (.locationUnresolved e.address path line failure.message)
        locateIn path line reason rest
    | .absent => locateIn path line reason rest
    | .hostUnavailable why => locateIn path line (reason.or (some why)) rest

/-- The code for a source position in the oldest module that has it. -/
def locate (r : ModuleRegistry) (path : String) (line : UInt32) : Traced ModuleLocation :=
  locateIn path line none r.entries

/-- Visits the modules, oldest first. What the visitor does, and whether it breaks off, is up to it:
the visits happen in its own monad, and the registry is not touched. -/
def visit {m : Type → Type} [Monad m] (r : ModuleRegistry) (visitor : LoadedModule → m Unit) :
    m Unit :=
  r.entries.forM fun e => visitor e.module

end ModuleRegistry

end DebugSymbols

import DebugSymbols.Expression
import DebugSymbols.Literal
import DebugSymbols.SymbolTable

/-!
# Symbol hosts

Debug data is read from the image of a module: a file on disk, or a stretch of the memory of the
debugged process. A host opens the debug data of images and works out expressions. It may be a large
machine that has to be prepared first, and one whose answers change with time: it is given the calls
made of it so far and may go by them.
-/

namespace DebugSymbols

/-! ## Images -/

/-- Reads at most the given number of bytes at an address; fewer, or none, where there are no more
to read. -/
abbrev MemoryReader : Type :=
  Address → Nat → List UInt8

inductive ImageLayout where
  /-- The bytes of the file, one after the other. -/
  | file
  /-- The sections at the addresses they are meant for. -/
  | mapped
deriving DecidableEq

/-- Where the image of a module can be read. -/
inductive ImageSource where
  | file (path : String)
  | inMemory (image : AddressRange) (layout : ImageLayout) (reader : Option MemoryReader)

def ImageLayout.text : ImageLayout → String
  | file => "File"
  | mapped => "Mapped"

/-- The description of an address range in messages, in decimal. -/
def AddressRange.describe (r : AddressRange) : String :=
  "AddressRange \x7b start: Address(" ++ toString r.start.value ++ "), size: " ++ toString r.size
    ++ " \x7d"

/-- The description of a source in messages. Of a reader only its presence is told. -/
def ImageSource.describe : ImageSource → String
  | file path => "File \x7b path: " ++ Text.quoted path ++ " \x7d"
  | inMemory image layout reader =>
    "InMemory \x7b image: " ++ image.describe ++ ", layout: " ++ layout.text ++ ", reader: "
      ++ toString reader.isSome ++ " \x7d"

/-! ## Hosts -/

inductive HostCall where
  | prepare
  | load (source : ImageSource)
  | parse (text typeName : String)
  | evaluate (expression : String) (children : ChildVisitor)

/-- What opens debug data. The first argument of every answer is the list of earlier calls. A host
need not support expressions. -/
structure SymbolHost where
  prepare : List HostCall → Except SymbolError Unit := fun _ => .ok ()
  load : List HostCall → ImageSource → Except SymbolError SymbolProvider
  parse : List HostCall → String → String → Except SymbolError LiteralValue :=
    fun _ _ _ => .error (.provider .parsingUnsupported)
  /-- Evaluates an expression whose names are looked up by the visitor. -/
  evaluate : List HostCall → String → ChildVisitor → Evaluation :=
    fun _ _ _ => ⟨.error (.provider .evaluationUnsupported), []⟩

/-- Debug data that is at hand as tables, by file and by address; of several for one place the first
counts. -/
structure TableStore where
  files : List (String × SymbolTable)
  images : List (Address × SymbolTable)

namespace TableStore

/-- Adds the table of a file, in place of an earlier one. -/
def addFile (s : TableStore) (path : String) (table : SymbolTable) : TableStore :=
  { s with files := (path, table) :: s.files }

/-- Adds the table of an image in memory, in place of an earlier one at its address. -/
def addImage (s : TableStore) (base : Address) (table : SymbolTable) : TableStore :=
  { s with images := (base, table) :: s.images }

/-- The table for an image. Files are found by their components, images in memory by their start. -/
def find? (s : TableStore) : ImageSource → Option SymbolTable
  | .file path =>
    (s.files.find? fun entry => FilePath.components entry.1 == FilePath.components path).map Prod.snd
  | .inMemory image _ _ => (s.images.find? fun entry => entry.1 == image.start).map Prod.snd

def load (s : TableStore) (source : ImageSource) : Except SymbolError SymbolProvider :=
  match s.find? source with
  | some table => .ok table.provider
  | none => .error (.notFound (.debugData source.describe))

/-- The tables as a host that understands literals and member paths. -/
def host (s : TableStore) : SymbolHost where
  load := fun _ source => s.load source
  parse := fun _ text typeName => Literal.parse text typeName
  evaluate := fun _ expression children => Expression.evaluate expression children

end TableStore

end DebugSymbols

import DebugSymbols.Error
import DebugSymbols.Literal.Decimal
import DebugSymbols.Literal.Integer
import DebugSymbols.Literal.Quote
import DebugSymbols.Text.Pieces

/-!
# Literals

A literal is read for a type, which decides its form: a string gives its text, every other type the
bytes of its value with the least significant byte first. White space around a literal does not
matter.
-/

namespace DebugSymbols

inductive LiteralValue where
  | text (content : String)
  | bytes (content : List UInt8)
deriving DecidableEq

inductive LiteralType where
  | string
  | boolean
  | character
  | integer (type : Literal.IntegerType)
  | real (format : Literal.BinaryFormat)

namespace LiteralType

/-- The types that have literals, under the names by which the runtime knows them. -/
def named : List (String × LiteralType) :=
  [("System.String", .string),
   ("System.Boolean", .boolean),
   ("System.Char", .character),
   ("System.SByte", .integer ⟨true, 1⟩),
   ("System.Byte", .integer ⟨false, 1⟩),
   ("System.Int16", .integer ⟨true, 2⟩),
   ("System.UInt16", .integer ⟨false, 2⟩),
   ("System.Int32", .integer ⟨true, 4⟩),
   ("System.UInt32", .integer ⟨false, 4⟩),
   ("System.Int64", .integer ⟨true, 8⟩),
   ("System.UInt64", .integer ⟨false, 8⟩),
   ("System.Single", .real .single),
   ("System.Double", .real .double)]

def ofName? (name : String) : Option LiteralType :=
  (named.find? fun entry => entry.1 == name).map Prod.snd

end LiteralType

namespace Literal

def booleanBytes (cs : List Char) : Option (List UInt8) :=
  if cs = ['t', 'r', 'u', 'e'] then some [1]
  else if cs = ['f', 'a', 'l', 's', 'e'] then some [0]
  else none

def characterBytes (cs : List Char) : Option (List UInt8) :=
  (characterUnit? cs).map (littleEndian 2)

/-- Reads a string literal, given without the white space around it. -/
def readString (cs : List Char) : Except SymbolError LiteralValue :=
  match between? '"' cs with
  | none => .error (.provider (.notQuoted (String.ofList cs)))
  | some inner =>
    match unescape inner with
    | none => .error (.provider (.invalidEscape (String.ofList cs)))
    | some content => .ok (.text (String.ofList content))

/-- Reads `text` as a literal of the type called `typeName`. -/
def parse (text typeName : String) : Except SymbolError LiteralValue :=
  let cs := Text.trim text.toList
  let ofBytes : Option (List UInt8) → Except SymbolError LiteralValue
    | some content => .ok (.bytes content)
    | none => .error (.provider (.invalidLiteral (String.ofList cs) typeName))
  match LiteralType.ofName? typeName with
  | none => .error (.provider (.noLiteralForm typeName))
  | some .string => readString cs
  | some .boolean => ofBytes (booleanBytes cs)
  | some .character => ofBytes (characterBytes cs)
  | some (.integer type) => ofBytes (integerBytes type cs)
  | some (.real format) => ofBytes (realBytes format cs)

end Literal

end DebugSymbols

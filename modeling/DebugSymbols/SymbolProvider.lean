import DebugSymbols.Error
import DebugSymbols.SequencePoint

/-!
# Symbol providers

A provider answers questions about the debug data of one module. Every answer can fail. The answers
are constant: what a provider says does not depend on what it was asked before.
-/

namespace DebugSymbols

structure CodeMatch where
  method : MethodToken
  offset : UInt32
  /-- The line of the point, where the provider tells it. -/
  line : Option UInt32
deriving DecidableEq

inductive SymbolQuery where
  | resolve (path : String) (line : UInt32)
  | sourceLine (method : MethodToken) (offset : UInt32)
  | stepRange (offset : UInt32) (method : MethodToken)
  | points (method : MethodToken)
  | localScope (method : MethodToken) (slot : UInt32)
  | nonUserMethods
deriving DecidableEq

structure SymbolProvider where
  /-- Whether the questions put to it are entered in the journal. -/
  watched : Bool
  /-- The sequence point for a line. The path may be a file name only. -/
  resolve : String → UInt32 → Except SymbolError CodeMatch
  /-- The source line of an offset, with the full path of the document. -/
  sourceLine : MethodToken → UInt32 → Except SymbolError SourceLine
  /-- The code of the statement at an offset; an empty range when nothing is known of it. -/
  stepRange : UInt32 → MethodToken → Except SymbolError StepRange
  /-- The sequence points of a method in ascending order. -/
  points : MethodToken → Except SymbolError (List SequencePoint)
  /-- The name and the lifetime of a local variable, given by its slot. -/
  localScope : MethodToken → UInt32 → Except SymbolError LocalScope
  /-- The methods that are not the user's code, where the provider has such a list. -/
  nonUserMethods : Option (Except SymbolError (List MethodToken))

end DebugSymbols

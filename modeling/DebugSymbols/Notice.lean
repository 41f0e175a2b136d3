import DebugSymbols.LoadedModule
import DebugSymbols.SequencePoint
import DebugSymbols.Text.Display

/-!
# Notices

What is worth a line in the log. A notice says what happened; its level, its words and the values
that go with them are worked out from it here and nowhere else.
-/

namespace DebugSymbols

inductive NoticeLevel where
  | error
  | warn
  | info
  | debug
  | trace
deriving DecidableEq

inductive Notice where
  | settingsLoaded (skipStarts : List String) (justMyCode : Bool)
  | hostPrepared
  | hostPreparationFailed (reason : String)
  | addressTaken (address : Address)
  | moduleRegistered (address : Address) (size : UInt32) (hasSymbols hostDown : Bool)
      (modules : Nat)
  | registryCleared (dropped : Nat)
  | pointResolved (path : String) (line matched : UInt32) (method : MethodToken) (offset : UInt32)
  | locationResolved (address : Address) (path : String) (line : UInt32) (method : MethodToken)
  | locationUnresolved (address : Address) (path : String) (line : UInt32) (reason : String)
  | skippedByPolicy (name : String)
  | dynamicModule (path : String)
  | hostUnavailable (path reason : String)
  | symbolsNotLoaded (path reason : String)
  | justMyCodeRejected (name reason : String)
  | nonUserMethodsUnlisted (name reason : String)
  | methodRejected (name : String) (method : MethodToken) (reason : String)
  | justMyCodeConfigured (name : String) (methods : Nat)
  | moduleLoaded (descriptor : ModuleDescriptor)
  | frameMapped (method : MethodToken) (offset line : UInt32)
  | stepWidened (method : MethodToken) (offset : UInt32) (range : StepRange)
deriving DecidableEq

inductive NoticeValue where
  | text (value : String)
  | number (value : Nat)
  | flag (value : Bool)
deriving DecidableEq

namespace Notice

def level : Notice → NoticeLevel
  | hostPreparationFailed .. => .error
  | addressTaken .. | symbolsNotLoaded .. | justMyCodeRejected .. | nonUserMethodsUnlisted ..
  | methodRejected .. => .warn
  | hostPrepared | moduleLoaded .. => .info
  | settingsLoaded .. | moduleRegistered .. | registryCleared .. | skippedByPolicy ..
  | dynamicModule .. | hostUnavailable .. | justMyCodeConfigured .. | stepWidened .. => .debug
  | pointResolved .. | locationResolved .. | locationUnresolved .. | frameMapped .. => .trace

def message : Notice → String
  | settingsLoaded .. => "symbol settings loaded"
  | hostPrepared => "symbol host prepared"
  | hostPreparationFailed .. =>
    "symbol host preparation failed; symbol loading and evaluation are disabled"
  | addressTaken .. => "module already registered at this address"
  | moduleRegistered .. => "module registered"
  | registryCleared .. => "module registry cleared"
  | pointResolved .. => "resolved sequence point"
  | locationResolved .. => "location resolved"
  | locationUnresolved .. => "module cannot resolve location"
  | skippedByPolicy .. => "symbol loading skipped by policy"
  | dynamicModule .. => "dynamic module has no image to read symbols from"
  | hostUnavailable .. => "symbol host unavailable"
  | symbolsNotLoaded .. => "could not load symbols"
  | justMyCodeRejected .. => "could not set module JMC status"
  | nonUserMethodsUnlisted .. => "could not list non-user code methods"
  | methodRejected .. => "could not mark method as non-user code"
  | justMyCodeConfigured .. => "JMC configured"
  | moduleLoaded .. => "module loaded"
  | frameMapped .. => "frame mapped to sequence point"
  | stepWidened .. => "step range widened to method end"

/-- The values that go with a notice, by name. -/
def fields : Notice → List (String × NoticeValue)
  | settingsLoaded skipStarts justMyCode =>
    [("skip_prefixes", .text (Text.quotedList skipStarts)), ("just_my_code", .flag justMyCode)]
  | hostPrepared => []
  | hostPreparationFailed reason => [("error", .text reason)]
  | addressTaken address => [("address", .text address.text)]
  | moduleRegistered address size hasSymbols hostDown modules =>
    [("address", .text address.text), ("size", .number size.toNat),
     ("has_symbols", .flag hasSymbols), ("host_unavailable", .flag hostDown),
     ("modules", .number modules)]
  | registryCleared dropped => [("dropped", .number dropped)]
  | pointResolved path line matched method offset =>
    [("path", .text path), ("line", .number line.toNat), ("matched_line", .number matched.toNat),
     ("method", .text method.text), ("offset", .number offset.toNat)]
  | locationResolved address path line method =>
    [("address", .text address.text), ("path", .text path), ("line", .number line.toNat),
     ("method", .text method.text)]
  | locationUnresolved address path line reason =>
    [("address", .text address.text), ("path", .text path), ("line", .number line.toNat),
     ("error", .text reason)]
  | skippedByPolicy name => [("module", .text name)]
  | dynamicModule path => [("module", .text path)]
  | hostUnavailable path reason => [("module", .text path), ("reason", .text reason)]
  | symbolsNotLoaded path reason => [("module", .text path), ("error", .text reason)]
  | justMyCodeRejected name reason => [("module", .text name), ("error", .text reason)]
  | nonUserMethodsUnlisted name reason => [("module", .text name), ("error", .text reason)]
  | methodRejected name method reason =>
    [("module", .text name), ("method", .text method.text), ("error", .text reason)]
  | justMyCodeConfigured name methods =>
    [("module", .text name), ("non_user_methods", .number methods)]
  | moduleLoaded d =>
    [("module", .text d.name), ("id", .text d.id.text), ("base_address", .text d.baseAddress.text),
     ("size", .number d.size.toNat), ("status", .text d.status.text)]
  | frameMapped method offset line =>
    [("method", .text method.text), ("il_offset", .number offset.toNat),
     ("line", .number line.toNat)]
  | stepWidened method offset range =>
    [("method", .text method.text), ("il_offset", .number offset.toNat),
     ("range", .text range.text)]

end Notice

end DebugSymbols

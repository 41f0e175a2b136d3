import DebugSymbols.Identifiers

/-!
# Errors

An error has a kind, which tells a caller what can be done about it, and a cause within the kind.
The causes that this library knows are constructors of their own; an error that a collaborator (the
symbol host, a provider, the debugged process) raises is `reported` with its own words. All wording
is in `message`.
-/

namespace DebugSymbols

inductive Missing where
  | moduleAt (address : Address)
  | moduleNamed (name : String)
  /-- No module has code at a line. -/
  | codeAnywhere (path : String) (line : UInt32)
  /-- The module that was asked has no code at a line. -/
  | code (path : String) (line : UInt32)
  | methodData (method : MethodToken)
  | sourceLine (method : MethodToken) (offset : UInt32)
  | sequencePoint (offset : UInt32)
  | localSlot (slot : UInt32) (method : MethodToken)
  | localValue (name : String)
  | activeFrame
  | debugData (image : String)
  | reported (text : String)
deriving DecidableEq

inductive Unequipped where
  | moduleAt (address : Address)
  | reported (text : String)
deriving DecidableEq

inductive MetadataFault where
  /-- The version identifier of the module at `path` could not be read, for the reason given. -/
  | identity (path : String) (reason : String)
  | reported (text : String)
deriving DecidableEq

/-- What a caller asked for against the rules. -/
inductive Misuse where
  | addressTaken (address : Address)
  | reported (text : String)
deriving DecidableEq

/-- Why an expression was not accepted. -/
inductive Complaint where
  | emptyExpression
  | unsupportedExpression (expression near : String)
  | unknownName (name : String)
  | noMembers (name : String)
  | noLiteralForm (type : String)
  | invalidLiteral (text type : String)
  | notQuoted (text : String)
  | invalidEscape (text : String)
  | parsingUnsupported
  | evaluationUnsupported
  | reported (text : String)
deriving DecidableEq

inductive SymbolError where
  /-- Nothing was found; the caller can look elsewhere. -/
  | notFound (what : Missing)
  /-- The module is known but has no debug data. -/
  | noSymbols (which : Unequipped)
  /-- The module cannot be identified, and so not debugged. -/
  | malformedMetadata (fault : MetadataFault)
  | hostUnavailable (reason : String)
  | outOfMemory
  | invalidArgument (misuse : Misuse)
  /-- The provider rejected a request and said why. -/
  | provider (complaint : Complaint)
deriving DecidableEq

def Missing.text : Missing → String
  | moduleAt address => s!"no module registered at {address}"
  | moduleNamed name => s!"no module named {name}"
  | codeAnywhere path line => s!"no loaded module has code at {path}:{line}"
  | code path line => s!"no code at {path}:{line}"
  | methodData method => s!"no debug information for method {method}"
  | sourceLine method offset =>
    s!"no source line for {method} at IL offset " ++ Text.hex offset.toNat
  | sequencePoint offset => "no sequence points to match IL offset " ++ Text.hex offset.toNat
  | localSlot slot method => s!"no local in slot {slot} of {method}"
  | localValue name => s!"local '{name}' has no value in this frame"
  | activeFrame => "thread has no active frame"
  | debugData image => s!"no debug data for {image}"
  | reported text => text

def Unequipped.text : Unequipped → String
  | moduleAt address => s!"module at {address}"
  | reported text => text

def MetadataFault.text : MetadataFault → String
  | identity path reason => s!"{path}: {reason}"
  | reported text => text

def Misuse.text : Misuse → String
  | addressTaken address => s!"a module is already registered at {address}"
  | reported text => text

def Complaint.text : Complaint → String
  | emptyExpression => "empty expression"
  | unsupportedExpression expression near => s!"unsupported expression '{expression}' near '{near}'"
  | unknownName name => s!"'{name}' does not exist in the current context"
  | noMembers name => s!"'{name}' has no members"
  | noLiteralForm type => s!"no literal syntax for type {type}"
  | invalidLiteral text type => s!"'{text}' is not a valid {type} literal"
  | notQuoted text => s!"{text} is not a string literal"
  | invalidEscape text => s!"invalid escape in {text}"
  | parsingUnsupported => "expression parsing is not supported by this host"
  | evaluationUnsupported => "expression evaluation is not supported by this host"
  | reported text => text

namespace SymbolError

/-- The whole message: what kind of error it is, and the cause. -/
def message : SymbolError → String
  | notFound what => "Not found: " ++ what.text
  | noSymbols which => "No symbols loaded for " ++ which.text
  | malformedMetadata fault => "Malformed metadata: " ++ fault.text
  | hostUnavailable reason => "Symbol host unavailable: " ++ reason
  | outOfMemory => "Out of memory while copying symbol data"
  | invalidArgument misuse => "Invalid argument: " ++ misuse.text
  | provider complaint => "Symbol provider error: " ++ complaint.text

/-- Whether a caller can go on with something else, such as another module. -/
def isRecoverable : SymbolError → Bool
  | notFound _ | noSymbols _ | provider _ => true
  | _ => false

end SymbolError

end DebugSymbols

import DebugSymbols.Error
import DebugSymbols.SequencePoint
import DebugSymbols.Text.Classes
import DebugSymbols.Text.Pieces

/-!
# Member paths

The expressions understood here are names joined by dots, such as `order.customer.name`. The first
name is looked up in the current scope, every other one among the members of the value found before.
The lookups made are part of the result, in their order: an expression that is no path makes none.
-/

namespace DebugSymbols

/-- What an expression, or a single lookup, comes to. -/
inductive EvalValue where
  /-- A value of the debugged process, which may have members. -/
  | value (handle : ValueHandle)
  /-- A composite without a form of its own. -/
  | object
  | text (content : String)
  | bytes (content : List UInt8)
deriving DecidableEq

inductive TypeClass where
  | value
  | object
  | string
  | primitive
deriving DecidableEq

def EvalValue.typeClass : EvalValue → TypeClass
  | value _ => .value
  | object => .object
  | text _ => .string
  | bytes _ => .primitive

/-- A request for the member `name` of `parent`, or for `name` in the current scope. -/
structure Lookup where
  parent : Option ValueHandle
  name : String
deriving DecidableEq

/-- Answers lookups. The answer may depend on the lookups made before. -/
abbrev ChildVisitor : Type :=
  List Lookup → Lookup → Option EvalValue

/-- An evaluation: its result and the lookups that it made, in order. -/
structure Evaluation where
  result : Except SymbolError EvalValue
  lookups : List Lookup

namespace Expression

open Text (isAlphabetic isNumeric isBlank trim pieces)

def startsName (c : Char) : Bool :=
  c == '_' || isAlphabetic c

def continuesName (c : Char) : Bool :=
  c == '_' || isAlphabetic c || isNumeric c

def isName : List Char → Bool
  | [] => false
  | c :: cs => startsName c && cs.all continuesName

/-- The segments of a path, without the white space around them. -/
def segments (expression : List Char) : List (List Char) :=
  (pieces (· == '.') expression).map trim

/-- Looks up `name` on `parent`, and the names that follow on what was found. `earlier` holds the
lookups made so far. Only a value of the debugged process has members. -/
def walk (children : ChildVisitor) (earlier : List Lookup) (parent : Option ValueHandle)
    (name : String) : List String → Evaluation
  | [] =>
    let made := earlier ++ [⟨parent, name⟩]
    match children earlier ⟨parent, name⟩ with
    | none => ⟨.error (.provider (.unknownName name)), made⟩
    | some found => ⟨.ok found, made⟩
  | next :: rest =>
    let made := earlier ++ [⟨parent, name⟩]
    match children earlier ⟨parent, name⟩ with
    | none => ⟨.error (.provider (.unknownName name)), made⟩
    | some (.value handle) => walk children made (some handle) next rest
    | some _ => ⟨.error (.provider (.noMembers name)), made⟩

/-- Evaluates a path. White space around it and around its dots does not matter. -/
def evaluate (expression : String) (children : ChildVisitor) : Evaluation :=
  let path := trim expression.toList
  if path.isEmpty then ⟨.error (.provider .emptyExpression), []⟩
  else
    match (segments path).find? fun segment => !isName segment with
    | some bad =>
      let complaint := .unsupportedExpression (String.ofList path) (String.ofList bad)
      ⟨.error (.provider complaint), []⟩
    | none =>
      match (segments path).map String.ofList with
      | [] => ⟨.error (.provider .emptyExpression), []⟩
      | name :: rest => walk children [] none name rest

end Expression

end DebugSymbols

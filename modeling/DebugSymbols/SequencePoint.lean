import DebugSymbols.Identifiers

/-!
# Sequence points

A sequence point ties an offset in a method's code to a stretch of source text. The points of a
method stand in ascending order of their offsets; several may share one offset. A step runs over a
stretch of the code, from its start up to but not including its end.
-/

namespace DebugSymbols

/-- The line number that marks generated code. -/
def hiddenLine : UInt32 := 0x00FEEFEE

/-- A place in a method's code with the source text it was compiled from. -/
structure SequencePoint where
  /-- Where in the code the point starts. -/
  offset : UInt32
  startLine : UInt32
  endLine : UInt32
  startColumn : UInt32
  endColumn : UInt32
  document : String
deriving DecidableEq

/-- Whether the point belongs to generated code, which has no source line. -/
def SequencePoint.isHidden (p : SequencePoint) : Bool :=
  p.startLine == hiddenLine

structure SourceLine where
  line : UInt32
  document : String
deriving DecidableEq

/-- Whether the line is one that a user can be shown: neither zero nor the mark of generated code. -/
def SourceLine.isUsable (l : SourceLine) : Bool :=
  l.line != 0 && l.line != hiddenLine

theorem SourceLine.isUsable_eq_true_iff {source : SourceLine} :
    source.isUsable = true ↔ source.line ≠ 0 ∧ source.line ≠ hiddenLine := by
  simp [isUsable]

structure CodeLocation where
  method : MethodToken
  offset : UInt32
  /-- The full path of the document, of which the request may have given the file name only. -/
  document : String
deriving DecidableEq

/-- The name and the lifetime of a local variable. -/
structure LocalScope where
  name : String
  start : UInt32
  finish : UInt32
deriving DecidableEq

/-- A value in the debugged process, known here only by its handle. -/
structure ValueHandle where
  value : UInt64
deriving DecidableEq

structure LocalVariable where
  scope : LocalScope
  value : ValueHandle
deriving DecidableEq

namespace SequencePoint

/-- Goes through the points that are left while the best so far is `best`. A point before `offset`
is better than any earlier one; a point at `offset` is the answer; a point behind it ends the
search. -/
def nearestFrom (offset : UInt32) (best : SequencePoint) : List SequencePoint → SequencePoint
  | [] => best
  | p :: rest =>
    if p.offset < offset then nearestFrom offset p rest
    else if p.offset = offset then p
    else best

/-- The point that `offset` belongs to: in ascending `points` the one with the largest offset that
does not exceed it. Before the first point it is the first point, since the prologue of a method
belongs to its first statement. -/
def nearest? (points : List SequencePoint) (offset : UInt32) : Option SequencePoint :=
  points.head?.map fun first => nearestFrom offset first points

theorem nearest?_eq_none_iff {points : List SequencePoint} {offset : UInt32} :
    nearest? points offset = none ↔ points = [] := by
  cases points <;> simp [nearest?]

end SequencePoint

/-! ## Step ranges -/

/-- The offsets from `start` to before `finish`. -/
structure StepRange where
  start : UInt32
  finish : UInt32
deriving DecidableEq

namespace StepRange

/-- Whether the range says nothing: it ends where it starts. -/
def isEmpty (r : StepRange) : Bool :=
  r.start == r.finish

/-- Extends a range that says nothing to the end of a body of `size` bytes; any other range is left
as it is. -/
def widenTo (r : StepRange) (size : UInt32) : StepRange :=
  if r.isEmpty then { r with finish := size } else r

/-- The ends of the range in hexadecimal, as a half-open interval. -/
def text (r : StepRange) : String :=
  "[" ++ Text.hex r.start.toNat ++ ", " ++ Text.hex r.finish.toNat ++ ")"

instance : ToString StepRange := ⟨text⟩

end StepRange

end DebugSymbols

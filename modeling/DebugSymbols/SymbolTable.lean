import DebugSymbols.FilePath
import DebugSymbols.SymbolProvider

/-!
# Debug data in tables

The debug data of a module as a table of its methods, in the order of their tokens, and of each
method the sequence points, in the order of their offsets. Points with one offset keep the order in
which they were added. Both orders are part of the types, so every table there is has them.
-/

namespace DebugSymbols

structure MethodTable where
  points : List SequencePoint
  /-- The local variables by slot; of several for one slot the first counts. -/
  locals : List (UInt32 × LocalScope)
  bodySize : UInt32
  isUserCode : Bool
  points_ascending : points.Pairwise fun p q => p.offset ≤ q.offset

/-- Puts `p` behind the points that do not come after it. -/
def SequencePoint.insertInto (p : SequencePoint) (points : List SequencePoint) :
    List SequencePoint :=
  points.takeWhile (·.offset ≤ p.offset) ++ p :: points.dropWhile (·.offset ≤ p.offset)

/-- From the first point behind an offset on, all points are behind it. -/
theorem SequencePoint.lt_of_mem_dropWhile {points : List SequencePoint} {offset : UInt32}
    (h : points.Pairwise fun p q => p.offset ≤ q.offset) :
    ∀ q ∈ points.dropWhile (·.offset ≤ offset), offset < q.offset := by
  induction points with
  | nil => intro q hq; cases hq
  | cons p points ih =>
    intro q hq
    rw [List.pairwise_cons] at h
    rw [List.dropWhile_cons] at hq
    split at hq
    · exact ih h.2 q hq
    · next behind =>
      have behind : offset < p.offset := UInt32.not_le.1 (by simpa using behind)
      rcases List.mem_cons.1 hq with rfl | hq
      · exact behind
      · exact UInt32.lt_of_lt_of_le behind (h.1 q hq)

/-- Up to the first point behind an offset, no point is behind it. -/
theorem SequencePoint.le_of_mem_takeWhile {points : List SequencePoint} {offset : UInt32} :
    ∀ q ∈ points.takeWhile (·.offset ≤ offset), q.offset ≤ offset := by
  induction points with
  | nil => intro q hq; cases hq
  | cons p points ih =>
    intro q hq
    rw [List.takeWhile_cons] at hq
    split at hq
    · next before =>
      rcases List.mem_cons.1 hq with rfl | hq
      · simpa using before
      · exact ih q hq
    · cases hq

theorem SequencePoint.pairwise_insertInto {points : List SequencePoint} (p : SequencePoint)
    (h : points.Pairwise fun p q => p.offset ≤ q.offset) :
    (p.insertInto points).Pairwise fun p q => p.offset ≤ q.offset := by
  unfold insertInto
  rw [List.pairwise_append, List.pairwise_cons]
  refine ⟨h.sublist (List.takeWhile_sublist _), ⟨?_, h.sublist (List.dropWhile_sublist _)⟩, ?_⟩
  · intro q hq
    exact UInt32.le_of_lt (lt_of_mem_dropWhile h q hq)
  · intro q hq r hr
    have before := le_of_mem_takeWhile q hq
    rcases List.mem_cons.1 hr with rfl | hr
    · exact before
    · exact UInt32.le_of_lt (UInt32.lt_of_le_of_lt before (lt_of_mem_dropWhile h r hr))

namespace MethodTable

def empty (bodySize : UInt32) : MethodTable where
  points := []
  locals := []
  bodySize := bodySize
  isUserCode := true
  points_ascending := List.Pairwise.nil

/-- Adds a sequence point, behind those that have the same offset. -/
def addPoint (t : MethodTable) (p : SequencePoint) : MethodTable :=
  { t with
    points := p.insertInto t.points
    points_ascending := SequencePoint.pairwise_insertInto p t.points_ascending }

/-- Names the variable of a slot, in place of an earlier one. -/
def addLocal (t : MethodTable) (slot : UInt32) (scope : LocalScope) : MethodTable :=
  { t with locals := (slot, scope) :: t.locals }

def markNonUser (t : MethodTable) : MethodTable :=
  { t with isUserCode := false }

def local? (t : MethodTable) (slot : UInt32) : Option LocalScope :=
  (t.locals.find? fun entry => entry.1 == slot).map Prod.snd

def pointsUpTo (t : MethodTable) (offset : UInt32) : List SequencePoint :=
  t.points.takeWhile (·.offset ≤ offset)

/-- The last point at or before an offset, which covers it. -/
def covering? (t : MethodTable) (offset : UInt32) : Option SequencePoint :=
  (t.pointsUpTo offset).getLast?

def next? (t : MethodTable) (offset : UInt32) : Option SequencePoint :=
  (t.points.dropWhile (·.offset ≤ offset)).head?

end MethodTable

structure SymbolTable where
  methods : List (MethodToken × MethodTable)
  methods_ascending : methods.Pairwise fun m n => m.1.raw < n.1.raw

namespace SymbolTable

def empty : SymbolTable where
  methods := []
  methods_ascending := List.Pairwise.nil

/-- Puts the table of a method in its place, and drops an earlier one for the same method. -/
def insertMethod (method : MethodToken) (table : MethodTable) :
    List (MethodToken × MethodTable) → List (MethodToken × MethodTable)
  | [] => [(method, table)]
  | (m, t) :: rest =>
    if m.raw < method.raw then (m, t) :: insertMethod method table rest
    else if m.raw = method.raw then (method, table) :: rest
    else (method, table) :: (m, t) :: rest

theorem mem_insertMethod {method : MethodToken} {table : MethodTable}
    {methods : List (MethodToken × MethodTable)} {entry : MethodToken × MethodTable}
    (h : entry ∈ insertMethod method table methods) :
    entry = (method, table) ∨ entry ∈ methods := by
  induction methods with
  | nil => exact Or.inl (List.mem_singleton.1 h)
  | cons first rest ih =>
    obtain ⟨m, t⟩ := first
    unfold insertMethod at h
    split at h
    · rcases List.mem_cons.1 h with rfl | h
      · exact Or.inr List.mem_cons_self
      · exact (ih h).imp_right (List.mem_cons_of_mem _)
    · split at h
      · exact (List.mem_cons.1 h).imp_right (List.mem_cons_of_mem _)
      · exact List.mem_cons.1 h

theorem pairwise_insertMethod (method : MethodToken) (table : MethodTable)
    {methods : List (MethodToken × MethodTable)}
    (h : methods.Pairwise fun m n => m.1.raw < n.1.raw) :
    (insertMethod method table methods).Pairwise fun m n => m.1.raw < n.1.raw := by
  induction methods with
  | nil => exact List.pairwise_singleton _ _
  | cons first rest ih =>
    obtain ⟨m, t⟩ := first
    rw [List.pairwise_cons] at h
    unfold insertMethod
    split
    · next before =>
      rw [List.pairwise_cons]
      refine ⟨fun entry he => ?_, ih h.2⟩
      rcases mem_insertMethod he with rfl | he
      · exact before
      · exact h.1 entry he
    · next notBefore =>
      split
      · next same =>
        rw [List.pairwise_cons]
        exact ⟨fun entry he => same ▸ h.1 entry he, h.2⟩
      · next differs =>
        have behind : method.raw < m.raw :=
          UInt32.lt_of_le_of_ne (UInt32.not_lt.1 notBefore) (Ne.symm differs)
        rw [List.pairwise_cons, List.pairwise_cons]
        refine ⟨fun entry he => ?_, h.1, h.2⟩
        rcases List.mem_cons.1 he with rfl | he
        · exact behind
        · exact UInt32.lt_trans behind (h.1 entry he)

/-- Adds the table of a method, in place of an earlier one. -/
def insert (s : SymbolTable) (method : MethodToken) (table : MethodTable) : SymbolTable where
  methods := insertMethod method table s.methods
  methods_ascending := pairwise_insertMethod method table s.methods_ascending

def method? (s : SymbolTable) (method : MethodToken) : Option MethodTable :=
  (s.methods.find? fun entry => entry.1 == method).map Prod.snd

def require (s : SymbolTable) (method : MethodToken) : Except SymbolError MethodTable :=
  match s.method? method with
  | some table => .ok table
  | none => .error (.notFound (.methodData method))

/-- Whether a document is the one that was asked for: by its whole path, or by its file name when
the request is a file name. -/
def documentMatches (document requested : String) : Bool :=
  document == requested
    || !FilePath.hasDirectory requested && FilePath.fileName document == requested

/-- The points that a request for a line can mean: visible ones of the document, at the line or
behind it, in the order of methods and offsets. -/
def candidates (s : SymbolTable) (path : String) (line : UInt32) :
    List (MethodToken × SequencePoint) :=
  s.methods.flatMap fun (method, table) =>
    (table.points.filter fun p =>
        !p.isHidden && line ≤ p.startLine && documentMatches p.document path).map
      fun p => (method, p)

/-- Of the best candidate so far and the next one, the one with the smaller line. -/
def preferEarlier (best : Option (MethodToken × SequencePoint))
    (next : MethodToken × SequencePoint) : Option (MethodToken × SequencePoint) :=
  match best with
  | none => some next
  | some b => if next.2.startLine < b.2.startLine then some next else some b

/-- The first candidate among those with the least line. -/
def earliest? (found : List (MethodToken × SequencePoint)) :
    Option (MethodToken × SequencePoint) :=
  found.foldl preferEarlier none

/-- The sequence point for a line: the line itself, or the next one that has code. -/
def resolve (s : SymbolTable) (path : String) (line : UInt32) : Except SymbolError CodeMatch :=
  match earliest? (s.candidates path line) with
  | some (method, p) => .ok ⟨method, p.offset, some p.startLine⟩
  | none => .error (.notFound (.code path line))

/-- The source line of an offset: that of the point which covers it, unless that point is hidden. -/
def sourceLine (s : SymbolTable) (method : MethodToken) (offset : UInt32) :
    Except SymbolError SourceLine :=
  match s.require method with
  | .error e => .error e
  | .ok table =>
    match table.covering? offset with
    | some p =>
      if p.isHidden then .error (.notFound (.sourceLine method offset))
      else .ok ⟨p.startLine, p.document⟩
    | none => .error (.notFound (.sourceLine method offset))

/-- The code of the statement at an offset: from the point that covers it to the next one. The range
is empty before the first point and from the last one on. -/
def stepRange (s : SymbolTable) (offset : UInt32) (method : MethodToken) :
    Except SymbolError StepRange :=
  match s.require method with
  | .error e => .error e
  | .ok table =>
    match table.covering? offset with
    | none => .ok ⟨offset, offset⟩
    | some p =>
      match table.next? offset with
      | some q => .ok ⟨p.offset, q.offset⟩
      | none => .ok ⟨p.offset, p.offset⟩

/-- The sequence points of a method, none for one without debug data. -/
def points (s : SymbolTable) (method : MethodToken) : List SequencePoint :=
  match s.method? method with
  | some table => table.points
  | none => []

def localScope (s : SymbolTable) (method : MethodToken) (slot : UInt32) :
    Except SymbolError LocalScope :=
  match s.require method with
  | .error e => .error e
  | .ok table =>
    match table.local? slot with
    | some scope => .ok scope
    | none => .error (.notFound (.localSlot slot method))

def nonUserMethods (s : SymbolTable) : List MethodToken :=
  (s.methods.filter fun entry => !entry.2.isUserCode).map Prod.fst

/-- The table as a provider. It is part of the debugger, so nobody needs to watch it. -/
def provider (s : SymbolTable) : SymbolProvider where
  watched := false
  resolve := s.resolve
  sourceLine := s.sourceLine
  stepRange := s.stepRange
  points := fun method => .ok (s.points method)
  localScope := s.localScope
  nonUserMethods := some (.ok s.nonUserMethods)

end SymbolTable

end DebugSymbols

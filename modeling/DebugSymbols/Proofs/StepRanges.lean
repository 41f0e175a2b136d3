import DebugSymbols.Proofs.SearchAgreement

/-!
# The code of a step

A step runs from the point that covers an offset to the next point, and from the last point to the
end of the method's body. `MethodTable.stepFrom` says so in one place, and is what a thread gets for
its step. From the first point on, the steps cut the body into pieces that have no point inside and
lie on one source line each. Before the first point no statement is known, and the step runs to the
end of the body, whatever points are on the way.
-/

namespace DebugSymbols

namespace StepRange

/-- The offset lies in the range. -/
def Covers (r : StepRange) (offset : UInt32) : Prop :=
  r.start ≤ offset ∧ offset < r.finish

/-- No offset lies in both ranges. -/
def Apart (r r' : StepRange) : Prop :=
  ∀ offset, r.Covers offset → ¬ r'.Covers offset

variable {r r' : StepRange}

theorem Apart.symm (h : r.Apart r') : r'.Apart r := fun offset covers' covers =>
  h offset covers covers'

theorem Apart.ne {offset : UInt32} (h : r.Apart r') (covers : r.Covers offset) : r ≠ r' := by
  rintro rfl
  exact h offset covers covers

theorem apart_of_finish_le (h : r.finish ≤ r'.start) : r.Apart r' := by
  intro offset covers covers'
  have behind : offset < r'.start := UInt32.lt_of_lt_of_le covers.2 h
  exact UInt32.not_le.2 behind covers'.1

theorem widenTo_self (start size : UInt32) :
    (⟨start, start⟩ : StepRange).widenTo size = ⟨start, size⟩ := by
  simp [widenTo, isEmpty]

/-- A range with an offset in it says something, and is not extended. -/
theorem Covers.widenTo {offset : UInt32} (h : r.Covers offset) (size : UInt32) :
    r.widenTo size = r := by
  have differs : r.start ≠ r.finish := UInt32.ne_of_lt (UInt32.lt_of_le_of_lt h.1 h.2)
  simp [StepRange.widenTo, isEmpty, differs]

end StepRange

/-! ## The points around an offset -/

namespace MethodTable

variable {t : MethodTable} {offset offset' : UInt32} {p q : SequencePoint}

/-- The points up to an offset are all that are not behind it. -/
theorem pointsUpTo_eq_filter (t : MethodTable) (offset : UInt32) :
    t.pointsUpTo offset = t.points.filter (·.offset ≤ offset) := by
  have front : (t.pointsUpTo offset).filter (·.offset ≤ offset) = t.pointsUpTo offset :=
    List.filter_eq_self.2 fun q hq => by simpa using SequencePoint.le_of_mem_takeWhile q hq
  have back : (t.points.dropWhile (·.offset ≤ offset)).filter (·.offset ≤ offset) = [] :=
    List.filter_eq_nil_iff.2 fun q hq => by
      simpa using SequencePoint.lt_of_mem_dropWhile t.points_ascending q hq
  calc t.pointsUpTo offset
      = (t.pointsUpTo offset ++ t.points.dropWhile (·.offset ≤ offset)).filter
          (·.offset ≤ offset) := by rw [List.filter_append, front, back, List.append_nil]
    _ = t.points.filter (·.offset ≤ offset) := by
        rw [pointsUpTo, List.takeWhile_append_dropWhile]

/-- From the first point behind an offset on, there are all that are behind it. -/
theorem dropWhile_eq_filter (t : MethodTable) (offset : UInt32) :
    t.points.dropWhile (·.offset ≤ offset) = t.points.filter (offset < ·.offset) := by
  have front : (t.pointsUpTo offset).filter (offset < ·.offset) = [] :=
    List.filter_eq_nil_iff.2 fun q hq => by simpa using SequencePoint.le_of_mem_takeWhile q hq
  have back : (t.points.dropWhile (·.offset ≤ offset)).filter (offset < ·.offset) =
      t.points.dropWhile (·.offset ≤ offset) :=
    List.filter_eq_self.2 fun q hq => by
      simpa using SequencePoint.lt_of_mem_dropWhile t.points_ascending q hq
  calc t.points.dropWhile (·.offset ≤ offset)
      = (t.pointsUpTo offset ++ t.points.dropWhile (·.offset ≤ offset)).filter
          (offset < ·.offset) := by rw [List.filter_append, front, back, List.nil_append]
    _ = t.points.filter (offset < ·.offset) := by
        rw [pointsUpTo, List.takeWhile_append_dropWhile]

theorem covering?_eq_none_iff :
    t.covering? offset = none ↔ ∀ q ∈ t.points, offset < q.offset := by
  rw [covering?, pointsUpTo_eq_filter, List.getLast?_eq_none_iff, List.filter_eq_nil_iff]
  simp

theorem next?_eq_none_iff : t.next? offset = none ↔ ∀ q ∈ t.points, q.offset ≤ offset := by
  rw [next?, dropWhile_eq_filter, List.head?_eq_none_iff, List.filter_eq_nil_iff]
  simp

/-- Behind a point there is one that covers. -/
theorem exists_covering? (hp : p ∈ t.points) (before : p.offset ≤ offset) :
    ∃ q, t.covering? offset = some q := by
  cases covers : t.covering? offset with
  | none => exact absurd (covering?_eq_none_iff.1 covers p hp) (UInt32.not_lt.2 before)
  | some q => exact ⟨q, rfl⟩

/-- The covering point is at or before the offset, and none that is so comes after it. -/
theorem le_of_covering? (h : t.covering? offset = some p) :
    p.offset ≤ offset ∧ ∀ q ∈ t.points, q.offset ≤ offset → q.offset ≤ p.offset := by
  have greatest := SequencePoint.isGreatestUpTo_of_getLast? t.points_ascending h
  exact ⟨greatest.reached, greatest.greatest⟩

/-- At the offset of a point stands the one that covers it. -/
theorem exists_covering?_of_mem (hp : p ∈ t.points) :
    ∃ q, t.covering? p.offset = some q ∧ q.offset = p.offset := by
  obtain ⟨q, covers⟩ := exists_covering? hp (UInt32.le_refl _)
  obtain ⟨before, greatest⟩ := le_of_covering? covers
  exact ⟨q, covers, UInt32.le_antisymm before (greatest p hp (UInt32.le_refl _))⟩

/-- The next point is behind the offset, and none that is so comes before it. -/
theorem lt_of_next? (h : t.next? offset = some p) :
    offset < p.offset ∧ ∀ q ∈ t.points, offset < q.offset → p.offset ≤ q.offset := by
  rw [next?, dropWhile_eq_filter] at h
  have listed := List.mem_filter.1 (List.mem_of_head? h)
  obtain ⟨later, split⟩ := List.head?_eq_some_iff.1 h
  refine ⟨of_decide_eq_true listed.2, fun q hq behind => ?_⟩
  have ascending : (p :: later).Pairwise fun p q => p.offset ≤ q.offset :=
    split ▸ t.points_ascending.filter _
  have member : q ∈ p :: later := split ▸ List.mem_filter.2 ⟨hq, decide_eq_true behind⟩
  rcases List.mem_cons.1 member with rfl | member
  · exact UInt32.le_refl _
  · exact (List.pairwise_cons.1 ascending).1 q member

/-- Offsets with no point between them have the same points around them. -/
theorem around_eq (same : ∀ q ∈ t.points, q.offset ≤ offset ↔ q.offset ≤ offset') :
    t.covering? offset = t.covering? offset' ∧ t.next? offset = t.next? offset' := by
  constructor
  · rw [covering?, covering?, pointsUpTo_eq_filter, pointsUpTo_eq_filter]
    exact congrArg _ (List.filter_congr fun q hq => decide_eq_decide.2 (same q hq))
  · rw [next?, next?, dropWhile_eq_filter, dropWhile_eq_filter]
    refine congrArg _ (List.filter_congr fun q hq => decide_eq_decide.2 ?_)
    rw [← UInt32.not_le, ← UInt32.not_le, same q hq]

/-! ## The step from an offset -/

/-- The code that a step from an offset runs over, in a body of `size` bytes. -/
def stepFrom (t : MethodTable) (offset size : UInt32) : StepRange :=
  match t.covering? offset with
  | none => ⟨offset, size⟩
  | some p =>
    match t.next? offset with
    | none => ⟨p.offset, size⟩
    | some q => ⟨p.offset, q.offset⟩

variable {size : UInt32}

/-- A step runs over the offset from which it is made. -/
theorem covers_stepFrom (t : MethodTable) (inside : offset < size) :
    (t.stepFrom offset size).Covers offset := by
  unfold stepFrom
  cases covers : t.covering? offset with
  | none => exact ⟨UInt32.le_refl _, inside⟩
  | some p =>
    have before := (le_of_covering? covers).1
    cases next : t.next? offset with
    | none => exact ⟨before, inside⟩
    | some q => exact ⟨before, (lt_of_next? next).1⟩

theorem stepFrom_of_uncovered (size : UInt32) (h : t.covering? offset = none) :
    t.stepFrom offset size = ⟨offset, size⟩ := by
  rw [stepFrom, h]

theorem start_stepFrom (size : UInt32) (h : t.covering? offset = some p) :
    (t.stepFrom offset size).start = p.offset := by
  rw [stepFrom, h]
  cases t.next? offset <;> rfl

/-- A step from a statement does not run over the start of another one. -/
theorem finish_stepFrom_le (size : UInt32) (h : t.covering? offset = some p) (hq : q ∈ t.points)
    (behind : offset < q.offset) : (t.stepFrom offset size).finish ≤ q.offset := by
  rw [stepFrom, h]
  cases next : t.next? offset with
  | none => exact absurd (next?_eq_none_iff.1 next q hq) (UInt32.not_le.2 behind)
  | some r => exact (lt_of_next? next).2 q hq behind

theorem stepFrom_eq (size : UInt32) (h : t.covering? offset = some p)
    (same : ∀ q ∈ t.points, q.offset ≤ offset ↔ q.offset ≤ offset') :
    t.stepFrom offset size = t.stepFrom offset' size := by
  obtain ⟨covering, next⟩ := around_eq same
  rw [stepFrom, stepFrom, ← covering, ← next, h]

/-- Steps from two offsets, the first of which is covered, are one step from one statement, or the
first ends before the second starts. -/
theorem stepFrom_eq_or_le (size : UInt32) (h : t.covering? offset = some p)
    (before : offset ≤ offset') :
    (t.stepFrom offset size = t.stepFrom offset' size ∧
        t.covering? offset = t.covering? offset') ∨
      (t.stepFrom offset size).finish ≤ (t.stepFrom offset' size).start := by
  by_cases between : ∃ q ∈ t.points, offset < q.offset ∧ q.offset ≤ offset'
  · right
    obtain ⟨q, hq, behind, upTo⟩ := between
    obtain ⟨p', covers⟩ := exists_covering? hq upTo
    rw [start_stepFrom size covers]
    exact UInt32.le_trans (finish_stepFrom_le size h hq behind)
      ((le_of_covering? covers).2 q hq upTo)
  · left
    have same : ∀ q ∈ t.points, q.offset ≤ offset ↔ q.offset ≤ offset' := by
      intro q hq
      refine ⟨fun upTo => UInt32.le_trans upTo before, fun upTo => ?_⟩
      exact UInt32.not_lt.1 fun behind => between ⟨q, hq, behind, upTo⟩
    exact ⟨stepFrom_eq size h same, (around_eq same).1⟩

end MethodTable

/-! ## The step of a thread -/

/-- Two offsets of a method are on the same source line, or neither of them is on any. -/
def SymbolTable.SameLine (t : SymbolTable) (method : MethodToken) (offset offset' : UInt32) :
    Prop :=
  (∃ source, t.sourceLine method offset = .ok source ∧ t.sourceLine method offset' = .ok source) ∨
    t.sourceLine method offset = .error (.notFound (.sourceLine method offset)) ∧
      t.sourceLine method offset' = .error (.notFound (.sourceLine method offset'))

/-- The frame is in a method of a module and has got to an offset in its code of `size` bytes. -/
structure StackFrame.StandsAt (f : StackFrame) (m : LoadedModule) (method : MethodToken)
    (offset size : UInt32) : Prop where
  module : f.module = .ok m
  method : f.method = .ok method
  offset : f.offset = .ok offset
  codeSize : f.codeSize = .ok size

section Frame

variable {l : ModuleLoader} {m : LoadedModule} {t : SymbolTable} {s : Session} {f : StackFrame}
  {method : MethodToken} {table : MethodTable} {offset offset' size : UInt32}

/-- A range that the provider gives is extended if it says nothing. -/
theorem SymbolProvider.result_frameStep_of_ok {p : SymbolProvider} {range : StepRange}
    (h : p.stepRange offset method = .ok range) :
    (p.frameStep method offset (.ok size)).result = .ok (range.widenTo size) := by
  simp only [frameStep, askStepRange, Traced.result_bind, result_ask, h, Except.bind]
  by_cases empty : range.isEmpty = true
  · simp only [empty, ↓reduceIte]
    rfl
  · simp only [empty, Bool.false_eq_true, ↓reduceIte, StepRange.widenTo]
    rfl

theorem SymbolProvider.result_frameStep_of_error {p : SymbolProvider} {e : SymbolError}
    {codeSize : Except SymbolError UInt32} (h : p.stepRange offset method = .error e) :
    (p.frameStep method offset codeSize).result = .error e := by
  simp only [frameStep, askStepRange, Traced.result_bind, result_ask, h, Except.bind]

/-- A frame in a method with debug data gets the step from its offset. -/
theorem SymbolTable.result_frameStep (known : t.method? method = some table) :
    (t.provider.frameStep method offset (.ok size)).result = .ok (table.stepFrom offset size) := by
  unfold MethodTable.stepFrom
  cases covers : table.covering? offset with
  | none =>
    have given : t.stepRange offset method = .ok ⟨offset, offset⟩ := by
      simp only [stepRange, require, known, covers]
    rw [SymbolProvider.result_frameStep_of_ok given, StepRange.widenTo_self]
  | some p =>
    cases next : table.next? offset with
    | none =>
      have given : t.stepRange offset method = .ok ⟨p.offset, p.offset⟩ := by
        simp only [stepRange, require, known, covers, next]
      rw [SymbolProvider.result_frameStep_of_ok given, StepRange.widenTo_self]
    | some q =>
      have given : t.stepRange offset method = .ok ⟨p.offset, q.offset⟩ := by
        simp only [stepRange, require, known, covers, next]
      have around : (⟨p.offset, q.offset⟩ : StepRange).Covers offset :=
        ⟨(MethodTable.le_of_covering? covers).1, (MethodTable.lt_of_next? next).1⟩
      rw [SymbolProvider.result_frameStep_of_ok given, around.widenTo]

theorem SymbolTable.result_frameStep_of_unknown (unknown : t.method? method = none) :
    (t.provider.frameStep method offset (.ok size)).result =
      .error (.notFound (.methodData method)) := by
  refine SymbolProvider.result_frameStep_of_error ?_
  show t.stepRange offset method = _
  simp only [stepRange, require, unknown]

/-- Offsets that one point covers are on its line. -/
theorem SymbolTable.sameLine_of_covering? (known : t.method? method = some table)
    (same : table.covering? offset = table.covering? offset') :
    t.SameLine method offset offset' := by
  simp only [SameLine, sourceLine, require, known, ← same]
  cases table.covering? offset with
  | none => exact Or.inr ⟨rfl, rfl⟩
  | some p =>
    cases hidden : p.isHidden with
    | false => exact Or.inl ⟨⟨p.startLine, p.document⟩, by simp [hidden]⟩
    | true => exact Or.inr (by simp [hidden])

/-- Steps from two offsets that are covered are one step, on one line, or have no code in common. -/
theorem SymbolTable.stepFrom_eq_or_apart (known : t.method? method = some table)
    {p p' : SequencePoint} (covers : table.covering? offset = some p)
    (covers' : table.covering? offset' = some p') (size : UInt32) :
    (table.stepFrom offset size = table.stepFrom offset' size ∧ t.SameLine method offset offset') ∨
      (table.stepFrom offset size).Apart (table.stepFrom offset' size) := by
  rcases UInt32.le_total offset offset' with before | before
  · rcases table.stepFrom_eq_or_le size covers before with ⟨same, covering⟩ | ends
    · exact Or.inl ⟨same, sameLine_of_covering? known covering⟩
    · exact Or.inr (StepRange.apart_of_finish_le ends)
  · rcases table.stepFrom_eq_or_le size covers' before with ⟨same, covering⟩ | ends
    · exact Or.inl ⟨same.symm, sameLine_of_covering? known covering.symm⟩
    · exact Or.inr (StepRange.apart_of_finish_le ends).symm

/-- A module's tables decide the step of a thread in it. -/
theorem LoadedWith.stepRange (loaded : LoadedWith l m t.provider s)
    (stands : f.StandsAt m method offset size) :
    StackFrame.stepRangeOfThread (.ok (some f)) s.registry =
      t.provider.frameStep method offset (.ok size) := by
  rw [loaded.answeredBy.stepRange stands.module stands.method stands.offset, stands.codeSize]

/-- **Steps cut the code of a method into pieces.** From every offset in the code there is a step,
and it runs over that offset. From the first point on, two steps are the same or have no code in
common, and the offsets of one step are on one source line, or on none. -/
theorem stepRange_partitions (loaded : LoadedWith l m t.provider s)
    (known : t.method? method = some table) (size : UInt32) :
    (∀ (f : StackFrame) (offset : UInt32), f.StandsAt m method offset size → offset < size →
      ∃ range, (StackFrame.stepRangeOfThread (.ok (some f)) s.registry).result = .ok range ∧
        range.Covers offset) ∧
    ∀ (f f' : StackFrame) (offset offset' : UInt32), f.StandsAt m method offset size →
      f'.StandsAt m method offset' size → offset < size → offset' < size →
      ∀ first, table.points.head? = some first → first.offset ≤ offset → first.offset ≤ offset' →
      ∃ range range', (StackFrame.stepRangeOfThread (.ok (some f)) s.registry).result = .ok range ∧
        (StackFrame.stepRangeOfThread (.ok (some f')) s.registry).result = .ok range' ∧
        (range = range' ∨ range.Apart range') ∧
        (range = range' → t.SameLine method offset offset') := by
  refine ⟨fun f offset stands inside => ?_, ?_⟩
  · rw [loaded.stepRange stands, SymbolTable.result_frameStep known]
    exact ⟨_, rfl, table.covers_stepFrom inside⟩
  · intro f f' offset offset' stands stands' inside inside' first heads before before'
    rw [loaded.stepRange stands, loaded.stepRange stands', SymbolTable.result_frameStep known,
      SymbolTable.result_frameStep known]
    refine ⟨_, _, rfl, rfl, ?_⟩
    have listed : first ∈ table.points := List.mem_of_head? heads
    obtain ⟨p, covers⟩ := MethodTable.exists_covering? listed before
    obtain ⟨p', covers'⟩ := MethodTable.exists_covering? listed before'
    rcases SymbolTable.stepFrom_eq_or_apart known covers covers' size with ⟨same, line⟩ | apart
    · exact ⟨Or.inl same, fun _ => line⟩
    · exact ⟨Or.inr apart, fun same => absurd same (apart.ne (table.covers_stepFrom inside))⟩

end Frame

/-- A method that starts with two bytes without a point. Two points stand at offset 4, the first of
which is generated code. -/
def SymbolTable.prologued : SymbolTable :=
  SymbolTable.empty.insert ⟨0x06000001⟩ ((MethodTable.empty 8)
    |>.addPoint ⟨2, 5, 5, 1, 2, "/src/A.cs"⟩
    |>.addPoint ⟨4, hiddenLine, hiddenLine, 0, 0, "/src/A.cs"⟩
    |>.addPoint ⟨4, 7, 7, 1, 2, "/src/A.cs"⟩
    |>.addPoint ⟨6, 9, 9, 1, 2, "/src/A.cs"⟩)

theorem StackFrame.standsAt_standing (m : LoadedModule) (method : MethodToken) (offset : UInt32) :
    (StackFrame.standing m method offset).StandsAt m method offset 8 :=
  ⟨rfl, rfl, rfl, rfl⟩

/-- Two offsets behind the points at 4 have one step and one line. -/
theorem stepRange_partitions_behindShared :
    let f := StackFrame.standing .app ⟨0x06000001⟩
    let s := Session.start.run (.ofTable .prologued) [.load .app]
    let step := fun offset =>
      (StackFrame.stepRangeOfThread (.ok (some (f offset))) s.registry).result
    step 4 = .ok ⟨4, 6⟩ ∧ step 5 = .ok ⟨4, 6⟩ ∧
      SymbolTable.prologued.SameLine ⟨0x06000001⟩ 4 5 := by
  intro f s step
  have loaded := loadedWith_ofTable .prologued
  have answered : step 4 = .ok ⟨4, 6⟩ := rfl
  have answered' : step 5 = .ok ⟨4, 6⟩ := rfl
  obtain ⟨_, _, given, given', -, line⟩ := (stepRange_partitions loaded rfl 8).2 (f 4) (f 5) 4 5
    (StackFrame.standsAt_standing _ _ _) (StackFrame.standsAt_standing _ _ _) (by decide)
    (by decide) _ rfl (by decide) (by decide)
  cases answered.symm.trans given
  cases answered'.symm.trans given'
  exact ⟨answered, answered', line rfl⟩

/-- **A step ends before the next point**, once there is a point at its offset or before it. Before
the first point nothing is known of the statement, and the step runs from its offset to the end of
the code. There is no step in a method without debug data. -/
theorem stepRange_stopsAtNext {l : ModuleLoader} {m : LoadedModule} {t : SymbolTable} {s : Session}
    {f : StackFrame} {method : MethodToken} {offset size : UInt32}
    (loaded : LoadedWith l m t.provider s) (stands : f.StandsAt m method offset size) :
    ((∃ table, t.method? method = some table) ↔
      ∃ range, (StackFrame.stepRangeOfThread (.ok (some f)) s.registry).result = .ok range) ∧
    ∀ range, (StackFrame.stepRangeOfThread (.ok (some f)) s.registry).result = .ok range →
      ((∃ p ∈ t.points method, p.offset ≤ offset) →
        ∀ q ∈ t.points method, offset < q.offset → range.finish ≤ q.offset) ∧
      ((∀ p ∈ t.points method, offset < p.offset) → range = ⟨offset, size⟩) := by
  rw [loaded.stepRange stands]
  cases known : t.method? method with
  | none =>
    rw [SymbolTable.result_frameStep_of_unknown known]
    simp
  | some table =>
    rw [SymbolTable.result_frameStep known, SymbolTable.points_of_method? known]
    refine ⟨by simp, ?_⟩
    rintro _ ⟨⟩
    refine ⟨fun ⟨p, hp, before⟩ q hq behind => ?_, fun behind => ?_⟩
    · obtain ⟨p', covers⟩ := MethodTable.exists_covering? hp before
      exact MethodTable.finish_stepFrom_le size covers hq behind
    · exact MethodTable.stepFrom_of_uncovered size (MethodTable.covering?_eq_none_iff.2 behind)

/-- A step from the first point ends before the hidden point behind it. -/
theorem stepRange_stopsAtNext_fromFirst :
    let f := StackFrame.standing .app ⟨0x06000001⟩ 3
    let s := Session.start.run (.ofTable .prologued) [.load .app]
    (StackFrame.stepRangeOfThread (.ok (some f)) s.registry).result = .ok ⟨2, 4⟩ ∧
      ∀ q ∈ SymbolTable.prologued.points ⟨0x06000001⟩, 3 < q.offset → 4 ≤ q.offset := by
  intro f s
  have loaded := loadedWith_ofTable .prologued
  have first : ⟨2, 5, 5, 1, 2, "/src/A.cs"⟩ ∈ SymbolTable.prologued.points ⟨0x06000001⟩ :=
    List.mem_cons_self
  exact ⟨rfl, ((stepRange_stopsAtNext loaded (StackFrame.standsAt_standing _ _ 3)).2 _ rfl).1
    ⟨_, first, by decide⟩⟩

/-- From before the first point a step runs over every point there is. -/
theorem stepRange_overruns_prologue :
    let f := StackFrame.standing .app ⟨0x06000001⟩ 0
    let s := Session.start.run (.ofTable .prologued) [.load .app]
    LoadedWith (.ofTable .prologued) .app SymbolTable.prologued.provider s ∧
    f.StandsAt .app ⟨0x06000001⟩ 0 8 ∧ (0 : UInt32) < 8 ∧
    (StackFrame.stepRangeOfThread (.ok (some f)) s.registry).result = .ok ⟨0, 8⟩ ∧
    ∃ q ∈ SymbolTable.prologued.points ⟨0x06000001⟩, 0 < q.offset ∧ q.offset < 8 :=
  ⟨loadedWith_ofTable _, StackFrame.standsAt_standing _ _ _, by decide, rfl,
    ⟨2, 5, 5, 1, 2, "/src/A.cs"⟩, List.mem_cons_self, by decide, by decide⟩

end DebugSymbols

import DebugSymbols.SymbolTable

/-!
# The points at an offset

Several points of a method may stand at one offset, and then two searches part: of these points the
covering point is the last, the nearest one the first. `covering?_eq` and `nearest?_eq` say what the
two searches find, in terms of the points at the offset and, where there are none, of the last point
before it. `exists_of_resolve` says where the answer to a source position stands in the table.
-/

namespace DebugSymbols

namespace SequencePoint

/-- The points at an offset, in their order. -/
def standingAt (offset : UInt32) (points : List SequencePoint) : List SequencePoint :=
  points.filter (·.offset = offset)

/-- The points up to the first that is not before an offset. -/
def standingBefore (offset : UInt32) (points : List SequencePoint) : List SequencePoint :=
  points.takeWhile (·.offset < offset)

/-- The offset of `p` is the greatest in the list that does not exceed `offset`. -/
structure IsGreatestUpTo (offset : UInt32) (points : List SequencePoint) (p : SequencePoint) :
    Prop where
  listed : p ∈ points
  reached : p.offset ≤ offset
  greatest : ∀ q ∈ points, q.offset ≤ offset → q.offset ≤ p.offset

theorem IsGreatestUpTo.offset_eq {offset : UInt32} {points : List SequencePoint}
    {p p' : SequencePoint} (h : IsGreatestUpTo offset points p)
    (h' : IsGreatestUpTo offset points p') : p.offset = p'.offset :=
  UInt32.le_antisymm (h'.greatest p h.listed h.reached) (h.greatest p' h'.listed h'.reached)

section Ascending

variable {points : List SequencePoint} {p : SequencePoint} {offset : UInt32}

theorem mem_standingAt_iff : p ∈ standingAt offset points ↔ p ∈ points ∧ p.offset = offset := by
  simp [standingAt]

theorem standingAt_cons_of_ne (h : p.offset ≠ offset) :
    standingAt offset (p :: points) = standingAt offset points :=
  List.filter_cons_of_neg (by simpa using h)

theorem standingAt_cons_of_eq (h : p.offset = offset) :
    standingAt offset (p :: points) = p :: standingAt offset points :=
  List.filter_cons_of_pos (by simpa using h)

theorem standingAt_append (offset : UInt32) (points points' : List SequencePoint) :
    standingAt offset (points ++ points') = standingAt offset points ++ standingAt offset points' :=
  List.filter_append ..

theorem standingAt_of_behind (h : ∀ q ∈ points, offset < q.offset) :
    standingAt offset points = [] := by
  refine List.filter_eq_nil_iff.2 fun q hq same => ?_
  have behind := h q hq
  rw [of_decide_eq_true same] at behind
  exact UInt32.lt_irrefl _ behind

theorem standingBefore_cons_of_lt (h : p.offset < offset) :
    standingBefore offset (p :: points) = p :: standingBefore offset points :=
  List.takeWhile_cons_of_pos (by simpa using h)

theorem standingBefore_cons_of_not_lt (h : ¬ p.offset < offset) :
    standingBefore offset (p :: points) = [] :=
  List.takeWhile_cons_of_neg (by simpa using h)

theorem standingBefore_of_not_lt (h : ∀ q ∈ points, ¬ q.offset < offset) :
    standingBefore offset points = [] := by
  cases points with
  | nil => rfl
  | cons p points => exact standingBefore_cons_of_not_lt (h p List.mem_cons_self)

/-- In ascending order the points up to an offset are those before it and then those at it. -/
theorem takeWhile_le_eq_append (h : points.Pairwise fun p q => p.offset ≤ q.offset) :
    points.takeWhile (·.offset ≤ offset) =
      standingBefore offset points ++ standingAt offset points := by
  induction points with
  | nil => rfl
  | cons p rest ih =>
    rw [List.pairwise_cons] at h
    by_cases before : p.offset < offset
    · rw [List.takeWhile_cons_of_pos (by simpa using UInt32.le_of_lt before), ih h.2,
        standingBefore_cons_of_lt before, standingAt_cons_of_ne (UInt32.ne_of_lt before)]
      rfl
    · by_cases same : p.offset = offset
      · -- From here on nothing stands before the offset, so the rest adds its points at it.
        have none : standingBefore offset rest = [] :=
          standingBefore_of_not_lt fun q hq => UInt32.not_lt.2 (same ▸ h.1 q hq)
        rw [List.takeWhile_cons_of_pos (by simpa using UInt32.le_of_eq same), ih h.2, none,
          standingBefore_cons_of_not_lt before, standingAt_cons_of_eq same]
        rfl
      · have behind : offset < p.offset :=
          UInt32.lt_of_le_of_ne (UInt32.not_lt.1 before) (Ne.symm same)
        have none : standingAt offset rest = [] :=
          standingAt_of_behind fun q hq => UInt32.lt_of_lt_of_le behind (h.1 q hq)
        rw [List.takeWhile_cons_of_neg (by simpa using UInt32.not_le.2 behind),
          standingBefore_cons_of_not_lt before, standingAt_cons_of_ne same, none]
        rfl

/-- In ascending order the last point up to an offset has the greatest offset up to it. -/
theorem isGreatestUpTo_of_getLast? (ascending : points.Pairwise fun p q => p.offset ≤ q.offset)
    (h : (points.takeWhile (·.offset ≤ offset)).getLast? = some p) :
    IsGreatestUpTo offset points p := by
  have member := List.mem_of_getLast? h
  obtain ⟨before, front⟩ := List.getLast?_eq_some_iff.1 h
  have sorted : (before ++ [p]).Pairwise fun p q => p.offset ≤ q.offset :=
    front ▸ ascending.sublist (List.takeWhile_sublist _)
  refine ⟨(List.takeWhile_sublist _).subset member, le_of_mem_takeWhile p member, ?_⟩
  intro q hq reached
  rw [← List.takeWhile_append_dropWhile (p := fun q : SequencePoint => decide (q.offset ≤ offset))
    (l := points), front, List.mem_append, List.mem_append, List.mem_singleton] at hq
  rcases hq with (earlier | rfl) | back
  · exact (List.pairwise_append.1 sorted).2.2 q earlier p (List.mem_singleton_self p)
  · exact UInt32.le_refl _
  · have behind : offset < q.offset := lt_of_mem_dropWhile ascending q back
    exact absurd reached (UInt32.not_le.2 behind)

/-- The search for the nearest point stops at the first point at the offset, and else has the last
point before it. -/
theorem nearestFrom_eq (h : points.Pairwise fun p q => p.offset ≤ q.offset)
    (best : SequencePoint) : nearestFrom offset best points =
      ((standingAt offset points).head?.or (standingBefore offset points).getLast?).getD best := by
  induction points generalizing best with
  | nil => rfl
  | cons p rest ih =>
    rw [List.pairwise_cons] at h
    unfold nearestFrom
    split
    · next before =>
      -- The point takes the place of the best so far, which matters only if no later one does.
      rw [ih h.2 p, standingBefore_cons_of_lt before,
        standingAt_cons_of_ne (UInt32.ne_of_lt before), List.getLast?_cons]
      cases (standingAt offset rest).head? <;> rfl
    · next before =>
      rw [standingBefore_cons_of_not_lt before]
      split
      · next same =>
        rw [standingAt_cons_of_eq same]
        rfl
      · next differs =>
        have behind : offset < p.offset :=
          UInt32.lt_of_le_of_ne (UInt32.not_lt.1 before) (Ne.symm differs)
        have none : standingAt offset rest = [] :=
          standingAt_of_behind fun q hq => UInt32.lt_of_lt_of_le behind (h.1 q hq)
        rw [standingAt_cons_of_ne differs, none]
        rfl

theorem nearest?_eq (h : points.Pairwise fun p q => p.offset ≤ q.offset) (offset : UInt32) :
    nearest? points offset =
      ((standingAt offset points).head?.or (standingBefore offset points).getLast?).or
        points.head? := by
  unfold nearest?
  cases points with
  | nil => rfl
  | cons first rest =>
    simp only [List.head?_cons, Option.map_some]
    rw [nearestFrom_eq h first]
    cases (standingAt offset (first :: rest)).head?.or
      (standingBefore offset (first :: rest)).getLast? <;> rfl

end Ascending

end SequencePoint

open SequencePoint

theorem MethodTable.covering?_eq (t : MethodTable) (offset : UInt32) :
    t.covering? offset =
      (standingAt offset t.points).getLast?.or (standingBefore offset t.points).getLast? := by
  unfold covering? pointsUpTo
  rw [takeWhile_le_eq_append t.points_ascending, List.getLast?_append]

/-- Where a point covers an offset, it is the nearest one if no point stands there. Otherwise the
points there are in a row from the nearest to the covering one. -/
theorem MethodTable.covering?_cases {t : MethodTable} {offset : UInt32} {p : SequencePoint}
    (covers : t.covering? offset = some p) :
    standingAt offset t.points = [] ∧ nearest? t.points offset = some p ∨
      ∃ q, nearest? t.points offset = some q ∧ (standingAt offset t.points).head? = some q ∧
        (standingAt offset t.points).getLast? = some p := by
  rw [covering?_eq] at covers
  rw [nearest?_eq t.points_ascending]
  cases first : (standingAt offset t.points).head? with
  | none =>
    have none := List.head?_eq_none_iff.1 first
    rw [none] at covers
    have before : (standingBefore offset t.points).getLast? = some p := covers
    rw [before]
    exact .inl ⟨none, rfl⟩
  | some q =>
    obtain ⟨rest, row⟩ := List.head?_eq_some_iff.1 first
    rw [row, List.getLast?_cons] at covers
    rw [row, List.getLast?_cons]
    exact .inr ⟨q, rfl, rfl, covers⟩

/-- Where a point covers an offset, the nearest one stands where it stands. -/
theorem MethodTable.exists_nearest?_of_covering? {t : MethodTable} {offset : UInt32}
    {p : SequencePoint} (covers : t.covering? offset = some p) :
    ∃ q, nearest? t.points offset = some q ∧ q.offset = p.offset := by
  rcases covering?_cases covers with ⟨-, nears⟩ | ⟨q, nears, first, last⟩
  · exact ⟨p, nears, rfl⟩
  · have hit := (mem_standingAt_iff.1 (List.mem_of_head? first)).2
    have hit' := (mem_standingAt_iff.1 (List.mem_of_getLast? last)).2
    exact ⟨q, nears, hit.trans hit'.symm⟩

namespace SymbolTable

variable {t : SymbolTable} {method : MethodToken} {table : MethodTable} {offset : UInt32}

/-- The points of a method at an offset, in their order. -/
def pointsAt (t : SymbolTable) (method : MethodToken) (offset : UInt32) : List SequencePoint :=
  standingAt offset (t.points method)

theorem points_of_method? (h : t.method? method = some table) : t.points method = table.points := by
  unfold points
  rw [h]

/-- A method occurs once, so what the table lists for it is what is found. -/
theorem method?_of_mem (h : (method, table) ∈ t.methods) : t.method? method = some table := by
  have ascending := t.methods_ascending
  unfold method?
  generalize t.methods = methods at h ascending
  induction methods with
  | nil => cases h
  | cons first rest ih =>
    rw [List.pairwise_cons] at ascending
    rcases List.mem_cons.1 h with rfl | later
    · rw [List.find?_cons_of_pos (by simp)]
      rfl
    · have differs : first.1 ≠ method := by
        rintro rfl
        exact UInt32.lt_irrefl _ (ascending.1 (first.1, table) later)
      rw [List.find?_cons_of_neg (by simpa using differs)]
      exact ih later ascending.2

/-- A source line is that of the covering point, which is not hidden. -/
theorem sourceLine_eq_ok_iff {source : SourceLine} : t.sourceLine method offset = .ok source ↔
    ∃ table p, t.method? method = some table ∧ table.covering? offset = some p ∧
      p.isHidden = false ∧ source = ⟨p.startLine, p.document⟩ := by
  unfold sourceLine require
  cases t.method? method with
  | none => simp
  | some table =>
    simp only [Option.some.injEq, exists_and_left, exists_eq_left']
    cases table.covering? offset with
    | none => simp
    | some p => cases hidden : p.isHidden <;> simp [hidden, eq_comm (a := source)]

/-! ## The answer to a source position -/

theorem mem_foldl_preferEarlier {c : MethodToken × SequencePoint}
    {found : List (MethodToken × SequencePoint)} {best : Option (MethodToken × SequencePoint)}
    (h : found.foldl preferEarlier best = some c) : best = some c ∨ c ∈ found := by
  induction found generalizing best with
  | nil => exact Or.inl h
  | cons first rest ih =>
    rw [List.foldl_cons] at h
    rcases ih h with chosen | later
    · unfold preferEarlier at chosen
      split at chosen
      · cases chosen
        exact Or.inr List.mem_cons_self
      · split at chosen
        · cases chosen
          exact Or.inr List.mem_cons_self
        · exact Or.inl chosen
    · exact Or.inr (List.mem_cons_of_mem _ later)

theorem mem_of_earliest? {c : MethodToken × SequencePoint}
    {found : List (MethodToken × SequencePoint)} (h : earliest? found = some c) : c ∈ found := by
  rcases mem_foldl_preferEarlier h with nothing | listed
  · cases nothing
  · exact listed

theorem mem_candidates_iff {path : String} {line : UInt32} {p : SequencePoint} :
    (method, p) ∈ t.candidates path line ↔ ∃ table, (method, table) ∈ t.methods ∧
      p ∈ table.points ∧ p.isHidden = false ∧ line ≤ p.startLine ∧
      documentMatches p.document path = true := by
  simp only [candidates, List.mem_flatMap, List.mem_map, List.mem_filter, Prod.exists,
    Prod.mk.injEq, Bool.and_eq_true, Bool.not_eq_true', decide_eq_true_eq]
  constructor
  · rintro ⟨_, table, listed, q, ⟨hq, ⟨visible, atLine⟩, matching⟩, rfl, rfl⟩
    exact ⟨table, listed, hq, visible, atLine, matching⟩
  · rintro ⟨table, listed, hp, visible, atLine, matching⟩
    exact ⟨method, table, listed, p, ⟨hp, ⟨visible, atLine⟩, matching⟩, rfl, rfl⟩

/-- The answer to a source position is a visible point of a matching document, and stands in the
table of its method. -/
theorem exists_of_resolve {path : String} {line : UInt32} {found : CodeMatch}
    (h : t.resolve path line = .ok found) :
    ∃ table p, t.method? found.method = some table ∧ p ∈ standingAt found.offset table.points ∧
      found.line = some p.startLine ∧ line ≤ p.startLine ∧ p.isHidden = false ∧
      documentMatches p.document path = true := by
  unfold resolve at h
  split at h
  · next method p chosen =>
    cases h
    obtain ⟨table, listed, hp, visible, atLine, matching⟩ :=
      mem_candidates_iff.1 (mem_of_earliest? chosen)
    exact ⟨table, p, method?_of_mem listed, mem_standingAt_iff.2 ⟨hp, rfl⟩, rfl, atLine, visible,
      matching⟩
  · cases h

end SymbolTable

end DebugSymbols

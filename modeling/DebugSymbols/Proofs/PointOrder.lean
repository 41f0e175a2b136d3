import DebugSymbols.Proofs.TablePoints
import Mathlib.Data.Nat.PSub
import Mathlib.Order.Bounds.Basic

/-!
# The order of a method's points

The points of a method are added one by one, each at a place that is found by halving the list. Such
a search says nothing about a list that is out of order, so each addition has to leave behind the
order that the next one needs. In the end the points are the stable sort of those that were added
(`points_stably_sorted`): none is lost, the offsets ascend, and points at one offset stand as they
came. The same search finds the place of the point that covers an offset.
-/

namespace DebugSymbols

/-! ## Search by halving -/

section Halving

variable {α : Type} {meets : α → Bool} {xs front back : List α} {k low high : Nat}

/-- The first place from `low` on whose element does not meet the condition, or `high`. The element
in the middle decides in which half the search goes on. -/
def partitionFrom (meets : α → Bool) (xs : List α) (low high : Nat) (bound : high ≤ xs.length) :
    Nat :=
  if stretch : low < high then
    if meets xs[(low + high) / 2] then
      partitionFrom meets xs ((low + high) / 2 + 1) high bound
    else
      partitionFrom meets xs low ((low + high) / 2) (by omega)
  else low
termination_by high - low

/-- How many elements meet the condition, in a list where those that do stand before all others. In
other lists the result has no meaning. -/
def partitionPoint (meets : α → Bool) (xs : List α) : Nat :=
  partitionFrom meets xs 0 xs.length (Nat.le_refl _)

/-- The elements before place `k` meet the condition, and no others do. -/
structure IsPartitionPoint (meets : α → Bool) (xs : List α) (k : Nat) : Prop where
  le_length : k ≤ xs.length
  meets_iff : ∀ i (h : i < xs.length), meets xs[i] = true ↔ i < k

theorem isPartitionPoint_append (before : ∀ x ∈ front, meets x = true)
    (behind : ∀ x ∈ back, meets x = false) :
    IsPartitionPoint meets (front ++ back) front.length := by
  refine ⟨by simp, fun i h => ?_⟩
  rw [List.getElem_append]
  split
  · next inFront => simp [inFront, before]
  · next inBack => simp [inBack, behind]

/-- The search does not leave the stretch in which the partition point lies. -/
theorem IsPartitionPoint.partitionFrom_eq (hk : IsPartitionPoint meets xs k)
    (bound : high ≤ xs.length) (hlow : low ≤ k) (hhigh : k ≤ high) :
    partitionFrom meets xs low high bound = k := by
  fun_induction partitionFrom meets xs low high bound with
  | case1 low high bound stretch met ih =>
    have before := (hk.meets_iff _ _).1 met
    exact ih before hhigh
  | case2 low high bound stretch unmet ih =>
    have behind : ¬ (low + high) / 2 < k := fun before => unmet ((hk.meets_iff _ _).2 before)
    exact ih hlow (Nat.not_lt.1 behind)
  | case3 low high bound stretch => omega

theorem IsPartitionPoint.partitionPoint_eq (hk : IsPartitionPoint meets xs k) :
    partitionPoint meets xs = k :=
  hk.partitionFrom_eq _ (Nat.zero_le k) hk.le_length

end Halving

namespace SequencePoint

variable {points points' added : List SequencePoint} {p : SequencePoint} {offset : UInt32} {i : Nat}

/-! ## Additions -/

/-- How many points there are up to an offset, found by halving. -/
def countUpTo (offset : UInt32) (points : List SequencePoint) : Nat :=
  partitionPoint (·.offset ≤ offset) points

/-- Puts a point behind those up to its offset, at the place that the search finds. -/
def placeIn (p : SequencePoint) (points : List SequencePoint) : List SequencePoint :=
  points.insertIdx (countUpTo p.offset points) p

theorem isPartitionPoint_upTo (ascending : points.Pairwise fun p q => p.offset ≤ q.offset)
    (offset : UInt32) : IsPartitionPoint (fun p => decide (p.offset ≤ offset)) points
      (points.takeWhile (·.offset ≤ offset)).length := by
  have cut : IsPartitionPoint (fun p => decide (p.offset ≤ offset))
      (points.takeWhile (·.offset ≤ offset) ++ points.dropWhile (·.offset ≤ offset))
      (points.takeWhile (·.offset ≤ offset)).length := by
    apply isPartitionPoint_append
    · intro q hq
      simpa using le_of_mem_takeWhile q hq
    · intro q hq
      simpa using lt_of_mem_dropWhile ascending q hq
  rwa [List.takeWhile_append_dropWhile] at cut

theorem countUpTo_eq (ascending : points.Pairwise fun p q => p.offset ≤ q.offset)
    (offset : UInt32) :
    countUpTo offset points = (points.takeWhile (·.offset ≤ offset)).length :=
  (isPartitionPoint_upTo ascending offset).partitionPoint_eq

theorem placeIn_eq_insertInto (ascending : points.Pairwise fun p q => p.offset ≤ q.offset)
    (p : SequencePoint) : p.placeIn points = p.insertInto points := by
  have inserted := List.modifyTailIdx_add (List.cons p) 0
    (points.takeWhile (·.offset ≤ p.offset)) (points.dropWhile (·.offset ≤ p.offset))
  rw [List.takeWhile_append_dropWhile] at inserted
  rw [placeIn, countUpTo_eq ascending]
  exact inserted

theorem perm_insertInto (p : SequencePoint) (points : List SequencePoint) :
    (p.insertInto points).Perm (p :: points) := by
  have moved : (p.insertInto points).Perm
      (p :: (points.takeWhile (·.offset ≤ p.offset) ++ points.dropWhile (·.offset ≤ p.offset))) :=
    List.perm_middle
  rwa [List.takeWhile_append_dropWhile] at moved

/-- A point is put behind all others at its offset. -/
theorem standingAt_insertInto (ascending : points.Pairwise fun p q => p.offset ≤ q.offset)
    (p : SequencePoint) (offset : UInt32) :
    standingAt offset (p.insertInto points) = standingAt offset (points ++ [p]) := by
  have cut : standingAt offset points =
      standingAt offset (points.takeWhile (·.offset ≤ p.offset)) ++
        standingAt offset (points.dropWhile (·.offset ≤ p.offset)) := by
    rw [← standingAt_append, List.takeWhile_append_dropWhile]
  rw [insertInto, standingAt_append, standingAt_append, cut]
  by_cases here : p.offset = offset
  · have none : standingAt offset (points.dropWhile (·.offset ≤ p.offset)) = [] :=
      standingAt_of_behind fun q hq => here ▸ lt_of_mem_dropWhile ascending q hq
    rw [standingAt_cons_of_eq here, standingAt_cons_of_eq here, none, List.append_nil]
    rfl
  · rw [standingAt_cons_of_ne here, standingAt_cons_of_ne here]
    exact (List.append_nil _).symm

/-! ## Stable order -/

/-- The points are those that were added, in the order of their offsets, and at each offset as they
came. -/
structure IsStableSort (added points : List SequencePoint) : Prop where
  perm : points.Perm added
  ascending : points.Pairwise fun p q => p.offset ≤ q.offset
  ties : ∀ offset, standingAt offset points = standingAt offset added

theorem isStableSort_nil : IsStableSort [] [] :=
  ⟨.nil, .nil, fun _ => rfl⟩

/-- What one addition keeps. The search is right because the points are in order already. -/
theorem IsStableSort.placeIn (h : IsStableSort added points) (p : SequencePoint) :
    IsStableSort (added ++ [p]) (p.placeIn points) := by
  rw [placeIn_eq_insertInto h.ascending]
  refine ⟨?_, pairwise_insertInto p h.ascending, fun offset => ?_⟩
  · have inFront : (p.insertInto points).Perm (p :: added) :=
      (perm_insertInto p points).trans (h.perm.cons p)
    exact inFront.trans (List.perm_append_singleton p added).symm
  · rw [standingAt_insertInto h.ascending, standingAt_append, standingAt_append, h.ties]

/-- What any number of additions keep. -/
theorem IsStableSort.placeAll (h : IsStableSort added points) (more : List SequencePoint) :
    IsStableSort (added ++ more) (more.foldl (fun points p => p.placeIn points) points) := by
  induction more generalizing added points with
  | nil => rwa [List.append_nil]
  | cons p more ih =>
    have next := ih (h.placeIn p)
    rwa [List.append_assoc] at next

theorem mem_iff_of_standingAt_eq
    (same : ∀ offset, standingAt offset points = standingAt offset points') (p : SequencePoint) :
    p ∈ points ↔ p ∈ points' := by
  have standing : p ∈ standingAt p.offset points ↔ p ∈ standingAt p.offset points' := by
    rw [same]
  simpa [mem_standingAt_iff] using standing

theorem head_le_of_mem {q : SequencePoint}
    (ascending : (p :: points).Pairwise fun p q => p.offset ≤ q.offset) (hq : q ∈ p :: points) :
    p.offset ≤ q.offset := by
  rcases List.mem_cons.1 hq with rfl | later
  · exact UInt32.le_refl _
  · exact (List.pairwise_cons.1 ascending).1 q later

/-- Points in ascending order are known from what stands at each offset. -/
theorem eq_of_standingAt_eq (ascending : points.Pairwise fun p q => p.offset ≤ q.offset)
    (ascending' : points'.Pairwise fun p q => p.offset ≤ q.offset)
    (same : ∀ offset, standingAt offset points = standingAt offset points') :
    points = points' := by
  induction points generalizing points' with
  | nil =>
    cases points' with
    | nil => rfl
    | cons p' rest' => cases (mem_iff_of_standingAt_eq same p').2 List.mem_cons_self
  | cons p rest ih =>
    cases points' with
    | nil => cases (mem_iff_of_standingAt_eq same p).1 List.mem_cons_self
    | cons p' rest' =>
      -- Both lists begin at the least offset, and what stands there begins with the same point.
      have level : p'.offset = p.offset := UInt32.le_antisymm
        (head_le_of_mem ascending' ((mem_iff_of_standingAt_eq same p).1 List.mem_cons_self))
        (head_le_of_mem ascending ((mem_iff_of_standingAt_eq same p').2 List.mem_cons_self))
      have first := same p.offset
      rw [standingAt_cons_of_eq rfl, standingAt_cons_of_eq level] at first
      obtain ⟨rfl, -⟩ := List.cons.inj first
      refine congrArg (List.cons p) (ih ascending.tail ascending'.tail fun offset => ?_)
      have standing := same offset
      by_cases here : p.offset = offset
      · rw [standingAt_cons_of_eq here, standingAt_cons_of_eq here] at standing
        exact (List.cons.inj standing).2
      · rwa [standingAt_cons_of_ne here, standingAt_cons_of_ne here] at standing

theorem IsStableSort.unique (h : IsStableSort added points) (h' : IsStableSort added points') :
    points = points' :=
  eq_of_standingAt_eq h.ascending h'.ascending fun offset =>
    (h.ties offset).trans (h'.ties offset).symm

theorem isStableSort_mergeSort (added : List SequencePoint) :
    IsStableSort added (added.mergeSort fun p q => p.offset ≤ q.offset) := by
  have trans : ∀ p q r : SequencePoint, decide (p.offset ≤ q.offset) = true →
      decide (q.offset ≤ r.offset) = true → decide (p.offset ≤ r.offset) = true := by
    intro p q r hpq hqr
    simpa using UInt32.le_trans (of_decide_eq_true hpq) (of_decide_eq_true hqr)
  have total : ∀ p q : SequencePoint,
      (decide (p.offset ≤ q.offset) || decide (q.offset ≤ p.offset)) = true := by
    intro p q
    simpa using UInt32.le_total p.offset q.offset
  have perm := List.mergeSort_perm added fun p q => decide (p.offset ≤ q.offset)
  refine ⟨perm, ?_, fun offset => ?_⟩
  · simpa using List.pairwise_mergeSort trans total added
  · -- Points at one offset are in order as they came, and a sublist in order is kept.
    have level : (standingAt offset added).Pairwise fun p q =>
        decide (p.offset ≤ q.offset) = true := by
      refine List.pairwise_of_forall_mem_list fun p hp q hq => ?_
      have hp := (mem_standingAt_iff.1 hp).2
      have hq := (mem_standingAt_iff.1 hq).2
      simp [hp, hq]
    have listed := List.sublist_mergeSort trans total level List.filter_sublist
    have kept : (standingAt offset added).Sublist
        (standingAt offset (added.mergeSort fun p q => p.offset ≤ q.offset)) := by
      simpa [standingAt] using listed.filter (·.offset = offset)
    exact (kept.eq_of_length (perm.filter _).length_eq.symm).symm

/-! ## Places -/

/-- The places of the points up to an offset. -/
def placesUpTo (offset : UInt32) (points : List SequencePoint) : Set Nat :=
  {i | ∃ p, points[i]? = some p ∧ p.offset ≤ offset}

theorem mem_placesUpTo_iff (ascending : points.Pairwise fun p q => p.offset ≤ q.offset) :
    i ∈ placesUpTo offset points ↔ i < countUpTo offset points := by
  have point := isPartitionPoint_upTo ascending offset
  rw [countUpTo_eq ascending]
  constructor
  · rintro ⟨p, found, reached⟩
    obtain ⟨inside, rfl⟩ := List.getElem?_eq_some_iff.1 found
    exact (point.meets_iff i inside).1 (decide_eq_true reached)
  · intro before
    have inside : i < points.length := Nat.lt_of_lt_of_le before point.le_length
    have reached := (point.meets_iff i inside).2 before
    exact ⟨points[i], List.getElem?_eq_getElem inside, of_decide_eq_true reached⟩

end SequencePoint

open SequencePoint

namespace MethodTable

variable {t : MethodTable} {offset : UInt32} {i : Nat}

/-- The place of the point that covers an offset: the one before the place where a point at the
offset would be put. -/
def coveringIndex? (t : MethodTable) (offset : UInt32) : Option Nat :=
  (countUpTo offset t.points).ppred

theorem coveringIndex?_eq_some_iff :
    t.coveringIndex? offset = some i ↔ IsGreatest (placesUpTo offset t.points) i := by
  rw [coveringIndex?, Nat.ppred_eq_some]
  constructor
  · intro last
    refine ⟨(mem_placesUpTo_iff t.points_ascending).2 (by omega), fun j hj => ?_⟩
    have before := (mem_placesUpTo_iff t.points_ascending).1 hj
    omega
  · rintro ⟨listed, greatest⟩
    have before := (mem_placesUpTo_iff t.points_ascending).1 listed
    by_contra notLast
    -- Otherwise the next place has a point up to the offset too.
    have next := greatest ((mem_placesUpTo_iff t.points_ascending).2 (show i + 1 < _ by omega))
    omega

theorem coveringIndex?_eq_none_iff :
    t.coveringIndex? offset = none ↔ ∀ p ∈ t.points, offset < p.offset := by
  rw [coveringIndex?, Nat.ppred_eq_none]
  constructor
  · intro none p hp
    obtain ⟨i, found⟩ := List.mem_iff_getElem?.1 hp
    by_contra reached
    have before :=
      (mem_placesUpTo_iff t.points_ascending).1 ⟨p, found, UInt32.not_lt.1 reached⟩
    omega
  · intro behind
    by_contra some
    obtain ⟨p, found, reached⟩ :=
      (mem_placesUpTo_iff t.points_ascending).2 (Nat.pos_of_ne_zero some)
    exact UInt32.not_le.2 (behind p (List.mem_of_getElem? found)) reached

theorem covering?_eq_bind (t : MethodTable) (offset : UInt32) :
    t.covering? offset = (t.coveringIndex? offset).bind (t.points[·]?) := by
  have count : countUpTo offset t.points = (t.pointsUpTo offset).length :=
    countUpTo_eq t.points_ascending offset
  rw [covering?, coveringIndex?, List.getLast?_eq_getElem?, count]
  cases length : (t.pointsUpTo offset).length with
  | zero =>
    rw [List.length_eq_zero_iff.1 length]
    rfl
  | succ i =>
    have inside : i < (t.pointsUpTo offset).length := by omega
    have front : t.pointsUpTo offset <+: t.points := List.takeWhile_prefix _
    show (t.pointsUpTo offset)[i]? = t.points[i]?
    rw [List.getElem?_eq_getElem inside, List.prefix_iff_getElem?.1 front i inside]

end MethodTable

/-! ## Calls -/

/-- A call that adds to the debug data of a method. -/
inductive TableCall where
  | addPoint (p : SequencePoint)
  | addLocal (slot : UInt32) (scope : LocalScope)
  | markNonUser

/-- The point that a call adds. -/
def TableCall.point? : TableCall → Option SequencePoint
  | addPoint p => some p
  | addLocal .. => none
  | markNonUser => none

theorem TableCall.filterMap_point?_map_addPoint (points : List SequencePoint) :
    (points.map addPoint).filterMap point? = points := by
  rw [List.filterMap_map]
  exact List.filterMap_some

namespace MethodTable

def perform (t : MethodTable) : TableCall → MethodTable
  | .addPoint p => t.addPoint p
  | .addLocal slot scope => t.addLocal slot scope
  | .markNonUser => t.markNonUser

def performAll (t : MethodTable) (calls : List TableCall) : MethodTable :=
  calls.foldl perform t

/-- Only an addition of a point makes a difference to the points. -/
theorem points_perform (t : MethodTable) (call : TableCall) :
    (t.perform call).points = match call.point? with
      | some p => p.placeIn t.points
      | none => t.points := by
  cases call with
  | addPoint p => exact (placeIn_eq_insertInto t.points_ascending p).symm
  | addLocal slot scope => rfl
  | markNonUser => rfl

theorem points_performAll (t : MethodTable) (calls : List TableCall) :
    (t.performAll calls).points =
      (calls.filterMap TableCall.point?).foldl (fun points p => p.placeIn points) t.points := by
  induction calls generalizing t with
  | nil => rfl
  | cons call calls ih =>
    have rest := ih (t.perform call)
    rw [points_perform] at rest
    rw [List.filterMap_cons]
    cases point : call.point? with
    | none =>
      rw [point] at rest
      exact rest
    | some p =>
      rw [point] at rest
      exact rest

/-- **The points of a method are the stable sort by offset of the points that were added**, whatever
other calls came between. They are what comes of putting each point at the place that the search
finds in the list so far. For an offset the search then finds the last place whose point is not
behind it, if there is one, and there the covering point stands. -/
theorem points_stably_sorted (bodySize : UInt32) (calls : List TableCall) :
    let t := (empty bodySize).performAll calls
    let added := calls.filterMap TableCall.point?
    IsStableSort added t.points ∧
    t.points = added.mergeSort (fun p q => p.offset ≤ q.offset) ∧
    t.points = added.foldl (fun points p => p.placeIn points) [] ∧
    t.points = ((empty bodySize).performAll (added.map .addPoint)).points ∧
    ∀ offset,
      (∀ i, t.coveringIndex? offset = some i ↔ IsGreatest (placesUpTo offset t.points) i) ∧
      (t.coveringIndex? offset = none ↔ ∀ p ∈ added, offset < p.offset) ∧
      t.covering? offset = (t.coveringIndex? offset).bind (t.points[·]?) := by
  intro t added
  have placed : t.points = added.foldl (fun points p => p.placeIn points) [] :=
    points_performAll (empty bodySize) calls
  have sorted : IsStableSort added t.points := by
    rw [placed]
    exact isStableSort_nil.placeAll added
  have alone : t.points = ((empty bodySize).performAll (added.map .addPoint)).points := by
    rw [placed, points_performAll, TableCall.filterMap_point?_map_addPoint]
    rfl
  refine ⟨sorted, sorted.unique (isStableSort_mergeSort added), placed, alone, fun offset =>
    ⟨fun i => coveringIndex?_eq_some_iff, ?_, covering?_eq_bind t offset⟩⟩
  rw [coveringIndex?_eq_none_iff]
  exact forall_congr' fun p => imp_congr_left sorted.perm.mem_iff

example :
    ((empty 16).performAll [.addPoint ⟨4, 7, 7, 1, 2, "/src/A.cs"⟩, .markNonUser,
      .addPoint ⟨0, 5, 5, 1, 2, "/src/A.cs"⟩, .addPoint ⟨4, 9, 9, 1, 2, "/src/A.cs"⟩]).points.map
        SequencePoint.startLine = [5, 7, 9] := rfl

end MethodTable

end DebugSymbols

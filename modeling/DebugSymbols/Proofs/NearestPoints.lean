import DebugSymbols.Proofs.TablePoints

/-!
# The nearest point

In ascending order the nearest point of an offset stands as far on as the offset allows: no point
up to the offset is behind it. Several points may stand there. Where the offset itself has points,
the nearest one is the first of them (`IsFirst`); otherwise it is the last of those at its offset
(`IsLast`). Only before the first point is the answer one that is still ahead. These conditions
leave no choice, so they say exactly which point the search finds (`nearest?_greatest`).
-/

namespace DebugSymbols.SequencePoint

/-- No point before `p` in the list has the offset of `p`. -/
def IsFirst (points : List SequencePoint) (p : SequencePoint) : Prop :=
  ∃ before after, points = before ++ p :: after ∧ ∀ q ∈ before, q.offset ≠ p.offset

/-- No point after `p` in the list has the offset of `p`. -/
def IsLast (points : List SequencePoint) (p : SequencePoint) : Prop :=
  ∃ before after, points = before ++ p :: after ∧ ∀ q ∈ after, q.offset ≠ p.offset

/-- `p` is the point that `offset` belongs to: one with the greatest offset up to it, the first of
them at the offset itself and else the last, or the first of all when they are all ahead. -/
inductive IsNearest (offset : UInt32) (points : List SequencePoint) (p : SequencePoint) : Prop where
  | reached (greatest : IsGreatestUpTo offset points p)
    (hit : p.offset = offset → IsFirst points p) (missed : p.offset ≠ offset → IsLast points p)
  | ahead (behind : ∀ q ∈ points, offset < q.offset) (first : points.head? = some p)

section

variable {points : List SequencePoint} {offset : UInt32} {p p' : SequencePoint}

/-! ## The first and the last point of an offset -/

theorem IsFirst.mem (h : IsFirst points p) : p ∈ points := by
  obtain ⟨before, after, rfl, -⟩ := h
  simp

theorem head?_standingAt_eq_some_iff :
    (standingAt offset points).head? = some p ↔ p.offset = offset ∧ IsFirst points p := by
  rw [standingAt, List.head?_filter, List.find?_eq_some_iff_append]
  constructor
  · rintro ⟨here, before, after, split, apart⟩
    have here : p.offset = offset := by simpa using here
    refine ⟨here, before, after, split, fun q hq => ?_⟩
    rw [here]
    simpa using apart q hq
  · rintro ⟨rfl, before, after, split, apart⟩
    exact ⟨by simp, before, after, split, fun q hq => by simpa using apart q hq⟩

/-- Read from the end, the last point of an offset is the first. -/
theorem isFirst_reverse_iff : IsFirst points.reverse p ↔ IsLast points p := by
  constructor
  · rintro ⟨before, after, split, apart⟩
    refine ⟨after.reverse, before.reverse, ?_, by simpa using apart⟩
    rw [← List.reverse_reverse points, split]
    simp
  · rintro ⟨before, after, rfl, apart⟩
    exact ⟨after.reverse, before.reverse, by simp, by simpa using apart⟩

theorem IsFirst.unique (h : IsFirst points p) (h' : IsFirst points p')
    (same : p.offset = p'.offset) : p = p' := by
  have found := head?_standingAt_eq_some_iff.2 ⟨same, h⟩
  have found' := head?_standingAt_eq_some_iff.2 ⟨rfl, h'⟩
  exact Option.some.inj (found.symm.trans found')

theorem IsLast.unique (h : IsLast points p) (h' : IsLast points p')
    (same : p.offset = p'.offset) : p = p' :=
  (isFirst_reverse_iff.2 h).unique (isFirst_reverse_iff.2 h') same

/-- In ascending order the last point up to an offset is the last of those at its own. -/
theorem isLast_of_getLast? (ascending : points.Pairwise fun p q => p.offset ≤ q.offset)
    (h : (points.takeWhile (·.offset ≤ offset)).getLast? = some p) : IsLast points p := by
  obtain ⟨before, front⟩ := List.getLast?_eq_some_iff.1 h
  have split : points = before ++ p :: points.dropWhile (·.offset ≤ offset) := by
    have whole := List.takeWhile_append_dropWhile
      (p := fun q : SequencePoint => decide (q.offset ≤ offset)) (l := points)
    rw [front] at whole
    simpa using whole.symm
  refine ⟨before, _, split, ?_⟩
  intro q hq same
  have reached : p.offset ≤ offset := le_of_mem_takeWhile p (List.mem_of_getLast? h)
  have behind : offset < q.offset := lt_of_mem_dropWhile ascending q hq
  exact UInt32.not_le.2 behind (same ▸ reached)

/-! ## What an offset belongs to -/

/-- Where no point stands at an offset, the points before it are those up to it. -/
theorem standingBefore_of_missed (ascending : points.Pairwise fun p q => p.offset ≤ q.offset)
    (missed : standingAt offset points = []) :
    standingBefore offset points = points.takeWhile (·.offset ≤ offset) := by
  rw [takeWhile_le_eq_append ascending, missed, List.append_nil]

/-- There is at most one point that an offset belongs to. -/
theorem IsNearest.unique (h : IsNearest offset points p) (h' : IsNearest offset points p') :
    p = p' := by
  cases h with
  | reached greatest hit missed =>
    cases h' with
    | reached greatest' hit' missed' =>
      have same := greatest.offset_eq greatest'
      by_cases here : p.offset = offset
      · exact (hit here).unique (hit' (same ▸ here)) same
      · exact (missed here).unique (missed' (same ▸ here)) same
    | ahead behind' first' =>
      have late := behind' p greatest.listed
      exact absurd greatest.reached (UInt32.not_le.2 late)
  | ahead behind first =>
    cases h' with
    | reached greatest' hit' missed' =>
      have late := behind p' greatest'.listed
      exact absurd greatest'.reached (UInt32.not_le.2 late)
    | ahead behind' first' => exact Option.some.inj (first.symm.trans first')

/-- An offset with points belongs to the first of them. -/
theorem isNearest_of_standingAt (h : (standingAt offset points).head? = some p) :
    IsNearest offset points p := by
  obtain ⟨here, first⟩ := head?_standingAt_eq_some_iff.1 h
  have greatest : IsGreatestUpTo offset points p :=
    ⟨first.mem, UInt32.le_of_eq here, fun q _ reached => here ▸ reached⟩
  exact .reached greatest (fun _ => first) fun missed => absurd here missed

/-- An offset without points belongs to the last point before it. -/
theorem isNearest_of_standingBefore (ascending : points.Pairwise fun p q => p.offset ≤ q.offset)
    (missed : standingAt offset points = [])
    (h : (standingBefore offset points).getLast? = some p) : IsNearest offset points p := by
  rw [standingBefore_of_missed ascending missed] at h
  have greatest := isGreatestUpTo_of_getLast? ascending h
  have last := isLast_of_getLast? ascending h
  refine .reached greatest (fun here => ?_) fun _ => last
  have standing := mem_standingAt_iff.2 ⟨greatest.listed, here⟩
  rw [missed] at standing
  cases standing

/-- An offset with no point at it or before it belongs to the first point of all. -/
theorem isNearest_of_head? (ascending : points.Pairwise fun p q => p.offset ≤ q.offset)
    (missed : standingAt offset points = []) (empty : standingBefore offset points = [])
    (h : points.head? = some p) : IsNearest offset points p := by
  rw [standingBefore_of_missed ascending missed] at empty
  refine .ahead (fun q hq => ?_) h
  apply lt_of_mem_dropWhile ascending
  rw [← List.takeWhile_append_dropWhile (p := fun q : SequencePoint => decide (q.offset ≤ offset))
    (l := points), empty] at hq
  exact hq

/-- The search finds a point that the offset belongs to: each way in which it ends is a case of
it. -/
theorem isNearest_of_nearest? (ascending : points.Pairwise fun p q => p.offset ≤ q.offset)
    (h : nearest? points offset = some p) : IsNearest offset points p := by
  rw [nearest?_eq ascending] at h
  cases hit : (standingAt offset points).head? with
  | some first =>
    rw [hit] at h
    cases h
    exact isNearest_of_standingAt hit
  | none =>
    have missed := List.head?_eq_none_iff.1 hit
    cases before : (standingBefore offset points).getLast? with
    | some last =>
      rw [hit, before] at h
      cases h
      exact isNearest_of_standingBefore ascending missed before
    | none =>
      rw [hit, before] at h
      exact isNearest_of_head? ascending missed (List.getLast?_eq_none_iff.1 before) h

end

/-- **The nearest point of ascending points.** There is none exactly if there are no points.
Otherwise it is the point that the offset belongs to: its offset is the greatest up to the one asked
for, and of the points there it is the first if the offset is hit and the last if it is not; when all
points are ahead, it is the first of them. -/
theorem nearest?_greatest {points : List SequencePoint}
    (ascending : points.Pairwise fun p q => p.offset ≤ q.offset) (offset : UInt32) :
    (nearest? points offset = none ↔ points = []) ∧
    ∀ p, nearest? points offset = some p ↔ IsNearest offset points p := by
  refine ⟨nearest?_eq_none_iff, fun p => ⟨isNearest_of_nearest? ascending, fun belongs => ?_⟩⟩
  cases found : nearest? points offset with
  | none =>
    obtain rfl := nearest?_eq_none_iff.1 found
    cases belongs with
    | reached greatest _ _ => cases greatest.listed
    | ahead _ first => cases first
  | some p' => rw [(isNearest_of_nearest? ascending found).unique belongs]

/-- Two points share the offset 4: asked for itself it has the first of them, and the offset 6 has
the second. The offset 0 has the first point of all, which is still ahead. -/
theorem nearest?_greatest_shared :
    let points : List SequencePoint := [⟨2, 5, 5, 1, 2, "/src/A.cs"⟩,
      ⟨4, hiddenLine, hiddenLine, 0, 0, "/src/A.cs"⟩, ⟨4, 7, 7, 1, 2, "/src/A.cs"⟩]
    (points.Pairwise fun p q => p.offset ≤ q.offset) ∧
      IsNearest 4 points ⟨4, hiddenLine, hiddenLine, 0, 0, "/src/A.cs"⟩ ∧
      IsNearest 6 points ⟨4, 7, 7, 1, 2, "/src/A.cs"⟩ ∧
      IsNearest 0 points ⟨2, 5, 5, 1, 2, "/src/A.cs"⟩ := by
  intro points
  have ascending : points.Pairwise fun p q => p.offset ≤ q.offset := by decide
  have belongs := fun offset p => ((nearest?_greatest ascending offset).2 p).1
  exact ⟨ascending, belongs 4 _ rfl, belongs 6 _ rfl, belongs 0 _ rfl⟩

end DebugSymbols.SequencePoint

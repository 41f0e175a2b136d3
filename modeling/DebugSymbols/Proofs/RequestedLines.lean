import DebugSymbols.Proofs.SearchAgreement
import Mathlib.Data.List.Induction
import Mathlib.Data.Prod.Lex

/-!
# The code for a requested line

Of the points that can answer a request for a line, the answer is the least one by line, then by
method, then by offset (`resolve_least`). The search itself compares lines only, and keeps the first
of several points on the least line. The rest of the order lies in the tables: the methods stand in
the order of their tokens, and the points of each in the order of their offsets.
-/

namespace DebugSymbols

open SequencePoint

/-! ## The document -/

/-- The document is the one that `path` calls for: its whole path, or its name behind the last
separator when `path` has none. -/
def IsCalled (document path : String) : Prop :=
  document = path ∨ (∀ c ∈ path.toList, c ≠ '/' ∧ c ≠ '\\') ∧
    ∃ directory separator, (separator = '/' ∨ separator = '\\') ∧
      document.toList = directory ++ separator :: path.toList

namespace FilePath

theorem hasDirectory_eq_false_iff {path : String} :
    hasDirectory path = false ↔ ∀ c ∈ path.toList, isSeparator c = false := by
  simp [hasDirectory]

theorem fileName_eq_iff {document name : String} :
    fileName document = name ↔ nameOf document.toList = name.toList := by
  constructor
  · rintro rfl
    rw [fileName, String.toList_ofList]
  · intro h
    rw [fileName, h, String.ofList_toList]

end FilePath

theorem SymbolTable.documentMatches_iff_isCalled {document path : String} :
    documentMatches document path = true ↔ IsCalled document path := by
  rw [documentMatches_iff, FilePath.hasDirectory_eq_false_iff, FilePath.fileName_eq_iff,
    FilePath.nameOf_eq_iff]
  simp only [IsCalled, FilePath.isSeparator_eq_true_iff, FilePath.isSeparator_eq_false_iff,
    String.toList_inj]
  constructor
  · rintro (whole | ⟨bare, -, whole | behind⟩)
    · exact .inl whole
    · exact .inl whole
    · exact .inr ⟨bare, behind⟩
  · rintro (whole | ⟨bare, behind⟩)
    · exact .inl whole
    · exact .inr ⟨bare, bare, .inr behind⟩

/-! ## The first of the least -/

namespace SymbolTable

variable {found : List (MethodToken × SequencePoint)} {a b c : MethodToken × SequencePoint}

theorem earliest?_concat (found : List (MethodToken × SequencePoint))
    (next : MethodToken × SequencePoint) :
    earliest? (found ++ [next]) = preferEarlier (earliest? found) next := by
  rw [earliest?, List.foldl_append]
  rfl

theorem preferEarlier_ne_none (best : Option (MethodToken × SequencePoint))
    (next : MethodToken × SequencePoint) : preferEarlier best next ≠ none := by
  unfold preferEarlier
  split
  · simp
  · split <;> simp

theorem earliest?_eq_none_iff : earliest? found = none ↔ found = [] := by
  constructor
  · intro h
    rcases List.eq_nil_or_concat found with rfl | ⟨earlier, next, rfl⟩
    · rfl
    · rw [List.concat_eq_append, earliest?_concat] at h
      exact absurd h (preferEarlier_ne_none _ _)
  · rintro rfl
    rfl

/-- What is found is on the least line, and the first on it. By induction from the end, where the
last point either is on a line before all others or changes nothing. -/
theorem exists_split_of_earliest? (h : earliest? found = some c) : ∃ before after,
    found = before ++ c :: after ∧ (∀ b ∈ before, c.2.startLine < b.2.startLine) ∧
      ∀ b ∈ after, c.2.startLine ≤ b.2.startLine := by
  induction found using List.reverseRecOn generalizing c with
  | nil => cases h
  | append_singleton found next ih =>
    rw [earliest?_concat] at h
    cases best : earliest? found with
    | none =>
      rw [best] at h
      cases h
      exact ⟨found, [], rfl, by simp [earliest?_eq_none_iff.1 best], by simp⟩
    | some b =>
      obtain ⟨before, after, rfl, less, notLess⟩ := ih best
      simp only [best, preferEarlier] at h
      split at h
      · next earlier =>
        cases h
        refine ⟨before ++ b :: after, [], rfl, fun q hq => ?_, by simp⟩
        rcases List.mem_append.1 hq with hq | hq
        · exact UInt32.lt_trans earlier (less q hq)
        · rcases List.mem_cons.1 hq with rfl | hq
          · exact earlier
          · exact UInt32.lt_of_lt_of_le earlier (notLess q hq)
      · next notEarlier =>
        cases h
        refine ⟨before, after ++ [next], by simp, less, fun q hq => ?_⟩
        rcases List.mem_append.1 hq with hq | hq
        · exact notLess q hq
        · rw [List.mem_singleton.1 hq]
          exact UInt32.not_lt.1 notEarlier

/-! ## The order of the candidates -/

/-- The place of a point in the order of preference. -/
def rank (c : MethodToken × SequencePoint) : ℕ ×ₗ ℕ ×ₗ ℕ :=
  toLex (c.2.startLine.toNat, toLex (c.1.raw.toNat, c.2.offset.toNat))

theorem rank_le_rank_iff : rank a ≤ rank b ↔ a.2.startLine < b.2.startLine ∨
    a.2.startLine = b.2.startLine ∧ (a.1.raw < b.1.raw ∨
      a.1.raw = b.1.raw ∧ a.2.offset ≤ b.2.offset) := by
  simp only [rank, Prod.Lex.toLex_le_toLex, UInt32.lt_iff_toNat_lt, UInt32.le_iff_toNat_le,
    UInt32.toNat_inj]

/-- Points at one place in the order make one answer. -/
theorem eq_of_rank_eq (h : rank a = rank b) :
    a.1 = b.1 ∧ a.2.offset = b.2.offset ∧ a.2.startLine = b.2.startLine := by
  simp only [rank, toLex_inj, Prod.mk.injEq, UInt32.toNat_inj] at h
  obtain ⟨line, method, offset⟩ := h
  exact ⟨congrArg MethodToken.mk method, offset, line⟩

/-- Candidates stand in the order of their methods, and those of a method in that of their offsets. -/
theorem pairwise_candidates (t : SymbolTable) (path : String) (line : UInt32) :
    (t.candidates path line).Pairwise fun a b =>
      a.1.raw < b.1.raw ∨ a.1.raw = b.1.raw ∧ a.2.offset ≤ b.2.offset := by
  rw [candidates, List.pairwise_flatMap]
  refine ⟨fun entry _ => ?_, t.methods_ascending.imp fun ascending a ha b hb => ?_⟩
  · rw [List.pairwise_map]
    exact (entry.2.points_ascending.filter _).imp fun ascending => .inr ⟨rfl, ascending⟩
  · obtain ⟨p, -, rfl⟩ := List.mem_map.1 ha
    obtain ⟨q, -, rfl⟩ := List.mem_map.1 hb
    exact .inl ascending

theorem rank_le_of_earliest? {t : SymbolTable} {path : String} {line : UInt32}
    (h : earliest? (t.candidates path line) = some c) :
    ∀ b ∈ t.candidates path line, rank c ≤ rank b := by
  have ordered := t.pairwise_candidates path line
  obtain ⟨before, after, split, less, notLess⟩ := exists_split_of_earliest? h
  rw [split] at ordered ⊢
  intro b hb
  rcases List.mem_append.1 hb with hb | hb
  · exact rank_le_rank_iff.2 (.inl (less b hb))
  · rcases List.mem_cons.1 hb with rfl | hb
    · exact le_refl _
    · have behind := (List.pairwise_cons.1 (List.pairwise_append.1 ordered).2.1).1 b hb
      rcases UInt32.lt_or_eq_of_le (notLess b hb) with earlier | same
      · exact rank_le_rank_iff.2 (.inl earlier)
      · exact rank_le_rank_iff.2 (.inr ⟨same, behind⟩)

/-! ## The answer to a request -/

/-- A point of a method can answer a request for a line: it is visible, on that line or behind it,
and in a document that the request calls for. -/
structure CanAnswer (t : SymbolTable) (path : String) (line : UInt32)
    (c : MethodToken × SequencePoint) : Prop where
  listed : c.2 ∈ t.points c.1
  visible : c.2.startLine ≠ hiddenLine
  reached : line ≤ c.2.startLine
  document : IsCalled c.2.document path

section

variable {t : SymbolTable} {path : String} {line : UInt32} {method : MethodToken}
  {p : SequencePoint}

theorem mem_points_iff :
    p ∈ t.points method ↔ ∃ table, (method, table) ∈ t.methods ∧ p ∈ table.points := by
  constructor
  · intro hp
    cases known : t.method? method with
    | none =>
      rw [points, known] at hp
      cases hp
    | some table =>
      obtain ⟨⟨m, table⟩, first, rfl⟩ := Option.map_eq_some_iff.1 known
      have same : m = method := by simpa using List.find?_some first
      rw [points_of_method? known] at hp
      exact ⟨table, same ▸ List.mem_of_find?_eq_some first, hp⟩
  · rintro ⟨table, listed, hp⟩
    rwa [points_of_method? (method?_of_mem listed)]

theorem mem_candidates_iff_canAnswer : c ∈ t.candidates path line ↔ t.CanAnswer path line c := by
  obtain ⟨method, p⟩ := c
  rw [mem_candidates_iff]
  constructor
  · rintro ⟨table, listed, hp, visible, reached, called⟩
    exact ⟨mem_points_iff.2 ⟨table, listed, hp⟩, by simpa [isHidden] using visible, reached,
      documentMatches_iff_isCalled.1 called⟩
  · rintro ⟨listed, visible, reached, called⟩
    obtain ⟨table, listed, hp⟩ := mem_points_iff.1 listed
    exact ⟨table, listed, hp, by simpa [isHidden] using visible, reached,
      documentMatches_iff_isCalled.2 called⟩

theorem resolve_of_earliest? (h : earliest? (t.candidates path line) = some c) :
    t.resolve path line = .ok ⟨c.1, c.2.offset, some c.2.startLine⟩ := by
  rw [resolve, h]

theorem resolve_of_no_candidates (h : t.candidates path line = []) :
    t.resolve path line = .error (.notFound (.code path line)) := by
  rw [resolve, earliest?_eq_none_iff.2 h]

end

/-- **A line is resolved to the least point that can answer the request**, by line, then by method,
then by offset. It is not found exactly if there is none. -/
theorem resolve_least (t : SymbolTable) (path : String) (line : UInt32) :
    (∀ found, t.resolve path line = .ok found ↔ ∃ c, t.CanAnswer path line c ∧
      (∀ c', t.CanAnswer path line c' → rank c ≤ rank c') ∧
      found = ⟨c.1, c.2.offset, some c.2.startLine⟩) ∧
    ∀ failure, t.resolve path line = .error failure ↔
      failure = .notFound (.code path line) ∧ ∀ c, ¬ t.CanAnswer path line c := by
  simp only [← mem_candidates_iff_canAnswer]
  cases answer : earliest? (t.candidates path line) with
  | none =>
    have empty := earliest?_eq_none_iff.1 answer
    rw [resolve_of_no_candidates empty, empty]
    simp [eq_comm]
  | some best =>
    have listed := mem_of_earliest? answer
    have least := rank_le_of_earliest? answer
    rw [resolve_of_earliest? answer]
    refine ⟨fun found => ⟨?_, ?_⟩, fun failure => ⟨nofun, fun h => absurd listed (h.2 best)⟩⟩
    · intro h
      exact ⟨best, listed, least, (Except.ok.inj h).symm⟩
    · rintro ⟨c, candidate, least', rfl⟩
      obtain ⟨method, offset, line⟩ := eq_of_rank_eq (le_antisymm (least c candidate)
        (least' best listed))
      rw [method, offset, line]

end SymbolTable

end DebugSymbols

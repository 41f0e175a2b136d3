import DebugSymbols.Proofs.StepRanges

/-!
# The sequence point of a frame

A frame is mapped by two searches over the points of its method. The point that covers its offset
gives the document and decides whether there is an answer at all; the nearest point gives everything
else. The point that covers an offset is the last one that is not behind it
(`covering?_eq_lastUpTo?`), and the nearest point stands at the same offset
(`exists_nearest?_of_covering?`). So a frame gets a point exactly if it is covered by a line that can
be shown (`sequencePoint_covered`), and never one that is still ahead of it.
-/

namespace DebugSymbols

open SequencePoint

/-! ## The point that covers an offset -/

namespace MethodTable

/-- The last point, in the order of the table, that is not behind an offset. -/
def lastUpTo? (t : MethodTable) (offset : UInt32) : Option SequencePoint :=
  (t.points.filter (·.offset ≤ offset)).getLast?

theorem covering?_eq_lastUpTo? (t : MethodTable) (offset : UInt32) :
    t.covering? offset = t.lastUpTo? offset := by
  rw [covering?, pointsUpTo_eq_filter, lastUpTo?]

end MethodTable

/-! ## The answer to a frame -/

section

variable {t : SymbolTable} {p : SymbolProvider} {method : MethodToken} {table : MethodTable}
  {offset : UInt32} {covering : SequencePoint} {e : SymbolError}

/-- A covering point on a line that can be shown makes an answer. -/
theorem SymbolTable.exists_framePoint_of_covering? (known : t.method? method = some table)
    (covers : table.covering? offset = some covering) (nonzero : covering.startLine ≠ 0)
    (visible : covering.isHidden = false) : ∃ nearest,
      nearest? table.points offset = some nearest ∧
      (t.provider.framePoint method offset).result =
        .ok ⟨offset, { nearest with document := covering.document }⟩ := by
  obtain ⟨nearest, nears, -⟩ := MethodTable.exists_nearest?_of_covering? covers
  have given : t.provider.sourceLine method offset =
      .ok ⟨covering.startLine, covering.document⟩ :=
    sourceLine_eq_ok_iff.2 ⟨table, covering, known, covers, visible, rfl⟩
  have usable := SymbolProvider.result_usableLine_eq_ok_iff.2
    ⟨given, isUsable_iff.2 ⟨nonzero, visible⟩⟩
  have listed : t.provider.points method = .ok table.points :=
    congrArg Except.ok (points_of_method? known)
  exact ⟨nearest, nears,
    SymbolProvider.result_framePoint_eq_ok_iff.2 ⟨_, _, nearest, usable, listed, nears, rfl⟩⟩

/-- Why an offset has no line: its method has no debug data, or else no line covers it. -/
def SymbolTable.unmapped (t : SymbolTable) (method : MethodToken) (offset : UInt32) : SymbolError :=
  .notFound (if (t.method? method).isSome then .sourceLine method offset else .methodData method)

theorem SymbolTable.eq_unmapped_of_sourceLine (h : t.sourceLine method offset = .error e) :
    e = t.unmapped method offset := by
  unfold sourceLine require at h
  cases known : t.method? method with
  | none =>
    rw [known] at h
    cases h
    simp [unmapped, known]
  | some table =>
    simp only [known] at h
    simp only [unmapped, known, Option.isSome_some, ↓reduceIte]
    split at h
    · split at h
      · exact (Except.error.inj h).symm
      · cases h
    · exact (Except.error.inj h).symm

theorem SymbolTable.eq_unmapped_of_usableLine
    (h : (t.provider.usableLine method offset).result = .error e) :
    e = t.unmapped method offset := by
  cases given : t.sourceLine method offset with
  | error e' =>
    have given' : t.provider.sourceLine method offset = .error e' := given
    rw [SymbolProvider.result_usableLine_of_error given'] at h
    exact Except.error.inj h ▸ eq_unmapped_of_sourceLine given
  | ok source =>
    have given' : t.provider.sourceLine method offset = .ok source := given
    obtain ⟨table, -, known, -⟩ := sourceLine_eq_ok_iff.1 given
    rw [SymbolProvider.result_usableLine_of_ok given'] at h
    split at h
    · cases h
    · rw [← Except.error.inj h, unmapped, known]
      rfl

/-- What keeps a frame from an answer is always that its offset has no line. -/
theorem SymbolTable.eq_unmapped_of_framePoint
    (h : (t.provider.framePoint method offset).result = .error e) :
    e = t.unmapped method offset := by
  cases usable : (t.provider.usableLine method offset).result with
  | error e' =>
    rw [SymbolProvider.result_framePoint_of_error usable] at h
    exact Except.error.inj h ▸ eq_unmapped_of_usableLine usable
  | ok source =>
    obtain ⟨given, shown⟩ := SymbolProvider.result_usableLine_eq_ok_iff.1 usable
    obtain ⟨table, covering, known, covers, visible, rfl⟩ := sourceLine_eq_ok_iff.1 given
    obtain ⟨_, -, answered⟩ :=
      exists_framePoint_of_covering? known covers (isUsable_iff.1 shown).1 visible
    cases answered.symm.trans h

end

/-- **A frame is mapped exactly if the last point up to its offset is on a line that can be shown.**
Then its point stands at the offset of that one, the greatest that is not behind the frame, and is in
the same document. Otherwise nothing is found. Wherever a point covers an offset, the nearest point
stands at the same offset as the covering one, so a frame never gets a point that is ahead of it. -/
theorem sequencePoint_covered {l : ModuleLoader} {m : LoadedModule} {t : SymbolTable} {s : Session}
    {f : StackFrame} {method : MethodToken} {offset : UInt32}
    (loaded : LoadedWith l m t.provider s) (inside : f.module = .ok m)
    (hmethod : f.method = .ok method) (hoffset : f.offset = .ok offset) :
    let answer := (f.sequencePoint s.registry).result
    ((∃ fp, answer = .ok fp) ↔ ∃ table last, t.method? method = some table ∧
      table.lastUpTo? offset = some last ∧ last.startLine ≠ 0 ∧ last.startLine ≠ hiddenLine) ∧
    (∀ fp, answer = .ok fp → ∃ table last, t.method? method = some table ∧
      table.lastUpTo? offset = some last ∧ fp.offset = offset ∧
      fp.point.offset = last.offset ∧ fp.point.document = last.document ∧
      fp.point.offset ≤ offset ∧
      ∀ q ∈ table.points, q.offset ≤ offset → q.offset ≤ fp.point.offset) ∧
    (∀ failure, answer = .error failure → failure = t.unmapped method offset) ∧
    ∀ table covering, t.method? method = some table → table.covering? offset = some covering →
      ∃ nearest, nearest? table.points offset = some nearest ∧ nearest.offset = covering.offset := by
  intro answer
  have asked : answer = (t.provider.framePoint method offset).result :=
    congrArg Traced.result (loaded.answeredBy.sequencePoint inside hmethod hoffset)
  rw [asked]
  refine ⟨⟨?_, ?_⟩, ?_, fun failure h => SymbolTable.eq_unmapped_of_framePoint h,
    fun table covering _ covers => MethodTable.exists_nearest?_of_covering? covers⟩
  · rintro ⟨fp, mapped⟩
    obtain ⟨table, covering, nearest, known, covers, nonzero, visible, -⟩ :=
      SymbolTable.exists_of_framePoint mapped
    rw [table.covering?_eq_lastUpTo?] at covers
    exact ⟨table, covering, known, covers, nonzero, by simpa [isHidden] using visible⟩
  · rintro ⟨table, last, known, covers, nonzero, visible⟩
    rw [← table.covering?_eq_lastUpTo?] at covers
    obtain ⟨_, -, mapped⟩ := SymbolTable.exists_framePoint_of_covering? known covers nonzero
      (by simpa [isHidden] using visible)
    exact ⟨_, mapped⟩
  · intro fp mapped
    obtain ⟨table, covering, nearest, known, covers, -, -, nears, rfl⟩ :=
      SymbolTable.exists_of_framePoint mapped
    obtain ⟨q, nears', same⟩ := MethodTable.exists_nearest?_of_covering? covers
    cases nears.symm.trans nears'
    obtain ⟨before, greatest⟩ := MethodTable.le_of_covering? covers
    rw [table.covering?_eq_lastUpTo?] at covers
    refine ⟨table, covering, known, covers, rfl, same, rfl, ?_, ?_⟩
    · rw [same]
      exact before
    · rw [same]
      exact greatest

/-- A frame behind two points at one offset gets the second of them. A frame before the first point
of its method gets none, though there is a nearest one. -/
theorem sequencePoint_covered_prologued :
    let s := Session.start.run (.ofTable .prologued) [.load .app]
    let f := fun offset => StackFrame.standing .app ⟨0x06000001⟩ offset
    LoadedWith (.ofTable .prologued) .app SymbolTable.prologued.provider s ∧
    (∃ fp, ((f 5).sequencePoint s.registry).result = .ok fp ∧ fp.point.offset = 4 ∧
      fp.point.document = "/src/A.cs") ∧
    ((f 1).sequencePoint s.registry).result =
      .error (.notFound (.sourceLine ⟨0x06000001⟩ 1)) := by
  intro s f
  have loaded := loadedWith_ofTable .prologued
  obtain ⟨mapped, agrees, -⟩ := sequencePoint_covered (f := f 5) loaded rfl rfl rfl
  obtain ⟨fp, answered⟩ := mapped.2 ⟨_, ⟨4, 7, 7, 1, 2, "/src/A.cs"⟩, rfl, rfl, by decide, by decide⟩
  obtain ⟨table, last, known, covers, -, offset, document, -⟩ := agrees fp answered
  cases known
  cases covers
  refine ⟨loaded, ⟨fp, answered, offset, document⟩, ?_⟩
  obtain ⟨-, -, unmapped, -⟩ := sequencePoint_covered (f := f 1) loaded rfl rfl rfl
  have refused : ((f 1).sequencePoint s.registry).result = .error _ := rfl
  exact refused.trans (congrArg Except.error (unmapped _ refused))

end DebugSymbols

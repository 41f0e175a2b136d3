import DebugSymbols.Proofs.LoadedSymbols
import DebugSymbols.Proofs.TablePoints

/-!
# Where the searches of a table agree

A source position is resolved by one search over the table and its document recovered by another; a
frame gets its document from the covering point and its lines from the nearest one. In both answers
the two searches are about one offset. They find the same point unless several points stand there.
-/

namespace DebugSymbols

open SequencePoint

theorem SymbolTable.documentMatches_iff {document requested : String} :
    documentMatches document requested = true ↔ document = requested ∨
      FilePath.hasDirectory requested = false ∧ FilePath.fileName document = requested := by
  simp [documentMatches]

/-- A line that is not zero can be shown unless its point is hidden. -/
theorem SequencePoint.isUsable_iff {p : SequencePoint} :
    SourceLine.isUsable ⟨p.startLine, p.document⟩ = true ↔
      p.startLine ≠ 0 ∧ p.isHidden = false := by
  rw [SourceLine.isUsable_eq_true_iff]
  simp [isHidden]

/-! ## Source positions -/

section Locate

variable {l : ModuleLoader} {m : LoadedModule} {t : SymbolTable} {s : Session} {path : String}
  {line : UInt32} {found : CodeMatch}

/-- What a visible point makes of a position that is resolved to its offset, if it is the last one
there. -/
theorem SymbolTable.result_locate_of_last {table : MethodTable} {last : SequencePoint}
    (resolved : t.resolve path line = .ok found) (known : t.method? found.method = some table)
    (h : (standingAt found.offset table.points).getLast? = some last)
    (visible : last.isHidden = false) : (t.provider.locate path line).result =
      if last.startLine = 0 then .error (.notFound (.sourceLine found.method found.offset))
      else .ok ⟨found.method, found.offset, last.document⟩ := by
  have covering : table.covering? found.offset = some last := by
    rw [table.covering?_eq, h]
    rfl
  have source : t.provider.sourceLine found.method found.offset =
      .ok ⟨last.startLine, last.document⟩ :=
    sourceLine_eq_ok_iff.2 ⟨table, last, known, covering, visible, rfl⟩
  rw [SymbolProvider.result_locate_of_resolve resolved,
    SymbolProvider.result_usableLine_of_ok source]
  by_cases zero : last.startLine = 0
  · have unusable : ¬ SourceLine.isUsable ⟨last.startLine, last.document⟩ = true := fun usable =>
      (isUsable_iff.1 usable).1 zero
    rw [if_neg unusable, if_pos zero]
    rfl
  · rw [if_pos (isUsable_iff.2 ⟨zero, visible⟩), if_neg zero]
    rfl

/-- **A resolved position is located where it was resolved** if the point that stands last at its
offset can be shown: in the document of that point, which answers the request if that document does.
That point is the resolved one unless others stand at the offset. A position that is resolved on line
zero is refused, since no such line can be shown. -/
theorem locate_of_resolve (loaded : LoadedWith l m t.provider s)
    (resolved : t.resolve path line = .ok found) :
    ∃ last, (t.pointsAt found.method found.offset).getLast? = some last ∧
      (last.isHidden = false → last.startLine ≠ 0 →
        (m.locate s.registry path line).result =
            .ok ⟨found.method, found.offset, last.document⟩ ∧
          (SymbolTable.documentMatches last.document path = true → last.document = path ∨
            FilePath.hasDirectory path = false ∧ FilePath.fileName last.document = path)) ∧
      (found.line = some 0 → last.isHidden = false → last.startLine = 0 →
        (m.locate s.registry path line).result =
          .error (.notFound (.sourceLine found.method found.offset))) ∧
      (t.pointsAt found.method found.offset = [last] → found.line = some last.startLine ∧
        last.isHidden = false ∧ line ≤ last.startLine ∧
        SymbolTable.documentMatches last.document path = true) := by
  obtain ⟨table, p, known, standing, atPoint, atLine, visible, matching⟩ :=
    SymbolTable.exists_of_resolve resolved
  have points : t.pointsAt found.method found.offset = standingAt found.offset table.points := by
    unfold SymbolTable.pointsAt
    rw [SymbolTable.points_of_method? known]
  rw [points, loaded.answeredBy.locate path line]
  cases h : (standingAt found.offset table.points).getLast? with
  | none =>
    rw [List.getLast?_eq_none_iff.1 h] at standing
    cases standing
  | some last =>
    refine ⟨last, rfl, fun seen shown => ⟨?_, SymbolTable.documentMatches_iff.1⟩,
      fun _ seen zero => ?_, fun alone => ?_⟩
    · rw [SymbolTable.result_locate_of_last resolved known h seen, if_neg shown]
    · rw [SymbolTable.result_locate_of_last resolved known h seen, if_pos zero]
    · rw [alone, List.mem_singleton] at standing
      rw [← standing]
      exact ⟨atPoint, visible, atLine, matching⟩

end Locate

/-- Three methods of one file. The first starts on line zero. At the start of the second, line 5 is
followed by line 9 of another file, and behind them stands line 7. At the start of the third, line 11
is followed by generated code. -/
def SymbolTable.crowded : SymbolTable :=
  SymbolTable.empty
    |>.insert ⟨0x06000001⟩ ((MethodTable.empty 8).addPoint ⟨0, 0, 0, 1, 2, "/src/A.cs"⟩)
    |>.insert ⟨0x06000002⟩ ((MethodTable.empty 8)
      |>.addPoint ⟨0, 5, 5, 1, 2, "/src/A.cs"⟩
      |>.addPoint ⟨0, 9, 9, 1, 2, "/src/B.cs"⟩
      |>.addPoint ⟨4, 7, 7, 1, 2, "/src/A.cs"⟩)
    |>.insert ⟨0x06000003⟩ ((MethodTable.empty 8)
      |>.addPoint ⟨0, 11, 11, 1, 2, "/src/A.cs"⟩
      |>.addPoint ⟨0, hiddenLine, hiddenLine, 0, 0, "/src/A.cs"⟩)

/-- The loader for the module "/app/App.dll" with the given table. -/
def ModuleLoader.ofTable (t : SymbolTable) : ModuleLoader :=
  .ofTables (TableStore.addFile ⟨[], []⟩ "/app/App.dll" t)

/-- The module "/app/App.dll". -/
def LoadedModule.app : LoadedModule :=
  .ofFile "/app/App.dll" ⟨0x10000⟩ 0x2000

theorem ModuleLoader.hostAnswer?_ofTable (t : SymbolTable) (s : Session) :
    (ModuleLoader.ofTable t).hostAnswer? .app s = some (.ok t.provider) := by
  have found : (TableStore.addFile ⟨[], []⟩ "/app/App.dll" t).find? (.file "/app/App.dll") =
      some t := by
    simp [TableStore.find?, TableStore.addFile]
  show some (TableStore.load (TableStore.addFile ⟨[], []⟩ "/app/App.dll" t)
    (.file "/app/App.dll")) = _
  rw [TableStore.load, found]

/-- The module is loaded with the table that is at hand for it. -/
theorem loadedWith_ofTable (t : SymbolTable) :
    LoadedWith (.ofTable t) .app t.provider (Session.start.run (.ofTable t) [.load .app]) := by
  have loaded : ((ModuleLoader.ofTable t).load .app .start).result = .ok _ :=
    (ModuleLoader.result_loadChanging _ _ _ _).trans rfl
  exact ⟨[.load .app], [], _, rfl, ⟨[], rfl, List.not_mem_nil, loaded⟩,
    ModuleLoader.hostAnswer?_ofTable t _⟩

/-- Where two points share the offset, the document is that of the last one; line 7, which stands
alone, is located in the document that was asked for. -/
theorem locate_of_resolve_crowded :
    let l := ModuleLoader.ofTable .crowded
    let s := Session.start.run l [.load .app]
    (LoadedModule.app.locate s.registry "/src/A.cs" 5).result =
      .ok ⟨⟨0x06000002⟩, 0, "/src/B.cs"⟩ ∧
    (LoadedModule.app.locate s.registry "A.cs" 6).result = .ok ⟨⟨0x06000002⟩, 4, "/src/A.cs"⟩ ∧
    FilePath.hasDirectory "A.cs" = false ∧ FilePath.fileName "/src/A.cs" = "A.cs" := by
  intro l s
  obtain ⟨shared, sharedLast, sharedLocated, -⟩ := locate_of_resolve (loadedWith_ofTable .crowded)
    (show SymbolTable.crowded.resolve "/src/A.cs" 5 = .ok ⟨⟨0x06000002⟩, 0, some 5⟩ from rfl)
  cases sharedLast.symm.trans (show _ = some ⟨0, 9, 9, 1, 2, "/src/B.cs"⟩ from rfl)
  obtain ⟨last, standing, located, -, alone⟩ := locate_of_resolve (loadedWith_ofTable .crowded)
    (show SymbolTable.crowded.resolve "A.cs" 6 = .ok ⟨⟨0x06000002⟩, 4, some 7⟩ from rfl)
  cases standing.symm.trans (show _ = some ⟨4, 7, 7, 1, 2, "/src/A.cs"⟩ from rfl)
  obtain ⟨-, seen, -, matching⟩ := alone rfl
  obtain ⟨inFile, answers⟩ := located seen (by decide)
  exact ⟨(sharedLocated rfl (by decide)).1, inFile, (answers matching).resolve_left (by decide)⟩

/-- A resolved position can be lost, on line zero or to generated code at its offset, and the document
of another point there can take the place of its own. -/
theorem locate_loses_resolved :
    let l := ModuleLoader.ofTable .crowded
    let s := Session.start.run l [.load .app]
    LoadedWith l .app SymbolTable.crowded.provider s ∧
    SymbolTable.crowded.resolve "/src/A.cs" 0 = .ok ⟨⟨0x06000001⟩, 0, some 0⟩ ∧
    (LoadedModule.app.locate s.registry "/src/A.cs" 0).result =
      .error (.notFound (.sourceLine ⟨0x06000001⟩ 0)) ∧
    SymbolTable.crowded.resolve "/src/A.cs" 5 = .ok ⟨⟨0x06000002⟩, 0, some 5⟩ ∧
    (LoadedModule.app.locate s.registry "/src/A.cs" 5).result =
      .ok ⟨⟨0x06000002⟩, 0, "/src/B.cs"⟩ ∧
    SymbolTable.crowded.resolve "/src/A.cs" 11 = .ok ⟨⟨0x06000003⟩, 0, some 11⟩ ∧
    (LoadedModule.app.locate s.registry "/src/A.cs" 11).result =
      .error (.notFound (.sourceLine ⟨0x06000003⟩ 0)) :=
  ⟨loadedWith_ofTable .crowded, rfl, rfl, rfl, rfl, rfl, rfl⟩

/-! ## Frames -/

/-- The lines of the nearest and of the covering point are the same unless several points stand at
the offset. Then they are those of the first and the last of them. -/
theorem MethodTable.startLine_eq_iff {t : MethodTable} {offset : UInt32}
    {covering nearest : SequencePoint} (covers : t.covering? offset = some covering)
    (nears : nearest? t.points offset = some nearest) :
    nearest.startLine = covering.startLine ↔
      ∀ first last, (standingAt offset t.points).head? = some first →
        (standingAt offset t.points).getLast? = some last → first.startLine = last.startLine := by
  rcases covering?_cases covers with ⟨alone, nears'⟩ | ⟨first, nears', head, last⟩
  · cases nears.symm.trans nears'
    simp [alone]
  · cases nears.symm.trans nears'
    simp [head, last]

section Frame

variable {l : ModuleLoader} {m : LoadedModule} {p : SymbolProvider} {t : SymbolTable}
  {s : Session} {f : StackFrame} {method : MethodToken} {offset : UInt32} {fp : FramePoint}

/-- A frame point is the nearest point in the document of a line that can be shown. -/
theorem SymbolProvider.result_framePoint_eq_ok_iff :
    (p.framePoint method offset).result = .ok fp ↔ ∃ source points nearest,
      (p.usableLine method offset).result = .ok source ∧ p.points method = .ok points ∧
      nearest? points offset = some nearest ∧
      fp = ⟨offset, { nearest with document := source.document }⟩ := by
  simp only [framePoint, askPoints, Traced.result_bind, result_ask]
  cases (p.usableLine method offset).result with
  | error e => simp [Except.bind]
  | ok source =>
    cases p.points method with
    | error e => simp [Except.bind]
    | ok points =>
      simp only [Except.bind]
      cases nears : nearest? points offset with
      | none => simp [nears]
      | some nearest =>
        show Except.ok _ = _ ↔ _
        simp [nears, eq_comm (a := fp)]

theorem SymbolProvider.result_framePoint_of_error {e : SymbolError}
    (h : (p.usableLine method offset).result = .error e) :
    (p.framePoint method offset).result = .error e := by
  simp only [framePoint, Traced.result_bind, h, Except.bind]

theorem SymbolTable.exists_of_framePoint
    (h : (t.provider.framePoint method offset).result = .ok fp) :
    ∃ table covering nearest, t.method? method = some table ∧
      table.covering? offset = some covering ∧ covering.startLine ≠ 0 ∧
      covering.isHidden = false ∧ nearest? table.points offset = some nearest ∧
      fp = ⟨offset, { nearest with document := covering.document }⟩ := by
  obtain ⟨source, points, nearest, usable, listed, nears, rfl⟩ :=
    SymbolProvider.result_framePoint_eq_ok_iff.1 h
  obtain ⟨given, shown⟩ := SymbolProvider.result_usableLine_eq_ok_iff.1 usable
  obtain ⟨table, covering, known, covers, visible, rfl⟩ := sourceLine_eq_ok_iff.1 given
  have same : t.points method = points := Except.ok.inj listed
  rw [← same, points_of_method? known] at nears
  exact ⟨table, covering, nearest, known, covers, (isUsable_iff.1 shown).1, visible, nears, rfl⟩

/-- **The point of a frame is visible and on the source line of its offset** exactly if the first
and the last point at that offset begin on one line. With one point there, or none, that is always
so. -/
theorem sequencePoint_agrees_iff (loaded : LoadedWith l m t.provider s) (inside : f.module = .ok m)
    (hmethod : f.method = .ok method) (hoffset : f.offset = .ok offset)
    (answered : (f.sequencePoint s.registry).result = .ok fp) :
    (fp.point.isHidden = false ∧ fp.point.startLine ≠ 0 ∧
      ∃ source, t.sourceLine method offset = .ok source ∧ fp.point.startLine = source.line) ↔
    ∀ first last, (t.pointsAt method offset).head? = some first →
      (t.pointsAt method offset).getLast? = some last → first.startLine = last.startLine := by
  rw [loaded.answeredBy.sequencePoint inside hmethod hoffset] at answered
  obtain ⟨table, covering, nearest, known, covers, nonzero, visible, nears, rfl⟩ :=
    SymbolTable.exists_of_framePoint answered
  have given : t.sourceLine method offset = .ok ⟨covering.startLine, covering.document⟩ :=
    SymbolTable.sourceLine_eq_ok_iff.2 ⟨table, covering, known, covers, visible, rfl⟩
  unfold SymbolTable.pointsAt
  rw [SymbolTable.points_of_method? known, ← MethodTable.startLine_eq_iff covers nears]
  constructor
  · rintro ⟨-, -, source, given', same⟩
    cases given.symm.trans given'
    exact same
  · intro same
    -- On the line of the covering point, the nearest one is as visible as it is.
    refine ⟨?_, same ▸ nonzero, _, given, same⟩
    show (nearest.startLine == hiddenLine) = false
    rw [same]
    exact visible

end Frame

/-- A frame that stands at an offset of a method, without local variables. -/
def StackFrame.standing (m : LoadedModule) (method : MethodToken) (offset : UInt32) :
    StackFrame where
  method := .ok method
  module := .ok m
  offset := .ok offset
  codeSize := .ok 8
  localValue := fun _ => .ok none

/-- A method that starts with generated code, at the same offset as its first line. Behind it stand
two statements of line 7, at one offset. -/
def SymbolTable.hiddenStart : SymbolTable :=
  SymbolTable.empty.insert ⟨0x06000001⟩ ((MethodTable.empty 8)
    |>.addPoint ⟨0, hiddenLine, hiddenLine, 0, 0, "/src/A.cs"⟩
    |>.addPoint ⟨0, 5, 5, 1, 2, "/src/A.cs"⟩
    |>.addPoint ⟨4, 7, 7, 1, 2, "/src/A.cs"⟩
    |>.addPoint ⟨4, 7, 7, 3, 4, "/src/A.cs"⟩)

/-- Where two points of one line share the offset, a frame gets the first of them, which is on the
line of its offset. -/
theorem sequencePoint_agrees_sharedLine :
    let f := StackFrame.standing .app ⟨0x06000001⟩ 4
    let s := Session.start.run (.ofTable .hiddenStart) [.load .app]
    ∃ fp, (f.sequencePoint s.registry).result = .ok fp ∧
      fp.point.isHidden = false ∧ fp.point.startLine ≠ 0 ∧
      ∃ source, SymbolTable.hiddenStart.sourceLine ⟨0x06000001⟩ 4 = .ok source ∧
        fp.point.startLine = source.line := by
  intro f s
  have answered : (f.sequencePoint s.registry).result =
      .ok ⟨4, ⟨4, 7, 7, 1, 2, "/src/A.cs"⟩⟩ := rfl
  have shared : SymbolTable.hiddenStart.pointsAt ⟨0x06000001⟩ 4 =
      [⟨4, 7, 7, 1, 2, "/src/A.cs"⟩, ⟨4, 7, 7, 3, 4, "/src/A.cs"⟩] := rfl
  refine ⟨_, answered, (sequencePoint_agrees_iff (loadedWith_ofTable .hiddenStart) rfl rfl rfl
    answered).2 ?_⟩
  intro first last atHead atLast
  rw [shared] at atHead atLast
  cases atHead
  cases atLast
  rfl

/-- At the start of the method a frame gets the generated code, though its offset has a line. -/
theorem sequencePoint_hidden :
    let f := StackFrame.standing .app ⟨0x06000001⟩ 0
    let s := Session.start.run (.ofTable .hiddenStart) [.load .app]
    LoadedWith (.ofTable .hiddenStart) .app SymbolTable.hiddenStart.provider s ∧
    (f.sequencePoint s.registry).result =
      .ok ⟨0, ⟨0, hiddenLine, hiddenLine, 0, 0, "/src/A.cs"⟩⟩ ∧
    SymbolTable.hiddenStart.sourceLine ⟨0x06000001⟩ 0 = .ok ⟨5, "/src/A.cs"⟩ :=
  ⟨loadedWith_ofTable .hiddenStart, rfl, rfl⟩

end DebugSymbols

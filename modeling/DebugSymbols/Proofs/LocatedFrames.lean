import DebugSymbols.Proofs.Refusals
import DebugSymbols.Proofs.SourcePositions
import DebugSymbols.Proofs.StepRanges

/-!
# Frames at a located position

A breakpoint is set where a source position is located, and a frame that has got there is asked
where it stands. The two questions meet in the module: a position is located only in a module that
was loaded with a provider (`exists_loadedWith_of_locate`), and that provider answers for the frame
too. When it is a table, the frame is back at the located offset and document, and its step starts
there.
-/

namespace DebugSymbols

/-! ## Providers that are tables -/

/-- The host opens debug data as tables only. -/
def SymbolHost.ServesTables (host : SymbolHost) : Prop :=
  ∀ earlier source p, host.load earlier source = .ok p → ∃ t : SymbolTable, p = t.provider

/-- The modules that have symbols have them as tables. -/
def ModuleRegistry.HasTables (r : ModuleRegistry) : Prop :=
  ∀ e ∈ r.entries, ∀ p, e.symbols = .provider p → ∃ t : SymbolTable, p = t.provider

theorem TableStore.servesTables (store : TableStore) : store.host.ServesTables := by
  intro _ source p h
  change store.load source = .ok p at h
  unfold load at h
  split at h
  · next table _ =>
    cases h
    exact ⟨table, rfl⟩
  · cases h

theorem SymbolAccess.ofAnswer?_eq_provider_iff {p : SymbolProvider}
    {answer : Option (Except SymbolError SymbolProvider)} :
    ofAnswer? answer = .provider p ↔ answer = some (.ok p) := by
  unfold ofAnswer?
  split <;> simp_all

/-- A provider that a request comes to is one that the host has opened. -/
theorem SymbolService.exists_load_of_result {v : SymbolService} {s : Session}
    {source : ImageSource} {p : SymbolProvider} (h : (v.load source s).result = .ok p) :
    ∃ earlier, v.host.load earlier source = .ok p := by
  cases refusal : v.refusal? s with
  | none =>
    obtain ⟨earlier, opened⟩ := exists_result_load refusal source
    exact ⟨earlier, opened.symm.trans h⟩
  | some reason =>
    have refused : (v.load source s).result = .error (.hostUnavailable reason) :=
      result_serve_of_refusal refusal (.load source)
    cases h.symm.trans refused

/-- A module with a provider was loaded with it. -/
theorem Session.loadedWith_of_provider {l : ModuleLoader} {requests : List Request}
    {e : ModuleEntry} {p : SymbolProvider}
    (listed : e ∈ (start.run l requests).registry.entries) (provided : e.symbols = .provider p) :
    LoadedWith l e.module p (start.run l requests) := by
  obtain ⟨before, m, d, loads, rfl⟩ := mem_entries_start_iff.1 listed
  exact ⟨requests, before, d, rfl, loads, SymbolAccess.ofAnswer?_eq_provider_iff.1 provided⟩

/-- What a host of tables has loaded has tables. -/
theorem Session.hasTables_run {l : ModuleLoader} (tables : l.service.host.ServesTables)
    (requests : List Request) : (start.run l requests).registry.HasTables := by
  intro e listed p provided
  obtain ⟨_, _, _, -, -, answered⟩ := loadedWith_of_provider listed provided
  rw [ModuleLoader.hostAnswer?_eq] at answered
  obtain ⟨source, -, opened⟩ := Option.map_eq_some_iff.1 answered
  obtain ⟨earlier, opened⟩ := SymbolService.exists_load_of_result opened
  exact tables earlier source p opened

/-! ## The provider behind a located position -/

section Located

variable {l : ModuleLoader} {requests : List Request} {path : String} {line : UInt32}
  {hit : ModuleLocation}

theorem SymbolProvider.result_locate_eq_ok_iff {p : SymbolProvider} {location : CodeLocation} :
    (p.locate path line).result = .ok location ↔ ∃ found source,
      p.resolve path line = .ok found ∧
      (p.usableLine found.method found.offset).result = .ok source ∧
      location = ⟨found.method, found.offset, source.document⟩ := by
  cases resolved : p.resolve path line with
  | error e =>
    simp [locate, Traced.result_bind, result_askResolve, resolved, Except.bind]
  | ok found =>
    rw [result_locate_of_resolve resolved]
    cases usable : (p.usableLine found.method found.offset).result with
    | error e => simp [Except.map, usable]
    | ok source => simp [Except.map, usable, eq_comm (a := location)]

/-- A position is located in a module that was loaded with a provider, by that provider. -/
theorem exists_loadedWith_of_locate
    (located : ((Session.start.run l requests).registry.locate path line).result = .ok hit) :
    ∃ e ∈ (Session.start.run l requests).registry.entries, ∃ p, e.symbols = .provider p ∧
      LoadedWith l hit.module p (Session.start.run l requests) ∧
      (p.locate path line).result = .ok hit.location := by
  obtain ⟨e, listed, found⟩ :=
    List.exists_of_findSome?_eq_some (ModuleRegistry.locate_eq_ok_iff.1 located)
  obtain ⟨p, provided, answered, inModule⟩ := ModuleEntry.locate?_eq_some_iff.1 found
  refine ⟨e, listed, p, provided, ?_, answered⟩
  rw [inModule]
  exact Session.loadedWith_of_provider listed provided

end Located

/-! ## Where a table locates a position -/

/-- A step from the offset of a point starts there. -/
theorem MethodTable.start_stepFrom_of_mem {t : MethodTable} {p : SequencePoint}
    (hp : p ∈ t.points) (size : UInt32) : (t.stepFrom p.offset size).start = p.offset := by
  obtain ⟨q, covers, atPoint⟩ := exists_covering?_of_mem hp
  rw [start_stepFrom size covers, atPoint]

section Tables

variable {t : SymbolTable} {path : String} {line : UInt32} {location : CodeLocation}

/-- A position is located at a point of a method, on a line that can be shown. -/
theorem SymbolTable.exists_of_locate (h : (t.provider.locate path line).result = .ok location) :
    ∃ table p source, t.method? location.method = some table ∧ p ∈ table.points ∧
      p.offset = location.offset ∧
      (t.provider.usableLine location.method location.offset).result = .ok source ∧
      source.document = location.document := by
  obtain ⟨found, source, resolved, usable, rfl⟩ := SymbolProvider.result_locate_eq_ok_iff.1 h
  obtain ⟨table, p, known, standing, -⟩ := exists_of_resolve resolved
  obtain ⟨hp, stands⟩ := SequencePoint.mem_standingAt_iff.1 standing
  exact ⟨table, p, source, known, hp, stands, usable, rfl⟩

/-- A frame at a located position is on a point there, in the located document. -/
theorem SymbolTable.exists_framePoint_of_locate
    (h : (t.provider.locate path line).result = .ok location) :
    ∃ point, (t.provider.framePoint location.method location.offset).result =
        .ok ⟨location.offset, point⟩ ∧
      point.offset = location.offset ∧ point.document = location.document := by
  obtain ⟨table, p, source, known, hp, stands, usable, document⟩ := exists_of_locate h
  obtain ⟨covering, covers, atPoint⟩ := MethodTable.exists_covering?_of_mem hp
  obtain ⟨q, nears, same⟩ := MethodTable.exists_nearest?_of_covering? covers
  rw [atPoint, stands] at same
  rw [stands] at nears
  have listed : t.provider.points location.method = .ok table.points :=
    congrArg Except.ok (points_of_method? known)
  refine ⟨{ q with document := source.document }, ?_, same, document⟩
  exact SymbolProvider.result_framePoint_eq_ok_iff.2 ⟨source, _, q, usable, listed, nears, rfl⟩

end Tables

/-- **A frame that stops at a located position is mapped back to it.** Where modules have tables, a
frame at the place where a source position is located gets a point at that offset and the document
that was located, and its step starts at the offset and has code in it. -/
theorem stops_where_located (l : ModuleLoader) (requests : List Request)
    (tables : (Session.start.run l requests).registry.HasTables) (path : String) (line : UInt32)
    (hit : ModuleLocation)
    (located : ((Session.start.run l requests).registry.locate path line).result = .ok hit)
    (f : StackFrame) (size : UInt32)
    (stands : f.StandsAt hit.module hit.location.method hit.location.offset size)
    (inside : hit.location.offset < size) :
    let r := (Session.start.run l requests).registry
    (∃ fp, (f.sequencePoint r).result = .ok fp ∧ fp.offset = hit.location.offset ∧
      fp.point.offset = hit.location.offset ∧ fp.point.document = hit.location.document) ∧
    ∃ range, (StackFrame.stepRangeOfThread (.ok (some f)) r).result = .ok range ∧
      range.start = hit.location.offset ∧ range.start < range.finish := by
  intro r
  obtain ⟨e, listed, p, provided, loaded, answered⟩ := exists_loadedWith_of_locate located
  obtain ⟨t, rfl⟩ := tables e listed p provided
  constructor
  · rw [loaded.answeredBy.sequencePoint stands.module stands.method stands.offset]
    obtain ⟨point, mapped, offset, document⟩ := SymbolTable.exists_framePoint_of_locate answered
    exact ⟨_, mapped, rfl, offset, document⟩
  · obtain ⟨table, q, -, known, hq, standsAt, -⟩ := SymbolTable.exists_of_locate answered
    have start := MethodTable.start_stepFrom_of_mem hq size
    rw [standsAt] at start
    have covers := table.covers_stepFrom inside
    rw [loaded.stepRange stands, SymbolTable.result_frameStep known]
    exact ⟨_, rfl, start, UInt32.lt_of_le_of_lt covers.1 covers.2⟩

/-- At the start of a method whose first point is generated code, line 5 of the second is located,
and a frame that stops there is mapped back. -/
theorem stops_where_located_sharedOffset :
    let l := ModuleLoader.ofTable .hiddenStart
    let r := (Session.start.run l [.load .app]).registry
    let f := StackFrame.standing .app ⟨0x06000001⟩ 0
    (r.locate "A.cs" 5).result = .ok ⟨⟨⟨0x06000001⟩, 0, "/src/A.cs"⟩, .app⟩ ∧
    (∃ fp, (f.sequencePoint r).result = .ok fp ∧ fp.offset = 0 ∧ fp.point.offset = 0 ∧
      fp.point.document = "/src/A.cs") ∧
    ∃ range, (StackFrame.stepRangeOfThread (.ok (some f)) r).result = .ok range ∧
      range.start = 0 ∧ range.start < range.finish :=
  ⟨rfl, stops_where_located (.ofTable .hiddenStart) [.load .app]
    (Session.hasTables_run (TableStore.servesTables _) _) "A.cs" 5
    ⟨⟨⟨0x06000001⟩, 0, "/src/A.cs"⟩, .app⟩ rfl _ 8 (StackFrame.standsAt_standing _ _ _) (by decide)⟩

end DebugSymbols

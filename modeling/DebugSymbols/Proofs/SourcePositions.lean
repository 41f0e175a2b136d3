import DebugSymbols.Proofs.LoadedSymbols
import DebugSymbols.Proofs.Registrations

/-!
# Source positions among the modules

A source position is looked up in one module after the other, and the oldest module that has it
gives the answer. `ModuleRegistry.result_locate` says so in terms of the entries alone: the first
hit among them if there is one, and else the first reason why the host was not available. Since
loads put their entries behind the others, an answer that has been given stays (`locate_stable`).
-/

namespace DebugSymbols

/-- What a module has at a source position. -/
def ModuleEntry.locate? (e : ModuleEntry) (path : String) (line : UInt32) :
    Option ModuleLocation :=
  e.symbols.provider?.bind fun p =>
    (p.locate path line).result.toOption.map fun location => ⟨location, e.module⟩

/-- Why the host was not available for the oldest module of which that is so. -/
def ModuleRegistry.hostReason? (r : ModuleRegistry) : Option String :=
  r.entries.findSome? fun e => e.symbols.hostReason?

/-- What it means that no module has a source position. -/
def ModuleRegistry.unlocated (r : ModuleRegistry) (path : String) (line : UInt32) : SymbolError :=
  match r.hostReason? with
  | some reason => .hostUnavailable reason
  | none => .notFound (.codeAnywhere path line)

section Entries

variable {e : ModuleEntry} {path : String} {line : UInt32} {hit : ModuleLocation}

theorem ModuleEntry.locate?_of_provider {p : SymbolProvider} (h : e.symbols = .provider p) :
    e.locate? path line =
      (p.locate path line).result.toOption.map fun location => ⟨location, e.module⟩ := by
  rw [locate?, h]
  rfl

theorem ModuleEntry.locate?_of_unprovided (h : e.symbols.provider? = none) :
    e.locate? path line = none := by
  rw [locate?, h]
  rfl

/-- A module has what its provider locates. -/
theorem ModuleEntry.locate?_eq_some_iff : e.locate? path line = some hit ↔
    ∃ p, e.symbols = .provider p ∧ (p.locate path line).result = .ok hit.location ∧
      hit.module = e.module := by
  obtain ⟨location, module⟩ := hit
  unfold locate?
  cases e.symbols with
  | absent => simp [SymbolAccess.provider?]
  | hostUnavailable reason => simp [SymbolAccess.provider?]
  | provider p =>
    cases answered : (p.locate path line).result with
    | error failure => simp [SymbolAccess.provider?, answered, Except.toOption]
    | ok found =>
      simp [SymbolAccess.provider?, answered, Except.toOption, eq_comm (a := e.module)]

theorem ModuleEntry.module_of_locate? (h : e.locate? path line = some hit) :
    hit.module = e.module := by
  unfold locate? at h
  obtain ⟨p, -, h⟩ := Option.bind_eq_some_iff.1 h
  obtain ⟨location, -, rfl⟩ := Option.map_eq_some_iff.1 h
  rfl

end Entries

namespace ModuleRegistry

variable {r : ModuleRegistry} {path : String} {line : UInt32} {hit : ModuleLocation}

/-- The search goes by the first hit, and without a hit by the first reason, of which `reason` is
one that was met before. -/
theorem result_locateIn (reason : Option String) (entries : List ModuleEntry) :
    (locateIn path line reason entries).result =
      match entries.findSome? fun e => e.locate? path line with
      | some hit => .ok hit
      | none =>
        match reason.or (entries.findSome? fun e => e.symbols.hostReason?) with
        | some why => .error (.hostUnavailable why)
        | none => .error (.notFound (.codeAnywhere path line)) := by
  induction entries generalizing reason with
  | nil => cases reason <;> rfl
  | cons e rest ih =>
    unfold locateIn
    cases symbols : e.symbols with
    | absent =>
      have skipped : e.locate? path line = none :=
        ModuleEntry.locate?_of_unprovided (by rw [symbols]; rfl)
      simp only [List.findSome?_cons, skipped, symbols, SymbolAccess.hostReason?]
      exact ih reason
    | hostUnavailable why =>
      have skipped : e.locate? path line = none :=
        ModuleEntry.locate?_of_unprovided (by rw [symbols]; rfl)
      simp only [List.findSome?_cons, skipped, symbols, SymbolAccess.hostReason?]
      rw [ih, Option.or_assoc]
      rfl
    | provider p =>
      have asked : e.locate? path line = _ := ModuleEntry.locate?_of_provider symbols
      simp only [List.findSome?_cons, symbols, SymbolAccess.hostReason?, Traced.result_bind,
        Traced.result_attempt, Except.bind]
      cases found : (p.locate path line).result with
      | ok location =>
        rw [found] at asked
        rw [asked]
        rfl
      | error failure =>
        rw [found] at asked
        rw [asked]
        exact ih reason

/-- A source position is located at the first hit among the modules. -/
theorem result_locate (r : ModuleRegistry) (path : String) (line : UInt32) :
    (r.locate path line).result =
      match r.entries.findSome? fun e => e.locate? path line with
      | some hit => .ok hit
      | none => .error (r.unlocated path line) := by
  unfold locate unlocated hostReason?
  rw [result_locateIn, Option.none_or]
  cases r.entries.findSome? fun e => e.locate? path line with
  | some hit => rfl
  | none => cases r.entries.findSome? fun e => e.symbols.hostReason? <;> rfl

theorem locate_eq_ok_iff : (r.locate path line).result = .ok hit ↔
    (r.entries.findSome? fun e => e.locate? path line) = some hit := by
  rw [result_locate]
  cases r.entries.findSome? fun e => e.locate? path line <;> simp

theorem exists_locate_iff : (∃ hit, (r.locate path line).result = .ok hit) ↔
    (r.entries.findSome? fun e => e.locate? path line).isSome = true := by
  simp only [locate_eq_ok_iff, Option.isSome_iff_exists]

theorem locate_eq_error_iff {failure : SymbolError} :
    (r.locate path line).result = .error failure ↔
      (∀ e ∈ r.entries, e.locate? path line = none) ∧ failure = r.unlocated path line := by
  rw [result_locate, ← List.findSome?_eq_none_iff]
  cases r.entries.findSome? fun e => e.locate? path line <;> simp [eq_comm]

/-- A reason that some module has and no other differs from is the one that is given. -/
theorem hostReason?_eq_some {why : String} {e : ModuleEntry} (listed : e ∈ r.entries)
    (given : e.symbols.hostReason? = some why)
    (only : ∀ e' ∈ r.entries, ∀ other, e'.symbols.hostReason? = some other → other = why) :
    r.hostReason? = some why := by
  cases found : r.hostReason? with
  | none => exact absurd (List.findSome?_eq_none_iff.1 found e listed) (by simp [given])
  | some other =>
    obtain ⟨first, listed, given⟩ := List.exists_of_findSome?_eq_some found
    rw [only first listed other given]

end ModuleRegistry

/-! ## Positions that have been located -/

/-- **A located source position stays where it is.** Whatever is loaded after it, in vain or not,
the position is located in the same module, at the same place and in the same document, until the
next cleanup. A position that could not be located, and then can be, is in a module that was loaded
in between. -/
theorem locate_stable (l : ModuleLoader) (before after : List Request) (kept : .cleanup ∉ after)
    (path : String) (line : UInt32) :
    let s := Session.start.run l before
    let s' := Session.start.run l (before ++ after)
    (∀ hit, (s.registry.locate path line).result = .ok hit →
      (s'.registry.locate path line).result = .ok hit) ∧
    ∀ e hit, (s.registry.locate path line).result = .error e →
      (s'.registry.locate path line).result = .ok hit →
      ∃ first rest d, after = first ++ .load hit.module :: rest ∧
        (l.load hit.module (Session.start.run l (before ++ first))).result = .ok d := by
  intro s s'
  have continued : s' = s.run l after := Session.run_append before after
  refine ⟨fun hit located => ?_, fun e hit missing located => ?_⟩
  · obtain ⟨new, entries⟩ : s.registry.entries <+: s'.registry.entries :=
      continued ▸ Session.entries_prefix_run kept
    rw [ModuleRegistry.locate_eq_ok_iff] at located ⊢
    rw [← entries, List.findSome?_append, located]
    rfl
  · obtain ⟨entry, listed, found⟩ :=
      List.exists_of_findSome?_eq_some (ModuleRegistry.locate_eq_ok_iff.1 located)
    rw [continued, Session.mem_entries_run_iff] at listed
    rcases listed with ⟨old, -⟩ | ⟨first, m, rest, same, -, made⟩
    · -- The old entries do not have the position.
      have nowhere := (ModuleRegistry.locate_eq_error_iff.1 missing).1 entry old
      cases nowhere.symm.trans found
    · obtain ⟨d, loaded, rfl⟩ := ModuleLoader.enrolled?_eq_some_iff.1 made
      have inModule : hit.module = m := ModuleEntry.module_of_locate? found
      refine ⟨first, rest, d, inModule ▸ same, ?_⟩
      rw [inModule, Session.run_append]
      exact loaded

/-- A method of one point. -/
def SymbolTable.single (method : MethodToken) (p : SequencePoint) : SymbolTable :=
  SymbolTable.empty.insert method ((MethodTable.empty 8).addPoint p)

/-- A position stays in the module that had it first, though another one has it too and the first is
loaded once more in vain. -/
theorem locate_stable_twoModules :
    let t := SymbolTable.single ⟨0x06000001⟩ ⟨0, 5, 5, 1, 2, "/src/A.cs"⟩
    let l := ModuleLoader.ofTables
      ((TableStore.addFile ⟨[], []⟩ "/app/App.dll" t).addFile "/app/Lib.dll" t)
    let app := LoadedModule.ofFile "/app/App.dll" ⟨0x20000⟩ 0x2000
    let lib := LoadedModule.ofFile "/app/Lib.dll" ⟨0x10000⟩ 0x1000
    .cleanup ∉ [Request.load lib, .load app] ∧
    ((Session.start.run l [.load app, .load lib, .load app]).registry.locate "A.cs" 4).result =
      .ok ⟨⟨⟨0x06000001⟩, 0, "/src/A.cs"⟩, app⟩ :=
  ⟨by simp, (locate_stable _ [.load _] [.load _, .load _] (by simp) "A.cs" 4).1 _ rfl⟩

end DebugSymbols

import DebugSymbols.Proofs.Filling
import DebugSymbols.Proofs.LoadedSymbols
import DebugSymbols.Proofs.Registrations

/-!
# Modules by name

A load returns the name of the module, and a module can be looked up by its name. The registry does
not keep the name, it makes it anew from what the module answers; that is still the name that was
returned, so the module that is found is the one that was loaded first under it
(`moduleNamed_earliest`).
-/

namespace DebugSymbols

namespace Session

/-- How the loads of a run fill the registry. -/
def loads (l : ModuleLoader) : Filling Request ModuleEntry where
  items requests := (start.run l requests).registry.entries
  empties request := request = .cleanup
  added? before request := request.enrolled? l (start.run l before)
  items_nil := rfl
  items_of_empties requests cleaned := by
    rw [run_append, cleaned]
    rfl
  items_of_not_empties requests kept := by
    rw [run_append]
    exact entries_after kept

variable {l : ModuleLoader} {requests before : List Request} {e : ModuleEntry}

theorem stands_loads_iff : (loads l).Stands requests before e ↔
    ∃ m d, Loads l requests before m d ∧
      e = ⟨d.baseAddress, d.size, .ofAnswer? (l.hostAnswer? m (start.run l before)), m⟩ := by
  constructor
  · rintro ⟨request, after, split, kept, added⟩
    obtain ⟨m, rfl, made⟩ := Request.enrolled?_eq_some_iff.1 added
    obtain ⟨d, loaded, same⟩ := ModuleLoader.enrolled?_eq_some_iff.1 made
    refine ⟨m, d, ⟨after, split, fun cleaned => ?_, loaded⟩, same⟩
    exact kept _ (List.mem_cons_of_mem _ cleaned) rfl
  · rintro ⟨m, d, ⟨after, split, kept, loaded⟩, same⟩
    refine ⟨.load m, after, split, List.forall_mem_cons.2 ⟨nofun, ?_⟩,
      ModuleLoader.enrolled?_eq_some_iff.2 ⟨d, loaded, same⟩⟩
    rintro _ listed rfl
    exact kept listed

end Session

/-! ## The name of a module -/

section Name

variable {l : ModuleLoader} {m : LoadedModule} {s : Session} {d : ModuleDescriptor} {name : String}

theorem ModuleLoader.exists_path_of_load (loaded : (l.load m s).result = .ok d) :
    ∃ path, m.path = .ok path ∧ d.name = FilePath.fileName path := by
  obtain ⟨path, found, -, described, -⟩ := describe_of_loadChanging loaded
  exact ⟨path, found, (describe_eq_ok_iff.1 described).2.2.2.1⟩

/-- The name that is made anew is the one that was returned. -/
theorem ModuleEntry.isNamed_of_load (loaded : (l.load m s).result = .ok d) (address : Address)
    (size : UInt32) (symbols : SymbolAccess) :
    (mk address size symbols m).isNamed name = true ↔ d.name = name := by
  obtain ⟨path, found, named⟩ := ModuleLoader.exists_path_of_load loaded
  unfold isNamed
  rw [found, named]
  exact beq_iff_eq

/-- A name is no path. -/
theorem ModuleLoader.isSeparator_of_mem_name (loaded : (l.load m s).result = .ok d) {c : Char}
    (inName : c ∈ d.name.toList) : FilePath.isSeparator c = false := by
  obtain ⟨path, -, named⟩ := exists_path_of_load loaded
  rw [named, FilePath.fileName, String.toList_ofList] at inName
  exact (FilePath.nameOf_eq_iff.1 rfl).1 c inName

end Name

namespace ModuleRegistry

variable {r : ModuleRegistry} {m : LoadedModule} {name : String}

theorem moduleNamed_eq_ok_iff : r.moduleNamed name = .ok m ↔
    ∃ e, r.entries.find? (fun e => e.isNamed name) = some e ∧ e.module = m := by
  unfold moduleNamed
  cases r.entries.find? fun e => e.isNamed name <;> simp

theorem moduleNamed_eq_error_iff {failure : SymbolError} : r.moduleNamed name = .error failure ↔
    failure = .notFound (.moduleNamed name) ∧ ∀ e ∈ r.entries, ¬ e.isNamed name = true := by
  rw [← List.find?_eq_none]
  unfold moduleNamed
  cases r.entries.find? fun e => e.isNamed name <;> simp [eq_comm]

end ModuleRegistry

/-! ## The first module with a name -/

namespace Session

variable {l : ModuleLoader} {requests before : List Request} {m : LoadedModule}
  {d : ModuleDescriptor} {e : ModuleEntry} {name : String}

theorem exists_loads_of_stands (h : (loads l).Stands requests before e) :
    ∃ d, Loads l requests before e.module d ∧
      ∀ name, e.isNamed name = true ↔ d.name = name := by
  obtain ⟨m, d, loaded, rfl⟩ := stands_loads_iff.1 h
  exact ⟨d, loaded, fun _ => ModuleEntry.isNamed_of_load loaded.result _ _ _⟩

theorem Loads.exists_stands (h : Loads l requests before m d) :
    ∃ e, (loads l).Stands requests before e ∧ e.module = m ∧
      ∀ name, e.isNamed name = true ↔ d.name = name :=
  ⟨_, stands_loads_iff.2 ⟨m, d, h, rfl⟩, rfl, fun _ =>
    ModuleEntry.isNamed_of_load h.result _ _ _⟩

/-- The entry that was made earliest under a name is the one of the first load that returned it. -/
theorem isEarliest_loads_iff :
    (∃ e, (loads l).IsEarliest requests (fun e => e.isNamed name = true) e ∧ e.module = m) ↔
      ∃ before d, Loads l requests before m d ∧ d.name = name ∧
        ∀ before' m' d', Loads l requests before' m' d' → d'.name = name →
          before.length ≤ before'.length := by
  constructor
  · rintro ⟨e, ⟨before, stands, isNamed, first⟩, rfl⟩
    obtain ⟨d, loaded, named⟩ := exists_loads_of_stands stands
    refine ⟨before, d, loaded, (named name).1 isNamed, fun before' m' d' loaded' same => ?_⟩
    obtain ⟨e', stands', -, named'⟩ := loaded'.exists_stands
    exact first before' e' stands' ((named' name).2 same)
  · rintro ⟨before, d, loaded, same, first⟩
    obtain ⟨e, stands, inEntry, named⟩ := loaded.exists_stands
    refine ⟨e, ⟨before, stands, (named name).2 same, fun before' e' stands' isNamed => ?_⟩, inEntry⟩
    obtain ⟨d', loaded', named'⟩ := exists_loads_of_stands stands'
    exact first before' _ d' loaded' ((named' name).1 isNamed)

/-- No entry has the name exactly if no load returned it. -/
theorem forall_not_isNamed_iff :
    (∀ e ∈ (start.run l requests).registry.entries, ¬ e.isNamed name = true) ↔
      ∀ before m d, Loads l requests before m d → d.name ≠ name := by
  constructor
  · intro unnamed before m d loaded same
    obtain ⟨e, stands, -, named⟩ := loaded.exists_stands
    exact unnamed e ((loads l).mem_items_iff.2 ⟨before, stands⟩) ((named name).2 same)
  · intro unreturned e listed isNamed
    obtain ⟨before, stands⟩ := (loads l).mem_items_iff.1 listed
    obtain ⟨d, loaded, named⟩ := exists_loads_of_stands stands
    exact unreturned before _ d loaded ((named name).1 isNamed)

end Session

/-- **A name finds the module that was loaded first under it** since the last cleanup, and nothing
if no load since then returned it. So what a load returns as the name of the module finds a module,
and what has a separator in it, being a path, finds none. -/
theorem moduleNamed_earliest (l : ModuleLoader) (requests : List Request) (name : String) :
    let r := (Session.start.run l requests).registry
    (∀ m, r.moduleNamed name = .ok m ↔ ∃ before d,
      Session.Loads l requests before m d ∧ d.name = name ∧
      ∀ before' m' d', Session.Loads l requests before' m' d' → d'.name = name →
        before.length ≤ before'.length) ∧
    (∀ failure, r.moduleNamed name = .error failure ↔ failure = .notFound (.moduleNamed name) ∧
      ∀ before m d, Session.Loads l requests before m d → d.name ≠ name) ∧
    (∀ before m d, Session.Loads l requests before m d → ∃ m', r.moduleNamed d.name = .ok m') ∧
    ((∃ c ∈ name.toList, c = '/' ∨ c = '\\') →
      r.moduleNamed name = .error (.notFound (.moduleNamed name))) := by
  intro r
  have missing (name : String) (failure : SymbolError) : r.moduleNamed name = .error failure ↔
      failure = .notFound (.moduleNamed name) ∧
        ∀ before m d, Session.Loads l requests before m d → d.name ≠ name := by
    rw [ModuleRegistry.moduleNamed_eq_error_iff, Session.forall_not_isNamed_iff]
  refine ⟨fun m => ?_, missing name, fun before m d loaded => ?_, ?_⟩
  · rw [ModuleRegistry.moduleNamed_eq_ok_iff, ← Session.isEarliest_loads_iff]
    simp only [← Filling.find?_eq_some_iff]
    rfl
  · cases found : r.moduleNamed d.name with
    | ok m' => exact ⟨m', rfl⟩
    | error failure => exact absurd rfl (((missing d.name failure).1 found).2 before m d loaded)
  · rintro ⟨c, inName, separates⟩
    refine (missing name _).2 ⟨rfl, fun before m d loaded same => ?_⟩
    subst same
    have plain := ModuleLoader.isSeparator_of_mem_name loaded.result inName
    rw [FilePath.isSeparator_eq_true_iff.2 separates] at plain
    cases plain

/-- Of two modules with one name it is the first, whatever their directories and addresses. -/
example (service : SymbolService) :
    let l := ModuleLoader.new service fun _ => false
    let app : LoadedModule := .ofFile "/app/App.dll" ⟨0x20000⟩ 0x2000
    let old : LoadedModule := .ofFile "old\\App.dll" ⟨0x10000⟩ 0x1000
    (Session.start.run l [.load app, .load old]).registry.moduleNamed "App.dll" = .ok app := rfl

end DebugSymbols

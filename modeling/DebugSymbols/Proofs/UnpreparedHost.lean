import DebugSymbols.Proofs.ImageRequests
import DebugSymbols.Proofs.Refusals
import DebugSymbols.Proofs.SourcePositions

/-!
# A host that cannot be prepared

When preparing a guarded host fails, no module gets symbols. The modules for which the host was
wanted keep the reason, and it is what every search for a source position fails with as long as one
of them is registered (`locate_of_unprepared`).
-/

namespace DebugSymbols

namespace ModuleLoader

variable {l : ModuleLoader} {m : LoadedModule} {s : Session} {d : ModuleDescriptor}

/-- Symbols are wanted for the module: the policy accepts it, and it has an image. -/
def Wants (l : ModuleLoader) (m : LoadedModule) : Prop :=
  ∃ path, m.path = .ok path ∧ l.policy path = true ∧ m.isDynamic = .ok false

/-- Of a module that was loaded, the host was asked for the image exactly if symbols were wanted. -/
theorem isSome_image?_iff (h : (l.load m s).result = .ok d) :
    (l.image? m).isSome = true ↔ l.Wants m := by
  obtain ⟨path, named, read, -⟩ := describe_of_loadChanging h
  rw [isSome_image?_iff_read]
  constructor
  · rintro ⟨⟨path, named, wanted⟩, hasImage, -⟩
    exact ⟨path, named, wanted, hasImage⟩
  · rintro ⟨path', named', wanted, hasImage⟩
    cases named.symm.trans named'
    obtain ⟨dynamic, asked, place⟩ := read wanted
    cases hasImage.symm.trans asked
    exact ⟨⟨path, named, wanted⟩, hasImage, place rfl⟩

end ModuleLoader

section Unprepared

variable {l : ModuleLoader} {m : LoadedModule} {s : Session} {d : ModuleDescriptor}
  {reason : String} {requests before : List Request}

/-- A host that refuses answers every load with the reason. -/
theorem ModuleLoader.hostAnswer?_of_refusal (refuses : l.service.refusal? s = some reason)
    (m : LoadedModule) :
    l.hostAnswer? m s = (l.image? m).map fun _ => .error (.hostUnavailable reason) := by
  rw [hostAnswer?_eq]
  cases l.image? m with
  | none => rfl
  | some source =>
    exact congrArg some (SymbolService.result_serve_of_refusal refuses (.load source))

/-- What is left of a module for which the host was wanted in vain. -/
theorem symbols_of_refusal (refuses : l.service.refusal? s = some reason)
    (loaded : (l.load m s).result = .ok d) :
    (l.Wants m → SymbolAccess.ofAnswer? (l.hostAnswer? m s) = .hostUnavailable reason) ∧
      (¬ l.Wants m → SymbolAccess.ofAnswer? (l.hostAnswer? m s) = .absent) := by
  rw [ModuleLoader.hostAnswer?_of_refusal refuses m, ← ModuleLoader.isSome_image?_iff loaded]
  cases l.image? m with
  | none => simp [SymbolAccess.ofAnswer?]
  | some source => simp [SymbolAccess.ofAnswer?]

/-- Each module that is registered has no symbols; if the host was wanted for it, it keeps the
reason. -/
theorem symbols_of_unprepared (refuses : l.service.refusal? .start = some reason)
    {entry : ModuleEntry} (listed : entry ∈ (Session.start.run l requests).registry.entries) :
    entry.symbols = .absent ∨ entry.symbols = .hostUnavailable reason ∧
      ∃ before m d, Session.Loads l requests before m d ∧ l.Wants m := by
  obtain ⟨before, m, d, loads, rfl⟩ := Session.mem_entries_start_iff.1 listed
  have refuses' := (SymbolService.refusal?_run l _ before).trans refuses
  have symbols := symbols_of_refusal refuses' loads.result
  by_cases wanted : l.Wants m
  · exact Or.inr ⟨symbols.1 wanted, before, m, d, loads, wanted⟩
  · exact Or.inl (symbols.2 wanted)

/-- A module for which the host was wanted is registered with the reason. -/
theorem exists_entry_of_unprepared (refuses : l.service.refusal? .start = some reason)
    (loads : Session.Loads l requests before m d) (wanted : l.Wants m) :
    ∃ entry ∈ (Session.start.run l requests).registry.entries,
      entry.symbols = .hostUnavailable reason := by
  have refuses' := (SymbolService.refusal?_run l _ before).trans refuses
  exact ⟨_, Session.mem_entries_start_iff.2 ⟨before, m, d, loads, rfl⟩,
    (symbols_of_refusal refuses' loads.result).1 wanted⟩

end Unprepared

/-- **While the host cannot be prepared, that is why positions are not located.** Whatever is asked
of a session whose guarded host cannot be prepared, no load reports symbols, and no source position
is located: as long as a module is registered for which symbols were wanted, the search fails with
the message of the failed preparation, and otherwise because no module has the position. -/
theorem locate_of_unprepared (l : ModuleLoader) (guarded : l.service.isGuarded = true)
    (e : SymbolError) (fails : l.service.host.prepare [] = .error e) (requests : List Request) :
    let s := Session.start.run l requests
    (∀ m d, (l.load m s).result = .ok d → d.status ≠ .loaded) ∧
    ∀ path line,
      ((∃ before m d, Session.Loads l requests before m d ∧ l.Wants m) →
        (s.registry.locate path line).result = .error (.hostUnavailable e.message)) ∧
      ((¬ ∃ before m d, Session.Loads l requests before m d ∧ l.Wants m) →
        (s.registry.locate path line).result = .error (.notFound (.codeAnywhere path line))) := by
  intro s
  have refuses : l.service.refusal? .start = some e.message :=
    SymbolService.refusal?_of_untried_error guarded rfl fails
  refine ⟨fun m d loaded status => ?_, fun path line => ?_⟩
  · obtain ⟨p, answered⟩ := (ModuleLoader.status_eq_loaded_iff loaded).1 status
    have refused := (SymbolService.refusal?_run l _ requests).trans refuses
    rw [ModuleLoader.hostAnswer?_of_refusal refused m] at answered
    cases image : l.image? m <;> simp [image] at answered
  · have symbols {entry : ModuleEntry} (listed : entry ∈ s.registry.entries) :=
      symbols_of_unprepared refuses listed
    have nowhere : ∀ entry ∈ s.registry.entries, entry.locate? path line = none := by
      intro entry listed
      refine ModuleEntry.locate?_of_unprovided ?_
      rcases symbols listed with absent | ⟨unavailable, -⟩
      · rw [absent]
        rfl
      · rw [unavailable]
        rfl
    refine ⟨?_, fun unwanted => ?_⟩
    · rintro ⟨before, m, d, loads, wanted⟩
      obtain ⟨entry, listed, unavailable⟩ := exists_entry_of_unprepared refuses loads wanted
      have reason : s.registry.hostReason? = some e.message := by
        refine ModuleRegistry.hostReason?_eq_some listed (by rw [unavailable]; rfl) ?_
        intro entry' listed' other given
        rcases symbols listed' with absent | ⟨unavailable', -⟩
        · rw [absent] at given
          cases given
        · rw [unavailable'] at given
          exact (Option.some.inj given).symm
      refine ModuleRegistry.locate_eq_error_iff.2 ⟨nowhere, ?_⟩
      rw [ModuleRegistry.unlocated, reason]
    · have noReason : s.registry.hostReason? = none := by
        refine List.findSome?_eq_none_iff.2 fun entry listed => ?_
        rcases symbols listed with absent | ⟨-, wanted⟩
        · rw [absent]
          rfl
        · exact absurd wanted unwanted
      refine ModuleRegistry.locate_eq_error_iff.2 ⟨nowhere, ?_⟩
      rw [ModuleRegistry.unlocated, noReason]

/-- A host that cannot be prepared and could not do anything. -/
def SymbolHost.broken (e : SymbolError) : SymbolHost where
  prepare := fun _ => .error e
  load := fun _ _ => .error .outOfMemory

/-- After a cleanup the reason comes back with the next module for which the host is wanted, behind
one that was made at run time. -/
theorem locate_of_unprepared_afterCleanup :
    let l := ModuleLoader.new (SymbolHost.broken (.provider (.reported "no library"))).guarded .all
    let app := LoadedModule.ofFile "/app/App.dll" ⟨0x10000⟩ 0x2000
    let made := { LoadedModule.ofFile "made" ⟨0x20000⟩ 0x1000 with isDynamic := .ok true }
    l.service.isGuarded = true ∧
    l.service.host.prepare [] = .error (.provider (.reported "no library")) ∧
    ((Session.start.run l [.load app, .cleanup, .load made, .load app]).registry.locate
      "A.cs" 1).result = .error (.hostUnavailable "Symbol provider error: no library") := by
  intro l app made
  have loads : Session.Loads l [.load app, .cleanup, .load made, .load app]
      [.load app, .cleanup, .load made] app _ := ⟨[], rfl, List.not_mem_nil, rfl⟩
  exact ⟨rfl, rfl, ((locate_of_unprepared l rfl _ rfl _).2 "A.cs" 1).1
    ⟨_, app, _, loads, "/app/App.dll", rfl, rfl, rfl⟩⟩

end DebugSymbols

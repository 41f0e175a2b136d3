import DebugSymbols.Proofs.HostUse

/-!
# What a run has registered

A load puts the entry that it makes (`ModuleLoader.enrolled?`) behind the others, or changes
nothing. So the entries after a run are those that loads of the run have made since the last
cleanup, and without a cleanup those from before the run too (`Session.mem_entries_run_iff`).
-/

namespace DebugSymbols

/-- The entry that a load makes, if it succeeds. -/
def ModuleLoader.enrolled? (l : ModuleLoader) (m : LoadedModule) (s : Session) :
    Option ModuleEntry :=
  (l.load m s).result.toOption.map fun d =>
    ⟨d.baseAddress, d.size, .ofAnswer? (l.hostAnswer? m s), m⟩

/-- The entry that a request makes. -/
def Request.enrolled? (l : ModuleLoader) (s : Session) : Request → Option ModuleEntry
  | load m => l.enrolled? m s
  | _ => none

section

variable {l : ModuleLoader} {s : Session} {m : LoadedModule} {e : ModuleEntry}

theorem ModuleLoader.enrolled?_eq_some_iff : l.enrolled? m s = some e ↔
    ∃ d, (l.load m s).result = .ok d ∧
      e = ⟨d.baseAddress, d.size, .ofAnswer? (l.hostAnswer? m s), m⟩ := by
  unfold enrolled?
  cases (l.load m s).result <;> simp [Except.toOption, eq_comm (a := e)]

theorem Request.enrolled?_eq_some_iff {request : Request} : request.enrolled? l s = some e ↔
    ∃ m, request = .load m ∧ l.enrolled? m s = some e := by
  cases request <;> simp [enrolled?]

namespace Session

theorem entries_after_load (l : ModuleLoader) (s : Session) (m : LoadedModule) :
    (s.after l (.load m)).registry.entries = s.registry.entries ++ (l.enrolled? m s).toList := by
  cases result : (l.load m s).result with
  | error failure =>
    have kept : (s.after l (.load m)).registry = s.registry :=
      ModuleLoader.registry_loadChanging_of_error result
    rw [kept, ModuleLoader.enrolled?, result]
    exact (List.append_nil _).symm
  | ok d =>
    obtain ⟨free, appended⟩ := ModuleLoader.registry_loadChanging_of_ok result
    rw [ModuleLoader.enrolled?, result]
    exact congrArg ModuleRegistry.entries appended

/-- A request other than a cleanup puts what it enrolls behind the entries there are. -/
theorem entries_after {request : Request} (h : request ≠ .cleanup) :
    (s.after l request).registry.entries =
      s.registry.entries ++ (request.enrolled? l s).toList := by
  by_cases isLoad : ∃ m, request = .load m
  · obtain ⟨m, rfl⟩ := isLoad
    exact entries_after_load l s m
  · rw [registry_after isLoad h]
    cases enrolled : request.enrolled? l s with
    | none => exact (List.append_nil _).symm
    | some e =>
      obtain ⟨m, isThis, -⟩ := Request.enrolled?_eq_some_iff.1 enrolled
      exact absurd ⟨m, isThis⟩ isLoad

theorem mem_entries_after_iff {request : Request} :
    e ∈ (s.after l request).registry.entries ↔
      (e ∈ s.registry.entries ∧ request ≠ .cleanup) ∨
        ∃ m, request = .load m ∧ l.enrolled? m s = some e := by
  rw [← Request.enrolled?_eq_some_iff]
  by_cases cleaned : request = .cleanup
  · subst cleaned
    show e ∈ [] ↔ _
    simp [Request.enrolled?]
  · rw [entries_after cleaned]
    simp [cleaned]

/-- The entries after a run are those that its loads have made since the last cleanup and, if there
was none, those from before the run. -/
theorem mem_entries_run_iff {requests : List Request} :
    e ∈ (s.run l requests).registry.entries ↔
      (e ∈ s.registry.entries ∧ .cleanup ∉ requests) ∨
        ∃ before m after, requests = before ++ .load m :: after ∧ .cleanup ∉ after ∧
          l.enrolled? m (s.run l before) = some e := by
  induction requests generalizing s with
  | nil => simp [run]
  | cons request rest ih =>
    show e ∈ ((s.after l request).run l rest).registry.entries ↔ _
    rw [ih, mem_entries_after_iff]
    constructor
    · rintro (⟨⟨old, notCleanup⟩ | ⟨m, rfl, made⟩, kept⟩ | ⟨before, m, after, rfl, kept, made⟩)
      · exact Or.inl ⟨old, List.not_mem_cons_of_ne_of_not_mem (Ne.symm notCleanup) kept⟩
      · exact Or.inr ⟨[], m, rest, rfl, kept, made⟩
      · exact Or.inr ⟨request :: before, m, after, rfl, kept, made⟩
    · rintro (⟨old, kept⟩ | ⟨before, m, after, same, kept, made⟩)
      · rw [List.mem_cons, not_or] at kept
        exact Or.inl ⟨Or.inl ⟨old, Ne.symm kept.1⟩, kept.2⟩
      · cases before with
        | nil =>
          obtain ⟨rfl, rfl⟩ := List.cons.inj same
          exact Or.inl ⟨Or.inr ⟨m, rfl, made⟩, kept⟩
        | cons first before =>
          obtain ⟨rfl, rfl⟩ := List.cons.inj same
          exact Or.inr ⟨before, m, after, rfl, kept, made⟩

/-- A run from the start has the entries of what it has loaded. -/
theorem mem_entries_start_iff {requests : List Request} :
    e ∈ (start.run l requests).registry.entries ↔ ∃ before m d, Loads l requests before m d ∧
      e = ⟨d.baseAddress, d.size, .ofAnswer? (l.hostAnswer? m (start.run l before)), m⟩ := by
  rw [mem_entries_run_iff, or_iff_right fun old => List.not_mem_nil old.1]
  constructor
  · rintro ⟨before, m, after, split, kept, made⟩
    obtain ⟨d, loaded, same⟩ := ModuleLoader.enrolled?_eq_some_iff.1 made
    exact ⟨before, m, d, ⟨after, split, kept, loaded⟩, same⟩
  · rintro ⟨before, m, d, ⟨after, split, kept, loaded⟩, same⟩
    exact ⟨before, m, after, split, kept, ModuleLoader.enrolled?_eq_some_iff.2 ⟨d, loaded, same⟩⟩

end Session

end

end DebugSymbols

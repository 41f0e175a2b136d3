import DebugSymbols.Proofs.Filling
import DebugSymbols.Proofs.RegistryCalls
import DebugSymbols.Proofs.SourcePositions

/-!
# The earliest registration

A registry is filled by the registrations that it accepts, and emptied when it is cleared
(`RegistryCall.registrations`). So what its oldest entry decides is decided by the registration that
was accepted earliest since then. That is how a source position is located among the modules.
-/

namespace DebugSymbols

namespace RegistryCall

theorem accepted_concat (calls : List RegistryCall) (call : RegistryCall) :
    accepted (calls ++ [call]) = enlist (accepted calls) call :=
  List.foldl_concat _ _ _ _

/-- A registration adds its entry if it is accepted. -/
theorem accepted_concat_register (calls : List RegistryCall) (e : ModuleEntry) :
    accepted (calls ++ [register e]) =
      accepted calls ++ ((reply calls (register e)).toOption.map fun _ => e).toList := by
  rw [accepted_concat, reply_register, enlist]
  split
  · exact (List.append_nil _).symm
  · rfl

/-- How registrations fill the registry. -/
def registrations : Filling RegistryCall ModuleEntry where
  items := accepted
  empties call := call = .clear
  added? earlier
    | .register e => (reply earlier (.register e)).toOption.map fun _ => e
    | _ => none
  items_nil := rfl
  items_of_empties calls cleared := by
    rw [accepted_concat, cleared]
    rfl
  items_of_not_empties {call} calls kept := by
    cases call with
    | clear => exact absurd rfl kept
    | inquire inquiry => exact (accepted_concat _ _).trans (List.append_nil _).symm
    | register e => exact accepted_concat_register calls e

end RegistryCall

/-! ## The first module that has a position -/

theorem SymbolAccess.hostReason?_eq_some_iff {symbols : SymbolAccess} {reason : String} :
    symbols.hostReason? = some reason ↔ symbols = .hostUnavailable reason := by
  cases symbols <;> simp [hostReason?]

theorem ModuleEntry.provider_eq_ok_iff {e : ModuleEntry} {p : SymbolProvider} :
    e.provider = .ok p ↔ e.symbols = .provider p := by
  unfold provider
  cases e.symbols <;> simp

namespace ModuleRegistry

variable {r : ModuleRegistry} {a : Address} {path : String} {line : UInt32}
  {location : CodeLocation} {hit : ModuleLocation}

theorem providerAt_eq_ok_iff {p : SymbolProvider} :
    r.providerAt a = .ok p ↔ ∃ e ∈ r.entries, e.address = a ∧ e.symbols = .provider p := by
  constructor
  · intro provided
    cases found : r.find? a with
    | none =>
      unfold providerAt moduleAt at provided
      rw [found] at provided
      cases provided
    | some e =>
      rw [providerAt_of_find? found] at provided
      obtain ⟨listed, here⟩ := find?_eq_some_iff.1 found
      exact ⟨e, listed, here, ModuleEntry.provider_eq_ok_iff.1 provided⟩
  · rintro ⟨e, listed, here, provided⟩
    rw [providerAt_of_find? (find?_eq_some_iff.2 ⟨listed, here⟩)]
    exact ModuleEntry.provider_eq_ok_iff.2 provided

/-- At an address there is what the module there has. -/
theorem locateAt_eq_ok_iff : (r.locateAt a path line).result = .ok location ↔
    ∃ e ∈ r.entries, e.address = a ∧ e.locate? path line = some ⟨location, e.module⟩ := by
  have asked : (r.locateAt a path line).result =
      r.providerAt a >>= fun p => (p.locate path line).result := by
    rw [locateAt, Traced.result_bind]
    rfl
  rw [asked, bind_eq_ok_iff]
  simp only [providerAt_eq_ok_iff, ModuleEntry.locate?_eq_some_iff, and_true]
  constructor
  · rintro ⟨p, ⟨e, listed, here, provided⟩, answered⟩
    exact ⟨e, listed, here, p, provided, answered⟩
  · rintro ⟨e, listed, here, p, provided, answered⟩
    exact ⟨p, ⟨e, listed, here, provided⟩, answered⟩

/-- The oldest module that has a position at its address gives the answer. -/
theorem exists_split_of_locate (located : (r.locate path line).result = .ok hit) :
    ∃ older e newer, r.entries = older ++ e :: newer ∧
      (r.locateAt e.address path line).result = .ok hit.location ∧ hit.module = e.module ∧
      ∀ e' ∈ older, ∀ location, (r.locateAt e'.address path line).result ≠ .ok location := by
  obtain ⟨older, e, newer, split, found, missing⟩ :=
    List.findSome?_eq_some_iff.1 (locate_eq_ok_iff.1 located)
  have listed : e ∈ r.entries := by simp [split]
  have inModule : hit.module = e.module := ModuleEntry.module_of_locate? found
  refine ⟨older, e, newer, split, locateAt_eq_ok_iff.2 ⟨e, listed, rfl, ?_⟩, inModule, ?_⟩
  · rw [← inModule]
    exact found
  · intro e' older' location answered
    obtain ⟨twin, listed', same, found'⟩ := locateAt_eq_ok_iff.1 answered
    have alone : twin = e' :=
      List.inj_on_of_nodup_map r.addresses_nodup listed' (by simp [split, older']) same
    rw [alone, missing e' older'] at found'
    cases found'

/-- Without a position the oldest reason why the host was not available is the answer. -/
theorem unlocated_cases (r : ModuleRegistry) (path : String) (line : UInt32) :
    (∃ older e newer reason, r.entries = older ++ e :: newer ∧
      e.symbols = .hostUnavailable reason ∧
      (∀ e' ∈ older, ∀ other, e'.symbols ≠ .hostUnavailable other) ∧
      r.unlocated path line = .hostUnavailable reason) ∨
    (∀ e ∈ r.entries, ∀ reason, e.symbols ≠ .hostUnavailable reason) ∧
      r.unlocated path line = .notFound (.codeAnywhere path line) := by
  unfold unlocated
  cases reasoned : r.hostReason? with
  | none =>
    refine Or.inr ⟨fun e listed reason given => ?_, rfl⟩
    have none := List.findSome?_eq_none_iff.1 reasoned e listed
    cases none.symm.trans (SymbolAccess.hostReason?_eq_some_iff.2 given)
  | some reason =>
    obtain ⟨older, e, newer, split, given, earlier⟩ := List.findSome?_eq_some_iff.1 reasoned
    refine Or.inl ⟨older, e, newer, reason, split, SymbolAccess.hostReason?_eq_some_iff.1 given,
      fun e' listed other given' => ?_, rfl⟩
    cases (earlier e' listed).symm.trans (SymbolAccess.hostReason?_eq_some_iff.2 given')

end ModuleRegistry

open RegistryCall in
/-- **A source position is located in the module that was registered first among those with it.** It
is located exactly if it is at some address. Otherwise the error is the reason of the module that
was registered first among those for which the host was not available and, if there is none, that
there is no such code. What errors the providers answer with does not matter. -/
theorem locate_earliest (calls : List RegistryCall) (path : String) (line : UInt32) :
    let r := (performAll .start calls).registry
    ((∃ hit, (r.locate path line).result = .ok hit) ↔
      ∃ a location, (r.locateAt a path line).result = .ok location) ∧
    (∀ hit, (r.locate path line).result = .ok hit → ∃ e,
      registrations.IsEarliest calls
        (fun e => ∃ location, (r.locateAt e.address path line).result = .ok location) e ∧
      (r.locateAt e.address path line).result = .ok hit.location ∧ hit.module = e.module) ∧
    ∀ failure, (r.locate path line).result = .error failure →
      (∃ e reason,
        registrations.IsEarliest calls (fun e => ∃ reason, e.symbols = .hostUnavailable reason) e ∧
        e.symbols = .hostUnavailable reason ∧ failure = .hostUnavailable reason) ∨
      (∀ before e reason, registrations.Stands calls before e →
        e.symbols ≠ .hostUnavailable reason) ∧
        failure = .notFound (.codeAnywhere path line) := by
  intro r
  have entries : r.entries = registrations.items calls := entries_eq_accepted calls
  refine ⟨⟨?_, ?_⟩, ?_, ?_⟩
  · rintro ⟨hit, located⟩
    obtain ⟨_, e, _, _, answered, _, _⟩ := ModuleRegistry.exists_split_of_locate located
    exact ⟨e.address, hit.location, answered⟩
  · rintro ⟨a, location, answered⟩
    obtain ⟨e, listed, -, found⟩ := ModuleRegistry.locateAt_eq_ok_iff.1 answered
    rw [ModuleRegistry.exists_locate_iff, List.isSome_findSome?, List.any_eq_true]
    exact ⟨e, listed, by simp [found]⟩
  · intro hit located
    obtain ⟨older, e, newer, split, answered, inModule, first⟩ :=
      ModuleRegistry.exists_split_of_locate located
    rw [entries] at split
    exact ⟨e, Filling.isEarliest_of_split split ⟨_, answered⟩
      fun e' listed ⟨location, answered'⟩ => first e' listed location answered', answered, inModule⟩
  · intro failure missing
    rw [(ModuleRegistry.locate_eq_error_iff.1 missing).2]
    rcases r.unlocated_cases path line with
      ⟨older, e, newer, reason, split, given, first, why⟩ | ⟨nowhere, why⟩
    · rw [entries] at split
      exact Or.inl ⟨e, reason, Filling.isEarliest_of_split split ⟨reason, given⟩
        fun e' listed ⟨other, given'⟩ => first e' listed other given', given, why⟩
    · rw [entries] at nowhere
      exact Or.inr ⟨fun before e reason stands =>
        nowhere e (Filling.mem_items_iff.2 ⟨before, stands⟩) reason, why⟩

/-- A provider that answers as if the host were not available is passed over like any other. -/
example (m : LoadedModule) (path : String) (line : UInt32) :
    let p := { SymbolTable.empty.provider with
      resolve := fun _ _ => .error (.hostUnavailable "down") }
    let r := (RegistryCall.performAll .start [.register ⟨⟨0x10000⟩, 0x2000, .provider p, m⟩]).registry
    (r.locate path line).result = .error (.notFound (.codeAnywhere path line)) := rfl

end DebugSymbols

import DebugSymbols.Proofs.Refusals
import DebugSymbols.Proofs.SourcePositions
import Mathlib.Data.List.Induction

/-!
# The order of loads

Modules at different addresses do not get in each other's way. Whether a guarded host refuses to
work is settled before the first load (`SymbolService.refusal?`), and as long as the host goes by
the image it is asked for, a load at a free address comes to the same in any two sessions that agree
on that (`load_of_free`). So loading the modules in another order registers the same entries in
another order; what is found by address is then the same, and so is whether a source position is
located at all.
-/

namespace DebugSymbols

/-- What the host opens for an image does not depend on earlier calls. -/
def SymbolHost.GoesByImage (host : SymbolHost) : Prop :=
  ∀ earlier source, host.load earlier source = host.load [] source

/-- No two of the modules are at one address. A module that does not tell its address is at none. -/
def LoadedModule.Apart (ms : List LoadedModule) : Prop :=
  ms.Pairwise fun m n => ∀ a, m.baseAddress = .ok a → n.baseAddress ≠ .ok a

/-- The session after the modules have been loaded, one after the other. -/
def Session.loadAll (l : ModuleLoader) (s : Session) (ms : List LoadedModule) : Session :=
  s.run l (ms.map .load)

/-! ## One load -/

/-- The host opens the image in every session in which it works. -/
theorem SymbolService.result_load {v : SymbolService} (byImage : v.host.GoesByImage) (s : Session)
    (source : ImageSource) : (v.load source s).result =
      match v.refusal? s with
      | none => v.host.load [] source
      | some reason => .error (.hostUnavailable reason) := by
  cases refusal : v.refusal? s with
  | none =>
    obtain ⟨earlier, opened⟩ := exists_result_load refusal source
    exact opened.trans (byImage earlier source)
  | some reason => exact result_serve_of_refusal refusal (.load source)

namespace ModuleLoader

variable {l : ModuleLoader} {m : LoadedModule} {s s' : Session}

/-- Of the registry, a load goes by whether its address is free. -/
theorem verdict_of_free {r : ModuleRegistry} {early late : LoadedModule} {symbols : SymbolAccess}
    (free : ∀ a, late.baseAddress = .ok a → r.find? a = none) :
    l.verdict early late r symbols = l.verdict early late .empty symbols := by
  unfold verdict
  cases early.path with
  | error e => rfl
  | ok path =>
    simp only [bind, Except.bind]
    cases l.readSource early path with
    | error e => rfl
    | ok _ =>
      cases described : describe late path (l.statusFor path symbols) with
      | error e => rfl
      | ok d =>
        have based := (describe_eq_ok_iff.1 described).2.1
        have here := ModuleRegistry.checkFree_eq_ok_iff.2 (free d.baseAddress based)
        have there : ModuleRegistry.empty.checkFree d.baseAddress = .ok () := rfl
        simp only [here, there]

/-- A load comes to the same in two sessions, the address being free in both of them. -/
theorem load_of_free (byImage : l.service.host.GoesByImage)
    (alike : l.service.refusal? s = l.service.refusal? s')
    (free : ∀ a, m.baseAddress = .ok a → s.registry.find? a = none)
    (free' : ∀ a, m.baseAddress = .ok a → s'.registry.find? a = none) :
    (l.load m s).result = (l.load m s').result ∧ l.enrolled? m s = l.enrolled? m s' := by
  have answer : l.hostAnswer? m s = l.hostAnswer? m s' := by
    rw [hostAnswer?_eq, hostAnswer?_eq]
    simp only [SymbolService.result_load byImage, alike]
  have result : (l.load m s).result = (l.load m s').result := by
    show (l.loadChanging m m s).result = (l.loadChanging m m s').result
    rw [result_loadChanging, result_loadChanging, answer, verdict_of_free free,
      verdict_of_free free']
  refine ⟨result, ?_⟩
  unfold enrolled?
  rw [answer, result]

end ModuleLoader

/-! ## Loads of modules that are apart -/

section Loads

variable {l : ModuleLoader} {m : LoadedModule} {ms ms' before after : List LoadedModule}
  {s s' : Session}

namespace Session

theorem loadAll_concat (l : ModuleLoader) (s : Session) (ms : List LoadedModule)
    (m : LoadedModule) : s.loadAll l (ms ++ [m]) = (s.loadAll l ms).after l (.load m) := by
  unfold loadAll
  rw [List.map_append, run_append]
  rfl

/-- What is registered are modules that were loaded, each at its own address. -/
theorem module_of_mem_loadAll (fresh : s.registry = .empty) {e : ModuleEntry}
    (listed : e ∈ (s.loadAll l ms).registry.entries) :
    e.module ∈ ms ∧ e.module.baseAddress = .ok e.address := by
  rcases mem_entries_run_iff.1 listed with ⟨old, -⟩ | ⟨first, m, rest, same, -, made⟩
  · rw [fresh] at old
    exact absurd old List.not_mem_nil
  · obtain ⟨d, loaded, rfl⟩ := ModuleLoader.enrolled?_eq_some_iff.1 made
    have requested : Request.load m ∈ ms.map Request.load := by
      rw [same]
      exact List.mem_append_right _ List.mem_cons_self
    exact ⟨(List.mem_map_of_injective fun _ _ => Request.load.inj).1 requested,
      ModuleLoader.baseAddress_of_load loaded⟩

/-- The address of a module is free as long as only modules apart from it have been loaded. -/
theorem find?_loadAll_of_apart (fresh : s.registry = .empty)
    (apart : LoadedModule.Apart (before ++ m :: after)) {a : Address}
    (based : m.baseAddress = .ok a) : (s.loadAll l before).registry.find? a = none := by
  rw [ModuleRegistry.find?_eq_none_iff, List.mem_map]
  rintro ⟨e, listed, rfl⟩
  obtain ⟨loaded, there⟩ := module_of_mem_loadAll fresh listed
  exact (List.pairwise_append.1 apart).2.2 _ loaded m List.mem_cons_self _ there based

/-- Behind modules that it is apart from, a module is loaded as if it were the first. -/
theorem load_of_apart (byImage : l.service.host.GoesByImage) (fresh : s.registry = .empty)
    (apart : LoadedModule.Apart (before ++ m :: after)) :
    (l.load m (s.loadAll l before)).result = (l.load m s).result ∧
      l.enrolled? m (s.loadAll l before) = l.enrolled? m s :=
  ModuleLoader.load_of_free byImage (SymbolService.refusal?_run l s _)
    (fun _ based => find?_loadAll_of_apart fresh apart based)
    fun _ _ => congrArg (ModuleRegistry.find? · _) fresh

/-- Modules that are apart are registered one by one, each as if it were the only one. -/
theorem entries_loadAll (byImage : l.service.host.GoesByImage) (fresh : s.registry = .empty)
    (apart : LoadedModule.Apart ms) :
    (s.loadAll l ms).registry.entries = ms.filterMap fun m => l.enrolled? m s := by
  induction ms using List.reverseRecOn with
  | nil => exact congrArg ModuleRegistry.entries fresh
  | append_singleton ms m ih =>
    rw [loadAll_concat, entries_after_load, ih (List.pairwise_append.1 apart).1,
      (load_of_apart byImage fresh apart).2, List.filterMap_append]
    rfl

end Session

theorem LoadedModule.Apart.perm (apart : LoadedModule.Apart ms) (perm : ms.Perm ms') :
    LoadedModule.Apart ms' :=
  (perm.pairwise_iff fun distinct a based based' => distinct a based' based).1 apart

end Loads

/-! ## The same modules in another order -/

inductive SymbolError.Kind where
  | notFound
  | noSymbols
  | malformedMetadata
  | hostUnavailable
  | outOfMemory
  | invalidArgument
  | provider
deriving DecidableEq

/-- What kind of error it is, whatever the cause. -/
def SymbolError.kind : SymbolError → Kind
  | notFound _ => .notFound
  | noSymbols _ => .noSymbols
  | malformedMetadata _ => .malformedMetadata
  | hostUnavailable _ => .hostUnavailable
  | outOfMemory => .outOfMemory
  | invalidArgument _ => .invalidArgument
  | provider _ => .provider

namespace ModuleRegistry

variable {r r' : ModuleRegistry} {path : String} {line : UInt32}

/-- Whatever is asked about an address, or about a module or a frame and so about its address, both
registries answer the same. -/
structure AgreeByAddress (r r' : ModuleRegistry) : Prop where
  moduleAt : ∀ a, r.moduleAt a = r'.moduleAt a
  providerAt : ∀ a, r.providerAt a = r'.providerAt a
  locateAt : ∀ a path line, r.locateAt a path line = r'.locateAt a path line
  locate : ∀ (m : LoadedModule) path line, m.locate r path line = m.locate r' path line
  sequencePoint : ∀ f : StackFrame, f.sequencePoint r = f.sequencePoint r'
  stepRange : ∀ active,
    StackFrame.stepRangeOfThread active r = StackFrame.stepRangeOfThread active r'
  localVariable : ∀ (f : StackFrame) slot, f.localVariable r slot = f.localVariable r' slot

/-- What is found at an address does not depend on the order of the entries. -/
theorem find?_of_perm (perm : r.entries.Perm r'.entries) (a : Address) :
    r.find? a = r'.find? a :=
  Option.ext fun e => by rw [find?_eq_some_iff, find?_eq_some_iff, perm.mem_iff]

theorem agreeByAddress_of_find? (same : ∀ a, r.find? a = r'.find? a) : r.AgreeByAddress r' := by
  have entry (a : Address) : r.moduleAt a = r'.moduleAt a := by
    unfold moduleAt
    rw [same]
  have provider (a : Address) : r.providerAt a = r'.providerAt a := by
    unfold ModuleRegistry.providerAt
    rw [entry]
  have position (a : Address) (path : String) (line : UInt32) :
      r.locateAt a path line = r'.locateAt a path line := by
    unfold locateAt
    rw [provider]
  have step (f : StackFrame) : f.stepRange r = f.stepRange r' := by
    simp only [StackFrame.stepRange, provider]
  exact
    { moduleAt := entry
      providerAt := provider
      locateAt := position
      locate := fun m path line => by simp only [LoadedModule.locate, position]
      sequencePoint := fun f => by simp only [StackFrame.sequencePoint, provider]
      stepRange := fun active => by simp only [StackFrame.stepRangeOfThread, step]
      localVariable := fun f slot => by simp only [StackFrame.localVariable, provider] }

/-- Whether a search finds anything does not depend on the order. -/
theorem isSome_findSome?_of_perm {β : Type} {entries entries' : List ModuleEntry}
    (perm : entries.Perm entries') (f : ModuleEntry → Option β) :
    (entries.findSome? f).isSome = (entries'.findSome? f).isSome := by
  rw [List.isSome_findSome?, List.isSome_findSome?, perm.any_eq]

theorem kind_unlocated (r : ModuleRegistry) (path : String) (line : UInt32) :
    (r.unlocated path line).kind =
      if r.hostReason?.isSome then .hostUnavailable else .notFound := by
  unfold unlocated
  cases r.hostReason? <;> rfl

end ModuleRegistry

/-- **The order of loads does not matter to what can be found.** Modules at different addresses are
loaded into two sessions without modules, from a host that goes by the image it is asked for and
that works in both sessions or refuses in both for one reason. In another order each load comes to
the same, the same is found at each address, and as many modules are registered. A source position
is located in both orders or in neither, in which case the errors are of one kind. (Where it is
located does depend on the order, if several modules have it.) -/
theorem loadAll_of_perm (l : ModuleLoader) (byImage : l.service.host.GoesByImage)
    (s s' : Session) (fresh : s.registry = .empty) (fresh' : s'.registry = .empty)
    (alike : l.service.refusal? s = l.service.refusal? s')
    (ms ms' : List LoadedModule) (perm : ms.Perm ms') (apart : LoadedModule.Apart ms) :
    let r := (s.loadAll l ms).registry
    let r' := (s'.loadAll l ms').registry
    (∀ m before after before' after', ms = before ++ m :: after → ms' = before' ++ m :: after' →
      (l.load m (s.loadAll l before)).result = (l.load m (s'.loadAll l before')).result) ∧
    r.AgreeByAddress r' ∧
    r.size = r'.size ∧
    ∀ path line,
      ((∃ hit, (r.locate path line).result = .ok hit) ↔
        ∃ hit, (r'.locate path line).result = .ok hit) ∧
      ∀ e e', (r.locate path line).result = .error e → (r'.locate path line).result = .error e' →
        e.kind = e'.kind := by
  intro r r'
  have apart' : LoadedModule.Apart ms' := apart.perm perm
  have first (m : LoadedModule) :
      (l.load m s).result = (l.load m s').result ∧ l.enrolled? m s = l.enrolled? m s' :=
    ModuleLoader.load_of_free byImage alike (fun _ _ => congrArg (ModuleRegistry.find? · _) fresh)
      fun _ _ => congrArg (ModuleRegistry.find? · _) fresh'
  have entries : r.entries.Perm r'.entries := by
    rw [Session.entries_loadAll byImage fresh apart, Session.entries_loadAll byImage fresh' apart']
    simp only [first]
    exact perm.filterMap _
  refine ⟨?_, ModuleRegistry.agreeByAddress_of_find? (ModuleRegistry.find?_of_perm entries),
    entries.length_eq, fun path line => ⟨?_, fun e e' missing missing' => ?_⟩⟩
  · rintro m before after before' after' rfl rfl
    rw [(Session.load_of_apart byImage fresh apart).1,
      (Session.load_of_apart byImage fresh' apart').1, (first m).1]
  · rw [ModuleRegistry.exists_locate_iff, ModuleRegistry.exists_locate_iff,
      ModuleRegistry.isSome_findSome?_of_perm entries]
  · have reasons : r.hostReason?.isSome = r'.hostReason?.isSome :=
      ModuleRegistry.isSome_findSome?_of_perm entries _
    rw [(ModuleRegistry.locate_eq_error_iff.1 missing).2,
      (ModuleRegistry.locate_eq_error_iff.1 missing').2, ModuleRegistry.kind_unlocated,
      ModuleRegistry.kind_unlocated, reasons]

/-- Two modules that have one position, from a guarded host that the second session finds prepared:
in either order the position is located, in the module that was loaded first. -/
theorem loadAll_of_perm_twoModules :
    let t := SymbolTable.single ⟨0x06000001⟩ ⟨0, 5, 5, 1, 2, "/src/A.cs"⟩
    let l := ModuleLoader.new
      ((TableStore.addFile ⟨[], []⟩ "/app/App.dll" t).addFile "/app/Lib.dll" t).host.guarded .all
    let app := LoadedModule.ofFile "/app/App.dll" ⟨0x20000⟩ 0x2000
    let lib := LoadedModule.ofFile "/app/Lib.dll" ⟨0x10000⟩ 0x1000
    let s := Session.start
    let s' := Session.start.run l [.load app, .cleanup]
    let r := (s.loadAll l [app, lib]).registry
    let r' := (s'.loadAll l [lib, app]).registry
    l.service.host.GoesByImage ∧ s.registry = .empty ∧ s'.registry = .empty ∧
    l.service.refusal? s = l.service.refusal? s' ∧
    [app, lib].Perm [lib, app] ∧ LoadedModule.Apart [app, lib] ∧
    r.AgreeByAddress r' ∧
    (r.locate "A.cs" 4).result = .ok ⟨⟨⟨0x06000001⟩, 0, "/src/A.cs"⟩, app⟩ ∧
    (r'.locate "A.cs" 4).result = .ok ⟨⟨⟨0x06000001⟩, 0, "/src/A.cs"⟩, lib⟩ :=
  have apart : LoadedModule.Apart [.ofFile "/app/App.dll" ⟨0x20000⟩ 0x2000,
      .ofFile "/app/Lib.dll" ⟨0x10000⟩ 0x1000] := by
    simp [LoadedModule.Apart, LoadedModule.ofFile]
  ⟨fun _ _ => rfl, rfl, rfl, rfl, List.Perm.swap _ _ _, apart,
    (loadAll_of_perm _ (fun _ _ => rfl) .start (.run _ .start [_, .cleanup]) rfl rfl rfl
      [_, _] [_, _] (List.Perm.swap _ _ _) apart).2.1, rfl, rfl⟩

end DebugSymbols

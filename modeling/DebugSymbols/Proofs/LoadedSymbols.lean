import DebugSymbols.Proofs.Requests

/-!
# The symbols of a loaded module

The host's answer to a load decides how questions about the module are answered from then on. A
provider answers them itself (`AnsweredBy`); a host that is out of order is the reason why they all
fail, and in every other case there are no symbols (`Unanswered`). No later request but a cleanup
changes that, whatever it loads or fails to load (`symbols_of_load`).
-/

namespace DebugSymbols

/-- Questions about a module are answered by the provider `p`, and by nothing else. -/
structure AnsweredBy (p : SymbolProvider) (r : ModuleRegistry) (m : LoadedModule) : Prop where
  provider : ∀ {address}, m.baseAddress = .ok address → r.providerAt address = .ok p
  locate : ∀ path line, m.locate r path line = p.locate path line
  sequencePoint : ∀ {f : StackFrame} {method offset}, f.module = .ok m → f.method = .ok method →
    f.offset = .ok offset → f.sequencePoint r = p.framePoint method offset
  stepRange : ∀ {f : StackFrame} {method offset}, f.module = .ok m → f.method = .ok method →
    f.offset = .ok offset →
    StackFrame.stepRangeOfThread (.ok (some f)) r = p.frameStep method offset f.codeSize
  localVariable : ∀ {f : StackFrame} {method} (slot), f.module = .ok m → f.method = .ok method →
    f.localVariable r slot = p.frameVariable method slot (f.localValue slot)

/-- Questions about a module fail, all with the same error. -/
structure Unanswered (e : SymbolError) (r : ModuleRegistry) (m : LoadedModule) : Prop where
  locate : ∀ path line, (m.locate r path line).result = .error e
  sequencePoint : ∀ {f : StackFrame} {method offset}, f.module = .ok m → f.method = .ok method →
    f.offset = .ok offset → (f.sequencePoint r).result = .error e
  stepRange : ∀ {f : StackFrame} {method offset}, f.module = .ok m → f.method = .ok method →
    f.offset = .ok offset → (StackFrame.stepRangeOfThread (.ok (some f)) r).result = .error e
  localVariable : ∀ {f : StackFrame} {method} (slot), f.module = .ok m → f.method = .ok method →
    (f.localVariable r slot).result = .error e

section Questions

variable {p : SymbolProvider} {r : ModuleRegistry} {m : LoadedModule} {a : Address}
  {e : SymbolError}

theorem StackFrame.moduleAddress_of_module {f : StackFrame} (inside : f.module = .ok m)
    (based : m.baseAddress = .ok a) : f.moduleAddress = .ok a := by
  unfold moduleAddress
  rw [inside]
  exact based

/-! Each question looks for the provider at the address of the module and passes itself on. -/

theorem LoadedModule.locate_eq (based : m.baseAddress = .ok a) (path : String) (line : UInt32) :
    m.locate r path line = liftM (r.providerAt a) >>= fun p => p.locate path line := by
  unfold locate ModuleRegistry.locateAt
  rw [Traced.liftM_bind_of_ok based]

theorem StackFrame.sequencePoint_eq {f : StackFrame} {method : MethodToken} {offset : UInt32}
    (based : m.baseAddress = .ok a) (inside : f.module = .ok m) (hmethod : f.method = .ok method)
    (hoffset : f.offset = .ok offset) : f.sequencePoint r =
      liftM (r.providerAt a) >>= fun p => p.framePoint method offset := by
  unfold sequencePoint
  rw [Traced.liftM_bind_of_ok hmethod, Traced.liftM_bind_of_ok hoffset,
    Traced.liftM_bind_of_ok (moduleAddress_of_module inside based)]

theorem StackFrame.stepRangeOfThread_eq {f : StackFrame} {method : MethodToken} {offset : UInt32}
    (based : m.baseAddress = .ok a) (inside : f.module = .ok m) (hmethod : f.method = .ok method)
    (hoffset : f.offset = .ok offset) : stepRangeOfThread (.ok (some f)) r =
      liftM (r.providerAt a) >>= fun p => p.frameStep method offset f.codeSize := by
  unfold stepRangeOfThread stepRange
  rw [Traced.liftM_bind_of_ok rfl]
  dsimp only
  rw [Traced.liftM_bind_of_ok hmethod, Traced.liftM_bind_of_ok hoffset,
    Traced.liftM_bind_of_ok (moduleAddress_of_module inside based)]

theorem StackFrame.localVariable_eq {f : StackFrame} {method : MethodToken}
    (based : m.baseAddress = .ok a) (inside : f.module = .ok m) (hmethod : f.method = .ok method)
    (slot : UInt32) : f.localVariable r slot =
      liftM (r.providerAt a) >>= fun p => p.frameVariable method slot (f.localValue slot) := by
  unfold localVariable
  rw [Traced.liftM_bind_of_ok hmethod,
    Traced.liftM_bind_of_ok (moduleAddress_of_module inside based)]

theorem answeredBy_of_providerAt (based : m.baseAddress = .ok a)
    (found : r.providerAt a = .ok p) : AnsweredBy p r m where
  provider based' := by
    cases based.symm.trans based'
    exact found
  locate path line := by
    rw [LoadedModule.locate_eq based, Traced.liftM_bind_of_ok found]
  sequencePoint inside hmethod hoffset := by
    rw [StackFrame.sequencePoint_eq based inside hmethod hoffset, Traced.liftM_bind_of_ok found]
  stepRange inside hmethod hoffset := by
    rw [StackFrame.stepRangeOfThread_eq based inside hmethod hoffset,
      Traced.liftM_bind_of_ok found]
  localVariable slot inside hmethod := by
    rw [StackFrame.localVariable_eq based inside hmethod, Traced.liftM_bind_of_ok found]

theorem unanswered_of_providerAt (based : m.baseAddress = .ok a)
    (missing : r.providerAt a = .error e) : Unanswered e r m where
  locate path line := by
    rw [LoadedModule.locate_eq based, Traced.liftM_bind_of_error missing]
    rfl
  sequencePoint inside hmethod hoffset := by
    rw [StackFrame.sequencePoint_eq based inside hmethod hoffset,
      Traced.liftM_bind_of_error missing]
    rfl
  stepRange inside hmethod hoffset := by
    rw [StackFrame.stepRangeOfThread_eq based inside hmethod hoffset,
      Traced.liftM_bind_of_error missing]
    rfl
  localVariable slot inside hmethod := by
    rw [StackFrame.localVariable_eq based inside hmethod, Traced.liftM_bind_of_error missing]
    rfl

/-- The provider at an address is that of the entry found there. -/
theorem ModuleRegistry.providerAt_of_find? {entry : ModuleEntry} (found : r.find? a = some entry) :
    r.providerAt a = entry.provider := by
  unfold providerAt moduleAt
  rw [found]

end Questions

/-! ## After a load -/

section AfterLoad

variable {l : ModuleLoader} {s : Session} {m : LoadedModule} {d : ModuleDescriptor}

/-- The entry that a load has made is found at its address in every session that continues it. -/
theorem ModuleLoader.find?_of_load {requests : List Request} (h : (l.load m s).result = .ok d)
    (kept : .cleanup ∉ requests) :
    ((l.load m s).session.run l requests).registry.find? d.baseAddress =
      some ⟨d.baseAddress, d.size, .ofAnswer? (l.hostAnswer? m s), m⟩ := by
  obtain ⟨free, appended⟩ := registry_loadChanging_of_ok h
  refine ModuleRegistry.find?_of_prefix (Session.entries_prefix_run kept) ?_
  show (l.loadChanging m m s).session.registry.find? d.baseAddress = _
  rw [appended]
  exact ModuleRegistry.find?_append_self free

theorem ModuleLoader.baseAddress_of_load (h : (l.load m s).result = .ok d) :
    m.baseAddress = .ok d.baseAddress := by
  obtain ⟨path, -, -, described, -⟩ := describe_of_loadChanging h
  exact (describe_eq_ok_iff.1 described).2.1

end AfterLoad

section Runs

variable {l : ModuleLoader} {s : Session} {m : LoadedModule} {d : ModuleDescriptor}
  {requests before : List Request}

/-- The run in which a load stands between other requests. -/
theorem Session.run_load (l : ModuleLoader) (before after : List Request) (m : LoadedModule) :
    Session.start.run l (before ++ .load m :: after) =
      (l.load m (Session.start.run l before)).session.run l after := by
  rw [Session.run_append]
  rfl

/-- The entry that a load has made is there at the end of the run. -/
theorem Session.Loads.find? (h : Loads l requests before m d) :
    (start.run l requests).registry.find? d.baseAddress = some
      ⟨d.baseAddress, d.size, .ofAnswer? (l.hostAnswer? m (start.run l before)), m⟩ := by
  obtain ⟨after, rfl, kept, loaded⟩ := h
  rw [run_load]
  exact l.find?_of_load loaded kept

/-- The session comes from a run that has loaded the module, and `p` is what the host answered to
that. -/
def LoadedWith (l : ModuleLoader) (m : LoadedModule) (p : SymbolProvider) (s : Session) : Prop :=
  ∃ requests before d, s = Session.start.run l requests ∧ Session.Loads l requests before m d ∧
    l.hostAnswer? m (Session.start.run l before) = some (.ok p)

theorem LoadedWith.answeredBy {p : SymbolProvider} (h : LoadedWith l m p s) :
    AnsweredBy p s.registry m := by
  obtain ⟨requests, before, d, rfl, loads, answered⟩ := h
  have provided := ModuleRegistry.providerAt_of_find? loads.find?
  rw [answered] at provided
  exact answeredBy_of_providerAt (l.baseAddress_of_load loads.result) provided

end Runs

/-- **The host's answer to a load holds until the next cleanup.** Whatever is loaded or asked after
a load that succeeded, in vain or not, the entry at its address has symbols exactly if they were
reported as loaded, and then the provider that the host gave answers every question about the
module. A host that was not available is the reason why these questions fail; in all other cases
they fail for want of symbols. -/
theorem symbols_of_load (l : ModuleLoader) (before after : List Request) (m : LoadedModule)
    (d : ModuleDescriptor) (loaded : (l.load m (Session.start.run l before)).result = .ok d)
    (kept : .cleanup ∉ after) :
    let answer := l.hostAnswer? m (Session.start.run l before)
    let r := (Session.start.run l (before ++ .load m :: after)).registry
    (∃ e, r.find? d.baseAddress = some e ∧
      (e.symbols.hasProvider = true ↔ d.status = .loaded)) ∧
    (d.status = .loaded → ∃ p, answer = some (.ok p) ∧ AnsweredBy p r m) ∧
    (∀ reason, answer = some (.error (.hostUnavailable reason)) →
      Unanswered (.hostUnavailable reason) r m) ∧
    (d.status ≠ .loaded → (∀ reason, answer ≠ some (.error (.hostUnavailable reason))) →
      Unanswered (.noSymbols (.moduleAt d.baseAddress)) r m) := by
  intro answer r
  have based := l.baseAddress_of_load loaded
  have loads : Session.Loads l (before ++ .load m :: after) before m d := ⟨after, rfl, kept, loaded⟩
  -- The entry is still there, so the symbols it was made with decide.
  have found : r.find? d.baseAddress = some ⟨d.baseAddress, d.size, .ofAnswer? answer, m⟩ :=
    loads.find?
  have provided := ModuleRegistry.providerAt_of_find? found
  have status : d.status = .loaded ↔ ∃ p, answer = some (.ok p) :=
    ModuleLoader.status_eq_loaded_iff loaded
  refine ⟨⟨_, found, ?_⟩, ?_, ?_, ?_⟩
  · exact SymbolAccess.hasProvider_ofAnswer?_iff.trans status.symm
  · intro isLoaded
    obtain ⟨p, answered⟩ := status.1 isLoaded
    rw [answered] at provided
    exact ⟨p, answered, answeredBy_of_providerAt based provided⟩
  · intro reason answered
    rw [answered] at provided
    exact unanswered_of_providerAt based provided
  · intro notLoaded available
    have noProvider : ∀ p, answer ≠ some (.ok p) := fun p answered =>
      notLoaded (status.2 ⟨p, answered⟩)
    rw [SymbolAccess.ofAnswer?_eq_absent noProvider available] at provided
    exact unanswered_of_providerAt based provided

/-- A module of which everything can be read, and which takes all switches. -/
def LoadedModule.ofFile (path : String) (base : Address) (size : UInt32) : LoadedModule where
  key := path
  name := .ok path
  baseAddress := .ok base
  size := .ok size
  processId := .ok ⟨1⟩
  isDynamic := .ok false
  isInMemory := .ok false
  versionId := .ok ⟨Vector.replicate 16 0⟩
  setUserCode := fun _ => .ok ()
  setMethodUserCode := fun _ _ => .ok ()

/-- A loader that finds the debug data of every image among the tables. -/
def ModuleLoader.ofTables (store : TableStore) : ModuleLoader :=
  .new ⟨store.host, false⟩ .all

/-- A module with tables keeps them through the load of a module without, and through being loaded
once more in vain. -/
theorem symbols_of_load_twoModules :
    let l := ModuleLoader.ofTables (TableStore.addFile ⟨[], []⟩ "/app/App.dll" .empty)
    let app := LoadedModule.ofFile "/app/App.dll" ⟨0x10000⟩ 0x2000
    let lib := LoadedModule.ofFile "/app/Lib.dll" ⟨0x20000⟩ 0x1000
    ∃ p, l.hostAnswer? app (Session.start.run l []) = some (.ok p) ∧
      AnsweredBy p (Session.start.run l [.load app, .load lib, .load app]).registry app := by
  intro l app lib
  exact (symbols_of_load l [] [.load lib, .load app] app _ rfl (by simp)).2.1 rfl

end DebugSymbols

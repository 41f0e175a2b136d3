import DebugSymbols.ModuleLoader
import DebugSymbols.Proofs.Actions

/-!
# What a load comes to

A load asks the module for about ten answers, any of which can fail, asks the host for the symbols,
throws switches in the debugged process, and registers the module. `verdict` is what is left when
the events are taken away: the checks in their order. The host and the switches do not occur in it;
all that the host decides is the status of the symbols. `loadChanging_cases` says that a load comes
to its verdict and that the registry follows it, `verdict_eq_ok_iff` when the verdict is a success.
-/

namespace DebugSymbols

/-- A chain of answers succeeds when each of them does. -/
theorem bind_eq_ok_iff {ε α β : Type} {x : Except ε α} {next : α → Except ε β} {b : β} :
    (x >>= next) = .ok b ↔ ∃ a, x = .ok a ∧ next a = .ok b := by
  cases x <;> simp [bind, Except.bind]

/-! ## What has to be read -/

namespace LoadedModule

/-- The path can be read: the name can, and so can the process number where the name needs it. -/
def ReadsPath (m : LoadedModule) : Prop :=
  ∃ name, m.name = .ok name ∧
    (FilePath.selfDirectory <+: name.toList → ∃ pid, m.processId = .ok pid)

/-- It can be read where the image is: whether the module was made at run time; if not, whether it
is in memory only; and if so, its place. -/
def ReadsSource (m : LoadedModule) : Prop :=
  ∃ dynamic, m.isDynamic = .ok dynamic ∧
    (dynamic = false → ∃ inMemory, m.isInMemory = .ok inMemory ∧
      (inMemory = true → (∃ base, m.baseAddress = .ok base) ∧ ∃ size, m.size = .ok size))

theorem path_eq_ok_iff {m : LoadedModule} : (∃ path, m.path = .ok path) ↔ m.ReadsPath := by
  unfold path ReadsPath
  cases m.name with
  | error e => simp
  | ok name =>
    by_cases inside : FilePath.selfDirectory <+: name.toList
    · cases m.processId <;> simp [inside, Except.map]
    · simp [inside]

end LoadedModule

namespace ModuleLoader

theorem source?_eq_ok_iff (l : ModuleLoader) (m : LoadedModule) (path : String) :
    (∃ source, l.source? m path = .ok source) ↔ m.ReadsSource := by
  unfold source? LoadedModule.ReadsSource
  cases m.isDynamic with
  | error e => simp [bind, Except.bind]
  | ok dynamic =>
    cases dynamic with
    | true => simp [bind, Except.bind, pure, Except.pure]
    | false =>
      cases m.isInMemory with
      | error e => simp [bind, Except.bind]
      | ok inMemory =>
        cases inMemory with
        | false => simp [bind, Except.bind, pure, Except.pure]
        | true =>
          cases m.baseAddress <;> cases m.size <;> simp [bind, Except.bind, pure, Except.pure]

end ModuleLoader

/-! ## What the host decides -/

namespace SymbolAccess

/-- The symbols that an answer of the host amounts to, none when the host was not asked. -/
def ofAnswer? : Option (Except SymbolError SymbolProvider) → SymbolAccess
  | some (.ok p) => .provider p
  | some (.error (.hostUnavailable reason)) => .hostUnavailable reason
  | _ => .absent

variable {answer : Option (Except SymbolError SymbolProvider)}

theorem hasProvider_ofAnswer?_iff :
    (ofAnswer? answer).hasProvider = true ↔ ∃ p, answer = some (.ok p) := by
  unfold ofAnswer? hasProvider
  split <;> simp_all [provider?]

theorem ofAnswer?_eq_absent (noProvider : ∀ p, answer ≠ some (.ok p))
    (available : ∀ reason, answer ≠ some (.error (.hostUnavailable reason))) :
    ofAnswer? answer = .absent := by
  unfold ofAnswer?
  split
  · exact absurd rfl (noProvider _)
  · exact absurd rfl (available _)
  · rfl

end SymbolAccess

namespace ModuleLoader

variable {l : ModuleLoader} {m early late : LoadedModule} {s : Session} {path : String}

/-- What the host answers when a module is loaded. It is not asked when the policy leaves the module
out, when the module has no image, or when it cannot be read where the image is. -/
def hostAnswer? (l : ModuleLoader) (m : LoadedModule) (s : Session) :
    Option (Except SymbolError SymbolProvider) :=
  match m.path with
  | .error _ => none
  | .ok path =>
    if l.policy path then
      match l.source? m path with
      | .ok (some source) => some (l.service.load source s).result
      | _ => none
    else none

/-- The status of symbols for the module at a path. -/
def statusFor (l : ModuleLoader) (path : String) (symbols : SymbolAccess) : SymbolStatus :=
  if l.policy path then if symbols.hasProvider then .loaded else .notFound else .skipped

theorem statusFor_eq_skipped_iff {symbols : SymbolAccess} :
    l.statusFor path symbols = .skipped ↔ l.policy path = false := by
  unfold statusFor
  by_cases wanted : l.policy path = true
  · rw [if_pos wanted, wanted]
    split <;> simp
  · rw [if_neg wanted]
    simpa using wanted

/-- Whether it can be read where the image is, which is asked only when the policy wants symbols. -/
def readSource (l : ModuleLoader) (m : LoadedModule) (path : String) : Except SymbolError Unit :=
  if l.policy path then (l.source? m path).map fun _ => () else .ok ()

section Apart

variable {γ : Type} {view : Session → γ} (apart : Action.IsApart view)
include apart

theorem keeps_openSymbols (l : ModuleLoader) (m : LoadedModule) (path : String) :
    Action.Keeps view (l.openSymbols m path) := by
  unfold openSymbols
  refine (Action.Keeps.of_except apart _).bind fun source? => ?_
  cases source? with
  | none => exact (Action.Keeps.note apart _).bind fun _ => Action.Keeps.pure _
  | some source =>
    refine (l.service.keeps_load apart source).attempt.bind fun answer => ?_
    split
    · exact Action.Keeps.pure _
    · exact (Action.Keeps.note apart _).bind fun _ => Action.Keeps.pure _
    · exact (Action.Keeps.note apart _).bind fun _ => Action.Keeps.pure _

theorem keeps_chooseSymbols (l : ModuleLoader) (m : LoadedModule) (path : String) :
    Action.Keeps view (l.chooseSymbols m path) := by
  unfold chooseSymbols
  split
  · exact (l.keeps_openSymbols apart m path).bind fun _ => Action.Keeps.pure _
  · exact (Action.Keeps.note apart _).bind fun _ => Action.Keeps.pure _

end Apart

/-- Opening symbols fails only where the image cannot be found. Any answer of the host is taken. -/
theorem result_openSymbols (l : ModuleLoader) (m : LoadedModule) (path : String) (s : Session) :
    (l.openSymbols m path s).result = (l.source? m path).map fun source? =>
      .ofAnswer? (source?.map fun source => (l.service.load source s).result) := by
  unfold openSymbols
  cases h : l.source? m path with
  | error e => rw [Action.bind_except_of_error rfl]; rfl
  | ok source? =>
    rw [Action.bind_except_of_ok rfl]
    cases source? with
    | none => rfl
    | some source =>
      dsimp only
      rw [Action.bind_run_of_ok (Action.attempt_run _ s)]
      show _ = Except.ok (SymbolAccess.ofAnswer? (some (l.service.load source s).result))
      cases (l.service.load source s).result with
      | ok p => rfl
      | error e => cases e <;> rfl

/-- The choice of symbols fails only where the image cannot be found. -/
theorem result_chooseSymbols (l : ModuleLoader) (h : m.path = .ok path) (s : Session) :
    (l.chooseSymbols m path s).result = (l.readSource m path).map fun _ =>
      (.ofAnswer? (l.hostAnswer? m s), l.statusFor path (.ofAnswer? (l.hostAnswer? m s))) := by
  unfold chooseSymbols readSource statusFor hostAnswer?
  simp only [h]
  split
  · have opened := result_openSymbols l m path s
    rcases run : l.openSymbols m path s with ⟨result, s'⟩
    rw [run] at opened
    cases source : l.source? m path with
    | error e =>
      rw [source] at opened
      obtain rfl : result = .error e := opened
      rw [Action.bind_run_of_error run]
      rfl
    | ok source? =>
      rw [source] at opened
      obtain rfl : result = .ok _ := opened
      rw [Action.bind_run_of_ok run]
      cases source? <;> rfl
  · rfl

/-- The choice of symbols keeps the registry. -/
theorem chooseSymbols_run (l : ModuleLoader) (h : m.path = .ok path) (s : Session) :
    ∃ s', s'.registry = s.registry ∧ l.chooseSymbols m path s =
      ⟨(l.readSource m path).map fun _ =>
        (.ofAnswer? (l.hostAnswer? m s), l.statusFor path (.ofAnswer? (l.hostAnswer? m s))), s'⟩ :=
  ⟨(l.chooseSymbols m path s).session, l.keeps_chooseSymbols .registry m path s, by
    rw [← l.result_chooseSymbols h s]⟩

/-! ## What the switches decide -/

theorem result_markMethod (m : LoadedModule) (name : String) (earlier : List MethodToken)
    (method : MethodToken) : (markMethod m name earlier method).result = .ok () := by
  unfold markMethod
  rw [Traced.result_bind]
  cases m.setMethodUserCode method false earlier <;> rfl

theorem result_markMethods (m : LoadedModule) (name : String) (earlier methods : List MethodToken) :
    (markMethods m name earlier methods).result = .ok () := by
  induction methods generalizing earlier with
  | nil => rfl
  | cons method rest ih =>
    rw [markMethods, Traced.result_bind, result_markMethod]
    exact ih _

/-- Nothing that goes wrong with the switches is an error. -/
theorem result_configureJustMyCode (l : ModuleLoader) (m : LoadedModule) (name : String)
    (symbols : SymbolAccess) : (l.configureJustMyCode m name symbols).result = .ok () := by
  unfold configureJustMyCode
  rw [Traced.result_bind]
  simp only [Traced.result_enter, Except.bind]
  split
  · rfl
  · rfl
  · rw [Traced.result_bind, Traced.result_attempt]
    simp only [Except.bind]
    split
    · rfl
    · rw [Traced.result_bind, result_markMethods]
      rfl

end ModuleLoader

/-! ## The verdict -/

/-- Whether an address is free. -/
def ModuleRegistry.checkFree (r : ModuleRegistry) (address : Address) : Except SymbolError Unit :=
  match r.find? address with
  | some _ => .error (.invalidArgument (.addressTaken address))
  | none => .ok ()

theorem ModuleRegistry.checkFree_eq_ok_iff {r : ModuleRegistry} {address : Address} :
    r.checkFree address = .ok () ↔ r.find? address = none := by
  unfold checkFree
  cases r.find? address <;> simp

namespace ModuleLoader

/-- The checks of a load in their order, with the symbols that were found as a parameter. -/
def verdict (l : ModuleLoader) (early late : LoadedModule) (r : ModuleRegistry)
    (symbols : SymbolAccess) : Except SymbolError ModuleDescriptor := do
  let path ← early.path
  l.readSource early path
  let descriptor ← describe late path (l.statusFor path symbols)
  r.checkFree descriptor.baseAddress
  return descriptor

section Verdict

variable {l : ModuleLoader} {m early late : LoadedModule} {path : String} {r : ModuleRegistry}
  {symbols : SymbolAccess} {status : SymbolStatus} {d : ModuleDescriptor}

theorem readSource_eq_ok_iff :
    l.readSource m path = .ok () ↔ (l.policy path = true → m.ReadsSource) := by
  unfold readSource
  rw [← source?_eq_ok_iff l m path]
  split
  · next wanted => cases l.source? m path <;> simp [wanted, Except.map]
  · next unwanted => simp [unwanted]

theorem describe_eq_ok_iff : describe m path status = .ok d ↔
    m.versionId = .ok d.id ∧ m.baseAddress = .ok d.baseAddress ∧ m.size = .ok d.size ∧
      d.name = FilePath.fileName path ∧ d.path = path ∧ d.status = status := by
  unfold describe identify
  cases m.versionId with
  | error e => simp [bind, Except.bind]
  | ok id =>
    cases m.baseAddress with
    | error e => simp [bind, Except.bind]
    | ok base =>
      cases m.size with
      | error e => simp [bind, Except.bind]
      | ok size =>
        show Except.ok ⟨id, FilePath.fileName path, path, status, base, size⟩ = Except.ok d ↔ _
        constructor
        · intro h
          cases h
          exact ⟨rfl, rfl, rfl, rfl, rfl, rfl⟩
        · rintro ⟨hid, hbase, hsize, hname, hpath, hstatus⟩
          cases hid
          cases hbase
          cases hsize
          rw [← hname, ← hpath, ← hstatus]

/-- A load is accepted when the description can be made and its address is free. -/
theorem verdict_eq_ok_iff : l.verdict early late r symbols = .ok d ↔
    ∃ path, early.path = .ok path ∧ (l.policy path = true → early.ReadsSource) ∧
      describe late path (l.statusFor path symbols) = .ok d ∧ r.find? d.baseAddress = none := by
  simp only [verdict, bind_eq_ok_iff, ← readSource_eq_ok_iff, ← ModuleRegistry.checkFree_eq_ok_iff]
  constructor
  · rintro ⟨path, named, _, read, d', described, _, free, same⟩
    cases same
    exact ⟨path, named, read, described, free⟩
  · rintro ⟨path, named, read, described, free⟩
    exact ⟨path, named, (), read, d, described, (), free, rfl⟩

/-- An identity that cannot be read is reported as a fault of the metadata, whatever comes after. -/
theorem verdict_of_unidentified {e : SymbolError} (named : early.path = .ok path)
    (read : l.policy path = true → early.ReadsSource) (h : late.versionId = .error e) :
    l.verdict early late r symbols = .error (.malformedMetadata (.identity path e.message)) := by
  rw [← readSource_eq_ok_iff] at read
  unfold verdict describe identify
  simp only [named, read, h, bind, Except.bind]

/-- Of a loader, the verdict goes by the policy alone. -/
theorem verdict_congr (l l' : ModuleLoader) (same : l'.policy = l.policy) :
    l'.verdict early late r symbols = l.verdict early late r symbols := by
  have source (path : String) : l'.readSource early path = l.readSource early path := by
    unfold readSource source?
    rw [same]
    cases early.isDynamic with
    | error e => rfl
    | ok dynamic =>
      cases dynamic with
      | true => rfl
      | false =>
        cases early.isInMemory with
        | error e => rfl
        | ok inMemory =>
          cases inMemory with
          | false => rfl
          | true => cases early.baseAddress <;> cases early.size <;> rfl
  unfold verdict statusFor
  simp only [source, same]

/-- Of the description, the symbols decide the status and nothing else. -/
theorem verdict_eq_map (l : ModuleLoader) (early late : LoadedModule) (r : ModuleRegistry)
    (symbols symbols' : SymbolAccess) : l.verdict early late r symbols' =
      (l.verdict early late r symbols).map fun d =>
        { d with status := l.statusFor d.path symbols' } := by
  unfold verdict
  cases early.path with
  | error e => rfl
  | ok path =>
    simp only [bind, Except.bind]
    cases l.readSource early path with
    | error e => rfl
    | ok _ =>
      unfold describe
      cases identify late path with
      | error e => rfl
      | ok id =>
        cases late.baseAddress with
        | error e => rfl
        | ok base =>
          cases late.size with
          | error e => rfl
          | ok size =>
            simp only [bind, Except.bind, pure, Except.pure]
            cases r.checkFree base <;> rfl

end Verdict

section Enroll

variable {m : LoadedModule} {path : String} {symbols : SymbolAccess} {status : SymbolStatus}
  {s : Session} {d : ModuleDescriptor}

theorem enroll_of_undescribed {e : SymbolError} (h : describe m path status = .error e) :
    enroll m path symbols status s = ⟨.error e, s⟩ :=
  Action.bind_except_of_error h _ s

theorem enroll_of_taken (symbols : SymbolAccess) {found : ModuleEntry}
    (h : describe m path status = .ok d) (taken : s.registry.find? d.baseAddress = some found) :
    (enroll m path symbols status s).result =
        .error (.invalidArgument (.addressTaken d.baseAddress)) ∧
      (enroll m path symbols status s).session.registry = s.registry := by
  have refused := Session.register_run_of_error
    (ModuleRegistry.result_insert_of_taken (e := ⟨d.baseAddress, d.size, symbols, m⟩) taken)
  unfold enroll
  rw [Action.bind_except_of_ok h, Action.bind_run_of_error refused]
  exact ⟨rfl, rfl⟩

theorem enroll_of_free (symbols : SymbolAccess) (h : describe m path status = .ok d)
    (free : s.registry.find? d.baseAddress = none) :
    (enroll m path symbols status s).result = .ok d ∧
      (enroll m path symbols status s).session.registry =
        s.registry.append ⟨d.baseAddress, d.size, symbols, m⟩ free := by
  have registered := Session.register_run_of_ok
    (ModuleRegistry.result_insert_of_free (e := ⟨d.baseAddress, d.size, symbols, m⟩) free)
  unfold enroll
  rw [Action.bind_except_of_ok h, Action.bind_run_of_ok registered]
  exact ⟨rfl, rfl⟩

end Enroll

section Load

variable {l : ModuleLoader} {early late : LoadedModule} {path : String} {s : Session}

/-- A load whose early answers can be read goes on to describe and register the module, with the
registry as it was. -/
theorem loadChanging_of_read (late : LoadedModule) (s : Session) (h : early.path = .ok path)
    (read : l.readSource early path = .ok ()) :
    ∃ s', s'.registry = s.registry ∧ l.loadChanging early late s =
      enroll late path (.ofAnswer? (l.hostAnswer? early s))
        (l.statusFor path (.ofAnswer? (l.hostAnswer? early s))) s' := by
  obtain ⟨s₁, kept, run⟩ := l.chooseSymbols_run h s
  rw [read] at run
  unfold loadChanging
  rw [Action.bind_except_of_ok h, Action.bind_run_of_ok run]
  dsimp only
  rw [Action.bind_traced_of_ok (result_configureJustMyCode l late _ _)]
  refine ⟨_, ?_, rfl⟩
  exact kept

/-- A load whose early answers cannot be read fails with the first of them and changes no module. -/
theorem loadChanging_of_unread (late : LoadedModule) (s : Session) (h : early.path = .ok path)
    {e : SymbolError} (unread : l.readSource early path = .error e) :
    (l.loadChanging early late s).result = .error e ∧
      (l.loadChanging early late s).session.registry = s.registry := by
  obtain ⟨s₁, kept, run⟩ := l.chooseSymbols_run h s
  rw [unread] at run
  unfold loadChanging
  rw [Action.bind_except_of_ok h, Action.bind_run_of_error run]
  exact ⟨rfl, kept⟩

/-- Everything that a load can do: it fails as the verdict says and changes no module, or it
succeeds as the verdict says and puts one entry behind the others. -/
theorem loadChanging_cases (l : ModuleLoader) (early late : LoadedModule) (s : Session) :
    (∃ e, l.verdict early late s.registry (.ofAnswer? (l.hostAnswer? early s)) = .error e ∧
      (l.loadChanging early late s).result = .error e ∧
      (l.loadChanging early late s).session.registry = s.registry) ∨
    ∃ d, l.verdict early late s.registry (.ofAnswer? (l.hostAnswer? early s)) = .ok d ∧
      (l.loadChanging early late s).result = .ok d ∧
      ∃ free, (l.loadChanging early late s).session.registry =
        s.registry.append ⟨d.baseAddress, d.size, .ofAnswer? (l.hostAnswer? early s), late⟩
          free := by
  -- Check by check: the path, where the image is, the description, the address.
  unfold verdict
  cases h : early.path with
  | error e =>
    have failed : l.loadChanging early late s = ⟨.error e, s⟩ :=
      Action.bind_except_of_error h _ s
    exact Or.inl ⟨e, rfl, by rw [failed], by rw [failed]⟩
  | ok path =>
    cases read : l.readSource early path with
    | error e =>
      obtain ⟨failed, kept⟩ := loadChanging_of_unread late s h read
      exact Or.inl ⟨e, by simp only [bind, Except.bind, read], failed, kept⟩
    | ok _ =>
      obtain ⟨s', kept, run⟩ := loadChanging_of_read late s h read
      rw [run, ← kept]
      simp only [bind, Except.bind, read]
      cases described : describe late path
          (l.statusFor path (.ofAnswer? (l.hostAnswer? early s))) with
      | error e =>
        rw [enroll_of_undescribed described]
        exact Or.inl ⟨e, rfl, rfl, rfl⟩
      | ok d =>
        cases found : s'.registry.find? d.baseAddress with
        | some taken =>
          obtain ⟨failed, same⟩ := enroll_of_taken (.ofAnswer? (l.hostAnswer? early s))
            described found
          refine Or.inl ⟨_, ?_, failed, same⟩
          simp only [ModuleRegistry.checkFree, found]
        | none =>
          obtain ⟨registered, appended⟩ := enroll_of_free (.ofAnswer? (l.hostAnswer? early s))
            described found
          refine Or.inr ⟨d, ?_, registered, found, appended⟩
          simp only [ModuleRegistry.checkFree, found]
          rfl

/-- A load comes to its verdict, given the symbols that the host's answer amounts to. -/
theorem result_loadChanging (l : ModuleLoader) (early late : LoadedModule) (s : Session) :
    (l.loadChanging early late s).result =
      l.verdict early late s.registry (.ofAnswer? (l.hostAnswer? early s)) := by
  rcases l.loadChanging_cases early late s with ⟨e, h, failed, -⟩ | ⟨d, h, loaded, -⟩
  · rw [h, failed]
  · rw [h, loaded]

theorem registry_loadChanging_of_error {e : SymbolError}
    (h : (l.loadChanging early late s).result = .error e) :
    (l.loadChanging early late s).session.registry = s.registry := by
  rcases l.loadChanging_cases early late s with ⟨e', -, -, kept⟩ | ⟨d, -, loaded, -⟩
  · exact kept
  · rw [loaded] at h
    cases h

theorem registry_loadChanging_of_ok {d : ModuleDescriptor}
    (h : (l.loadChanging early late s).result = .ok d) :
    ∃ free, (l.loadChanging early late s).session.registry =
      s.registry.append ⟨d.baseAddress, d.size, .ofAnswer? (l.hostAnswer? early s), late⟩ free := by
  rcases l.loadChanging_cases early late s with ⟨e, -, failed, -⟩ | ⟨d', -, loaded, appended⟩
  · rw [failed] at h
    cases h
  · rw [loaded] at h
    cases h
    exact appended

/-- What is known of a module that was loaded: its description tells what it answered. -/
theorem describe_of_loadChanging {d : ModuleDescriptor}
    (h : (l.loadChanging early late s).result = .ok d) :
    ∃ path, early.path = .ok path ∧ (l.policy path = true → early.ReadsSource) ∧
      describe late path (l.statusFor path (.ofAnswer? (l.hostAnswer? early s))) = .ok d ∧
      s.registry.find? d.baseAddress = none := by
  rw [result_loadChanging] at h
  exact verdict_eq_ok_iff.1 h

/-- Symbols are reported as loaded exactly when the host gave a provider. -/
theorem status_eq_loaded_iff {d : ModuleDescriptor}
    (h : (l.loadChanging early late s).result = .ok d) :
    d.status = .loaded ↔ ∃ p, l.hostAnswer? early s = some (.ok p) := by
  obtain ⟨path, named, -, described, -⟩ := describe_of_loadChanging h
  obtain ⟨-, -, -, -, -, status⟩ := describe_eq_ok_iff.1 described
  rw [status, ← SymbolAccess.hasProvider_ofAnswer?_iff]
  unfold statusFor
  by_cases wanted : l.policy path = true
  · simp only [wanted, ↓reduceIte]
    split <;> simp_all
  · -- Without a wish for symbols the host is not asked.
    have unasked : l.hostAnswer? early s = none := by simp [hostAnswer?, named, wanted]
    simp [wanted, unasked, SymbolAccess.hasProvider_ofAnswer?_iff]

/-- A load succeeds when what it asks for can be read and the address is free. -/
theorem loadChanging_ok_iff : (∃ d, (l.loadChanging early late s).result = .ok d) ↔
    early.ReadsPath ∧
    (∀ path, early.path = .ok path → l.policy path = true → early.ReadsSource) ∧
    (∃ id, late.versionId = .ok id) ∧
    ∃ base size, late.baseAddress = .ok base ∧ late.size = .ok size ∧
      base ∉ s.registry.entries.map ModuleEntry.address := by
  constructor
  · rintro ⟨d, h⟩
    obtain ⟨path, named, read, described, free⟩ := describe_of_loadChanging h
    obtain ⟨id, base, size, -⟩ := describe_eq_ok_iff.1 described
    refine ⟨LoadedModule.path_eq_ok_iff.1 ⟨path, named⟩, ?_, ⟨_, id⟩, _, _, base, size,
      ModuleRegistry.find?_eq_none_iff.1 free⟩
    intro path' named'
    cases named.symm.trans named'
    exact read
  · rintro ⟨reported, read, ⟨id, identified⟩, base, size, based, sized, free⟩
    obtain ⟨path, named⟩ := LoadedModule.path_eq_ok_iff.2 reported
    refine ⟨⟨id, FilePath.fileName path, path,
      l.statusFor path (.ofAnswer? (l.hostAnswer? early s)), base, size⟩, ?_⟩
    rw [result_loadChanging]
    exact verdict_eq_ok_iff.2 ⟨path, named, read path named,
      describe_eq_ok_iff.2 ⟨identified, based, sized, rfl, rfl, rfl⟩,
      ModuleRegistry.find?_eq_none_iff.2 free⟩

end Load

/-- **A load is all or nothing.** A load that fails leaves the registry as it was; one that succeeds
puts a single entry behind the others, at the address and of the size that it returns, with symbols
exactly if it reports them as loaded. It succeeds exactly if the path can be read, where the image
is can be read should the policy want symbols, the identity and the place can be read, and the
address is free. A failure has nothing to do with the host or with the switches for Just My Code:
with any other host and any other switches the load fails in the same way. An identity that cannot
be read is always reported as a fault of the metadata. -/
theorem loadChanging_all_or_nothing (l : ModuleLoader) (early late : LoadedModule) (s : Session) :
    (∀ e, (l.loadChanging early late s).result = .error e →
      (l.loadChanging early late s).session.registry = s.registry) ∧
    (∀ d, (l.loadChanging early late s).result = .ok d → ∃ entry,
      (l.loadChanging early late s).session.registry.entries = s.registry.entries ++ [entry] ∧
      entry.address = d.baseAddress ∧ entry.size = d.size ∧ entry.module = late ∧
      (entry.symbols.hasProvider = true ↔ d.status = .loaded)) ∧
    ((∃ d, (l.loadChanging early late s).result = .ok d) ↔
      early.ReadsPath ∧
      (∀ path, early.path = .ok path → l.policy path = true → early.ReadsSource) ∧
      (∃ id, late.versionId = .ok id) ∧
      ∃ base size, late.baseAddress = .ok base ∧ late.size = .ok size ∧
        base ∉ s.registry.entries.map ModuleEntry.address) ∧
    (∀ service reader justMyCode setUserCode setMethodUserCode s' e,
      s'.registry = s.registry → (l.loadChanging early late s).result = .error e →
      (loadChanging ⟨service, l.policy, reader, justMyCode⟩ early
        { late with setUserCode, setMethodUserCode } s').result = .error e) ∧
    ∀ path e, early.path = .ok path → (l.policy path = true → early.ReadsSource) →
      late.versionId = .error e →
      (l.loadChanging early late s).result =
        .error (.malformedMetadata (.identity path e.message)) := by
  refine ⟨fun e h => registry_loadChanging_of_error h, ?_, loadChanging_ok_iff, ?_, ?_⟩
  · intro d h
    obtain ⟨free, appended⟩ := registry_loadChanging_of_ok h
    rw [appended]
    refine ⟨_, rfl, rfl, rfl, rfl, ?_⟩
    rw [SymbolAccess.hasProvider_ofAnswer?_iff]
    exact (status_eq_loaded_iff h).symm
  · intro service reader justMyCode setUserCode setMethodUserCode s' e same h
    rw [result_loadChanging] at h ⊢
    rw [same]
    -- The switches do not occur in the verdict.
    show verdict ⟨service, l.policy, reader, justMyCode⟩ early late s.registry _ = .error e
    rw [verdict_congr l ⟨service, l.policy, reader, justMyCode⟩ rfl,
      verdict_eq_map l early late s.registry (.ofAnswer? (l.hostAnswer? early s)), h]
    rfl
  · intro path e named read unidentified
    rw [result_loadChanging]
    exact verdict_of_unidentified named read unidentified

end ModuleLoader

end DebugSymbols

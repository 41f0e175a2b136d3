import DebugSymbols.Proofs.Loading

/-!
# The switches for Just My Code

A load tells the debugged process whether the module is the user's code, and then takes the methods
out of it that are not. Nothing else throws a switch, so the switches of a load can be read off its
journal (`Session.switches`), and they do not depend on which of them are refused. Since a refusal
is noted and no more, neither the result of the load nor the registry depends on it
(`switches_of_load`).
-/

namespace DebugSymbols

/-! ## Switches among events -/

namespace Event

def isSwitch : Event → Bool
  | userCode .. | methodUserCode .. => true
  | _ => false

/-- The switches among events, in their order. -/
def switches (events : List Event) : List Event :=
  events.filter isSwitch

theorem switches_append (first last : List Event) :
    switches (first ++ last) = switches first ++ switches last :=
  List.filter_append first last

theorem switches_eq_nil {events : List Event} (h : ∀ event ∈ events, event.isOfHost = true) :
    switches events = [] := by
  refine List.filter_eq_nil_iff.2 fun event listed => ?_
  have ofHost := h event listed
  cases event <;> simp_all [isOfHost, isSwitch]

end Event

/-- The switches that have been thrown in a session. -/
def Session.switches (s : Session) : List Event :=
  Event.switches s.journal

/-- Requests to the host throw no switch. -/
theorem Action.IsApart.switches : IsApart Session.switches where
  latch _ _ := rfl
  journal s events h := by
    show Event.switches (s.journal ++ events) = Event.switches s.journal
    rw [Event.switches_append, Event.switches_eq_nil h, List.append_nil]

theorem ModuleRegistry.isOfHost_of_mem_insert {r : ModuleRegistry} {e : ModuleEntry} {event : Event}
    (listed : event ∈ (r.insert e).events) : event.isOfHost = true := by
  unfold insert at listed
  split at listed
  · rw [List.mem_singleton.1 listed]
    rfl
  · rw [List.mem_singleton.1 listed]
    rfl

namespace ModuleLoader

open DebugSymbols.Action (Keeps)

/-- Registering a module throws no switch. -/
theorem keeps_enroll (m : LoadedModule) (path : String) (symbols : SymbolAccess)
    (status : SymbolStatus) : Keeps Session.switches (enroll m path symbols status) := by
  refine (Keeps.of_except .switches _).bind fun descriptor => ?_
  have registered (e : ModuleEntry) : Keeps Session.switches (Session.register e) := by
    refine Keeps.bind (fun _ => rfl) fun r => ?_
    exact (Keeps.of_traced .switches fun _ => r.isOfHost_of_mem_insert).bind fun _ _ => rfl
  exact (registered _).bind fun _ => (Keeps.note .switches _).bind fun _ => Keeps.pure _

/-- Nothing is switched before the symbols of a module are chosen. -/
theorem switches_chooseSymbols (l : ModuleLoader) (m : LoadedModule) (path : String)
    (s : Session) : (l.chooseSymbols m path s).session.switches = s.switches :=
  l.keeps_chooseSymbols .switches m path s

/-! ## What is switched -/

/-- Every method is switched, whatever the process answers. -/
theorem switches_markMethod (m : LoadedModule) (name : String) (earlier : List MethodToken)
    (method : MethodToken) : Event.switches (markMethod m name earlier method).events =
      [.methodUserCode m.key method false] := by
  unfold markMethod
  rw [Traced.events_bind_of_ok (Traced.result_enter _), Event.switches_append]
  cases m.setMethodUserCode method false earlier <;> rfl

/-- Which methods are switched does not depend on what has become of the earlier ones. -/
theorem switches_markMethods (m : LoadedModule) (name : String)
    (earlier methods : List MethodToken) : Event.switches (markMethods m name earlier methods).events =
      methods.map fun method => .methodUserCode m.key method false := by
  induction methods generalizing earlier with
  | nil => rfl
  | cons method rest ih =>
    rw [markMethods, Traced.events_bind_of_ok (result_markMethod m name earlier method),
      Event.switches_append, switches_markMethod, ih]
    rfl

/-- A method that is listed twice is switched twice, be it taken once and refused once. -/
example (m : LoadedModule) (name : String) (method : MethodToken) (refusal : SymbolError) :
    let once : Varying MethodToken Unit := fun earlier =>
      if earlier.isEmpty then .ok () else .error refusal
    (markMethods { m with setMethodUserCode := fun _ _ => once } name [] [method, method]).events =
      [.methodUserCode m.key method false, .methodUserCode m.key method false,
        .notice (.methodRejected name method refusal.message)] := rfl

theorem switches_askNonUserMethods (p : SymbolProvider) :
    Event.switches p.askNonUserMethods.events = [] := by
  unfold SymbolProvider.askNonUserMethods SymbolProvider.ask
  cases p.nonUserMethods with
  | none => rfl
  | some answer => cases p.watched <;> rfl

/-- The provider by which the user's code is told from other code. There is none where no such code
is marked, and then the module counts as other code. -/
def codeProvider? (l : ModuleLoader) (symbols : SymbolAccess) : Option SymbolProvider :=
  if l.justMyCode then symbols.provider? else none

/-- The methods that are taken out of the user's code again. -/
def takenOut (l : ModuleLoader) (m : LoadedModule) (symbols : SymbolAccess) : List MethodToken :=
  match m.setUserCode (l.codeProvider? symbols).isSome, l.codeProvider? symbols with
  | .ok (), some p => p.askNonUserMethods.result.toOption.getD []
  | _, _ => []

/-- The module is switched first, and then the methods that are taken out of it. -/
theorem switches_configureJustMyCode (l : ModuleLoader) (m : LoadedModule) (name : String)
    (symbols : SymbolAccess) : Event.switches (l.configureJustMyCode m name symbols).events =
      .userCode m.key (l.codeProvider? symbols).isSome ::
        (l.takenOut m symbols).map fun method => .methodUserCode m.key method false := by
  unfold configureJustMyCode takenOut codeProvider?
  generalize (if l.justMyCode then symbols.provider? else none) = provider?
  rw [Traced.events_bind_of_ok (Traced.result_enter _), Event.switches_append]
  refine congrArg (Event.userCode m.key provider?.isSome :: ·) ?_
  cases m.setUserCode provider?.isSome with
  | error e => rfl
  | ok _ =>
    cases provider? with
    | none => rfl
    | some p =>
      dsimp only
      rw [Traced.events_bind_of_ok (Traced.result_attempt _), Event.switches_append,
        Traced.events_attempt, switches_askNonUserMethods]
      cases p.askNonUserMethods.result with
      | error e => rfl
      | ok methods =>
        dsimp only
        rw [Traced.events_bind_of_ok (result_markMethods m name [] methods),
          Event.switches_append, switches_markMethods]
        exact List.append_nil _

/-! ## Which methods are taken out -/

/-- The methods in `listed` are to be taken out of the user's code again: the loader marks such
code, the process has taken the module for it, and the provider that the host gave lists them. -/
structure TakesOut (l : ModuleLoader) (m : LoadedModule)
    (answer : Option (Except SymbolError SymbolProvider)) (listed : List MethodToken) : Prop where
  wanted : l.justMyCode = true
  accepted : m.setUserCode true = .ok ()
  lists : ∃ p, answer = some (.ok p) ∧ p.askNonUserMethods.result = .ok listed

section TakenOut

variable {l : ModuleLoader} {m : LoadedModule} {p : SymbolProvider}
  {answer : Option (Except SymbolError SymbolProvider)} {listed : List MethodToken}

theorem codeProvider?_eq_some_iff : l.codeProvider? (.ofAnswer? answer) = some p ↔
    l.justMyCode = true ∧ answer = some (.ok p) := by
  unfold codeProvider? SymbolAccess.ofAnswer?
  cases l.justMyCode with
  | false => simp
  | true =>
    simp only [↓reduceIte, true_and]
    split <;> simp_all [SymbolAccess.provider?]

theorem isSome_codeProvider?_iff : (l.codeProvider? (.ofAnswer? answer)).isSome = true ↔
    l.justMyCode = true ∧ ∃ p, answer = some (.ok p) := by
  simp only [Option.isSome_iff_exists, codeProvider?_eq_some_iff, exists_and_left]

theorem TakesOut.takenOut_eq (h : l.TakesOut m answer listed) :
    l.takenOut m (.ofAnswer? answer) = listed := by
  obtain ⟨p, answered, lists⟩ := h.lists
  have provided := codeProvider?_eq_some_iff.2 ⟨h.wanted, answered⟩
  unfold takenOut
  rw [provided, Option.isSome_some, h.accepted]
  dsimp only
  rw [lists]
  rfl

theorem takenOut_eq_nil (h : ∀ listed, ¬ l.TakesOut m answer listed) :
    l.takenOut m (.ofAnswer? answer) = [] := by
  unfold takenOut
  cases provided : l.codeProvider? (.ofAnswer? answer) with
  | none =>
    rw [Option.isSome_none]
    cases m.setUserCode false <;> rfl
  | some p =>
    obtain ⟨wanted, answered⟩ := codeProvider?_eq_some_iff.1 provided
    rw [Option.isSome_some]
    cases accepted : m.setUserCode true with
    | error e => rfl
    | ok _ =>
      dsimp only
      cases lists : p.askNonUserMethods.result with
      | error e => rfl
      | ok listed => exact absurd ⟨wanted, accepted, p, answered, lists⟩ (h listed)

end TakenOut

end ModuleLoader

/-- Tables list each method that is flagged, and in ascending order. -/
theorem SymbolTable.pairwise_nonUserMethods (t : SymbolTable) :
    t.nonUserMethods.Pairwise fun m n => m.raw < n.raw := by
  rw [nonUserMethods, List.pairwise_map]
  exact t.methods_ascending.filter _

theorem SymbolTable.mem_nonUserMethods_iff {t : SymbolTable} {method : MethodToken} :
    method ∈ t.nonUserMethods ↔
      ∃ table, (method, table) ∈ t.methods ∧ table.isUserCode = false := by
  simp [nonUserMethods]

/-! ## Loads -/

/-- The module if it takes every switch. -/
def LoadedModule.compliant (m : LoadedModule) : LoadedModule :=
  { m with setUserCode := fun _ => .ok (), setMethodUserCode := fun _ _ => .ok () }

def ModuleEntry.compliant (e : ModuleEntry) : ModuleEntry :=
  { e with module := e.module.compliant }

namespace ModuleLoader

section Load

variable {l : ModuleLoader} {early late : LoadedModule} {path : String} {s : Session}

/-- Once the symbols are chosen, a load throws the switches for them, and no others. -/
theorem switches_loadChanging (late : LoadedModule) (s : Session) (h : early.path = .ok path)
    (read : l.readSource early path = .ok ()) :
    let symbols := .ofAnswer? (l.hostAnswer? early s)
    (l.loadChanging early late s).session.switches =
      s.switches ++ .userCode late.key (l.codeProvider? symbols).isSome ::
        (l.takenOut late symbols).map fun method => .methodUserCode late.key method false := by
  intro symbols
  have kept := l.switches_chooseSymbols early path s
  have chosen := l.result_chooseSymbols h s
  rcases run : l.chooseSymbols early path s with ⟨result, s'⟩
  rw [run, read] at chosen
  rw [run] at kept
  obtain rfl : result = .ok _ := chosen
  unfold loadChanging
  rw [Action.bind_except_of_ok h, Action.bind_run_of_ok run]
  dsimp only
  rw [Action.bind_traced_of_ok (result_configureJustMyCode l late _ _),
    keeps_enroll late path _ _]
  show Event.switches (s'.journal ++ _) = _
  rw [Event.switches_append, switches_configureJustMyCode, ← kept]
  rfl

theorem switches_loadChanging_of_unread (late : LoadedModule) (s : Session)
    (h : ∀ path, early.path = .ok path → l.readSource early path ≠ .ok ()) :
    (l.loadChanging early late s).session.switches = s.switches := by
  unfold loadChanging
  cases named : early.path with
  | error e => rw [Action.bind_except_of_error rfl]
  | ok path =>
    have kept := l.switches_chooseSymbols early path s
    have chosen := l.result_chooseSymbols named s
    rcases run : l.chooseSymbols early path s with ⟨result, s'⟩
    rw [run] at chosen kept
    rw [Action.bind_except_of_ok rfl]
    cases read : l.readSource early path with
    | ok _ => exact absurd read (h path named)
    | error e =>
      rw [read] at chosen
      obtain rfl : result = .error e := chosen
      rw [Action.bind_run_of_error run]
      exact kept

/-- What the process refuses changes neither what a load comes to nor what it registers. -/
theorem loadChanging_compliant (l : ModuleLoader) (early late : LoadedModule) (s : Session) :
    (l.loadChanging early.compliant late.compliant s).result =
        (l.loadChanging early late s).result ∧
      ∃ added,
        (l.loadChanging early late s).session.registry.entries = s.registry.entries ++ added ∧
        (l.loadChanging early.compliant late.compliant s).session.registry.entries =
          s.registry.entries ++ added.map ModuleEntry.compliant := by
  have same : (l.loadChanging early.compliant late.compliant s).result =
      (l.loadChanging early late s).result := by
    rw [result_loadChanging, result_loadChanging]
    rfl
  refine ⟨same, ?_⟩
  cases result : (l.loadChanging early late s).result with
  | error e =>
    rw [registry_loadChanging_of_error result,
      registry_loadChanging_of_error (same.trans result)]
    exact ⟨[], (List.append_nil _).symm, (List.append_nil _).symm⟩
  | ok d =>
    obtain ⟨free, appended⟩ := registry_loadChanging_of_ok result
    obtain ⟨free', appended'⟩ := registry_loadChanging_of_ok (same.trans result)
    rw [appended, appended']
    exact ⟨[_], rfl, rfl⟩

end Load

end ModuleLoader

/-- **The switches that a load throws.** A load that has read the path and decided on symbols tells
the process once whether the module is the user's code: it is if the host gave symbols and the
loader marks such code. If the process takes that and the provider lists methods that are not the
user's code, these are taken out again, each once for every time it is listed, in the order of the
list, whichever of them the process refuses. Tables list each method that is flagged once, in
ascending order. Otherwise no method is switched, and a load that does not get so far throws no
switch at all. What the process refuses changes neither the result nor the registry: they are as for
a module that takes every switch. -/
theorem switches_of_load (l : ModuleLoader) (early late : LoadedModule) (s : Session) :
    let run := l.loadChanging early late s
    let answer := l.hostAnswer? early s
    let isDecided := ∃ path, early.path = .ok path ∧ (l.policy path = true → early.ReadsSource)
    (isDecided → ∃ isUserCode methods,
      run.session.switches = s.switches ++ .userCode late.key isUserCode ::
        methods.map (fun method => .methodUserCode late.key method false) ∧
      (isUserCode = true ↔ l.justMyCode = true ∧ ∃ p, answer = some (.ok p)) ∧
      (∀ listed, l.TakesOut late answer listed → methods = listed) ∧
      ((∀ listed, ¬ l.TakesOut late answer listed) → methods = [])) ∧
    (¬ isDecided → run.session.switches = s.switches) ∧
    (∀ (t : SymbolTable) listed, answer = some (.ok t.provider) → l.TakesOut late answer listed →
      listed.Pairwise (fun m n => m.raw < n.raw) ∧
      ∀ method, method ∈ listed ↔
        ∃ table, (method, table) ∈ t.methods ∧ table.isUserCode = false) ∧
    (l.loadChanging early.compliant late.compliant s).result = run.result ∧
    ∃ added, run.session.registry.entries = s.registry.entries ++ added ∧
      (l.loadChanging early.compliant late.compliant s).session.registry.entries =
        s.registry.entries ++ added.map ModuleEntry.compliant := by
  intro run answer isDecided
  refine ⟨?_, ?_, ?_, l.loadChanging_compliant early late s⟩
  · rintro ⟨path, named, read⟩
    exact ⟨_, _,
      ModuleLoader.switches_loadChanging late s named (ModuleLoader.readSource_eq_ok_iff.2 read),
      ModuleLoader.isSome_codeProvider?_iff,
      fun _ takesOut => takesOut.takenOut_eq, ModuleLoader.takenOut_eq_nil⟩
  · intro undecided
    refine ModuleLoader.switches_loadChanging_of_unread late s fun path named read => ?_
    exact undecided ⟨path, named, ModuleLoader.readSource_eq_ok_iff.1 read⟩
  · intro t listed answered takesOut
    obtain ⟨p, answered', lists⟩ := takesOut.lists
    cases answered.symm.trans answered'
    cases lists
    exact ⟨t.pairwise_nonUserMethods, fun _ => SymbolTable.mem_nonUserMethods_iff⟩

end DebugSymbols

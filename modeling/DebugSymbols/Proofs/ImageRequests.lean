import DebugSymbols.Proofs.HostUse

/-!
# The image that a load asks for

A load makes up its mind about the image from answers of the module: whether the policy accepts its
path, whether it has an image at all, and where that is. If one of these answers is missing or says
no, the host is left alone. Otherwise one request is made of it, and since the place of the image is
read again when the module is registered, what was asked for is what is registered
(`load_asks_once`).
-/

namespace DebugSymbols

/-! ## One request to the host -/

namespace SymbolService

variable {v : SymbolService} {request : HostCall}

/-- A host without a guard is called for the work, and for nothing else. -/
theorem hostCalls_serve_of_unguarded (unguarded : v.isGuarded = false)
    (work : request.isWork = true) (s : Session) :
    (v.serve request s).session.hostCalls = s.hostCalls ++ [request] := by
  rw [serve_of_ready work (ready_of_unguarded unguarded s), hostCalls_callHost]

/-- A request for work leads to two calls at most: one that prepares the host, and the work. -/
theorem exists_hostCalls_serve (v : SymbolService) (work : request.isWork = true) (s : Session) :
    ∃ new, (v.serve request s).session.hostCalls = s.hostCalls ++ new ∧
      new.Sublist [.prepare, request] := by
  cases guarded : v.isGuarded with
  | false =>
    refine ⟨[request], hostCalls_serve_of_unguarded guarded work s, ?_⟩
    exact List.sublist_cons_self _ _
  | true =>
    -- Once the attempt has been made, there is the work or nothing.
    have attempted {t : Session}
        (tried : t.latch = .prepared ∨ ∃ reason, t.latch = .failed reason) :
        ∃ new, (v.serve request t).session.hostCalls = t.hostCalls ++ new ∧
          new.Sublist [request] := by
      rcases tried with prepared | ⟨reason, failed⟩
      · rw [serve_of_prepared guarded prepared work, hostCalls_callHost]
        exact ⟨[request], rfl, List.Sublist.refl _⟩
      · rw [serve_of_failed guarded failed]
        exact ⟨[], (List.append_nil _).symm, List.nil_sublist _⟩
    cases latch : s.latch with
    | prepared =>
      obtain ⟨new, calls, few⟩ := attempted (.inl latch)
      exact ⟨new, calls, few.cons _⟩
    | failed reason =>
      obtain ⟨new, calls, few⟩ := attempted (.inr ⟨reason, latch⟩)
      exact ⟨new, calls, few.cons _⟩
    | untried =>
      obtain ⟨new, calls, few⟩ := attempted (v.host.latch_attempted s)
      refine ⟨.prepare :: new, ?_, few.cons_cons _⟩
      rw [serve_of_untried guarded latch, calls, SymbolHost.hostCalls_attempted,
        List.append_assoc, List.singleton_append]

end SymbolService

/-! ## Which image it is -/

namespace ModuleLoader

variable {l : ModuleLoader} {m : LoadedModule} {path : String} {source : ImageSource}

/-- The image is the file, or the memory in which the module says it is. -/
theorem source?_eq_some_iff : l.source? m path = .ok (some source) ↔ m.isDynamic = .ok false ∧
    (m.isInMemory = .ok false ∧ source = .file path ∨
      m.isInMemory = .ok true ∧ ∃ base size, m.baseAddress = .ok base ∧ m.size = .ok size ∧
        source = .inMemory ⟨base, size.toUInt64⟩ .file l.reader) := by
  unfold source?
  cases m.isDynamic with
  | error e => simp [bind, Except.bind]
  | ok dynamic =>
    cases dynamic with
    | true => simp [bind, Except.bind, pure, Except.pure]
    | false =>
      cases m.isInMemory with
      | error e => simp [bind, Except.bind]
      | ok inMemory =>
        cases inMemory with
        | false => simp [bind, Except.bind, pure, Except.pure, eq_comm (a := source)]
        | true =>
          cases m.baseAddress <;> cases m.size <;>
            simp [bind, Except.bind, pure, Except.pure, eq_comm (a := source)]

theorem image?_eq_some_iff : l.image? m = some source ↔
    ∃ path, m.path = .ok path ∧ l.policy path = true ∧ l.source? m path = .ok (some source) := by
  unfold image?
  cases m.path with
  | error e => simp
  | ok path =>
    by_cases wanted : l.policy path = true
    · simp only [wanted, ↓reduceIte, Except.ok.injEq, exists_eq_left', true_and]
      cases l.source? m path <;> simp
    · simp [wanted]

/-- An image is asked for when symbols are wanted, there is an image, and its place can be read. -/
theorem isSome_image?_iff_read : (l.image? m).isSome = true ↔
    (∃ path, m.path = .ok path ∧ l.policy path = true) ∧ m.isDynamic = .ok false ∧
      ∃ inMemory, m.isInMemory = .ok inMemory ∧
        (inMemory = true → (∃ base, m.baseAddress = .ok base) ∧ ∃ size, m.size = .ok size) := by
  simp only [Option.isSome_iff_exists, image?_eq_some_iff, source?_eq_some_iff]
  constructor
  · rintro ⟨source, path, named, wanted, hasImage, place⟩
    rcases place with ⟨inFile, -⟩ | ⟨inMemory, base, size, based, sized, -⟩
    · exact ⟨⟨path, named, wanted⟩, hasImage, false, inFile, nofun⟩
    · exact ⟨⟨path, named, wanted⟩, hasImage, true, inMemory, fun _ => ⟨⟨base, based⟩, size, sized⟩⟩
  · rintro ⟨⟨path, named, wanted⟩, hasImage, inMemory, read, place⟩
    cases inMemory with
    | false => exact ⟨_, path, named, wanted, hasImage, .inl ⟨read, rfl⟩⟩
    | true =>
      obtain ⟨⟨base, based⟩, size, sized⟩ := place rfl
      exact ⟨_, path, named, wanted, hasImage, .inr ⟨read, base, size, based, sized, rfl⟩⟩

/-- What is asked for is where the description says that the module is. -/
theorem image?_of_load {s : Session} {d : ModuleDescriptor} (loaded : (l.load m s).result = .ok d)
    (asked : l.image? m = some source) :
    m.isInMemory = .ok false ∧ source = .file d.path ∨
      m.isInMemory = .ok true ∧
        source = .inMemory ⟨d.baseAddress, d.size.toUInt64⟩ .file l.reader := by
  obtain ⟨path, named, -, described, -⟩ := describe_of_loadChanging loaded
  obtain ⟨-, based, sized, -, rfl, -⟩ := describe_eq_ok_iff.1 described
  obtain ⟨path', named', -, sourced⟩ := image?_eq_some_iff.1 asked
  cases named.symm.trans named'
  obtain ⟨-, inFile | ⟨inMemory, base, size, based', sized', place⟩⟩ :=
    source?_eq_some_iff.1 sourced
  · exact .inl inFile
  · cases based.symm.trans based'
    cases sized.symm.trans sized'
    exact .inr ⟨inMemory, place⟩

end ModuleLoader

/-- **A load asks the host for one image at most, and it is the one that it registers.** It asks
exactly if the path can be read and the policy accepts it, the module is known not to have been made
at run time, and it can be read whether the image is in memory and, if so, where. If it asks, the
host is left as one request leaves it: without a guard there is one more call, and with one there
are at most the attempt and the work. If it does not ask, the host is not touched, and the latch
stays as it was. A load that succeeds has asked for the file at the path in the description or, if
the module is in memory, for the memory at the address and of the size in the description, with the
layout of the file and the reader of the loader; and the module is registered there, with the
symbols that the request came to. -/
theorem load_asks_once (l : ModuleLoader) (m : LoadedModule) (s : Session) :
    let run := l.load m s
    ∃ image? : Option ImageSource,
      (image?.isSome = true ↔
        (∃ path, m.path = .ok path ∧ l.policy path = true) ∧ m.isDynamic = .ok false ∧
          ∃ inMemory, m.isInMemory = .ok inMemory ∧
            (inMemory = true → (∃ base, m.baseAddress = .ok base) ∧ ∃ size, m.size = .ok size)) ∧
      (image? = none → run.session.hostState = s.hostState) ∧
      (∀ source, image? = some source →
        run.session.hostState = (l.service.load source s).session.hostState ∧
        (l.service.isGuarded = false → run.session.hostCalls = s.hostCalls ++ [.load source]) ∧
        ∃ new, run.session.hostCalls = s.hostCalls ++ new ∧
          new.Sublist [.prepare, .load source]) ∧
      ∀ d, run.result = .ok d → m.path = .ok d.path ∧
        (∃ e, run.session.registry.entries = s.registry.entries ++ [e] ∧
          e.address = d.baseAddress ∧ e.size = d.size ∧
          e.symbols = .ofAnswer? (image?.map fun source => (l.service.load source s).result)) ∧
        ∀ source, image? = some source →
          m.isInMemory = .ok false ∧ source = .file d.path ∨
            m.isInMemory = .ok true ∧
              source = .inMemory ⟨d.baseAddress, d.size.toUInt64⟩ .file l.reader := by
  intro run
  have state : run.session.hostState = _ := l.hostState_loadChanging m m s
  refine ⟨l.image? m, ModuleLoader.isSome_image?_iff_read, fun unasked => ?_,
    fun source asked => ?_,
    fun d loaded => ⟨?_, ?_, fun source asked => ModuleLoader.image?_of_load loaded asked⟩⟩
  · rw [state, unasked]
  · have same : run.session.hostState = (l.service.load source s).session.hostState := by
      rw [state, asked]
    have calls : run.session.hostCalls = (l.service.load source s).session.hostCalls :=
      congrArg Prod.snd same
    have work : (HostCall.load source).isWork = true := rfl
    rw [calls]
    exact ⟨same, fun unguarded => SymbolService.hostCalls_serve_of_unguarded unguarded work s,
      l.service.exists_hostCalls_serve work s⟩
  · obtain ⟨path, named, -, described, -⟩ := ModuleLoader.describe_of_loadChanging loaded
    obtain ⟨-, -, -, -, rfl, -⟩ := ModuleLoader.describe_eq_ok_iff.1 described
    exact named
  · obtain ⟨free, appended⟩ := ModuleLoader.registry_loadChanging_of_ok loaded
    refine ⟨_, congrArg ModuleRegistry.entries appended, rfl, rfl, ?_⟩
    rw [← l.hostAnswer?_eq m s]

end DebugSymbols

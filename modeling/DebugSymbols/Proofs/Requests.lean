import DebugSymbols.StackFrame
import DebugSymbols.Proofs.Loading
import Mathlib.Data.List.Nodup

/-!
# Runs of requests

A user of the debugger loads modules, forgets them all, works out expressions, and asks about the
registered modules. A run is any list of such requests. Without a cleanup a run only puts entries
behind those there are (`entries_prefix_run`), so what has been found once is found from then on
(`ModuleRegistry.find?_of_prefix`).
-/

namespace DebugSymbols

/-- A question about the registered modules. -/
inductive Question where
  | locate (path : String) (line : UInt32)
  | locateIn (m : LoadedModule) (path : String) (line : UInt32)
  | sequencePoint (f : StackFrame)
  | stepRange (active : Except SymbolError (Option StackFrame))
  | localVariable (f : StackFrame) (slot : UInt32)
  | moduleNamed (name : String)
  | visit (visitor : LoadedModule → Except SymbolError Unit)

/-- Puts a question. Of the answer only the events, and whether it is a failure, stay. -/
def Question.put (r : ModuleRegistry) : Question → Traced Unit
  | locate path line => (r.locate path line).map fun _ => ()
  | locateIn m path line => (m.locate r path line).map fun _ => ()
  | sequencePoint f => (f.sequencePoint r).map fun _ => ()
  | stepRange active => (StackFrame.stepRangeOfThread active r).map fun _ => ()
  | localVariable f slot => (f.localVariable r slot).map fun _ => ()
  | moduleNamed name => Traced.ofExcept ((r.moduleNamed name).map fun _ => ())
  | visit visitor => Traced.ofExcept (r.visit visitor)

/-- What a user of the debugger can ask for. -/
inductive Request where
  | load (m : LoadedModule)
  | cleanup
  | parse (text typeName : String)
  | evaluate (expression : String) (children : ChildVisitor)
  | ask (question : Question)

namespace Session

variable {l : ModuleLoader} {s : Session}

/-- The session after a request. -/
def after (l : ModuleLoader) (s : Session) : Request → Session
  | .load m => (l.load m s).session
  | .cleanup => (cleanup s).session
  | .parse text typeName => (l.service.parse text typeName s).session
  | .evaluate expression children => (l.service.evaluate expression children s).session
  | .ask question => (Action.ofTraced (question.put s.registry) s).session

/-- The session after the requests of a run, one after the other. -/
def run (l : ModuleLoader) (s : Session) (requests : List Request) : Session :=
  requests.foldl (after l) s

/-- Behind the requests in `before`, the run has loaded `m` with the description `d`, and no cleanup
has come since. -/
def Loads (l : ModuleLoader) (requests before : List Request) (m : LoadedModule)
    (d : ModuleDescriptor) : Prop :=
  ∃ after, requests = before ++ .load m :: after ∧ .cleanup ∉ after ∧
    (l.load m (start.run l before)).result = .ok d

theorem Loads.result {requests before : List Request} {m : LoadedModule} {d : ModuleDescriptor}
    (h : Loads l requests before m d) : (l.load m (start.run l before)).result = .ok d := by
  obtain ⟨after, -, -, loaded⟩ := h
  exact loaded

theorem run_append (first last : List Request) :
    s.run l (first ++ last) = (s.run l first).run l last :=
  List.foldl_append

theorem entries_prefix_of_registry_eq {s' : Session} (h : s'.registry = s.registry) :
    s.registry.entries <+: s'.registry.entries :=
  h ▸ List.prefix_rfl

/-- Loads and cleanups apart, no request changes the registry. -/
theorem registry_after {request : Request} (notLoad : ¬ ∃ m, request = .load m)
    (notCleanup : request ≠ .cleanup) : (s.after l request).registry = s.registry := by
  cases request with
  | load m => exact absurd ⟨m, rfl⟩ notLoad
  | cleanup => exact absurd rfl notCleanup
  | parse text typeName => exact l.service.keeps_parse .registry text typeName s
  | evaluate expression children =>
    exact l.service.keeps_evaluate .registry expression children s
  | ask question => rfl

/-- A request other than a cleanup leaves the entries there are where they are. -/
theorem entries_prefix_after {request : Request} (h : request ≠ .cleanup) :
    s.registry.entries <+: (s.after l request).registry.entries := by
  by_cases isLoad : ∃ m, request = .load m
  · obtain ⟨m, rfl⟩ := isLoad
    cases result : (l.load m s).result with
    | error e =>
      exact entries_prefix_of_registry_eq (ModuleLoader.registry_loadChanging_of_error result)
    | ok d =>
      obtain ⟨free, appended⟩ := ModuleLoader.registry_loadChanging_of_ok result
      have entries : (s.after l (.load m)).registry.entries = s.registry.entries ++ [_] :=
        congrArg ModuleRegistry.entries appended
      rw [entries]
      exact List.prefix_append _ _
  · exact entries_prefix_of_registry_eq (registry_after isLoad h)

/-- A run without a cleanup only puts entries behind those there are. -/
theorem entries_prefix_run {requests : List Request} (h : .cleanup ∉ requests) :
    s.registry.entries <+: (s.run l requests).registry.entries := by
  induction requests generalizing s with
  | nil => exact List.prefix_refl _
  | cons request rest ih =>
    rw [List.mem_cons, not_or] at h
    exact (entries_prefix_after (Ne.symm h.1)).trans (ih h.2)

end Session

/-- What is found in a registry is found in every registry that continues it. -/
theorem ModuleRegistry.find?_of_prefix {r r' : ModuleRegistry} {a : Address} {e : ModuleEntry}
    (h : r.entries <+: r'.entries) (found : r.find? a = some e) : r'.find? a = some e := by
  obtain ⟨rest, same⟩ := h
  unfold find? at found ⊢
  rw [← same, List.find?_append, found]
  rfl

/-- No entry hides another. -/
theorem ModuleRegistry.find?_eq_some_iff {r : ModuleRegistry} {a : Address} {e : ModuleEntry} :
    r.find? a = some e ↔ e ∈ r.entries ∧ e.address = a := by
  have found {a : Address} {e : ModuleEntry} (h : r.find? a = some e) :
      e ∈ r.entries ∧ e.address = a :=
    ⟨List.mem_of_find?_eq_some h, by simpa using List.find?_some h⟩
  refine ⟨found, ?_⟩
  rintro ⟨listed, rfl⟩
  cases h : r.find? e.address with
  | none => exact absurd (List.mem_map_of_mem listed) (find?_eq_none_iff.1 h)
  | some other =>
    obtain ⟨listed', same⟩ := found h
    rw [List.inj_on_of_nodup_map r.addresses_nodup listed' listed same]

theorem ModuleRegistry.find?_append_self {r : ModuleRegistry} {e : ModuleEntry}
    (free : r.find? e.address = none) : (r.append e free).find? e.address = some e := by
  unfold find? at free
  show (r.entries ++ [e]).find? _ = some e
  rw [List.find?_append, free]
  simp

end DebugSymbols

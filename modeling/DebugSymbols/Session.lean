import DebugSymbols.ModuleRegistry

/-!
# Debugging sessions

A session knows the registered modules, remembers how preparing the symbol host went, and keeps a
journal of everything that happened. An action works on a session: its result may be an error, but
what it did to the session before failing stays done.
-/

namespace DebugSymbols

/-- How preparing the symbol host went. It is tried once, and the outcome holds from then on. -/
inductive HostLatch where
  | untried
  | prepared
  | failed (reason : String)
deriving DecidableEq

namespace HostLatch

def isAttempted (l : HostLatch) : Bool :=
  l != untried

def isFailed : HostLatch → Bool
  | failed _ => true
  | _ => false

end HostLatch

structure Session where
  registry : ModuleRegistry
  latch : HostLatch
  journal : List Event

namespace Session

def start : Session :=
  ⟨.empty, .untried, []⟩

def enter (s : Session) (event : Event) : Session :=
  { s with journal := s.journal ++ [event] }

def hostCalls (s : Session) : List HostCall :=
  s.journal.filterMap fun
    | .hostCall call => some call
    | _ => none

end Session

/-- What an action comes to: its result, and the session after it. -/
structure Outcome (α : Type) where
  result : Except SymbolError α
  session : Session

def Action (α : Type) : Type :=
  Session → Outcome α

namespace Action

variable {α β : Type}

/-- Continues after a success; after a failure the session stays as it is. -/
def andThen (x : Action α) (next : α → Action β) : Action β := fun s =>
  match x s with
  | ⟨.ok a, s'⟩ => next a s'
  | ⟨.error e, s'⟩ => ⟨.error e, s'⟩

instance : Monad Action where
  pure a := fun s => ⟨.ok a, s⟩
  bind := andThen

/-- Enters the events of a traced answer into the journal. -/
def ofTraced (t : Traced α) : Action α := fun s =>
  ⟨t.result, { s with journal := s.journal ++ t.events }⟩

instance : MonadLift Traced Action := ⟨ofTraced⟩

def fail (e : SymbolError) : Action α := fun s =>
  ⟨.error e, s⟩

def note (notice : Notice) : Action Unit :=
  ofTraced (Traced.note notice)

/-- Turns a failure into a value, so that the action goes on after it. -/
def attempt (x : Action α) : Action (Except SymbolError α) := fun s =>
  ⟨.ok (x s).result, (x s).session⟩

def registry : Action ModuleRegistry := fun s =>
  ⟨.ok s.registry, s⟩

def setRegistry (r : ModuleRegistry) : Action Unit := fun s =>
  ⟨.ok (), { s with registry := r }⟩

def latch : Action HostLatch := fun s =>
  ⟨.ok s.latch, s⟩

def setLatch (l : HostLatch) : Action Unit := fun s =>
  ⟨.ok (), { s with latch := l }⟩

/-- Calls the host: the answer goes by the calls before this one, and the call is entered. -/
def callHost (call : HostCall) (answer : List HostCall → Traced α) : Action α := fun s =>
  ofTraced (answer s.hostCalls) (s.enter (.hostCall call))

theorem bind_run (x : Action α) (next : α → Action β) (s : Session) :
    (x >>= next) s = match x s with
      | ⟨.ok a, s'⟩ => next a s'
      | ⟨.error e, s'⟩ => ⟨.error e, s'⟩ := rfl

theorem bind_run_of_ok {x : Action α} {s s' : Session} {a : α} (h : x s = ⟨.ok a, s'⟩)
    (next : α → Action β) : (x >>= next) s = next a s' := by
  rw [bind_run, h]

theorem bind_run_of_error {x : Action α} {s s' : Session} {e : SymbolError}
    (h : x s = ⟨.error e, s'⟩) (next : α → Action β) : (x >>= next) s = ⟨.error e, s'⟩ := by
  rw [bind_run, h]

/-- After a traced answer the action goes on with its events in the journal. -/
theorem bind_traced_of_ok {t : Traced α} {a : α} (h : t.result = .ok a) (next : α → Action β)
    (s : Session) :
    ((liftM t : Action α) >>= next) s = next a { s with journal := s.journal ++ t.events } := by
  have run : (liftM t : Action α) s = ⟨.ok a, { s with journal := s.journal ++ t.events }⟩ := by
    rw [← h]
    rfl
  exact bind_run_of_ok run next

theorem bind_traced_of_error {t : Traced α} {e : SymbolError} (h : t.result = .error e)
    (next : α → Action β) (s : Session) :
    ((liftM t : Action α) >>= next) s =
      ⟨.error e, { s with journal := s.journal ++ t.events }⟩ := by
  have run : (liftM t : Action α) s =
      ⟨.error e, { s with journal := s.journal ++ t.events }⟩ := by
    rw [← h]
    rfl
  exact bind_run_of_error run next

/-- An answer that costs no event leaves the session as it is. -/
theorem liftM_except_run (x : Except SymbolError α) (s : Session) :
    (liftM x : Action α) s = ⟨x, s⟩ := by
  show (⟨x, { s with journal := s.journal ++ [] }⟩ : Outcome α) = ⟨x, s⟩
  rw [List.append_nil]

theorem bind_except_of_ok {x : Except SymbolError α} {a : α} (h : x = .ok a)
    (next : α → Action β) (s : Session) : ((liftM x : Action α) >>= next) s = next a s := by
  have run := liftM_except_run x s
  rw [h] at run
  rw [h]
  exact bind_run_of_ok run next

theorem bind_except_of_error {x : Except SymbolError α} {e : SymbolError} (h : x = .error e)
    (next : α → Action β) (s : Session) :
    ((liftM x : Action α) >>= next) s = ⟨.error e, s⟩ := by
  have run := liftM_except_run x s
  rw [h] at run
  rw [h]
  exact bind_run_of_error run next

theorem registry_run (s : Session) : registry s = ⟨.ok s.registry, s⟩ := rfl

theorem latch_run (s : Session) : latch s = ⟨.ok s.latch, s⟩ := rfl

theorem attempt_run (x : Action α) (s : Session) :
    x.attempt s = ⟨.ok (x s).result, (x s).session⟩ := rfl

end Action

namespace Session

def register (e : ModuleEntry) : Action Unit := do
  let r ← Action.registry
  let r ← r.insert e
  Action.setRegistry r

theorem register_run_of_ok {s : Session} {e : ModuleEntry} {r : ModuleRegistry}
    (h : (s.registry.insert e).result = .ok r) :
    register e s =
      ⟨.ok (), { s with registry := r, journal := s.journal ++ (s.registry.insert e).events }⟩ := by
  unfold register
  rw [Action.bind_run_of_ok (Action.registry_run s), Action.bind_traced_of_ok h]
  rfl

theorem register_run_of_error {s : Session} {e : ModuleEntry} {failure : SymbolError}
    (h : (s.registry.insert e).result = .error failure) :
    register e s =
      ⟨.error failure, { s with journal := s.journal ++ (s.registry.insert e).events }⟩ := by
  unfold register
  rw [Action.bind_run_of_ok (Action.registry_run s), Action.bind_traced_of_error h]

/-- Forgets every module, when the debugged process has ended. -/
def cleanup : Action Unit := do
  let r ← Action.registry
  Action.setRegistry .empty
  Action.note (.registryCleared r.size)

end Session

end DebugSymbols

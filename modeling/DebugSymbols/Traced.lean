import DebugSymbols.Notice
import DebugSymbols.SymbolHost

/-!
# Traced answers

Whatever the debugger does for its user leaves events behind: notices, calls of the symbol host,
questions to providers, lookups of names, and switches thrown in the debugged process. A traced
answer is a result, which may be an error, together with the events on the way to it, in order. The
events of a computation that fails are kept. `result_bind` and `events_bind` say how answers are
chained.
-/

namespace DebugSymbols

/-- Something that leaves a mark in the journal. -/
inductive Event where
  | notice (notice : Notice)
  | hostCall (call : HostCall)
  | query (query : SymbolQuery)
  | lookup (lookup : Lookup)
  /-- The module with the given key is said to be the user's code, or not. -/
  | userCode (module : String) (isUserCode : Bool)
  | methodUserCode (module : String) (method : MethodToken) (isUserCode : Bool)

structure Traced (α : Type) where
  result : Except SymbolError α
  events : List Event

namespace Traced

variable {α β : Type}

def ofExcept (result : Except SymbolError α) : Traced α :=
  ⟨result, []⟩

/-- Continues after a success; a failure stays as it is. -/
def andThen (t : Traced α) (next : α → Traced β) : Traced β :=
  match t.result with
  | .ok a => ⟨(next a).result, t.events ++ (next a).events⟩
  | .error e => ⟨.error e, t.events⟩

def map (f : α → β) (t : Traced α) : Traced β :=
  ⟨t.result.map f, t.events⟩

instance : Monad Traced where
  pure a := ofExcept (.ok a)
  bind := andThen
  map := map

instance : MonadLift (Except SymbolError) Traced := ⟨ofExcept⟩

def fail (e : SymbolError) : Traced α :=
  ofExcept (.error e)

def enter (event : Event) : Traced Unit :=
  ⟨.ok (), [event]⟩

def note (notice : Notice) : Traced Unit :=
  enter (.notice notice)

/-- Turns a failure into a value, so that the computation goes on after it. -/
def attempt (t : Traced α) : Traced (Except SymbolError α) :=
  ⟨.ok t.result, t.events⟩

@[simp] theorem result_pure (a : α) : (pure a : Traced α).result = .ok a := rfl

@[simp] theorem events_pure (a : α) : (pure a : Traced α).events = [] := rfl

@[simp] theorem result_bind (t : Traced α) (next : α → Traced β) :
    (t >>= next).result = t.result.bind fun a => (next a).result := by
  show (t.andThen next).result = _
  unfold andThen
  cases t.result <;> rfl

theorem events_bind_of_ok {t : Traced α} {a : α} (h : t.result = .ok a) (next : α → Traced β) :
    (t >>= next).events = t.events ++ (next a).events := by
  show (t.andThen next).events = _
  simp only [andThen, h]

theorem events_bind_of_error {t : Traced α} {e : SymbolError} (h : t.result = .error e)
    (next : α → Traced β) : (t >>= next).events = t.events := by
  show (t.andThen next).events = _
  simp only [andThen, h]

@[simp] theorem result_map (f : α → β) (t : Traced α) : (t.map f).result = t.result.map f := rfl

@[simp] theorem events_map (f : α → β) (t : Traced α) : (t.map f).events = t.events := rfl

@[simp] theorem result_liftM (x : Except SymbolError α) :
    (liftM x : Traced α).result = x := rfl

@[simp] theorem events_liftM (x : Except SymbolError α) : (liftM x : Traced α).events = [] := rfl

/-- An answer that succeeds without an event can be left out of a chain. -/
theorem liftM_bind_of_ok {x : Except SymbolError α} {a : α} (h : x = .ok a)
    (next : α → Traced β) : ((liftM x : Traced α) >>= next) = next a := by
  subst h
  rfl

theorem liftM_bind_of_error {x : Except SymbolError α} {e : SymbolError} (h : x = .error e)
    (next : α → Traced β) : ((liftM x : Traced α) >>= next) = ofExcept (.error e) := by
  subst h
  rfl

@[simp] theorem result_fail (e : SymbolError) : (fail e : Traced α).result = .error e := rfl

@[simp] theorem events_fail (e : SymbolError) : (fail e : Traced α).events = [] := rfl

@[simp] theorem result_enter (event : Event) : (enter event).result = .ok () := rfl

@[simp] theorem events_enter (event : Event) : (enter event).events = [event] := rfl

@[simp] theorem result_attempt (t : Traced α) : t.attempt.result = .ok t.result := rfl

@[simp] theorem events_attempt (t : Traced α) : t.attempt.events = t.events := rfl

end Traced

end DebugSymbols

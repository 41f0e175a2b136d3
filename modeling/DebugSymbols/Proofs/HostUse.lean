import DebugSymbols.Proofs.GuardedHost
import DebugSymbols.Proofs.Requests

/-!
# What a session asks of the host

A load asks the host for one image at most (`ModuleLoader.image?`), the two requests for expressions
are handed on, and nothing else that happens in a session has to do with the host. So a guarded host
has the history of a guarded host whatever is asked of the session (`HostHistory.run`).
-/

namespace DebugSymbols

/-! ## Answers that call nothing -/

/-- No event on the way to the answer is a call of the host. -/
def Traced.IsQuiet {α : Type} (t : Traced α) : Prop :=
  Event.calls t.events = []

namespace Traced.IsQuiet

variable {α β : Type} {t : Traced α} {next : α → Traced β}

theorem pure (a : α) : (Pure.pure a : Traced α).IsQuiet := rfl

theorem ofExcept (x : Except SymbolError α) : (Traced.ofExcept x).IsQuiet := rfl

theorem liftM (x : Except SymbolError α) : (liftM x : Traced α).IsQuiet := rfl

theorem fail (e : SymbolError) : (Traced.fail e : Traced α).IsQuiet := rfl

theorem note (notice : Notice) : (Traced.note notice).IsQuiet := rfl

theorem attempt (h : t.IsQuiet) : t.attempt.IsQuiet := h

theorem map (h : t.IsQuiet) (f : α → β) : (t.map f).IsQuiet := h

theorem bind (h : t.IsQuiet) (hnext : ∀ a, (next a).IsQuiet) : (t >>= next).IsQuiet := by
  unfold IsQuiet
  cases result : t.result with
  | error e =>
    rw [Traced.events_bind_of_error result]
    exact h
  | ok a =>
    rw [Traced.events_bind_of_ok result, Event.calls_append, h, hnext a]
    rfl

theorem ask (p : SymbolProvider) (query : SymbolQuery) (answer : Except SymbolError α) :
    (p.ask query answer).IsQuiet := by
  unfold SymbolProvider.ask IsQuiet
  split <;> rfl

end Traced.IsQuiet

open Traced (IsQuiet)

namespace SymbolProvider

variable (p : SymbolProvider) (path : String) (line : UInt32) (method : MethodToken)
  (offset : UInt32)

theorem isQuiet_usableLine : (p.usableLine method offset).IsQuiet := by
  refine (IsQuiet.ask _ _ _).bind fun found => ?_
  split
  · exact IsQuiet.pure _
  · exact IsQuiet.fail _

theorem isQuiet_locate : (p.locate path line).IsQuiet := by
  have resolved : (p.askResolve path line).IsQuiet := by
    refine (IsQuiet.ask _ _ _).bind fun found => ?_
    dsimp only
    cases found.line with
    | none => exact IsQuiet.pure _
    | some matched => exact (IsQuiet.note _).bind fun _ => IsQuiet.pure _
  exact resolved.bind fun _ => (p.isQuiet_usableLine _ _).bind fun _ => IsQuiet.pure _

theorem isQuiet_framePoint : (p.framePoint method offset).IsQuiet := by
  refine (p.isQuiet_usableLine _ _).bind fun source => (IsQuiet.ask _ _ _).bind fun points => ?_
  split
  · exact IsQuiet.fail _
  · exact (IsQuiet.note _).bind fun _ => IsQuiet.pure _

theorem isQuiet_frameStep (codeSize : Except SymbolError UInt32) :
    (p.frameStep method offset codeSize).IsQuiet := by
  refine (IsQuiet.ask _ _ _).bind fun range => ?_
  dsimp only
  split
  · exact (IsQuiet.liftM _).bind fun _ => (IsQuiet.note _).bind fun _ => IsQuiet.pure _
  · exact IsQuiet.pure _

theorem isQuiet_frameVariable (slot : UInt32)
    (value : Except SymbolError (Option ValueHandle)) :
    (p.frameVariable method slot value).IsQuiet := by
  refine (IsQuiet.ask _ _ _).bind fun scope => (IsQuiet.liftM _).bind fun value => ?_
  cases value with
  | none => exact IsQuiet.fail _
  | some handle => exact IsQuiet.pure _

end SymbolProvider

theorem ModuleRegistry.isQuiet_locateIn (path : String) (line : UInt32) (reason : Option String)
    (entries : List ModuleEntry) : (locateIn path line reason entries).IsQuiet := by
  induction entries generalizing reason with
  | nil => cases reason <;> exact IsQuiet.fail _
  | cons e rest ih =>
    unfold locateIn
    cases e.symbols with
    | absent => exact ih _
    | hostUnavailable why => exact ih _
    | provider p =>
      refine (p.isQuiet_locate path line).attempt.bind fun found => ?_
      cases found with
      | ok location => exact (IsQuiet.note _).bind fun _ => IsQuiet.pure _
      | error failure => exact (IsQuiet.note _).bind fun _ => ih _

theorem StackFrame.isQuiet_stepRange (f : StackFrame) (r : ModuleRegistry) :
    (f.stepRange r).IsQuiet :=
  (IsQuiet.liftM _).bind fun _ => (IsQuiet.liftM _).bind fun _ => (IsQuiet.liftM _).bind fun _ =>
    (IsQuiet.liftM _).bind fun p => p.isQuiet_frameStep _ _ _

/-- No question about the modules is passed on to the host. -/
theorem Question.isQuiet_put (r : ModuleRegistry) (question : Question) :
    (question.put r).IsQuiet := by
  cases question with
  | locate path line => exact (ModuleRegistry.isQuiet_locateIn _ _ _ _).map _
  | locateIn m path line =>
    exact ((IsQuiet.liftM _).bind fun _ => (IsQuiet.liftM _).bind fun p =>
      p.isQuiet_locate _ _).map _
  | sequencePoint f =>
    exact ((IsQuiet.liftM _).bind fun _ => (IsQuiet.liftM _).bind fun _ =>
      (IsQuiet.liftM _).bind fun _ => (IsQuiet.liftM _).bind fun p =>
        p.isQuiet_framePoint _ _).map _
  | stepRange active =>
    refine IsQuiet.map ((IsQuiet.liftM _).bind fun active => ?_) _
    cases active with
    | none => exact IsQuiet.fail _
    | some f => exact f.isQuiet_stepRange r
  | localVariable f slot =>
    exact ((IsQuiet.liftM _).bind fun _ => (IsQuiet.liftM _).bind fun _ =>
      (IsQuiet.liftM _).bind fun p => p.isQuiet_frameVariable _ _ _).map _
  | moduleNamed name => exact IsQuiet.ofExcept _
  | visit visitor => exact IsQuiet.ofExcept _

theorem ModuleRegistry.isQuiet_insert (r : ModuleRegistry) (e : ModuleEntry) :
    (r.insert e).IsQuiet := by
  unfold insert
  split
  · exact (IsQuiet.note _).bind fun _ => IsQuiet.fail _
  · exact (IsQuiet.note _).bind fun _ => IsQuiet.pure _

namespace ModuleLoader

theorem isQuiet_markMethods (m : LoadedModule) (name : String) (earlier methods : List MethodToken) :
    (markMethods m name earlier methods).IsQuiet := by
  induction methods generalizing earlier with
  | nil => exact IsQuiet.pure _
  | cons method rest ih =>
    have marked : (markMethod m name earlier method).IsQuiet := by
      refine IsQuiet.bind rfl fun _ => ?_
      split
      · exact IsQuiet.pure _
      · exact IsQuiet.note _
    exact marked.bind fun _ => ih _

/-- The switches in the debugged process are thrown without the host. -/
theorem isQuiet_configureJustMyCode (l : ModuleLoader) (m : LoadedModule) (name : String)
    (symbols : SymbolAccess) : (l.configureJustMyCode m name symbols).IsQuiet := by
  refine IsQuiet.bind rfl fun _ => ?_
  split
  · exact IsQuiet.note _
  · exact IsQuiet.pure _
  · next p _ _ =>
    have asked : p.askNonUserMethods.IsQuiet := by
      unfold SymbolProvider.askNonUserMethods
      split
      · exact IsQuiet.ask _ _ _
      · exact IsQuiet.pure _
    refine asked.attempt.bind fun methods => ?_
    cases methods with
    | error e => exact IsQuiet.note _
    | ok methods => exact (isQuiet_markMethods m name [] methods).bind fun _ => IsQuiet.note _

end ModuleLoader

/-! ## Actions that leave the host alone -/

namespace Action

variable {α β γ : Type}

/-- What a chain makes of a part of the session is what its first link makes of it, when the rest
keeps that part. -/
theorem view_bind_of_keeps (view : Session → γ) {next : α → Action β}
    (h : ∀ a, Keeps view (next a)) (x : Action α) (s : Session) :
    view ((x >>= next) s).session = view (x s).session := by
  rcases run : x s with ⟨result, s'⟩
  cases result with
  | error e => rw [bind_run_of_error run]
  | ok a =>
    rw [bind_run_of_ok run]
    exact h a s'

namespace Keeps

theorem of_quiet {t : Traced α} (h : t.IsQuiet) :
    Keeps Session.hostState (MonadLiftT.monadLift t : Action α) := by
  intro s
  show (s.latch, Event.calls (s.journal ++ t.events)) = (s.latch, Event.calls s.journal)
  rw [Event.calls_append, h, List.append_nil]

theorem hostState_note (notice : Notice) : Keeps Session.hostState (Action.note notice) :=
  of_quiet (.note notice)

theorem hostState_register (e : ModuleEntry) : Keeps Session.hostState (Session.register e) := by
  refine Keeps.bind (fun _ => rfl) fun r => ?_
  exact (of_quiet (r.isQuiet_insert e)).bind fun _ _ => rfl

theorem hostState_cleanup : Keeps Session.hostState Session.cleanup :=
  Keeps.bind (fun _ => rfl) fun _ => Keeps.bind (fun _ => rfl) fun _ => hostState_note _

theorem hostState_enroll (m : LoadedModule) (path : String) (symbols : SymbolAccess)
    (status : SymbolStatus) :
    Keeps Session.hostState (ModuleLoader.enroll m path symbols status) := by
  refine (of_quiet (.ofExcept _)).bind fun descriptor => ?_
  exact (hostState_register _).bind fun _ => (hostState_note _).bind fun _ => Keeps.pure _

end Keeps

end Action

/-! ## What requests ask for -/

namespace ModuleLoader

variable {l : ModuleLoader} {m : LoadedModule}

/-- The image that a load asks the host for. It asks for none when the policy leaves the module
out, when the module has no image, or when it cannot be read where the image is. -/
def image? (l : ModuleLoader) (m : LoadedModule) : Option ImageSource :=
  match m.path with
  | .error _ => none
  | .ok path =>
    if l.policy path then
      match l.source? m path with
      | .ok source? => source?
      | .error _ => none
    else none

theorem hostAnswer?_eq (l : ModuleLoader) (m : LoadedModule) (s : Session) :
    l.hostAnswer? m s = (l.image? m).map fun source => (l.service.load source s).result := by
  unfold hostAnswer? image?
  cases m.path with
  | error e => rfl
  | ok path =>
    dsimp only
    split
    · cases l.source? m path with
      | error e => rfl
      | ok source? => cases source? <;> rfl
    · rfl

/-- Opening symbols does to the host what asking for the image does. -/
theorem hostState_openSymbols (l : ModuleLoader) (m : LoadedModule) (path : String)
    (s : Session) : (l.openSymbols m path s).session.hostState =
      match l.source? m path with
      | .ok (some source) => (l.service.load source s).session.hostState
      | _ => s.hostState := by
  unfold openSymbols
  cases l.source? m path with
  | error e => rw [Action.bind_except_of_error rfl]
  | ok source? =>
    rw [Action.bind_except_of_ok rfl]
    cases source? with
    | none => exact ((Action.Keeps.hostState_note _).bind fun _ => Action.Keeps.pure _) s
    | some source =>
      refine Action.view_bind_of_keeps _ (fun answer => ?_) _ s
      split
      · exact Action.Keeps.pure _
      · exact (Action.Keeps.hostState_note _).bind fun _ => Action.Keeps.pure _
      · exact (Action.Keeps.hostState_note _).bind fun _ => Action.Keeps.pure _

/-- A load does to the host what asking for the image does, if it asks for one, and else nothing. -/
theorem hostState_loadChanging (l : ModuleLoader) (early late : LoadedModule) (s : Session) :
    (l.loadChanging early late s).session.hostState =
      match l.image? early with
      | some source => (l.service.load source s).session.hostState
      | none => s.hostState := by
  unfold loadChanging image?
  cases early.path with
  | error e => rw [Action.bind_except_of_error rfl]
  | ok path =>
    rw [Action.bind_except_of_ok rfl]
    -- What is done with the symbols once they are chosen is no use of the host.
    rw [Action.view_bind_of_keeps Session.hostState fun _ =>
      (Action.Keeps.of_quiet (l.isQuiet_configureJustMyCode late _ _)).bind fun _ =>
        Action.Keeps.hostState_enroll _ _ _ _]
    unfold chooseSymbols
    dsimp only
    split
    · rw [Action.view_bind_of_keeps Session.hostState fun _ => Action.Keeps.pure _,
        hostState_openSymbols]
      cases l.source? early path with
      | error e => rfl
      | ok source? => cases source? <;> rfl
    · exact ((Action.Keeps.hostState_note _).bind fun _ => Action.Keeps.pure _) s

/-- The request to the host that a request to the session leads to, if it leads to one. -/
def asks? (l : ModuleLoader) : Request → Option HostCall
  | .load m => (l.image? m).map .load
  | .parse text typeName => some (.parse text typeName)
  | .evaluate expression children => some (.evaluate expression children)
  | .cleanup | .ask _ => none

end ModuleLoader

/-- A request to a session does to the host what the request does that it leads to. -/
theorem Session.hostState_after (l : ModuleLoader) (s : Session) (request : Request) :
    (s.after l request).hostState =
      match l.asks? request with
      | some call => (l.service.serve call s).session.hostState
      | none => s.hostState := by
  cases request with
  | load m =>
    refine (l.hostState_loadChanging m m s).trans ?_
    show _ = match (l.image? m).map HostCall.load with
      | some call => (l.service.serve call s).session.hostState
      | none => s.hostState
    cases l.image? m <;> rfl
  | cleanup => exact Action.Keeps.hostState_cleanup s
  | parse text typeName => rfl
  | evaluate expression children => rfl
  | ask question => exact Action.Keeps.of_quiet (question.isQuiet_put s.registry) s

namespace HostHistory

variable {l : ModuleLoader} {s : Session}

theorem after (guarded : l.service.isGuarded = true)
    (h : HostHistory l.service.host s.hostState) (request : Request) :
    HostHistory l.service.host (s.after l request).hostState := by
  rw [Session.hostState_after]
  cases l.asks? request with
  | none => exact h
  | some call => exact h.serve guarded call

/-- Whatever is asked of a session, a guarded host is prepared once. -/
theorem run (guarded : l.service.isGuarded = true) (h : HostHistory l.service.host s.hostState)
    (requests : List Request) : HostHistory l.service.host (s.run l requests).hostState := by
  induction requests generalizing s with
  | nil => exact h
  | cons request rest ih => exact ih (h.after guarded request)

end HostHistory

end DebugSymbols

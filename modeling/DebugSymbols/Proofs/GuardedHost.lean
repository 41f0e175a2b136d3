import DebugSymbols.Proofs.Actions

/-!
# A guarded host

A host behind a latch is prepared by the first request that is made of it, whichever it is, and the
outcome holds from then on. `serve_of_untried` puts the attempt in front of the first request;
`serve_of_prepared` and `serve_of_failed` are all that can happen to a request once the attempt has
been made. A request is named by the call of the host that it should lead to.
-/

namespace DebugSymbols

/-! ## Requests -/

/-- What a call gives when it succeeds. -/
def HostCall.Answer : HostCall → Type
  | prepare => Unit
  | load _ => SymbolProvider
  | parse .. => LiteralValue
  | evaluate .. => EvalValue

/-- Whether the host is to do more than get ready. -/
def HostCall.isWork : HostCall → Bool
  | prepare => false
  | _ => true

theorem HostCall.prepare_not_mem_work (requests : List HostCall) :
    .prepare ∉ requests.filter isWork := fun listed =>
  Bool.false_ne_true (List.mem_filter.1 listed).2

/-- What a host makes of a call, the names that it looks up included. -/
def SymbolHost.answer (host : SymbolHost) (earlier : List HostCall) :
    (call : HostCall) → Traced call.Answer
  | .prepare => Traced.ofExcept (host.prepare earlier)
  | .load source => Traced.ofExcept (host.load earlier source)
  | .parse text typeName => Traced.ofExcept (host.parse earlier text typeName)
  | .evaluate expression children =>
    let evaluation := host.evaluate earlier expression children
    ⟨evaluation.result, evaluation.lookups.map Event.lookup⟩

/-- The host behind a latch. -/
def SymbolHost.guarded (host : SymbolHost) : SymbolService :=
  ⟨host, true⟩

namespace SymbolService

def serve (v : SymbolService) : (request : HostCall) → Action request.Answer
  | .prepare => v.prepare
  | .load source => v.load source
  | .parse text typeName => v.parse text typeName
  | .evaluate expression children => v.evaluate expression children

/-- The session after requests to the host, one after the other. -/
def serveAll (v : SymbolService) (s : Session) (requests : List HostCall) : Session :=
  requests.foldl (fun s request => (v.serve request s).session) s

end SymbolService

/-! ## What stands in a journal -/

namespace Event

/-- The calls of the host among events, in their order. -/
def calls (events : List Event) : List HostCall :=
  events.filterMap fun
    | .hostCall call => some call
    | _ => none

def notices (events : List Event) : List Notice :=
  events.filterMap fun
    | .notice n => some n
    | _ => none

/-- The notices that report an error. -/
def errors (events : List Event) : List Notice :=
  (notices events).filter (·.level = .error)

theorem calls_append (first last : List Event) :
    calls (first ++ last) = calls first ++ calls last :=
  List.filterMap_append

theorem notices_append (first last : List Event) :
    notices (first ++ last) = notices first ++ notices last :=
  List.filterMap_append

/-- Lookups of names are no calls and no notices. -/
theorem calls_lookups (lookups : List Lookup) : calls (lookups.map Event.lookup) = [] := by
  simp [calls]

theorem notices_lookups (lookups : List Lookup) : notices (lookups.map Event.lookup) = [] := by
  simp [notices]

end Event

theorem SymbolHost.calls_answer (host : SymbolHost) (earlier : List HostCall) (call : HostCall) :
    Event.calls (host.answer earlier call).events = [] := by
  cases call with
  | evaluate expression children => exact Event.calls_lookups _
  | _ => rfl

theorem SymbolHost.notices_answer (host : SymbolHost) (earlier : List HostCall)
    (call : HostCall) : Event.notices (host.answer earlier call).events = [] := by
  cases call with
  | evaluate expression children => exact Event.notices_lookups _
  | _ => rfl

theorem Session.hostCalls_eq (s : Session) : s.hostCalls = Event.calls s.journal := rfl

/-! ## The latch -/

namespace HostLatch

variable {attempt : Action Unit} {s : Session} {reason : String}

theorem prepare_of_prepared (h : s.latch = .prepared) : prepare attempt s = ⟨.ok (), s⟩ := by
  rw [prepare, Action.bind_run_of_ok (Action.latch_run s), h]
  rfl

theorem prepare_of_failed (h : s.latch = .failed reason) :
    prepare attempt s = ⟨.error (.hostUnavailable reason), s⟩ := by
  rw [prepare, Action.bind_run_of_ok (Action.latch_run s), h]
  rfl

theorem prepare_of_untried_ok {s' : Session} (h : s.latch = .untried)
    (prepared : attempt s = ⟨.ok (), s'⟩) : prepare attempt s =
      ⟨.ok (),
        { s' with
          latch := .prepared
          journal := s'.journal ++ [.notice .hostPrepared] }⟩ := by
  rw [prepare, Action.bind_run_of_ok (Action.latch_run s), h]
  dsimp only
  rw [Action.bind_run_of_ok (Action.attempt_run attempt s), prepared]
  rfl

theorem prepare_of_untried_error {s' : Session} {e : SymbolError} (h : s.latch = .untried)
    (failed : attempt s = ⟨.error e, s'⟩) : prepare attempt s =
      ⟨.error (.hostUnavailable e.message),
        { s' with
          latch := .failed e.message
          journal := s'.journal ++ [.notice (.hostPreparationFailed e.message)] }⟩ := by
  rw [prepare, Action.bind_run_of_ok (Action.latch_run s), h]
  dsimp only
  rw [Action.bind_run_of_ok (Action.attempt_run attempt s), failed]
  rfl

end HostLatch

/-- The session when preparing the host has been tried in it. -/
def SymbolHost.attempted (host : SymbolHost) (s : Session) : Session :=
  match host.prepare s.hostCalls with
  | .ok () =>
    { s with
      latch := .prepared
      journal := s.journal ++ [.hostCall .prepare, .notice .hostPrepared] }
  | .error e =>
    { s with
      latch := .failed e.message
      journal := s.journal ++ [.hostCall .prepare, .notice (.hostPreparationFailed e.message)] }

section Attempted

variable {host : SymbolHost} {s : Session} {e : SymbolError}

theorem SymbolHost.attempted_of_ok (h : host.prepare s.hostCalls = .ok ()) :
    host.attempted s =
      { s with
        latch := .prepared
        journal := s.journal ++ [.hostCall .prepare, .notice .hostPrepared] } := by
  rw [attempted, h]

theorem SymbolHost.attempted_of_error (h : host.prepare s.hostCalls = .error e) :
    host.attempted s =
      { s with
        latch := .failed e.message
        journal := s.journal ++
          [.hostCall .prepare, .notice (.hostPreparationFailed e.message)] } := by
  rw [attempted, h]

theorem SymbolHost.latch_attempted_of_ok (h : host.prepare s.hostCalls = .ok ()) :
    (host.attempted s).latch = .prepared := by
  rw [attempted_of_ok h]

theorem SymbolHost.latch_attempted_of_error (h : host.prepare s.hostCalls = .error e) :
    (host.attempted s).latch = .failed e.message := by
  rw [attempted_of_error h]

theorem SymbolHost.latch_attempted (host : SymbolHost) (s : Session) :
    (host.attempted s).latch = .prepared ∨ ∃ reason, (host.attempted s).latch = .failed reason := by
  cases outcome : host.prepare s.hostCalls with
  | ok _ => exact Or.inl (latch_attempted_of_ok outcome)
  | error e => exact Or.inr ⟨_, latch_attempted_of_error outcome⟩

theorem SymbolHost.hostCalls_attempted (host : SymbolHost) (s : Session) :
    (host.attempted s).hostCalls = s.hostCalls ++ [.prepare] := by
  unfold attempted
  cases host.prepare s.hostCalls with
  | ok _ => exact Event.calls_append s.journal _
  | error e => exact Event.calls_append s.journal _

end Attempted

/-! ## One request -/

namespace SymbolService

section Request

variable {v : SymbolService} {s s' : Session} {reason : String} {e : SymbolError}
  {request : HostCall}

theorem serve_prepare (guarded : v.isGuarded = true) : v.serve .prepare = v.ready :=
  if_pos guarded

theorem ready_eq (guarded : v.isGuarded = true) : v.ready = HostLatch.prepare v.callPrepare :=
  if_pos guarded

theorem ready_of_unguarded (unguarded : v.isGuarded = false) (s : Session) :
    v.ready s = ⟨.ok (), s⟩ := by
  unfold ready
  rw [unguarded]
  rfl

theorem callPrepare_run (v : SymbolService) (s : Session) : v.callPrepare s =
    ⟨v.host.prepare s.hostCalls, { s with journal := s.journal ++ [.hostCall .prepare] }⟩ := by
  show (⟨v.host.prepare s.hostCalls,
    { s with journal := s.journal ++ [.hostCall .prepare] ++ [] }⟩ : Outcome Unit) = _
  rw [List.append_nil]

theorem ready_of_prepared (guarded : v.isGuarded = true) (h : s.latch = .prepared) :
    v.ready s = ⟨.ok (), s⟩ := by
  rw [ready_eq guarded, HostLatch.prepare_of_prepared h]

theorem ready_of_failed (guarded : v.isGuarded = true) (h : s.latch = .failed reason) :
    v.ready s = ⟨.error (.hostUnavailable reason), s⟩ := by
  rw [ready_eq guarded, HostLatch.prepare_of_failed h]

/-- The first time, getting the host ready is trying to prepare it and then going by the latch. -/
theorem ready_of_untried (guarded : v.isGuarded = true) (h : s.latch = .untried) :
    v.ready s = v.ready (v.host.attempted s) := by
  have attempt := v.callPrepare_run s
  cases prepared : v.host.prepare s.hostCalls with
  | ok _ =>
    rw [prepared] at attempt
    rw [ready_of_prepared guarded (SymbolHost.latch_attempted_of_ok prepared), ready_eq guarded,
      HostLatch.prepare_of_untried_ok h attempt, SymbolHost.attempted_of_ok prepared]
    simp
  | error e =>
    rw [prepared] at attempt
    rw [ready_of_failed guarded (SymbolHost.latch_attempted_of_error prepared), ready_eq guarded,
      HostLatch.prepare_of_untried_error h attempt, SymbolHost.attempted_of_error prepared]
    simp

/-- Every request begins by getting the host ready, and fails if that fails. -/
theorem serve_of_ready_error (guarded : v.isGuarded = true) (h : v.ready s = ⟨.error e, s'⟩)
    (request : HostCall) : v.serve request s = ⟨.error e, s'⟩ := by
  cases request with
  | prepare => exact (congrFun (serve_prepare guarded) s).trans h
  | load source => exact Action.bind_run_of_error h _
  | parse text typeName => exact Action.bind_run_of_error h _
  | evaluate expression children => exact Action.bind_run_of_error h _

/-- When the host is ready, work is handed on to it. -/
theorem serve_of_ready (work : request.isWork = true) (h : v.ready s = ⟨.ok (), s'⟩) :
    v.serve request s =
      Action.callHost request (fun earlier => v.host.answer earlier request) s' := by
  cases request with
  | prepare => cases work
  | load source => exact Action.bind_run_of_ok h _
  | parse text typeName => exact Action.bind_run_of_ok h _
  | evaluate expression children => exact Action.bind_run_of_ok h _

/-- The first request tries to prepare the host and then goes by the latch. -/
theorem serve_of_untried (guarded : v.isGuarded = true) (h : s.latch = .untried)
    (request : HostCall) : v.serve request s = v.serve request (v.host.attempted s) := by
  have same := ready_of_untried guarded h
  rcases ready : v.ready (v.host.attempted s) with ⟨result, t⟩
  rw [ready] at same
  cases result with
  | error e => rw [serve_of_ready_error guarded same, serve_of_ready_error guarded ready]
  | ok _ =>
    cases work : request.isWork with
    | true => rw [serve_of_ready work same, serve_of_ready work ready]
    | false =>
      cases request with
      | prepare =>
        rw [serve_prepare guarded]
        exact same.trans ready.symm
      | _ => cases work

/-- After a failed attempt every request fails with the reason of it, and does nothing else. -/
theorem serve_of_failed (guarded : v.isGuarded = true) (h : s.latch = .failed reason)
    (request : HostCall) : v.serve request s = ⟨.error (.hostUnavailable reason), s⟩ :=
  serve_of_ready_error guarded (ready_of_failed guarded h) request

/-- After a successful attempt work is handed on to the host. -/
theorem serve_of_prepared (guarded : v.isGuarded = true) (h : s.latch = .prepared)
    (work : request.isWork = true) : v.serve request s =
      Action.callHost request (fun earlier => v.host.answer earlier request) s :=
  serve_of_ready work (ready_of_prepared guarded h)

theorem serve_prepare_of_prepared (guarded : v.isGuarded = true) (h : s.latch = .prepared) :
    v.serve .prepare s = ⟨.ok (), s⟩ :=
  (congrFun (serve_prepare guarded) s).trans (ready_of_prepared guarded h)

/-- A call is entered before the answer, which is no call. -/
theorem hostCalls_callHost (host : SymbolHost) (request : HostCall) (s : Session) :
    (Action.callHost request (fun earlier => host.answer earlier request) s).session.hostCalls =
      s.hostCalls ++ [request] := by
  show Event.calls (s.journal ++ [.hostCall request] ++
    (host.answer s.hostCalls request).events) = Event.calls s.journal ++ [request]
  rw [Event.calls_append, Event.calls_append, SymbolHost.calls_answer, List.append_nil]
  rfl

/-- What a request leaves behind in a session in which the host is prepared: its call, if it is for
work. -/
theorem after_serve_of_prepared (guarded : v.isGuarded = true) (h : s.latch = .prepared)
    (request : HostCall) : (v.serve request s).session.latch = .prepared ∧
      (v.serve request s).session.hostCalls = s.hostCalls ++ [request].filter HostCall.isWork ∧
      Event.notices (v.serve request s).session.journal = Event.notices s.journal := by
  cases work : request.isWork with
  | false =>
    cases request with
    | prepare =>
      rw [serve_prepare_of_prepared guarded h]
      exact ⟨h, (List.append_nil _).symm, rfl⟩
    | _ => cases work
  | true =>
    rw [serve_of_prepared guarded h work, List.filter_cons_of_pos work, List.filter_nil]
    refine ⟨h, hostCalls_callHost v.host request s, ?_⟩
    · show Event.notices (s.journal ++ [.hostCall request] ++
        (v.host.answer s.hostCalls request).events) = Event.notices s.journal
      rw [Event.notices_append, Event.notices_append, SymbolHost.notices_answer, List.append_nil]
      exact List.append_nil _

end Request

end SymbolService

/-! ## The history of a guarded host -/

/-- How it stands with the host: the latch, and the calls made so far. -/
def Session.hostState (s : Session) : HostLatch × List HostCall :=
  (s.latch, s.hostCalls)

/-- What can have become of a guarded host: it has not been called; or it was prepared by the first
call and has worked since; or preparing it failed, and that was the only call. -/
inductive HostHistory (host : SymbolHost) : HostLatch × List HostCall → Prop where
  | untried : HostHistory host (.untried, [])
  | prepared {work : List HostCall} (outcome : host.prepare [] = .ok ())
      (once : .prepare ∉ work) : HostHistory host (.prepared, .prepare :: work)
  | failed {e : SymbolError} (outcome : host.prepare [] = .error e) :
      HostHistory host (.failed e.message, [.prepare])

namespace HostHistory

variable {v : SymbolService} {s : Session} {e : SymbolError} {request : HostCall}

/-- With the attempt the history of the host begins. -/
theorem hostState_attempted {host : SymbolHost} (h : s.hostState = (.untried, [])) :
    (host.prepare [] = .ok () ∧ (host.attempted s).hostState = (.prepared, [.prepare])) ∨
    ∃ e, host.prepare [] = .error e ∧
      (host.attempted s).hostState = (.failed e.message, [.prepare]) := by
  have uncalled : s.hostCalls = [] := congrArg Prod.snd h
  cases outcome : host.prepare [] with
  | ok _ =>
    refine Or.inl ⟨rfl, ?_⟩
    rw [SymbolHost.attempted_of_ok (by rw [uncalled]; exact outcome), Session.hostState,
      Session.hostCalls_eq, Event.calls_append, ← Session.hostCalls_eq, uncalled]
    rfl
  | error e =>
    refine Or.inr ⟨e, rfl, ?_⟩
    rw [SymbolHost.attempted_of_error (by rw [uncalled]; exact outcome), Session.hostState,
      Session.hostCalls_eq, Event.calls_append, ← Session.hostCalls_eq, uncalled]
    rfl

/-- A request comes to the same, and leaves the same behind, if the attempt is made before it. -/
theorem exists_begun (guarded : v.isGuarded = true) (h : HostHistory v.host s.hostState)
    (request : HostCall) : ∃ t, v.serve request s = v.serve request t ∧
      ((v.host.prepare [] = .ok () ∧ .prepare ∉ s.hostCalls.tail ∧
          t.hostState = (.prepared, .prepare :: s.hostCalls.tail)) ∨
        ∃ e, v.host.prepare [] = .error e ∧ t.hostState = (.failed e.message, [.prepare])) := by
  generalize state : s.hostState = hostState at h
  have calls : s.hostCalls = hostState.2 := congrArg Prod.snd state
  cases h with
  | untried =>
    refine ⟨v.host.attempted s, SymbolService.serve_of_untried guarded
      (congrArg Prod.fst state) request, ?_⟩
    rw [calls]
    exact (hostState_attempted state).imp_left fun ⟨outcome, begun⟩ =>
      ⟨outcome, List.not_mem_nil, begun⟩
  | prepared outcome once =>
    refine ⟨s, rfl, Or.inl ⟨outcome, ?_, ?_⟩⟩
    · rw [calls]
      exact once
    · rw [state, calls]
      rfl
  | failed outcome => exact ⟨s, rfl, Or.inr ⟨_, outcome, state⟩⟩

/-- A request continues the history. -/
theorem serve (guarded : v.isGuarded = true) (h : HostHistory v.host s.hostState)
    (request : HostCall) : HostHistory v.host (v.serve request s).session.hostState := by
  obtain ⟨t, same, ⟨outcome, once, state⟩ | ⟨e, outcome, state⟩⟩ := h.exists_begun guarded request
  · obtain ⟨latch, calls, -⟩ :=
      SymbolService.after_serve_of_prepared guarded (congrArg Prod.fst state) request
    have before : t.hostCalls = _ := congrArg Prod.snd state
    rw [same, Session.hostState, latch, calls, before]
    refine .prepared outcome fun again => ?_
    rcases List.mem_append.1 again with earlier | now
    · exact once earlier
    · exact HostCall.prepare_not_mem_work [request] now
  · rw [same, SymbolService.serve_of_failed guarded (congrArg Prod.fst state), state]
    exact .failed outcome

/-- If the host can be prepared, it is the host that does the work. -/
theorem result_serve_of_ok (h : HostHistory v.host s.hostState) (guarded : v.isGuarded = true)
    (prepared : v.host.prepare [] = .ok ()) (work : request.isWork = true) :
    (v.serve request s).result =
      (v.host.answer (.prepare :: s.hostCalls.tail) request).result := by
  obtain ⟨t, same, ⟨-, -, state⟩ | ⟨e, outcome, -⟩⟩ := h.exists_begun guarded request
  · have calls : t.hostCalls = .prepare :: s.hostCalls.tail := congrArg Prod.snd state
    rw [same, SymbolService.serve_of_prepared guarded (congrArg Prod.fst state) work, ← calls]
    rfl
  · cases prepared.symm.trans outcome

theorem result_serve_prepare_of_ok (h : HostHistory v.host s.hostState)
    (guarded : v.isGuarded = true) (prepared : v.host.prepare [] = .ok ()) :
    (v.serve .prepare s).result = .ok () := by
  obtain ⟨t, same, ⟨-, -, state⟩ | ⟨e, outcome, -⟩⟩ := h.exists_begun guarded .prepare
  · rw [same, SymbolService.serve_prepare_of_prepared guarded (congrArg Prod.fst state)]
  · cases prepared.symm.trans outcome

/-- If the host cannot be prepared, that is the answer to every request. -/
theorem result_serve_of_error (h : HostHistory v.host s.hostState) (guarded : v.isGuarded = true)
    (failed : v.host.prepare [] = .error e) (request : HostCall) :
    (v.serve request s).result = .error (.hostUnavailable e.message) := by
  obtain ⟨t, same, ⟨outcome, -⟩ | ⟨e', outcome, state⟩⟩ := h.exists_begun guarded request
  · cases failed.symm.trans outcome
  · cases failed.symm.trans outcome
    rw [same, SymbolService.serve_of_failed guarded (congrArg Prod.fst state)]

/-- The attempt is the first call, and the only one of its kind. -/
theorem exists_work_of_attempted {host : SymbolHost} (h : HostHistory host s.hostState)
    (attempted : s.latch.isAttempted = true) :
    ∃ work, s.hostCalls = .prepare :: work ∧ .prepare ∉ work := by
  generalize state : s.hostState = hostState at h
  have latch : s.latch = hostState.1 := congrArg Prod.fst state
  have calls : s.hostCalls = hostState.2 := congrArg Prod.snd state
  cases h with
  | untried =>
    rw [latch] at attempted
    cases attempted
  | prepared outcome once => exact ⟨_, calls, once⟩
  | failed outcome => exact ⟨[], calls, List.not_mem_nil⟩

end HostHistory

/-! ## Runs of requests -/

namespace SymbolService

section Run

variable {v : SymbolService} {s : Session} {reason : String}

/-- Once the host is prepared, it is called for the work that is asked for and for nothing else. -/
theorem serveAll_of_prepared (guarded : v.isGuarded = true) (h : s.latch = .prepared)
    (requests : List HostCall) : (v.serveAll s requests).latch = .prepared ∧
      (v.serveAll s requests).hostCalls = s.hostCalls ++ requests.filter HostCall.isWork ∧
      Event.notices (v.serveAll s requests).journal = Event.notices s.journal := by
  induction requests generalizing s with
  | nil => exact ⟨h, (List.append_nil _).symm, rfl⟩
  | cons request rest ih =>
    obtain ⟨latch, calls, notices⟩ := after_serve_of_prepared guarded h request
    obtain ⟨latch', calls', notices'⟩ := ih latch
    refine ⟨latch', calls'.trans ?_, notices'.trans notices⟩
    rw [calls, List.append_assoc, ← List.filter_append, List.singleton_append]

theorem serveAll_of_failed (guarded : v.isGuarded = true) (h : s.latch = .failed reason)
    (requests : List HostCall) : v.serveAll s requests = s := by
  induction requests with
  | nil => rfl
  | cons request rest ih =>
    show v.serveAll (v.serve request s).session rest = s
    rw [serve_of_failed guarded h]
    exact ih

/-- A run begins with the attempt at preparing the host. -/
theorem serveAll_of_untried (guarded : v.isGuarded = true) (h : s.latch = .untried)
    {requests : List HostCall} (asked : requests ≠ []) :
    v.serveAll s requests = v.serveAll (v.host.attempted s) requests := by
  cases requests with
  | nil => exact absurd rfl asked
  | cons request rest =>
    show v.serveAll (v.serve request s).session rest = _
    rw [serve_of_untried guarded h]
    rfl

theorem hostHistory_serveAll (guarded : v.isGuarded = true) (h : HostHistory v.host s.hostState)
    (requests : List HostCall) : HostHistory v.host (v.serveAll s requests).hostState := by
  induction requests generalizing s with
  | nil => exact h
  | cons request rest ih => exact ih (h.serve guarded request)

end Run

section Start

variable {v : SymbolService} {e : SymbolError} {requests : List HostCall}

/-- The whole of a run in which the host can be prepared. -/
theorem serveAll_start_of_ok (guarded : v.isGuarded = true) (prepared : v.host.prepare [] = .ok ())
    (asked : requests ≠ []) : (v.serveAll .start requests).latch = .prepared ∧
      (v.serveAll .start requests).hostCalls = .prepare :: requests.filter HostCall.isWork ∧
      Event.notices (v.serveAll .start requests).journal = [.hostPrepared] := by
  have attempted : v.host.attempted .start =
      ⟨.empty, .prepared, [.hostCall .prepare, .notice .hostPrepared]⟩ :=
    SymbolHost.attempted_of_ok prepared
  rw [serveAll_of_untried guarded rfl asked, attempted]
  exact serveAll_of_prepared guarded rfl requests

/-- The whole of a run in which the host cannot be prepared. -/
theorem serveAll_start_of_error (guarded : v.isGuarded = true)
    (failed : v.host.prepare [] = .error e) (asked : requests ≠ []) :
    v.serveAll .start requests = ⟨.empty, .failed e.message,
      [.hostCall .prepare, .notice (.hostPreparationFailed e.message)]⟩ := by
  rw [serveAll_of_untried guarded rfl asked,
    serveAll_of_failed guarded (SymbolHost.latch_attempted_of_error failed)]
  exact SymbolHost.attempted_of_error failed

/-- A host that can be prepared is called for the work that is asked for, and nothing is reported as
an error. -/
theorem work_serveAll_of_ok (guarded : v.isGuarded = true) (prepared : v.host.prepare [] = .ok ())
    (requests : List HostCall) :
    (v.serveAll .start requests).hostCalls.tail = requests.filter HostCall.isWork ∧
      Event.errors (v.serveAll .start requests).journal = [] := by
  by_cases idle : requests = []
  · rw [idle]
    exact ⟨rfl, rfl⟩
  · obtain ⟨-, calls, notices⟩ := serveAll_start_of_ok guarded prepared idle
    rw [calls, Event.errors, notices]
    exact ⟨rfl, rfl⟩

/-- No names are looked up for a host that cannot be prepared. -/
theorem lookup_not_mem_serveAll_of_error (guarded : v.isGuarded = true)
    (failed : v.host.prepare [] = .error e) (requests : List HostCall) (lookup : Lookup) :
    .lookup lookup ∉ (v.serveAll .start requests).journal := by
  by_cases idle : requests = []
  · rw [idle]
    exact List.not_mem_nil
  · rw [serveAll_start_of_error guarded failed idle]
    simp

/-- An attempt has been made as soon as there has been a request. -/
theorem isAttempted_serveAll_iff (guarded : v.isGuarded = true) :
    (v.serveAll .start requests).latch.isAttempted = true ↔ requests ≠ [] := by
  by_cases idle : requests = []
  · rw [idle]
    exact iff_of_false Bool.false_ne_true fun h => h rfl
  · cases outcome : v.host.prepare [] with
    | ok _ =>
      obtain ⟨latch, -⟩ := serveAll_start_of_ok guarded outcome idle
      rw [latch]
      exact iff_of_true rfl idle
    | error e =>
      rw [serveAll_start_of_error guarded outcome idle]
      exact iff_of_true rfl idle

theorem isFailed_serveAll_iff (guarded : v.isGuarded = true) :
    (v.serveAll .start requests).latch.isFailed = true ↔
      requests ≠ [] ∧ ∃ e, v.host.prepare [] = .error e := by
  by_cases idle : requests = []
  · rw [idle]
    exact iff_of_false Bool.false_ne_true fun h => h.1 rfl
  · cases outcome : v.host.prepare [] with
    | ok _ =>
      obtain ⟨latch, -⟩ := serveAll_start_of_ok guarded outcome idle
      rw [latch]
      exact iff_of_false Bool.false_ne_true fun h => nomatch h.2
    | error e =>
      rw [serveAll_start_of_error guarded outcome idle]
      exact iff_of_true rfl ⟨idle, e, rfl⟩

end Start

end SymbolService

/-- **A guarded host is prepared once, by the first request, and the outcome holds.** In every run
of requests preparing the host is the first call of it and does not happen again. If it succeeds,
the host is called once for each request for work, in their order, and what it answers is what the
request comes to; requests to prepare succeed and lead to no further call. If it fails, there is no
other call and no lookup, and every request fails with the message of that failure. The latch tells
whether there was an attempt and whether it failed, and goes on telling it. A failure is reported as
an error once; nothing else is. (Each request of a run is the next one after those before it.) -/
theorem serveAll_prepares_once (host : SymbolHost) (requests : List HostCall) :
    let after (requests : List HostCall) := host.guarded.serveAll Session.start requests
    let s := after requests
    (requests = [] → s.hostCalls = []) ∧
    (requests ≠ [] → ∃ work, s.hostCalls = .prepare :: work ∧ .prepare ∉ work) ∧
    (host.prepare [] = .ok () →
      (requests ≠ [] → s.hostCalls = .prepare :: requests.filter HostCall.isWork) ∧
      (∀ request, request.isWork = true → (host.guarded.serve request s).result =
        (host.answer (.prepare :: requests.filter HostCall.isWork) request).result) ∧
      (host.guarded.serve .prepare s).result = .ok () ∧
      Event.errors s.journal = []) ∧
    (∀ e, host.prepare [] = .error e →
      (requests ≠ [] → s.hostCalls = [.prepare] ∧
        Event.errors s.journal = [.hostPreparationFailed e.message]) ∧
      (∀ lookup, .lookup lookup ∉ s.journal) ∧
      ∀ request, (host.guarded.serve request s).result = .error (.hostUnavailable e.message)) ∧
    (s.latch.isAttempted = true ↔ requests ≠ []) ∧
    (s.latch.isFailed = true ↔ requests ≠ [] ∧ ∃ e, host.prepare [] = .error e) ∧
    ∀ more, (s.latch.isAttempted = true → (after (requests ++ more)).latch.isAttempted = true) ∧
      (s.latch.isFailed = true → (after (requests ++ more)).latch.isFailed = true) := by
  intro after s
  have guarded : host.guarded.isGuarded = true := rfl
  have history : HostHistory host s.hostState :=
    SymbolService.hostHistory_serveAll guarded .untried requests
  have attempted (requests : List HostCall) :
      (after requests).latch.isAttempted = true ↔ requests ≠ [] :=
    SymbolService.isAttempted_serveAll_iff guarded
  have failed (requests : List HostCall) : (after requests).latch.isFailed = true ↔
      requests ≠ [] ∧ ∃ e, host.prepare [] = .error e :=
    SymbolService.isFailed_serveAll_iff guarded
  refine ⟨?_, ?_, ?_, ?_, attempted requests, failed requests, ?_⟩
  · rintro idle
    show (after requests).hostCalls = []
    rw [idle]
    rfl
  · exact fun asked => history.exists_work_of_attempted ((attempted requests).2 asked)
  · intro prepared
    obtain ⟨work, errors⟩ := SymbolService.work_serveAll_of_ok guarded prepared requests
    refine ⟨fun asked => ?_, fun request isWork => ?_,
      history.result_serve_prepare_of_ok guarded prepared, errors⟩
    · exact (SymbolService.serveAll_start_of_ok guarded prepared asked).2.1
    · rw [← work]
      exact history.result_serve_of_ok guarded prepared isWork
  · intro e outcome
    refine ⟨fun asked => ?_,
      SymbolService.lookup_not_mem_serveAll_of_error guarded outcome requests,
      history.result_serve_of_error guarded outcome⟩
    have run : s = _ := SymbolService.serveAll_start_of_error guarded outcome asked
    rw [run]
    exact ⟨rfl, rfl⟩
  · -- An attempt that has been made stays made, and with it its failure.
    intro more
    have longer (asked : requests ≠ []) : requests ++ more ≠ [] :=
      List.append_ne_nil_of_left_ne_nil asked more
    rw [attempted, attempted, failed, failed]
    exact ⟨longer, And.imp_left longer⟩

end DebugSymbols

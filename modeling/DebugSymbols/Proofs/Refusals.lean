import DebugSymbols.Proofs.HostUse

/-!
# When a host refuses to work

A guarded host that cannot be prepared refuses every request, with one reason. Whether it refuses is
settled before it is first called, and nothing that is asked of a session changes it
(`refusal?_run`). A host that does not refuse is handed the work.
-/

namespace DebugSymbols.SymbolService

/-- Why the host refuses to work, if it does: because preparing it has failed or, if that has not
been tried, is going to fail. -/
def refusal? (v : SymbolService) (s : Session) : Option String :=
  if v.isGuarded then
    match s.latch with
    | .prepared => none
    | .failed reason => some reason
    | .untried =>
      match v.host.prepare s.hostCalls with
      | .ok () => none
      | .error e => some e.message
  else none

variable {v : SymbolService} {s s' : Session} {reason : String} {request : HostCall}

theorem refusal?_congr (h : s.hostState = s'.hostState) : v.refusal? s = v.refusal? s' := by
  have latch : s.latch = s'.latch := congrArg Prod.fst h
  have calls : s.hostCalls = s'.hostCalls := congrArg Prod.snd h
  unfold refusal?
  rw [latch, calls]

theorem refusal?_of_unguarded (unguarded : v.isGuarded = false) (s : Session) :
    v.refusal? s = none := by
  unfold refusal?
  rw [unguarded]
  rfl

theorem refusal?_of_prepared (h : s.latch = .prepared) : v.refusal? s = none := by
  unfold refusal?
  rw [h]
  exact ite_self _

theorem refusal?_of_failed (guarded : v.isGuarded = true) (h : s.latch = .failed reason) :
    v.refusal? s = some reason := by
  unfold refusal?
  rw [guarded, h]
  rfl

theorem refusal?_of_untried_ok (h : s.latch = .untried)
    (prepares : v.host.prepare s.hostCalls = .ok ()) : v.refusal? s = none := by
  unfold refusal?
  rw [h, prepares]
  exact ite_self _

theorem refusal?_of_untried_error {e : SymbolError} (guarded : v.isGuarded = true)
    (h : s.latch = .untried) (fails : v.host.prepare s.hostCalls = .error e) :
    v.refusal? s = some e.message := by
  unfold refusal?
  rw [guarded, h, fails]
  rfl

/-- The attempt comes to what it was going to come to. -/
theorem refusal?_attempted (guarded : v.isGuarded = true) (h : s.latch = .untried) :
    v.refusal? (v.host.attempted s) = v.refusal? s := by
  cases outcome : v.host.prepare s.hostCalls with
  | ok _ =>
    rw [refusal?_of_prepared (SymbolHost.latch_attempted_of_ok outcome),
      refusal?_of_untried_ok h outcome]
  | error e =>
    rw [refusal?_of_failed guarded (SymbolHost.latch_attempted_of_error outcome),
      refusal?_of_untried_error guarded h outcome]

/-- Before a request to a guarded host the attempt can be taken to have been made. -/
theorem exists_attempted (guarded : v.isGuarded = true) (s : Session) (request : HostCall) :
    ∃ t, v.serve request s = v.serve request t ∧ v.refusal? s = v.refusal? t ∧
      (t.latch = .prepared ∨ ∃ reason, t.latch = .failed reason) := by
  cases h : s.latch with
  | prepared => exact ⟨s, rfl, rfl, Or.inl h⟩
  | failed reason => exact ⟨s, rfl, rfl, Or.inr ⟨reason, h⟩⟩
  | untried =>
    exact ⟨v.host.attempted s, serve_of_untried guarded h request,
      (refusal?_attempted guarded h).symm, v.host.latch_attempted s⟩

/-! ## Requests -/

/-- No request to the host changes whether it refuses. -/
theorem refusal?_serve (v : SymbolService) (request : HostCall) (s : Session) :
    v.refusal? (v.serve request s).session = v.refusal? s := by
  cases guarded : v.isGuarded with
  | false => rw [refusal?_of_unguarded guarded, refusal?_of_unguarded guarded]
  | true =>
    obtain ⟨t, same, settled, latch | ⟨reason, latch⟩⟩ := exists_attempted guarded s request
    · rw [same, settled, refusal?_of_prepared latch,
        refusal?_of_prepared (after_serve_of_prepared guarded latch request).1]
    · rw [same, settled, serve_of_failed guarded latch]

/-- A host that refuses answers every request with its reason. -/
theorem result_serve_of_refusal (refuses : v.refusal? s = some reason) (request : HostCall) :
    (v.serve request s).result = .error (.hostUnavailable reason) := by
  cases guarded : v.isGuarded with
  | false => cases refuses.symm.trans (refusal?_of_unguarded guarded s)
  | true =>
    obtain ⟨t, same, settled, latch | ⟨reason', latch⟩⟩ := exists_attempted guarded s request
    · cases (refuses.symm.trans settled).trans (refusal?_of_prepared latch)
    · cases (refuses.symm.trans settled).trans (refusal?_of_failed guarded latch)
      rw [same, serve_of_failed guarded latch]

/-- A host that does not refuse is handed the work, once it has been prepared if need be. -/
theorem exists_serve_eq_callHost (works : v.refusal? s = none) (work : request.isWork = true) :
    ∃ t, v.serve request s =
      Action.callHost request (fun earlier => v.host.answer earlier request) t := by
  cases guarded : v.isGuarded with
  | false => exact ⟨s, serve_of_ready work (ready_of_unguarded guarded s)⟩
  | true =>
    obtain ⟨t, same, settled, latch | ⟨reason, latch⟩⟩ := exists_attempted guarded s request
    · exact ⟨t, same.trans (serve_of_prepared guarded latch work)⟩
    · cases (works.symm.trans settled).trans (refusal?_of_failed guarded latch)

/-- A host that does not refuse opens the image, going by some earlier calls. -/
theorem exists_result_load (works : v.refusal? s = none) (source : ImageSource) :
    ∃ earlier, (v.load source s).result = v.host.load earlier source := by
  have work : (HostCall.load source).isWork = true := rfl
  obtain ⟨t, handedOn⟩ := exists_serve_eq_callHost works work
  exact ⟨t.hostCalls, congrArg Outcome.result handedOn⟩

theorem refusal?_after (l : ModuleLoader) (s : Session) (request : Request) :
    l.service.refusal? (s.after l request) = l.service.refusal? s := by
  have state := Session.hostState_after l s request
  cases asked : l.asks? request with
  | none =>
    rw [asked] at state
    exact refusal?_congr state
  | some call =>
    rw [asked] at state
    exact (refusal?_congr state).trans (l.service.refusal?_serve call s)

/-- Nothing that is asked of a session changes whether the host refuses. -/
theorem refusal?_run (l : ModuleLoader) (s : Session) (requests : List Request) :
    l.service.refusal? (s.run l requests) = l.service.refusal? s := by
  induction requests generalizing s with
  | nil => rfl
  | cons request rest ih => exact (ih (s.after l request)).trans (refusal?_after l s request)

end DebugSymbols.SymbolService

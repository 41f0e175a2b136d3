import DebugSymbols.SymbolHost.Service

/-!
# What actions leave alone

A part of the session is kept by an action when the part is the same after it, however the action
ends. Chains of actions keep what each of them keeps (`Keeps.bind`). Requests to the host show in
the latch and in the journal, and there only as notices, calls and lookups: every part of the
session that has nothing to do with these (`IsApart`) is seen to be kept without looking at the host.
-/

namespace DebugSymbols

/-- Whether a request to the host can leave the event behind. -/
def Event.isOfHost : Event → Bool
  | notice _ | hostCall _ | lookup _ => true
  | _ => false

namespace Action

variable {α β γ : Type} {view : Session → γ}

/-- The action leaves a part of the session as it is, whether it succeeds or fails. -/
def Keeps (view : Session → γ) (x : Action α) : Prop :=
  ∀ s, view (x s).session = view s

/-- Requests to the host do not show in this part of the session. -/
structure IsApart (view : Session → γ) : Prop where
  latch : ∀ s l, view { s with latch := l } = view s
  journal : ∀ s events, (∀ event ∈ events, event.isOfHost = true) →
    view { s with journal := s.journal ++ events } = view s

theorem IsApart.registry : IsApart Session.registry where
  latch _ _ := rfl
  journal _ _ _ := rfl

namespace Keeps

theorem pure (a : α) : Keeps view (Pure.pure a : Action α) := fun _ => rfl

theorem fail (e : SymbolError) : Keeps view (Action.fail e : Action α) := fun _ => rfl

/-- A chain keeps what its links keep; where it breaks off, the first link alone counts. -/
theorem bind {x : Action α} {next : α → Action β} (hx : Keeps view x)
    (hnext : ∀ a, Keeps view (next a)) : Keeps view (x >>= next) := by
  intro s
  have first := hx s
  rcases h : x s with ⟨result, s'⟩
  rw [h] at first
  cases result with
  | error e => rw [bind_run_of_error h]; exact first
  | ok a => rw [bind_run_of_ok h]; exact (hnext a s').trans first

theorem attempt {x : Action α} (hx : Keeps view x) : Keeps view x.attempt := fun s => by
  rw [attempt_run]
  exact hx s

theorem latch : Keeps view Action.latch := fun _ => rfl

section Apart

variable (apart : IsApart view)
include apart

theorem of_traced {t : Traced α} (h : ∀ event ∈ t.events, event.isOfHost = true) :
    Keeps view (MonadLiftT.monadLift t : Action α) := fun s =>
  apart.journal s t.events h

theorem of_except (x : Except SymbolError α) : Keeps view (MonadLiftT.monadLift x : Action α) :=
  of_traced apart fun _ listed => absurd listed List.not_mem_nil

theorem note (notice : Notice) : Keeps view (Action.note notice) := by
  refine of_traced apart fun event listed => ?_
  rw [List.mem_singleton.1 listed]
  rfl

theorem setLatch (l : HostLatch) : Keeps view (Action.setLatch l) := fun s =>
  apart.latch s l

theorem callHost (call : HostCall) {answer : List HostCall → Traced α}
    (h : ∀ earlier, ∀ event ∈ (answer earlier).events, event.isOfHost = true) :
    Keeps view (Action.callHost call answer) := by
  intro s
  have entered : view (s.enter (.hostCall call)) = view s := by
    refine apart.journal s [.hostCall call] fun event listed => ?_
    rw [List.mem_singleton.1 listed]
    rfl
  exact (apart.journal _ _ (h s.hostCalls)).trans entered

end Apart

end Keeps

end Action

/-! ## Requests to the host -/

namespace SymbolService

open DebugSymbols.Action

section

variable {γ : Type} {view : Session → γ} (apart : IsApart view)
include apart

/-- Preparing the host through the latch keeps what the attempt itself keeps. -/
theorem keeps_prepare {attempt : Action Unit} (h : Keeps view attempt) :
    Keeps view (HostLatch.prepare attempt) := by
  unfold HostLatch.prepare
  refine Keeps.latch.bind fun l => ?_
  cases l with
  | prepared => exact Keeps.pure ()
  | failed reason => exact Keeps.fail _
  | untried =>
    refine h.attempt.bind fun outcome => ?_
    cases outcome with
    | ok _ => exact (Keeps.setLatch apart _).bind fun _ => Keeps.note apart _
    | error e =>
      exact (Keeps.setLatch apart _).bind fun _ => (Keeps.note apart _).bind fun _ => Keeps.fail _

theorem keeps_ready (v : SymbolService) : Keeps view v.ready := by
  unfold ready
  split
  · exact keeps_prepare apart (Keeps.callHost apart _ fun _ _ => nofun)
  · exact Keeps.pure ()

theorem keeps_load (v : SymbolService) (source : ImageSource) : Keeps view (v.load source) :=
  (v.keeps_ready apart).bind fun _ => Keeps.callHost apart _ fun _ _ => nofun

theorem keeps_parse (v : SymbolService) (text typeName : String) :
    Keeps view (v.parse text typeName) :=
  (v.keeps_ready apart).bind fun _ => Keeps.callHost apart _ fun _ _ => nofun

theorem keeps_evaluate (v : SymbolService) (expression : String) (children : ChildVisitor) :
    Keeps view (v.evaluate expression children) := by
  refine (v.keeps_ready apart).bind fun _ => Keeps.callHost apart _ fun earlier event listed => ?_
  obtain ⟨lookup, -, rfl⟩ := List.mem_map.1 listed
  rfl

end

end SymbolService

end DebugSymbols

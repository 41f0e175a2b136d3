import DebugSymbols.Session

/-!
# Requests to the symbol host

A host that is expensive to prepare is guarded by the latch of the session: the first request
prepares it, and when that fails, this and every later request fails with the same reason and the
host is not called again. A host without a guard is called directly.
-/

namespace DebugSymbols

namespace HostLatch

/-- Makes the one attempt at preparing the host, unless it has been made, and reports how it went. -/
def prepare (attempt : Action Unit) : Action Unit := do
  match ← Action.latch with
  | .prepared => return ()
  | .failed reason => Action.fail (.hostUnavailable reason)
  | .untried =>
    match ← attempt.attempt with
    | .ok () =>
      Action.setLatch .prepared
      Action.note .hostPrepared
    | .error e =>
      Action.setLatch (.failed e.message)
      Action.note (.hostPreparationFailed e.message)
      Action.fail (.hostUnavailable e.message)

end HostLatch

structure SymbolService where
  host : SymbolHost
  /-- Whether requests go through the latch. -/
  isGuarded : Bool

namespace SymbolService

def callPrepare (v : SymbolService) : Action Unit :=
  Action.callHost .prepare fun earlier => Traced.ofExcept (v.host.prepare earlier)

/-- What comes before every other request: nothing, or the latch. -/
def ready (v : SymbolService) : Action Unit :=
  if v.isGuarded then HostLatch.prepare v.callPrepare else pure ()

def prepare (v : SymbolService) : Action Unit :=
  if v.isGuarded then v.ready else v.callPrepare

def load (v : SymbolService) (source : ImageSource) : Action SymbolProvider := do
  v.ready
  Action.callHost (.load source) fun earlier => Traced.ofExcept (v.host.load earlier source)

def parse (v : SymbolService) (text typeName : String) : Action LiteralValue := do
  v.ready
  Action.callHost (.parse text typeName) fun earlier =>
    Traced.ofExcept (v.host.parse earlier text typeName)

def evaluate (v : SymbolService) (expression : String) (children : ChildVisitor) :
    Action EvalValue := do
  v.ready
  Action.callHost (.evaluate expression children) fun earlier =>
    let evaluation := v.host.evaluate earlier expression children
    ⟨evaluation.result, evaluation.lookups.map Event.lookup⟩

end SymbolService

end DebugSymbols

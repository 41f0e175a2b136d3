import DebugSymbols.Traced

/-!
# Questions to a provider

A question to a watched provider is entered in the journal before it is answered. On top of the
plain questions there are two that put answers together: the source line of an offset, which has to
be one that can be shown, and the code for a source position with the full path of its document.
-/

namespace DebugSymbols.SymbolProvider

variable {α : Type}

/-- Puts a question: enters it when the provider is watched, and passes the answer on. -/
def ask (p : SymbolProvider) (query : SymbolQuery) (answer : Except SymbolError α) : Traced α :=
  ⟨answer, if p.watched then [.query query] else []⟩

/-- Asks for the sequence point of a line. A provider that tells the line it found gets a notice of
it. -/
def askResolve (p : SymbolProvider) (path : String) (line : UInt32) : Traced CodeMatch := do
  let found ← p.ask (.resolve path line) (p.resolve path line)
  match found.line with
  | some matched => Traced.note (.pointResolved path line matched found.method found.offset)
  | none => pure ()
  return found

def askSourceLine (p : SymbolProvider) (method : MethodToken) (offset : UInt32) :
    Traced SourceLine :=
  p.ask (.sourceLine method offset) (p.sourceLine method offset)

def askStepRange (p : SymbolProvider) (offset : UInt32) (method : MethodToken) :
    Traced StepRange :=
  p.ask (.stepRange offset method) (p.stepRange offset method)

def askPoints (p : SymbolProvider) (method : MethodToken) : Traced (List SequencePoint) :=
  p.ask (.points method) (p.points method)

def askLocalScope (p : SymbolProvider) (method : MethodToken) (slot : UInt32) :
    Traced LocalScope :=
  p.ask (.localScope method slot) (p.localScope method slot)

/-- Asks for the methods that are not the user's code. A provider without such a list is not asked,
and has none. -/
def askNonUserMethods (p : SymbolProvider) : Traced (List MethodToken) :=
  match p.nonUserMethods with
  | some answer => p.ask .nonUserMethods answer
  | none => pure []

/-- The source line of an offset, which has to be usable. Providers are expected to leave out hidden
code, but are not relied on for it. -/
def usableLine (p : SymbolProvider) (method : MethodToken) (offset : UInt32) :
    Traced SourceLine := do
  let found ← p.askSourceLine method offset
  if found.isUsable then return found
  else Traced.fail (.notFound (.sourceLine method offset))

/-- The code for a source position. The second question recovers the full path of the document, of
which the request may have given the file name only. -/
def locate (p : SymbolProvider) (path : String) (line : UInt32) : Traced CodeLocation := do
  let found ← p.askResolve path line
  let source ← p.usableLine found.method found.offset
  return ⟨found.method, found.offset, source.document⟩

@[simp] theorem result_ask (p : SymbolProvider) (query : SymbolQuery)
    (answer : Except SymbolError α) : (p.ask query answer).result = answer := rfl

/-- Notices do not change what a provider says. -/
theorem result_askResolve (p : SymbolProvider) (path : String) (line : UInt32) :
    (p.askResolve path line).result = p.resolve path line := by
  simp only [askResolve, Traced.result_bind, result_ask]
  cases h : p.resolve path line with
  | error e => rfl
  | ok found =>
    simp only [Except.bind]
    cases found.line <;> rfl

/-- A usable line is one that the provider gives and that can be shown. -/
theorem result_usableLine_eq_ok_iff {p : SymbolProvider} {method : MethodToken} {offset : UInt32}
    {found : SourceLine} :
    (p.usableLine method offset).result = .ok found ↔
      p.sourceLine method offset = .ok found ∧ found.isUsable = true := by
  simp only [usableLine, askSourceLine, Traced.result_bind, result_ask]
  cases h : p.sourceLine method offset with
  | error e => simp [Except.bind]
  | ok source =>
    simp only [Except.bind]
    by_cases hu : source.isUsable = true
    · simp only [hu, ↓reduceIte, Traced.result_pure, Except.ok.injEq]
      constructor
      · rintro rfl
        exact ⟨rfl, hu⟩
      · rintro ⟨h, -⟩
        exact h
    · simp only [hu, Bool.false_eq_true, ↓reduceIte, Traced.result_fail, reduceCtorEq,
        Except.ok.injEq, false_iff, not_and]
      rintro rfl
      exact hu

theorem result_usableLine_of_ok {p : SymbolProvider} {method : MethodToken} {offset : UInt32}
    {found : SourceLine} (h : p.sourceLine method offset = .ok found) :
    (p.usableLine method offset).result =
      if found.isUsable then .ok found else .error (.notFound (.sourceLine method offset)) := by
  simp only [usableLine, askSourceLine, Traced.result_bind, result_ask, h, Except.bind]
  split <;> rfl

theorem result_usableLine_of_error {p : SymbolProvider} {method : MethodToken} {offset : UInt32}
    {e : SymbolError} (h : p.sourceLine method offset = .error e) :
    (p.usableLine method offset).result = .error e := by
  simp only [usableLine, askSourceLine, Traced.result_bind, result_ask, h, Except.bind]

/-- Once a source position is resolved, its place in the source decides. -/
theorem result_locate_of_resolve {p : SymbolProvider} {path : String} {line : UInt32}
    {found : CodeMatch} (h : p.resolve path line = .ok found) :
    (p.locate path line).result = (p.usableLine found.method found.offset).result.map fun source =>
      ⟨found.method, found.offset, source.document⟩ := by
  simp only [locate, Traced.result_bind, result_askResolve, h, Except.bind]
  cases (p.usableLine found.method found.offset).result <;> rfl

end DebugSymbols.SymbolProvider

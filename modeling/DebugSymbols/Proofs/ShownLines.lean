import DebugSymbols.Proofs.LocatedFrames

/-!
# The lines behind answers

Providers are not trusted to leave out hidden code. Whichever way a source position or a frame is
asked about, the offset in the answer is one for which the provider that answers gives a line that
can be shown, and the document in the answer is that of the line. Nothing is assumed of the
provider: its answers need not fit together.
-/

namespace DebugSymbols

/-- For an offset the provider gives a line of `document` that can be shown. -/
def SymbolProvider.Shows (p : SymbolProvider) (method : MethodToken) (offset : UInt32)
    (document : String) : Prop :=
  ∃ line, p.sourceLine method offset = .ok ⟨line, document⟩ ∧ line ≠ 0 ∧ line ≠ hiddenLine

section

variable {p : SymbolProvider} {r : ModuleRegistry} {a : Address} {path : String} {line : UInt32}
  {method : MethodToken} {offset : UInt32} {location : CodeLocation} {fp : FramePoint}

namespace SymbolProvider

theorem shows_of_usableLine {source : SourceLine}
    (h : (p.usableLine method offset).result = .ok source) :
    p.Shows method offset source.document := by
  obtain ⟨given, usable⟩ := result_usableLine_eq_ok_iff.1 h
  exact ⟨source.line, given, SourceLine.isUsable_eq_true_iff.1 usable⟩

theorem shows_of_locate (h : (p.locate path line).result = .ok location) :
    p.Shows location.method location.offset location.document := by
  obtain ⟨found, source, -, usable, rfl⟩ := result_locate_eq_ok_iff.1 h
  exact shows_of_usableLine usable

theorem shows_of_framePoint (h : (p.framePoint method offset).result = .ok fp) :
    fp.offset = offset ∧ p.Shows method offset fp.point.document := by
  obtain ⟨source, points, nearest, usable, -, -, rfl⟩ := result_framePoint_eq_ok_iff.1 h
  exact ⟨rfl, shows_of_usableLine usable⟩

end SymbolProvider

/-- A position that is located at an address is located by the provider there. -/
theorem ModuleRegistry.exists_provider_of_locateAt
    (h : (r.locateAt a path line).result = .ok location) :
    ∃ p, r.providerAt a = .ok p ∧ (p.locate path line).result = .ok location := by
  rw [locateAt, Traced.result_bind] at h
  exact bind_eq_ok_iff.1 h

/-- A frame with a sequence point has got everywhere on the way to it. -/
theorem StackFrame.exists_of_sequencePoint {f : StackFrame}
    (h : (f.sequencePoint r).result = .ok fp) : ∃ method offset a p,
      f.method = .ok method ∧ f.offset = .ok offset ∧ f.moduleAddress = .ok a ∧
      r.providerAt a = .ok p ∧ (p.framePoint method offset).result = .ok fp := by
  simp only [sequencePoint, Traced.result_bind, Traced.result_liftM] at h
  obtain ⟨method, hmethod, h⟩ := bind_eq_ok_iff.1 h
  obtain ⟨offset, hoffset, h⟩ := bind_eq_ok_iff.1 h
  obtain ⟨a, address, h⟩ := bind_eq_ok_iff.1 h
  obtain ⟨p, provided, h⟩ := bind_eq_ok_iff.1 h
  exact ⟨method, offset, a, p, hmethod, hoffset, address, provided, h⟩

end

/-- **Every answer stands on a line that can be shown.** A source position that is located at an
address, or anywhere among the modules, and a frame that is mapped to a sequence point are at an
offset for which the provider of the answering module gives a line that is neither zero nor the mark
of hidden code, in the very document of the answer. -/
theorem answers_show_lines (r : ModuleRegistry) :
    (∀ a path line location, (r.locateAt a path line).result = .ok location →
      ∃ p, r.providerAt a = .ok p ∧ (p.locate path line).result = .ok location ∧
        p.Shows location.method location.offset location.document) ∧
    (∀ path line hit, (r.locate path line).result = .ok hit →
      ∃ e ∈ r.entries, ∃ p, e.symbols = .provider p ∧ hit.module = e.module ∧
        (p.locate path line).result = .ok hit.location ∧
        p.Shows hit.location.method hit.location.offset hit.location.document) ∧
    ∀ (f : StackFrame) fp, (f.sequencePoint r).result = .ok fp →
      ∃ method offset a p, f.method = .ok method ∧ f.offset = .ok offset ∧
        f.moduleAddress = .ok a ∧ r.providerAt a = .ok p ∧ fp.offset = offset ∧
        p.Shows method offset fp.point.document := by
  refine ⟨fun a path line location located => ?_, fun path line hit located => ?_,
    fun f fp mapped => ?_⟩
  · obtain ⟨p, provided, answered⟩ := ModuleRegistry.exists_provider_of_locateAt located
    exact ⟨p, provided, answered, SymbolProvider.shows_of_locate answered⟩
  · obtain ⟨e, listed, found⟩ :=
      List.exists_of_findSome?_eq_some (ModuleRegistry.locate_eq_ok_iff.1 located)
    obtain ⟨p, provided, answered, inModule⟩ := ModuleEntry.locate?_eq_some_iff.1 found
    exact ⟨e, listed, p, provided, inModule, answered, SymbolProvider.shows_of_locate answered⟩
  · obtain ⟨method, offset, a, p, hmethod, hoffset, address, provided, answered⟩ :=
      StackFrame.exists_of_sequencePoint mapped
    obtain ⟨same, shown⟩ := SymbolProvider.shows_of_framePoint answered
    exact ⟨method, offset, a, p, hmethod, hoffset, address, provided, same, shown⟩

/-- A provider of which no two answers fit together: it resolves every request to line 9, has line
12 of another file there, and lists hidden code only. -/
def SymbolProvider.contrary : SymbolProvider where
  watched := false
  resolve := fun _ _ => .ok ⟨⟨0x06000001⟩, 3, some 9⟩
  sourceLine := fun _ _ => .ok ⟨12, "/src/B.cs"⟩
  stepRange := fun _ _ => .error (.notFound (.reported "range"))
  points := fun _ => .ok [⟨8, hiddenLine, hiddenLine, 0, 0, "/src/C.cs"⟩]
  localScope := fun _ _ => .error (.notFound (.reported "scope"))
  nonUserMethods := none

/-- The answers that such a provider gives rise to stand on the line that it has there. -/
theorem answers_show_lines_contrary :
    let r := ModuleRegistry.empty.append ⟨⟨0x10000⟩, 0x2000, .provider .contrary, .app⟩ rfl
    let f := StackFrame.standing .app ⟨0x06000002⟩ 5
    ((r.locateAt ⟨0x10000⟩ "/src/A.cs" 4).result = .ok ⟨⟨0x06000001⟩, 3, "/src/B.cs"⟩ ∧
      ∃ p, r.providerAt ⟨0x10000⟩ = .ok p ∧ p.Shows ⟨0x06000001⟩ 3 "/src/B.cs") ∧
    ((r.locate "/src/A.cs" 4).result = .ok ⟨⟨⟨0x06000001⟩, 3, "/src/B.cs"⟩, .app⟩ ∧
      ∃ e ∈ r.entries, ∃ p, e.symbols = .provider p ∧ p.Shows ⟨0x06000001⟩ 3 "/src/B.cs") ∧
    (f.sequencePoint r).result =
        .ok ⟨5, ⟨8, hiddenLine, hiddenLine, 0, 0, "/src/B.cs"⟩⟩ ∧
      ∃ p, r.providerAt ⟨0x10000⟩ = .ok p ∧ p.Shows ⟨0x06000002⟩ 5 "/src/B.cs" := by
  intro r f
  obtain ⟨atAddress, anywhere, atFrame⟩ := answers_show_lines r
  obtain ⟨p, provided, -, shown⟩ := atAddress ⟨0x10000⟩ "/src/A.cs" 4 _ rfl
  obtain ⟨e, listed, p', provided', -, -, shown'⟩ := anywhere "/src/A.cs" 4 _ rfl
  obtain ⟨_, _, _, p'', method, offset, address, provided'', -, shown''⟩ := atFrame f _ rfl
  cases method
  cases offset
  cases address
  exact ⟨⟨rfl, p, provided, shown⟩, ⟨rfl, e, listed, p', provided', shown'⟩,
    rfl, p'', provided'', shown''⟩

end DebugSymbols

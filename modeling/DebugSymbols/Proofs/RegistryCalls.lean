import DebugSymbols.Proofs.Requests

/-!
# A registry as a list

Registrations, clearing and questions are the calls of a registry. After any calls it answers like
the list of the registrations that were accepted since it was last cleared
(`RegistryCall.accepted`): an address is in the list at most once, a registration at an address of
the list is refused and leaves no trace, and a visit goes through the list from its beginning and
ends at the first error.
-/

namespace DebugSymbols

/-! ## Visits -/

/-- Somebody to whom modules are shown. What a visitor makes of a module may depend on those shown
before. -/
abbrev ModuleVisitor : Type :=
  List LoadedModule → LoadedModule → Except SymbolError Unit

namespace ModuleVisitor

variable {visitor : ModuleVisitor} {m : LoadedModule} {modules shown : List LoadedModule}
  {outcome : Except SymbolError Unit}

/-- Shows a module, after those that have been shown. -/
def see (visitor : ModuleVisitor) (m : LoadedModule) :
    ExceptT SymbolError (StateM (List LoadedModule)) Unit :=
  ExceptT.mk fun shown => (visitor shown m, shown ++ [m])

/-- Shown one after the other, all the modules pass. -/
def Passes (visitor : ModuleVisitor) (modules : List LoadedModule) : Prop :=
  ∀ before m after, modules = before ++ m :: after → visitor before m = .ok ()

/-- How a visit ends: all the modules are shown and pass, or the last one that is shown is the first
that does not pass, and its error is the outcome. -/
def Ends (visitor : ModuleVisitor) (modules shown : List LoadedModule)
    (outcome : Except SymbolError Unit) : Prop :=
  (visitor.Passes modules ∧ shown = modules ∧ outcome = .ok ()) ∨
    ∃ before m after failure, modules = before ++ m :: after ∧ visitor.Passes before ∧
      visitor before m = .error failure ∧ shown = before ++ [m] ∧ outcome = .error failure

theorem passes_nil (visitor : ModuleVisitor) : visitor.Passes [] := by
  intro before m after split
  simp at split

/-- The first module has nothing before it; the others have it before them. -/
theorem Passes.cons (first : visitor [] m = .ok ())
    (rest : Passes (fun earlier => visitor (m :: earlier)) modules) :
    visitor.Passes (m :: modules) := by
  intro before m' after split
  cases before with
  | nil =>
    cases split
    exact first
  | cons m'' before =>
    obtain ⟨rfl, tail⟩ := List.cons.inj split
    exact rest before m' after tail

theorem Ends.cons (first : visitor [] m = .ok ())
    (rest : Ends (fun earlier => visitor (m :: earlier)) modules shown outcome) :
    visitor.Ends (m :: modules) (m :: shown) outcome := by
  rcases rest with ⟨passes, rfl, rfl⟩ | ⟨before, m', after, failure, rfl, passes, fails, rfl, rfl⟩
  · exact Or.inl ⟨passes.cons first, rfl, rfl⟩
  · exact Or.inr ⟨m :: before, m', after, failure, rfl, passes.cons first, fails, rfl, rfl⟩

theorem run_see (visitor : ModuleVisitor) (m : LoadedModule) (seen : List LoadedModule) :
    (visitor.see m).run.run seen = (visitor seen m, seen ++ [m]) := rfl

theorem run_forM_see_cons (visitor : ModuleVisitor) (e : ModuleEntry) (rest : List ModuleEntry)
    (seen : List LoadedModule) :
    ((e :: rest).forM fun e => visitor.see e.module).run.run seen =
      match visitor seen e.module with
      | .ok _ => (rest.forM fun e => visitor.see e.module).run.run (seen ++ [e.module])
      | .error failure => (.error failure, seen ++ [e.module]) := by
  show (visitor.see e.module >>= fun _ => rest.forM fun e => visitor.see e.module).run.run seen = _
  rw [ExceptT.run_bind, StateT.run_bind, run_see]
  cases visitor seen e.module <;> rfl

/-- A visit that starts behind the modules in `seen`. -/
theorem exists_run_forM_see (visitor : ModuleVisitor) (entries : List ModuleEntry)
    (seen : List LoadedModule) :
    ∃ shown outcome, (entries.forM fun e => visitor.see e.module).run.run seen =
        (outcome, seen ++ shown) ∧
      Ends (fun earlier => visitor (seen ++ earlier)) (entries.map ModuleEntry.module) shown
        outcome := by
  induction entries generalizing seen with
  | nil => exact ⟨[], .ok (), by rw [List.append_nil]; rfl, Or.inl ⟨passes_nil _, rfl, rfl⟩⟩
  | cons e rest ih =>
    rw [run_forM_see_cons]
    cases first : visitor seen e.module with
    | error failure =>
      have fails : visitor (seen ++ []) e.module = .error failure := by
        rw [List.append_nil]
        exact first
      exact ⟨[e.module], .error failure, rfl,
        Or.inr ⟨[], e.module, _, failure, rfl, passes_nil _, fails, rfl, rfl⟩⟩
    | ok _ =>
      have passes : visitor (seen ++ []) e.module = .ok () := by
        rw [List.append_nil]
        exact first
      obtain ⟨shown, outcome, run, ends⟩ := ih (seen ++ [e.module])
      simp only [List.append_assoc, List.singleton_append] at run ends
      exact ⟨e.module :: shown, outcome, run, ends.cons passes⟩

end ModuleVisitor

/-- Shows the modules of the registry to a visitor. The answer is how the visit went, and the
modules that were shown. -/
def ModuleRegistry.showTo (r : ModuleRegistry) (visitor : ModuleVisitor) :
    Except SymbolError Unit × List LoadedModule :=
  (r.visit visitor.see).run.run []

theorem ModuleRegistry.exists_showTo (r : ModuleRegistry) (visitor : ModuleVisitor) :
    ∃ shown outcome, r.showTo visitor = (outcome, shown) ∧
      visitor.Ends (r.entries.map ModuleEntry.module) shown outcome :=
  visitor.exists_run_forM_see r.entries []

theorem ModuleRegistry.moduleAt_of_mem {r : ModuleRegistry} {e : ModuleEntry}
    (listed : e ∈ r.entries) : r.moduleAt e.address = .ok e := by
  have found : r.find? e.address = some e := find?_eq_some_iff.2 ⟨listed, rfl⟩
  rw [moduleAt, found]

theorem ModuleRegistry.moduleAt_of_not_mem {r : ModuleRegistry} {a : Address}
    (absent : a ∉ r.entries.map ModuleEntry.address) :
    r.moduleAt a = .error (.notFound (.moduleAt a)) := by
  rw [moduleAt, find?_eq_none_iff.2 absent]

/-! ## Calls -/

/-- What can be asked of a registry, with an answer. -/
inductive Inquiry where
  | size
  | isEmpty
  | moduleAt (address : Address)
  | moduleNamed (name : String)
  | providerAt (address : Address)
  | locate (path : String) (line : UInt32)
  | locateAt (address : Address) (path : String) (line : UInt32)
  | visit (visitor : ModuleVisitor)

/-- What an inquiry gives when it succeeds. -/
def Inquiry.Answer : Inquiry → Type
  | size => Nat
  | isEmpty => Bool
  | moduleAt _ => ModuleEntry
  | moduleNamed _ => LoadedModule
  | providerAt _ => SymbolProvider
  | locate .. => ModuleLocation
  | locateAt .. => CodeLocation
  | visit _ => Except SymbolError Unit × List LoadedModule

def Inquiry.put (r : ModuleRegistry) : (inquiry : Inquiry) → Traced inquiry.Answer
  | size => Traced.ofExcept (.ok r.size)
  | isEmpty => Traced.ofExcept (.ok r.isEmpty)
  | moduleAt address => Traced.ofExcept (r.moduleAt address)
  | moduleNamed name => Traced.ofExcept (r.moduleNamed name)
  | providerAt address => Traced.ofExcept (r.providerAt address)
  | locate path line => r.locate path line
  | locateAt address path line => r.locateAt address path line
  | visit visitor => Traced.ofExcept (.ok (r.showTo visitor))

/-- A call of a registry. What symbols an entry has tells how it is registered: with a provider,
without symbols, or with the reason why the host is not available. -/
inductive RegistryCall where
  | register (e : ModuleEntry)
  | clear
  | inquire (inquiry : Inquiry)

namespace RegistryCall

def Answer : RegistryCall → Type
  | register _ => Unit
  | clear => Unit
  | inquire inquiry => inquiry.Answer

def perform : (call : RegistryCall) → Action call.Answer
  | register e => Session.register e
  | clear => Session.cleanup
  | inquire inquiry => fun s => Action.ofTraced (inquiry.put s.registry) s

/-- The session after calls of its registry, one after the other. -/
def performAll (s : Session) (calls : List RegistryCall) : Session :=
  calls.foldl (fun s call => (call.perform s).session) s

/-- What a call comes to after others. -/
def reply (earlier : List RegistryCall) (call : RegistryCall) : Except SymbolError call.Answer :=
  (call.perform (performAll .start earlier)).result

/-- The list of registrations after one more call. A registration at an address that has none is
put at the end, any other changes nothing. -/
def enlist (listed : List ModuleEntry) : RegistryCall → List ModuleEntry
  | register e =>
    if e.address ∈ listed.map ModuleEntry.address then listed else listed ++ [e]
  | clear => []
  | inquire _ => listed

/-- The registrations that were accepted since the registry was cleared last, in their order. -/
def accepted (calls : List RegistryCall) : List ModuleEntry :=
  calls.foldl enlist []

variable {s s' : Session} {call : RegistryCall} {calls calls' more : List RegistryCall}

theorem register_of_unlisted {e : ModuleEntry}
    (free : e.address ∉ s.registry.entries.map ModuleEntry.address) :
    (Session.register e s).result = .ok () ∧
      (Session.register e s).session.registry.entries = s.registry.entries ++ [e] := by
  have unfound := ModuleRegistry.find?_eq_none_iff.2 free
  rw [Session.register_run_of_ok (ModuleRegistry.result_insert_of_free unfound)]
  exact ⟨rfl, rfl⟩

theorem register_of_listed {e : ModuleEntry}
    (taken : e.address ∈ s.registry.entries.map ModuleEntry.address) :
    (Session.register e s).result = .error (.invalidArgument (.addressTaken e.address)) ∧
      (Session.register e s).session.registry = s.registry := by
  obtain ⟨old, listed, here⟩ := List.mem_map.1 taken
  have found := ModuleRegistry.find?_eq_some_iff.2 ⟨listed, here⟩
  rw [Session.register_run_of_error (ModuleRegistry.result_insert_of_taken found)]
  exact ⟨rfl, rfl⟩

theorem result_register (e : ModuleEntry) (s : Session) : (Session.register e s).result =
    if e.address ∈ s.registry.entries.map ModuleEntry.address then
      .error (.invalidArgument (.addressTaken e.address))
    else .ok () := by
  split
  · next taken => exact (register_of_listed taken).1
  · next free => exact (register_of_unlisted free).1

/-- A call changes the entries as it changes the list. -/
theorem entries_perform (call : RegistryCall) (s : Session) :
    (call.perform s).session.registry.entries = enlist s.registry.entries call := by
  cases call with
  | clear => rfl
  | inquire inquiry => rfl
  | register e =>
    rw [enlist]
    split
    · next taken => exact congrArg ModuleRegistry.entries (register_of_listed taken).2
    · next free => exact (register_of_unlisted free).2

theorem entries_performAll (s : Session) (calls : List RegistryCall) :
    (performAll s calls).registry.entries = calls.foldl enlist s.registry.entries := by
  induction calls generalizing s with
  | nil => rfl
  | cons call rest ih =>
    rw [List.foldl_cons, ← entries_perform call s]
    exact ih _

/-- After calls the registry is the list of what they have registered. -/
theorem entries_eq_accepted (calls : List RegistryCall) :
    (performAll .start calls).registry.entries = accepted calls :=
  entries_performAll .start calls

/-- What a call comes to is decided by the entries. -/
theorem result_perform_congr (same : s.registry.entries = s'.registry.entries)
    (call : RegistryCall) : (call.perform s).result = (call.perform s').result := by
  cases call with
  | clear => rfl
  | register e =>
    have result := result_register e s
    rw [same] at result
    exact result.trans (result_register e s').symm
  | inquire inquiry =>
    have registry : s.registry = s'.registry := by
      rcases h : s.registry with ⟨entries, nodup⟩
      rcases h' : s'.registry with ⟨entries', nodup'⟩
      rw [h, h'] at same
      cases same
      rfl
    exact congrArg (fun r => (inquiry.put r).result) registry

theorem reply_congr (same : accepted calls = accepted calls') (call : RegistryCall) :
    reply calls call = reply calls' call := by
  refine result_perform_congr ?_ call
  rw [entries_eq_accepted, entries_eq_accepted, same]

/-- A call that does not change the list has no influence on what comes after it. -/
theorem reply_of_unlisted (unlisted : enlist (accepted calls) call = accepted calls)
    (more : List RegistryCall) (later : RegistryCall) :
    reply (calls ++ call :: more) later = reply (calls ++ more) later := by
  refine reply_congr ?_ later
  unfold accepted at unlisted ⊢
  rw [List.foldl_append, List.foldl_cons, unlisted, List.foldl_append]

theorem reply_register (calls : List RegistryCall) (e : ModuleEntry) : reply calls (register e) =
    if e.address ∈ (accepted calls).map ModuleEntry.address then
      .error (.invalidArgument (.addressTaken e.address))
    else .ok () := by
  rw [← entries_eq_accepted]
  exact result_register e _

end RegistryCall

open RegistryCall in
/-- **A registry is the list of the registrations that it has accepted since it was cleared last.**
No address is listed twice, and a registration is accepted exactly if its address is not listed. The
size is the length of the list. A module is found at exactly the address where it is listed, and a
visit shows the modules in their order, each of them once, until one of them does not pass. Neither
a registration that was refused nor an inquiry makes a difference to any later call. -/
theorem registry_lists_accepted (calls : List RegistryCall) :
    let listed := accepted calls
    (listed.map ModuleEntry.address).Nodup ∧
    (∀ e, (e.address ∉ listed.map ModuleEntry.address → reply calls (.register e) = .ok ()) ∧
      (e.address ∈ listed.map ModuleEntry.address →
        reply calls (.register e) = .error (.invalidArgument (.addressTaken e.address)))) ∧
    reply calls (.inquire .size) = .ok listed.length ∧
    (∀ e ∈ listed, reply calls (.inquire (.moduleAt e.address)) = .ok e) ∧
    (∀ a, a ∉ listed.map ModuleEntry.address →
      reply calls (.inquire (.moduleAt a)) = .error (.notFound (.moduleAt a))) ∧
    (∀ visitor, ∃ shown outcome,
      reply calls (.inquire (.visit visitor)) = .ok (outcome, shown) ∧
        visitor.Ends (listed.map ModuleEntry.module) shown outcome) ∧
    (∀ e failure, reply calls (.register e) = .error failure → ∀ more later,
      reply (calls ++ .register e :: more) later = reply (calls ++ more) later) ∧
    ∀ inquiry more later,
      reply (calls ++ .inquire inquiry :: more) later = reply (calls ++ more) later := by
  intro listed
  have entries : (performAll .start calls).registry.entries = listed := entries_eq_accepted calls
  refine ⟨?_, fun e => ⟨fun free => ?_, fun taken => ?_⟩, ?_, fun e enrolled => ?_,
    fun a absent => ?_, fun visitor => ?_, fun e failure refused more later => ?_,
    fun inquiry more later => reply_of_unlisted rfl more later⟩
  · rw [← entries]
    exact (performAll .start calls).registry.addresses_nodup
  · rw [reply_register, if_neg free]
  · rw [reply_register, if_pos taken]
  · rw [← entries]
    rfl
  · rw [← entries] at enrolled
    exact ModuleRegistry.moduleAt_of_mem enrolled
  · rw [← entries] at absent
    exact ModuleRegistry.moduleAt_of_not_mem absent
  · obtain ⟨shown, outcome, run, ends⟩ :=
      (performAll .start calls).registry.exists_showTo visitor
    rw [entries] at ends
    exact ⟨shown, outcome, congrArg Except.ok run, ends⟩
  · refine reply_of_unlisted ?_ more later
    rw [reply_register] at refused
    split at refused
    · next taken => rw [enlist, if_pos taken]
    · cases refused

/-- An address inside the image of a module is not its address. -/
example (m : LoadedModule) :
    RegistryCall.reply [.register ⟨⟨0x10000⟩, 0x2000, .absent, m⟩]
      (.inquire (.moduleAt ⟨0x10010⟩)) = .error (.notFound (.moduleAt ⟨0x10010⟩)) := rfl

end DebugSymbols

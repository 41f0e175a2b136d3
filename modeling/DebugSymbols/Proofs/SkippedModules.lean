import DebugSymbols.Proofs.RequestedLines
import DebugSymbols.Proofs.UnpreparedHost

/-!
# Modules that are skipped

Which modules get no symbols is set by a variable of the environment: a list of beginnings of file
names. The text of the list is cut, trimmed and made a policy, and the name of a module is made a
path that the debugger can open. What comes of all that is whether the file name begins with an item
of the list (`skipped_iff_listed`).
-/

namespace DebugSymbols

/-- `start` is what is left of a piece of the list, between commas, without the white space around
it; a piece of which nothing is left is none. -/
def SymbolSettings.IsItem (list : String) (start : List Char) : Prop :=
  ∃ piece ∈ list.toList.splitOn ',', Text.Pads piece start ∧ Text.IsTight start ∧ start ≠ []

/-- `file` is what stands in `path` behind the last separator, and all of it if there is none. -/
def FilePath.IsLastPart (path file : List Char) : Prop :=
  (∀ c ∈ file, c ≠ '/' ∧ c ≠ '\\') ∧ (path = file ∨ ∃ directory separator,
    (separator = '/' ∨ separator = '\\') ∧ path = directory ++ separator :: file)

theorem FilePath.isLastPart_iff {path file : List Char} :
    IsLastPart path file ↔ nameOf path = file := by
  rw [nameOf_eq_iff, IsLastPart]
  simp only [isSeparator_eq_true_iff, isSeparator_eq_false_iff]

/-! ## The list -/

namespace SymbolSettings

variable {environment : Environment} {settings : SymbolSettings} {list item : String}

theorem mem_readList_iff_isItem : item ∈ readList list ↔ IsItem list item.toList := by
  rw [mem_readList_iff]
  simp only [IsItem, Text.trim_eq_iff, and_assoc, ne_eq, String.toList_eq_nil_iff]

/-- The list is the one that is set, and else the standard one. -/
theorem skipStarts_of_load (h : (load environment).1 = .ok settings) :
    settings.skipStarts = readList ((environment skipKey).getD "System.,SOS.") := by
  unfold load at h
  split at h
  · next settings' made =>
    cases h
    unfold read at made
    -- Without a value for the switch nothing else is read; with one, it does not touch the list.
    cases set : environment justMyCodeKey with
    | none =>
      rw [set] at made
      cases made
      cases environment skipKey <;> rfl
    | some text =>
      rw [set] at made
      obtain ⟨justMyCode, -, made⟩ := bind_eq_ok_iff.1 made
      cases made
      cases environment skipKey <;> rfl
  · cases h

end SymbolSettings

/-! ## The policy made of it -/

/-- The policy goes by what stands last in the path. -/
theorem SkipList.skips_readList_iff {list path : String} :
    (ofList (SymbolSettings.readList list)).skips path = true ↔ ∃ start file,
      SymbolSettings.IsItem list start ∧ FilePath.IsLastPart path.toList file ∧ start <+: file := by
  rw [skips_ofList_iff]
  constructor
  · rintro ⟨start, listed, -, begins⟩
    exact ⟨start.toList, _, SymbolSettings.mem_readList_iff_isItem.1 listed,
      FilePath.isLastPart_iff.2 rfl, begins⟩
  · rintro ⟨start, file, item, last, begins⟩
    obtain rfl := FilePath.isLastPart_iff.1 last
    refine ⟨String.ofList start, SymbolSettings.mem_readList_iff_isItem.2 ?_, ?_, ?_⟩
    · rwa [String.toList_ofList]
    · intro empty
      obtain ⟨-, -, -, -, filled⟩ := item
      exact filled (String.ofList_eq_empty_iff.1 empty)
    · rwa [String.toList_ofList]

/-- **Symbols are skipped exactly for the modules whose file names begin with an item of the list.**
The list is the value of the variable, and `System.,SOS.` where it is not set; an item is what is
left of a piece between commas without white space around it, if anything is. The file name is what
the name that the module reports has behind its last separator: a module that is seen through
`/proc/self` is skipped like any other, whatever the number of its process. -/
theorem skipped_iff_listed (environment : Environment) (settings : SymbolSettings)
    (read : (SymbolSettings.load environment).1 = .ok settings) (service : SymbolService)
    (m : LoadedModule) (s : Session) (d : ModuleDescriptor)
    (loaded : ((ModuleLoader.ofSettings service settings).load m s).result = .ok d) :
    ∃ name, m.name = .ok name ∧ (d.status = .skipped ↔ ∃ start file,
      SymbolSettings.IsItem ((environment SymbolSettings.skipKey).getD "System.,SOS.") start ∧
      FilePath.IsLastPart name.toList file ∧ start <+: file) := by
  obtain ⟨path, found, -, described, -⟩ := ModuleLoader.describe_of_loadChanging loaded
  obtain ⟨name, named, sameFile⟩ := LoadedModule.exists_name_of_path found
  have status := (ModuleLoader.describe_eq_ok_iff.1 described).2.2.2.2.2
  refine ⟨name, named, ?_⟩
  rw [status, ModuleLoader.statusFor_eq_skipped_iff]
  -- The policy is asked for the path, in which the file name is that of the reported name.
  show (!(SkipList.ofList settings.skipStarts).skips path) = false ↔ _
  rw [Bool.not_eq_false', SymbolSettings.skipStarts_of_load read, SkipList.skips_readList_iff]
  simp only [FilePath.isLastPart_iff, sameFile]

/-- An environment in which one variable is set. -/
def Environment.single (key text : String) : Environment :=
  fun key' => if key' = key then some text else none

/-- A list with an empty item, and a module that is seen through `/proc/self` and has both
separators in its name. -/
theorem skipped_iff_listed_throughProc :
    let environment := Environment.single SymbolSettings.skipKey " Contoso. ,,\tNewton"
    let settings : SymbolSettings := ⟨["Contoso.", "Newton"], true⟩
    let l := ModuleLoader.ofSettings (SymbolHost.broken .outOfMemory).guarded settings
    let m := LoadedModule.ofFile "/proc/self/fd\\Newtonsoft.Json.dll" ⟨0x10000⟩ 0x2000
    (SymbolSettings.load environment).1 = .ok settings ∧
    ∃ d, (l.load m .start).result = .ok d ∧ d.status = .skipped ∧
      ∃ start file, SymbolSettings.IsItem " Contoso. ,,\tNewton" start ∧
        FilePath.IsLastPart "/proc/self/fd\\Newtonsoft.Json.dll".toList file ∧
        start <+: file := by
  have read : (SymbolSettings.load (.single SymbolSettings.skipKey " Contoso. ,,\tNewton")).1 =
      .ok ⟨["Contoso.", "Newton"], true⟩ := by decide +kernel
  obtain ⟨name, named, skipped⟩ := skipped_iff_listed _ _ read
    (SymbolHost.broken .outOfMemory).guarded
    (.ofFile "/proc/self/fd\\Newtonsoft.Json.dll" ⟨0x10000⟩ 0x2000) .start _ rfl
  cases named
  exact ⟨read, _, rfl, rfl, skipped.1 rfl⟩

end DebugSymbols

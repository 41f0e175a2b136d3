import DebugSymbols.Environment
import DebugSymbols.Notice
import DebugSymbols.Text.Pieces

/-!
# Settings

The settings come from variables of the environment: a list of beginnings of file names, separated
by commas, whose modules get no symbols, and a switch for Just My Code.
-/

namespace DebugSymbols

structure SymbolSettings where
  /-- Modules whose file names begin so get no symbols. -/
  skipStarts : List String
  /-- Whether the methods that are not the user's code are marked as such. -/
  justMyCode : Bool
deriving DecidableEq

structure InvalidSetting where
  key : String
  value : String
deriving DecidableEq

def InvalidSetting.message (e : InvalidSetting) : String :=
  "Invalid value for " ++ e.key ++ ": " ++ Text.quoted e.value

namespace SymbolSettings

def skipKey : String := "ILMAP_SKIP_SYMBOL_PREFIXES"

def justMyCodeKey : String := "ILMAP_JUST_MY_CODE"

/-- What holds where nothing is set: the modules of the framework are left out. -/
def standard : SymbolSettings :=
  ⟨["System.", "SOS."], true⟩

/-- The items of a list separated by commas, without the white space around them and without the
items that are nothing else. -/
def readList (text : String) : List String :=
  (((Text.pieces (· == ',') text.toList).map Text.trim).filter fun item => !item.isEmpty).map
    String.ofList

theorem mem_readList_iff {text item : String} : item ∈ readList text ↔
    ∃ piece ∈ text.toList.splitOn ',', Text.trim piece = item.toList ∧ item ≠ "" := by
  rw [readList, Text.pieces_eq_splitOnP]
  simp only [List.mem_map, List.mem_filter]
  constructor
  · rintro ⟨core, ⟨⟨piece, listed, rfl⟩, filled⟩, rfl⟩
    refine ⟨piece, listed, String.toList_ofList.symm, ?_⟩
    rintro empty
    have nothing : Text.trim piece = [] := by
      rw [← String.toList_ofList (l := Text.trim piece), empty, String.toList_empty]
    rw [nothing] at filled
    cases filled
  · rintro ⟨piece, listed, trimmed, filled⟩
    refine ⟨item.toList, ⟨⟨piece, listed, trimmed⟩, ?_⟩, String.ofList_toList⟩
    simpa using filled

def readSwitch (key text : String) : Except InvalidSetting Bool :=
  let word := String.ofList ((Text.trim text.toList).map Char.toLower)
  if word ∈ ["1", "true", "yes", "on"] then .ok true
  else if word ∈ ["0", "false", "no", "off"] then .ok false
  else .error ⟨key, text⟩

def read (environment : Environment) : Except InvalidSetting SymbolSettings := do
  let skipStarts :=
    match environment skipKey with
    | some text => readList text
    | none => standard.skipStarts
  let justMyCode ←
    match environment justMyCodeKey with
    | some text => readSwitch justMyCodeKey text
    | none => pure standard.justMyCode
  return ⟨skipStarts, justMyCode⟩

/-- Reads the settings, with a notice of what they are when they could be read. -/
def load (environment : Environment) : Except InvalidSetting SymbolSettings × List Notice :=
  match read environment with
  | .ok settings => (.ok settings, [.settingsLoaded settings.skipStarts settings.justMyCode])
  | .error e => (.error e, [])

end SymbolSettings

end DebugSymbols

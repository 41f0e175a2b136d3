import DebugSymbols.ModuleLoader
import DebugSymbols.Proofs.LoadedSymbols

/-!
# Paths through the process's own directory

A process sees itself in `/proc/self/`, where another process sees itself too. A path from there is
turned into one that names the process by its number. The number is made of digits, so the new path
never leads through `/proc/self/` (`not_prefix_seenFromOutside`) and is turned no further, whatever
number comes next. Only directories are replaced: the file name, and with it what a policy decides,
stay as they are (`path_settled`).
-/

namespace DebugSymbols

/-! ## The number of a process -/

namespace ProcessId

variable {pid : ProcessId}

theorem digits_ne_nil : pid.digits ≠ [] :=
  Nat.toDigits_ne_nil

theorem isDigit_of_mem_digits {c : Char} (h : c ∈ pid.digits) : c.isDigit = true :=
  Nat.isDigit_of_mem_toDigits (by decide) (by decide) h

end ProcessId

/-! ## The path made of it -/

namespace FilePath

variable {path : String} {pid : ProcessId}

theorem insideSelf?_eq_none_iff {path : List Char} :
    insideSelf? path = none ↔ ¬ selfDirectory <+: path := by
  unfold insideSelf?
  rw [← List.isPrefixOf_iff_prefix]
  split
  · next inside => simp [inside]
  · next outside => simp [outside]

theorem toList_seenFromOutside {rest : List Char} (h : path.toList = selfDirectory ++ rest)
    (pid : ProcessId) : (seenFromOutside path pid).toList =
      ['/', 'p', 'r', 'o', 'c', '/'] ++ (pid.digits ++ '/' :: rest) := by
  rw [seenFromOutside, insideSelf?_eq_some_iff.2 h, String.toList_ofList, List.append_assoc]

theorem seenFromOutside_append (rest : String) (pid : ProcessId) :
    seenFromOutside ("/proc/self/" ++ rest) pid = "/proc/" ++ toString pid ++ "/" ++ rest := by
  have inside : ("/proc/self/" ++ rest).toList = selfDirectory ++ rest.toList :=
    String.toList_append
  apply String.toList_injective
  rw [toList_seenFromOutside inside pid]
  simp [toString]

theorem seenFromOutside_of_outside (h : ¬ selfDirectory <+: path.toList) (pid : ProcessId) :
    seenFromOutside path pid = path := by
  rw [seenFromOutside, insideSelf?_eq_none_iff.2 h]

/-- Where the new path goes on behind `/proc/`, it does so with a digit and not with `self`. -/
theorem not_prefix_seenFromOutside (path : String) (pid : ProcessId) :
    ¬ selfDirectory <+: (seenFromOutside path pid).toList := by
  by_cases inside : selfDirectory <+: path.toList
  · obtain ⟨rest, split⟩ := inside
    rw [toList_seenFromOutside split.symm pid]
    intro back
    have behind : ['s', 'e', 'l', 'f', '/'] <+: pid.digits ++ '/' :: rest :=
      (List.prefix_append_right_inj ['/', 'p', 'r', 'o', 'c', '/']).1 back
    cases number : pid.digits with
    | nil => exact ProcessId.digits_ne_nil number
    | cons digit digits =>
      rw [number, List.cons_append, List.cons_prefix_cons] at behind
      have member : 's' ∈ pid.digits := by
        rw [number, behind.1]
        exact List.mem_cons_self
      have isDigit := ProcessId.isDigit_of_mem_digits member
      exact absurd isDigit (by decide)
  · rw [seenFromOutside_of_outside inside]
    exact inside

theorem fileName_seenFromOutside (path : String) (pid : ProcessId) :
    fileName (seenFromOutside path pid) = fileName path := by
  rw [fileName, nameOf_seenFromOutside, ← fileName]

end FilePath

/-- A policy that goes by the file name decides alike for paths with one file name. -/
theorem SkipList.policy_congr (l : SkipList) {path path' : String}
    (h : FilePath.fileName path = FilePath.fileName path') : l.policy path = l.policy path' := by
  have same : FilePath.nameOf path.toList = FilePath.nameOf path'.toList :=
    String.ofList_injective h
  rw [policy, policy, skips, skips, same]

/-- A module whose name and process number can be read has the path that is seen from outside. -/
theorem LoadedModule.path_eq_seenFromOutside {m : LoadedModule} {name : String} {pid : ProcessId}
    (named : m.name = .ok name) (known : m.processId = .ok pid) :
    m.path = .ok (FilePath.seenFromOutside name pid) := by
  rw [path, named, known]
  simp only [List.isPrefixOf_iff_prefix]
  split
  · rfl
  · next outside => rw [FilePath.seenFromOutside_of_outside outside]

open FilePath in
/-- **A path is settled once the process has its number in it.** The file name stays, so that every
list of modules to skip decides as before, and a second number changes nothing, since the new path
does not begin with `/proc/self/` again. It is the path by which the module is known. -/
theorem path_settled (path : String) (pid pid' : ProcessId) :
    let settled := seenFromOutside path pid
    (∀ rest, path = "/proc/self/" ++ rest → settled = "/proc/" ++ toString pid ++ "/" ++ rest) ∧
    fileName settled = fileName path ∧
    (∀ l : SkipList, l.policy settled = l.policy path) ∧
    seenFromOutside settled pid' = settled ∧
    ¬ "/proc/self/".toList <+: settled.toList ∧
    ∀ m : LoadedModule, m.name = .ok path → m.processId = .ok pid → m.path = .ok settled := by
  intro settled
  have sameName := fileName_seenFromOutside path pid
  have outside := not_prefix_seenFromOutside path pid
  refine ⟨?_, sameName, fun l => l.policy_congr sameName, seenFromOutside_of_outside outside pid',
    outside, fun m named known => LoadedModule.path_eq_seenFromOutside named known⟩
  rintro rest rfl
  exact seenFromOutside_append rest pid

/-- What follows the directory may begin with it once more, and is left alone. -/
theorem path_settled_nested :
    let path := "/proc/self//proc/self/fd\\System.dll"
    let settled := "/proc/1//proc/self/fd\\System.dll"
    (LoadedModule.ofFile path ⟨0x10000⟩ 0x2000).path = .ok settled ∧
      FilePath.seenFromOutside settled ⟨77⟩ = settled ∧
      (SkipList.ofList ["System."]).policy settled = false := by
  intro path settled
  obtain ⟨made, -, decides, stays, -, known⟩ := path_settled path ⟨1⟩ ⟨77⟩
  have number : FilePath.seenFromOutside path ⟨1⟩ = settled := made "/proc/self/fd\\System.dll" rfl
  rw [number] at decides stays known
  refine ⟨known (.ofFile path ⟨0x10000⟩ 0x2000) rfl rfl, stays, ?_⟩
  exact (decides (.ofList ["System."])).trans (by decide)

end DebugSymbols

import DebugSymbols.Text.Pieces

/-!
# File paths as text

Module and document paths come from two families of systems, so a *file name* is what follows the
last `/` or `\`. Paths that are opened here use `/` alone: two of them are the same path when their
components agree, whatever the number of slashes between them.
-/

namespace DebugSymbols.FilePath

open Text (pieces join)

/-- Whether `c` separates directories in a module or document path. -/
def isSeparator (c : Char) : Bool :=
  c == '/' || c == '\\'

theorem isSeparator_eq_true_iff {c : Char} : isSeparator c = true ↔ c = '/' ∨ c = '\\' := by
  simp [isSeparator]

theorem isSeparator_eq_false_iff {c : Char} : isSeparator c = false ↔ c ≠ '/' ∧ c ≠ '\\' := by
  simp [isSeparator]

def nameOf (path : List Char) : List Char :=
  (path.reverse.takeWhile fun c => !isSeparator c).reverse

theorem nameOf_append {name : List Char} (h : ∀ c ∈ name, isSeparator c = false)
    (before : List Char) : nameOf (before ++ name) = nameOf before ++ name := by
  have inName : ∀ c ∈ name.reverse, (!isSeparator c) = true := by simpa using h
  rw [nameOf, List.reverse_append, List.takeWhile_append_of_pos inName, List.reverse_append,
    List.reverse_reverse, nameOf]

theorem nameOf_concat_of_separator {separator : Char} (h : isSeparator separator = true)
    (directory : List Char) : nameOf (directory ++ [separator]) = [] := by
  simp [nameOf, h]

/-- The name in a path is what has no separator in it and stands behind the last one, if there is
one. -/
theorem nameOf_eq_iff {path name : List Char} : nameOf path = name ↔
    (∀ c ∈ name, isSeparator c = false) ∧ (path = name ∨ ∃ directory separator,
      isSeparator separator = true ∧ path = directory ++ separator :: name) := by
  constructor
  · rintro rfl
    have split : path =
        (path.reverse.dropWhile fun c => !isSeparator c).reverse ++ nameOf path := by
      rw [nameOf, ← List.reverse_append, List.takeWhile_append_dropWhile, List.reverse_reverse]
    refine ⟨fun c hc => ?_, ?_⟩
    · simpa using List.all_eq_true.1 List.all_takeWhile c (List.mem_reverse.1 hc)
    · cases rest : path.reverse.dropWhile fun c => !isSeparator c with
      | nil =>
        rw [rest] at split
        exact .inl split
      | cons separator directory =>
        have stops := List.head?_dropWhile_not (fun c => !isSeparator c) path.reverse
        rw [rest] at stops split
        exact .inr ⟨directory.reverse, separator, by simpa using stops, by simpa using split⟩
  · rintro ⟨inName, rfl | ⟨directory, separator, separates, rfl⟩⟩
    · exact nameOf_append inName []
    · rw [List.append_cons, nameOf_append inName, nameOf_concat_of_separator separates,
        List.nil_append]

/-- What stands before a separator does not matter. -/
theorem nameOf_append_cons {separator : Char} (h : isSeparator separator = true)
    (directory rest : List Char) : nameOf (directory ++ separator :: rest) = nameOf rest := by
  rw [nameOf_eq_iff]
  obtain ⟨inName, whole | ⟨inner, last, separates, split⟩⟩ :=
    nameOf_eq_iff.1 (Eq.refl (nameOf rest))
  · exact ⟨inName, .inr ⟨directory, separator, h, congrArg (directory ++ separator :: ·) whole⟩⟩
  · refine ⟨inName, .inr ⟨directory ++ separator :: inner, last, separates, ?_⟩⟩
    rw [List.append_assoc, List.cons_append, ← split]

/-- The file name of `path`: all of it when it has no separator, nothing when it ends in one. -/
def fileName (path : String) : String :=
  String.ofList (nameOf path.toList)

/-- Whether `path` names a directory as well as a file. -/
def hasDirectory (path : String) : Bool :=
  path.toList.any isSeparator

/-- Whether a piece of a path leads nowhere: an empty one or a lone dot. -/
def isIdle (piece : List Char) : Bool :=
  piece.isEmpty || piece == ['.']

/-- A path taken apart for comparison. -/
structure Components where
  absolute : Bool
  /-- The steps of the path. A lone dot counts only as the first step of a relative path. -/
  steps : List (List Char)
deriving DecidableEq

/-- The components of `path`. Repeated slashes, a slash at the end and lone dots past the first step
do not matter. -/
def components (path : String) : Components :=
  let cs := path.toList
  let absolute := cs.head? == some '/'
  match pieces (· == '/') cs with
  | [] => ⟨absolute, []⟩
  | first :: rest =>
    let steps := rest.filter fun piece => !isIdle piece
    ⟨absolute, if first.isEmpty then steps else first :: steps⟩

/-- `name` inside the directory `directory`. An absolute `name` stands for itself. -/
def inside (directory name : String) : String :=
  if name.toList.head? == some '/' then name
  else if directory.isEmpty || directory.toList.getLast? == some '/' then directory ++ name
  else directory ++ "/" ++ name

/-- The path without its last step, and without what leads nowhere before that. The root and a leading
dot stay; the root itself has no last step. -/
def parent? (path : String) : Option String :=
  let cs := path.toList
  let isRooted := cs.head? == some '/'
  let isDotted := cs.head? == some '.' && (cs.tail.isEmpty || cs.tail.head? == some '/')
  let (start, body) := if isRooted || isDotted then (cs.take 1, cs.drop 1) else ([], cs)
  match (pieces (· == '/') body).reverse.dropWhile isIdle with
  | [] => if isDotted then some "" else none
  | _ :: above => some (String.ofList (start ++ join '/' (above.dropWhile isIdle).reverse))

end DebugSymbols.FilePath

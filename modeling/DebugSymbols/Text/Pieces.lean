import DebugSymbols.Text.Classes

/-!
# Cutting and trimming texts

A text is cut at every separator, and what lies between is kept, the empty pieces included. White
space is trimmed from both ends: what is left has none at its ends, and nothing else is removed
(`trim_eq_iff`).
-/

namespace DebugSymbols.Text

/-- The stretches of a text between the characters on which `cut` holds: one more than there are
separators. -/
def pieces (cut : Char → Bool) : List Char → List (List Char)
  | [] => [[]]
  | c :: cs =>
    if cut c then [] :: pieces cut cs
    else
      match pieces cut cs with
      | [] => [[c]]
      | p :: ps => (c :: p) :: ps

/-- Puts the pieces together again, with the separator between them. -/
def join (separator : Char) : List (List Char) → List Char
  | [] => []
  | [p] => p
  | p :: ps => p ++ separator :: join separator ps

/-- Cutting is the library's splitting. -/
theorem pieces_eq_splitOnP (cut : Char → Bool) (cs : List Char) :
    pieces cut cs = cs.splitOnP cut := by
  induction cs with
  | nil => rw [pieces, List.splitOnP_nil]
  | cons c cs ih =>
    rw [pieces, List.splitOnP_cons_eq_if_modifyHead, ih]
    split
    · rfl
    · split
      · next h => exact absurd h (List.splitOnP_ne_nil cut cs)
      · next p ps h => rw [h, List.modifyHead_cons]

/-- Removes the longest tail on which `p` holds throughout. -/
def dropTail (p : Char → Bool) (cs : List Char) : List Char :=
  (cs.reverse.dropWhile p).reverse

def trim (cs : List Char) : List Char :=
  dropTail isBlank (cs.dropWhile isBlank)

theorem dropTail_nil (p : Char → Bool) : dropTail p [] = [] := rfl

/-- A list whose last element is kept loses nothing. -/
theorem dropTail_concat_of_neg {p : Char → Bool} {c : Char} (h : p c = false) (cs : List Char) :
    dropTail p (cs ++ [c]) = cs ++ [c] := by
  simp [dropTail, h]

/-- A tail in the class is removed. -/
theorem dropTail_append {p : Char → Bool} {tail : List Char} (h : ∀ c ∈ tail, p c = true)
    (cs : List Char) : dropTail p (cs ++ tail) = dropTail p cs := by
  rw [dropTail, List.reverse_append, List.dropWhile_append_of_pos, dropTail]
  exact fun c hc => h c (List.mem_reverse.1 hc)

theorem dropTail_of_last {p : Char → Bool} {cs : List Char} (h : ∀ c ∈ cs.getLast?, p c = false) :
    dropTail p cs = cs := by
  cases last : cs.getLast? with
  | none => rw [List.getLast?_eq_none_iff.1 last, dropTail_nil]
  | some c =>
    obtain ⟨init, rfl⟩ := List.getLast?_eq_some_iff.1 last
    exact dropTail_concat_of_neg (h c last) init

theorem exists_dropTail (p : Char → Bool) (cs : List Char) :
    ∃ tail, cs = dropTail p cs ++ tail ∧ (∀ c ∈ tail, p c = true) ∧
      ∀ c ∈ (dropTail p cs).getLast?, p c = false := by
  refine ⟨(cs.reverse.takeWhile p).reverse, ?_, fun c hc => ?_, fun c hc => ?_⟩
  · rw [dropTail, ← List.reverse_append, List.takeWhile_append_dropWhile, List.reverse_reverse]
  · rw [List.mem_reverse] at hc
    exact List.all_eq_true.1 List.all_takeWhile c hc
  · rw [dropTail, List.getLast?_reverse] at hc
    have kept := List.head?_dropWhile_not p cs.reverse
    rw [Option.mem_def.1 hc] at kept
    simpa using kept

/-! ## What trimming does -/

/-- The text is `core` with white space around it, on either side or on none. -/
def Pads (text core : List Char) : Prop :=
  ∃ before after, text = before ++ core ++ after ∧ (∀ c ∈ before, isBlank c = true) ∧
    ∀ c ∈ after, isBlank c = true

/-- There is no white space at either end. -/
structure IsTight (cs : List Char) : Prop where
  head : ∀ c ∈ cs.head?, isBlank c = false
  last : ∀ c ∈ cs.getLast?, isBlank c = false

theorem pads_trim (text : List Char) : Pads text (trim text) := by
  obtain ⟨after, split, blank, -⟩ := exists_dropTail isBlank (text.dropWhile isBlank)
  refine ⟨text.takeWhile isBlank, after, ?_, List.all_eq_true.1 List.all_takeWhile, blank⟩
  calc text = text.takeWhile isBlank ++ text.dropWhile isBlank :=
        List.takeWhile_append_dropWhile.symm
    _ = text.takeWhile isBlank ++ trim text ++ after := by rw [List.append_assoc, trim, ← split]

theorem isTight_trim (text : List Char) : IsTight (trim text) := by
  obtain ⟨after, split, -, last⟩ := exists_dropTail isBlank (text.dropWhile isBlank)
  refine ⟨fun c hc => ?_, last⟩
  -- What is left starts where the text starts behind the white space before it.
  have first : (text.dropWhile isBlank).head? = some c := by
    have here : (dropTail isBlank (text.dropWhile isBlank)).head? = some c := hc
    rw [split, List.head?_append, here]
    rfl
  have kept := List.head?_dropWhile_not isBlank text
  rw [first] at kept
  simpa using kept

theorem trim_of_pads {text core : List Char} (padded : Pads text core) (tight : IsTight core) :
    trim text = core := by
  obtain ⟨before, after, rfl, blankBefore, blankAfter⟩ := padded
  rw [trim, List.append_assoc, List.dropWhile_append_of_pos blankBefore]
  cases core with
  | nil =>
    rw [List.nil_append, ← List.append_nil after, List.dropWhile_append_of_pos blankAfter]
    rfl
  | cons c cs =>
    have kept : isBlank c = false := tight.head c rfl
    rw [List.cons_append, List.dropWhile_cons_of_neg (by simp [kept]), ← List.cons_append,
      dropTail_append blankAfter, dropTail_of_last tight.last]

/-- Trimming leaves what has no white space at its ends and has nothing else around it. -/
theorem trim_eq_iff {text core : List Char} : trim text = core ↔ Pads text core ∧ IsTight core := by
  refine ⟨?_, fun h => trim_of_pads h.1 h.2⟩
  rintro rfl
  exact ⟨pads_trim text, isTight_trim text⟩

/-- Nothing is left of a text exactly if it is white space throughout. -/
theorem trim_eq_nil_iff {text : List Char} : trim text = [] ↔ ∀ c ∈ text, isBlank c = true := by
  constructor
  · intro h
    obtain ⟨before, after, split, blankBefore, blankAfter⟩ := h ▸ pads_trim text
    intro c hc
    rw [split, List.append_nil, List.mem_append] at hc
    exact hc.elim (blankBefore c) (blankAfter c)
  · intro blank
    exact trim_of_pads ⟨text, [], by simp, blank, by simp⟩ ⟨by simp, by simp⟩

end DebugSymbols.Text

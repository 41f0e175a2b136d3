/-!
# Character and string literals

A string literal stands between double quotes and gives a backslash, a quote, a line feed, a tab and
a null character by an escape of one letter. A character literal is one character between
apostrophes, written as it is; it has to fit into one 16-bit unit.
-/

namespace DebugSymbols.Literal

/-- The character that a backslash and `c` stand for. -/
def escaped? (c : Char) : Option Char :=
  if c = 'n' then some '\n'
  else if c = 't' then some '\t'
  else if c = '0' then some '\x00'
  else if c = '"' ∨ c = '\\' then some c
  else none

/-- Replaces the escapes in the inside of a string literal; none when a backslash starts no
escape. -/
def unescape : List Char → Option (List Char)
  | [] => some []
  | '\\' :: [] => none
  | '\\' :: c :: cs => (escaped? c).bind fun d => (unescape cs).map (d :: ·)
  | c :: cs => (unescape cs).map (c :: ·)

/-- What stands between a `mark` at the start and another one at the end. -/
def between? (mark : Char) : List Char → Option (List Char)
  | [] => none
  | c :: cs => if c = mark ∧ cs.getLast? = some mark then some cs.dropLast else none

/-- The 16-bit unit of a character literal. -/
def characterUnit? (cs : List Char) : Option Nat :=
  match between? '\x27' cs with
  | some [c] => if c.toNat < UInt16.size then some c.toNat else none
  | _ => none

theorem unescape_cons_of_ne {c : Char} (h : c ≠ '\\') (cs : List Char) :
    unescape (c :: cs) = (unescape cs).map (c :: ·) := by
  rw [unescape]
  · exact fun e _ => h e
  · exact fun _ _ e _ => h e

theorem between?_eq_some_iff {mark : Char} {cs inner : List Char} :
    between? mark cs = some inner ↔ cs = mark :: (inner ++ [mark]) := by
  cases cs with
  | nil => simp [between?]
  | cons c cs =>
    simp only [between?, Option.ite_none_right_eq_some, Option.some.injEq, List.cons.injEq,
      and_assoc, List.getLast?_eq_some_iff]
    constructor
    · rintro ⟨rfl, ⟨init, rfl⟩, rfl⟩
      exact ⟨rfl, by rw [List.dropLast_concat]⟩
    · rintro ⟨rfl, rfl⟩
      exact ⟨rfl, ⟨inner, rfl⟩, List.dropLast_concat⟩

end DebugSymbols.Literal

import DebugSymbols.Literal

/-!
# String literals and their contents

The inside of a string literal is a row of items, one for each character of the content: the
character itself, or a letter behind a backslash (`IsInside`). Which characters may stand for
themselves is a parameter. A writer escapes every double quote and every backslash, so that what it
leaves plain is never one of them (`IsPlain`), and whatever it writes is read back (`parse_written`).
The reader asks for less: it takes any character but the backslash as it is, a double quote too
(`parse_string_accepts`).
-/

namespace DebugSymbols.Literal

/-! ## The grammar -/

/-- A letter behind a backslash, and the character for which the two stand. -/
inductive IsEscape : Char → Char → Prop where
  | newline : IsEscape 'n' '\n'
  | tab : IsEscape 't' '\t'
  | null : IsEscape '0' '\x00'
  | quote : IsEscape '"' '"'
  | backslash : IsEscape '\\' '\\'

/-- `inside` is made of items for the characters of `content`, in their order. A character that
`plain` allows may stand for itself. -/
inductive IsInside (plain : Char → Prop) : List Char → List Char → Prop where
  | nil : IsInside plain [] []
  | plain {c inside content} (allowed : plain c) (rest : IsInside plain inside content) :
      IsInside plain (c :: inside) (c :: content)
  | escape {c d inside content} (escapes : IsEscape c d) (rest : IsInside plain inside content) :
      IsInside plain ('\\' :: c :: inside) (d :: content)

/-- The character neither ends a string literal nor starts an escape. -/
def IsPlain (c : Char) : Prop :=
  c ≠ '"' ∧ c ≠ '\\'

def quoted (inside : List Char) : List Char :=
  '"' :: (inside ++ ['"'])

namespace IsInside

variable {plain plain' : Char → Prop} {inside inside' content content' : List Char}

theorem mono (weaker : ∀ c, plain c → plain' c) (h : IsInside plain inside content) :
    IsInside plain' inside content := by
  induction h with
  | nil => exact .nil
  | plain allowed _ ih => exact .plain (weaker _ allowed) ih
  | escape escapes _ ih => exact .escape escapes ih

theorem append (h : IsInside plain inside content) (h' : IsInside plain inside' content') :
    IsInside plain (inside ++ inside') (content ++ content') := by
  induction h with
  | nil => exact h'
  | plain allowed _ ih => exact .plain allowed ih
  | escape escapes _ ih => exact .escape escapes ih

/-- Behind some items of an inside stands an inside again, since an item shows where it ends. -/
theorem of_append (solid : ∀ c, plain c → c ≠ '\\') (h : IsInside plain inside content)
    (whole : IsInside plain (inside ++ inside') content') :
    ∃ content'', IsInside plain inside' content'' := by
  induction h generalizing content' with
  | nil => exact ⟨content', whole⟩
  | @plain _ inside _ allowed _ ih =>
    rw [List.cons_append] at whole
    generalize split : inside ++ inside' = tail at whole
    cases whole with
    | plain _ rest => exact ih (split ▸ rest)
    | escape _ _ => exact absurd rfl (solid _ allowed)
  | @escape _ _ inside _ _ _ ih =>
    rw [List.cons_append, List.cons_append] at whole
    generalize split : inside ++ inside' = tail at whole
    cases whole with
    | plain allowed _ => exact absurd rfl (solid _ allowed)
    | escape _ rest => exact ih (split ▸ rest)

end IsInside

/-! ## Reading -/

theorem escaped?_eq_some_iff {c d : Char} : escaped? c = some d ↔ IsEscape c d := by
  constructor
  · intro h
    unfold escaped? at h
    split at h
    · next is => cases h; exact is ▸ .newline
    · split at h
      · next is => cases h; exact is ▸ .tab
      · split at h
        · next is => cases h; exact is ▸ .null
        · split at h
          · next is =>
            cases h
            rcases is with rfl | rfl
            · exact .quote
            · exact .backslash
          · cases h
  · intro h
    cases h <;> rfl

/-- The reader takes everything but a backslash as it is. -/
theorem unescape_eq_some_iff {inside content : List Char} :
    unescape inside = some content ↔ IsInside (· ≠ '\\') inside content := by
  constructor
  · intro h
    fun_induction unescape inside generalizing content with
    | case1 =>
      cases h
      exact .nil
    | case2 => cases h
    | case3 c cs ih =>
      obtain ⟨d, escapes, h⟩ := Option.bind_eq_some_iff.1 h
      obtain ⟨rest, read, rfl⟩ := Option.map_eq_some_iff.1 h
      exact .escape (escaped?_eq_some_iff.1 escapes) (ih read)
    | case4 c cs noEnd noEscape ih =>
      obtain ⟨rest, read, rfl⟩ := Option.map_eq_some_iff.1 h
      have solid : c ≠ '\\' := by
        rintro rfl
        cases cs with
        | nil => exact noEnd rfl rfl
        | cons d ds => exact noEscape d ds rfl rfl
      exact .plain solid (ih read)
  · intro h
    induction h with
    | nil => rfl
    | plain allowed _ ih => rw [unescape_cons_of_ne allowed, ih, Option.map_some]
    | escape escapes _ ih =>
      rw [unescape, escaped?_eq_some_iff.2 escapes, Option.bind_some, ih, Option.map_some]

theorem readString_eq_ok_iff {cs : List Char} {value : LiteralValue} :
    readString cs = .ok value ↔ ∃ inside content, cs = quoted inside ∧
      IsInside (· ≠ '\\') inside content ∧ value = .text (String.ofList content) := by
  simp only [readString, quoted, ← between?_eq_some_iff, ← unescape_eq_some_iff]
  cases between? '"' cs with
  | none => simp
  | some inside =>
    simp only [Option.some.injEq, exists_and_left, exists_eq_left']
    cases unescape inside with
    | none => simp
    | some content => simp [eq_comm (a := value)]

theorem isTight_quoted (inside : List Char) : Text.IsTight (quoted inside) := by
  have solid : Text.isBlank '"' = false := by decide
  have last : (quoted inside).getLast? = some '"' := by
    rw [quoted, ← List.cons_append, List.getLast?_concat]
  exact ⟨by simpa [quoted] using solid, by simpa [last] using solid⟩

/-- What stands between quotes is read, whatever white space is around them, exactly if it is an
inside, plain in all but backslashes. -/
theorem parse_string_eq_ok_iff {text : String} {value : LiteralValue} :
    parse text "System.String" = .ok value ↔ ∃ inside content,
      Text.Pads text.toList (quoted inside) ∧ IsInside (· ≠ '\\') inside content ∧
      value = .text (String.ofList content) := by
  have named : LiteralType.ofName? "System.String" = some .string := rfl
  simp only [parse, named, readString_eq_ok_iff, Text.trim_eq_iff, isTight_quoted, and_true]

/-! ## Writing -/

/-- The letter by which a character can be written that can also stand for itself. -/
def letter? (c : Char) : Option Char :=
  if c = '\n' then some 'n'
  else if c = '\t' then some 't'
  else if c = '\x00' then some '0'
  else none

/-- How `c` is written inside a string literal. A double quote and a backslash are escaped. What has
a letter is written by it if `byLetter` says so. -/
def item (byLetter : Bool) (c : Char) : List Char :=
  if c = '"' ∨ c = '\\' then ['\\', c]
  else match letter? c with
    | some letter => if byLetter then ['\\', letter] else [c]
    | none => [c]

/-- How `content` is written inside a string literal. `byLetter` decides for each place in it. -/
def insideOf (byLetter : Nat → Bool) (content : List Char) : List Char :=
  (content.mapIdx fun i c => item (byLetter i) c).flatten

theorem isEscape_of_letter? {c letter : Char} (h : letter? c = some letter) :
    IsEscape letter c := by
  unfold letter? at h
  split at h
  · next is => cases h; exact is ▸ .newline
  · split at h
    · next is => cases h; exact is ▸ .tab
    · split at h
      · next is => cases h; exact is ▸ .null
      · cases h

theorem IsInside.item_append {inside content : List Char} (h : IsInside IsPlain inside content)
    (byLetter : Bool) (c : Char) : IsInside IsPlain (item byLetter c ++ inside) (c :: content) := by
  unfold item
  split
  · next special =>
    rcases special with rfl | rfl
    · exact .escape .quote h
    · exact .escape .backslash h
  · next ordinary =>
    have isPlain : IsPlain c := not_or.1 ordinary
    cases short : letter? c with
    | none => exact .plain isPlain h
    | some letter =>
      cases byLetter with
      | false => exact .plain isPlain h
      | true => exact .escape (isEscape_of_letter? short) h

theorem isInside_insideOf (byLetter : Nat → Bool) (content : List Char) :
    IsInside IsPlain (insideOf byLetter content) content := by
  induction content generalizing byLetter with
  | nil => exact .nil
  | cons c content ih =>
    rw [insideOf, List.mapIdx_cons, List.flatten_cons]
    exact (ih fun i => byLetter (i + 1)).item_append (byLetter 0) c

/-- **A text that is written as a string literal is read back.** Its double quotes and backslashes
are escaped, each line feed, tab and null character is escaped or not, and there is white space
around the literal or not. -/
theorem parse_written (content : String) (byLetter : Nat → Bool) (text : String)
    (padded : Text.Pads text.toList (quoted (insideOf byLetter content.toList))) :
    parse text "System.String" = .ok (.text content) := by
  refine parse_string_eq_ok_iff.2 ⟨_, content.toList, padded, ?_, ?_⟩
  · exact (isInside_insideOf byLetter content.toList).mono fun _ isPlain => isPlain.2
  · rw [String.ofList_toList]

/-- A text that ends in a backslash and a double quote, and has two tabs, one of them escaped. -/
theorem parse_written_twoTabs :
    Text.Pads " \"\t\\t\\\\\\\"\"\n".toList
      (quoted (insideOf (· == 1) "\t\t\\\"".toList)) ∧
    parse " \"\t\\t\\\\\\\"\"\n" "System.String" = .ok (.text "\t\t\\\"") := by
  have padded : Text.Pads " \"\t\\t\\\\\\\"\"\n".toList
      (quoted (insideOf (· == 1) "\t\t\\\"".toList)) :=
    ⟨[' '], ['\n'], rfl, List.forall_mem_singleton.2 rfl, List.forall_mem_singleton.2 rfl⟩
  exact ⟨padded, parse_written "\t\t\\\"" (· == 1) _ padded⟩

/-! ## What is accepted -/

/-- But for white space around it, the text is a string literal: items between double quotes, with a
double quote or a backslash in escapes only. -/
def IsStringLiteral (text : String) : Prop :=
  ∃ inside content, Text.Pads text.toList (quoted inside) ∧ IsInside IsPlain inside content

/-- But for white space around it, the text is made of items between double quotes, and of double
quotes among them that no backslash escapes. The first such one stands between `front` and `back`. -/
def HasBareQuote (text : String) : Prop :=
  ∃ front back content content', Text.Pads text.toList (quoted (front ++ '"' :: back)) ∧
    IsInside IsPlain front content ∧ IsInside (· ≠ '\\') back content'

/-- An inside that the reader takes is well formed up to the first double quote that stands for
itself, if there is one. -/
theorem IsInside.isPlain_or_split {inside content : List Char}
    (h : IsInside (· ≠ '\\') inside content) : IsInside IsPlain inside content ∨
      ∃ front back content content', inside = front ++ '"' :: back ∧
        IsInside IsPlain front content ∧ IsInside (· ≠ '\\') back content' := by
  induction h with
  | nil => exact .inl .nil
  | @plain c inside content allowed rest ih =>
    by_cases quote : c = '"'
    · subst quote
      exact .inr ⟨[], inside, [], content, rfl, .nil, rest⟩
    · rcases ih with whole | ⟨front, back, _, _, rfl, wellFormed, taken⟩
      · exact .inl (.plain ⟨quote, allowed⟩ whole)
      · exact .inr ⟨_ :: front, back, _, _, rfl, .plain ⟨quote, allowed⟩ wellFormed, taken⟩
  | escape escapes rest ih =>
    rcases ih with whole | ⟨front, back, _, _, rfl, wellFormed, taken⟩
    · exact .inl (.escape escapes whole)
    · exact .inr ⟨_ :: _ :: front, back, _, _, rfl, .escape escapes wellFormed, taken⟩

/-- A text has one inside. -/
theorem inside_unique {text inside inside' : List Char} (h : Text.Pads text (quoted inside))
    (h' : Text.Pads text (quoted inside')) : inside = inside' := by
  have same : quoted inside = quoted inside' :=
    (Text.trim_of_pads h (isTight_quoted _)).symm.trans (Text.trim_of_pads h' (isTight_quoted _))
  exact List.append_cancel_right (List.cons.inj same).2

theorem IsStringLiteral.not_hasBareQuote {text : String} (h : IsStringLiteral text) :
    ¬ HasBareQuote text := by
  obtain ⟨inside, content, padded, wellFormed⟩ := h
  rintro ⟨front, back, _, _, padded', before, -⟩
  rw [inside_unique padded padded'] at wellFormed
  obtain ⟨_, behind⟩ := before.of_append (fun _ isPlain => isPlain.2) wellFormed
  cases behind with
  | plain allowed _ => exact allowed.1 rfl

theorem readString_eq_error {cs : List Char} {failure : SymbolError}
    (h : readString cs = .error failure) :
    failure = .provider (.notQuoted (String.ofList cs)) ∨
      failure = .provider (.invalidEscape (String.ofList cs)) := by
  unfold readString at h
  split at h
  · exact .inl (Except.error.inj h).symm
  · split at h
    · exact .inr (Except.error.inj h).symm
    · cases h

/-- **What is read as a string.** The reader accepts every string literal, and besides them exactly
the texts that have a double quote among the items, which it takes as it is. None of these is a
string literal. Everything else is refused, with the text in the message. -/
theorem parse_string_accepts (text : String) :
    ((∃ value, parse text "System.String" = .ok value) ↔
      IsStringLiteral text ∨ HasBareQuote text) ∧
    (IsStringLiteral text → ¬ HasBareQuote text) ∧
    ∀ failure, parse text "System.String" = .error failure →
      failure = .provider (.notQuoted (String.ofList (Text.trim text.toList))) ∨
        failure = .provider (.invalidEscape (String.ofList (Text.trim text.toList))) := by
  refine ⟨⟨?_, ?_⟩, IsStringLiteral.not_hasBareQuote, fun failure h => readString_eq_error h⟩
  · rintro ⟨value, h⟩
    obtain ⟨inside, content, padded, taken, -⟩ := parse_string_eq_ok_iff.1 h
    rcases taken.isPlain_or_split with whole | ⟨front, back, _, _, rfl, wellFormed, taken⟩
    · exact .inl ⟨inside, content, padded, whole⟩
    · exact .inr ⟨front, back, _, _, padded, wellFormed, taken⟩
  · have lenient : ∀ c, IsPlain c → c ≠ '\\' := fun _ isPlain => isPlain.2
    rintro (⟨inside, content, padded, whole⟩ | ⟨front, back, _, _, padded, wellFormed, taken⟩)
    · exact ⟨_, parse_string_eq_ok_iff.2 ⟨inside, content, padded, whole.mono lenient, rfl⟩⟩
    · have quote : '"' ≠ '\\' := by decide
      have around := (wellFormed.mono lenient).append (.plain quote taken)
      exact ⟨_, parse_string_eq_ok_iff.2 ⟨_, _, padded, around, rfl⟩⟩

/-- Two string literals side by side are read as one. -/
theorem parse_string_merges : parse "\"a\" \"b\"" "System.String" = .ok (.text "a\" \"b") ∧
    ¬ IsStringLiteral "\"a\" \"b\"" := by
  refine ⟨rfl, fun isLiteral => isLiteral.not_hasBareQuote ⟨['a'], [' ', '"', 'b'], ['a'],
    [' ', '"', 'b'], ⟨[], [], rfl, by simp, by simp⟩, .plain ⟨by decide, by decide⟩ .nil, ?_⟩⟩
  exact .plain (by decide) (.plain (by decide) (.plain (by decide) .nil))

end DebugSymbols.Literal

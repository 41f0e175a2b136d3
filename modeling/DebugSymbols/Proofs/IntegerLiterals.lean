import DebugSymbols.Literal
import Mathlib.Data.List.Forall2
import Mathlib.Data.Nat.Digits.Lemmas
import Mathlib.Tactic.IntervalCases

/-!
# Integer literals and their bytes

The literals of an integer type are given by a grammar (`IsInteger`) that says what number a text
denotes, and their bytes by the word of the type's width that stands for the number in two's
complement. Reading a literal succeeds exactly on the numbers of the grammar that lie within the
range of the type, and gives exactly those bytes (`parse_integer`). There is no limit to the number
of digits.
-/

namespace DebugSymbols.Literal

/-! ## The grammar -/

/-- The character is the digit `d` in base `radix`, a letter being of either case. -/
def IsDigit (radix d : Nat) (c : Char) : Prop :=
  d < radix ∧ (c = Nat.digitChar d ∨ c = (Nat.digitChar d).toUpper)

/-- The characters are digits in base `radix`, at least one, and denote `n`. -/
def IsNumeral (radix : Nat) (cs : List Char) (n : Nat) : Prop :=
  cs ≠ [] ∧ ∃ ds, List.Forall₂ (IsDigit radix) ds cs ∧ Nat.ofDigits radix ds.reverse = n

/-- A numeral is decimal, or hexadecimal behind its prefix. -/
inductive IsMagnitude : List Char → Nat → Prop where
  | decimal {cs n} (digits : IsNumeral 10 cs n) : IsMagnitude cs n
  | lowerHex {cs n} (digits : IsNumeral 16 cs n) : IsMagnitude ('0' :: 'x' :: cs) n
  | upperHex {cs n} (digits : IsNumeral 16 cs n) : IsMagnitude ('0' :: 'X' :: cs) n

/-- There is at most one sign, which is a minus, and it stands first. -/
inductive IsInteger : List Char → Int → Prop where
  | unsigned {cs} {n : Nat} (magnitude : IsMagnitude cs n) : IsInteger cs n
  | negative {cs} {n : Nat} (magnitude : IsMagnitude cs n) : IsInteger ('-' :: cs) (-n)

/-! ## Digits -/

/-- A digit is below the base, and from one of three runs of characters. -/
theorem digitValue?_cases {radix d : Nat} {c : Char} (h : digitValue? radix c = some d) :
    d < radix ∧ ((c.toNat = d + 48 ∧ d < 10) ∨ (c.toNat = d + 87 ∧ 10 ≤ d) ∨
      (c.toNat = d + 55 ∧ 10 ≤ d)) := by
  simp only [digitValue?, Option.ite_none_right_eq_some, Option.some.injEq] at h
  obtain ⟨small, value⟩ := h
  rw [value] at small
  refine ⟨small, ?_⟩
  split at value
  · next digit =>
    have run : 48 ≤ c.toNat ∧ c.toNat ≤ 57 := digit
    have zero : '0'.toNat = 48 := rfl
    omega
  · split at value
    · next letter =>
      have run : 97 ≤ c.toNat ∧ c.toNat ≤ 122 := letter
      have first : 'a'.toNat = 97 := rfl
      omega
    · split at value
      · next letter =>
        have run : 65 ≤ c.toNat ∧ c.toNat ≤ 90 := letter
        have first : 'A'.toNat = 65 := rfl
        omega
      · omega

theorem digitValue?_eq_some_iff {radix d : Nat} {c : Char} (base : radix = 10 ∨ radix = 16) :
    digitValue? radix c = some d ↔ IsDigit radix d c := by
  constructor
  · intro h
    obtain ⟨small, run⟩ := digitValue?_cases h
    refine ⟨small, ?_⟩
    have hex : d < 16 := by omega
    rw [← Char.ofNat_toNat c]
    rcases run with ⟨place, bound⟩ | ⟨place, bound⟩ | ⟨place, bound⟩
    · rw [place]
      exact Or.inl (by interval_cases d <;> rfl)
    · rw [place]
      exact Or.inl (by interval_cases d <;> rfl)
    · rw [place]
      exact Or.inr (by interval_cases d <;> rfl)
  · rintro ⟨small, rfl | rfl⟩
    · rcases base with rfl | rfl <;> interval_cases d <;> rfl
    · rcases base with rfl | rfl <;> interval_cases d <;> rfl

/-! ## Reading -/

theorem readDigitsFrom_eq_some_iff {radix value n : Nat} {cs : List Char}
    (base : radix = 10 ∨ radix = 16) : readDigitsFrom radix value cs = some n ↔
      ∃ ds, List.Forall₂ (IsDigit radix) ds cs ∧
        ds.foldl (fun value d => value * radix + d) value = n := by
  induction cs generalizing value with
  | nil => simp [readDigitsFrom]
  | cons c cs ih =>
    simp only [readDigitsFrom, Option.bind_eq_some_iff, digitValue?_eq_some_iff base, ih,
      List.forall₂_cons_right_iff]
    constructor
    · rintro ⟨d, digit, ds, digits, rfl⟩
      exact ⟨d :: ds, ⟨d, ds, digit, digits, rfl⟩, rfl⟩
    · rintro ⟨_, ⟨d, ds, digit, digits, rfl⟩, rfl⟩
      exact ⟨d, digit, ds, digits, rfl⟩

/-- The value of digits from the left, and by their places from the right. -/
theorem ofDigits_reverse (radix : Nat) (ds : List Nat) :
    Nat.ofDigits radix ds.reverse = ds.foldl (fun value d => value * radix + d) 0 := by
  rw [Nat.ofDigits_eq_foldr, List.foldr_reverse]
  simp only [Nat.cast_id, Nat.add_comm, Nat.mul_comm]

theorem readDigits_eq_some_iff {radix n : Nat} {cs : List Char}
    (base : radix = 10 ∨ radix = 16) : readDigits radix cs = some n ↔ IsNumeral radix cs n := by
  unfold readDigits IsNumeral
  simp only [ofDigits_reverse]
  cases cs with
  | nil => simp
  | cons c cs => simp [readDigitsFrom_eq_some_iff base]

theorem readMagnitude_eq_some_iff {cs : List Char} {n : Nat} :
    readMagnitude cs = some n ↔ IsMagnitude cs n := by
  constructor
  · intro h
    unfold readMagnitude at h
    split at h
    · exact .lowerHex ((readDigits_eq_some_iff (.inr rfl)).1 h)
    · exact .upperHex ((readDigits_eq_some_iff (.inr rfl)).1 h)
    · exact .decimal ((readDigits_eq_some_iff (.inl rfl)).1 h)
  · intro h
    cases h with
    | lowerHex digits => exact (readDigits_eq_some_iff (.inr rfl)).2 digits
    | upperHex digits => exact (readDigits_eq_some_iff (.inr rfl)).2 digits
    | decimal digits =>
      have read := (readDigits_eq_some_iff (.inl rfl)).2 digits
      unfold readMagnitude
      split
      -- The letter of a prefix is no decimal digit.
      · cases read
      · cases read
      · exact read

theorem readInteger_negative (cs : List Char) :
    readInteger ('-' :: cs) = (readMagnitude cs).map fun n : Nat => -(n : Int) := by
  simp only [readInteger]
  cases readMagnitude cs <;> rfl

theorem readInteger_unsigned {cs : List Char} (h : ∀ rest, cs ≠ '-' :: rest) :
    readInteger cs = (readMagnitude cs).map fun n : Nat => (n : Int) := by
  unfold readInteger
  split
  · next rest => exact absurd rfl (h rest)
  · cases readMagnitude cs <;> rfl

theorem readInteger_eq_some_iff {cs : List Char} {n : Int} :
    readInteger cs = some n ↔ IsInteger cs n := by
  constructor
  · intro h
    by_cases signed : ∃ rest, cs = '-' :: rest
    · obtain ⟨rest, rfl⟩ := signed
      rw [readInteger_negative, Option.map_eq_some_iff] at h
      obtain ⟨magnitude, read, rfl⟩ := h
      exact .negative (readMagnitude_eq_some_iff.1 read)
    · rw [readInteger_unsigned (not_exists.1 signed), Option.map_eq_some_iff] at h
      obtain ⟨magnitude, read, rfl⟩ := h
      exact .unsigned (readMagnitude_eq_some_iff.1 read)
  · intro h
    cases h with
    | negative magnitude =>
      rw [readInteger_negative, readMagnitude_eq_some_iff.2 magnitude, Option.map_some]
    | unsigned magnitude =>
      have read := readMagnitude_eq_some_iff.2 magnitude
      rw [readInteger_unsigned, read, Option.map_some]
      -- The sign is no digit.
      rintro rest rfl
      cases read

/-! ## White space around a literal -/

theorem IsDigit.isBlank_eq_false {radix d : Nat} {c : Char} (base : radix ≤ 16)
    (h : IsDigit radix d c) : Text.isBlank c = false := by
  have hex : d < 16 := h.1.trans_le base
  obtain ⟨-, rfl | rfl⟩ := h
  · interval_cases d <;> rfl
  · interval_cases d <;> rfl

theorem IsNumeral.isBlank_eq_false {radix n : Nat} {cs : List Char} (base : radix ≤ 16)
    (h : IsNumeral radix cs n) : ∀ c ∈ cs, Text.isBlank c = false := by
  obtain ⟨-, ds, digits, -⟩ := h
  induction digits with
  | nil => simp
  | cons digit _ ih => exact List.forall_mem_cons.2 ⟨digit.isBlank_eq_false base, ih⟩

theorem IsMagnitude.isBlank_eq_false {cs : List Char} {n : Nat} (h : IsMagnitude cs n) :
    ∀ c ∈ cs, Text.isBlank c = false := by
  cases h with
  | decimal digits => exact digits.isBlank_eq_false (by decide)
  | lowerHex digits =>
    exact List.forall_mem_cons.2 ⟨by decide, List.forall_mem_cons.2
      ⟨by decide, digits.isBlank_eq_false (by decide)⟩⟩
  | upperHex digits =>
    exact List.forall_mem_cons.2 ⟨by decide, List.forall_mem_cons.2
      ⟨by decide, digits.isBlank_eq_false (by decide)⟩⟩

theorem IsInteger.isTight {cs : List Char} {n : Int} (h : IsInteger cs n) : Text.IsTight cs := by
  have solid : ∀ c ∈ cs, Text.isBlank c = false := by
    cases h with
    | unsigned magnitude => exact magnitude.isBlank_eq_false
    | negative magnitude =>
      exact List.forall_mem_cons.2 ⟨by decide, magnitude.isBlank_eq_false⟩
  exact ⟨fun c hc => solid c (List.mem_of_mem_head? hc),
    fun c hc => solid c (List.mem_of_mem_getLast? hc)⟩

/-- White space around it does not change what a text denotes. -/
theorem readInteger_trim_eq_some_iff {text : List Char} {n : Int} :
    readInteger (Text.trim text) = some n ↔ ∃ cs, Text.Pads text cs ∧ IsInteger cs n := by
  rw [readInteger_eq_some_iff]
  constructor
  · exact fun h => ⟨_, Text.pads_trim text, h⟩
  · rintro ⟨cs, padded, h⟩
    rw [Text.trim_of_pads padded h.isTight]
    exact h

/-! ## Bytes -/

/-- The bytes, the least significant one first, are those of the word of `width` bytes that stands
for `n` in two's complement. -/
def IsTwosComplement (width : Nat) (n : Int) (bytes : List UInt8) : Prop :=
  bytes.length = width ∧
    Nat.ofDigits 256 (bytes.map UInt8.toNat) = (BitVec.ofInt (8 * width) n).toNat

theorem ofDigits_littleEndian (width n : Nat) :
    Nat.ofDigits 256 ((littleEndian width n).map UInt8.toNat) = n % 256 ^ width := by
  induction width generalizing n with
  | zero => simp [littleEndian, Nat.mod_one]
  | succ width ih =>
    have low : (UInt8.ofNat n).toNat = n % 256 := UInt8.toNat_ofNat'
    rw [littleEndian, List.map_cons, Nat.ofDigits_cons, ih, low, Nat.pow_succ', Nat.mod_mul]

theorem IntegerType.isTwosComplement_encode (t : IntegerType) (n : Int) :
    IsTwosComplement t.width n (t.encode n) := by
  refine ⟨t.length_encode n, ?_⟩
  have word : (n % (Nat.pow 2 (8 * t.width) : Nat)).toNat =
      (BitVec.ofInt (8 * t.width) n).toNat := BitVec.toNat_ofInt n |>.symm
  have small := (BitVec.ofInt (8 * t.width) n).isLt
  rw [encode, ofDigits_littleEndian, word, Nat.mod_eq_of_lt]
  rw [show 256 = 2 ^ 8 from rfl, ← Nat.pow_mul]
  exact small

theorem IsTwosComplement.unique {width : Nat} {n : Int} {bytes bytes' : List UInt8}
    (h : IsTwosComplement width n bytes) (h' : IsTwosComplement width n bytes') :
    bytes = bytes' := by
  have byte (bytes : List UInt8) : ∀ d ∈ bytes.map UInt8.toNat, d < 256 := by
    intro d hd
    obtain ⟨b, -, rfl⟩ := List.mem_map.1 hd
    exact b.toNat_lt
  have lengths : (bytes.map UInt8.toNat).length = (bytes'.map UInt8.toNat).length := by
    rw [List.length_map, List.length_map, h.1, h'.1]
  have same := Nat.ofDigits_inj_of_len_eq (by decide) lengths (byte bytes) (byte bytes')
    (h.2.trans h'.2.symm)
  exact List.map_injective_iff.2 (fun _ _ => UInt8.toNat_inj.1) same

/-! ## The types -/

/-- An integer type of the runtime: the values from `least` to `greatest`, in `width` bytes. -/
structure RuntimeInteger where
  name : String
  least : Int
  greatest : Int
  width : Nat

def RuntimeInteger.all : List RuntimeInteger :=
  [⟨"System.SByte", -128, 127, 1⟩,
   ⟨"System.Byte", 0, 255, 1⟩,
   ⟨"System.Int16", -32768, 32767, 2⟩,
   ⟨"System.UInt16", 0, 65535, 2⟩,
   ⟨"System.Int32", -2147483648, 2147483647, 4⟩,
   ⟨"System.UInt32", 0, 4294967295, 4⟩,
   ⟨"System.Int64", -9223372036854775808, 9223372036854775807, 8⟩,
   ⟨"System.UInt64", 0, 18446744073709551615, 8⟩]

section

variable {t : RuntimeInteger} {type : IntegerType} {text typeName : String}

/-- Literals of the type are read as those of an integer type of the same width and range. -/
theorem RuntimeInteger.exists_type (known : t ∈ all) : ∃ type : IntegerType,
    LiteralType.ofName? t.name = some (.integer type) ∧ type.width = t.width ∧
      type.least = t.least ∧ type.limit = t.greatest + 1 := by
  simp only [all, List.mem_cons, List.not_mem_nil, or_false] at known
  rcases known with rfl | rfl | rfl | rfl | rfl | rfl | rfl | rfl
  · exact ⟨⟨true, 1⟩, rfl, rfl, rfl, rfl⟩
  · exact ⟨⟨false, 1⟩, rfl, rfl, rfl, rfl⟩
  · exact ⟨⟨true, 2⟩, rfl, rfl, rfl, rfl⟩
  · exact ⟨⟨false, 2⟩, rfl, rfl, rfl, rfl⟩
  · exact ⟨⟨true, 4⟩, rfl, rfl, rfl, rfl⟩
  · exact ⟨⟨false, 4⟩, rfl, rfl, rfl, rfl⟩
  · exact ⟨⟨true, 8⟩, rfl, rfl, rfl, rfl⟩
  · exact ⟨⟨false, 8⟩, rfl, rfl, rfl, rfl⟩

theorem integerBytes_eq_some_iff {cs : List Char} {bytes : List UInt8} :
    integerBytes type cs = some bytes ↔ ∃ n, readInteger cs = some n ∧
      type.least ≤ n ∧ n < type.limit ∧ bytes = type.encode n := by
  simp [integerBytes, IntegerType.holds, Option.bind_eq_some_iff, and_assoc, eq_comm (a := bytes)]

theorem parse_of_integer (known : LiteralType.ofName? typeName = some (.integer type)) :
    parse text typeName = match integerBytes type (Text.trim text.toList) with
      | some bytes => .ok (.bytes bytes)
      | none => .error (.provider
          (.invalidLiteral (String.ofList (Text.trim text.toList)) typeName)) := by
  cases read : integerBytes type (Text.trim text.toList) with
  | none => simp only [parse, known, read]
  | some bytes => simp only [parse, known, read]

end

/-- **The integer literals of a type are the numerals of the numbers that it has.** A text is read
exactly if it is, but for white space around it, an optional minus sign and decimal digits, or
hexadecimal ones behind a prefix, that denote a number within the range of the type. What is read
are the bytes of that number in two's complement. Every other text is refused. -/
theorem parse_integer (t : RuntimeInteger) (known : t ∈ RuntimeInteger.all) (text : String) :
    (∀ value, parse text t.name = .ok value ↔ ∃ cs n bytes, Text.Pads text.toList cs ∧
      IsInteger cs n ∧ t.least ≤ n ∧ n ≤ t.greatest ∧ IsTwosComplement t.width n bytes ∧
      value = .bytes bytes) ∧
    ∀ failure, parse text t.name = .error failure → failure =
      .provider (.invalidLiteral (String.ofList (Text.trim text.toList)) t.name) := by
  obtain ⟨type, named, width, least, limit⟩ := RuntimeInteger.exists_type known
  rw [parse_of_integer named]
  constructor
  · intro value
    constructor
    · intro h
      cases read : integerBytes type (Text.trim text.toList) with
      | none =>
        rw [read] at h
        cases h
      | some bytes =>
        rw [read] at h
        cases h
        obtain ⟨n, denoted, above, below, rfl⟩ := integerBytes_eq_some_iff.1 read
        obtain ⟨cs, padded, integer⟩ := readInteger_trim_eq_some_iff.1 denoted
        refine ⟨cs, n, _, padded, integer, least ▸ above, by omega, ?_, rfl⟩
        exact width ▸ type.isTwosComplement_encode n
    · rintro ⟨cs, n, bytes, padded, integer, above, below, stands, rfl⟩
      have denoted := readInteger_trim_eq_some_iff.2 ⟨cs, padded, integer⟩
      have encoded : bytes = type.encode n :=
        stands.unique (width ▸ type.isTwosComplement_encode n)
      have read : integerBytes type (Text.trim text.toList) = some bytes :=
        integerBytes_eq_some_iff.2 ⟨n, denoted, by omega, by omega, encoded⟩
      rw [read]
  · intro failure h
    cases read : integerBytes type (Text.trim text.toList) with
    | none =>
      rw [read] at h
      exact (Except.error.inj h).symm
    | some bytes =>
      rw [read] at h
      cases h

/-- The least value of a type has a literal, and the number after the greatest one has none. -/
theorem parse_integer_atLimits :
    parse "\t-0x8000000000000000 " "System.Int64" = .ok (.bytes [0, 0, 0, 0, 0, 0, 0, 0x80]) ∧
    parse "0X8000000000000000" "System.Int64" =
      .error (.provider (.invalidLiteral "0X8000000000000000" "System.Int64")) := by
  have known : ⟨"System.Int64", -9223372036854775808, 9223372036854775807, 8⟩ ∈
      RuntimeInteger.all := by
    simp [RuntimeInteger.all]
  have digits : IsNumeral 16 ('8' :: List.replicate 15 '0') 9223372036854775808 := by
    refine ⟨by decide, 8 :: List.replicate 15 0, ?_, by decide⟩
    simp [List.replicate, IsDigit]
  have word : IsTwosComplement 8 (-9223372036854775808) [0, 0, 0, 0, 0, 0, 0, 0x80] :=
    ⟨rfl, by decide⟩
  constructor
  · have padded : Text.Pads "\t-0x8000000000000000 ".toList
        ('-' :: '0' :: 'x' :: '8' :: List.replicate 15 '0') :=
      ⟨['\t'], [' '], rfl, List.forall_mem_singleton.2 rfl, List.forall_mem_singleton.2 rfl⟩
    exact ((parse_integer _ known _).1 _).2 ⟨_, -9223372036854775808, _, padded,
      .negative (.lowerHex digits), Int.le_refl _, by simp, word, rfl⟩
  · have refused : parse "0X8000000000000000" "System.Int64" = .error _ := rfl
    have reason := (parse_integer _ known "0X8000000000000000").2 _ refused
    have trimmed : String.ofList (Text.trim "0X8000000000000000".toList) =
        "0X8000000000000000" := rfl
    rw [refused, reason, trimmed]

end DebugSymbols.Literal

import DebugSymbols.Identifiers

/-!
# The texts of identities

The standard text of an identifier shows five numbers in hexadecimal, with as many digits as their
bytes need, and a hyphen between them (`canonicalText`). The first three numbers are stored with the
least significant byte first, the last two with the most significant byte first. A number filled up
to two digits for each byte is the row of its bytes, each as a pair (`hexField_valueOfBytes`), so the
text of an identity is the standard one, and reading its pairs in order gives the bytes back. Texts
are therefore as good as identities (`identity_of_text`).
-/

namespace DebugSymbols

/-! ## Reading hexadecimal pairs -/

namespace Text

/-- The lower-case digits of base sixteen, each at the place of its value. -/
def hexAlphabet : List Char :=
  ['0', '1', '2', '3', '4', '5', '6', '7', '8', '9', 'a', 'b', 'c', 'd', 'e', 'f']

/-- The value of a digit. -/
def hexValue? (c : Char) : Option Nat :=
  hexAlphabet.idxOf? c

/-- The bytes that digits stand for, two digits for each with the more significant one first. -/
def readHexPairs? : List Char → Option (List UInt8)
  | [] => some []
  | [_] => none
  | high :: low :: rest => do
    let h ← hexValue? high
    let l ← hexValue? low
    let bytes ← readHexPairs? rest
    return UInt8.ofNat (16 * h + l) :: bytes

theorem hexValue?_digitChar {d : Nat} (h : d < 16) : hexValue? (Nat.digitChar d) = some d := by
  have all : ∀ d < 16, hexValue? (Nat.digitChar d) = some d := by decide
  exact all d h

theorem digitChar_mem_hexAlphabet {d : Nat} (h : d < 16) : Nat.digitChar d ∈ hexAlphabet := by
  have all : ∀ d < 16, Nat.digitChar d ∈ hexAlphabet := by decide
  exact all d h

theorem halves_lt (byte : UInt8) : byte.toNat / 16 < 16 ∧ byte.toNat % 16 < 16 := by
  have bounded := byte.toNat_lt
  omega

theorem mem_hexAlphabet_of_mem_hexPair {byte : UInt8} {c : Char} (h : c ∈ hexPair byte) :
    c ∈ hexAlphabet := by
  obtain ⟨high, low⟩ := halves_lt byte
  simp only [hexPair, List.mem_cons, List.not_mem_nil, or_false] at h
  rcases h with rfl | rfl
  · exact digitChar_mem_hexAlphabet high
  · exact digitChar_mem_hexAlphabet low

theorem readHexPairs?_flatMap (bytes : List UInt8) :
    readHexPairs? (bytes.flatMap hexPair) = some bytes := by
  induction bytes with
  | nil => rfl
  | cons byte bytes ih =>
    obtain ⟨high, low⟩ := halves_lt byte
    have whole : UInt8.ofNat (16 * (byte.toNat / 16) + byte.toNat % 16) = byte := by
      rw [Nat.div_add_mod]
      exact UInt8.ofNat_toNat
    simp only [List.flatMap_cons, hexPair, List.cons_append, List.nil_append, readHexPairs?,
      hexValue?_digitChar high, hexValue?_digitChar low, ih]
    exact congrArg (fun first => some (first :: bytes)) whole

/-! ## Numbers of a fixed width -/

/-- `n` in hexadecimal, filled with zeros to `width` digits. -/
def hexField (width n : Nat) : List Char :=
  (hexDigits n).leftpad width '0'

/-- The last digit of a field stands for the remainder. -/
theorem hexField_succ (width n : Nat) :
    hexField (width + 2) n = hexField (width + 1) (n / 16) ++ [Nat.digitChar (n % 16)] := by
  unfold hexField hexDigits
  by_cases small : n < 16
  · rw [Nat.toDigits_of_lt_base small, Nat.div_eq_of_lt small, Nat.mod_eq_of_lt small,
      Nat.toDigits_zero]
    simp [List.leftpad, List.replicate_succ']
  · rw [Nat.toDigits_of_base_le (by decide) (Nat.not_lt.1 small)]
    simp [List.leftpad]

theorem hexField_one {n : Nat} (h : n < 16) : hexField 1 n = [Nat.digitChar n] := by
  rw [hexField, hexDigits, Nat.toDigits_of_lt_base h]
  rfl

theorem hexField_two (byte : UInt8) : hexField 2 byte.toNat = hexPair byte := by
  rw [hexField_succ, hexField_one (halves_lt byte).1]
  rfl

/-- Below a number, one more byte takes the last two digits. -/
theorem hexField_add_two (width n : Nat) (byte : UInt8) :
    hexField (width + 3) (byte.toNat + 256 * n) = hexField (width + 1) n ++ hexPair byte := by
  have bounded := byte.toNat_lt
  have front : (byte.toNat + 256 * n) / 16 / 16 = n := by omega
  have high : (byte.toNat + 256 * n) / 16 % 16 = byte.toNat / 16 := by omega
  have low : (byte.toNat + 256 * n) % 16 = byte.toNat % 16 := by omega
  rw [hexField_succ, hexField_succ, front, high, low, List.append_assoc]
  rfl

/-- The number that bytes stand for, the least significant byte first. -/
def valueOfBytes : List UInt8 → Nat
  | [] => 0
  | byte :: bytes => byte.toNat + 256 * valueOfBytes bytes

/-- A number with two digits for each of its bytes is the row of the pairs, the most significant
first. -/
theorem hexField_valueOfBytes (byte : UInt8) (bytes : List UInt8) :
    hexField (2 * bytes.length + 2) (valueOfBytes (byte :: bytes)) =
      (byte :: bytes).reverse.flatMap hexPair := by
  induction bytes generalizing byte with
  | nil => simpa [valueOfBytes] using hexField_two byte
  | cons next bytes ih =>
    calc hexField (2 * (bytes.length + 1) + 2) (valueOfBytes (byte :: next :: bytes))
        = hexField (2 * bytes.length + 2) (valueOfBytes (next :: bytes)) ++ hexPair byte :=
          hexField_add_two (2 * bytes.length + 1) _ byte
      _ = (byte :: next :: bytes).reverse.flatMap hexPair := by
          rw [ih next]
          simp

end Text

/-! ## The standard text -/

open Text

/-- The standard text of an identifier: its five numbers, of four, two, two, two and six bytes. The
first three are stored with the least significant byte first, the last two the other way round. -/
def canonicalText (b : Vector UInt8 16) : String :=
  String.ofList (['-'].intercalate [
    hexField 8 (valueOfBytes [b[0], b[1], b[2], b[3]]),
    hexField 4 (valueOfBytes [b[4], b[5]]),
    hexField 4 (valueOfBytes [b[6], b[7]]),
    hexField 4 (valueOfBytes [b[9], b[8]]),
    hexField 12 (valueOfBytes [b[15], b[14], b[13], b[12], b[11], b[10]])])

/-- A type of globally unique identifiers, as a library offers one. -/
structure GuidType where
  Guid : Type
  ofBytes : Vector UInt8 16 → Guid
  toBytes : Guid → Vector UInt8 16
  text : Guid → String

/-- The identifiers keep the bytes of which they are made, and are written in the standard way. -/
structure GuidType.IsStandard (G : GuidType) : Prop where
  toBytes_ofBytes : ∀ bytes, G.toBytes (G.ofBytes bytes) = bytes
  text_eq : ∀ guid, G.text guid = canonicalText (G.toBytes guid)

namespace ModuleId

theorem text_eq_canonicalText (id : ModuleId) : id.text = canonicalText id.bytes := by
  obtain ⟨b⟩ := id
  have first : hexField 8 (valueOfBytes [b[0], b[1], b[2], b[3]]) = _ :=
    hexField_valueOfBytes b[0] [b[1], b[2], b[3]]
  have second : hexField 4 (valueOfBytes [b[4], b[5]]) = _ := hexField_valueOfBytes b[4] [b[5]]
  have third : hexField 4 (valueOfBytes [b[6], b[7]]) = _ := hexField_valueOfBytes b[6] [b[7]]
  have fourth : hexField 4 (valueOfBytes [b[9], b[8]]) = _ := hexField_valueOfBytes b[9] [b[8]]
  have fifth : hexField 12 (valueOfBytes [b[15], b[14], b[13], b[12], b[11], b[10]]) = _ :=
    hexField_valueOfBytes b[15] [b[14], b[13], b[12], b[11], b[10]]
  rw [canonicalText, first, second, third, fourth, fifth]
  rfl

/-- Identities of modules are standard identifiers. -/
def guidType : GuidType :=
  ⟨ModuleId, mk, bytes, text⟩

theorem isStandard_guidType : guidType.IsStandard :=
  ⟨fun _ => rfl, text_eq_canonicalText⟩

/-! ## Reading a text -/

variable {id id' : ModuleId}

theorem mem_hexAlphabet_of_mem_digitsAt {c : Char} {places : List (Fin 16)}
    (h : c ∈ id.digitsAt places) : c ∈ hexAlphabet := by
  obtain ⟨place, -, shown⟩ := List.mem_flatMap.1 h
  exact mem_hexAlphabet_of_mem_hexPair shown

/-- The hyphens of a text stand between its groups only. -/
theorem splitOn_text (id : ModuleId) : id.text.toList.splitOn '-' = groups.map id.digitsAt := by
  rw [text, String.toList_ofList]
  apply List.splitOn_intercalate
  · intro group listed hyphen
    obtain ⟨places, -, rfl⟩ := List.mem_map.1 listed
    have digit := mem_hexAlphabet_of_mem_digitsAt hyphen
    exact absurd digit (by decide)
  · exact List.cons_ne_nil _ _

/-- Sixteen bytes in the order of their pairs in a text: the first four, the next two and the two
behind them in reverse, the others as they are. -/
def inTextOrder (b : Vector UInt8 16) : Vector UInt8 16 :=
  #v[b[3], b[2], b[1], b[0], b[5], b[4], b[7], b[6], b[8], b[9], b[10], b[11], b[12], b[13], b[14],
    b[15]]

theorem readHexPairs?_text (id : ModuleId) :
    readHexPairs? (id.text.toList.splitOn '-').flatten = some (inTextOrder id.bytes).toList := by
  rw [splitOn_text]
  exact readHexPairs?_flatMap (inTextOrder id.bytes).toList

/-- The order of the text is its own inverse. -/
theorem inTextOrder_inTextOrder (bytes : Vector UInt8 16) :
    inTextOrder (inTextOrder bytes) = bytes := by
  have listed : bytes.toList = (List.finRange 16).map fun place => bytes[place] := by
    apply List.ext_getElem
    · simp
    · intro place _ _
      simp
  exact Vector.toList_inj.1 listed.symm

theorem text_inj : id.text = id'.text ↔ id = id' := by
  constructor
  · intro same
    have read := readHexPairs?_text id
    rw [same, readHexPairs?_text id'] at read
    have samePairs : inTextOrder id'.bytes = inTextOrder id.bytes :=
      Vector.toList_inj.1 (Option.some.inj read)
    have sameBytes : id.bytes = id'.bytes := by
      rw [← inTextOrder_inTextOrder id.bytes, ← samePairs, inTextOrder_inTextOrder]
    cases id
    exact congrArg mk sameBytes
  · rintro rfl
    rfl

end ModuleId

/-- What standard identifiers show of their bytes is the text of the identity. -/
theorem GuidType.IsStandard.text_ofBytes {G : GuidType} (h : G.IsStandard)
    (bytes : Vector UInt8 16) : G.text (G.ofBytes bytes) = (ModuleId.mk bytes).text := by
  rw [h.text_eq, h.toBytes_ofBytes, ModuleId.text_eq_canonicalText]

/-- **A text stands for one identity.** It has 36 characters: groups of 8, 4, 4, 4 and 12 lower-case
digits with hyphens between them. Read as pairs and put in order, the digits are the bytes again, so
identities have one text only if their bytes are the same. -/
theorem identity_of_text (G : GuidType) (standard : G.IsStandard) (bytes bytes' : Vector UInt8 16) :
    let text := G.text (G.ofBytes bytes)
    let groups := text.toList.splitOn '-'
    text = (ModuleId.mk bytes).text ∧ text.length = 36 ∧
    groups.map List.length = [8, 4, 4, 4, 12] ∧
    (∀ group ∈ groups, ∀ c ∈ group, c ∈ hexAlphabet) ∧
    (∃ pairs : Vector UInt8 16, readHexPairs? groups.flatten = some pairs.toList ∧
      bytes = #v[pairs[3], pairs[2], pairs[1], pairs[0], pairs[5], pairs[4], pairs[7], pairs[6],
        pairs[8], pairs[9], pairs[10], pairs[11], pairs[12], pairs[13], pairs[14], pairs[15]]) ∧
    (text = G.text (G.ofBytes bytes') ↔ bytes = bytes') := by
  intro text groups
  have shown : text = (ModuleId.mk bytes).text := standard.text_ofBytes bytes
  have cut : groups = ModuleId.groups.map (ModuleId.mk bytes).digitsAt := by
    rw [← ModuleId.splitOn_text, ← shown]
  have read := ModuleId.readHexPairs?_text ⟨bytes⟩
  rw [← shown] at read
  have ordered := ModuleId.inTextOrder_inTextOrder bytes
  refine ⟨shown, ?_, ?_, ?_, ⟨_, read, ordered.symm⟩, ?_⟩
  · rw [shown, ModuleId.text, String.length_ofList]
    rfl
  · rw [cut]
    rfl
  · rw [cut]
    intro group listed c member
    obtain ⟨places, -, rfl⟩ := List.mem_map.1 listed
    exact ModuleId.mem_hexAlphabet_of_mem_digitsAt member
  · rw [shown, standard.text_ofBytes, ModuleId.text_inj, ModuleId.mk.injEq]

/-- Bytes that differ in their order only have different texts. -/
theorem identity_of_text_swapped :
    let bytes : Vector UInt8 16 := #v[0x8e, 0x90, 0x37, 0xd4, 0xe6, 0x65, 0x7c, 0x48, 0x97, 0x35,
      0x7b, 0xdf, 0xf6, 0x99, 0xbe, 0xa5]
    let swapped : Vector UInt8 16 := #v[0x90, 0x8e, 0x37, 0xd4, 0xe6, 0x65, 0x7c, 0x48, 0x97, 0x35,
      0x7b, 0xdf, 0xf6, 0x99, 0xbe, 0xa5]
    ModuleId.guidType.IsStandard ∧
      (ModuleId.mk bytes).text = "d437908e-65e6-487c-9735-7bdff699bea5" ∧
      (ModuleId.mk bytes).text ≠ (ModuleId.mk swapped).text := by
  intro bytes swapped
  have standard := ModuleId.isStandard_guidType
  obtain ⟨-, -, -, -, -, same⟩ := identity_of_text _ standard bytes swapped
  exact ⟨standard, by decide +kernel, fun equal => absurd (same.1 equal) (by decide)⟩

end DebugSymbols

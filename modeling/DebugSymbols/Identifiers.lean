import DebugSymbols.Text.Display

/-!
# Addresses, tokens and identities

By what the parts of the debugged process are known: a module by the address at which its image is
loaded and by the version identifier in its metadata, a method by its token. All of them are of a
fixed width, and each has a text of its own.
-/

namespace DebugSymbols

/-! ## Addresses -/

structure Address where
  value : UInt64
deriving DecidableEq

namespace Address

def text (a : Address) : String :=
  Text.hexPadded 16 a.value.toNat

instance : ToString Address := ⟨text⟩

instance : Ord Address := ⟨fun a b => compare a.value b.value⟩

/-- Whether `a` is the null address, at which no module is loaded. -/
def isZero (a : Address) : Bool :=
  a.value == 0

/-- The address `offset` bytes further on, if there is one. -/
def add? (a : Address) (offset : UInt64) : Option Address :=
  if a.value.toNat + offset.toNat < UInt64.size then some ⟨a.value + offset⟩ else none

def top : Address :=
  ⟨UInt64.ofNat (UInt64.size - 1)⟩

theorem toNat_add? {a b : Address} {offset : UInt64} (h : a.add? offset = some b) :
    b.value.toNat = a.value.toNat + offset.toNat := by
  unfold add? at h
  split at h
  · next fits =>
    cases h
    simp only [UInt64.toNat_add, Nat.mod_eq_of_lt fits]
  · cases h

end Address

/-- The bytes from `start` on, `size` of them. -/
structure AddressRange where
  start : Address
  size : UInt64
deriving DecidableEq

namespace AddressRange

/-- One past the last byte, or the largest address when the range reaches beyond it. -/
def limit (r : AddressRange) : Address :=
  (r.start.add? r.size).getD .top

/-- Whether `a` lies at or after the start and before the limit. -/
def contains (r : AddressRange) (a : Address) : Bool :=
  r.start.value ≤ a.value && a.value < r.limit.value

end AddressRange

/-! ## Method tokens

A token names a row of a metadata table: the table in the high byte, the row in the low three. -/

/-- A metadata token, usually of a method definition. -/
structure MethodToken where
  raw : UInt32
deriving DecidableEq

namespace MethodToken

/-- The number of the table of method definitions. -/
def methodTable : UInt32 := 0x06

/-- The token of the method definition in row `row`, of which the low three bytes count. -/
def ofRow (row : UInt32) : MethodToken :=
  ⟨methodTable <<< 24 ||| row &&& 0x00FFFFFF⟩

def table (m : MethodToken) : UInt32 :=
  m.raw >>> 24

def row (m : MethodToken) : UInt32 :=
  m.raw &&& 0x00FFFFFF

def text (m : MethodToken) : String :=
  Text.hexPadded 8 m.raw.toNat

instance : ToString MethodToken := ⟨text⟩

instance : Ord MethodToken := ⟨fun m n => compare m.raw n.raw⟩

end MethodToken

/-! ## Module identities

The text of an identity is the usual one of a globally unique identifier: five groups of digits, of
which the first three show their bytes in reverse, because the metadata stores them with the least
significant byte first. -/

/-- The version identifier of a module, in the order of the metadata. -/
structure ModuleId where
  bytes : Vector UInt8 16
deriving DecidableEq

namespace ModuleId

/-- The places of the bytes in each group of the text. -/
def groups : List (List (Fin 16)) :=
  [[3, 2, 1, 0], [5, 4], [7, 6], [8, 9], [10, 11, 12, 13, 14, 15]]

def digitsAt (id : ModuleId) (places : List (Fin 16)) : List Char :=
  places.flatMap fun i => Text.hexPair id.bytes[i]

/-- The identity as text: lower-case digits, with a hyphen between the groups. -/
def text (id : ModuleId) : String :=
  String.ofList (['-'].intercalate (groups.map id.digitsAt))

instance : ToString ModuleId := ⟨text⟩

end ModuleId

end DebugSymbols

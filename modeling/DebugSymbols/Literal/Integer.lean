/-!
# Integer literals

A numeral is read one digit at a time from the left; a number is stored one byte at a time from the
least significant one. An integer literal is an optional minus sign and a numeral, which is
hexadecimal behind `0x` or `0X` and decimal otherwise. It may have any number of digits; what counts
is that the integer it denotes lies within the range of its type.
-/

namespace DebugSymbols.Literal

/-! ## Digits and bytes -/

/-- The value of `c` as a digit in base `radix`, a letter of either case standing for ten and more. -/
def digitValue? (radix : Nat) (c : Char) : Option Nat :=
  let value :=
    if '0' ≤ c ∧ c ≤ '9' then c.toNat - '0'.toNat
    else if 'a' ≤ c ∧ c ≤ 'z' then c.toNat - 'a'.toNat + 10
    else if 'A' ≤ c ∧ c ≤ 'Z' then c.toNat - 'A'.toNat + 10
    else radix
  if value < radix then some value else none

/-- Continues a numeral whose digits so far have the value `value`. -/
def readDigitsFrom (radix value : Nat) : List Char → Option Nat
  | [] => some value
  | c :: cs => (digitValue? radix c).bind fun d => readDigitsFrom radix (value * radix + d) cs

/-- The value of a numeral in base `radix`: at least one digit, and nothing but digits. -/
def readDigits (radix : Nat) (cs : List Char) : Option Nat :=
  if cs.isEmpty then none else readDigitsFrom radix 0 cs

/-- The `width` low bytes of `n`, the least significant one first. -/
def littleEndian : Nat → Nat → List UInt8
  | 0, _ => []
  | width + 1, n => UInt8.ofNat n :: littleEndian width (n / 256)

theorem length_littleEndian (width n : Nat) : (littleEndian width n).length = width := by
  induction width generalizing n with
  | zero => rfl
  | succ width ih => simp only [littleEndian, List.length_cons, ih]

/-! ## Integers -/

/-- An integer type: its width in bytes and whether it has negative values. -/
structure IntegerType where
  signed : Bool
  width : Nat
deriving DecidableEq

namespace IntegerType

def least (t : IntegerType) : Int :=
  if t.signed then -(Nat.pow 2 (8 * t.width - 1) : Nat) else 0

/-- The first integer above the values of the type. -/
def limit (t : IntegerType) : Int :=
  if t.signed then (Nat.pow 2 (8 * t.width - 1) : Nat) else (Nat.pow 2 (8 * t.width) : Nat)

def holds (t : IntegerType) (n : Int) : Bool :=
  t.least ≤ n && n < t.limit

/-- The two's complement bytes of `n`, the least significant one first. -/
def encode (t : IntegerType) (n : Int) : List UInt8 :=
  littleEndian t.width (n % (Nat.pow 2 (8 * t.width) : Nat)).toNat

theorem length_encode (t : IntegerType) (n : Int) : (t.encode n).length = t.width :=
  length_littleEndian _ _

end IntegerType

/-- A numeral with its base: hexadecimal behind `0x` or `0X`, else decimal. -/
def readMagnitude : List Char → Option Nat
  | '0' :: 'x' :: cs => readDigits 16 cs
  | '0' :: 'X' :: cs => readDigits 16 cs
  | cs => readDigits 10 cs

def readInteger : List Char → Option Int
  | '-' :: cs => (readMagnitude cs).map fun n => -(n : Int)
  | cs => (readMagnitude cs).map fun n => (n : Int)

def integerBytes (t : IntegerType) (cs : List Char) : Option (List UInt8) :=
  (readInteger cs).bind fun n => if t.holds n then some (t.encode n) else none

end DebugSymbols.Literal

import DebugSymbols.Literal.Binary
import DebugSymbols.Literal.Integer

/-!
# Floating-point literals

A floating-point literal is an optional sign and either one of the words `inf`, `infinity` and `nan`
in any case, or decimal digits with an optional point among them and an optional exponent. Its value
is a decimal fraction, which is rounded once to the binary format of the type.
-/

namespace DebugSymbols.Literal

/-- The number `digits * 10 ^ exponent`. -/
structure Decimal where
  digits : Nat
  exponent : Int
deriving DecidableEq

/-- The size of a floating-point literal, before its sign. -/
inductive Magnitude where
  | finite (value : Decimal)
  | infinite
  | notANumber
deriving DecidableEq

def spanDigits (cs : List Char) : List Char × List Char :=
  (cs.takeWhile Char.isDigit, cs.dropWhile Char.isDigit)

def decimalValue (cs : List Char) : Nat :=
  cs.foldl (fun value c => value * 10 + (c.toNat - '0'.toNat)) 0

/-- The value of the digits of an exponent. Digits that follow once the value has reached `2 ^ 16`
are dropped: such an exponent is past every number that the formats have. -/
def exponentValue (cs : List Char) : Nat :=
  cs.foldl
    (fun value c => if value < UInt16.size then value * 10 + (c.toNat - '0'.toNat) else value) 0

def spanSign : List Char → Bool × List Char
  | '-' :: cs => (true, cs)
  | '+' :: cs => (false, cs)
  | cs => (false, cs)

/-- The exponent that ends a literal: nothing at all, or `e` or `E`, an optional sign and at least
one digit. -/
def readExponent : List Char → Option Int
  | [] => some 0
  | c :: cs =>
    if c = 'e' ∨ c = 'E' then
      let (negative, digits) := spanSign cs
      if digits.isEmpty || !digits.all Char.isDigit then none
      else
        let value : Int := exponentValue digits
        some (if negative then -value else value)
    else none

/-- Digits with an optional point and an optional exponent. There is at least one digit before the
exponent, on whichever side of the point. -/
def readDecimal (cs : List Char) : Option Decimal :=
  let (whole, rest) := spanDigits cs
  let (fraction, rest) :=
    match rest with
    | '.' :: tail => spanDigits tail
    | _ => ([], rest)
  if whole.isEmpty && fraction.isEmpty then none
  else
    (readExponent rest).map fun exponent =>
      ⟨decimalValue (whole ++ fraction), exponent - fraction.length⟩

def readMagnitudeOfReal (cs : List Char) : Option Magnitude :=
  match readDecimal cs with
  | some value => some (.finite value)
  | none =>
    let word := String.ofList (cs.map Char.toLower)
    if word = "inf" ∨ word = "infinity" then some .infinite
    else if word = "nan" then some .notANumber
    else none

def Magnitude.encode (f : BinaryFormat) : Magnitude → Nat
  | .finite ⟨digits, exponent⟩ =>
    if 0 ≤ exponent then f.encode (digits * Nat.pow 10 exponent.toNat) 1
    else f.encode digits (Nat.pow 10 (-exponent).toNat)
  | .infinite => f.infinity
  | .notANumber => f.notANumber

/-- The bytes of a floating-point literal in the format `f`, the least significant one first. -/
def realBytes (f : BinaryFormat) (cs : List Char) : Option (List UInt8) :=
  let (negative, rest) := spanSign cs
  (readMagnitudeOfReal rest).map fun magnitude =>
    let sign := if negative then f.signBit else 0
    littleEndian (f.bits / 8) (sign + magnitude.encode f)

end DebugSymbols.Literal

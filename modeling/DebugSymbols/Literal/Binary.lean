/-!
# Rounding to binary floating point

A binary format keeps `precision` significant bits and has a least exponent. A positive fraction is
rounded to the nearest number of the format, a tie going to the even one. Nothing is rounded twice:
the quotient is taken exactly at the exponent of the result.
-/

namespace DebugSymbols.Literal

/-- A binary interchange format. -/
structure BinaryFormat where
  /-- Bits of the significand, the leading one included. -/
  precision : Nat
  exponentBits : Nat

namespace BinaryFormat

def single : BinaryFormat := ⟨24, 8⟩

def double : BinaryFormat := ⟨53, 11⟩

/-- Number of bits of an encoding: the sign, the exponent, and the significand without its leading
one. -/
def bits (f : BinaryFormat) : Nat :=
  f.exponentBits + f.precision

/-- The exponent of the last place of the smallest numbers is `-leastExponent`. -/
def leastExponent (f : BinaryFormat) : Nat :=
  Nat.pow 2 (f.exponentBits - 1) + f.precision - 3

/-- The encoding of infinity: a full exponent field over an empty significand. -/
def infinity (f : BinaryFormat) : Nat :=
  (Nat.pow 2 f.exponentBits - 1) * Nat.pow 2 (f.precision - 1)

/-- The encoding of "not a number": infinity with the first bit of the significand set. -/
def notANumber (f : BinaryFormat) : Nat :=
  f.infinity + Nat.pow 2 (f.precision - 2)

def signBit (f : BinaryFormat) : Nat :=
  Nat.pow 2 (f.bits - 1)

/-- `num / den` rounded to a whole number, a tie going to the even neighbour. -/
def roundQuotient (num den : Nat) : Nat :=
  let q := num / den
  let r := num % den
  if 2 * r < den then q
  else if 2 * r = den then q + q % 2
  else q + 1

/-- `num / den` as a multiple of `2 ^ exponent`, given as the numerator and denominator of the
multiple. -/
def scaled (num den : Nat) (exponent : Int) : Nat × Nat :=
  if 0 ≤ exponent then (num, den * Nat.pow 2 exponent.toNat)
  else (num * Nat.pow 2 (-exponent).toNat, den)

/-- The exponent of the last place of the result for `num / den`: the least one that the format has
and at which the quotient is below `2 ^ precision`. -/
def lastPlace (f : BinaryFormat) (num den : Nat) : Int :=
  let guess : Int := Int.ofNat num.log2 - Int.ofNat den.log2 - Int.ofNat f.precision
  let (n, d) := scaled num den guess
  let exact := if n < d * Nat.pow 2 f.precision then guess else guess + 1
  max exact (-Int.ofNat f.leastExponent)

/-- The encoding of the number of the format nearest to `num / den`, for a positive `den`. A
significand that rounds up to the next power of two carries into the exponent field, and a number
past the largest one is infinite. -/
def encode (f : BinaryFormat) (num den : Nat) : Nat :=
  if num = 0 then 0
  else
    let place := f.lastPlace num den
    let (n, d) := scaled num den place
    let field := (place + Int.ofNat f.leastExponent).toNat
    min (field * Nat.pow 2 (f.precision - 1) + roundQuotient n d) f.infinity

end BinaryFormat

end DebugSymbols.Literal

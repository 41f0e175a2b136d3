/-!
# The environment

Variables of the environment are bytes. Most of them are read as text, and one whose bytes are no
UTF-8 then counts as one that is not set. A path is taken as it is, and its text is made out
leniently: bytes are read one at a time, and what of a character has been read before a byte says
which byte may follow. Where another one follows, the bytes read of that character become one
replacement character, and reading starts again at the byte that did not fit.
-/

namespace DebugSymbols

namespace Text

/-- The beginning of a character, with what the next byte of it can be. -/
structure Unfinished where
  value : Nat
  owed : Nat
  low : Nat
  high : Nat
deriving DecidableEq

/-- What stands for bytes that are no character. -/
def replacement : Char := '\uFFFD'

/-- Reads the first byte of a character. The bounds on the second byte leave out longer forms of
shorter characters, surrogates, and what lies beyond the last code point. -/
def startCharacter (byte : Nat) : List Char × Option Unfinished :=
  if byte < 0x80 then ([Char.ofNat byte], none)
  else if 0xC2 ≤ byte ∧ byte ≤ 0xDF then ([], some ⟨byte - 0xC0, 1, 0x80, 0xBF⟩)
  else if byte = 0xE0 then ([], some ⟨0x0, 2, 0xA0, 0xBF⟩)
  else if byte = 0xED then ([], some ⟨0xD, 2, 0x80, 0x9F⟩)
  else if 0xE1 ≤ byte ∧ byte ≤ 0xEF then ([], some ⟨byte - 0xE0, 2, 0x80, 0xBF⟩)
  else if byte = 0xF0 then ([], some ⟨0x0, 3, 0x90, 0xBF⟩)
  else if byte = 0xF4 then ([], some ⟨0x4, 3, 0x80, 0x8F⟩)
  else if 0xF1 ≤ byte ∧ byte ≤ 0xF3 then ([], some ⟨byte - 0xF0, 3, 0x80, 0xBF⟩)
  else ([replacement], none)

/-- Reads one byte: the characters that end with it, and what of the next character is there. -/
def readByte (pending : Option Unfinished) (byte : Nat) : List Char × Option Unfinished :=
  match pending with
  | none => startCharacter byte
  | some u =>
    if u.low ≤ byte ∧ byte ≤ u.high then
      let value := u.value * 64 + (byte - 0x80)
      if u.owed ≤ 1 then ([Char.ofNat value], none) else ([], some ⟨value, u.owed - 1, 0x80, 0xBF⟩)
    else
      let (done, next) := startCharacter byte
      (replacement :: done, next)

/-- Reads bytes behind the beginning of a character. -/
def lenientFrom (pending : Option Unfinished) : List UInt8 → List Char
  | [] => if pending.isSome then [replacement] else []
  | byte :: rest =>
    let (done, next) := readByte pending byte.toNat
    done ++ lenientFrom next rest

def lenient (bytes : List UInt8) : String :=
  String.ofList (lenientFrom none bytes)

end Text

/-- The variables of the environment that are set and can be read as text. -/
abbrev Environment : Type :=
  String → Option String

/-- The variables of the environment that are set, as bytes. -/
abbrev RawEnvironment : Type :=
  String → Option ByteArray

namespace RawEnvironment

def texts (e : RawEnvironment) : Environment :=
  fun key => (e key).bind String.fromUTF8?

/-- The text of the path in a variable. -/
def path? (e : RawEnvironment) (key : String) : Option String :=
  (e key).map fun bytes => Text.lenient bytes.toList

end RawEnvironment

end DebugSymbols

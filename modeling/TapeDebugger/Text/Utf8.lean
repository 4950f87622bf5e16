/-!
# Lenient UTF-8 decoding

Programs and their input arrive as bytes that may be no valid text. `decode` is
the only rule by which they become characters: a byte that starts no valid
sequence stands for one replacement character, and decoding goes on at the next
byte. `encode` is the way back and is exact on every character.
-/

namespace TapeDebugger.Utf8

/-- The character that stands for a byte which starts no valid sequence. -/
def replacement : Char := '\uFFFD'

/-- What a lead byte announces. -/
structure Lead where
  /-- How many continuation bytes follow. -/
  following : Nat
  /-- The bits the lead byte itself contributes. -/
  payload : Nat
  /-- The least value that needs a sequence of this length. -/
  least : Nat
deriving Repr, DecidableEq

/-- Classify a byte as the lead of a sequence; a continuation byte and the
bytes from `0xF8` on are none. -/
def lead? (byte : UInt8) : Option Lead :=
  let value := byte.toNat
  if value < 0x80 then some { following := 0, payload := value, least := 0 }
  else if value < 0xC0 then none
  else if value < 0xE0 then some { following := 1, payload := value - 0xC0, least := 0x80 }
  else if value < 0xF0 then some { following := 2, payload := value - 0xE0, least := 0x800 }
  else if value < 0xF8 then some { following := 3, payload := value - 0xF0, least := 0x10000 }
  else none

/-- The six bits of a continuation byte. -/
def continuation? (byte : UInt8) : Option Nat :=
  if 0x80 ≤ byte.toNat ∧ byte.toNat < 0xC0 then some (byte.toNat - 0x80) else none

/-- Append the bits of exactly `count` continuation bytes to `value`. -/
def extend? : (count : Nat) → (value : Nat) → List UInt8 → Option Nat
  | 0, value, _ => some value
  | _ + 1, _, [] => none
  | count + 1, value, byte :: rest =>
    match continuation? byte with
    | none => none
    | some bits => extend? count (value * 64 + bits) rest

/-- A code point that is a Unicode scalar value, as a character. -/
def scalar? (value : Nat) : Option Char :=
  if valid : value.isValidChar then some (Char.ofNatAux value valid) else none

/-- The character that starts at `first`, with the number of bytes of `rest`
it takes. Overlong forms, surrogates and values past `U+10FFFF` are refused. -/
def sequence? (first : UInt8) (rest : List UInt8) : Option (Char × Nat) :=
  match lead? first with
  | none => none
  | some lead =>
    match extend? lead.following lead.payload rest with
    | none => none
    | some value =>
      if value < lead.least then none
      else (scalar? value).map fun character => (character, lead.following)

/-- Decode after passing over `skip` bytes that an earlier sequence took. -/
def decodeAfter : (skip : Nat) → List UInt8 → List Char
  | _, [] => []
  | skip + 1, _ :: rest => decodeAfter skip rest
  | 0, first :: rest =>
    match sequence? first rest with
    | some (character, taken) => character :: decodeAfter taken rest
    | none => replacement :: decodeAfter 0 rest

/-- The characters of a byte string. -/
def decode (bytes : List UInt8) : List Char :=
  decodeAfter 0 bytes

/-- Whether every byte belongs to a valid sequence, again after `skip` bytes. -/
def isValidAfter : (skip : Nat) → List UInt8 → Bool
  | _, [] => true
  | skip + 1, _ :: rest => isValidAfter skip rest
  | 0, first :: rest =>
    match sequence? first rest with
    | some (_, taken) => isValidAfter taken rest
    | none => false

/-- Whether a byte string is valid UTF-8. -/
def isValid (bytes : List UInt8) : Bool :=
  isValidAfter 0 bytes

/-- The bytes of a character list. -/
def encode (characters : List Char) : List UInt8 :=
  characters.flatMap String.utf8EncodeChar

/-- The bytes of a text. -/
def ofString (text : String) : List UInt8 :=
  encode text.toList

end TapeDebugger.Utf8

import TapeDebugger.Json.Value
import TapeDebugger.Text.Hex

/-!
# Reading JSON

`parse?` accepts exactly one JSON value with blanks around it. Number literals
keep their text. A surrogate escape without its partner reads as the replacement
character.
-/

namespace TapeDebugger.Json

/-- The blanks of the grammar. -/
def isBlank (character : Char) : Bool :=
  character == ' ' || character == '\t' || character == '\n' || character == '\r'

/-- What follows leading blanks. -/
def skipBlanks (input : List Char) : List Char :=
  input.dropWhile isBlank

/-- A code unit of four hexadecimal digits. -/
def hexUnit? (first second third fourth : Char) : Option Nat := do
  let high ← Text.hexValue? first
  let upper ← Text.hexValue? second
  let lower ← Text.hexValue? third
  let low ← Text.hexValue? fourth
  return ((high * 16 + upper) * 16 + lower) * 16 + low

/-- Whether a code unit opens a surrogate pair. -/
def isHighSurrogate (unit : Nat) : Bool :=
  decide (0xD800 ≤ unit ∧ unit ≤ 0xDBFF)

/-- Whether a code unit closes a surrogate pair. -/
def isLowSurrogate (unit : Nat) : Bool :=
  decide (0xDC00 ≤ unit ∧ unit ≤ 0xDFFF)

/-- The character of a surrogate pair. -/
def pairChar (high low : Nat) : Char :=
  Char.ofNat (0x10000 + (high - 0xD800) * 0x400 + (low - 0xDC00))

/-- The state inside a string literal: the characters read so far, last first,
and a surrogate that waits for its partner. -/
structure TextState where
  read : List Char
  pending : Option Nat
deriving Repr, DecidableEq

namespace TextState

/-- Nothing read yet. -/
def start : TextState where
  read := []
  pending := none

/-- Replace a surrogate whose partner did not come. -/
def settle (state : TextState) : List Char :=
  match state.pending with
  | none => state.read
  | some _ => '\uFFFD' :: state.read

/-- Add a character. -/
def push (state : TextState) (character : Char) : TextState where
  read := character :: state.settle
  pending := none

/-- Add an escaped code unit. -/
def pushUnit (state : TextState) (unit : Nat) : TextState :=
  match state.pending with
  | some high =>
    if isLowSurrogate unit then { read := pairChar high unit :: state.read, pending := none }
    else if isHighSurrogate unit then { read := state.settle, pending := some unit }
    else state.push (Char.ofNat unit)
  | none =>
    if isHighSurrogate unit then { state with pending := some unit }
    else if isLowSurrogate unit then state.push '\uFFFD'
    else state.push (Char.ofNat unit)

/-- The text read. -/
def text (state : TextState) : String :=
  String.ofList state.settle.reverse

end TextState

/-- The character that a one-letter escape stands for. -/
def shortEscape? (letter : Char) : Option Char :=
  match letter with
  | '"' => some '"'
  | '\\' => some '\\'
  | '/' => some '/'
  | 'b' => some '\x08'
  | 'f' => some '\x0c'
  | 'n' => some '\n'
  | 'r' => some '\r'
  | 't' => some '\t'
  | _ => none

/-- Read the rest of a string literal, whose opening quote is gone. -/
def parseText : List Char → TextState → Option (String × List Char)
  | [], _ => none
  | '"' :: rest, state => some (state.text, rest)
  | '\\' :: 'u' :: a :: b :: c :: d :: rest, state =>
    match hexUnit? a b c d with
    | none => none
    | some unit => parseText rest (state.pushUnit unit)
  | '\\' :: letter :: rest, state =>
    match shortEscape? letter with
    | none => none
    | some character => parseText rest (state.push character)
  | '\\' :: [], _ => none
  | character :: rest, state =>
    if character.toNat < 0x20 then none else parseText rest (state.push character)

/-- A run of decimal digits and what follows it. -/
def digitRun (input : List Char) : List Char × List Char :=
  (input.takeWhile Char.isDigit, input.dropWhile Char.isDigit)

/-- The integer part of a number: `0`, or digits that do not start with it. -/
def integerPart? (input : List Char) : Option (List Char × List Char) :=
  match digitRun input with
  | ([], _) => none
  | (['0'], rest) => some (['0'], rest)
  | ('0' :: _, _) => none
  | (digits, rest) => some (digits, rest)

/-- The fraction of a number, empty when there is none. -/
def fractionPart? (input : List Char) : Option (List Char × List Char) :=
  match input with
  | '.' :: rest =>
    match digitRun rest with
    | ([], _) => none
    | (digits, rest) => some ('.' :: digits, rest)
  | rest => some ([], rest)

/-- Digits behind an exponent mark and an optional sign. -/
def exponentDigits? (mark : List Char) (input : List Char) : Option (List Char × List Char) :=
  match digitRun input with
  | ([], _) => none
  | (digits, rest) => some (mark ++ digits, rest)

/-- The exponent of a number, empty when there is none. -/
def exponentPart? (input : List Char) : Option (List Char × List Char) :=
  match input with
  | mark :: rest =>
    if mark = 'e' ∨ mark = 'E' then
      match rest with
      | '+' :: digits => exponentDigits? [mark, '+'] digits
      | '-' :: digits => exponentDigits? [mark, '-'] digits
      | digits => exponentDigits? [mark] digits
    else some ([], mark :: rest)
  | [] => some ([], [])

/-- A number literal. -/
def parseNumber (input : List Char) : Option (String × List Char) := do
  let (sign, rest) :=
    match input with
    | '-' :: rest => (['-'], rest)
    | rest => ([], rest)
  let (whole, rest) ← integerPart? rest
  let (fraction, rest) ← fractionPart? rest
  let (exponent, rest) ← exponentPart? rest
  return (String.ofList (sign ++ whole ++ fraction ++ exponent), rest)

mutual

/-- Read one value; each nested value takes one unit of fuel. -/
def parseValue : (fuel : Nat) → List Char → Option (Json × List Char)
  | 0, _ => none
  | fuel + 1, input =>
    match skipBlanks input with
    | 'n' :: 'u' :: 'l' :: 'l' :: rest => some (.null, rest)
    | 't' :: 'r' :: 'u' :: 'e' :: rest => some (.bool true, rest)
    | 'f' :: 'a' :: 'l' :: 's' :: 'e' :: rest => some (.bool false, rest)
    | '"' :: rest => (parseText rest .start).map fun (text, rest) => (.string text, rest)
    | '[' :: rest =>
      match skipBlanks rest with
      | ']' :: rest => some (.array [], rest)
      | rest => (parseItems fuel rest).map fun (items, rest) => (.array items, rest)
    | '\x7b' :: rest =>
      match skipBlanks rest with
      | '\x7d' :: rest => some (.object [], rest)
      | rest => (parseMembers fuel rest).map fun (members, rest) => (.object members, rest)
    | input => (parseNumber input).map fun (literal, rest) => (.number literal, rest)

/-- Read the items of an array up to its closing bracket. -/
def parseItems : (fuel : Nat) → List Char → Option (List Json × List Char)
  | 0, _ => none
  | fuel + 1, input =>
    match parseValue fuel input with
    | none => none
    | some (item, rest) =>
      match skipBlanks rest with
      | ',' :: rest => (parseItems fuel rest).map fun (items, rest) => (item :: items, rest)
      | ']' :: rest => some ([item], rest)
      | _ => none

/-- Read the members of an object up to its closing brace. -/
def parseMembers : (fuel : Nat) → List Char → Option (List (String × Json) × List Char)
  | 0, _ => none
  | fuel + 1, input =>
    match skipBlanks input with
    | '"' :: rest =>
      match parseText rest .start with
      | none => none
      | some (name, rest) =>
        match skipBlanks rest with
        | ':' :: rest =>
          match parseValue fuel rest with
          | none => none
          | some (value, rest) =>
            match skipBlanks rest with
            | ',' :: rest =>
              (parseMembers fuel rest).map fun (members, rest) => ((name, value) :: members, rest)
            | '\x7d' :: rest => some ([(name, value)], rest)
            | _ => none
        | _ => none
    | _ => none

end

/-- The value a text holds, if it is one JSON value. -/
def parse? (text : String) : Option Json :=
  let input := text.toList
  match parseValue (input.length + 1) input with
  | some (value, rest) => if (skipBlanks rest).isEmpty then some value else none
  | none => none

end TapeDebugger.Json

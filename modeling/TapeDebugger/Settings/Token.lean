import TapeDebugger.Decimal.Integer
import TapeDebugger.Text.Hex
import TapeDebugger.Text.Letter
import TapeDebugger.Text.Utf8

/-!
# Tokens of a settings file

Settings files use a small part of CUE. A line break after a token that can end a
field counts as a comma, so fields on lines of their own need none; it does not
where a comma or a colon comes next anyway.
-/

namespace TapeDebugger.Settings

/-- A token. -/
inductive Token where
  | identifier (name : String)
  /-- A text in double quotes. -/
  | text (value : String)
  /-- A text in single quotes, which denotes bytes. -/
  | bytes (value : String)
  | integer (value : Nat)
  /-- A number with a point or an exponent: some digits, of which the last is not
  zero, times a power of ten. -/
  | real (digits : Nat) (exponent : Int)
  | colon
  | comma
  | openBrace
  | closeBrace
  | openBracket
  | closeBracket
  | plus
  | minus
deriving Repr, DecidableEq

namespace Token

/-- Whether a line break after the token counts as a comma. -/
def endsField : Token → Bool
  | identifier _ | text _ | bytes _ | integer _ | real _ _ | closeBrace | closeBracket => true
  | _ => false

/-- Whether a character can start an identifier. -/
def startsIdentifier (character : Char) : Bool :=
  character == '_' || character == '$' || Text.isScriptLetter character

/-- Whether a character can stand in an identifier. -/
def continuesIdentifier (character : Char) : Bool :=
  startsIdentifier character || Text.isScriptDigit character

/-- The value of digits with single underscores before and between them. `digit?`
says which characters are digits, and `mayDivide` that an underscore may come
next. -/
def readDigits (base : Nat) (digit? : Char → Option Nat) :
    List Char → (value : Nat) → (mayDivide : Bool) → Option Nat
  | [], value, mayDivide => if mayDivide then some value else none
  | character :: rest, value, mayDivide =>
    if character = '_' then
      if mayDivide then readDigits base digit? rest value false else none
    else
      match digit? character with
      | some digit => readDigits base digit? rest (value * base + digit) true
      | none => none

/-- A digit below a base. -/
def digitBelow? (base : Nat) (character : Char) : Option Nat :=
  (Text.hexValue? character).filter (· < base)

/-- An integer in another base than ten, from behind its mark. -/
def basedInteger? (base : Nat) (input : List Char) : Option (Token × List Char) :=
  let isPart := fun character : Char => character == '_' || (digitBelow? base character).isSome
  match input.takeWhile isPart with
  | [] => none
  | run =>
    (readDigits base (digitBelow? base) run 0 true).map fun value =>
      (.integer value, input.dropWhile isPart)

/-- The factor of a multiplier and what follows it. -/
def multiplier? (input : List Char) : Option (Nat × List Char) :=
  let power (letter : Char) : Option Nat :=
    match letter with
    | 'K' => some 1
    | 'M' => some 2
    | 'G' => some 3
    | 'T' => some 4
    | 'P' => some 5
    | _ => none
  match input with
  | letter :: 'i' :: rest => (power letter).map fun power => (Nat.pow 1024 power, rest)
  | letter :: rest => (power letter).map fun power => (Nat.pow 1000 power, rest)
  | [] => none

/-- A run of decimal digits and underscores, with its value and length in
digits; it may be empty. -/
def decimals? (input : List Char) : Option (Nat × Nat × List Char) :=
  let isPart := fun character : Char => character == '_' || character.isDigit
  let run := input.takeWhile isPart
  (readDigits 10 Decimal.digitValue? run 0 true).map fun value =>
    (value, (run.filter Char.isDigit).length, input.dropWhile isPart)

/-- Move the zeros at the end of some digits into the exponent, at most `fuel`
of them. -/
def dropZeros : (fuel : Nat) → (digits : Nat) → (exponent : Int) → Token
  | 0, digits, exponent => .real digits exponent
  | fuel + 1, digits, exponent =>
    if digits = 0 then .real 0 0
    else if digits % 10 = 0 then dropZeros fuel (digits / 10) (exponent + 1)
    else .real digits exponent

/-- The number of some digits times a power of ten. -/
def realOf (digits : Nat) (exponent : Int) : Token :=
  dropZeros (digits.log2 + 1) digits exponent

/-- A real behind its digits, of which the last `length` are a fraction: an
exponent may follow. -/
def realTail? (digits length : Nat) (input : List Char) : Option (Token × List Char) :=
  match input with
  | 'e' :: rest | 'E' :: rest =>
    let (negative, rest) := Decimal.splitSign rest
    match decimals? rest with
    | none | some (_, 0, _) => none
    | some (power, _, rest) =>
      some (realOf digits ((if negative then -(power : Int) else power) - length), rest)
  | rest => some (realOf digits (-length), rest)

/-- A number behind its whole part, where there is a point: a multiplier makes it
an integer, which it has to be exactly. -/
def fractionTail? (whole : Nat) (input : List Char) : Option (Token × List Char) :=
  match decimals? input with
  | none => none
  | some (fraction, length, rest) =>
    let digits := whole * Nat.pow 10 length + fraction
    match multiplier? rest with
    | some (factor, rest) =>
      if digits * factor % Nat.pow 10 length = 0 then
        some (.integer (digits * factor / Nat.pow 10 length), rest)
      else none
    | none => realTail? digits length rest

/-- A number behind its whole part: a multiplier makes it an integer, a point or
an exponent a real. -/
def numberTail? (whole : Nat) (input : List Char) : Option (Token × List Char) :=
  match multiplier? input with
  | some (factor, rest) => some (.integer (whole * factor), rest)
  | none =>
    match input with
    | '.' :: rest => fractionTail? whole rest
    | 'e' :: _ | 'E' :: _ => realTail? whole 0 input
    | rest => some (.integer whole, rest)

/-- A number that starts with a zero, from behind it. Further digits are for a
real only, and there is no multiplier without a point. -/
def zeroTail? (input : List Char) : Option (Token × List Char) :=
  let digits :=
    match input with
    | character :: _ => if character.isDigit then decimals? input else some (0, 0, input)
    | [] => some (0, 0, [])
  match digits with
  | none => none
  | some (value, length, rest) =>
    match rest with
    | '.' :: rest => fractionTail? value rest
    | 'e' :: _ | 'E' :: _ => realTail? value 0 rest
    | rest => if length = 0 then some (.integer 0, rest) else none

/-- A number that starts with a digit. -/
def number? (input : List Char) : Option (Token × List Char) :=
  match input with
  | '0' :: 'x' :: rest | '0' :: 'X' :: rest => basedInteger? 16 rest
  | '0' :: 'b' :: rest => basedInteger? 2 rest
  | '0' :: 'o' :: rest => basedInteger? 8 rest
  | '0' :: rest => zeroTail? rest
  | input =>
    match decimals? input with
    | none => none
    | some (whole, _, rest) => numberTail? whole rest

/-- The character that a one-letter escape stands for. -/
def shortEscape? (quote letter : Char) : Option Char :=
  match letter with
  | 'a' => some '\x07'
  | 'b' => some '\x08'
  | 'f' => some '\x0c'
  | 'n' => some '\n'
  | 'r' => some '\r'
  | 't' => some '\t'
  | 'v' => some '\x0b'
  | '/' => some '/'
  | '\\' => some '\\'
  | letter => if letter = quote then some quote else none

/-- The number that hexadecimal digits denote. -/
def hexNumber? (digits : List Char) : Option Nat :=
  digits.foldlM (fun value digit => (Text.hexValue? digit).map (value * 16 + ·)) 0

/-- The character of a pair of surrogates. -/
def surrogatePair? (high low : Nat) : Option Char :=
  if 0xD800 ≤ high ∧ high < 0xDC00 ∧ 0xDC00 ≤ low ∧ low < 0xE000 then
    Utf8.scalar? (0x10000 + (high - 0xD800) * 0x400 + (low - 0xDC00))
  else none

/-- A text up to its closing quote, last character read first. A surrogate is
escaped only together with the other of its pair. -/
def quotedText? (quote : Char) : List Char → (read : List Char) → Option (String × List Char)
  | [], _ => none
  | '\\' :: 'u' :: a :: b :: c :: d :: rest, read =>
    match hexNumber? [a, b, c, d] with
    | none => none
    | some code =>
      match Utf8.scalar? code with
      | some character => quotedText? quote rest (character :: read)
      | none =>
        match rest with
        | '\\' :: 'u' :: e :: f :: g :: h :: rest =>
          match (hexNumber? [e, f, g, h]).bind (surrogatePair? code) with
          | some character => quotedText? quote rest (character :: read)
          | none => none
        | _ => none
  | '\\' :: 'U' :: a :: b :: c :: d :: e :: f :: g :: h :: rest, read =>
    match (hexNumber? [a, b, c, d, e, f, g, h]).bind Utf8.scalar? with
    | some character => quotedText? quote rest (character :: read)
    | none => none
  | '\\' :: letter :: rest, read =>
    match shortEscape? quote letter with
    | some character => quotedText? quote rest (character :: read)
    | none => none
  | character :: rest, read =>
    if character = quote then some (String.ofList read.reverse, rest)
    else if character = '\n' ∨ character = '\r' ∨ character = '\\' then none
    else quotedText? quote rest (character :: read)

/-- The token at the start of an input that does not start with a blank. -/
def next? (input : List Char) : Option (Token × List Char) :=
  match input with
  | [] => none
  | ':' :: rest => some (.colon, rest)
  | ',' :: rest => some (.comma, rest)
  | '\x7b' :: rest => some (.openBrace, rest)
  | '\x7d' :: rest => some (.closeBrace, rest)
  | '[' :: rest => some (.openBracket, rest)
  | ']' :: rest => some (.closeBracket, rest)
  | '+' :: rest => some (.plus, rest)
  | '-' :: rest => some (.minus, rest)
  | '"' :: rest => (quotedText? '"' rest []).map fun (value, rest) => (.text value, rest)
  | '\'' :: rest => (quotedText? '\'' rest []).map fun (value, rest) => (.bytes value, rest)
  | character :: rest =>
    if startsIdentifier character then
      some (.identifier (String.ofList (character :: rest.takeWhile continuesIdentifier)),
        rest.dropWhile continuesIdentifier)
    else if character.isDigit then number? input
    else if character = '.' ∧ rest.head?.any Char.isDigit then fractionTail? 0 rest
    else none

/-- Whether a character is a blank that does not end a line. -/
def isInnerBlank (character : Char) : Bool :=
  character == ' ' || character == '\t' || character == '\r'

/-- Cut an input into tokens, where `ending` says that a line break counts as a
comma. A comment ends the line it stands on before it starts. Each token, comment
and run of line breaks takes one unit of fuel. -/
def tokensFrom : (fuel : Nat) → (ending : Bool) → List Char → Option (List Token)
  | 0, _, _ => none
  | fuel + 1, ending, input =>
    match input.dropWhile isInnerBlank with
    | [] => some (if ending then [.comma] else [])
    | '\n' :: rest =>
      let rest := rest.dropWhile fun character => isInnerBlank character || character == '\n'
      let divides := ending && rest.head? != some ',' && rest.head? != some ':'
      (tokensFrom fuel false rest).map fun tokens => if divides then .comma :: tokens else tokens
    | '/' :: '/' :: rest =>
      (tokensFrom fuel false (rest.dropWhile (· != '\n'))).map fun tokens =>
        if ending then .comma :: tokens else tokens
    | input =>
      match next? input with
      | none => none
      | some (token, rest) =>
        (tokensFrom fuel token.endsField rest).map fun tokens => token :: tokens

/-- Drop a byte order mark at the start. -/
def dropMark : List Char → List Char
  | '\uFEFF' :: rest => rest
  | rest => rest

/-- The tokens of a source. Neither a null character nor a byte order mark may
stand in it. -/
def tokens? (source : List UInt8) : Option (List Token) :=
  if Utf8.isValid source then
    let input := dropMark (Utf8.decode source)
    if input.contains '\x00' || input.contains '\uFEFF' then none
    else tokensFrom (2 * input.length + 2) false input
  else none

end Token

end TapeDebugger.Settings

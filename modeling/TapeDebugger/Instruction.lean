/-!
# The eight instructions

The alphabet of the tape language. Every other character of a source text is a
comment, so `Instruction.ofBytes` is the whole lexer.
-/

namespace TapeDebugger

/-- An instruction of the tape language. -/
inductive Instruction where
  /-- `>`: move the data pointer one cell up, around the end of the tape. -/
  | moveRight
  /-- `<`: move the data pointer one cell down, around the start of the tape. -/
  | moveLeft
  /-- `+`: add one to the current cell. -/
  | increment
  /-- `-`: take one from the current cell. -/
  | decrement
  /-- `.`: append the current cell to the output as a character. -/
  | write
  /-- `,`: store the next input character in the current cell. -/
  | read
  /-- `[`: skip past the matching `]` when the current cell is zero. -/
  | loopStart
  /-- `]`: go back behind the matching `[` when the current cell is not zero. -/
  | loopEnd
deriving Repr, DecidableEq, Inhabited

namespace Instruction

/-- The character an instruction is written as. -/
def symbol : Instruction → Char
  | moveRight => '>'
  | moveLeft => '<'
  | increment => '+'
  | decrement => '-'
  | write => '.'
  | read => ','
  | loopStart => '['
  | loopEnd => ']'

/-- The instruction a character stands for, if it is no comment. -/
def ofChar? (character : Char) : Option Instruction :=
  match character with
  | '>' => some moveRight
  | '<' => some moveLeft
  | '+' => some increment
  | '-' => some decrement
  | '.' => some write
  | ',' => some read
  | '[' => some loopStart
  | ']' => some loopEnd
  | _ => none

/-- The instruction a byte stands for. All symbols are ASCII, so no byte of a
longer character is taken for one. -/
def ofByte? (byte : UInt8) : Option Instruction :=
  if byte.toNat < 0x80 then ofChar? (Char.ofNat byte.toNat) else none

/-- The instructions of a source text, with the comments left out. -/
def ofBytes (source : List UInt8) : List Instruction :=
  source.filterMap ofByte?

/-- The instructions among the characters of a text. -/
def ofChars (source : List Char) : List Instruction :=
  source.filterMap ofChar?

end Instruction

end TapeDebugger

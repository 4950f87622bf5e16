import TapeDebugger.Text.Hex
import TapeDebugger.Text.Printable

/-!
# Quoted text

A text between double quotes on one line of printable characters, so that what
a program wrote can be shown without being mistaken for what stands around it.
-/

namespace TapeDebugger.Text

/-- How a character is written between quotes. -/
def quotedChar (character : Char) : List Char :=
  if character = '"' ∨ character = '\\' then ['\\', character]
  else if isPrintable character then [character]
  else if character = '\x07' then ['\\', 'a']
  else if character = '\x08' then ['\\', 'b']
  else if character = '\x0c' then ['\\', 'f']
  else if character = '\n' then ['\\', 'n']
  else if character = '\r' then ['\\', 'r']
  else if character = '\t' then ['\\', 't']
  else if character = '\x0b' then ['\\', 'v']
  else if character.toNat < 0x80 then '\\' :: 'x' :: hexPadded 2 character.toNat
  else if character.toNat < 0x10000 then '\\' :: 'u' :: hexPadded 4 character.toNat
  else '\\' :: 'U' :: hexPadded 8 character.toNat

/-- The characters of a quoted text. -/
def quotedChars (text : List Char) : List Char :=
  '"' :: (text.flatMap quotedChar ++ ['"'])

/-- A text between double quotes. -/
def quoted (text : String) : String :=
  String.ofList (quotedChars text.toList)

end TapeDebugger.Text

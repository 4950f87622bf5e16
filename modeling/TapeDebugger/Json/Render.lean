import TapeDebugger.Json.Value
import TapeDebugger.Text.Hex

/-!
# Writing JSON

Two layouts: `compact` on one line, and `indented` with two blanks a level. In
both, characters that a markup page would act on (`<`, `>`, `&`), the line
separators `U+2028` and `U+2029` and control characters are escaped; every other
character is written as it is.
-/

namespace TapeDebugger.Json

/-- How a character is written inside a string literal. -/
def escapeChar (character : Char) : List Char :=
  if character = '"' then ['\\', '"']
  else if character = '\\' then ['\\', '\\']
  else if character = '\x08' then ['\\', 'b']
  else if character = '\x0c' then ['\\', 'f']
  else if character = '\n' then ['\\', 'n']
  else if character = '\r' then ['\\', 'r']
  else if character = '\t' then ['\\', 't']
  else if character.toNat < 0x20 ∨ character = '<' ∨ character = '>' ∨ character = '&'
      ∨ character = '\u2028' ∨ character = '\u2029' then
    '\\' :: 'u' :: Text.hexPadded 4 character.toNat
  else [character]

/-- A string literal. -/
def quoted (text : String) : String :=
  String.ofList ('"' :: (text.toList.flatMap escapeChar ++ ['"']))

mutual

/-- The value on one line, without blanks. -/
def compact : Json → String
  | .null => "null"
  | .bool true => "true"
  | .bool false => "false"
  | .number literal => literal
  | .string text => quoted text
  | .array items => "[" ++ String.intercalate "," (compactItems items) ++ "]"
  | .object members => "\x7b" ++ String.intercalate "," (compactMembers members) ++ "\x7d"

/-- The items of an array, each on its own. -/
def compactItems : List Json → List String
  | [] => []
  | item :: rest => compact item :: compactItems rest

/-- The members of an object, each on its own. -/
def compactMembers : List (String × Json) → List String
  | [] => []
  | (name, value) :: rest => (quoted name ++ ":" ++ compact value) :: compactMembers rest

end

/-- A line break with the blanks of an indentation level. -/
def newline (depth : Nat) : String :=
  "\n" ++ String.ofList (List.replicate (2 * depth) ' ')

/-- Lay out the parts of an array or object one to a line; without parts the
brackets stand together. -/
def layout (opening closing : String) (depth : Nat) (parts : List String) : String :=
  match parts with
  | [] => opening ++ closing
  | parts =>
    opening ++ newline (depth + 1) ++ String.intercalate ("," ++ newline (depth + 1)) parts
      ++ newline depth ++ closing

mutual

/-- The value over several lines, `depth` levels deep. -/
def indentedAt (depth : Nat) : Json → String
  | .null => "null"
  | .bool true => "true"
  | .bool false => "false"
  | .number literal => literal
  | .string text => quoted text
  | .array items => layout "[" "]" depth (indentedItems (depth + 1) items)
  | .object members => layout "\x7b" "\x7d" depth (indentedMembers (depth + 1) members)

/-- The items of an array at a level. -/
def indentedItems (depth : Nat) : List Json → List String
  | [] => []
  | item :: rest => indentedAt depth item :: indentedItems depth rest

/-- The members of an object at a level. -/
def indentedMembers (depth : Nat) : List (String × Json) → List String
  | [] => []
  | (name, value) :: rest =>
    (quoted name ++ ": " ++ indentedAt depth value) :: indentedMembers depth rest

end

/-- The value over several lines. -/
def indented (value : Json) : String :=
  indentedAt 0 value

end TapeDebugger.Json

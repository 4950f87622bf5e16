import TapeDebugger.Decimal.Notation
import TapeDebugger.Json.Render
import TapeDebugger.Logging.Level
import TapeDebugger.Text.Blank

/-!
# Log records

A record is written as a line of `key=value` pairs for people and as a JSON object
for programs. In a line, texts that would be misread are quoted.
-/

namespace TapeDebugger

/-- The value of an attribute. -/
inductive LogValue where
  | text (value : String)
  | bool (value : Bool)
  | number (value : Binary64)
  | null
deriving Repr, DecidableEq

/-- What is logged. -/
structure LogRecord where
  level : LogLevel
  message : String
  attributes : List (String × LogValue)
deriving Repr, DecidableEq

namespace LogRecord

/-- Whether a character makes it necessary to quote a text in a line. -/
def needsQuotes (character : Char) : Bool :=
  if character.toNat < 0x80 then
    character == ' ' || character == '=' || character == '"' || decide (character.toNat < 0x20)
  else
    character == '\uFFFD' || Text.isBlank character || !Text.isPrintable character

/-- A text in a line. -/
def lineText (text : String) : String :=
  if text.isEmpty || text.toList.any needsQuotes then Text.quoted text else text

/-- A value in a line. -/
def lineValue : LogValue → String
  | .text value => lineText value
  | .bool value => if value then "true" else "false"
  | .number value => Decimal.text Decimal.messageStyle value
  | .null => "<nil>"

/-- The JSON form of a value; a number without one is written as a text. -/
def jsonValue : LogValue → Json
  | .text value => .string value
  | .bool value => .bool value
  | .number value =>
    match value.value with
    | .finite .. => .number (Decimal.text Decimal.jsonStyle value)
    | _ => .string (Decimal.text Decimal.jsonStyle value)
  | .null => .null

/-- The attributes that are written: one with neither key nor value is not. -/
def shown (record : LogRecord) : List (String × LogValue) :=
  record.attributes.filter fun (key, value) => !(key.isEmpty && value == .null)

/-- The record as a line. -/
def line (record : LogRecord) : String :=
  String.intercalate " " (["level=" ++ record.level.name, "msg=" ++ lineText record.message]
    ++ record.shown.map fun (key, value) => lineText key ++ "=" ++ lineValue value)

/-- The record as a JSON object. -/
def toJson (record : LogRecord) : Json :=
  .object ([("level", .string record.level.name), ("msg", .string record.message)]
    ++ record.shown.map fun (key, value) => (key, jsonValue value))

/-- The records that a logger with the given least level lets through. -/
def atLeast (level : LogLevel) (records : List LogRecord) : List LogRecord :=
  records.filter fun record => decide (level.value ≤ record.level.value)

end LogRecord

end TapeDebugger

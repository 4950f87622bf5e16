import TapeDebugger.Decimal.Integer
import TapeDebugger.Text.Case
import TapeDebugger.Text.Quoted

/-!
# Log levels

A level is a number; four of them have names, and the others are written as a
name with an offset.
-/

namespace TapeDebugger

/-- How important a record is. -/
structure LogLevel where
  value : Int64
deriving Repr, DecidableEq

/-- Why a text is no level. -/
inductive LevelFault where
  | unknownName (text : String)
  /-- The offset is no integer. -/
  | badOffset (text offset : String) (fault : Decimal.IntegerFault)
deriving Repr, DecidableEq

/-- How a bad level is reported. -/
def LevelFault.message : LevelFault → String
  | unknownName text => "slog: level string " ++ Text.quoted text ++ ": unknown name"
  | badOffset text offset fault =>
    "slog: level string " ++ Text.quoted text ++ ": strconv.Atoi: parsing " ++ Text.quoted offset
      ++ (match fault with
        | .malformed => ": invalid syntax"
        | .outOfRange => ": value out of range")

namespace LogLevel

/-- For the details of an operation. -/
def debug : LogLevel where
  value := -4

/-- For what happens normally. -/
def info : LogLevel where
  value := 0

/-- For what should not happen. -/
def warn : LogLevel where
  value := 4

/-- For what must not happen. -/
def error : LogLevel where
  value := 8

/-- The level of a name in upper case. -/
def named? (name : String) : Option LogLevel :=
  match name with
  | "DEBUG" => some debug
  | "INFO" => some info
  | "WARN" => some warn
  | "ERROR" => some error
  | _ => none

/-- Whether a character starts an offset. -/
def isSign (character : Char) : Bool :=
  character == '+' || character == '-'

/-- Read a level in any case: a name, and from the first sign on an offset,
which is looked at first. Adding it wraps at 64 bits. -/
def parse (text : String) : Except LevelFault LogLevel :=
  let text := Text.upper text
  let name := String.ofList (text.toList.takeWhile fun character => !isSign character)
  let offset := String.ofList (text.toList.dropWhile fun character => !isSign character)
  let distance : Except LevelFault Int64 :=
    if offset.isEmpty then Except.ok 0
    else
      match Decimal.readInt64 offset with
      | .ok distance => Except.ok distance
      | .error fault => Except.error (.badOffset text offset fault)
  match distance, named? name with
  | .error fault, _ => Except.error fault
  | .ok distance, some level => Except.ok { value := level.value + distance }
  | .ok _, none => Except.error (.unknownName text)

/-- Read a configured level; without one it is `info`. -/
def ofSetting (text : String) : Except LevelFault LogLevel :=
  if text.isEmpty then Except.ok info else parse text

/-- A name with an offset, which is left out when it is zero. -/
def offsetName (name : String) (offset : Int) : String :=
  if offset = 0 then name
  else name ++ (if 0 < offset then "+" else "") ++ toString offset

/-- How a level is written: from the greatest named level that it reaches, or
from `DEBUG` when it reaches none. -/
def name (level : LogLevel) : String :=
  let value := level.value.toInt
  if value < 0 then offsetName "DEBUG" (value + 4)
  else if value < 4 then offsetName "INFO" value
  else if value < 8 then offsetName "WARN" (value - 4)
  else offsetName "ERROR" (value - 8)

end LogLevel

end TapeDebugger

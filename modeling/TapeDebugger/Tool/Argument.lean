import TapeDebugger.Decimal.Integer
import TapeDebugger.Tool.Datum

/-!
# Arguments

Reading the arguments of a call. A missing argument and `null` are the same. An
integer is accepted in every kind of number, but only when the number is exactly
a 64-bit integer, so no argument is ever changed on the way in.
-/

namespace TapeDebugger

/-- The named arguments of a call. -/
abbrev Arguments := List (String × Datum)

/-- Why an argument cannot be read. -/
inductive ArgumentFault where
  | required (name : String)
  | notText (name typeName : String)
  | notInteger (name shown : String)
  | notNumber (name typeName : String)
  | tapeSizeNotPositive (size : Int64)
deriving Repr, DecidableEq

/-- How an unreadable argument is reported. -/
def ArgumentFault.message : ArgumentFault → String
  | required name => s!"invalid argument: {name} is required"
  | notText name typeName => s!"invalid argument: {name} must be a string (got {typeName})"
  | notInteger name shown => s!"invalid argument: {name} must be an integer (got {shown})"
  | notNumber name typeName => s!"invalid argument: {name} must be a number (got {typeName})"
  | tapeSizeNotPositive size =>
    s!"invalid argument: tapeSize must be positive (got {size.toInt})"

namespace Arguments

/-- The value of an argument that is given and not `null`. A name given twice
has its last value. -/
def value? (arguments : Option Arguments) (name : String) : Option Datum :=
  let entry := (arguments.getD []).reverse.find? fun entry => entry.1 == name
  match entry with
  | none | some (_, .null) => none
  | some (_, value) => some value

/-- The names given, in order and without repetition. -/
def names (arguments : Arguments) : List String :=
  (NameMap.ofList arguments).names

/-- A text argument. -/
def text? (arguments : Option Arguments) (name : String) : Except ArgumentFault (Option String) :=
  match value? arguments name with
  | none => .ok none
  | some (.text value) => .ok (some value)
  | some other => .error (.notText name other.typeName)

/-- A text argument that has to be given. -/
def requiredText (arguments : Option Arguments) (name : String) : Except ArgumentFault String :=
  match text? arguments name with
  | .error fault => .error fault
  | .ok none => .error (.required name)
  | .ok (some value) => .ok value

/-- A 64-bit integer that a double is exactly. -/
def exactInteger? (value : Binary64) : Option Int64 :=
  match value.toInt? with
  | some integer =>
    if -Int.pow 2 63 ≤ integer ∧ integer < Int.pow 2 63 then some (Int64.ofInt integer) else none
  | none => none

/-- An integer argument. -/
def integer? (arguments : Option Arguments) (name : String) :
    Except ArgumentFault (Option Int64) :=
  match value? arguments name with
  | none => .ok none
  | some (.integer _ value) => .ok (some value)
  | some (.double value) =>
    match exactInteger? value with
    | some integer => .ok (some integer)
    | none => .error (.notInteger name (Decimal.text Decimal.messageStyle value))
  | some (.literal written) =>
    match Decimal.int64? written with
    | some integer => .ok (some integer)
    | none => .error (.notInteger name written)
  | some other => .error (.notNumber name other.typeName)

end Arguments

end TapeDebugger

import TapeDebugger.Binary64
import TapeDebugger.Decimal.Notation
import TapeDebugger.Json.Parse
import TapeDebugger.NameMap
import TapeDebugger.Text.Quoted

/-!
# Dynamic values

What a client passes to a tool and a handler may return: JSON values in which
numbers come in several kinds, because a client that links the library passes
machine integers and doubles where one that speaks JSON passes number literals.
-/

namespace TapeDebugger

/-- The widths of machine integers. -/
inductive IntegerKind where
  | native
  | bits32
  | bits64
deriving Repr, DecidableEq

/-- A dynamic value. -/
inductive Datum where
  | null
  | bool (value : Bool)
  | text (value : String)
  | double (value : Binary64)
  | integer (kind : IntegerKind) (value : Int64)
  /-- A number literal as it was written. -/
  | literal (text : String)
  | list (items : List Datum)
  /-- Named values; the order of the entries carries no meaning. -/
  | record (entries : List (String × Datum))
deriving Repr, Inhabited

/-- Why a value has no JSON form. -/
inductive EncodeFault where
  | unsupportedDouble (value : Binary64)
  | invalidLiteral (text : String)
deriving Repr, DecidableEq

/-- How a value without JSON form is reported. -/
def EncodeFault.message : EncodeFault → String
  | unsupportedDouble value =>
    "json: unsupported value: " ++ Decimal.text Decimal.messageStyle value
  | invalidLiteral text =>
    "json: error calling MarshalJSONTo for type *json.Number: cannot parse " ++ Text.quoted text
      ++ " as JSON number: invalid syntax"

namespace Datum

/-- The name of a value's type in messages. -/
def typeName : Datum → String
  | null => "<nil>"
  | bool _ => "bool"
  | text _ => "string"
  | double _ => "float64"
  | integer .native _ => "int"
  | integer .bits32 _ => "int32"
  | integer .bits64 _ => "int64"
  | literal _ => "json.Number"
  | list _ => "[]interface \x7b\x7d"
  | record _ => "map[string]interface \x7b\x7d"

mutual

/-- The value that a JSON value denotes; number literals keep their text. -/
def ofJson : Json → Datum
  | .null => .null
  | .bool value => .bool value
  | .number written => .literal written
  | .string value => .text value
  | .array items => .list (ofItems items)
  | .object members => .record (ofMembers members)

/-- The values of array items. -/
def ofItems : List Json → List Datum
  | [] => []
  | item :: rest => ofJson item :: ofItems rest

/-- The values of object members. -/
def ofMembers : List (String × Json) → List (String × Datum)
  | [] => []
  | (name, value) :: rest => (name, ofJson value) :: ofMembers rest

end

/-- The JSON form of a double. -/
def doubleJson (value : Binary64) : Except EncodeFault Json :=
  match value.value with
  | .finite .. => .ok (.number (Decimal.text Decimal.jsonStyle value))
  | _ => .error (.unsupportedDouble value)

/-- The JSON form of a literal; an empty one is zero. -/
def literalJson (written : String) : Except EncodeFault Json :=
  if written.isEmpty then .ok (.number "0")
  else
    match Json.parseNumber written.toList with
    | some (_, []) => .ok (.number written)
    | _ => .error (.invalidLiteral written)

/-- The values of named results, or the failure of the first that has one. -/
def collectMembers : List (String × Except EncodeFault Json) →
    Except EncodeFault (List (String × Json))
  | [] => .ok []
  | (_, .error fault) :: _ => .error fault
  | (name, .ok value) :: rest =>
    (collectMembers rest).map fun members => (name, value) :: members

mutual

/-- The JSON form of a value; the names of a record are written in order. -/
def toJson : Datum → Except EncodeFault Json
  | .null => .ok .null
  | .bool value => .ok (.bool value)
  | .text value => .ok (.string value)
  | .double value => doubleJson value
  | .integer _ value => .ok (.int value.toInt)
  | .literal written => literalJson written
  | .list items => (itemsJson items).map .array
  | .record entries =>
    (collectMembers (NameMap.ofList (entriesJson entries)).entries).map .object

/-- The JSON forms of list items. -/
def itemsJson : List Datum → Except EncodeFault (List Json)
  | [] => .ok []
  | item :: rest =>
    match toJson item with
    | .error fault => .error fault
    | .ok value => (itemsJson rest).map fun values => value :: values

/-- The JSON forms of record entries. -/
def entriesJson : List (String × Datum) → List (String × Except EncodeFault Json)
  | [] => []
  | (name, item) :: rest => (name, toJson item) :: entriesJson rest

end

end Datum

end TapeDebugger

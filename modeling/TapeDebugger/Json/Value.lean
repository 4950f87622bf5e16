/-!
# JSON values

Numbers are kept as the text they are written with, so no digit is ever lost,
and the members of an object keep their order, so that a value says exactly how
it is written.
-/

namespace TapeDebugger

/-- A JSON value. -/
inductive Json where
  | null
  | bool (value : Bool)
  /-- A number literal. -/
  | number (literal : String)
  | string (text : String)
  | array (items : List Json)
  | object (members : List (String × Json))
deriving Repr, Inhabited

namespace Json

/-- An integer in decimal. -/
def int (value : Int) : Json :=
  .number (toString value)

/-- A natural number in decimal. -/
def nat (value : Nat) : Json :=
  .number (toString value)

/-- The last member of an object that has the given name. -/
def member? (value : Json) (name : String) : Option Json :=
  match value with
  | .object members => (members.reverse.find? fun entry => entry.1 == name).map (·.2)
  | _ => none

/-- A member that may be left out: absent and `null` are the same. -/
def optional? (value : Json) (name : String) : Option Json :=
  match value.member? name with
  | some .null => none
  | found => found

end Json

end TapeDebugger

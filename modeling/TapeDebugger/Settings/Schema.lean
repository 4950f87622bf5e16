import TapeDebugger.Session.Config
import TapeDebugger.Settings.Assignment

/-!
# The settings of the server

Which fields a settings file may have and what each of them may hold. Both
structures are closed, so a misspelt field is refused.
-/

namespace TapeDebugger.Settings

/-- What a field may hold. -/
inductive Rule where
  /-- An integer of 64 bits, within bounds where there are any. -/
  | integer (least greatest : Option Int)
  /-- One of some texts. -/
  | choice (options : List String)
  | flag
  | text
  /-- A structure of further fields. -/
  | struct
deriving Repr, DecidableEq

/-- Whether an integer can be held. The least 64-bit integer cannot. -/
def isStorable (value : Int) : Bool :=
  decide (-Int.pow 2 63 < value ∧ value < Int.pow 2 63)

/-- Whether a rule admits a value. -/
def Rule.admits : Rule → Leaf → Bool
  | integer least greatest, .integer value =>
    isStorable value && (least.all (· ≤ value)) && (greatest.all (value ≤ ·))
  | choice options, .text value => options.contains value
  | flag, .bool _ => true
  | text, .text _ => true
  | struct, .struct => true
  | _, _ => false

/-- The rule of a path, if there is such a field. -/
def rule? (path : List String) : Option Rule :=
  match path with
  | [] => some .struct
  | ["tapeSize"] => some (.integer (some 1) none)
  | ["minValue"] => some (.integer none (some 0))
  | ["maxValue"] => some (.integer (some 0) none)
  | ["defaultWindowRadius"] => some (.integer (some 0) none)
  | ["runChunk"] => some (.integer (some 1) none)
  | ["maxRunSteps"] => some (.integer (some 0) none)
  | ["historySize"] => some (.integer none none)
  | ["log"] => some .struct
  | ["log", "level"] => some (.choice ["debug", "info", "warn", "error"])
  | ["log", "journal"] => some .flag
  | ["log", "file"] => some .text
  | _ => none

/-- The path of fields that are not private. -/
def publicPath (names : List String) : List Label :=
  names.map fun name => { name, isPrivate := false }

/-- The leaves assigned to a path. -/
def leavesAt (assignments : List Assignment) (path : List Label) : List Leaf :=
  (assignments.filter fun assignment => assignment.path == path).map (·.leaf)

/-- The value of a field that is given. -/
def valueAt? (assignments : List Assignment) (names : List String) : Option Leaf :=
  Leaf.agree? (leavesAt assignments (publicPath names))

/-- Whether a rule admits what leaves say together. A structure that is left open
is an empty one; every other field needs a value. -/
def Rule.admitsAll (rule : Rule) (leaves : List Leaf) : Bool :=
  match Leaf.agree? leaves with
  | some value => rule.admits value
  | none => rule == .struct && leaves.all (· == .kind .any)

/-- Whether every assignment is to a known field whose rule admits it, or is
private and consistent with the others to its path. -/
def isAccepted (assignments : List Assignment) : Bool :=
  assignments.all fun assignment =>
    let leaves := leavesAt assignments assignment.path
    if assignment.path.any (·.isPrivate) then Leaf.areConsistent leaves
    else
      match rule? (assignment.path.map (·.name)) with
      | some rule => rule.admitsAll leaves
      | none => false

/-- The values that a settings file gives to its fields, by path. -/
abbrev FieldValues := List String → Option Leaf

/-- The values of a source that is well formed and whose assignments are accepted. -/
def evaluate? (source : List UInt8) : Option FieldValues :=
  match assignments? source with
  | none => none
  | some assignments => if isAccepted assignments then some (valueAt? assignments) else none

/-- Where logs go and which. -/
structure LogSettings where
  /-- The least level; empty stands for `info`. -/
  level : String := ""
  /-- Whether the system journal gets records too. -/
  journal : Bool := false
  /-- A file that gets records too, unless empty. -/
  file : String := ""
deriving Repr, DecidableEq

/-- A settings file. -/
structure SettingsFile where
  /-- Zero when not given, as for the other numbers that are not optional. -/
  tapeSize : Int64 := 0
  minValue : Option Int64 := none
  maxValue : Option Int64 := none
  defaultWindowRadius : Option Int64 := none
  runChunk : Int64 := 0
  maxRunSteps : Int64 := 0
  historySize : Int64 := 0
  log : LogSettings := {}
deriving Repr, DecidableEq

namespace SettingsFile

/-- The integer at a path. -/
def integer? (values : FieldValues) (path : List String) : Option Int64 :=
  match values path with
  | some (.integer value) => some (Int64.ofInt value)
  | _ => none

/-- The text at a path, empty when not given. -/
def textAt (values : FieldValues) (path : List String) : String :=
  match values path with
  | some (.text value) => value
  | _ => ""

/-- Collect the values of the fields. -/
def ofValues (values : FieldValues) : SettingsFile where
  tapeSize := (integer? values ["tapeSize"]).getD 0
  minValue := integer? values ["minValue"]
  maxValue := integer? values ["maxValue"]
  defaultWindowRadius := integer? values ["defaultWindowRadius"]
  runChunk := (integer? values ["runChunk"]).getD 0
  maxRunSteps := (integer? values ["maxRunSteps"]).getD 0
  historySize := (integer? values ["historySize"]).getD 0
  log := {
    level := textAt values ["log", "level"]
    journal := values ["log", "journal"] == some (.bool true)
    file := textAt values ["log", "file"] }

/-- Read a settings file. -/
def parse? (source : List UInt8) : Option SettingsFile :=
  (evaluate? source).map ofValues

/-- The session that a settings file asks for. -/
def sessionConfig (file : SettingsFile) : SessionConfig where
  tapeSize := file.tapeSize
  minValue := file.minValue
  maxValue := file.maxValue
  defaultWindowRadius := file.defaultWindowRadius
  runChunk := file.runChunk
  maxRunSteps := file.maxRunSteps
  historySize := file.historySize

end SettingsFile

end TapeDebugger.Settings

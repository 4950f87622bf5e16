import TapeDebugger.Executor.Index

/-!
# Documentation

What is known about a tool beyond its listing, at three levels of detail. A tool
without an entry is documented by its description.
-/

namespace TapeDebugger

/-- How much to tell about a tool. -/
inductive DetailLevel where
  | summary
  | schema
  | full
deriving Repr, DecidableEq

/-- The level of a name. -/
def DetailLevel.ofName? (name : String) : Option DetailLevel :=
  match name with
  | "summary" => some .summary
  | "schema" => some .schema
  | "full" => some .full
  | _ => none

/-- Why a question about a tool is not answered. -/
inductive DocFault where
  | canceled
  | unknownTool (identifier : String)
  | unknownLevel (level : String)
deriving Repr, DecidableEq

/-- How an unanswered question is reported. -/
def DocFault.message : DocFault → String
  | canceled => Context.canceledMessage
  | unknownTool identifier => s!"tool not found: {identifier}"
  | unknownLevel level => s!"invalid detail level: {level}"

/-- The types a property of a schema allows. -/
def propertyTypes (schema : Json) : List Json :=
  match schema.member? "type" with
  | some (.string name) => [.string name]
  | some (.array names) => names
  | _ => []

/-- A digest of an input schema: which arguments are required and of which
types they are. A schema without properties has none. -/
def schemaDigest? (schema : Json) : Option Json :=
  match schema.member? "properties" with
  | some (.object (first :: others)) =>
    let required :=
      match schema.member? "required" with
      | some (.array names) => names
      | _ => []
    let types := (first :: others).filterMap fun (name, property) =>
      match propertyTypes property with
      | [] => none
      | allowed => some (name, .array allowed)
    some (.object (
      (if required.isEmpty then [] else [("required", .array required)])
      ++ (if types.isEmpty then [] else [("types", .object types)])))
  | _ => none

/-- The documentation entries by tool identifier. -/
abbrev DocStore := NameMap ToolDoc

namespace DocStore

/-- The examples of an entry. -/
def examplesOf (entry : Option ToolDoc) : List ToolExample :=
  (entry.bind (·.examples)).getD []

/-- Tell about a tool at a level. -/
def describe (store : DocStore) (index : ToolIndex) (identifier level : String) :
    Except DocFault Json :=
  match DetailLevel.ofName? level with
  | none => .error (.unknownLevel level)
  | some level =>
    match index.get? identifier with
    | none => .error (.unknownTool identifier)
    | some tool =>
      let entry := store.get? identifier
      let summary := (entry.map (·.summary)).getD tool.description
      let schema := ("tool", tool.toJson)
        :: ((tool.inputSchema.bind schemaDigest?).map fun digest => ("schemaInfo", digest)).toList
      let examples := examplesOf entry
      let details := textMember "notes" ((entry.map (·.notes)).getD "")
        ++ (if examples.isEmpty then [] else
          [("examples", .array (examples.map ToolExample.toJson))])
      .ok (.object (("summary", .string summary)
        :: match level with
          | .summary => []
          | .schema => schema
          | .full => schema ++ details))

/-- The examples of a tool, at most `limit` of them when it is positive. -/
def examples (store : DocStore) (index : ToolIndex) (identifier : String) (limit : Int64) :
    Except DocFault (List ToolExample) :=
  match index.get? identifier with
  | none => .error (.unknownTool identifier)
  | some _ =>
    let examples := examplesOf (store.get? identifier)
    .ok (if 0 < limit then examples.take limit.toNatClampNeg else examples)

end DocStore

end TapeDebugger

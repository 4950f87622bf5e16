import TapeDebugger.Json.Value
import TapeDebugger.Session.Record
import TapeDebugger.Tool.Fault
import TapeDebugger.Tool.Tag
import TapeDebugger.Tool.Value

/-!
# Tools

A tool as it is offered to clients, and a definition, which adds the handler that
serves it and its documentation. Handlers act on a state that they share.
-/

namespace TapeDebugger

/-- A tool as clients see it. -/
structure Tool where
  name : String
  title : String
  description : String
  inputSchema : Option Json
  outputSchema : Option Json
  /-- Whether the tool promises to change nothing. -/
  readOnly : Bool
  toolNamespace : String
  tags : List String

/-- An example in a tool's documentation. -/
structure ToolExample where
  identifier : String
  title : String
  description : String
  arguments : Option Json

/-- The documentation of a tool. -/
structure ToolDoc where
  summary : String
  notes : String
  /-- The examples, if the definition says anything about them. -/
  examples : Option (List ToolExample)

/-- What a handler leaves behind. -/
structure Reply (σ : Type) where
  state : σ
  context : Context
  value : ToolValue
  fault : Option CallFault
  /-- The record of the session operation, if one was carried out. -/
  record : Option Record

/-- A handler answers a call in the current state. It gives nothing when the
fuel for an unbounded run is not enough. -/
abbrev Handler (σ : Type) :=
  (fuel : Nat) → (arguments : Option Arguments) → Context → σ → Option (Reply σ)

/-- A tool with its handler and documentation. -/
structure ToolDefinition (σ : Type) where
  name : String
  title : String
  description : String
  inputSchema : Option Json
  outputSchema : Option Json
  readOnly : Bool
  tags : Option (List String)
  summary : String
  notes : String
  examples : Option (List ToolExample)
  handler : Option (Handler σ)

namespace ToolDefinition

variable {σ : Type}

/-- The tool that clients see, with its tags in normal form. -/
def tool (definition : ToolDefinition σ) (toolNamespace : String) : Tool where
  name := definition.name
  title := definition.title
  description := definition.description
  inputSchema := definition.inputSchema
  outputSchema := definition.outputSchema
  readOnly := definition.readOnly
  toolNamespace
  tags := Tag.normalizeAll (definition.tags.getD [])

/-- The documentation; without a summary the description stands in. -/
def doc (definition : ToolDefinition σ) : ToolDoc where
  summary := if definition.summary.isEmpty then definition.description else definition.summary
  notes := definition.notes
  examples := definition.examples

end ToolDefinition

/-- Keep a member unless it is empty. -/
def textMember (name text : String) : List (String × Json) :=
  if text.isEmpty then [] else [(name, .string text)]

namespace Tool

/-- The JSON form of the part of a tool that the protocol shows. -/
def protocolMembers (tool : Tool) : List (String × Json) :=
  [("name", .string tool.name)]
  ++ textMember "title" tool.title
  ++ textMember "description" tool.description
  ++ [("inputSchema", tool.inputSchema.getD .null)]
  ++ (tool.outputSchema.map fun schema => ("outputSchema", schema)).toList
  ++ (if tool.readOnly then [("annotations", .object [("readOnlyHint", .bool true)])] else [])

/-- The JSON form of a tool. -/
def toJson (tool : Tool) : Json :=
  .object (tool.protocolMembers
    ++ textMember "namespace" tool.toolNamespace
    ++ (if tool.tags.isEmpty then [] else [("tags", .array (tool.tags.map .string))]))

end Tool

/-- The JSON form of an example. -/
def ToolExample.toJson (entry : ToolExample) : Json :=
  .object (textMember "id" entry.identifier
    ++ [("title", .string entry.title), ("description", .string entry.description),
      ("args", entry.arguments.getD .null)])

end TapeDebugger

import TapeDebugger.Backend.Local
import TapeDebugger.Backend.Registry
import TapeDebugger.Executor.Documentation
import TapeDebugger.Tool.Catalog

/-!
# The executor

One session behind its tools: the tools are served by a local backend, entered in
an index and documented. A call is routed by identifier, where a bare name means a
tool of the executor's own namespace.
-/

namespace TapeDebugger

/-- What an executor is made from. -/
structure ExecutorOptions where
  session : Option Session
  /-- The namespace of the tools; empty stands for the default. -/
  toolNamespace : String
  /-- An index that may already hold tools. -/
  index : ToolIndex
  /-- Whether documentation can be entered at all. -/
  takesDocs : Bool
  /-- Why an entry is refused, if it is. -/
  docFault : String → Option String
  /-- How the identifiers of calls are taken apart. -/
  splitter : ToolId.Splitter := .colon

/-- Options for a session, with everything else as usual. -/
def ExecutorOptions.ofSession (session : Session) (toolNamespace : String) : ExecutorOptions where
  session := some session
  toolNamespace
  index := .empty
  takesDocs := true
  docFault := fun _ => none

/-- Why an executor cannot be made. -/
inductive ExecutorFault where
  | sessionRequired
  | backend (fault : RegistryFault)
  /-- A tool could not be entered in the index. -/
  | indexRefused (tool : String) (fault : IndexFault)
  /-- A tool's documentation was refused. -/
  | docRefused (identifier reason : String)
deriving Repr, DecidableEq

/-- How a failure to make an executor is reported. -/
def ExecutorFault.message : ExecutorFault → String
  | sessionRequired => "exec: Session is required"
  | backend fault => fault.message
  | indexRefused tool fault => s!"register tool {tool}: " ++ fault.message
  | docRefused identifier reason => s!"register doc {identifier}: {reason}"

/-- A session behind its tools. -/
structure Executor where
  session : Session
  toolNamespace : String
  registry : Registry Session
  index : ToolIndex
  docs : DocStore
  /-- How the identifiers of calls are taken apart. -/
  splitter : ToolId.Splitter

/-- The result of a call. -/
structure CallResult where
  /-- The identifier as the caller gave it. -/
  identifier : String
  value : ToolValue
  fault : Option CallFault

namespace CallResult

/-- A result of nothing. -/
def blank : CallResult where
  identifier := ""
  value := .absent
  fault := none

/-- Whether the call succeeded. -/
def isOk (result : CallResult) : Bool :=
  result.fault.isNone

/-- The text of the value for a reader, or why it has none. -/
def text (result : CallResult) : Except String String :=
  match result.value.render with
  | .ok text => .ok text
  | .error fault => .error (s!"encode {result.identifier} result: " ++ fault.message)

end CallResult

namespace Executor

/-- The namespace of the debugger's tools. -/
def defaultNamespace : String := "brainfaq"

/-- The local backend that serves the debugger's tools. -/
def localBackend (toolNamespace : String) : LocalBackend Session :=
  Catalog.definitions.foldl (fun backend definition => backend.register definition.name definition)
    (.new toolNamespace)

/-- Enter tools in the index and the documentation, one after the other and for
each the tool first. -/
def enter (options : ExecutorOptions) (toolNamespace : String) :
    List (ToolDefinition Session) → ToolIndex → DocStore →
    Except ExecutorFault (ToolIndex × DocStore)
  | [], index, docs => .ok (index, docs)
  | definition :: rest, index, docs =>
    match index.register (definition.tool toolNamespace) with
    | .error fault => .error (.indexRefused definition.name fault)
    | .ok index =>
      let identifier := ToolId.format toolNamespace definition.name
      if options.takesDocs then
        match options.docFault identifier with
        | some reason => .error (.docRefused identifier reason)
        | none => enter options toolNamespace rest index (docs.insert identifier definition.doc)
      else enter options toolNamespace rest index docs

/-- Make an executor. -/
def create (options : ExecutorOptions) : Except ExecutorFault Executor :=
  match options.session with
  | none => .error .sessionRequired
  | some session =>
    let toolNamespace :=
      if options.toolNamespace.isEmpty then defaultNamespace else options.toolNamespace
    let backend := localBackend toolNamespace
    match Registry.empty.register (some backend.toBackend) with
    | .error fault => .error (.backend fault)
    | .ok registry =>
      match enter options toolNamespace backend.definitions options.index .empty with
      | .error fault => .error fault
      | .ok (index, docs) =>
        .ok { session, toolNamespace, registry, index, docs, splitter := options.splitter }

/-- A call with what it left behind. -/
structure CallOutcome where
  executor : Executor
  context : Context
  result : CallResult
  record : Option Record

/-- Call a tool. -/
def runTool (fuel : Nat) (executor : Executor) (context : Context) (identifier : String)
    (arguments : Option Arguments) : Option CallOutcome :=
  (executor.registry.executeBy executor.splitter executor.toolNamespace identifier fuel arguments
      context executor.session).map fun reply =>
    { executor := { executor with session := reply.state }
      context := reply.context
      result := { identifier, value := reply.value, fault := reply.fault }
      record := reply.record }

/-- The tools on offer in order of their names. -/
def tools (executor : Executor) : Except RegistryFault (List Tool) :=
  executor.registry.tools

/-- The full identifier of a tool of this executor. -/
def toolId (executor : Executor) (name : String) : String :=
  ToolId.format executor.toolNamespace name

/-- Find tools. -/
def search (executor : Executor) (context : Context) (query : String) (limit : Int64) :
    Option (List (String × Tool)) :=
  context.poll.map fun _ => executor.index.search query limit

/-- Tell about a tool. -/
def describeTool (executor : Executor) (context : Context) (identifier level : String) :
    Except DocFault Json :=
  match context.poll with
  | none => .error .canceled
  | some _ => executor.docs.describe executor.index identifier level

/-- The examples of a tool. -/
def toolExamples (executor : Executor) (context : Context) (identifier : String) (limit : Int64) :
    Except DocFault (List ToolExample) :=
  match context.poll with
  | none => .error .canceled
  | some _ => executor.docs.examples executor.index identifier limit

/-- Start the backends. -/
def start (executor : Executor) : Executor × Option RegistryFault :=
  let (registry, _, fault) := executor.registry.startAll
  ({ executor with registry }, fault)

/-- Stop the backends. -/
def close (executor : Executor) : Executor × Option RegistryFault :=
  let (registry, _, fault) := executor.registry.stopAll
  ({ executor with registry }, fault)

end Executor

end TapeDebugger

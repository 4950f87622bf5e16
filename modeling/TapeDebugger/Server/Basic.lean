import TapeDebugger.Executor.Basic
import TapeDebugger.Logging.Record

/-!
# The server

An executor's tools as clients call them: under their bare names, with arguments
as JSON text. A failed call is an answer too, so that the client sees it. Each call
is logged.
-/

namespace TapeDebugger

/-- What a server tells clients about itself. -/
structure ServerInfo where
  name : String
  version : String
deriving Repr, DecidableEq

namespace ServerInfo

/-- The name unless another is given. -/
def defaultName : String := "brainfaq-mcp"

/-- The version unless another is given. -/
def defaultVersion : String := "1.0.0"

/-- Fill in what is not given. -/
def withDefaults (info : ServerInfo) : ServerInfo where
  name := if info.name.isEmpty then defaultName else info.name
  version := if info.version.isEmpty then defaultVersion else info.version

end ServerInfo

/-- A server of an executor's tools. -/
structure Server where
  executor : Executor
  info : ServerInfo
  tools : List Tool

/-- Why a server cannot be made. -/
inductive ServerFault where
  | executorRequired
  | listing (fault : RegistryFault)
deriving Repr, DecidableEq

/-- How a failure to make a server is reported. -/
def ServerFault.message : ServerFault → String
  | executorRequired => "server: executor is required"
  | listing fault => "list tools: " ++ fault.message

/-- The answer to a call. -/
structure ToolAnswer where
  text : String
  isError : Bool
  structured : Option Json

/-- What became of a call. -/
inductive CallAnswer where
  | answered (answer : ToolAnswer)
  /-- There is no such tool. -/
  | unknownTool (name : String)
  /-- The value of the call could not be written. -/
  | unwritable (message : String)

/-- A call with what it left behind. -/
structure ServedCall where
  server : Server
  answer : CallAnswer
  /-- The record of the session operation, which comes before the server's. -/
  record : Option Record
  /-- The server's own log record. -/
  log : Option LogRecord

namespace Server

/-- What clients are told about the tools. -/
def instructions : String :=
  "A debugger for the eight-instruction tape language. "
    ++ "Call load_code first, then step or run. When the status is WAITING_FOR_INPUT, "
    ++ "call add_input and continue. Use get_state with windowRadius to inspect memory."

/-- Make a server of an executor. -/
def create (executor : Option Executor) (info : ServerInfo) : Except ServerFault Server :=
  match executor with
  | none => .error .executorRequired
  | some executor =>
    match executor.tools with
    | .error fault => .error (.listing fault)
    | .ok tools => .ok { executor, info := info.withDefaults, tools }

/-- Start the executor's backends. -/
def start (server : Server) : Server × Option RegistryFault :=
  let (executor, fault) := server.executor.start
  ({ server with executor }, fault)

/-- Stop the executor's backends. -/
def stop (server : Server) : Server × Option RegistryFault :=
  let (executor, fault) := server.executor.close
  ({ server with executor }, fault)

/-- The word for the kind of a JSON value that is no object. -/
def kindWord : Json → String
  | .null => "null"
  | .bool _ => "bool"
  | .number _ => "number"
  | .string _ => "string"
  | .array _ => "array"
  | .object _ => "object"

/-- Read the arguments of a call. None at all and `null` stand for no
arguments; anything but an object is refused. -/
def decodeArguments (arguments : Option Json) : Except String Arguments :=
  match arguments with
  | none | some .null => .ok []
  | some (.object members) => .ok (Datum.ofMembers members)
  | some other =>
    .error ("invalid arguments: json: cannot unmarshal " ++ kindWord other
      ++ " into Go value of type map[string]interface \x7b\x7d")

/-- The text of a failure for a client. -/
def faultText (fault : CallFault) : String :=
  match fault with
  | .session (.unmatched _) => "Parser Error: " ++ fault.message
  | _ => fault.message

/-- An answer that reports a failure. -/
def errorAnswer (text : String) : CallAnswer :=
  .answered { text, isError := true, structured := none }

/-- The answer to a call that succeeded. -/
def resultAnswer (result : CallResult) : CallAnswer :=
  match result.text, result.value.toJson with
  | .ok text, .ok json =>
    .answered { text, isError := false
                structured := if result.value.isStructured then some json else none }
  | .error message, _ => .unwritable message
  | .ok _, .error fault => .unwritable fault.message

/-- A log record about a tool. -/
def toolLog (level : LogLevel) (message tool : String) (error : Option String) : LogRecord where
  level
  message
  attributes := ("tool", .text tool) :: (error.map fun text => ("error", .text text)).toList

/-- Answer a call. It gives nothing when the fuel for an unbounded run is not
enough. -/
def call (fuel : Nat) (server : Server) (context : Context) (name : String)
    (arguments : Option Json) : Option ServedCall :=
  if server.tools.any fun tool => tool.name == name then
    let identifier := server.executor.toolId name
    match decodeArguments arguments with
    | .error message =>
      some {
        server
        answer := errorAnswer message
        record := none
        log := some (toolLog .warn "invalid tool arguments" identifier (some message)) }
    | .ok arguments =>
      (server.executor.runTool fuel context identifier (some arguments)).map fun outcome =>
        let server := { server with executor := outcome.executor }
        match outcome.result.fault with
        | some fault =>
          { server
            answer := errorAnswer (faultText fault)
            record := outcome.record
            log := some (toolLog .info "tool failed" identifier (some fault.message)) }
        | none =>
          { server
            answer := resultAnswer outcome.result
            record := outcome.record
            log := some (toolLog .debug "tool called" identifier none) }
  else some { server, answer := .unknownTool name, record := none, log := none }

end Server

end TapeDebugger

import TapeDebugger.Json.Parse
import TapeDebugger.Server.Basic
import TapeDebugger.Text.Quoted

/-!
# The protocol

A client sends one JSON object to a line. One with an identifier is a request and
gets one line in reply, which carries the same identifier; one without is a
notification and gets none.
-/

namespace TapeDebugger

/-- Why a request is refused. A tool that fails is no such reason: its failure
is the content of the answer. -/
inductive RequestFault where
  /-- The line is no JSON. -/
  | unreadable
  /-- The line is no request. -/
  | malformed
  | unknownMethod (method : String)
  | unknownTool (name : String)
  | missingParameters
  /-- The result cannot be written. -/
  | unwritable (reason : String)
deriving Repr, DecidableEq

namespace RequestFault

/-- The number of a fault. -/
def code : RequestFault → Int
  | unreadable => -32700
  | malformed => -32600
  | unknownMethod _ => -32601
  | unknownTool _ | missingParameters => -32602
  | unwritable _ => -32603

/-- How a refused request is reported. -/
def message : RequestFault → String
  | unreadable => "parse error"
  | malformed => "invalid request"
  | unknownMethod method => "method not found: " ++ Text.quoted method
  | unknownTool name => "unknown tool " ++ Text.quoted name
  | missingParameters => "missing required \"params\""
  | unwritable reason => reason

end RequestFault

/-- What a client asks for. -/
inductive Request where
  /-- Begin, in the given version of the protocol. -/
  | handshake (version : String)
  | ping
  | listTools
  | callTool (name : String) (arguments : Option Json)

namespace Request

/-- The newest version of the protocol that is spoken. -/
def newestVersion : String := "2025-06-18"

/-- The versions of the protocol that are spoken. -/
def versions : List String := [newestVersion, "2025-03-26", "2024-11-05"]

/-- The version to speak with a client: its own if possible, else the newest. -/
def commonVersion (version : String) : String :=
  if versions.contains version then version else newestVersion

/-- A text member of the parameters. -/
def textParameter? (parameters : Json) (name : String) : Option String :=
  match parameters.member? name with
  | some (.string text) => some text
  | _ => none

/-- The request of a method. -/
def ofMethod (method : String) (parameters : Option Json) : Except RequestFault Request :=
  let parameters := parameters.getD (.object [])
  match method with
  | "initialize" => .ok (.handshake ((textParameter? parameters "protocolVersion").getD ""))
  | "ping" => .ok .ping
  | "tools/list" => .ok .listTools
  | "tools/call" =>
    match textParameter? parameters "name" with
    | some name => .ok (.callTool name (parameters.member? "arguments"))
    | none => .error .missingParameters
  | method => .error (.unknownMethod method)

end Request

/-- A line from a client. -/
structure ClientMessage where
  /-- Absent from a notification. -/
  identifier : Option Json
  method : String
  parameters : Option Json

namespace ClientMessage

/-- Read a line. -/
def parse (line : String) : Except RequestFault ClientMessage :=
  match Json.parse? line with
  | none => .error .unreadable
  | some message =>
    match message.member? "method" with
    | some (.string method) =>
      .ok { identifier := message.member? "id"
            method
            parameters := message.optional? "params" }
    | _ => .error .malformed

end ClientMessage

/-- What a line from a client brings about. -/
structure Served where
  server : Server
  /-- The line in reply, if there is one. -/
  reply : Option Json
  /-- The record of the session operation, which is logged first. -/
  record : Option Record
  /-- The server's own log record. -/
  log : Option LogRecord

namespace Server

/-- A reply with a result. -/
def resultReply (identifier result : Json) : Json :=
  .object [("jsonrpc", .string "2.0"), ("id", identifier), ("result", result)]

/-- A reply that refuses a request. -/
def faultReply (identifier : Json) (fault : RequestFault) : Json :=
  .object [("jsonrpc", .string "2.0"), ("id", identifier),
    ("error", .object [("code", .int fault.code), ("message", .string fault.message)])]

/-- What a client learns at the beginning. -/
def handshakeResult (server : Server) (version : String) : Json :=
  .object [
    ("protocolVersion", .string (Request.commonVersion version)),
    ("capabilities", .object [("tools", .object [("listChanged", .bool true)])]),
    ("serverInfo", .object [
      ("name", .string server.info.name), ("version", .string server.info.version)]),
    ("instructions", .string instructions)]

/-- The tools as clients see them. -/
def toolsResult (server : Server) : Json :=
  .object [("tools", .array (server.tools.map fun tool => .object tool.protocolMembers))]

/-- The JSON form of the answer to a call. -/
def answerJson (answer : ToolAnswer) : Json :=
  .object ([("content", .array [
      .object [("type", .string "text"), ("text", .string answer.text)]])]
    ++ (if answer.isError then [("isError", .bool true)] else [])
    ++ (answer.structured.map fun value => ("structuredContent", value)).toList)

/-- The reply to a call. -/
def callReply (identifier : Json) : CallAnswer → Json
  | .answered answer => resultReply identifier (answerJson answer)
  | .unknownTool name => faultReply identifier (.unknownTool name)
  | .unwritable reason => faultReply identifier (.unwritable reason)

/-- A reply that leaves everything as it is. -/
def served (server : Server) (reply : Option Json) : Served where
  server
  reply
  record := none
  log := none

/-- Answer a request. It gives nothing when the fuel for an unbounded run is not
enough. -/
def answerRequest (fuel : Nat) (server : Server) (identifier : Json) (request : Request) :
    Option Served :=
  match request with
  | .handshake version =>
    some (server.served (some (resultReply identifier (server.handshakeResult version))))
  | .ping => some (server.served (some (resultReply identifier (.object []))))
  | .listTools => some (server.served (some (resultReply identifier server.toolsResult)))
  | .callTool name arguments =>
    (server.call fuel .background name arguments).map fun call =>
      { server := call.server
        reply := some (callReply identifier call.answer)
        record := call.record
        log := call.log }

/-- Answer a line from a client. -/
def respond (fuel : Nat) (server : Server) (line : String) : Option Served :=
  match ClientMessage.parse line with
  | .error fault => some (server.served (some (faultReply .null fault)))
  | .ok message =>
    match message.identifier with
    | none => some (server.served none)
    | some identifier =>
      match Request.ofMethod message.method message.parameters with
      | .error fault => some (server.served (some (faultReply identifier fault)))
      | .ok request => server.answerRequest fuel identifier request

end Server

end TapeDebugger

import TapeDebugger.Session.Fault
import TapeDebugger.Text.Quoted
import TapeDebugger.Tool.Argument

/-!
# Why a tool call fails
-/

namespace TapeDebugger

/-- Why a tool call fails. -/
inductive CallFault where
  /-- The identifier is malformed. -/
  | invalidToolId
  /-- The identifier names no namespace and there is no default. -/
  | missingNamespace (identifier : String)
  | backendNotFound (name : String)
  /-- The backend does not take calls; the router knows its name, the backend
  itself does not give it. -/
  | backendDisabled (name : Option String)
  | toolNotFound
  /-- The call was canceled before its handler ran. -/
  | canceled
  /-- An argument could not be read. -/
  | argument (fault : ArgumentFault)
  /-- The session operation failed. -/
  | session (fault : SessionFault)
  /-- The handler failed with a reason of its own. -/
  | handler (reason : String)
  /-- A step of a chain failed and ended the chain. -/
  | atStep (index : Nat) (identifier : String) (cause : CallFault)
deriving Repr, DecidableEq

/-- How a failed call is reported. -/
def CallFault.message : CallFault → String
  | invalidToolId => "invalid tool ID format"
  | missingNamespace identifier =>
    "invalid tool ID format: " ++ Text.quoted identifier ++ " has no namespace"
  | backendNotFound name => s!"backend not found: {name}"
  | backendDisabled (some name) => s!"backend disabled: {name}"
  | backendDisabled none => "backend disabled"
  | toolNotFound => "tool not found in backend"
  | canceled => Context.canceledMessage
  | argument fault => fault.message
  | session fault => fault.message
  | handler reason => reason
  | atStep index identifier cause => s!"step {index} ({identifier}): " ++ cause.message

end TapeDebugger

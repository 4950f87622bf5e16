import TapeDebugger.Session.Basic
import TapeDebugger.Tool.Definition

/-!
# The debugger's tools

The seven tools through which a client drives a session. Each handler reads its
arguments first; when one of them cannot be read the session is not touched.
-/

namespace TapeDebugger.Catalog

/-- The schema of an object with the given properties. -/
def objectSchema (properties : List (String × Json)) (required : List String) : Json :=
  .object ([("type", .string "object"), ("properties", .object properties)]
    ++ (if required.isEmpty then [] else [("required", .array (required.map .string))]))

/-- A property of a schema. -/
def property (name typeName description : String) : String × Json :=
  (name, .object [("type", .string typeName), ("description", .string description)])

/-- Refuse a call because of an argument. -/
def refuse (session : Session) (context : Context) (fault : ArgumentFault) : Reply Session :=
  { state := session, context, value := .absent, fault := some (.argument fault), record := none }

/-- Report an operation's outcome as the value `show` makes of it. -/
def report {α : Type} (outcome : Outcome α) (value : ToolValue) : Reply Session where
  state := outcome.session
  context := outcome.context
  value
  fault := outcome.fault.map .session
  record := outcome.record

/-- Report an operation's outcome, without a value when it failed. -/
def reportSuccess {α : Type} (outcome : Outcome α) (value : ToolValue) : Reply Session :=
  report outcome (if outcome.fault.isSome then .absent else value)

/-- What a load asks for. -/
structure LoadRequest where
  code : String
  input : String
  overrides : TapeOverrides
deriving Repr, DecidableEq

/-- Read the arguments of a load, in this order. -/
def loadRequest (arguments : Option Arguments) : Except ArgumentFault LoadRequest := do
  let code ← Arguments.requiredText arguments "code"
  let input ← Arguments.text? arguments "initial_input"
  let size ← Arguments.integer? arguments "tapeSize"
  match size.filter (· < 1) with
  | some size => throw (.tapeSizeNotPositive size)
  | none =>
    let minValue ← Arguments.integer? arguments "minValue"
    let maxValue ← Arguments.integer? arguments "maxValue"
    return { code, input := input.getD "", overrides := { size := size.getD 0, minValue, maxValue } }

/-- `load_code`. -/
def loadCode : Handler Session := fun _ arguments context session =>
  match loadRequest arguments with
  | .error fault => some (refuse session context fault)
  | .ok request =>
    let outcome := session.load context (Utf8.ofString request.code)
      (Utf8.ofString request.input) request.overrides
    let value :=
      match outcome.value with
      | some loaded => .load loaded
      | none => .absent
    some (reportSuccess outcome value)

/-- `step`: one instruction unless a count is given. -/
def step : Handler Session := fun _ arguments context session =>
  match Arguments.integer? arguments "count" with
  | .error fault => some (refuse session context fault)
  | .ok count =>
    let outcome := session.step context (count.getD 1)
    some (report outcome (.step outcome.value))

/-- `run`. -/
def run : Handler Session := fun fuel arguments context session =>
  match Arguments.integer? arguments "limit" with
  | .error fault => some (refuse session context fault)
  | .ok limit =>
    (session.run fuel context limit).map fun outcome => report outcome (.step outcome.value)

/-- The name of a reported status. -/
def statusName (status : Option Status) : String :=
  (status.map Status.name).getD ""

/-- `add_input`. -/
def addInput : Handler Session := fun _ arguments context session =>
  match Arguments.requiredText arguments "input" with
  | .error fault => some (refuse session context fault)
  | .ok input =>
    let outcome := session.addInput context (Utf8.ofString input)
    some (reportSuccess outcome (.text ("Input added. Status: " ++ statusName outcome.value)))

/-- `get_state`. -/
def getState : Handler Session := fun _ arguments context session =>
  match Arguments.integer? arguments "windowRadius" with
  | .error fault => some (refuse session context fault)
  | .ok radius =>
    let outcome := session.state context radius
    some (report outcome (.state outcome.value))

/-- `read_output`. -/
def readOutput : Handler Session := fun _ _ context session =>
  let outcome := session.output context
  some (report outcome (.text outcome.value))

/-- `reset`. -/
def reset : Handler Session := fun _ _ context session =>
  let outcome := session.reset context
  some (reportSuccess outcome (.text ("Engine reset. Status: " ++ statusName outcome.value)))

/-- An example that needs no explanation. -/
def sample (identifier title : String) (arguments : List (String × Json)) : ToolExample where
  identifier
  title
  description := ""
  arguments := some (.object arguments)

/-- The tools in the order of a debugging session. -/
def definitions : List (ToolDefinition Session) :=
  [
    { name := "load_code"
      title := "Load code"
      description := "Reset the debugger and load new source code."
      inputSchema := some (objectSchema [
        property "code" "string"
          "Program source. Characters other than the eight instructions are ignored.",
        property "initial_input" "string"
          "Characters placed in the input buffer before execution.",
        property "tapeSize" "integer" "Size of the memory tape (default: 30000).",
        property "minValue" "integer"
          "Minimum allowed value for tape cells (default: -9007199254740991).",
        property "maxValue" "integer"
          "Maximum allowed value for tape cells (default: 9007199254740991)."] ["code"])
      outputSchema := none
      readOnly := false
      tags := some ["debugger", "load"]
      summary := "Load a program into a fresh engine."
      notes := "Unmatched brackets fail the load and leave the engine in PARSER_ERROR."
      examples := some [
        sample "hello" "Hello" [("code", .string "++++++++[>++++++++<-]>+.")],
        sample "echo" "Echo with input"
          [("code", .string ",[.,]"), ("initial_input", .string "hi")]]
      handler := some loadCode },
    { name := "step"
      title := "Step"
      description :=
        "Execute a specific number of instructions (default 1), then summarize the current state."
      inputSchema := some (objectSchema [
        property "count" "integer" "Number of instructions to execute (at least 1)."] [])
      outputSchema := none
      readOnly := false
      tags := some ["debugger", "execution"]
      summary := "Execute a bounded number of instructions."
      notes := ""
      examples := some [sample "ten" "Ten instructions" [("count", .nat 10)]]
      handler := some step },
    { name := "run"
      title := "Run"
      description := "Run the program until it finishes, waits for input, or fails, "
        ++ "then summarize the current state."
      inputSchema := some (objectSchema [
        property "limit" "integer"
          "Optional instruction limit. Omit to run until the program stops."] [])
      outputSchema := none
      readOnly := false
      tags := some ["debugger", "execution"]
      summary := "Run until the program stops."
      notes := "Without a limit a program that never stops runs until the request is canceled "
        ++ "or the configured run cap is reached."
      examples := none
      handler := some run },
    { name := "add_input"
      title := "Add input"
      description :=
        "Append characters to the input buffer. Use when the status is WAITING_FOR_INPUT."
      inputSchema := some (objectSchema [
        property "input" "string" "Characters to append."] ["input"])
      outputSchema := none
      readOnly := false
      tags := some ["debugger", "input"]
      summary := "Feed input to a waiting program."
      notes := ""
      examples := some [sample "newline" "Newline" [("input", .string "\n")]]
      handler := some addInput },
    { name := "get_state"
      title := "Get state"
      description := "Get the current state (memory, pointers, output). "
        ++ "Without windowRadius the entire tape is returned."
      inputSchema := some (objectSchema [
        property "windowRadius" "integer" ("Optional radius around the data pointer. "
          ++ "When omitted, returns the entire tape.")] [])
      outputSchema := none
      readOnly := true
      tags := some ["debugger", "inspect"]
      summary := "Snapshot the engine."
      notes := ""
      examples := some [sample "nearby" "Nearby cells" [("windowRadius", .nat 5)]]
      handler := some getState },
    { name := "read_output"
      title := "Read output"
      description := "Get the full output string generated so far."
      inputSchema := some (objectSchema [] [])
      outputSchema := none
      readOnly := true
      tags := some ["debugger", "inspect"]
      summary := ""
      notes := ""
      examples := none
      handler := some readOutput },
    { name := "reset"
      title := "Reset"
      description := "Discard the loaded program and clear the engine."
      inputSchema := some (objectSchema [] [])
      outputSchema := none
      readOnly := false
      tags := some ["debugger"]
      summary := ""
      notes := ""
      examples := none
      handler := some reset }]

end TapeDebugger.Catalog

/-!
# Execution statuses

Exactly one status is current at any time, and it alone decides whether
stepping may proceed.
-/

namespace TapeDebugger

/-- The execution status of a machine. -/
inductive Status where
  /-- No program is loaded. -/
  | ready
  /-- Instructions remain to be executed. -/
  | running
  /-- The next instruction reads and no input is buffered. -/
  | waitingForInput
  /-- The program has run to its end. -/
  | finished
  /-- The source could not be compiled. -/
  | parserError
  /-- The next instruction would raise a cell past its upper bound. -/
  | overflowError
  /-- The next instruction would lower a cell past its lower bound. -/
  | underflowError
deriving Repr, DecidableEq, Inhabited

namespace Status

/-- The name shown to clients. -/
def name : Status → String
  | ready => "READY"
  | running => "RUNNING"
  | waitingForInput => "WAITING_FOR_INPUT"
  | finished => "FINISHED"
  | parserError => "PARSER_ERROR"
  | overflowError => "OVERFLOW_ERROR"
  | underflowError => "UNDERFLOW_ERROR"

/-- All statuses. -/
def all : List Status :=
  [ready, running, waitingForInput, finished, parserError, overflowError, underflowError]

/-- The status of a name. -/
def ofName? (text : String) : Option Status :=
  all.find? fun status => status.name == text

/-- Whether the status reports a failure. -/
def isError : Status → Bool
  | parserError | overflowError | underflowError => true
  | _ => false

/-- Whether no further instruction can execute until a program is loaded. -/
def isTerminal (status : Status) : Bool :=
  status == finished || status.isError

end Status

end TapeDebugger

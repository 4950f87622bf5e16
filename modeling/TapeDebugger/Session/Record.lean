import TapeDebugger.Session.Fault
import TapeDebugger.Status

/-!
# The operation trace

Every operation that was not canceled before it began leaves one record.
-/

namespace TapeDebugger

/-- The operations of a session. -/
inductive Operation where
  | load
  | step
  | run
  | addInput
  | state
  | output
  | reset
deriving Repr, DecidableEq

/-- The name an operation is recorded under. -/
def Operation.name : Operation → String
  | load => "load"
  | step => "step"
  | run => "run"
  | addInput => "add_input"
  | state => "state"
  | output => "output"
  | reset => "reset"

/-- One operation: the status right after it, the instructions it executed and
its failure if it had one. -/
structure Record where
  operation : Operation
  status : Status
  executed : UInt64
  fault : Option SessionFault
deriving Repr, DecidableEq

namespace Record

/-- The text of the failure, empty without one. -/
def errorText (record : Record) : String :=
  match record.fault with
  | some fault => fault.message
  | none => ""

/-- The log message of an operation that took so many milliseconds. -/
def logMessage (record : Record) (milliseconds : String) : String :=
  match record.fault with
  | some fault =>
    s!"{record.operation.name} failed after {milliseconds}ms: status={record.status.name}"
      ++ s!" error={fault.message}"
  | none =>
    s!"{record.operation.name}: status={record.status.name}"
      ++ s!" executed={record.executed.toNat} in {milliseconds}ms"

end Record

/-- Append a record to a history of at most `size` records, dropping the oldest.
A size below one keeps no history. -/
def appendRecord (size : Int64) (history : List Record) (record : Record) : List Record :=
  if 0 < size then history.drop (history.length + 1 - size.toNatClampNeg) ++ [record] else history

end TapeDebugger

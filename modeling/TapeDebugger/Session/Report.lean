import TapeDebugger.Machine.Basic
import TapeDebugger.Text.Quoted
import TapeDebugger.Text.Title

/-!
# What operations report

The results of loading and of executing, with the summary shown to a reader. The
summary of a step quotes the program's output, so whatever a program writes stays
on its line. How a status is labelled there is given; `statusLabel` is what the
tools give.
-/

namespace TapeDebugger

/-- A status name for a reader: words in title case. -/
def statusLabel (name : String) : String :=
  Text.title ((Text.lower name).map fun character => if character = '_' then ' ' else character)

/-- A loaded program. -/
structure LoadReport where
  status : Status
  programLength : Nat
  tapeSize : Nat
  minValue : Int64
  maxValue : Int64
deriving Repr, DecidableEq

namespace LoadReport

/-- Describe a machine right after loading. -/
def ofMachine (machine : Machine) : LoadReport where
  status := machine.status
  programLength := machine.programLength
  tapeSize := machine.tape.size
  minValue := machine.limits.minValue
  maxValue := machine.limits.maxValue

/-- The confirmation shown to a reader. -/
def summary : String := "Code loaded. Engine reset."

end LoadReport

/-- A machine after execution. -/
structure StepReport where
  status : Status
  /-- Instructions this call executed. -/
  executed : UInt64
  /-- Instructions executed since loading. -/
  totalSteps : UInt64
  dataPointer : Nat
  cell : Int64
  output : String
  /-- Whether a run was ended by the configured cap. -/
  limitReached : Bool
deriving Repr, DecidableEq

namespace StepReport

/-- Describe a machine after `executed` instructions. -/
def ofMachine (machine : Machine) (executed : UInt64) (limitReached : Bool) : StepReport where
  status := machine.status
  executed
  totalSteps := machine.steps
  dataPointer := machine.tape.pointer
  cell := machine.cell
  output := machine.output
  limitReached

/-- The part of the summary that depends on the status, given the label of its name. -/
def statusText (label : String → String) (report : StepReport) : String :=
  match report.status with
  | .finished =>
    s!"Program Finished in {report.totalSteps.toNat} steps.\nOutput: " ++ Text.quoted report.output
  | .waitingForInput =>
    s!"PAUSED: Waiting for Input at step {report.totalSteps.toNat}.\nOutput so far: "
      ++ Text.quoted report.output
  | status => s!"Status: {status.name} (" ++ label status.name ++ ")"

/-- The summary shown to a reader, given the labels of the status names. -/
def summary (label : String → String) (report : StepReport) : String :=
  report.statusText label
  ++ (if report.limitReached then
      s!"\nStopped after {report.executed.toNat} steps: run limit reached."
    else "")
  ++ s!"\nPointer at [{report.dataPointer}]: {report.cell.toInt}"

end StepReport

end TapeDebugger

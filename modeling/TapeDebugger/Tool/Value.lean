import TapeDebugger.Json.Render
import TapeDebugger.Machine.Snapshot
import TapeDebugger.Session.Report
import TapeDebugger.Tool.Datum

/-!
# What a tool call returns

The value of a call is a text, a report of the session or a dynamic value. Each
has a JSON form and a text for a reader. A report that an operation did not make
has the form of a blank one: empty texts, zeros, and no window.
-/

namespace TapeDebugger

/-- The JSON form of a load report. -/
def LoadReport.toJson (report : LoadReport) : Json :=
  .object [
    ("status", .string report.status.name),
    ("programLength", .nat report.programLength),
    ("tapeSize", .nat report.tapeSize),
    ("minValue", .int report.minValue.toInt),
    ("maxValue", .int report.maxValue.toInt)]

/-- The JSON form of a load report that was not made. -/
def LoadReport.blankJson : Json :=
  .object [("status", .string ""), ("programLength", .nat 0), ("tapeSize", .nat 0),
    ("minValue", .nat 0), ("maxValue", .nat 0)]

/-- The JSON form of a step report; the limit is mentioned only when reached. -/
def StepReport.toJson (report : StepReport) : Json :=
  .object ([
    ("status", .string report.status.name),
    ("executed", .nat report.executed.toNat),
    ("totalSteps", .nat report.totalSteps.toNat),
    ("dataPointer", .nat report.dataPointer),
    ("cell", .int report.cell.toInt),
    ("output", .string report.output)]
    ++ (if report.limitReached then [("limitReached", .bool true)] else [])
    ++ [("summary", .string (report.summary statusLabel))])

/-- The JSON form of a step report that was not made. -/
def StepReport.blankJson : Json :=
  .object [("status", .string ""), ("executed", .nat 0), ("totalSteps", .nat 0),
    ("dataPointer", .nat 0), ("cell", .nat 0), ("output", .string ""), ("summary", .string "")]

/-- The JSON form of a snapshot. -/
def Snapshot.toJson (snapshot : Snapshot) : Json :=
  .object [
    ("status", .string snapshot.status.name),
    ("instructionPointer", .nat snapshot.instructionPointer),
    ("dataPointer", .nat snapshot.dataPointer),
    ("tapeWindow", .array (snapshot.window.toList.map fun cell => .int cell.toInt)),
    ("tapeWindowStartIndex", .nat snapshot.windowStart),
    ("output", .string snapshot.output),
    ("inputBufferLength", .nat snapshot.inputLength),
    ("nextInstruction", .string snapshot.nextInstruction),
    ("totalSteps", .nat snapshot.totalSteps.toNat)]

/-- The JSON form of a snapshot that was not taken. -/
def Snapshot.blankJson : Json :=
  .object [("status", .string ""), ("instructionPointer", .nat 0), ("dataPointer", .nat 0),
    ("tapeWindow", .null), ("tapeWindowStartIndex", .nat 0), ("output", .string ""),
    ("inputBufferLength", .nat 0), ("nextInstruction", .string ""), ("totalSteps", .nat 0)]

/-- The value of a tool call. -/
inductive ToolValue where
  /-- No value. -/
  | absent
  | text (text : String)
  | load (report : LoadReport)
  | step (report : Option StepReport)
  | state (snapshot : Option Snapshot)
  | datum (value : Datum)

namespace ToolValue

/-- A dynamic value as the value of a call: `null` is none, and a text is one. -/
def ofDatum : Datum → ToolValue
  | .null => .absent
  | .text value => .text value
  | value => .datum value

/-- Whether the value has more structure than a text. -/
def isStructured : ToolValue → Bool
  | absent | text _ => false
  | _ => true

/-- The JSON form of a value. -/
def toJson : ToolValue → Except EncodeFault Json
  | absent => .ok .null
  | text value => .ok (.string value)
  | load report => .ok report.toJson
  | step report => .ok ((report.map StepReport.toJson).getD StepReport.blankJson)
  | state snapshot => .ok ((snapshot.map Snapshot.toJson).getD Snapshot.blankJson)
  | datum value => value.toJson

/-- The text of a value for a reader: texts as they are, reports by their
summaries, and everything else as indented JSON. -/
def render : ToolValue → Except EncodeFault String
  | absent => .ok ""
  | text value => .ok value
  | load _ => .ok LoadReport.summary
  | step report => .ok ((report.map (StepReport.summary statusLabel)).getD "")
  | datum (.literal written) => .ok written
  | value => value.toJson.map Json.indented

end ToolValue

end TapeDebugger

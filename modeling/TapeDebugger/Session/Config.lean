import TapeDebugger.Tape

/-!
# Session configuration

The settings a session is made from. `SessionConfig.problems` lists everything
wrong with them; a session is only made when the list is empty.
-/

namespace TapeDebugger

/-- Settings that a single load may override. -/
structure TapeOverrides where
  /-- The number of cells; zero leaves the configured one. -/
  size : Int64 := 0
  minValue : Option Int64 := none
  maxValue : Option Int64 := none
deriving Repr, DecidableEq

/-- The settings of a session. -/
structure SessionConfig where
  /-- The number of cells; zero stands for the standard size. -/
  tapeSize : Int64 := 0
  /-- The least cell value, unless the safe-integer bound is meant. -/
  minValue : Option Int64 := none
  /-- The greatest cell value, unless the safe-integer bound is meant. -/
  maxValue : Option Int64 := none
  /-- The radius shown when a caller asks for none; without it the whole tape. -/
  defaultWindowRadius : Option Int64 := none
  /-- How many instructions a run executes between two polls of its context;
  zero stands for the default. -/
  runChunk : Int64 := 0
  /-- The most instructions one run executes; zero is no cap. -/
  maxRunSteps : Int64 := 0
  /-- How many records are retained; zero stands for the default, and a
  negative size retains none. -/
  historySize : Int64 := 0
deriving Repr, DecidableEq

/-- Something wrong with a session configuration. -/
inductive ConfigProblem where
  | negativeTapeSize (size : Int64)
  | negativeRunChunk (chunk : Int64)
  | negativeMaxRunSteps (steps : Int64)
  | negativeWindowRadius (radius : Int64)
  | unusableTape (fault : TapeFault)
deriving Repr, DecidableEq

/-- How a problem is reported. -/
def ConfigProblem.message : ConfigProblem → String
  | negativeTapeSize size => s!"TapeSize must not be negative (got {size.toInt})"
  | negativeRunChunk chunk => s!"RunChunk must not be negative (got {chunk.toInt})"
  | negativeMaxRunSteps steps => s!"MaxRunSteps must not be negative (got {steps.toInt})"
  | negativeWindowRadius radius =>
    s!"DefaultWindowRadius must not be negative (got {radius.toInt})"
  | unusableTape fault => fault.message

/-- A refused configuration: its first problem and the others. -/
structure ConfigFault where
  first : ConfigProblem
  others : List ConfigProblem
deriving Repr, DecidableEq

/-- How a refused configuration is reported, problem by problem. -/
def ConfigFault.message (fault : ConfigFault) : String :=
  "configuration error: "
    ++ String.intercalate "; " ((fault.first :: fault.others).map ConfigProblem.message)

namespace SessionConfig

/-- The instructions between two polls unless configured. -/
def defaultRunChunk : Int64 := 1000000

/-- The records retained unless configured. -/
def defaultHistorySize : Int64 := 64

/-- The tape of a load: an override counts before the configuration, and that
before the standard settings. -/
def tapeSettings (config : SessionConfig) (overrides : TapeOverrides) : TapeSettings where
  size :=
    if overrides.size ≠ 0 then overrides.size
    else if config.tapeSize ≠ 0 then config.tapeSize
    else TapeSettings.defaultSize
  minValue := (overrides.minValue.or config.minValue).getD TapeSettings.minSafeInteger
  maxValue := (overrides.maxValue.or config.maxValue).getD TapeSettings.maxSafeInteger

/-- The numbers that must not be negative and are. -/
def negativeNumbers (config : SessionConfig) : List ConfigProblem :=
  (if config.tapeSize < 0 then [.negativeTapeSize config.tapeSize] else [])
  ++ (if config.runChunk < 0 then [.negativeRunChunk config.runChunk] else [])
  ++ (if config.maxRunSteps < 0 then [.negativeMaxRunSteps config.maxRunSteps] else [])
  ++ (match config.defaultWindowRadius with
    | some radius => if radius < 0 then [.negativeWindowRadius radius] else []
    | none => [])

/-- Check a configuration and give the limits of its tape. The tape is looked
at only when no number is negative. -/
def check (config : SessionConfig) : Except ConfigFault TapeLimits :=
  match config.negativeNumbers with
  | first :: others => .error { first, others }
  | [] =>
    match (config.tapeSettings {}).check with
    | .ok limits => .ok limits
    | .error fault => .error { first := .unusableTape fault, others := [] }

/-- Replace zeros by the defaults they stand for. -/
def withDefaults (config : SessionConfig) : SessionConfig :=
  { config with
    runChunk := if config.runChunk = 0 then defaultRunChunk else config.runChunk
    historySize := if config.historySize = 0 then defaultHistorySize else config.historySize }

end SessionConfig

end TapeDebugger

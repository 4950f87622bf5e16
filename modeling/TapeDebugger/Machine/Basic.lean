import TapeDebugger.Program
import TapeDebugger.Status
import TapeDebugger.Tape
import TapeDebugger.Text.Utf8

/-!
# The machine

One program with its tape, input and output. The operations of this module
prepare a machine: none of them executes an instruction.
-/

namespace TapeDebugger

/-- An execution context of the tape language. -/
structure Machine where
  /-- Size and bounds of the tape, fixed for the life of the machine. -/
  limits : TapeLimits
  program : Program
  tape : Tape
  /-- The position of the next instruction. -/
  instructionPointer : Nat
  /-- Characters buffered for reading, next first. -/
  input : List Char
  /-- Everything written since the program was loaded. -/
  output : String
  /-- Instructions executed since the program was loaded. -/
  steps : UInt64
  status : Status
deriving DecidableEq

namespace Machine

/-- An idle machine. -/
def new (limits : TapeLimits) : Machine where
  limits
  program := .empty
  tape := .blank limits.size
  instructionPointer := 0
  input := []
  output := ""
  steps := 0
  status := .ready

/-- Discard the program and all execution state, keeping size and bounds. -/
def reset (machine : Machine) : Machine :=
  { machine with
    program := .empty
    tape := .blank machine.tape.size
    instructionPointer := 0
    input := []
    output := ""
    steps := 0
    status := .ready }

/-- Reset the machine, compile a source and fill the input buffer. A source
that does not compile leaves a blank machine with its status set. -/
def load (machine : Machine) (source input : List UInt8) : Machine × Option UnmatchedBracket :=
  let blank := machine.reset
  match Program.compile source with
  | .error unmatched => ({ blank with status := .parserError }, some unmatched)
  | .ok program =>
    ({ blank with
      program
      input := Utf8.decode input
      status := if program.length = 0 then .finished else .running }, none)

/-- Append to the input buffer. A waiting machine becomes running even when
nothing is added; it waits again at its next step if the buffer is empty. -/
def addInput (machine : Machine) (input : List UInt8) : Machine :=
  { machine with
    input := machine.input ++ Utf8.decode input
    status := if machine.status = .waitingForInput then .running else machine.status }

/-- The value under the data pointer. -/
def cell (machine : Machine) : Int64 :=
  machine.tape.current

/-- The number of instructions of the loaded program. -/
def programLength (machine : Machine) : Nat :=
  machine.program.length

end Machine

end TapeDebugger

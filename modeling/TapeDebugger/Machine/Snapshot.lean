import TapeDebugger.Machine.Basic

/-!
# Snapshots

A snapshot shows a machine with a contiguous window of its tape. Windows never
wrap around the tape, always hold the cell under the data pointer, and are
exact for every radius, however large.
-/

namespace TapeDebugger

/-- A read-only view of a machine. -/
structure Snapshot where
  status : Status
  instructionPointer : Nat
  dataPointer : Nat
  /-- The cells from `windowStart` on. -/
  window : Array Int64
  windowStart : Nat
  output : String
  /-- How many characters are buffered; they are not shown. -/
  inputLength : Nat
  nextInstruction : String
  totalSteps : UInt64
deriving Repr, DecidableEq

namespace Machine

/-- Show the cells from `start` up to but not including `stop`. -/
def snapshotBetween (machine : Machine) (start stop : Nat) : Snapshot where
  status := machine.status
  instructionPointer := machine.instructionPointer
  dataPointer := machine.tape.pointer
  window := machine.tape.window start stop
  windowStart := start
  output := machine.output
  inputLength := machine.input.length
  nextInstruction := machine.program.nextText machine.instructionPointer
  totalSteps := machine.steps

/-- Show the whole tape. -/
def snapshot (machine : Machine) : Snapshot :=
  machine.snapshotBetween 0 machine.tape.size

/-- Show the cells within `radius` of the data pointer, as far as the tape
reaches. A negative radius counts as zero. -/
def snapshotAround (machine : Machine) (radius : Int64) : Snapshot :=
  let reach := radius.toNatClampNeg
  let pointer := machine.tape.pointer
  machine.snapshotBetween (pointer - reach) (min machine.tape.size (pointer + reach + 1))

end Machine

/-- The value of a cell of the tape if the window holds it. The offset into the
window is computed in 64-bit arithmetic, which wraps. -/
def Snapshot.cell? (snapshot : Snapshot) (index : Int64) : Option Int64 :=
  let offset := index - Int64.ofNat snapshot.windowStart
  if offset < 0 then none else snapshot.window[offset.toNatClampNeg]?

end TapeDebugger

import TapeDebugger.Machine.Basic

/-!
# Execution

`Machine.executeOne` is the authoritative meaning of an instruction: either the
instruction is executed and counted, or the machine stops before it with nothing
but its status changed. Everything else repeats it, within a budget (`execute`,
`step`) or until the machine stops (`run?`).
-/

namespace TapeDebugger

/-- The character that `.` writes for a cell value: the value itself when it is
a Unicode scalar value, and otherwise its remainder modulo 256. -/
def outputChar (value : Int64) : Char :=
  let code := value.toInt
  if 0 ≤ code then
    match Utf8.scalar? code.toNat with
    | some character => character
    | none => Char.ofNat (code % 256).toNat
  else Char.ofNat (code % 256).toNat

namespace Machine

/-- What became of an attempt to execute one instruction. -/
inductive Transition where
  /-- The instruction was executed and counted. -/
  | executed (next : Machine)
  /-- The machine stopped in front of the instruction. -/
  | stopped (final : Machine)

/-- Count one instruction and go on at `position`. -/
@[inline]
def proceed (machine : Machine) (position : Nat) : Machine :=
  { machine with instructionPointer := position, steps := machine.steps + 1 }

/-- Stop in front of the next instruction. -/
@[inline]
def stop (machine : Machine) (status : Status) : Transition :=
  .stopped { machine with status }

/-- Execute the next instruction, or stop in front of it. -/
def executeOne (machine : Machine) : Transition :=
  let position := machine.instructionPointer
  match machine.program.instruction? position with
  | none => machine.stop .finished
  | some .moveRight =>
    .executed ({ machine with tape := machine.tape.moveRight }.proceed (position + 1))
  | some .moveLeft =>
    .executed ({ machine with tape := machine.tape.moveLeft }.proceed (position + 1))
  | some .increment =>
    let value := machine.tape.current
    if machine.limits.maxValue ≤ value then machine.stop .overflowError
    else .executed ({ machine with tape := machine.tape.store (value + 1) }.proceed (position + 1))
  | some .decrement =>
    let value := machine.tape.current
    if value ≤ machine.limits.minValue then machine.stop .underflowError
    else .executed ({ machine with tape := machine.tape.store (value - 1) }.proceed (position + 1))
  | some .write =>
    let character := outputChar machine.tape.current
    .executed ({ machine with output := machine.output.push character }.proceed (position + 1))
  | some .read =>
    match machine.input with
    | [] => machine.stop .waitingForInput
    | character :: rest =>
      let tape := machine.tape.store (Int64.ofNat character.toNat)
      .executed ({ machine with tape, input := rest }.proceed (position + 1))
  | some .loopStart =>
    if machine.tape.current = 0 then
      .executed (machine.proceed (machine.program.partner position + 1))
    else .executed (machine.proceed (position + 1))
  | some .loopEnd =>
    if machine.tape.current = 0 then .executed (machine.proceed (position + 1))
    else .executed (machine.proceed (machine.program.partner position + 1))

/-- Execute at most `budget` instructions of a running machine. -/
def execute : (budget : Nat) → Machine → Machine
  | 0, machine => machine
  | budget + 1, machine =>
    match machine.executeOne with
    | .executed next => execute budget next
    | .stopped final => final

/-- Whether execution may go on: not from a terminal status, and not from
waiting while the input buffer is empty. -/
def canProceed (machine : Machine) : Bool :=
  !machine.status.isTerminal && !(machine.status == .waitingForInput && machine.input.isEmpty)

/-- Execute at most `budget` instructions if execution may go on. -/
def advance (machine : Machine) (budget : Nat) : Machine :=
  if machine.canProceed then execute budget { machine with status := .running } else machine

/-- Execute at most `count` instructions; a count below one executes nothing
and leaves the status alone. -/
def step (machine : Machine) (count : Int64) : Machine :=
  if count ≤ 0 then machine else machine.advance count.toNatClampNeg

/-- Execute until the machine stops, giving up when `fuel` instructions were
not enough. -/
def run? (fuel : Nat) (machine : Machine) : Option Machine :=
  let result := machine.advance fuel
  if result.status = .running then none else some result

end Machine

end TapeDebugger

import TapeDebugger.Machine.Snapshot
import TapeDebugger.Proofs.Machine.Integrity
import TapeDebugger.Proofs.Word

/-!
# Checked access

`Checked` repeats execution and snapshots with a check before every access: it reports a
`Violation` where the total definitions would fall back on a default value or wrap. On an
intact machine nothing is ever reported, and the results are those of the total
definitions, instruction by instruction (`Checked.executeOne_eq_ok`) and for executions of
any length (`Checked.advance_eq_ok`).
-/

namespace TapeDebugger

open Machine

/-- What a machine must never attempt. -/
inductive Violation where
  /-- Access at an index that an array does not have. -/
  | outOfRange (index size : Nat)
  /-- A slice that is not part of an array. -/
  | badSlice (start stop size : Nat)
  /-- A jump from a bracket that has no partner. -/
  | unpaired (position : Nat)
  /-- A pointer moved modulo zero. -/
  | emptyTape
  /-- A cell counted out of its 64 bits. -/
  | wrapped (exact : Int)
deriving Repr, DecidableEq

namespace Checked

section Primitives

variable {α : Type}

/-- The element at an index. -/
def fetch (array : Array α) (index : Nat) : Except Violation α :=
  if inside : index < array.size then .ok array[index]
  else .error (.outOfRange index array.size)

/-- Replace the element at an index. -/
def put (array : Array α) (index : Nat) (value : α) : Except Violation (Array α) :=
  if inside : index < array.size then .ok (array.set index value)
  else .error (.outOfRange index array.size)

/-- The elements from `start` up to but not including `stop`. -/
def slice (array : Array α) (start stop : Nat) : Except Violation (Array α) :=
  if start ≤ stop ∧ stop ≤ array.size then .ok (array.extract start stop)
  else .error (.badSlice start stop array.size)

/-- The remainder of a position modulo the size of the tape. -/
def wrapAround (position size : Nat) : Except Violation Nat :=
  if size = 0 then .error .emptyTape else .ok (position % size)

/-- A word that stands for the number `exact`. -/
def exactly (word : Int64) (exact : Int) : Except Violation Int64 :=
  if word.toInt = exact then .ok word else .error (.wrapped exact)

/-- An element that is there is fetched. -/
theorem fetch_eq_ok {array : Array α} {index : Nat} {value : α}
    (present : array[index]? = some value) : fetch array index = .ok value := by
  obtain ⟨inside, found⟩ := Array.getElem?_eq_some_iff.mp present
  rw [fetch, dif_pos inside, found]

end Primitives

/-- The value under the data pointer. -/
def current (tape : Tape) : Except Violation Int64 :=
  fetch tape.cells tape.pointer

/-- Replace the value under the data pointer. -/
def store (tape : Tape) (value : Int64) : Except Violation Tape := do
  return { tape with cells := ← put tape.cells tape.pointer value }

/-- Move the pointer one cell up. -/
def moveRight (tape : Tape) : Except Violation Tape := do
  return { tape with pointer := ← wrapAround (tape.pointer + 1) tape.cells.size }

/-- Move the pointer one cell down. -/
def moveLeft (tape : Tape) : Except Violation Tape := do
  return { tape with
    pointer := ← wrapAround (tape.pointer + tape.cells.size - 1) tape.cells.size }

/-- The position that the bracket at a position leads to. -/
def partner (program : Program) (position : Nat) : Except Violation Nat := do
  match ← fetch program.partners position with
  | some target => return target
  | none => .error (.unpaired position)

/-- The instruction at a position as it is shown to a reader. -/
def nextText (program : Program) (position : Nat) : Except Violation String :=
  if program.length ≤ position then .ok Program.endMark
  else do return (← fetch program.code position).symbol.toString

/-- Execute the next instruction, or stop in front of it. -/
def executeOne (machine : Machine) : Except Violation Transition :=
  let position := machine.instructionPointer
  if machine.program.length ≤ position then .ok (machine.stop .finished)
  else do
    match ← fetch machine.program.code position with
    | .moveRight =>
      let tape ← moveRight machine.tape
      return .executed ({ machine with tape }.proceed (position + 1))
    | .moveLeft =>
      let tape ← moveLeft machine.tape
      return .executed ({ machine with tape }.proceed (position + 1))
    | .increment =>
      let value ← current machine.tape
      if machine.limits.maxValue ≤ value then return machine.stop .overflowError
      let tape ← store machine.tape (← exactly (value + 1) (value.toInt + 1))
      return .executed ({ machine with tape }.proceed (position + 1))
    | .decrement =>
      let value ← current machine.tape
      if value ≤ machine.limits.minValue then return machine.stop .underflowError
      let tape ← store machine.tape (← exactly (value - 1) (value.toInt - 1))
      return .executed ({ machine with tape }.proceed (position + 1))
    | .write =>
      let character := outputChar (← current machine.tape)
      return .executed ({ machine with output := machine.output.push character }.proceed
        (position + 1))
    | .read =>
      match machine.input with
      | [] => return machine.stop .waitingForInput
      | character :: rest =>
        let tape ← store machine.tape (Int64.ofNat character.toNat)
        return .executed ({ machine with tape, input := rest }.proceed (position + 1))
    | .loopStart =>
      if (← current machine.tape) = 0 then
        return .executed (machine.proceed ((← partner machine.program position) + 1))
      else return .executed (machine.proceed (position + 1))
    | .loopEnd =>
      if (← current machine.tape) = 0 then return .executed (machine.proceed (position + 1))
      else return .executed (machine.proceed ((← partner machine.program position) + 1))

/-- Execute at most `budget` instructions of a running machine. -/
def execute : (budget : Nat) → Machine → Except Violation Machine
  | 0, machine => .ok machine
  | budget + 1, machine => do
    match ← executeOne machine with
    | .executed next => execute budget next
    | .stopped final => return final

/-- Execute at most `budget` instructions if execution may go on. -/
def advance (machine : Machine) (budget : Nat) : Except Violation Machine :=
  if machine.canProceed then execute budget { machine with status := .running }
  else .ok machine

/-- Show the cells from `start` up to but not including `stop`. -/
def snapshotBetween (machine : Machine) (start stop : Nat) : Except Violation Snapshot := do
  let window ← slice machine.tape.cells start stop
  let nextInstruction ← nextText machine.program machine.instructionPointer
  return { machine.snapshotBetween start stop with window, nextInstruction }

/-- Show the whole tape. -/
def snapshot (machine : Machine) : Except Violation Snapshot :=
  snapshotBetween machine 0 machine.tape.cells.size

/-- Show the cells within `radius` of the data pointer. -/
def snapshotAround (machine : Machine) (radius : Int64) : Except Violation Snapshot :=
  let reach := radius.toNatClampNeg
  let pointer := machine.tape.pointer
  snapshotBetween machine (pointer - reach) (min machine.tape.cells.size (pointer + reach + 1))

/-- A pointer behind the last cell is reported, although the tape would read zero there. -/
example : current ⟨#[7], 1⟩ = .error (.outOfRange 1 1) ∧ Tape.current ⟨#[7], 1⟩ = 0 :=
  ⟨rfl, rfl⟩

section Tape

variable {size : Nat} {tape : Tape}

/-- The current cell is on the tape. -/
theorem current_eq_ok (fits : tape.Fits size) : current tape = .ok tape.current := by
  have inside : tape.pointer < tape.cells.size := fits.size_cells ▸ fits.pointer_lt
  simp [current, fetch, Tape.current, inside]

/-- The cell that is stored is on the tape. -/
theorem store_eq_ok (fits : tape.Fits size) (value : Int64) :
    store tape value = .ok (tape.store value) := by
  have inside : tape.pointer < tape.cells.size := fits.size_cells ▸ fits.pointer_lt
  rw [store, put, dif_pos inside, Tape.store, Array.setIfInBounds, dif_pos inside]
  rfl

/-- A tape is never of length zero, so that positions on it wrap around. -/
theorem wrapAround_eq_ok (fits : tape.Fits size) (position : Nat) :
    wrapAround position tape.cells.size = .ok (position % tape.cells.size) := by
  have nonempty : tape.cells.size ≠ 0 := by
    have := fits.pointer_lt
    rw [fits.size_cells]
    omega
  rw [wrapAround, if_neg nonempty]

/-- Moving right divides by no zero. -/
theorem moveRight_eq_ok (fits : tape.Fits size) : moveRight tape = .ok tape.moveRight := by
  rw [moveRight, wrapAround_eq_ok fits]
  rfl

/-- Moving left divides by no zero. -/
theorem moveLeft_eq_ok (fits : tape.Fits size) : moveLeft tape = .ok tape.moveLeft := by
  rw [moveLeft, wrapAround_eq_ok fits]
  rfl

end Tape

/-- Counting a cell up below a bound is exact. -/
theorem exactly_add_one {value bound : Int64} (below : ¬ bound ≤ value) :
    exactly (value + 1) (value.toInt + 1) = .ok (value + 1) := by
  rw [exactly, if_pos (toInt_add_one (Int64.not_le.mp below))]

/-- Counting a cell down above a bound is exact. -/
theorem exactly_sub_one {value bound : Int64} (above : ¬ value ≤ bound) :
    exactly (value - 1) (value.toInt - 1) = .ok (value - 1) := by
  rw [exactly, if_pos (toInt_sub_one (Int64.not_le.mp above))]

section Machine

variable {machine : Machine}

/-- The bracket that is next has a partner in the table. -/
theorem partner_eq_ok (intact : machine.Intact) {bracket counterpart : Instruction}
    (present : machine.program.instruction? machine.instructionPointer = some bracket)
    (opposite : bracket.counterpart? = some counterpart) :
    partner machine.program machine.instructionPointer =
      .ok (machine.program.partner machine.instructionPointer) := by
  obtain ⟨target, entry, _⟩ := intact.paired.leads present opposite
  rw [Program.partner_of_partners entry, partner, fetch_eq_ok entry]
  rfl

/-- The text of the next instruction is fetched from inside the program. -/
theorem nextText_eq_ok (program : Program) (position : Nat) :
    nextText program position = .ok (program.nextText position) := by
  cases present : program.instruction? position with
  | none =>
      have past : program.length ≤ position := Array.getElem?_eq_none_iff.mp present
      simp [nextText, Program.nextText, present, past]
  | some instruction =>
      have inside := Nat.not_le.mpr (Program.lt_length_of_instruction? present)
      rw [nextText, if_neg inside, fetch_eq_ok present, Program.nextText, present]
      rfl

/-- On an intact machine no instruction violates anything. -/
theorem executeOne_eq_ok (intact : machine.Intact) :
    executeOne machine = .ok machine.executeOne := by
  have here := current_eq_ok intact.tape
  cases present : machine.program.instruction? machine.instructionPointer with
  | none =>
      have past : machine.program.length ≤ machine.instructionPointer :=
        Array.getElem?_eq_none_iff.mp present
      simp [executeOne, Machine.executeOne, present, past]
  | some instruction =>
      have inside := Nat.not_le.mpr (Program.lt_length_of_instruction? present)
      have fetched : fetch machine.program.code machine.instructionPointer = .ok instruction :=
        fetch_eq_ok present
      cases instruction <;>
        simp only [executeOne, Machine.executeOne, present, inside, fetched, ↓reduceIte, bind,
          Except.bind, pure, Except.pure]
      case moveRight => rw [moveRight_eq_ok intact.tape]
      case moveLeft => rw [moveLeft_eq_ok intact.tape]
      case write => rw [here]
      case increment =>
          by_cases full : machine.limits.maxValue ≤ machine.tape.current
          · simp [here, full]
          · simp [here, full, exactly_add_one full, store_eq_ok intact.tape]
      case decrement =>
          by_cases empty : machine.tape.current ≤ machine.limits.minValue
          · simp [here, empty]
          · simp [here, empty, exactly_sub_one empty, store_eq_ok intact.tape]
      case read =>
          cases machine.input with
          | nil => rfl
          | cons character rest => simp [store_eq_ok intact.tape]
      case loopStart =>
          by_cases zero : machine.tape.current = 0 <;>
            simp [here, zero, partner_eq_ok intact present rfl]
      case loopEnd =>
          by_cases zero : machine.tape.current = 0 <;>
            simp [here, zero, partner_eq_ok intact present rfl]

/-- Nor does any execution, since every instruction leaves the machine intact. -/
theorem execute_eq_ok (intact : machine.Intact) (budget : Nat) :
    execute budget machine = .ok (machine.execute budget) := by
  induction budget generalizing machine with
  | zero => rfl
  | succ budget inductionHypothesis =>
      rw [execute, executeOne_eq_ok intact]
      cases attempt : machine.executeOne with
      | executed next =>
          obtain ⟨instruction, present, effect⟩ := executeOne_eq_executed_iff.mp attempt
          have continued := inductionHypothesis (intact.effect present effect)
          simpa [Machine.execute, attempt, bind, Except.bind] using continued
      | stopped final => simp [Machine.execute, attempt, bind, Except.bind, pure, Except.pure]

/-- An intact machine advances without a violation, as the total definitions say. -/
theorem advance_eq_ok (intact : machine.Intact) (budget : Nat) :
    advance machine budget = .ok (machine.advance budget) := by
  rw [advance, Machine.advance]
  split
  · exact execute_eq_ok (intact.withStatus .running) budget
  · rfl

/-- A window on the tape is shown without a violation. -/
theorem snapshotBetween_eq_ok {start stop : Nat} (ordered : start ≤ stop)
    (within : stop ≤ machine.tape.cells.size) :
    snapshotBetween machine start stop = .ok (machine.snapshotBetween start stop) := by
  rw [snapshotBetween, slice, if_pos ⟨ordered, within⟩, nextText_eq_ok]
  rfl

/-- A snapshot of an intact machine reads inside its tape, whatever the radius is. -/
theorem snapshotAround_eq_ok (intact : machine.Intact) (radius : Int64) :
    snapshotAround machine radius = .ok (machine.snapshotAround radius) := by
  have inside : machine.tape.pointer < machine.tape.cells.size :=
    intact.tape.size_cells ▸ intact.tape.pointer_lt
  exact snapshotBetween_eq_ok (by omega) (Nat.min_le_left ..)

end Machine

end Checked

/-- Every reachable machine has a tape of the configured size with the data pointer on it, an
instruction pointer that is in the program or at its end, and a table in which every bracket
leads to a counterpart. Hence no execution of any length, no snapshot and no look at the
current cell or the next instruction violates anything. -/
theorem reachable_violates_nothing (limits : TapeLimits) {machine : Machine}
    (reachable : Reachable limits machine) :
    (machine.tape.Fits limits.size ∧ machine.instructionPointer ≤ machine.program.length ∧
      machine.program.Paired) ∧
    (∀ budget, Checked.advance machine budget = .ok (machine.advance budget)) ∧
    Checked.current machine.tape = .ok machine.cell ∧
    Checked.nextText machine.program machine.instructionPointer =
      .ok (machine.program.nextText machine.instructionPointer) ∧
    Checked.snapshot machine = .ok machine.snapshot ∧
    ∀ radius, Checked.snapshotAround machine radius = .ok (machine.snapshotAround radius) := by
  have intact := Intact.of_reachable reachable
  have fits : machine.tape.Fits limits.size := reachable.limits_eq ▸ intact.tape
  refine ⟨⟨fits, intact.instructionPointer_le, intact.paired⟩, ?_⟩
  exact ⟨Checked.advance_eq_ok intact, Checked.current_eq_ok intact.tape,
    Checked.nextText_eq_ok _ _, Checked.snapshotBetween_eq_ok (Nat.zero_le _) (Nat.le_refl _),
    Checked.snapshotAround_eq_ok intact⟩

/-- With the widest bounds, `<-[+].` goes around the tape, below zero and back through its
loop. -/
theorem reachable_violates_nothing_widest :
    ∃ machine, Reachable ⟨2, Int64.minValue, Int64.maxValue, by decide, by decide, by decide⟩
        machine ∧
      machine.tape = ⟨#[0, -1], 1⟩ ∧ Checked.advance machine 10 = .ok (machine.advance 10) ∧
      (machine.advance 10).status = .finished := by
  have reachable : Reachable
      ⟨2, Int64.minValue, Int64.maxValue, by decide, by decide, by decide⟩ _ :=
    ⟨[.load [60, 45, 91, 43, 93, 46] [], .command (.step 2)], .cons rfl (.cons rfl .nil)⟩
  refine ⟨_, reachable, ?_, (reachable_violates_nothing _ reachable).2.1 10, ?_⟩
  · decide +kernel
  · decide +kernel

end TapeDebugger

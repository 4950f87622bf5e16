import TapeDebugger.Proofs.Machine.Calls
import TapeDebugger.Proofs.Program.Pairing

/-!
# Integrity of the machine

The definitions of execution are total: a cell that is not there reads as zero, a bracket
without partner is its own. None of this is ever made use of. `Machine.Intact` says what
keeps a machine from it, every instruction and every call keeps a machine intact, and so
every reachable machine is.
-/

namespace TapeDebugger

/-- The tape has `size` cells and the data pointer is on one of them. -/
structure Tape.Fits (size : Nat) (tape : Tape) : Prop where
  size_cells : tape.cells.size = size
  pointer_lt : tape.pointer < size

namespace Tape.Fits

variable {size : Nat} {tape : Tape}

/-- A blank tape starts with the data pointer on its first cell. -/
theorem blank (positive : 0 < size) : (Tape.blank size).Fits size where
  size_cells := by simp [Tape.blank]
  pointer_lt := positive

/-- Storing a cell leaves the length of the tape. -/
theorem store (fits : tape.Fits size) (value : Int64) : (tape.store value).Fits size where
  size_cells := by simpa [Tape.store] using fits.size_cells
  pointer_lt := fits.pointer_lt

/-- Moving right wraps around at the last cell. -/
theorem moveRight (fits : tape.Fits size) : tape.moveRight.Fits size where
  size_cells := fits.size_cells
  pointer_lt := by
    rw [Tape.moveRight, fits.size_cells]
    exact Nat.mod_lt _ (Nat.zero_lt_of_lt fits.pointer_lt)

/-- Moving left wraps around at the first cell. -/
theorem moveLeft (fits : tape.Fits size) : tape.moveLeft.Fits size where
  size_cells := fits.size_cells
  pointer_lt := by
    rw [Tape.moveLeft, fits.size_cells]
    exact Nat.mod_lt _ (Nat.zero_lt_of_lt fits.pointer_lt)

end Tape.Fits

namespace Machine

/-- The tape has the configured size with the data pointer on it, the instruction pointer is
in the program or at its end, and the brackets of the program lead to each other. -/
structure Intact (machine : Machine) : Prop where
  tape : machine.tape.Fits machine.limits.size
  instructionPointer_le : machine.instructionPointer ≤ machine.program.length
  paired : machine.program.Paired

namespace Intact

variable {machine next : Machine}

/-- The partner of the bracket that is next stands in the program. -/
theorem partner_lt (intact : machine.Intact) {bracket counterpart : Instruction}
    (present : machine.program.instruction? machine.instructionPointer = some bracket)
    (opposite : bracket.counterpart? = some counterpart) :
    machine.program.partner machine.instructionPointer < machine.program.length := by
  obtain ⟨target, entry, found⟩ := intact.paired.leads present opposite
  rw [Program.partner_of_partners entry]
  exact Program.lt_length_of_instruction? found

/-- Every instruction leaves the machine intact. -/
theorem effect {instruction : Instruction} (intact : machine.Intact)
    (present : machine.program.instruction? machine.instructionPointer = some instruction)
    (effect : Effect machine instruction next) : next.Intact := by
  have following : machine.instructionPointer + 1 ≤ machine.program.length :=
    Program.lt_length_of_instruction? present
  cases effect with
  | moveRight => exact ⟨intact.tape.moveRight, following, intact.paired⟩
  | moveLeft => exact ⟨intact.tape.moveLeft, following, intact.paired⟩
  | increment _ | decrement _ | read _ =>
      exact ⟨intact.tape.store _, following, intact.paired⟩
  | write | enter _ | leave _ => exact ⟨intact.tape, following, intact.paired⟩
  | skip _ | again _ => exact ⟨intact.tape, intact.partner_lt present rfl, intact.paired⟩

/-- So does any number of instructions. -/
theorem executes {count : Nat} (intact : machine.Intact)
    (execution : Executes count machine next) : next.Intact :=
  execution.preserves Intact (fun holds present effect => holds.effect present effect) intact

/-- The status has no part in integrity. -/
theorem withStatus (intact : machine.Intact) (status : Status) :
    { machine with status }.Intact :=
  ⟨intact.tape, intact.instructionPointer_le, intact.paired⟩

/-- Advancing leaves the machine intact, whether it uses its budget up or not. -/
theorem advance (intact : machine.Intact) (budget : Nat) : (machine.advance budget).Intact :=
  advance_preserves Intact (fun status holds => holds.withStatus status)
    (fun holds present effect => holds.effect present effect) intact budget

/-- A new machine is intact. -/
theorem new (limits : TapeLimits) : (Machine.new limits).Intact where
  tape := .blank limits.size_pos
  instructionPointer_le := Nat.zero_le _
  paired := Program.paired_empty

/-- Resetting keeps the tape at its size. -/
theorem reset (intact : machine.Intact) : machine.reset.Intact where
  tape := by
    have sized : machine.tape.size = machine.limits.size := intact.tape.size_cells
    rw [Machine.reset, sized]
    exact .blank machine.limits.size_pos
  instructionPointer_le := Nat.zero_le _
  paired := Program.paired_empty

/-- Whatever is loaded, the machine is intact, also when the source does not compile. -/
theorem load (intact : machine.Intact) (source input : List UInt8) :
    (machine.load source input).1.Intact := by
  rw [Machine.load]
  cases compiled : Program.compile source with
  | error unmatched => exact intact.reset.withStatus .parserError
  | ok program => exact ⟨intact.reset.tape, Nat.zero_le _, Program.paired_of_compile compiled⟩

/-- Every call leaves the machine intact. -/
theorem call {call : Call} (intact : machine.Intact) (returned : call.Returns machine next) :
    next.Intact := by
  cases call with
  | load source input =>
      obtain rfl : next = (machine.load source input).1 := returned
      exact intact.load source input
  | reset =>
      obtain rfl : next = machine.reset := returned
      exact intact.reset
  | command given =>
      rcases Command.Returns.cases returned with rfl | ⟨budget, rfl⟩ | ⟨input, rfl, rfl⟩
      · exact intact
      · exact intact.advance budget
      · exact ⟨intact.tape, intact.instructionPointer_le, intact.paired⟩

/-- Every reachable machine is intact. -/
theorem of_reachable {limits : TapeLimits} (reachable : Reachable limits machine) :
    machine.Intact := by
  obtain ⟨calls, performed⟩ := reachable
  exact performed.preserves Intact (fun _ _ _ _ returned holds => holds.call returned)
    (Intact.new limits)

end Intact

section FreshStart

variable {machine : Machine}

/-- A reset leaves the new machine of the same limits. -/
theorem reset_eq_new (intact : machine.Intact) : machine.reset = .new machine.limits := by
  have sized : machine.tape.size = machine.limits.size := intact.tape.size_cells
  rw [reset, new, sized]

/-- A load leaves, and reports, what it does on the new machine of the same limits. -/
theorem load_eq_load_new (intact : machine.Intact) (source input : List UInt8) :
    machine.load source input = (new machine.limits).load source input := by
  have blank : (new machine.limits).reset = new machine.limits := reset_eq_new (Intact.new _)
  rw [load, reset_eq_new intact, load, blank]

/-- A source that does not compile leaves a new machine with its status set. -/
theorem load_new_of_unmatched {limits : TapeLimits} {source input : List UInt8}
    {bracket : UnmatchedBracket} (failed : ((new limits).load source input).2 = some bracket) :
    ((new limits).load source input).1 = { new limits with status := .parserError } := by
  have blank : (new limits).reset = new limits := reset_eq_new (Intact.new _)
  rw [load, blank] at failed ⊢
  cases compiled : Program.compile source with
  | error unmatched => rfl
  | ok program => simp [compiled] at failed

end FreshStart

end Machine

end TapeDebugger

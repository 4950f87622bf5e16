import TapeDebugger.Proofs.Machine.Integrity
import TapeDebugger.Proofs.Word

/-!
# What a status says

The status is stored beside the rest of the machine and assigned in many places.
`Machine.Truthful` says what each status promises about the rest, and every call leaves a
machine that keeps the promise of its status. A machine that may not go on stays as it is:
one that has stopped for good takes nothing but input, and one that waits goes on only when
it is given some or gets another program.
-/

namespace TapeDebugger

namespace Machine

/-- The machine holds no program and has executed nothing. Input may be buffered. -/
structure Idle (machine : Machine) : Prop where
  program_eq : machine.program = .empty
  tape_eq : machine.tape = .blank machine.limits.size
  instructionPointer_eq : machine.instructionPointer = 0
  output_eq : machine.output = ""
  steps_eq : machine.steps = 0

/-- What the status says about the machine holds. -/
def Truthful (machine : Machine) : Prop :=
  match machine.status with
  | .ready | .parserError => machine.Idle
  | .running => 0 < machine.program.length
  | .waitingForInput =>
    machine.input = [] ∧
      machine.program.instruction? machine.instructionPointer = some .read
  | .finished => machine.instructionPointer = machine.program.length
  | .overflowError =>
    machine.program.instruction? machine.instructionPointer = some .increment ∧
      machine.limits.maxValue ≤ machine.cell
  | .underflowError =>
    machine.program.instruction? machine.instructionPointer = some .decrement ∧
      machine.cell ≤ machine.limits.minValue

variable {machine next final : Machine}

/-- A halt sets the status for which there is reason. -/
theorem Halt.truthful {status : Status} (halt : Halt machine status) (intact : machine.Intact) :
    Truthful { machine with status } := by
  cases halt with
  | finished past =>
      have passed : machine.program.length ≤ machine.instructionPointer :=
        Array.getElem?_eq_none_iff.mp past
      exact Nat.le_antisymm intact.instructionPointer_le passed
  | overflow present full => exact ⟨present, full⟩
  | underflow present empty => exact ⟨present, empty⟩
  | starved present drained => exact ⟨drained, present⟩

/-- A machine that has executed an instruction has a program. -/
theorem Executes.length_pos {count : Nat} (execution : Executes (count + 1) machine final) :
    0 < final.program.length := by
  rw [execution.program_eq]
  cases execution with
  | step executed _ =>
      obtain ⟨instruction, present, _⟩ := executeOne_eq_executed_iff.mp executed
      exact Nat.zero_lt_of_lt (Program.lt_length_of_instruction? present)

/-- A reset machine is idle: its tape has kept the configured size. -/
theorem idle_reset (intact : machine.Intact) : machine.reset.Idle where
  program_eq := rfl
  tape_eq := congrArg Tape.blank intact.tape.size_cells
  instructionPointer_eq := rfl
  output_eq := rfl
  steps_eq := rfl

namespace Truthful

/-- A running machine is truthful if it has a program. -/
theorem of_running (running : machine.status = .running)
    (nonempty : 0 < machine.program.length) : machine.Truthful := by
  rw [Truthful, running]
  exact nonempty

/-- A machine that waits has used its input up and is about to read. -/
theorem drained (truthful : machine.Truthful) (waiting : machine.status = .waitingForInput) :
    machine.input = [] ∧
      machine.program.instruction? machine.instructionPointer = some .read := by
  rwa [Truthful, waiting] at truthful

/-- An advance by some budget or to a stop leaves a truthful status. An advance by nothing
may not: it would leave an idle machine running. -/
theorem advance (truthful : machine.Truthful) (intact : machine.Intact) {budget : Nat}
    (effective : 0 < budget ∨ (machine.advance budget).status ≠ .running) :
    (machine.advance budget).Truthful := by
  rcases advance_cases machine budget with
    ⟨_, same, _⟩ | ⟨_, path, _⟩ | ⟨_, count, _, halted, _⟩
  · rwa [same]
  · have running : (machine.advance budget).status = .running := path.status_eq
    have positive : 0 < budget := effective.resolve_right (not_not_intro running)
    obtain ⟨rest, rfl⟩ := Nat.exists_eq_add_one.mpr positive
    exact of_running running path.length_pos
  · obtain ⟨last, status, path, halt, ended⟩ := halted.halted
    rw [ended]
    exact halt.truthful ((intact.withStatus .running).executes path)

/-- Only waiting says something about the input buffer. -/
theorem withInput (truthful : machine.Truthful) (awake : machine.status ≠ .waitingForInput)
    (input : List Char) : Truthful { machine with input } := by
  cases status : machine.status with
  | ready | parserError =>
      obtain ⟨program, tape, instructionPointer, output, steps⟩ : machine.Idle := by
        rwa [Truthful, status] at truthful
      exact ⟨program, tape, instructionPointer, output, steps⟩
  | waitingForInput => exact absurd status awake
  | running | finished | overflowError | underflowError =>
      rw [Truthful, status] at truthful
      exact truthful

/-- Input leaves a truthful status: it wakes a machine that waits, and changes no other status. -/
theorem addInput (truthful : machine.Truthful) (input : List UInt8) :
    (machine.addInput input).Truthful := by
  by_cases waiting : machine.status = .waitingForInput
  · obtain ⟨_, present⟩ := truthful.drained waiting
    exact of_running (by simp [Machine.addInput, waiting])
      (Nat.zero_lt_of_lt (Program.lt_length_of_instruction? present))
  · rw [Machine.addInput, if_neg waiting]
    exact truthful.withInput waiting _

/-- A load leaves a truthful status, whatever becomes of the source. -/
theorem load (intact : machine.Intact) (source input : List UInt8) :
    (machine.load source input).1.Truthful := by
  rw [Machine.load]
  cases Program.compile source with
  | error unmatched => exact ⟨rfl, (idle_reset intact).tape_eq, rfl, rfl, rfl⟩
  | ok program =>
      by_cases empty : program.length = 0
      · simp only [empty, ↓reduceIte]
        exact empty.symm
      · simp only [empty, ↓reduceIte]
        exact Nat.pos_of_ne_zero empty

/-- Every call leaves a truthful status. -/
theorem call {call : Call} (truthful : machine.Truthful) (intact : machine.Intact)
    (returned : call.Returns machine next) : next.Truthful := by
  cases call with
  | load source input =>
      obtain rfl : next = (machine.load source input).1 := returned
      exact load intact source input
  | reset =>
      obtain rfl : next = machine.reset := returned
      exact idle_reset intact
  | command given =>
      cases given with
      | step count =>
          obtain rfl : next = machine.step count := returned
          by_cases small : count ≤ 0
          · rwa [Machine.step, if_pos small]
          · have positive := Int64.not_le.mp small
            rw [step_of_pos positive]
            exact truthful.advance intact (.inl (toNatClampNeg_pos positive))
      | run =>
          obtain ⟨budget, rfl, stopped⟩ := runsTo_iff_advance.mp returned
          exact truthful.advance intact (.inr stopped)
      | addInput input =>
          obtain rfl : next = machine.addInput input := returned
          exact truthful.addInput input

/-- The status of every reachable machine is truthful. -/
theorem of_reachable {limits : TapeLimits} (reachable : Reachable limits machine) :
    machine.Truthful := by
  obtain ⟨calls, performed⟩ := reachable
  have both := performed.preserves (fun machine => machine.Intact ∧ machine.Truthful)
    (fun _ _ _ _ returned holds => ⟨holds.1.call returned, holds.2.call holds.1 returned⟩)
    ⟨Intact.new limits, ⟨rfl, rfl, rfl, rfl, rfl⟩⟩
  exact both.2

end Truthful

/-- A machine that may not go on is left alone by every command but input. -/
theorem returns_iff_of_blocked {command : Command} (blocked : machine.canProceed = false)
    (noInput : ∀ input, command ≠ .addInput input) :
    command.Returns machine final ↔ final = machine := by
  cases command with
  | step count => rw [Command.Returns, step_of_blocked blocked]
  | run => simp [Command.Returns, runsTo_iff, blocked]
  | addInput input => exact absurd rfl (noInput input)

/-- A machine that has stopped for good takes the input of a command and nothing else. -/
theorem returns_iff_of_isTerminal {command : Command}
    (terminal : machine.status.isTerminal = true) :
    command.Returns machine final ↔
      final = { machine with input := machine.input ++ command.characters } := by
  have blocked := blocked_of_isTerminal terminal
  cases command with
  | step count => simp [returns_iff_of_blocked blocked, Command.characters]
  | run => simp [returns_iff_of_blocked blocked, Command.characters]
  | addInput input =>
      have awake : machine.status ≠ .waitingForInput := by
        intro waiting
        rw [waiting] at terminal
        cases terminal
      rw [Command.Returns, Machine.addInput, if_neg awake]
      rfl

end Machine

open Machine

/-- From a machine that has stopped for good every sequence of commands returns, and adds its
input to the buffer. -/
theorem performs_iff_of_isTerminal (commands : List Command) {machine final : Machine}
    (terminal : machine.status.isTerminal = true) :
    Performs (commands.map .command) machine final ↔
      final = { machine with input := machine.input ++ commands.flatMap Command.characters } := by
  induction commands generalizing machine with
  | nil =>
      constructor
      · intro performed
        cases performed
        simp
      · intro same
        have unchanged : final = machine := by simpa using same
        rw [unchanged]
        exact .nil
  | cons command commands inductionHypothesis =>
      let next := { machine with input := machine.input ++ command.characters }
      have continued : Performs (commands.map .command) next final ↔
          final = { next with input := next.input ++ commands.flatMap Command.characters } :=
        inductionHypothesis terminal
      constructor
      · intro performed
        cases performed with
        | cons first rest =>
            obtain rfl := (returns_iff_of_isTerminal terminal).mp first
            simpa [next] using continued.mp rest
      · intro ended
        refine .cons ((returns_iff_of_isTerminal terminal).mpr rfl) (continued.mpr ?_)
        simpa [next] using ended

/-- The status of every reachable machine is truthful. A machine that has stopped for good
returns from every sequence of commands with nothing but its input buffer changed, and
waiting ends only with input, a load or a reset. -/
theorem reachable_status_truthful (limits : TapeLimits) {machine : Machine}
    (reachable : Reachable limits machine) :
    (machine.limits = limits ∧ machine.Truthful) ∧
    (machine.status.isTerminal = true → ∀ (commands : List Command) (final : Machine),
      Performs (commands.map .command) machine final ↔
        final = { machine with
          input := machine.input ++ commands.flatMap Command.characters }) ∧
    (machine.status = .waitingForInput → ∀ (call : Call) (final : Machine),
      call.Returns machine final → final.status ≠ .waitingForInput →
        (∃ input, call = .command (.addInput input)) ∨
          (∃ source input, call = .load source input) ∨ call = .reset) := by
  have truthful := Truthful.of_reachable reachable
  refine ⟨⟨reachable.limits_eq, truthful⟩, ?_, ?_⟩
  · intro terminal commands final
    exact performs_iff_of_isTerminal commands terminal
  · intro waiting call final returned left
    obtain ⟨drained, _⟩ := truthful.drained waiting
    have blocked : machine.canProceed = false := by simp [canProceed, waiting, drained]
    cases call with
    | load source input => exact .inr (.inl ⟨source, input, rfl⟩)
    | reset => exact .inr (.inr rfl)
    | command given =>
        by_cases adds : ∃ input, given = .addInput input
        · obtain ⟨input, rfl⟩ := adds
          exact .inl ⟨input, rfl⟩
        · have noInput : ∀ input, given ≠ .addInput input := by
            intro input same
            exact adds ⟨input, same⟩
          obtain rfl := (returns_iff_of_blocked blocked noInput).mp returned
          exact absurd waiting left

/-- With cells up to one, the second `+` of `++` overflows, and stepping, running and input
change nothing of that. -/
theorem reachable_status_truthful_overflow :
    ∃ machine final, Reachable ⟨1, 0, 1, by decide, by decide, by decide⟩ machine ∧
      machine.status = .overflowError ∧ machine.Truthful ∧
      Performs ([.addInput [65], .run, .step 3].map .command) machine final ∧
      (final.status, final.tape, final.instructionPointer, final.input, final.steps) =
        (.overflowError, ⟨#[1], 0⟩, 1, ['A'], 1) := by
  have reachable : Reachable ⟨1, 0, 1, by decide, by decide, by decide⟩ _ :=
    ⟨[.load [43, 43] [], .command (.step 5)], .cons rfl (.cons rfl .nil)⟩
  obtain ⟨⟨_, truthful⟩, absorbs, _⟩ := reachable_status_truthful _ reachable
  refine ⟨_, _, reachable, ?_, truthful,
    (absorbs ?_ [.addInput [65], .run, .step 3] _).mpr rfl, ?_⟩
  · decide +kernel
  · decide +kernel
  · decide +kernel

end TapeDebugger

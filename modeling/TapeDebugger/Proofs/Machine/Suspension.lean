import TapeDebugger.Proofs.Machine.Calls
import TapeDebugger.Proofs.Machine.Structured
import TapeDebugger.Proofs.Text.Utf8

/-!
# Suspending for input

A machine that runs out of input waits, and goes on where it waited once there is
more. Execution commutes with input that arrives later (`Executes.extend`,
`Halt.extend`), so however the input is cut up and whatever is executed in between,
supplying what is still outstanding leads to one and the same result
(`RunsTo.supply_advance`).
-/

namespace TapeDebugger

open Machine

namespace Machine

/-- The machine with more input buffered behind what it has. -/
def extend (machine : Machine) (more : List Char) : Machine :=
  { machine with input := machine.input ++ more }

/-- Supply characters the way `addInput` supplies those of a byte string. -/
def supply (machine : Machine) (more : List Char) : Machine :=
  { machine with
    input := machine.input ++ more
    status := if machine.status = .waitingForInput then .running else machine.status }

variable {machine next final : Machine} {more later : List Char}

/-- Input is supplied as the characters that it decodes to. -/
theorem addInput_eq_supply (machine : Machine) (input : List UInt8) :
    machine.addInput input = machine.supply (Utf8.decode input) :=
  rfl

/-- Two supplies are one supply of both. -/
theorem supply_supply : (machine.supply more).supply later = machine.supply (more ++ later) := by
  by_cases waiting : machine.status = .waitingForInput <;> simp [supply, waiting]

/-- A machine resumes with the input that was supplied. -/
theorem resume_supply : (machine.supply more).resume = machine.resume.extend more :=
  rfl

/-- Only a waiting machine changes its status for input. -/
theorem supply_of_status_ne (machine : Machine) (awake : machine.status ≠ .waitingForInput) :
    machine.supply more = machine.extend more := by
  simp [supply, extend, awake]

/-- More input does not keep a machine from going on. -/
theorem canProceed_supply (permitted : machine.canProceed = true) :
    (machine.supply more).canProceed = true := by
  simp only [canProceed, Bool.and_eq_true, Bool.not_eq_true'] at permitted ⊢
  by_cases waiting : machine.status = .waitingForInput
  · simp [supply, waiting, Status.isTerminal, Status.isError]
  · simp [supply, waiting, permitted.1]

/-- No instruction minds input that it does not reach. -/
theorem Effect.extend {instruction : Instruction} (effect : Effect machine instruction next)
    (more : List Char) :
    Effect (machine.extend more) instruction (next.extend more) := by
  cases effect with
  | moveRight => exact .moveRight
  | moveLeft => exact .moveLeft
  | increment below => exact .increment below
  | decrement above => exact .decrement above
  | write => exact .write
  | @read character rest buffered =>
      have stillBuffered : (machine.extend more).input = character :: (rest ++ more) := by
        simp [Machine.extend, buffered]
      exact .read stillBuffered
  | skip zero => exact .skip zero
  | enter nonzero => exact .enter nonzero
  | leave zero => exact .leave zero
  | again nonzero => exact .again nonzero

/-- Execution commutes with input that arrives later. -/
theorem Executes.extend {count : Nat} (execution : Executes count machine final)
    (more : List Char) :
    Executes count (machine.extend more) (final.extend more) := by
  induction execution with
  | refl => exact .refl
  | step executed _ inductionHypothesis =>
      obtain ⟨instruction, present, effect⟩ := executeOne_eq_executed_iff.mp executed
      exact .step (executeOne_eq_executed_iff.mpr ⟨instruction, present, effect.extend more⟩)
        inductionHypothesis

/-- A halt that is not for want of input stays one. -/
theorem Halt.extend {status : Status} (halt : Halt machine status)
    (awake : status ≠ .waitingForInput) (more : List Char) :
    Halt (machine.extend more) status := by
  cases halt with
  | finished past => exact .finished past
  | overflow next full => exact .overflow next full
  | underflow next empty => exact .underflow next empty
  | starved _ _ => exact absurd rfl awake

/-- Whatever is executed before outstanding input arrives, the result of supplying it
and running on stays the same. -/
theorem RunsTo.supply_advance (runs : (machine.supply more).RunsTo final) (budget : Nat) :
    ((machine.advance budget).supply more).RunsTo final := by
  rcases advance_cases machine budget with
    ⟨_, same, _⟩ | ⟨permitted, path, _⟩ | ⟨permitted, count, _, halted, _⟩
  · rwa [same]
  all_goals
    rcases runsTo_iff.mp runs with ⟨blocked, _⟩ | ⟨_, length, stops⟩
    · simp [canProceed_supply permitted] at blocked
    rw [resume_supply] at stops
  · have running : (machine.advance budget).status = .running := path.status_eq
    obtain ⟨rest, _, tail⟩ := stops.remainder (path.extend more)
    rw [supply_of_status_ne _ (by simp [running])]
    exact tail.runsTo running
  · obtain ⟨last, status, path, halt, ended⟩ := halted.halted
    have running : last.status = .running := path.status_eq
    obtain ⟨rest, _, tail⟩ := stops.remainder (path.extend more)
    rw [ended]
    by_cases waiting : status = .waitingForInput
    · have woken : { last with status }.supply more = last.extend more := by
        simp [supply, Machine.extend, waiting, running]
      rw [woken]
      exact tail.runsTo running
    · have stopped : Stops 0 (last.extend more) ({ last with status }.extend more) :=
        ⟨_, .refl, executeOne_eq_stopped_iff.mpr ⟨status, halt.extend waiting more, rfl⟩⟩
      rw [supply_of_status_ne { last with status } waiting,
        (tail.deterministic stopped).2]
      exact runsTo_iff.mpr (.inl ⟨blocked_of_isTerminal (halt.isTerminal waiting), rfl⟩)

/-- A machine that would stop with more input stops without it. -/
theorem RunsTo.exists_run (runs : (machine.supply more).RunsTo final) :
    ∃ budget, machine.run? budget = some (machine.advance budget) := by
  suffices ∃ budget, (machine.advance budget).status ≠ .running by
    obtain ⟨budget, stopped⟩ := this
    exact ⟨budget, by simp [run?, stopped]⟩
  rcases runsTo_iff.mp runs with ⟨blocked, _⟩ | ⟨_, length, stops⟩
  · refine ⟨0, ?_⟩
    cases permitted : machine.canProceed with
    | false =>
        rw [(advance_of_blocked permitted 0).1]
        exact status_ne_running_of_blocked permitted
    | true => simp [canProceed_supply permitted] at blocked
  · refine ⟨length + 1, ?_⟩
    rcases advance_cases machine (length + 1) with
      ⟨permitted, same, _⟩ | ⟨_, path, _⟩ | ⟨_, count, _, halted, _⟩
    · rw [same]
      exact status_ne_running_of_blocked permitted
    · obtain ⟨rest, tooLong, _⟩ := stops.remainder (path.extend more)
      omega
    · exact halted.status_ne_running

/-- A waiting machine stands in front of a read with nothing buffered. -/
def Suspended (machine : Machine) : Prop :=
  machine.status = .waitingForInput →
    machine.program.instruction? machine.instructionPointer = some .read ∧ machine.input = []

/-- A machine that comes to wait stands in front of a read and has nothing buffered. -/
theorem Halt.suspended {status : Status} (halt : Halt machine status) :
    Suspended { machine with status } := by
  intro waiting
  cases halt with
  | starved present drained => exact ⟨present, drained⟩
  | finished _ | overflow _ _ | underflow _ _ => cases waiting

/-- Nothing is lost of this by advancing. -/
theorem Suspended.advance (suspended : machine.Suspended) (budget : Nat) :
    (machine.advance budget).Suspended := by
  rcases advance_cases machine budget with
    ⟨_, same, _⟩ | ⟨_, path, _⟩ | ⟨_, count, _, halted, _⟩
  · rwa [same]
  · have running : (machine.advance budget).status = .running := path.status_eq
    intro waiting
    simp [running] at waiting
  · obtain ⟨last, status, _, halt, ended⟩ := halted.halted
    rw [ended]
    exact halt.suspended

/-- A machine that was just supplied does not wait. -/
theorem suspended_supply : (machine.supply more).Suspended := by
  intro waiting
  by_cases asleep : machine.status = .waitingForInput <;> simp [supply, asleep] at waiting

/-- Supplying nothing wakes a waiting machine, which then waits again. -/
theorem RunsTo.of_supply_nil (runs : (machine.supply []).RunsTo final)
    (suspended : machine.Suspended) : machine.RunsTo final := by
  by_cases waiting : machine.status = .waitingForInput
  · obtain ⟨present, drained⟩ := suspended waiting
    have blocked : machine.canProceed = false := by simp [canProceed, waiting, drained]
    have woken : machine.supply [] = machine.resume := by simp [supply, resume, waiting]
    have again : Stops 0 machine.resume machine :=
      ⟨_, .refl, executeOne_eq_stopped_iff.mpr
        ⟨.waitingForInput, .starved present drained, by simp [resume, ← waiting]⟩⟩
    rw [woken] at runs
    have unchanged : machine = final := (again.runsTo rfl).deterministic runs
    exact runsTo_iff.mpr (.inl ⟨blocked, unchanged.symm⟩)
  · have same : machine.supply [] = machine := by simp [supply, waiting]
    rwa [same] at runs

end Machine

/-- While input is outstanding every command of a schedule returns, and running on at
its end gives the result of supplying everything at once. -/
theorem exists_performs_of_supply (schedule : List Command) {machine final : Machine}
    (suspended : machine.Suspended)
    (runs : (machine.supply (schedule.flatMap Command.characters)).RunsTo final) :
    ∃ left, Performs (schedule.map .command) machine left ∧ left.RunsTo final := by
  induction schedule generalizing machine with
  | nil => exact ⟨machine, .nil, runs.of_supply_nil suspended⟩
  | cons command schedule inductionHypothesis =>
      -- Each command returns a machine from which the rest of the input leads on.
      have next : ∃ next, command.Returns machine next ∧ next.Suspended ∧
          (next.supply (schedule.flatMap Command.characters)).RunsTo final := by
        cases command with
        | step count =>
            refine ⟨_, rfl, ?_⟩
            simp only [Machine.step]
            split
            · exact ⟨suspended, runs⟩
            · exact ⟨suspended.advance _, runs.supply_advance _⟩
        | run =>
            obtain ⟨budget, returned⟩ := runs.exists_run
            exact ⟨_, ⟨budget, returned⟩, suspended.advance _, runs.supply_advance _⟩
        | addInput input =>
            refine ⟨_, rfl, suspended_supply, ?_⟩
            rwa [addInput_eq_supply, supply_supply]
      obtain ⟨next, returned, suspendedNext, runsNext⟩ := next
      obtain ⟨left, performed, ran⟩ := inductionHypothesis suspendedNext runsNext
      exact ⟨left, .cons returned performed, ran⟩

/-- The bytes of an input that begins with some bytes and goes on with what the
commands of a schedule add, piece by piece decoded on its own. -/
def wholeInput (initial : List UInt8) (schedule : List Command) : List UInt8 :=
  Utf8.encode (Utf8.decode initial ++ schedule.flatMap Command.characters)

/-- Suspending for input is transparent. Load a balanced source with the beginning of
an input and work through any schedule of commands that adds the rest of it piece by
piece. If the run with the whole input returns, every command of the schedule returns,
and the run at its end leaves exactly the machine that the run with the whole input
leaves. -/
theorem runsTo_after_schedule_iff (limits : TapeLimits) (source initial : List UInt8)
    (balanced : Balanced (Instruction.ofBytes source)) (schedule : List Command)
    (final : Machine)
    (returns : ((Machine.new limits).load source (wholeInput initial schedule)).1.RunsTo final) :
    (∃ left, Performs (schedule.map .command) ((Machine.new limits).load source initial).1 left) ∧
      ∀ left, Performs (schedule.map .command) ((Machine.new limits).load source initial).1 left →
        ∀ result, left.RunsTo result ↔ result = final := by
  obtain ⟨block, text⟩ := balanced.exists_block
  simp only [Block.load_eq_loaded text, wholeInput, Utf8.decode_encode] at returns ⊢
  have awake : (block.loaded limits (Utf8.decode initial)).status ≠ .waitingForInput := by
    simp only [Block.loaded]
    split <;> decide
  have supplied : (block.loaded limits (Utf8.decode initial)).supply
      (schedule.flatMap Command.characters) =
      block.loaded limits (Utf8.decode initial ++ schedule.flatMap Command.characters) := by
    rw [supply_of_status_ne _ awake]
    rfl
  rw [← supplied] at returns
  obtain ⟨left, performed, ran⟩ :=
    exists_performs_of_supply schedule (fun waiting => absurd waiting awake) returns
  refine ⟨⟨left, performed⟩, fun other performedOther result => ?_⟩
  obtain rfl := performed.deterministic performedOther
  constructor
  · exact fun runs => runs.deterministic ran
  · rintro rfl
    exact ran

/-- Adding two numbers, `,>,<[->+<]`, that arrive one by one: the machine waits twice,
once it is woken with nothing, and in the end the sum is there as if nothing had
happened. -/
theorem runsTo_after_schedule_sum :
    ∃ left final, Performs
        ([.run, .addInput [2], .step 1, .addInput [], .run, .run, .addInput [3], .step 4].map
          Call.command)
        ((Machine.new ⟨2, 0, 255, by decide, by decide, by decide⟩).load
          [44, 62, 44, 60, 91, 45, 62, 43, 60, 93] []).1 left ∧
      left.RunsTo final ∧ (final.status, final.store) = (.finished, ⟨#[0, 5], 0, [], ""⟩) := by
  have returned : (((Machine.new ⟨2, 0, 255, by decide, by decide, by decide⟩).load
      [44, 62, 44, 60, 91, 45, 62, 43, 60, 93] (wholeInput [] [.run, .addInput [2], .step 1,
        .addInput [], .run, .run, .addInput [3], .step 4])).1.run? 20).map (fun final =>
          (final.status, final.store)) = some (.finished, ⟨#[0, 5], 0, [], ""⟩) := by
    decide +kernel
  obtain ⟨final, ran, result⟩ := Option.map_eq_some_iff.mp returned
  obtain ⟨⟨left, performed⟩, agrees⟩ := runsTo_after_schedule_iff
    ⟨2, 0, 255, by decide, by decide, by decide⟩ [44, 62, 44, 60, 91, 45, 62, 43, 60, 93] []
    (by decide) [.run, .addInput [2], .step 1, .addInput [], .run, .run, .addInput [3], .step 4]
    final ⟨20, ran⟩
  exact ⟨left, final, performed, (agrees left performed final).mpr rfl, result⟩

end TapeDebugger

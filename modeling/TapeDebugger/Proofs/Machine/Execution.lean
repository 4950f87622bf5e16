import TapeDebugger.Machine.Execution

/-!
# Counted executions

`Effect` and `Halt` say once everything that an attempt to execute an instruction
can do, and every fact about runs is derived from them. `Executes` is the relation
between a machine and the one a fixed number of instructions later, and `Stops`
adds the halt that ends a run. The machine a run starts from determines its length and
its result, however its budget is chosen (`Stops.deterministic`).
-/

namespace TapeDebugger.Machine

/-- What executing one instruction does to a machine. -/
inductive Effect (machine : Machine) : Instruction → Machine → Prop where
  | moveRight :
      Effect machine .moveRight ({ machine with tape := machine.tape.moveRight }.proceed
        (machine.instructionPointer + 1))
  | moveLeft :
      Effect machine .moveLeft ({ machine with tape := machine.tape.moveLeft }.proceed
        (machine.instructionPointer + 1))
  | increment (below : machine.tape.current < machine.limits.maxValue) :
      Effect machine .increment
        ({ machine with tape := machine.tape.store (machine.tape.current + 1) }.proceed
          (machine.instructionPointer + 1))
  | decrement (above : machine.limits.minValue < machine.tape.current) :
      Effect machine .decrement
        ({ machine with tape := machine.tape.store (machine.tape.current - 1) }.proceed
          (machine.instructionPointer + 1))
  | write :
      Effect machine .write
        ({ machine with output := machine.output.push (outputChar machine.tape.current) }.proceed
          (machine.instructionPointer + 1))
  | read {character : Char} {rest : List Char} (buffered : machine.input = character :: rest) :
      Effect machine .read
        ({ machine with
            tape := machine.tape.store (Int64.ofNat character.toNat)
            input := rest }.proceed (machine.instructionPointer + 1))
  | skip (zero : machine.tape.current = 0) :
      Effect machine .loopStart
        (machine.proceed (machine.program.partner machine.instructionPointer + 1))
  | enter (nonzero : machine.tape.current ≠ 0) :
      Effect machine .loopStart (machine.proceed (machine.instructionPointer + 1))
  | leave (zero : machine.tape.current = 0) :
      Effect machine .loopEnd (machine.proceed (machine.instructionPointer + 1))
  | again (nonzero : machine.tape.current ≠ 0) :
      Effect machine .loopEnd
        (machine.proceed (machine.program.partner machine.instructionPointer + 1))

/-- Why a machine stops in front of an instruction, and with which status. -/
inductive Halt (machine : Machine) : Status → Prop where
  | finished (past : machine.program.instruction? machine.instructionPointer = none) :
      Halt machine .finished
  | overflow
      (next : machine.program.instruction? machine.instructionPointer = some .increment)
      (full : machine.limits.maxValue ≤ machine.tape.current) : Halt machine .overflowError
  | underflow
      (next : machine.program.instruction? machine.instructionPointer = some .decrement)
      (empty : machine.tape.current ≤ machine.limits.minValue) : Halt machine .underflowError
  | starved
      (next : machine.program.instruction? machine.instructionPointer = some .read)
      (drained : machine.input = []) : Halt machine .waitingForInput

/-- An instruction is executed exactly when it is there and has its effect. -/
theorem executeOne_eq_executed_iff {machine next : Machine} :
    machine.executeOne = .executed next ↔
      ∃ instruction, machine.program.instruction? machine.instructionPointer = some instruction ∧
        Effect machine instruction next := by
  constructor
  · intro executed
    cases present : machine.program.instruction? machine.instructionPointer with
    | none => simp [executeOne, present, stop] at executed
    | some instruction =>
        refine ⟨instruction, rfl, ?_⟩
        cases instruction <;> simp only [executeOne, present, stop] at executed
        case moveRight => cases executed; exact .moveRight
        case moveLeft => cases executed; exact .moveLeft
        case write => cases executed; exact .write
        case increment =>
            split at executed <;> cases executed
            exact .increment (Int64.not_le.mp ‹_›)
        case decrement =>
            split at executed <;> cases executed
            exact .decrement (Int64.not_le.mp ‹_›)
        case read =>
            split at executed <;> cases executed
            exact .read ‹_›
        case loopStart =>
            split at executed <;> cases executed
            · exact .skip ‹_›
            · exact .enter ‹_›
        case loopEnd =>
            split at executed <;> cases executed
            · exact .leave ‹_›
            · exact .again ‹_›
  · rintro ⟨instruction, present, effect⟩
    cases effect with
    | increment below => simp [executeOne, present, Int64.not_le.mpr below]
    | decrement above => simp [executeOne, present, Int64.not_le.mpr above]
    | moveRight | moveLeft | write => simp [executeOne, present]
    | read buffered => simp [executeOne, present, buffered]
    | skip zero | leave zero => simp [executeOne, present, zero]
    | enter nonzero | again nonzero => simp [executeOne, present, nonzero]

/-- A machine stops exactly for the reasons `Halt` lists, and nothing but its
status changes. -/
theorem executeOne_eq_stopped_iff {machine final : Machine} :
    machine.executeOne = .stopped final ↔
      ∃ status, Halt machine status ∧ final = { machine with status } := by
  constructor
  · intro stopped
    cases present : machine.program.instruction? machine.instructionPointer with
    | none =>
        simp only [executeOne, present, stop] at stopped
        cases stopped
        exact ⟨_, .finished present, rfl⟩
    | some instruction =>
        cases instruction <;> simp only [executeOne, present, stop] at stopped
        case increment =>
            split at stopped <;> cases stopped
            exact ⟨_, .overflow present ‹_›, rfl⟩
        case decrement =>
            split at stopped <;> cases stopped
            exact ⟨_, .underflow present ‹_›, rfl⟩
        case read =>
            split at stopped <;> cases stopped
            exact ⟨_, .starved present ‹_›, rfl⟩
        case loopStart => split at stopped <;> cases stopped
        case loopEnd => split at stopped <;> cases stopped
        all_goals cases stopped
  · rintro ⟨status, halt, rfl⟩
    cases halt with
    | finished past => simp [executeOne, past, stop]
    | overflow next full => simp [executeOne, next, full, stop]
    | underflow next empty => simp [executeOne, next, empty, stop]
    | starved next drained => simp [executeOne, next, drained, stop]

/-- A halt never leaves the machine running. -/
theorem Halt.status_ne_running {machine : Machine} {status : Status}
    (halt : Halt machine status) : status ≠ .running := by
  cases halt <;> decide

/-- A halt that is not for want of input is for good. -/
theorem Halt.isTerminal {machine : Machine} {status : Status} (halt : Halt machine status)
    (awake : status ≠ .waitingForInput) : status.isTerminal = true := by
  cases halt with
  | finished _ | overflow _ _ | underflow _ _ => rfl
  | starved _ _ => exact absurd rfl awake

/-- `count` instructions lead from `machine` to `final`. -/
inductive Executes : (count : Nat) → (machine final : Machine) → Prop where
  | refl {machine} : Executes 0 machine machine
  | step {count machine next final} (first : machine.executeOne = .executed next)
      (rest : Executes count next final) : Executes (count + 1) machine final

/-- After `count` instructions the machine stops, and is then `final`. -/
def Stops (count : Nat) (machine final : Machine) : Prop :=
  ∃ last, Executes count machine last ∧ last.executeOne = .stopped final

namespace Executes

variable {count more : Nat} {machine middle final : Machine}

/-- Compose two executions that meet. -/
theorem trans (first : Executes count machine middle) (second : Executes more middle final) :
    Executes (count + more) machine final := by
  induction first with
  | refl => simpa using second
  | step executed _ inductionHypothesis =>
      rw [Nat.succ_add]
      exact .step executed (inductionHypothesis second)

/-- A single instruction is an execution. -/
theorem one (executed : machine.executeOne = .executed final) : Executes 1 machine final :=
  .step executed .refl

/-- What every instruction keeps, every execution keeps. -/
theorem preserves (property : Machine → Prop)
    (preserved : ∀ {before after instruction}, property before →
      before.program.instruction? before.instructionPointer = some instruction →
      Effect before instruction after → property after)
    (execution : Executes count machine final) (holds : property machine) : property final := by
  induction execution with
  | refl => exact holds
  | step executed _ inductionHypothesis =>
      obtain ⟨instruction, present, effect⟩ := executeOne_eq_executed_iff.mp executed
      exact inductionHypothesis (preserved holds present effect)

/-- No instruction touches the limits, the program or the status. -/
theorem frame (execution : Executes count machine final) :
    final.limits = machine.limits ∧ final.program = machine.program ∧
      final.status = machine.status := by
  refine execution.preserves (fun after => after.limits = machine.limits ∧
    after.program = machine.program ∧ after.status = machine.status) ?_ ⟨rfl, rfl, rfl⟩
  intro before after instruction same _ effect
  cases effect <;> exact same

/-- Executing instructions does not change the limits. -/
theorem limits_eq (execution : Executes count machine final) :
    final.limits = machine.limits :=
  execution.frame.1

/-- Executing instructions does not change the program. -/
theorem program_eq (execution : Executes count machine final) :
    final.program = machine.program :=
  execution.frame.2.1

/-- Executing instructions does not change the status; only halting does. -/
theorem status_eq (execution : Executes count machine final) :
    final.status = machine.status :=
  execution.frame.2.2

/-- The step counter advances by one for each instruction, around its width. -/
theorem steps_eq (execution : Executes count machine final) :
    final.steps = machine.steps + UInt64.ofNat count := by
  induction execution with
  | refl => simp
  | @step count before next final executed _ inductionHypothesis =>
      obtain ⟨instruction, _, effect⟩ := executeOne_eq_executed_iff.mp executed
      have counted : next.steps = before.steps + 1 := by cases effect <;> rfl
      rw [inductionHypothesis, counted, UInt64.ofNat_add, UInt64.add_assoc,
        UInt64.add_comm (UInt64.ofNat count)]
      rfl

end Executes

namespace Stops

variable {count more : Nat} {machine middle final other : Machine}

/-- Put an execution in front of a run. -/
theorem prepend (execution : Executes count machine middle) (stops : Stops more middle final) :
    Stops (count + more) machine final := by
  obtain ⟨last, rest, stopped⟩ := stops
  exact ⟨last, execution.trans rest, stopped⟩

/-- An execution is a part of every run from the same machine. -/
theorem remainder (execution : Executes count machine middle) (stops : Stops more machine final) :
    ∃ rest, more = count + rest ∧ Stops rest middle final := by
  induction execution generalizing more with
  | refl => exact ⟨more, by simp, stops⟩
  | @step count before next middle executed _ inductionHypothesis =>
      obtain ⟨last, path, stopped⟩ := stops
      cases path with
      | refl =>
          rw [executed] at stopped
          cases stopped
      | step executedFirst tail =>
          rw [executed] at executedFirst
          cases executedFirst
          obtain ⟨rest, length, continued⟩ := inductionHypothesis ⟨last, tail, stopped⟩
          exact ⟨rest, by omega, continued⟩

/-- A run has one length and one result. -/
theorem deterministic (left : Stops count machine final) (right : Stops more machine other) :
    count = more ∧ final = other := by
  obtain ⟨last, execution, stopped⟩ := left
  obtain ⟨rest, length, tail⟩ := right.remainder execution
  obtain ⟨lastRight, executionRight, stoppedRight⟩ := tail
  cases executionRight with
  | refl =>
      rw [stopped] at stoppedRight
      cases stoppedRight
      exact ⟨length.symm, rfl⟩
  | step executed _ =>
      rw [stopped] at executed
      cases executed

/-- The machine a run ends in has stopped for a reason. -/
theorem halted (stops : Stops count machine final) :
    ∃ last status, Executes count machine last ∧ Halt last status ∧
      final = { last with status } := by
  obtain ⟨last, execution, stopped⟩ := stops
  obtain ⟨status, halt, ended⟩ := executeOne_eq_stopped_iff.mp stopped
  exact ⟨last, status, execution, halt, ended⟩

/-- A machine that has stopped is not running. -/
theorem status_ne_running (stops : Stops count machine final) : final.status ≠ .running := by
  obtain ⟨last, status, _, halt, rfl⟩ := stops.halted
  exact halt.status_ne_running

/-- The step counter after a run. -/
theorem steps_eq (stops : Stops count machine final) :
    final.steps = machine.steps + UInt64.ofNat count := by
  obtain ⟨last, status, execution, _, rfl⟩ := stops.halted
  exact execution.steps_eq

end Stops

/-- How many instructions `execute` gets through within a budget. -/
def executedWithin : (budget : Nat) → Machine → Nat
  | 0, _ => 0
  | budget + 1, machine =>
    match machine.executeOne with
    | .executed next => executedWithin budget next + 1
    | .stopped _ => 0

/-- The machine with its status set to running, which is where execution starts. -/
def resume (machine : Machine) : Machine :=
  { machine with status := .running }

/-- How many instructions `advance` gets through within a budget. -/
def advanceCount (machine : Machine) (budget : Nat) : Nat :=
  if machine.canProceed then executedWithin budget machine.resume else 0

/-- A run of the machine returns, and the machine is then `final`. -/
def RunsTo (machine final : Machine) : Prop :=
  ∃ fuel, machine.run? fuel = some final

/-- A run of the machine returns `final` after exactly `count` instructions. -/
def RunsFor (machine : Machine) (count : Nat) (final : Machine) : Prop :=
  ∃ fuel, machine.run? fuel = some final ∧ machine.advanceCount fuel = count

section Budget

variable {count budget : Nat} {machine middle final other : Machine}

/-- An execution within the budget leaves what is left of it to the rest. -/
theorem Executes.execute_add (execution : Executes count machine middle) (budget : Nat) :
    execute (count + budget) machine = execute budget middle ∧
      executedWithin (count + budget) machine = count + executedWithin budget middle := by
  induction execution with
  | refl => simp
  | step executed _ inductionHypothesis =>
      rw [Nat.succ_add]
      simp only [execute, executedWithin, executed, inductionHypothesis]
      exact ⟨trivial, by omega⟩

/-- A budget that is used up ends where the execution of its length does. -/
theorem Executes.execute (execution : Executes count machine final) :
    Machine.execute count machine = final ∧ executedWithin count machine = count :=
  execution.execute_add 0

/-- A budget larger than the run does not show. -/
theorem Stops.execute (stops : Stops count machine final) (enough : count < budget) :
    Machine.execute budget machine = final ∧ executedWithin budget machine = count := by
  obtain ⟨last, execution, stopped⟩ := stops
  have spent : budget = count + (budget - count - 1 + 1) := by omega
  rw [spent, (execution.execute_add _).1, (execution.execute_add _).2]
  simp [Machine.execute, executedWithin, stopped]

/-- Within any budget a machine uses the budget up or stops before. -/
theorem executes_or_stops (budget : Nat) (machine : Machine) :
    (∃ final, Executes budget machine final) ∨ ∃ count final, count < budget ∧
      Stops count machine final := by
  induction budget generalizing machine with
  | zero => exact .inl ⟨machine, .refl⟩
  | succ budget inductionHypothesis =>
      cases attempt : machine.executeOne with
      | stopped final => exact .inr ⟨0, final, Nat.succ_pos _, machine, .refl, attempt⟩
      | executed next =>
          rcases inductionHypothesis next with ⟨final, rest⟩ | ⟨count, final, less, stops⟩
          · exact .inl ⟨final, .step attempt rest⟩
          · refine .inr ⟨count + 1, final, by omega, ?_⟩
            simpa [Nat.add_comm] using stops.prepend (.one attempt)

/-- A machine that may not go on is not running. -/
theorem status_ne_running_of_blocked (blocked : machine.canProceed = false) :
    machine.status ≠ .running := by
  intro running
  simp [canProceed, running, Status.isTerminal, Status.isError] at blocked

/-- A running machine may go on. -/
theorem canProceed_of_running (running : machine.status = .running) :
    machine.canProceed = true := by
  simp [canProceed, running, Status.isTerminal, Status.isError]

/-- A machine that has stopped for good may not go on. -/
theorem blocked_of_isTerminal (terminal : machine.status.isTerminal = true) :
    machine.canProceed = false := by
  simp [canProceed, terminal]

/-- A running machine has nothing to resume. -/
theorem resume_of_running (running : machine.status = .running) : machine.resume = machine := by
  simp [resume, ← running]

/-- A machine that may not go on executes nothing. -/
theorem advance_of_blocked (blocked : machine.canProceed = false) (budget : Nat) :
    machine.advance budget = machine ∧ machine.advanceCount budget = 0 := by
  simp [advance, advanceCount, blocked]

/-- A machine that may go on is resumed and executes within the budget. -/
theorem advance_of_canProceed (permitted : machine.canProceed = true) (budget : Nat) :
    machine.advance budget = execute budget machine.resume ∧
      machine.advanceCount budget = executedWithin budget machine.resume := by
  simp [advance, advanceCount, permitted, resume]

/-- Advancing does nothing, uses its budget up or stops before. -/
theorem advance_cases (machine : Machine) (budget : Nat) :
    (machine.canProceed = false ∧ machine.advance budget = machine ∧
      machine.advanceCount budget = 0) ∨
    (machine.canProceed = true ∧ Executes budget machine.resume (machine.advance budget) ∧
      machine.advanceCount budget = budget) ∨
    (machine.canProceed = true ∧ ∃ count, count < budget ∧
      Stops count machine.resume (machine.advance budget) ∧
      machine.advanceCount budget = count) := by
  cases permitted : machine.canProceed with
  | false => exact .inl ⟨rfl, advance_of_blocked permitted budget⟩
  | true =>
      obtain ⟨advanced, counted⟩ := advance_of_canProceed permitted budget
      rw [advanced, counted]
      rcases executes_or_stops budget machine.resume with ⟨last, path⟩ | ⟨count, final, less, stops⟩
      · rw [path.execute.1, path.execute.2]
        exact .inr (.inl ⟨rfl, path, rfl⟩)
      · rw [(stops.execute less).1, (stops.execute less).2]
        exact .inr (.inr ⟨rfl, count, less, stops, rfl⟩)

/-- What every instruction and every change of status keep, advancing keeps. -/
theorem advance_preserves (property : Machine → Prop)
    (anyStatus : ∀ {before} (status : Status), property before → property { before with status })
    (preserved : ∀ {before after instruction}, property before →
      before.program.instruction? before.instructionPointer = some instruction →
      Effect before instruction after → property after)
    (holds : property machine) (budget : Nat) : property (machine.advance budget) := by
  have resumed : property machine.resume := anyStatus .running holds
  rcases advance_cases machine budget with
    ⟨_, same, _⟩ | ⟨_, path, _⟩ | ⟨_, count, _, halted, _⟩
  · rwa [same]
  · exact path.preserves property preserved resumed
  · obtain ⟨last, status, path, _, ended⟩ := halted.halted
    rw [ended]
    exact anyStatus status (path.preserves property preserved resumed)

/-- Advancing touches neither the limits nor the program. -/
theorem advance_frame (machine : Machine) (budget : Nat) :
    (machine.advance budget).limits = machine.limits ∧
      (machine.advance budget).program = machine.program := by
  refine advance_preserves (fun after => after.limits = machine.limits ∧
    after.program = machine.program) (fun _ same => same) ?_ ⟨rfl, rfl⟩ budget
  intro before after instruction same _ effect
  cases effect <;> exact same

/-- A machine that has stopped may not go on, even if it only waits. -/
theorem Stops.blocked (stops : Stops count machine final) : final.canProceed = false := by
  obtain ⟨last, status, _, halt, rfl⟩ := stops.halted
  by_cases waiting : status = .waitingForInput
  · subst waiting
    cases halt with
    | starved _ drained => simp [canProceed, drained]
  · exact blocked_of_isTerminal (halt.isTerminal waiting)

/-- An advance that does not leave the machine running has brought it to a stop. -/
theorem blocked_of_advance (stopped : (machine.advance budget).status ≠ .running) :
    (machine.advance budget).canProceed = false := by
  rcases advance_cases machine budget with
    ⟨blocked, same, _⟩ | ⟨_, path, _⟩ | ⟨_, count, _, halted, _⟩
  · rwa [same]
  · exact absurd path.status_eq stopped
  · exact halted.blocked

/-- Advancing twice is advancing by both budgets at once. -/
theorem advance_advance (machine : Machine) (first second : Nat) :
    (machine.advance first).advance second = machine.advance (first + second) := by
  rcases advance_cases machine first with
    ⟨blocked, same, _⟩ | ⟨permitted, path, _⟩ | ⟨permitted, count, less, halted, _⟩
  · rw [same, (advance_of_blocked blocked _).1, (advance_of_blocked blocked _).1]
  · have running : (machine.advance first).status = .running := path.status_eq
    rw [(advance_of_canProceed (canProceed_of_running running) _).1, resume_of_running running,
      (advance_of_canProceed permitted (first + second)).1, (path.execute_add second).1]
  · rw [(advance_of_blocked halted.blocked _).1, (advance_of_canProceed permitted (_ + _)).1,
      (halted.execute (Nat.lt_of_lt_of_le less (Nat.le_add_right first second))).1]

/-- Once an advance has brought the machine to a stop, a larger budget changes nothing. -/
theorem advance_eq_of_le {more : Nat} (stopped : (machine.advance budget).status ≠ .running)
    (larger : budget ≤ more) : machine.advance more = machine.advance budget := by
  obtain ⟨rest, rfl⟩ := Nat.exists_eq_add_of_le larger
  rw [← advance_advance, (advance_of_blocked (blocked_of_advance stopped) rest).1]

/-- Two budgets that bring a machine to a stop bring it to the same one. -/
theorem advance_eq_of_stopped {more : Nat}
    (stopped : (machine.advance budget).status ≠ .running)
    (stoppedMore : (machine.advance more).status ≠ .running) :
    machine.advance budget = machine.advance more := by
  rcases Nat.le_total budget more with larger | smaller
  · exact (advance_eq_of_le stopped larger).symm
  · exact advance_eq_of_le stoppedMore smaller

/-- A step by a positive count is an advance by it. -/
theorem step_of_pos {count : Int64} (positive : 0 < count) :
    machine.step count = machine.advance count.toNatClampNeg := by
  rw [step, if_neg (Int64.not_le.mpr positive)]

/-- No step moves a machine that may not go on. -/
theorem step_of_blocked (blocked : machine.canProceed = false) (count : Int64) :
    machine.step count = machine := by
  rw [step, (advance_of_blocked blocked _).1, ite_self]

/-- The step counter shows what an advance has executed, around its width. -/
theorem advance_steps (machine : Machine) (budget : Nat) :
    (machine.advance budget).steps =
      machine.steps + UInt64.ofNat (machine.advanceCount budget) ∧
      machine.advanceCount budget ≤ budget := by
  rcases advance_cases machine budget with
    ⟨_, same, counted⟩ | ⟨_, path, counted⟩ | ⟨_, count, less, halted, counted⟩
  · rw [same, counted]
    exact ⟨by simp, Nat.zero_le _⟩
  · rw [counted]
    exact ⟨path.steps_eq, Nat.le_refl _⟩
  · rw [counted]
    exact ⟨halted.steps_eq, Nat.le_of_lt less⟩

/-- An advance uses its budget up exactly when it leaves the machine running. -/
theorem advanceCount_eq_iff (positive : 0 < budget) :
    machine.advanceCount budget = budget ↔ (machine.advance budget).status = .running := by
  rcases advance_cases machine budget with
    ⟨blocked, same, counted⟩ | ⟨_, path, counted⟩ | ⟨_, count, less, halted, counted⟩
  · rw [same, counted]
    exact iff_of_false (Nat.ne_of_lt positive) (status_ne_running_of_blocked blocked)
  · exact iff_of_true counted path.status_eq
  · rw [counted]
    exact iff_of_false (Nat.ne_of_lt less) halted.status_ne_running

/-- A run returns at once if the machine may not go on, and otherwise with the
halt that ends its execution, for every fuel above the length of that. -/
theorem run?_eq_some_iff {fuel : Nat} :
    machine.run? fuel = some final ↔
      (machine.canProceed = false ∧ final = machine) ∨
      (machine.canProceed = true ∧ ∃ count, count < fuel ∧ Stops count machine.resume final) := by
  cases permitted : machine.canProceed with
  | false =>
      have idle := (advance_of_blocked permitted fuel).1
      have notRunning := status_ne_running_of_blocked permitted
      simp [run?, idle, notRunning, eq_comm]
  | true =>
      have advanced := (advance_of_canProceed permitted fuel).1
      simp only [run?, advanced, Bool.true_eq_false, false_and, true_and, false_or]
      rcases executes_or_stops fuel machine.resume with
        ⟨last, execution⟩ | ⟨count, ended, less, stops⟩
      · have running : last.status = .running := execution.status_eq
        simp only [execution.execute.1, running, ↓reduceIte, reduceCtorEq, false_iff]
        rintro ⟨count, less, stops⟩
        obtain ⟨rest, length, _⟩ := stops.remainder execution
        omega
      · simp only [(stops.execute less).1, stops.status_ne_running, ↓reduceIte, Option.some.injEq]
        constructor
        · rintro rfl
          exact ⟨count, less, stops⟩
        · rintro ⟨_, _, other⟩
          exact (stops.deterministic other).2

/-- What a run that returns has done. -/
theorem runsTo_iff :
    machine.RunsTo final ↔
      (machine.canProceed = false ∧ final = machine) ∨
      (machine.canProceed = true ∧ ∃ count, Stops count machine.resume final) := by
  simp only [RunsTo, run?_eq_some_iff]
  constructor
  · rintro ⟨fuel, idle | ⟨permitted, count, _, stops⟩⟩
    · exact .inl idle
    · exact .inr ⟨permitted, count, stops⟩
  · rintro (idle | ⟨permitted, count, stops⟩)
    · exact ⟨0, .inl idle⟩
    · exact ⟨count + 1, .inr ⟨permitted, count, Nat.lt_succ_self _, stops⟩⟩

/-- The run of a running machine. -/
theorem Stops.runsTo (stops : Stops count machine final) (running : machine.status = .running) :
    machine.RunsTo final := by
  refine runsTo_iff.mpr (.inr ⟨canProceed_of_running running, count, ?_⟩)
  rwa [resume_of_running running]

/-- What a run that returns has executed. -/
theorem runsFor_iff :
    machine.RunsFor count final ↔
      (machine.canProceed = false ∧ count = 0 ∧ final = machine) ∨
      (machine.canProceed = true ∧ Stops count machine.resume final) := by
  simp only [RunsFor, run?_eq_some_iff]
  constructor
  · rintro ⟨fuel, ⟨blocked, rfl⟩ | ⟨permitted, length, less, stops⟩, rfl⟩
    · exact .inl ⟨blocked, (advance_of_blocked blocked fuel).2, rfl⟩
    · rw [(advance_of_canProceed permitted fuel).2, (stops.execute less).2]
      exact .inr ⟨permitted, stops⟩
  · rintro (⟨blocked, rfl, rfl⟩ | ⟨permitted, stops⟩)
    · exact ⟨0, .inl ⟨blocked, rfl⟩, (advance_of_blocked blocked 0).2⟩
    · refine ⟨count + 1, .inr ⟨permitted, count, Nat.lt_succ_self _, stops⟩, ?_⟩
      rw [(advance_of_canProceed permitted _).2, (stops.execute (Nat.lt_succ_self _)).2]

/-- The step counter shows what a run has executed, around its width. -/
theorem RunsFor.steps_eq (runs : machine.RunsFor count final) :
    final.steps = machine.steps + UInt64.ofNat count := by
  rcases runsFor_iff.mp runs with ⟨_, rfl, rfl⟩ | ⟨_, stops⟩
  · simp
  · exact stops.steps_eq

/-- A run returns what any advance that brings the machine to a stop leaves. -/
theorem runsTo_iff_advance :
    machine.RunsTo final ↔
      ∃ budget, final = machine.advance budget ∧ (machine.advance budget).status ≠ .running := by
  simp only [RunsTo, run?]
  constructor
  · rintro ⟨fuel, returned⟩
    split at returned
    · cases returned
    · exact ⟨fuel, (Option.some.inj returned).symm, ‹_›⟩
  · rintro ⟨budget, rfl, stopped⟩
    exact ⟨budget, if_neg stopped⟩

/-- Advancing first does not show in what a run returns. -/
theorem runsTo_advance_iff : (machine.advance budget).RunsTo final ↔ machine.RunsTo final := by
  simp only [runsTo_iff_advance, advance_advance]
  constructor
  · rintro ⟨more, rfl, stopped⟩
    exact ⟨budget + more, rfl, stopped⟩
  · rintro ⟨more, rfl, stopped⟩
    have same : machine.advance (budget + more) = machine.advance more :=
      advance_eq_of_le stopped (Nat.le_add_left more budget)
    exact ⟨more, same.symm, same ▸ stopped⟩

/-- Runs that return agree. -/
theorem RunsTo.deterministic (left : machine.RunsTo final) (right : machine.RunsTo other) :
    final = other := by
  obtain ⟨budget, rfl, stopped⟩ := runsTo_iff_advance.mp left
  obtain ⟨more, rfl, stoppedMore⟩ := runsTo_iff_advance.mp right
  exact advance_eq_of_stopped stopped stoppedMore

end Budget

end TapeDebugger.Machine

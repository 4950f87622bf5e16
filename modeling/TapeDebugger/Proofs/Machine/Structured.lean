import TapeDebugger.Proofs.Machine.Execution
import TapeDebugger.Proofs.Program.Nesting

/-!
# Structured evaluation

`Eval` gives a block the meaning that a reader of loops expects, by big steps and
without any instruction pointer: a loop is entered through its opening bracket and
its body repeated while the current cell is not zero. It knows nothing of machines.

The flat machine follows it step for step (`Eval.simulated`), and an evaluation
exists whenever the machine stops (`exists_eval_of_stops`), so the two agree on every
balanced program: on how it ends, on what it leaves and on what it costs.
-/

namespace TapeDebugger

/-- What a program acts on. -/
structure Store where
  cells : Array Int64
  pointer : Nat
  input : List Char
  output : String
deriving Repr, DecidableEq

/-- Why an evaluation ends in front of an action. -/
inductive Interruption where
  /-- The action reads and no input is left. -/
  | starved
  /-- The action adds to a cell at its upper bound. -/
  | overflow
  /-- The action takes from a cell at its lower bound. -/
  | underflow
deriving Repr, DecidableEq

/-- How an evaluation ends. -/
inductive Ending where
  | complete
  | interrupted (cause : Interruption)
deriving Repr, DecidableEq

/-- The status that reports an interruption. -/
def Interruption.status : Interruption → Status
  | starved => .waitingForInput
  | overflow => .overflowError
  | underflow => .underflowError

/-- The status that reports an ending. -/
def Ending.status : Ending → Status
  | complete => .finished
  | interrupted cause => cause.status

/-- Endings are told apart by their status. -/
theorem Ending.status_injective {left right : Ending} (same : left.status = right.status) :
    left = right := by
  rcases left with _ | (_ | _ | _) <;> rcases right with _ | (_ | _ | _) <;>
    simp [Ending.status, Interruption.status] at same ⊢

namespace Store

/-- The store a program starts from. -/
def initial (limits : TapeLimits) (input : List Char) : Store where
  cells := Array.replicate limits.size 0
  pointer := 0
  input
  output := ""

/-- The cell under the pointer. -/
def current (store : Store) : Int64 :=
  store.cells.getD store.pointer 0

/-- Replace the cell under the pointer. -/
def put (store : Store) (value : Int64) : Store :=
  { store with cells := store.cells.setIfInBounds store.pointer value }

end Store

/-- Perform an action, or say why it cannot be performed. The pointer moves modulo
the size of the tape. -/
def Action.perform (limits : TapeLimits) (store : Store) : Action → Except Interruption Store
  | moveRight => .ok { store with pointer := (store.pointer + 1) % store.cells.size }
  | moveLeft =>
    .ok { store with pointer := (store.pointer + store.cells.size - 1) % store.cells.size }
  | increment =>
    if limits.maxValue ≤ store.current then .error .overflow
    else .ok (store.put (store.current + 1))
  | decrement =>
    if store.current ≤ limits.minValue then .error .underflow
    else .ok (store.put (store.current - 1))
  | write => .ok { store with output := store.output.push (outputChar store.current) }
  | read =>
    match store.input with
    | [] => .error .starved
    | character :: rest => .ok { store.put (Int64.ofNat character.toNat) with input := rest }

/-- What is evaluated: a block, or the rest of a loop whose bracket has been passed. -/
inductive Task where
  | sequence (block : Block)
  | iterate (body : Block)

/-- Big-step evaluation. Every action costs one, every loop one for its opening
bracket whether it is entered or skipped, and every completed pass through a body
one for the closing bracket. -/
inductive Eval (limits : TapeLimits) : Task → Store → (cost : Nat) → Ending → Store → Prop where
  | nil {store} : Eval limits (.sequence .nil) store 0 .complete store
  | perform {action rest store next cost ending final}
      (performed : action.perform limits store = .ok next)
      (continued : Eval limits (.sequence rest) next cost ending final) :
      Eval limits (.sequence (.perform action rest)) store (1 + cost) ending final
  | refuse {action rest store cause} (refused : action.perform limits store = .error cause) :
      Eval limits (.sequence (.perform action rest)) store 0 (.interrupted cause) store
  | loop {body rest store next cost more ending final}
      (looped : Eval limits (.iterate body) store cost .complete next)
      (continued : Eval limits (.sequence rest) next more ending final) :
      Eval limits (.sequence (.loop body rest)) store (1 + cost + more) ending final
  | loopInterrupted {body rest store cost cause final}
      (looped : Eval limits (.iterate body) store cost (.interrupted cause) final) :
      Eval limits (.sequence (.loop body rest)) store (1 + cost) (.interrupted cause) final
  | done {body store} (zero : store.current = 0) :
      Eval limits (.iterate body) store 0 .complete store
  | again {body store next cost more ending final} (nonzero : store.current ≠ 0)
      (once : Eval limits (.sequence body) store cost .complete next)
      (repeated : Eval limits (.iterate body) next more ending final) :
      Eval limits (.iterate body) store (cost + 1 + more) ending final
  | bodyInterrupted {body store cost cause final} (nonzero : store.current ≠ 0)
      (once : Eval limits (.sequence body) store cost (.interrupted cause) final) :
      Eval limits (.iterate body) store cost (.interrupted cause) final

namespace Machine

/-- What the program of a machine acts on. -/
def store (machine : Machine) : Store where
  cells := machine.tape.cells
  pointer := machine.tape.pointer
  input := machine.input
  output := machine.output

variable {machine : Machine} {position : Nat}

/-- An action that can be performed is one instruction. -/
theorem executeOne_of_performed {action : Action} {next : Store}
    (present : machine.program.instruction? machine.instructionPointer = some action.instruction)
    (performed : action.perform machine.limits machine.store = .ok next) :
    ∃ after, machine.executeOne = .executed after ∧ after.store = next ∧
      after.instructionPointer = machine.instructionPointer + 1 := by
  have attempt : ∀ {after}, Effect machine action.instruction after →
      machine.executeOne = .executed after := fun effect =>
    executeOne_eq_executed_iff.mpr ⟨_, present, effect⟩
  cases action with
  | moveRight =>
      cases performed
      exact ⟨_, attempt .moveRight, rfl, rfl⟩
  | moveLeft =>
      cases performed
      exact ⟨_, attempt .moveLeft, rfl, rfl⟩
  | increment =>
      simp only [Action.perform] at performed
      split at performed <;> cases performed
      exact ⟨_, attempt (.increment (Int64.not_le.mp ‹_›)), rfl, rfl⟩
  | decrement =>
      simp only [Action.perform] at performed
      split at performed <;> cases performed
      exact ⟨_, attempt (.decrement (Int64.not_le.mp ‹_›)), rfl, rfl⟩
  | write =>
      cases performed
      exact ⟨_, attempt .write, rfl, rfl⟩
  | read =>
      simp only [Action.perform] at performed
      split at performed <;> cases performed
      exact ⟨_, attempt (.read ‹_›), rfl, rfl⟩

/-- A machine halts in front of an action that cannot be performed. -/
theorem halt_of_refused {action : Action} {cause : Interruption}
    (present : machine.program.instruction? machine.instructionPointer = some action.instruction)
    (refused : action.perform machine.limits machine.store = .error cause) :
    Halt machine cause.status := by
  cases action with
  | moveRight | moveLeft | write => cases refused
  | increment =>
      simp only [Action.perform] at refused
      split at refused <;> cases refused
      exact .overflow present ‹_›
  | decrement =>
      simp only [Action.perform] at refused
      split at refused <;> cases refused
      exact .underflow present ‹_›
  | read =>
      simp only [Action.perform] at refused
      split at refused <;> cases refused
      exact .starved present ‹_›

/-- Where a bracket of the loop at `position` leads: into the body, or behind the
loop once the current cell is zero. Both brackets lead to the same places. -/
def loopTarget (body : Block) (position : Nat) (store : Store) : Nat :=
  if store.current = 0 then position + body.size + 2 else position + 1

/-- Either bracket of a loop is one instruction that moves nothing but the
instruction pointer. -/
theorem executeOne_of_bracket {body rest : Block}
    (there : (Block.loop body rest).At machine.program position)
    (standing : machine.instructionPointer = position ∨
      machine.instructionPointer = position + body.size + 1) :
    ∃ after, machine.executeOne = .executed after ∧ after.store = machine.store ∧
      after.instructionPointer = loopTarget body position machine.store := by
  obtain ⟨opening, forward, _, closing, backward, _⟩ := there
  have sameCell : machine.store.current = machine.tape.current := rfl
  rcases standing with atOpening | atClosing
  · rw [← atOpening] at opening forward
    by_cases zero : machine.tape.current = 0
    · refine ⟨_, executeOne_eq_executed_iff.mpr ⟨_, opening, .skip zero⟩, rfl, ?_⟩
      simp [proceed, loopTarget, sameCell, zero, forward, ← atOpening]
    · refine ⟨_, executeOne_eq_executed_iff.mpr ⟨_, opening, .enter zero⟩, rfl, ?_⟩
      simp [proceed, loopTarget, sameCell, zero, atOpening]
  · rw [← atClosing] at closing backward
    by_cases zero : machine.tape.current = 0
    · refine ⟨_, executeOne_eq_executed_iff.mpr ⟨_, closing, .leave zero⟩, rfl, ?_⟩
      simp [proceed, loopTarget, sameCell, zero, atClosing]
    · refine ⟨_, executeOne_eq_executed_iff.mpr ⟨_, closing, .again zero⟩, rfl, ?_⟩
      simp [proceed, loopTarget, sameCell, zero, backward]

/-- A machine stands where a task begins. For the rest of a loop that is where a
bracket has just led. -/
def Begins (machine : Machine) (position : Nat) : Task → Prop
  | .sequence block => machine.instructionPointer = position ∧ block.At machine.program position
  | .iterate body =>
    machine.instructionPointer = loopTarget body position machine.store ∧
      (Block.loop body .nil).At machine.program position

/-- Either bracket of a loop leads to where the rest of the loop begins. -/
theorem begins_of_bracket {body rest : Block}
    (there : (Block.loop body rest).At machine.program position)
    (standing : machine.instructionPointer = position ∨
      machine.instructionPointer = position + body.size + 1) :
    ∃ after, Executes 1 machine after ∧ after.store = machine.store ∧
      after.Begins position (.iterate body) := by
  obtain ⟨after, executed, kept, target⟩ := executeOne_of_bracket there standing
  have path : Executes 1 machine after := .one executed
  exact ⟨after, path, kept, kept ▸ target, path.program_eq ▸ there.alone⟩

/-- A machine that enters a loop stands in front of its body. -/
theorem Begins.body {body : Block} (begins : machine.Begins position (.iterate body))
    (nonzero : machine.store.current ≠ 0) : machine.Begins (position + 1) (.sequence body) := by
  obtain ⟨target, there⟩ := begins
  exact ⟨by simpa [loopTarget, nonzero] using target, there.inside⟩

/-- The position behind a task that begins at `position`. -/
def exit (position : Nat) : Task → Nat
  | .sequence block => position + block.size
  | .iterate body => position + body.size + 2

/-- A machine stands where a task has ended: at its exit, or in front of the action
that interrupts it. -/
def Ends (machine : Machine) (exit : Nat) : Ending → Prop
  | .complete => machine.instructionPointer = exit
  | .interrupted cause => Halt machine cause.status

end Machine

open Machine

/-- A machine that stands where a task begins executes as many instructions as the
task costs, and then stands where the task ends with the same store. -/
theorem Eval.simulated {limits : TapeLimits} {task : Task} {store final : Store} {cost : Nat}
    {ending : Ending} (evaluation : Eval limits task store cost ending final)
    {machine : Machine} {position : Nat} (sameLimits : machine.limits = limits)
    (sameStore : machine.store = store) (begins : machine.Begins position task) :
    ∃ last, Executes cost machine last ∧ last.store = final ∧
      last.Ends (exit position task) ending := by
  induction evaluation generalizing machine position with
  | nil => exact ⟨machine, .refl, sameStore, begins.1⟩
  | @perform action rest store next cost ending final performed _ inductionHypothesis =>
      subst sameLimits sameStore
      obtain ⟨rfl, present, behind⟩ := begins
      obtain ⟨after, executed, moved, advanced⟩ := executeOne_of_performed present performed
      have first : Executes 1 machine after := .one executed
      obtain ⟨last, path, left, ends⟩ := inductionHypothesis first.limits_eq moved
        ⟨advanced, first.program_eq ▸ behind⟩
      refine ⟨last, first.trans path, left, ?_⟩
      have sameExit : exit (machine.instructionPointer + 1) (.sequence rest) =
          exit machine.instructionPointer (.sequence (.perform action rest)) := by
        simp only [exit, Block.size]
        omega
      exact sameExit ▸ ends
  | refuse refused =>
      subst sameLimits sameStore
      obtain ⟨rfl, present, _⟩ := begins
      exact ⟨machine, .refl, rfl, halt_of_refused present refused⟩
  | @loop body rest store next cost more ending final _ _ loopHypothesis restHypothesis =>
      obtain ⟨atOpening, there⟩ := begins
      obtain ⟨entered, first, kept, enters⟩ := begins_of_bracket there (.inl atOpening)
      obtain ⟨looped, loopPath, loopStore, loopExit⟩ := loopHypothesis
        (first.limits_eq.trans sameLimits) (kept.trans sameStore) enters
      have throughLoop := first.trans loopPath
      obtain ⟨last, path, left, ends⟩ := restHypothesis
        (throughLoop.limits_eq.trans sameLimits) loopStore
        ⟨loopExit, throughLoop.program_eq ▸ there.behind⟩
      refine ⟨last, throughLoop.trans path, left, ?_⟩
      have sameExit : exit (position + body.size + 2) (.sequence rest) =
          exit position (.sequence (.loop body rest)) := by
        simp only [exit, Block.size]
        omega
      exact sameExit ▸ ends
  | loopInterrupted _ loopHypothesis =>
      obtain ⟨atOpening, there⟩ := begins
      obtain ⟨entered, first, kept, enters⟩ := begins_of_bracket there (.inl atOpening)
      obtain ⟨last, path, left, halt⟩ := loopHypothesis
        (first.limits_eq.trans sameLimits) (kept.trans sameStore) enters
      exact ⟨last, first.trans path, left, halt⟩
  | done zero =>
      refine ⟨machine, .refl, sameStore, ?_⟩
      simpa [Ends, exit, loopTarget, sameStore, zero] using begins.1
  | @again body store next cost more ending final nonzero _ _ bodyHypothesis loopHypothesis =>
      obtain ⟨passed, bodyPath, bodyStore, atClosing⟩ := bodyHypothesis sameLimits sameStore
        (begins.body (sameStore ▸ nonzero))
      have closing : passed.instructionPointer = position + body.size + 1 :=
        atClosing.trans (Nat.add_right_comm ..)
      obtain ⟨tested, test, kept, again⟩ :=
        begins_of_bracket (bodyPath.program_eq ▸ begins.2) (.inr closing)
      have throughBody := bodyPath.trans test
      obtain ⟨last, path, left, ends⟩ := loopHypothesis
        (throughBody.limits_eq.trans sameLimits) (kept.trans bodyStore) again
      exact ⟨last, throughBody.trans path, left, ends⟩
  | bodyInterrupted nonzero _ bodyHypothesis =>
      exact bodyHypothesis sameLimits sameStore (begins.body (sameStore ▸ nonzero))

/-- If the run of a machine stops, so does the evaluation of every task it stands
at. -/
theorem exists_eval_of_stops {count : Nat} {machine final : Machine} {position : Nat}
    (task : Task) (stops : Stops count machine final) (begins : machine.Begins position task) :
    ∃ cost ending result, Eval machine.limits task machine.store cost ending result := by
  -- Every bracket and every action shortens the rest of the run. Only going from the
  -- rest of a loop into its body does not, so blocks come first at each length.
  induction count using Nat.strongRecOn generalizing machine position task with
  | ind count shorter =>
    have later : ∀ {more next target} (rest : Task), 0 < more → Executes more machine next →
        next.Begins target rest →
        ∃ cost ending result, Eval machine.limits rest next.store cost ending result := by
      intro more next target rest positive path standing
      obtain ⟨left, length, stopsLater⟩ := stops.remainder path
      obtain ⟨cost, ending, result, evaluation⟩ :=
        shorter left (by omega) rest stopsLater standing
      exact ⟨cost, ending, result, path.limits_eq ▸ evaluation⟩
    have blocks : ∀ {start} (block : Block), machine.Begins start (.sequence block) →
        ∃ cost ending result,
          Eval machine.limits (.sequence block) machine.store cost ending result := by
      intro start block standing
      cases block with
      | nil => exact ⟨_, _, _, .nil⟩
      | perform action rest =>
          obtain ⟨rfl, present, behind⟩ := standing
          cases performed : action.perform machine.limits machine.store with
          | error cause => exact ⟨_, _, _, .refuse performed⟩
          | ok next =>
              obtain ⟨after, executed, rfl, advanced⟩ := executeOne_of_performed present performed
              have first : Executes 1 machine after := .one executed
              obtain ⟨_, _, _, evaluation⟩ := later (.sequence rest) Nat.one_pos first
                ⟨advanced, first.program_eq ▸ behind⟩
              exact ⟨_, _, _, .perform performed evaluation⟩
      | loop body rest =>
          obtain ⟨atOpening, there⟩ := standing
          obtain ⟨entered, first, kept, enters⟩ := begins_of_bracket there (.inl atOpening)
          obtain ⟨_, ending, result, looped⟩ := later (.iterate body) Nat.one_pos first enters
          rw [kept] at looped
          cases ending with
          | interrupted cause => exact ⟨_, _, _, .loopInterrupted looped⟩
          | complete =>
              obtain ⟨left, path, rfl, loopExit⟩ := looped.simulated first.limits_eq kept enters
              have throughLoop := first.trans path
              obtain ⟨_, _, _, evaluation⟩ := later (.sequence rest) (by omega) throughLoop
                ⟨loopExit, throughLoop.program_eq ▸ there.behind⟩
              exact ⟨_, _, _, .loop looped evaluation⟩
    cases task with
    | sequence block => exact blocks block begins
    | iterate body =>
        by_cases zero : machine.store.current = 0
        · exact ⟨_, _, _, .done zero⟩
        · have atBody := begins.body zero
          obtain ⟨_, ending, result, once⟩ := blocks body atBody
          cases ending with
          | interrupted cause => exact ⟨_, _, _, .bodyInterrupted zero once⟩
          | complete =>
              obtain ⟨passed, bodyPath, rfl, atClosing⟩ := once.simulated rfl rfl atBody
              have closing : passed.instructionPointer = position + body.size + 1 :=
                atClosing.trans (Nat.add_right_comm ..)
              obtain ⟨tested, test, kept, again⟩ :=
                begins_of_bracket (bodyPath.program_eq ▸ begins.2) (.inr closing)
              obtain ⟨_, _, _, repeated⟩ := later (.iterate body) (by omega)
                (bodyPath.trans test) again
              exact ⟨_, _, _, .again zero once (kept ▸ repeated)⟩

namespace Block

/-- A new machine with the program of a block loaded. -/
def loaded (block : Block) (limits : TapeLimits) (input : List Char) : Machine :=
  { Machine.new limits with
    program := block.program
    input
    status := if block.size = 0 then .finished else .running }

variable {block : Block} {limits : TapeLimits} {input : List Char}

/-- Loading a source loads the block that its instructions are the text of. -/
theorem load_eq_loaded {source bytes : List UInt8}
    (text : block.instructions = Instruction.ofBytes source) :
    (Machine.new limits).load source bytes = (block.loaded limits (Utf8.decode bytes), none) := by
  have size : block.program.length = block.size := by simp [Program.length, program]
  simp [Machine.load, Program.compile_eq_program text, loaded, Machine.reset, Machine.new,
    Tape.size, Tape.blank, size]

/-- The run of a loaded machine is that of its text, also where there is no text and
the machine counts as finished at once. -/
theorem runsFor_loaded_iff {count : Nat} {final : Machine} :
    (block.loaded limits input).RunsFor count final ↔
      Stops count (block.loaded limits input).resume final := by
  rw [runsFor_iff]
  by_cases empty : block.size = 0
  · have past : (block.loaded limits input).resume.executeOne =
        .stopped (block.loaded limits input) := by
      refine executeOne_eq_stopped_iff.mpr ⟨.finished, .finished ?_, ?_⟩
      · simpa [loaded, resume, Machine.new, empty] using block.instruction?_program_size
      · simp [loaded, resume, empty]
    have blocked : (block.loaded limits input).canProceed = false := by
      simp [canProceed, loaded, empty, Status.isTerminal]
    have stops : Stops 0 (block.loaded limits input).resume (block.loaded limits input) :=
      ⟨_, .refl, past⟩
    constructor
    · rintro (⟨_, rfl, rfl⟩ | ⟨permitted, _⟩)
      · exact stops
      · simp [blocked] at permitted
    · intro other
      obtain ⟨rfl, rfl⟩ := stops.deterministic other
      exact .inl ⟨blocked, rfl, rfl⟩
  · have permitted : (block.loaded limits input).canProceed = true := by
      simp [canProceed, loaded, empty, Status.isTerminal, Status.isError]
    simp [permitted]

/-- A loaded machine stands in front of its block. -/
theorem begins_loaded : (block.loaded limits input).resume.Begins 0 (.sequence block) :=
  ⟨rfl, block.at_program⟩

/-- An evaluation of the block is the run of the machine that has it loaded. -/
theorem stops_of_eval {cost : Nat} {ending : Ending} {result : Store}
    (evaluation : Eval limits (.sequence block) (.initial limits input) cost ending result) :
    ∃ final, Stops cost (block.loaded limits input).resume final ∧
      final.status = ending.status ∧ final.store = result := by
  obtain ⟨last, path, rfl, ends⟩ := evaluation.simulated rfl rfl begins_loaded
  have halt : Halt last ending.status := by
    cases ending with
    | interrupted cause => exact ends
    | complete =>
        have atEnd : last.instructionPointer = block.size := by simpa [Ends, exit] using ends
        have sameProgram : last.program = block.program := path.program_eq
        exact .finished (by rw [sameProgram, atEnd, instruction?_program_size])
  exact ⟨_, ⟨last, path, executeOne_eq_stopped_iff.mpr ⟨_, halt, rfl⟩⟩, rfl, rfl⟩

/-- Where the run of a loaded machine stops, the evaluation of its block ends with
the same store at the same cost. -/
theorem eval_of_stops {count : Nat} {final : Machine}
    (stops : Stops count (block.loaded limits input).resume final) :
    ∃ ending, final.status = ending.status ∧
      Eval limits (.sequence block) (.initial limits input) count ending final.store := by
  obtain ⟨cost, ending, result, evaluation⟩ :=
    exists_eval_of_stops (.sequence block) stops begins_loaded
  obtain ⟨other, stopsThere, status, rfl⟩ := stops_of_eval evaluation
  obtain ⟨rfl, rfl⟩ := stops.deterministic stopsThere
  exact ⟨ending, status, evaluation⟩

end Block

/-- Every balanced source is the text of exactly one block, and running it is
evaluating that block: a run stops with the status of an ending after a number of
instructions in some store if and only if the evaluation has that ending, cost and
store. The step counter shows the number modulo its width, and a run has no other way
to stop. -/
theorem runsFor_load_iff_eval (source : List UInt8)
    (balanced : Balanced (Instruction.ofBytes source)) :
    ∃ block : Block, block.instructions = Instruction.ofBytes source ∧
      (∀ other : Block, other.instructions = Instruction.ofBytes source → other = block) ∧
      ∀ (limits : TapeLimits) (input : List UInt8) (count : Nat),
        (∀ (ending : Ending) (result : Store),
          (∃ final, ((Machine.new limits).load source input).1.RunsFor count final ∧
            final.status = ending.status ∧ final.store = result) ↔
          Eval limits (.sequence block) (.initial limits (Utf8.decode input)) count ending
            result) ∧
        ∀ final, ((Machine.new limits).load source input).1.RunsFor count final →
          final.steps = UInt64.ofNat count ∧ ∃ ending : Ending, final.status = ending.status := by
  obtain ⟨block, text⟩ := balanced.exists_block
  refine ⟨block, text, fun other same => Block.instructions_injective (same.trans text.symm), ?_⟩
  intro limits input count
  rw [Block.load_eq_loaded text]
  refine ⟨fun ending result => ⟨?_, ?_⟩, ?_⟩
  · rintro ⟨final, runs, status, rfl⟩
    obtain ⟨actual, actualStatus, evaluation⟩ :=
      Block.eval_of_stops (Block.runsFor_loaded_iff.mp runs)
    rw [Ending.status_injective (status.symm.trans actualStatus)]
    exact evaluation
  · intro evaluation
    obtain ⟨final, stops, ended⟩ := Block.stops_of_eval evaluation
    exact ⟨final, Block.runsFor_loaded_iff.mpr stops, ended⟩
  · intro final runs
    obtain ⟨ending, status, _⟩ := Block.eval_of_stops (Block.runsFor_loaded_iff.mp runs)
    exact ⟨by simpa [Block.loaded, Machine.new] using runs.steps_eq, ending, status⟩

/-- The loop that moves the character it has read to the next cell, `,[->+<]`: two
passes through the body after the bracket is entered, twelve instructions in all. -/
theorem eval_moveLoop :
    ∃ block : Block, block.instructions =
        [.read, .loopStart, .decrement, .moveRight, .increment, .moveLeft, .loopEnd] ∧
      Eval ⟨2, 0, 255, by decide, by decide, by decide⟩ (.sequence block)
        (.initial ⟨2, 0, 255, by decide, by decide, by decide⟩ ['\x02']) 12 .complete
        ⟨#[0, 2], 0, [], ""⟩ := by
  obtain ⟨block, text, _, agrees⟩ :=
    runsFor_load_iff_eval [44, 91, 45, 62, 43, 60, 93] (by decide)
  have counted : (((Machine.new ⟨2, 0, 255, by decide, by decide, by decide⟩).load
      [44, 91, 45, 62, 43, 60, 93] [2]).1).advanceCount 13 = 12 := by
    decide +kernel
  have returned : ((((Machine.new ⟨2, 0, 255, by decide, by decide, by decide⟩).load
      [44, 91, 45, 62, 43, 60, 93] [2]).1).run? 13).map (fun final =>
        (final.status, final.store)) = some (.finished, ⟨#[0, 2], 0, [], ""⟩) := by
    decide +kernel
  obtain ⟨final, ran, same⟩ := Option.map_eq_some_iff.mp returned
  obtain ⟨status, store⟩ := Prod.mk.inj same
  exact ⟨block, text, ((agrees _ [2] 12).1 .complete _).mp
    ⟨final, ⟨13, ran, counted⟩, status, store⟩⟩

end TapeDebugger

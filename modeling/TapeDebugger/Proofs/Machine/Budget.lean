import TapeDebugger.Proofs.Machine.StatusMeaning

/-!
# Budgets

A step is given a number of instructions to execute. It executes exactly that many, or fewer for
one of the reasons that `Stuck` lists, and its status tells which: it leaves the machine running
exactly when the number is used up, also when that brings the machine to the end of its program
(`step_honours_budget`).
-/

namespace TapeDebugger

namespace Machine

/-- Why a step from `machine` that ends in `final` has gone no further. -/
inductive Stuck (machine final : Machine) : Prop where
  /-- The machine had stopped for good before the step. -/
  | already (terminal : machine.status.isTerminal = true) (unchanged : final = machine)
  /-- No instruction is left. -/
  | finished (status : final.status = .finished)
      (atEnd : final.instructionPointer = final.program.length)
  /-- The next instruction reads, and nothing is buffered. -/
  | starved (status : final.status = .waitingForInput)
      (next : final.program.instruction? final.instructionPointer = some .read)
      (drained : final.input = [])
  /-- The next instruction adds to a cell that is not below its upper bound. -/
  | overflow (status : final.status = .overflowError)
      (next : final.program.instruction? final.instructionPointer = some .increment)
      (full : final.limits.maxValue ≤ final.cell)
  /-- The next instruction takes from a cell that is not above its lower bound. -/
  | underflow (status : final.status = .underflowError)
      (next : final.program.instruction? final.instructionPointer = some .decrement)
      (empty : final.cell ≤ final.limits.minValue)

/-- A step by `count` has executed `executed` instructions. -/
structure Stepped (machine : Machine) (count : Int64) (final : Machine) (executed : Nat) :
    Prop where
  within : executed ≤ count.toInt
  /-- Where the instructions lead the step ends, with nothing but the status set. -/
  executes : ∃ last, Executes executed machine.resume last ∧
    final = { last with status := final.status }
  counted : final.steps - machine.steps = UInt64.ofNat executed
  running_iff : final.status = .running ↔ executed = count.toInt
  stuck : executed < count.toInt → Stuck machine final

variable {machine last final : Machine}

/-- A halt leaves a machine that is stuck. -/
theorem Halt.stuck {status : Status} (halt : Halt last status) (intact : last.Intact) :
    Stuck machine { last with status } := by
  cases halt with
  | finished past =>
      have passed : last.program.length ≤ last.instructionPointer :=
        Array.getElem?_eq_none_iff.mp past
      exact .finished rfl (Nat.le_antisymm intact.instructionPointer_le passed)
  | overflow next full => exact .overflow rfl next full
  | underflow next empty => exact .underflow rfl next empty
  | starved next drained => exact .starved rfl next drained

/-- A machine that may not go on is stuck where it is. -/
theorem Truthful.stuck (truthful : machine.Truthful) (blocked : machine.canProceed = false) :
    Stuck machine machine := by
  by_cases terminal : machine.status.isTerminal = true
  · exact .already terminal rfl
  · have waiting : machine.status = .waitingForInput := by
      apply Decidable.byContradiction
      intro awake
      simp [canProceed, terminal, awake] at blocked
    obtain ⟨drained, next⟩ := truthful.drained waiting
    exact .starved waiting next drained

/-- The difference that instructions make to a counter that goes around its width. -/
theorem steps_sub {steps : UInt64} {executed : Nat} :
    steps + UInt64.ofNat executed - steps = UInt64.ofNat executed := by
  rw [UInt64.add_comm, UInt64.add_sub_cancel]

/-- What a step by a positive count has done. -/
theorem exists_stepped (truthful : machine.Truthful) (intact : machine.Intact) {count : Int64}
    (positive : 0 < count) : ∃ executed, Stepped machine count (machine.step count) executed := by
  have unclamped : (count.toNatClampNeg : Int) = count.toInt := by
    have above : 0 < count.toInt := Int64.lt_iff_toInt_lt.mp positive
    rw [coe_toNatClampNeg]
    exact Int.max_eq_left (Int.le_of_lt above)
  have effective := toNatClampNeg_pos positive
  rw [step_of_pos positive]
  rcases advance_cases machine count.toNatClampNeg with
    ⟨blocked, same, _⟩ | ⟨_, path, _⟩ | ⟨_, executed, less, stops, _⟩
  · rw [same]
    refine ⟨0, by omega, ⟨machine.resume, .refl, rfl⟩, by simp, ?_, fun _ => truthful.stuck blocked⟩
    exact iff_of_false (status_ne_running_of_blocked blocked) (by omega)
  · refine ⟨count.toNatClampNeg, by omega, ⟨_, path, rfl⟩, ?_, iff_of_true path.status_eq unclamped,
      fun less => by omega⟩
    rw [path.steps_eq]
    exact steps_sub
  · obtain ⟨last, status, path, halt, ended⟩ := stops.halted
    rw [ended]
    refine ⟨executed, by omega, ⟨last, path, rfl⟩, ?_, ?_, fun _ => ?_⟩
    · rw [path.steps_eq]
      exact steps_sub
    · exact iff_of_false halt.status_ne_running (by omega)
    · exact halt.stuck ((intact.withStatus .running).executes path)

end Machine

open Machine

/-- A step of a reachable machine by a positive count executes some number of instructions up to
the count, by which its step counter goes on, and leaves the machine running exactly if that is the
count; if it is less, the machine is stuck. A count below one changes nothing. -/
theorem step_honours_budget (limits : TapeLimits) {machine : Machine}
    (reachable : Reachable limits machine) (count : Int64) :
    (1 ≤ count → ∃ executed, Stepped machine count (machine.step count) executed) ∧
      (count ≤ 0 → machine.step count = machine) := by
  constructor
  · intro least
    exact exists_stepped (Truthful.of_reachable reachable) (Intact.of_reachable reachable)
      (pos_of_one_le least)
  · intro small
    rw [Machine.step, if_pos small]

/-- With cells up to two, `+++` is left running in front of its last instruction by a step of two,
and a step of five gets no further. -/
theorem step_honours_budget_overflow :
    ∃ machine, Reachable ⟨1, 0, 2, by decide, by decide, by decide⟩ machine ∧
      Stepped machine 2 (machine.step 2) 2 ∧ (machine.step 2).status = .running ∧
      Stepped machine 5 (machine.step 5) 2 ∧ (machine.step 5).status = .overflowError := by
  let machine := ((Machine.new ⟨1, 0, 2, by decide, by decide, by decide⟩).load [43, 43, 43] []).1
  have reachable : Reachable ⟨1, 0, 2, by decide, by decide, by decide⟩ machine :=
    ⟨[.load [43, 43, 43] []], .cons rfl .nil⟩
  -- The number of instructions is read off the counter.
  have executedTwo : ∀ {count executed}, Stepped machine count (machine.step count) executed →
      count.toInt ≤ 5 → (machine.step count).steps - machine.steps = 2 → executed = 2 := by
    intro count executed stepped small counted
    have same := congrArg UInt64.toNat (stepped.counted.symm.trans counted)
    have fits : executed < UInt64.size := by
      have within := stepped.within
      rw [UInt64.size]
      omega
    rwa [UInt64.toNat_ofNat_of_lt' fits] at same
  obtain ⟨two, ranTwo⟩ := (step_honours_budget _ reachable 2).1 (by decide)
  obtain ⟨five, ranFive⟩ := (step_honours_budget _ reachable 5).1 (by decide)
  obtain rfl := executedTwo ranTwo (by decide) (by decide +kernel)
  obtain rfl := executedTwo ranFive (by decide) (by decide +kernel)
  exact ⟨machine, reachable, ranTwo, by decide +kernel, ranFive, by decide +kernel⟩

end TapeDebugger

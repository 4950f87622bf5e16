import TapeDebugger.Proofs.Machine.Execution
import TapeDebugger.Proofs.Word

/-!
# Stepping

How a number of instructions is cut into steps does not show. Steps by positive counts are
one advance by all they allow (`stepEach_eq_advance`), wherever the cuts fall: inside a loop,
on the last instruction, or in front of one that stops the machine. A run is therefore what
any steps lead to that bring the machine to a stop.
-/

namespace TapeDebugger.Machine

/-- Step by each of the counts in turn. -/
def stepEach (machine : Machine) (counts : List Int64) : Machine :=
  counts.foldl step machine

/-- The instructions that the counts allow altogether. -/
def allowance : List Int64 → Nat
  | [] => 0
  | count :: rest => count.toNatClampNeg + allowance rest

/-- The allowances of successive counts add up. -/
theorem allowance_append (counts more : List Int64) :
    allowance (counts ++ more) = allowance counts + allowance more := by
  induction counts with
  | nil => simp [allowance]
  | cons count rest inductionHypothesis =>
      rw [List.cons_append, allowance, allowance, inductionHypothesis, Nat.add_assoc]

/-- The same count over and over allows its multiple. -/
theorem allowance_replicate (times : Nat) (count : Int64) :
    allowance (.replicate times count) = times * count.toNatClampNeg := by
  induction times with
  | zero => simp [allowance]
  | succ times inductionHypothesis =>
      rw [List.replicate_succ, allowance, inductionHypothesis, Nat.succ_mul, Nat.add_comm]

variable {machine final : Machine}

/-- Positive counts, one after another, are one advance by all they allow. There has to be one:
an advance by nothing still sets the status, and no step at all does not. -/
theorem stepEach_eq_advance {counts : List Int64} (nonempty : counts ≠ [])
    (positive : ∀ count ∈ counts, 0 < count) :
    machine.stepEach counts = machine.advance (allowance counts) := by
  induction counts generalizing machine with
  | nil => exact absurd rfl nonempty
  | cons count rest inductionHypothesis =>
      have first : machine.step count = machine.advance count.toNatClampNeg :=
        step_of_pos (positive count (List.mem_cons_self ..))
      by_cases last : rest = []
      · subst last
        simpa [stepEach, allowance] using first
      · have continued := @inductionHypothesis (machine.advance count.toNatClampNeg) last
          (fun other member => positive other (List.mem_cons_of_mem _ member))
        calc machine.stepEach (count :: rest)
            = (machine.step count).stepEach rest := rfl
          _ = (machine.advance count.toNatClampNeg).advance (allowance rest) := by
                rw [first, continued]
          _ = machine.advance (allowance (count :: rest)) := by rw [advance_advance, allowance]

/-- A machine that may not go on stays where it is, however often it is stepped. -/
theorem stepEach_of_blocked (blocked : machine.canProceed = false) (counts : List Int64) :
    machine.stepEach counts = machine := by
  induction counts with
  | nil => rfl
  | cons count rest inductionHypothesis =>
      rw [stepEach, List.foldl_cons, step_of_blocked blocked]
      exact inductionHypothesis

/-- Stepping first does not show in what a run returns. -/
theorem runsTo_stepEach_iff (counts : List Int64) :
    (machine.stepEach counts).RunsTo final ↔ machine.RunsTo final := by
  induction counts generalizing machine with
  | nil => rfl
  | cons count rest inductionHypothesis =>
      rw [stepEach, List.foldl_cons, ← stepEach, inductionHypothesis]
      by_cases small : count ≤ 0
      · rw [step, if_pos small]
      · rw [step, if_neg small, runsTo_advance_iff]

/-- Stepping twice is stepping by both counts at once. -/
theorem step_step {first second : Int64} (firstNonnegative : 0 ≤ first)
    (secondNonnegative : 0 ≤ second) (fits : first.toInt + second.toInt ≤ Int64.maxValue.toInt) :
    (machine.step first).step second = machine.step (first + second) := by
  by_cases firstZero : first = 0
  · simp [firstZero, step]
  by_cases secondZero : second = 0
  · simp [secondZero, step]
  have firstPositive := Int64.lt_of_le_of_ne firstNonnegative (Ne.symm firstZero)
  have secondPositive := Int64.lt_of_le_of_ne secondNonnegative (Ne.symm secondZero)
  have sum := toNatClampNeg_add firstNonnegative secondNonnegative fits
  have sumPositive : 0 < first + second := by
    apply pos_of_toNatClampNeg_pos
    rw [sum]
    exact Nat.add_pos_left (toNatClampNeg_pos firstPositive) _
  rw [step_of_pos firstPositive, step_of_pos secondPositive, step_of_pos sumPositive, sum,
    advance_advance]

/-- A run ends where any steps do that bring the machine to a stop. -/
theorem runsTo_iff_stepEach :
    machine.RunsTo final ↔
      ∃ counts, counts ≠ [] ∧ (∀ count ∈ counts, 1 ≤ count) ∧
        machine.stepEach counts = final ∧ final.status ≠ .running := by
  rw [runsTo_iff_advance]
  constructor
  · rintro ⟨budget, rfl, stopped⟩
    -- Single steps reach every budget, also one that is no 64-bit count.
    let singles := List.replicate (budget + 1) (1 : Int64)
    have ones : ∀ count ∈ singles, count = 1 := fun _ => List.eq_of_mem_replicate
    have total : allowance singles = budget + 1 := by
      simp [singles, allowance_replicate]
    have reached : machine.stepEach singles = machine.advance budget := by
      rw [stepEach_eq_advance (by simp [singles]) (fun count member => by simp [ones count member]),
        total, advance_eq_of_le stopped (Nat.le_succ budget)]
    exact ⟨singles, by simp [singles], fun count member => by simp [ones count member], reached,
      stopped⟩
  · rintro ⟨counts, nonempty, atLeastOne, rfl, stopped⟩
    have positive : ∀ count ∈ counts, 0 < count :=
      fun count member => pos_of_one_le (atLeastOne count member)
    rw [stepEach_eq_advance nonempty positive] at stopped ⊢
    exact ⟨_, rfl, stopped⟩

/-- Where a run ends, the machine may not go on. -/
theorem RunsTo.blocked (runs : machine.RunsTo final) : final.canProceed = false := by
  obtain ⟨budget, rfl, stopped⟩ := runsTo_iff_advance.mp runs
  exact blocked_of_advance stopped

/-- Stepping composes, from every machine whatsoever: two steps are one by the sum of their
counts, a run returns exactly what any positive steps lead to that bring the machine to a
stop, and no further step moves it from there. -/
theorem step_step_and_runsTo_iff (machine : Machine) :
    (∀ first second : Int64, 0 ≤ first → 0 ≤ second →
      first.toInt + second.toInt ≤ Int64.maxValue.toInt →
      (machine.step first).step second = machine.step (first + second)) ∧
    (∀ final, machine.RunsTo final ↔
      ∃ counts, counts ≠ [] ∧ (∀ count ∈ counts, 1 ≤ count) ∧
        machine.stepEach counts = final ∧ final.status ≠ .running) ∧
    ∀ final, machine.RunsTo final → ∀ further, final.stepEach further = final := by
  refine ⟨?_, ?_, ?_⟩
  · intro first second firstNonnegative secondNonnegative fits
    exact step_step firstNonnegative secondNonnegative fits
  · intro final
    exact runsTo_iff_stepEach
  · intro final runs further
    exact stepEach_of_blocked runs.blocked further

/-- `+++[-]` takes ten instructions. Ten leave it running at its end, in whatever steps they
are taken, and one more finds it finished. -/
theorem step_step_and_runsTo_iff_countdown :
    ∃ machine final : Machine,
      machine = ((Machine.new ⟨1, 0, 3, by decide, by decide, by decide⟩).load
        [43, 43, 43, 91, 45, 93] []).1 ∧
      (machine.step 4).step 6 = machine.step 10 ∧ (machine.step 10).status = .running ∧
      machine.stepEach [4, 6, 1] = final ∧ machine.RunsTo final ∧
      final.status = .finished ∧ final.stepEach [1, 0, 5] = final := by
  let machine := ((Machine.new ⟨1, 0, 3, by decide, by decide, by decide⟩).load
    [43, 43, 43, 91, 45, 93] []).1
  have finished : (machine.stepEach [4, 6, 1]).status = .finished := by decide +kernel
  obtain ⟨composes, returns, stays⟩ := step_step_and_runsTo_iff machine
  have runs : machine.RunsTo (machine.stepEach [4, 6, 1]) :=
    (returns _).mpr ⟨[4, 6, 1], by simp, by simp, rfl, by simp [finished]⟩
  exact ⟨machine, _, rfl, composes 4 6 (by decide) (by decide) (by decide), by decide +kernel,
    rfl, runs, finished, stays _ runs [1, 0, 5]⟩

end TapeDebugger.Machine

import TapeDebugger.Proofs.Machine.Execution

/-!
# Sequences of calls

A machine is driven by calls: some replace its program, the others (`Command`) work
on the program that is loaded. `Call.Returns` relates a machine to the one a call
leaves; only a run may fail to return. `Performs` is a whole sequence of calls and
`Reachable` what any of them can lead to.
-/

namespace TapeDebugger

/-- A call that works on the loaded program. -/
inductive Command where
  | step (count : Int64)
  | run
  | addInput (input : List UInt8)
deriving DecidableEq

/-- A call of a machine. -/
inductive Call where
  | load (source input : List UInt8)
  | reset
  | command (given : Command)
deriving DecidableEq

/-- The characters that a command puts into the input buffer. -/
def Command.characters : Command → List Char
  | addInput input => Utf8.decode input
  | _ => []

/-- The characters that a call puts into the input buffer. -/
def Call.characters : Call → List Char
  | load _ input => Utf8.decode input
  | reset => []
  | command given => given.characters

/-- A command returns and leaves the machine `final`. -/
def Command.Returns : Command → (machine final : Machine) → Prop
  | step count, machine, final => final = machine.step count
  | run, machine, final => machine.RunsTo final
  | addInput input, machine, final => final = machine.addInput input

/-- A call returns and leaves the machine `final`. -/
def Call.Returns : Call → (machine final : Machine) → Prop
  | load source input, machine, final => final = (machine.load source input).1
  | reset, machine, final => final = machine.reset
  | command given, machine, final => given.Returns machine final

/-- All calls of a sequence return, one after another. -/
inductive Performs : List Call → (machine final : Machine) → Prop where
  | nil {machine} : Performs [] machine machine
  | cons {call calls machine next final} (first : call.Returns machine next)
      (rest : Performs calls next final) : Performs (call :: calls) machine final

/-- Some sequence of calls leads from a new machine to this one. -/
def Reachable (limits : TapeLimits) (machine : Machine) : Prop :=
  ∃ calls, Performs calls (.new limits) machine

/-- A command does nothing, advances the machine or adds to its input. -/
theorem Command.Returns.cases {command : Command} {machine final : Machine}
    (returned : command.Returns machine final) :
    final = machine ∨ (∃ budget, final = machine.advance budget) ∨
      ∃ input, command = .addInput input ∧ final = machine.addInput input := by
  cases command with
  | step count =>
      have result : final = machine.step count := returned
      by_cases small : count ≤ 0
      · exact .inl (by rw [result, Machine.step, if_pos small])
      · have positive := Int64.not_le.mp small
        exact .inr (.inl ⟨_, result.trans (Machine.step_of_pos positive)⟩)
  | run =>
      obtain ⟨budget, advanced, _⟩ := Machine.runsTo_iff_advance.mp returned
      exact .inr (.inl ⟨budget, advanced⟩)
  | addInput input => exact .inr (.inr ⟨input, rfl, returned⟩)

/-- A sequence of calls has one result. -/
theorem Performs.deterministic {calls : List Call} {machine final other : Machine}
    (left : Performs calls machine final) (right : Performs calls machine other) :
    final = other := by
  induction left with
  | nil =>
      cases right
      rfl
  | @cons call calls machine next final first _ inductionHypothesis =>
      cases right with
      | @cons _ _ _ nextRight _ firstRight rest =>
          have same : next = nextRight := by
            cases call with
            | load source input => exact first.trans firstRight.symm
            | reset => exact first.trans firstRight.symm
            | command given =>
                cases given with
                | step count => exact first.trans firstRight.symm
                | run => exact Machine.RunsTo.deterministic first firstRight
                | addInput input => exact first.trans firstRight.symm
          subst same
          exact inductionHypothesis rest

/-- One more call behind a sequence. -/
theorem Performs.concat {calls : List Call} {call : Call} {machine middle final : Machine}
    (performed : Performs calls machine middle) (last : call.Returns middle final) :
    Performs (calls ++ [call]) machine final := by
  induction performed with
  | nil => exact .cons last .nil
  | cons first _ inductionHypothesis => exact .cons first (inductionHypothesis last)

/-- What every call of a sequence keeps, the sequence keeps. -/
theorem Performs.preserves {calls : List Call} {machine final : Machine}
    (property : Machine → Prop)
    (preserved : ∀ call ∈ calls, ∀ {before after}, call.Returns before after →
      property before → property after)
    (performed : Performs calls machine final) (holds : property machine) : property final := by
  induction performed with
  | nil => exact holds
  | cons first _ inductionHypothesis =>
      have next := preserved _ (List.mem_cons_self ..) first holds
      exact inductionHypothesis (fun call member => preserved call (List.mem_cons_of_mem _ member))
        next

/-- No call changes the limits. -/
theorem Call.Returns.limits_eq {call : Call} {machine final : Machine}
    (returned : call.Returns machine final) : final.limits = machine.limits := by
  cases call with
  | load source input =>
      have result : final = (machine.load source input).1 := returned
      rw [result, Machine.load]
      cases Program.compile source <;> rfl
  | reset =>
      have result : final = machine.reset := returned
      rw [result]
      rfl
  | command given =>
      rcases Command.Returns.cases returned with rfl | ⟨budget, rfl⟩ | ⟨input, _, rfl⟩
      · rfl
      · exact (machine.advance_frame budget).1
      · rfl

/-- No call changes the limits. -/
theorem Performs.limits_eq {calls : List Call} {machine final : Machine}
    (performed : Performs calls machine final) : final.limits = machine.limits :=
  performed.preserves (fun after => after.limits = machine.limits)
    (fun _ _ _ _ returned same => returned.limits_eq.trans same) rfl

/-- A reachable machine has the limits it was made with. -/
theorem Reachable.limits_eq {limits : TapeLimits} {machine : Machine}
    (reachable : Reachable limits machine) : machine.limits = limits := by
  obtain ⟨calls, performed⟩ := reachable
  exact performed.limits_eq

end TapeDebugger

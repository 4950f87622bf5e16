import TapeDebugger.Proofs.Executor.Reachable

/-!
# Chains of calls

A chain does what its calls do one after the other, each in the session and the context that the
one before has left, up to a cancellation between two of them or a failure that is meant to end
it; from there on nothing is done (`chains_are_calls_in_turn`).
-/

namespace TapeDebugger

/-- Whether a fault, or one that it wraps, is of some kind. -/
inductive CallFault.Finds (kind : CallFault → Prop) : CallFault → Prop where
  | here {fault} (found : kind fault) : Finds kind fault
  | inside {index identifier cause} (found : Finds kind cause) :
      Finds kind (.atStep index identifier cause)

namespace Executor

/-- A chain returns, and leaves `outcome` behind. -/
def ChainReturns (executor : Executor) (context : Context) (steps : List ChainStep)
    (outcome : ChainOutcome) : Prop :=
  ∃ fuel, executor.runChain fuel context steps = some outcome

/-- The step of some index has been called, and ends the chain. -/
def EndsAt (steps : List ChainStep) (calls : List CallOutcome) (index : Nat) : Prop :=
  ∃ step call, steps[index]? = some step ∧ calls[index]? = some call ∧ Ends step call

variable {executor : Executor} {context : Context} {steps : List ChainStep}

section Endings

variable {left : Context} {index : Nat} {calls : List CallOutcome} {last final : CallResult}
  {fault : Option CallFault}

/-- A chain without calls ends nowhere. -/
@[simp] theorem not_endsAt_nil (position : Nat) : ¬ EndsAt steps [] position := by
  simp [EndsAt]

/-- A chain ends at its first call when that call ends it. -/
@[simp] theorem endsAt_zero {step : ChainStep} {call : CallOutcome} :
    EndsAt (step :: steps) (call :: calls) 0 ↔ Ends step call := by
  simp [EndsAt]

/-- A chain ends at a later call where the rest of it does. -/
@[simp] theorem endsAt_succ {step : ChainStep} {call : CallOutcome} {position : Nat} :
    EndsAt (step :: steps) (call :: calls) (position + 1) ↔ EndsAt steps calls position :=
  Iff.rfl

/-- None of some calls ends a chain if neither the first does nor a later one. -/
theorem not_endsAt_cons {step : ChainStep} {call : CallOutcome} (goesOn : ¬ Ends step call)
    (later : ∀ position, ¬ EndsAt steps calls position) (position : Nat) :
    ¬ EndsAt (step :: steps) (call :: calls) position := by
  cases position with
  | zero => simpa using goesOn
  | succ position => simpa using later position

/-- A chain makes no more calls than it has steps. -/
theorem Ending.length_le (ending : Ending left index steps calls last final fault) :
    calls.length ≤ steps.length := by
  induction ending with
  | completed => exact Nat.le_refl 0
  | canceled => exact Nat.zero_le _
  | stopped => exact Nat.succ_le_succ (Nat.zero_le _)
  | next _ _ inductionHypothesis => exact Nat.succ_le_succ inductionHypothesis

/-- A chain that ends with a call ends with its last one. -/
theorem Ending.not_endsAt (ending : Ending left index steps calls last final fault)
    {position : Nat} (before : position + 1 < calls.length) : ¬ EndsAt steps calls position := by
  induction ending generalizing position with
  | completed | canceled | stopped => simp at before
  | next goesOn _ inductionHypothesis =>
      cases position with
      | zero => simpa using goesOn
      | succ position => exact inductionHypothesis (Nat.lt_of_succ_lt_succ before)

/-- A chain that no call ends comes to its end or is canceled before; otherwise its last call has
ended it, and the fault names the step. -/
theorem Ending.fault_eq (ending : Ending left index steps calls last final fault) :
    (fault = none ∧ calls.length = steps.length ∧ (∀ position, ¬ EndsAt steps calls position)) ∨
    (fault = some .canceled ∧ calls.length < steps.length ∧ left.poll = none ∧
      ∀ position, ¬ EndsAt steps calls position) ∨
    ∃ position step call cause, position + 1 = calls.length ∧ steps[position]? = some step ∧
      calls[position]? = some call ∧ call.result.fault = some cause ∧ step.stops = true ∧
      fault = some (.atStep (index + position) step.identifier cause) := by
  induction ending with
  | completed => exact .inl ⟨rfl, rfl, by simp⟩
  | canceled canceled => exact .inr (.inl ⟨rfl, Nat.succ_pos _, canceled, by simp⟩)
  | stopped failed stops => exact .inr (.inr ⟨0, _, _, _, rfl, rfl, rfl, failed, stops, rfl⟩)
  | next goesOn _ inductionHypothesis =>
      rcases inductionHypothesis with ⟨complete, length, later⟩ | ⟨canceled, less, poll, later⟩ |
        ⟨position, stopping, failing, cause, length, atStep, atCall, failed, stops, named⟩
      · exact .inl ⟨complete, congrArg (· + 1) length, not_endsAt_cons goesOn later⟩
      · exact .inr (.inl ⟨canceled, Nat.succ_lt_succ less, poll, not_endsAt_cons goesOn later⟩)
      · refine .inr (.inr ⟨position + 1, stopping, failing, cause, congrArg (· + 1) length, atStep,
          atCall, failed, stops, ?_⟩)
        rw [named, Nat.add_right_comm, Nat.add_assoc]

/-- A chain succeeds when all of its steps are called and the last call does not end it. -/
theorem Ending.fault_eq_none_iff (ending : Ending left index steps calls last final fault) :
    fault = none ↔
      calls.length = steps.length ∧
        ∀ position, position + 1 = calls.length → ¬ EndsAt steps calls position := by
  constructor
  · rintro rfl
    rcases ending.fault_eq with ⟨_, length, goesOn⟩ | ⟨canceled, _⟩ |
      ⟨_, _, _, _, _, _, _, _, _, stopped⟩
    · exact ⟨length, fun position _ => goesOn position⟩
    · cases canceled
    · cases stopped
  · rintro ⟨length, goesOn⟩
    rcases ending.fault_eq with ⟨complete, _⟩ | ⟨_, less, _⟩ |
      ⟨position, step, call, cause, atLast, atStep, atCall, failed, stops, _⟩
    · exact complete
    · exact absurd length (Nat.ne_of_lt less)
    · exact absurd ⟨step, call, atStep, atCall, by simp [failed], stops⟩ (goesOn position atLast)

/-- A chain reports its last call, or what ended it. -/
theorem Ending.final_eq (ending : Ending left index steps calls last final fault) :
    (fault = none → final = (calls.map (·.result)).getLastD last) ∧
      ∀ cause, fault = some cause → final.fault = some cause ∧ final.value = .absent := by
  induction ending with
  | completed => exact ⟨fun _ => rfl, nofun⟩
  | canceled | stopped => exact ⟨nofun, fun _ same => ⟨same, rfl⟩⟩
  | next _ _ inductionHypothesis =>
      refine ⟨fun complete => ?_, inductionHypothesis.2⟩
      rw [inductionHypothesis.1 complete, List.map_cons, List.getLastD_cons]

end Endings

section Returning

variable {config : SessionConfig} {fuel more index : Nat} {last : CallResult}

/-- A chain that returns returns the same with more fuel. -/
theorem runSteps_of_le {outcome : ChainOutcome} (reachable : Reachable config executor)
    (returned : runSteps fuel index steps last executor context = some outcome)
    (enough : fuel ≤ more) :
    runSteps more index steps last executor context = some outcome := by
  induction steps generalizing index last executor context outcome with
  | nil => exact returned
  | cons step steps inductionHypothesis =>
      rw [runSteps] at returned ⊢
      cases poll : context.poll with
      | none => simpa [poll] using returned
      | some polled =>
          simp only [poll] at returned ⊢
          cases called : executor.runTool fuel polled step.identifier step.arguments with
          | none => simp [called] at returned
          | some call =>
              rw [runTool_of_le reachable.connected_and_reachable.1 called enough]
              simp only [called] at returned ⊢
              cases ended : call.result.fault.filter fun _ => step.stops with
              | some cause => simpa [ended] using returned
              | none =>
                  simp only [ended] at returned ⊢
                  obtain ⟨chain, continued, rfl⟩ := Option.map_eq_some_iff.mp returned
                  rw [inductionHypothesis (reachable.called called) continued, Option.map_some]

/-- A chain hangs in a call that does not return, behind others that do and do not end it. -/
def Hangs (executor : Executor) (context : Context) (steps : List ChainStep) : Prop :=
  ∃ done step rest calls last left polled,
    steps = done ++ step :: rest ∧ CallsInTurn executor context done calls last left ∧
      (∀ position, ¬ EndsAt done calls position) ∧ left.poll = some polled ∧
      ∀ call, ¬ last.ToolReturns polled step.identifier step.arguments call

/-- Behind a call that does not end it, a chain hangs where what is left of it hangs. -/
theorem Hangs.cons {polled : Context} {step : ChainStep} {call : CallOutcome}
    (hangs : call.executor.Hangs call.context steps) (poll : context.poll = some polled)
    (returned : executor.ToolReturns polled step.identifier step.arguments call)
    (goesOn : ¬ Ends step call) : executor.Hangs context (step :: steps) := by
  obtain ⟨done, stuck, rest, calls, last, left, before, rfl, inTurn, noEnd, live, endless⟩ := hangs
  exact ⟨step :: done, stuck, rest, call :: calls, last, left, before, rfl,
    .cons poll returned inTurn, not_endsAt_cons goesOn noEnd, live, endless⟩

/-- A chain returns unless it hangs in one of its calls. -/
theorem runSteps_returns_or_hangs (reachable : Reachable config executor) :
    (∃ fuel outcome, runSteps fuel index steps last executor context = some outcome) ∨
      executor.Hangs context steps := by
  induction steps generalizing index last executor context with
  | nil => exact .inl ⟨0, _, rfl⟩
  | cons step steps inductionHypothesis =>
      simp only [runSteps]
      cases poll : context.poll with
      | none => exact .inl ⟨0, _, rfl⟩
      | some polled =>
          by_cases returns :
              ∃ call, executor.ToolReturns polled step.identifier step.arguments call
          · obtain ⟨call, fuel, called⟩ := returns
            cases ended : call.result.fault.filter fun _ => step.stops with
            | some cause => exact .inl ⟨fuel, by simp [called, ended]⟩
            | none =>
                have after := reachable.called called
                rcases @inductionHypothesis _ call.context (index + 1) call.result after with
                  ⟨later, chain, continued⟩ | hangs
                · -- The call and the rest may need different fuel; the larger is enough for both.
                  have called := runTool_of_le reachable.connected_and_reachable.1 called
                    (Nat.le_max_left fuel later)
                  have continued := runSteps_of_le after continued (Nat.le_max_right fuel later)
                  exact .inl ⟨max fuel later, by simp [called, ended, continued]⟩
                · exact .inr (hangs.cons poll ⟨fuel, called⟩ (filter_eq_none_iff.mp ended))
          · exact .inr ⟨[], step, steps, [], executor, context, polled, rfl, .nil, by simp, poll,
              fun call returned => returns ⟨call, returned⟩⟩

end Returning

/-- What is true of a chain that has made some calls. -/
structure Chained (executor : Executor) (context : Context) (steps : List ChainStep)
    (calls : List CallOutcome) (outcome : ChainOutcome) : Prop where
  /-- The calls are those of the first steps, -/
  length_le : calls.length ≤ steps.length
  /-- in turn, and the chain leaves what the last of them has left. -/
  inTurn : CallsInTurn executor context (steps.take calls.length) calls outcome.executor
    outcome.context
  /-- There is one result for each step: -/
  length_results : outcome.results.length = steps.length
  /-- that of its call, -/
  called : ∀ index step call, steps[index]? = some step → calls[index]? = some call →
    outcome.results[index]? = some (ChainResult.ofCall index step call)
  /-- or none, if it was not called. -/
  skipped : ∀ index step, steps[index]? = some step → calls.length ≤ index →
    outcome.results[index]? = some (ChainResult.ofSkipped index step)
  /-- Only the last call may end the chain. -/
  goesOn : ∀ index, index + 1 < calls.length → ¬ EndsAt steps calls index
  /-- The chain succeeds when every step is called and the last call does not end it either. -/
  succeeds_iff : outcome.fault = none ↔
    calls.length = steps.length ∧ ∀ index, index + 1 = calls.length → ¬ EndsAt steps calls index
  /-- Otherwise it was canceled before the next step, or the last call has failed, and its fault
  is found in that of the chain. -/
  fails : ∀ fault, outcome.fault = some fault →
    (fault = .canceled ∧ calls.length < steps.length ∧ outcome.context.poll = none ∧
      ∀ index, ¬ EndsAt steps calls index) ∨
    ∃ index step call cause, index + 1 = calls.length ∧ steps[index]? = some step ∧
      calls[index]? = some call ∧ call.result.fault = some cause ∧ step.stops = true ∧
      fault = .atStep index step.identifier cause ∧ ∀ kind, cause.Finds kind → fault.Finds kind
  /-- The records are those of the calls, -/
  records_eq : outcome.records = calls.flatMap (·.record.toList)
  /-- and the result is that of the last call, -/
  final_eq : outcome.fault = none → outcome.final = (calls.map (·.result)).getLastD .blank
  /-- or only tells what ended the chain. -/
  final_fails : ∀ fault, outcome.fault = some fault →
    outcome.final.fault = some fault ∧ outcome.final.value = .absent

/-- A chain is nothing but the calls of its first steps in turn. Unless one of them does not
return, it returns, with what it has made of them and of the steps it has not come to. -/
theorem chains_are_calls_in_turn {config : SessionConfig} {executor : Executor}
    (reachable : Reachable config executor) (context : Context) (steps : List ChainStep) :
    (∀ outcome, executor.ChainReturns context steps outcome →
      ∃ calls, executor.Chained context steps calls outcome) ∧
    ((∃ outcome, executor.ChainReturns context steps outcome) ∨ executor.Hangs context steps) := by
  constructor
  · rintro outcome ⟨fuel, returned⟩
    obtain ⟨calls, inTurn, results, records, ending⟩ := exists_calls returned
    refine ⟨calls, {
      length_le := ending.length_le
      inTurn
      length_results := results ▸ length_resultsFrom
      called := ?_
      skipped := ?_
      goesOn := fun index => ending.not_endsAt
      succeeds_iff := ending.fault_eq_none_iff
      fails := ?_
      records_eq := records
      final_eq := ending.final_eq.1
      final_fails := ending.final_eq.2 }⟩
    · intro index step call atStep atCall
      simp [results, getElem?_resultsFrom, atStep, atCall]
    · intro index step atStep beyond
      simp [results, getElem?_resultsFrom, atStep, List.getElem?_eq_none beyond]
    · intro fault ended
      rcases ending.fault_eq with ⟨complete, _⟩ | ⟨canceled, less, poll, goesOn⟩ |
        ⟨index, step, call, cause, atLast, atStep, atCall, failed, stops, stopped⟩
      · rw [complete] at ended
        cases ended
      · rw [canceled] at ended
        cases ended
        exact .inl ⟨rfl, less, poll, goesOn⟩
      · rw [stopped, Nat.zero_add] at ended
        cases ended
        exact .inr ⟨index, step, call, cause, atLast, atStep, atCall, failed, stops, rfl,
          fun kind => .inside⟩
  · rcases runSteps_returns_or_hangs reachable with ⟨fuel, outcome, returned⟩ | hangs
    · exact .inl ⟨outcome, fuel, returned⟩
    · exact .inr hangs

/-- Behind a reset and the call of a tool that does not exist, a chain skips its third step. -/
theorem chains_are_calls_in_turn_stopped :
    ∃ executor outcome calls, Reachable { tapeSize := 1 } executor ∧
      executor.ChainReturns .background
        [⟨"reset", none, none⟩, ⟨"undo", none, none⟩, ⟨"reset", none, none⟩] outcome ∧
      outcome.fault = some (.atStep 1 "undo" .toolNotFound) ∧
      CallsInTurn executor .background [⟨"reset", none, none⟩, ⟨"undo", none, none⟩] calls
        outcome.executor outcome.context ∧
      outcome.results[2]? = some (ChainResult.ofSkipped 2 ⟨"reset", none, none⟩) := by
  obtain ⟨session, reachable⟩ : ∃ session, Session.Reachable { tapeSize := 1 } session :=
    ⟨_, .created rfl⟩
  obtain ⟨executor, created⟩ := exists_create session (by decide : Registry.isValidName "tape")
  have made : Reachable { tapeSize := 1 } executor := .created rfl reachable created
  let behind : CallOutcome :=
    executor.answered "reset" .reset ((executor.session.reset .background).map .status)
  have resets : executor.runTool 0 .background "reset" none = some behind := by
    have routed : executor.route "reset" = .ok .reset := executor.route_name .reset
    rw [runTool_eq made.connected_and_reachable.1, routed]
    rfl
  have fails : behind.executor.runTool 0 .background "undo" none =
      some (behind.executor.failed .background "undo" .toolNotFound) := by
    have lost : behind.executor.route "undo" = .error .toolNotFound :=
      behind.executor.route_bare (by decide) (by decide)
    rw [runTool_eq (made.called resets).connected_and_reachable.1, lost]
  obtain ⟨outcome, returned, fault⟩ : ∃ outcome,
      executor.runChain 0 .background
        [⟨"reset", none, none⟩, ⟨"undo", none, none⟩, ⟨"reset", none, none⟩] = some outcome ∧
      outcome.fault = some (.atStep 1 "undo" .toolNotFound) := by
    have goesOn : behind.result.fault = none := rfl
    have left : behind.context = .background := rfl
    simp only [runChain, runSteps, Session.poll_background, resets, goesOn, Option.filter_none,
      left, fails]
    exact ⟨_, rfl, rfl⟩
  obtain ⟨calls, chained⟩ := (chains_are_calls_in_turn made _ _).1 outcome ⟨0, returned⟩
  have length : calls.length = 2 := by
    rcases chained.fails _ fault with ⟨canceled, _⟩ |
      ⟨index, _, _, _, atLast, _, _, _, _, stopped, _⟩
    · cases canceled
    · obtain ⟨rfl, _⟩ := CallFault.atStep.inj stopped
      exact atLast.symm
  have inTurn := chained.inTurn
  rw [length] at inTurn
  exact ⟨executor, outcome, calls, made, ⟨0, returned⟩, fault, inTurn,
    chained.skipped 2 _ rfl (Nat.le_of_eq length)⟩

end Executor

end TapeDebugger

import TapeDebugger.Proofs.Executor.Routing

/-!
# Calls in turn

A chain makes the calls of its first steps one after the other. `exists_calls` says once what it
has done when it returns: the calls, the results, and how it ended behind them.
-/

namespace TapeDebugger

/-- The result of a step that was called. -/
def ChainResult.ofCall (index : Nat) (step : ChainStep) (call : Executor.CallOutcome) :
    ChainResult where
  index
  identifier := step.identifier
  arguments := step.arguments
  value := call.result.value
  fault := call.result.fault
  skipped := false

namespace Executor

/-- The calls of some steps, one after the other: each is preceded by a poll, and made in the
session and the context that the one before has left. -/
inductive CallsInTurn : Executor → Context → List ChainStep → List CallOutcome →
    (last : Executor) → (left : Context) → Prop where
  | nil {executor context} : CallsInTurn executor context [] [] executor context
  | cons {executor context polled step steps call calls last left}
      (poll : context.poll = some polled)
      (returned : executor.ToolReturns polled step.identifier step.arguments call)
      (rest : CallsInTurn call.executor call.context steps calls last left) :
      CallsInTurn executor context (step :: steps) (call :: calls) last left

/-- What every call keeps, calls in turn keep. -/
theorem CallsInTurn.preserves (property : Executor → Prop)
    (called : ∀ {executor context identifier arguments call}, property executor →
      executor.ToolReturns context identifier arguments call → property call.executor)
    {executor last : Executor} {context left : Context} {steps : List ChainStep}
    {calls : List CallOutcome}
    (inTurn : CallsInTurn executor context steps calls last left) (holds : property executor) :
    property last := by
  induction inTurn with
  | nil => exact holds
  | cons _ returned _ inductionHypothesis => exact inductionHypothesis (called holds returned)

/-- A call fails, and its step is meant to end the chain then. -/
def Ends (step : ChainStep) (call : CallOutcome) : Prop :=
  call.result.fault ≠ none ∧ step.stops = true

/-- The results of a chain, of which only the first steps were called. -/
def resultsFrom : (index : Nat) → List ChainStep → List CallOutcome → List ChainResult
  | _, [], _ => []
  | index, step :: steps, [] => .ofSkipped index step :: resultsFrom (index + 1) steps []
  | index, step :: steps, call :: calls =>
    .ofCall index step call :: resultsFrom (index + 1) steps calls

/-- How a chain ended behind its calls, with a context left, a result and perhaps a fault. -/
inductive Ending (left : Context) : (index : Nat) → List ChainStep → List CallOutcome →
    (last final : CallResult) → Option CallFault → Prop where
  | completed {index last} : Ending left index [] [] last last none
  | canceled {index step steps last} (canceled : left.poll = none) :
      Ending left index (step :: steps) [] last
        { CallResult.blank with fault := some .canceled } (some .canceled)
  | stopped {index step steps call last cause} (failed : call.result.fault = some cause)
      (stops : step.stops = true) :
      Ending left index (step :: steps) [call] last
        { identifier := step.identifier, value := .absent,
          fault := some (.atStep index step.identifier cause) }
        (some (.atStep index step.identifier cause))
  | next {index step steps call calls last final fault} (goesOn : ¬ Ends step call)
      (later : Ending left (index + 1) steps calls call.result final fault) :
      Ending left index (step :: steps) (call :: calls) last final fault

section Results

variable {steps : List ChainStep} {calls : List CallOutcome} {start : Nat}

/-- To skip steps is to call none of them. -/
theorem skipFrom_eq : skipFrom start steps = resultsFrom start steps [] := by
  induction steps generalizing start with
  | nil => rfl
  | cons step steps inductionHypothesis => rw [skipFrom, resultsFrom, inductionHypothesis]

/-- There are as many results as steps. -/
theorem length_resultsFrom : (resultsFrom start steps calls).length = steps.length := by
  induction steps generalizing start calls with
  | nil => rfl
  | cons step steps inductionHypothesis =>
      cases calls <;> exact congrArg (· + 1) inductionHypothesis

/-- Every step has its result, which is that of its call if it was called. -/
theorem getElem?_resultsFrom (index : Nat) :
    (resultsFrom start steps calls)[index]? = steps[index]?.map fun step =>
      calls[index]?.elim (.ofSkipped (start + index) step) (.ofCall (start + index) step) := by
  induction steps generalizing start calls index with
  | nil => rfl
  | cons step steps inductionHypothesis =>
      cases index with
      | zero => cases calls <;> rfl
      | succ index =>
          have later : start + (index + 1) = start + 1 + index := by omega
          cases calls with
          | nil =>
              rw [resultsFrom, List.getElem?_cons_succ, inductionHypothesis, later]
              rfl
          | cons call calls =>
              rw [resultsFrom, List.getElem?_cons_succ, inductionHypothesis, later]
              rfl

end Results

/-- A chain goes on behind a call that does not end it. -/
theorem filter_eq_none_iff {step : ChainStep} {call : CallOutcome} :
    (call.result.fault.filter fun _ => step.stops) = none ↔ ¬ Ends step call := by
  cases failed : call.result.fault <;> simp [Ends, failed]

variable {executor : Executor} {context : Context} {steps : List ChainStep}

/-- A chain that returns has made calls in turn, and reports them. -/
theorem exists_calls {fuel index : Nat} {last : CallResult} {outcome : ChainOutcome}
    (returned : runSteps fuel index steps last executor context = some outcome) :
    ∃ calls,
      CallsInTurn executor context (steps.take calls.length) calls outcome.executor
        outcome.context ∧
      outcome.results = resultsFrom index steps calls ∧
      outcome.records = calls.flatMap (·.record.toList) ∧
      Ending outcome.context index steps calls last outcome.final outcome.fault := by
  -- What the steps behind a call do depends on it, so the induction is over all executors,
  -- contexts and results so far.
  induction steps generalizing index last executor context outcome with
  | nil =>
      cases returned
      exact ⟨[], .nil, rfl, rfl, .completed⟩
  | cons step steps inductionHypothesis =>
      rw [runSteps] at returned
      cases poll : context.poll with
      | none =>
          simp only [poll] at returned
          cases returned
          exact ⟨[], .nil, skipFrom_eq, rfl, .canceled poll⟩
      | some polled =>
          simp only [poll] at returned
          cases called : executor.runTool fuel polled step.identifier step.arguments with
          | none => simp [called] at returned
          | some call =>
              simp only [called] at returned
              cases ended : call.result.fault.filter fun _ => step.stops with
              | some cause =>
                  simp only [ended] at returned
                  cases returned
                  obtain ⟨failed, stops⟩ := Option.filter_eq_some_iff.mp ended
                  exact ⟨[call], .cons poll ⟨fuel, called⟩ .nil,
                    congrArg (ChainResult.ofCall index step call :: ·) skipFrom_eq,
                    (List.append_nil _).symm, .stopped failed stops⟩
              | none =>
                  simp only [ended] at returned
                  obtain ⟨chain, continued, rfl⟩ := Option.map_eq_some_iff.mp returned
                  obtain ⟨calls, inTurn, results, records, ending⟩ := inductionHypothesis continued
                  exact ⟨call :: calls, .cons poll ⟨fuel, called⟩ inTurn,
                    congrArg (ChainResult.ofCall index step call :: ·) results,
                    congrArg (call.record.toList ++ ·) records,
                    .next (filter_eq_none_iff.mp ended) ending⟩

end Executor

end TapeDebugger

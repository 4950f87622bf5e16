import TapeDebugger.Executor.Basic

/-!
# Chains

A chain is a sequence of calls on one session under one context. It polls the
context before each step, and ends early when that is canceled or when a step
fails that is meant to end it; the steps that are left are skipped.
-/

namespace TapeDebugger

/-- A step of a chain. -/
structure ChainStep where
  identifier : String
  arguments : Option Arguments
  /-- Whether a failure ends the chain, which it does unless said otherwise. -/
  stopOnError : Option Bool

/-- Whether a failure of the step ends the chain. -/
def ChainStep.stops (step : ChainStep) : Bool :=
  step.stopOnError.getD true

/-- The result of one step. -/
structure ChainResult where
  index : Nat
  identifier : String
  arguments : Option Arguments
  value : ToolValue
  fault : Option CallFault
  /-- Whether the chain ended before the step. -/
  skipped : Bool

namespace ChainResult

/-- The result of a step that was not reached. -/
def ofSkipped (index : Nat) (step : ChainStep) : ChainResult where
  index
  identifier := step.identifier
  arguments := step.arguments
  value := .absent
  fault := none
  skipped := true

/-- Whether the step was reached and succeeded. -/
def isOk (result : ChainResult) : Bool :=
  result.fault.isNone && !result.skipped

end ChainResult

/-- A chain with what it left behind. -/
structure ChainOutcome where
  executor : Executor
  context : Context
  /-- The result of the last step, or of what ended the chain. -/
  final : CallResult
  results : List ChainResult
  /-- What ended the chain early. -/
  fault : Option CallFault
  /-- The records of the session operations, in order. -/
  records : List Record

namespace Executor

/-- Skip the steps from `index` on. -/
def skipFrom : (index : Nat) → List ChainStep → List ChainResult
  | _, [] => []
  | index, step :: rest => .ofSkipped index step :: skipFrom (index + 1) rest

/-- Run the steps from `index` on, where `last` is the result so far. -/
def runSteps (fuel : Nat) : (index : Nat) → List ChainStep → (last : CallResult) → Executor →
    Context → Option ChainOutcome
  | _, [], last, executor, context =>
    some { executor, context, final := last, results := [], fault := none, records := [] }
  | index, step :: rest, _, executor, context =>
    match context.poll with
    | none =>
      some {
        executor
        context
        final := { CallResult.blank with fault := some .canceled }
        results := skipFrom index (step :: rest)
        fault := some .canceled
        records := [] }
    | some context =>
      match executor.runTool fuel context step.identifier step.arguments with
      | none => none
      | some outcome =>
        let result : ChainResult := {
          index
          identifier := step.identifier
          arguments := step.arguments
          value := outcome.result.value
          fault := outcome.result.fault
          skipped := false }
        match outcome.result.fault.filter fun _ => step.stops with
        | some cause =>
          let fault := CallFault.atStep index step.identifier cause
          some {
            executor := outcome.executor
            context := outcome.context
            final := { identifier := step.identifier, value := .absent, fault := some fault }
            results := result :: skipFrom (index + 1) rest
            fault := some fault
            records := outcome.record.toList }
        | none =>
          (runSteps fuel (index + 1) rest outcome.result outcome.executor outcome.context).map
            fun chain => { chain with
              results := result :: chain.results
              records := outcome.record.toList ++ chain.records }

/-- Run a chain of calls. -/
def runChain (fuel : Nat) (executor : Executor) (context : Context) (steps : List ChainStep) :
    Option ChainOutcome :=
  runSteps fuel 0 steps .blank executor context

end Executor

end TapeDebugger

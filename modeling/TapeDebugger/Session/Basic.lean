import TapeDebugger.Machine.Execution
import TapeDebugger.Machine.Snapshot
import TapeDebugger.Session.Config
import TapeDebugger.Session.Record
import TapeDebugger.Session.Report

/-!
# Sessions

A session is one machine with the trace of the operations on it. Every operation
polls its context first: a canceled call changes nothing and leaves no record.
After that each operation leaves exactly one record, whether it fails or not.

The value of a failed operation is what it still reports: nothing, in most cases,
but a load that does not compile reports the blank machine, and a run canceled
between chunks reports how far it came.
-/

namespace TapeDebugger

/-- One debugger context. -/
structure Session where
  /-- The configuration with its defaults filled in. -/
  config : SessionConfig
  machine : Machine
  /-- Whether a program has been loaded since creation or the last reset. -/
  loaded : Bool
  /-- The retained records, oldest first. -/
  history : List Record
deriving DecidableEq

/-- What an operation leaves behind. -/
structure Outcome (α : Type) where
  session : Session
  context : Context
  value : α
  fault : Option SessionFault
  /-- The record of the operation, unless it was canceled at its entry. -/
  record : Option Record

namespace Session

/-- Make a session with an idle machine. -/
def create (config : SessionConfig) : Except ConfigFault Session :=
  match config.check with
  | .error fault => .error fault
  | .ok limits =>
    .ok { config := config.withDefaults, machine := .new limits, loaded := false, history := [] }

/-- Poll the context at the entry of an operation, which reports `absent` when
it is canceled. -/
def atEntry {α : Type} (session : Session) (context : Context) (absent : α)
    (operation : Context → Outcome α) : Outcome α :=
  match context.poll with
  | none =>
    { session, context, value := absent, fault := some .canceled, record := none }
  | some context => operation context

/-- End an operation: record it and report its value. -/
def conclude {α : Type} (session : Session) (context : Context) (operation : Operation)
    (executed : UInt64) (value : α) (fault : Option SessionFault) : Outcome α :=
  let record : Record := { operation, status := session.machine.status, executed, fault }
  let history := appendRecord session.config.historySize session.history record
  { session := { session with history }, context, value, fault, record := some record }

/-- Replace the machine by a new one of the requested size and bounds and load
a program. A program that does not compile still replaces the machine. -/
def load (session : Session) (context : Context) (code input : List UInt8)
    (overrides : TapeOverrides) : Outcome (Option LoadReport) :=
  session.atEntry context none fun context =>
    if overrides.size < 0 then
      session.conclude context .load 0 none (some (.argument (.tapeSizeNotPositive overrides.size)))
    else
      match (session.config.tapeSettings overrides).check with
      | .error fault =>
        session.conclude context .load 0 none (some (.argument (.unusableTape fault)))
      | .ok limits =>
        match (Machine.new limits).load code input with
        | (machine, unmatched) =>
          { session with machine, loaded := true }.conclude context .load 0
            (some (.ofMachine machine)) (unmatched.map .unmatched)

/-- Execute up to `count` instructions. -/
def step (session : Session) (context : Context) (count : Int64) : Outcome (Option StepReport) :=
  session.atEntry context none fun context =>
    if !session.loaded then session.conclude context .step 0 none (some .noProgram)
    else if count < 1 then
      session.conclude context .step 0 none (some (.argument (.countTooSmall count)))
    else
      let before := session.machine.steps
      let machine := session.machine.step count
      let executed := machine.steps - before
      { session with machine }.conclude context .step executed
        (some (.ofMachine machine executed false)) none

/-- How a run ended. -/
inductive RunEnd where
  /-- The machine stopped or the budget is used up. -/
  | done (machine : Machine) (context : Context)
  /-- The context was canceled before a chunk. -/
  | canceled (machine : Machine) (context : Context)
  /-- Neither happened within the given number of chunks. -/
  | unfinished

/-- Execute chunk after chunk, polling the context before each, until the
machine stops or the budget is used up. Each chunk takes one unit of fuel. -/
def runChunks (chunk : Nat) : (fuel : Nat) → (budget : Option Nat) → Machine → Context → RunEnd
  | 0, _, _, _ => .unfinished
  | fuel + 1, budget, machine, context =>
    match context.poll with
    | none => .canceled machine context
    | some context =>
      let size :=
        match budget with
        | some left => min left chunk
        | none => chunk
      let machine := machine.advance size
      let budget := budget.map fun left => left - size
      if machine.status ≠ .running ∨ budget = some 0 then .done machine context
      else runChunks chunk fuel budget machine context

/-- The instructions a run may execute, and whether it is the configured cap
that says so. -/
def runBudget (config : SessionConfig) (limit : Option Int64) : Option Nat × Bool :=
  let asked := limit.map Int64.toNatClampNeg
  if 0 < config.maxRunSteps then
    let cap := config.maxRunSteps.toNatClampNeg
    match asked with
    | none => (some cap, true)
    | some count => if cap < count then (some cap, true) else (some count, false)
  else (asked, false)

/-- Execute until the machine stops, within the given limit and the configured
cap. A run with a budget always returns, since each chunk uses up some of it; one
without returns nothing when `fuel` chunks are not enough. -/
def run (fuel : Nat) (session : Session) (context : Context) (limit : Option Int64) :
    Option (Outcome (Option StepReport)) :=
  match context.poll with
  | none => some { session, context, value := none, fault := some .canceled, record := none }
  | some context =>
    if !session.loaded then some (session.conclude context .run 0 none (some .noProgram))
    else
      match limit.filter (· < 1) with
      | some limit =>
        some (session.conclude context .run 0 none (some (.argument (.limitTooSmall limit))))
      | none =>
        let (budget, capped) := runBudget session.config limit
        let before := session.machine.steps
        match runChunks session.config.runChunk.toNatClampNeg (budget.getD fuel) budget
            session.machine context with
        | .unfinished => none
        | .canceled machine context =>
          let executed := machine.steps - before
          some ({ session with machine }.conclude context .run executed
            (some (.ofMachine machine executed false)) (some .canceled))
        | .done machine context =>
          let executed := machine.steps - before
          let limitReached := capped && machine.status == .running
          some ({ session with machine }.conclude context .run executed
            (some (.ofMachine machine executed limitReached)) none)

/-- Append to the input buffer. It never executes an instruction, and reports
the status also when no program is loaded. -/
def addInput (session : Session) (context : Context) (input : List UInt8) :
    Outcome (Option Status) :=
  session.atEntry context none fun context =>
    if !session.loaded then
      session.conclude context .addInput 0 (some session.machine.status) (some .noProgram)
    else
      let machine := session.machine.addInput input
      { session with machine }.conclude context .addInput 0 (some machine.status) none

/-- Show the machine within a radius of the data pointer. Without a radius the
configured one is used, and without that the whole tape is shown. -/
def state (session : Session) (context : Context) (radius : Option Int64) :
    Outcome (Option Snapshot) :=
  session.atEntry context none fun context =>
    match radius.or session.config.defaultWindowRadius with
    | none => session.conclude context .state 0 (some session.machine.snapshot) none
    | some radius =>
      if radius < 0 then
        session.conclude context .state 0 none (some (.argument (.radiusNegative radius)))
      else session.conclude context .state 0 (some (session.machine.snapshotAround radius)) none

/-- Everything the program has written. -/
def output (session : Session) (context : Context) : Outcome String :=
  session.atEntry context "" fun context =>
    session.conclude context .output 0 session.machine.output none

/-- Discard the loaded program, keeping size and bounds of the tape. -/
def reset (session : Session) (context : Context) : Outcome (Option Status) :=
  session.atEntry context none fun context =>
    let machine := session.machine.reset
    { session with machine, loaded := false }.conclude context .reset 0 (some machine.status) none

end Session

end TapeDebugger

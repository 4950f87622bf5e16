import TapeDebugger.Proofs.Session.ChunkedRun

/-!
# Requests and their answers

A load and a run are brought into a form that keeps refusals apart from what is executed
(`load_eq`, `run_eq`). `Request.perform` carries out any request and keeps the value that the
operation reports, so that all requests can be spoken of at once. Fuel only decides whether a
run without a budget returns: what is returned does not depend on it (`perform_of_le`), and so
a request has at most one outcome (`Answers.deterministic`).
-/

namespace TapeDebugger

/-- Change the value of an outcome. -/
def Outcome.map {α β : Type} (convert : α → β) (outcome : Outcome α) : Outcome β where
  session := outcome.session
  context := outcome.context
  value := convert outcome.value
  fault := outcome.fault
  record := outcome.record

namespace Session

section Fuel

variable {chunk fuel more : Nat} {budget : Option Nat} {machine : Machine} {context : Context}

/-- How many instructions the next chunk may execute. -/
def nextChunk (chunk : Nat) (budget : Option Nat) : Nat :=
  budget.elim chunk (min · chunk)

/-- What a chunk loop does after a poll that succeeded. -/
theorem runChunks_succ {polled : Context} (poll : context.poll = some polled) :
    runChunks chunk (fuel + 1) budget machine context =
      if (machine.advance (nextChunk chunk budget)).status ≠ .running ∨
          budget.map (· - nextChunk chunk budget) = some 0 then
        .done (machine.advance (nextChunk chunk budget)) polled
      else runChunks chunk fuel (budget.map (· - nextChunk chunk budget))
        (machine.advance (nextChunk chunk budget)) polled := by
  simp only [runChunks, poll]
  cases budget <;> rfl

/-- A chunk loop that ends goes no further with more fuel. -/
theorem runChunks_of_le (ended : runChunks chunk fuel budget machine context ≠ .unfinished)
    (enough : fuel ≤ more) :
    runChunks chunk more budget machine context = runChunks chunk fuel budget machine context := by
  induction fuel generalizing more budget machine context with
  | zero => exact absurd rfl ended
  | succ fuel inductionHypothesis =>
      obtain ⟨more, rfl⟩ := Nat.exists_eq_add_one.mpr (Nat.zero_lt_of_lt enough)
      cases poll : context.poll with
      | none => simp only [runChunks, poll]
      | some polled =>
          rw [runChunks_succ poll] at ended ⊢
          rw [runChunks_succ poll]
          split
          · rfl
          · rename_i goesOn
            rw [if_neg goesOn] at ended
            exact inductionHypothesis ended (Nat.le_of_succ_le_succ enough)

end Fuel

/-- The tape that a load asks for, or why it is refused. -/
def loadLimits (config : SessionConfig) (overrides : TapeOverrides) :
    Except RangeFault TapeLimits :=
  if overrides.size < 0 then .error (.tapeSizeNotPositive overrides.size)
  else (config.tapeSettings overrides).check.mapError .unusableTape

/-- A load is refused, or it loads into a new machine, whatever the session held before. -/
theorem load_eq (session : Session) (context : Context) (code input : List UInt8)
    (overrides : TapeOverrides) :
    session.load context code input overrides =
      session.atEntry context none fun polled =>
        match loadLimits session.config overrides with
        | .error fault => session.conclude polled .load 0 none (some (.argument fault))
        | .ok limits =>
          let loaded := (Machine.new limits).load code input
          { session with machine := loaded.1, loaded := true }.conclude polled .load 0
            (some (.ofMachine loaded.1)) (loaded.2.map .unmatched) := by
  rw [load]
  congr 1
  funext polled
  rw [loadLimits]
  split
  · rfl
  · cases (session.config.tapeSettings overrides).check <;> rfl

/-- Why a run is refused before it executes anything. -/
def runRefusal (session : Session) (limit : Option Int64) : Option SessionFault :=
  if session.loaded then
    (limit.filter (· < 1)).map fun count => .argument (.limitTooSmall count)
  else some .noProgram

/-- What a run leaves behind, by how its chunk loop ended. -/
def concludeRun (session : Session) (capped : Bool) :
    RunEnd → Option (Outcome (Option StepReport))
  | .unfinished => none
  | .canceled machine left =>
    let executed := machine.steps - session.machine.steps
    some ({ session with machine }.conclude left .run executed
      (some (.ofMachine machine executed false)) (some .canceled))
  | .done machine left =>
    let executed := machine.steps - session.machine.steps
    let limitReached := capped && machine.status == .running
    some ({ session with machine }.conclude left .run executed
      (some (.ofMachine machine executed limitReached)) none)

/-- A run is refused, or it is its chunk loop. -/
theorem run_eq (fuel : Nat) (session : Session) (context : Context) (limit : Option Int64) :
    session.run fuel context limit =
      match context.poll with
      | none => some { session, context, value := none, fault := some .canceled, record := none }
      | some polled =>
        match session.runRefusal limit with
        | some fault => some (session.conclude polled .run 0 none (some fault))
        | none =>
          session.concludeRun (runBudget session.config limit).2
            (runChunks session.config.runChunk.toNatClampNeg
              ((runBudget session.config limit).1.getD fuel) (runBudget session.config limit).1
              session.machine polled) := by
  rw [run]
  cases context.poll with
  | none => rfl
  | some polled =>
      cases loaded : session.loaded with
      | false => simp [runRefusal, loaded]
      | true =>
          simp only [runRefusal, loaded, Bool.not_true, Bool.false_eq_true, ↓reduceIte]
          cases limit.filter (· < 1) with
          | some count => rfl
          | none =>
              simp only [Option.map_none]
              cases runChunks session.config.runChunk.toNatClampNeg
                  ((runBudget session.config limit).1.getD fuel)
                  (runBudget session.config limit).1 session.machine polled <;>
                simp only [concludeRun, loaded]

/-- A run of a loaded program within a valid limit is not refused, and no other is. -/
theorem runRefusal_eq_none_iff {session : Session} {limit : Option Int64} :
    session.runRefusal limit = none ↔
      session.loaded = true ∧ ∀ count ∈ limit, 1 ≤ count := by
  cases loaded : session.loaded <;> cases limit <;> simp [runRefusal, loaded]

/-- A run that returns returns the same with more fuel. -/
theorem run_of_le {fuel more : Nat} {session : Session} {context : Context}
    {limit : Option Int64} {outcome : Outcome (Option StepReport)}
    (returned : session.run fuel context limit = some outcome) (enough : fuel ≤ more) :
    session.run more context limit = some outcome := by
  rw [run_eq] at returned ⊢
  cases poll : context.poll with
  | none => simpa [poll] using returned
  | some polled =>
      cases refusal : session.runRefusal limit with
      | some fault => simpa [poll, refusal] using returned
      | none =>
          simp only [poll, refusal] at returned ⊢
          have allowed : (runBudget session.config limit).1.getD fuel ≤
              (runBudget session.config limit).1.getD more := by
            cases (runBudget session.config limit).1 with
            | none => exact enough
            | some budget => exact Nat.le_refl budget
          rw [runChunks_of_le _ allowed, returned]
          intro unfinished
          rw [unfinished] at returned
          cases returned

/-- The value that a request reports. -/
inductive Answer where
  | loaded (report : Option LoadReport)
  | executed (report : Option StepReport)
  | status (status : Option Status)
  | state (snapshot : Option Snapshot)
  | output (text : String)
deriving DecidableEq

namespace Request

/-- Carry out a request. Only a run takes fuel, and may fail to return. -/
def perform (fuel : Nat) (session : Session) (context : Context) :
    Request → Option (Outcome Answer)
  | load code input overrides =>
    some ((session.load context code input overrides).map .loaded)
  | step count => some ((session.step context count).map .executed)
  | run limit => (session.run fuel context limit).map (·.map .executed)
  | addInput input => some ((session.addInput context input).map .status)
  | state radius => some ((session.state context radius).map .state)
  | output => some ((session.output context).map .output)
  | reset => some ((session.reset context).map .status)

/-- A request returns, and leaves `outcome` behind. -/
def Answers (session : Session) (context : Context) (request : Request)
    (outcome : Outcome Answer) : Prop :=
  ∃ fuel, request.perform fuel session context = some outcome

variable {session : Session} {context : Context} {request : Request} {outcome : Outcome Answer}

/-- A request that returns returns the same with more fuel. -/
theorem perform_of_le {fuel more : Nat}
    (returned : request.perform fuel session context = some outcome)
    (enough : fuel ≤ more) : request.perform more session context = some outcome := by
  cases request with
  | run limit =>
      obtain ⟨ran, ended, rfl⟩ := Option.map_eq_some_iff.mp returned
      rw [perform, run_of_le ended enough, Option.map_some]
  | _ => exact returned

/-- A request has one outcome. -/
theorem Answers.deterministic {other : Outcome Answer}
    (left : request.Answers session context outcome)
    (right : request.Answers session context other) : outcome = other := by
  obtain ⟨leftFuel, left⟩ := left
  obtain ⟨rightFuel, right⟩ := right
  have leftMore := perform_of_le left (Nat.le_max_left leftFuel rightFuel)
  have rightMore := perform_of_le right (Nat.le_max_right leftFuel rightFuel)
  exact Option.some.inj (leftMore.symm.trans rightMore)

/-- Behind its value, a request leaves what was said of it before. -/
theorem Answers.returns (answered : request.Answers session context outcome) :
    request.Returns session context outcome.forget := by
  obtain ⟨fuel, returned⟩ := answered
  cases request with
  | run limit =>
      obtain ⟨ran, ended, rfl⟩ := Option.map_eq_some_iff.mp returned
      exact ⟨fuel, ran, ended, rfl⟩
  | _ =>
      cases returned
      rfl

end Request

end Session

end TapeDebugger

import TapeDebugger.Proofs.Machine.Integrity
import TapeDebugger.Proofs.Session.Answers
import TapeDebugger.Proofs.Session.Cancellation

/-!
# Failed requests

A request fails in one of four ways, and `Fails` says what each of them does to the session: a
request that is canceled at its entry does nothing; one that is refused is recorded; a load that
does not compile leaves a new machine that says so; and a run that is canceled between its chunks
stays behind the chunks it has executed. There is no other way (`Answers.fails`).
-/

namespace TapeDebugger.Session

/-- The session with an operation recorded. -/
def recorded (session : Session) (operation : Operation) (executed : UInt64)
    (fault : Option SessionFault) : Session :=
  (session.conclude .background operation executed () fault).session

/-- What a failed request leaves, by its fault. -/
inductive Fails (session : Session) (context : Context) :
    Request → SessionFault → (after : Session) → Prop where
  /-- It was canceled before it began. -/
  | atEntry {request} (canceled : context.poll = none) :
      Fails session context request .canceled session
  /-- There was no program, or an argument was out of its range. -/
  | refused {request operation fault} (live : context.poll ≠ none)
      (cause : fault = .noProgram ∨ ∃ range, fault = .argument range) :
      Fails session context request fault (session.recorded operation 0 (some fault))
  /-- The source did not compile. -/
  | unmatched {code input overrides limits bracket} (live : context.poll ≠ none)
      (limited : loadLimits session.config overrides = .ok limits) :
      Fails session context (.load code input overrides) (.unmatched bracket)
        ({ session with
            machine := { Machine.new limits with status := .parserError }
            loaded := true }.recorded .load 0 (some (.unmatched bracket)))
  /-- It was canceled before a chunk, behind so many whole ones. -/
  | interrupted {limit chunks executed} (polls : context.pollsLeft = some (chunks + 1))
      (loaded : session.loaded = true) :
      Fails session context (.run limit) .canceled
        ({ session with
            machine := session.machine.stepEach (.replicate chunks session.config.runChunk)
            }.recorded .run executed (some .canceled))

section Fails

variable {session : Session} {context : Context} {fault : SessionFault}

/-- An operation behind the poll at its entry fails there, or as it does by itself. -/
theorem fails_atEntry {α : Type} {request : Request} {absent : α}
    {operation : Context → Outcome α}
    (failed : (session.atEntry context absent operation).fault = some fault)
    (behind : ∀ polled, context.poll ≠ none → (operation polled).fault = some fault →
      session.Fails context request fault (operation polled).session) :
    session.Fails context request fault (session.atEntry context absent operation).session := by
  rw [atEntry] at failed ⊢
  cases poll : context.poll with
  | none =>
      simp only [poll] at failed ⊢
      cases failed
      exact .atEntry poll
  | some polled =>
      simp only [poll] at failed ⊢
      exact behind polled (by simp [poll]) failed

/-- A chunk loop that is never canceled does not report a cancellation. -/
theorem runChunks_background_ne_canceled {chunk fuel : Nat} {budget : Option Nat}
    {machine final : Machine} {left : Context} :
    runChunks chunk fuel budget machine .background ≠ .canceled final left := by
  induction fuel generalizing budget machine with
  | zero => nofun
  | succ fuel inductionHypothesis =>
      rw [runChunks_succ poll_background]
      split
      · nofun
      · exact inductionHypothesis

/-- A run is refused for want of a program or for its limit. -/
theorem runRefusal_cause {limit : Option Int64} (refused : session.runRefusal limit = some fault) :
    fault = .noProgram ∨ ∃ range, fault = .argument range := by
  rw [runRefusal] at refused
  split at refused
  · obtain ⟨count, _, rfl⟩ := Option.map_eq_some_iff.mp refused
    exact .inr ⟨_, rfl⟩
  · cases refused
    exact .inl rfl

/-- What a run that is not refused may execute is more than nothing. -/
theorem runBudget_pos {limit : Option Int64} (config : SessionConfig)
    (valid : ∀ count ∈ limit, 1 ≤ count) : ∀ allowed ∈ (runBudget config limit).1, 0 < allowed := by
  intro allowed given
  rw [runBudget_eq config valid] at given
  obtain ⟨bound, bounded, rfl⟩ := Option.map_eq_some_iff.mp given
  exact toNatClampNeg_pos (runBound_pos valid bounded)

/-- A run that fails was refused, or canceled at its entry or before a chunk. -/
theorem fails_run {fuel : Nat} {limit : Option Int64} {outcome : Outcome (Option StepReport)}
    (chunkPositive : 0 < session.config.runChunk)
    (returned : session.run fuel context limit = some outcome)
    (failed : outcome.fault = some fault) :
    session.Fails context (.run limit) fault outcome.session := by
  rw [run_eq] at returned
  cases poll : context.poll with
  | none =>
      simp only [poll] at returned
      cases returned
      cases failed
      exact .atEntry poll
  | some polled =>
      simp only [poll] at returned
      cases refusal : session.runRefusal limit with
      | some cause =>
          simp only [refusal] at returned
          cases returned
          cases failed
          exact .refused (by simp [poll]) (runRefusal_cause refusal)
      | none =>
          simp only [refusal] at returned
          obtain ⟨loaded, valid⟩ := runRefusal_eq_none_iff.mp refusal
          generalize loop : runChunks _ _ _ session.machine polled = ended at returned
          cases ended with
          | unfinished => cases returned
          | done machine left =>
              cases returned
              cases failed
          | canceled machine left =>
              cases returned
              cases failed
              -- Of a context that is canceled, one poll was spent at the entry.
              obtain ⟨pollsLeft⟩ := context
              match pollsLeft, poll with
              | none, rfl => exact absurd loop runChunks_background_ne_canceled
              | some (chunks + 1), rfl =>
                  obtain ⟨rfl, _⟩ := runChunks_canceled chunkPositive loop
                    (runBudget_pos session.config valid)
                  exact .interrupted rfl loaded

/-- A load that fails was canceled at its entry, or refused, or its source did not compile. -/
theorem fails_load {code input : List UInt8} {overrides : TapeOverrides}
    (failed : (session.load context code input overrides).fault = some fault) :
    session.Fails context (.load code input overrides) fault
      (session.load context code input overrides).session := by
  rw [load_eq] at failed ⊢
  refine fails_atEntry failed fun polled live fails => ?_
  cases limited : loadLimits session.config overrides with
  | error range =>
      simp only [limited] at fails ⊢
      cases fails
      exact .refused live (.inr ⟨range, rfl⟩)
  | ok limits =>
      simp only [limited] at fails ⊢
      obtain ⟨bracket, unmatched, rfl⟩ := Option.map_eq_some_iff.mp fails
      rw [Machine.load_new_of_unmatched unmatched, unmatched]
      exact .unmatched live limited

/-- A step that fails was canceled at its entry, or refused for want of a program or for its count.
-/
theorem fails_step {count : Int64} (failed : (session.step context count).fault = some fault) :
    session.Fails context (.step count) fault (session.step context count).session := by
  refine fails_atEntry failed fun polled live fails => ?_
  cases loaded : session.loaded with
  | false =>
      simp only [loaded, Bool.not_false, ↓reduceIte] at fails ⊢
      cases fails
      exact .refused live (.inl rfl)
  | true =>
      simp only [loaded, Bool.not_true, Bool.false_eq_true, ↓reduceIte] at fails ⊢
      by_cases small : count < 1
      · rw [if_pos small] at fails ⊢
        cases fails
        exact .refused live (.inr ⟨_, rfl⟩)
      · rw [if_neg small] at fails
        cases fails

/-- Input that is not taken was canceled at the entry, or refused for want of a program. -/
theorem fails_addInput {input : List UInt8}
    (failed : (session.addInput context input).fault = some fault) :
    session.Fails context (.addInput input) fault (session.addInput context input).session := by
  refine fails_atEntry failed fun polled live fails => ?_
  cases loaded : session.loaded with
  | false =>
      simp only [loaded, Bool.not_false, ↓reduceIte] at fails ⊢
      cases fails
      exact .refused live (.inl rfl)
  | true =>
      simp only [loaded, Bool.not_true, Bool.false_eq_true, ↓reduceIte] at fails
      cases fails

/-- A snapshot that fails was canceled at its entry, or refused for its radius. -/
theorem fails_state {radius : Option Int64}
    (failed : (session.state context radius).fault = some fault) :
    session.Fails context (.state radius) fault (session.state context radius).session := by
  refine fails_atEntry failed fun polled live fails => ?_
  cases shown : radius.or session.config.defaultWindowRadius with
  | none =>
      simp only [shown] at fails
      cases fails
  | some window =>
      simp only [shown] at fails ⊢
      by_cases negative : window < 0
      · rw [if_pos negative] at fails ⊢
        cases fails
        exact .refused live (.inr ⟨_, rfl⟩)
      · rw [if_neg negative] at fails
        cases fails

/-- A request that fails does so in one of the four ways. -/
theorem Request.Answers.fails {request : Request} {outcome : Outcome Answer}
    (answered : request.Answers session context outcome)
    (chunkPositive : 0 < session.config.runChunk) (failed : outcome.fault = some fault) :
    session.Fails context request fault outcome.session := by
  obtain ⟨fuel, performed⟩ := answered
  cases request with
  | run limit =>
      obtain ⟨ran, ended, rfl⟩ := Option.map_eq_some_iff.mp performed
      exact fails_run chunkPositive ended failed
  | load code input overrides =>
      cases performed
      exact fails_load failed
  | step count =>
      cases performed
      exact fails_step failed
  | addInput input =>
      cases performed
      exact fails_addInput failed
  | state radius =>
      cases performed
      exact fails_state failed
  | output =>
      cases performed
      have failsAtEntry : (session.output context).fault = some fault := failed
      exact fails_atEntry failsAtEntry fun _ _ => nofun
  | reset =>
      cases performed
      have failsAtEntry : (session.reset context).fault = some fault := failed
      exact fails_atEntry failsAtEntry fun _ _ => nofun

end Fails

end TapeDebugger.Session

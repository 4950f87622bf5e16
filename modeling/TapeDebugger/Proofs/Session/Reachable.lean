import TapeDebugger.Proofs.Word
import TapeDebugger.Session.Basic

/-!
# Reachable sessions

`Request` is one operation with its arguments, and `Request.Returns` what it leaves
behind. A session is reachable when some requests, each under any context, lead to it
from its creation. `Settles` says once how a request can end. Whatever is requested, a
session keeps the configuration it was created with, which has its defaults filled in, and a
history that is no longer than configured.
-/

namespace TapeDebugger

/-- Forget the value of an operation. -/
def Outcome.forget {α : Type} (outcome : Outcome α) : Outcome Unit where
  session := outcome.session
  context := outcome.context
  value := ()
  fault := outcome.fault
  record := outcome.record

section Append

variable {size : Int64} {history : List Record}

/-- A history that is not full keeps everything. -/
theorem appendRecord_of_room (room : history.length < size.toNatClampNeg) (record : Record) :
    appendRecord size history record = history ++ [record] := by
  have enabled : 0 < size := pos_of_toNatClampNeg_pos (Nat.zero_lt_of_lt room)
  have kept : history.length + 1 - size.toNatClampNeg = 0 := by omega
  rw [appendRecord, if_pos enabled, kept, List.drop_zero]

/-- A full history loses its oldest record. -/
theorem appendRecord_of_full (enabled : 0 < size)
    (full : history.length = size.toNatClampNeg) (record : Record) :
    appendRecord size history record = history.tail ++ [record] := by
  have one : history.length + 1 - size.toNatClampNeg = 1 := by omega
  rw [appendRecord, if_pos enabled, one, List.drop_one]

/-- What appending does to a history within its size. -/
theorem appendRecord_eq (within : 0 < size → history.length ≤ size.toNatClampNeg)
    (record : Record) :
    appendRecord size history record =
      if 0 < size then
        (if history.length < size.toNatClampNeg then history else history.tail) ++ [record]
      else history := by
  by_cases enabled : 0 < size
  · rcases Nat.lt_or_eq_of_le (within enabled) with room | full
    · rw [if_pos enabled, if_pos room, appendRecord_of_room room]
    · rw [if_pos enabled, if_neg (by omega), appendRecord_of_full enabled full]
  · rw [appendRecord, if_neg enabled, if_neg enabled]

/-- A history within its size stays within. -/
theorem length_appendRecord_le (enabled : 0 < size)
    (within : history.length ≤ size.toNatClampNeg) (record : Record) :
    (appendRecord size history record).length ≤ size.toNatClampNeg := by
  have positive := toNatClampNeg_pos enabled
  rcases Nat.lt_or_eq_of_le within with room | full
  · rw [appendRecord_of_room room, List.length_append]
    exact room
  · rw [appendRecord_of_full enabled full, List.length_append, List.length_tail,
      List.length_singleton]
    omega

end Append

namespace Session

/-- An operation of a session with its arguments. -/
inductive Request where
  | load (code input : List UInt8) (overrides : TapeOverrides)
  | step (count : Int64)
  | run (limit : Option Int64)
  | addInput (input : List UInt8)
  | state (radius : Option Int64)
  | output
  | reset

/-- What a request leaves behind, its value left out. Only a run may fail to return. -/
def Request.Returns (session : Session) (context : Context) : Request → Outcome Unit → Prop
  | load code input overrides, outcome =>
    outcome = (session.load context code input overrides).forget
  | step count, outcome => outcome = (session.step context count).forget
  | run limit, outcome =>
    ∃ fuel returned, session.run fuel context limit = some returned ∧ outcome = returned.forget
  | addInput input, outcome => outcome = (session.addInput context input).forget
  | state radius, outcome => outcome = (session.state context radius).forget
  | output, outcome => outcome = (session.output context).forget
  | reset, outcome => outcome = (session.reset context).forget

/-- Some requests lead from the creation of a session to this one. -/
inductive Reachable (config : SessionConfig) : Session → Prop where
  | created {session} (created : Session.create config = .ok session) : Reachable config session
  | requested {session context request outcome} (prior : Reachable config session)
      (returned : Request.Returns session context request outcome) :
      Reachable config outcome.session

/-- A request was canceled at its entry and changed nothing, or it was concluded with some
machine and flag in place of those of the session. -/
def Settles (session : Session) (context : Context) (outcome : Outcome Unit) : Prop :=
  outcome = { session, context, value := (), fault := some .canceled, record := none } ∨
  ∃ machine loaded polled operation executed fault,
    outcome = { session with machine, loaded }.conclude polled operation executed () fault

/-- An operation behind the poll at its entry settles when it is concluded. -/
theorem settles_atEntry {α : Type} {session : Session} {context : Context} {absent : α}
    {operation : Context → Outcome α}
    (concluded : ∀ polled, ∃ machine loaded kind executed fault,
      (operation polled).forget =
        { session with machine, loaded }.conclude polled kind executed () fault) :
    session.Settles context (session.atEntry context absent operation).forget := by
  rw [atEntry]
  split
  · exact .inl rfl
  · obtain ⟨machine, loaded, kind, executed, fault, same⟩ := concluded _
    exact .inr ⟨machine, loaded, _, kind, executed, fault, same⟩

/-- A run settles, however it ends. -/
theorem settles_run {fuel : Nat} {session : Session} {context : Context} {limit : Option Int64}
    {outcome : Outcome (Option StepReport)}
    (returned : session.run fuel context limit = some outcome) :
    session.Settles context outcome.forget := by
  rw [run] at returned
  split at returned
  · cases returned
    exact .inl rfl
  split at returned
  · cases returned
    exact .inr ⟨_, _, _, _, _, _, rfl⟩
  split at returned
  · cases returned
    exact .inr ⟨_, _, _, _, _, _, rfl⟩
  simp only at returned
  split at returned <;> cases returned <;> exact .inr ⟨_, _, _, _, _, _, rfl⟩

/-- Every request settles. -/
theorem Request.Returns.settles {session : Session} {context : Context} {request : Request}
    {outcome : Outcome Unit} (returned : request.Returns session context outcome) :
    session.Settles context outcome := by
  cases request with
  | load code input overrides =>
      obtain rfl : outcome = _ := returned
      refine settles_atEntry fun polled => ?_
      split
      · exact ⟨_, _, _, _, _, rfl⟩
      · split <;> exact ⟨_, _, _, _, _, rfl⟩
  | step count =>
      obtain rfl : outcome = _ := returned
      refine settles_atEntry fun polled => ?_
      split
      · exact ⟨_, _, _, _, _, rfl⟩
      · split <;> exact ⟨_, _, _, _, _, rfl⟩
  | run limit =>
      obtain ⟨fuel, full, ran, rfl⟩ := returned
      exact settles_run ran
  | addInput input =>
      obtain rfl : outcome = _ := returned
      refine settles_atEntry fun polled => ?_
      split <;> exact ⟨_, _, _, _, _, rfl⟩
  | state radius =>
      obtain rfl : outcome = _ := returned
      refine settles_atEntry fun polled => ?_
      split
      · exact ⟨_, _, _, _, _, rfl⟩
      · split <;> exact ⟨_, _, _, _, _, rfl⟩
  | output =>
      obtain rfl : outcome = _ := returned
      exact settles_atEntry fun polled => ⟨_, _, _, _, _, rfl⟩
  | reset =>
      obtain rfl : outcome = _ := returned
      exact settles_atEntry fun polled => ⟨_, _, _, _, _, rfl⟩

/-- No request changes the configuration. -/
theorem Request.Returns.config_eq {session : Session} {context : Context} {request : Request}
    {outcome : Outcome Unit} (returned : request.Returns session context outcome) :
    outcome.session.config = session.config := by
  rcases returned.settles with rfl | ⟨_, _, _, _, _, _, rfl⟩ <;> rfl

/-- A session is created only with numbers that make sense and a usable tape, and is then
idle. -/
theorem create_cases {config : SessionConfig} {session : Session}
    (created : Session.create config = .ok session) :
    config.negativeNumbers = [] ∧ ∃ limits, (config.tapeSettings {}).check = .ok limits ∧
      session = { config := config.withDefaults, machine := .new limits, loaded := false,
                  history := [] } := by
  rw [create, SessionConfig.check] at created
  cases numbers : config.negativeNumbers with
  | cons first others => simp [numbers] at created
  | nil =>
      simp only [numbers] at created
      cases checked : (config.tapeSettings {}).check with
      | error fault => simp [checked] at created
      | ok limits =>
          simp only [checked] at created
          cases created
          exact ⟨rfl, limits, rfl, rfl⟩

/-- A new session has its configuration with the defaults filled in, and no history. -/
theorem create_eq_ok {config : SessionConfig} {session : Session}
    (created : Session.create config = .ok session) :
    config.negativeNumbers = [] ∧ session.config = config.withDefaults ∧
      session.history = [] := by
  obtain ⟨numbers, limits, _, rfl⟩ := create_cases created
  exact ⟨numbers, rfl, rfl⟩

namespace Reachable

variable {config : SessionConfig} {session : Session}

/-- A reachable session has the configuration it was created with. -/
theorem config_eq (reachable : Reachable config session) :
    session.config = config.withDefaults := by
  induction reachable with
  | created created => exact (create_eq_ok created).2.1
  | requested _ returned inductionHypothesis => exact returned.config_eq.trans inductionHypothesis

/-- No negative number was configured for a reachable session. -/
theorem negativeNumbers_eq (reachable : Reachable config session) :
    config.negativeNumbers = [] := by
  induction reachable with
  | created created => exact (create_eq_ok created).1
  | requested _ _ inductionHypothesis => exact inductionHypothesis

/-- A reachable session has a chunk size of at least one, the default if none was asked
for. -/
theorem runChunk_pos (reachable : Reachable config session) :
    0 < session.config.runChunk.toNatClampNeg := by
  have numbers := reachable.negativeNumbers_eq
  refine toNatClampNeg_pos ?_
  rw [reachable.config_eq]
  by_cases zero : config.runChunk = 0
  · have default : config.withDefaults.runChunk = SessionConfig.defaultRunChunk := by
      simp [SessionConfig.withDefaults, zero]
    rw [default]
    decide
  · have asked : config.withDefaults.runChunk = config.runChunk := by
      simp [SessionConfig.withDefaults, zero]
    have nonnegative : ¬ config.runChunk < 0 := by
      intro negative
      simp [SessionConfig.negativeNumbers, negative] at numbers
    rw [asked]
    exact Int64.lt_of_le_of_ne (Int64.not_lt.mp nonnegative) (Ne.symm zero)

/-- The history of a reachable session is not longer than configured. -/
theorem length_history_le (reachable : Reachable config session)
    (enabled : 0 < session.config.historySize) :
    session.history.length ≤ session.config.historySize.toNatClampNeg := by
  induction reachable with
  | created created =>
      rw [(create_eq_ok created).2.2]
      exact Nat.zero_le _
  | requested _ returned inductionHypothesis =>
      rcases returned.settles with rfl | ⟨_, _, _, _, _, _, rfl⟩
      · exact inductionHypothesis enabled
      · exact length_appendRecord_le enabled (inductionHypothesis enabled) _

end Reachable

end Session

end TapeDebugger

import TapeDebugger.Proofs.Machine.Execution
import TapeDebugger.Proofs.Session.Reachable

/-!
# Runs in chunks

A session executes a run chunk by chunk so that it can be canceled in between. Under a
context that is never canceled nothing of that shows: with a budget a run is one advance
by the whole budget (`runChunks_budget`), and without one it is the run of the machine
(`runChunks_unbounded`). Both rest on `Machine.advance_advance`.

The chunk loop takes fuel only where there is no budget, so a run with a budget returns
for every program.
-/

namespace TapeDebugger.Session

open Machine

/-- A background context is never canceled. -/
@[simp] theorem poll_background : Context.background.poll = some .background :=
  rfl

variable {chunk : Nat}

/-- With a budget, chunk after chunk is one advance by the budget. -/
theorem runChunks_budget (chunkPositive : 0 < chunk) {fuel left : Nat} (machine : Machine)
    (positive : 0 < left) (enough : left ≤ fuel) :
    runChunks chunk fuel (some left) machine .background =
      .done (machine.advance left) .background := by
  induction fuel generalizing left machine with
  | zero => omega
  | succ fuel inductionHypothesis =>
      simp only [runChunks, poll_background, Option.map_some, Option.some.injEq]
      split
      · rename_i ended
        congr 1
        by_cases running : (machine.advance (min left chunk)).status = .running
        · have whole : min left chunk = left := by
            have used := ended.resolve_left (not_not_intro running)
            omega
          rw [whole]
        · exact (advance_eq_of_le running (Nat.min_le_left ..)).symm
      · rename_i goesOn
        rw [not_or] at goesOn
        rw [inductionHypothesis _ (Nat.pos_of_ne_zero goesOn.2) (by omega), advance_advance]
        congr 2
        omega

/-- Without a budget, the loop goes on as long as the machine is running. -/
theorem runChunks_none_succ (fuel : Nat) (machine : Machine) :
    runChunks chunk (fuel + 1) none machine .background =
      if (machine.advance chunk).status = .running then
        runChunks chunk fuel none (machine.advance chunk) .background
      else .done (machine.advance chunk) .background := by
  by_cases running : (machine.advance chunk).status = .running <;> simp [runChunks, running]

/-- Without a budget, the loop ends only where the machine has stopped. -/
theorem runChunks_unbounded (fuel : Nat) (machine : Machine) :
    runChunks chunk fuel none machine .background = .unfinished ∨
      ∃ budget, runChunks chunk fuel none machine .background =
          .done (machine.advance budget) .background ∧
        (machine.advance budget).status ≠ .running := by
  induction fuel generalizing machine with
  | zero => exact .inl rfl
  | succ fuel inductionHypothesis =>
      rw [runChunks_none_succ]
      by_cases running : (machine.advance chunk).status = .running
      · rw [if_pos running]
        rcases inductionHypothesis (machine.advance chunk) with unfinished | ⟨budget, done, stopped⟩
        · exact .inl unfinished
        · rw [advance_advance] at done stopped
          exact .inr ⟨chunk + budget, done, stopped⟩
      · rw [if_neg running]
        exact .inr ⟨chunk, rfl, running⟩

/-- Without a budget, enough chunks bring every machine that stops to its stop. -/
theorem runChunks_enough {fuel budget : Nat} (machine : Machine) (positive : 0 < fuel)
    (enough : budget ≤ fuel * chunk) (stopped : (machine.advance budget).status ≠ .running) :
    runChunks chunk fuel none machine .background =
      .done (machine.advance budget) .background := by
  induction fuel generalizing budget machine with
  | zero => omega
  | succ fuel inductionHypothesis =>
      rw [runChunks_none_succ]
      by_cases running : (machine.advance chunk).status = .running
      · rw [if_pos running]
        -- The stop lies behind the first chunk.
        have later : chunk < budget := by
          apply Nat.lt_of_not_le
          intro within
          exact stopped (advance_eq_of_le stopped within ▸ running)
        have rest : budget - chunk ≤ fuel * chunk := by
          rw [Nat.succ_mul] at enough
          omega
        have remaining : 0 < fuel := by
          apply Nat.pos_of_ne_zero
          rintro rfl
          omega
        have whole : (machine.advance chunk).advance (budget - chunk) = machine.advance budget := by
          rw [advance_advance, Nat.add_sub_of_le (Nat.le_of_lt later)]
        rw [inductionHypothesis (machine.advance chunk) remaining rest (whole ▸ stopped), whole]
      · rw [if_neg running, advance_eq_of_stopped running stopped]

/-- The instructions a run may execute under a cap, where zero is no cap: the smaller of
the limit and the cap, as far as they are given. -/
def runBound (cap : Int64) (limit : Option Int64) : Option Int64 :=
  if 0 < cap then some (limit.elim cap (min · cap)) else limit

/-- The cap is what bounds the run: no limit is given, or a larger one. -/
def CapBounds (cap : Int64) (limit : Option Int64) : Prop :=
  0 < cap ∧ ∀ count ∈ limit, cap < count

instance (cap : Int64) (limit : Option Int64) : Decidable (CapBounds cap limit) :=
  decidable_of_iff (0 < cap ∧ limit.all (cap < ·) = true) (by cases limit <;> simp [CapBounds])

/-- A run computes its budget from that bound. -/
theorem runBudget_eq (config : SessionConfig) {limit : Option Int64}
    (valid : ∀ count ∈ limit, 1 ≤ count) :
    runBudget config limit = ((runBound config.maxRunSteps limit).map Int64.toNatClampNeg,
      decide (CapBounds config.maxRunSteps limit)) := by
  by_cases capped : 0 < config.maxRunSteps
  · cases limit with
    | none => simp [runBudget, runBound, CapBounds, capped]
    | some count =>
        have positive := pos_of_one_le (valid count rfl)
        by_cases less : config.maxRunSteps < count
        · have smaller : min count config.maxRunSteps = config.maxRunSteps :=
            if_neg (Int64.not_le.mpr less)
          simp [runBudget, runBound, CapBounds, capped, toNatClampNeg_lt_iff positive, less,
            smaller]
        · have smaller : min count config.maxRunSteps = count :=
            if_pos (Int64.not_lt.mp less)
          simp [runBudget, runBound, CapBounds, capped, toNatClampNeg_lt_iff positive, less,
            smaller]
  · simp [runBudget, runBound, CapBounds, capped]

/-- A bound is at least one. -/
theorem runBound_pos {cap bound : Int64} {limit : Option Int64}
    (valid : ∀ count ∈ limit, 1 ≤ count) (bounded : runBound cap limit = some bound) :
    0 < bound := by
  rw [runBound] at bounded
  split at bounded
  · rename_i capped
    cases limit with
    | none =>
        cases bounded
        exact capped
    | some count =>
        cases bounded
        by_cases less : count ≤ cap
        · have smaller : min count cap = count := if_pos less
          simpa [smaller] using pos_of_one_le (valid count rfl)
        · have smaller : min count cap = cap := if_neg less
          simpa [smaller] using capped
  · exact pos_of_one_le (valid bound bounded)

/-- Without a bound there is no cap. -/
theorem not_capBounds_of_unbounded {cap : Int64} {limit : Option Int64}
    (unbounded : runBound cap limit = none) : ¬ CapBounds cap limit := by
  rintro ⟨capped, _⟩
  simp [runBound, capped] at unbounded

/-- What a run leaves behind that was not canceled and has left the machine `final`. -/
def ranTo (session : Session) (capped : Bool) (final : Machine) : Outcome (Option StepReport) :=
  let executed := final.steps - session.machine.steps
  let limitReached := capped && final.status == Status.running
  { session with machine := final }.conclude .background .run executed
    (some (.ofMachine final executed limitReached)) none

/-- A run returns, and leaves `outcome` behind. -/
def RunReturns (session : Session) (context : Context) (limit : Option Int64)
    (outcome : Outcome (Option StepReport)) : Prop :=
  ∃ fuel, session.run fuel context limit = some outcome

section Loaded

variable {session : Session} {limit : Option Int64}

/-- A limit that is valid is not refused. -/
theorem filter_eq_none_of_valid (valid : ∀ count ∈ limit, 1 ≤ count) :
    limit.filter (· < 1) = none := by
  cases limit with
  | none => rfl
  | some count => simpa using valid count rfl

/-- A run of a loaded program returns when its chunk loop is done. -/
theorem run_of_done {fuel : Nat} {budget : Option Nat} {final : Machine}
    (loaded : session.loaded = true) (valid : ∀ count ∈ limit, 1 ≤ count)
    (bound : (runBound session.config.maxRunSteps limit).map Int64.toNatClampNeg = budget)
    (loop : runChunks session.config.runChunk.toNatClampNeg (budget.getD fuel) budget
      session.machine .background = .done final .background) :
    session.run fuel .background limit =
      some (session.ranTo (decide (CapBounds session.config.maxRunSteps limit)) final) := by
  simp [run, loaded, filter_eq_none_of_valid valid, runBudget_eq session.config valid, bound, loop,
    ranTo]

/-- A run of a loaded program does not return while its chunk loop goes on. -/
theorem run_of_unfinished {fuel : Nat} {budget : Option Nat}
    (loaded : session.loaded = true) (valid : ∀ count ∈ limit, 1 ≤ count)
    (bound : (runBound session.config.maxRunSteps limit).map Int64.toNatClampNeg = budget)
    (loop : runChunks session.config.runChunk.toNatClampNeg (budget.getD fuel) budget
      session.machine .background = .unfinished) :
    session.run fuel .background limit = none := by
  simp [run, loaded, filter_eq_none_of_valid valid, runBudget_eq session.config valid, bound, loop]

/-- A run with a bound is one step by that bound, for every fuel. -/
theorem run_bounded {bound : Int64} (loaded : session.loaded = true)
    (chunkPositive : 0 < session.config.runChunk.toNatClampNeg)
    (valid : ∀ count ∈ limit, 1 ≤ count)
    (bounded : runBound session.config.maxRunSteps limit = some bound) (fuel : Nat) :
    session.run fuel .background limit =
      some (session.ranTo (decide (CapBounds session.config.maxRunSteps limit))
        (session.machine.step bound)) := by
  have positive := runBound_pos valid bounded
  rw [step_of_pos positive]
  refine run_of_done loaded valid (by rw [bounded]) ?_
  exact runChunks_budget chunkPositive session.machine (toNatClampNeg_pos positive) (Nat.le_refl _)

/-- A run without a bound returns what the run of the machine does, and only then. -/
theorem runReturns_unbounded_iff {outcome : Outcome (Option StepReport)}
    (loaded : session.loaded = true)
    (chunkPositive : 0 < session.config.runChunk.toNatClampNeg)
    (valid : ∀ count ∈ limit, 1 ≤ count)
    (unbounded : runBound session.config.maxRunSteps limit = none) :
    session.RunReturns .background limit outcome ↔
      ∃ final, session.machine.RunsTo final ∧ outcome =
        session.ranTo (decide (CapBounds session.config.maxRunSteps limit)) final := by
  have budget : (runBound session.config.maxRunSteps limit).map Int64.toNatClampNeg = none := by
    rw [unbounded]
    rfl
  simp only [RunReturns, runsTo_iff_advance]
  constructor
  · rintro ⟨fuel, returned⟩
    rcases runChunks_unbounded fuel session.machine with unfinished | ⟨count, done, stopped⟩
    · rw [run_of_unfinished loaded valid budget unfinished] at returned
      cases returned
    · rw [run_of_done loaded valid budget done] at returned
      exact ⟨_, ⟨count, rfl, stopped⟩, (Option.some.inj returned).symm⟩
  · rintro ⟨final, ⟨count, rfl, stopped⟩, rfl⟩
    have enough : count ≤ (count + 1) * session.config.runChunk.toNatClampNeg :=
      Nat.le_trans (Nat.le_succ count) (Nat.le_mul_of_pos_right _ chunkPositive)
    exact ⟨count + 1, run_of_done loaded valid budget
      (runChunks_enough session.machine (Nat.succ_pos _) enough stopped)⟩

/-- Where a run takes a machine: a step by the bound, and the run of the machine without
one. -/
def EndsIn (machine : Machine) (bound : Option Int64) (final : Machine) : Prop :=
  match bound with
  | some bound => final = machine.step bound
  | none => machine.RunsTo final

/-- What a run returns depends on the chunk size in no way. -/
theorem runReturns_iff {outcome : Outcome (Option StepReport)}
    (loaded : session.loaded = true)
    (chunkPositive : 0 < session.config.runChunk.toNatClampNeg)
    (valid : ∀ count ∈ limit, 1 ≤ count) :
    session.RunReturns .background limit outcome ↔
      ∃ final, EndsIn session.machine (runBound session.config.maxRunSteps limit) final ∧
        outcome = session.ranTo (decide (CapBounds session.config.maxRunSteps limit)) final := by
  cases bounded : runBound session.config.maxRunSteps limit with
  | none => exact runReturns_unbounded_iff loaded chunkPositive valid bounded
  | some bound =>
      simp [RunReturns, EndsIn, run_bounded loaded chunkPositive valid bounded, eq_comm]

end Loaded

/-- The executed instructions that a report counts, which are at most the bound and
therefore do not wrap. -/
theorem executed_of_step (machine : Machine) {bound : Int64} (positive : 0 < bound) :
    ((machine.step bound).steps - machine.steps).toNat =
        machine.advanceCount bound.toNatClampNeg ∧
      machine.advanceCount bound.toNatClampNeg ≤ bound.toNatClampNeg := by
  obtain ⟨counted, within⟩ := advance_steps machine bound.toNatClampNeg
  refine ⟨?_, within⟩
  have narrow := Nat.lt_of_le_of_lt within (toNatClampNeg_lt bound)
  rw [step_of_pos positive, counted, UInt64.add_comm, UInt64.add_sub_cancel,
    UInt64.toNat_ofNat_of_lt' narrow]

/-- The same session with another chunk size. -/
def withRunChunk (session : Session) (chunk : Int64) : Session :=
  { session with config := { session.config with runChunk := chunk } }

/-- A run that is not canceled is one step by the smaller of its limit and the configured
cap, for every program and with an honest count, and without either it is the run of the
machine. Another chunk size changes nothing that it leaves behind. -/
theorem run_is_bounded_step {config : SessionConfig} {session : Session}
    (reachable : Reachable config session) (loaded : session.loaded = true)
    (limit : Option Int64) (valid : ∀ count ∈ limit, 1 ≤ count) :
    (∀ bound, runBound config.maxRunSteps limit = some bound →
      ∃ outcome report, (∀ fuel, session.run fuel .background limit = some outcome) ∧
        outcome.session.machine = session.machine.step bound ∧
        outcome.fault = none ∧ outcome.value = some report ∧
        report.executed.toNat = session.machine.advanceCount bound.toNatClampNeg ∧
        report.executed.toNat ≤ bound.toNatClampNeg ∧
        (report.limitReached = true ↔
          CapBounds config.maxRunSteps limit ∧
            (session.machine.step bound).status = .running)) ∧
    (runBound config.maxRunSteps limit = none →
      ∀ final, session.machine.RunsTo final →
        (∃ outcome, session.RunReturns .background limit outcome) ∧
        ∀ outcome, session.RunReturns .background limit outcome →
          outcome.session.machine = final ∧ outcome.fault = none ∧
          ∃ report, outcome.value = some report ∧ report.limitReached = false) ∧
    ∀ chunk, 1 ≤ chunk → ∀ outcome, session.RunReturns .background limit outcome →
      (session.withRunChunk chunk).RunReturns .background limit
        { outcome with session := outcome.session.withRunChunk chunk } := by
  have sameCap : session.config.maxRunSteps = config.maxRunSteps := by
    rw [reachable.config_eq]
    rfl
  rw [← sameCap]
  refine ⟨?bounded, ?unbounded, ?otherChunk⟩
  case bounded =>
      intro bound bounded
      have positive := runBound_pos valid bounded
      obtain ⟨counted, within⟩ := executed_of_step session.machine positive
      refine ⟨_, _, run_bounded loaded reachable.runChunk_pos valid bounded, rfl, rfl, rfl,
        counted, counted ▸ within, ?_⟩
      simp [StepReport.ofMachine]
  case unbounded =>
      intro unbounded final runs
      have returns {outcome} := @runReturns_unbounded_iff session limit outcome loaded
        reachable.runChunk_pos valid unbounded
      refine ⟨⟨_, returns.mpr ⟨final, runs, rfl⟩⟩, ?_⟩
      intro outcome returned
      obtain ⟨ended, runsEnded, rfl⟩ := returns.mp returned
      obtain rfl := runsEnded.deterministic runs
      refine ⟨rfl, rfl, _, rfl, ?_⟩
      simp [StepReport.ofMachine, not_capBounds_of_unbounded unbounded]
  case otherChunk =>
      intro chunk atLeastOne outcome returned
      obtain ⟨final, ended, rfl⟩ := (runReturns_iff loaded reachable.runChunk_pos valid).mp returned
      have chunkPositive : 0 < (session.withRunChunk chunk).config.runChunk.toNatClampNeg :=
        toNatClampNeg_pos (pos_of_one_le atLeastOne)
      exact (@runReturns_iff (session.withRunChunk chunk) limit _ loaded chunkPositive valid).mpr
        ⟨final, ended, rfl⟩

/-- `+[]` never stops by itself. With a cap of five instructions its run returns after two
chunks of two and one of one, and reports that the limit was reached. -/
theorem run_is_bounded_step_endless :
    ∃ session, Reachable { tapeSize := 1, runChunk := 2, maxRunSteps := 5 } session ∧
      ∃ outcome report, (∀ fuel, session.run fuel .background none = some outcome) ∧
        outcome.value = some report ∧ report.executed.toNat = 5 ∧
        report.limitReached = true := by
  have reachable : Reachable { tapeSize := 1, runChunk := 2, maxRunSteps := 5 } _ :=
    @Reachable.requested _ _ .background (.load [43, 91, 93] [] {}) _ (.created rfl) rfl
  obtain ⟨outcome, report, returned, _, _, value, executed, _, reached⟩ :=
    (run_is_bounded_step reachable rfl none (by simp)).1 5 rfl
  refine ⟨_, reachable, outcome, report, returned, value, ?_, reached.mpr ⟨?_, ?_⟩⟩
  · rw [executed]
    decide +kernel
  · decide
  · decide +kernel

end TapeDebugger.Session

import TapeDebugger.Proofs.Machine.Stepping
import TapeDebugger.Proofs.Session.ChunkedRun

/-!
# Canceled runs

A run polls its context at its entry and before every chunk. When it is canceled in between,
all the chunks before were whole ones (`runChunks_canceled`), so what it leaves is a number
of steps by the chunk size, and running on with what is left of the budget comes out where
the run would have without the cancellation.
-/

namespace TapeDebugger

namespace Machine

variable {machine : Machine} {chunk : Int64} {count : Nat}

/-- Each of `count` steps by a chunk executes the whole chunk. -/
def StepsInFull (machine : Machine) (chunk : Int64) (count : Nat) : Prop :=
  ∀ done < count, (machine.stepEach (.replicate done chunk)).advanceCount chunk.toNatClampNeg =
    chunk.toNatClampNeg

/-- Full steps are taken one by one. -/
theorem stepsInFull_succ_iff :
    machine.StepsInFull chunk (count + 1) ↔
      machine.advanceCount chunk.toNatClampNeg = chunk.toNatClampNeg ∧
        (machine.step chunk).StepsInFull chunk count := by
  constructor
  · intro full
    exact ⟨full 0 (Nat.succ_pos count), fun done less => full (done + 1) (Nat.succ_lt_succ less)⟩
  · rintro ⟨first, rest⟩ done less
    cases done with
    | zero => exact first
    | succ done => exact rest done (Nat.lt_of_succ_lt_succ less)

/-- The step counter after so many whole chunks, around its width. -/
theorem StepsInFull.steps_eq (full : machine.StepsInFull chunk count) (positive : 0 < chunk) :
    (machine.stepEach (.replicate count chunk)).steps =
      machine.steps + UInt64.ofNat (count * chunk.toNatClampNeg) := by
  induction count with
  | zero => simp [stepEach]
  | succ count inductionHypothesis =>
      let before := machine.stepEach (.replicate count chunk)
      have stepped : machine.stepEach (.replicate (count + 1) chunk) = before.step chunk := by
        rw [stepEach, List.replicate_succ', List.foldl_append]
        rfl
      have earlier : before.steps =
          machine.steps + UInt64.ofNat (count * chunk.toNatClampNeg) :=
        inductionHypothesis fun done less => full done (Nat.lt_succ_of_lt less)
      rw [stepped, step_of_pos positive, (advance_steps before _).1,
        full count (Nat.lt_succ_self count), earlier, UInt64.add_assoc, ← UInt64.ofNat_add,
        Nat.succ_mul]

/-- Whole chunks and then the rest of a bound are one step by the bound. -/
theorem step_of_chunks {bound rest : Int64} (chunkPositive : 0 < chunk) (restPositive : 0 < rest)
    (whole : count * chunk.toNatClampNeg + rest.toNatClampNeg = bound.toNatClampNeg) :
    (machine.stepEach (.replicate count chunk)).step rest = machine.step bound := by
  have positive : ∀ other ∈ List.replicate count chunk ++ [rest], 0 < other := by
    intro other member
    rcases List.mem_append.mp member with chunked | last
    · exact List.eq_of_mem_replicate chunked ▸ chunkPositive
    · exact List.eq_of_mem_singleton last ▸ restPositive
  have boundPositive : 0 < bound := by
    apply pos_of_toNatClampNeg_pos
    rw [← whole]
    exact Nat.add_pos_right _ (toNatClampNeg_pos restPositive)
  calc (machine.stepEach (.replicate count chunk)).step rest
      = machine.stepEach (.replicate count chunk ++ [rest]) := by
        rw [stepEach, stepEach, List.foldl_append]
        rfl
    _ = machine.advance bound.toNatClampNeg := by
        rw [stepEach_eq_advance (by simp) positive, allowance_append, allowance_replicate,
          allowance, allowance, Nat.add_zero, whole]
    _ = machine.step bound := (step_of_pos boundPositive).symm

end Machine

namespace Session

open Machine

section Loop

variable {fuel polls : Nat} {budget : Option Nat} {machine final : Machine}
  {context polled left : Context}

/-- The loop goes on while the machine is running and some of the budget is left. -/
theorem runChunks_of_running {chunk : Nat} (poll : context.poll = some polled)
    (running : (machine.advance chunk).status = .running)
    (more : ∀ allowed ∈ budget, chunk < allowed) :
    runChunks chunk (fuel + 1) budget machine context =
      runChunks chunk fuel (budget.map (· - chunk)) (machine.advance chunk) polled := by
  cases budget with
  | none => simp [runChunks, poll, running]
  | some allowed =>
      have less := more allowed rfl
      have whole : min allowed chunk = chunk := by omega
      have rest : allowed - chunk ≠ 0 := by omega
      simp [runChunks, poll, running, whole, rest]

/-- A loop that is canceled later goes on. -/
theorem running_of_canceled {chunk : Nat} (poll : context.poll = some polled)
    (loop : runChunks chunk (fuel + 1) budget machine context = .canceled final left) :
    (machine.advance chunk).status = .running ∧ ∀ allowed ∈ budget, chunk < allowed := by
  cases budget with
  | none =>
      by_cases running : (machine.advance chunk).status = .running
      · exact ⟨running, by simp⟩
      · simp [runChunks, poll, running] at loop
  | some allowed =>
      simp only [runChunks, poll, Option.map_some, Option.some.injEq] at loop
      split at loop
      · cases loop
      · rename_i goesOn
        rw [not_or] at goesOn
        have whole : min allowed chunk = chunk := by omega
        rw [whole] at goesOn
        refine ⟨Decidable.of_not_not goesOn.1, ?_⟩
        intro other given
        cases given
        omega

variable {chunk : Int64}

/-- A chunk loop is only canceled behind whole chunks, one for each poll that succeeded, and
within its budget. -/
theorem runChunks_canceled (chunkPositive : 0 < chunk)
    (loop : runChunks chunk.toNatClampNeg fuel budget machine ⟨some polls⟩ =
      .canceled final left)
    (positive : ∀ allowed ∈ budget, 0 < allowed) :
    final = machine.stepEach (.replicate polls chunk) ∧ machine.StepsInFull chunk polls ∧
      ∀ allowed ∈ budget, polls * chunk.toNatClampNeg < allowed := by
  induction polls generalizing fuel budget machine with
  | zero =>
      cases fuel with
      | zero => cases loop
      | succ fuel =>
          cases loop
          refine ⟨rfl, fun done less => absurd less (Nat.not_lt_zero done), ?_⟩
          simpa using positive
  | succ polls inductionHypothesis =>
      cases fuel with
      | zero => cases loop
      | succ fuel =>
          obtain ⟨running, more⟩ := running_of_canceled rfl loop
          rw [runChunks_of_running rfl running more] at loop
          have stillPositive :
              ∀ allowed ∈ budget.map (· - chunk.toNatClampNeg), 0 < allowed := by
            intro allowed member
            obtain ⟨before, given, rfl⟩ := Option.map_eq_some_iff.mp member
            exact Nat.sub_pos_of_lt (more before given)
          obtain ⟨ended, full, within⟩ := inductionHypothesis loop stillPositive
          rw [← step_of_pos chunkPositive] at ended full
          have first := (advanceCount_eq_iff (toNatClampNeg_pos chunkPositive)).mpr running
          refine ⟨ended, stepsInFull_succ_iff.mpr ⟨first, full⟩, ?_⟩
          intro allowed given
          have below := within _ (Option.mem_map_of_mem _ given)
          rw [Nat.succ_mul]
          omega

/-- Behind whole chunks and within its budget a chunk loop is canceled by the next poll. -/
theorem runChunks_of_stepsInFull (chunkPositive : 0 < chunk)
    (full : machine.StepsInFull chunk polls)
    (within : ∀ allowed ∈ budget, polls * chunk.toNatClampNeg < allowed)
    (enough : polls < fuel) :
    runChunks chunk.toNatClampNeg fuel budget machine ⟨some polls⟩ =
      .canceled (machine.stepEach (.replicate polls chunk)) ⟨some 0⟩ := by
  induction polls generalizing fuel budget machine with
  | zero =>
      obtain ⟨fuel, rfl⟩ := Nat.exists_eq_add_one.mpr enough
      rfl
  | succ polls inductionHypothesis =>
      obtain ⟨fuel, rfl⟩ := Nat.exists_eq_add_one.mpr (Nat.zero_lt_of_lt enough)
      obtain ⟨first, rest⟩ := stepsInFull_succ_iff.mp full
      have running := (advanceCount_eq_iff (toNatClampNeg_pos chunkPositive)).mp first
      have more : ∀ allowed ∈ budget, chunk.toNatClampNeg < allowed := by
        intro allowed given
        have below := within allowed given
        rw [Nat.succ_mul] at below
        omega
      have stillWithin : ∀ allowed ∈ budget.map (· - chunk.toNatClampNeg),
          polls * chunk.toNatClampNeg < allowed := by
        intro allowed member
        obtain ⟨before, given, rfl⟩ := Option.map_eq_some_iff.mp member
        have below := within before given
        rw [Nat.succ_mul] at below
        omega
      rw [runChunks_of_running rfl running more, ← step_of_pos chunkPositive,
        inductionHypothesis rest stillWithin (Nat.lt_of_succ_lt_succ enough)]
      rfl

end Loop

/-- What a run leaves behind that was canceled with the machine at `final`. -/
def canceledAt (session : Session) (left : Context) (final : Machine) :
    Outcome (Option StepReport) :=
  let executed := final.steps - session.machine.steps
  { session with machine := final }.conclude left .run executed
    (some (.ofMachine final executed false)) (some .canceled)

section Loaded

variable {session : Session} {limit : Option Int64} {outcome : Outcome (Option StepReport)}

/-- A run of a loaded program that reports its cancellation was canceled before a chunk. -/
theorem exists_canceled_loop {fuel polls : Nat} (loaded : session.loaded = true)
    (valid : ∀ count ∈ limit, 1 ≤ count)
    (returned : session.run fuel ⟨some (polls + 1)⟩ limit = some outcome)
    (canceled : outcome.fault = some .canceled) :
    ∃ chunks final left,
      runChunks session.config.runChunk.toNatClampNeg chunks
        ((runBound session.config.maxRunSteps limit).map Int64.toNatClampNeg) session.machine
        ⟨some polls⟩ = .canceled final left ∧ outcome = session.canceledAt left final := by
  simp only [run, Context.poll, loaded, filter_eq_none_of_valid valid,
    runBudget_eq session.config valid, Bool.not_true, Bool.false_eq_true, ↓reduceIte] at returned
  split at returned
  · cases returned
  · rename_i final left loop
    cases returned
    exact ⟨_, final, left, loop, by simp [canceledAt, loaded]⟩
  · cases returned
    cases canceled

/-- A run is canceled behind whole chunks that do not use up its bound. -/
theorem exists_runReturns_canceled {chunks : Nat} (loaded : session.loaded = true)
    (chunkPositive : 0 < session.config.runChunk) (valid : ∀ count ∈ limit, 1 ≤ count)
    (full : session.machine.StepsInFull session.config.runChunk chunks)
    (within : ∀ bound ∈ runBound session.config.maxRunSteps limit,
      chunks * session.config.runChunk.toNatClampNeg < bound.toNatClampNeg) :
    ∃ outcome, session.RunReturns ⟨some (chunks + 1)⟩ limit outcome ∧
      outcome.fault = some .canceled := by
  let budget := (runBound session.config.maxRunSteps limit).map Int64.toNatClampNeg
  have allowed : ∀ allowed ∈ budget, chunks * session.config.runChunk.toNatClampNeg < allowed := by
    intro allowed given
    obtain ⟨bound, bounded, rfl⟩ := Option.map_eq_some_iff.mp given
    exact within bound bounded
  -- Each chunk uses up some of the budget, so there are fewer of them than it allows.
  have enough : chunks < budget.getD (chunks + 1) := by
    have least := Nat.le_mul_of_pos_right chunks (toNatClampNeg_pos chunkPositive)
    cases given : budget with
    | none => exact Nat.lt_succ_self chunks
    | some count => exact Nat.lt_of_le_of_lt least (allowed count given)
  have loop := runChunks_of_stepsInFull chunkPositive full allowed enough
  refine ⟨session.canceledAt ⟨some 0⟩
    (session.machine.stepEach (.replicate chunks session.config.runChunk)), ⟨chunks + 1, ?_⟩, rfl⟩
  simp [run, Context.poll, loaded, filter_eq_none_of_valid valid,
    runBudget_eq session.config valid, budget, loop, canceledAt]

/-- A run that is not canceled returns and leaves the machine `final`. -/
def RunEndsIn (session : Session) (limit : Option Int64) (final : Machine) : Prop :=
  ∃ outcome, session.RunReturns .background limit outcome ∧ outcome.fault = none ∧
    outcome.session.machine = final

/-- The run of a session ends where its machine does under the bound of the run. -/
theorem runEndsIn_iff {final : Machine} (loaded : session.loaded = true)
    (chunkPositive : 0 < session.config.runChunk.toNatClampNeg)
    (valid : ∀ count ∈ limit, 1 ≤ count) :
    session.RunEndsIn limit final ↔
      EndsIn session.machine (runBound session.config.maxRunSteps limit) final := by
  constructor
  · rintro ⟨outcome, returned, _, rfl⟩
    obtain ⟨ended, ends, rfl⟩ := (runReturns_iff loaded chunkPositive valid).mp returned
    exact ends
  · intro ends
    exact ⟨_, (runReturns_iff loaded chunkPositive valid).mpr ⟨final, ends, rfl⟩, rfl, rfl⟩

end Loaded

section Remainder

variable {cap : Int64} {limit : Option Int64} {executed : Nat}

/-- What is left of a bound after some instructions. -/
def remainder (bound : Option Int64) (executed : Nat) : Option Int64 :=
  bound.map (· - Int64.ofNat executed)

/-- A bound does not exceed the cap. -/
theorem runBound_le_cap {bound : Int64} (capped : 0 < cap)
    (bounded : runBound cap limit = some bound) : bound ≤ cap := by
  rw [runBound, if_pos capped] at bounded
  cases limit with
  | none =>
      cases bounded
      exact Int64.le_refl _
  | some count =>
      cases bounded
      by_cases less : count ≤ cap
      · have smaller : min count cap = count := if_pos less
        simpa [smaller] using less
      · have smaller : min count cap = cap := if_neg less
        simp [smaller]

/-- A limit that does not exceed the bound of a run is its own bound. -/
theorem runBound_of_le {bound count : Int64} (bounded : runBound cap limit = some bound)
    (less : count ≤ bound) : runBound cap (some count) = some count := by
  by_cases capped : 0 < cap
  · have smaller : min count cap = count :=
      if_pos (Int64.le_trans less (runBound_le_cap capped bounded))
    simp [runBound, capped, smaller]
  · rw [runBound, if_neg capped]

/-- What is left of a bound that is not used up may be given as a limit, and is then the bound
again. -/
theorem runBound_remainder
    (within : ∀ bound ∈ runBound cap limit, executed < bound.toNatClampNeg) :
    (∀ count ∈ remainder (runBound cap limit) executed, 1 ≤ count) ∧
      runBound cap (remainder (runBound cap limit) executed) =
        remainder (runBound cap limit) executed := by
  cases bounded : runBound cap limit with
  | none =>
      have uncapped : ¬ 0 < cap := fun capped => by simp [runBound, capped] at bounded
      exact ⟨by simp [remainder], by simp [remainder, runBound, uncapped]⟩
  | some bound =>
      have below := within bound bounded
      have rest := toNatClampNeg_sub below
      have positive : 0 < bound - Int64.ofNat executed := pos_of_toNatClampNeg_pos (by omega)
      have less : bound - Int64.ofNat executed ≤ bound := by
        apply Int64.not_lt.mp
        intro greater
        have above := (toNatClampNeg_lt_iff positive).mpr greater
        omega
      refine ⟨?_, runBound_of_le bounded less⟩
      intro count given
      cases given
      exact one_le_of_pos positive

end Remainder

/-- Behind whole chunks a run ends where it ends from the beginning, if it is given what is left
of its bound. -/
theorem endsIn_stepEach_iff {machine final : Machine} {chunk : Int64} {chunks : Nat}
    {bound : Option Int64} (chunkPositive : 0 < chunk)
    (within : ∀ count ∈ bound, chunks * chunk.toNatClampNeg < count.toNatClampNeg) :
    EndsIn (machine.stepEach (.replicate chunks chunk))
        (remainder bound (chunks * chunk.toNatClampNeg)) final ↔
      EndsIn machine bound final := by
  cases bound with
  | none => exact runsTo_stepEach_iff _
  | some count =>
      have below := within count rfl
      have rest := toNatClampNeg_sub below
      have restPositive : 0 < count - Int64.ofNat (chunks * chunk.toNatClampNeg) :=
        pos_of_toNatClampNeg_pos (by omega)
      have same := @step_of_chunks machine chunk chunks count _ chunkPositive restPositive
        (by omega)
      rw [remainder, Option.map_some, EndsIn, EndsIn, same]

/-- What is true of a run that was canceled after `chunks` polls between its chunks: nothing is
lost, and nothing is executed again. -/
structure CanceledAfter (session : Session) (limit : Option Int64) (chunks : Nat)
    (outcome : Outcome (Option StepReport)) : Prop where
  /-- The machine has been stepped by the chunk size so many times, -/
  machine_eq : outcome.session.machine =
    session.machine.stepEach (.replicate chunks session.config.runChunk)
  /-- and each time has executed the whole chunk. -/
  stepsInFull : session.machine.StepsInFull session.config.runChunk chunks
  /-- The report counts all of that and does not speak of a limit. -/
  value_eq : outcome.value = some (.ofMachine outcome.session.machine
    (UInt64.ofNat (chunks * session.config.runChunk.toNatClampNeg)) false)
  /-- One record with the same count and the cancellation is appended, if there is a history;
  the oldest record makes room for it if there is none. -/
  history_eq : outcome.session.history =
    if 0 < session.config.historySize then
      (if session.history.length < session.config.historySize.toNatClampNeg then session.history
        else session.history.tail) ++
      [{ operation := .run, status := outcome.session.machine.status,
         executed := UInt64.ofNat (chunks * session.config.runChunk.toNatClampNeg),
         fault := some .canceled }]
    else session.history
  /-- Less was executed than was allowed. -/
  within : ∀ bound ∈ runBound session.config.maxRunSteps limit,
    chunks * session.config.runChunk.toNatClampNeg < bound.toNatClampNeg
  /-- A run with what is left returns exactly when the whole run does, and ends in the same
  machine. -/
  resumes : ∀ final,
    outcome.session.RunEndsIn (remainder (runBound session.config.maxRunSteps limit)
      (chunks * session.config.runChunk.toNatClampNeg)) final ↔ session.RunEndsIn limit final

/-- A run that is canceled between its chunks has lost nothing and repeats nothing when it is
taken up again; and it is canceled there whenever the chunks before are whole ones and do not
use up its bound. A run that is canceled at its entry leaves the session as it was. -/
theorem run_canceled_resumes {config : SessionConfig} {session : Session}
    (reachable : Reachable config session) (loaded : session.loaded = true)
    (limit : Option Int64) (valid : ∀ count ∈ limit, 1 ≤ count) :
    (∀ chunks outcome, session.RunReturns ⟨some (chunks + 1)⟩ limit outcome →
      outcome.fault = some .canceled → session.CanceledAfter limit chunks outcome) ∧
    (∀ chunks, session.machine.StepsInFull session.config.runChunk chunks →
      (∀ bound ∈ runBound session.config.maxRunSteps limit,
        chunks * session.config.runChunk.toNatClampNeg < bound.toNatClampNeg) →
      ∃ outcome, session.RunReturns ⟨some (chunks + 1)⟩ limit outcome ∧
        outcome.fault = some .canceled) ∧
    ∀ fuel, ∃ outcome, session.run fuel ⟨some 0⟩ limit = some outcome ∧
      outcome.session = session ∧ outcome.fault = some .canceled ∧ outcome.value = none ∧
      outcome.record = none := by
  have chunkPositive : 0 < session.config.runChunk :=
    pos_of_toNatClampNeg_pos reachable.runChunk_pos
  refine ⟨?_, fun chunks => exists_runReturns_canceled loaded chunkPositive valid,
    fun fuel => ⟨_, rfl, rfl, rfl, rfl, rfl⟩⟩
  rintro chunks outcome ⟨fuel, returned⟩ canceled
  obtain ⟨_, final, left, loop, rfl⟩ := exists_canceled_loop loaded valid returned canceled
  have budgetPositive : ∀ allowed ∈
      (runBound session.config.maxRunSteps limit).map Int64.toNatClampNeg, 0 < allowed := by
    intro allowed given
    obtain ⟨bound, bounded, rfl⟩ := Option.map_eq_some_iff.mp given
    exact toNatClampNeg_pos (runBound_pos valid bounded)
  obtain ⟨rfl, full, below⟩ := runChunks_canceled chunkPositive loop budgetPositive
  have within : ∀ bound ∈ runBound session.config.maxRunSteps limit,
      chunks * session.config.runChunk.toNatClampNeg < bound.toNatClampNeg :=
    fun bound bounded => below _ (Option.mem_map_of_mem _ bounded)
  have counted : (session.machine.stepEach (.replicate chunks session.config.runChunk)).steps -
      session.machine.steps =
        UInt64.ofNat (chunks * session.config.runChunk.toNatClampNeg) := by
    rw [full.steps_eq chunkPositive, UInt64.add_comm, UInt64.add_sub_cancel]
  obtain ⟨validRest, boundRest⟩ := runBound_remainder within
  refine ⟨rfl, full, ?_, ?_, within, ?_⟩
  · rw [← counted]
    rfl
  · rw [← counted, ← appendRecord_eq reachable.length_history_le]
    rfl
  · intro ended
    have afterwards := @runEndsIn_iff
      (session.canceledAt left
        (session.machine.stepEach (.replicate chunks session.config.runChunk))).session
      _ ended loaded reachable.runChunk_pos validRest
    rw [afterwards, runEndsIn_iff loaded reachable.runChunk_pos valid,
      ← endsIn_stepEach_iff chunkPositive within]
    exact iff_of_eq (congrArg (EndsIn _ · ended) boundRest)

/-- `+[]` never stops by itself. With a cap of five instructions and chunks of two, its run is
canceled behind two chunks when three polls succeed, and goes on to the fifth instruction. -/
theorem run_canceled_resumes_endless :
    ∃ session, Reachable { tapeSize := 1, runChunk := 2, maxRunSteps := 5 } session ∧
      ∃ outcome, session.RunReturns ⟨some 3⟩ none outcome ∧ outcome.fault = some .canceled ∧
        outcome.value.map StepReport.executed = some 4 ∧
        outcome.session.history = session.history ++
          [{ operation := .run, status := .running, executed := 4, fault := some .canceled }] ∧
        outcome.session.RunEndsIn (some 1) (session.machine.step 5) := by
  -- The session behind a load, and what there is to compute about it.
  obtain ⟨session, reachable, loaded, config, history, running, canceled⟩ :
      ∃ session, Reachable { tapeSize := 1, runChunk := 2, maxRunSteps := 5 } session ∧
        session.loaded = true ∧
        session.config =
          { tapeSize := 1, runChunk := 2, maxRunSteps := 5, historySize := 64 } ∧
        session.history.length = 1 ∧ (session.machine.stepEach [2, 2]).status = .running ∧
        (session.run 0 ⟨some 3⟩ none).bind Outcome.fault = some .canceled :=
    ⟨_, @Reachable.requested _ _ .background (.load [43, 91, 93] [] {}) _ (.created rfl) rfl,
      rfl, by decide +kernel, by decide +kernel, by decide +kernel, by decide +kernel⟩
  obtain ⟨outcome, returned, fault⟩ := Option.bind_eq_some_iff.mp canceled
  have after := (run_canceled_resumes reachable loaded none (by simp)).1 2 outcome
    ⟨0, returned⟩ fault
  have stillRunning : outcome.session.machine.status = .running := by
    rw [after.machine_eq, config]
    exact running
  have whole : session.RunEndsIn none (session.machine.step 5) := by
    rw [runEndsIn_iff loaded reachable.runChunk_pos (by simp), config]
    rfl
  refine ⟨session, reachable, outcome, ⟨0, returned⟩, fault, ?_, ?_, ?_⟩
  · rw [after.value_eq, config]
    rfl
  · rw [after.history_eq, stillRunning, config, history]
    rfl
  · have resumed := (after.resumes (session.machine.step 5)).mpr whole
    rw [config] at resumed
    exact resumed

end Session

end TapeDebugger

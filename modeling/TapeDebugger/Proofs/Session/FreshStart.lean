import TapeDebugger.Proofs.Machine.Integrity
import TapeDebugger.Proofs.Session.Transcript

/-!
# Fresh starts

A reset or a load begins anew: of what a machine has executed nothing is left, because an intact
machine is reset to the new machine of its limits, field by field. A session goes further and
puts a new machine in place of the old one, so a load that is not refused makes any two sessions
of one configuration alike, and from then on they can be told apart by their records only.
-/

namespace TapeDebugger

namespace Session

/-- Sessions of one configuration that are alike differ in their records only. -/
theorem Alike.reproduces_all {left right : Session} (alike : left.Alike right)
    (config : left.config = right.config) (queries : List Query) :
    Reproduces (· ≠ .history) (queries.map .both) left right := by
  refine alike.reproduces ?_ ?_
  · intro query _
    cases query with
    | operation context request => exact .inr (congrArg SessionConfig.runChunk config)
    | history => trivial
  · intro query other
    rw [config]
    cases query with
    | operation context request => cases request <;> trivial
    | history => exact absurd rfl other

section Load

variable {left right : Session} {context polled : Context} {code input : List UInt8}
  {overrides : TapeOverrides}

/-- A load that is refused keeps the machine and the flag. -/
theorem load_of_refused {fault : RangeFault} (poll : context.poll = some polled)
    (refused : loadLimits left.config overrides = .error fault) :
    left.load context code input overrides =
      left.conclude polled .load 0 none (some (.argument fault)) := by
  rw [load_eq, atEntry, poll]
  simp only [refused]

/-- A load that is not refused makes sessions of one configuration alike and reports the same,
whatever they held before. -/
theorem matches_load {limits : TapeLimits} (poll : context.poll = some polled)
    (config : left.config = right.config)
    (chunkPositive : 0 < left.config.runChunk.toNatClampNeg)
    (usable : loadLimits left.config overrides = .ok limits) :
    Matches (left.load context code input overrides)
      (right.load context code input overrides) := by
  have rightUsable : loadLimits right.config overrides = .ok limits := config ▸ usable
  rw [load_eq, load_eq, atEntry, atEntry, poll]
  simp only [usable, rightUsable]
  exact ⟨⟨congrArg _ config, rfl, rfl, chunkPositive, config ▸ chunkPositive⟩, rfl, rfl⟩

end Load

/-- What two sessions have in common after the same load, given what each of them left. -/
inductive LoadsAlike (left right : Session)
    (leftOutcome rightOutcome : Outcome (Option LoadReport)) : Prop where
  /-- Both refuse the arguments for the same reason, and keep what they had. -/
  | refused {fault : RangeFault}
      (leftRefuses : leftOutcome.value = none ∧ leftOutcome.fault = some (.argument fault))
      (rightRefuses : rightOutcome.value = none ∧ rightOutcome.fault = some (.argument fault))
      (leftKeeps : leftOutcome.session.machine = left.machine ∧
        leftOutcome.session.loaded = left.loaded)
      (rightKeeps : rightOutcome.session.machine = right.machine ∧
        rightOutcome.session.loaded = right.loaded)
  /-- Both report the same, and go on to return the same to all queries but for their records. -/
  | loaded {report : LoadReport}
      (leftReports : leftOutcome.value = some report)
      (rightReports : rightOutcome.value = some report)
      (sameFault : leftOutcome.fault = rightOutcome.fault)
      (onward : ∀ queries : List Query, Reproduces (· ≠ .history) (queries.map .both)
        leftOutcome.session rightOutcome.session)

/-- Reachable sessions of one configuration load alike. -/
theorem Reachable.loadsAlike {config : SessionConfig} {left right : Session}
    (leftReachable : Reachable config left) (rightReachable : Reachable config right)
    {context polled : Context} (poll : context.poll = some polled) (code input : List UInt8)
    (overrides : TapeOverrides) :
    LoadsAlike left right (left.load context code input overrides)
      (right.load context code input overrides) := by
  have same : left.config = right.config :=
    leftReachable.config_eq.trans rightReachable.config_eq.symm
  cases usable : loadLimits left.config overrides with
  | error fault =>
      rw [load_of_refused poll usable, load_of_refused poll (same ▸ usable)]
      exact .refused ⟨rfl, rfl⟩ ⟨rfl, rfl⟩ ⟨rfl, rfl⟩ ⟨rfl, rfl⟩
  | ok limits =>
      have matching : Matches (left.load context code input overrides)
          (right.load context code input overrides) :=
        matches_load poll same leftReachable.runChunk_pos usable
      obtain ⟨report, reported⟩ : ∃ report,
          (left.load context code input overrides).value = some report := by
        rw [load_eq, atEntry, poll]
        simp only [usable]
        exact ⟨_, rfl⟩
      have sameAfter : (left.load context code input overrides).session.config =
          (right.load context code input overrides).session.config := by
        have leftKeeps := @Request.Returns.config_eq left context (.load code input overrides) _ rfl
        have rightKeeps :=
          @Request.Returns.config_eq right context (.load code input overrides) _ rfl
        exact leftKeeps.trans (same.trans rightKeeps.symm)
      refine .loaded reported (matching.value_eq ▸ reported) matching.fault_eq ?_
      exact matching.alike.reproduces_all sameAfter

/-- Nothing survives a reset or a load. A reachable machine is reset to the new machine of its
limits, and loads as that one does. Hence two reachable sessions of one configuration load
alike, whatever each has executed before: they refuse the same arguments, or cannot be told
apart afterwards but for their records. A load that is canceled at its entry is none, and
leaves both as they were. -/
theorem nothing_survives_load_or_reset :
    (∀ (limits : TapeLimits) (machine : Machine), TapeDebugger.Reachable limits machine →
      machine.reset = .new limits ∧
      ∀ source input, machine.load source input = (Machine.new limits).load source input) ∧
    ∀ (config : SessionConfig) (left right : Session), Reachable config left →
      Reachable config right → ∀ (context : Context) (code input : List UInt8)
        (overrides : TapeOverrides),
        (∀ polled, context.poll = some polled →
          LoadsAlike left right (left.load context code input overrides)
            (right.load context code input overrides)) ∧
        (context.poll = none →
          (left.load context code input overrides).session = left ∧
          (right.load context code input overrides).session = right) := by
  constructor
  · intro limits machine reachable
    have intact := Machine.Intact.of_reachable reachable
    rw [← reachable.limits_eq]
    exact ⟨Machine.reset_eq_new intact, Machine.load_eq_load_new intact⟩
  · intro config left right leftReachable rightReachable context code input overrides
    constructor
    · intro polled poll
      exact leftReachable.loadsAlike rightReachable poll code input overrides
    · intro refused
      rw [load, load, atEntry, atEntry, refused]
      exact ⟨rfl, rfl⟩

/-- A session in the middle of `+[]` with input left over, and a new one: reset, the first has
the machine of the second; and both load `,.` with the same report, and are brought by a run to
wait for input with the same machine. -/
theorem nothing_survives_load_or_reset_reload :
    ∃ left right, Reachable { tapeSize := 1 } left ∧ Reachable { tapeSize := 1 } right ∧
      left.machine.steps ≠ right.machine.steps ∧ left.machine.reset = right.machine ∧
      ∃ responses otherResponses final otherFinal,
        (left.load .background [44, 46] [] {}).value =
          (right.load .background [44, 46] [] {}).value ∧
        Transcript (left.load .background [44, 46] [] {}).session
          [.operation .background (.run none)] responses final ∧
        Transcript (right.load .background [44, 46] [] {}).session
          [.operation .background (.run none)] otherResponses otherFinal ∧
        final.machine = otherFinal.machine ∧ final.machine.status = .waitingForInput := by
  let limits : TapeLimits :=
    ⟨1, TapeSettings.minSafeInteger, TapeSettings.maxSafeInteger, by decide, by decide, by decide⟩
  obtain ⟨left, leftReachable, machineReachable, steps, accepted, computed⟩ : ∃ left,
      Reachable { tapeSize := 1 } left ∧ TapeDebugger.Reachable limits left.machine ∧
      left.machine.steps = 2 ∧
      (left.load .background [44, 46] [] {}).fault = none ∧
      (replay? 1 (left.load .background [44, 46] [] {}).session
        [.operation .background (.run none)]).map (·.2.machine.status) =
          some .waitingForInput :=
    ⟨_, @Reachable.requested _ _ .background (.step 2) _
        (@Reachable.requested _ _ .background (.load [43, 91, 93] [65] {}) _ (.created rfl) rfl)
        rfl,
      ⟨[.load [43, 91, 93] [65], .command (.step 2)], .cons rfl (.cons rfl .nil)⟩,
      by decide +kernel, by decide +kernel, by decide +kernel⟩
  obtain ⟨right, rightReachable, blank⟩ : ∃ right,
      Reachable { tapeSize := 1 } right ∧ right.machine = .new limits :=
    ⟨_, .created rfl, rfl⟩
  have reset := (nothing_survives_load_or_reset.1 limits left.machine machineReachable).1
  obtain ⟨⟨responses, final⟩, replayed, waiting⟩ := Option.map_eq_some_iff.mp computed
  refine ⟨left, right, leftReachable, rightReachable, by simp [steps, blank, Machine.new],
    reset.trans blank.symm, responses, ?_⟩
  cases (nothing_survives_load_or_reset.2 _ left right leftReachable rightReachable .background
    [44, 46] [] {}).1 .background rfl with
  | refused leftRefuses =>
      rw [accepted] at leftRefuses
      cases leftRefuses.2
  | loaded leftReports rightReports _ onward =>
      obtain ⟨otherResponses, otherFinal, performs, _, machine, _⟩ :=
        onward [.operation .background (.run none)] responses final (transcript_of_replay? replayed)
      exact ⟨otherResponses, final, otherFinal, leftReports.trans rightReports.symm,
        transcript_of_replay? replayed, (performs _ _).mpr ⟨rfl, rfl⟩, machine, waiting⟩

end Session

end TapeDebugger

import Mathlib.Algebra.Ring.Nat
import Mathlib.Data.List.DropRight
import TapeDebugger.Proofs.Session.Deeds

/-!
# The journal of a session

A journal lists what every request has done that was not canceled at its entry, from the creation
of the session on: the operation, the status right after it, the instructions it has executed and
its fault. It says what to expect of the history, which is the end of it, and of the step counter
of the machine, which is the sum of what was executed since the machine was put in place. Both
rest on what a single deed leaves behind.
-/

namespace TapeDebugger

/-- A load starts to count steps again. -/
theorem Machine.load_steps (machine : Machine) (source input : List UInt8) :
    (machine.load source input).1.steps = 0 := by
  rw [load]
  cases Program.compile source <;> rfl

/-- The number of records a session retains. -/
def SessionConfig.retained (config : SessionConfig) : Nat :=
  if config.historySize = 0 then 64 else config.historySize.toNatClampNeg

/-- As many records are kept as the history size with its default says. -/
theorem SessionConfig.retained_eq (config : SessionConfig) :
    config.withDefaults.historySize.toNatClampNeg = config.retained := by
  by_cases zero : config.historySize = 0
  · simp only [withDefaults, retained, zero, ↓reduceIte]
    decide
  · simp [withDefaults, retained, zero]

/-- Appending a record to the end of a list gives the end of the list with the record. -/
theorem appendRecord_rtake (size : Int64) (records : List Record) (record : Record) :
    appendRecord size (records.rtake size.toNatClampNeg) record =
      (records ++ [record]).rtake size.toNatClampNeg := by
  by_cases enabled : 0 < size
  · have positive := toNatClampNeg_pos enabled
    have kept : records.length + 1 - size.toNatClampNeg ≤ records.length := by omega
    have dropped : records.length - size.toNatClampNeg +
        ((records.length - (records.length - size.toNatClampNeg)) + 1 - size.toNatClampNeg) =
        records.length + 1 - size.toNatClampNeg := by omega
    rw [appendRecord, if_pos enabled, List.rtake, List.rtake, List.length_drop, List.drop_drop,
      dropped, List.length_append, List.length_singleton, List.drop_append_of_le_length kept]
  · have none : size.toNatClampNeg = 0 := by
      apply Nat.eq_zero_of_not_pos
      exact fun positive => enabled (pos_of_toNatClampNeg_pos positive)
    rw [appendRecord, if_neg enabled, none, List.rtake_zero, List.rtake_zero]

namespace Record

/-- The operation put a new machine in place: a reset, or a load that was not refused. -/
def replacesMachine (record : Record) : Bool :=
  match record.operation, record.fault with
  | .reset, _ | .load, none | .load, some (.unmatched _) => true
  | _, _ => false

/-- The operation is one that executes instructions. -/
def isExecution (record : Record) : Bool :=
  record.operation == .step || record.operation == .run

end Record

/-- The instructions that the steps and runs of a list executed since the machine was last
replaced, added up as numbers. -/
def executedSinceReplaced (records : List Record) : Nat :=
  (((records.rtakeWhile (!·.replacesMachine)).filter (·.isExecution)).map (·.executed.toNat)).sum

section Sum

variable {record : Record} (records : List Record)

/-- Nothing has been executed since a record that replaces the machine. -/
theorem executedSinceReplaced_of_replaces (replaces : record.replacesMachine = true) :
    executedSinceReplaced (records ++ [record]) = 0 := by
  simp [executedSinceReplaced, replaces]

/-- A record of an execution adds what it executed. -/
theorem executedSinceReplaced_of_isExecution (keeps : record.replacesMachine = false)
    (executes : record.isExecution = true) :
    executedSinceReplaced (records ++ [record]) =
      executedSinceReplaced records + record.executed.toNat := by
  simp [executedSinceReplaced, keeps, executes]

/-- Any other record adds nothing. -/
theorem executedSinceReplaced_of_not_isExecution (keeps : record.replacesMachine = false)
    (idle : record.isExecution = false) :
    executedSinceReplaced (records ++ [record]) = executedSinceReplaced records := by
  simp [executedSinceReplaced, keeps, idle]

end Sum

namespace Session

open Machine

/-- How many instructions a request has executed that leaves the machine `final`: none, unless it
steps or runs. -/
def Request.HasExecuted (session : Session) (final : Machine) : Request → Nat → Prop
  | step _, count | run _, count => Covers count session.machine final
  | _, count => count = 0

/-- Requests lead from the creation of a session to this one, and have done what the records
say. -/
inductive Journal (config : SessionConfig) : Session → List Record → Prop where
  | created {session} (created : Session.create config = .ok session) : Journal config session []
  /-- A request that is canceled at its entry has done nothing. -/
  | canceled {session records context request outcome} (prior : Journal config session records)
      (canceled : context.poll = none)
      (returned : Request.Returns session context request outcome) :
      Journal config outcome.session records
  | performed {session records context request outcome count}
      (prior : Journal config session records) (live : context.poll ≠ none)
      (returned : Request.Returns session context request outcome)
      (executed : request.HasExecuted session outcome.session.machine count) :
      Journal config outcome.session (records ++
        [{ operation := request.operation, status := outcome.session.machine.status,
           executed := UInt64.ofNat count, fault := outcome.fault }])

namespace Deed

variable {session : Session} {request : Request} {machine : Machine} {loaded : Bool}
  {executed : UInt64} {fault : Option SessionFault}

/-- Every deed has executed some number of instructions, and counts it around its width. -/
theorem exists_hasExecuted (deed : Deed session request machine loaded executed fault) :
    ∃ count, request.HasExecuted session machine count := by
  have still : ∀ request : Request, request.HasExecuted session session.machine 0 := by
    intro request
    cases request with
    | step | run => exact covers_refl session.machine
    | _ => rfl
  cases deed with
  | lacksProgram | refuses | looks => exact ⟨0, still _⟩
  | loads | takesInput | resets => exact ⟨0, rfl⟩
  | executes execution _ reached _ =>
      obtain ⟨count, covers⟩ : ∃ count, Covers count session.machine machine := by
        rcases reached with rfl | ⟨total, rfl⟩
        · exact ⟨0, covers_refl _⟩
        · exact ⟨_, covers_advance session.machine total⟩
      cases request with
      | step | run => exact ⟨count, covers⟩
      | _ => exact execution.elim

/-- What a record says was executed is what the machine executed, as a word. -/
theorem executed_eq {count : Nat} (deed : Deed session request machine loaded executed fault)
    (counted : request.HasExecuted session machine count) : executed = UInt64.ofNat count := by
  -- An execution is counted by the difference of the step counter.
  have difference : request.IsExecution →
      machine.steps - session.machine.steps = UInt64.ofNat count := by
    intro execution
    have covers : Covers count session.machine machine := by
      cases request with
      | step | run => exact counted
      | _ => exact execution.elim
    rw [covers.steps_eq, UInt64.add_comm, UInt64.add_sub_cancel]
  have nothing : ¬ request.IsExecution → count = 0 := by
    intro idle
    cases request with
    | step | run => exact absurd trivial idle
    | _ => exact counted
  by_cases execution : request.IsExecution
  · have same := difference execution
    cases deed with
    | lacksProgram | refuses | looks => rwa [UInt64.sub_self] at same
    | executes => exact same
    | _ => exact execution.elim
  · obtain rfl := nothing execution
    cases deed with
    | executes executes => exact absurd executes execution
    | _ => rfl

/-- A deed puts a machine in place that has executed nothing, or it adds what it counts to the
step counter. -/
theorem steps_cases (deed : Deed session request machine loaded executed fault) (status : Status) :
    let record : Record := { operation := request.operation, status, executed, fault }
    (record.replacesMachine = true ∧ machine.steps = 0) ∨
    (record.replacesMachine = false ∧ record.isExecution = true ∧
      machine.steps = session.machine.steps + executed) ∨
    (record.replacesMachine = false ∧ record.isExecution = false ∧
      machine.steps = session.machine.steps) := by
  cases deed with
  | lacksProgram needs =>
      cases request with
      | step | run => exact .inr (.inl ⟨rfl, rfl, (UInt64.add_zero _).symm⟩)
      | addInput => exact .inr (.inr ⟨rfl, rfl, rfl⟩)
      | _ => exact absurd needs (by simp [Request.IsExecution])
  | refuses takesArguments =>
      cases request with
      | step | run => exact .inr (.inl ⟨rfl, rfl, (UInt64.add_zero _).symm⟩)
      | load | addInput | state | output => exact .inr (.inr ⟨rfl, rfl, rfl⟩)
      | reset => exact absurd rfl takesArguments
  | @loads code input overrides limits =>
      refine .inl ⟨?_, load_steps _ _ _⟩
      cases ((Machine.new limits).load code input).2 <;> rfl
  | executes execution _ _ ended =>
      have added : machine.steps =
          session.machine.steps + (machine.steps - session.machine.steps) := by
        rw [UInt64.add_comm, UInt64.sub_add_cancel]
      cases request with
      | step | run => rcases ended with rfl | rfl <;> exact .inr (.inl ⟨rfl, rfl, added⟩)
      | _ => exact execution.elim
  | takesInput => exact .inr (.inr ⟨rfl, rfl, rfl⟩)
  | looks look =>
      cases request with
      | state | output => exact .inr (.inr ⟨rfl, rfl, rfl⟩)
      | _ => exact look.elim
  | resets => exact .inl ⟨rfl, rfl⟩

/-- A deed keeps the step counter at what the records add up to. -/
theorem steps_eq {records : List Record}
    (deed : Deed session request machine loaded executed fault)
    (accounted : session.machine.steps = UInt64.ofNat (executedSinceReplaced records))
    (status : Status) :
    machine.steps = UInt64.ofNat (executedSinceReplaced
      (records ++ [{ operation := request.operation, status, executed, fault }])) := by
  rcases deed.steps_cases status with
    ⟨replaces, zero⟩ | ⟨keeps, executes, added⟩ | ⟨keeps, idle, same⟩
  · rw [executedSinceReplaced_of_replaces records replaces]
    exact zero
  · rw [executedSinceReplaced_of_isExecution records keeps executes, UInt64.ofNat_add,
      UInt64.ofNat_toNat, ← accounted]
    exact added
  · rw [executedSinceReplaced_of_not_isExecution records keeps idle, ← accounted]
    exact same

end Deed

namespace Journal

variable {config : SessionConfig} {session : Session} {records : List Record}

/-- A session with a journal is reachable. -/
theorem reachable (journal : Journal config session records) : Reachable config session := by
  induction journal with
  | created created => exact .created created
  | canceled _ _ returned inductionHypothesis => exact .requested inductionHypothesis returned
  | performed _ _ returned _ inductionHypothesis => exact .requested inductionHypothesis returned

/-- Every reachable session has a journal. -/
theorem exists_of_reachable (reachable : Reachable config session) :
    ∃ records, Journal config session records := by
  induction reachable with
  | created created => exact ⟨[], .created created⟩
  | @requested _ context _ _ _ returned inductionHypothesis =>
      obtain ⟨records, prior⟩ := inductionHypothesis
      rcases returned.doesOrCanceled with ⟨canceled, _⟩ | ⟨live, _, _, _, _, _, deed, rfl⟩
      · exact ⟨records, .canceled prior canceled returned⟩
      · obtain ⟨count, executed⟩ := deed.exists_hasExecuted
        exact ⟨_, .performed prior live returned executed⟩

/-- The history is the end of the journal. -/
theorem history_eq (journal : Journal config session records) :
    session.history = records.rtake config.retained := by
  induction journal with
  | created created => rw [(create_eq_ok created).2.2, List.rtake_nil]
  | canceled _ canceled returned inductionHypothesis =>
      rcases returned.doesOrCanceled with ⟨_, rfl⟩ | ⟨live, _⟩
      · exact inductionHypothesis
      · exact absurd canceled live
  | @performed session records _ _ _ count prior live returned executed inductionHypothesis =>
      have size := prior.reachable.config_eq
      rcases returned.doesOrCanceled with ⟨canceled, _⟩ | ⟨_, _, _, _, _, _, deed, rfl⟩
      · exact absurd canceled live
      · rw [← deed.executed_eq executed, ← config.retained_eq, ← size]
        rw [← config.retained_eq, ← size] at inductionHypothesis
        rw [← appendRecord_rtake, ← inductionHypothesis]
        rfl

/-- The step counter is the sum of what was executed since the machine was put in place, around
its width. -/
theorem steps_eq (journal : Journal config session records) :
    session.machine.steps = UInt64.ofNat (executedSinceReplaced records) := by
  induction journal with
  | created created =>
      obtain ⟨_, limits, _, rfl⟩ := create_cases created
      rfl
  | canceled _ canceled returned inductionHypothesis =>
      rcases returned.doesOrCanceled with ⟨_, rfl⟩ | ⟨live, _⟩
      · exact inductionHypothesis
      · exact absurd canceled live
  | @performed session records _ _ _ count _ live returned executed inductionHypothesis =>
      rcases returned.doesOrCanceled with ⟨canceled, _⟩ | ⟨_, machine, _, _, _, _, deed, rfl⟩
      · exact absurd canceled live
      · rw [← deed.executed_eq executed]
        exact deed.steps_eq inductionHypothesis machine.status

end Journal

/-- The history is exact, and no executed instruction goes unaccounted. The reachable sessions
are those with a journal, and whatever the requests were and wherever they were canceled, the
history is the end of the journal, as long as configured, and the machine has counted what was
executed since the last reset or load that put it in place, around the width of its counter. -/
theorem trace_accounts_for_everything {config : SessionConfig} {session : Session} :
    (Reachable config session ↔ ∃ records, Journal config session records) ∧
    ∀ records, Journal config session records →
      (session.history <:+ records ∧
        session.history.length = min records.length config.retained) ∧
      session.machine.steps = UInt64.ofNat (executedSinceReplaced records) := by
  refine ⟨⟨Journal.exists_of_reachable, fun ⟨_, journal⟩ => journal.reachable⟩, ?_⟩
  intro records journal
  refine ⟨?_, journal.steps_eq⟩
  rw [journal.history_eq, List.rtake]
  refine ⟨List.drop_suffix _ _, ?_⟩
  rw [List.length_drop]
  omega

/-- `+[]` is loaded and stepped once, and its run is canceled behind two chunks of two; then a load
is refused, and a look at the output canceled at its entry. Of the four records the history keeps
three, and the counter stands at five. -/
theorem trace_accounts_for_everything_canceled :
    ∃ session records, Journal { tapeSize := 1, runChunk := 2, historySize := 3 } session records ∧
      records.map (fun record => (record.operation, record.executed)) =
        [(.load, 0), (.step, 1), (.run, 4), (.load, 0)] ∧
      session.history = records.tail ∧ session.machine.steps = 5 := by
  obtain ⟨session, records, journal, counts, sum⟩ : ∃ session records,
      Journal { tapeSize := 1, runChunk := 2, historySize := 3 } session records ∧
      records.map (fun record => (record.operation, record.executed)) =
        [(.load, 0), (.step, 1), (.run, 4), (.load, 0)] ∧
      UInt64.ofNat (executedSinceReplaced records) = 5 := by
    have created : Journal { tapeSize := 1, runChunk := 2, historySize := 3 } _ [] := .created rfl
    have loaded := @Journal.performed _ _ _ .background (.load [43, 91, 93] [] {}) _ 0
      created nofun rfl rfl
    have stepped := @Journal.performed _ _ _ .background (.step 1) _ _
      loaded nofun rfl (covers_advance _ 1)
    have interrupted := @Journal.performed _ _ _ ⟨some 3⟩ (.run none) _ _
      stepped nofun ⟨3, _, rfl, rfl⟩ (covers_advance _ 4)
    have refused := @Journal.performed _ _ _ .background (.load [] [] { size := -1 }) _ 0
      interrupted nofun rfl rfl
    have canceled := @Journal.canceled _ _ _ ⟨some 0⟩ .output _ refused rfl rfl
    exact ⟨_, _, canceled, by decide +kernel, by decide +kernel⟩
  obtain ⟨⟨suffix, length⟩, counted⟩ := trace_accounts_for_everything.2 records journal
  have four : records.length = 4 := by simpa using congrArg List.length counts
  have kept : session.history.length = 3 := by
    rw [length, four]
    decide
  refine ⟨session, records, journal, counts, ?_, counted.trans sum⟩
  rw [List.suffix_iff_eq_drop.mp suffix, four, kept, List.drop_one]

end Session

end TapeDebugger

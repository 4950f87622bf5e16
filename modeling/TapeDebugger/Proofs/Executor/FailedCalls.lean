import TapeDebugger.Proofs.Executor.Reachable
import TapeDebugger.Proofs.Session.Failure

/-!
# Failed calls

A call can fail at its identifier, at the backend, at its arguments or in the session. Unless it
has come as far as the session, it leaves everything as it was. The session in turn keeps its
machine, with two exceptions: a source that does not compile has already replaced it, and a run
that is canceled between its chunks has already executed some of them.
-/

namespace TapeDebugger

/-- The entry of the catalog that makes a request. -/
def Catalog.Entry.ofRequest : Session.Request → Catalog.Entry
  | .load .. => loadCode
  | .step _ => step
  | .run _ => run
  | .addInput _ => addInput
  | .state _ => getState
  | .output => readOutput
  | .reset => reset

/-- A request tells by which entry it was made. -/
theorem Catalog.Entry.ofRequest_eq {entry : Catalog.Entry} {arguments : Option Arguments}
    {request : Session.Request} (asked : entry.request arguments = .ok request) :
    ofRequest request = entry := by
  have converted {α : Type} {read : Except ArgumentFault α} {convert : α → Session.Request}
      (made : ∀ value, ofRequest (convert value) = entry)
      (asked : read.map convert = .ok request) : ofRequest request = entry := by
    cases read with
    | error fault => cases asked
    | ok value =>
        cases asked
        exact made value
  cases entry with
  | readOutput | reset =>
      cases asked
      rfl
  | _ => exact converted (fun _ => rfl) asked

namespace Executor

/-- A call that fails so has not begun an operation: its identifier leads nowhere, an argument
cannot be read, or it is canceled at its entry, by the poll of the backend or by that of the
operation. -/
def FailsEarly (context : Context) : CallFault → Prop
  | .invalidToolId | .missingNamespace _ | .backendNotFound _ | .backendDisabled _
  | .toolNotFound => True
  | .argument _ => True
  | .canceled => True
  | .session .canceled => context.pollsLeft = some 1
  | _ => False

/-- What a failed call leaves of the machine and of the flag that a program is loaded. -/
inductive Leaves (executor : Executor) (context : Context) (identifier : String)
    (arguments : Option Arguments) : CallFault → (after : Session) → Prop where
  /-- Both are as they were, -/
  | intact {fault after} (compiles : ∀ bracket, fault ≠ .session (.unmatched bracket))
      (machine_eq : after.machine = executor.session.machine)
      (loaded_eq : after.loaded = executor.session.loaded) :
      Leaves executor context identifier arguments fault after
  /-- unless the source that was to be loaded did not compile: then there is a new machine with
  the tape that was asked for, which says so; -/
  | notCompiled {bracket code input overrides limits after}
      (routed : executor.route identifier = .ok .loadCode)
      (asked : Catalog.Entry.loadCode.request arguments = .ok (.load code input overrides))
      (limited : Session.loadLimits executor.session.config overrides = .ok limits)
      (machine_eq : after.machine = { Machine.new limits with status := .parserError })
      (loaded_eq : after.loaded = true) :
      Leaves executor context identifier arguments (.session (.unmatched bracket)) after
  /-- or a run was canceled between its chunks: then the chunks before have been executed. -/
  | betweenChunks {chunks after} (routed : executor.route identifier = .ok .run)
      (polls : context.pollsLeft = some (chunks + 2)) (some_chunks : 0 < chunks)
      (machine_eq : after.machine = executor.session.machine.stepEach
        (.replicate chunks executor.session.config.runChunk))
      (loaded_eq : after.loaded = executor.session.loaded) :
      Leaves executor context identifier arguments (.session .canceled) after

/-- What a failed call leaves of the history. -/
inductive Recorded (executor : Executor) (context : Context) :
    CallFault → (after : Session) → Prop where
  /-- Before an operation has begun, nothing is recorded, nor is anything else changed. -/
  | nothing {fault} (early : FailsEarly context fault) :
      Recorded executor context fault executor.session
  /-- An operation that fails is recorded, if there is a history; the oldest record makes room
  for it if there is none. -/
  | failure {cause after record} (late : ¬ FailsEarly context (.session cause))
      (reports : record.fault = some cause)
      (history_eq : after.history =
        if 0 < executor.session.config.historySize then
          (if executor.session.history.length <
              executor.session.config.historySize.toNatClampNeg then executor.session.history
            else executor.session.history.tail) ++ [record]
        else executor.session.history) :
      Recorded executor context (.session cause) after

section Failures

variable {executor : Executor} {context polled : Context} {identifier : String}
  {arguments : Option Arguments} {fault : CallFault}

/-- An identifier that leads nowhere fails before an operation. -/
theorem failsEarly_of_route (routed : executor.route identifier = .error fault) :
    FailsEarly context fault := by
  rw [route] at routed
  split at routed
  · cases routed
    trivial
  split at routed
  · split at routed
    · cases routed
    · cases routed
      trivial
  · cases routed
    trivial

/-- A call that fails before a handler is reached leaves the session to itself. -/
theorem FailsEarly.leaves (early : FailsEarly context fault) :
    executor.Leaves context identifier arguments fault executor.session := by
  refine .intact ?_ rfl rfl
  rintro bracket rfl
  exact early

/-- Behind the poll of the backend one poll less is left. -/
theorem pollsLeft_of_poll (poll : context.poll = some polled) {count : Nat}
    (left : polled.pollsLeft = some count) : context.pollsLeft = some (count + 1) := by
  obtain ⟨pollsLeft⟩ := context
  match pollsLeft, poll with
  | none, rfl => cases left
  | some (polls + 1), rfl =>
      cases left
      rfl

variable {entry : Catalog.Entry} {request : Session.Request} {cause : SessionFault}
  {after : Session}

/-- The poll at the entry of an operation fails when one is left for the backend. -/
theorem pollsLeft_of_canceled (poll : context.poll = some polled) (canceled : polled.poll = none) :
    context.pollsLeft = some 1 := by
  refine pollsLeft_of_poll poll ?_
  obtain ⟨pollsLeft⟩ := polled
  match pollsLeft, canceled with
  | some 0, _ => rfl

/-- What a request that fails leaves of the machine. -/
theorem leaves_of_fails (fails : executor.session.Fails polled request cause after)
    (routed : executor.route identifier = .ok entry)
    (asked : entry.request arguments = .ok request) (poll : context.poll = some polled) :
    executor.Leaves context identifier arguments (.session cause) after := by
  have made := Catalog.Entry.ofRequest_eq asked
  cases fails with
  | atEntry canceled => exact FailsEarly.leaves (pollsLeft_of_canceled poll canceled)
  | refused live reason =>
      refine .intact ?_ rfl rfl
      rintro bracket same
      cases same
      simp at reason
  | unmatched live limited =>
      subst made
      exact .notCompiled routed asked limited rfl rfl
  | @interrupted _ chunks _ polls loaded =>
      subst made
      -- Before the first chunk nothing has been executed yet.
      cases chunks with
      | zero => exact .intact nofun rfl rfl
      | succ chunks =>
          have begun := pollsLeft_of_poll poll polls
          exact .betweenChunks routed begun chunks.succ_pos rfl rfl

/-- What a request that fails leaves of the history. -/
theorem recorded_of_fails (fails : executor.session.Fails polled request cause after)
    (poll : context.poll = some polled)
    (within : 0 < executor.session.config.historySize →
      executor.session.history.length ≤ executor.session.config.historySize.toNatClampNeg) :
    executor.Recorded context (.session cause) after := by
  cases fails with
  | atEntry canceled => exact .nothing (pollsLeft_of_canceled poll canceled)
  | refused live reason =>
      refine .failure ?_ rfl (appendRecord_eq within _)
      rcases reason with rfl | ⟨range, rfl⟩ <;> exact id
  | unmatched live limited => exact .failure id rfl (appendRecord_eq within _)
  | interrupted polls loaded =>
      refine .failure ?_ rfl (appendRecord_eq within _)
      intro early
      rw [FailsEarly, pollsLeft_of_poll poll polls] at early
      simp at early

end Failures

/-- A failed call does not disturb the debugger. It keeps the machine and whether a program is
loaded, but for a source that does not compile and for a run that is canceled between its chunks;
and it changes nothing at all before an operation has begun, and leaves at most one record of one
that fails. -/
theorem failed_calls_leave_session {config : SessionConfig} {executor : Executor}
    (reachable : Reachable config executor) (context : Context) (identifier : String)
    (arguments : Option Arguments) (outcome : CallOutcome) (fault : CallFault)
    (returned : executor.ToolReturns context identifier arguments outcome)
    (failed : outcome.result.fault = some fault) :
    executor.Leaves context identifier arguments fault outcome.executor.session ∧
      executor.Recorded context fault outcome.executor.session := by
  obtain ⟨connected, sessionReachable⟩ := reachable.connected_and_reachable
  have refused {left : Context} (early : CallFault) (refusal : FailsEarly context early)
      (failed : (executor.failed left identifier early).result.fault = some fault) :
      executor.Leaves context identifier arguments fault executor.session ∧
        executor.Recorded context fault executor.session := by
    cases failed
    exact ⟨refusal.leaves, .nothing refusal⟩
  cases (toolReturns_iff connected).mp returned with
  | lost routed => exact refused _ (failsEarly_of_route routed) failed
  | canceled => exact refused .canceled trivial failed
  | unreadable => exact refused (.argument _) trivial failed
  | answered routed poll asked answers =>
      obtain ⟨cause, caused, rfl⟩ := Option.map_eq_some_iff.mp failed
      have chunkPositive := pos_of_toNatClampNeg_pos sessionReachable.runChunk_pos
      have fails := answers.fails chunkPositive caused
      exact ⟨leaves_of_fails fails routed asked poll,
        recorded_of_fails fails poll sessionReachable.length_history_le⟩

/-- Behind a load of `+`, a step of no instruction is refused, and `[` does not compile. The first
call keeps the machine, and the second replaces it; both are recorded. -/
theorem failed_calls_leave_session_refused :
    ∃ executor refused unmatched, Reachable { tapeSize := 1 } executor ∧
      executor.session.history.length = 1 ∧
      executor.ToolReturns .background "step" (some [("count", .integer .native 0)]) refused ∧
      refused.result.fault = some (.session (.argument (.countTooSmall 0))) ∧
      refused.executor.session.machine = executor.session.machine ∧
      refused.executor.session.history.length = 2 ∧
      executor.ToolReturns .background "load_code" (some [("code", .text "[")]) unmatched ∧
      unmatched.result.fault = some (.session (.unmatched ⟨0, .opening⟩)) ∧
      unmatched.executor.session.machine.status = .parserError ∧
      unmatched.executor.session.history.length = 2 := by
  obtain ⟨session, reachable, size, history, refuses, fails⟩ : ∃ session,
      Session.Reachable { tapeSize := 1 } session ∧ session.config.historySize = 64 ∧
      session.history.length = 1 ∧
      (session.step .background 0).fault = some (.argument (.countTooSmall 0)) ∧
      (session.load .background [91] [] {}).fault = some (.unmatched ⟨0, .opening⟩) :=
    ⟨_, @Session.Reachable.requested _ _ .background (.load [43] [] {}) _ (.created rfl) rfl,
      rfl, by decide +kernel, by decide +kernel, by decide +kernel⟩
  obtain ⟨executor, created⟩ := exists_create session (by decide : Registry.isValidName "tape")
  obtain ⟨held, connected⟩ := create_cases created
  cases held
  have made : Reachable { tapeSize := 1 } executor := .created rfl reachable created
  have steps : executor.ToolReturns .background "step" (some [("count", .integer .native 0)])
      (executor.answered "step" .step ((executor.session.step .background 0).map .executed)) :=
    (toolReturns_iff connected).mpr (.answered (executor.route_name .step) rfl rfl ⟨0, rfl⟩)
  have loads : executor.ToolReturns .background "load_code" (some [("code", .text "[")])
      (executor.answered "load_code" .loadCode
        ((executor.session.load .background [91] [] {}).map .loaded)) :=
    (toolReturns_iff connected).mpr (.answered (executor.route_name .loadCode) rfl rfl ⟨0, rfl⟩)
  have stepFails := congrArg (Option.map CallFault.session) refuses
  have loadFails := congrArg (Option.map CallFault.session) fails
  have afterStep := failed_calls_leave_session made _ _ _ _ _ steps stepFails
  have afterLoad := failed_calls_leave_session made _ _ _ _ _ loads loadFails
  -- Neither call is canceled or refused early, and the history has room for one more record.
  have grows {fault : CallFault} {after : Session}
      (recorded : executor.Recorded .background fault after)
      (late : ¬ FailsEarly .background fault) : after.history.length = 2 := by
    cases recorded with
    | nothing early => exact absurd early late
    | failure _ _ history_eq =>
        rw [history_eq, size]
        simp [history]
  refine ⟨executor, _, _, made, history, steps, stepFails, ?_, grows afterStep.2 id, loads,
    loadFails, ?_, grows afterLoad.2 id⟩
  · cases afterStep.1 with
    | intact _ machine_eq _ => exact machine_eq
  · cases afterLoad.1 with
    | intact compiles _ _ => exact absurd rfl (compiles _)
    | notCompiled _ _ _ machine_eq _ => rw [machine_eq]

end Executor

end TapeDebugger

import TapeDebugger.Proofs.Backend.Operations
import TapeDebugger.Proofs.Executor.CallsInTurn

/-!
# Reachable executors

An executor is made around a session and then called, started and stopped; the session may
also be used directly. Nothing of that disconnects an executor from its catalog, and its session
is always reachable. A call has one outcome, however much fuel it is given.
-/

namespace TapeDebugger

/-- Identifiers in one namespace differ as the names do. -/
theorem ToolId.format_injective {space left right : String}
    (same : ToolId.format space left = ToolId.format space right) : left = right := by
  rw [format, format] at same
  split at same
  · exact same
  · exact (String.append_right_inj _).mp same

namespace Executor

/-- What can be done leads from a new executor to this one. -/
inductive Reachable (config : SessionConfig) : Executor → Prop where
  | created {options session executor} (holds : options.session = some session)
      (prior : Session.Reachable config session)
      (created : Executor.create options = .ok executor) : Reachable config executor
  | called {executor fuel context identifier arguments outcome} (prior : Reachable config executor)
      (returned : executor.runTool fuel context identifier arguments = some outcome) :
      Reachable config outcome.executor
  | chained {executor fuel context steps outcome} (prior : Reachable config executor)
      (returned : executor.runChain fuel context steps = some outcome) :
      Reachable config outcome.executor
  | started {executor} (prior : Reachable config executor) : Reachable config executor.start.1
  | closed {executor} (prior : Reachable config executor) : Reachable config executor.close.1
  | requested {executor context request outcome} (prior : Reachable config executor)
      (returned : Session.Request.Returns executor.session context request outcome) :
      Reachable config { executor with session := outcome.session }

/-- A backend that is registered in an empty registry is found under its name, and none under
another. -/
theorem get?_of_register_empty {σ : Type} {backend : Backend σ} {registry : Registry σ}
    (registers : Registry.empty.register (some backend) = .ok registry) (name : String) :
    registry.get? name = if backend.name = name then some backend else none := by
  obtain ⟨_, _, inserted⟩ := Registry.register_cases registers
  rw [Registry.get?, inserted, NameMap.get?_insert]
  split <;> rfl

/-- A new executor serves the catalog for the session it was made around. -/
theorem create_cases {options : ExecutorOptions} {executor : Executor}
    (created : Executor.create options = .ok executor) :
    options.session = some executor.session ∧ executor.Connected := by
  rw [create] at created
  cases given : options.session with
  | none => simp [given] at created
  | some session =>
      simp only [given] at created
      generalize (if options.toolNamespace.isEmpty then defaultNamespace
        else options.toolNamespace) = toolNamespace at created
      cases registers : Registry.empty.register (some (localBackend toolNamespace).toBackend) with
      | error fault => simp [registers] at created
      | ok registry =>
          simp only [registers] at created
          have valid := (Registry.register_cases registers).1
          split at created
          · cases created
          · cases created
            exact ⟨rfl, valid, get?_of_register_empty registers⟩

section Creation

/-- Tools with names of their own can be entered where their identifiers are free, if their
documentation is taken. -/
theorem exists_enter {options : ExecutorOptions}
    (accepts : ∀ identifier, options.docFault identifier = none) {toolNamespace : String}
    {definitions : List (ToolDefinition Session)} {index : ToolIndex} {docs : DocStore}
    (distinct : (definitions.map (·.name)).Nodup)
    (free : ∀ definition ∈ definitions,
      index.get? (ToolId.format toolNamespace definition.name) = none) :
    ∃ entered, enter options toolNamespace definitions index docs = .ok entered := by
  induction definitions generalizing index docs with
  | nil => exact ⟨_, rfl⟩
  | cons definition rest inductionHypothesis =>
      let identifier := ToolId.format toolNamespace definition.name
      let next : ToolIndex := ⟨index.tools.insert identifier (definition.tool toolNamespace)⟩
      rw [List.map_cons, List.nodup_cons] at distinct
      have registers : index.register (definition.tool toolNamespace) = .ok next := by
        have first : index.tools.get? identifier = none := free definition List.mem_cons_self
        simp only [ToolIndex.register, ToolIndex.identifier, ToolDefinition.tool, identifier,
          first, next]
      have stillFree : ∀ later ∈ rest,
          next.get? (ToolId.format toolNamespace later.name) = none := by
        intro later member
        rw [ToolIndex.get?, NameMap.get?_insert, if_neg]
        · exact free later (List.mem_cons_of_mem _ member)
        · intro same
          apply distinct.1
          rw [ToolId.format_injective same]
          exact List.mem_map_of_mem member
      rw [enter, registers]
      simp only [accepts]
      split <;> exact inductionHypothesis distinct.2 stillFree

/-- No two tools of the local backend share a name. -/
theorem nodup_definitions (toolNamespace : String) :
    ((localBackend toolNamespace).definitions.map (·.name)).Nodup := by
  have sorted := List.mergeSort_perm (localBackend toolNamespace).registered.values
    fun left right => !decide (right.name < left.name)
  have same : (localBackend toolNamespace).registered.values =
      (localBackend "").registered.values := rfl
  rw [LocalBackend.definitions, (sorted.map (·.name)).nodup_iff, same]
  decide +kernel

/-- A session can be put behind its tools in any valid namespace. -/
theorem exists_create (session : Session) {toolNamespace : String}
    (valid : Registry.isValidName toolNamespace = true) :
    ∃ executor, create (.ofSession session toolNamespace) = .ok executor := by
  have named : toolNamespace.isEmpty = false := by
    cases empty : toolNamespace.isEmpty with
    | false => rfl
    | true => simp [Registry.isValidName, empty] at valid
  obtain ⟨registry, registers⟩ : ∃ registry,
      Registry.empty.register (some (localBackend toolNamespace).toBackend) = .ok registry := by
    have own : (localBackend toolNamespace).toBackend.name = toolNamespace := rfl
    have absent :
        (Registry.empty : Registry Session).registrations.contains toolNamespace = false := rfl
    simp [Registry.register, own, valid, absent]
  obtain ⟨⟨index, docs⟩, entered⟩ := @exists_enter (.ofSession session toolNamespace)
    (fun _ => rfl) toolNamespace _ .empty .empty (nodup_definitions toolNamespace) (fun _ _ => rfl)
  simp only [ExecutorOptions.ofSession] at entered
  refine ⟨{ session, toolNamespace, registry, index, docs, splitter := .colon }, ?_⟩
  simp only [create, ExecutorOptions.ofSession, named, Bool.false_eq_true, ↓reduceIte, registers,
    entered]

end Creation

/-- Starting an executor leaves it connected. -/
theorem Connected.start {executor : Executor} (connected : executor.Connected) :
    executor.start.1.Connected :=
  ⟨connected.validName, fun name =>
    (executor.registry.get?_startAll name).trans (connected.get?_eq name)⟩

/-- Stopping an executor leaves it connected. -/
theorem Connected.close {executor : Executor} (connected : executor.Connected) :
    executor.close.1.Connected :=
  ⟨connected.validName, fun name =>
    (executor.registry.get?_stopAll name).trans (connected.get?_eq name)⟩

/-- It does not matter for the connection which session there is. -/
theorem Connected.withSession {executor : Executor} (connected : executor.Connected)
    (session : Session) : { executor with session }.Connected :=
  ⟨connected.validName, connected.get?_eq⟩

/-- A call leaves all of an executor but its session, and changes that only as a request
does. -/
theorem Handled.executor_eq {executor : Executor} {context : Context} {identifier : String}
    {arguments : Option Arguments} {outcome : CallOutcome}
    (handled : executor.Handled context identifier arguments outcome) :
    outcome.executor = executor ∨ ∃ polled request answered,
      Session.Request.Returns executor.session polled request answered ∧
      outcome.executor = { executor with session := answered.session } := by
  cases handled with
  | lost | canceled | unreadable => exact .inl rfl
  | answered _ _ _ answers => exact .inr ⟨_, _, _, answers.returns, rfl⟩

/-- A reachable executor serves the catalog, and its session is reachable. -/
theorem Reachable.connected_and_reachable {config : SessionConfig} {executor : Executor}
    (reachable : Reachable config executor) :
    executor.Connected ∧ Session.Reachable config executor.session := by
  have called {executor : Executor} {context identifier arguments call}
      (holds : executor.Connected ∧ Session.Reachable config executor.session)
      (returned : executor.ToolReturns context identifier arguments call) :
      call.executor.Connected ∧ Session.Reachable config call.executor.session := by
    have handled := (toolReturns_iff holds.1).mp returned
    rcases handled.executor_eq with same | ⟨_, _, _, answered, after⟩
    · rw [same]
      exact holds
    · rw [after]
      exact ⟨holds.1.withSession _, .requested holds.2 answered⟩
  induction reachable with
  | created given prior created =>
      obtain ⟨held, connected⟩ := create_cases created
      rw [given] at held
      cases held
      exact ⟨connected, prior⟩
  | called _ returned inductionHypothesis => exact called inductionHypothesis ⟨_, returned⟩
  | chained _ returned inductionHypothesis =>
      obtain ⟨calls, inTurn, _⟩ := exists_calls returned
      exact inTurn.preserves
        (fun executor => executor.Connected ∧ Session.Reachable config executor.session)
        called inductionHypothesis
  | started _ inductionHypothesis => exact ⟨inductionHypothesis.1.start, inductionHypothesis.2⟩
  | closed _ inductionHypothesis => exact ⟨inductionHypothesis.1.close, inductionHypothesis.2⟩
  | requested _ returned inductionHypothesis =>
      exact ⟨inductionHypothesis.1.withSession _, .requested inductionHypothesis.2 returned⟩

section Calls

variable {executor : Executor} {context : Context} {identifier : String}
  {arguments : Option Arguments} {outcome : CallOutcome}

/-- A call that returns returns the same with more fuel. -/
theorem runTool_of_le (connected : executor.Connected) {fuel more : Nat}
    (returned : executor.runTool fuel context identifier arguments = some outcome)
    (enough : fuel ≤ more) :
    executor.runTool more context identifier arguments = some outcome := by
  rw [runTool_eq connected] at returned ⊢
  cases routed : executor.route identifier with
  | error fault => simpa [routed] using returned
  | ok entry =>
      cases poll : context.poll with
      | none => simpa [routed, poll] using returned
      | some polled =>
          cases asked : entry.request arguments with
          | error fault => simpa [routed, poll, asked] using returned
          | ok request =>
              simp only [routed, poll, asked] at returned ⊢
              obtain ⟨answered, performed, rfl⟩ := Option.map_eq_some_iff.mp returned
              rw [Session.Request.perform_of_le performed enough, Option.map_some]

end Calls

end Executor

end TapeDebugger

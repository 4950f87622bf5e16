import TapeDebugger.Proofs.Executor.Reachable

/-!
# Identifiers of tools

`SplitsAtColon` is what may be relied on when an identifier is taken apart, and `ToolId.parse?` is
the only function that does it (`splitsAtColon_iff`). Putting together and taking apart fit each
other for every name under which a backend can be registered. A tool is called alike by its bare
name and by its full identifier; a foreign namespace and a malformed identifier are refused before
anything else is looked at (`calls_by_identifier`).
-/

namespace TapeDebugger

namespace ToolId

/-- There is no other way of taking identifiers apart. -/
theorem splitsAtColon_iff (split : String → Option (String × String)) :
    SplitsAtColon split ↔ split = parse? := by
  refine ⟨fun splits => funext fun identifier => ?_, ?_⟩
  · rcases free_or_colon identifier with free | ⟨left, right, free, rfl⟩
    · by_cases blank : identifier = ""
      · rw [blank, splits.empty, splitsAtColon_parse?.empty]
      · rw [splits.bare blank free, splitsAtColon_parse?.bare blank free]
    · by_cases leftBlank : left = ""
      · rw [leftBlank, String.empty_append, splits.withoutSpace, splitsAtColon_parse?.withoutSpace]
      by_cases rightBlank : right = ""
      · rw [rightBlank, String.append_empty, splits.withoutName, splitsAtColon_parse?.withoutName]
      rcases free_or_colon right with rightFree | ⟨second, third, _, rfl⟩
      · rw [splits.pair leftBlank rightBlank free rightFree,
          splitsAtColon_parse?.pair leftBlank rightBlank free rightFree]
      · simp only [← String.append_assoc, splits.severalColons, parse?_severalColons]
  · rintro rfl
    exact splitsAtColon_parse?

/-- What is put together in a namespace is taken apart into the same parts. -/
theorem SplitsAtColon.split_format {split : String → Option (String × String)}
    (splits : SplitsAtColon split) {space name : String}
    (valid : Registry.isValidName space = true) (nonempty : name ≠ "")
    (free : ':' ∉ name.toList) : split (format space name) = some (space, name) := by
  rw [Registry.isValidName, Bool.and_eq_true] at valid
  obtain ⟨spaceNonempty, spaceFree⟩ := valid
  have space : space ≠ "" ∧ ':' ∉ space.toList := by simpa using And.intro spaceNonempty spaceFree
  rw [format, if_neg (by simpa using space.1)]
  exact splits.pair space.1 nonempty space.2 free

end ToolId

namespace Executor

/-- The outcome of a call that differs only in the identifier that the caller gave. -/
def CallOutcome.withIdentifier (identifier : String) (outcome : CallOutcome) : CallOutcome :=
  { outcome with result := { outcome.result with identifier } }

/-- An executor has the namespace and takes identifiers apart in the way that was asked for. -/
theorem options_of_create {options : ExecutorOptions} {executor : Executor}
    (created : create options = .ok executor) :
    executor.toolNamespace =
        (if options.toolNamespace.isEmpty then defaultNamespace else options.toolNamespace) ∧
      executor.splitter = options.splitter := by
  rw [create] at created
  split at created
  · cases created
  · simp only at created
    split at created
    · cases created
    · split at created <;> cases created
      exact ⟨rfl, rfl⟩

/-- An identifier in another namespace leads nowhere. -/
theorem route_foreign {executor : Executor} {identifier space tool : String}
    (parsed : executor.splitter.split identifier = some (space, tool)) (given : space ≠ "")
    (foreign : space ≠ executor.toolNamespace) :
    executor.route identifier = .error (.backendNotFound space) := by
  simp only [route, parsed, given, foreign, or_self, ↓reduceIte]

/-- A malformed identifier leads nowhere. -/
theorem route_malformed {executor : Executor} {identifier : String}
    (malformed : executor.splitter.split identifier = none) :
    executor.route identifier = .error .invalidToolId := by
  simp only [route, malformed]

/-- The namespace of an executor is not empty, so a full identifier has both parts. -/
theorem Connected.toolId_eq {executor : Executor} (connected : executor.Connected)
    (tool : String) : executor.toolId tool = executor.toolNamespace ++ ":" ++ tool := by
  have valid := connected.validName
  rw [Registry.isValidName, Bool.and_eq_true] at valid
  rw [toolId, ToolId.format, if_neg (by simpa using valid.1)]

/-- The full identifier of a tool leads where its bare name does. -/
theorem Connected.route_toolId {executor : Executor} (connected : executor.Connected)
    {tool : String} (nonempty : tool ≠ "") (free : ':' ∉ tool.toList) :
    executor.route (executor.toolId tool) = executor.route tool := by
  have splits := executor.splitter.splitsAtColon
  simp only [route, toolId, splits.split_format connected.validName nonempty free,
    splits.bare nonempty free, or_true, true_or, ↓reduceIte]

/-- Two identifiers that lead to the same place make the same call. -/
theorem Connected.runTool_congr {executor : Executor} (connected : executor.Connected)
    {left right : String} (same : executor.route left = executor.route right) (fuel : Nat)
    (context : Context) (arguments : Option Arguments) :
    executor.runTool fuel context left arguments =
      (executor.runTool fuel context right arguments).map (.withIdentifier left) := by
  rw [runTool_eq connected, runTool_eq connected, same]
  cases executor.route right with
  | error fault => rfl
  | ok entry =>
      cases context.poll with
      | none => rfl
      | some polled =>
          cases asked : entry.request arguments with
          | error fault => simp only [asked]; rfl
          | ok request => simp only [asked, Option.map_map]; rfl

/-- An identifier is taken apart at its only colon, and in no other way; a name under which a
backend can be registered and the name of a tool come out as they were put in. Whatever the session
and the context, a call by the bare name and one by the full identifier have the same outcome, up
to the identifier that is given back. A foreign namespace and a malformed identifier are refused,
and nothing else happens. All this is so for any executor, however it takes identifiers apart, as
long as that may be relied on. -/
theorem calls_by_identifier :
    (∀ split, ToolId.SplitsAtColon split ↔ split = ToolId.parse?) ∧
    (∀ {σ : Type} {registry after : Registry σ} {backend : Backend σ},
      registry.register (some backend) = .ok after →
        ∀ (splitter : ToolId.Splitter) (tool : String), tool ≠ "" → ':' ∉ tool.toList →
          splitter.split (ToolId.format backend.name tool) = some (backend.name, tool)) ∧
    ∀ {config : SessionConfig} {made : Executor}, Reachable config made →
      ∀ (session : Session) (fuel : Nat) (context : Context) (arguments : Option Arguments),
        let executor := { made with session }
        (∀ tool, tool ≠ "" → ':' ∉ tool.toList →
          executor.runTool fuel context (executor.toolNamespace ++ ":" ++ tool) arguments =
            (executor.runTool fuel context tool arguments).map
              (.withIdentifier (executor.toolNamespace ++ ":" ++ tool))) ∧
        (∀ identifier space tool, executor.splitter.split identifier = some (space, tool) →
          space ≠ "" → space ≠ executor.toolNamespace →
          executor.runTool fuel context identifier arguments =
            some (executor.failed context identifier (.backendNotFound space))) ∧
        ∀ identifier, executor.splitter.split identifier = none →
          executor.runTool fuel context identifier arguments =
            some (executor.failed context identifier .invalidToolId) := by
  refine ⟨ToolId.splitsAtColon_iff, fun registers splitter tool nonempty free =>
    splitter.splitsAtColon.split_format (Registry.register_cases registers).1 nonempty free, ?_⟩
  intro config made reachable session fuel context arguments executor
  have connected : executor.Connected := reachable.connected_and_reachable.1.withSession session
  refine ⟨fun tool nonempty free => ?_, ?_, ?_⟩
  · rw [← connected.toolId_eq]
    exact connected.runTool_congr (connected.route_toolId nonempty free) fuel context arguments
  · intro identifier space tool parsed given foreign
    rw [runTool_eq connected, route_foreign parsed given foreign]
  · intro identifier malformed
    rw [runTool_eq connected, route_malformed malformed]

/-- A step of a program that is not there fails in the session under either name of the tool, while
two other spellings do not get that far. -/
theorem calls_by_identifier_step :
    ∃ executor, Reachable { tapeSize := 1 } executor ∧ executor.toolNamespace = "tape" ∧
      (executor.runTool 0 .background "tape:step" none).map (fun call => call.result.fault) =
        some (some (.session .noProgram)) ∧
      executor.runTool 0 .background "tape:step" none =
        (executor.runTool 0 .background "step" none).map (.withIdentifier "tape:step") ∧
      executor.runTool 0 .background "reel:step" none =
        some (executor.failed .background "reel:step" (.backendNotFound "reel")) ∧
      executor.runTool 0 .background "tape::step" none =
        some (executor.failed .background "tape::step" .invalidToolId) ∧
      ToolId.parse? (ToolId.format "tape" "step") = some ("tape", "step") := by
  obtain ⟨session, created⟩ : ∃ session, Session.create { tapeSize := 1 } = .ok session := ⟨_, rfl⟩
  obtain ⟨executor, made⟩ := exists_create session (by decide : Registry.isValidName "tape")
  have reachable : Reachable { tapeSize := 1 } executor := .created rfl (.created created) made
  obtain ⟨space, splitter⟩ : executor.toolNamespace = "tape" ∧ executor.splitter = .colon :=
    options_of_create made
  obtain ⟨_, parsing, calls⟩ := calls_by_identifier
  obtain ⟨alike, foreign, malformed⟩ := calls reachable executor.session 0 .background none
  have spaced : executor.splitter.split "reel:step" = some ("reel", "step") := by
    rw [splitter]
    decide
  have several : executor.splitter.split "tape::step" = none := by
    rw [splitter]
    decide
  have same : executor.runTool 0 .background (executor.toolNamespace ++ ":" ++ "step") none =
      (executor.runTool 0 .background "step" none).map
        (.withIdentifier (executor.toolNamespace ++ ":" ++ "step")) :=
    alike "step" (by decide) (by decide)
  have full : executor.toolNamespace ++ ":" ++ "step" = "tape:step" := by rw [space]; decide
  rw [full] at same
  have fails : (executor.session.step .background 1).fault = some .noProgram := by
    obtain ⟨held, _⟩ := create_cases made
    cases held
    rw [← Except.ok.inj created]
    rfl
  have routed : executor.route "step" = .ok .step := executor.route_name .step
  have bare : executor.runTool 0 .background "step" none =
      some (executor.answered "step" .step
        ((executor.session.step .background 1).map .executed)) := by
    rw [runTool_eq reachable.connected_and_reachable.1, routed]
    rfl
  refine ⟨executor, reachable, space, ?_, same, ?_, malformed "tape::step" several, ?_⟩
  · have reason := congrArg (Option.map CallFault.session) fails
    rw [same, bare]
    exact congrArg some reason
  · have differs : "reel" ≠ executor.toolNamespace := by rw [space]; decide
    exact foreign "reel:step" "reel" "step" spaced (by decide) differs
  · exact @parsing Session .empty _ (localBackend "tape").toBackend rfl .colon "step" (by decide)
      (by decide)

end Executor

end TapeDebugger

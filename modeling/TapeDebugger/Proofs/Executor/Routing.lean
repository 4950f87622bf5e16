import TapeDebugger.Executor.Chain
import TapeDebugger.Proofs.Session.Answers

/-!
# Where a call leads

A call passes through its identifier, the registry, the backend and its arguments before it
reaches the session. For an executor as it is made, all of that comes down to one equation
(`runTool_eq`): the identifier leads to an entry of the catalog or is refused, the arguments
make a request of the session or are refused, and the request is carried out. `Handled` lists
what can become of a call, and `toolReturns_iff` says that nothing else can.
-/

namespace TapeDebugger

namespace LocalBackend

variable {σ : Type}

/-- A definition that is registered under its own name is found there as it is. -/
theorem describe?_register (backend : LocalBackend σ) (definition : ToolDefinition σ)
    (key : String) :
    (backend.register definition.name definition).describe? key =
      if definition.name = key then some definition else backend.describe? key := by
  rw [register, ite_self, describe?, NameMap.get?_insert]
  rfl

/-- Of definitions that are registered under their own names, the last of a name is found. -/
theorem describe?_foldl_register (definitions : List (ToolDefinition σ))
    (backend : LocalBackend σ) (key : String) :
    (definitions.foldl (fun backend definition => backend.register definition.name definition)
      backend).describe? key =
        (definitions.reverse.find? (·.name == key)).or (backend.describe? key) := by
  induction definitions generalizing backend with
  | nil => rfl
  | cons definition rest inductionHypothesis =>
      rw [List.foldl_cons, inductionHypothesis, describe?_register, List.reverse_cons,
        List.find?_append, Option.or_assoc]
      by_cases same : definition.name = key <;> simp [same]

end LocalBackend

namespace Catalog

/-- The entries of the catalog. -/
inductive Entry where
  | loadCode
  | step
  | run
  | addInput
  | getState
  | readOutput
  | reset
deriving DecidableEq

namespace Entry

/-- The name that an entry is called by. -/
def name : Entry → String
  | loadCode => "load_code"
  | step => "step"
  | run => "run"
  | addInput => "add_input"
  | getState => "get_state"
  | readOutput => "read_output"
  | reset => "reset"

/-- The handler that serves an entry. -/
def handler : Entry → Handler Session
  | loadCode => Catalog.loadCode
  | step => Catalog.step
  | run => Catalog.run
  | addInput => Catalog.addInput
  | getState => Catalog.getState
  | readOutput => Catalog.readOutput
  | reset => Catalog.reset

/-- The entries in the order of the catalog. -/
def all : List Entry :=
  [loadCode, step, run, addInput, getState, readOutput, reset]

/-- The entry of a name. -/
def ofName? (name : String) : Option Entry :=
  all.find? (·.name == name)

/-- The request that a call with these arguments makes of the session. -/
def request (arguments : Option Arguments) : Entry → Except ArgumentFault Session.Request
  | loadCode => (loadRequest arguments).map fun asked =>
      .load (Utf8.ofString asked.code) (Utf8.ofString asked.input) asked.overrides
  | step => (Arguments.integer? arguments "count").map fun count => .step (count.getD 1)
  | run => (Arguments.integer? arguments "limit").map .run
  | addInput => (Arguments.requiredText arguments "input").map fun input =>
      .addInput (Utf8.ofString input)
  | getState => (Arguments.integer? arguments "windowRadius").map .state
  | readOutput => .ok .output
  | reset => .ok .reset

/-- A value that is only given by an operation that succeeded. -/
def unlessFailed (outcome : Outcome Session.Answer) (value : ToolValue) : ToolValue :=
  if outcome.fault.isSome then .absent else value

/-- The value of a call, by what the session answers to its request. -/
def value (outcome : Outcome Session.Answer) (entry : Entry) : ToolValue :=
  match entry, outcome.value with
  | loadCode, .loaded (some report) => unlessFailed outcome (.load report)
  | step, .executed report | run, .executed report => .step report
  | addInput, .status status =>
    unlessFailed outcome (.text ("Input added. Status: " ++ statusName status))
  | getState, .state snapshot => .state snapshot
  | readOutput, .output text => .text text
  | reset, .status status =>
    unlessFailed outcome (.text ("Engine reset. Status: " ++ statusName status))
  | _, _ => .absent

/-- Every handler reads a request from its arguments and carries it out. -/
theorem handler_eq (entry : Entry) (fuel : Nat) (arguments : Option Arguments)
    (context : Context) (session : Session) :
    entry.handler fuel arguments context session =
      match entry.request arguments with
      | .error fault => some (refuse session context fault)
      | .ok request => (request.perform fuel session context).map fun outcome =>
          report outcome (entry.value outcome) := by
  cases entry with
  | loadCode =>
      rw [handler, Catalog.loadCode, request]
      cases loadRequest arguments with
      | error fault => rfl
      | ok asked =>
          simp only [Except.map, Session.Request.perform, Option.map_some]
          generalize session.load context _ _ _ = outcome
          obtain ⟨after, left, loaded, fault, record⟩ := outcome
          cases loaded with
          | some report => rfl
          | none => cases fault <;> rfl
  | step =>
      rw [handler, Catalog.step, request]
      cases Arguments.integer? arguments "count" <;> rfl
  | run =>
      rw [handler, Catalog.run, request]
      cases Arguments.integer? arguments "limit" with
      | error fault => rfl
      | ok limit =>
          simp only [Except.map, Session.Request.perform, Option.map_map]
          rfl
  | addInput =>
      rw [handler, Catalog.addInput, request]
      cases Arguments.requiredText arguments "input" <;> rfl
  | getState =>
      rw [handler, Catalog.getState, request]
      cases Arguments.integer? arguments "windowRadius" <;> rfl
  | readOutput => rfl
  | reset => rfl

/-- The catalog defines its entries. -/
theorem definitions_eq :
    definitions.map (fun definition => (definition.name, definition.handler)) =
      all.map fun entry => (entry.name, some entry.handler) :=
  rfl

/-- No two entries share a name, so it makes no difference from which end they are searched. -/
theorem find?_reverse_all (key : String) :
    all.reverse.find? (·.name == key) = ofName? key := by
  by_cases present : ∃ entry : Entry, entry.name = key
  · obtain ⟨entry, rfl⟩ := present
    cases entry <;> decide
  · have absent : ∀ entries : List Entry, entries.find? (·.name == key) = none := by
      intro entries
      rw [List.find?_eq_none]
      intro entry _ same
      exact present ⟨entry, eq_of_beq same⟩
    rw [ofName?, absent, absent]

end Entry

end Catalog

/-- The local backend of an executor serves the entries of the catalog. -/
theorem Executor.handler?_localBackend (toolNamespace key : String) :
    ((localBackend toolNamespace).describe? key).bind (·.handler) =
      (Catalog.Entry.ofName? key).map Catalog.Entry.handler := by
  have empty : (LocalBackend.new toolNamespace : LocalBackend Session).describe? key = none := rfl
  have paired := congrArg (fun pairs : List (String × Option (Handler Session)) =>
    (pairs.reverse.find? (·.1 == key)).bind (·.2)) Catalog.Entry.definitions_eq
  simp only [← List.map_reverse, List.find?_map, Option.bind_map] at paired
  rw [localBackend, LocalBackend.describe?_foldl_register, empty, Option.or_none,
    ← Catalog.Entry.find?_reverse_all, Option.map_eq_bind]
  exact paired

namespace Executor

/-- An executor that serves the catalog: the local backend of its namespace, which takes calls, is
found under that namespace, and under no other name is there a backend. -/
structure Connected (executor : Executor) : Prop where
  validName : Registry.isValidName executor.toolNamespace = true
  get?_eq : ∀ name, executor.registry.get? name =
    if executor.toolNamespace = name then some (localBackend executor.toolNamespace).toBackend
    else none

/-- Where an identifier leads: to an entry of the catalog, or nowhere. -/
def route (executor : Executor) (identifier : String) : Except CallFault Catalog.Entry :=
  match executor.splitter.split identifier with
  | none => .error .invalidToolId
  | some (space, tool) =>
    if space = "" ∨ space = executor.toolNamespace then
      match Catalog.Entry.ofName? tool with
      | some entry => .ok entry
      | none => .error .toolNotFound
    else .error (.backendNotFound space)

/-- A bare name leads to the entry of that name, if there is one. -/
theorem route_bare (executor : Executor) {tool : String} (nonempty : tool ≠ "")
    (free : ':' ∉ tool.toList) :
    executor.route tool =
      match Catalog.Entry.ofName? tool with
      | some entry => .ok entry
      | none => .error .toolNotFound := by
  simp only [route, executor.splitter.splitsAtColon.bare nonempty free, true_or, if_true]

/-- The name of an entry leads to it. -/
theorem route_name (executor : Executor) (entry : Catalog.Entry) :
    executor.route entry.name = .ok entry := by
  have found : Catalog.Entry.ofName? entry.name = some entry := by
    cases entry <;> rfl
  rw [route_bare executor (by cases entry <;> decide) (by cases entry <;> decide), found]

/-- A call that failed before the session was asked anything. -/
def failed (executor : Executor) (context : Context) (identifier : String) (fault : CallFault) :
    CallOutcome where
  executor
  context
  result := { identifier, value := .absent, fault := some fault }
  record := none

/-- A call that the session has answered. -/
def answered (executor : Executor) (identifier : String) (entry : Catalog.Entry)
    (outcome : Outcome Session.Answer) : CallOutcome where
  executor := { executor with session := outcome.session }
  context := outcome.context
  result := { identifier, value := entry.value outcome, fault := outcome.fault.map .session }
  record := outcome.record

variable {executor : Executor}

/-- What the local backend does with a call of one of its tools. -/
def serve (fuel : Nat) (arguments : Option Arguments) (context : Context) (session : Session)
    (entry : Catalog.Entry) : Option (Reply Session) :=
  match context.poll with
  | none => some (.failed session context .canceled)
  | some polled =>
    match entry.request arguments with
    | .error fault => some (Catalog.refuse session polled fault)
    | .ok request => (request.perform fuel session polled).map fun outcome =>
        Catalog.report outcome (entry.value outcome)

/-- The local backend serves the tools of the catalog and knows no other. -/
theorem dispatch_localBackend (toolNamespace tool : String) (fuel : Nat)
    (arguments : Option Arguments) (context : Context) (session : Session) :
    (localBackend toolNamespace).dispatch tool fuel arguments context session =
      match Catalog.Entry.ofName? tool with
      | none => some (.failed session context .toolNotFound)
      | some entry => serve fuel arguments context session entry := by
  rw [LocalBackend.dispatch, handler?_localBackend]
  cases Catalog.Entry.ofName? tool with
  | none => rfl
  | some entry =>
      cases poll : context.poll with
      | none => simp only [Option.map_some, serve, poll]
      | some polled =>
          simp only [Option.map_some, serve, poll]
          exact entry.handler_eq fuel arguments polled session

/-- A call is routed to the local backend when its identifier names no namespace, or that of the
executor. -/
theorem execute_eq (connected : executor.Connected) (fuel : Nat) (context : Context)
    (identifier : String) (arguments : Option Arguments) (session : Session) :
    executor.registry.executeBy executor.splitter executor.toolNamespace identifier fuel arguments
        context session =
      match executor.route identifier with
      | .error fault => some (.failed session context fault)
      | .ok entry => serve fuel arguments context session entry := by
  have named : executor.toolNamespace ≠ "" := by
    intro empty
    have valid := connected.validName
    rw [empty] at valid
    exact absurd valid (by decide)
  rw [Registry.executeBy, route]
  cases executor.splitter.split identifier with
  | none => rfl
  | some parsed =>
      obtain ⟨space, tool⟩ := parsed
      by_cases own : space = "" ∨ space = executor.toolNamespace
      · have target : (if space.isEmpty then executor.toolNamespace else space) =
            executor.toolNamespace := by
          rcases own with rfl | rfl
          · rfl
          · exact ite_self _
        have enabled : (localBackend executor.toolNamespace).toBackend.enabled = true := rfl
        simp only [target, if_pos own, String.isEmpty_eq_false_iff.mpr named, Bool.false_eq_true,
          ↓reduceIte, connected.get?_eq, enabled]
        rw [LocalBackend.toBackend]
        simp only [dispatch_localBackend]
        cases Catalog.Entry.ofName? tool <;> rfl
      · obtain ⟨nonempty, foreign⟩ := not_or.mp own
        simp only [if_neg own, String.isEmpty_eq_false_iff.mpr nonempty, Bool.false_eq_true,
          ↓reduceIte, connected.get?_eq, if_neg (Ne.symm foreign)]

/-- What a call does, from its identifier to the session. -/
theorem runTool_eq (connected : executor.Connected) (fuel : Nat) (context : Context)
    (identifier : String) (arguments : Option Arguments) :
    executor.runTool fuel context identifier arguments =
      match executor.route identifier with
      | .error fault => some (executor.failed context identifier fault)
      | .ok entry =>
        match context.poll with
        | none => some (executor.failed context identifier .canceled)
        | some polled =>
          match entry.request arguments with
          | .error fault => some (executor.failed polled identifier (.argument fault))
          | .ok request =>
            (request.perform fuel executor.session polled).map
              (executor.answered identifier entry) := by
  rw [runTool, execute_eq connected]
  cases executor.route identifier with
  | error fault => rfl
  | ok entry =>
      simp only [serve]
      cases context.poll with
      | none => rfl
      | some polled =>
          cases entry.request arguments with
          | error fault => rfl
          | ok request =>
              simp only [Option.map_map]
              rfl

/-- A call returns, and leaves `outcome` behind. -/
def ToolReturns (executor : Executor) (context : Context) (identifier : String)
    (arguments : Option Arguments) (outcome : CallOutcome) : Prop :=
  ∃ fuel, executor.runTool fuel context identifier arguments = some outcome

/-- All that can become of a call. -/
inductive Handled (executor : Executor) (context : Context) (identifier : String)
    (arguments : Option Arguments) : CallOutcome → Prop where
  /-- Its identifier leads nowhere. -/
  | lost {fault} (routed : executor.route identifier = .error fault) :
      Handled executor context identifier arguments (executor.failed context identifier fault)
  /-- It is canceled at the backend. -/
  | canceled {entry} (routed : executor.route identifier = .ok entry)
      (poll : context.poll = none) :
      Handled executor context identifier arguments (executor.failed context identifier .canceled)
  /-- An argument cannot be read. -/
  | unreadable {entry polled fault} (routed : executor.route identifier = .ok entry)
      (poll : context.poll = some polled) (asked : entry.request arguments = .error fault) :
      Handled executor context identifier arguments
        (executor.failed polled identifier (.argument fault))
  /-- The session has answered its request. -/
  | answered {entry polled request outcome} (routed : executor.route identifier = .ok entry)
      (poll : context.poll = some polled) (asked : entry.request arguments = .ok request)
      (answers : request.Answers executor.session polled outcome) :
      Handled executor context identifier arguments (executor.answered identifier entry outcome)

/-- A call returns what becomes of it. -/
theorem toolReturns_iff (connected : executor.Connected) {context : Context}
    {identifier : String} {arguments : Option Arguments} {outcome : CallOutcome} :
    executor.ToolReturns context identifier arguments outcome ↔
      executor.Handled context identifier arguments outcome := by
  constructor
  · rintro ⟨fuel, returned⟩
    rw [runTool_eq connected] at returned
    cases routed : executor.route identifier with
    | error fault =>
        simp only [routed] at returned
        cases returned
        exact .lost routed
    | ok entry =>
        cases poll : context.poll with
        | none =>
            simp only [routed, poll] at returned
            cases returned
            exact .canceled routed poll
        | some polled =>
            cases asked : entry.request arguments with
            | error fault =>
                simp only [routed, poll, asked] at returned
                cases returned
                exact .unreadable routed poll asked
            | ok request =>
                simp only [routed, poll, asked] at returned
                obtain ⟨answered, performed, rfl⟩ := Option.map_eq_some_iff.mp returned
                exact .answered routed poll asked ⟨fuel, performed⟩
  · intro handled
    cases handled with
    | lost routed => exact ⟨0, by simp only [runTool_eq connected, routed]⟩
    | canceled routed poll => exact ⟨0, by simp only [runTool_eq connected, routed, poll]⟩
    | unreadable routed poll asked =>
        exact ⟨0, by simp only [runTool_eq connected, routed, poll, asked]⟩
    | answered routed poll asked answers =>
        obtain ⟨fuel, performed⟩ := answers
        exact ⟨fuel, by
          simp only [runTool_eq connected, routed, poll, asked, performed, Option.map_some]⟩

end Executor

end TapeDebugger

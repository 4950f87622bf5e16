import TapeDebugger.Backend.Basic

/-!
# Local backends

A backend whose tools are handlers of this process, registered under a key each.
A definition without a name of its own takes its key for one.
-/

namespace TapeDebugger

/-- A backend of registered handlers. -/
structure LocalBackend (σ : Type) where
  name : String
  enabled : Bool
  /-- The definitions by key. -/
  registered : NameMap (ToolDefinition σ)

namespace LocalBackend

variable {σ : Type}

/-- The kind of these backends. -/
def kind : String := "local"

/-- An enabled backend without tools. -/
def new (name : String) : LocalBackend σ where
  name
  enabled := true
  registered := .empty

/-- Register a definition, replacing any under the same key. -/
def register (backend : LocalBackend σ) (key : String) (definition : ToolDefinition σ) :
    LocalBackend σ :=
  let definition := if definition.name.isEmpty then { definition with name := key } else definition
  { backend with registered := backend.registered.insert key definition }

/-- Remove the definition under a key. -/
def unregister (backend : LocalBackend σ) (key : String) : LocalBackend σ :=
  { backend with registered := backend.registered.erase key }

/-- The definition under a key. -/
def describe? (backend : LocalBackend σ) (key : String) : Option (ToolDefinition σ) :=
  backend.registered.get? key

/-- Every definition in order of its name. -/
def definitions (backend : LocalBackend σ) : List (ToolDefinition σ) :=
  backend.registered.values.mergeSort fun left right => !decide (right.name < left.name)

/-- The tools on offer in order of their names. -/
def tools (backend : LocalBackend σ) : List Tool :=
  backend.definitions.map fun definition => definition.tool backend.name

/-- Call the handler under a key. A missing handler is reported before a
cancellation is. -/
def dispatch (backend : LocalBackend σ) (key : String) : Handler σ :=
  fun fuel arguments context state =>
    match (backend.describe? key).bind (·.handler) with
    | none => some (.failed state context .toolNotFound)
    | some handler =>
      match context.poll with
      | none => some (.failed state context .canceled)
      | some context => handler fuel arguments context state

/-- Call a tool, unless the backend is disabled. -/
def execute (backend : LocalBackend σ) (key : String) : Handler σ :=
  fun fuel arguments context state =>
    if backend.enabled then backend.dispatch key fuel arguments context state
    else some (.failed state context (.backendDisabled none))

/-- The backend as a registry holds it. Starting and stopping it never fail. -/
def toBackend (backend : LocalBackend σ) : Backend σ where
  kind
  name := backend.name
  enabled := backend.enabled
  tools := .ok backend.tools
  execute := backend.dispatch
  startFault := none
  stopFault := none

end LocalBackend

end TapeDebugger

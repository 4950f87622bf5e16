import TapeDebugger.Backend.Basic
import TapeDebugger.Tool.Identifier

/-!
# The backend registry

Backends by name, with the knowledge which of them run. The operations that start
and stop backends say which calls they made, in order.
-/

namespace TapeDebugger

/-- A call made on a backend to start or stop it. -/
inductive LifecycleCall where
  | start (name : String)
  | stop (name : String)
deriving Repr, DecidableEq

/-- Why a registry operation fails. -/
inductive RegistryFault where
  /-- There is no backend to register. -/
  | absentBackend
  /-- A name is empty or holds a colon. -/
  | badName (name : String)
  | alreadyRegistered (name : String)
  | startFailed (name reason : String)
  /-- Stopping failed, with the reasons by name. -/
  | stopFailed (failures : List (String × String))
  /-- Stopping a backend that is being removed failed. -/
  | removalFailed (reason : String)
  | listingFailed (name reason : String)
deriving Repr, DecidableEq

/-- How a failed registry operation is reported. -/
def RegistryFault.message : RegistryFault → String
  | absentBackend => "invalid backend: nil"
  | badName name => "invalid backend: bad name " ++ Text.quoted name
  | alreadyRegistered name => s!"backend already registered: {name}"
  | startFailed name reason => s!"start backend {name}: {reason}"
  | stopFailed failures =>
    String.intercalate "\n" (failures.map fun (name, reason) => s!"stop backend {name}: {reason}")
  | removalFailed reason => reason
  | listingFailed name reason => s!"list tools of {name}: {reason}"

/-- A registered backend and whether it runs. -/
structure Registration (σ : Type) where
  backend : Backend σ
  started : Bool

/-- The registered backends. -/
structure Registry (σ : Type) where
  registrations : NameMap (Registration σ)

namespace Registry

variable {σ : Type}

/-- A registry without backends. -/
def empty : Registry σ where
  registrations := .empty

/-- Whether a name can be registered. -/
def isValidName (name : String) : Bool :=
  !name.isEmpty && !name.toList.contains ':'

/-- Add a backend under its name, not running. -/
def register (registry : Registry σ) (backend : Option (Backend σ)) :
    Except RegistryFault (Registry σ) :=
  match backend with
  | none => .error .absentBackend
  | some backend =>
    if !isValidName backend.name then .error (.badName backend.name)
    else if registry.registrations.contains backend.name then
      .error (.alreadyRegistered backend.name)
    else
      .ok { registrations := registry.registrations.insert backend.name
              { backend, started := false } }

/-- Remove a backend, stopping it first if it runs. It is removed also when
stopping it fails. -/
def unregister (registry : Registry σ) (name : String) :
    Registry σ × List LifecycleCall × Option RegistryFault :=
  let remaining : Registry σ := { registrations := registry.registrations.erase name }
  match registry.registrations.get? name with
  | none => (remaining, [], none)
  | some registration =>
    if registration.started then
      (remaining, [.stop name], registration.backend.stopFault.map .removalFailed)
    else (remaining, [], none)

/-- A backend by name. -/
def get? (registry : Registry σ) (name : String) : Option (Backend σ) :=
  (registry.registrations.get? name).map (·.backend)

/-- Whether a backend runs. -/
def isStarted (registry : Registry σ) (name : String) : Bool :=
  ((registry.registrations.get? name).map (·.started)).getD false

/-- The registered names in order. -/
def names (registry : Registry σ) : List String :=
  registry.registrations.names

/-- The backends in order of their names. -/
def list (registry : Registry σ) : List (Backend σ) :=
  registry.names.filterMap registry.get?

/-- The backends that take calls. -/
def listEnabled (registry : Registry σ) : List (Backend σ) :=
  registry.list.filter (·.enabled)

/-- The backends that run. -/
def listStarted (registry : Registry σ) : List String :=
  registry.names.filter registry.isStarted

/-- Enable or disable a backend. -/
def setEnabled (registry : Registry σ) (name : String) (enabled : Bool) : Registry σ where
  registrations := registry.registrations.mapValues fun registered registration =>
    if registered = name then
      { registration with backend := { registration.backend with enabled } }
    else registration

/-- Write down whether a registered backend runs. -/
def mark (registry : Registry σ) (name : String) (registration : Registration σ)
    (started : Bool) : Registry σ where
  registrations := registry.registrations.insert name { registration with started }

/-- The backend of a name, if it waits to be started: it takes calls and does not run. -/
def pending? (registry : Registry σ) (name : String) : Option (Registration σ) :=
  (registry.registrations.get? name).filter fun registration =>
    !registration.started && registration.backend.enabled

/-- Start the backends of some names, of those that wait to be started, up to the first that
fails. -/
def startNames : List String → Registry σ → Registry σ × List LifecycleCall × Option RegistryFault
  | [], registry => (registry, [], none)
  | name :: rest, registry =>
    match registry.pending? name with
    | none => startNames rest registry
    | some registration =>
      match registration.backend.startFault with
      | some reason => (registry, [.start name], some (.startFailed name reason))
      | none =>
        let (after, calls, fault) := startNames rest (registry.mark name registration true)
        (after, .start name :: calls, fault)

/-- Start every enabled backend that does not run, in order of the names,
stopping at the first failure. -/
def startAll (registry : Registry σ) : Registry σ × List LifecycleCall × Option RegistryFault :=
  startNames registry.names registry

/-- The backend of a name, if it runs. -/
def running? (registry : Registry σ) (name : String) : Option (Registration σ) :=
  (registry.registrations.get? name).filter (·.started)

/-- Stop the backends of some names, of those that run, and collect by name why some failed. -/
def stopNames : List String → Registry σ →
    Registry σ × List LifecycleCall × List (String × String)
  | [], registry => (registry, [], [])
  | name :: rest, registry =>
    match registry.running? name with
    | none => stopNames rest registry
    | some registration =>
      let (after, calls, failures) := stopNames rest (registry.mark name registration false)
      let failed := registration.backend.stopFault.map fun reason => (name, reason)
      (after, .stop name :: calls, failed.toList ++ failures)

/-- Stop every running backend, in order of the names, and join the failures.
Afterwards none runs. -/
def stopAll (registry : Registry σ) : Registry σ × List LifecycleCall × Option RegistryFault :=
  let (after, calls, failures) := stopNames registry.names registry
  (after, calls, if failures.isEmpty then none else some (.stopFailed failures))

/-- The tools of a backend; one without a namespace takes the backend's name. -/
def namespacedTools (backend : Backend σ) (tools : List Tool) : List Tool :=
  tools.map fun tool =>
    if tool.toolNamespace.isEmpty then { tool with toolNamespace := backend.name } else tool

/-- The tools of a list of backends, up to the first that cannot list its own. -/
def toolsOf : List (Backend σ) → Except RegistryFault (List Tool)
  | [] => .ok []
  | backend :: rest =>
    match backend.tools with
    | .error reason => .error (.listingFailed backend.name reason)
    | .ok tools => (toolsOf rest).map fun others => namespacedTools backend tools ++ others

/-- The tools of all enabled backends. -/
def tools (registry : Registry σ) : Except RegistryFault (List Tool) :=
  toolsOf registry.listEnabled

/-- Route a call to the backend that its identifier names, or to the default
backend when it names none, given a way of taking identifiers apart. -/
def executeBy (splitter : ToolId.Splitter) (registry : Registry σ) (defaultBackend : String)
    (identifier : String) : Handler σ :=
  fun fuel arguments context state =>
    match splitter.split identifier with
    | none => some (.failed state context .invalidToolId)
    | some (space, tool) =>
      let name := if space.isEmpty then defaultBackend else space
      if name.isEmpty then some (.failed state context (.missingNamespace identifier))
      else
        match registry.get? name with
        | none => some (.failed state context (.backendNotFound name))
        | some backend =>
          if backend.enabled then backend.execute tool fuel arguments context state
          else some (.failed state context (.backendDisabled (some name)))

/-- Route a call by the colon of its identifier. -/
def execute (registry : Registry σ) (defaultBackend identifier : String) : Handler σ :=
  registry.executeBy .colon defaultBackend identifier

end Registry

end TapeDebugger

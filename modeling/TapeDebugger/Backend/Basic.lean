import TapeDebugger.Tool.Definition

/-!
# Backends

A backend is a source of tools, known by a name that is also the namespace of its
tools. What starting and stopping it would lead to is part of the backend: either
succeeds, or fails for a reason that the backend gives.
-/

namespace TapeDebugger

/-- A source of tools whose handlers share a state. -/
structure Backend (σ : Type) where
  kind : String
  name : String
  /-- Whether the backend takes calls at present. -/
  enabled : Bool
  /-- The tools on offer, or why they cannot be listed. -/
  tools : Except String (List Tool)
  /-- Call a tool by its bare name. -/
  execute : (tool : String) → Handler σ
  /-- Why starting fails, if it does. -/
  startFault : Option String
  /-- Why stopping fails, if it does. -/
  stopFault : Option String

/-- A reply that leaves the state alone and reports a failure. -/
def Reply.failed {σ : Type} (state : σ) (context : Context) (fault : CallFault) : Reply σ where
  state
  context
  value := .absent
  fault := some fault
  record := none

end TapeDebugger

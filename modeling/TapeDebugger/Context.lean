/-!
# Cancellation

A call can be canceled while it runs. What a call sees of that is a sequence of
polls, of which a number succeed before all later ones fail; a context counts
them down. Operations take a context and give back what is left of it.
-/

namespace TapeDebugger

/-- The polls that still succeed; `none` when the call is never canceled. -/
structure Context where
  pollsLeft : Option Nat
deriving Repr, DecidableEq

namespace Context

/-- A context that is never canceled. -/
def background : Context where
  pollsLeft := none

/-- Ask whether to go on: the context after a poll that succeeded, or `none`
once the call is canceled. -/
def poll (context : Context) : Option Context :=
  match context.pollsLeft with
  | none => some context
  | some 0 => none
  | some (left + 1) => some { pollsLeft := some left }

/-- How a cancellation is reported. -/
def canceledMessage : String := "context canceled"

end Context

end TapeDebugger

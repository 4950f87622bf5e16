import TapeDebugger.Text.Case

/-!
# Keys of the system journal

The journal admits only capital letters, digits and underscores in its keys.
-/

namespace TapeDebugger

/-- The journal's key for an attribute. -/
def journalKey (key : String) : String :=
  (Text.upper key).map fun character =>
    if character.isUpper || character.isDigit then character else '_'

end TapeDebugger

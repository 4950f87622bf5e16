import TapeDebugger.Context
import TapeDebugger.Program
import TapeDebugger.Tape

/-!
# Why a session operation fails
-/

namespace TapeDebugger

/-- An argument outside its range. -/
inductive RangeFault where
  | tapeSizeNotPositive (size : Int64)
  | unusableTape (fault : TapeFault)
  | countTooSmall (count : Int64)
  | limitTooSmall (limit : Int64)
  | radiusNegative (radius : Int64)
deriving Repr, DecidableEq

/-- How an argument outside its range is reported. -/
def RangeFault.message : RangeFault → String
  | tapeSizeNotPositive size =>
    s!"invalid argument: tapeSize must be positive (got {size.toInt})"
  | unusableTape fault => "invalid argument: " ++ fault.message
  | countTooSmall count => s!"invalid argument: count must be at least 1 (got {count.toInt})"
  | limitTooSmall limit => s!"invalid argument: limit must be at least 1 (got {limit.toInt})"
  | radiusNegative radius =>
    s!"invalid argument: windowRadius must not be negative (got {radius.toInt})"

/-- Why a session operation fails. -/
inductive SessionFault where
  /-- The call was canceled. -/
  | canceled
  /-- The operation needs a loaded program. -/
  | noProgram
  | argument (fault : RangeFault)
  /-- The program could not be compiled. -/
  | unmatched (bracket : UnmatchedBracket)
deriving Repr, DecidableEq

/-- How a failed operation is reported. -/
def SessionFault.message : SessionFault → String
  | canceled => Context.canceledMessage
  | noProgram => "no program loaded"
  | argument fault => fault.message
  | unmatched bracket => bracket.message

end TapeDebugger

/-!
# The tape

A circular array of bounded 64-bit cells with one data pointer. `TapeLimits`
are the settings a tape can be built from; `TapeSettings.check` is the only way
from requested numbers to them, and says what is wrong with the others.
-/

namespace TapeDebugger

/-- A tape as requested: any numbers at all. -/
structure TapeSettings where
  size : Int64
  minValue : Int64
  maxValue : Int64
deriving Repr, DecidableEq

/-- What makes a tape unusable. -/
inductive TapeFault where
  | sizeNotPositive (size : Int64)
  | boundsReversed (minValue maxValue : Int64)
  | zeroOutOfBounds (minValue maxValue : Int64)
deriving Repr, DecidableEq

/-- How an unusable tape is reported. -/
def TapeFault.message : TapeFault → String
  | sizeNotPositive size =>
    s!"configuration error: tape size must be positive, got {size.toInt}"
  | boundsReversed minValue maxValue =>
    s!"configuration error: min value {minValue.toInt} exceeds max value {maxValue.toInt}"
  | zeroOutOfBounds minValue maxValue =>
    s!"configuration error: bounds [{minValue.toInt}, {maxValue.toInt}] must include zero"

/-- The settings of a usable tape: at least one cell, and zero, the initial
value of every cell, within the bounds. -/
structure TapeLimits where
  size : Nat
  minValue : Int64
  maxValue : Int64
  size_pos : 0 < size
  minValue_nonpos : minValue ≤ 0
  maxValue_nonneg : 0 ≤ maxValue
deriving DecidableEq

namespace TapeSettings

/-- The number of cells unless another is asked for. -/
def defaultSize : Int64 := 30000

/-- The largest integer that a reader which holds numbers as doubles sees
exactly. -/
def maxSafeInteger : Int64 := 9007199254740991

/-- The least such integer. -/
def minSafeInteger : Int64 := -9007199254740991

/-- The settings used when nothing is asked for. -/
def standard : TapeSettings where
  size := defaultSize
  minValue := minSafeInteger
  maxValue := maxSafeInteger

/-- Check that the tape is usable. The size is looked at first, then the order
of the bounds, then whether they include zero. -/
def check (settings : TapeSettings) : Except TapeFault TapeLimits :=
  if size : settings.size < 1 then .error (.sizeNotPositive settings.size)
  else if settings.maxValue < settings.minValue then
    .error (.boundsReversed settings.minValue settings.maxValue)
  else if bounds : 0 < settings.minValue ∨ settings.maxValue < 0 then
    .error (.zeroOutOfBounds settings.minValue settings.maxValue)
  else
    .ok {
      size := settings.size.toNatClampNeg
      minValue := settings.minValue
      maxValue := settings.maxValue
      size_pos := by
        have one : ¬ settings.size.toInt < 1 := fun less => size (Int64.lt_iff_toInt_lt.mpr less)
        have clamp : settings.size.toNatClampNeg = settings.size.toInt.toNat := rfl
        omega
      minValue_nonpos := by
        rw [not_or] at bounds
        exact Int64.not_lt.mp bounds.1
      maxValue_nonneg := by
        rw [not_or] at bounds
        exact Int64.not_lt.mp bounds.2
    }

end TapeSettings

/-- The cells and the data pointer. -/
structure Tape where
  cells : Array Int64
  pointer : Nat
deriving Repr, DecidableEq

namespace Tape

/-- A tape of zero cells with the pointer on the first. -/
def blank (size : Nat) : Tape where
  cells := Array.replicate size 0
  pointer := 0

/-- The number of cells. -/
def size (tape : Tape) : Nat :=
  tape.cells.size

/-- The value under the data pointer. -/
def current (tape : Tape) : Int64 :=
  tape.cells.getD tape.pointer 0

/-- Replace the value under the data pointer. -/
def store (tape : Tape) (value : Int64) : Tape :=
  { tape with cells := tape.cells.setIfInBounds tape.pointer value }

/-- Move the pointer one cell up, from the last cell to the first. -/
def moveRight (tape : Tape) : Tape :=
  { tape with pointer := (tape.pointer + 1) % tape.cells.size }

/-- Move the pointer one cell down, from the first cell to the last. -/
def moveLeft (tape : Tape) : Tape :=
  { tape with pointer := (tape.pointer + tape.cells.size - 1) % tape.cells.size }

/-- The cells from `start` up to but not including `stop`. -/
def window (tape : Tape) (start stop : Nat) : Array Int64 :=
  tape.cells.extract start stop

end Tape

end TapeDebugger

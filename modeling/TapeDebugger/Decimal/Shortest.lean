import TapeDebugger.Binary64

/-!
# Shortest decimals

The shortest decimal that reads back as a given double. For one, two, … digits
the two neighbours of the number among the decimals of that length are tried; the
first length at which one of them reads back wins, and of two that do, the nearer,
or the even one when they are equally near. Seventeen digits always suffice.
-/

namespace TapeDebugger.Decimal

/-- Digits without the point: the value is `0.d₁d₂…` times ten to the `point`. -/
structure Digits where
  digits : List Nat
  point : Int
deriving Repr, DecidableEq

/-- The decimal digits of a number, first to last. -/
def digitsOf (value : Nat) : List Nat :=
  (toString value).toList.map fun character => character.toNat - 48

/-- The reals that round to a double, scaled to integers over one denominator. -/
structure Interval where
  low : Nat
  exact : Nat
  high : Nat
  denominator : Nat
  /-- Whether the ends belong to it. -/
  closed : Bool
deriving Repr, DecidableEq

namespace Interval

/-- The interval of a positive double. A power of two has a closer neighbour
below than above. -/
def ofBinary (significand : Nat) (exponent : Int) : Interval :=
  let closer := significand = Nat.pow 2 52 ∧ Binary64.leastExponent < exponent
  let below := if closer then 1 else 2
  let scale := exponent - 2
  let factor := if 0 ≤ scale then Nat.pow 2 scale.toNat else 1
  { low := (4 * significand - below) * factor
    exact := 4 * significand * factor
    high := (4 * significand + 2) * factor
    denominator := if 0 ≤ scale then 1 else Nat.pow 2 (-scale).toNat
    closed := significand % 2 == 0 }

/-- Whether `count` times the grid `top / bottom` lies in the interval. -/
def holds (interval : Interval) (count top bottom : Nat) : Bool :=
  let point := count * top * interval.denominator
  let low := interval.low * bottom
  let high := interval.high * bottom
  if interval.closed then decide (low ≤ point ∧ point ≤ high)
  else decide (low < point ∧ point < high)

end Interval

/-- Ten to a power as a quotient. -/
def powerOfTen (power : Int) : Nat × Nat :=
  if 0 ≤ power then (Nat.pow 10 power.toNat, 1) else (1, Nat.pow 10 (-power).toNat)

/-- Whether the quotient is at least ten to the `power`. -/
def reaches (numerator denominator : Nat) (power : Int) : Bool :=
  let (top, bottom) := powerOfTen power
  decide (top * denominator ≤ numerator * bottom)

/-- The greatest power of ten that a quotient reaches, searched downwards. -/
def leadingPower (numerator denominator : Nat) : (fuel : Nat) → (power : Int) → Int
  | 0, power => power
  | fuel + 1, power =>
    if reaches numerator denominator power then power
    else leadingPower numerator denominator fuel (power - 1)

/-- The best decimal of the interval on the grid of ten to the `power`, as a
multiple of it. -/
def onGrid? (interval : Interval) (power : Int) : Option Nat :=
  let (top, bottom) := powerOfTen power
  -- The exact value in units of the grid is `numerator / unit`.
  let numerator := interval.exact * bottom
  let unit := interval.denominator * top
  let below := numerator / unit
  let double := 2 * (numerator % unit)
  let lower := interval.holds below top bottom
  let upper := interval.holds (below + 1) top bottom
  if lower && upper then
    if double < unit then some below
    else if unit < double then some (below + 1)
    else some (below + below % 2)
  else if lower then some below
  else if upper then some (below + 1)
  else none

/-- Try grids of more and more digits. -/
def searchGrids (interval : Interval) (leading : Int) : (fuel count : Nat) → Option (Nat × Int)
  | 0, _ => none
  | fuel + 1, count =>
    let power := leading - count
    match onGrid? interval power with
    | some multiple => some (multiple, power)
    | none => searchGrids interval leading fuel (count + 1)

/-- Drop the zeros at the end of a digit list. -/
def trimZeros (digits : List Nat) : List Nat :=
  (digits.reverse.dropWhile (· == 0)).reverse

/-- The shortest decimal of a positive double. -/
def shortest (significand : Nat) (exponent : Int) : Digits :=
  let interval := Interval.ofBinary significand exponent
  let leading := leadingPower interval.exact interval.denominator 700 310
  match searchGrids interval leading 20 0 with
  | some (multiple, power) =>
    let digits := digitsOf multiple
    { digits := trimZeros digits, point := digits.length + power }
  | none => { digits := [], point := 0 }

end TapeDebugger.Decimal

/-!
# Double-precision numbers

A double is held as its 64 bits, and its value as an exact integer times a power
of two, so that every question about it is answered in integer arithmetic.
`Binary64.ofDecimal` and `Binary64.ofBinary` read a scaled integer to the nearest
double, ties to even.
-/

namespace TapeDebugger

/-- A double-precision number as its bit pattern. -/
structure Binary64 where
  bits : UInt64
deriving Repr, DecidableEq

namespace Binary64

/-- What a bit pattern stands for. -/
inductive Value where
  | notANumber
  | infinite (negative : Bool)
  /-- The significand times two to the exponent. -/
  | finite (negative : Bool) (significand : Nat) (exponent : Int)
deriving Repr, DecidableEq

/-- The number of bits of a fraction. -/
def fractionBits : Nat := 52

/-- The exponent of the least significand. -/
def leastExponent : Int := -1074

/-- Decode a bit pattern. -/
def value (number : Binary64) : Value :=
  let bits := number.bits.toNat
  let negative := decide (Nat.pow 2 63 ≤ bits)
  let biased : Nat := bits / Nat.pow 2 fractionBits % Nat.pow 2 11
  let fraction := bits % Nat.pow 2 fractionBits
  if biased = 2047 then
    if fraction = 0 then .infinite negative else .notANumber
  else if biased = 0 then .finite negative fraction leastExponent
  else .finite negative (Nat.pow 2 fractionBits + fraction) ((biased : Int) - 1075)

/-- The bit of a sign. -/
def signBit (negative : Bool) : Nat :=
  if negative then Nat.pow 2 63 else 0

/-- The quiet not-a-number. -/
def notANumber : Binary64 where
  bits := 0x7FF8000000000001

/-- An infinity. -/
def infinity (negative : Bool) : Binary64 where
  bits := (signBit negative + 2047 * Nat.pow 2 fractionBits).toUInt64

/-- Put a number together whose significand has at most 53 bits; a significand
of fewer than 53 bits needs the least exponent. -/
def assemble (negative : Bool) (significand : Nat) (exponent : Int) : Binary64 :=
  if significand < Nat.pow 2 fractionBits then { bits := (signBit negative + significand).toUInt64 }
  else
    let biased := (exponent + 1075).toNat
    if 2047 ≤ biased then infinity negative
    else
      { bits := (signBit negative + biased * Nat.pow 2 fractionBits
          + (significand - Nat.pow 2 fractionBits)).toUInt64 }

/-- A quotient rounded to the nearest integer, ties to even. -/
def roundDiv (numerator denominator : Nat) : Nat :=
  let quotient := numerator / denominator
  let double := 2 * (numerator % denominator)
  if double < denominator then quotient
  else if denominator < double then quotient + 1
  else quotient + quotient % 2

/-- The double nearest to a positive quotient. -/
def ofQuotient (negative : Bool) (numerator denominator : Nat) : Binary64 :=
  -- The binary logarithm of the quotient lies between `estimate - 1` and `estimate + 1`.
  let estimate : Int := (Nat.log2 numerator : Int) - Nat.log2 denominator
  let scaled (exponent : Int) : Nat × Nat :=
    if 0 ≤ exponent then (numerator, denominator * Nat.pow 2 exponent.toNat)
    else (numerator * Nat.pow 2 (-exponent).toNat, denominator)
  let coarse := estimate - 52
  let exponent :=
    let (top, bottom) := scaled coarse
    if top / bottom < Nat.pow 2 fractionBits then coarse - 1 else coarse
  let exponent := max exponent leastExponent
  let (top, bottom) := scaled exponent
  let significand := roundDiv top bottom
  if significand = Nat.pow 2 53 then assemble negative (Nat.pow 2 52) (exponent + 1)
  else assemble negative significand exponent

/-- The double nearest to `digits` times ten to the `exponent`. -/
def ofDecimal (negative : Bool) (digits : Nat) (exponent : Int) : Binary64 :=
  let size : Int := (Nat.log2 digits : Int) / 4 + exponent
  if digits = 0 then { bits := (signBit negative).toUInt64 }
  else if 400 < size then infinity negative
  else if (Nat.log2 digits : Int) + exponent < -400 then { bits := (signBit negative).toUInt64 }
  else if 0 ≤ exponent then ofQuotient negative (digits * Nat.pow 10 exponent.toNat) 1
  else ofQuotient negative digits (Nat.pow 10 (-exponent).toNat)

/-- The double nearest to `digits` times two to the `exponent`. -/
def ofBinary (negative : Bool) (digits : Nat) (exponent : Int) : Binary64 :=
  let size : Int := (Nat.log2 digits : Int) + exponent
  if digits = 0 then { bits := (signBit negative).toUInt64 }
  else if 1100 < size then infinity negative
  else if size < -1100 then { bits := (signBit negative).toUInt64 }
  else if 0 ≤ exponent then ofQuotient negative (digits * Nat.pow 2 exponent.toNat) 1
  else ofQuotient negative digits (Nat.pow 2 (-exponent).toNat)

/-- The double nearest to an integer. -/
def ofInt (value : Int) : Binary64 :=
  ofDecimal (decide (value < 0)) value.natAbs 0

/-- The exact value of a number that is an integer. -/
def toInt? (number : Binary64) : Option Int :=
  match number.value with
  | .finite negative significand exponent =>
    let magnitude :=
      if 0 ≤ exponent then some (significand * Nat.pow 2 exponent.toNat)
      else
        let scale := Nat.pow 2 (-exponent).toNat
        if significand % scale = 0 then some (significand / scale) else none
    magnitude.map fun magnitude => if negative then -(magnitude : Int) else magnitude
  | _ => none

end Binary64

end TapeDebugger

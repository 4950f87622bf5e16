import TapeDebugger.Binary64
import TapeDebugger.Decimal.Integer
import TapeDebugger.Text.Hex

/-!
# Reading real numbers

The double nearest to a literal: an optional sign, digits with an optional point
among them, and an exponent. A decimal literal may leave the exponent out; one
with the mark `0x` has hexadecimal digits and needs a power of two behind `p`.
Single underscores may stand between digits and behind the mark. The names of the
infinities and of what is no number are read in any case, the latter without sign.
-/

namespace TapeDebugger.Decimal

/-- The notations of a real number. -/
inductive Radix where
  | decimal
  | hexadecimal
deriving Repr, DecidableEq

namespace Radix

/-- The number of digits there are. -/
def base : Radix → Nat
  | decimal => 10
  | hexadecimal => 16

/-- The letter in front of an exponent. -/
def exponentMark : Radix → Char
  | decimal => 'e'
  | hexadecimal => 'p'

/-- The value of a digit. -/
def digit? : Radix → Char → Option Nat
  | decimal => digitValue?
  | hexadecimal => Text.hexValue?

/-- Whether a character is a digit. -/
def isDigit (radix : Radix) (character : Char) : Bool :=
  (radix.digit? character).isSome

/-- The double nearest to some digits, of which the last `fractionLength` are a
fraction, with an exponent. -/
def double (radix : Radix) (negative : Bool) (digits fractionLength : Nat) (exponent : Int) :
    Binary64 :=
  match radix with
  | decimal => .ofDecimal negative digits (exponent - fractionLength)
  | hexadecimal => .ofBinary negative digits (exponent - 4 * fractionLength)

end Radix

/-- What stands in front of a place in a literal. -/
inductive Preceding where
  | digit
  | underscore
  | other
deriving Repr, DecidableEq

/-- Whether every underscore has a digit on both sides. -/
def dividesDigits (radix : Radix) : (preceding : Preceding) → List Char → Bool
  | preceding, [] => preceding != .underscore
  | preceding, character :: rest =>
    if radix.isDigit character then dividesDigits radix .digit rest
    else if character = '_' then preceding == .digit && dividesDigits radix .underscore rest
    else preceding != .underscore && dividesDigits radix .other rest

/-- A run of digits as a number, with how many there are and what follows. -/
def takeDigits (radix : Radix) (input : List Char) : Nat × Nat × List Char :=
  let digits := input.takeWhile radix.isDigit
  (digits.foldl (fun value digit => value * radix.base + (radix.digit? digit).getD 0) 0,
    digits.length, input.dropWhile radix.isDigit)

/-- An exponent with its mark; a decimal literal may have none. -/
def exponent? (radix : Radix) (input : List Char) : Option Int :=
  match input with
  | [] => if radix = .decimal then some 0 else none
  | mark :: rest =>
    if mark.toLower = radix.exponentMark then
      let (negative, digits) := splitSign rest
      match takeDigits .decimal digits with
      | (_, 0, _) => none
      | (value, _, []) => some (if negative then -(value : Int) else value)
      | _ => none
    else none

/-- The double nearest to the digits and the exponent of a literal. -/
def magnitude? (radix : Radix) (negative : Bool) (input : List Char) : Option Binary64 :=
  let (whole, wholeLength, rest) := takeDigits radix input
  let (fraction, fractionLength, rest) :=
    match rest with
    | '.' :: rest => takeDigits radix rest
    | rest => (0, 0, rest)
  if wholeLength + fractionLength = 0 then none
  else
    (exponent? radix rest).map fun exponent =>
      radix.double negative (whole * Nat.pow radix.base fractionLength + fraction) fractionLength
        exponent

/-- The notation of an unsigned literal, and the literal behind the mark. -/
def splitRadix : List Char → Radix × List Char
  | '0' :: 'x' :: rest => (.hexadecimal, rest)
  | '0' :: 'X' :: rest => (.hexadecimal, rest)
  | input => (.decimal, input)

/-- The double nearest to an unsigned literal. -/
def unsigned? (negative : Bool) (input : List Char) : Option Binary64 :=
  let (radix, rest) := splitRadix input
  let start := if radix = .hexadecimal then Preceding.digit else .other
  if dividesDigits radix start rest then magnitude? radix negative (rest.filter (· != '_'))
  else none

/-- The double that a literal denotes. -/
def double? (text : String) : Option Binary64 :=
  let (negative, rest) := splitSign text.toList
  let word := String.ofList (rest.map Char.toLower)
  if word = "inf" ∨ word = "infinity" then some (.infinity negative)
  else if word = "nan" ∧ rest.length = text.length then some .notANumber
  else unsigned? negative rest

end TapeDebugger.Decimal

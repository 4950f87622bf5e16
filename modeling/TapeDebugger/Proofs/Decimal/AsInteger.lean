import TapeDebugger.Proofs.Decimal.Numeral

/-!
# Numerals as machine integers

A machine integer is read from its sign and its digits, and from nothing else
(`int64?_eq_some_iff`). A numeral is therefore judged by its spelling: a plain one is read by its
value (`int64?_of_isPlain`), and one with a fraction or an exponent is refused
(`int64?_of_not_isPlain`), also when it denotes an integer.
-/

namespace TapeDebugger.Decimal

section Magnitude

variable {digits : List Char}

/-- Further digits make a number no smaller. -/
theorem le_foldl_appendDigit (digits : List Char) (value : Nat) :
    value ≤ digits.foldl appendDigit value := by
  induction digits generalizing value with
  | nil => exact Nat.le_refl value
  | cons digit digits inductionHypothesis =>
      have next := inductionHypothesis (appendDigit value digit)
      have grows : value ≤ appendDigit value digit := by
        rw [appendDigit]
        omega
      exact grows.trans next

/-- Digits that fit 64 bits are read as the number that they denote. -/
theorem readMagnitude_of_lt (areDigits : ∀ digit ∈ digits, digit.isDigit = true) {value : Nat}
    (fits : digits.foldl appendDigit value < 2 ^ 64) :
    readMagnitude digits value = .ok (digits.foldl appendDigit value) := by
  induction digits generalizing value with
  | nil => rfl
  | cons digit digits inductionHypothesis =>
      obtain ⟨isDigit, areDigits⟩ := List.forall_mem_cons.mp areDigits
      rw [List.foldl_cons] at fits ⊢
      have next : ¬ Nat.pow 2 64 ≤ value * 10 + (digit.toNat - 48) :=
        Nat.not_le.mpr (Nat.lt_of_le_of_lt (le_foldl_appendDigit digits _) fits)
      simp only [readMagnitude, digitValue?_of_isDigit isDigit, if_neg next]
      exact inductionHypothesis areDigits fits

/-- Nothing but digits is read, and what is read is the number that they denote. -/
theorem of_readMagnitude {value magnitude : Nat}
    (read : readMagnitude digits value = .ok magnitude) :
    (∀ digit ∈ digits, digit.isDigit = true) ∧ digits.foldl appendDigit value = magnitude := by
  induction digits generalizing value with
  | nil =>
      cases read
      exact ⟨nofun, rfl⟩
  | cons digit digits inductionHypothesis =>
      rw [readMagnitude, digitValue?] at read
      cases isDigit : digit.isDigit with
      | false => simp [isDigit] at read
      | true =>
          simp only [isDigit, if_true] at read
          split at read
          case isTrue => cases read
          case isFalse =>
            obtain ⟨areDigits, valued⟩ := inductionHypothesis read
            exact ⟨List.forall_mem_cons.mpr ⟨isDigit, areDigits⟩, valued⟩

end Magnitude

section Sign

variable {negative : Bool} {magnitude : Nat} {integer : Int64}

/-- The machine integer of a magnitude behind its sign. -/
def ofMagnitude (negative : Bool) (magnitude : Nat) : Except IntegerFault Int64 :=
  if negative then
    if Nat.pow 2 63 < magnitude then .error .outOfRange else .ok (Int64.ofInt (-magnitude))
  else if Nat.pow 2 63 ≤ magnitude then .error .outOfRange
  else .ok (Int64.ofNat magnitude)

/-- The range of the machine integers reaches one number further below zero than above. -/
theorem ofMagnitude_eq_ok_iff :
    ofMagnitude negative magnitude = .ok integer ↔
      (if negative then -(magnitude : Int) else magnitude) = integer.toInt := by
  have limit : Nat.pow 2 63 = 9223372036854775808 := rfl
  have least := integer.le_toInt
  have most := integer.toInt_lt
  rw [ofMagnitude, limit]
  cases negative with
  | true =>
      simp only [if_true]
      split
      case isTrue above => exact iff_of_false nofun (by omega)
      case isFalse within =>
        rw [Except.ok.injEq, ← Int64.toInt_inj, Int64.toInt_ofInt_of_le (by omega) (by omega)]
  | false =>
      simp only [Bool.false_eq_true, if_false]
      split
      case isTrue above => exact iff_of_false nofun (by omega)
      case isFalse within =>
        rw [Except.ok.injEq, ← Int64.toInt_inj, Int64.toInt_ofNat_of_lt (by omega)]

/-- What is in front of the digits is a sign. -/
theorem exists_sign_of_splitSign {characters digits : List Char}
    (split : splitSign characters = (negative, digits)) :
    ∃ sign : ExponentSign, sign.isNegative = negative ∧ characters = sign.characters ++ digits := by
  rw [splitSign.eq_def] at split
  split at split
  case h_1 =>
    cases split
    exact ⟨.minus, rfl, rfl⟩
  case h_2 =>
    cases split
    exact ⟨.plus, rfl, rfl⟩
  case h_3 =>
    cases split
    exact ⟨.none, rfl, rfl⟩

/-- The magnitude of an integer is read behind its sign. -/
theorem readInt64_of_splitSign {written : String} {digits : List Char}
    (split : splitSign written.toList = (negative, digits)) (nonempty : digits ≠ []) :
    readInt64 written = readMagnitude digits 0 >>= ofMagnitude negative := by
  rw [readInt64, split]
  obtain ⟨first, others, rfl⟩ := List.exists_cons_of_ne_nil nonempty
  dsimp only
  cases readMagnitude (first :: others) 0 <;> rfl

end Sign

/-- An integer as it is written: a sign or none, and one digit or more. -/
structure Integral where
  sign : ExponentSign
  run : DigitRun

namespace Integral

/-- The text of an integer. -/
def text (integral : Integral) : String :=
  String.ofList (integral.sign.characters ++ integral.run.digits)

/-- The integer that is written. -/
def value (integral : Integral) : Int :=
  if integral.sign.isNegative then -(digitsValue integral.run.digits : Int)
  else digitsValue integral.run.digits

/-- An integral text is split behind its sign. -/
theorem splitSign_text (integral : Integral) :
    splitSign integral.text.toList = (integral.sign.isNegative, integral.run.digits) := by
  rw [text, String.toList_ofList, integral.run.splitSign_signed]

end Integral

/-- A result is kept as an option if it is no error. -/
theorem toOption_eq_some_iff {ε α : Type} {result : Except ε α} {value : α} :
    result.toOption = some value ↔ result = .ok value := by
  cases result <;> simp [Except.toOption]

/-- A machine integer is read from its sign and its digits, and from nothing else. -/
theorem int64?_eq_some_iff {written : String} {integer : Int64} :
    int64? written = some integer ↔
      ∃ integral : Integral, integral.text = written ∧ integral.value = integer.toInt := by
  constructor
  · intro accepted
    cases split : splitSign written.toList with
    | mk negative digits =>
        obtain ⟨sign, rfl, characters⟩ := exists_sign_of_splitSign split
        cases empty : digits with
        | nil =>
            rw [int64?, readInt64, split, empty] at accepted
            cases accepted
        | cons first others =>
            have nonempty : digits ≠ [] := by simp [empty]
            rw [int64?, readInt64_of_splitSign split nonempty] at accepted
            cases read : readMagnitude digits 0 with
            | error fault =>
                rw [read] at accepted
                cases accepted
            | ok magnitude =>
                obtain ⟨areDigits, valued⟩ := of_readMagnitude read
                rw [read] at accepted
                have fits : ofMagnitude sign.isNegative magnitude = .ok integer :=
                  toOption_eq_some_iff.mp accepted
                refine ⟨⟨sign, digits, nonempty, areDigits⟩, ?_, ?_⟩
                · rw [Integral.text, ← characters, String.ofList_toList]
                · rw [Integral.value, digitsValue, valued]
                  exact ofMagnitude_eq_ok_iff.mp fits
  · rintro ⟨integral, rfl, exact⟩
    have small : digitsValue integral.run.digits < 2 ^ 64 := by
      have least := integer.le_toInt
      have most := integer.toInt_lt
      rw [Integral.value] at exact
      split at exact <;> omega
    rw [int64?, readInt64_of_splitSign integral.splitSign_text integral.run.nonempty,
      readMagnitude_of_lt integral.run.areDigits small]
    have fits := ofMagnitude_eq_ok_iff.mpr exact
    exact congrArg Except.toOption fits

namespace Numeral

variable {numeral : Numeral}

/-- A plain numeral has nothing but its whole digits behind the sign. -/
theorem body_of_isPlain (plain : numeral.IsPlain) : numeral.body = numeral.whole.digits := by
  rw [body, fractionCharacters, exponentCharacters, plain.1, plain.2]
  exact List.append_nil _

/-- What follows the whole digits begins with a point or with the mark of an exponent. -/
theorem exists_body_eq_of_not_isPlain (spelled : ¬ numeral.IsPlain) :
    ∃ character rest, character.isDigit = false ∧
      numeral.body = numeral.whole.digits ++ character :: rest := by
  rw [body, fractionCharacters, exponentCharacters]
  cases fraction : numeral.fraction with
  | some run => exact ⟨'.', run.digits ++ _, rfl, rfl⟩
  | none =>
      cases exponent : numeral.exponent with
      | none => exact absurd ⟨fraction, exponent⟩ spelled
      | some power =>
          refine ⟨_, _, ?_, rfl⟩
          cases power.capital <;> rfl

/-- A fraction or an exponent makes a numeral unreadable. -/
theorem int64?_of_not_isPlain (spelled : ¬ numeral.IsPlain) : int64? numeral.text = none := by
  obtain ⟨character, rest, foreign, body⟩ := exists_body_eq_of_not_isPlain spelled
  cases read : int64? numeral.text with
  | none => rfl
  | some integer =>
      obtain ⟨integral, same, _⟩ := int64?_eq_some_iff.mp read
      have split := integral.splitSign_text
      rw [same, text, String.toList_ofList, splitSign_characters, body] at split
      have digits := (Prod.mk.inj split).2
      have isDigit := integral.run.areDigits character (digits ▸ by simp)
      rw [foreign] at isDigit
      cases isDigit

/-- A numeral of digits alone is read as the integer that it denotes. -/
theorem int64?_of_isPlain (plain : numeral.IsPlain) {integer : Int}
    (exact : numeral.value = integer) (small : integer.natAbs < 2 ^ 53) :
    int64? numeral.text = some (Int64.ofInt integer) := by
  have whole : digitsValue numeral.whole.digits = integer.natAbs := by
    have magnitude := significand_eq_natAbs exact
    rw [significand, scale, fractionDigits, plain.1, plain.2] at magnitude
    simp only [Option.map_none, Option.getD_none, List.append_nil, List.length_nil,
      Int.natCast_zero, Int.sub_zero, zpow_zero, mul_one] at magnitude
    exact Rat.natCast_injective magnitude
  refine int64?_eq_some_iff.mpr
    ⟨⟨if numeral.negative then .minus else .none, numeral.whole⟩, ?_, ?_⟩
  · rw [Integral.text, text, characters, body_of_isPlain plain]
    cases numeral.negative <;> rfl
  · rw [Int64.toInt_ofInt_of_le (by omega) (by omega), ← signed_natAbs exact, Integral.value, whole]
    cases numeral.negative <;> rfl

end Numeral

end TapeDebugger.Decimal

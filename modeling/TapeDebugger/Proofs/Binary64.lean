import Mathlib.Data.Nat.Log
import Mathlib.Data.Rat.Cast.Order
import Mathlib.Tactic.Positivity
import TapeDebugger.Binary64

/-!
# Integers as doubles

A double has 53 bits for an integer. One of smaller magnitude is therefore read without rounding,
no matter how it is scaled: as a quotient (`toInt?_ofQuotient`) or as digits with a power of ten
(`toInt?_ofDecimal`). Whether a double is an integer is decided by its exact value
(`toInt?_eq_some_iff`).
-/

namespace TapeDebugger.Binary64

section Fields

variable (negative : Bool)

/-- The sign stands in the top bit. -/
theorem signBit_eq : signBit negative = negative.toNat * 2 ^ 63 := by
  cases negative <;> rfl

/-- The fields of a normal number are read back. -/
theorem value_ofFields {biased fraction : Nat} (normal : 0 < biased) (finite : biased < 2047)
    (fits : fraction < 2 ^ 52) :
    value ⟨(signBit negative + biased * Nat.pow 2 fractionBits + fraction).toUInt64⟩ =
      .finite negative (2 ^ 52 + fraction) (biased - 1075) := by
  have shift : Nat.pow 2 fractionBits = 4503599627370496 := rfl
  have sign := signBit_eq negative
  have bound : negative.toNat ≤ 1 := Bool.toNat_le negative
  have positive : decide (1 ≤ negative.toNat) = negative := by cases negative <;> rfl
  generalize place : signBit negative + biased * Nat.pow 2 fractionBits + fraction = bits
  rw [shift, sign] at place
  have whole : bits.toUInt64.toNat = bits := by
    rw [Nat.toUInt64_eq, UInt64.toNat_ofNat']
    omega
  have first : decide (Nat.pow 2 63 ≤ bits) = negative := by
    rw [← positive, decide_eq_decide]
    show 9223372036854775808 ≤ bits ↔ _
    omega
  have second : bits / Nat.pow 2 fractionBits % Nat.pow 2 11 = biased := by
    rw [shift]
    show bits / 4503599627370496 % 2048 = biased
    omega
  have third : bits % Nat.pow 2 fractionBits = fraction := by
    rw [shift]
    omega
  simp only [value, whole, first, second, third, if_neg (Nat.ne_of_lt finite),
    if_neg (Nat.ne_of_gt normal)]
  rfl

/-- A normal number is taken apart into what it was put together from. -/
theorem value_assemble {significand : Nat} {exponent : Int} (normal : 2 ^ 52 ≤ significand)
    (fits : significand < 2 ^ 53) (least : -1074 ≤ exponent) (most : exponent ≤ 0) :
    (assemble negative significand exponent).value = .finite negative significand exponent := by
  obtain ⟨biased, rfl⟩ : ∃ biased : Nat, exponent = biased - 1075 :=
    ⟨(exponent + 1075).toNat, by omega⟩
  obtain ⟨fraction, rfl⟩ := Nat.exists_eq_add_of_le normal
  have large : ¬ 2 ^ 52 + fraction < Nat.pow 2 fractionBits :=
    Nat.not_lt.mpr (Nat.le_add_right _ _)
  have cancel : ((biased : Int) - 1075 + 1075).toNat = biased := by omega
  have finite : ¬ 2047 ≤ biased := by omega
  have rest : 2 ^ 52 + fraction - Nat.pow 2 fractionBits = fraction :=
    Nat.add_sub_cancel_left _ _
  simp only [assemble, if_neg large, cancel, if_neg finite, rest]
  exact value_ofFields negative (by omega) (by omega) (by omega)

/-- A zero of either sign is the integer zero. -/
theorem toInt?_zero : toInt? ⟨(signBit negative).toUInt64⟩ = some 0 := by
  cases negative <;> decide +kernel

end Fields

/-- The integer that a number is whose significand can be shifted to it. -/
theorem toInt?_of_value {number : Binary64} {negative : Bool} {magnitude shift : Nat}
    (holds : number.value = .finite negative (magnitude * 2 ^ shift) (-shift)) :
    number.toInt? = some (if negative then -(magnitude : Int) else magnitude) := by
  rw [toInt?, holds]
  by_cases none : shift = 0
  · subst none
    simp [Nat.pow_eq]
  · have positive : 0 < 2 ^ shift := Nat.two_pow_pos shift
    simp [none, Nat.pow_eq, Nat.mul_div_cancel _ positive]

/-- A multiple is not rounded. -/
theorem roundDiv_mul (quotient : Nat) {denominator : Nat} (positive : 0 < denominator) :
    roundDiv (quotient * denominator) denominator = quotient := by
  have exact : quotient * denominator / denominator = quotient :=
    Nat.mul_div_cancel quotient positive
  simp [roundDiv, exact, positive]

/-- A quotient over a power of two. -/
def scale (numerator denominator : Nat) (exponent : Int) : Nat × Nat :=
  if 0 ≤ exponent then (numerator, denominator * Nat.pow 2 exponent.toNat)
  else (numerator * Nat.pow 2 (-exponent).toNat, denominator)

/-- The exponent that leaves a quotient 53 bits in front of the point. -/
def leadingExponent (numerator denominator : Nat) : Int :=
  let coarse : Int := (Nat.log2 numerator : Int) - Nat.log2 denominator - 52
  let (top, bottom) := scale numerator denominator coarse
  if top / bottom < Nat.pow 2 fractionBits then coarse - 1 else coarse

/-- A quotient is read by rounding it at its leading exponent. -/
theorem ofQuotient_eq (negative : Bool) (numerator denominator : Nat) :
    ofQuotient negative numerator denominator =
      let exponent := max (leadingExponent numerator denominator) leastExponent
      let (top, bottom) := scale numerator denominator exponent
      let significand := roundDiv top bottom
      if significand = Nat.pow 2 53 then assemble negative (Nat.pow 2 52) (exponent + 1)
      else assemble negative significand exponent :=
  rfl

/-- A negative shift multiplies the numerator. -/
theorem scale_neg (numerator denominator shift : Nat) :
    scale numerator denominator (-shift) = (numerator * 2 ^ shift, denominator) := by
  rw [scale]
  by_cases none : shift = 0 <;> simp [none, Nat.pow_eq]

section Quotient

variable {magnitude denominator : Nat}

/-- The logarithm of a product is the sum of the logarithms, or one more. -/
theorem log2_mul (positive : 0 < magnitude) (scales : 0 < denominator) :
    Nat.log2 (magnitude * denominator) = Nat.log2 magnitude + Nat.log2 denominator ∨
      Nat.log2 (magnitude * denominator) = Nat.log2 magnitude + Nat.log2 denominator + 1 := by
  have nonzero : magnitude * denominator ≠ 0 := (Nat.mul_pos positive scales).ne'
  have lower : Nat.log2 magnitude + Nat.log2 denominator ≤ Nat.log2 (magnitude * denominator) := by
    rw [Nat.le_log2 nonzero, Nat.pow_add]
    exact Nat.mul_le_mul (Nat.log2_self_le positive.ne') (Nat.log2_self_le scales.ne')
  have upper : Nat.log2 (magnitude * denominator) <
      Nat.log2 magnitude + 1 + (Nat.log2 denominator + 1) := by
    rw [Nat.log2_lt nonzero, Nat.pow_add]
    exact Nat.mul_lt_mul'' Nat.lt_log2_self Nat.lt_log2_self
  omega

variable (positive : 0 < magnitude) (small : magnitude < 2 ^ 53)

include positive small

/-- Shifting a number to 53 bits. -/
theorem shifted_bounds :
    2 ^ 52 ≤ magnitude * 2 ^ (52 - Nat.log2 magnitude) ∧
      magnitude * 2 ^ (52 - Nat.log2 magnitude) < 2 ^ 53 := by
  have most : Nat.log2 magnitude < 53 := (Nat.log2_lt positive.ne').mpr small
  have place : Nat.log2 magnitude + (52 - Nat.log2 magnitude) = 52 := by omega
  have above : Nat.log2 magnitude + 1 + (52 - Nat.log2 magnitude) = 53 := by omega
  constructor
  · calc 2 ^ 52 = 2 ^ Nat.log2 magnitude * 2 ^ (52 - Nat.log2 magnitude) := by
          rw [← Nat.pow_add, place]
      _ ≤ magnitude * 2 ^ (52 - Nat.log2 magnitude) :=
        Nat.mul_le_mul_right _ (Nat.log2_self_le positive.ne')
  · calc magnitude * 2 ^ (52 - Nat.log2 magnitude)
        < 2 ^ (Nat.log2 magnitude + 1) * 2 ^ (52 - Nat.log2 magnitude) :=
          Nat.mul_lt_mul_of_pos_right Nat.lt_log2_self (Nat.two_pow_pos _)
      _ = 2 ^ 53 := by rw [← Nat.pow_add, above]

/-- The leading exponent of a small integer that comes as a quotient. -/
theorem leadingExponent_mul (scales : 0 < denominator) :
    leadingExponent (magnitude * denominator) denominator =
      -(52 - Nat.log2 magnitude : Nat) := by
  have most : Nat.log2 magnitude < 53 := (Nat.log2_lt positive.ne').mpr small
  obtain ⟨normal, fits⟩ := shifted_bounds positive small
  rw [leadingExponent]
  generalize shifted : 52 - Nat.log2 magnitude = shift at normal fits ⊢
  obtain exact | above := log2_mul positive scales
  · have coarse : (Nat.log2 (magnitude * denominator) : Int) - Nat.log2 denominator - 52 =
        -shift := by omega
    have quotient : magnitude * denominator * 2 ^ shift / denominator = magnitude * 2 ^ shift := by
      rw [Nat.mul_right_comm, Nat.mul_div_cancel _ scales]
    simp only [coarse, scale_neg, quotient]
    exact if_neg (Nat.not_lt.mpr normal)
  · have low : (Nat.log2 (magnitude * denominator) : Int) - Nat.log2 denominator - 52 =
        1 - shift := by omega
    -- The estimate is one too high, so that a bit is missing from the quotient.
    have lacking : (scale (magnitude * denominator) denominator (1 - shift)).1 /
        (scale (magnitude * denominator) denominator (1 - shift)).2 < 2 ^ 52 := by
      cases shift with
      | zero =>
          have halved : magnitude * denominator / (denominator * 2) = magnitude / 2 := by
            rw [← Nat.div_div_eq_div_mul, Nat.mul_div_cancel _ scales]
          show magnitude * denominator / (denominator * 2) < 2 ^ 52
          omega
      | succ shift =>
          have less : (1 : Int) - (shift + 1 : Nat) = -shift := by omega
          rw [less, scale_neg, Nat.mul_right_comm, Nat.mul_div_cancel _ scales]
          rw [Nat.pow_succ, ← Nat.mul_assoc] at fits
          omega
    simp only [low]
    exact (if_pos lacking).trans (by omega)

/-- A small integer that comes as a quotient is shifted to 53 bits, and nothing is lost. -/
theorem ofQuotient_mul (negative : Bool) (scales : 0 < denominator) :
    ofQuotient negative (magnitude * denominator) denominator =
      assemble negative (magnitude * 2 ^ (52 - Nat.log2 magnitude))
        (-(52 - Nat.log2 magnitude : Nat)) := by
  obtain ⟨_, fits⟩ := shifted_bounds positive small
  have least : max (-(52 - Nat.log2 magnitude : Nat) : Int) leastExponent =
      -(52 - Nat.log2 magnitude : Nat) := by
    rw [leastExponent]
    omega
  rw [ofQuotient_eq, leadingExponent_mul positive small scales]
  simp only [least, scale_neg]
  rw [Nat.mul_right_comm, roundDiv_mul _ scales]
  exact if_neg (Nat.ne_of_lt fits)

/-- A quotient that is a small integer is read as that integer. -/
theorem toInt?_ofQuotient (negative : Bool) (scales : 0 < denominator) :
    (ofQuotient negative (magnitude * denominator) denominator).toInt? =
      some (if negative then -(magnitude : Int) else magnitude) := by
  obtain ⟨normal, fits⟩ := shifted_bounds positive small
  rw [ofQuotient_mul positive small negative scales]
  exact toInt?_of_value (value_assemble negative normal fits (by omega) (by omega))

end Quotient

section Decimal

variable {digits magnitude : Nat} {exponent : Int}

/-- A power of ten moves the point of an integer to the right or to the left. -/
theorem cases_of_scaled (exact : (digits : ℚ) * 10 ^ exponent = magnitude) :
    (∃ power : Nat, exponent = power ∧ magnitude = digits * 10 ^ power) ∨
      ∃ power : Nat, exponent = -power ∧ 0 < power ∧ digits = magnitude * 10 ^ power := by
  obtain ⟨power, rfl | rfl⟩ := exponent.eq_nat_or_neg
  · refine .inl ⟨power, rfl, ?_⟩
    rw [zpow_natCast] at exact
    exact_mod_cast exact.symm
  · have moved : digits = magnitude * 10 ^ power := by
      rw [zpow_neg, zpow_natCast, ← div_eq_mul_inv, div_eq_iff (by positivity)] at exact
      exact_mod_cast exact
    obtain rfl | positive := Nat.eq_zero_or_pos power
    · exact .inl ⟨0, rfl, by simpa using moved.symm⟩
    · exact .inr ⟨power, rfl, positive, moved⟩

/-- A double has enough bits for small integers, in whatever way they are written as digits with a
power of ten. -/
theorem toInt?_ofDecimal (negative : Bool) (exact : (digits : ℚ) * 10 ^ exponent = magnitude)
    (small : magnitude < 2 ^ 53) :
    (ofDecimal negative digits exponent).toInt? =
      some (if negative then -(magnitude : Int) else magnitude) := by
  rw [ofDecimal]
  by_cases zero : digits = 0
  · subst zero
    have none : magnitude = 0 := by simpa using exact.symm
    subst none
    simp [toInt?_zero]
  have digitsPositive : 0 < digits := Nat.pos_of_ne_zero zero
  -- In either case the sizes at which a number is infinite or zero are out of reach.
  obtain ⟨power, rfl, rfl⟩ | ⟨power, rfl, fractional, rfl⟩ := cases_of_scaled exact
  · have positive : 0 < digits * 10 ^ power := by positivity
    have few : Nat.log2 digits < 53 :=
      (Nat.log2_lt zero).mpr (Nat.lt_of_le_of_lt (Nat.le_mul_of_pos_right _ (by positivity)) small)
    have low : power < 53 := by
      have powers : 2 ^ power ≤ 10 ^ power := Nat.pow_le_pow_left (by decide) power
      have least : 10 ^ power ≤ digits * 10 ^ power := Nat.le_mul_of_pos_left _ digitsPositive
      exact (Nat.pow_lt_pow_iff_right (by decide)).mp (by omega : 2 ^ power < 2 ^ 53)
    have raised : (0 : Int) ≤ power := by omega
    simp only [if_neg zero, if_pos raised, Int.toNat_natCast, Nat.pow_eq,
      if_neg (by omega : ¬ 400 < (Nat.log2 digits : Int) / 4 + power),
      if_neg (by omega : ¬ (Nat.log2 digits : Int) + power < -400)]
    simpa using toInt?_ofQuotient positive small negative Nat.one_pos
  · have positive : 0 < magnitude := Nat.pos_of_mul_pos_right digitsPositive
    have most : Nat.log2 (magnitude * 10 ^ power) < 53 + 4 * power := by
      rw [Nat.log2_lt zero, Nat.pow_add, Nat.pow_mul]
      have powers : 10 ^ power ≤ 16 ^ power := Nat.pow_le_pow_left (by decide) power
      exact Nat.mul_lt_mul_of_lt_of_le small powers (by positivity)
    have least : power ≤ Nat.log2 (magnitude * 10 ^ power) := by
      have powers : 2 ^ power ≤ 10 ^ power := Nat.pow_le_pow_left (by decide) power
      rw [Nat.le_log2 zero]
      exact powers.trans (Nat.le_mul_of_pos_left _ positive)
    have lowered : ¬ (0 : Int) ≤ -power := by omega
    simp only [if_neg zero, if_neg lowered, Int.neg_neg, Int.toNat_natCast, Nat.pow_eq,
      if_neg (by omega : ¬ 400 < (Nat.log2 (magnitude * 10 ^ power) : Int) / 4 + -power),
      if_neg (by omega : ¬ (Nat.log2 (magnitude * 10 ^ power) : Int) + -power < -400)]
    exact toInt?_ofQuotient positive small negative (by positivity)

end Decimal

section Rational

variable {negative : Bool} {magnitude : ℚ} {integer : Int}

/-- A number without its sign is the magnitude of what it is with the sign. -/
theorem eq_natAbs_of_signed (nonneg : 0 ≤ magnitude)
    (exact : (if negative then -1 else 1) * magnitude = integer) : magnitude = integer.natAbs := by
  rw [Nat.cast_natAbs, Int.cast_abs, ← exact, abs_mul, abs_of_nonneg nonneg]
  cases negative <;> simp

end Rational

end TapeDebugger.Binary64

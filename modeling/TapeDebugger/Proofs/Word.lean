/-!
# Words as unbounded numbers

Cells and counts are 64-bit words. Counts that are not negative are read as natural
numbers, and a cell that is checked against a bound before it is counted up or down does
not wrap.
-/

namespace TapeDebugger

/-- A count is read as its number, and as zero below it. -/
theorem toNatClampNeg_eq (count : Int64) : count.toNatClampNeg = count.toInt.toNat :=
  rfl

/-- A negative count is read as zero. -/
theorem coe_toNatClampNeg (count : Int64) : (count.toNatClampNeg : Int) = max count.toInt 0 := by
  rw [toNatClampNeg_eq, Int.ofNat_toNat]

/-- A count that is at least one is positive. -/
theorem pos_of_one_le {count : Int64} (least : 1 ≤ count) : 0 < count :=
  Int64.lt_of_lt_of_le (by decide) least

/-- A positive count is at least one. -/
theorem one_le_of_pos {count : Int64} (positive : 0 < count) : 1 ≤ count := by
  rw [Int64.lt_iff_toInt_lt, Int64.toInt_zero] at positive
  have one : (1 : Int64).toInt = 1 := rfl
  rw [Int64.le_iff_toInt_le, one]
  omega

/-- A positive count is a positive number. -/
theorem toNatClampNeg_pos {count : Int64} (positive : 0 < count) :
    0 < count.toNatClampNeg := by
  have above : 0 < count.toInt := Int64.lt_iff_toInt_lt.mp positive
  rw [toNatClampNeg_eq]
  omega

/-- A count that is read as a positive number is positive. -/
theorem pos_of_toNatClampNeg_pos {count : Int64} (positive : 0 < count.toNatClampNeg) :
    0 < count := by
  rw [toNatClampNeg_eq] at positive
  rw [Int64.lt_iff_toInt_lt, Int64.toInt_zero]
  omega

/-- Positive counts are ordered like the numbers they stand for. -/
theorem toNatClampNeg_lt_iff {left right : Int64} (positive : 0 < right) :
    left.toNatClampNeg < right.toNatClampNeg ↔ left < right := by
  have above : 0 < right.toInt := Int64.lt_iff_toInt_lt.mp positive
  rw [Int64.lt_iff_toInt_lt, toNatClampNeg_eq, toNatClampNeg_eq]
  omega

/-- A sum that is a word does not wrap. -/
theorem toInt_add_of_fits {left right : Int64}
    (least : -9223372036854775808 ≤ left.toInt + right.toInt)
    (most : left.toInt + right.toInt < 9223372036854775808) :
    (left + right).toInt = left.toInt + right.toInt := by
  rw [Int64.toInt_add, Int.bmod_eq_of_le (by omega) (by omega)]

/-- A difference that is a word does not wrap. -/
theorem toInt_sub_of_fits {left right : Int64}
    (least : -9223372036854775808 ≤ left.toInt - right.toInt)
    (most : left.toInt - right.toInt < 9223372036854775808) :
    (left - right).toInt = left.toInt - right.toInt := by
  rw [Int64.toInt_sub, Int.bmod_eq_of_le (by omega) (by omega)]

/-- Counts are added like the numbers they stand for, as long as the sum is a count. -/
theorem toNatClampNeg_add {left right : Int64} (leftNonnegative : 0 ≤ left)
    (rightNonnegative : 0 ≤ right) (fits : left.toInt + right.toInt ≤ Int64.maxValue.toInt) :
    (left + right).toNatClampNeg = left.toNatClampNeg + right.toNatClampNeg := by
  have top : Int64.maxValue.toInt = 9223372036854775807 := rfl
  have leftAbove : 0 ≤ left.toInt := Int64.le_iff_toInt_le.mp leftNonnegative
  have rightAbove : 0 ≤ right.toInt := Int64.le_iff_toInt_le.mp rightNonnegative
  have sum : (left + right).toInt = left.toInt + right.toInt :=
    toInt_add_of_fits (by omega) (by omega)
  rw [toNatClampNeg_eq, toNatClampNeg_eq, toNatClampNeg_eq, sum]
  omega

/-- A count less a smaller number is the difference, and again a count. -/
theorem toNatClampNeg_sub {count : Int64} {less : Nat} (below : less < count.toNatClampNeg) :
    (count - Int64.ofNat less).toNatClampNeg = count.toNatClampNeg - less := by
  have top := count.toInt_lt
  rw [toNatClampNeg_eq] at below
  have word : (Int64.ofNat less).toInt = less := Int64.toInt_ofNat_of_lt (by omega)
  have difference : (count - Int64.ofNat less).toInt = count.toInt - less := by
    rw [toInt_sub_of_fits (by omega) (by omega), word]
  rw [toNatClampNeg_eq, toNatClampNeg_eq, difference]
  omega

/-- Every count fits into an unsigned word. -/
theorem toNatClampNeg_lt (count : Int64) : count.toNatClampNeg < UInt64.size := by
  have top := count.toInt_lt
  rw [toNatClampNeg_eq, UInt64.size]
  omega

/-- Adding one to a value below some bound does not wrap. -/
theorem toInt_add_one {value bound : Int64} (below : value < bound) :
    (value + 1).toInt = value.toInt + 1 := by
  have less := Int64.lt_iff_toInt_lt.mp below
  have top := bound.toInt_lt
  have bottom := value.le_toInt
  have one : (1 : Int64).toInt = 1 := rfl
  rw [toInt_add_of_fits (by omega) (by omega), one]

/-- Taking one from a value above some bound does not wrap. -/
theorem toInt_sub_one {value bound : Int64} (above : bound < value) :
    (value - 1).toInt = value.toInt - 1 := by
  have less := Int64.lt_iff_toInt_lt.mp above
  have bottom := bound.le_toInt
  have top := value.toInt_lt
  have one : (1 : Int64).toInt = 1 := rfl
  rw [toInt_sub_of_fits (by omega) (by omega), one]

end TapeDebugger

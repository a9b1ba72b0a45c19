/-!
# Casts between machine integers

What the casts between signed and unsigned integers of 32 and 64 bits do to the numbers that
they stand for, in the form in which `omega` uses it.
-/

namespace MachineIntegers

/-- Read as signed, the upper half of the 32-bit integers is negative. -/
theorem toInt_toInt32 (x : UInt32) :
    x.toInt32.toInt =
      if x.toNat < 2147483648 then (x.toNat : Int) else (x.toNat : Int) - 4294967296 := by
  have hcond := BitVec.toInt_eq_toNat_cond x.toBitVec
  have hsigned : x.toInt32.toInt = x.toBitVec.toInt := rfl
  have hnat : x.toBitVec.toNat = x.toNat := rfl
  rw [hsigned, hcond, hnat]
  split <;> split <;> omega

/-- Read as signed, the upper half of the 64-bit integers is negative. -/
theorem toInt_toInt64 (x : UInt64) :
    x.toInt64.toInt =
      if x.toNat < 9223372036854775808 then (x.toNat : Int)
      else (x.toNat : Int) - 18446744073709551616 := by
  have hcond := BitVec.toInt_eq_toNat_cond x.toBitVec
  have hsigned : x.toInt64.toInt = x.toBitVec.toInt := rfl
  have hnat : x.toBitVec.toNat = x.toNat := rfl
  rw [hsigned, hcond, hnat]
  split <;> split <;> omega

/-- A number is wrapped into the range of the 64-bit integers. -/
theorem toInt_ofInt64 (number : Int) :
    ∃ wraps : Int, (Int64.ofInt number).toInt = number + wraps * 18446744073709551616 := by
  refine ⟨-((number - (Int64.ofInt number).toInt) / 18446744073709551616), ?_⟩
  have hmod : (Int64.ofInt number).toInt % 18446744073709551616 =
      number % 18446744073709551616 := by
    rw [Int64.toInt_ofInt]
    exact Int.bmod_emod
  omega

/-- Read as unsigned, negative integers are in the upper half. -/
theorem toNat_toUInt32 (x : Int32) :
    (x.toUInt32.toNat : Int) = if 0 ≤ x.toInt then x.toInt else x.toInt + 4294967296 := by
  have hsigned := toInt_toInt32 x.toUInt32
  rw [Int32.toInt32_toUInt32] at hsigned
  have hlt := x.toUInt32.toNat_lt
  split at hsigned <;> split <;> omega

/-- A 32-bit difference wraps around. -/
theorem toNat_sub (x y : UInt32) :
    ((x - y).toNat : Int) = ((x.toNat : Int) - y.toNat) % 4294967296 := by
  rw [UInt32.toNat_sub]
  have hx := x.toNat_lt
  have hy := y.toNat_lt
  omega

/-- A 64-bit difference cut to 32 bits. -/
theorem toNat_toUInt32_sub (x y : UInt64) :
    ((x - y).toUInt32.toNat : Int) = ((x.toNat : Int) - y.toNat) % 4294967296 := by
  rw [UInt64.toNat_toUInt32, UInt64.toNat_sub]
  have hx := x.toNat_lt
  have hy := y.toNat_lt
  omega

/-- A non-negative integer keeps its value in 64 unsigned bits. -/
theorem toNat_toUInt64_toInt64 {x : Int32} (hx : 0 ≤ x.toInt) :
    (x.toInt64.toUInt64.toNat : Int) = x.toInt := by
  have hcond := BitVec.toInt_eq_toNat_cond x.toInt64.toUInt64.toBitVec
  have hsigned : x.toInt64.toInt = x.toInt64.toUInt64.toBitVec.toInt := rfl
  have hnat : x.toInt64.toUInt64.toBitVec.toNat = x.toInt64.toUInt64.toNat := rfl
  rw [← hsigned, Int32.toInt_toInt64, hnat] at hcond
  have hlt := x.toInt64.toUInt64.toNat_lt
  split at hcond <;> omega

/-- Only the least integer is its own negation by wrapping around. -/
theorem toInt_neg {x : Int32} (hmin : -2147483648 < x.toInt) : (-x).toInt = -x.toInt := by
  have hle : x.toInt < 2147483648 := x.toInt_lt
  rw [Int32.toInt_neg, Int.bmod]
  omega

end MachineIntegers

import WarehouseAccounting.Foundations.NumberPrefix
import WarehouseAccounting.Instrumental

/-!
# Texts as unsigned numbers

`FromString` of `string_converters.h` for unsigned integers, which is `std::stoul`: it reads the
number that a text begins with, a minus sign wraps around, and what follows is not looked at.

- `StringConverters.fromStringUInt64_eq_ok`: the texts that are read, and what they are read as.
- `StringConverters.fromStringUInt64_toString`: a number that was written is read.
-/

namespace StringConverters

open NumberPrefix

/-- `FromString<uint64_t>`, which is `std::stoul`. -/
def fromStringUInt64 (text : String) : Except Ufa.CheckFailed UInt64 :=
  match NumberPrefix.read isSpace text.toList with
  | none => .error ⟨"stoul: no conversion"⟩
  | some number =>
    if Nat.ofDigitChars 10 number.2 0 < 18446744073709551616 then
      .ok (UInt64.ofInt (value number))
    else
      .error ⟨"stoul: out of range"⟩

/-- `FromString<uint32_t>`, which cuts what `std::stoul` reads. -/
def fromStringUInt32 (text : String) : Except Ufa.CheckFailed UInt32 :=
  (fromStringUInt64 text).map UInt64.toUInt32

/-- A space is neither a digit nor a sign. -/
theorem separates_isSpace : Separates isSpace := by
  intro char h
  simp only [isSpace, Bool.or_eq_true, decide_eq_true_eq] at h
  rcases h with ((((rfl | rfl) | rfl) | rfl) | rfl) | rfl <;> decide

/-- The text begins with a number, whose value is this one modulo the range of the type. -/
def BeginsWithUInt64 (text : String) (number : UInt64) : Prop :=
  ∃ negative digits, BeginsWith isSpace text.toList negative digits ∧
    Nat.ofDigitChars 10 digits 0 < 18446744073709551616 ∧
      number = UInt64.ofInt (value (negative, digits))

/-- A text is read as the number that it begins with. -/
theorem fromStringUInt64_eq_ok {text : String} {number : UInt64} :
    fromStringUInt64 text = .ok number ↔ BeginsWithUInt64 text number := by
  unfold fromStringUInt64 BeginsWithUInt64
  simp only [← read_eq_some separates_isSpace]
  cases hread : NumberPrefix.read isSpace text.toList with
  | none => simp
  | some parsed =>
    obtain ⟨negative, digits⟩ := parsed
    dsimp only
    constructor
    · intro h
      split at h
      · rename_i hrange
        exact ⟨negative, digits, rfl, hrange, (Except.ok.inj h).symm⟩
      · cases h
    · rintro ⟨negative', digits', hsame, hrange, rfl⟩
      cases hsame
      rw [if_pos hrange]

/-- A text of digits is read as their value. -/
theorem fromStringUInt64_of_digits {text : String} (hne : text.toList ≠ [])
    (hdigits : ∀ digit ∈ text.toList, digit.isDigit = true)
    (hrange : Nat.ofDigitChars 10 text.toList 0 < 18446744073709551616) :
    fromStringUInt64 text = .ok (UInt64.ofNat (Nat.ofDigitChars 10 text.toList 0)) := by
  have hread := read_digits separates_isSpace .missing hne hdigits
  rw [List.nil_append] at hread
  unfold fromStringUInt64
  rw [hread]
  dsimp only
  rw [if_pos hrange]
  -- Nothing wraps around.
  have hmod : ((Nat.ofDigitChars 10 text.toList 0 : Nat) : Int) % 18446744073709551616 =
      (Nat.ofDigitChars 10 text.toList 0 : Nat) :=
    Int.emod_eq_of_lt (Int.natCast_nonneg _) (by omega)
  show Except.ok (UInt64.ofNat (((Nat.ofDigitChars 10 text.toList 0 : Nat) : Int) %
    18446744073709551616).toNat) = _
  rw [hmod, Int.toNat_natCast]

/-- A number that was written is read. -/
theorem fromStringUInt64_toString (number : UInt64) :
    fromStringUInt64 (toString number) = .ok number := by
  have htext : (toString number).toList = Nat.toDigits 10 number.toNat := Nat.toList_repr
  have hvalue : Nat.ofDigitChars 10 (toString number).toList 0 = number.toNat := by
    rw [htext, Nat.ofDigitChars_ten_toDigits]
  rw [fromStringUInt64_of_digits, hvalue, UInt64.ofNat_toNat]
  · rw [htext]
    exact Nat.toDigits_ne_nil
  · intro digit hdigit
    rw [htext] at hdigit
    exact Nat.isDigit_of_mem_toDigits (by decide) (by decide) hdigit
  · rw [hvalue]
    exact number.toNat_lt

end StringConverters

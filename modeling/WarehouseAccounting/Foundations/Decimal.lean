import Mathlib.Algebra.Ring.Int.Defs
import Mathlib.Data.List.Basic

/-!
# Decimal numbers as text

The text of an integer in base ten, and the parser that reads all of a text as one.

- `Decimal.parse_toString`: every integer is read back from its own text.
-/

namespace Decimal

/-- Read a list of digits, of which there must be one. -/
def parseDigits (digits : List Char) : Option Nat :=
  if digits.isEmpty || !digits.all Char.isDigit then none
  else some (Nat.ofDigitChars 10 digits 0)

/-- Read a text as an integer: maybe a minus sign, and digits. -/
def parse (text : String) : Option Int :=
  match text.toList with
  | '-' :: digits => (parseDigits digits).map fun (magnitude : Nat) => -Int.ofNat magnitude
  | digits => (parseDigits digits).map Int.ofNat

/-- The digits of a number are read back. -/
theorem parseDigits_toDigits (n : Nat) : parseDigits (Nat.toDigits 10 n) = some n := by
  have hne : (Nat.toDigits 10 n).isEmpty = false := by
    simp [Nat.toDigits_ne_nil]
  have hall : (Nat.toDigits 10 n).all Char.isDigit = true := by
    rw [List.all_eq_true]
    intro c hc
    exact Nat.isDigit_of_mem_toDigits (by decide) (by decide) hc
  simp [parseDigits, hne, hall, Nat.ofDigitChars_ten_toDigits]

/-- Every integer is read back from its own text. -/
@[simp]
theorem parse_toString (n : Int) : parse (toString n) = some n := by
  rw [Int.toString_eq_repr, Int.repr_eq_if]
  split
  · rename_i hn
    unfold parse
    rw [Nat.toList_repr]
    -- The first digit is no sign.
    split
    · rename_i digits hdigits
      have hminus : ('-' : Char).isDigit = true :=
        Nat.isDigit_of_mem_toDigits (b := 10) (n := n.toNat) (by decide) (by decide)
          (by rw [hdigits]; exact List.mem_cons_self)
      exact absurd hminus (by decide)
    · rw [parseDigits_toDigits, Option.map_some]
      exact congrArg some (Int.toNat_of_nonneg hn)
  · rename_i hn
    unfold parse
    have htext : ("-" ++ (-n).toNat.repr).toList = '-' :: Nat.toDigits 10 (-n).toNat := by
      rw [String.toList_append, Nat.toList_repr]
      rfl
    rw [htext]
    change (parseDigits (Nat.toDigits 10 (-n).toNat)).map _ = _
    rw [parseDigits_toDigits, Option.map_some]
    have hmagnitude : Int.ofNat (-n).toNat = -n := Int.toNat_of_nonneg (by omega)
    rw [hmagnitude, Int.neg_neg]

end Decimal

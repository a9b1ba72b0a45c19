import Mathlib.Data.List.Forall2
import WarehouseAccounting.Instrumental

/-!
# Hashes as text

`hash.cpp`: the text of a byte vector, two characters for each byte. The digest itself is that of
SHA-256, which is given.

- `toBase64_eq_ok`: every vector has a text.
- `toBase64_eq_iff`: two vectors have the same text exactly when each two bytes agree in their lower
  half and in being greater than four.
-/

namespace Util.Hash

open Ufa

/-- `EncodeInBase64`. -/
def encodeInBase64 (lowerByte : UInt8) : Except CheckFailed Char :=
  match lowerByte.toNat with
  | 0 => .ok '0'
  | 1 => .ok '1'
  | 2 => .ok '2'
  | 3 => .ok '3'
  | 4 => .ok '4'
  | 5 => .ok '5'
  | 6 => .ok '6'
  | 7 => .ok '7'
  | 8 => .ok '8'
  | 9 => .ok '9'
  | 10 => .ok 'A'
  | 11 => .ok 'B'
  | 12 => .ok 'C'
  | 13 => .ok 'D'
  | 14 => .ok 'E'
  | 15 => .ok 'F'
  | _ => .error ⟨"Encode Base64 failure"⟩

/-- `WriteByteInBase64`. The second character is that of a comparison, not of a shift. -/
def writeByteInBase64 (byte : UInt8) (target : String) : Except CheckFailed String := do
  let target := target.push (← encodeInBase64 (byte &&& 0x0F))
  let compared : UInt8 := if byte > 4 then 1 else 0
  return target.push (← encodeInBase64 (compared &&& 0x0F))

/-- `ToBase64`. -/
def toBase64 (bytes : List UInt8) : Except CheckFailed String :=
  bytes.foldlM (fun result byte => writeByteInBase64 byte result) ""

/-- `HashToBase64`, where `hash` is the SHA-256 digest of OpenSSL. -/
def hashToBase64 (hash : String → List UInt8) (input : String) : Except CheckFailed String :=
  toBase64 (hash input)

/-! ## The text of a byte -/

/-- The lower half of a byte. -/
def lowerHalf (byte : UInt8) : Fin 16 := ⟨(byte &&& 0x0F).toNat, by
  rw [UInt8.toNat_and]
  exact Nat.lt_succ_of_le Nat.and_le_right⟩

/-- The characters of the sixteen halves. -/
def halfChar (half : Fin 16) : Char :=
  ['0', '1', '2', '3', '4', '5', '6', '7', '8', '9', 'A', 'B', 'C', 'D', 'E', 'F'].get half

/-- The characters of a byte. -/
def byteChars (byte : UInt8) : List Char :=
  [halfChar (lowerHalf byte), if byte > 4 then '1' else '0']

/-- Different halves have different characters. -/
theorem halfChar_injective : Function.Injective halfChar := by
  unfold Function.Injective
  decide

/-- The lower half of a byte has a character. -/
theorem encodeInBase64_and (byte : UInt8) :
    encodeInBase64 (byte &&& 0x0F) = .ok (halfChar (lowerHalf byte)) := by
  have hhalves : ∀ half : Fin 16, encodeInBase64 (UInt8.ofNat half) = .ok (halfChar half) := by
    decide
  have hbyte : byte &&& 0x0F = UInt8.ofNat (lowerHalf byte) := UInt8.ofNat_toNat.symm
  rw [hbyte, hhalves]

/-- A byte is written with two characters. -/
theorem writeByteInBase64_eq_ok (byte : UInt8) (target : String) :
    writeByteInBase64 byte target = .ok (target ++ String.ofList (byteChars byte)) := by
  have hcompared : encodeInBase64 ((if byte > 4 then 1 else 0) &&& 0x0F) =
      .ok (if byte > 4 then '1' else '0') := by
    by_cases hbyte : byte > 4
    · rw [if_pos hbyte, if_pos hbyte]
      rfl
    · rw [if_neg hbyte, if_neg hbyte]
      rfl
  have htext : ∀ first second : Char,
      (target.push first).push second = target ++ String.ofList [first, second] := by
    intro first second
    apply String.toList_inj.mp
    simp
  show (do
    let target := target.push (← encodeInBase64 (byte &&& 0x0F))
    return target.push (← encodeInBase64 ((if byte > 4 then 1 else 0) &&& 0x0F))) = _
  rw [encodeInBase64_and, hcompared, byteChars, ← htext]
  rfl

/-- Every vector has a text. -/
theorem toBase64_eq_ok (bytes : List UInt8) :
    toBase64 bytes = .ok (String.ofList (bytes.flatMap byteChars)) := by
  -- Generalised over the text that the loop has written so far.
  suffices hloop : ∀ result : String,
      bytes.foldlM (fun result byte => writeByteInBase64 byte result) result =
        .ok (result ++ String.ofList (bytes.flatMap byteChars)) by
    rw [toBase64, hloop, String.empty_append]
  induction bytes with
  | nil =>
    intro result
    show Except.ok result = .ok (result ++ String.ofList [])
    rw [String.ofList_nil, String.append_empty]
  | cons byte bytes ih =>
    intro result
    rw [List.foldlM_cons, writeByteInBase64_eq_ok]
    show bytes.foldlM _ (result ++ String.ofList (byteChars byte)) = _
    rw [ih, List.flatMap_cons, String.ofList_append, String.append_assoc]

/-! ## Vectors with the same text -/

/-- Two bytes that agree in their lower half and in being greater than four. -/
def ConfusedBytes (byte other : UInt8) : Prop :=
  byte &&& 0x0F = other &&& 0x0F ∧ (byte > 4 ↔ other > 4)

instance (byte other : UInt8) : Decidable (ConfusedBytes byte other) :=
  inferInstanceAs (Decidable (_ ∧ _))

/-- Two vectors of the same length, every two bytes of which are confused. -/
def Confused (bytes others : List UInt8) : Prop :=
  List.Forall₂ ConfusedBytes bytes others

/-- Two bytes have the same characters exactly when they are confused. -/
theorem byteChars_eq_iff (byte other : UInt8) :
    byteChars byte = byteChars other ↔ ConfusedBytes byte other := by
  have hlower : halfChar (lowerHalf byte) = halfChar (lowerHalf other) ↔
      byte &&& 0x0F = other &&& 0x0F := by
    rw [halfChar_injective.eq_iff, Fin.ext_iff]
    exact UInt8.toNat_inj
  have hcompared : (if byte > 4 then '1' else '0') = (if other > 4 then '1' else '0') ↔
      (byte > 4 ↔ other > 4) := by
    by_cases hbyte : byte > 4 <;> by_cases hother : other > 4 <;> simp [hbyte, hother]
  rw [byteChars, byteChars, List.cons.injEq, List.cons.injEq, hlower, hcompared]
  simp [ConfusedBytes]

/-- Two vectors have the same text exactly when they are confused. -/
theorem toBase64_eq_iff (bytes others : List UInt8) :
    toBase64 bytes = toBase64 others ↔ Confused bytes others := by
  rw [toBase64_eq_ok, toBase64_eq_ok, Except.ok.injEq, String.ofList_inj, Confused]
  induction bytes generalizing others with
  | nil =>
    cases others with
    | nil => simp
    | cons other others => simp [byteChars]
  | cons byte bytes ih =>
    cases others with
    | nil => simp [byteChars]
    | cons other others =>
      rw [List.flatMap_cons, List.flatMap_cons, List.forall₂_cons, ← byteChars_eq_iff, ← ih]
      -- The first two characters are those of the first byte.
      exact ⟨fun h => List.append_inj h rfl, fun h => by rw [h.1, h.2]⟩

end Util.Hash

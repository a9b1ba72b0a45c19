import Mathlib.Algebra.Group.Int.Defs
import Mathlib.Algebra.Group.Nat.Defs
import Mathlib.Data.List.Basic

/-!
# JSON values

A JSON document as a C++ program holds it after parsing: 64-bit numbers with or without a sign,
and objects whose members are kept in the order of their keys.

- `lookup_assign`: an object reads back what was assigned to a key.
- `getInt64_of_wholeNumber`: a number is read as the 64-bit integer that it is, when it is one.
- `toInt_readInteger_iff`: an integer is read back from its text when 64 bits hold it.
-/

/-- A JSON value. -/
inductive Json where
  | null
  | boolean (value : Bool)
  | integer (value : Int64)
  | unsigned (value : UInt64)
  /-- A double, by its bits. -/
  | float (bits : UInt64)
  | string (value : String)
  | array (elements : List Json)
  | object (members : List (String × Json))

namespace Json

/-- `std::map::emplace`: a member in the order of its key, unless the key is there already. -/
def emplace (key : String) (value : Json) : List (String × Json) → List (String × Json)
  | [] => [(key, value)]
  | (key', value') :: members =>
    if key = key' then
      (key', value') :: members
    else if key < key' then
      (key, value) :: (key', value') :: members
    else
      (key', value') :: emplace key value members

/-- `json[key] = value`: the member of the key gets the value, and is made when it is not there. -/
def assign (key : String) (value : Json) : List (String × Json) → List (String × Json)
  | [] => [(key, value)]
  | (key', value') :: members =>
    if key = key' then
      (key, value) :: members
    else if key < key' then
      (key, value) :: (key', value') :: members
    else
      (key', value') :: assign key value members

/-- The first member decides about its own key. -/
theorem lookup_cons_ite {κ β : Type} [BEq κ] [LawfulBEq κ] [DecidableEq κ] (key other : κ)
    (value : β) (members : List (κ × β)) :
    ((key, value) :: members).lookup other =
      if other = key then some value else members.lookup other := by
  by_cases hother : other = key
  · simp [hother]
  · rw [List.lookup_cons, beq_false_of_ne hother, if_neg hother]

/-- The key has the value that was assigned, and the other keys keep theirs. -/
theorem lookup_assign (key other : String) (value : Json) (members : List (String × Json)) :
    (assign key value members).lookup other =
      if other = key then some value else members.lookup other := by
  induction members with
  | nil => rw [assign, lookup_cons_ite]
  | cons first members ih =>
    obtain ⟨key', value'⟩ := first
    rw [assign]
    split
    · -- The member is replaced.
      rename_i hkey
      subst hkey
      rw [lookup_cons_ite, lookup_cons_ite]
      split <;> rfl
    · rename_i hkey
      split
      · rw [lookup_cons_ite]
      · rw [lookup_cons_ite, lookup_cons_ite, ih]
        -- The two keys differ, so the order of the tests does not matter.
        by_cases hother : other = key'
        · subst hother
          rw [if_pos rfl, if_pos rfl, if_neg fun heq => hkey heq.symm]
        · rw [if_neg hother, if_neg hother]

/-! ## Reading a document -/

/-- What a loop from `begin()` to `end()` meets: the elements of an array, the values of an object,
and of any other value but null the value itself. -/
def elements : Json → List Json
  | .null => []
  | .array elements => elements
  | .object members => members.map Prod.snd
  | json => [json]

/-- `find(key)`; `at(key)` throws where nothing is found. -/
def member (key : String) : Json → Option Json
  | .object members => members.lookup key
  | _ => none

/-- `get<std::string>()`, which throws for the other values. -/
def getString : Json → Option String
  | .string value => some value
  | _ => none

/-- The whole part of the size of a double, and whether it has no fraction. Infinities come out as
numbers that no integer type holds. -/
def wholePart (bits : UInt64) : Nat × Bool :=
  let exponent := bits.toNat / 2 ^ 52 % 2 ^ 11
  let fraction := bits.toNat % 2 ^ 52
  -- A subnormal number has no leading one, and the exponent of the smallest normal numbers.
  let significand := if exponent = 0 then fraction else 2 ^ 52 + fraction
  let exponent := max 1 exponent
  if 1075 ≤ exponent then
    (significand * 2 ^ (exponent - 1075), true)
  else
    (significand / 2 ^ (1075 - exponent), significand % 2 ^ (1075 - exponent) = 0)

/-- The whole part of a double. -/
def signedPart (bits : UInt64) : Int :=
  if 2 ^ 63 ≤ bits.toNat then -(wholePart bits).1 else (wholePart bits).1

/-- The integer is one of 64 bits. -/
def fitsInt64 (value : Int) : Bool :=
  Int64.minValue.toInt ≤ value && value ≤ Int64.maxValue.toInt

/-- `static_cast<int64_t>` of a double: its fraction is cut off, and what does not fit becomes the
least integer, as the x86 instruction has it. -/
def truncate (bits : UInt64) : Int64 :=
  if fitsInt64 (signedPart bits) then Int64.ofInt (signedPart bits) else Int64.minValue

/-- `get<int64_t>()`: a number is cast, and the other values throw. -/
def getInt64 : Json → Option Int64
  | .integer value => some value
  | .unsigned value => some value.toInt64
  | .float bits => some (truncate bits)
  | _ => none

/-- The 64-bit integer that a value is. -/
def wholeNumber : Json → Option Int64
  | .integer value => some value
  | .unsigned value => if fitsInt64 value.toNat then some value.toInt64 else none
  | .float bits =>
    if (wholePart bits).2 && fitsInt64 (signedPart bits) then some (Int64.ofInt (signedPart bits))
    else none
  | _ => none

/-- A 64-bit integer is read as what it is. -/
theorem getInt64_of_wholeNumber {json : Json} {value : Int64} (h : json.wholeNumber = some value) :
    json.getInt64 = some value := by
  cases json with
  | integer value => exact h
  | unsigned value =>
    rw [wholeNumber, ite_eq_iff] at h
    rcases h with ⟨-, h⟩ | ⟨-, h⟩
    · exact h
    · cases h
  | float bits =>
    rw [wholeNumber, ite_eq_iff, Bool.and_eq_true] at h
    rcases h with ⟨⟨-, hfits⟩, h⟩ | ⟨-, h⟩
    · rw [getInt64, truncate, if_pos hfits, h]
    · cases h
  | _ => cases h

/-! ## Numbers in a text -/

/-- What the parser makes of the text of an integer: digits are a number without a sign, and what
no integer type holds is read by `strtod`. -/
def ofInteger (strtod : Int → UInt64) (value : Int) : Json :=
  if 0 ≤ value then
    if value < 2 ^ 64 then .unsigned (UInt64.ofNat value.toNat) else .float (strtod value)
  else if fitsInt64 value then
    .integer (Int64.ofInt value)
  else
    .float (strtod value)

/-- What `get<int64_t>()` makes of it. -/
def readInteger (strtod : Int → UInt64) (value : Int) : Int64 :=
  if fitsInt64 value then
    Int64.ofInt value
  else if 0 ≤ value ∧ value < 2 ^ 64 then
    (UInt64.ofNat value.toNat).toInt64
  else
    truncate (strtod value)

/-- The bounds of `int64_t`. -/
theorem fitsInt64_iff {value : Int} :
    fitsInt64 value = true ↔ -2 ^ 63 ≤ value ∧ value < 2 ^ 63 := by
  have hmin : Int64.minValue.toInt = -2 ^ 63 := rfl
  have hmax : Int64.maxValue.toInt = 2 ^ 63 - 1 := rfl
  rw [fitsInt64, Bool.and_eq_true, decide_eq_true_iff, decide_eq_true_iff, hmin, hmax]
  omega

/-- An integer is never refused. -/
theorem getInt64_ofInteger (strtod : Int → UInt64) (value : Int) :
    (ofInteger strtod value).getInt64 = some (readInteger strtod value) := by
  unfold ofInteger readInteger
  by_cases hfits : fitsInt64 value = true
  · obtain ⟨-, hlt⟩ := fitsInt64_iff.mp hfits
    rw [if_pos hfits, if_pos hfits]
    split
    · rename_i hnonneg
      rw [if_pos (by omega), getInt64, UInt64.toInt64_ofNat', ← Int64.ofInt_eq_ofNat,
        Int.toNat_of_nonneg hnonneg]
    · rfl
  · rw [if_neg hfits, if_neg hfits]
    split
    · rename_i hnonneg
      by_cases hlt : value < 2 ^ 64
      · rw [if_pos hlt, if_pos ⟨hnonneg, hlt⟩]
        rfl
      · rw [if_neg hlt, if_neg fun h => hlt h.2]
        rfl
    · rename_i hneg
      rw [if_neg fun h => hneg h.1]
      rfl

/-- It is read as what it is exactly when 64 bits hold it. -/
theorem toInt_readInteger_iff (strtod : Int → UInt64) (value : Int) :
    (readInteger strtod value).toInt = value ↔ fitsInt64 value = true := by
  constructor
  · intro h
    rw [fitsInt64_iff, ← h]
    exact ⟨Int64.le_toInt _, Int64.toInt_lt _⟩
  · intro hfits
    obtain ⟨hle, hlt⟩ := fitsInt64_iff.mp hfits
    rw [readInteger, if_pos hfits, Int64.toInt_ofInt_of_le hle hlt]

end Json

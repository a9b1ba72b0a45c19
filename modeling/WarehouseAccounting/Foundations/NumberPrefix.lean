import Mathlib.Data.List.Basic

/-!
# Numbers at the start of a text

What the C conversions of a text to a number read: spaces, a sign and digits. What follows the
digits is not looked at.

- `NumberPrefix.read_eq_some`: the sign and the digits that a text begins with.
- `NumberPrefix.read_digits`: a text that is a number is read whole.
-/

namespace NumberPrefix

/-- The sign that a text begins with, and the text behind it. -/
def readSign : List Char → Bool × List Char
  | '-' :: text => (true, text)
  | '+' :: text => (false, text)
  | text => (false, text)

/-- Whether the number at the start of a text is negative, and its digits. -/
def read (isSpace : Char → Bool) (text : List Char) : Option (Bool × List Char) :=
  let signed := readSign (text.dropWhile isSpace)
  let digits := signed.2.takeWhile Char.isDigit
  if digits = [] then none else some (signed.1, digits)

/-- The value of a sign and digits. -/
def value (number : Bool × List Char) : Int :=
  if number.1 then -(Nat.ofDigitChars 10 number.2 0 : Int) else Nat.ofDigitChars 10 number.2 0

/-- The ways to write a sign. -/
inductive IsSign : Bool → List Char → Prop
  | missing : IsSign false []
  | plus : IsSign false ['+']
  | minus : IsSign true ['-']

/-- The text begins with this number. -/
structure BeginsWith (isSpace : Char → Bool) (text : List Char) (negative : Bool)
    (digits : List Char) : Prop where
  nonempty : digits ≠ []
  isDigit : ∀ digit ∈ digits, digit.isDigit = true
  parts : ∃ spaces sign rest, text = spaces ++ (sign ++ (digits ++ rest)) ∧
    (∀ space ∈ spaces, isSpace space = true) ∧ IsSign negative sign ∧
      ∀ char ∈ rest.head?, char.isDigit = false

/-! ## Parts of a text -/

/-- What is left of a text does not begin with what was dropped. -/
theorem head?_dropWhile {p : Char → Bool} {text : List Char} {char : Char}
    (h : char ∈ (text.dropWhile p).head?) : p char = false := by
  have hnot := List.head?_dropWhile_not p text
  rw [Option.mem_def.mp h] at hnot
  exact hnot

/-- Nothing is dropped of a text that begins with something else. -/
theorem dropWhile_eq_self {p : Char → Bool} {text : List Char}
    (h : ∀ char ∈ text.head?, p char = false) : text.dropWhile p = text := by
  cases text with
  | nil => rfl
  | cons char text =>
    have hchar : p char = false := h char rfl
    rw [List.dropWhile_cons_of_neg (by rw [hchar]; exact Bool.false_ne_true)]

/-- Digits are taken of a text that does not go on with one. -/
theorem takeWhile_digits {digits rest : List Char}
    (hdigits : ∀ digit ∈ digits, digit.isDigit = true)
    (hrest : ∀ char ∈ rest.head?, char.isDigit = false) :
    (digits ++ rest).takeWhile Char.isDigit = digits := by
  rw [List.takeWhile_append_of_pos hdigits]
  cases rest with
  | nil => rw [List.takeWhile_nil, List.append_nil]
  | cons char rest =>
    have hchar : char.isDigit = false := hrest char rfl
    rw [List.takeWhile_cons_of_neg (by rw [hchar]; exact Bool.false_ne_true), List.append_nil]

/-- A sign that is written is read. -/
theorem readSign_append {negative : Bool} {sign text : List Char} (hsign : IsSign negative sign)
    (htext : ∀ char ∈ text.head?, char.isDigit = true) :
    readSign (sign ++ text) = (negative, text) := by
  cases hsign with
  | plus => rfl
  | minus => rfl
  | missing =>
    -- A digit is no sign.
    cases text with
    | nil => rfl
    | cons char text =>
      have hchar : char.isDigit = true := htext char rfl
      have hminus : char ≠ '-' := fun h => absurd (h ▸ hchar) (by decide)
      have hplus : char ≠ '+' := fun h => absurd (h ▸ hchar) (by decide)
      simp [readSign, hminus, hplus]

/-- What is read of the sign is a way to write it. -/
theorem exists_sign (text : List Char) :
    ∃ sign, IsSign (readSign text).1 sign ∧ text = sign ++ (readSign text).2 := by
  unfold readSign
  split
  · exact ⟨['-'], .minus, rfl⟩
  · exact ⟨['+'], .plus, rfl⟩
  · exact ⟨[], .missing, rfl⟩

/-! ## Reading -/

/-- Spaces are neither digits nor signs. -/
def Separates (isSpace : Char → Bool) : Prop :=
  ∀ char, isSpace char = true → char.isDigit = false ∧ char ≠ '-' ∧ char ≠ '+'

/-- What is read is what the text begins with. -/
theorem read_eq_some {isSpace : Char → Bool} (hspace : Separates isSpace) {text : List Char}
    {negative : Bool} {digits : List Char} :
    read isSpace text = some (negative, digits) ↔ BeginsWith isSpace text negative digits := by
  constructor
  · intro h
    unfold read at h
    dsimp only at h
    split at h
    · cases h
    · rename_i hne
      obtain ⟨sign, hsign, htext⟩ := exists_sign (text.dropWhile isSpace)
      cases h
      refine ⟨hne, List.all_eq_true.mp List.all_takeWhile, text.takeWhile isSpace, sign,
        (readSign (text.dropWhile isSpace)).2.dropWhile Char.isDigit, ?_,
        List.all_eq_true.mp List.all_takeWhile, hsign, fun char hchar => head?_dropWhile hchar⟩
      rw [List.takeWhile_append_dropWhile, ← htext, List.takeWhile_append_dropWhile]
  · rintro ⟨hne, hdigits, spaces, sign, rest, rfl, hspaces, hsign, hrest⟩
    have hhead : ∀ char ∈ (digits ++ rest).head?, char.isDigit = true := by
      obtain ⟨digit, digits, rfl⟩ := List.exists_cons_of_ne_nil hne
      intro char hchar
      cases hchar
      exact hdigits digit List.mem_cons_self
    -- The sign, or the first digit, ends the spaces.
    have hstop : ∀ char ∈ (sign ++ (digits ++ rest)).head?, isSpace char = false := by
      intro char hchar
      by_contra hisSpace
      obtain ⟨hnotDigit, hminus, hplus⟩ := hspace char (by simpa using hisSpace)
      cases hsign with
      | plus => exact hplus (Option.some.inj hchar).symm
      | minus => exact hminus (Option.some.inj hchar).symm
      | missing =>
        rw [hhead char hchar] at hnotDigit
        cases hnotDigit
    unfold read
    dsimp only
    rw [List.dropWhile_append_of_pos hspaces, dropWhile_eq_self hstop,
      readSign_append hsign hhead, takeWhile_digits hdigits hrest, if_neg hne]

/-- Digits with a sign are read whole. -/
theorem read_digits {isSpace : Char → Bool} (hspace : Separates isSpace) {negative : Bool}
    {sign digits : List Char} (hsign : IsSign negative sign) (hne : digits ≠ [])
    (hdigits : ∀ digit ∈ digits, digit.isDigit = true) :
    read isSpace (sign ++ digits) = some (negative, digits) := by
  refine (read_eq_some hspace).mpr ⟨hne, hdigits, [], sign, [], ?_, ?_, hsign, ?_⟩
  · rw [List.append_nil, List.nil_append]
  · exact fun space hmem => absurd hmem List.not_mem_nil
  · exact fun char hchar => by cases hchar

end NumberPrefix

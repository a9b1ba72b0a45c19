import Mathlib.Data.List.Basic

/-!
# Texts with numbered places

A template is a text with values in it. Its values can be replaced by the placeholders `$1`, `$2`,
... in their order, and a text can be searched for placeholders.

- `Template.values_intercalate`: the values of parts that are put one after the other.
- `Template.Reads.append`: a text made of parts has the placeholders of its parts.
- `Template.scan_numbered`: in the text of a template every placeholder is found once, in
  increasing order.
-/

/-- A part of a template: a fixed text, or the place of a value. -/
inductive TemplatePart (α : Type) where
  | text (text : String)
  | value (value : α)
  deriving DecidableEq, Repr

/-- A text with values in it. -/
abbrev Template (α : Type) := List (TemplatePart α)

namespace Template

variable {α : Type}

/-- The values, from left to right. -/
def values : Template α → List α
  | [] => []
  | .text _ :: parts => values parts
  | .value value :: parts => value :: values parts

/-- The text with placeholders for the values, numbered from `number` on. -/
def numbered (number : Nat) : Template α → String
  | [] => ""
  | .text text :: parts => text ++ numbered number parts
  | .value _ :: parts => ("$" ++ toString number) ++ numbered (number + 1) parts

/-- The values of two templates, one after the other. -/
@[simp]
theorem values_append (template other : Template α) :
    values (template ++ other) = values template ++ values other := by
  induction template with
  | nil => rfl
  | cons part parts ih => cases part <;> simp [values, ih]

/-- The second template is numbered where the first one ends. -/
theorem numbered_append (number : Nat) (template other : Template α) :
    numbered number (template ++ other) =
      numbered number template ++ numbered (number + (values template).length) other := by
  induction template generalizing number with
  | nil => simp [numbered, values]
  | cons part parts ih =>
    cases part with
    | text text => rw [List.cons_append, numbered, ih, numbered, values, String.append_assoc]
    | value value =>
      have hcount : number + 1 + (values parts).length =
          number + (values (.value value :: parts)).length := by
        rw [values, List.length_cons]
        omega
      rw [List.cons_append, numbered, ih, numbered, hcount]
      simp only [String.append_assoc]

/-- A separator has no values. -/
theorem values_intercalate (separator : String) (templates : List (Template α)) :
    values ([.text separator].intercalate templates) = (templates.map values).flatten := by
  induction templates with
  | nil => rfl
  | cons template templates ih =>
    cases templates with
    | nil => simp
    | cons next templates =>
      rw [List.intercalate_cons_cons, values_append, values_append, ih]
      simp [values]

/-! ## Searching for placeholders -/

/-- The numbers after the dollar signs of a text. Inside of a placeholder the number so far is
known. -/
def scanFrom : Option Nat → List Char → List Nat
  | none, [] => []
  | some number, [] => [number]
  | none, char :: chars => if char = '$' then scanFrom (some 0) chars else scanFrom none chars
  | some number, char :: chars =>
    if char.isDigit then
      scanFrom (some (10 * number + (char.toNat - '0'.toNat))) chars
    else
      number :: if char = '$' then scanFrom (some 0) chars else scanFrom none chars

/-- The placeholders of a text, from left to right. -/
def scan (text : String) : List Nat :=
  scanFrom none text.toList

/-- The characters do not continue a number. -/
def EndsNumber (chars : List Char) : Prop :=
  ∀ char ∈ chars.head?, char.isDigit = false

/-- A number ends here. -/
theorem scanFrom_some_of_endsNumber {chars : List Char} (h : EndsNumber chars) (number : Nat) :
    scanFrom (some number) chars = number :: scanFrom none chars := by
  cases chars with
  | nil => rfl
  | cons char chars =>
    have hdigit : char.isDigit = false := h char rfl
    rw [scanFrom, scanFrom, hdigit]
    rfl

/-- Digits belong to the number. -/
theorem scanFrom_digits {digits : List Char} (h : ∀ digit ∈ digits, digit.isDigit = true)
    (number : Nat) (chars : List Char) :
    scanFrom (some number) (digits ++ chars) =
      scanFrom (some (Nat.ofDigitChars 10 digits number)) chars := by
  induction digits generalizing number with
  | nil => rfl
  | cons digit digits ih =>
    have hdigit : digit.isDigit = true := h digit List.mem_cons_self
    rw [List.cons_append, scanFrom, if_pos hdigit,
      ih fun other hother => h other (List.mem_cons_of_mem digit hother)]
    rfl

/-- Text without dollar signs has no placeholders. -/
theorem scanFrom_of_noDollar {text : List Char} (h : '$' ∉ text) (chars : List Char) :
    scanFrom none (text ++ chars) = scanFrom none chars := by
  induction text with
  | nil => rfl
  | cons char text ih =>
    have hchar : char ≠ '$' := fun heq => h (heq ▸ List.mem_cons_self)
    rw [List.cons_append, scanFrom, if_neg hchar, ih fun hmem => h (List.mem_cons_of_mem char hmem)]

/-- A placeholder is found. -/
theorem scanFrom_placeholder (number : Nat) {chars : List Char} (h : EndsNumber chars) :
    scanFrom none (("$" ++ toString number).toList ++ chars) = number :: scanFrom none chars := by
  have htext : ("$" ++ toString number).toList = '$' :: Nat.toDigits 10 number := by
    rw [String.toList_append, Nat.toString_eq_repr, Nat.toList_repr]
    rfl
  have hdigits : ∀ digit ∈ Nat.toDigits 10 number, digit.isDigit = true :=
    fun digit hdigit => Nat.isDigit_of_mem_toDigits (by decide) (by decide) hdigit
  rw [htext, List.cons_append, scanFrom, if_pos rfl, scanFrom_digits hdigits,
    Nat.ofDigitChars_ten_toDigits, scanFrom_some_of_endsNumber h]

/-- The text has no dollar sign, and a number before it is not continued. -/
structure Plain (text : String) : Prop where
  noDollar : '$' ∉ text.toList
  endsNumber : EndsNumber text.toList

/-- A text that passes these checks is plain. -/
theorem Plain.of_checks {text : String}
    (h : (text.toList.all (· ≠ '$') && text.toList.head?.all fun char => !char.isDigit) = true) :
    Plain text := by
  rw [Bool.and_eq_true, List.all_eq_true] at h
  refine ⟨fun hmem => ?_, fun char hchar => ?_⟩
  · exact of_decide_eq_true (h.1 '$' hmem) rfl
  · rw [Option.mem_def.mp hchar] at h
    simpa using h.2

/-- Two plain texts, one after the other. -/
theorem Plain.append {text other : String} (h : Plain text) (hother : Plain other) :
    Plain (text ++ other) := by
  refine ⟨?_, ?_⟩
  · rw [String.toList_append, List.mem_append]
    exact fun hmem => hmem.elim h.noDollar hother.noDollar
  · rw [String.toList_append]
    rcases htext : text.toList with _ | ⟨char, rest⟩
    · exact hother.endsNumber
    · have hends := h.endsNumber
      rw [htext] at hends
      exact hends

/-- After a plain text that is not empty a number may follow. -/
theorem Plain.append_of_noDollar {text other : String} (h : Plain text) (hne : text ≠ "")
    (hother : '$' ∉ other.toList) : Plain (text ++ other) := by
  refine ⟨?_, ?_⟩
  · rw [String.toList_append, List.mem_append]
    exact fun hmem => hmem.elim h.noDollar hother
  · rw [String.toList_append]
    rcases htext : text.toList with _ | ⟨char, rest⟩
    · exact absurd (String.toList_eq_nil_iff.mp htext) hne
    · have hends := h.endsNumber
      rw [htext] at hends
      exact hends

/-- The placeholders of the template are found in its text, whatever other text follows. -/
structure Reads (template : Template α) : Prop where
  endsNumber : ∀ number {chars : List Char}, EndsNumber chars →
    EndsNumber ((numbered number template).toList ++ chars)
  scanFrom : ∀ number {chars : List Char}, EndsNumber chars →
    scanFrom none ((numbered number template).toList ++ chars) =
      List.range' number (values template).length ++ scanFrom none chars

/-- Nothing has no placeholders. -/
theorem Reads.nil : Reads ([] : Template α) where
  endsNumber _ _ h := h
  scanFrom _ _ _ := rfl

/-- A plain text has no placeholders. -/
theorem Reads.text {text : String} (h : Plain text) : Reads ([.text text] : Template α) where
  endsNumber number chars hchars := by
    show EndsNumber ((text ++ "").toList ++ chars)
    rw [String.append_empty]
    rcases htext : text.toList with _ | ⟨char, rest⟩
    · exact hchars
    · -- The first character is that of the text.
      have hends := h.endsNumber
      rw [htext] at hends
      exact hends
  scanFrom number chars _ := by
    show Template.scanFrom none ((text ++ "").toList ++ chars) = _
    rw [String.append_empty, scanFrom_of_noDollar h.noDollar]
    rfl

/-- A value has its placeholder. -/
theorem Reads.value (value : α) : Reads ([.value value] : Template α) where
  endsNumber number chars _ := by
    show EndsNumber (("$" ++ toString number ++ "").toList ++ chars)
    intro char hchar
    rw [String.append_empty, String.toList_append] at hchar
    cases hchar
    decide
  scanFrom number chars hchars := by
    show Template.scanFrom none (("$" ++ toString number ++ "").toList ++ chars) = _
    rw [String.append_empty, scanFrom_placeholder number hchars]
    rfl

/-- A text made of two parts has the placeholders of its parts. -/
theorem Reads.append {template other : Template α} (h : Reads template) (hother : Reads other) :
    Reads (template ++ other) where
  endsNumber number chars hchars := by
    rw [numbered_append, String.toList_append, List.append_assoc]
    exact h.endsNumber number (hother.endsNumber _ hchars)
  scanFrom number chars hchars := by
    rw [numbered_append, String.toList_append, List.append_assoc,
      h.scanFrom number (hother.endsNumber _ hchars), hother.scanFrom _ hchars, values_append,
      List.length_append, ← List.append_assoc, List.range'_append_1]

/-- So has a text made of several parts with a separator between them. -/
theorem Reads.intercalate {separator : String} (hseparator : Plain separator)
    {templates : List (Template α)} (h : ∀ template ∈ templates, Reads template) :
    Reads ([.text separator].intercalate templates) := by
  induction templates with
  | nil => exact Reads.nil
  | cons template templates ih =>
    have htemplate : Reads template := h template List.mem_cons_self
    cases templates with
    | nil =>
      rw [List.intercalate_singleton]
      exact htemplate
    | cons next templates =>
      rw [List.intercalate_cons_cons]
      exact (htemplate.append (Reads.text hseparator)).append
        (ih fun other hother => h other (List.mem_cons_of_mem template hother))

/-- In the text of a template every placeholder is found once, in increasing order. -/
theorem scan_numbered {template : Template α} (h : Reads template) (number : Nat) :
    scan (numbered number template) = List.range' number (values template).length := by
  have hends : EndsNumber [] := fun char hchar => by cases hchar
  have hscan := h.scanFrom number hends
  rwa [List.append_nil, scanFrom, List.append_nil] at hscan

end Template

import Mathlib.Data.List.Basic

/-!
# Numbered tokens in a text

A token of a text is a marker with the digits that follow it. The text is cut at its markers: what
precedes the first one, and a segment after each. A segment that starts with digits holds a token.

- `NumberedTokens.renumber`: every token of a text with a number added to its own.
- `NumberedTokens.replaceInOrder`: a replacement that looks for the numbers in increasing order,
  from left to right.
- `NumberedTokens.replaceInOrder_iff`: the two agree exactly when the tokens are numbered in order.
-/

namespace NumberedTokens

/-- The digits that a segment starts with. -/
def digitsOf (segment : List Char) : List Char :=
  segment.takeWhile Char.isDigit

/-- The digits of the tokens that the segments hold. -/
def tokensOf (segments : List (List Char)) : List (List Char) :=
  (segments.map digitsOf).filter (· ≠ [])

/-- The digits of the tokens of a text, from left to right. -/
def tokens (marker : Char) (text : List Char) : List (List Char) :=
  tokensOf (text.splitOn marker).tail

/-- A segment with `offset` added to the number it starts with. -/
def renumberSegment (offset : Nat) (segment : List Char) : List Char :=
  if digitsOf segment = [] then segment
  else Nat.toDigits 10 (Nat.ofDigitChars 10 (digitsOf segment) 0 + offset) ++
    segment.dropWhile Char.isDigit

/-- A text with `offset` added to the number of each of its tokens. -/
def renumber (marker : Char) (offset : Nat) (text : List Char) : List Char :=
  [marker].intercalate
    ((text.splitOn marker).headD [] :: (text.splitOn marker).tail.map (renumberSegment offset))

/-- Look for the number `expected`, replace it, and go on with the next number behind it. The
result comes with the number of replacements. -/
def replaceInOrder (expected replacement : Nat) :
    List (List Char) → List (List Char) × Nat
  | [] => ([], 0)
  | segment :: segments =>
    if (Nat.toDigits 10 expected).isPrefixOf segment then
      let rest := replaceInOrder (expected + 1) (replacement + 1) segments
      ((Nat.toDigits 10 replacement ++ segment.drop (Nat.toDigits 10 expected).length) :: rest.1,
        rest.2 + 1)
    else
      let rest := replaceInOrder expected replacement segments
      (segment :: rest.1, rest.2)

/-! ## Digits -/

/-- The digits of a number are digits. -/
theorem isDigit_toDigits {number : Nat} {digit : Char} (h : digit ∈ Nat.toDigits 10 number) :
    digit.isDigit = true :=
  Nat.isDigit_of_mem_toDigits (by decide) (by decide) h

/-- The digits of a segment and what follows them. -/
theorem digitsOf_append (segment : List Char) :
    digitsOf segment ++ segment.dropWhile Char.isDigit = segment :=
  List.takeWhile_append_dropWhile

/-- A number that a segment starts with is among its digits. -/
theorem digitsOf_of_prefix {number : Nat} {segment : List Char}
    (h : Nat.toDigits 10 number <+: segment) :
    ∃ rest, digitsOf segment = Nat.toDigits 10 number ++ rest := by
  obtain ⟨rest, rfl⟩ := h
  exact ⟨rest.takeWhile Char.isDigit,
    List.takeWhile_append_of_pos fun digit hdigit => isDigit_toDigits hdigit⟩

/-- The first number of a longer number, both moved by the same offset, is only its first number
when there is no more to it. -/
theorem ofDigitChars_append_add {number offset : Nat} (hoffset : 1 ≤ offset) {rest : List Char}
    (h : Nat.ofDigitChars 10 (Nat.toDigits 10 (number + offset) ++ rest) 0 =
      Nat.ofDigitChars 10 (Nat.toDigits 10 number ++ rest) 0 + offset) : rest = [] := by
  rw [Nat.ofDigitChars_append, Nat.ofDigitChars_append, Nat.ofDigitChars_ten_toDigits,
    Nat.ofDigitChars_ten_toDigits, Nat.ofDigitChars_eq_ofDigitChars_zero,
    @Nat.ofDigitChars_eq_ofDigitChars_zero rest number, Nat.mul_add] at h
  by_contra hne
  -- Every further digit multiplies the offset by ten.
  have hlength : rest.length ≠ 0 := fun hzero => hne (List.length_eq_zero_iff.mp hzero)
  have hten : 10 ≤ 10 ^ rest.length :=
    calc 10 = 10 ^ 1 := rfl
      _ ≤ 10 ^ rest.length := Nat.pow_le_pow_right (by decide) (by omega)
  have hmul : 10 * offset ≤ 10 ^ rest.length * offset := Nat.mul_le_mul_right offset hten
  omega

/-! ## Cutting a text -/

/-- A text is cut at its first marker. -/
theorem exists_cut {marker : Char} {text : List Char} (h : marker ∈ text) :
    ∃ rest, text.dropWhile (· ≠ marker) = marker :: rest ∧
      text = text.takeWhile (· ≠ marker) ++ marker :: rest ∧
      marker ∉ text.takeWhile (· ≠ marker) := by
  have hpart : marker ∉ text.takeWhile (· ≠ marker) := by
    intro hmem
    have hne := List.all_eq_true.mp List.all_takeWhile _ hmem
    simp at hne
  cases hdrop : text.dropWhile (· ≠ marker) with
  | nil =>
    -- Then the marker would be in the part before it.
    rw [← @List.takeWhile_append_dropWhile _ (· ≠ marker) text, hdrop, List.append_nil] at h
    exact absurd h hpart
  | cons char rest =>
    have hhead := List.head?_dropWhile_not (· ≠ marker) text
    rw [hdrop] at hhead
    have hchar : char = marker := by simpa using hhead
    subst hchar
    refine ⟨rest, rfl, ?_, hpart⟩
    rw [← hdrop, List.takeWhile_append_dropWhile]

/-- The part before a marker. -/
theorem takeWhile_cut {marker : Char} {part : List Char} (h : marker ∉ part) (rest : List Char) :
    (part ++ marker :: rest).takeWhile (· ≠ marker) = part := by
  have hpart : ∀ char ∈ part, decide (char ≠ marker) = true :=
    fun char hchar => decide_eq_true fun heq => h (heq ▸ hchar)
  rw [List.takeWhile_append_of_pos hpart, List.takeWhile_cons_of_neg (by simp), List.append_nil]

/-- The marker and the part behind it. -/
theorem dropWhile_cut {marker : Char} {part : List Char} (h : marker ∉ part) (rest : List Char) :
    (part ++ marker :: rest).dropWhile (· ≠ marker) = marker :: rest := by
  have hpart : ∀ char ∈ part, decide (char ≠ marker) = true :=
    fun char hchar => decide_eq_true fun heq => h (heq ▸ hchar)
  rw [List.dropWhile_append_of_pos hpart, List.dropWhile_cons_of_neg (by simp)]

/-- The parts of a cut text do not have the marker. -/
theorem not_mem_of_mem_splitOn {marker : Char} {text part : List Char}
    (h : part ∈ text.splitOn marker) : marker ∉ part := by
  induction text generalizing part with
  | nil =>
    rw [List.splitOn_nil, List.mem_singleton] at h
    rw [h]
    exact List.not_mem_nil
  | cons char text ih =>
    rw [List.splitOn_cons_eq_if_modifyHead] at h
    split at h
    · rcases List.mem_cons.mp h with rfl | h
      · exact List.not_mem_nil
      · exact ih h
    · rename_i hchar
      obtain ⟨head, parts, hparts⟩ := List.exists_cons_of_ne_nil (List.splitOn_ne_nil marker text)
      rw [hparts] at h ih
      rcases List.mem_cons.mp h with rfl | h
      · -- The character joins the first part.
        have hne : marker ≠ char := fun heq => hchar (beq_iff_eq.mpr heq.symm)
        exact List.not_mem_cons_of_ne_of_not_mem hne (ih List.mem_cons_self)
      · exact ih (List.mem_cons_of_mem head h)

/-- A text is as long as it has parts behind its markers, at least. -/
theorem length_le_length_intercalate (marker : Char) (head : List Char)
    (segments : List (List Char)) :
    segments.length ≤ ([marker].intercalate (head :: segments)).length := by
  induction segments generalizing head with
  | nil => exact Nat.zero_le _
  | cons segment segments ih =>
    rw [List.intercalate_cons_cons, List.length_append, List.length_append, List.length_cons]
    have hrest := ih segment
    simp only [List.length_cons, List.length_nil] at hrest ⊢
    omega

/-- Texts whose parts do not have the marker are the same when their parts are. -/
theorem intercalate_inj {marker : Char} {head : List Char} {segments others : List (List Char)}
    (hhead : marker ∉ head) (hsegments : ∀ segment ∈ segments, marker ∉ segment)
    (hothers : ∀ segment ∈ others, marker ∉ segment) :
    [marker].intercalate (head :: segments) = [marker].intercalate (head :: others) ↔
      segments = others := by
  refine ⟨fun h => ?_, fun h => h ▸ rfl⟩
  have hcut := congrArg (List.splitOn marker) h
  rw [List.splitOn_intercalate marker (List.forall_mem_cons.mpr ⟨hhead, hsegments⟩) (by simp),
    List.splitOn_intercalate marker (List.forall_mem_cons.mpr ⟨hhead, hothers⟩) (by simp)] at hcut
  exact (List.cons.inj hcut).2

/-! ## One segment -/

/-- Numbers do not have the marker. -/
theorem not_mem_toDigits {marker : Char} (hmarker : marker.isDigit = false) (number : Nat) :
    marker ∉ Nat.toDigits 10 number := by
  intro hmem
  rw [isDigit_toDigits hmem] at hmarker
  cases hmarker

/-- To add to the number of a segment makes no marker. -/
theorem not_mem_renumberSegment {marker : Char} (hmarker : marker.isDigit = false)
    {segment : List Char} (h : marker ∉ segment) (offset : Nat) :
    marker ∉ renumberSegment offset segment := by
  unfold renumberSegment
  split
  · exact h
  · rw [List.mem_append]
    rintro (hmem | hmem)
    · exact not_mem_toDigits hmarker _ hmem
    · exact h ((List.dropWhile_suffix Char.isDigit).subset hmem)

/-- A segment without a token starts with no number. -/
theorem not_prefix_of_digitsOf_eq_nil {segment : List Char} (h : digitsOf segment = [])
    (number : Nat) : ¬ Nat.toDigits 10 number <+: segment := by
  intro hprefix
  obtain ⟨rest, hrest⟩ := digitsOf_of_prefix hprefix
  rw [h] at hrest
  exact Nat.toDigits_ne_nil (List.append_eq_nil_iff.mp hrest.symm).1

/-- A segment with a token is not left as it is. -/
theorem renumberSegment_ne {offset : Nat} (hoffset : 1 ≤ offset) {segment : List Char}
    (h : digitsOf segment ≠ []) : segment ≠ renumberSegment offset segment := by
  intro heq
  rw [renumberSegment, if_neg h] at heq
  have hdigits : digitsOf segment =
      Nat.toDigits 10 (Nat.ofDigitChars 10 (digitsOf segment) 0 + offset) :=
    List.append_cancel_right ((digitsOf_append segment).trans heq)
  have hvalue := congrArg (Nat.ofDigitChars 10 · 0) hdigits
  simp only [Nat.ofDigitChars_ten_toDigits] at hvalue
  omega

/-- A number at the start of a segment is rightly replaced when it is all of the token. -/
theorem replaced_eq_renumberSegment_iff {number offset : Nat} (hoffset : 1 ≤ offset)
    {segment : List Char} (h : Nat.toDigits 10 number <+: segment) :
    Nat.toDigits 10 (number + offset) ++ segment.drop (Nat.toDigits 10 number).length =
        renumberSegment offset segment ↔
      digitsOf segment = Nat.toDigits 10 number := by
  obtain ⟨rest, hrest⟩ := digitsOf_of_prefix h
  have hne : digitsOf segment ≠ [] := by
    rw [hrest]
    exact fun hnil => Nat.toDigits_ne_nil (List.append_eq_nil_iff.mp hnil).1
  have hdrop : segment.drop (Nat.toDigits 10 number).length =
      rest ++ segment.dropWhile Char.isDigit := by
    conv_lhs => rw [← digitsOf_append segment, hrest, List.append_assoc]
    rw [List.drop_left]
  rw [renumberSegment, if_neg hne, hdrop, ← List.append_assoc]
  constructor
  · intro heq
    have hvalue := congrArg (Nat.ofDigitChars 10 · 0) (List.append_cancel_right heq)
    simp only [Nat.ofDigitChars_ten_toDigits] at hvalue
    rw [hrest] at hvalue
    rw [hrest, ofDigitChars_append_add hoffset hvalue, List.append_nil]
  · intro heq
    have hnil : rest = [] := List.append_right_eq_self.mp (hrest.symm.trans heq)
    rw [heq, hnil, List.append_nil, Nat.ofDigitChars_ten_toDigits]

/-! ## All segments -/

/-- The replacement in order makes no marker. -/
theorem not_mem_replaceInOrder {marker : Char} (hmarker : marker.isDigit = false)
    {segments : List (List Char)} (h : ∀ segment ∈ segments, marker ∉ segment)
    (expected replacement : Nat) :
    ∀ segment ∈ (replaceInOrder expected replacement segments).1, marker ∉ segment := by
  induction segments generalizing expected replacement with
  | nil => exact fun segment hmem => absurd hmem List.not_mem_nil
  | cons segment segments ih =>
    obtain ⟨hsegment, hrest⟩ := List.forall_mem_cons.mp h
    rw [replaceInOrder]
    split
    · refine List.forall_mem_cons.mpr ⟨?_, ih hrest _ _⟩
      rw [List.mem_append]
      rintro (hmem | hmem)
      · exact not_mem_toDigits hmarker _ hmem
      · exact hsegment (List.mem_of_mem_drop hmem)
    · exact List.forall_mem_cons.mpr ⟨hsegment, ih hrest _ _⟩

/-- The replacement in order adds the offset to every token exactly when the tokens have the
expected numbers, one after the other. -/
theorem replaceInOrder_iff {offset : Nat} (hoffset : 1 ≤ offset) (segments : List (List Char))
    (expected count : Nat) :
    replaceInOrder expected (expected + offset) segments =
        (segments.map (renumberSegment offset), count) ↔
      tokensOf segments = (List.range' expected count).map (Nat.toDigits 10) := by
  induction segments generalizing expected count with
  | nil =>
    cases count with
    | zero => exact iff_of_true rfl rfl
    | succ count => exact iff_of_false (fun h => by cases h) fun h => by cases h
  | cons segment segments ih =>
    have hnext : expected + offset + 1 = expected + 1 + offset := by omega
    rw [replaceInOrder, List.map_cons, tokensOf, List.map_cons]
    by_cases hdigits : digitsOf segment = []
    · -- No token: the search goes past this segment.
      have hnot := not_prefix_of_digitsOf_eq_nil hdigits expected
      rw [if_neg (by rwa [List.isPrefixOf_iff_prefix]),
        List.filter_cons_of_neg (by simpa using hdigits),
        renumberSegment, if_pos hdigits]
      have hrest := ih expected count
      rw [tokensOf, Prod.ext_iff] at hrest
      rw [Prod.ext_iff]
      simpa using hrest
    · rw [List.filter_cons_of_pos (by simpa using hdigits)]
      by_cases hprefix : Nat.toDigits 10 expected <+: segment
      · -- The expected number is found, as a token or as the start of one.
        rw [if_pos (by rwa [List.isPrefixOf_iff_prefix]), hnext]
        cases count with
        | zero => simp
        | succ count =>
          have hrest := ih (expected + 1) count
          rw [Prod.ext_iff] at hrest ⊢
          rw [List.range'_succ, List.map_cons, List.cons.injEq, List.cons.injEq,
            replaced_eq_renumberSegment_iff hoffset hprefix, Nat.add_right_cancel_iff, and_assoc]
          exact and_congr_right fun _ => hrest
      · -- A token with another number stays as it is.
        rw [if_neg (by rwa [List.isPrefixOf_iff_prefix])]
        refine iff_of_false (fun heq => ?_) fun heq => ?_
        · exact renumberSegment_ne hoffset hdigits (List.cons.inj (Prod.ext_iff.mp heq).1).1
        · cases count with
          | zero => cases heq
          | succ count =>
            rw [List.range'_succ, List.map_cons] at heq
            apply hprefix
            rw [← (List.cons.inj heq).1]
            exact List.takeWhile_prefix Char.isDigit

end NumberedTokens

import Mathlib.Data.List.Basic

/-!
# Stateful text serializers

A serializer writes a text while it threads a state (a counter of placeholders, say) and may
fail. Serializers are built from literals, checks and values drawn from the state, one after
the other.

- `Serializer.Succeeds`: whether a serializer fails does not depend on the state.
- `Serializer.Aligned P a b`: two serializers that fail together, leave the same state, and
  whose texts agree exactly when `P` holds, also when more text follows. It is closed under
  concatenation, so two structures of one shape are compared part by part.
-/

/-- A text written from a state that is passed on, or a failure. -/
def Serializer (ε σ : Type) := σ → Except ε (String × σ)

namespace Serializer

variable {ε σ : Type}

/-- Write a fixed text. -/
def literal (text : String) : Serializer ε σ :=
  fun s => .ok (text, s)

/-- Write nothing, and fail unless the condition holds. -/
def check (condition : Bool) (failure : ε) : Serializer ε σ :=
  fun s => if condition then .ok ("", s) else .error failure

/-- Write one text after the other, the second from the state that the first leaves. -/
def append (a b : Serializer ε σ) : Serializer ε σ :=
  fun s =>
    match a s with
    | .error e => .error e
    | .ok (text, s) =>
      match b s with
      | .error e => .error e
      | .ok (rest, s) => .ok (text ++ rest, s)

instance : Append (Serializer ε σ) := ⟨append⟩

/-- Write the texts of a list of serializers with a separator between them. -/
def separated (separator : String) : List (Serializer ε σ) → Serializer ε σ
  | [] => literal ""
  | [a] => a
  | a :: rest => a ++ (literal separator ++ separated separator rest)

/-- A failure of the first part is the failure of the whole. -/
theorem append_of_error {a : Serializer ε σ} {s : σ} {e : ε} (ha : a s = .error e)
    (b : Serializer ε σ) : (a ++ b) s = .error e := by
  change append a b s = _
  simp [append, ha]

/-- A failure of the second part is the failure of the whole. -/
theorem append_of_ok_error {a b : Serializer ε σ} {s s' : σ} {text : String} {e : ε}
    (ha : a s = .ok (text, s')) (hb : b s' = .error e) : (a ++ b) s = .error e := by
  change append a b s = _
  simp [append, ha, hb]

/-- The texts of the two parts are written one after the other. -/
theorem append_of_ok {a b : Serializer ε σ} {s s' s'' : σ} {text rest : String}
    (ha : a s = .ok (text, s')) (hb : b s' = .ok (rest, s'')) :
    (a ++ b) s = .ok (text ++ rest, s'') := by
  change append a b s = _
  simp [append, ha, hb]

/-- What a concatenation has written was written by its two parts. -/
theorem append_eq_ok {a b : Serializer ε σ} {s s'' : σ} {text : String} :
    (a ++ b) s = .ok (text, s'') ↔
      ∃ first s' second, a s = .ok (first, s') ∧ b s' = .ok (second, s'') ∧
        text = first ++ second := by
  constructor
  · intro h
    rcases ha : a s with e | ⟨first, s'⟩
    · rw [append_of_error ha] at h
      cases h
    · rcases hb : b s' with e | ⟨second, last⟩
      · rw [append_of_ok_error ha hb] at h
        cases h
      · rw [append_of_ok ha hb] at h
        cases h
        exact ⟨first, s', second, rfl, hb, rfl⟩
  · rintro ⟨first, s', second, ha, hb, rfl⟩
    exact append_of_ok ha hb

/-! ## When a serializer fails -/

/-- The serializer fails from no state when `ok` is `true`, and from every state otherwise. -/
def Succeeds (ok : Bool) (a : Serializer ε σ) : Prop :=
  ∀ s, (a s).isOk = ok

/-- A literal never fails. -/
theorem succeeds_literal (text : String) :
    Succeeds true (literal text : Serializer ε σ) := by
  intro s
  rfl

/-- A check fails exactly when its condition does not hold. -/
theorem succeeds_check (condition : Bool) (failure : ε) :
    Succeeds condition (check condition failure : Serializer ε σ) := by
  intro s
  cases condition <;> rfl

/-- A concatenation succeeds when both its parts do. -/
theorem Succeeds.append {p q : Bool} {a b : Serializer ε σ}
    (ha : Succeeds p a) (hb : Succeeds q b) : Succeeds (p && q) (a ++ b) := by
  intro s
  rcases hrun : a s with e | ⟨text, s'⟩
  · have hp : p = false := by rw [← ha s, hrun]; rfl
    rw [append_of_error hrun, hp]
    rfl
  · have hp : p = true := by rw [← ha s, hrun]; rfl
    rcases hrest : b s' with e | ⟨rest, s''⟩
    · have hq : q = false := by rw [← hb s', hrest]; rfl
      rw [append_of_ok_error hrun hrest, hp, hq]
      rfl
    · have hq : q = true := by rw [← hb s', hrest]; rfl
      rw [append_of_ok hrun hrest, hp, hq]
      rfl

/-- Whether a serializer succeeds only depends on the value of the condition. -/
theorem Succeeds.congr {p q : Bool} {a : Serializer ε σ} (h : Succeeds p a) (hpq : p = q) :
    Succeeds q a := by
  rwa [hpq] at h

/-- A separated list succeeds when all its parts do. -/
theorem succeeds_separated (separator : String) (parts : List (Serializer ε σ))
    (hparts : ∀ part ∈ parts, Succeeds true part) : Succeeds true (separated separator parts) := by
  induction parts with
  | nil => exact succeeds_literal ""
  | cons part parts ih =>
    have hpart : Succeeds true part := hparts part (by simp)
    have hrest := ih fun other hother => hparts other (by simp [hother])
    cases parts with
    | nil => exact hpart
    | cons next parts => exact hpart.append ((succeeds_literal separator).append hrest)

/-! ## Two serializers of one shape -/

/-- What two runs from one state have in common: the same failure, or the same state left, and
texts that agree exactly when `P` holds, whatever text follows each of them. -/
def AlignedResults (P : Prop) (r r' : Except ε (String × σ)) : Prop :=
  match r, r' with
  | .error e, .error e' => e = e'
  | .ok (text, s), .ok (text', s') =>
      s = s' ∧ (P → text = text') ∧
        ∀ rest rest', text.toList ++ rest = text'.toList ++ rest' → P ∧ rest = rest'
  | _, _ => False

/-- The two serializers have aligned results from every state. -/
def Aligned (P : Prop) (a b : Serializer ε σ) : Prop :=
  ∀ s, AlignedResults P (a s) (b s)

/-- A serializer is aligned with itself. -/
theorem Aligned.refl (a : Serializer ε σ) : Aligned True a a := by
  intro s
  rcases a s with e | ⟨text, s'⟩
  · exact rfl
  · refine ⟨rfl, fun _ => rfl, ?_⟩
    intro rest rest' heq
    exact ⟨trivial, List.append_cancel_left heq⟩

/-- Two literals of which neither continues as the other are never confused. -/
theorem aligned_literal_of_ne {text text' : String}
    (hne : ∀ rest rest', text.toList ++ rest ≠ text'.toList ++ rest') :
    Aligned False (literal text : Serializer ε σ) (literal text') := by
  intro s
  exact ⟨rfl, False.elim, fun rest rest' heq => (hne rest rest' heq).elim⟩

/-- The alignment of two concatenations is the alignment of their parts. -/
theorem Aligned.append {P Q : Prop} {a a' b b' : Serializer ε σ}
    (ha : Aligned P a a') (hb : Aligned Q b b') : Aligned (P ∧ Q) (a ++ b) (a' ++ b') := by
  intro s
  have hs := ha s
  rcases hrun : a s with e | ⟨text, s₁⟩ <;> rcases hrun' : a' s with e' | ⟨text', s₁'⟩ <;>
    rw [hrun, hrun'] at hs
  · rw [append_of_error hrun, append_of_error hrun']
    exact hs
  · exact hs.elim
  · exact hs.elim
  · obtain ⟨rfl, htext, hrest⟩ := hs
    have hs₁ := hb s₁
    rcases hnext : b s₁ with e | ⟨next, s₂⟩ <;> rcases hnext' : b' s₁ with e' | ⟨next', s₂'⟩ <;>
      rw [hnext, hnext'] at hs₁
    · rw [append_of_ok_error hrun hnext, append_of_ok_error hrun' hnext']
      exact hs₁
    · exact hs₁.elim
    · exact hs₁.elim
    · obtain ⟨rfl, htext₂, hrest₂⟩ := hs₁
      rw [append_of_ok hrun hnext, append_of_ok hrun' hnext']
      refine ⟨rfl, ?_, ?_⟩
      · rintro ⟨hP, hQ⟩
        rw [htext hP, htext₂ hQ]
      · -- The rest after the first text starts with the second, so both are cut off in turn.
        intro rest rest' heq
        rw [String.toList_append, String.toList_append, List.append_assoc,
          List.append_assoc] at heq
        obtain ⟨hP, heq⟩ := hrest _ _ heq
        obtain ⟨hQ, heq⟩ := hrest₂ _ _ heq
        exact ⟨⟨hP, hQ⟩, heq⟩

/-- Alignment only depends on the proposition up to equivalence. -/
theorem Aligned.congr {P Q : Prop} {a b : Serializer ε σ} (h : Aligned P a b) (hPQ : P ↔ Q) :
    Aligned Q a b := by
  rwa [propext hPQ] at h

/-- Aligned serializers give the same result exactly when they agree, or both fail. -/
theorem Aligned.apply_eq_iff {P : Prop} {ok : Bool} {a b : Serializer ε σ} (h : Aligned P a b)
    (hok : Succeeds ok b) (s : σ) : a s = b s ↔ (ok = true → P) := by
  have hs := h s
  have hb := hok s
  rcases hrun : a s with e | ⟨text, s₁⟩ <;> rcases hrun' : b s with e' | ⟨text', s₁'⟩ <;>
    rw [hrun, hrun'] at hs
  · rw [hrun'] at hb
    have heq : e = e' := hs
    subst heq
    simp [← hb, Except.isOk, Except.toBool]
  · exact hs.elim
  · exact hs.elim
  · obtain ⟨rfl, htext, hrest⟩ := hs
    rw [hrun'] at hb
    have hok : ok = true := hb.symm
    constructor
    · intro heq _
      have htexts : text = text' := by
        simpa using heq
      exact (hrest [] [] (by rw [htexts])).1
    · intro hP
      rw [htext (hP hok)]

end Serializer

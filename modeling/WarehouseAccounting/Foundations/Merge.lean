import Mathlib.Order.WithBot
import Mathlib.Data.List.Flatten
import Mathlib.Data.List.Perm.Basic

/-!
# Merging sorted lists

An iterator over several sorted lists that always takes the smallest head: the ranges still
ahead are compared with `less`, the one that `std::min_element` picks gives up its head.

- `Merge.minElement_le`: the picked element is a least one.
- `Merge.visit_perm`, `Merge.visit_sorted`: the iterator visits every element of the lists once,
  in increasing order of a key that tells the elements apart.
- `Merge.loop_eq_visit`, `Merge.doWhile_eq_visit`: so does a loop that compares the iterator with an
  end iterator, which shows the end of one of the ranges.
-/

namespace Merge

variable {α β γ : Type}

/-- The loop of `std::min_element`: the index of the best element so far, which lies at
`bestIndex`, against the elements from `index` on. -/
def minElementFrom (less : β → β → Bool) (best : β) (bestIndex index : Nat) : List β → Nat
  | [] => bestIndex
  | x :: xs =>
      if less x best then minElementFrom less x index (index + 1) xs
      else minElementFrom less best bestIndex (index + 1) xs

/-- `std::min_element`, as an index. -/
def minElement (less : β → β → Bool) : List β → Option Nat
  | [] => none
  | x :: xs => some (minElementFrom less x 0 1 xs)

/-- Take the head of the range that `less` puts first. -/
def step (less : List α → List α → Bool) (ranges : List (List α)) :
    Option (α × List (List α)) :=
  match minElement less ranges with
  | none => none
  | some i =>
    match ranges[i]? with
    | some (x :: rest) => some (x, ranges.set i rest)
    | _ => none

/-- The elements that at most `fuel` steps visit. -/
def visit (less : List α → List α → Bool) : Nat → List (List α) → List α
  | 0, _ => []
  | fuel + 1, ranges =>
    match step less ranges with
    | none => []
    | some (x, ranges) => x :: visit less fuel ranges

/-! ## The smallest element -/

section MinElement

variable [LinearOrder γ] {key : β → γ} {less : β → β → Bool}

/-- The loop ends at an element of the whole list that is below the best one and the rest. -/
theorem minElementFrom_le (hless : ∀ a b, less a b = true → key a ≤ key b)
    (hnot : ∀ a b, less a b = false → key b ≤ key a) (whole : List β) (best : β)
    (bestIndex index : Nat) (xs : List β) (hbest : whole[bestIndex]? = some best)
    (hxs : whole.drop index = xs) :
    ∃ x, whole[minElementFrom less best bestIndex index xs]? = some x ∧ key x ≤ key best ∧
      ∀ y ∈ xs, key x ≤ key y := by
  induction xs generalizing best bestIndex index with
  | nil => exact ⟨best, hbest, le_rfl, by simp⟩
  | cons y ys ih =>
    have hy : whole[index]? = some y := by
      rw [← List.head?_drop, hxs, List.head?_cons]
    have hys : whole.drop (index + 1) = ys := by
      rw [← List.tail_drop, hxs, List.tail_cons]
    rw [minElementFrom]
    rcases hcmp : less y best with _ | _
    · obtain ⟨x, hx, hle, hall⟩ := ih best bestIndex (index + 1) hbest hys
      refine ⟨x, by simpa using hx, hle, ?_⟩
      rintro z (_ | ⟨_, hz⟩)
      · exact hle.trans (hnot _ _ hcmp)
      · exact hall z hz
    · obtain ⟨x, hx, hle, hall⟩ := ih y index (index + 1) hy hys
      refine ⟨x, by simpa using hx, hle.trans (hless _ _ hcmp), ?_⟩
      rintro z (_ | ⟨_, hz⟩)
      · exact hle
      · exact hall z hz

/-- `std::min_element` picks a least element. -/
theorem minElement_le (hless : ∀ a b, less a b = true → key a ≤ key b)
    (hnot : ∀ a b, less a b = false → key b ≤ key a) {xs : List β} {i : Nat}
    (h : minElement less xs = some i) :
    ∃ x, xs[i]? = some x ∧ ∀ y ∈ xs, key x ≤ key y := by
  cases xs with
  | nil => cases h
  | cons z zs =>
    obtain rfl : minElementFrom less z 0 1 zs = i := by simpa [minElement] using h
    obtain ⟨x, hx, hle, hall⟩ :=
      minElementFrom_le hless hnot (z :: zs) z 0 1 zs rfl (by simp)
    refine ⟨x, hx, ?_⟩
    rintro y (_ | ⟨_, hy⟩)
    · exact hle
    · exact hall y hy

end MinElement

/-! ## The merged order -/

section Visit

variable [LinearOrder γ] (key : α → γ)

/-- The key of the head of a range; an empty range comes after all others. -/
def headKey : List α → WithTop γ
  | [] => ⊤
  | x :: _ => (key x : WithTop γ)

/-- `less` compares ranges by their heads; two empty ranges may come in any order. -/
structure ComparesHeads (less : List α → List α → Bool) : Prop where
  le_of_true : ∀ a b, less a b = true → headKey key a ≤ headKey key b
  le_of_false : ∀ a b, less a b = false → headKey key b ≤ headKey key a

/-- The range is in strictly increasing order. -/
abbrev Increasing (range : List α) : Prop :=
  range.Pairwise (fun a b => key a < key b)

variable {key} {less : List α → List α → Bool}

/-- The key of the head is a lower bound of an increasing range. -/
theorem headKey_le_of_mem {range : List α} (hrange : Increasing key range) {x : α}
    (hx : x ∈ range) : headKey key range ≤ (key x : WithTop γ) := by
  cases range with
  | nil => cases hx
  | cons y ys =>
    rcases List.mem_cons.mp hx with rfl | hx
    · exact le_rfl
    · exact WithTop.coe_le_coe.mpr (List.rel_of_pairwise_cons hrange hx).le

/-- No step is left only when all ranges are used up. -/
theorem flatten_eq_nil_of_step_none (hless : ComparesHeads key less) {ranges : List (List α)}
    (h : step less ranges = none) : ranges.flatten = [] := by
  rw [step] at h
  rcases hmin : minElement less ranges with _ | i
  · cases ranges with
    | nil => rfl
    | cons range ranges => simp [minElement] at hmin
  · obtain ⟨range, hrange, hle⟩ := minElement_le hless.le_of_true hless.le_of_false hmin
    rw [hmin] at h
    simp only [hrange] at h
    cases range with
    | cons x rest => cases h
    | nil =>
      rw [List.flatten_eq_nil_iff]
      intro other hother
      have htop : ⊤ ≤ headKey key other := hle other hother
      cases other with
      | nil => rfl
      | cons y ys => simp [headKey] at htop

/-- A step takes an element that is below all others and leaves the others. -/
theorem step_spec (hless : ComparesHeads key less) {ranges ranges' : List (List α)} {x : α}
    (hsorted : ∀ range ∈ ranges, Increasing key range) (h : step less ranges = some (x, ranges')) :
    ranges.flatten.Perm (x :: ranges'.flatten) ∧ (∀ y ∈ ranges.flatten, key x ≤ key y) ∧
      ∀ range ∈ ranges', Increasing key range := by
  rw [step] at h
  rcases hmin : minElement less ranges with _ | i
  · simp [hmin] at h
  obtain ⟨range, hrange, hle⟩ := minElement_le hless.le_of_true hless.le_of_false hmin
  rw [hmin] at h
  simp only [hrange] at h
  cases range with
  | nil => cases h
  | cons z rest =>
    obtain ⟨rfl, rfl⟩ : z = x ∧ ranges.set i rest = ranges' := by simpa using h
    obtain ⟨hi, hget⟩ := List.getElem?_eq_some_iff.mp hrange
    have hsplit : ranges = ranges.take i ++ (z :: rest) :: ranges.drop (i + 1) := by
      rw [← hget, ← List.drop_eq_getElem_cons hi, List.take_append_drop]
    have hset : ranges.set i rest = ranges.take i ++ rest :: ranges.drop (i + 1) :=
      List.set_eq_take_append_cons_drop.trans (if_pos hi)
    refine ⟨?_, ?_, ?_⟩
    · rw [hset]
      nth_rewrite 1 [hsplit]
      simp only [List.flatten_append, List.flatten_cons, List.cons_append]
      exact List.perm_middle
    · intro y hy
      obtain ⟨other, hother, hy⟩ := List.mem_flatten.mp hy
      exact WithTop.coe_le_coe.mp
        ((hle other hother).trans (headKey_le_of_mem (hsorted other hother) hy))
    · intro range' hrange'
      rcases List.mem_or_eq_of_mem_set hrange' with hmem | rfl
      · exact hsorted range' hmem
      · exact (hsorted (z :: range') (List.mem_of_getElem? hrange)).of_cons

/-- With enough steps every element is visited once. -/
theorem visit_perm (hless : ComparesHeads key less) {ranges : List (List α)} {fuel : Nat}
    (hsorted : ∀ range ∈ ranges, Increasing key range) (hfuel : ranges.flatten.length ≤ fuel) :
    (visit less fuel ranges).Perm ranges.flatten := by
  induction fuel generalizing ranges with
  | zero => simp [visit, List.eq_nil_of_length_eq_zero (Nat.le_zero.mp hfuel)]
  | succ fuel ih =>
    rw [visit]
    rcases hstep : step less ranges with _ | ⟨x, ranges'⟩
    · rw [flatten_eq_nil_of_step_none hless hstep]
    · obtain ⟨hperm, -, hsorted'⟩ := step_spec hless hsorted hstep
      have hlength : ranges'.flatten.length ≤ fuel := by
        have := hperm.length_eq
        rw [List.length_cons] at this
        omega
      exact ((ih hsorted' hlength).cons x).trans hperm.symm

/-- The elements are visited in increasing order, when their keys are different. -/
theorem visit_sorted (hless : ComparesHeads key less) {ranges : List (List α)} {fuel : Nat}
    (hsorted : ∀ range ∈ ranges, Increasing key range) (hfuel : ranges.flatten.length ≤ fuel)
    (hkeys : (ranges.flatten.map key).Nodup) : Increasing key (visit less fuel ranges) := by
  induction fuel generalizing ranges with
  | zero => exact List.Pairwise.nil
  | succ fuel ih =>
    rw [visit]
    rcases hstep : step less ranges with _ | ⟨x, ranges'⟩
    · exact List.Pairwise.nil
    · obtain ⟨hperm, hle, hsorted'⟩ := step_spec hless hsorted hstep
      have hlength : ranges'.flatten.length ≤ fuel := by
        have := hperm.length_eq
        rw [List.length_cons] at this
        omega
      have hkeys' : ((x :: ranges'.flatten).map key).Nodup := (hperm.map key).nodup_iff.mp hkeys
      rw [List.map_cons, List.nodup_cons] at hkeys'
      refine List.Pairwise.cons ?_ (ih hsorted' hlength hkeys'.2)
      intro y hy
      have hy' : y ∈ ranges'.flatten := (visit_perm hless hsorted' hlength).mem_iff.mp hy
      have hne : key x ≠ key y := fun heq => hkeys'.1 (heq ▸ List.mem_map_of_mem hy')
      exact lt_of_le_of_ne (hle y (hperm.mem_iff.mpr (List.mem_cons_of_mem x hy'))) hne

end Visit

/-! ## Loops up to the end -/

/-- An iterator into one of the ranges, with the elements from it to the end of its range. -/
structure Cursor (α : Type) where
  /-- The index of the range. -/
  range : Nat
  ahead : List α

/-- Iterators into one range are equal when the same number of elements is ahead of them; iterators
into different ranges never are. -/
def Cursor.equals (cursor other : Cursor α) : Bool :=
  cursor.range = other.range && cursor.ahead.length = other.ahead.length

/-- The iterator that is shown, and the next one of every range. -/
structure Walk (α : Type) where
  current : Cursor α
  next : List (List α)

/-- Show the iterator that `less` puts first, and move on the one of its range. -/
def advance (less : List α → List α → Bool) (next : List (List α)) : Walk α :=
  let index := (minElement less next).getD 0
  let ahead := next.getD index []
  { current := ⟨index, ahead⟩, next := next.set index ahead.tail }

/-- The end: with all iterators at the ends of their ranges, the one that `less` puts first. -/
def atEnd (less : List α → List α → Bool) (ranges : List (List α)) : Cursor α :=
  (advance less (ranges.map fun _ => [])).current

/-- The elements that a loop reads until it comes to `last`. Nothing when the steps do not suffice
or the end of a range is read. -/
def loop (less : List α → List α → Bool) (last : Cursor α) : Nat → Walk α → Option (List α)
  | 0, _ => none
  | steps + 1, walk =>
    if walk.current.equals last then
      some []
    else
      match walk.current.ahead with
      | [] => none
      | x :: _ => (loop less last steps (advance less walk.next)).map (x :: ·)

/-- The elements that a loop reads which looks for `last`, and for an element that it does not keep,
after each element. -/
def doWhile (less : List α → List α → Bool) (last : Cursor α) (keep : α → Bool) :
    Nat → Walk α → Option (List α)
  | 0, _ => none
  | steps + 1, walk =>
    match walk.current.ahead with
    | [] => none
    | x :: _ =>
      let walk := advance less walk.next
      if walk.current.equals last then
        some [x]
      else
        match walk.current.ahead with
        | [] => none
        | y :: _ => if keep y then (doWhile less last keep steps walk).map (x :: ·) else some [x]

/-- An iterator equals itself. -/
theorem Cursor.equals_self (cursor : Cursor α) : cursor.equals cursor = true := by
  simp [equals]

/-- The end has nothing ahead. -/
theorem ahead_atEnd (less : List α → List α → Bool) (ranges : List (List α)) :
    (atEnd less ranges).ahead = [] := by
  unfold atEnd advance
  dsimp only
  rw [List.map_const', List.getD_eq_getElem?_getD, List.getElem?_replicate]
  split <;> rfl

/-- An iterator with an element ahead is not the end. -/
theorem equals_atEnd_of_cons (less : List α → List α → Bool) (ranges : List (List α))
    {cursor : Cursor α} {x : α} {rest : List α} (h : cursor.ahead = x :: rest) :
    cursor.equals (atEnd less ranges) = false := by
  simp [Cursor.equals, ahead_atEnd, h]

/-- The end only depends on the number of ranges. -/
theorem atEnd_congr (less : List α → List α → Bool) {ranges ranges' : List (List α)}
    (h : ranges.length = ranges'.length) : atEnd less ranges = atEnd less ranges' := by
  unfold atEnd
  rw [List.map_const', List.map_const', h]

section Loop

variable [LinearOrder γ] {key : α → γ} {less : List α → List α → Bool}

/-- A step shows the element that it takes. -/
theorem advance_of_step {ranges ranges' : List (List α)} {x : α}
    (h : step less ranges = some (x, ranges')) :
    ∃ rest, (advance less ranges).current.ahead = x :: rest ∧
      (advance less ranges).next = ranges' ∧ ranges.length = ranges'.length := by
  rw [step] at h
  rcases hmin : minElement less ranges with _ | index
  · simp [hmin] at h
  · rw [hmin] at h
    dsimp only at h
    rcases hrange : ranges[index]? with _ | range
    · simp [hrange] at h
    · rw [hrange] at h
      cases range with
      | nil => cases h
      | cons y rest =>
        obtain ⟨rfl, rfl⟩ : y = x ∧ ranges.set index rest = ranges' := by simpa using h
        refine ⟨rest, ?_, ?_, (List.length_set ..).symm⟩ <;>
          simp [advance, hmin, List.getD_eq_getElem?_getD, hrange]

/-- Without a step left the end is shown. -/
theorem advance_of_step_none (hless : ComparesHeads key less) {ranges : List (List α)}
    (h : step less ranges = none) : (advance less ranges).current = atEnd less ranges := by
  have hnil : ranges.map (fun _ => []) = ranges := by
    refine (List.map_congr_left fun range hrange => ?_).trans (List.map_id ranges)
    exact (List.flatten_eq_nil_iff.mp (flatten_eq_nil_of_step_none hless h) range hrange).symm
  rw [atEnd, hnil]

/-- The steps that are left after one. -/
theorem length_of_step (hless : ComparesHeads key less) {ranges ranges' : List (List α)} {x : α}
    (hsorted : ∀ range ∈ ranges, Increasing key range)
    (h : step less ranges = some (x, ranges')) :
    ranges.flatten.length = ranges'.flatten.length + 1 ∧
      ∀ range ∈ ranges', Increasing key range := by
  obtain ⟨hperm, -, hsorted'⟩ := step_spec hless hsorted h
  exact ⟨hperm.length_eq, hsorted'⟩

/-- A loop from the beginning to the end reads what the steps visit. -/
theorem loop_eq_visit (hless : ComparesHeads key less) {ranges : List (List α)}
    (hsorted : ∀ range ∈ ranges, Increasing key range) {steps : Nat}
    (hsteps : ranges.flatten.length < steps) :
    loop less (atEnd less ranges) steps (advance less ranges) =
      some (visit less ranges.flatten.length ranges) := by
  induction steps generalizing ranges with
  | zero => omega
  | succ steps ih =>
    rw [loop]
    rcases hstep : step less ranges with _ | ⟨x, ranges'⟩
    · -- All ranges are used up, so the iterator shows the end.
      have hnil : ranges.flatten = [] := flatten_eq_nil_of_step_none hless hstep
      rw [advance_of_step_none hless hstep, if_pos (Cursor.equals_self _), hnil]
      rfl
    · obtain ⟨hlength, hsorted'⟩ := length_of_step hless hsorted hstep
      obtain ⟨rest, hahead, hnext, hranges⟩ := advance_of_step hstep
      have hend : (advance less ranges).current.equals (atEnd less ranges) = false :=
        equals_atEnd_of_cons less ranges hahead
      rw [hend, hahead, hnext, atEnd_congr less hranges, ih hsorted' (by omega), hlength, visit,
        hstep]
      rfl

/-- A loop that stops at the first element that it does not keep reads the first element, and of the
others those before it. -/
theorem doWhile_eq_visit (hless : ComparesHeads key less) {keep : α → Bool}
    {ranges ranges' : List (List α)} {x : α}
    (hsorted : ∀ range ∈ ranges, Increasing key range)
    (hstep : step less ranges = some (x, ranges')) {steps : Nat}
    (hsteps : ranges.flatten.length < steps) :
    doWhile less (atEnd less ranges) keep steps (advance less ranges) =
      some (x :: (visit less ranges'.flatten.length ranges').takeWhile keep) := by
  induction steps generalizing ranges ranges' x with
  | zero => omega
  | succ steps ih =>
    obtain ⟨hlength, hsorted'⟩ := length_of_step hless hsorted hstep
    obtain ⟨rest, hahead, hnext, hranges⟩ := advance_of_step hstep
    rw [doWhile, hahead, hnext, atEnd_congr less hranges]
    dsimp only
    rcases hstep' : step less ranges' with _ | ⟨y, ranges''⟩
    · have hnil : ranges'.flatten = [] := flatten_eq_nil_of_step_none hless hstep'
      rw [advance_of_step_none hless hstep', if_pos (Cursor.equals_self _), hnil]
      rfl
    · obtain ⟨hlength', -⟩ := length_of_step hless hsorted' hstep'
      obtain ⟨rest', hahead', -, -⟩ := advance_of_step hstep'
      have hend : (advance less ranges').current.equals (atEnd less ranges') = false :=
        equals_atEnd_of_cons less ranges' hahead'
      rw [hend, hahead', hlength', visit, hstep', ih hsorted' hstep' (by omega)]
      dsimp only
      rw [List.takeWhile_cons]
      cases keep y <;> rfl

end Loop

end Merge

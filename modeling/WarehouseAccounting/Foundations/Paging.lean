import Mathlib.Data.List.Perm.Basic
import Mathlib.Data.List.Flatten
import Mathlib.Tactic.Push

/-!
# Pages of a sorted list

Rows are sorted by a key, and those with equal keys come in any order, which may be another one each
time. What is read from some positions on is then known only as far as no rows with equal keys can
change places there.

- `take_perm_of_not_splits`: the first rows are the same rows each time when no group of equal keys
  is split.
- `pages_perm_iff`: so all rows are read page by page unless the end of a page splits a group.
- `window_eq_iff`: a page has the same rows in the same order each time unless two rows with equal
  keys have a place in it.
-/

namespace Paging

variable {α : Type} {le : α → α → Bool}

/-! ## Arrangements -/

/-- The keys are ordered. -/
structure IsOrder (le : α → α → Bool) : Prop where
  trans : ∀ a b c, le a b = true → le b c = true → le a c = true
  total : ∀ a b, le a b = true ∨ le b a = true

/-- The rows in an order in which they can be read. -/
structure Arranges (le : α → α → Bool) (rows order : List α) : Prop where
  perm : order.Perm rows
  sorted : order.Pairwise fun a b => le a b = true

/-- Two rows have equal keys. -/
def Tied (le : α → α → Bool) (a b : α) : Prop :=
  le a b = true ∧ le b a = true

/-- The number of rows with smaller keys. -/
def before (le : α → α → Bool) (rows : List α) (a : α) : Nat :=
  rows.countP fun b => !le a b

/-- The number of rows with an equal key. -/
def ties (le : α → α → Bool) (rows : List α) (a : α) : Nat :=
  rows.countP fun b => le a b && le b a

/-- The rows of some positions. -/
def window (offset limit : Nat) (order : List α) : List α :=
  (order.drop offset).take limit

/-- The numbers of rows with smaller and with equal keys, in an arrangement. -/
theorem before_and_ties {rows order : List α} (h : Arranges le rows order) (a : α) :
    before le rows a = (order.filter fun b => !le a b).length ∧
      ties le rows a = (order.filter fun b => le a b && le b a).length := by
  rw [before, ties, ← h.perm.countP_eq, ← h.perm.countP_eq, List.countP_eq_length_filter,
    List.countP_eq_length_filter]
  exact ⟨rfl, rfl⟩

/-! ## Pages -/

/-- The rows of some pages, each read in its own order. -/
def pages (orders : Nat → List α) (size count : Nat) : List α :=
  (List.range count).flatMap fun index => window (index * size) size (orders index)

/-- The rows of one more page. -/
theorem pages_succ (orders : Nat → List α) (size count : Nat) :
    pages orders size (count + 1) =
      pages orders size count ++ window (count * size) size (orders count) := by
  rw [pages, List.range_succ, List.flatMap_append, List.flatMap_cons, List.flatMap_nil,
    List.append_nil]
  rfl

/-- Only the orders of the pages matter. -/
theorem pages_congr {orders orders' : Nat → List α} {count : Nat} (size : Nat)
    (h : ∀ index < count, orders index = orders' index) :
    pages orders size count = pages orders' size count := by
  unfold pages
  rw [List.flatMap_congr fun index hindex => ?_]
  rw [h index (List.mem_range.mp hindex)]

/-- Pages have no more rows than they can. -/
theorem length_pages_le (orders : Nat → List α) (size count : Nat) :
    (pages orders size count).length ≤ count * size := by
  induction count with
  | zero => exact Nat.zero_le _
  | succ count ih =>
    have hlast : (window (count * size) size (orders count)).length ≤ size :=
      List.length_take_le _ _
    rw [pages_succ, List.length_append, Nat.succ_mul]
    omega

/-- Pages that are all read in one order are the first rows. -/
theorem pages_const (order : List α) (size count : Nat) :
    pages (fun _ => order) size count = order.take (count * size) := by
  induction count with
  | zero =>
    rw [Nat.zero_mul, List.take_zero]
    rfl
  | succ count ih =>
    rw [pages_succ, ih, window, Nat.succ_mul, List.take_add]

/-- Pages that are read in a second order from one of them on. -/
theorem pages_change (order order' : List α) (size index more : Nat) :
    pages (fun page => if page < index then order else order') size (index + more) =
      order.take (index * size) ++ window (index * size) (more * size) order' := by
  induction more with
  | zero =>
    have hsame : ∀ page < index, (if page < index then order else order') = order :=
      fun page hpage => if_pos hpage
    rw [Nat.add_zero, pages_congr size hsame, pages_const, Nat.zero_mul, window, List.take_zero,
      List.append_nil]
  | succ more ih =>
    rw [← Nat.add_assoc, pages_succ, ih, if_neg (by omega), List.append_assoc]
    congr 1
    rw [window, window, window, Nat.succ_mul, List.take_add, List.drop_drop, ← Nat.add_mul]

section Groups

variable (hle : IsOrder le)

include hle

/-- What does not come after comes before. -/
theorem IsOrder.le_of_not {a b : α} (h : ¬ le a b = true) : le b a = true :=
  (hle.total a b).resolve_left h

/-- A sorted list consists of the rows with smaller, equal and greater keys. -/
theorem eq_append_of_sorted {order : List α} (h : order.Pairwise fun a b => le a b = true)
    (a : α) :
    order = order.filter (fun b => !le a b) ++
      (order.filter (fun b => le a b && le b a) ++ order.filter fun b => !le b a) := by
  induction order with
  | nil => rfl
  | cons first order ih =>
    obtain ⟨hfirst, hrest⟩ := List.pairwise_cons.mp h
    have ih := ih hrest
    have hnone : ∀ p : α → Bool, (∀ b ∈ order, p b = false) → order.filter p = [] :=
      fun p hp => List.filter_eq_nil_iff.mpr fun b hb => by rw [hp b hb]; exact Bool.false_ne_true
    by_cases hbefore : le a first = true
    · -- No later row has a smaller key.
      have hlater : order.filter (fun b => !le a b) = [] := hnone _ fun b hb => by
        rw [hle.trans a first b hbefore (hfirst b hb)]
        rfl
      rw [hlater, List.nil_append] at ih
      by_cases hafter : le first a = true
      · simp only [List.filter_cons, hbefore, hafter, hlater, Bool.not_true, Bool.false_eq_true,
          if_false, Bool.and_self, if_true, List.nil_append, List.cons_append, ← ih]
      · have hequal : order.filter (fun b => le a b && le b a) = [] := hnone _ fun b hb => by
          rw [Bool.and_eq_false_iff]
          right
          rw [← Bool.not_eq_true]
          exact fun hba => hafter (hle.trans first b a (hfirst b hb) hba)
        rw [hequal, List.nil_append] at ih
        simp only [List.filter_cons, hbefore, hafter, hlater, hequal, Bool.not_true,
          Bool.false_eq_true, if_false, Bool.and_false, Bool.not_false, if_true, List.nil_append,
          ← ih]
    · have hafter : le first a = true := hle.le_of_not hbefore
      simp only [List.filter_cons, hbefore, hafter, Bool.not_false, if_true, Bool.false_and,
        Bool.false_eq_true, if_false, Bool.not_true, List.cons_append, ← ih]

/-- A group of equal keys can come in any order. -/
theorem arranges_of_perm_group {rows order group : List α} (h : Arranges le rows order) {a : α}
    (hgroup : group.Perm (order.filter fun b => le a b && le b a)) :
    Arranges le rows (order.filter (fun b => !le a b) ++
      (group ++ order.filter fun b => !le b a)) where
  perm := by
    refine ((hgroup.append_right _).append_left _).trans ?_
    rw [← eq_append_of_sorted hle h.sorted a]
    exact h.perm
  sorted := by
    have hmem : ∀ b ∈ group, le a b = true ∧ le b a = true := fun b hb => by
      simpa using (List.mem_filter.mp (hgroup.mem_iff.mp hb)).2
    have hsmaller : ∀ b ∈ order.filter (fun b => !le a b), le b a = true := fun b hb =>
      hle.le_of_not (by simpa using (List.mem_filter.mp hb).2)
    have hgreater : ∀ b ∈ order.filter (fun b => !le b a), le a b = true := fun b hb =>
      hle.le_of_not (by simpa using (List.mem_filter.mp hb).2)
    refine List.pairwise_append.mpr ⟨h.sorted.filter _, List.pairwise_append.mpr
      ⟨?_, h.sorted.filter _, ?_⟩, ?_⟩
    · refine List.Pairwise.imp_of_mem ?_ (List.pairwise_of_forall fun b c => trivial)
      intro b c hb hc _
      exact hle.trans b a c (hmem b hb).2 (hmem c hc).1
    · intro b hb c hc
      exact hle.trans b a c (hmem b hb).2 (hgreater c hc)
    · intro b hb c hc
      rcases List.mem_append.mp hc with hc | hc
      · exact hle.trans b a c (hsmaller b hb) (hmem c hc).1
      · exact hle.trans b a c (hsmaller b hb) (hgreater c hc)

/-- The rows with an equal key have places for themselves. -/
theorem lt_length_of_place {rows order : List α} (h : Arranges le rows order) {a : α} {i : Nat}
    (hi : i < before le rows a + ties le rows a) : i < order.length := by
  obtain ⟨hbefore, hties⟩ := before_and_ties h a
  have hlength := congrArg List.length (eq_append_of_sorted hle h.sorted a)
  rw [List.length_append, List.length_append] at hlength
  omega

/-- A row has an equal key exactly when its place is among those of the key. -/
theorem tied_iff_of_getElem? {rows order : List α} (h : Arranges le rows order) (a : α) {b : α}
    {i : Nat} (hb : order[i]? = some b) :
    Tied le a b ↔ before le rows a ≤ i ∧ i < before le rows a + ties le rows a := by
  obtain ⟨hbefore, hties⟩ := before_and_ties h a
  rw [eq_append_of_sorted hle h.sorted a] at hb
  rw [hbefore, hties]
  rcases Nat.lt_or_ge i (order.filter fun b => !le a b).length with hsmaller | hsmaller
  · rw [List.getElem?_append_left hsmaller] at hb
    have hnot := (List.mem_filter.mp (List.mem_of_getElem? hb)).2
    refine iff_of_false (fun htied => ?_) fun hplace => Nat.not_le.mpr hsmaller hplace.1
    rw [htied.1] at hnot
    cases hnot
  · rw [List.getElem?_append_right hsmaller] at hb
    rcases Nat.lt_or_ge (i - (order.filter fun b => !le a b).length)
      (order.filter fun b => le a b && le b a).length with hequal | hequal
    · rw [List.getElem?_append_left hequal] at hb
      have hboth := (List.mem_filter.mp (List.mem_of_getElem? hb)).2
      refine iff_of_true (Bool.and_eq_true_iff.mp hboth) ⟨hsmaller, ?_⟩
      omega
    · rw [List.getElem?_append_right hequal] at hb
      have hnot := (List.mem_filter.mp (List.mem_of_getElem? hb)).2
      refine iff_of_false (fun htied => ?_) fun hplace => by omega
      rw [htied.2] at hnot
      cases hnot

/-! ## Rows that change places -/

/-- Two different rows with equal keys can be neighbours at each place of the key, in both
orders. -/
theorem exists_swap {rows order : List α} (h : Arranges le rows order) {a b : α} (ha : a ∈ rows)
    (hb : b ∈ rows) (hne : a ≠ b) (htied : Tied le a b) {i : Nat} (hfirst : before le rows a ≤ i)
    (hlast : i + 1 < before le rows a + ties le rows a) :
    ∃ front back, front.length = i ∧ Arranges le rows (front ++ a :: b :: back) ∧
      Arranges le rows (front ++ b :: a :: back) := by
  obtain ⟨hbefore, hties⟩ := before_and_ties h a
  have haa : le a a = true := (hle.total a a).elim id id
  have hgroup : ∀ c ∈ rows, Tied le a c →
      c ∈ order.filter fun b => le a b && le b a := fun c hc htied =>
    List.mem_filter.mpr ⟨h.perm.mem_iff.mpr hc, Bool.and_eq_true_iff.mpr htied⟩
  -- The group of the key consists of the two rows and the others.
  obtain ⟨left, right, hsplit⟩ := List.append_of_mem (hgroup a ha ⟨haa, haa⟩)
  have hb : b ∈ left ++ right := by
    have hmem := hgroup b hb htied
    rw [hsplit, List.mem_append, List.mem_cons] at hmem
    rcases hmem with hmem | hmem | hmem
    · exact List.mem_append_left _ hmem
    · exact absurd hmem.symm hne
    · exact List.mem_append_right _ hmem
  obtain ⟨left', right', hsplit'⟩ := List.append_of_mem hb
  have hothers : (a :: b :: (left' ++ right')).Perm
      (order.filter fun b => le a b && le b a) := by
    rw [hsplit]
    refine List.Perm.trans ?_ List.perm_middle.symm
    rw [hsplit']
    exact List.perm_middle.symm.cons a
  have hlength := hothers.length_eq
  rw [List.length_cons, List.length_cons] at hlength
  -- Those before the place come first.
  let skipped := (left' ++ right').take (i - before le rows a)
  let remaining := (left' ++ right').drop (i - before le rows a)
  have hparts : (skipped ++ a :: b :: remaining).Perm (a :: b :: (left' ++ right')) := by
    refine List.perm_middle.trans (List.Perm.cons a (List.perm_middle.trans ?_))
    rw [List.take_append_drop]
  have hswapped : (skipped ++ b :: a :: remaining).Perm (skipped ++ a :: b :: remaining) :=
    (List.Perm.swap a b remaining).append_left skipped
  refine ⟨order.filter (fun b => !le a b) ++ skipped,
    remaining ++ order.filter fun b => !le b a, ?_, ?_, ?_⟩
  · rw [List.length_append, List.length_take]
    omega
  · have harranges := arranges_of_perm_group hle h (hparts.trans hothers)
    simpa only [List.append_assoc, List.cons_append] using harranges
  · have harranges := arranges_of_perm_group hle h (hswapped.trans (hparts.trans hothers))
    simpa only [List.append_assoc, List.cons_append] using harranges

/-! ## The first rows -/

/-- Two different rows with equal keys can be on both sides of a place. -/
def Splits (le : α → α → Bool) (rows : List α) (place : Nat) : Prop :=
  ∃ a ∈ rows, ∃ b ∈ rows, a ≠ b ∧ Tied le a b ∧ before le rows a < place ∧
    place < before le rows a + ties le rows a

omit hle in
/-- No row is before the first place. -/
theorem not_splits_zero (rows : List α) : ¬ Splits le rows 0 := by
  rintro ⟨a, -, b, -, -, -, hfirst, -⟩
  exact Nat.not_lt_zero _ hfirst

/-- The first rows are the same rows in each order when no key is split. -/
theorem take_perm_of_not_splits {rows order order' : List α} (h : Arranges le rows order)
    (h' : Arranges le rows order') {place : Nat} (hsplits : ¬ Splits le rows place) :
    (order.take place).Perm (order'.take place) := by
  have hlengths : order.length = order'.length := h.perm.length_eq.trans h'.perm.length_eq.symm
  rcases Nat.lt_or_ge place order.length with hplace | hplace
  · -- The row at the place, whose key the rows are divided by.
    obtain ⟨a, ha⟩ : ∃ a, order[place]? = some a := ⟨_, List.getElem?_eq_getElem hplace⟩
    have hmem : a ∈ rows := h.perm.mem_iff.mp (List.mem_of_getElem? ha)
    have haa : le a a = true := (hle.total a a).elim id id
    obtain ⟨hfirst, hlast⟩ := (tied_iff_of_getElem? hle h a ha).mp ⟨haa, haa⟩
    obtain ⟨hbefore, hties⟩ := before_and_ties h a
    obtain ⟨hbefore', hties'⟩ := before_and_ties h' a
    have htake : ∀ {order : List α}, Arranges le rows order →
        order.take place = order.filter (fun b => !le a b) ++
          (order.filter fun b => le a b && le b a).take (place - before le rows a) := by
      intro order harranges
      obtain ⟨hbefore, hties⟩ := before_and_ties harranges a
      have hnone : place - (order.filter fun b => !le a b).length -
          (order.filter fun b => le a b && le b a).length = 0 := by omega
      conv_lhs => rw [eq_append_of_sorted hle harranges.sorted a]
      rw [List.take_append, List.take_of_length_le (by omega), List.take_append, hnone,
        List.take_zero, List.append_nil, hbefore]
    rw [htake h, htake h']
    have hsmaller : (order.filter fun b => !le a b).Perm (order'.filter fun b => !le a b) :=
      (h.perm.trans h'.perm.symm).filter _
    rcases Nat.eq_or_lt_of_le hfirst with heq | hlt
    · rw [heq, Nat.sub_self, List.take_zero, List.take_zero, List.append_nil, List.append_nil]
      exact hsmaller
    · -- All rows with the key are the same row.
      have hsame : ∀ {order : List α}, Arranges le rows order →
          order.filter (fun b => le a b && le b a) = List.replicate (ties le rows a) a := by
        intro order harranges
        refine List.eq_replicate_iff.mpr ⟨(before_and_ties harranges a).2.symm, fun b hb => ?_⟩
        obtain ⟨hb, htied⟩ := List.mem_filter.mp hb
        by_contra hne
        exact hsplits ⟨a, hmem, b, harranges.perm.mem_iff.mp hb, Ne.symm hne,
          Bool.and_eq_true_iff.mp htied, hlt, hlast⟩
      rw [hsame h, hsame h']
      exact hsmaller.append_right _
  · rw [List.take_of_length_le hplace, List.take_of_length_le (hlengths ▸ hplace)]
    exact h.perm.trans h'.perm.symm

/-! ## All pages -/

/-- Pages are the first rows, when none of them ends inside a key. -/
theorem pages_perm_take {rows : List α} {orders : Nat → List α}
    (h : ∀ index, Arranges le rows (orders index)) {size count : Nat}
    (hsplits : ∀ index, 0 < index → index < count → ¬ Splits le rows (index * size))
    {order : List α} (horder : Arranges le rows order) (hend : ¬ Splits le rows (count * size)) :
    (pages orders size count).Perm (order.take (count * size)) := by
  induction count generalizing order with
  | zero => rw [Nat.zero_mul, List.take_zero]; exact List.Perm.refl _
  | succ count ih =>
    have hpage : (pages orders size count).Perm ((orders count).take (count * size)) := by
      rcases Nat.eq_zero_or_pos count with rfl | hpos
      · rw [Nat.zero_mul, List.take_zero]; exact List.Perm.refl _
      · exact ih (fun index hindex hlt => hsplits index hindex (by omega)) (h count)
          (hsplits count hpos (by omega))
    have hnext : pages orders size count ++ window (count * size) size (orders count) |>.Perm
        ((orders count).take ((count + 1) * size)) := by
      rw [Nat.succ_mul, List.take_add]
      exact hpage.append_right _
    rw [pages_succ]
    exact hnext.trans (take_perm_of_not_splits hle (h count) horder hend)

/-- No key is split at the end. -/
theorem not_splits_of_length_le {rows order : List α} (h : Arranges le rows order) {place : Nat}
    (hplace : rows.length ≤ place) : ¬ Splits le rows place := by
  rintro ⟨a, -, b, -, -, -, -, hlast⟩
  have hlt := lt_length_of_place hle h hlast
  rw [h.perm.length_eq] at hlt
  omega

/-- All rows are read page by page, whatever their orders are, exactly when no page ends inside a
key. -/
theorem pages_perm_iff {rows order : List α} (horder : Arranges le rows order) {size count : Nat}
    (hcount : rows.length ≤ count * size) :
    (∀ orders : Nat → List α, (∀ index, Arranges le rows (orders index)) →
        (pages orders size count).Perm rows) ↔
      ∀ index, 0 < index → index < count → ¬ Splits le rows (index * size) := by
  constructor
  · rintro hperm index hindex hlt ⟨a, ha, b, hb, hne, htied, hfirst, hlast⟩
    -- Before the page one of the two rows is the last, and on the page it is the first.
    have hprevious : before le rows a ≤ index * size - 1 := by omega
    have hplace : index * size - 1 + 1 < before le rows a + ties le rows a := by omega
    obtain ⟨front, back, hlength, horder, horder'⟩ :=
      exists_swap hle horder ha hb hne htied hprevious hplace
    have hall := hperm (fun page => if page < index then front ++ a :: b :: back
      else front ++ b :: a :: back) fun page => by
        by_cases hpage : page < index
        · rw [if_pos hpage]
          exact horder
        · rw [if_neg hpage]
          exact horder'
    obtain ⟨more, rfl⟩ := Nat.exists_eq_add_of_lt hlt
    have hfront : (front ++ a :: b :: back).take (index * size) = front ++ [a] := by
      have hlength : index * size = (front ++ [a]).length := by
        rw [List.length_append, List.length_singleton]
        omega
      rw [List.append_cons front a (b :: back), hlength, List.take_left]
    have hback : window (index * size) ((more + 1) * size) (front ++ b :: a :: back) =
        a :: back := by
      have hlength' : index * size = (front ++ [b]).length := by
        rw [List.length_append, List.length_singleton]
        omega
      have hrows := horder.perm.length_eq
      rw [List.length_append, List.length_cons, List.length_cons] at hrows
      rw [Nat.add_assoc, Nat.add_mul] at hcount
      rw [window, List.append_cons front b (a :: back), hlength', List.drop_left]
      refine List.take_of_length_le ?_
      rw [List.length_cons]
      omega
    rw [Nat.add_assoc, pages_change, hfront, hback, List.append_assoc] at hall
    -- So one of the rows is read twice, and the other is not read.
    have hsame := (List.perm_append_left_iff front).mp (hall.trans horder.perm.symm)
    have hsame : ([a] ++ back).Perm ([b] ++ back) := List.Perm.cons_inv hsame
    have hsingle := (List.perm_append_right_iff back).mp hsame
    exact hne (List.singleton_perm_singleton.mp hsingle)
  · intro hsplits orders horders
    have htake := pages_perm_take hle horders hsplits horder
      (not_splits_of_length_le hle horder hcount)
    rw [List.take_of_length_le (by rw [horder.perm.length_eq]; exact hcount)] at htake
    exact htake.trans horder.perm

/-! ## One page -/

omit hle in
/-- A page that ends with the rows may be cut. -/
theorem window_cut {order : List α} {offset limit limit' : Nat}
    (h : limit' = limit ∨ order.length ≤ offset + limit' ∧ limit' ≤ limit) :
    window offset limit' order = window offset limit order := by
  rcases h with rfl | ⟨hends, hle⟩
  · rfl
  · have hlength : (order.drop offset).length ≤ limit' := by
      rw [List.length_drop]
      omega
    rw [window, window, List.take_of_length_le hlength,
      List.take_of_length_le (Nat.le_trans hlength hle)]

omit hle in
/-- Pages of different rows are the same pages only when they start at the same place and, unless
the rows end before, have the same size. -/
theorem window_eq_window {order : List α} (hnodup : order.Nodup) {offset limit offset' limit' : Nat}
    (hoffset : offset < order.length) (hlimit : 0 < limit)
    (h : window offset' limit' order = window offset limit order) :
    offset' = offset ∧ 0 < limit' ∧ (limit' = limit ∨ order.length ≤ offset + limit') := by
  have hlengths := congrArg List.length h
  simp only [window, List.length_take, List.length_drop] at hlengths
  have hlimit' : 0 < limit' := by omega
  have hfirst := congrArg (fun page => page[0]?) h
  simp only [window, List.getElem?_take, hlimit, hlimit', if_true, List.getElem?_drop,
    Nat.add_zero] at hfirst
  have hsame : offset = offset' := (List.getElem?_inj hoffset hnodup).mp hfirst.symm
  refine ⟨hsame.symm, hlimit', ?_⟩
  omega

/-- A place of a page is one of a key that two different rows have. -/
def Ambiguous (le : α → α → Bool) (rows : List α) (offset limit : Nat) : Prop :=
  ∃ a ∈ rows, ∃ b ∈ rows, a ≠ b ∧ Tied le a b ∧ ∃ place, offset ≤ place ∧
    place < offset + limit ∧ before le rows a ≤ place ∧
      place < before le rows a + ties le rows a

/-- Two different rows with equal keys are two rows. -/
theorem two_le_ties {rows order : List α} (h : Arranges le rows order) {a b : α} (ha : a ∈ rows)
    (hb : b ∈ rows) (hne : a ≠ b) (htied : Tied le a b) : 2 ≤ ties le rows a := by
  obtain ⟨i, hi⟩ := List.mem_iff_getElem?.mp (h.perm.mem_iff.mpr ha)
  obtain ⟨j, hj⟩ := List.mem_iff_getElem?.mp (h.perm.mem_iff.mpr hb)
  have haa : le a a = true := (hle.total a a).elim id id
  have hplace := (tied_iff_of_getElem? hle h a hi).mp ⟨haa, haa⟩
  have hplace' := (tied_iff_of_getElem? hle h a hj).mp htied
  have hplaces : i ≠ j := by
    rintro rfl
    exact hne (Option.some_inj.mp (hi.symm.trans hj))
  omega

/-- A page has the same rows in the same order each time exactly when no two of its places are
those of rows with equal keys. -/
theorem window_eq_iff {rows order : List α} (horder : Arranges le rows order)
    (offset limit : Nat) :
    (∀ order', Arranges le rows order' →
        window offset limit order' = window offset limit order) ↔
      ¬ Ambiguous le rows offset limit := by
  have hwindow : ∀ (order : List α) (i : Nat),
      (window offset limit order)[i]? = if i < limit then order[offset + i]? else none := by
    intro order i
    rw [window, List.getElem?_take, List.getElem?_drop]
  constructor
  · rintro hsame ⟨a, ha, b, hb, hne, htied, place, hoffset, hlimit, hfirst, hlast⟩
    -- One of the two rows can come at the place, and the other one before or after it.
    obtain ⟨first, hplace, hpage, hends⟩ : ∃ first, before le rows a ≤ first ∧
        first + 1 < before le rows a + ties le rows a ∧ (place = first ∨ place = first + 1) := by
      have hties := two_le_ties hle horder ha hb hne htied
      by_cases hnext : place + 1 < before le rows a + ties le rows a
      · exact ⟨place, hfirst, hnext, .inl rfl⟩
      · exact ⟨place - 1, by omega, by omega, .inr (by omega)⟩
    obtain ⟨front, back, rfl, horder', horder''⟩ :=
      exists_swap hle horder ha hb hne htied hplace hpage
    have heq := (hsame _ horder').trans (hsame _ horder'').symm
    have hrow := congrArg (fun page => page[place - offset]?) heq
    rw [hwindow, hwindow, if_pos (by omega), if_pos (by omega), Nat.add_sub_cancel' hoffset] at hrow
    rcases hends with rfl | rfl
    · rw [List.getElem?_append_right (Nat.le_refl _), List.getElem?_append_right (Nat.le_refl _),
        Nat.sub_self] at hrow
      exact hne (Option.some_inj.mp hrow)
    · rw [List.getElem?_append_right (Nat.le_succ _), List.getElem?_append_right (Nat.le_succ _),
        Nat.succ_sub (Nat.le_refl _), Nat.sub_self] at hrow
      exact hne (Option.some_inj.mp hrow).symm
  · intro hambiguous order' horder'
    refine List.ext_getElem? fun i => ?_
    rw [hwindow, hwindow]
    by_cases hi : i < limit
    · rw [if_pos hi, if_pos hi]
      rcases hrow : order[offset + i]? with _ | a
      · rw [List.getElem?_eq_none_iff] at hrow ⊢
        rw [horder'.perm.length_eq, ← horder.perm.length_eq]
        exact hrow
      have hlength : offset + i < order'.length := by
        rw [horder'.perm.length_eq, ← horder.perm.length_eq]
        exact (List.getElem?_eq_some_iff.mp hrow).1
      obtain ⟨b, hrow'⟩ : ∃ b, order'[offset + i]? = some b :=
        ⟨_, List.getElem?_eq_getElem hlength⟩
      have haa : le a a = true := (hle.total a a).elim id id
      have hplace := (tied_iff_of_getElem? hle horder a hrow).mp ⟨haa, haa⟩
      have htied := (tied_iff_of_getElem? hle horder' a hrow').mpr hplace
      rw [hrow', Option.some_inj]
      by_contra hne
      refine hambiguous ⟨a, horder.perm.mem_iff.mp (List.mem_of_getElem? hrow), b,
        horder'.perm.mem_iff.mp (List.mem_of_getElem? hrow'), Ne.symm hne, htied, offset + i,
        Nat.le_add_right _ _, Nat.add_lt_add_left hi _, hplace⟩
    · rw [if_neg hi, if_neg hi]

omit hle in
/-- With different keys there are no such places. -/
theorem not_splits_and_not_ambiguous {rows : List α}
    (h : ∀ a ∈ rows, ∀ b ∈ rows, Tied le a b → a = b) (place offset limit : Nat) :
    ¬ Splits le rows place ∧ ¬ Ambiguous le rows offset limit := by
  constructor
  · rintro ⟨a, ha, b, hb, hne, htied, -⟩
    exact hne (h a ha b hb htied)
  · rintro ⟨a, ha, b, hb, hne, htied, -⟩
    exact hne (h a ha b hb htied)

end Groups

end Paging

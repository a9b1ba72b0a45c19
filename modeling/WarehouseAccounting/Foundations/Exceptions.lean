import Mathlib.Data.List.Forall2

/-!
# Values or exceptions

Computations that end with a value or with an exception, and the loops that make one such
computation for every element of a list.

- `Exceptions.mapM_eq_ok_iff`: a loop ends with values exactly when every round ends with its value.
- `Exceptions.exists_mapM_eq_ok`: a loop ends with some values exactly when every round does.
- `Exceptions.mapM_bind_eq_ok_iff`: two loops, one after the other, are one loop.
- `Exceptions.mapM_eq_ok_of_forall_iff`: a loop whose rounds are known ends with a known list.
-/

namespace Exceptions

variable {α β γ ε : Type}

/-- A computation that ends well has a value. -/
theorem isOk_iff_exists {first : Except ε α} :
    first.isOk = true ↔ ∃ value, first = .ok value := by
  cases first with
  | error exception => simp [Except.isOk, Except.toBool]
  | ok value => simp [Except.isOk, Except.toBool]

/-- The second computation is made with the value of the first. -/
theorem bind_eq_ok_iff {first : Except ε α} {next : α → Except ε β} {value : β} :
    (first >>= next) = .ok value ↔ ∃ middle, first = .ok middle ∧ next middle = .ok value := by
  cases first with
  | error exception =>
    refine iff_of_false (fun h => ?_) ?_
    · cases h
    · rintro ⟨middle, h, -⟩
      cases h
  | ok middle =>
    constructor
    · intro h
      exact ⟨middle, rfl, h⟩
    · rintro ⟨middle', h, hnext⟩
      cases h
      exact hnext

/-- A function of a value. -/
theorem map_eq_ok_iff {first : Except ε α} {f : α → β} {value : β} :
    first.map f = .ok value ↔ ∃ middle, first = .ok middle ∧ f middle = value := by
  cases first with
  | error exception => simp [Except.map]
  | ok middle => simp [Except.map]

/-- One round, and then the others. -/
theorem mapM_cons_eq_ok_iff {f : α → Except ε β} {element : α} {elements : List α}
    {values : List β} :
    (element :: elements).mapM f = .ok values ↔
      ∃ value rest, f element = .ok value ∧ elements.mapM f = .ok rest ∧
        values = value :: rest := by
  rw [List.mapM_cons, bind_eq_ok_iff]
  constructor
  · rintro ⟨value, hvalue, h⟩
    obtain ⟨rest, hrest, h⟩ := bind_eq_ok_iff.mp h
    cases h
    exact ⟨value, rest, hvalue, hrest, rfl⟩
  · rintro ⟨value, rest, hvalue, hrest, rfl⟩
    exact ⟨value, hvalue, bind_eq_ok_iff.mpr ⟨rest, hrest, rfl⟩⟩

/-- A loop ends with values exactly when every round ends with its value. -/
theorem mapM_eq_ok_iff {f : α → Except ε β} {elements : List α} {values : List β} :
    elements.mapM f = .ok values ↔
      List.Forall₂ (fun element value => f element = .ok value) elements values := by
  induction elements generalizing values with
  | nil =>
    rw [List.mapM_nil, List.forall₂_nil_left_iff]
    constructor
    · intro h
      cases h
      rfl
    · rintro rfl
      rfl
  | cons element elements ih =>
    rw [mapM_cons_eq_ok_iff, List.forall₂_cons_left_iff]
    constructor
    · rintro ⟨value, rest, hvalue, hrest, rfl⟩
      exact ⟨value, rest, hvalue, ih.mp hrest, rfl⟩
    · rintro ⟨value, rest, hvalue, hrest, rfl⟩
      exact ⟨value, rest, hvalue, ih.mpr hrest, rfl⟩

/-- What stands on the right belongs to something on the left. -/
theorem exists_of_forall₂_right {R : α → β → Prop} {elements : List α} {others : List β}
    (h : List.Forall₂ R elements others) {other : β} (hother : other ∈ others) :
    ∃ element ∈ elements, R element other := by
  induction h with
  | nil => cases hother
  | cons hfirst hrest ih =>
    rcases List.mem_cons.mp hother with rfl | hother
    · exact ⟨_, List.mem_cons_self, hfirst⟩
    · obtain ⟨element, helement, hR⟩ := ih hother
      exact ⟨element, List.mem_cons_of_mem _ helement, hR⟩

/-- The value of a round is one of those that the loop ends with. -/
theorem exists_mem_of_mapM {f : α → Except ε β} {elements : List α} {values : List β}
    (h : elements.mapM f = .ok values) {element : α} (hmem : element ∈ elements) :
    ∃ value ∈ values, f element = .ok value :=
  exists_of_forall₂_right (mapM_eq_ok_iff.mp h).flip hmem

/-- A value that the loop ends with is the value of a round. -/
theorem exists_mem_of_mem_mapM {f : α → Except ε β} {elements : List α} {values : List β}
    (h : elements.mapM f = .ok values) {value : β} (hmem : value ∈ values) :
    ∃ element ∈ elements, f element = .ok value :=
  exists_of_forall₂_right (mapM_eq_ok_iff.mp h) hmem

/-- A loop ends with as many values as there are rounds. -/
theorem length_of_mapM {f : α → Except ε β} {elements : List α} {values : List β}
    (h : elements.mapM f = .ok values) : values.length = elements.length :=
  (mapM_eq_ok_iff.mp h).length_eq.symm

/-- What is made of every element was made of something that belongs to the element. -/
theorem forall₂_of_mapM {f : α → Except ε γ} {R : α → β → Prop} {g : β → γ}
    (hf : ∀ element value, f element = .ok value → ∃ other, R element other ∧ value = g other)
    {elements : List α} {values : List γ} (h : elements.mapM f = .ok values) :
    ∃ others, List.Forall₂ R elements others ∧ values = others.map g := by
  have hrounds := mapM_eq_ok_iff.mp h
  clear h
  induction hrounds with
  | nil => exact ⟨[], .nil, rfl⟩
  | cons hfirst _ ih =>
    obtain ⟨other, hother, rfl⟩ := hf _ _ hfirst
    obtain ⟨others, hothers, rfl⟩ := ih
    exact ⟨other :: others, .cons hother hothers, rfl⟩

/-- What the values have in common with the elements that they were made of. -/
theorem map_eq_of_mapM {f : α → Except ε β} (g : β → γ) (g' : α → γ) {elements : List α}
    {values : List β} (h : elements.mapM f = .ok values)
    (hvalue : ∀ element ∈ elements, ∀ value, f element = .ok value → g value = g' element) :
    values.map g = elements.map g' := by
  induction elements generalizing values with
  | nil =>
    cases h
    rfl
  | cons element elements ih =>
    obtain ⟨value, rest, hfirst, hrest, rfl⟩ := mapM_cons_eq_ok_iff.mp h
    rw [List.map_cons, List.map_cons, hvalue element List.mem_cons_self value hfirst,
      ih hrest fun other hother => hvalue other (List.mem_cons_of_mem _ hother)]

/-- A loop ends with some values exactly when every round ends with a value. -/
theorem exists_mapM_eq_ok {f : α → Except ε β} {elements : List α} :
    (∃ values, elements.mapM f = .ok values) ↔
      ∀ element ∈ elements, ∃ value, f element = .ok value := by
  induction elements with
  | nil => exact iff_of_true ⟨[], rfl⟩ fun element h => by cases h
  | cons element elements ih =>
    constructor
    · rintro ⟨values, h⟩
      obtain ⟨value, rest, hvalue, hrest, -⟩ := mapM_cons_eq_ok_iff.mp h
      intro other hother
      rcases List.mem_cons.mp hother with rfl | hmem
      · exact ⟨value, hvalue⟩
      · exact ih.mp ⟨rest, hrest⟩ other hmem
    · intro h
      obtain ⟨value, hvalue⟩ := h element List.mem_cons_self
      obtain ⟨rest, hrest⟩ := ih.mpr fun other hother => h other (List.mem_cons_of_mem _ hother)
      exact ⟨value :: rest, mapM_cons_eq_ok_iff.mpr ⟨value, rest, hvalue, hrest, rfl⟩⟩

/-- Two loops, the second over the values of the first, end like one loop that makes both
computations in a round. -/
theorem mapM_bind_eq_ok_iff {f : α → Except ε β} {g : β → Except ε γ} {elements : List α}
    {values : List γ} :
    (elements.mapM f >>= fun middles => middles.mapM g) = .ok values ↔
      elements.mapM (fun element => f element >>= g) = .ok values := by
  induction elements generalizing values with
  | nil => rfl
  | cons element elements ih =>
    rw [bind_eq_ok_iff, mapM_cons_eq_ok_iff]
    constructor
    · rintro ⟨middles, hfirst, hsecond⟩
      obtain ⟨middle, rest, hmiddle, hrest, rfl⟩ := mapM_cons_eq_ok_iff.mp hfirst
      obtain ⟨value, results, hvalue, hresults, rfl⟩ := mapM_cons_eq_ok_iff.mp hsecond
      exact ⟨value, results, bind_eq_ok_iff.mpr ⟨middle, hmiddle, hvalue⟩,
        ih.mp (bind_eq_ok_iff.mpr ⟨rest, hrest, hresults⟩), rfl⟩
    · rintro ⟨value, results, hround, hrounds, rfl⟩
      obtain ⟨middle, hmiddle, hvalue⟩ := bind_eq_ok_iff.mp hround
      obtain ⟨rest, hrest, hresults⟩ := bind_eq_ok_iff.mp (ih.mpr hrounds)
      exact ⟨middle :: rest, mapM_cons_eq_ok_iff.mpr ⟨middle, rest, hmiddle, hrest, rfl⟩,
        mapM_cons_eq_ok_iff.mpr ⟨value, results, hvalue, hresults, rfl⟩⟩

/-- When it is known which rounds end, and with which values, the loop ends with these values
exactly when all rounds end. -/
theorem mapM_eq_ok_of_forall_iff {f : α → Except ε β} {ends : α → Bool} {value : α → β}
    {elements : List α}
    (h : ∀ element ∈ elements, ∀ result,
      f element = .ok result ↔ ends element = true ∧ result = value element)
    {values : List β} :
    elements.mapM f = .ok values ↔
      (∀ element ∈ elements, ends element = true) ∧ values = elements.map value := by
  induction elements generalizing values with
  | nil =>
    rw [List.mapM_nil, List.map_nil]
    constructor
    · intro hnil
      cases hnil
      exact ⟨List.forall_mem_nil _, rfl⟩
    · rintro ⟨-, rfl⟩
      rfl
  | cons element elements ih =>
    have hrest := @ih fun other hother => h other (List.mem_cons_of_mem _ hother)
    rw [mapM_cons_eq_ok_iff, List.forall_mem_cons, List.map_cons]
    constructor
    · rintro ⟨result, results, hresult, hresults, rfl⟩
      obtain ⟨hends, rfl⟩ := (h element List.mem_cons_self result).mp hresult
      obtain ⟨hall, rfl⟩ := hrest.mp hresults
      exact ⟨⟨hends, hall⟩, rfl⟩
    · rintro ⟨⟨hends, hall⟩, rfl⟩
      exact ⟨value element, elements.map value,
        (h element List.mem_cons_self _).mpr ⟨hends, rfl⟩, hrest.mpr ⟨hall, rfl⟩, rfl⟩

end Exceptions

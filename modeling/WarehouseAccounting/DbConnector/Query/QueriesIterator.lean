import WarehouseAccounting.DbConnector.Query.QueryManager
import WarehouseAccounting.Foundations.Merge
import Mathlib.Order.OrderDual

/-!
# Walking through the store

`QueriesIteratorInternal` of `queries_iterator_internal.h`: the vectors of the store are merged
by id, downwards from `rbegin()`.

- `QueryManager.mem_rqueries`: walking down visits the stored queries.
- `QueryManager.rqueries_sorted`: the ids are visited in strictly decreasing order.
-/

namespace Srv.Db.Qry

/-- The keys of the map, in the order in which it is iterated. -/
def identificators : List QueryIdentificator :=
  [.raw, .select, .insert, .delete, .update]

/-- Every kind of query is a possible key. -/
theorem mem_identificators (identificator : QueryIdentificator) :
    identificator ∈ identificators := by
  cases identificator <;> decide

/-- `Less` for the iterators of the vectors: a used-up one comes last, the others by `before`
on the ids. Two used-up iterators are compared by the addresses of the parameters; whichever
is picked has no element left. -/
def lessBy (before : QueryId → QueryId → Bool) : List StoredQuery → List StoredQuery → Bool
  | [], _ => false
  | _ :: _, [] => true
  | pair :: _, pair' :: _ => before pair.1 pair'.1

namespace QueryManager

/-- The vectors of the map. -/
def vectors (manager : QueryManager) : List (List StoredQuery) :=
  identificators.filterMap manager.supportedQueries

/-- The fields that `QueriesIterator` shows from `rbegin()` on. -/
def rqueries (manager : QueryManager) : List StoredQuery :=
  Merge.visit (lessBy fun id id' => id > id') manager.vectors.flatten.length
    (manager.vectors.map List.reverse)

/-! ## What the vectors hold -/

/-- A vector of the map is the vector of some kind. -/
theorem mem_vectors {manager : QueryManager} {vec : List StoredQuery} :
    vec ∈ manager.vectors ↔ ∃ identificator, manager.supportedQueries identificator = some vec := by
  simp [vectors, mem_identificators]

/-- The vectors hold the stored queries. -/
theorem mem_vectors_flatten {manager : QueryManager} (h : Invariant manager) {pair : StoredQuery} :
    pair ∈ manager.vectors.flatten ↔ manager.Stored pair.1 pair.2 := by
  constructor
  · intro hpair
    obtain ⟨vec, hvec, hpair⟩ := List.mem_flatten.mp hpair
    obtain ⟨identificator, hvec⟩ := mem_vectors.mp hvec
    exact h.stored_of_mem hvec hpair
  · rintro ⟨vec, hvec, hpair⟩
    exact List.mem_flatten.mpr ⟨vec, mem_vectors.mpr ⟨_, hvec⟩, hpair⟩

/-- Every vector is in the order of its ids. -/
theorem sorted_of_mem_vectors {manager : QueryManager} (h : Invariant manager)
    {vec : List StoredQuery} (hvec : vec ∈ manager.vectors) :
    vec.Pairwise (fun pair next => pair.1 < next.1) := by
  obtain ⟨identificator, hvec⟩ := mem_vectors.mp hvec
  exact h.sorted hvec

/-- No id occurs twice in the vectors. -/
theorem vectors_nodup {manager : QueryManager} (h : Invariant manager) :
    (manager.vectors.flatten.map Prod.fst).Nodup := by
  rw [List.Nodup, List.pairwise_map, List.pairwise_flatten]
  constructor
  · intro vec hvec
    exact (sorted_of_mem_vectors h hvec).imp Nat.ne_of_lt
  · -- Two vectors hold different kinds, and an id names options of one kind.
    rw [vectors, List.pairwise_filterMap]
    refine List.Pairwise.imp_of_mem (R := fun a b => a ≠ b) ?_ (by decide)
    intro identificator identificator' _ _ hne vec hvec vec' hvec' pair hpair pair' hpair' hid
    have hstored := h.stored_of_mem hvec hpair
    have hstored' := h.stored_of_mem hvec' hpair'
    rw [← hid] at hstored'
    refine hne ?_
    rw [← h.kind hvec pair hpair, ← h.kind hvec' pair' hpair', h.unique hstored hstored']

/-! ## Walking down -/

/-- Walking down compares the heads by their ids. -/
theorem comparesHeads_down : Merge.ComparesHeads (fun pair : StoredQuery => OrderDual.toDual pair.1)
    (lessBy fun id id' => id > id') := by
  constructor
  · intro range range' hless
    match range, range' with
    | [], _ => cases hless
    | _ :: _, [] => exact le_top
    | pair :: _, pair' :: _ =>
      have hid : pair'.1 < pair.1 := by simpa [lessBy] using hless
      exact WithTop.coe_le_coe.mpr (OrderDual.toDual_le_toDual.mpr hid.le)
  · intro range range' hless
    match range, range' with
    | [], _ => exact le_top
    | _ :: _, [] => cases hless
    | pair :: _, pair' :: _ =>
      have hid : pair.1 ≤ pair'.1 := by simpa [lessBy] using hless
      exact WithTop.coe_le_coe.mpr (OrderDual.toDual_le_toDual.mpr hid)

/-- The ranges that the walk down starts from are in decreasing order. -/
theorem increasing_down {manager : QueryManager} (h : Invariant manager) :
    ∀ range ∈ manager.vectors.map List.reverse,
      Merge.Increasing (fun pair : StoredQuery => OrderDual.toDual pair.1) range := by
  intro range hrange
  obtain ⟨vec, hvec, rfl⟩ := List.mem_map.mp hrange
  exact List.pairwise_reverse.mpr (sorted_of_mem_vectors h hvec)

/-- The ranges that the walk down starts from hold the elements of the vectors. -/
theorem down_perm (manager : QueryManager) :
    (manager.vectors.map List.reverse).flatten.Perm manager.vectors.flatten := by
  induction manager.vectors with
  | nil => exact List.Perm.refl _
  | cons vec vectors ih => exact vec.reverse_perm.append ih

/-- Walking down visits every element of the vectors once. -/
theorem rqueries_perm {manager : QueryManager} (h : Invariant manager) :
    manager.rqueries.Perm manager.vectors.flatten :=
  (Merge.visit_perm comparesHeads_down (increasing_down h) (down_perm manager).length_eq.le).trans
    (down_perm manager)

/-- Walking down visits the stored queries. -/
theorem mem_rqueries {manager : QueryManager} (h : Invariant manager) (pair : StoredQuery) :
    pair ∈ manager.rqueries ↔ manager.Stored pair.1 pair.2 :=
  (rqueries_perm h).mem_iff.trans (mem_vectors_flatten h)

/-- The ids are visited in strictly decreasing order. -/
theorem rqueries_sorted {manager : QueryManager} (h : Invariant manager) :
    manager.rqueries.Pairwise (fun pair next => next.1 < pair.1) := by
  have hkeys : ((manager.vectors.map List.reverse).flatten.map
      fun pair : StoredQuery => OrderDual.toDual pair.1).Nodup := by
    have hnodup := ((down_perm manager).map Prod.fst).nodup_iff.mpr (vectors_nodup h)
    rw [List.Nodup, List.pairwise_map] at hnodup ⊢
    exact hnodup
  exact Merge.visit_sorted comparesHeads_down (increasing_down h)
    (down_perm manager).length_eq.le hkeys

/-- The first query of the walk down has the largest id. -/
theorem le_of_rqueries_cons {manager : QueryManager} (h : Invariant manager) {realLast : QueryId}
    {lastOptions : QueryOptions} {queries : List StoredQuery}
    (hqueries : manager.rqueries = (realLast, lastOptions) :: queries) {id : QueryId}
    {options : QueryOptions} (hstored : manager.Stored id options) : id ≤ realLast := by
  have hmem := (mem_rqueries h (id, options)).mpr hstored
  have hsorted := rqueries_sorted h
  rw [hqueries] at hmem hsorted
  rcases List.mem_cons.mp hmem with heq | hmem
  · exact (congrArg Prod.fst heq).le
  · exact (List.rel_of_pairwise_cons hsorted hmem).le

end QueryManager

end Srv.Db.Qry

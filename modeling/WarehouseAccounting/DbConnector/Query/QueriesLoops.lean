import WarehouseAccounting.DbConnector.Query.QueriesIterator

/-!
# Loops over the store

The loops from `begin()` to `end()` and from `rbegin()` to `rend()`, with the iterators themselves:
the next position in every vector, the position that is shown, and an end that shows the end of some
vector. Which of two used-up iterators `Less` puts first is left open.

- `QueryManager.loops_enumerate`: each loop shows every stored query once, in the order of the ids
  or against it, and the loop of `RefreshSupportedQueries` those above the mark.
-/

namespace Srv.Db.Qry

/-- `Less` for the iterators of the vectors, with the outcome `tie` for two used-up ones. -/
def lessTied (tie : Bool) (before : QueryId → QueryId → Bool) :
    List StoredQuery → List StoredQuery → Bool
  | [], [] => tie
  | [], _ :: _ => false
  | _ :: _, [] => true
  | pair :: _, pair' :: _ => before pair.1 pair'.1

/-- `Less` of the iterators that go up. -/
def lessUp (tie : Bool) : List StoredQuery → List StoredQuery → Bool :=
  lessTied tie fun id id' => id < id'

/-- `Less` of the iterators that go down. -/
def lessDown (tie : Bool) : List StoredQuery → List StoredQuery → Bool :=
  lessTied tie fun id id' => id > id'

/-- Iterators are compared by the ids that are next, whatever the outcome for two used-up ones. -/
theorem comparesHeads_lessTied {γ : Type} [LinearOrder γ] {key : StoredQuery → γ} (tie : Bool)
    {before : QueryId → QueryId → Bool}
    (htrue : ∀ pair pair', before pair.1 pair'.1 = true → key pair ≤ key pair')
    (hfalse : ∀ pair pair', before pair.1 pair'.1 = false → key pair' ≤ key pair) :
    Merge.ComparesHeads key (lessTied tie before) := by
  constructor
  · intro range range' hless
    match range, range' with
    | _, [] => exact le_top
    | [], _ :: _ => cases hless
    | pair :: _, pair' :: _ => exact WithTop.coe_le_coe.mpr (htrue pair pair' hless)
  · intro range range' hless
    match range, range' with
    | [], _ => exact le_top
    | _ :: _, [] => cases hless
    | pair :: _, pair' :: _ => exact WithTop.coe_le_coe.mpr (hfalse pair pair' hless)

namespace QueryManager

/-! ## The loops -/

/-- What a loop from `begin()` to `end()` shows in some number of steps. -/
def upLoop (tie : Bool) (manager : QueryManager) (steps : Nat) : Option (List StoredQuery) :=
  Merge.loop (lessUp tie) (Merge.atEnd (lessUp tie) manager.vectors) steps
    (Merge.advance (lessUp tie) manager.vectors)

/-- The vectors from their other ends. -/
def reversed (manager : QueryManager) : List (List StoredQuery) :=
  manager.vectors.map List.reverse

/-- What a loop from `rbegin()` to `rend()` shows in some number of steps. -/
def downLoop (tie : Bool) (manager : QueryManager) (steps : Nat) : Option (List StoredQuery) :=
  Merge.loop (lessDown tie) (Merge.atEnd (lessDown tie) manager.reversed) steps
    (Merge.advance (lessDown tie) manager.reversed)

/-- What the loop of `RefreshSupportedQueries` shows: nothing when the first id is not above the
mark, and otherwise the queries up to the first id that is not. -/
def refreshLoop (tie : Bool) (mark : QueryId) (manager : QueryManager) (steps : Nat) :
    Option (List StoredQuery) :=
  let queriesIt := Merge.advance (lessDown tie) manager.reversed
  match queriesIt.current.ahead with
  | [] => none
  | (realLast, _) :: _ =>
    if mark < realLast then
      Merge.doWhile (lessDown tie) (Merge.atEnd (lessDown tie) manager.reversed)
        (fun pair => mark < pair.1) steps queriesIt
    else
      some []

/-! ## What they show -/

/-- The iterators that go up are compared by their ids. -/
theorem comparesHeads_lessUp (tie : Bool) :
    Merge.ComparesHeads (fun pair : StoredQuery => pair.1) (lessUp tie) := by
  refine comparesHeads_lessTied tie (fun pair pair' h => ?_) (fun pair pair' h => ?_)
  · exact (of_decide_eq_true h).le
  · exact Nat.not_lt.mp (of_decide_eq_false h)

/-- The iterators that go down are compared by their ids, against the order. -/
theorem comparesHeads_lessDown (tie : Bool) :
    Merge.ComparesHeads (fun pair : StoredQuery => OrderDual.toDual pair.1) (lessDown tie) := by
  refine comparesHeads_lessTied tie (fun pair pair' h => ?_) (fun pair pair' h => ?_)
  · exact OrderDual.toDual_le_toDual.mpr (of_decide_eq_true h).le
  · exact OrderDual.toDual_le_toDual.mpr (Nat.not_lt.mp (of_decide_eq_false h))

/-- The loop up shows every stored query once, in increasing order of the ids. -/
theorem upLoop_spec {manager : QueryManager} (h : Invariant manager) (tie : Bool) :
    ∃ shown : List StoredQuery,
      (∃ enough, ∀ steps ≥ enough, manager.upLoop tie steps = some shown) ∧
        shown.Pairwise (fun pair next => pair.1 < next.1) ∧
          ∀ pair, pair ∈ shown ↔ manager.Stored pair.1 pair.2 := by
  have hless := comparesHeads_lessUp tie
  have hsorted : ∀ range ∈ manager.vectors,
      Merge.Increasing (fun pair : StoredQuery => pair.1) range :=
    fun range hrange => sorted_of_mem_vectors h hrange
  refine ⟨_, ⟨manager.vectors.flatten.length + 1, fun steps hsteps =>
    Merge.loop_eq_visit hless hsorted hsteps⟩, ?_, fun pair => ?_⟩
  · exact Merge.visit_sorted hless hsorted le_rfl (vectors_nodup h)
  · exact (Merge.visit_perm hless hsorted le_rfl).mem_iff.trans (mem_vectors_flatten h)

/-- The steps down visit the stored queries in decreasing order of the ids. -/
theorem visit_down_spec {manager : QueryManager} (h : Invariant manager) (tie : Bool) :
    (Merge.visit (lessDown tie) manager.reversed.flatten.length manager.reversed).Pairwise
        (fun pair next => next.1 < pair.1) ∧
      ∀ pair, pair ∈ Merge.visit (lessDown tie) manager.reversed.flatten.length manager.reversed ↔
        manager.Stored pair.1 pair.2 := by
  have hless := comparesHeads_lessDown tie
  have hkeys : (manager.reversed.flatten.map
      fun pair : StoredQuery => OrderDual.toDual pair.1).Nodup := by
    have hnodup := ((down_perm manager).map Prod.fst).nodup_iff.mpr (vectors_nodup h)
    rw [List.Nodup, List.pairwise_map] at hnodup ⊢
    exact hnodup
  refine ⟨Merge.visit_sorted hless (increasing_down h) le_rfl hkeys, fun pair => ?_⟩
  exact ((Merge.visit_perm hless (increasing_down h) le_rfl).trans
    (down_perm manager)).mem_iff.trans
    (mem_vectors_flatten h)

/-- The loop down shows every stored query once, in decreasing order of the ids. -/
theorem downLoop_spec {manager : QueryManager} (h : Invariant manager) (tie : Bool) :
    ∃ shown : List StoredQuery,
      (∃ enough, ∀ steps ≥ enough, manager.downLoop tie steps = some shown) ∧
        shown.Pairwise (fun pair next => next.1 < pair.1) ∧
          ∀ pair, pair ∈ shown ↔ manager.Stored pair.1 pair.2 := by
  obtain ⟨hpairwise, hmem⟩ := visit_down_spec h tie
  exact ⟨_, ⟨manager.reversed.flatten.length + 1, fun steps hsteps =>
    Merge.loop_eq_visit (comparesHeads_lessDown tie) (increasing_down h) hsteps⟩, hpairwise, hmem⟩

/-- Of elements in decreasing order the first ones above a bound are all that are above it. -/
theorem mem_takeWhile_of_decreasing {shown : List StoredQuery}
    (h : shown.Pairwise (fun pair next => next.1 < pair.1)) (mark : QueryId) (pair : StoredQuery) :
    pair ∈ shown.takeWhile (fun pair => mark < pair.1) ↔ pair ∈ shown ∧ mark < pair.1 := by
  induction shown with
  | nil => simp
  | cons first shown ih =>
    obtain ⟨hfirst, hrest⟩ := List.pairwise_cons.mp h
    by_cases hmark : mark < first.1
    · rw [List.takeWhile_cons_of_pos (by simpa using hmark), List.mem_cons, List.mem_cons,
        ih hrest]
      constructor
      · rintro (rfl | ⟨hmem, hpair⟩)
        · exact ⟨.inl rfl, hmark⟩
        · exact ⟨.inr hmem, hpair⟩
      · rintro ⟨rfl | hmem, hpair⟩
        · exact .inl rfl
        · exact .inr ⟨hmem, hpair⟩
    · rw [List.takeWhile_cons_of_neg (by simpa using hmark)]
      refine iff_of_false (List.not_mem_nil) ?_
      -- The others are even further below.
      rintro ⟨hmem, hpair⟩
      rcases List.mem_cons.mp hmem with rfl | hmem
      · exact hmark hpair
      · exact hmark (hpair.trans (hfirst pair hmem))

/-- The loop of `RefreshSupportedQueries` shows the queries above the mark once. -/
theorem refreshLoop_spec {manager : QueryManager} (h : Invariant manager)
    (hnonempty : ∃ id options, manager.Stored id options) (tie : Bool) (mark : QueryId) :
    ∃ shown : List StoredQuery,
      (∃ enough, ∀ steps ≥ enough, manager.refreshLoop tie mark steps = some shown) ∧
        shown.Pairwise (fun pair next => next.1 < pair.1) ∧
          ∀ pair, pair ∈ shown ↔ manager.Stored pair.1 pair.2 ∧ mark < pair.1 := by
  have hless := comparesHeads_lessDown tie
  obtain ⟨hpairwise, hmem⟩ := visit_down_spec h tie
  rcases hstep : Merge.step (lessDown tie) manager.reversed with _ | ⟨⟨realLast, last⟩, ranges⟩
  · -- Without a step nothing would be stored.
    obtain ⟨id, options, hstored⟩ := hnonempty
    have hnone := (hmem (id, options)).mpr hstored
    rw [Merge.flatten_eq_nil_of_step_none hless hstep] at hnone
    cases hnone
  · obtain ⟨rest, hahead, -, -⟩ := Merge.advance_of_step hstep
    obtain ⟨hlength, -⟩ := Merge.length_of_step hless (increasing_down h) hstep
    change manager.reversed.flatten.length = _ at hlength
    rw [hlength, Merge.visit, hstep] at hpairwise hmem
    dsimp only at hpairwise hmem
    by_cases hmark : mark < realLast
    · refine ⟨((realLast, last) ::
        Merge.visit (lessDown tie) ranges.flatten.length ranges).takeWhile
        fun pair => mark < pair.1, ⟨manager.reversed.flatten.length + 1, fun steps hsteps => ?_⟩,
        hpairwise.sublist (List.takeWhile_sublist _), fun pair => ?_⟩
      · unfold refreshLoop
        dsimp only
        rw [hahead]
        dsimp only
        rw [if_pos hmark, List.takeWhile_cons_of_pos (by simpa using hmark)]
        exact Merge.doWhile_eq_visit hless (increasing_down h) hstep hsteps
      · rw [mem_takeWhile_of_decreasing hpairwise, hmem]
    · refine ⟨[], ⟨0, fun steps _ => ?_⟩, .nil, fun pair => ?_⟩
      · unfold refreshLoop
        dsimp only
        rw [hahead]
        dsimp only
        rw [if_neg hmark]
      · refine iff_of_false List.not_mem_nil ?_
        rintro ⟨hstored, hpair⟩
        rcases List.mem_cons.mp ((hmem pair).mpr hstored) with rfl | hrest
        · exact hmark hpair
        · exact hmark (hpair.trans (List.rel_of_pairwise_cons hpairwise hrest))

/-- In every store that calls have left, if it holds some query, the loops come to their end,
whatever `Less` says of two used-up iterators: the loop up shows every stored query once in
increasing order of the ids, the loop down in decreasing order, and the loop of
`RefreshSupportedQueries` shows those above the mark. -/
theorem loops_enumerate (tracing tie : Bool) (queries : List QueryOptions)
    (hnonempty : ∃ id options, (QueryManager.run tracing queries {}).Stored id options) :
    let manager := QueryManager.run tracing queries {}
    (∃ up : List StoredQuery,
      (∃ enough, ∀ steps ≥ enough, manager.upLoop tie steps = some up) ∧
        up.Pairwise (fun pair next => pair.1 < next.1) ∧
          ∀ pair, pair ∈ up ↔ manager.Stored pair.1 pair.2) ∧
    (∃ down : List StoredQuery,
      (∃ enough, ∀ steps ≥ enough, manager.downLoop tie steps = some down) ∧
        down.Pairwise (fun pair next => next.1 < pair.1) ∧
          ∀ pair, pair ∈ down ↔ manager.Stored pair.1 pair.2) ∧
    ∀ mark, ∃ seen : List StoredQuery,
      (∃ enough, ∀ steps ≥ enough, manager.refreshLoop tie mark steps = some seen) ∧
        seen.Pairwise (fun pair next => next.1 < pair.1) ∧
          ∀ pair, pair ∈ seen ↔ manager.Stored pair.1 pair.2 ∧ mark < pair.1 := by
  obtain ⟨hinvariant, -⟩ := invariant_init.run tracing queries
  exact ⟨upLoop_spec hinvariant tie, downLoop_spec hinvariant tie,
    fun mark => refreshLoop_spec hinvariant hnonempty tie mark⟩

/-- Ids that are shown in an order are these ids when they are the same ones in this order. -/
theorem ids_eq_of_pairwise {shown : List StoredQuery} {ids : List QueryId}
    (before : QueryId → QueryId → Prop) (hasymm : ∀ id id', before id id' → ¬ before id' id)
    (hshown : shown.Pairwise fun pair next => before pair.1 next.1) (hids : ids.Pairwise before)
    (h : ∀ id, (∃ options, (id, options) ∈ shown) ↔ id ∈ ids) : shown.map Prod.fst = ids := by
  have hpairwise : (shown.map Prod.fst).Pairwise before := List.pairwise_map.mpr hshown
  have hnodup {list : List QueryId} (hlist : list.Pairwise before) : list.Nodup :=
    hlist.imp fun {id id'} (hbefore : before id id') (heq : id = id') =>
      hasymm id id' hbefore (heq ▸ heq ▸ hbefore)
  refine List.Perm.eq_of_pairwise (fun id id' _ _ hbefore hafter => absurd hafter
    (hasymm _ _ hbefore)) hpairwise hids ?_
  refine (List.perm_ext_iff_of_nodup (hnodup hpairwise) (hnodup hids)).mpr fun id => ?_
  rw [← h, List.mem_map]
  constructor
  · rintro ⟨⟨id, options⟩, hmem, rfl⟩
    exact ⟨options, hmem⟩
  · rintro ⟨options, hmem⟩
    exact ⟨(id, options), hmem, rfl⟩

/-- Queries of three kinds, one of which is asked for twice. -/
def mixedQueries : List QueryOptions :=
  [loginQuery .and, .raw ⟨"LISTEN stock"⟩, .select { table := .product },
    .delete { table := .product }, loginQuery .and, .raw ⟨"NOTIFY stock"⟩,
      .select { table := .user }]

/-- The vectors of the store: selects, raw queries and deletions have ids in between one another. -/
theorem vectors_mixedQueries :
    (QueryManager.run false mixedQueries {}).vectors =
      [[(2, .raw ⟨"LISTEN stock"⟩), (5, .raw ⟨"NOTIFY stock"⟩)],
        [(1, loginQuery .and), (3, .select { table := .product }), (6, .select { table := .user })],
        [(4, .delete { table := .product })]] := rfl

/-- Each loop merges the three vectors, and the loop of `RefreshSupportedQueries` stops above the
third query. -/
theorem loops_enumerate_mixedQueries :
    let manager := QueryManager.run false mixedQueries {}
    (∃ up : List StoredQuery, up.map Prod.fst = [1, 2, 3, 4, 5, 6] ∧
      ∃ enough, ∀ steps ≥ enough, manager.upLoop true steps = some up) ∧
    (∃ down : List StoredQuery, down.map Prod.fst = [6, 5, 4, 3, 2, 1] ∧
      ∃ enough, ∀ steps ≥ enough, manager.downLoop true steps = some down) ∧
    ∃ seen : List StoredQuery, seen.map Prod.fst = [6, 5, 4] ∧
      ∃ enough, ∀ steps ≥ enough, manager.refreshLoop true 3 steps = some seen := by
  intro manager
  have hinvariant : manager.Invariant := (invariant_init.run false mixedQueries).1
  have hids (id : QueryId) :
      (∃ options, manager.Stored id options) ↔ id ∈ [2, 5, 1, 3, 6, 4] := by
    have hmap : manager.vectors.flatten.map Prod.fst = [2, 5, 1, 3, 6, 4] := by
      rw [show manager.vectors = _ from vectors_mixedQueries]
      rfl
    rw [← hmap, List.mem_map]
    constructor
    · rintro ⟨options, hstored⟩
      exact ⟨(id, options), (mem_vectors_flatten hinvariant).mpr hstored, rfl⟩
    · rintro ⟨⟨id, options⟩, hmem, rfl⟩
      exact ⟨options, (mem_vectors_flatten hinvariant).mp hmem⟩
  obtain ⟨⟨up, hup, hincreasing, hall⟩, ⟨down, hdown, hdecreasing, hall'⟩, hrefresh⟩ :=
    loops_enumerate false true mixedQueries ⟨1, (hids 1).mpr (by decide)⟩
  obtain ⟨seen, hseen, hdecreasing', habove⟩ := hrefresh 3
  have hsame {ids : List QueryId} (h : [2, 5, 1, 3, 6, 4].Perm ids) {shown : List StoredQuery}
      (hshown : ∀ pair, pair ∈ shown ↔ manager.Stored pair.1 pair.2) (id : QueryId) :
      (∃ options, (id, options) ∈ shown) ↔ id ∈ ids :=
    (exists_congr fun options => hshown (id, options)).trans ((hids id).trans h.mem_iff)
  refine ⟨⟨up, ?_, hup⟩, ⟨down, ?_, hdown⟩, ⟨seen, ?_, hseen⟩⟩
  · exact ids_eq_of_pairwise (· < ·) (fun _ _ => Nat.lt_asymm) hincreasing (by decide)
      (hsame (by decide) hall)
  · exact ids_eq_of_pairwise (· > ·) (fun _ _ => Nat.lt_asymm) hdecreasing (by decide)
      (hsame (by decide) hall')
  · refine ids_eq_of_pairwise (· > ·) (fun _ _ => Nat.lt_asymm) hdecreasing' (by decide)
      fun id => ?_
    have habove' : (∃ options, (id, options) ∈ seen) ↔
        (∃ options, manager.Stored id options) ∧ 3 < id := by
      rw [← exists_and_right]
      exact exists_congr fun options => habove (id, options)
    have hperm : ([2, 5, 1, 3, 6, 4].filter fun id => decide (3 < id)).Perm [6, 5, 4] := by decide
    rw [habove', hids, ← hperm.mem_iff, List.mem_filter, decide_eq_true_eq]

end QueryManager

end Srv.Db.Qry

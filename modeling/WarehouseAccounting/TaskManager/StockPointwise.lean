import WarehouseAccounting.TaskManager.StockProgress

/-!
# The stock, row by row

The rows of `Warehouse_Item` after `ChangeCount` on different products: every row that belongs to
one of the items, every other row, and the rows that are new.

- `WarehouseItem.Changed.reduced`, `WarehouseItem.Changed.increased`: the rows after a change of
  the stock that has got to its end.
- `WarehouseItem.run_changeCount_reducing`, `WarehouseItem.run_changeCount_adding`: it gets there.
- `WarehouseItem.run_changeCount_missing`: unless what is reduced is not there; then nothing has
  been written.
-/

namespace TaskMgr.Tasks

open Ufa Srv.Db Srv.Db.Trsct Srv.Db.Sql Srv.Db.DbMgr.Scpts Relational

namespace WarehouseItem

/-! ## Rows and items -/

/-- The item that a row of the warehouse belongs to. -/
def itemOf (warehouseId : Int64) (items : List (Int64 × Int64)) (row : TableRow) :
    Option (Int64 × Int64) :=
  items.find? fun item => isItem warehouseId.toInt item.1.toInt row

/-- A row after a reduction: the count that is left, or nothing. -/
def reduced (warehouseId : Int64) (items : List (Int64 × Int64)) (row : TableRow) :
    Option TableRow :=
  (itemOf warehouseId items row).elim (some row) fun item =>
    if countOf row = item.2.toInt then none else some (setCount (countOf row - item.2.toInt) row)

/-- A row after an addition. -/
def increased (warehouseId : Int64) (items : List (Int64 × Int64)) (row : TableRow) : TableRow :=
  (itemOf warehouseId items row).elim row fun item => setCount (countOf row + item.2.toInt) row

/-- A row with the target of its product. -/
def targeted (warehouseId : Int64) (targets : List (Int64 × Int64)) (row : TableRow) : TableRow :=
  (itemOf warehouseId targets row).elim row fun item => setCount item.2.toInt row

/-- A row belongs to one product. -/
theorem isItem_unique {warehouseId productId other : Int} {row : TableRow}
    (h : isItem warehouseId productId row = true) (hother : isItem warehouseId other row = true) :
    productId = other := by
  simp only [isItem, Bool.and_eq_true, decide_eq_true_eq] at h hother
  have hsame := h.2.symm.trans hother.2
  injection hsame with hsame
  injection hsame

/-- The item of a row is the one with its product, when the products are different. -/
theorem itemOf_eq_some {warehouseId : Int64} {items : List (Int64 × Int64)}
    (hnodup : (items.map Prod.fst).Nodup) {item : Int64 × Int64} (hitem : item ∈ items)
    {row : TableRow} (hrow : isItem warehouseId.toInt item.1.toInt row = true) :
    itemOf warehouseId items row = some item := by
  unfold itemOf
  cases hfind : items.find? fun item => isItem warehouseId.toInt item.1.toInt row with
  | none => exact absurd hrow (by simpa using List.find?_eq_none.mp hfind item hitem)
  | some other =>
    have hother := List.mem_of_find?_eq_some hfind
    have hfound : isItem warehouseId.toInt other.1.toInt row = true := by
      simpa using List.find?_some hfind
    have hid := isItem_unique hfound hrow
    exact congrArg some (List.inj_on_of_nodup_map hnodup hother hitem (Int64.toInt_inj.mp hid))

/-- A row without an item belongs to none. -/
theorem itemOf_eq_none {warehouseId : Int64} {items : List (Int64 × Int64)} {row : TableRow} :
    itemOf warehouseId items row = none ↔
      ∀ item ∈ items, isItem warehouseId.toInt item.1.toInt row = false := by
  rw [itemOf, List.find?_eq_none]
  simp only [Bool.not_eq_true]

/-- A row is given its targets one after the other. -/
theorem map_targeted_cons {warehouseId productId target : Int64} {targets : List (Int64 × Int64)}
    (hnot : productId ∉ targets.map Prod.fst) (rows : List TableRow) :
    rows.map (targeted warehouseId ((productId, target) :: targets)) =
      (modifyRows warehouseId.toInt productId.toInt target.toInt rows).map
        (targeted warehouseId targets) := by
  rw [modifyRows, List.map_map]
  refine List.map_congr_left fun row _ => ?_
  show targeted warehouseId ((productId, target) :: targets) row =
    targeted warehouseId targets (if isItem warehouseId.toInt productId.toInt row then _ else row)
  unfold targeted itemOf
  rw [List.find?_cons]
  dsimp only
  cases hrow : isItem warehouseId.toInt productId.toInt row with
  | false => rw [if_neg Bool.false_ne_true]
  | true =>
    -- No later target is one of the same product.
    have hnone : itemOf warehouseId targets (setCount target.toInt row) = none := by
      refine itemOf_eq_none.mpr fun item hitem => ?_
      rw [← Bool.not_eq_true]
      intro hother
      rw [isItem_setCount] at hother
      refine hnot (List.mem_map.mpr ⟨item, hitem, ?_⟩)
      exact Int64.toInt_inj.mp (isItem_unique hother hrow)
    unfold itemOf at hnone
    rw [if_pos rfl, hnone]
    rfl

/-- The rows after all targets. -/
theorem Modified.rows {tables tables' : Tables} {warehouseId : Int64}
    {targets : List (Int64 × Int64)} (h : Modified Answers warehouseId tables targets tables')
    (hintegral : Integral schema tables) (hnodup : (targets.map Prod.fst).Nodup) :
    tables' .warehouseItem = (tables .warehouseItem).map (targeted warehouseId targets) ∧
      (∀ target ∈ targets, -2 ^ 31 ≤ target.2.toInt ∧ target.2.toInt ≤ 2 ^ 31 - 1) ∧
      ∀ table, table ≠ .warehouseItem → tables' table = tables table := by
  induction h with
  | nil tables =>
    refine ⟨?_, by simp, fun _ _ => rfl⟩
    have hsame : targeted warehouseId [] = id := rfl
    rw [hsame, List.map_id]
  | @cons tables middle tables' productId target query rows targets created modified rest ih =>
    obtain ⟨hrange, hrows, hothers⟩ := answers_updateItem hintegral created modified
    rw [List.map_cons, List.nodup_cons] at hnodup
    obtain ⟨hrest, hranges, hframe⟩ := ih (modified.integral hintegral) hnodup.2
    refine ⟨?_, List.forall_mem_cons.mpr ⟨hrange, hranges⟩,
      fun table htable => (hframe table htable).trans (hothers table htable)⟩
    rw [hrest, hrows, map_targeted_cons hnodup.1]

/-- The changes on the items of a row. -/
theorem mem_changes {warehouseId : Int64} {isReducing : Bool} {rows : List TableRow}
    {items : List (Int64 × Int64)} {changes : List Change}
    (h : List.Forall₂ (Decides warehouseId isReducing rows) items changes)
    {item : Int64 × Int64} (hitem : item ∈ items) :
    (item ∈ criticalChanges changes ∧ Decides warehouseId isReducing rows item
        (.critical item.1 item.2)) ∨
      ∃ target, (item.1, target) ∈ modifyingChanges changes ∧
        Decides warehouseId isReducing rows item (.modify item.1 target) := by
  obtain ⟨change, hchange, hdecides⟩ := Exceptions.exists_of_forall₂_right h.flip hitem
  match change with
  | .critical productId count =>
    obtain ⟨rfl, rfl, -⟩ := id hdecides
    exact .inl ⟨List.mem_filterMap.mpr ⟨_, hchange, rfl⟩, hdecides⟩
  | .modify productId target =>
    obtain ⟨rfl, -⟩ := id hdecides
    exact .inr ⟨target, List.mem_filterMap.mpr ⟨_, hchange, rfl⟩, hdecides⟩

/-- A row that is stored is the only one of its product. -/
theorem filter_isItem_eq_singleton {tables : Tables} (hintegral : Integral schema tables)
    {warehouseId productId : Int} {row : TableRow} (hrow : row ∈ tables .warehouseItem)
    (hitem : isItem warehouseId productId row = true) :
    (tables .warehouseItem).filter (isItem warehouseId productId) = [row] := by
  have hmem : row ∈ (tables .warehouseItem).filter (isItem warehouseId productId) :=
    List.mem_filter.mpr ⟨hrow, hitem⟩
  rcases filter_isItem hintegral warehouseId productId with hnil | ⟨other, -, hone⟩
  · rw [hnil] at hmem
    cases hmem
  · rw [hone] at hmem ⊢
    rw [List.mem_singleton.mp hmem]

/-- So its count is what is stored of the product. -/
theorem stored_eq_countOf {tables : Tables} (hintegral : Integral schema tables)
    {warehouseId productId : Int} {row : TableRow} (hrow : row ∈ tables .warehouseItem)
    (hitem : isItem warehouseId productId row = true) :
    stored warehouseId productId (tables .warehouseItem) = countOf row := by
  rw [stored, filter_isItem_eq_singleton hintegral hrow hitem, List.map_singleton,
    List.sum_singleton]

/-- The rows after a reduction by no more than there is. -/
theorem Changed.reduced {tables tables' : Tables} {warehouseId : Int64}
    {items : List (Int64 × Int64)} (h : Changed Answers warehouseId true tables items tables')
    (hintegral : Integral schema tables) (hnodup : (items.map Prod.fst).Nodup)
    (henough : ∀ item ∈ items,
      item.2.toInt ≤ stored warehouseId.toInt item.1.toInt (tables .warehouseItem)) :
    tables' .warehouseItem =
        (tables .warehouseItem).filterMap (WarehouseItem.reduced warehouseId items) ∧
      ∀ table, table ≠ .warehouseItem → tables' table = tables table := by
  obtain ⟨changes, decided, handled, hdecided, hhandled, hmodified⟩ := h
  obtain ⟨rfl, hchanges⟩ := hdecided.decides hintegral
  have hperm := (perm_changes hchanges).nodup_iff.mpr hnodup
  obtain ⟨-, hmodifying, hdisjoint⟩ := List.nodup_append.mp hperm
  -- The critical rows are deleted, if there are any.
  have hdeleted : Integral schema handled ∧
      handled .warehouseItem = (decided .warehouseItem).filter (fun row => !isItemOf
        warehouseId.toInt ((criticalChanges changes).map fun item => item.1.toInt) row) ∧
      ∀ table, table ≠ .warehouseItem → handled table = decided table := by
    rcases hhandled with ⟨hnil, rfl⟩ | ⟨hne, query, answer, hquery, hanswers⟩
    · rw [hnil]
      exact ⟨hintegral, (List.filter_eq_self.mpr fun row _ => rfl).symm, fun _ _ => rfl⟩
    · rw [if_pos rfl] at hquery
      obtain ⟨hrows, hothers⟩ := answers_deleteItems hintegral hquery (by simpa using hne) hanswers
      rw [List.map_map] at hrows
      exact ⟨hanswers.integral hintegral, hrows, hothers⟩
  obtain ⟨hintegral', hrows, hothers⟩ := hdeleted
  obtain ⟨hrows', hranges, hothers'⟩ := hmodified.rows hintegral' hmodifying
  refine ⟨?_, fun table htable => (hothers' table htable).trans (hothers table htable)⟩
  rw [hrows', hrows, ← List.filterMap_eq_map, List.filterMap_filter]
  refine List.filterMap_congr fun row hrow => ?_
  have hids := fun productId : Int64 => (perm_changes hchanges).mem_iff (a := productId)
  cases hitem : itemOf warehouseId items row with
  | none =>
    have hnone := itemOf_eq_none.mp hitem
    have hother : ∀ productId ∈ (criticalChanges changes).map Prod.fst ++
        (modifyingChanges changes).map Prod.fst,
        isItem warehouseId.toInt productId.toInt row = false := by
      intro productId hproductId
      obtain ⟨item, hmem, rfl⟩ := List.mem_map.mp ((hids productId).mp hproductId)
      exact hnone item hmem
    have hkept : isItemOf warehouseId.toInt
        ((criticalChanges changes).map fun item => item.1.toInt) row = false := by
      rw [isItemOf, List.any_map, List.any_eq_false]
      intro item hmem
      rw [Bool.not_eq_true]
      exact hother item.1 (List.mem_append_left _ (List.mem_map_of_mem hmem))
    have htarget : itemOf warehouseId (modifyingChanges changes) row = none :=
      itemOf_eq_none.mpr fun item hmem =>
        hother item.1 (List.mem_append_right _ (List.mem_map_of_mem hmem))
    rw [hkept, Function.comp_apply, WarehouseItem.reduced, targeted, hitem, htarget]
    rfl
  | some item =>
    have hmem := List.mem_of_find?_eq_some hitem
    have hisItem : isItem warehouseId.toInt item.1.toInt row = true := by
      simpa using List.find?_some hitem
    have hstored := stored_eq_countOf hintegral hrow hisItem
    rcases mem_changes hchanges hmem with ⟨hcritical, -, -, hdecides⟩ |
      ⟨target, htarget, -, -, hless, hcount⟩
    · -- All that there is has been taken.
      rw [if_pos rfl, hstored] at hdecides
      have hall := henough item hmem
      rw [hstored] at hall
      have hgone : isItemOf warehouseId.toInt
          ((criticalChanges changes).map fun item => item.1.toInt) row = true := by
        rw [isItemOf, List.any_map, List.any_eq_true]
        exact ⟨item, hcritical, hisItem⟩
      rw [hgone, WarehouseItem.reduced, hitem]
      show none = if countOf row = item.2.toInt then none else _
      rw [if_pos (Int.le_antisymm hdecides.2 hall)]
    · have hkept : isItemOf warehouseId.toInt
          ((criticalChanges changes).map fun item => item.1.toInt) row = false := by
        rw [isItemOf, List.any_map, List.any_eq_false]
        intro other hother hotherItem
        have hsame := Int64.toInt_inj.mp (isItem_unique hotherItem hisItem)
        exact hdisjoint _ (List.mem_map_of_mem hother) _ (List.mem_map_of_mem htarget) hsame
      have hitemTarget : itemOf warehouseId (modifyingChanges changes) row =
          some (item.1, target) := itemOf_eq_some hmodifying htarget hisItem
      have hleft := hless rfl
      have hvalue := hcount (hranges _ htarget)
      rw [hstored] at hleft hvalue
      rw [if_pos rfl] at hvalue
      rw [hkept, Function.comp_apply, WarehouseItem.reduced, targeted, hitem, hitemTarget]
      show some (setCount target.toInt row) = if countOf row = item.2.toInt then none
        else some (setCount (countOf row - item.2.toInt) row)
      rw [if_neg (by omega), hvalue, Int.neg_one_mul, Int.sub_eq_add_neg]

/-- What is added without a row is created. -/
theorem criticalChanges_adding {warehouseId : Int64} {rows : List TableRow}
    {items : List (Int64 × Int64)} {changes : List Change}
    (h : List.Forall₂ (Decides warehouseId false rows) items changes) :
    criticalChanges changes = items.filter fun item =>
      (rows.filter (isItem warehouseId.toInt item.1.toInt)).isEmpty := by
  induction h with
  | nil => rfl
  | @cons item change items changes hitem hitems ih =>
    match change with
    | .critical productId count =>
      obtain ⟨rfl, rfl, hnone⟩ := hitem
      have hnone : rows.filter (isItem warehouseId.toInt item.1.toInt) = [] := hnone
      rw [List.filter_cons_of_pos (by rw [hnone]; rfl), ← ih]
      rfl
    | .modify productId target =>
      obtain ⟨rfl, hone, -⟩ := hitem
      rw [List.filter_cons_of_neg, ← ih]
      · rfl
      · rw [List.isEmpty_iff]
        intro hnil
        rw [hnil] at hone
        cases hone

/-- The rows after an addition. -/
theorem Changed.increased {tables tables' : Tables} {warehouseId : Int64}
    {items : List (Int64 × Int64)} (h : Changed Answers warehouseId false tables items tables')
    (hintegral : Integral schema tables) (hnodup : (items.map Prod.fst).Nodup) :
    tables' .warehouseItem =
        (tables .warehouseItem).map (WarehouseItem.increased warehouseId items) ++
          itemRows warehouseId (items.filter fun item =>
            ((tables .warehouseItem).filter
              (isItem warehouseId.toInt item.1.toInt)).isEmpty) ∧
      ∀ table, table ≠ .warehouseItem → tables' table = tables table := by
  obtain ⟨changes, decided, handled, hdecided, hhandled, hmodified⟩ := h
  obtain ⟨rfl, hchanges⟩ := hdecided.decides hintegral
  have hperm := (perm_changes hchanges).nodup_iff.mpr hnodup
  obtain ⟨-, hmodifying, hdisjoint⟩ := List.nodup_append.mp hperm
  -- The rows that are not there are created, if there are any.
  have hcreated : Integral schema handled ∧
      handled .warehouseItem = decided .warehouseItem ++
        itemRows warehouseId (criticalChanges changes) ∧
      ∀ table, table ≠ .warehouseItem → handled table = decided table := by
    rcases hhandled with ⟨hnil, rfl⟩ | ⟨-, query, answer, hquery, hanswers⟩
    · rw [hnil]
      exact ⟨hintegral, (List.append_nil _).symm, fun _ _ => rfl⟩
    · rw [if_neg Bool.false_ne_true] at hquery
      obtain ⟨hrows, hothers⟩ := answers_insertItems hquery hanswers
      exact ⟨hanswers.integral hintegral, hrows, hothers⟩
  obtain ⟨hintegral', hrows, hothers⟩ := hcreated
  obtain ⟨hrows', hranges, hothers'⟩ := hmodified.rows hintegral' hmodifying
  refine ⟨?_, fun table htable => (hothers' table htable).trans (hothers table htable)⟩
  rw [hrows', hrows, List.map_append, ← criticalChanges_adding hchanges]
  congr 1
  · refine List.map_congr_left fun row hrow => ?_
    have hids := fun productId : Int64 => (perm_changes hchanges).mem_iff (a := productId)
    cases hitem : itemOf warehouseId items row with
    | none =>
      have htarget : itemOf warehouseId (modifyingChanges changes) row = none := by
        refine itemOf_eq_none.mpr fun target hmem => ?_
        obtain ⟨item, hitemMem, hid⟩ := List.mem_map.mp
          ((hids target.1).mp (List.mem_append_right _ (List.mem_map_of_mem hmem)))
        rw [← hid]
        exact itemOf_eq_none.mp hitem item hitemMem
      rw [WarehouseItem.increased, targeted, hitem, htarget]
      rfl
    | some item =>
      have hmem := List.mem_of_find?_eq_some hitem
      have hisItem : isItem warehouseId.toInt item.1.toInt row = true := by
        simpa using List.find?_some hitem
      rcases mem_changes hchanges hmem with ⟨-, -, -, hnone⟩ | ⟨target, htarget, -, -, -, hcount⟩
      · rw [if_neg Bool.false_ne_true, filter_isItem_eq_singleton hintegral hrow hisItem] at hnone
        cases hnone
      · have hvalue := hcount (hranges _ htarget)
        rw [stored_eq_countOf hintegral hrow hisItem, if_neg Bool.false_ne_true, Int.one_mul]
          at hvalue
        rw [WarehouseItem.increased, targeted, hitem, itemOf_eq_some hmodifying htarget hisItem]
        show setCount target.toInt row = setCount (countOf row + item.2.toInt) row
        rw [hvalue]
  · refine (List.map_congr_left fun row hrow => ?_).trans (List.map_id _)
    obtain ⟨item, hitem, rfl⟩ := List.mem_map.mp hrow
    have hnone : itemOf warehouseId (modifyingChanges changes)
        (itemRow warehouseId.toInt item.1.toInt item.2.toInt) = none := by
      refine itemOf_eq_none.mpr fun target htarget => ?_
      rw [isItem_itemRow, Bool.and_eq_false_iff, decide_eq_false_iff_not,
        decide_eq_false_iff_not]
      right
      intro hsame
      exact hdisjoint _ (List.mem_map_of_mem hitem) _ (List.mem_map_of_mem htarget)
        (Int64.toInt_inj.mp hsame)
    rw [targeted, hnone]
    rfl

/-! ## Runs -/

/-- A difference that eight bytes hold. -/
theorem toInt_ofInt_sub {count : Int} (hcount : -2 ^ 31 ≤ count ∧ count ≤ 2 ^ 31 - 1)
    {change : Int64} (hrange : -2 ^ 31 ≤ count - change.toInt ∧ count - change.toInt ≤ 2 ^ 31 - 1) :
    (Int64.ofInt count - change).toInt = count - change.toInt := by
  rw [Int64.toInt_sub, Int64.toInt_ofInt_of_le (by omega) (by omega), Int.bmod_def]
  omega

/-- A sum that eight bytes hold. -/
theorem toInt_ofInt_add {count : Int} (hcount : -2 ^ 31 ≤ count ∧ count ≤ 2 ^ 31 - 1)
    {change : Int64} (hrange : -2 ^ 31 ≤ count + change.toInt ∧ count + change.toInt ≤ 2 ^ 31 - 1) :
    (Int64.ofInt count + change).toInt = count + change.toInt := by
  rw [Int64.toInt_add, Int64.toInt_ofInt_of_le (by omega) (by omega), Int.bmod_def]
  omega

section Runs

variable {choices : Nat → Choices} {clock : Nat} {tables : Tables} {warehouseId : Int64}
  {products : List Product} {items : List (Int64 × Int64)}

/-- A run that has got to its end has gone through its stages on the items. -/
theorem changed_of_run {isReducing : Bool} (hitems : Listed products items)
    (h : ((changeCount products warehouseId isReducing).run (quietDatabase choices).answers clock
      tables).outcome = .ok ()) :
    Changed Answers warehouseId isReducing tables items
      ((changeCount products warehouseId isReducing).run (quietDatabase choices).answers clock
        tables).state := by
  obtain ⟨items', hitems', hchanged⟩ := exists_changed (Program.completes_clocked.mpr ⟨h, rfl, rfl⟩)
  rw [hitems.unique hitems']
  exact hchanged

/-- The decisions are made by the rows. -/
theorem decides_changeFor (hintegral : Integral schema tables) {isReducing : Bool}
    (hitems : Listed products items)
    (hfound : isReducing = true → ∀ item ∈ items,
      (tables .warehouseItem).filter (isItem warehouseId.toInt item.1.toInt) ≠ []) :
    List.Forall₂ (Decides warehouseId isReducing (tables .warehouseItem)) items
      (items.map (changeFor warehouseId isReducing (tables .warehouseItem))) := by
  have hcompletes := @completes_changesOf_rows (fun _ => storedOrder) 0 tables hintegral
    warehouseId isReducing products items hitems hfound
  obtain ⟨items', hitems', hdecided⟩ := completes_changesOf (Program.Completes.map Prod.snd
    quiet_answers (allQuestions_changesOf warehouseId isReducing products) hcompletes)
  rw [← hitems.unique hitems'] at hdecided
  exact (hdecided.decides hintegral).2

/-- What is reduced is there, and the row has the count that is left. -/
theorem run_changeCount_reducing (hintegral : Integral schema tables)
    (hparents : StockHasParents tables) (hitems : Listed products items)
    (hnodup : (items.map Prod.fst).Nodup)
    (henough : ∀ item ∈ items, ∃ row ∈ tables .warehouseItem,
      isItem warehouseId.toInt item.1.toInt row = true ∧
        0 < item.2.toInt ∧ item.2.toInt ≤ countOf row) :
    let ran := (changeCount products warehouseId true).run (quietDatabase choices).answers clock
      tables
    ran.outcome = .ok () ∧
      ran.state .warehouseItem = (tables .warehouseItem).filterMap (reduced warehouseId items) ∧
      ∀ table, table ≠ .warehouseItem → ran.state table = tables table := by
  have hfound : ∀ item ∈ items,
      (tables .warehouseItem).filter (isItem warehouseId.toInt item.1.toInt) ≠ [] := by
    intro item hitem hnil
    obtain ⟨row, hrow, hisItem, -⟩ := henough item hitem
    exact List.filter_eq_nil_iff.mp hnil row hrow hisItem
  have henough' : ∀ item ∈ items,
      item.2.toInt ≤ stored warehouseId.toInt item.1.toInt (tables .warehouseItem) := by
    intro item hitem
    obtain ⟨row, hrow, hisItem, -, hle⟩ := henough item hitem
    rwa [stored_eq_countOf hintegral hrow hisItem]
  have htargets : ∀ target ∈ modifyingChanges
      (items.map (changeFor warehouseId true (tables .warehouseItem))),
      -2 ^ 31 ≤ target.2.toInt ∧ target.2.toInt ≤ 2 ^ 31 - 1 := by
    intro target htarget
    obtain ⟨change, hchange, hmodify⟩ := List.mem_filterMap.mp htarget
    obtain ⟨item, hitem, rfl⟩ := List.mem_map.mp hchange
    obtain ⟨row, hrow, hisItem, hpos, hle⟩ := henough item hitem
    have hcount := (count_of_integral hintegral hrow).2
    unfold changeFor at hmodify
    rw [filter_isItem_eq_singleton hintegral hrow hisItem] at hmodify
    dsimp only at hmodify
    rw [if_pos rfl] at hmodify
    by_cases hall : Int64.ofInt (countOf row) ≤ item.2
    · rw [if_pos hall] at hmodify
      cases hmodify
    · rw [if_neg hall] at hmodify
      cases hmodify
      have hless : item.2.toInt < countOf row := by
        rwa [Int64.le_iff_toInt_le, Int64.toInt_ofInt_of_le (by omega) (by omega), not_le] at hall
      dsimp only
      rw [toInt_ofInt_sub hcount ⟨by omega, by omega⟩]
      omega
  obtain ⟨clock', tables', hcompletes⟩ := @exists_changeCount choices clock tables hintegral
    hparents warehouseId true products items hitems (fun _ => hfound) (fun h => by cases h) htargets
  have hok := (Program.completes_clocked.mp hcompletes).1
  exact ⟨hok, (changed_of_run hitems hok).reduced hintegral hnodup henough'⟩

/-- What may be added: the sum has four bytes, and what has no row belongs to a product and a
warehouse that are there. -/
def Addable (tables : Tables) (warehouseId : Int64) (item : Int64 × Int64) : Prop :=
  stored warehouseId.toInt item.1.toInt (tables .warehouseItem) + item.2.toInt ≤ 2 ^ 31 - 1 ∧
    ((tables .warehouseItem).filter (isItem warehouseId.toInt item.1.toInt) = [] →
      HasProduct tables item.1.toInt ∧ HasWarehouse tables warehouseId.toInt)

/-- Rows that were created belong to products and a warehouse that are there. -/
theorem parentsExist_of_answers {tables' : Tables} {query : Query} {rows : Rows}
    (hquery : insertItems warehouseId items = .ok query)
    (h : Answers tables (sent query) rows tables') {item : Int64 × Int64} (hitem : item ∈ items) :
    schema.parentsExist tables .warehouseItem
      (itemRow warehouseId.toInt item.1.toInt item.2.toInt) = true := by
  obtain ⟨choices, writes, hexecute, -⟩ := h
  obtain ⟨hperform, haccepts⟩ := execute_eq_ok.mp hexecute
  rw [perform_insertItems hquery hperform, accepts, Bool.and_eq_true, List.all_map,
    List.all_eq_true] at haccepts
  have hparents := haccepts.2 _ (List.mem_map_of_mem hitem)
  rw [← hparents]
  refine (parentsExist_congr (fun table htable => ?_) _).symm
  rw [applyAll_insert, if_neg htable]

/-- What was added might be added. -/
theorem Changed.addable {tables' : Tables}
    (h : Changed Answers warehouseId false tables items tables')
    (hintegral : Integral schema tables) (hnodup : (items.map Prod.fst).Nodup) :
    ∀ item ∈ items, Addable tables warehouseId item := by
  obtain ⟨changes, decided, handled, hdecided, hhandled, hmodified⟩ := h
  obtain ⟨rfl, hchanges⟩ := hdecided.decides hintegral
  have hperm := (perm_changes hchanges).nodup_iff.mpr hnodup
  obtain ⟨-, hmodifying, -⟩ := List.nodup_append.mp hperm
  intro item hitem
  rcases mem_changes hchanges hitem with ⟨hcritical, -, -, hnone⟩ |
    ⟨target, htarget, -, hone, -, hcount⟩
  · -- It was created.
    rw [if_neg Bool.false_ne_true] at hnone
    rcases hhandled with ⟨hnil, -⟩ | ⟨-, query, answer, hquery, hanswers⟩
    · rw [hnil] at hcritical
      cases hcritical
    · rw [if_neg Bool.false_ne_true] at hquery
      have hparents := parentsExist_of_answers hquery hanswers hcritical
      have hrow : itemRow warehouseId.toInt item.1.toInt item.2.toInt ∈ handled .warehouseItem := by
        rw [(answers_insertItems hquery hanswers).1]
        exact List.mem_append_right _ (List.mem_map_of_mem hcritical)
      refine ⟨?_, fun _ => parentsExist_itemRow.mp hparents⟩
      rw [stored, hnone, List.map_nil, List.sum_nil, Int.zero_add]
      exact (count_of_integral (hanswers.integral hintegral) hrow).2.2
  · -- Its row was changed.
    have hintegral' : Integral schema handled := by
      rcases hhandled with ⟨-, rfl⟩ | ⟨-, query, answer, -, hanswers⟩
      · exact hintegral
      · exact hanswers.integral hintegral
    have hrange := (hmodified.rows hintegral' hmodifying).2.1 _ htarget
    have hsum := hcount hrange
    rw [if_neg Bool.false_ne_true, Int.one_mul] at hsum
    refine ⟨?_, fun hnil => ?_⟩
    · rw [← hsum]
      exact hrange.2
    · rw [hnil] at hone
      cases hone

/-- What may be added is added, and nothing else is. -/
theorem run_changeCount_adding (hintegral : Integral schema tables)
    (hparents : StockHasParents tables) (hitems : Listed products items)
    (hnodup : (items.map Prod.fst).Nodup) (hpositive : ∀ item ∈ items, 0 < item.2.toInt) :
    let ran := (changeCount products warehouseId false).run (quietDatabase choices).answers clock
      tables
    (ran.outcome = .ok () ↔ ∀ item ∈ items, Addable tables warehouseId item) ∧
      (ran.outcome = .ok () →
        ran.state .warehouseItem = (tables .warehouseItem).map (increased warehouseId items) ++
            itemRows warehouseId (items.filter fun item => ((tables .warehouseItem).filter
              (isItem warehouseId.toInt item.1.toInt)).isEmpty) ∧
          ∀ table, table ≠ .warehouseItem → ran.state table = tables table) := by
  refine ⟨⟨fun hok => (changed_of_run hitems hok).addable hintegral hnodup, fun haddable => ?_⟩,
    fun hok => (changed_of_run hitems hok).increased hintegral hnodup⟩
  have hdecides := @decides_changeFor tables warehouseId products items hintegral false hitems
    fun h => by cases h
  have hperm := (perm_changes hdecides).nodup_iff.mpr hnodup
  have hcreatable : Creatable tables warehouseId
      (criticalChanges (items.map (changeFor warehouseId false (tables .warehouseItem)))) := by
    have hnew := criticalChanges_adding hdecides
    refine ⟨(List.nodup_append.mp hperm).1, fun item hitem => ?_, fun item hitem => ?_,
      fun item hitem => ?_⟩
    all_goals
      rw [hnew, List.mem_filter, List.isEmpty_iff] at hitem
      obtain ⟨hitem, hnone⟩ := hitem
      have hadd := haddable item hitem
      have hpos := hpositive item hitem
    · exact hnone
    · rw [Addable, stored, hnone, List.map_nil, List.sum_nil, Int.zero_add] at hadd
      exact ⟨by omega, hadd.1⟩
    · exact parentsExist_itemRow.mpr (hadd.2 hnone)
  have htargets : ∀ target ∈ modifyingChanges
      (items.map (changeFor warehouseId false (tables .warehouseItem))),
      -2 ^ 31 ≤ target.2.toInt ∧ target.2.toInt ≤ 2 ^ 31 - 1 := by
    intro target htarget
    obtain ⟨change, hchange, hmodify⟩ := List.mem_filterMap.mp htarget
    obtain ⟨item, hitem, rfl⟩ := List.mem_map.mp hchange
    have hpos := hpositive item hitem
    have hsum := (haddable item hitem).1
    unfold changeFor at hmodify
    rcases filter_isItem hintegral warehouseId.toInt item.1.toInt with hnil | ⟨row, hrow, hone⟩
    · rw [hnil] at hmodify
      cases hmodify
    · rw [hone] at hmodify
      cases hmodify
      have hcount := (count_of_integral hintegral hrow).2
      rw [stored, hone, List.map_singleton, List.sum_singleton] at hsum
      dsimp only
      rw [toInt_ofInt_add hcount ⟨by omega, hsum⟩]
      omega
  obtain ⟨clock', tables', hcompletes⟩ := @exists_changeCount choices clock tables hintegral
    hparents warehouseId false products items hitems (fun h => by cases h) (fun _ => hcreatable)
    htargets
  exact (Program.completes_clocked.mp hcompletes).1

/-- The decisions read counts, and nothing else. -/
theorem readsCounts_changesOf (warehouseId : Int64) (isReducing : Bool) (products : List Product) :
    (changesOf warehouseId isReducing products).AllQuestions fun statement =>
      ∃ productId, statement = sent (selectCount productId warehouseId) := by
  induction products with
  | nil => trivial
  | cons product products ih =>
    rw [changesOf]
    have hchange : (changeOf warehouseId isReducing product).AllQuestions fun statement =>
        ∃ productId, statement = sent (selectCount productId warehouseId) := by
      unfold changeOf
      refine (Script.allQuestions_ofExcept _).bind fun productId => ?_
      refine (Script.allQuestions_ofExcept _).bind fun count => ?_
      refine Program.AllQuestions.bind (Script.allQuestions_execute ⟨productId, rfl⟩)
        fun selectResult => ?_
      split
      · trivial
      · refine (Script.allQuestions_ofExcept _).bind fun critical => ?_
        split
        · trivial
        · exact (Script.allQuestions_ofExcept _).bind fun target => trivial
    exact hchange.bind fun change => ih.bind fun changes => trivial

/-- When something that is reduced has no row, that is found out before anything is written. -/
theorem run_changesOf_missing (hintegral : Integral schema tables) (hitems : Listed products items)
    (hmissing : ∃ item ∈ items,
      (tables .warehouseItem).filter (isItem warehouseId.toInt item.1.toInt) = []) :
    let ran := (changesOf warehouseId true products).run (quietDatabase choices).answers clock
      tables
    ran.outcome = .error .integrityConstraintViolation ∧ ran.state = tables := by
  unfold Listed at hitems
  induction hitems generalizing clock with
  | nil =>
    obtain ⟨item, hitem, -⟩ := hmissing
    cases hitem
  | @cons product item products items hproduct hrest ih =>
    rw [changesOf, Program.bind_eq_andThen]
    by_cases hfound : (tables .warehouseItem).filter
        (isItem warehouseId.toInt item.1.toInt) = []
    · -- It is this product.
      have hread := @quiet_selectCount choices clock tables hintegral item.1 warehouseId
      rw [hfound] at hread
      have hrun : (changeOf warehouseId true product).run (quietDatabase choices).answers clock
          tables = ⟨.error .integrityConstraintViolation, (), tables, clock + 1,
            [sent (selectCount item.1 warehouseId)]⟩ := by
        unfold changeOf
        rw [hproduct.1, hproduct.2]
        exact (Program.run_issue_of_ok hread.1 () _).trans rfl
      have herror : ((changeOf warehouseId true product).run (quietDatabase choices).answers clock
          tables).outcome = .error .integrityConstraintViolation := by rw [hrun]
      dsimp only
      rw [Program.run_andThen_of_error herror, hrun]
      exact ⟨rfl, rfl⟩
    · -- It is a later one.
      have hmissing' : ∃ item ∈ items, (tables .warehouseItem).filter
          (isItem warehouseId.toInt item.1.toInt) = [] := by
        obtain ⟨other, hother, hnone⟩ := hmissing
        rcases List.mem_cons.mp hother with rfl | hother
        · exact absurd hnone hfound
        · exact ⟨other, hother, hnone⟩
      obtain ⟨hok, -, hafter⟩ := Program.completes_clocked.mp
        (@completes_changeOf_row choices clock tables hintegral warehouseId true product item
          hproduct fun _ => hfound)
      obtain ⟨hclock, hstate⟩ := Prod.mk.inj hafter
      obtain ⟨herror, hkept⟩ := @ih (clock + 1) hmissing'
      dsimp only at hclock hstate ⊢
      rw [Program.run_andThen_of_ok hok]
      dsimp only
      rw [hclock, hstate, Program.bind_eq_andThen, Program.run_andThen_of_error herror]
      exact ⟨rfl, hkept⟩

/-- Then it is a violation of integrity, and only counts have been read. -/
theorem run_changeCount_missing (hintegral : Integral schema tables)
    (hitems : Listed products items)
    (hmissing : ∃ item ∈ items,
      (tables .warehouseItem).filter (isItem warehouseId.toInt item.1.toInt) = []) :
    let ran := (changeCount products warehouseId true).run (quietDatabase choices).answers clock
      tables
    ran.outcome = .error .integrityConstraintViolation ∧ ran.state = tables ∧
      ∀ statement ∈ ran.questions, ∃ productId,
        statement = sent (selectCount productId warehouseId) := by
  obtain ⟨herror, hstate⟩ := @run_changesOf_missing choices clock tables warehouseId products items
    hintegral hitems hmissing
  dsimp only
  unfold changeCount
  rw [Program.bind_eq_andThen, Program.run_andThen_of_error herror]
  exact ⟨rfl, hstate, (readsCounts_changesOf warehouseId true products).run _ _ _⟩

/-- `ChangeCount` on a list of products. When a row is missing, a reduction is a violation of
integrity before anything is written. When the products are different and the stock belongs to
products and warehouses that are there, a reduction by no more than there is leaves each row with
what is left of it, if anything, and the other rows. An addition of positive counts then gets to its
end exactly when no sum has more than four bytes and what has no row may have one; each row has the
sum, the missing rows have been created, and the other rows are the same. -/
theorem changeCount_pointwise (choices : Nat → Choices) (clock : Nat)
    (hintegral : Integral schema tables) (warehouseId : Int64) (hitems : Listed products items) :
    let ran := fun isReducing => (changeCount products warehouseId isReducing).run
      (quietDatabase choices).answers clock tables
    ((∃ item ∈ items, ∀ row ∈ tables .warehouseItem,
        isItem warehouseId.toInt item.1.toInt row = false) →
      (ran true).outcome = .error .integrityConstraintViolation ∧ (ran true).state = tables ∧
        ∀ statement ∈ (ran true).questions, ∃ productId,
          statement = sent (selectCount productId warehouseId)) ∧
    (StockHasParents tables → (items.map Prod.fst).Nodup →
      ((∀ item ∈ items, ∃ row ∈ tables .warehouseItem,
          isItem warehouseId.toInt item.1.toInt row = true ∧
            0 < item.2.toInt ∧ item.2.toInt ≤ countOf row) →
        (ran true).outcome = .ok () ∧
          (ran true).state .warehouseItem =
            (tables .warehouseItem).filterMap (reduced warehouseId items) ∧
          ∀ table, table ≠ .warehouseItem → (ran true).state table = tables table) ∧
      ((∀ item ∈ items, 0 < item.2.toInt) →
        ((ran false).outcome = .ok () ↔ ∀ item ∈ items, Addable tables warehouseId item) ∧
        ((ran false).outcome = .ok () →
          (ran false).state .warehouseItem =
              (tables .warehouseItem).map (increased warehouseId items) ++
                itemRows warehouseId (items.filter fun item => ((tables .warehouseItem).filter
                  (isItem warehouseId.toInt item.1.toInt)).isEmpty) ∧
            ∀ table, table ≠ .warehouseItem → (ran false).state table = tables table))) := by
  refine ⟨?_, fun hparents hnodup => ⟨run_changeCount_reducing hintegral hparents hitems hnodup,
    run_changeCount_adding hintegral hparents hitems hnodup⟩⟩
  rintro ⟨item, hitem, hnone⟩
  refine run_changeCount_missing hintegral hitems ⟨item, hitem, ?_⟩
  exact List.filter_eq_nil_iff.mpr fun row hrow => Bool.not_eq_true _ ▸ hnone row hrow

end Runs

/-! ## One shelf -/

/-- A warehouse. -/
def shelfWarehouse : TableRow
  | .warehouseId => some (.integer 1)
  | .name => some (.text "main")
  | .prettyName => some (.text "1_main")
  | .createdDate => some (.integer 0)
  | .createdBy => some (.integer 1)
  | _ => none

/-- A product. -/
def shelfProduct : TableRow
  | .productId => some (.integer 7)
  | .name => some (.text "bolt")
  | .prettyName => some (.text "7_bolt")
  | .createdDate => some (.integer 0)
  | .createdBy => some (.integer 1)
  | _ => none

/-- So many pieces of the product in the warehouse. -/
def shelf (count : Int) : Tables
  | .user => [superuser]
  | .warehouse => [shelfWarehouse]
  | .product => [shelfProduct]
  | .warehouseItem => [itemRow 1 7 count]
  | _ => []

/-- The rows meet the constraints. -/
theorem shelf_integral {count : Int} (hcount : -2 ^ 31 ≤ count ∧ count ≤ 2 ^ 31 - 1) :
    Integral schema (shelf count) where
  conforms := by
    intro table row hrow
    cases table <;> simp only [shelf, List.not_mem_nil, List.mem_singleton] at hrow <;> subst hrow
    · decide
    · decide
    · decide
    · exact conforms_itemRow 1 7 hcount
  keys_nodup := by
    intro table
    cases table <;> simp [shelf]

/-- Nothing that a row refers to is missing. -/
theorem shelf_referential (count : Int) : Referential schema (shelf count) := by
  intro table row hrow
  cases table <;> simp only [shelf, List.not_mem_nil, List.mem_singleton] at hrow <;> subst hrow <;>
    rfl

/-- So many pieces of each product. -/
def pieces (items : List (Int64 × Int64)) : List Product :=
  items.map fun item => { id := some item.1, count := some item.2 }

/-- The pieces are listed. -/
theorem listed_pieces (items : List (Int64 × Int64)) : Listed (pieces items) items :=
  List.forall₂_map_left_iff.mpr (List.forall₂_same.mpr fun _ _ => ⟨rfl, rfl⟩)

/-- Two warehouses and four products: three of them are in the first warehouse, one of these is in
the second one as well. -/
def shelves : Tables
  | .user => [superuser]
  | .warehouse => [shelfWarehouse, Function.update shelfWarehouse .warehouseId (some (.integer 2))]
  | .product => shelfProduct :: [8, 9, 10].map fun productId =>
      Function.update shelfProduct .productId (some (.integer productId))
  | .warehouseItem => [itemRow 1 7 5, itemRow 1 8 2, itemRow 1 9 3, itemRow 2 7 4]
  | _ => []

/-- The rows meet the constraints. -/
theorem shelves_integral : Integral schema shelves where
  conforms := by
    intro table
    cases table <;> decide +kernel
  keys_nodup := by
    intro table
    cases table <;> decide +kernel

/-- A row of the stock. -/
def stockOf (row : TableRow) : Option Value × Option Value × Option Value :=
  (row .warehouseId, row .productId, row .count)

/-- Two of five pieces of the first product and all of the second one leave the first warehouse, or
pieces of the first and of the last product come there, of which nothing can leave. -/
theorem changeCount_pointwise_shelves :
    let ran := fun items isReducing => (changeCount (pieces items) 1 isReducing).run
      (quietDatabase fun _ => storedOrder).answers 0 shelves
    ((ran [(7, 2), (8, 2)] true).state .warehouseItem).map stockOf =
        [itemRow 1 7 3, itemRow 1 9 3, itemRow 2 7 4].map stockOf ∧
      ((ran [(7, 2), (10, 6)] false).state .warehouseItem).map stockOf =
        [itemRow 1 7 7, itemRow 1 8 2, itemRow 1 9 3, itemRow 2 7 4, itemRow 1 10 6].map stockOf ∧
      (ran [(7, 2), (10, 6)] true).outcome = .error .integrityConstraintViolation := by
  have hparents : StockHasParents shelves := by
    unfold StockHasParents
    decide +kernel
  refine ⟨?_, ?_, ?_⟩
  · have hreducing := (changeCount_pointwise (fun _ => storedOrder) 0 shelves_integral 1
      (listed_pieces [(7, 2), (8, 2)])).2 hparents (by decide)
    have hfewer := hreducing.1 (List.forall_mem_cons.mpr
      ⟨by decide +kernel, List.forall_mem_singleton.mpr (by decide +kernel)⟩)
    rw [hfewer.2.1]
    decide +kernel
  · obtain ⟨hadding, hadded⟩ := ((changeCount_pointwise (fun _ => storedOrder) 0 shelves_integral 1
      (listed_pieces [(7, 2), (10, 6)])).2 hparents (by decide)).2
      (List.forall_mem_cons.mpr ⟨by decide, List.forall_mem_singleton.mpr (by decide)⟩)
    unfold Addable HasProduct HasWarehouse at hadding
    have hmore := hadded (hadding.mpr (List.forall_mem_cons.mpr
      ⟨by decide +kernel, List.forall_mem_singleton.mpr (by decide +kernel)⟩))
    rw [hmore.1]
    decide +kernel
  · exact ((changeCount_pointwise (fun _ => storedOrder) 0 shelves_integral 1
      (listed_pieces [(7, 2), (10, 6)])).1 (by decide +kernel)).1

/-- One piece cannot be added to a full row. -/
theorem changeCount_full_refused :
    ¬ ∀ (tables : Tables) (products : List Product) (items : List (Int64 × Int64)),
      Integral schema tables → Referential schema tables → Listed products items →
      (items.map Prod.fst).Nodup → (∀ item ∈ items, 0 < item.2.toInt) →
      ((changeCount products 1 false).run (quietDatabase fun _ => storedOrder).answers 0
        tables).outcome = .ok () := by
  intro hclaim
  have hok := congrArg Except.isOk (hclaim (shelf 2147483647) (pieces [(7, 1)]) _
    (shelf_integral ⟨by decide, by decide⟩) (shelf_referential _) (listed_pieces [(7, 1)]) (by simp)
    (by simp only [List.mem_singleton, forall_eq]; decide))
  revert hok
  decide +kernel

end WarehouseItem

end TaskMgr.Tasks

import WarehouseAccounting.TaskManager.StockPrograms
import Mathlib.Tactic.Ring

/-!
# What changes of the stock come to

The rows of `Warehouse_Item` after `ChangeCount`, and what becomes of sums over them in which
every pair of a warehouse and a product has a weight.

- `WarehouseItem.Changed.total`: the weighted sum after `ChangeCount` on different products.
- `WarehouseItem.Changed.allPositive`: positive counts leave positive rows.
-/

namespace TaskMgr.Tasks

open Ufa Srv.Db Srv.Db.Trsct Srv.Db.Sql Srv.Db.DbMgr.Scpts Relational

/-! ## Weighted sums -/

/-- The count of a row. -/
def countOf (row : TableRow) : Int :=
  match row .count with
  | some (.integer count) => count
  | _ => 0

/-- What is stored of a product in a warehouse: the counts of its rows. -/
def stored (warehouseId productId : Int) (rows : List TableRow) : Int :=
  ((rows.filter (isItem warehouseId productId)).map countOf).sum

/-- The count of a row, with the weight of its warehouse and its product. -/
def weigh (weight : Int → Int → Int) (row : TableRow) : Int :=
  match row .warehouseId, row .productId with
  | some (.integer warehouseId), some (.integer productId) =>
    weight warehouseId productId * countOf row
  | _, _ => 0

/-- The weighted sum of some rows. -/
def total (weight : Int → Int → Int) (rows : List TableRow) : Int :=
  (rows.map (weigh weight)).sum

section Sums

variable (weight : Int → Int → Int)

@[simp]
theorem total_nil : total weight [] = 0 := rfl

@[simp]
theorem total_cons (row : TableRow) (rows : List TableRow) :
    total weight (row :: rows) = weigh weight row + total weight rows := by
  simp [total]

@[simp]
theorem total_append (rows others : List TableRow) :
    total weight (rows ++ others) = total weight rows + total weight others := by
  simp [total]

/-- The rows that are selected, and the others. -/
theorem total_filter_add (selected : TableRow → Bool) (rows : List TableRow) :
    total weight (rows.filter selected) + total weight (rows.filter fun row => !selected row) =
      total weight rows := by
  induction rows with
  | nil => rfl
  | cons row rows ih =>
    rw [total_cons, ← ih]
    cases hrow : selected row
    · rw [List.filter_cons_of_neg (by simp [hrow]), List.filter_cons_of_pos (by simp [hrow]),
        total_cons]
      omega
    · rw [List.filter_cons_of_pos hrow, List.filter_cons_of_neg (by simp [hrow]), total_cons]
      omega

/-- The row of a warehouse and a product has their weight. -/
theorem weigh_of_isItem {warehouseId productId : Int} {row : TableRow}
    (h : isItem warehouseId productId row = true) :
    weigh weight row = weight warehouseId productId * countOf row := by
  simp only [isItem, Bool.and_eq_true, decide_eq_true_eq] at h
  simp [weigh, h.1, h.2]

/-- So do all rows of them. -/
theorem total_filter_isItem (warehouseId productId : Int) (rows : List TableRow) :
    total weight (rows.filter (isItem warehouseId productId)) =
      weight warehouseId productId * stored warehouseId productId rows := by
  unfold stored
  induction rows with
  | nil => simp
  | cons row rows ih =>
    cases hrow : isItem warehouseId productId row
    · rw [List.filter_cons_of_neg (by simp [hrow])]
      exact ih
    · rw [List.filter_cons_of_pos hrow, total_cons, ih, weigh_of_isItem weight hrow, List.map_cons,
        List.sum_cons, Int.mul_add]

@[simp]
theorem countOf_itemRow (warehouseId productId count : Int) :
    countOf (itemRow warehouseId productId count) = count := rfl

@[simp]
theorem countOf_setCount (target : Int) (row : TableRow) :
    countOf (setCount target row) = target := rfl

@[simp]
theorem isItem_setCount (warehouseId productId target : Int) (row : TableRow) :
    isItem warehouseId productId (setCount target row) = isItem warehouseId productId row := rfl

@[simp]
theorem isItem_itemRow (warehouseId productId warehouseId' productId' count : Int) :
    isItem warehouseId productId (itemRow warehouseId' productId' count) =
      (warehouseId' = warehouseId && productId' = productId) := by
  simp [isItem, itemRow]

@[simp]
theorem weigh_itemRow (warehouseId productId count : Int) :
    weigh weight (itemRow warehouseId productId count) = weight warehouseId productId * count :=
  rfl

end Sums

/-! ## Single statements -/

/-- A change of the count of the rows of a warehouse and a product. -/
def modifyRows (warehouseId productId target : Int) (rows : List TableRow) : List TableRow :=
  rows.map fun row => if isItem warehouseId productId row then setCount target row else row

/-- The rows of another pair stay as they are. -/
theorem filter_modifyRows_of_ne {warehouseId productId productId' : Int}
    (hne : productId' ≠ productId) (target : Int) (rows : List TableRow) :
    (modifyRows warehouseId productId target rows).filter (isItem warehouseId productId') =
      rows.filter (isItem warehouseId productId') := by
  unfold modifyRows
  induction rows with
  | nil => rfl
  | cons row rows ih =>
    rw [List.map_cons]
    cases hrow : isItem warehouseId productId row
    · rw [if_neg (by simp), List.filter_cons, List.filter_cons, ih]
    · have hother : isItem warehouseId productId' row = false := by
        simp only [isItem, Bool.and_eq_true, decide_eq_true_eq] at hrow
        simp [isItem, hrow.2, Ne.symm hne]
      rw [if_pos rfl, List.filter_cons_of_neg (by simp [hother]),
        List.filter_cons_of_neg (by simp [hother]), ih]

/-- The weighted sum after a change of counts. -/
theorem total_modifyRows (weight : Int → Int → Int) (warehouseId productId target : Int)
    (rows : List TableRow) :
    total weight (modifyRows warehouseId productId target rows) =
      total weight rows + weight warehouseId productId *
        ((rows.filter (isItem warehouseId productId)).length * target -
          stored warehouseId productId rows) := by
  unfold modifyRows stored
  induction rows with
  | nil => simp
  | cons row rows ih =>
    rw [List.map_cons, total_cons, total_cons, ih]
    cases hrow : isItem warehouseId productId row
    · rw [if_neg (by simp), List.filter_cons_of_neg (by simp [hrow])]
      omega
    · rw [if_pos rfl, List.filter_cons_of_pos hrow, List.map_cons, List.sum_cons,
        List.length_cons, weigh_of_isItem weight hrow,
        weigh_of_isItem weight ((isItem_setCount ..).trans hrow), countOf_setCount]
      push_cast
      ring

/-- A row of `Warehouse_Item` has a count of four bytes. -/
theorem count_of_integral {tables : Tables} (h : Integral schema tables) {row : TableRow}
    (hrow : row ∈ tables .warehouseItem) :
    row .count = some (.integer (countOf row)) ∧ -2 ^ 31 ≤ countOf row ∧
      countOf row ≤ 2 ^ 31 - 1 := by
  have hcolumn : (Column.count, ColumnType.int4) ∈ (schema.table .warehouseItem).columns :=
    .tail _ (.tail _ (.head _))
  obtain ⟨count, hcount, hrange⟩ := h.integer hrow hcolumn (by decide)
  rw [countOf, hcount]
  exact ⟨rfl, hrange⟩

/-- It belongs to a warehouse and a product. -/
theorem isItem_of_integral {tables : Tables} (h : Integral schema tables) {row : TableRow}
    (hrow : row ∈ tables .warehouseItem) :
    ∃ warehouseId productId, isItem warehouseId productId row = true := by
  have hfirst : (Column.warehouseId, ColumnType.int8) ∈ (schema.table .warehouseItem).columns :=
    .head _
  have hsecond : (Column.productId, ColumnType.int8) ∈ (schema.table .warehouseItem).columns :=
    .tail _ (.head _)
  obtain ⟨warehouseId, hwarehouse, -⟩ := h.integer hrow hfirst (by decide)
  obtain ⟨productId, hproduct, -⟩ := h.integer hrow hsecond (by decide)
  exact ⟨warehouseId, productId, by simp [isItem, hwarehouse, hproduct]⟩

/-- There is one row of a warehouse and a product at most. -/
theorem filter_isItem {tables : Tables} (h : Integral schema tables)
    (warehouseId productId : Int) :
    (tables .warehouseItem).filter (isItem warehouseId productId) = [] ∨
      ∃ row ∈ tables .warehouseItem,
        (tables .warehouseItem).filter (isItem warehouseId productId) = [row] := by
  have hnodup : (((tables .warehouseItem).filter (isItem warehouseId productId)).map
      (schema.keyOf .warehouseItem)).Nodup :=
    (h.keys_nodup .warehouseItem).sublist (List.filter_sublist.map _)
  rcases hrows : (tables .warehouseItem).filter (isItem warehouseId productId) with
    _ | ⟨row, _ | ⟨other, rest⟩⟩
  · exact .inl rfl
  · exact .inr ⟨row, List.mem_of_mem_filter (hrows ▸ List.mem_cons_self), rfl⟩
  · -- A second row would have the same key.
    rw [hrows] at hnodup
    have hrow : isItem warehouseId productId row = true :=
      List.of_mem_filter (hrows ▸ List.mem_cons_self)
    have hother : isItem warehouseId productId other = true :=
      List.of_mem_filter (hrows ▸ List.mem_cons_of_mem _ List.mem_cons_self)
    rw [List.map_cons, List.map_cons, List.nodup_cons] at hnodup
    refine absurd ?_ hnodup.1
    rw [isItem_iff_keyOf.mp hrow, isItem_iff_keyOf.mp hother]
    exact List.mem_cons_self

namespace WarehouseItem

/-- The stored count is read: nothing, or the count of the one row. -/
theorem answers_selectCount {tables tables' : Tables} {productId warehouseId : Int64} {rows : Rows}
    (hintegral : Integral schema tables)
    (h : Answers tables (sent (selectCount productId warehouseId)) rows tables') :
    tables' = tables ∧
      let items := (tables .warehouseItem).filter (isItem warehouseId.toInt productId.toInt)
      (items = [] ∧ rows = [] ∨
        ∃ row ∈ tables .warehouseItem, items = [row] ∧
          rows = [[some (toString (countOf row))]]) := by
  obtain ⟨choices, writes, hexecute, rfl⟩ := h
  have hperform := (execute_eq_ok.mp hexecute).1
  rw [perform_selectCount] at hperform
  cases hperform
  refine ⟨rfl, ?_⟩
  rcases filter_isItem hintegral warehouseId.toInt productId.toInt with hnil | ⟨row, hrow, hone⟩
  · left
    have hperm := choices.arrange_perm
      ((tables .warehouseItem).filter (isItem warehouseId.toInt productId.toInt))
    rw [hnil] at hperm ⊢
    exact ⟨rfl, by rw [hperm.eq_nil]; rfl⟩
  · right
    have hperm := choices.arrange_perm
      ((tables .warehouseItem).filter (isItem warehouseId.toInt productId.toInt))
    rw [hone] at hperm ⊢
    refine ⟨row, hrow, rfl, ?_⟩
    rw [hperm.eq_singleton, List.map_singleton, project, List.map_singleton,
      (count_of_integral hintegral hrow).1]
    rfl

/-- The count of the row of a product is changed, and nothing else. -/
theorem answers_updateItem {tables tables' : Tables} {warehouseId productId target : Int64}
    {query : Query} {rows : Rows} (hintegral : Integral schema tables)
    (hquery : updateItem warehouseId productId target = .ok query)
    (h : Answers tables (sent query) rows tables') :
    (-2 ^ 31 ≤ target.toInt ∧ target.toInt ≤ 2 ^ 31 - 1) ∧
      tables' .warehouseItem = modifyRows warehouseId.toInt productId.toInt target.toInt
        (tables .warehouseItem) ∧
      ∀ table, table ≠ .warehouseItem → tables' table = tables table := by
  obtain ⟨choices, writes, hexecute, rfl⟩ := h
  obtain ⟨hrange, -, rfl⟩ := perform_updateItem hquery (execute_eq_ok.mp hexecute).1
  have happlied := applyAll_replace Table.warehouseItem (isItem warehouseId.toInt productId.toInt)
    (setCount target.toInt) (hintegral.keys_nodup .warehouseItem) (keyOf_setCount _)
  refine ⟨hrange, ?_, fun table htable => ?_⟩
  · rw [happlied, if_pos rfl]
    rfl
  · rw [happlied, if_neg htable]

/-- The rows of some products are deleted, and nothing else. -/
theorem answers_deleteItems {tables tables' : Tables} {warehouseId : Int64}
    {productIds : List Int64} {query : Query} {rows : Rows} (hintegral : Integral schema tables)
    (hquery : deleteItems warehouseId productIds = .ok query) (hproductIds : productIds ≠ [])
    (h : Answers tables (sent query) rows tables') :
    tables' .warehouseItem = (tables .warehouseItem).filter (fun row =>
        !isItemOf warehouseId.toInt (productIds.map Int64.toInt) row) ∧
      ∀ table, table ≠ .warehouseItem → tables' table = tables table := by
  obtain ⟨choices, writes, hexecute, rfl⟩ := h
  have hperform := (execute_eq_ok.mp hexecute).1
  rw [perform_deleteItems hquery hproductIds] at hperform
  cases hperform
  have happlied := applyAll_delete Table.warehouseItem
    (isItemOf warehouseId.toInt (productIds.map Int64.toInt)) (hintegral.keys_nodup .warehouseItem)
  refine ⟨?_, fun table htable => ?_⟩
  · rw [happlied, if_pos rfl]
  · rw [happlied, if_neg htable]

/-- The rows of items. -/
def itemRows (warehouseId : Int64) (items : List (Int64 × Int64)) : List TableRow :=
  items.map fun item => itemRow warehouseId.toInt item.1.toInt item.2.toInt

/-- The rows of new items are added, and nothing else. -/
theorem answers_insertItems {tables tables' : Tables} {warehouseId : Int64}
    {items : List (Int64 × Int64)} {query : Query} {rows : Rows}
    (hquery : insertItems warehouseId items = .ok query)
    (h : Answers tables (sent query) rows tables') :
    tables' .warehouseItem = tables .warehouseItem ++ itemRows warehouseId items ∧
      ∀ table, table ≠ .warehouseItem → tables' table = tables table := by
  obtain ⟨choices, writes, hexecute, rfl⟩ := h
  have hwrites := perform_insertItems hquery (execute_eq_ok.mp hexecute).1
  rw [hwrites]
  refine ⟨?_, fun table htable => ?_⟩
  · rw [applyAll_insert, if_pos rfl]
    rfl
  · rw [applyAll_insert, if_neg htable]

/-! ## Decisions -/

/-- A stored count is read back. -/
theorem asInt64_toString {count : Int} (hrange : -2 ^ 31 ≤ count ∧ count ≤ 2 ^ 31 - 1) :
    asInt64 (some (toString count)) = .ok (Int64.ofInt count) := by
  have hminimum : Int64.minValue.toInt = -2 ^ 63 := rfl
  have hmaximum : Int64.maxValue.toInt = 2 ^ 63 - 1 := rfl
  rw [asInt64, getInt64, Decimal.parse_toString]
  dsimp only
  rw [if_pos ⟨by omega, by omega⟩]
  rfl

/-- What `ChangeCount` decides on an item, by the rows of `Warehouse_Item`. -/
def Decides (warehouseId : Int64) (isReducing : Bool) (rows : List TableRow)
    (item : Int64 × Int64) (change : Change) : Prop :=
  let found := rows.filter (isItem warehouseId.toInt item.1.toInt)
  match change with
  | .critical productId count =>
    productId = item.1 ∧ count = item.2 ∧
      if isReducing then found.length = 1 ∧ stored warehouseId.toInt item.1.toInt rows ≤ count.toInt
      else found = []
  | .modify productId target =>
    productId = item.1 ∧ found.length = 1 ∧
      (isReducing → item.2.toInt < stored warehouseId.toInt item.1.toInt rows) ∧
      (-2 ^ 31 ≤ target.toInt ∧ target.toInt ≤ 2 ^ 31 - 1 →
        target.toInt = stored warehouseId.toInt item.1.toInt rows +
          (if isReducing then -1 else 1) * item.2.toInt)

/-- A sum of eight bytes that fits in four is the sum, when one of its terms fits. -/
theorem toInt_of_bmod {count change target : Int}
    (hcount : -2 ^ 31 ≤ count ∧ count ≤ 2 ^ 31 - 1) (hchange : -2 ^ 63 ≤ change ∧ change ≤ 2 ^ 63)
    (htarget : target = (count + change).bmod (2 ^ 64))
    (hrange : -2 ^ 31 ≤ target ∧ target ≤ 2 ^ 31 - 1) : target = count + change := by
  rw [Int.bmod_def] at htarget
  omega

/-- The decision that is made from the rows of one statement. -/
theorem decides_of_decision {tables : Tables} (hintegral : Integral schema tables)
    {warehouseId productId count : Int64} {isReducing : Bool} {rows : Rows} {change : Change}
    (hrows : let items := (tables .warehouseItem).filter (isItem warehouseId.toInt productId.toInt)
      items = [] ∧ rows = [] ∨
        ∃ row ∈ tables .warehouseItem, items = [row] ∧ rows = [[some (toString (countOf row))]])
    (h : decision isReducing productId count rows = .ok change) :
    Decides warehouseId isReducing (tables .warehouseItem) (productId, count) change := by
  rcases hrows with ⟨hitems, rfl⟩ | ⟨row, hrow, hitems, rfl⟩
  · -- Nothing is stored.
    cases isReducing with
    | true => cases h
    | false =>
      cases h
      exact ⟨rfl, rfl, hitems⟩
  · have hrange := (count_of_integral hintegral hrow).2
    have hstored : stored warehouseId.toInt productId.toInt (tables .warehouseItem) =
        countOf row := by
      rw [stored, hitems]
      simp
    have hread : Rows.at [[some (toString (countOf row))]] 0 0 =
        .ok (some (toString (countOf row))) := rfl
    have hofInt : (Int64.ofInt (countOf row)).toInt = countOf row :=
      Int64.toInt_ofInt_of_le (by omega) (by omega)
    have hminimum := count.le_toInt
    have hmaximum := count.toInt_lt
    cases isReducing with
    | true =>
      unfold decision predicate calcTarget at h
      simp only [Bool.and_false, List.isEmpty_cons, Bool.false_eq_true, if_false, if_true, hread,
        ok_bind, asInt64_toString hrange, pure, Except.pure] at h
      split at h
      · rename_i hle
        cases h
        refine ⟨rfl, rfl, ?_⟩
        rw [if_pos rfl, hstored, ← hofInt]
        exact ⟨by rw [hitems]; rfl, Int64.le_iff_toInt_le.mp (of_decide_eq_true hle)⟩
      · rename_i hlt
        cases h
        rw [decide_eq_true_eq, Int64.le_iff_toInt_le, hofInt] at hlt
        refine ⟨rfl, by rw [hitems]; rfl, fun _ => ?_, fun htarget => ?_⟩
        · rw [hstored]
          exact Int.not_le.mp hlt
        · have hchange : -2 ^ 63 ≤ -count.toInt ∧ -count.toInt ≤ 2 ^ 63 := ⟨by omega, by omega⟩
          have hsub : (Int64.ofInt (countOf row) - count).toInt =
              (countOf row + -count.toInt).bmod (2 ^ 64) := by
            rw [Int64.toInt_sub, hofInt, Int.sub_eq_add_neg]
          rw [hstored, if_pos rfl, toInt_of_bmod hrange hchange hsub htarget, Int.neg_one_mul]
    | false =>
      unfold decision predicate calcTarget at h
      simp only [Bool.false_and, Bool.false_eq_true, if_false, List.isEmpty_cons, hread,
        ok_bind, asInt64_toString hrange, pure, Except.pure] at h
      cases h
      refine ⟨rfl, by rw [hitems]; rfl, fun hreducing => absurd hreducing (by simp), ?_⟩
      intro htarget
      have hadd : (Int64.ofInt (countOf row) + count).toInt =
          (countOf row + count.toInt).bmod (2 ^ 64) := by
        rw [Int64.toInt_add, hofInt]
      rw [hstored, if_neg (by simp), Int.one_mul,
        toInt_of_bmod hrange ⟨by omega, by omega⟩ hadd htarget]

/-- The decisions leave the database, and are made by its rows. -/
theorem Decided.decides {tables tables' : Tables} (hintegral : Integral schema tables)
    {warehouseId : Int64} {isReducing : Bool} {items : List (Int64 × Int64)}
    {changes : List Change}
    (h : Decided Answers warehouseId isReducing tables items changes tables') :
    tables' = tables ∧
      List.Forall₂ (Decides warehouseId isReducing (tables .warehouseItem)) items changes := by
  induction h with
  | nil state => exact ⟨rfl, .nil⟩
  | cons read decided rest ih =>
    obtain ⟨rfl, hrows⟩ := answers_selectCount hintegral read
    obtain ⟨rfl, hchanges⟩ := ih hintegral
    exact ⟨rfl, .cons (decides_of_decision hintegral hrows decided) hchanges⟩

/-- The products of the changes are those of the items, first the critical ones. -/
theorem perm_changes {warehouseId : Int64} {isReducing : Bool} {rows : List TableRow}
    {items : List (Int64 × Int64)} {changes : List Change}
    (h : List.Forall₂ (Decides warehouseId isReducing rows) items changes) :
    ((criticalChanges changes).map Prod.fst ++ (modifyingChanges changes).map Prod.fst).Perm
      (items.map Prod.fst) := by
  induction h with
  | nil => exact .nil
  | @cons item change items changes hitem hitems ih =>
    match change with
    | .critical productId count =>
      obtain ⟨rfl, -⟩ := hitem
      exact ih.cons _
    | .modify productId target =>
      obtain ⟨rfl, -⟩ := hitem
      exact List.perm_middle.trans (ih.cons _)

/-- What the decisions amount to, in a weighted sum: every item with its count. -/
theorem sum_changes (weight : Int → Int → Int) {warehouseId : Int64} {isReducing : Bool}
    {rows : List TableRow} {items : List (Int64 × Int64)} {changes : List Change}
    (h : List.Forall₂ (Decides warehouseId isReducing rows) items changes)
    (henough : isReducing = true → ∀ item ∈ items,
      item.2.toInt ≤ stored warehouseId.toInt item.1.toInt rows)
    (hrange : ∀ item ∈ modifyingChanges changes,
      -2 ^ 31 ≤ item.2.toInt ∧ item.2.toInt ≤ 2 ^ 31 - 1) :
    ((criticalChanges changes).map fun item => weight warehouseId.toInt item.1.toInt *
        (if isReducing then -stored warehouseId.toInt item.1.toInt rows else item.2.toInt)).sum +
      ((modifyingChanges changes).map fun item => weight warehouseId.toInt item.1.toInt *
        (item.2.toInt - stored warehouseId.toInt item.1.toInt rows)).sum =
      (items.map fun item => weight warehouseId.toInt item.1.toInt *
        ((if isReducing then -1 else 1) * item.2.toInt)).sum := by
  induction h with
  | nil => rfl
  | @cons item change items changes hitem hitems ih =>
    have hrest := ih fun hreducing other hother =>
      henough hreducing other (List.mem_cons_of_mem _ hother)
    rw [List.map_cons, List.sum_cons]
    match change with
    | .critical productId count =>
      obtain ⟨rfl, rfl, hcritical⟩ := hitem
      rw [← hrest hrange]
      have hfirst : (if isReducing = true then -stored warehouseId.toInt item.1.toInt rows
          else item.2.toInt) = (if isReducing = true then -1 else 1) * item.2.toInt := by
        cases isReducing with
        | false => simp
        | true =>
          rw [if_pos rfl] at hcritical
          have hle := henough rfl item List.mem_cons_self
          have heq := Int.le_antisymm hcritical.2 hle
          simp [heq]
      simp only [criticalChanges, modifyingChanges, List.filterMap_cons, List.map_cons,
        List.sum_cons, hfirst]
      omega
    | .modify productId target =>
      obtain ⟨rfl, -, -, htarget⟩ := hitem
      have hrangeRest : ∀ other ∈ modifyingChanges changes,
          -2 ^ 31 ≤ other.2.toInt ∧ other.2.toInt ≤ 2 ^ 31 - 1 :=
        fun other hother => hrange other (List.mem_cons_of_mem _ hother)
      rw [← hrest hrangeRest]
      have hfirst := htarget (hrange (item.1, target) List.mem_cons_self)
      simp only [criticalChanges, modifyingChanges, List.filterMap_cons, List.map_cons,
        List.sum_cons, hfirst]
      rw [add_sub_cancel_left]
      omega

/-! ## The stages -/

/-- No stage breaks a constraint. -/
theorem Changed.integral {tables tables' : Tables} {warehouseId : Int64} {isReducing : Bool}
    {items : List (Int64 × Int64)}
    (h : Changed Answers warehouseId isReducing tables items tables')
    (hintegral : Integral schema tables) : Integral schema tables' := by
  obtain ⟨changes, decided, handled, hdecided, hhandled, hmodified⟩ := h
  obtain ⟨rfl, -⟩ := hdecided.decides hintegral
  have hmiddle : Integral schema handled := by
    rcases hhandled with ⟨-, rfl⟩ | ⟨-, query, rows, -, hanswers⟩
    · exact hintegral
    · exact hanswers.integral hintegral
  clear hhandled
  generalize modifyingChanges changes = items at hmodified
  induction hmodified with
  | nil => exact hmiddle
  | cons created modified rest ih => exact ih (modified.integral hmiddle)

/-- Rows of other products are not among those of some products. -/
theorem filter_not_isItemOf {warehouseId productId : Int} {productIds : List Int}
    (hnot : productId ∉ productIds) (rows : List TableRow) :
    (rows.filter fun row => !isItemOf warehouseId productIds row).filter
        (isItem warehouseId productId) = rows.filter (isItem warehouseId productId) := by
  rw [List.filter_filter]
  refine List.filter_congr fun row _ => ?_
  cases hrow : isItem warehouseId productId row
  · rfl
  · have hother : isItemOf warehouseId productIds row = false := by
      rw [isItemOf, List.any_eq_false]
      intro productId' hproductId' hitem
      simp only [isItem, Bool.and_eq_true, decide_eq_true_eq] at hrow hitem
      have heq := hrow.2.symm.trans hitem.2
      simp only [Option.some.injEq, Value.integer.injEq] at heq
      exact hnot (heq ▸ hproductId')
    simp [hother]

/-- The weighted sum without the rows of some products. -/
theorem total_filter_not_isItemOf (weight : Int → Int → Int) (warehouseId : Int)
    {productIds : List Int} (hnodup : productIds.Nodup) (rows : List TableRow) :
    total weight (rows.filter fun row => !isItemOf warehouseId productIds row) =
      total weight rows + (productIds.map fun productId =>
        weight warehouseId productId * -stored warehouseId productId rows).sum := by
  induction productIds generalizing rows with
  | nil => simp [isItemOf]
  | cons productId productIds ih =>
    obtain ⟨hnot, hnodup⟩ := List.nodup_cons.mp hnodup
    have hsplit : (rows.filter fun row => !isItemOf warehouseId (productId :: productIds) row) =
        (rows.filter fun row => !isItemOf warehouseId productIds row).filter
          fun row => !isItem warehouseId productId row := by
      rw [List.filter_filter]
      refine List.filter_congr fun row _ => ?_
      simp [isItemOf]
    have hparts := total_filter_add weight (isItem warehouseId productId)
      (rows.filter fun row => !isItemOf warehouseId productIds row)
    rw [filter_not_isItemOf hnot, total_filter_isItem, ih hnodup] at hparts
    rw [hsplit, List.map_cons, List.sum_cons, Int.mul_neg]
    omega

/-- The weighted sum of the rows of some items. -/
theorem total_itemRows (weight : Int → Int → Int) (warehouseId : Int64)
    (items : List (Int64 × Int64)) :
    total weight (itemRows warehouseId items) =
      (items.map fun item => weight warehouseId.toInt item.1.toInt * item.2.toInt).sum := by
  induction items with
  | nil => rfl
  | cons item items ih =>
    rw [List.map_cons, List.sum_cons, ← ih]
    exact total_cons ..

/-- The rows of some items are not those of another product. -/
theorem filter_itemRows {warehouseId : Int64} {productId : Int64} {items : List (Int64 × Int64)}
    (hnot : productId ∉ items.map Prod.fst) :
    (itemRows warehouseId items).filter (isItem warehouseId.toInt productId.toInt) = [] := by
  rw [List.filter_eq_nil_iff]
  intro row hrow
  obtain ⟨item, hitem, rfl⟩ := List.mem_map.mp hrow
  rw [isItem_itemRow]
  intro heq
  simp only [decide_true, Bool.true_and, decide_eq_true_eq] at heq
  exact hnot (List.mem_map.mpr ⟨item, hitem, Int64.toInt_inj.mp heq⟩)

/-- The other rows are changed one by one. -/
theorem Modified.total (weight : Int → Int → Int) {tables tables' : Tables} {warehouseId : Int64}
    {items : List (Int64 × Int64)} (h : Modified Answers warehouseId tables items tables')
    (hintegral : Integral schema tables) (hnodup : (items.map Prod.fst).Nodup)
    (hone : ∀ item ∈ items,
      ((tables .warehouseItem).filter (isItem warehouseId.toInt item.1.toInt)).length = 1) :
    (∀ item ∈ items, -2 ^ 31 ≤ item.2.toInt ∧ item.2.toInt ≤ 2 ^ 31 - 1) ∧
      total weight (tables' .warehouseItem) = total weight (tables .warehouseItem) +
        (items.map fun item => weight warehouseId.toInt item.1.toInt * (item.2.toInt -
          stored warehouseId.toInt item.1.toInt (tables .warehouseItem))).sum ∧
      (∀ table, table ≠ .warehouseItem → tables' table = tables table) ∧
      Integral schema tables' := by
  induction h with
  | nil tables => exact ⟨by simp, by simp, fun _ _ => rfl, hintegral⟩
  | @cons tables middle tables' productId target query rows items created modified rest ih =>
    obtain ⟨hrange, hrows, hothers⟩ := answers_updateItem hintegral created modified
    rw [List.map_cons, List.nodup_cons] at hnodup
    -- The rows of the products that follow are the ones there were.
    have hkept : ∀ item ∈ items, (middle .warehouseItem).filter
        (isItem warehouseId.toInt item.1.toInt) =
          (tables .warehouseItem).filter (isItem warehouseId.toInt item.1.toInt) := by
      intro item hitem
      rw [hrows]
      refine filter_modifyRows_of_ne (fun heq => hnodup.1 ?_) _ _
      exact List.mem_map.mpr ⟨item, hitem, Int64.toInt_inj.mp heq⟩
    obtain ⟨hranges, hsum, hframe, hintegral'⟩ := ih (modified.integral hintegral) hnodup.2
      fun item hitem => by
        rw [hkept item hitem]
        exact hone item (List.mem_cons_of_mem _ hitem)
    refine ⟨?_, ?_, fun table htable => (hframe table htable).trans (hothers table htable),
      hintegral'⟩
    · intro item hitem
      rcases List.mem_cons.mp hitem with rfl | hitem
      · exact hrange
      · exact hranges item hitem
    · have hstored : (items.map fun item => weight warehouseId.toInt item.1.toInt *
          (item.2.toInt - stored warehouseId.toInt item.1.toInt (middle .warehouseItem))) =
          items.map fun item => weight warehouseId.toInt item.1.toInt *
            (item.2.toInt - stored warehouseId.toInt item.1.toInt (tables .warehouseItem)) := by
        refine List.map_congr_left fun item hitem => ?_
        rw [stored, stored, hkept item hitem]
      rw [hsum, hstored, hrows, total_modifyRows, hone (productId, target) List.mem_cons_self,
        List.map_cons, List.sum_cons]
      simp only [Nat.cast_one, Int.one_mul]
      omega

/-- The critical rows are deleted or created at once. -/
theorem Handled.total (weight : Int → Int → Int) {tables tables' : Tables} {warehouseId : Int64}
    {isReducing : Bool} {items : List (Int64 × Int64)}
    (h : Handled Answers warehouseId isReducing tables items tables')
    (hintegral : Integral schema tables) (hnodup : (items.map Prod.fst).Nodup) :
    Relational.Integral schema tables' ∧
      TaskMgr.Tasks.total weight (tables' .warehouseItem) =
        TaskMgr.Tasks.total weight (tables .warehouseItem) +
          (items.map fun item => weight warehouseId.toInt item.1.toInt *
            (if isReducing then -stored warehouseId.toInt item.1.toInt (tables .warehouseItem)
              else item.2.toInt)).sum ∧
      (∀ productId, productId ∉ items.map Prod.fst → (tables' .warehouseItem).filter
        (isItem warehouseId.toInt productId.toInt) =
          (tables .warehouseItem).filter (isItem warehouseId.toInt productId.toInt)) ∧
      ∀ table, table ≠ .warehouseItem → tables' table = tables table := by
  rcases h with ⟨rfl, rfl⟩ | ⟨hne, query, rows, hquery, hanswers⟩
  · exact ⟨hintegral, by simp, fun _ _ => rfl, fun _ _ => rfl⟩
  · cases isReducing with
    | true =>
      rw [if_pos rfl] at hquery
      obtain ⟨hrows, hothers⟩ := answers_deleteItems hintegral hquery (by simpa using hne) hanswers
      refine ⟨hanswers.integral hintegral, ?_, fun productId hnot => ?_, hothers⟩
      · have hids : ((items.map Prod.fst).map Int64.toInt).Nodup :=
          hnodup.map fun _ _ heq => Int64.toInt_inj.mp heq
        rw [hrows, total_filter_not_isItemOf weight _ hids, List.map_map, List.map_map]
        simp [Function.comp_def]
      · rw [hrows]
        refine filter_not_isItemOf (fun hmem => hnot ?_) _
        obtain ⟨other, hother, heq⟩ := List.mem_map.mp hmem
        rwa [← Int64.toInt_inj.mp heq]
    | false =>
      rw [if_neg (by simp)] at hquery
      obtain ⟨hrows, hothers⟩ := answers_insertItems hquery hanswers
      refine ⟨hanswers.integral hintegral, ?_, fun productId hnot => ?_, hothers⟩
      · rw [hrows, total_append, total_itemRows]
        simp
      · rw [hrows, List.filter_append, filter_itemRows hnot, List.append_nil]

/-- `ChangeCount` on different products: in every weighted sum, what is requested is taken or
added, when not more is taken than there is. -/
theorem Changed.total (weight : Int → Int → Int) {tables tables' : Tables} {warehouseId : Int64}
    {isReducing : Bool} {items : List (Int64 × Int64)}
    (h : Changed Answers warehouseId isReducing tables items tables')
    (hintegral : Integral schema tables) (hnodup : (items.map Prod.fst).Nodup)
    (henough : isReducing = true → ∀ item ∈ items,
      item.2.toInt ≤ stored warehouseId.toInt item.1.toInt (tables .warehouseItem)) :
    Relational.Integral schema tables' ∧
      TaskMgr.Tasks.total weight (tables' .warehouseItem) =
        TaskMgr.Tasks.total weight (tables .warehouseItem) +
          (items.map fun item => weight warehouseId.toInt item.1.toInt *
            ((if isReducing then -1 else 1) * item.2.toInt)).sum ∧
      ∀ table, table ≠ .warehouseItem → tables' table = tables table := by
  obtain ⟨changes, decided, handled, hdecided, hhandled, hmodified⟩ := h
  obtain ⟨rfl, hchanges⟩ := hdecided.decides hintegral
  have hperm := (perm_changes hchanges).nodup_iff.mpr hnodup
  obtain ⟨hcritical, hmodifying, hdisjoint⟩ := List.nodup_append.mp hperm
  obtain ⟨hintegral', hfirst, hkept, hothers⟩ := hhandled.total weight hintegral hcritical
  -- The other products still have the rows that were read.
  have hkept' : ∀ item ∈ modifyingChanges changes, (handled .warehouseItem).filter
      (isItem warehouseId.toInt item.1.toInt) =
        (decided .warehouseItem).filter (isItem warehouseId.toInt item.1.toInt) := by
    intro item hitem
    refine hkept item.1 fun hmem => ?_
    exact hdisjoint _ hmem _ (List.mem_map_of_mem hitem) rfl
  have hone : ∀ item ∈ modifyingChanges changes, ((decided .warehouseItem).filter
      (isItem warehouseId.toInt item.1.toInt)).length = 1 := by
    intro item hitem
    obtain ⟨change, hchange, hmodify⟩ := List.mem_filterMap.mp hitem
    obtain ⟨other, -, hdecides⟩ := Exceptions.exists_of_forall₂_right hchanges hchange
    match change with
    | .critical _ _ => cases hmodify
    | .modify productId target =>
      cases hmodify
      rw [hdecides.1]
      exact hdecides.2.1
  obtain ⟨hrange, hsecond, hothers', hintegral''⟩ := hmodified.total weight hintegral' hmodifying
    fun item hitem => by rw [hkept' item hitem]; exact hone item hitem
  refine ⟨hintegral'', ?_, fun table htable => (hothers' table htable).trans (hothers table htable)⟩
  have hstored : ((modifyingChanges changes).map fun item => weight warehouseId.toInt item.1.toInt *
      (item.2.toInt - stored warehouseId.toInt item.1.toInt (handled .warehouseItem))) =
      (modifyingChanges changes).map fun item => weight warehouseId.toInt item.1.toInt *
        (item.2.toInt - stored warehouseId.toInt item.1.toInt (decided .warehouseItem)) := by
    refine List.map_congr_left fun item hitem => ?_
    rw [stored, stored, hkept' item hitem]
  rw [hsecond, hfirst, hstored, ← sum_changes weight hchanges henough hrange, Int.add_assoc]

/-- What is reduced has a row for every item. -/
theorem Changed.exists_row {tables tables' : Tables} {warehouseId : Int64}
    {items : List (Int64 × Int64)} (h : Changed Answers warehouseId true tables items tables')
    (hintegral : Integral schema tables) :
    ∀ item ∈ items, ∃ row ∈ tables .warehouseItem,
      isItem warehouseId.toInt item.1.toInt row = true := by
  obtain ⟨changes, decided, handled, hdecided, -, -⟩ := h
  obtain ⟨-, hchanges⟩ := hdecided.decides hintegral
  intro item hitem
  obtain ⟨change, -, hdecides⟩ := Exceptions.exists_of_forall₂_right hchanges.flip hitem
  have hlength : ((tables .warehouseItem).filter
      (isItem warehouseId.toInt item.1.toInt)).length = 1 := by
    match change with
    | .critical productId count =>
      obtain ⟨-, -, hcritical⟩ := hdecides
      rw [if_pos rfl] at hcritical
      exact hcritical.1
    | .modify productId target => exact hdecides.2.1
  obtain ⟨row, hrow⟩ := List.length_eq_one_iff.mp hlength
  have hmem : row ∈ (tables .warehouseItem).filter (isItem warehouseId.toInt item.1.toInt) :=
    hrow ▸ List.mem_cons_self
  exact ⟨row, List.mem_of_mem_filter hmem, List.of_mem_filter hmem⟩

/-! ## Positive counts -/

/-- Every row of `Warehouse_Item` has a positive count. -/
def AllPositive (tables : Tables) : Prop :=
  ∀ row ∈ tables .warehouseItem, 0 < countOf row

/-- Rows that are changed to positive targets. -/
theorem Modified.allPositive {tables tables' : Tables} {warehouseId : Int64}
    {items : List (Int64 × Int64)} (h : Modified Answers warehouseId tables items tables')
    (hintegral : Integral schema tables) (hpositive : AllPositive tables)
    (htargets : ∀ item ∈ items, -2 ^ 31 ≤ item.2.toInt ∧ item.2.toInt ≤ 2 ^ 31 - 1 →
      0 < item.2.toInt) : AllPositive tables' := by
  induction h with
  | nil tables => exact hpositive
  | @cons tables middle tables' productId target query rows items created modified rest ih =>
    obtain ⟨hrange, hrows, -⟩ := answers_updateItem hintegral created modified
    have htarget := htargets (productId, target) List.mem_cons_self hrange
    refine ih (modified.integral hintegral) (fun row hrow => ?_)
      fun item hitem => htargets item (List.mem_cons_of_mem _ hitem)
    rw [hrows, modifyRows, List.mem_map] at hrow
    obtain ⟨old, hold, rfl⟩ := hrow
    split
    · exact htarget
    · exact hpositive old hold

/-- Critical rows are deleted, or created with positive counts. -/
theorem Handled.allPositive {tables tables' : Tables} {warehouseId : Int64} {isReducing : Bool}
    {items : List (Int64 × Int64)}
    (h : Handled Answers warehouseId isReducing tables items tables')
    (hintegral : Integral schema tables) (hpositive : AllPositive tables)
    (hcounts : ∀ item ∈ items, 0 < item.2.toInt) : AllPositive tables' := by
  rcases h with ⟨-, rfl⟩ | ⟨hne, query, rows, hquery, hanswers⟩
  · exact hpositive
  · intro row hrow
    cases isReducing with
    | true =>
      rw [if_pos rfl] at hquery
      rw [(answers_deleteItems hintegral hquery (by simpa using hne) hanswers).1] at hrow
      exact hpositive row (List.mem_of_mem_filter hrow)
    | false =>
      rw [if_neg (by simp)] at hquery
      rw [(answers_insertItems hquery hanswers).1] at hrow
      rcases List.mem_append.mp hrow with hold | hnew
      · exact hpositive row hold
      · obtain ⟨item, hitem, rfl⟩ := List.mem_map.mp hnew
        exact hcounts item hitem

/-- `ChangeCount` with positive counts leaves positive counts, also when more is taken than there
is: then the row is deleted. -/
theorem Changed.allPositive {tables tables' : Tables} {warehouseId : Int64} {isReducing : Bool}
    {items : List (Int64 × Int64)}
    (h : Changed Answers warehouseId isReducing tables items tables')
    (hintegral : Integral schema tables) (hpositive : AllPositive tables)
    (hcounts : ∀ item ∈ items, 0 < item.2.toInt) : AllPositive tables' := by
  obtain ⟨changes, decided, handled, hdecided, hhandled, hmodified⟩ := h
  obtain ⟨rfl, hchanges⟩ := hdecided.decides hintegral
  have hmiddle : Integral schema handled := by
    rcases hhandled with ⟨-, rfl⟩ | ⟨-, query, rows, -, hanswers⟩
    · exact hintegral
    · exact hanswers.integral hintegral
  refine hmodified.allPositive hmiddle (hhandled.allPositive hintegral hpositive ?_) ?_
  · intro item hitem
    obtain ⟨change, hchange, hcritical⟩ := List.mem_filterMap.mp hitem
    obtain ⟨other, hother, hdecides⟩ := Exceptions.exists_of_forall₂_right hchanges hchange
    match change with
    | .modify _ _ => cases hcritical
    | .critical productId count =>
      cases hcritical
      obtain ⟨-, rfl, -⟩ := hdecides
      exact hcounts other hother
  · intro item hitem hrange
    obtain ⟨change, hchange, hmodify⟩ := List.mem_filterMap.mp hitem
    obtain ⟨other, hother, hdecides⟩ := Exceptions.exists_of_forall₂_right hchanges hchange
    match change with
    | .critical _ _ => cases hmodify
    | .modify productId target =>
      cases hmodify
      obtain ⟨-, hone, hless, htarget⟩ := hdecides
      have hcount := hcounts other hother
      have hsum := htarget hrange
      cases isReducing with
      | true =>
        have hleft := hless rfl
        rw [if_pos rfl] at hsum
        dsimp only at hsum ⊢
        omega
      | false =>
        -- The row that is there is positive.
        obtain ⟨row, hrow⟩ := List.length_eq_one_iff.mp hone
        have hmem : row ∈ (decided .warehouseItem).filter
            (isItem warehouseId.toInt other.1.toInt) := hrow ▸ List.mem_cons_self
        have hstored := hpositive row (List.mem_of_mem_filter hmem)
        rw [if_neg (by simp), stored, hrow, List.map_singleton, List.sum_singleton] at hsum
        dsimp only at hsum ⊢
        omega

end WarehouseItem

end TaskMgr.Tasks

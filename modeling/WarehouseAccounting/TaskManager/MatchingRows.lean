import WarehouseAccounting.Foundations.Paging
import WarehouseAccounting.TaskManager.FilterEnforcement
import WarehouseAccounting.TaskManager.ListAndSize

/-!
# The rows that match a filter

The rows that a list is asked for, whether or not the database can execute its statement, and the
order in which they are read.

- `Subject.found_eq_matchingRows`: a statement that can be executed finds the rows that match.
- `Subject.nodup_matchingRows`: each of them is found once.
- `arranges_ordered`: they are read in the order of their ids, and in each such order some time.
-/

namespace Srv.Db.Sql

open Relational DbMgr.Scpts Trsct Paging

/-! ## The order of a statement -/

/-- The order of the values of a column, in which null is the greatest. -/
def valueBefore : Option Value → Option Value → Bool
  | some value, some other => !other.precedes value
  | none, some _ => false
  | _, none => true

/-- Rows are in ascending order when their values are. -/
theorem orderedBefore_asc (column : Column) (row other : TableRow) :
    orderedBefore .asc column row other = valueBefore (row column) (other column) := by
  show _ = valueBefore (row column) (other column)
  unfold orderedBefore valueBefore
  cases row column <;> cases other column <;> rfl

/-- Values of one kind are in an order, and numbers come before texts. -/
theorem valueBefore_trans {value other third : Option Value} (h : valueBefore value other = true)
    (h' : valueBefore other third = true) : valueBefore value third = true := by
  rcases value with _ | ⟨value | value⟩ <;> rcases other with _ | ⟨other | other⟩ <;>
    rcases third with _ | ⟨third | third⟩ <;>
      simp only [valueBefore, Value.precedes, Bool.not_eq_true', decide_eq_false_iff_not,
        Bool.false_eq_true, Bool.not_true, Bool.not_false, Int.not_lt, String.not_lt] at h h' ⊢
  · exact Int.le_trans h h'
  · exact String.le_trans h h'

/-- Of two values one is not greater. -/
theorem valueBefore_total (value other : Option Value) :
    valueBefore value other = true ∨ valueBefore other value = true := by
  rcases value with _ | ⟨value | value⟩ <;> rcases other with _ | ⟨other | other⟩ <;>
    simp only [valueBefore, Value.precedes, Bool.not_eq_true', decide_eq_false_iff_not,
      Bool.not_true, Bool.not_false, Int.not_lt, String.not_lt, or_true, true_or, or_self]
  · exact Int.le_total value other
  · exact String.le_total value other

/-- Only the same values are not in an order. -/
theorem eq_of_valueBefore {value other : Option Value} (h : valueBefore value other = true)
    (h' : valueBefore other value = true) : value = other := by
  rcases value with _ | ⟨value | value⟩ <;> rcases other with _ | ⟨other | other⟩ <;>
    simp only [valueBefore, Value.precedes, Bool.not_eq_true', decide_eq_false_iff_not,
      Bool.false_eq_true, Bool.not_true, Bool.not_false, Int.not_lt, String.not_lt] at h h' ⊢
  · rw [Int.le_antisymm h' h]
  · rw [String.le_antisymm h' h]

/-- The rows of a statement are ordered by a key. -/
theorem isOrder_orderedBefore (column : Column) : IsOrder (orderedBefore .asc column) where
  trans row other third h h' := by
    rw [orderedBefore_asc] at h h' ⊢
    exact valueBefore_trans h h'
  total row other := by
    rw [orderedBefore_asc, orderedBefore_asc]
    exact valueBefore_total _ _

/-- Rows have equal keys when they have the same value in the column. -/
theorem tied_iff {column : Column} {row other : TableRow} :
    Tied (orderedBefore .asc column) row other ↔ row column = other column := by
  unfold Tied
  rw [orderedBefore_asc, orderedBefore_asc]
  constructor
  · exact fun h => eq_of_valueBefore h.1 h.2
  · intro h
    rw [h]
    exact ⟨(valueBefore_total _ _).elim id id, (valueBefore_total _ _).elim id id⟩

section Ordered

variable {options : SelectOptions} {column : Column} (hcolumn : options.orderBy = some column)
  (hasc : options.orderType = .asc)

include hcolumn hasc

/-- The rows are sorted. -/
theorem ordered_eq_mergeSort (choices : Choices) (rows : List TableRow) :
    ordered choices options rows =
      (choices.arrange rows).mergeSort (orderedBefore .asc column) := by
  unfold ordered
  rw [hcolumn, hasc]

/-- They are read in the order of their keys. -/
theorem arranges_ordered (choices : Choices) (rows : List TableRow) :
    Arranges (orderedBefore .asc column) rows (ordered choices options rows) where
  perm := ordered_perm choices options rows
  sorted := by
    have horder := isOrder_orderedBefore column
    rw [ordered_eq_mergeSort hcolumn hasc]
    exact List.pairwise_mergeSort (fun a b c => horder.trans a b c)
      (fun a b => Bool.or_eq_true _ _ ▸ horder.total a b) _

/-- They can be read in each order of their keys. -/
theorem exists_ordered {rows order : List TableRow}
    (h : Arranges (orderedBefore .asc column) rows order) :
    ∃ choices : Choices, ordered choices options rows = order := by
  classical
  refine ⟨{
    identity := fun _ _ => 1
    identity_pos := fun _ _ => Int.one_pos
    arrange := fun found => if found = rows then order else found
    arrange_perm := fun found => ?_
    answer := [] }, ?_⟩
  · split
    · rename_i heq
      rw [heq]
      exact h.perm
    · exact List.Perm.refl _
  · rw [ordered_eq_mergeSort hcolumn hasc]
    show (if rows = rows then order else rows).mergeSort (orderedBefore .asc column) = order
    rw [if_pos rfl]
    exact List.mergeSort_of_pairwise h.sorted

end Ordered

end Srv.Db.Sql

namespace TaskMgr.Tasks

open Ufa Srv.Db Srv.Db.Trsct Srv.Db.Sql Srv.Db.DbMgr.Scpts Relational Paging

/-! ## Passing a filter -/

/-- The row passes all tests of the filter. -/
def Passes (filter : Option Condition) (row : TableRow) : Prop :=
  ∀ tests, filter = some (RowTest.group tests) → ∀ test ∈ tests, test.Holds row

/-- Groups of tests are the same when their tests are. -/
theorem group_injective : Function.Injective RowTest.group := by
  have hcondition : Function.Injective RowTest.condition := by
    intro test other h
    cases test <;> cases other <;> cases h <;> rfl
  intro tests others h
  injection h with _ h
  exact hcondition.list_map h

/-- The tests of a group are passed. -/
theorem passes_group {tests : List RowTest} {row : TableRow} :
    Passes (some (RowTest.group tests)) row ↔ ∀ test ∈ tests, test.Holds row := by
  constructor
  · exact fun h => h tests rfl
  · intro h others heq
    cases group_injective (Option.some_inj.mp heq)
    exact h

namespace Subject

variable {tables : Tables} {filter : Option Condition} {subject : Subject}

open Classical in
/-- The rows that match a filter. A filter on warehouses is one for the products with their
items. -/
noncomputable def matchingRows (filter : Option Condition) (tables : Tables) (subject : Subject) :
    List TableRow :=
  (fromRows tables (subject.listOptions (wholeList filter))).filter fun row => Passes filter row

/-- A statement that can be executed finds the rows that match. -/
theorem found_eq_matchingRows (hintegral : Integral schema tables) (hfilter : IsGroup filter)
    {rows : List TableRow}
    (h : found (subject.listOptions (wholeList filter))
      (selectParams (subject.listOptions (wholeList filter))) tables = .ok rows) :
    rows = subject.matchingRows filter tables := by
  obtain ⟨-, predicate, hpredicate, rfl⟩ := found_eq_ok.mp h
  classical
  refine List.filter_congr fun row hrow => ?_
  rw [Bool.eq_iff_iff, decide_eq_true_eq]
  cases filter with
  | none =>
    have hcondition : (subject.listOptions (wholeList none)).condition = none :=
      listOptions_condition _ _
    rw [selectParams, hcondition] at hpredicate
    cases hpredicate
    exact iff_of_true rfl fun tests heq => by cases heq
  | some condition =>
    obtain ⟨tests, rfl⟩ := hfilter condition rfl
    have hparams : (QueryFactory.conditionParams (some (RowTest.group tests))).toPqxx =
        tests.flatMap RowTest.params := RowTest.toPqxx_collectParams tests
    have hcondition : (subject.listOptions (wholeList (some (RowTest.group tests)))).condition =
        some (RowTest.group tests) := listOptions_condition _ _
    rw [selectParams, hcondition, hparams, RowTest.bindWhereBy_group] at hpredicate
    rw [passes_group]
    exact RowTest.holds_iff_of_bindAll hpredicate fun column type htype value hvalue =>
      admits_of_mem_fromRows hintegral (wholeList _) subject hrow htype hvalue

/-! ## Each row once -/

/-- The key of the table of the subject. -/
def idColumn : Subject → Column
  | .product => .productId
  | .warehouse => .warehouseId
  | .invoice => .invoiceId
  | .user => .userId
  | .report => .reportId
  | .operation => .operationId

/-- It is the key that the table is declared with. -/
theorem primaryKey_table (subject : Subject) :
    (tableSchema subject.table).primaryKey = [subject.idColumn] := by
  cases subject <;> rfl

/-- Lists are in the order of this key. -/
theorem listOptions_orderBy (request : ListRequest) (subject : Subject) :
    (subject.listOptions request).orderBy = some subject.idColumn ∧
      (subject.listOptions request).orderType = .asc := by
  cases subject with
  | product =>
    show (GetProductList.options request).orderBy = _ ∧
      (GetProductList.options request).orderType = _
    cases h : GetProductList.extendWarehouse request with
    | false =>
      rw [GetProductList.options_of_not_extendWarehouse h]
      exact ⟨rfl, rfl⟩
    | true =>
      rw [GetProductList.options_of_extendWarehouse h]
      exact ⟨rfl, rfl⟩
  | _ => exact ⟨rfl, rfl⟩

/-- Rows of a table with the same id are the same row. -/
theorem eq_of_id_eq (hintegral : Integral schema tables) (subject : Subject) {row other : TableRow}
    (hrow : row ∈ tables subject.table) (hother : other ∈ tables subject.table)
    (hid : row subject.idColumn = other subject.idColumn) : row = other := by
  refine List.inj_on_of_nodup_map (hintegral.keys_nodup subject.table) hrow hother ?_
  show (⟨subject.table, (tableSchema subject.table).primaryKey.map row⟩ : Key Table) =
    ⟨subject.table, (tableSchema subject.table).primaryKey.map other⟩
  rw [primaryKey_table, List.map_singleton, List.map_singleton, hid]

/-- The items of a product are those of the table, unless there are none. -/
theorem mem_itemsOrNull {product item : TableRow}
    (h : item ∈ GetProductList.itemsOrNull tables product) :
    (item ∈ tables .warehouseItem ∧ item .productId = product .productId) ∨
      GetProductList.itemsOrNull tables product = [item] := by
  unfold GetProductList.itemsOrNull at h ⊢
  dsimp only at h ⊢
  split at h
  · rename_i hempty
    cases List.mem_singleton.mp h
    rw [if_pos hempty]
    exact .inr rfl
  · obtain ⟨hitem, hproduct⟩ := List.mem_filter.mp h
    rw [decide_eq_true_eq] at hproduct
    left
    refine ⟨hitem, ?_⟩
    cases hid : item .productId with
    | none =>
      rw [hid] at hproduct
      have hnone : ∀ value, Predicate.compareNullable .equal value none = none := by
        rintro (_ | value) <;> rfl
      rw [hnone] at hproduct
      cases hproduct
    | some id =>
      rw [hid, Predicate.compareNullable_equal] at hproduct
      exact hproduct.symm

/-- Items of a product in the same warehouse are the same item. -/
theorem eq_of_joined_eq (hintegral : Integral schema tables) {product item other : TableRow}
    (hitem : item ∈ GetProductList.itemsOrNull tables product)
    (hother : other ∈ GetProductList.itemsOrNull tables product)
    (h : GetProductList.joined product item = GetProductList.joined product other) :
    item = other := by
  have hwarehouse : item .warehouseId = other .warehouseId := congrFun h .warehouseId
  rcases mem_itemsOrNull hitem with ⟨hmem, hproduct⟩ | hsingle
  · rcases mem_itemsOrNull hother with ⟨hmem', hproduct'⟩ | hsingle
    · refine List.inj_on_of_nodup_map (hintegral.keys_nodup .warehouseItem) hmem hmem' ?_
      show (⟨.warehouseItem, [item .warehouseId, item .productId]⟩ : Key Table) =
        ⟨.warehouseItem, [other .warehouseId, other .productId]⟩
      rw [hwarehouse, hproduct, hproduct']
    · rw [hsingle] at hitem
      exact List.mem_singleton.mp hitem
  · rw [hsingle] at hother
    exact (List.mem_singleton.mp hother).symm

/-- The rows that a list looks through are different rows. -/
theorem nodup_fromRows (hintegral : Integral schema tables) (request : ListRequest)
    (subject : Subject) : (fromRows tables (subject.listOptions request)).Nodup := by
  cases hbrings : subject.bringsItems request with
  | false =>
    rw [fromRows_of_joins_nil (listOptions_joins hbrings), listOptions_table]
    exact List.Nodup.of_map _ (hintegral.keys_nodup subject.table)
  | true =>
    cases subject with
    | product =>
      show (fromRows tables (GetProductList.options request)).Nodup
      rw [GetProductList.fromRows_of_extendWarehouse hbrings, List.nodup_flatMap]
      have hkeys : (tables .product).Pairwise fun product other =>
          schema.keyOf .product product ≠ schema.keyOf .product other :=
        List.pairwise_map.mp (hintegral.keys_nodup .product)
      constructor
      · intro product _
        refine List.Nodup.map_on (fun item hitem other hother heq =>
          eq_of_joined_eq hintegral hitem hother heq) ?_
        unfold GetProductList.itemsOrNull
        dsimp only
        split
        · exact List.nodup_singleton _
        · exact (List.Nodup.of_map _ (hintegral.keys_nodup .warehouseItem)).filter _
      · refine hkeys.imp fun {product other} hne => ?_
        -- The id of the product is a column of the joined row.
        intro row hrow hrow'
        obtain ⟨item, -, rfl⟩ := List.mem_map.mp hrow
        obtain ⟨item', -, heq⟩ := List.mem_map.mp hrow'
        have hid : other .productId = product .productId := congrFun heq .productId
        refine hne ?_
        show (⟨.product, [product .productId]⟩ : Key Table) = ⟨.product, [other .productId]⟩
        rw [hid]
    | _ => cases hbrings

/-- Each row that matches does so once. -/
theorem nodup_matchingRows (hintegral : Integral schema tables) (filter : Option Condition)
    (subject : Subject) : (subject.matchingRows filter tables).Nodup :=
  (nodup_fromRows hintegral (wholeList filter) subject).filter _

end Subject

end TaskMgr.Tasks

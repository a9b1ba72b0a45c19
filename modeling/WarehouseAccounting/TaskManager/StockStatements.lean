import WarehouseAccounting.Foundations.Exceptions
import WarehouseAccounting.DbConnector.Sql
import WarehouseAccounting.TaskManager.Tasks.ProductsTasks

/-!
# The statements on the stock

What the database does with the statements that create, move and remove products: the rows of
`Warehouse_Item` that are read and written, and the invoice with its items and operations.

- `perform_selectCount`, `perform_updateItem`, `perform_deleteItems`, `perform_insertItems`: the
  statements of `ChangeCount`.
- `perform_insertInvoice`, `perform_insertInvoiceItems`: the statements of an invoice.
-/

namespace TaskMgr.Tasks

open Ufa Srv.Db Srv.Db.Trsct Srv.Db.Sql Srv.Db.DbMgr.Scpts Relational

/-! ## Bound numbers -/

/-- A number as it is bound to a parameter. -/
def bound (value : Int64) : Option String := some (toString value.toInt)

/-- Every collected number is bound. -/
@[simp]
theorem toPqxx_integer_cons (value : Int64) (collector : ValueCollector) :
    ValueCollector.toPqxx ((integer value).toString :: collector) =
      bound value :: ValueCollector.toPqxx collector := by
  unfold ValueCollector.toPqxx
  rw [List.map_cons, integer, if_neg (Scalar.integer_ne_null value.toInt)]
  rfl

/-- A list of numbers is bound. -/
@[simp]
theorem toPqxx_integers (values : List Int64) :
    ValueCollector.toPqxx ((values.map integer).map Scalar.toString) = values.map bound := by
  induction values with
  | nil => rfl
  | cons value values ih =>
    rw [List.map_cons, List.map_cons, toPqxx_integer_cons, ih, List.map_cons]

/-- The parameters of two collectors. -/
theorem toPqxx_append (collector other : ValueCollector) :
    ValueCollector.toPqxx (collector ++ other) =
      ValueCollector.toPqxx collector ++ ValueCollector.toPqxx other :=
  List.map_append

/-- Eight bytes hold every number. -/
@[simp]
theorem bindValue_int8 (value : Int64) :
    bindValue .int8 (bound value) = .ok (some (.integer value.toInt)) := by
  have hminimum := value.le_toInt
  have hmaximum := value.toInt_lt
  rw [bound, bindValue, ColumnType.parse_toString, if_pos ⟨by omega, by omega⟩]

/-- A number is bound to an integer column as itself, or not at all. -/
theorem bindValue_bound {minimum maximum : Int} {value : Int64} {field : Option Value}
    (h : bindValue (.integer minimum maximum) (bound value) = .ok field) :
    field = some (.integer value.toInt) ∧ minimum ≤ value.toInt ∧ value.toInt ≤ maximum := by
  rw [bound, bindValue, ColumnType.parse_toString] at h
  by_cases hrange : minimum ≤ value.toInt ∧ value.toInt ≤ maximum
  · rw [if_pos hrange] at h
    exact ⟨(Except.ok.inj h).symm, hrange⟩
  · rw [if_neg hrange] at h
    cases h

/-! ## Rows of Warehouse_Item -/

/-- The row belongs to this warehouse and product. -/
def isItem (warehouseId productId : Int) (row : TableRow) : Bool :=
  row .warehouseId = some (.integer warehouseId) && row .productId = some (.integer productId)

/-- The row belongs to this warehouse and one of these products. -/
def isItemOf (warehouseId : Int) (productIds : List Int) (row : TableRow) : Bool :=
  productIds.any fun productId => isItem warehouseId productId row

/-- A row of a warehouse and a product. -/
def itemRow (warehouseId productId count : Int) : TableRow
  | .warehouseId => some (.integer warehouseId)
  | .productId => some (.integer productId)
  | .count => some (.integer count)
  | _ => none

/-- A row with another count. -/
def setCount (target : Int) (row : TableRow) : TableRow := fun column =>
  if column = .count then some (.integer target) else row column

/-- The key of a row of `Warehouse_Item`. -/
theorem keyOf_warehouseItem (row : TableRow) :
    schema.keyOf .warehouseItem row =
      ⟨.warehouseItem, [row .warehouseId, row .productId]⟩ := rfl

/-- The count is no part of the key. -/
@[simp]
theorem keyOf_setCount (target : Int) (row : TableRow) :
    schema.keyOf .warehouseItem (setCount target row) = schema.keyOf .warehouseItem row := by
  rw [keyOf_warehouseItem, keyOf_warehouseItem]
  simp [setCount]

/-- A row belongs to a warehouse and a product exactly when they are its key. -/
theorem isItem_iff_keyOf {warehouseId productId : Int} {row : TableRow} :
    isItem warehouseId productId row = true ↔
      schema.keyOf .warehouseItem row =
        ⟨.warehouseItem, [some (.integer warehouseId), some (.integer productId)]⟩ := by
  rw [keyOf_warehouseItem, isItem]
  simp

/-- A modification of the count. -/
theorem updatedRow_count (target : Int) (row : TableRow) :
    updatedRow .warehouseItem [.count] [some (.integer target)] row = setCount target row := by
  funext column
  by_cases hcolumn : column = .count
  · subst hcolumn
    rfl
  · have hother : (column == Column.count) = false := beq_false_of_ne hcolumn
    simp [updatedRow, fillPrettyName, assigned, setCount, hcolumn, List.lookup_cons, hother]

/-- The condition on one product in one warehouse. -/
theorem bindWhere_itemCondition (productId warehouseId : Int64) :
    bindWhere .warehouseItem (some (WarehouseItem.itemCondition productId warehouseId))
      [bound productId, bound warehouseId] =
      .ok (.and [.compare .productId .equal (some (.integer productId.toInt)),
        .compare .warehouseId .equal (some (.integer warehouseId.toInt))]) := by
  have hproduct : columnType .warehouseItem .productId = .ok .int8 := rfl
  have hwarehouse : columnType .warehouseItem .warehouseId = .ok .int8 := rfl
  simp [bindWhere, WarehouseItem.itemCondition, bindCondition, bindConditions, bindParams,
    hproduct, hwarehouse, pure, Except.pure, comparisonOf]

/-- It selects the rows of that product in that warehouse. -/
theorem selects_itemCondition (warehouseId productId : Int) :
    (Predicate.and [.compare .productId .equal (some (.integer productId)),
      .compare .warehouseId .equal (some (.integer warehouseId))] : Predicate Column).selects =
      isItem warehouseId productId := by
  funext row
  rw [Bool.eq_iff_iff]
  simp [Predicate.selects, Predicate.eval, Predicate.evalAnd, isItem, and_comm]

/-- The parameters of this condition. -/
theorem collectParams_itemCondition (productId warehouseId : Int64) :
    (WarehouseItem.itemCondition productId warehouseId).collectParams =
      [(integer productId).toString, (integer warehouseId).toString] := by
  simp [WarehouseItem.itemCondition, Condition.collectParams, Condition.groupCollectParams]

/-- The stored count is read. -/
theorem perform_selectCount (choices : Choices) (productId warehouseId : Int64)
    (tables : Tables) :
    perform choices ⟨(WarehouseItem.selectCount productId warehouseId).options,
        (WarehouseItem.selectCount productId warehouseId).params.toPqxx⟩ tables =
      .ok ((choices.arrange ((tables .warehouseItem).filter
        (isItem warehouseId.toInt productId.toInt))).map (project [.count]), []) := by
  have hparams : (WarehouseItem.selectCount productId warehouseId).params.toPqxx =
      [bound productId, bound warehouseId] := by
    simp [WarehouseItem.selectCount, QueryFactory.createSelect, QueryFactory.conditionParams,
      collectParams_itemCondition]
  have hcolumns : areColumns .warehouseItem [.count] = true := by decide
  rw [hparams]
  simp [perform, WarehouseItem.selectCount, QueryFactory.createSelect, select,
    bindWhere_itemCondition, selects_itemCondition, hcolumns, pure, Except.pure, Except.map]

/-- The count of a row is changed. -/
theorem perform_updateItem {choices : Choices} {warehouseId productId target : Int64}
    {query : Query} (hquery : WarehouseItem.updateItem warehouseId productId target = .ok query)
    {tables : Tables} {rows : Rows} {writes : List (Write Table Column)}
    (h : perform choices ⟨query.options, query.params.toPqxx⟩ tables = .ok (rows, writes)) :
    (-2 ^ 31 ≤ target.toInt ∧ target.toInt ≤ 2 ^ 31 - 1) ∧ rows = [] ∧
      writes = ((tables .warehouseItem).filter (isItem warehouseId.toInt productId.toInt)).map
        fun row => .replace (schema.keyOf .warehouseItem row) (setCount target.toInt row) := by
  obtain ⟨-, -, rfl⟩ := QueryFactory.createUpdate_eq_ok.mp hquery
  have hparams : ValueCollector.toPqxx (ValueCollector.append [] (integer target) ++
      QueryFactory.conditionParams (some (WarehouseItem.itemCondition productId warehouseId))) =
      [bound target, bound productId, bound warehouseId] := by
    simp [ValueCollector.append, QueryFactory.conditionParams, collectParams_itemCondition]
  have hwritable : areWritable .warehouseItem [.count] = true := by decide
  have hcolumn : columnType .warehouseItem .count = .ok .int4 := rfl
  rw [hparams] at h
  rcases hcount : bindValue .int4 (bound target) with exception | field
  · simp [perform, update, hwritable, bindParams, hcolumn, hcount, bind, Except.bind,
      Except.map] at h
  · obtain ⟨rfl, hrange⟩ := bindValue_bound hcount
    simp only [perform, update, hwritable, bindParams, hcolumn, hcount, pure, Except.pure,
      Except.map, bindWhere_itemCondition, selects_itemCondition, ok_bind, Option.isSome_some,
      Bool.and_self, if_true, updatedRow_count, keyOf_setCount, Except.ok.injEq,
      Prod.mk.injEq, ← List.map_eq_flatMap] at h
    exact ⟨hrange, h.1.symm, h.2.symm⟩

/-! ## Rows that are deleted -/

/-- Numbers are bound to a column of eight bytes. -/
theorem bindParams_int8 {table : Table} {column : Column}
    (hcolumn : columnType table column = .ok .int8) (values : List Int64)
    (rest : List (Option String)) :
    bindParams table (List.replicate values.length column) (values.map bound ++ rest) =
      .ok (values.map fun value => some (.integer value.toInt), rest) := by
  induction values with
  | nil => rfl
  | cons value values ih =>
    simp [bindParams, hcolumn, ih, pure, Except.pure, List.replicate_succ]

/-- A list of numbers in a condition. -/
theorem bindCondition_inList {table : Table} {column : Column}
    (hcolumn : columnType table column = .ok .int8) {values : List Int64} (hvalues : values ≠ [])
    (rest : List (Option String)) :
    bindCondition table (.inList column (values.map integer)) (values.map bound ++ rest) =
      .ok (.among column (values.map fun value => some (.integer value.toInt)), rest) := by
  have hempty : (values.map integer).isEmpty = false := by
    simp [hvalues]
  have hcolumns : ((values.map integer).map fun _ => column) =
      List.replicate values.length column := by
    rw [List.map_const', List.length_map]
  rw [bindCondition, hempty, hcolumns, bindParams_int8 hcolumn]
  rfl

/-- The condition on some products in one warehouse selects their rows. -/
theorem selects_deleteItems (warehouseId : Int64) (productIds : List Int64) :
    (Predicate.and [.among .productId (productIds.map fun productId =>
        some (.integer productId.toInt)),
      .compare .warehouseId .equal (some (.integer warehouseId.toInt))] :
        Predicate Column).selects =
      isItemOf warehouseId.toInt (productIds.map Int64.toInt) := by
  funext row
  rw [Bool.eq_iff_iff]
  have hvalues : (productIds.map fun productId => some (Value.integer productId.toInt)) =
      ((productIds.map Int64.toInt).map Value.integer).map some := by
    simp
  simp only [Predicate.selects, Predicate.eval, Predicate.evalAnd, hvalues, decide_eq_true_eq,
    Predicate.conjunction_eq_true, Predicate.foldr_disjunction_eq_true,
    Predicate.compareNullable_equal, and_true, isItemOf, List.any_eq_true, isItem,
    Bool.and_eq_true]
  constructor
  · rintro ⟨⟨value, hvalue, hproduct⟩, hwarehouse⟩
    obtain ⟨productId, hmem, rfl⟩ := List.mem_map.mp hvalue
    exact ⟨productId, hmem, hwarehouse, hproduct⟩
  · rintro ⟨productId, hmem, hwarehouse, hproduct⟩
    exact ⟨⟨.integer productId, List.mem_map_of_mem hmem, hproduct⟩, hwarehouse⟩

/-- The condition on some products in one warehouse. -/
theorem bindWhere_deleteItems (warehouseId : Int64) {productIds : List Int64}
    (hproductIds : productIds ≠ []) :
    bindWhere .warehouseItem (some (.group .and [.inList .productId (productIds.map integer),
        .real .warehouseId (integer warehouseId) .equal]))
      (productIds.map bound ++ [bound warehouseId]) =
      .ok (.and [.among .productId (productIds.map fun productId =>
          some (.integer productId.toInt)),
        .compare .warehouseId .equal (some (.integer warehouseId.toInt))]) := by
  have hproduct : columnType .warehouseItem .productId = .ok .int8 := rfl
  have hwarehouse : columnType .warehouseItem .warehouseId = .ok .int8 := rfl
  have hlast : bindConditions .warehouseItem [.real .warehouseId (integer warehouseId) .equal]
      [bound warehouseId] =
      .ok ([.compare .warehouseId .equal (some (.integer warehouseId.toInt))], []) := by
    simp [bindConditions, bindCondition, bindParams, hwarehouse, comparisonOf, pure, Except.pure]
  have hall := bindCondition_inList hproduct hproductIds [bound warehouseId]
  rw [bindWhere, bindCondition, bindConditions, hall, ok_bind]
  dsimp only
  rw [hlast]
  rfl

/-- The rows of some products are deleted. -/
theorem perform_deleteItems {choices : Choices} {warehouseId : Int64} {productIds : List Int64}
    {query : Query} (hquery : WarehouseItem.deleteItems warehouseId productIds = .ok query)
    (hproductIds : productIds ≠ []) (tables : Tables) :
    perform choices ⟨query.options, query.params.toPqxx⟩ tables =
      .ok ([], ((tables .warehouseItem).filter
          (isItemOf warehouseId.toInt (productIds.map Int64.toInt))).map
        fun row => .delete (schema.keyOf .warehouseItem row)) := by
  obtain ⟨-, rfl⟩ := QueryFactory.createDelete_eq_ok.mp hquery
  have hparams : ValueCollector.toPqxx (QueryFactory.conditionParams (some (.group .and
      [.inList .productId (productIds.map integer),
        .real .warehouseId (integer warehouseId) .equal]))) =
      productIds.map bound ++ [bound warehouseId] := by
    simp [QueryFactory.conditionParams, Condition.collectParams, Condition.groupCollectParams,
      toPqxx_append, -List.map_map]
  rw [hparams]
  simp only [perform, delete, bindWhere_deleteItems warehouseId hproductIds, ok_bind, pure,
    Except.pure, Except.map, Option.isSome_some, if_true, selects_deleteItems]

/-! ## Rows that are inserted -/

/-- The values of some numbers. -/
def fieldsOf (values : List Int64) : List (Option Value) :=
  values.map fun value => some (.integer value.toInt)

/-- Numbers that are bound to integer columns are the values. -/
theorem bindParams_bound {table : Table} {columns : List Column}
    (hcolumns : ∀ column ∈ columns, ∃ minimum maximum,
      columnType table column = .ok (.integer minimum maximum))
    {values : List Int64} (hlength : values.length = columns.length)
    {params rest : List (Option String)} {fields : List (Option Value)}
    (h : bindParams table columns (values.map bound ++ params) = .ok (fields, rest)) :
    fields = fieldsOf values ∧ rest = params := by
  induction columns generalizing values fields rest with
  | nil =>
    rw [List.length_eq_zero_iff.mp hlength] at h ⊢
    cases h
    exact ⟨rfl, rfl⟩
  | cons column columns ih =>
    obtain ⟨minimum, maximum, hcolumn⟩ := hcolumns column List.mem_cons_self
    match values with
    | [] => cases hlength
    | value :: values =>
      rw [List.map_cons, List.cons_append, bindParams, hcolumn, ok_bind] at h
      rcases hvalue : bindValue (.integer minimum maximum) (bound value) with exception | field
      · rw [hvalue] at h
        cases h
      · obtain ⟨rfl, -, -⟩ := bindValue_bound hvalue
        rw [hvalue, ok_bind] at h
        rcases hrest : bindParams table columns (values.map bound ++ params) with
          exception | ⟨fields', rest'⟩
        · rw [hrest] at h
          cases h
        · obtain ⟨hfields, hrest'⟩ := ih (fun other hother =>
            hcolumns other (List.mem_cons_of_mem _ hother)) (Nat.succ.inj hlength) hrest
          rw [hrest] at h
          cases h
          exact ⟨by rw [hfields]; rfl, hrest'⟩

/-- So are rows of numbers. -/
theorem bindRows_bound {table : Table} {columns : List Column}
    (hcolumns : ∀ column ∈ columns, ∃ minimum maximum,
      columnType table column = .ok (.integer minimum maximum))
    {rows : List (List Int64)} (hlength : ∀ row ∈ rows, row.length = columns.length)
    {fields : List (List (Option Value))} {rest : List (Option String)}
    (h : bindRows table columns rows.length (rows.map (List.map bound)).flatten =
      .ok (fields, rest)) :
    fields = rows.map fieldsOf := by
  induction rows generalizing fields with
  | nil =>
    cases h
    rfl
  | cons row rows ih =>
    rw [List.length_cons, bindRows, List.map_cons, List.flatten_cons] at h
    rcases hfirst : bindParams table columns (row.map bound ++
        (rows.map (List.map bound)).flatten) with exception | ⟨values, params⟩
    · rw [hfirst] at h
      cases h
    · obtain ⟨rfl, rfl⟩ := bindParams_bound hcolumns (hlength row List.mem_cons_self) hfirst
      rw [hfirst, ok_bind] at h
      dsimp only at h
      rcases hrest : bindRows table columns rows.length (rows.map (List.map bound)).flatten with
        exception | ⟨fields', rest'⟩
      · rw [hrest] at h
        cases h
      · rw [hrest] at h
        cases h
        rw [ih (fun other hother => hlength other (List.mem_cons_of_mem _ hother)) hrest]
        rfl

/-- The parameters of rows of numbers. -/
theorem toPqxx_flatten (rows : List (List Int64)) :
    ValueCollector.toPqxx (rows.map (List.map fun value => (integer value).toString)).flatten =
      (rows.map (List.map bound)).flatten := by
  induction rows with
  | nil => rfl
  | cons row rows ih =>
    rw [List.map_cons, List.flatten_cons, toPqxx_append, ih, List.map_cons, List.flatten_cons,
      ← toPqxx_integers, List.map_map]
    rfl

/-- The rows of numbers that a statement inserts into a table without generated numbers, one for
each of some items. -/
theorem perform_insert {ι : Type} {choices : Choices} {options : InsertOptions} {items : List ι}
    {collector : ι → ValueCollector} (valuesOf : ι → List Int64) (makeRow : ι → TableRow)
    (hcollector : ∀ item, collector item = (valuesOf item).map fun value =>
      (integer value).toString)
    (hcolumns : ∀ column ∈ options.columns, ∃ minimum maximum,
      columnType options.table column = .ok (.integer minimum maximum))
    (hlength : ∀ item, (valuesOf item).length = options.columns.length)
    (hrow : ∀ index item, insertedRow choices options.table options.columns index
      (fieldsOf (valuesOf item)) = makeRow item)
    {tables : Tables} {answer : Rows} {writes : List (Write Table Column)}
    (h : perform choices ⟨.insert { options with valuesCount := (items.map collector).length },
      ValueCollector.toPqxx (items.map collector).flatten⟩ tables = .ok (answer, writes)) :
    let inserts := (items.map makeRow).map (Write.insert options.table)
    writes = inserts ++ (triggeredRows choices options.table (items.map makeRow)
      (applyAll schema inserts tables)).map (Write.insert .operation) := by
  have hcollected : items.map collector = (items.map valuesOf).map
      (List.map fun value => (integer value).toString) := by
    rw [List.map_map]
    exact List.map_congr_left fun item _ => hcollector item
  rw [hcollected] at h
  obtain ⟨-, fields, hfields, -, hwrites⟩ := insert_eq_ok.mp h
  rw [toPqxx_flatten, List.length_map] at hfields
  have hlengths : ∀ row ∈ items.map valuesOf, row.length = options.columns.length := by
    intro row hmem
    obtain ⟨item, -, rfl⟩ := List.mem_map.mp hmem
    exact hlength item
  have hinserted : (fields.mapIdx (insertedRow choices options.table options.columns)) =
      items.map makeRow := by
    rw [bindRows_bound hcolumns hlengths hfields]
    refine List.ext_getElem (by simp) fun index hindex hindex' => ?_
    rw [List.getElem_mapIdx, List.getElem_map, List.getElem_map, List.getElem_map]
    exact hrow index _
  dsimp only at hwrites ⊢
  rw [hwrites, hinserted]

/-- The columns of `Warehouse_Item` are integers. -/
theorem columnType_warehouseItem {column : Column}
    (h : column = .warehouseId ∨ column = .productId ∨ column = .count) :
    ∃ minimum maximum, columnType .warehouseItem column = .ok (.integer minimum maximum) := by
  rcases h with rfl | rfl | rfl
  · exact ⟨_, _, rfl⟩
  · exact ⟨_, _, rfl⟩
  · exact ⟨_, _, rfl⟩

/-- The rows of new items are inserted. -/
theorem perform_insertItems {choices : Choices} {warehouseId : Int64}
    {items : List (Int64 × Int64)} {query : Query}
    (hquery : WarehouseItem.insertItems warehouseId items = .ok query)
    {tables : Tables} {rows : Rows} {writes : List (Write Table Column)}
    (h : perform choices ⟨query.options, query.params.toPqxx⟩ tables = .ok (rows, writes)) :
    writes = (items.map fun item => itemRow warehouseId.toInt item.1.toInt item.2.toInt).map
      (Write.insert .warehouseItem) := by
  obtain ⟨-, -, rfl⟩ := QueryFactory.createInsert_eq_ok.mp hquery
  have hwrites := perform_insert (fun item : Int64 × Int64 => [warehouseId, item.1, item.2])
    (fun item => itemRow warehouseId.toInt item.1.toInt item.2.toInt) (fun _ => rfl)
    (fun column hcolumn => columnType_warehouseItem (by simpa using hcolumn)) (fun _ => rfl) ?_ h
  · simpa using hwrites
  · intro index item
    funext column
    cases column <;> rfl

/-! ## Products as ids with counts -/

/-- The products are these ids with these counts. -/
def Listed (products : List Product) (items : List (Int64 × Int64)) : Prop :=
  List.Forall₂ (fun product item => product.id = some item.1 ∧ product.count = some item.2)
    products items

/-- The parameters of a row of `WarehouseItem::InsertsEntry`. -/
theorem WarehouseItem.insertsRow_eq_ok {warehouseId : Int64} {product : Product}
    {values : ValueCollector} (h : WarehouseItem.insertsRow warehouseId product = .ok values) :
    ∃ item : Int64 × Int64, (product.id = some item.1 ∧ product.count = some item.2) ∧
      values = [warehouseId, item.2, item.1].map fun value => (integer value).toString := by
  unfold WarehouseItem.insertsRow at h
  rcases hcount : product.count with _ | count
  · rw [hcount] at h
    cases h
  · rcases hid : product.id with _ | id
    · rw [hcount, hid] at h
      cases h
    · rw [hcount, hid] at h
      cases h
      exact ⟨(id, count), ⟨rfl, rfl⟩, rfl⟩

/-- The parameters of a row of `InsertInvoiceItems`. -/
theorem Invoice.insertItemsRow_eq_ok {invoiceId : Int64} {product : Product}
    {values : ValueCollector} (h : Invoice.insertItemsRow invoiceId product = .ok values) :
    ∃ item : Int64 × Int64, (product.id = some item.1 ∧ product.count = some item.2) ∧
      values = [invoiceId, item.1, item.2].map fun value => (integer value).toString := by
  unfold Invoice.insertItemsRow at h
  rcases hid : product.id with _ | id
  · rw [hid] at h
    cases h
  · rcases hcount : product.count with _ | count
    · rw [hid, hcount] at h
      cases h
    · rw [hid, hcount] at h
      cases h
      exact ⟨(id, count), ⟨rfl, rfl⟩, rfl⟩

/-- The rows of new products are inserted. -/
theorem perform_insertsEntry {choices : Choices} {warehouseId : Int64} {products : List Product}
    {values : List ValueCollector} (hvalues : products.mapM (WarehouseItem.insertsRow warehouseId) =
      .ok values)
    {query : Query} (hquery : QueryFactory.createInsert
      { table := .warehouseItem, columns := [.warehouseId, .count, .productId]
        returning := [.productId] } values = .ok query)
    {tables : Tables} {rows : Rows} {writes : List (Write Table Column)}
    (h : perform choices ⟨query.options, query.params.toPqxx⟩ tables = .ok (rows, writes)) :
    ∃ items, Listed products items ∧
      writes = (items.map fun item => itemRow warehouseId.toInt item.1.toInt item.2.toInt).map
        (Write.insert .warehouseItem) := by
  obtain ⟨items, hitems, rfl⟩ :=
    Exceptions.forall₂_of_mapM (fun _ _ => WarehouseItem.insertsRow_eq_ok) hvalues
  obtain ⟨-, -, rfl⟩ := QueryFactory.createInsert_eq_ok.mp hquery
  refine ⟨items, hitems, ?_⟩
  have hwrites := perform_insert (fun item : Int64 × Int64 => [warehouseId, item.2, item.1])
    (fun item => itemRow warehouseId.toInt item.1.toInt item.2.toInt) (fun _ => rfl)
    (fun column hcolumn => columnType_warehouseItem ?_) (fun _ => rfl) ?_ h
  · simpa using hwrites
  · simp only [List.mem_cons, List.not_mem_nil, or_false] at hcolumn
    rcases hcolumn with h | h | h
    · exact .inl h
    · exact .inr (.inr h)
    · exact .inr (.inl h)
  · intro index item
    funext column
    cases column <;> rfl

/-! ## Invoices -/

/-- An optional value comes with its column, as the last one. -/
theorem zip_appendToQueryOptional {query : List Column × ValueCollector}
    (hlength : query.1.length = query.2.length) (optionalValue : Option Scalar) (column : Column) :
    let added := appendToQueryOptional query optionalValue column
    added.1.length = added.2.length ∧ added.1.zip added.2 =
      query.1.zip query.2 ++ (optionalValue.map fun value => (column, value.toString)).toList := by
  cases optionalValue with
  | none => simp [appendToQueryOptional, hlength]
  | some value =>
    simp [appendToQueryOptional, ValueCollector.append, hlength, List.zip_append hlength]

/-- A row of `Invoice_Item`. -/
def invoiceItemRow (invoiceId productId count : Int) : TableRow
  | .invoiceId => some (.integer invoiceId)
  | .productId => some (.integer productId)
  | .count => some (.integer count)
  | _ => none

/-- The items of an invoice are inserted, and with them the operations. -/
theorem perform_insertInvoiceItems {choices : Choices} {invoiceId : Int64}
    {products : List Product} {values : List ValueCollector}
    (hvalues : products.mapM (Invoice.insertItemsRow invoiceId) = .ok values)
    {query : Query} (hquery : QueryFactory.createInsert
      { table := .invoiceItem, columns := [.invoiceId, .productId, .count] } values = .ok query)
    {tables : Tables} {rows : Rows} {writes : List (Write Table Column)}
    (h : perform choices ⟨query.options, query.params.toPqxx⟩ tables = .ok (rows, writes)) :
    ∃ items, Listed products items ∧
      let inserted := items.map fun item =>
        invoiceItemRow invoiceId.toInt item.1.toInt item.2.toInt
      let inserts := inserted.map (Write.insert .invoiceItem)
      writes = inserts ++ (triggeredRows choices .invoiceItem inserted
        (applyAll schema inserts tables)).map (Write.insert .operation) := by
  obtain ⟨items, hitems, rfl⟩ :=
    Exceptions.forall₂_of_mapM (fun _ _ => Invoice.insertItemsRow_eq_ok) hvalues
  obtain ⟨-, -, rfl⟩ := QueryFactory.createInsert_eq_ok.mp hquery
  refine ⟨items, hitems, ?_⟩
  refine perform_insert (fun item : Int64 × Int64 => [invoiceId, item.1, item.2])
    (fun item => invoiceItemRow invoiceId.toInt item.1.toInt item.2.toInt) (fun _ => rfl) ?_
    (fun _ => rfl) ?_ h
  · intro column hcolumn
    simp only [List.mem_cons, List.not_mem_nil, or_false] at hcolumn
    rcases hcolumn with rfl | rfl | rfl
    · exact ⟨_, _, rfl⟩
    · exact ⟨_, _, rfl⟩
    · exact ⟨_, _, rfl⟩
  · intro index item
    funext column
    cases column <;> rfl

/-- The columns of an invoice with their parameters. -/
theorem Invoice.zip_insertColumns {invoice : Invoice} {added : List Column × ValueCollector}
    (h : invoice.insertColumns = .ok added) :
    added.1.length = added.2.length ∧ ∃ name createdBy createdDate,
      added.1.zip added.2 = [(.name, name), (.createdBy, createdBy), (.createdDate, createdDate)] ++
        (invoice.warehouseFromId.map fun id => (.warehouseFromId, (integer id).toString)).toList ++
        (invoice.warehouseToId.map fun id => (.warehouseToId, (integer id).toString)).toList ++
        (invoice.description.map fun text => (.description, text)).toList := by
  unfold Invoice.insertColumns at h
  rcases hname : invoice.name with _ | name
  · rw [hname] at h
    cases h
  · rcases hcreatedBy : invoice.createdBy with _ | createdBy
    · rw [hname, hcreatedBy] at h
      cases h
    · rcases hcreatedDate : invoice.createdDate with _ | createdDate
      · rw [hname, hcreatedBy, hcreatedDate] at h
        cases h
      · rw [hname, hcreatedBy, hcreatedDate] at h
        simp only [required, ok_bind, pure, Except.pure, Except.ok.injEq] at h
        subst h
        have hfrom := @zip_appendToQueryOptional ([.name, .createdBy, .createdDate],
            ((ValueCollector.append [] (.text name)).append (unsigned createdBy)).append
              (unsigned createdDate)) rfl (invoice.warehouseFromId.map integer) .warehouseFromId
        have hto := zip_appendToQueryOptional hfrom.1 (invoice.warehouseToId.map integer)
          .warehouseToId
        have hall := zip_appendToQueryOptional hto.1 (invoice.description.map .text) .description
        refine ⟨hall.1, name, (unsigned createdBy).toString, (unsigned createdDate).toString, ?_⟩
        rw [hall.2, hto.2, hfrom.2, Option.map_map, Option.map_map, Option.map_map]
        rfl

/-- One row of parameters. -/
theorem bindRows_one {table : Table} {columns : List Column} {params rest : List (Option String)}
    {rows : List (List (Option Value))} (h : bindRows table columns 1 params = .ok (rows, rest)) :
    ∃ fields, bindParams table columns params = .ok (fields, rest) ∧ rows = [fields] := by
  rw [bindRows] at h
  rcases hfields : bindParams table columns params with exception | ⟨fields, params'⟩
  · rw [hfields] at h
    cases h
  · rw [hfields] at h
    cases h
    exact ⟨fields, rfl, rfl⟩

/-- What is assigned to the column of an optional number: the number, or nothing. -/
theorem assigned_optional {table : Table} {added : List Column × ValueCollector}
    (hlength : added.1.length = added.2.length) (hnodup : added.1.Nodup)
    {fields : List (Option Value)}
    (hfields : bindParams table added.1 (ValueCollector.toPqxx added.2) = .ok (fields, []))
    {column : Column} (hcolumn : columnType table column = .ok .int8) {optional : Option Int64}
    (hmem : ∀ text, (column, text) ∈ added.1.zip added.2 ↔
      ∃ value, optional = some value ∧ (integer value).toString = text) :
    (assigned added.1 fields column).join =
      optional.map fun value => .integer value.toInt := by
  cases optional with
  | none =>
    have hnot : column ∉ added.1 := by
      intro hin
      rw [← List.map_fst_zip (Nat.le_of_eq hlength)] at hin
      obtain ⟨⟨other, text⟩, hpair, rfl⟩ := List.mem_map.mp hin
      obtain ⟨value, hvalue, -⟩ := (hmem text).mp hpair
      cases hvalue
    rw [assigned_of_notMem hnot]
    rfl
  | some value =>
    have hpair : (column, bound value) ∈ added.1.zip (ValueCollector.toPqxx added.2) := by
      have hin := (hmem _).mpr ⟨value, rfl, rfl⟩
      unfold ValueCollector.toPqxx
      rw [List.zip_map_right]
      refine List.mem_map.mpr ⟨_, hin, ?_⟩
      rw [Prod.map_apply, integer, if_neg (Scalar.integer_ne_null value.toInt)]
      rfl
    obtain ⟨type, field, htype, hfield, hassigned⟩ := assigned_of_mem hfields hnodup hpair
    cases htype.symm.trans hcolumn
    rw [bindValue_int8] at hfield
    cases hfield
    rw [hassigned]
    rfl

/-- The row of a new invoice, and the answer with its id. -/
theorem perform_insertInvoice {choices : Choices} {invoice : Invoice} {query : Query}
    (hquery : invoice.insertQuery = .ok query) {tables : Tables} {answer : Rows}
    {writes : List (Write Table Column)}
    (h : perform choices ⟨query.options, query.params.toPqxx⟩ tables = .ok (answer, writes)) :
    ∃ row : TableRow, writes = [.insert .invoice row] ∧
      row .invoiceId = some (.integer (choices.identity .invoice 0)) ∧
      row .warehouseFromId = invoice.warehouseFromId.map (fun id => .integer id.toInt) ∧
      row .warehouseToId = invoice.warehouseToId.map (fun id => .integer id.toInt) ∧
      answer = [project [.invoiceId, .prettyName] row] := by
  unfold Invoice.insertQuery at hquery
  split at hquery
  · cases hquery
  · rcases hadded : invoice.insertColumns with exception | added
    · rw [hadded] at hquery
      cases hquery
    · rw [hadded] at hquery
      simp only [ok_bind] at hquery
      split at hquery
      · rename_i created hcreated
        cases hquery
        obtain ⟨-, -, rfl⟩ := QueryFactory.createInsert_eq_ok.mp hcreated
        obtain ⟨hlength, name, createdBy, createdDate, hzip⟩ := Invoice.zip_insertColumns hadded
        obtain ⟨hwritable, rows, hrows, hanswer, hwrites⟩ := insert_eq_ok.mp h
        dsimp only at hwritable hrows hanswer hwrites
        rw [List.flatten_singleton, List.length_singleton] at hrows
        obtain ⟨fields, hfields, rfl⟩ := bindRows_one hrows
        have hnodup : added.1.Nodup := by
          simp only [areWritable, Bool.and_eq_true, decide_eq_true_eq] at hwritable
          exact hwritable.1.1.1.2
        refine ⟨insertedRow choices .invoice added.1 0 fields, ?_, ?_, ?_, ?_, ?_⟩
        · simpa using hwrites
        · rfl
        · refine assigned_optional hlength hnodup hfields rfl fun text => ?_
          rw [hzip]
          simp
        · refine assigned_optional hlength hnodup hfields rfl fun text => ?_
          rw [hzip]
          simp
        · simpa using hanswer
      · cases hquery

/-- The id of an invoice is read from the answer. -/
theorem invoiceIdGetter_eq_ok {row : TableRow} {id : Int}
    (hid : row .invoiceId = some (.integer id)) {invoice invoice' : Invoice}
    (h : Invoice.invoiceIdGetter [project [.invoiceId, .prettyName] row] invoice = .ok invoice') :
    ∃ invoiceId : Int64, invoiceId.toInt = id ∧ invoice'.invoiceId = some invoiceId ∧
      invoice'.warehouseFromId = invoice.warehouseFromId ∧
      invoice'.warehouseToId = invoice.warehouseToId := by
  unfold Invoice.invoiceIdGetter at h
  have hfield : Rows.at [project [.invoiceId, .prettyName] row] 0 0 = .ok (some (toString id)) := by
    simp [Rows.at, fieldAt, project, hid, Value.toText]
  rw [hfield, ok_bind, getInt64, Decimal.parse_toString] at h
  dsimp only at h
  split at h
  · rename_i hrange
    rw [ok_bind, required, ok_bind] at h
    rcases hname : (Rows.at [project [.invoiceId, .prettyName] row] 0 1) with exception | field
    · rw [hname] at h
      cases h
    · rcases hpretty : required field with exception | prettyName
      · rw [hname] at h
        simp only [ok_bind, getString, hpretty] at h
        cases h
      · rw [hname] at h
        simp only [ok_bind, getString, hpretty, pure, Except.pure, Except.ok.injEq] at h
        subst h
        have hmaximum : Int64.maxValue.toInt = 2 ^ 63 - 1 := rfl
        exact ⟨Int64.ofInt id, Int64.toInt_ofInt_of_le hrange.1 (by omega), rfl, rfl, rfl⟩
  · cases h

/-! ## Products -/

/-- A statement that inserts rows into another table inserts nothing else. -/
theorem perform_insert_of_ne {choices : Choices} {options : InsertOptions}
    (htable : options.table ≠ .invoiceItem) {params : List (Option String)} {tables : Tables}
    {answer : Rows} {writes : List (Write Table Column)}
    (h : perform choices ⟨.insert options, params⟩ tables = .ok (answer, writes)) :
    ∃ rows : List TableRow, writes = rows.map (Write.insert options.table) := by
  obtain ⟨-, fields, -, -, hwrites⟩ := insert_eq_ok.mp h
  rw [triggeredRows_of_ne htable, List.map_nil, List.append_nil] at hwrites
  exact ⟨_, hwrites⟩

end TaskMgr.Tasks

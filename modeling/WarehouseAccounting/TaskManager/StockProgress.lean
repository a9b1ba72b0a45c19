import WarehouseAccounting.DbConnector.CountText
import WarehouseAccounting.Foundations.Acceptance
import WarehouseAccounting.Foundations.Exceptions
import WarehouseAccounting.TaskManager.InvoiceEffects

/-!
# Changes of the stock that get to their ends

What it takes for the statements of `ChangeCount` to be answered while nothing disturbs the
transaction.

- `quiet_insert`: rows are inserted when their values are of the types of the columns and no
  constraint is against them.
- `WarehouseItem.completes_changesOf_rows`, `WarehouseItem.exists_handleCritical`,
  `WarehouseItem.exists_handleModifying`: the three stages of `ChangeCount`.
- `WarehouseItem.exists_changed`: what has got to its end has gone through its stages.
-/

namespace TaskMgr.Tasks

open Ufa Srv.Db Srv.Db.Trsct Srv.Db.Sql Srv.Db.DbMgr.Scpts Relational

/-! ## Rows that are inserted -/

/-- What follows the parameters of a row is left. -/
theorem bindParams_append {table : Table} {columns : List Column}
    {params rest : List (Option String)} {fields : List (Option Value)}
    (h : bindParams table columns params = .ok (fields, rest)) (others : List (Option String)) :
    bindParams table columns (params ++ others) = .ok (fields, rest ++ others) := by
  induction columns generalizing params fields with
  | nil =>
    cases h
    rfl
  | cons column columns ih =>
    match params with
    | [] => cases h
    | param :: params =>
      rw [bindParams] at h
      obtain ⟨type, htype, h⟩ := bind_eq_ok.mp h
      obtain ⟨value, hvalue, h⟩ := bind_eq_ok.mp h
      obtain ⟨⟨values, rest'⟩, hvalues, h⟩ := bind_eq_ok.mp h
      cases h
      rw [List.cons_append, bindParams, htype, ok_bind, hvalue, ok_bind, ih hvalues, ok_bind]
      rfl

/-- Rows are bound one after the other. -/
theorem bindRows_of_bindParams {table : Table} {columns : List Column}
    {params : List (List (Option String))} {fields : List (List (Option Value))}
    (h : List.Forall₂ (fun params fields => bindParams table columns params = .ok (fields, []))
      params fields) :
    bindRows table columns params.length params.flatten = .ok (fields, []) := by
  induction h with
  | nil => rfl
  | @cons params fields others rest hfirst _ ih =>
    rw [List.length_cons, List.flatten_cons, bindRows, bindParams_append hfirst, ok_bind]
    dsimp only
    rw [List.nil_append, ih]
    rfl

/-- Numbers in the ranges of their columns are bound. -/
theorem bindParams_numbers {table : Table} {columns : List Column} {values : List Int64}
    (h : List.Forall₂ (fun column value => ∃ minimum maximum,
      columnType table column = .ok (.integer minimum maximum) ∧
        minimum ≤ value.toInt ∧ value.toInt ≤ maximum) columns values) :
    bindParams table columns (values.map bound) = .ok (fieldsOf values, []) := by
  induction h with
  | nil => rfl
  | @cons column value columns values hfirst _ ih =>
    obtain ⟨minimum, maximum, hcolumn, hrange⟩ := hfirst
    have hvalue : bindValue (.integer minimum maximum) (bound value) =
        .ok (some (.integer value.toInt)) := by
      rw [bound, bindValue, ColumnType.parse_toString, if_pos hrange]
    rw [List.map_cons, bindParams, hcolumn, ok_bind, hvalue, ok_bind, ih, ok_bind]
    rfl

/-- The rows of numbers that a statement inserts, one for each of some items, when all numbers are
in the ranges of their columns. -/
theorem perform_insertNumbers {ι : Type} {choices : Choices} {options : InsertOptions}
    {items : List ι} {collector : ι → ValueCollector} (valuesOf : ι → List Int64)
    (makeRow : ι → TableRow) (hne : items ≠ [])
    (hwritable : (areWritable options.table options.columns &&
      areColumns options.table options.returning) = true)
    (hcollector : ∀ item, collector item = (valuesOf item).map fun value =>
      (integer value).toString)
    (hranges : ∀ item ∈ items, List.Forall₂ (fun column value => ∃ minimum maximum,
      columnType options.table column = .ok (.integer minimum maximum) ∧
        minimum ≤ value.toInt ∧ value.toInt ≤ maximum) options.columns (valuesOf item))
    (hrow : ∀ index item, insertedRow choices options.table options.columns index
      (fieldsOf (valuesOf item)) = makeRow item)
    (tables : Tables) :
    let rows := items.map makeRow
    let inserts := rows.map (Write.insert options.table)
    perform choices ⟨.insert { options with valuesCount := (items.map collector).length },
        ValueCollector.toPqxx (items.map collector).flatten⟩ tables =
      .ok (if options.returning.isEmpty then [] else rows.map (project options.returning),
        inserts ++ (triggeredRows choices options.table rows
          (applyAll schema inserts tables)).map (Write.insert .operation)) := by
  have hcollected : items.map collector = (items.map valuesOf).map
      (List.map fun value => (integer value).toString) := by
    rw [List.map_map]
    exact List.map_congr_left fun item _ => hcollector item
  have hcount : (items.map collector).length =
      ((items.map valuesOf).map (List.map bound)).length := by
    simp only [List.length_map]
  have hbind : bindRows options.table options.columns (items.map collector).length
      (ValueCollector.toPqxx (items.map collector).flatten) =
        .ok ((items.map valuesOf).map fieldsOf, []) := by
    rw [hcount, hcollected, toPqxx_flatten]
    refine bindRows_of_bindParams ?_
    rw [List.forall₂_map_left_iff, List.forall₂_map_right_iff, List.forall₂_same]
    intro values hvalues
    obtain ⟨item, hitem, rfl⟩ := List.mem_map.mp hvalues
    exact bindParams_numbers (hranges item hitem)
  have hrows : ((items.map valuesOf).map fieldsOf).mapIdx
      (insertedRow choices options.table options.columns) = items.map makeRow := by
    refine List.ext_getElem (by simp) fun index hindex hindex' => ?_
    rw [List.getElem_mapIdx, List.getElem_map, List.getElem_map, List.getElem_map]
    exact hrow index _
  refine insert_eq_ok.mpr ⟨?_, _, hbind, ?_, ?_⟩
  · rw [hwritable, Bool.true_and, List.length_map]
    simpa using hne
  · rw [hrows]
  · rw [hrows]

section Quiet

variable {choices : Nat → Choices} {clock : Nat} {tables : Tables}

/-- The answers of the database while nothing disturbs the transaction. -/
abbrev Quiet (choices : Nat → Choices) :
    Nat × Tables → Statement → Rows → Nat × Tables → Prop :=
  Program.Clocked (quietDatabase choices).answers

/-- A statement that writes is answered when its writes are accepted. -/
theorem quiet_of_perform {statement : Statement} {rows : Rows} {writes : List (Write Table Column)}
    (hselect : statement.options.getIdentificator ≠ .select)
    (hraw : statement.options.getIdentificator ≠ .raw)
    (hperform : perform (choices clock) statement tables = .ok (rows, writes))
    (haccepts : accepts schema writes tables = true) :
    Quiet choices (clock, tables) statement rows (clock + 1, applyAll schema writes tables) ∧
      Answers tables statement rows (applyAll schema writes tables) := by
  have hexecute := execute_eq_ok.mpr ⟨hperform, haccepts⟩
  refine ⟨⟨?_, rfl⟩, choices clock, writes, hexecute, rfl⟩
  obtain ⟨options, params⟩ := statement
  cases options with
  | select options => exact absurd rfl hselect
  | raw options => exact absurd rfl hraw
  | insert options | update options | delete options =>
    show (execute (choices clock) _ tables).map _ = _
    rw [hexecute]
    rfl

/-- An insertion is answered when its writes are accepted. -/
theorem quiet_insert {options : InsertOptions} {params : List (Option String)}
    {values : List (List (Option Value))}
    (hwritable : (areWritable options.table options.columns &&
      areColumns options.table options.returning && options.valuesCount ≠ 0) = true)
    (hvalues : bindRows options.table options.columns options.valuesCount params =
      .ok (values, []))
    {rows : List TableRow} (hrows : rows =
      values.mapIdx (insertedRow (choices clock) options.table options.columns))
    {writes : List (Write Table Column)} (hwrites : writes =
      rows.map (Write.insert options.table) ++ (triggeredRows (choices clock) options.table rows
        (applyAll schema (rows.map (Write.insert options.table)) tables)).map
          (Write.insert .operation))
    (haccepts : accepts schema writes tables = true) :
    let answer := if options.returning.isEmpty then [] else rows.map (project options.returning)
    Quiet choices (clock, tables) ⟨.insert options, params⟩ answer
        (clock + 1, applyAll schema writes tables) ∧
      Answers tables ⟨.insert options, params⟩ answer (applyAll schema writes tables) := by
  subst hrows hwrites
  have hperform : perform (choices clock) ⟨.insert options, params⟩ tables = .ok (_, _) :=
    insert_eq_ok.mpr ⟨hwritable, values, hvalues, rfl, rfl⟩
  exact quiet_of_perform QueryIdentificator.noConfusion QueryIdentificator.noConfusion hperform
    haccepts

namespace WarehouseItem

/-! ## Decisions -/

/-- What is decided on an item whose product has these rows in the warehouse. -/
def changeFor (warehouseId : Int64) (isReducing : Bool) (rows : List TableRow)
    (item : Int64 × Int64) : Change :=
  match rows.filter (isItem warehouseId.toInt item.1.toInt) with
  | [] => .critical item.1 item.2
  | row :: _ =>
    if isReducing then
      if Int64.ofInt (countOf row) ≤ item.2 then .critical item.1 item.2
      else .modify item.1 (Int64.ofInt (countOf row) - item.2)
    else .modify item.1 (Int64.ofInt (countOf row) + item.2)

/-- The stored count is read. -/
theorem quiet_selectCount (hintegral : Integral schema tables) (productId warehouseId : Int64) :
    Quiet choices (clock, tables) (sent (selectCount productId warehouseId))
      (((tables .warehouseItem).filter (isItem warehouseId.toInt productId.toInt)).map fun row =>
        [some (toString (countOf row))]) (clock + 1, tables) := by
  have hselect : perform (choices clock) (sent (selectCount productId warehouseId)) tables =
      (read (choices clock) _ (selectCount productId warehouseId).params.toPqxx tables).map
        (·, []) :=
    congrArg (Except.map (·, []))
      (read_eq_select rfl (List.cons_ne_nil _ _) (choices clock) _ tables).symm
  rw [perform_selectCount] at hselect
  have hrows : ((choices clock).arrange ((tables .warehouseItem).filter
      (isItem warehouseId.toInt productId.toInt))).map (project [.count]) =
      ((tables .warehouseItem).filter (isItem warehouseId.toInt productId.toInt)).map fun row =>
        [some (toString (countOf row))] := by
    have hperm := (choices clock).arrange_perm
      ((tables .warehouseItem).filter (isItem warehouseId.toInt productId.toInt))
    rcases filter_isItem hintegral warehouseId.toInt productId.toInt with hnil | ⟨row, hrow, hone⟩
    · rw [hnil] at hperm ⊢
      rw [hperm.eq_nil]
      rfl
    · rw [hone] at hperm ⊢
      rw [hperm.eq_singleton, List.map_singleton, List.map_singleton, project, List.map_singleton,
        (count_of_integral hintegral hrow).1]
      rfl
  rw [hrows] at hselect
  refine ⟨?_, rfl⟩
  show answer (choices clock) (sent (selectCount productId warehouseId)) tables = .ok (_, tables)
  obtain ⟨rows, hread, hpair⟩ := Exceptions.map_eq_ok_iff.mp hselect.symm
  cases hpair
  exact (answer_select (choices clock) (List.cons_ne_nil _ _) _ tables).trans
    (congrArg (Except.map (·, tables)) hread)

/-- The decision on a product that may not be missing. -/
theorem completes_changeOf_row (hintegral : Integral schema tables) {warehouseId : Int64}
    {isReducing : Bool} {product : Product} {item : Int64 × Int64}
    (hproduct : product.id = some item.1 ∧ product.count = some item.2)
    (hfound : isReducing = true →
      (tables .warehouseItem).filter (isItem warehouseId.toInt item.1.toInt) ≠ []) :
    (changeOf warehouseId isReducing product).Completes (Quiet choices) (clock, tables)
      (clock + 1, tables) () (changeFor warehouseId isReducing (tables .warehouseItem) item) := by
  unfold changeOf
  rw [hproduct.1, hproduct.2]
  have hread := @quiet_selectCount choices clock tables hintegral item.1
    warehouseId
  refine Program.completes_bind.mpr ⟨_, _, Script.completes_ofExcept.mpr ⟨rfl, rfl⟩, ?_⟩
  refine Program.completes_bind.mpr ⟨_, _, Script.completes_ofExcept.mpr ⟨rfl, rfl⟩, ?_⟩
  refine Program.completes_bind.mpr ⟨_, _, Script.completes_execute.mpr hread, ?_⟩
  unfold changeFor
  rcases filter_isItem hintegral warehouseId.toInt item.1.toInt with hnil | ⟨row, hrow, hone⟩
  · -- Only what is added may have no row.
    cases isReducing with
    | true => exact absurd hnil (hfound rfl)
    | false =>
      rw [hnil]
      exact ⟨rfl, rfl, rfl⟩
  · have hcount := asInt64_toString (count_of_integral hintegral hrow).2
    have hat : Rows.at [[some (toString (countOf row))]] 0 0 =
        .ok (some (toString (countOf row))) := rfl
    rw [hone, List.map_singleton]
    cases isReducing with
    | true =>
      simp only [List.isEmpty_cons, Bool.and_false, Bool.false_eq_true, if_false, predicate,
        calcTarget, hat, ok_bind, hcount, if_true]
      by_cases hle : Int64.ofInt (countOf row) ≤ item.2
      · rw [if_pos hle, decide_eq_true hle]
        exact ⟨rfl, rfl, rfl⟩
      · rw [if_neg hle, decide_eq_false hle]
        exact ⟨rfl, rfl, rfl⟩
    | false =>
      simp only [List.isEmpty_cons, Bool.false_and, Bool.false_eq_true, if_false, predicate,
        calcTarget, hat, ok_bind, hcount]
      exact ⟨rfl, rfl, rfl⟩

/-- The decisions on products that may not be missing. -/
theorem completes_changesOf_rows (hintegral : Integral schema tables) {warehouseId : Int64}
    {isReducing : Bool} {products : List Product} {items : List (Int64 × Int64)}
    (hitems : Listed products items)
    (hfound : isReducing = true → ∀ item ∈ items,
      (tables .warehouseItem).filter (isItem warehouseId.toInt item.1.toInt) ≠ []) :
    (changesOf warehouseId isReducing products).Completes (Quiet choices) (clock, tables)
      (clock + products.length, tables) ()
      (items.map (changeFor warehouseId isReducing (tables .warehouseItem))) := by
  unfold Listed at hitems
  induction hitems generalizing clock with
  | nil => exact Script.completes_pure.mpr ⟨rfl, rfl⟩
  | @cons product item products items hproduct _ ih =>
    rw [changesOf, List.length_cons, List.map_cons]
    refine Program.completes_bind.mpr ⟨_, _, completes_changeOf_row hintegral hproduct
      fun hreducing => hfound hreducing item List.mem_cons_self, ?_⟩
    refine Program.completes_bind.mpr ⟨_, _, ih fun hreducing other hother =>
      hfound hreducing other (List.mem_cons_of_mem _ hother), ?_⟩
    exact Script.completes_pure.mpr ⟨by rw [Nat.add_assoc, Nat.add_comm 1], rfl⟩

/-! ## Rows of Warehouse_Item -/

/-- Every stored item belongs to a product and a warehouse that are there. -/
def StockHasParents (tables : Tables) : Prop :=
  ∀ row ∈ tables .warehouseItem, schema.parentsExist tables .warehouseItem row = true

/-- The parents of an item are in other tables. -/
theorem parentsExist_congr {tables' : Tables} (h : ∀ table, table ≠ .warehouseItem →
    tables' table = tables table) (row : TableRow) :
    schema.parentsExist tables' .warehouseItem row =
      schema.parentsExist tables .warehouseItem row := by
  have hproduct := h .product (by decide)
  have hwarehouse := h .warehouse (by decide)
  simp only [Schema.parentsExist, schema, tableSchema, referenceTo, List.all_cons, List.all_nil,
    hproduct, hwarehouse]

/-- There is a row of the product. -/
def HasProduct (tables : Tables) (productId : Int) : Prop :=
  ∃ row ∈ tables .product, row .productId = some (.integer productId)

/-- An item may belong to a product and a warehouse that are there. -/
theorem parentsExist_itemRow {warehouseId productId count : Int} :
    schema.parentsExist tables .warehouseItem (itemRow warehouseId productId count) = true ↔
      HasProduct tables productId ∧ HasWarehouse tables warehouseId := by
  simp [Schema.parentsExist, schema, tableSchema, referenceTo, itemRow, HasProduct, HasWarehouse]

/-- The count is no foreign key. -/
@[simp]
theorem parentsExist_setCount (target : Int) (row : TableRow) :
    schema.parentsExist tables .warehouseItem (setCount target row) =
      schema.parentsExist tables .warehouseItem row := rfl

/-- A row of four bytes conforms to the table. -/
theorem conforms_itemRow (warehouseId productId : Int64) {count : Int}
    (hcount : -2 ^ 31 ≤ count ∧ count ≤ 2 ^ 31 - 1) :
    schema.conforms .warehouseItem (itemRow warehouseId.toInt productId.toInt count) = true := by
  have hbytes : ∀ value : Int64, ColumnType.int8.admits (.integer value.toInt) = true := by
    intro value
    have hminimum := value.le_toInt
    have hmaximum := value.toInt_lt
    rw [ColumnType.admits, Bool.and_eq_true, decide_eq_true_eq, decide_eq_true_eq]
    exact ⟨by omega, by omega⟩
  have hfour : ColumnType.int4.admits (.integer count) = true := by
    rw [ColumnType.admits, Bool.and_eq_true, decide_eq_true_eq, decide_eq_true_eq]
    exact hcount
  show ((ColumnType.int8.admits (.integer warehouseId.toInt) &&
    (ColumnType.int8.admits (.integer productId.toInt) &&
      (ColumnType.int4.admits (.integer count) && true))) && true) = true
  rw [hbytes, hbytes, hfour]
  rfl

/-- So does a row with another count of four bytes. -/
theorem conforms_setCount {target : Int} (htarget : -2 ^ 31 ≤ target ∧ target ≤ 2 ^ 31 - 1)
    {row : TableRow} (hrow : schema.conforms .warehouseItem row = true) :
    schema.conforms .warehouseItem (setCount target row) = true := by
  have hfour : ColumnType.int4.admits (.integer target) = true := by
    rw [ColumnType.admits, Bool.and_eq_true, decide_eq_true_eq, decide_eq_true_eq]
    exact htarget
  simp only [Schema.conforms, schema, tableSchema, List.all_cons, List.all_nil, Bool.and_eq_true,
    Bool.and_true, setCount] at hrow ⊢
  obtain ⟨⟨hwarehouse, hproduct, -⟩, hwarehouseSome, hproductSome, -⟩ := hrow
  exact ⟨⟨hwarehouse, hproduct, hfour⟩, hwarehouseSome, hproductSome, rfl⟩

/-! ## The statements that write -/

/-- The statement that changes a count, with a target of four bytes. -/
theorem perform_updateItem_eq {choices : Choices} {warehouseId productId target : Int64}
    {query : Query} (hquery : updateItem warehouseId productId target = .ok query)
    (htarget : -2 ^ 31 ≤ target.toInt ∧ target.toInt ≤ 2 ^ 31 - 1) (tables : Tables) :
    perform choices (sent query) tables =
      .ok ([], ((tables .warehouseItem).filter (isItem warehouseId.toInt productId.toInt)).map
        fun row => .replace (schema.keyOf .warehouseItem row) (setCount target.toInt row)) := by
  obtain ⟨-, -, rfl⟩ := QueryFactory.createUpdate_eq_ok.mp hquery
  have hparams : ValueCollector.toPqxx (ValueCollector.append [] (integer target) ++
      QueryFactory.conditionParams (some (itemCondition productId warehouseId))) =
      [bound target, bound productId, bound warehouseId] := by
    simp [ValueCollector.append, QueryFactory.conditionParams, collectParams_itemCondition]
  have hwritable : areWritable .warehouseItem [.count] = true := by decide
  have hcolumn : columnType .warehouseItem .count = .ok .int4 := rfl
  have hcount : bindValue .int4 (bound target) = .ok (some (.integer target.toInt)) := by
    rw [bound, bindValue, ColumnType.parse_toString, if_pos htarget]
  simp only [perform, update, hparams, hwritable, bindParams, hcolumn, hcount, pure,
    Except.pure, Except.map, bindWhere_itemCondition, selects_itemCondition, ok_bind,
    Option.isSome_some, Bool.and_self, if_true, updatedRow_count, keyOf_setCount,
    ← List.map_eq_flatMap]

/-- The count of a product is changed to one of four bytes. -/
theorem quiet_updateItem (hintegral : Integral schema tables) (hparents : StockHasParents tables)
    (warehouseId productId : Int64) {target : Int64}
    (htarget : -2 ^ 31 ≤ target.toInt ∧ target.toInt ≤ 2 ^ 31 - 1) :
    ∃ query rows tables', updateItem warehouseId productId target = .ok query ∧
      Quiet choices (clock, tables) (sent query) rows (clock + 1, tables') ∧
      Integral schema tables' ∧ StockHasParents tables' := by
  have hquery : updateItem warehouseId productId target = .ok _ :=
    QueryFactory.createUpdate_eq_ok.mpr ⟨rfl, rfl, rfl⟩
  have happlied := applyAll_replace Table.warehouseItem (isItem warehouseId.toInt productId.toInt)
    (setCount target.toInt) (hintegral.keys_nodup .warehouseItem) (keyOf_setCount _)
  have haccepts : accepts schema (((tables .warehouseItem).filter
      (isItem warehouseId.toInt productId.toInt)).map fun row =>
        Write.replace (schema.keyOf .warehouseItem row) (setCount target.toInt row)) tables =
      true := by
    refine accepts_replaceAll rfl rfl (fun row hrow => ?_) (fun row _ => keyOf_setCount _ row)
      fun row hrow => ?_
    · exact conforms_setCount htarget (hintegral.conforms _ _ (List.mem_of_mem_filter hrow))
    · rw [parentsExist_congr fun table htable => by rw [happlied, if_neg htable],
        parentsExist_setCount]
      exact hparents row (List.mem_of_mem_filter hrow)
  obtain ⟨hquiet, hanswers⟩ := @quiet_of_perform choices clock tables _ _ _
    QueryIdentificator.noConfusion QueryIdentificator.noConfusion
    (perform_updateItem_eq hquery htarget tables) haccepts
  obtain ⟨-, hrows, hothers⟩ := answers_updateItem hintegral hquery hanswers
  refine ⟨_, _, _, hquery, hquiet, hanswers.integral hintegral, fun row hrow => ?_⟩
  rw [parentsExist_congr hothers]
  rw [hrows, modifyRows, List.mem_map] at hrow
  obtain ⟨old, hold, rfl⟩ := hrow
  split
  · exact hparents old hold
  · exact hparents old hold

/-- The rows of some products are deleted. -/
theorem quiet_deleteItems (hintegral : Integral schema tables) (hparents : StockHasParents tables)
    (warehouseId : Int64) {productIds : List Int64} (hne : productIds ≠ []) :
    ∃ query rows tables', deleteItems warehouseId productIds = .ok query ∧
      Quiet choices (clock, tables) (sent query) rows (clock + 1, tables') ∧
      Integral schema tables' ∧ StockHasParents tables' := by
  have hquery : deleteItems warehouseId productIds = .ok _ :=
    QueryFactory.createDelete_eq_ok.mpr ⟨rfl, rfl⟩
  obtain ⟨hquiet, hanswers⟩ := @quiet_of_perform choices clock tables _ _ _
    QueryIdentificator.noConfusion QueryIdentificator.noConfusion
    (perform_deleteItems hquery hne tables) (accepts_deleteAll rfl)
  obtain ⟨hrows, hothers⟩ := answers_deleteItems hintegral hquery hne hanswers
  refine ⟨_, _, _, hquery, hquiet, hanswers.integral hintegral, fun row hrow => ?_⟩
  rw [parentsExist_congr hothers]
  rw [hrows] at hrow
  exact hparents row (List.mem_of_mem_filter hrow)

/-- The items of different products that are not stored have keys of their own. -/
theorem nodup_keys_itemRows (hintegral : Integral schema tables) {warehouseId : Int64}
    {items : List (Int64 × Int64)} (hnodup : (items.map Prod.fst).Nodup)
    (hnone : ∀ item ∈ items,
      (tables .warehouseItem).filter (isItem warehouseId.toInt item.1.toInt) = []) :
    ((tables .warehouseItem ++ itemRows warehouseId items).map
      (schema.keyOf .warehouseItem)).Nodup := by
  have hkey : ∀ item : Int64 × Int64, schema.keyOf .warehouseItem
      (itemRow warehouseId.toInt item.1.toInt item.2.toInt) =
        ⟨.warehouseItem, [some (.integer warehouseId.toInt), some (.integer item.1.toInt)]⟩ :=
    fun _ => rfl
  rw [List.map_append, List.nodup_append]
  refine ⟨hintegral.keys_nodup .warehouseItem, ?_, ?_⟩
  · have hkeys : (itemRows warehouseId items).map (schema.keyOf .warehouseItem) =
        (items.map Prod.fst).map fun productId =>
          (⟨.warehouseItem, [some (.integer warehouseId.toInt), some (.integer productId.toInt)]⟩ :
            Key Table) := by
      rw [itemRows, List.map_map, List.map_map]
      rfl
    rw [hkeys]
    refine hnodup.map fun productId other hequal => ?_
    simp only [Key.mk.injEq, List.cons.injEq, Option.some.injEq, Value.integer.injEq, true_and,
      and_true] at hequal
    exact Int64.toInt_inj.mp hequal
  · rintro key hold other hnew rfl
    obtain ⟨row, hrow, rfl⟩ := List.mem_map.mp hold
    obtain ⟨new, hnew, hsame⟩ := List.mem_map.mp hnew
    obtain ⟨item, hitem, rfl⟩ := List.mem_map.mp hnew
    rw [hkey] at hsame
    have hstored := List.filter_eq_nil_iff.mp (hnone item hitem) row hrow
    exact hstored (isItem_iff_keyOf.mpr hsame.symm)

/-- Eight bytes hold every number. -/
theorem int8_range (value : Int64) : -2 ^ 63 ≤ value.toInt ∧ value.toInt ≤ 2 ^ 63 - 1 := by
  have hminimum := value.le_toInt
  have hmaximum := value.toInt_lt
  exact ⟨by omega, by omega⟩

/-- The row that is inserted for an item. -/
theorem insertedRow_item (choices : Choices) (warehouseId : Int64) (index : Nat)
    (item : Int64 × Int64) :
    insertedRow choices .warehouseItem [.warehouseId, .productId, .count] index
        (fieldsOf [warehouseId, item.1, item.2]) =
      itemRow warehouseId.toInt item.1.toInt item.2.toInt := by
  funext column
  cases column <;> rfl

/-- The rows of some items are created. -/
theorem quiet_insertItems (hintegral : Integral schema tables) (hparents : StockHasParents tables)
    {warehouseId : Int64} {items : List (Int64 × Int64)} (hne : items ≠ [])
    (hnodup : (items.map Prod.fst).Nodup)
    (hnone : ∀ item ∈ items,
      (tables .warehouseItem).filter (isItem warehouseId.toInt item.1.toInt) = [])
    (hcounts : ∀ item ∈ items, -2 ^ 31 ≤ item.2.toInt ∧ item.2.toInt ≤ 2 ^ 31 - 1)
    (hnew : ∀ item ∈ items, schema.parentsExist tables .warehouseItem
      (itemRow warehouseId.toInt item.1.toInt item.2.toInt) = true) :
    ∃ query rows tables', insertItems warehouseId items = .ok query ∧
      Quiet choices (clock, tables) (sent query) rows (clock + 1, tables') ∧
      Integral schema tables' ∧ StockHasParents tables' := by
  have hquery : insertItems warehouseId items = .ok _ :=
    QueryFactory.createInsert_eq_ok.mpr ⟨by simpa using hne, fun row hrow => by
      obtain ⟨item, -, rfl⟩ := List.mem_map.mp hrow
      rfl, rfl⟩
  have hperform := @perform_insertNumbers _ (choices clock)
    { table := .warehouseItem, columns := [.warehouseId, .productId, .count] } items
    (fun item => [warehouseId, item.1, item.2].map fun value => (integer value).toString)
    (fun item => [warehouseId, item.1, item.2])
    (fun item => itemRow warehouseId.toInt item.1.toInt item.2.toInt) hne rfl (fun _ => rfl)
    (fun item hitem => .cons ⟨_, _, rfl, int8_range _⟩ (.cons ⟨_, _, rfl, int8_range _⟩
      (.cons ⟨_, _, rfl, hcounts item hitem⟩ .nil)))
    (insertedRow_item (choices clock) warehouseId) tables
  dsimp only at hperform
  rw [triggeredRows_of_ne (by decide), List.map_nil, List.append_nil] at hperform
  have haccepts : accepts schema ((itemRows warehouseId items).map (Write.insert .warehouseItem))
      tables = true := by
    refine accepts_insertAll rfl (fun row hrow => ?_) (nodup_keys_itemRows hintegral hnodup hnone)
      fun row hrow => ?_
    · obtain ⟨item, hitem, rfl⟩ := List.mem_map.mp hrow
      exact conforms_itemRow warehouseId item.1 (hcounts item hitem)
    · obtain ⟨item, hitem, rfl⟩ := List.mem_map.mp hrow
      rw [parentsExist_congr fun table htable => by rw [applyAll_insert, if_neg htable]]
      exact hnew item hitem
  obtain ⟨hquiet, hanswers⟩ := @quiet_of_perform choices clock tables _ _ _
    QueryIdentificator.noConfusion QueryIdentificator.noConfusion hperform haccepts
  obtain ⟨hrows, hothers⟩ := answers_insertItems hquery hanswers
  refine ⟨_, _, _, hquery, hquiet, hanswers.integral hintegral, fun row hrow => ?_⟩
  rw [parentsExist_congr hothers]
  rw [hrows] at hrow
  rcases List.mem_append.mp hrow with hold | hnewRow
  · exact hparents row hold
  · obtain ⟨item, hitem, rfl⟩ := List.mem_map.mp hnewRow
    exact hnew item hitem

/-! ## The stages -/

/-- What can be created: different products that are not stored and are there, as the warehouse
is, with counts of four bytes. -/
structure Creatable (tables : Tables) (warehouseId : Int64) (items : List (Int64 × Int64)) :
    Prop where
  nodup : (items.map Prod.fst).Nodup
  absent : ∀ item ∈ items,
    (tables .warehouseItem).filter (isItem warehouseId.toInt item.1.toInt) = []
  counts : ∀ item ∈ items, -2 ^ 31 ≤ item.2.toInt ∧ item.2.toInt ≤ 2 ^ 31 - 1
  parents : ∀ item ∈ items, schema.parentsExist tables .warehouseItem
    (itemRow warehouseId.toInt item.1.toInt item.2.toInt) = true

/-- The critical products are deleted, or created if they can be. -/
theorem exists_handleCritical (hintegral : Integral schema tables)
    (hparents : StockHasParents tables) (warehouseId : Int64) (isReducing : Bool)
    {items : List (Int64 × Int64)}
    (hcreatable : isReducing = false → Creatable tables warehouseId items) :
    ∃ clock' tables', (handleCritical warehouseId isReducing items).Completes (Quiet choices)
        (clock, tables) (clock', tables') () () ∧
      Integral schema tables' ∧ StockHasParents tables' := by
  unfold handleCritical
  by_cases hempty : items.isEmpty = true
  · rw [if_pos hempty]
    exact ⟨clock, tables, Script.completes_pure.mpr ⟨rfl, rfl⟩, hintegral, hparents⟩
  · rw [if_neg hempty]
    have hne : items ≠ [] := fun hnil => hempty (List.isEmpty_iff.mpr hnil)
    cases isReducing with
    | true =>
      obtain ⟨query, rows, tables', hquery, hquiet, hintegral', hparents'⟩ :=
        @quiet_deleteItems choices clock tables hintegral hparents warehouseId
          (items.map Prod.fst) (by simpa using hne)
      rw [if_pos rfl]
      refine ⟨clock + 1, tables', Program.completes_bind.mpr ⟨_, rows, ?_,
        Script.completes_pure.mpr ⟨rfl, rfl⟩⟩, hintegral', hparents'⟩
      exact Script.completes_executeCreated.mpr ⟨query, hquery, hquiet⟩
    | false =>
      obtain ⟨hnodup, habsent, hcounts, hnew⟩ := hcreatable rfl
      obtain ⟨query, rows, tables', hquery, hquiet, hintegral', hparents'⟩ :=
        @quiet_insertItems choices clock tables hintegral hparents warehouseId items hne hnodup
          habsent hcounts hnew
      rw [if_neg Bool.false_ne_true]
      refine ⟨clock + 1, tables', Program.completes_bind.mpr ⟨_, rows, ?_,
        Script.completes_pure.mpr ⟨rfl, rfl⟩⟩, hintegral', hparents'⟩
      exact Script.completes_executeCreated.mpr ⟨query, hquery, hquiet⟩

/-- The other products are changed when their targets have four bytes. -/
theorem exists_handleModifying (hintegral : Integral schema tables)
    (hparents : StockHasParents tables) (warehouseId : Int64) {items : List (Int64 × Int64)}
    (htargets : ∀ item ∈ items, -2 ^ 31 ≤ item.2.toInt ∧ item.2.toInt ≤ 2 ^ 31 - 1) :
    ∃ clock' tables', (handleModifying warehouseId items).Completes (Quiet choices)
        (clock, tables) (clock', tables') () () := by
  induction items generalizing clock tables with
  | nil => exact ⟨clock, tables, Script.completes_pure.mpr ⟨rfl, rfl⟩⟩
  | cons item items ih =>
    obtain ⟨query, rows, middle, hquery, hquiet, hintegral', hparents'⟩ :=
      @quiet_updateItem choices clock tables hintegral hparents warehouseId item.1 item.2
        (htargets item List.mem_cons_self)
    obtain ⟨clock', tables', hrest⟩ := @ih (clock + 1) middle hintegral' hparents'
      fun other hother => htargets other (List.mem_cons_of_mem _ hother)
    rw [handleModifying]
    refine ⟨clock', tables', Program.completes_bind.mpr ⟨_, rows, ?_, hrest⟩⟩
    exact Script.completes_executeCreated.mpr ⟨query, hquery, hquiet⟩

/-- `ChangeCount` gets to its end when nothing that it needs is missing. -/
theorem exists_changeCount (hintegral : Integral schema tables) (hparents : StockHasParents tables)
    {warehouseId : Int64} {isReducing : Bool} {products : List Product}
    {items : List (Int64 × Int64)} (hitems : Listed products items)
    (hfound : isReducing = true → ∀ item ∈ items,
      (tables .warehouseItem).filter (isItem warehouseId.toInt item.1.toInt) ≠ [])
    (hcreatable : isReducing = false → Creatable tables warehouseId
      (criticalChanges (items.map (changeFor warehouseId isReducing (tables .warehouseItem)))))
    (htargets : ∀ item ∈ modifyingChanges
        (items.map (changeFor warehouseId isReducing (tables .warehouseItem))),
      -2 ^ 31 ≤ item.2.toInt ∧ item.2.toInt ≤ 2 ^ 31 - 1) :
    ∃ clock' tables', (changeCount products warehouseId isReducing).Completes (Quiet choices)
        (clock, tables) (clock', tables') () () := by
  obtain ⟨clock', tables', hcritical, hintegral', hparents'⟩ :=
    @exists_handleCritical choices (clock + products.length) tables hintegral hparents warehouseId
      isReducing _ hcreatable
  obtain ⟨clock'', tables'', hmodifying⟩ :=
    @exists_handleModifying choices clock' tables' hintegral' hparents' warehouseId _ htargets
  refine ⟨clock'', tables'', ?_⟩
  unfold changeCount
  refine Program.completes_bind.mpr ⟨_, _, completes_changesOf_rows hintegral hitems hfound, ?_⟩
  exact Program.completes_bind.mpr ⟨_, (), hcritical, hmodifying⟩

/-- The statements of `ChangeCount` are those of one table. -/
theorem ItemStatement.plain {statement : Statement} (h : ItemStatement statement) :
    statement.options.getIdentificator ≠ .raw ∧
      ∀ options, statement.options = .select options → options.joins = [] := by
  cases h with
  | read productId warehouseId =>
    refine ⟨QueryIdentificator.noConfusion, fun options hoptions => ?_⟩
    cases hoptions
    rfl
  | remove _ created =>
    obtain ⟨-, rfl⟩ := QueryFactory.createDelete_eq_ok.mp created
    exact ⟨QueryIdentificator.noConfusion, fun options hoptions => by cases hoptions⟩
  | create created =>
    obtain ⟨-, -, rfl⟩ := QueryFactory.createInsert_eq_ok.mp created
    exact ⟨QueryIdentificator.noConfusion, fun options hoptions => by cases hoptions⟩
  | change created =>
    obtain ⟨-, -, rfl⟩ := QueryFactory.createUpdate_eq_ok.mp created
    exact ⟨QueryIdentificator.noConfusion, fun options hoptions => by cases hoptions⟩

/-- They are answered as statements on one table are. -/
theorem quiet_answers (before : Nat × Tables) (statement : Statement) (rows : Rows)
    (after : Nat × Tables) (h : ItemStatement statement)
    (hanswer : Quiet choices before statement rows after) :
    Answers before.2 statement rows after.2 :=
  answers_of_answer h.plain.1 h.plain.2 hanswer.1

/-- What has got to its end has gone through its stages. -/
theorem exists_changed {products : List Product} {warehouseId : Int64} {isReducing : Bool}
    {after : Nat × Tables}
    (h : (changeCount products warehouseId isReducing).Completes (Quiet choices) (clock, tables)
      after () ()) :
    ∃ items, Listed products items ∧
      Changed Answers warehouseId isReducing tables items after.2 := by
  exact completes_changeCount (Program.Completes.map Prod.snd quiet_answers
    (allQuestions_changeCount products warehouseId isReducing) h)

end WarehouseItem

end Quiet

end TaskMgr.Tasks

import WarehouseAccounting.TaskManager.StockEffects

/-!
# What an invoice comes to

The rows that `FullInsertEntry` leaves in the database: the invoice with its items, and the
operations that the triggers add for every item.

- `Invoice.Inserted.effects`: the products of an invoice are different and their counts have
  four bytes, and in every weighted sum the operations grow by what is posted on the warehouses.
-/

namespace TaskMgr.Tasks

open Ufa Srv.Db Srv.Db.Trsct Srv.Db.Sql Srv.Db.DbMgr.Scpts Relational

/-- There is a row of the warehouse. -/
def HasWarehouse (tables : Tables) (warehouseId : Int) : Prop :=
  ∃ row ∈ tables .warehouse, row .warehouseId = some (.integer warehouseId)

instance (tables : Tables) (warehouseId : Int) : Decidable (HasWarehouse tables warehouseId) :=
  inferInstanceAs (Decidable (∃ row ∈ tables .warehouse,
    row .warehouseId = some (.integer warehouseId)))

namespace Invoice

/-! ## Operations -/

/-- What is posted for an item of an invoice, in a weighted sum: its count on the negated source
and on the destination. -/
def posted (invoice : Invoice) (weight : Int → Int → Int) (item : Int64 × Int64) : Int :=
  (match invoice.warehouseFromId with
    | some warehouseFromId => weight (-warehouseFromId.toInt) item.1.toInt * item.2.toInt
    | none => 0) +
  match invoice.warehouseToId with
  | some warehouseToId => weight warehouseToId.toInt item.1.toInt * item.2.toInt
  | none => 0

/-- The rows that the triggers make of an item of an invoice that is there once. -/
theorem total_addOperations (weight : Int → Int → Int) {invoice : Invoice} {tables : Tables}
    {invoiceId : Int} {row : TableRow} {item : Int64 × Int64}
    (hinvoices : invoicesOf tables (invoiceItemRow invoiceId item.1.toInt item.2.toInt) = [row])
    (hfrom : row .warehouseFromId = invoice.warehouseFromId.map (fun id => .integer id.toInt))
    (hto : row .warehouseToId = invoice.warehouseToId.map (fun id => .integer id.toInt)) :
    total weight (addOperations tables (invoiceItemRow invoiceId item.1.toInt item.2.toInt)) =
      invoice.posted weight item := by
  rw [addOperations, total_append, addOperationFrom, addOperationTo, hinvoices, posted]
  congr 1
  · rcases hid : invoice.warehouseFromId with _ | id
    · simp [hfrom, hid]
    · simp [hfrom, hid, weigh, operationRow, invoiceItemRow, negate, countOf]
  · rcases hid : invoice.warehouseToId with _ | id
    · simp [hto, hid]
    · simp [hto, hid, weigh, operationRow, invoiceItemRow, countOf]

/-- The operations of some items. -/
theorem total_triggeredRows (weight : Int → Int → Int) (choices : Choices) (rows : List TableRow)
    (tables : Tables) :
    total weight (triggeredRows choices .invoiceItem rows tables) =
      (rows.map fun row => total weight (addOperations tables row)).sum := by
  have hweigh : ∀ operations : List TableRow,
      total weight (operations.mapIdx fun index row column =>
      if column = .operationId then some (.integer (choices.identity .operation index))
      else row column) = total weight operations := by
    intro operations
    rw [total, List.mapIdx_eq_zipIdx_map, List.map_map, total]
    congr 1
    refine List.ext_getElem (by simp) fun index hindex hindex' => ?_
    rw [List.getElem_map, List.getElem_map, List.getElem_zipIdx]
    rfl
  rw [triggeredRows, if_pos rfl, hweigh]
  induction rows with
  | nil => rfl
  | cons row rows ih => rw [List.flatMap_cons, total_append, ih, List.map_cons, List.sum_cons]

/-! ## The two statements -/

/-- Rows that are inserted one by one leave what was there, and the other tables. -/
theorem applyAll_insertTriggered (tables : Tables) (rows operations : List TableRow)
    (table : Table) :
    applyAll schema (rows.map (Write.insert .invoiceItem) ++
        operations.map (Write.insert .operation)) tables table =
      if table = .invoiceItem then tables .invoiceItem ++ rows
      else if table = .operation then tables .operation ++ operations else tables table := by
  rw [applyAll_append, applyAll_insert, applyAll_insert]
  by_cases hitem : table = .invoiceItem
  · subst hitem
    rfl
  · rw [if_neg hitem, if_neg hitem]
    split
    · rename_i hoperation
      rw [hoperation]
    · rfl

/-- A row that is written passes the checks of its foreign keys. -/
theorem hasWarehouse_of_parentsExist {tables tables' : Tables} {row : TableRow}
    (h : schema.parentsExist tables' .invoice row = true)
    (hwarehouse : tables' .warehouse = tables .warehouse) {column : Column}
    (hcolumn : column = .warehouseFromId ∨ column = .warehouseToId) {warehouseId : Int}
    (hrow : row column = some (.integer warehouseId)) : HasWarehouse tables warehouseId := by
  have hreference : (column, Table.warehouse, Column.warehouseId) ∈
      (schema.table .invoice).references := by
    rcases hcolumn with rfl | rfl
    · decide
    · decide
  have hparent := List.all_eq_true.mp h _ hreference
  dsimp only at hparent
  rw [hrow] at hparent
  obtain ⟨parent, hmem, heq⟩ := List.any_eq_true.mp hparent
  exact ⟨parent, hwarehouse ▸ hmem, of_decide_eq_true heq⟩

/-- The only invoice with a new id is the new one. -/
theorem invoicesOf_new {tables : Tables} {row : TableRow} {invoiceId : Int}
    (hrow : row .invoiceId = some (.integer invoiceId)) {invoices : List TableRow}
    (hfresh : ∀ old ∈ invoices, schema.keyOf .invoice old ≠ schema.keyOf .invoice row)
    (hinvoices : tables .invoice = invoices ++ [row]) (productId count : Int) :
    invoicesOf tables (invoiceItemRow invoiceId productId count) = [row] := by
  unfold invoicesOf
  have hitem : (invoiceItemRow invoiceId productId count) .invoiceId =
      some (.integer invoiceId) := rfl
  rw [hinvoices, hitem, List.filter_append]
  have hold : (invoices.filter fun invoice => decide (Predicate.compareNullable .equal
      (invoice .invoiceId) (some (.integer invoiceId)) = some true)) = [] := by
    rw [List.filter_eq_nil_iff]
    intro old hmem heq
    rw [decide_eq_true_eq, Predicate.compareNullable_equal] at heq
    refine hfresh old hmem ?_
    simp [Schema.keyOf, schema, tableSchema, heq, hrow]
  rw [hold, List.nil_append, List.filter_singleton, hrow]
  simp

/-- What an invoice leaves: its products are different, its counts have four bytes, its
warehouses exist, and the operations grow by what is posted. -/
structure Effects (invoice : Invoice) (items : List (Int64 × Int64)) (tables tables' : Tables) :
    Prop where
  nodup : (items.map Prod.fst).Nodup
  counts : ∀ item ∈ items, -2 ^ 31 ≤ item.2.toInt ∧ item.2.toInt ≤ 2 ^ 31 - 1
  fromExists : ∀ warehouseId, invoice.warehouseFromId = some warehouseId →
    HasWarehouse tables warehouseId.toInt
  toExists : ∀ warehouseId, invoice.warehouseToId = some warehouseId →
    HasWarehouse tables warehouseId.toInt
  integral : Integral schema tables'
  operations : ∀ weight : Int → Int → Int, total weight (tables' .operation) =
    total weight (tables .operation) + (items.map (invoice.posted weight)).sum
  kept : ∀ table, table ≠ .invoice → table ≠ .invoiceItem → table ≠ .operation →
    tables' table = tables table

/-- The rows of items have different products, and counts of four bytes. -/
theorem items_of_integral {tables : Tables} (h : Integral schema tables) {invoiceId : Int}
    {items : List (Int64 × Int64)} {others : List TableRow}
    (hitems : tables .invoiceItem = others ++ items.map fun item =>
      invoiceItemRow invoiceId item.1.toInt item.2.toInt) :
    (items.map Prod.fst).Nodup ∧
      ∀ item ∈ items, -2 ^ 31 ≤ item.2.toInt ∧ item.2.toInt ≤ 2 ^ 31 - 1 := by
  constructor
  · have hkeys := h.keys_nodup .invoiceItem
    rw [hitems, List.map_append, List.nodup_append, List.map_map] at hkeys
    -- The products are read off the keys.
    refine List.Nodup.of_map (fun id : Int64 => (⟨.invoiceItem,
      [some (.integer invoiceId), some (.integer id.toInt)]⟩ : Key Table)) ?_
    rw [List.map_map]
    exact hkeys.2.1
  · intro item hitem
    have hrow : invoiceItemRow invoiceId item.1.toInt item.2.toInt ∈ tables .invoiceItem := by
      rw [hitems]
      exact List.mem_append_right _ (List.mem_map.mpr ⟨item, hitem, rfl⟩)
    have hconforms := h.conforms .invoiceItem _ hrow
    simp only [Schema.conforms, schema, tableSchema, List.all_cons, List.all_nil, Bool.and_true,
      Bool.and_eq_true, invoiceItemRow, Option.all_some, ColumnType.admits,
      decide_eq_true_eq] at hconforms
    exact hconforms.1.2.2

/-- `FullInsertEntry` in the database. -/
theorem Inserted.effects {invoice : Invoice} {query : Query} {products : List Product}
    {tables tables' : Tables} (hquery : invoice.insertQuery = .ok query)
    (h : invoice.Inserted Answers query products tables tables')
    (hintegral : Integral schema tables) :
    ∃ items, Listed products items ∧ invoice.Effects items tables tables' := by
  obtain ⟨answer, middle, invoice', invoiceId, values, itemsQuery, itemsRows, hfirst, hgetter, hid,
    hvalues, hitemsQuery, hsecond⟩ := h
  have hmiddle := hfirst.integral hintegral
  have hfinal := hsecond.integral hmiddle
  -- The invoice: one row with a new id.
  obtain ⟨choices, writes, hexecute, rfl⟩ := hfirst
  obtain ⟨hperform, haccepts⟩ := execute_eq_ok.mp hexecute
  obtain ⟨row, rfl, hrowId, hrowFrom, hrowTo, rfl⟩ := perform_insertInvoice hquery hperform
  simp only [accepts, checkAll, Write.check, applyAll_cons, applyAll_nil, List.all_cons,
    List.all_nil, Bool.and_true, Bool.and_eq_true, List.all_eq_true, decide_eq_true_eq]
    at haccepts
  obtain ⟨⟨⟨-, hfresh⟩, -⟩, hparents⟩ := haccepts
  obtain ⟨id, hidInt, hidSome, -, -⟩ := invoiceIdGetter_eq_ok hrowId hgetter
  cases hidSome.symm.trans hid
  rw [← hidInt] at hrowId
  -- The items, and the operations for each of them.
  obtain ⟨choices', writes', hexecute', rfl⟩ := hsecond
  obtain ⟨items, hitems, rfl⟩ := perform_insertInvoiceItems hvalues hitemsQuery
    (execute_eq_ok.mp hexecute').1
  refine ⟨items, hitems, ?_⟩
  have htables := applyAll_insertTriggered ((Write.insert .invoice row).apply schema tables)
    (items.map fun item => invoiceItemRow invoiceId.toInt item.1.toInt item.2.toInt)
  obtain ⟨hnodup, hcounts⟩ := items_of_integral hfinal (htables _ .invoiceItem)
  refine ⟨hnodup, hcounts, fun warehouseId hfrom => ?_, fun warehouseId hto => ?_, hfinal,
    fun weight => ?_, fun table hinvoice hitem hoperation => ?_⟩
  · rw [hfrom] at hrowFrom
    exact hasWarehouse_of_parentsExist hparents rfl (.inl rfl) hrowFrom
  · rw [hto] at hrowTo
    exact hasWarehouse_of_parentsExist hparents rfl (.inr rfl) hrowTo
  · refine (congrArg (total weight) (htables _ .operation)).trans ?_
    rw [if_neg (by decide), if_pos rfl, total_append, total_triggeredRows, List.map_map,
      Write.apply_insert, if_neg (by decide)]
    congr 2
    refine List.map_congr_left fun item _ => ?_
    refine total_addOperations weight (invoicesOf_new hrowId hfresh ?_ _ _) hrowFrom hrowTo
    rw [applyAll_insert, if_neg (by decide), applyAll_cons, applyAll_nil, Write.apply_insert,
      if_pos rfl]
  · refine (htables _ table).trans ?_
    rw [if_neg hitem, if_neg hoperation, Write.apply_insert, if_neg hinvoice]

end Invoice

end TaskMgr.Tasks

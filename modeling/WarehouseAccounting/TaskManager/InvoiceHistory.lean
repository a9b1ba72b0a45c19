import WarehouseAccounting.TaskManager.CreatedRows
import WarehouseAccounting.TaskManager.PeriodIsolation
import WarehouseAccounting.TaskManager.PostedRuns
import WarehouseAccounting.TaskManager.ProductsCreation

/-!
# The history of an invoice

What a task that changes the stock records of its invoice, and that nothing changes it later.

- `StockTask.recorded`: the row of the invoice, its items and its operations.
- `InvoicesKept`: what belongs to the invoices that are there stays as it is. Every request keeps
  them (`InvoicesKept.perform`).
- `GetInvoice.respond_of_kept`: an invoice that is kept is shown as before.
- `invoicesKept_of_reachable`: invoices that are committed are kept, however the transactions that
  follow are interleaved.
-/

namespace TaskMgr.Tasks

open Ufa Srv.Db Srv.Db.Trsct Srv.Db.Sql Srv.Db.DbMgr.Scpts Relational

variable {tables tables' : Tables}

/-! ## The row of an invoice -/

namespace Invoice

/-- The row of an invoice, with any id. -/
structure IsRow (invoice : Invoice) (row : TableRow) : Prop where
  name : ∃ name, invoice.name = some name ∧ row .name = some (.text name)
  description : row .description = invoice.description.bind storedText
  warehouseFromId : row .warehouseFromId = invoice.warehouseFromId.map fun id => .integer id.toInt
  warehouseToId : row .warehouseToId = invoice.warehouseToId.map fun id => .integer id.toInt
  createdDate : row .createdDate = invoice.createdDate.map fun date => .integer date.toNat
  createdBy : row .createdBy = invoice.createdBy.map fun user => .integer user.toNat
  prettyName : row .prettyName = DbMgr.Scpts.prettyName (row .invoiceId) (row .name)

/-- The columns that a new invoice is given. -/
def columns (invoice : Invoice) : List Column :=
  [.name, .createdBy, .createdDate] ++
    (invoice.warehouseFromId.map fun _ => .warehouseFromId).toList ++
    (invoice.warehouseToId.map fun _ => .warehouseToId).toList ++
    (invoice.description.map fun _ => .description).toList

/-- The parameters of a new invoice. -/
def params (name : String) (createdBy createdDate : UInt64) (invoice : Invoice) :
    List (Option String) :=
  [parameterOf name, parameterOf (unsigned createdBy).toString,
    parameterOf (unsigned createdDate).toString] ++
    (invoice.warehouseFromId.map fun id => parameterOf (integer id).toString).toList ++
    (invoice.warehouseToId.map fun id => parameterOf (integer id).toString).toList ++
    (invoice.description.map parameterOf).toList

/-- The columns with their parameters. -/
theorem zip_columns_params (name : String) (createdBy createdDate : UInt64) (invoice : Invoice) :
    invoice.columns.zip (invoice.params name createdBy createdDate) =
      [(.name, parameterOf name), (.createdBy, parameterOf (unsigned createdBy).toString),
        (.createdDate, parameterOf (unsigned createdDate).toString)] ++
        (invoice.warehouseFromId.map fun id =>
          (Column.warehouseFromId, parameterOf (integer id).toString)).toList ++
        (invoice.warehouseToId.map fun id =>
          (Column.warehouseToId, parameterOf (integer id).toString)).toList ++
        (invoice.description.map fun text => (Column.description, parameterOf text)).toList := by
  unfold columns params
  cases invoice.warehouseFromId <;> cases invoice.warehouseToId <;>
    cases invoice.description <;> rfl

/-- What the statement of `InsertInvoice` is made of. -/
theorem insertQuery_eq_ok {invoice : Invoice} {query : Query}
    (h : invoice.insertQuery = .ok query) :
    ∃ name createdBy createdDate, invoice.name = some name ∧
      invoice.createdBy = some createdBy ∧ invoice.createdDate = some createdDate ∧
      query.options = .insert
        { table := .invoice
          columns := invoice.columns
          returning := [.invoiceId, .prettyName]
          valuesCount := 1 } ∧
      query.params.toPqxx = invoice.params name createdBy createdDate := by
  unfold insertQuery at h
  split at h
  · cases h
  obtain ⟨added, hadded, h⟩ := bind_eq_ok.mp h
  unfold insertColumns at hadded
  obtain ⟨name, hname, hadded⟩ := bind_eq_ok.mp hadded
  obtain ⟨user, huser, hadded⟩ := bind_eq_ok.mp hadded
  obtain ⟨date, hdate, hadded⟩ := bind_eq_ok.mp hadded
  have hadded := Except.ok.inj hadded
  rw [required_eq_ok] at hname huser hdate
  subst hadded
  split at h
  · rename_i created hcreated
    cases h
    obtain ⟨-, -, rfl⟩ := QueryFactory.createInsert_eq_ok.mp hcreated
    refine ⟨name, user, date, hname, huser, hdate, ?_, ?_⟩
    all_goals
      unfold appendToQueryOptional
      rcases hfrom : invoice.warehouseFromId with _ | warehouseFromId <;>
        rcases hto : invoice.warehouseToId with _ | warehouseToId <;>
          rcases hdescription : invoice.description with _ | description <;>
            simp [columns, params, hfrom, hto, hdescription, ValueCollector.append,
              ValueCollector.toPqxx, parameterOf, Scalar.toString]
  · cases h

/-- The row that the statement of `InsertInvoice` inserts, and the answer with its id and its pretty
name. -/
theorem exists_isRow {invoice : Invoice} {query : Query} (hquery : invoice.insertQuery = .ok query)
    {choices : Choices} {rows : Rows} {writes : List (Write Table Column)}
    (h : execute choices (sent query) tables = .ok (rows, writes)) :
    ∃ row, invoice.IsRow row ∧ schema.conforms .invoice row = true ∧
      row .invoiceId = some (.integer (choices.identity .invoice 0)) ∧
      rows = [project [.invoiceId, .prettyName] row] ∧ writes = [.insert .invoice row] := by
  obtain ⟨name, createdBy, createdDate, hname, huser, hdate, hoptions, hparams⟩ :=
    insertQuery_eq_ok hquery
  unfold sent at h
  rw [hoptions, hparams] at h
  have hnodup : invoice.columns.Nodup := by
    unfold columns
    cases invoice.warehouseFromId <;> cases invoice.warehouseToId <;>
      cases invoice.description <;> simp
  obtain ⟨row, hinserted, hrows, hwrites⟩ :=
    exists_row_of_execute Table.noConfusion rfl hnodup (List.cons_ne_nil _ _) h
  have hzip := zip_columns_params name createdBy createdDate invoice
  refine ⟨row, ⟨⟨name, hname, ?_⟩, ?_, ?_, ?_, ?_, ?_, congrFun hinserted.pretty .prettyName⟩,
    hinserted.conforms, hinserted.identity .invoiceId rfl Column.noConfusion, hrows, hwrites⟩
  · exact (hinserted.requiredText (by simp [hzip]) rfl (by simp [tableSchema]) (by decide)
      (by simp [tableSchema])).2
  · rcases hdescription : invoice.description with _ | description
    · exact hinserted.unset .description (by simp [columns, hdescription]) (by simp [tableSchema])
        (by decide)
    · exact hinserted.text (by simp [hzip, hdescription]) rfl (by simp [tableSchema]) (by decide)
  · rcases hfrom : invoice.warehouseFromId with _ | warehouseFromId
    · exact hinserted.unset .warehouseFromId (by simp [columns, hfrom]) (by simp [tableSchema])
        (by decide)
    · exact hinserted.number (by simp [hzip, hfrom, integer]) rfl (by simp [tableSchema])
        (by decide)
  · rcases hto : invoice.warehouseToId with _ | warehouseToId
    · exact hinserted.unset .warehouseToId (by simp [columns, hto]) (by simp [tableSchema])
        (by decide)
    · exact hinserted.number (by simp [hzip, hto, integer]) rfl (by simp [tableSchema])
        (by decide)
  · rw [hdate]
    exact hinserted.number (by simp [hzip, unsigned]) rfl (by simp [tableSchema]) (by decide)
  · rw [huser]
    exact hinserted.number (by simp [hzip, unsigned]) rfl (by simp [tableSchema]) (by decide)

/-! ## What is recorded -/

/-- What is recorded of an invoice: its row with a new id, the rows of its items, and operations
that are its own. -/
structure Recorded (id : Int64) (row : TableRow) (items : List (Int64 × Int64))
    (tables tables' : Tables) : Prop where
  rowId : row .invoiceId = some (.integer id.toInt)
  fresh : ∀ invoice ∈ tables .invoice, invoice .invoiceId ≠ row .invoiceId
  invoices : tables' .invoice = tables .invoice ++ [row]
  items : tables' .invoiceItem = tables .invoiceItem ++
    items.map fun item => invoiceItemRow id.toInt item.1.toInt item.2.toInt
  operations : ∃ added, tables' .operation = tables .operation ++ added ∧
    ∀ operation ∈ added, operation .invoiceId = row .invoiceId
  integral : Integral schema tables'

/-- What happens to other tables before and after it does not matter. -/
theorem Recorded.congr {id : Int64} {row : TableRow} {items : List (Int64 × Int64)}
    {before after : Tables} (h : Recorded id row items before after)
    (hbefore : ∀ table ∈ recordTables, before table = tables table)
    (hafter : ∀ table ∈ recordTables, tables' table = after table)
    (hintegral : Integral schema tables') : Recorded id row items tables tables' := by
  obtain ⟨added, hadded, hown⟩ := h.operations
  refine ⟨h.rowId, ?_, ?_, ?_, ⟨added, ?_, hown⟩, hintegral⟩
  · rw [← hbefore .invoice (by decide)]
    exact h.fresh
  · rw [hafter .invoice (by decide), ← hbefore .invoice (by decide), h.invoices]
  · rw [hafter .invoiceItem (by decide), ← hbefore .invoiceItem (by decide), h.items]
  · rw [hafter .operation (by decide), ← hbefore .operation (by decide), hadded]

/-- The operations of items have the invoice of their item. -/
theorem invoiceId_of_mem_triggeredRows {choices : Choices} {rows : List TableRow} {others : Tables}
    {operation : TableRow}
    (h : operation ∈ triggeredRows choices .invoiceItem rows others) :
    ∃ item ∈ rows, operation .invoiceId = item .invoiceId := by
  have hmade := List.mem_map_of_mem (f := withoutOperationId) h
  rw [map_withoutOperationId_triggeredRows] at hmade
  obtain ⟨item, hitem, hmade⟩ := List.mem_flatMap.mp hmade
  obtain ⟨invoice, -, warehouseId, hrow⟩ := exists_of_mem_addOperations hmade
  refine ⟨item, hitem, ?_⟩
  rw [← withoutOperationId_of_ne operation (by decide), hrow]
  rfl

/-- The id and the pretty name of a new invoice are read. -/
theorem invoiceIdGetter_of_row {invoice invoice' : Invoice} {row : TableRow}
    (hrow : invoice.IsRow row) {id : Int} (hid : row .invoiceId = some (.integer id))
    (h : invoiceIdGetter [project [.invoiceId, .prettyName] row] invoice = .ok invoice') :
    ∃ invoiceId : Int64, invoiceId.toInt = id ∧ invoice' = invoice.inserted id := by
  obtain ⟨name, hname, hstored⟩ := hrow.name
  have hpretty : row .prettyName = some (.text (toString id ++ "_" ++ name)) := by
    rw [hrow.prettyName, hid, hstored]
    rfl
  obtain ⟨invoiceId, hnumber, hread, -⟩ := invoiceIdGetter_eq_ok hid h
  refine ⟨invoiceId, hnumber, ?_⟩
  unfold invoiceIdGetter at h
  obtain ⟨first, -, h⟩ := bind_eq_ok.mp h
  obtain ⟨number, -, h⟩ := bind_eq_ok.mp h
  obtain ⟨readId, -, h⟩ := bind_eq_ok.mp h
  obtain ⟨second, hsecond, h⟩ := bind_eq_ok.mp h
  obtain ⟨text, htext, h⟩ := bind_eq_ok.mp h
  obtain ⟨pretty, hrequired, h⟩ := bind_eq_ok.mp h
  have hfield : Rows.at [project [.invoiceId, .prettyName] row] 0 1 =
      .ok (some (toString id ++ "_" ++ name)) := by
    simp [Rows.at, fieldAt, project, hpretty, Value.toText]
  cases hfield.symm.trans hsecond
  cases htext
  cases required_eq_ok.mp hrequired
  cases h
  cases hread
  simp [inserted, hname, ← hnumber]

/-- What `FullInsertEntry` leaves in the database and in the memory. -/
theorem exists_recorded {invoice invoice' : Invoice} {query : Query}
    (hquery : invoice.insertQuery = .ok query) (hintegral : Integral schema tables) {rows : Rows}
    {middle : Tables} (hfirst : Answers tables (sent query) rows middle)
    (hgetter : invoiceIdGetter rows invoice = .ok invoice') {products : List Product}
    (hsecond : (insertInvoiceItems invoice' products).Completes Answers middle tables' () ()) :
    ∃ id row items, invoice.IsRow row ∧ rows = [project [.invoiceId, .prettyName] row] ∧
      invoice' = invoice.inserted id.toInt ∧ Listed products items ∧
      Recorded id row items tables tables' := by
  have hmiddle := hfirst.integral hintegral
  obtain ⟨choices, writes, hexecute, rfl⟩ := hfirst
  obtain ⟨row, hrow, -, hrowId, rfl, rfl⟩ := exists_isRow hquery hexecute
  obtain ⟨id, hnumber, rfl⟩ := invoiceIdGetter_of_row hrow hrowId hgetter
  rw [← hnumber] at hrowId hsecond ⊢
  -- The number is new, since the row was accepted.
  have hfresh : ∀ old ∈ tables .invoice, old .invoiceId ≠ row .invoiceId := by
    have haccepts := (execute_eq_ok.mp hexecute).2
    simp only [accepts, checkAll, Write.check, List.all_cons, List.all_nil, Bool.and_true,
      Bool.and_eq_true, List.all_eq_true, decide_eq_true_eq] at haccepts
    obtain ⟨⟨⟨-, hkeys⟩, -⟩, -⟩ := haccepts
    intro old hold heq
    refine hkeys old hold ?_
    simp [Schema.keyOf, schema, tableSchema, heq]
  obtain ⟨invoiceId, values, itemsQuery, itemsRows, hid, hvalues, hitemsQuery, hanswers⟩ :=
    completes_insertInvoiceItems hsecond
  have hsame : invoiceId = id := by
    have hsome : some (Int64.ofInt id.toInt) = some invoiceId := hid
    rw [Int64.ofInt_toInt] at hsome
    exact (Option.some.inj hsome).symm
  subst hsame
  have hfinal := hanswers.integral hmiddle
  obtain ⟨choices', writes', hexecute', rfl⟩ := hanswers
  obtain ⟨items, hitems, rfl⟩ := perform_insertInvoiceItems hvalues hitemsQuery
    (execute_eq_ok.mp hexecute').1
  have htables := applyAll_insertTriggered (applyAll schema [.insert .invoice row] tables)
    (items.map fun item => invoiceItemRow invoiceId.toInt item.1.toInt item.2.toInt)
  refine ⟨invoiceId, row, items, hrow, rfl, rfl, hitems, hrowId, hfresh, ?_, ?_, ?_, hfinal⟩
  · exact htables _ .invoice
  · exact htables _ .invoiceItem
  · refine ⟨_, htables _ .operation, fun operation hoperation => ?_⟩
    obtain ⟨item, hitem, heq⟩ := invoiceId_of_mem_triggeredRows hoperation
    obtain ⟨pair, -, rfl⟩ := List.mem_map.mp hitem
    rw [heq, hrowId]
    rfl

end Invoice

/-! ## The tasks -/

/-- A change of the stock changes the stock only. -/
theorem WarehouseItem.Changed.kept {warehouseId : Int64} {isReducing : Bool}
    {items : List (Int64 × Int64)}
    (h : WarehouseItem.Changed Answers warehouseId isReducing tables items tables')
    (hintegral : Integral schema tables) :
    Integral schema tables' ∧ ∀ table, table ≠ .warehouseItem → tables' table = tables table := by
  obtain ⟨changes, decided, handled, hdecided, hhandled, hmodified⟩ := h
  obtain ⟨rfl, -⟩ := hdecided.decides hintegral
  have hhandledKept : Integral schema handled ∧
      ∀ table, table ≠ .warehouseItem → handled table = decided table := by
    rcases hhandled with ⟨-, rfl⟩ | ⟨hne, query, rows, hquery, hanswers⟩
    · exact ⟨hintegral, fun _ _ => rfl⟩
    · refine ⟨hanswers.integral hintegral, ?_⟩
      cases isReducing with
      | true => exact (WarehouseItem.answers_deleteItems hintegral hquery (by simpa using hne)
          hanswers).2
      | false => exact (WarehouseItem.answers_insertItems hquery hanswers).2
  clear hhandled hdecided
  generalize WarehouseItem.modifyingChanges changes = modified at hmodified
  induction hmodified with
  | nil => exact hhandledKept
  | cons created modified rest ih =>
    obtain ⟨hmiddle, hbefore⟩ := hhandledKept
    obtain ⟨-, -, hchanged⟩ := WarehouseItem.answers_updateItem hmiddle created modified
    exact ih ⟨modified.integral hmiddle, fun table htable =>
      (hchanged table htable).trans (hbefore table htable)⟩

namespace ProductsTask

/-- An invoice of the task is recorded, and the memory holds what was answered. -/
def Records (invoice : Invoice) (tables tables' : Tables) (memory : ProductsTask) : Prop :=
  ∃ id row items, invoice.IsRow row ∧
    memory.invoiceInsertResults = [project [.invoiceId, .prettyName] row] ∧
    memory.invoice = invoice.inserted id.toInt ∧ Listed memory.products items ∧
    Invoice.Recorded id row items tables tables'

/-- The invoice entry records the invoice of the task. -/
theorem records_of_executes {query : Query} {task task' : ProductsTask}
    (hquery : task.invoice.insertQuery = .ok query) (hintegral : Integral schema tables)
    (h : (invoiceEntry query).Executes Answers tables task tables' task') :
    Records task.invoice tables tables' task' := by
  obtain ⟨rows, middle, invoice, hfirst, hgetter, hitems, rfl⟩ := executes_invoiceEntry_iff.mp h
  obtain ⟨id, row, items, hrow, hrows, hinvoice, hlisted, hrecorded⟩ :=
    Invoice.exists_recorded hquery hintegral hfirst hgetter hitems
  exact ⟨id, row, items, hrow, hrows, hinvoice, hlisted, hrecorded⟩

/-- Other tables do not matter. -/
theorem Records.congr {invoice : Invoice} {before after : Tables} {memory : ProductsTask}
    (h : Records invoice before after memory)
    (hbefore : ∀ table ∈ recordTables, before table = tables table)
    (hafter : ∀ table ∈ recordTables, tables' table = after table)
    (hintegral : Integral schema tables') : Records invoice tables tables' memory := by
  obtain ⟨id, row, items, hrow, hrows, hinvoice, hlisted, hrecorded⟩ := h
  exact ⟨id, row, items, hrow, hrows, hinvoice, hlisted,
    hrecorded.congr hbefore hafter hintegral⟩

/-- A change of the stock leaves the memory and what is recorded. -/
theorem kept_of_executes {warehouseId : Int64} {isReducing : Bool} {task task' : ProductsTask}
    (hintegral : Integral schema tables)
    (h : (changeCountEntry warehouseId isReducing).Executes Answers tables task tables' task') :
    task' = task ∧ Integral schema tables' ∧
      ∀ table ∈ recordTables, tables' table = tables table := by
  obtain ⟨⟨items, -, hchanged⟩, htask⟩ := executes_changeCountEntry h
  obtain ⟨hafter, hkept⟩ := hchanged.kept hintegral
  refine ⟨htask, hafter, fun table htable => hkept table ?_⟩
  rintro rfl
  exact absurd htable (by decide)

/-- So does the last one. -/
theorem kept_of_runsTo {warehouseId : Int64} {isReducing : Bool} {task task' : ProductsTask}
    (hintegral : Integral schema tables)
    (h : (changeCountEntry warehouseId isReducing).RunsTo Answers tables task tables' task') :
    task' = task ∧ Integral schema tables' ∧
      ∀ table ∈ recordTables, tables' table = tables table := by
  unfold changeCountEntry at h
  rw [Entry.runsTo_variable] at h
  obtain ⟨middle, task'', hchanged, hnull⟩ := h
  obtain ⟨rfl, rfl⟩ := Entry.runsTo_null.mp hnull
  have hexecutes : (changeCountEntry warehouseId isReducing).Executes Answers tables task tables'
      task' :=
    Entry.executes_variable.mpr hchanged
  exact kept_of_executes hintegral hexecutes

end ProductsTask

namespace StockTask

/-- The invoice that a task records. -/
def invoice (dateProvider : Nat → UInt64) : StockTask → Invoice
  | .productsCreate task => (task.stampInvoice (dateProvider task.productsNew.length)).invoice
  | .productsMove task => (task.stampInvoice (dateProvider 0)).invoice
  | .productsRemove task => (task.stampInvoice (dateProvider 0)).invoice

/-- A task that gets to its end has recorded its invoice. -/
theorem recorded {task : StockTask} {dateProvider : Nat → UInt64} {entry : Entry ProductsTask}
    {memory memory' : ProductsTask} (hchain : task.chain dateProvider = .ok (entry, memory))
    (hintegral : Integral schema tables)
    (h : entry.RunsTo Answers tables memory tables' memory') :
    ProductsTask.Records (task.invoice dateProvider) tables tables' memory' := by
  match task with
  | .productsMove task =>
    unfold chain ProductsTask.moveChain at hchain
    obtain ⟨query, hquery, hchain⟩ := bind_eq_ok.mp hchain
    obtain ⟨warehouseFromId, -, hchain⟩ := bind_eq_ok.mp hchain
    obtain ⟨warehouseToId, -, hchain⟩ := bind_eq_ok.mp hchain
    cases hchain
    obtain ⟨inserted, task₁, hinvoice, hrest⟩ :=
      (Entry.runsTo_setNext (ProductsTask.hasNext_invoiceEntry query)).mp h
    obtain ⟨reduced, task₂, hreduced, hadded⟩ :=
      (Entry.runsTo_setNext (ProductsTask.hasNext_changeCountEntry warehouseFromId true)).mp hrest
    have hrecords := ProductsTask.records_of_executes hquery hintegral hinvoice
    obtain ⟨id, row, items, -, -, -, -, hrecorded⟩ := id hrecords
    obtain ⟨rfl, hmiddle, hkept⟩ := ProductsTask.kept_of_executes hrecorded.integral hreduced
    obtain ⟨rfl, hafter, hkept'⟩ := ProductsTask.kept_of_runsTo hmiddle hadded
    exact hrecords.congr (fun _ _ => rfl) (fun table htable =>
      (hkept' table htable).trans (hkept table htable)) hafter
  | .productsRemove task =>
    unfold chain ProductsTask.removeChain at hchain
    obtain ⟨query, hquery, hchain⟩ := bind_eq_ok.mp hchain
    obtain ⟨warehouseFromId, -, hchain⟩ := bind_eq_ok.mp hchain
    cases hchain
    obtain ⟨inserted, task₁, hinvoice, hreduced⟩ :=
      (Entry.runsTo_setNext (ProductsTask.hasNext_invoiceEntry query)).mp h
    have hrecords := ProductsTask.records_of_executes hquery hintegral hinvoice
    obtain ⟨id, row, items, -, -, -, -, hrecorded⟩ := id hrecords
    obtain ⟨rfl, hafter, hkept⟩ := ProductsTask.kept_of_runsTo hrecorded.integral hreduced
    exact hrecords.congr (fun _ _ => rfl) hkept hafter
  | .productsCreate task =>
    unfold chain ProductsTask.createChain at hchain
    obtain ⟨warehouseToId, -, hchain⟩ := bind_eq_ok.mp hchain
    obtain ⟨productsEntry, hproductsEntry, hchain⟩ := bind_eq_ok.mp hchain
    obtain ⟨query, hquery, hchain⟩ := bind_eq_ok.mp hchain
    obtain ⟨options, params, htable, -, rfl⟩ := Product.insertsEntry_eq_ok hproductsEntry
    cases hchain
    obtain ⟨added, task₁, hchanged, hrest₁⟩ := (Entry.runsTo_setNext
      (ProductsTask.hasNext_changeCountEntry warehouseToId false)).mp h
    obtain ⟨rfl, hadded, hkept⟩ := ProductsTask.kept_of_executes hintegral hchanged
    -- The new products are in a table of their own.
    rw [Entry.setNext, Entry.runsTo_query] at hrest₁
    obtain ⟨rows, created, hproducts, hrest₂⟩ := hrest₁
    have hcreated := hproducts.integral hadded
    have hkept' := answers_insert_of_ne (by rw [htable]; decide) hproducts
    rw [Entry.setNext, Entry.runsTo_variable] at hrest₂
    obtain ⟨created', task₂, hconverted, hrest₃⟩ := hrest₂
    obtain ⟨rfl, hinvoice, -⟩ := ProductsTask.completes_idsConverter hconverted
    obtain ⟨inserted, task₃, hinvoiceEntry, hlast⟩ :=
      (Entry.runsTo_setNext (ProductsTask.hasNext_invoiceEntry query)).mp hrest₃
    have hrecords := ProductsTask.records_of_executes (hinvoice ▸ hquery) hcreated hinvoiceEntry
    obtain ⟨id, row, items, -, -, -, -, hrecorded⟩ := id hrecords
    -- The last statement inserts rows of the stock.
    unfold ProductsTask.warehouseItemEntry at hlast
    rw [Entry.runsTo_variable] at hlast
    obtain ⟨after, task₄, hcode, hnull⟩ := hlast
    obtain ⟨rfl, rfl⟩ := Entry.runsTo_null.mp hnull
    obtain ⟨hinserts, rfl⟩ := Script.completes_asCode.mp hcode
    obtain ⟨values, itemsQuery, itemsRows, -, hitemsQuery, hanswers⟩ :=
      WarehouseItem.completes_insertsEntry hinserts
    obtain ⟨-, -, rfl⟩ := QueryFactory.createInsert_eq_ok.mp hitemsQuery
    have hstocked := answers_insert_of_ne (show Table.warehouseItem ≠ .invoiceItem by decide)
      hanswers
    have hstamped : task₂.invoice = invoice dateProvider (.productsCreate task) := by
      rw [hinvoice]
      simp [invoice, ProductsTask.stampInvoice, ProductsTask.storeProductResults, Product.stamped]
    rw [hstamped] at hrecords
    refine hrecords.congr (fun table hmem => ?_) (fun table hmem => hstocked table ?_)
      (hanswers.integral hrecorded.integral)
    · refine (hkept' table ?_).trans (hkept table hmem)
      rw [htable]
      rintro rfl
      exact absurd hmem (by decide)
    · rintro rfl
      exact absurd hmem (show Table.warehouseItem ∉ recordTables by decide)

/-- An attempt that gets to its end is made as the first one would be: a chain that was executed
before has lost the parameters of its statements. -/
theorem eq_of_failedAttempts {task : StockTask} {dateProvider : Nat → UInt64}
    {chain final : Entry ProductsTask × ProductsTask} (hchain : task.chain dateProvider = .ok chain)
    {history : List (List Statement)} (hattempts : FailedAttempts attempt chain history final)
    {memory' : ProductsTask} (h : final.1.RunsTo Answers tables final.2 tables' memory') :
    final = chain := by
  obtain ⟨entry, memory⟩ := chain
  match task with
  | .productsMove task =>
    obtain ⟨options, params, -, hroot⟩ := ProductsTask.moveChain_rootQuery hchain
    exact hattempts.eq_of_rootQuery (fun _ _ _ => not_answers_insert_nil) hroot h
  | .productsRemove task =>
    obtain ⟨options, params, -, hroot⟩ := ProductsTask.removeChain_rootQuery hchain
    exact hattempts.eq_of_rootQuery (fun _ _ _ => not_answers_insert_nil) hroot h
  | .productsCreate task =>
    obtain ⟨warehouseTo, options, params, rest, htable, -, hentry⟩ :=
      ProductsTask.createChain_secondEntry hchain
    rw [hentry] at hattempts ⊢
    exact hattempts.eq_of_secondEntry (fun _ _ _ => not_answers_insert_nil)
      (fun _ _ _ _ => congrArg Program.Ran.memory (Program.run_mapMemory ..))
      ((WarehouseItem.changeCount_noInsertsProducts ..).mapMemory _)
      (fun params => show insertsProducts _ = true by simp [insertsProducts, htable]) h

end StockTask

/-! ## Invoices that are kept -/

/-- The row belongs to the invoice. -/
def ofInvoice (invoice row : TableRow) : Bool :=
  row .invoiceId = invoice .invoiceId

/-- What belongs to an invoice has its id. -/
theorem hasId_eq_ofInvoice {invoice : TableRow} {id : Int64}
    (h : hasId .invoiceId id invoice = true) : hasId .invoiceId id = ofInvoice invoice := by
  ext row : 1
  rw [hasId, decide_eq_true_eq] at h
  rw [hasId, ofInvoice, h]

/-- What belongs to the invoices that are there is later the same: their rows, their items and their
operations. -/
def InvoicesKept (tables tables' : Tables) : Prop :=
  ∀ invoice ∈ tables .invoice, ∀ table ∈ recordTables,
    (tables' table).filter (ofInvoice invoice) = (tables table).filter (ofInvoice invoice)

namespace InvoicesKept

/-- Nothing has happened. -/
theorem refl (tables : Tables) : InvoicesKept tables tables :=
  fun _ _ _ _ => rfl

/-- An invoice that is kept is there. -/
theorem mem (h : InvoicesKept tables tables') {invoice : TableRow}
    (hinvoice : invoice ∈ tables .invoice) : invoice ∈ tables' .invoice := by
  have hfound : invoice ∈ (tables .invoice).filter (ofInvoice invoice) :=
    List.mem_filter.mpr ⟨hinvoice, decide_eq_true rfl⟩
  rw [← h invoice hinvoice .invoice (by decide)] at hfound
  exact List.mem_of_mem_filter hfound

/-- One thing after the other. -/
theorem trans {tables'' : Tables} (h : InvoicesKept tables tables')
    (hlater : InvoicesKept tables' tables'') : InvoicesKept tables tables'' := by
  intro invoice hinvoice table htable
  rw [hlater invoice (h.mem hinvoice) table htable, h invoice hinvoice table htable]

/-- Other tables do not matter. -/
theorem of_eq (h : ∀ table ∈ recordTables, tables' table = tables table) :
    InvoicesKept tables tables' := by
  intro invoice hinvoice table htable
  rw [h table htable]

end InvoicesKept

/-- A new invoice leaves the others as they are. -/
theorem Invoice.Recorded.invoicesKept {id : Int64} {row : TableRow} {items : List (Int64 × Int64)}
    (h : Invoice.Recorded id row items tables tables') : InvoicesKept tables tables' := by
  intro invoice hinvoice table htable
  -- Whatever is added has the new number.
  have hadded : ∀ added : List TableRow, (∀ new ∈ added, new .invoiceId = row .invoiceId) →
      (tables table ++ added).filter (ofInvoice invoice) =
        (tables table).filter (ofInvoice invoice) := by
    intro added hown
    have hnone : added.filter (ofInvoice invoice) = [] := by
      refine List.filter_eq_nil_iff.mpr fun new hnew => ?_
      rw [ofInvoice, decide_eq_true_eq, hown new hnew]
      exact (h.fresh invoice hinvoice).symm
    rw [List.filter_append, hnone, List.append_nil]
  obtain ⟨operations, hoperations, hown⟩ := h.operations
  rcases List.mem_cons.mp htable with rfl | htable
  · rw [h.invoices]
    exact hadded _ (by simp)
  · rcases List.mem_pair.mp htable with rfl | rfl
    · rw [h.items]
      refine hadded _ fun new hnew => ?_
      obtain ⟨item, -, rfl⟩ := List.mem_map.mp hnew
      exact h.rowId.symm
    · rw [hoperations]
      exact hadded _ hown

/-- A task that gets to its end keeps the invoices that were there. -/
theorem StockTask.invoicesKept {task : StockTask} {dateProvider : Nat → UInt64}
    {chain final : Entry ProductsTask × ProductsTask} (hchain : task.chain dateProvider = .ok chain)
    {history : List (List Statement)} (hattempts : FailedAttempts attempt chain history final)
    (hintegral : Integral schema tables) {memory' : ProductsTask}
    (h : final.1.RunsTo Answers tables final.2 tables' memory') :
    Integral schema tables' ∧ InvoicesKept tables tables' := by
  rw [task.eq_of_failedAttempts hchain hattempts h] at h
  obtain ⟨id, row, items, -, -, -, -, hrecorded⟩ := recorded hchain hintegral h
  exact ⟨hrecorded.integral, hrecorded.invoicesKept⟩

/-! ## Runs -/

/-- A request keeps the invoices that were there. -/
theorem InvoicesKept.perform (request : StockRequest) (circumstances : Circumstances)
    (hintegral : Integral schema tables) :
    InvoicesKept tables (request.perform circumstances tables) := by
  -- The three tasks that change the stock are alike.
  have hstock : ∀ (parsed : Except Exception ProductsTask)
      (chain : ProductsTask → Except Exception (Entry ProductsTask × ProductsTask))
      (task : ProductsTask → StockTask),
      (∀ products, (task products).chain circumstances.dateProvider = chain products) →
      InvoicesKept tables (circumstances.leave (parsed >>= chain) tables) := by
    intro parsed chain task htask
    refine circumstances.leave_preserves (InvoicesKept tables) (.refl tables) ?_
    intro entry memory history final tables' s' hbuilt hattempts hruns
    obtain ⟨products, -, hchain⟩ := bind_eq_ok.mp hbuilt
    exact ((task products).invoicesKept ((htask products).trans hchain) hattempts hintegral hruns).2
  match request with
  | .createWarehouse body =>
    rcases StockRequest.perform_createWarehouse body circumstances hintegral with
      hsame | hcommitted
    · rw [hsame]
      exact .refl tables
    · obtain ⟨-, -, hkept, -⟩ := hcommitted
      refine .of_eq fun table htable => hkept table ?_
      rintro rfl
      exact absurd htable (by decide)
  | .productsCreate body => exact hstock _ _ .productsCreate fun _ => rfl
  | .productsMove body => exact hstock _ _ .productsMove fun _ => rfl
  | .productsRemove body => exact hstock _ _ .productsRemove fun _ => rfl

/-- Whatever is committed later, and however the transactions are interleaved: the invoices that are
committed are kept. -/
theorem invoicesKept_of_reachable {initial : Tables} (hintegral : Integral schema initial)
    {ι : Type} [DecidableEq ι] (attempts : ι → StockAttempt) {system later : StockSystem ι}
    (h : SnapshotIsolation.Reachable schema (fun i => (attempts i).client) initial system)
    (hlater : Relation.ReflTransGen
      (SnapshotIsolation.Step schema fun i => (attempts i).client) system later) :
    InvoicesKept system.committed later.committed := by
  have halone : ∀ i db db', (attempts i).client.alone schema db = some db' → Integral schema db →
      Integral schema db' ∧ InvoicesKept db db' := by
    intro i db db' halone hdb
    obtain ⟨s', hruns⟩ := (attempts i).runsTo_of_alone halone
    exact StockTask.invoicesKept (attempts i).built (attempts i).failed hdb hruns
  exact h.relates InvoicesKept.refl (fun _ _ _ => InvoicesKept.trans)
    (fun i => (attempts i).guarded) halone hlater hintegral

/-! ## What is shown -/

/-- An invoice that is kept is shown as before: `GetInvoice` answers the same. -/
theorem GetInvoice.respond_of_kept (hkept : InvoicesKept tables tables') {id : Int64}
    {row : TableRow} (hrow : row ∈ tables .invoice) (hid : hasId .invoiceId id row = true)
    (dateProvider : DateProvider) (choices : Nat → Choices) :
    (task dateProvider id).respond (quietDatabase choices).answers tables' =
      (task dateProvider id).respond (quietDatabase choices).answers tables := by
  have hsame : ∀ table ∈ recordTables, ∀ choices : Choices,
      rowsOfId choices tables' table .invoiceId id =
        rowsOfId choices tables table .invoiceId id := by
    intro table htable choices
    rw [rowsOfId, rowsOfId, hasId_eq_ofInvoice hid, hkept row hrow table htable]
  -- A statement for the id is answered alike.
  have halike : ∀ {σ : Type} {table : Table} {columns : List Column} {store : Rows → σ → σ}
      {next : Entry σ} (clock : Nat) (s : σ), table ∈ recordTables →
      columnType table .invoiceId = .ok .int8 → areColumns table columns = true → columns ≠ [] →
      (∀ rows, next.RunsAlike (quietDatabase choices).answers (quietDatabase choices).answers
        (fun _ _ _ _ => True) (clock + 1) tables tables' (store rows s)) →
      (ListRequest.selectEntry (selectById table columns .invoiceId id) store next).RunsAlike
        (quietDatabase choices).answers (quietDatabase choices).answers (fun _ _ _ _ => True) clock
          tables tables' s := by
    intro σ table columns store next clock s htable hint8 hcolumns hne hnext
    have hsplit : ListRequest.selectEntry (selectById table columns .invoiceId id) store next =
        (ListRequest.selectEntry (selectById table columns .invoiceId id) store .null).setNext
          next := by
      rw [ListRequest.selectEntry, ListRequest.selectEntry, Entry.setNext]
    let statement := selectStatement (selectById table columns .invoiceId id)
    have hanswer := fun others =>
      answers_selectById choices clock hint8 hcolumns hne id others
    let rows : Except Exception Rows :=
      .ok ((rowsOfId (choices clock) tables table .invoiceId id).map (project columns))
    have hbefore : (quietDatabase choices).answers clock statement tables = rows.map (·, tables) :=
      hanswer tables
    have hafter : (quietDatabase choices).answers clock statement tables' =
        rows.map (·, tables') := by
      refine (hanswer tables').trans ?_
      rw [hsame table htable]
      rfl
    rw [hsplit]
    exact .setNext trivial (.query hbefore hafter fun rows _ => hnext rows)
  refine TransactionTask.respond_eq_of_runsAlike rfl (halike 0 _ (by decide) rfl (by decide)
    (List.cons_ne_nil _ _) fun rows => ?_)
  exact halike 1 _ (by decide) rfl (by decide) (List.cons_ne_nil _ _) fun rows => .null trivial

/-- An invoice that is committed is shown in the same way for ever, and its operations stay the
same, whatever is committed later and however the transactions are interleaved. -/
theorem GetInvoice.respond_of_reachable {initial : Tables}
    (hbefore : Reachable (fun _ _ => True) initial) {ι : Type} [DecidableEq ι]
    (attempts : ι → StockAttempt) {system later : StockSystem ι}
    (h : SnapshotIsolation.Reachable schema (fun i => (attempts i).client) initial system)
    (hlater : Relation.ReflTransGen
      (SnapshotIsolation.Step schema fun i => (attempts i).client) system later) {id : Int64}
    {row : TableRow} (hrow : row ∈ system.committed .invoice)
    (hid : hasId .invoiceId id row = true) :
    (later.committed .operation).filter (hasId .invoiceId id) =
        (system.committed .operation).filter (hasId .invoiceId id) ∧
      ∀ (dateProvider : DateProvider) (choices : Nat → Choices),
        (task dateProvider id).respond (quietDatabase choices).answers later.committed =
          (task dateProvider id).respond (quietDatabase choices).answers system.committed := by
  have hkept := invoicesKept_of_reachable hbefore.operationsPosted.1 attempts h hlater
  refine ⟨?_, respond_of_kept hkept hrow hid⟩
  rw [hasId_eq_ofInvoice hid]
  exact hkept row hrow .operation (by decide)

/-- The invoice of the first of three removals is shown as before when the third one is committed.
-/
theorem GetInvoice.respond_of_reachable_threeRemovals :
    ∃ system later : StockSystem (Fin 3), system.log = [0] ∧ later.log = [0, 2] ∧
      ∀ dateProvider choices,
        (task dateProvider 20).respond (quietDatabase choices).answers later.committed =
          (task dateProvider 20).respond (quietDatabase choices).answers system.committed := by
  let advance := SnapshotIsolation.System.advance schema fun i => (threeRemovals i).client
  have hfirst : (((threeRemovalsRun.take 10).foldlM advance { committed := fiveStored }).map
      fun system => (system.log, (system.committed .invoice).any (hasId .invoiceId 20))) =
        some ([0], true) := by
    decide +kernel
  have hall : ((threeRemovalsRun.foldlM advance { committed := fiveStored }).map fun system =>
      system.log) =
      some [0, 2] := by
    decide +kernel
  obtain ⟨system, hsystem, hfound⟩ := Option.map_eq_some_iff.mp hfirst
  rw [← List.take_append_drop 10 threeRemovalsRun, List.foldlM_append, hsystem] at hall
  obtain ⟨later, hlater, hlog⟩ := Option.map_eq_some_iff.mp hall
  obtain ⟨row, hrow, hid⟩ := List.any_eq_true.mp (congrArg Prod.snd hfound)
  have hstored : Reachable (fun _ _ => True) fiveStored :=
    .request _ _ (.request _ _ .initial trivial) trivial
  exact ⟨system, later, congrArg Prod.fst hfound, hlog, (respond_of_reachable hstored threeRemovals
    (.of_foldlM .start hsystem) (SnapshotIsolation.Step.of_foldlM hlater) hrow hid).2⟩

end TaskMgr.Tasks

import WarehouseAccounting.TaskManager.Tasks.SingleItems
import WarehouseAccounting.TaskManager.Tasks.ReportsByPeriod

/-!
# Report tasks

The tasks `ReportsByPeriod` and `ReportsCurrent` as a whole: the chain of the second one, the page
that is written to the report file, and the objects that are answered. A page is kept as the values
that the templates print.
-/

namespace TaskMgr.Tasks

open Ufa Srv.Db Srv.Db.Trsct

/-! ## Entries of both reports -/

section Entries

variable {σ : Type}

/-- Code that changes the memory or throws and leaves it as it was. -/
def codeOfExcept (function : σ → Except Exception σ) (s : σ) : Code σ Unit :=
  match function s with
  | .ok s => .done s ()
  | .error exception => .fail s exception

/-- `Product::SelectEntry`, on a map of products. -/
def Product.selectEntry (products : σ → List (Int64 × Product))
    (setProducts : List (Int64 × Product) → σ → σ) (results : σ → Rows) (store : Rows → σ → σ) :
    Entry σ :=
  .grouped
    [ .variable (fun s =>
        if (products s).isEmpty then
          .fail s .notFound
        else
          let query := Product.selectQuery ((products s).map Prod.fst)
          .issue s ⟨query.options, query.params.toPqxx⟩ fun rows => .done (store rows s) ()) .null,
      .variable (codeOfExcept fun s => do
        if (results s).length ≠ (products s).length then
          throw .other
        let filled ← (results s).foldlM (fun products row => do
          let id ← required (← getInt64 (← fieldAt row 0))
          return mapAssign id (← Product.fillFromRow row (mapAt {} id products)) products)
          (products s)
        return setProducts filled s) .null ]
    .null

/-- `Report::InsertEntry`. -/
def Report.insertEntry (report : σ → Report) (setReport : Report → σ → σ) (results : σ → Rows)
    (store : Rows → σ → σ) : Entry σ :=
  .grouped
    [ .variable (fun s =>
        match (report s).insertQuery with
        | .error exception => .fail s exception
        | .ok query =>
          .issue s ⟨query.options, query.params.toPqxx⟩ fun rows => .done (store rows s) ()) .null,
      .variable (codeOfExcept fun s => do
        let reportId ← required (← getInt64 (← Rows.at (results s) 0 0))
        return setReport { report s with reportId := some reportId } s) .null ]
    .null

/-- The functions of `ReportsByPeriod` are such code. -/
theorem ReportsByPeriod.ofExcept_eq {F : Type}
    (function : ReportsByPeriod F → Except Exception (ReportsByPeriod F)) :
    ReportsByPeriod.ofExcept function = codeOfExcept function := by
  ext task
  unfold ReportsByPeriod.ofExcept codeOfExcept
  cases function task <;> rfl

/-- `ReportsByPeriod` has this entry for its products. -/
theorem ReportsByPeriod.productsEntry_eq {F : Type} :
    (ReportsByPeriod.productsEntry : Entry (ReportsByPeriod F)) =
      Product.selectEntry ReportsByPeriod.products
        (fun products task => { task with products }) ReportsByPeriod.productResults
        (fun rows task => { task with productResults := rows }) := by
  rw [productsEntry, ofExcept_eq]
  rfl

/-- `ReportsByPeriod` has this entry for its report. -/
theorem ReportsByPeriod.reportEntry_eq {F : Type} :
    (ReportsByPeriod.reportEntry : Entry (ReportsByPeriod F)) =
      Report.insertEntry ReportsByPeriod.report (fun report task => { task with report })
        ReportsByPeriod.reportResults (fun rows task => { task with reportResults := rows }) := by
  rw [reportEntry, ofExcept_eq]
  rfl

end Entries

/-! ## Products in a report -/

/-- The values that `PrintProduct` prints. -/
structure ProductLine where
  id : Int64
  name : String
  prettyName : String
  description : String
  count : Int64
  createdDate : UInt64
  deriving DecidableEq, Repr

/-- `PrintProduct`. -/
def Product.line (product : Product) : Except Exception ProductLine := do
  let id ← required product.id
  let name ← required product.name
  let prettyName ← required product.prettyName
  let count ← required product.count
  let createdDate ← required product.createdDate
  return { id, name, prettyName, description := product.description.getD "", count, createdDate }

/-- The object of a product in the answer of a report. -/
def Product.reportJson (product : Product) (dateProvider : DateProvider) :
    Except Exception Json := do
  let name ← required product.name
  let id ← required product.id
  let count ← required product.count
  let createdDate ← required product.createdDate
  let createdBy ← required product.createdBy
  let prettyName ← required product.prettyName
  return .object (putAll [
    ("name", some (.string name)),
    ("description", product.description.map .string),
    ("main_color", product.mainColor.map .integer),
    ("id", some (.integer id)),
    ("count", some (.integer count)),
    ("created_date", some (dateProvider.json createdDate)),
    ("created_by", some (.unsigned createdBy)),
    ("pretty_name", some (.string prettyName))])

/-! ## ReportsByPeriod -/

/-- An invoice on the page of a report by period, with its products. -/
structure InvoiceSection where
  invoiceId : Int64
  name : String
  description : String
  createdDate : UInt64
  warehouseFromId : Option Int64
  warehouseToId : Option Int64
  products : List ProductLine
  deriving DecidableEq, Repr

/-- The page of a report by period. -/
structure PeriodPage where
  reportId : Int64
  name : String
  description : String
  periodFrom : UInt64
  periodTo : UInt64
  createdDate : UInt64
  warehouseId : Int64
  warehouseName : String
  totalInvoices : Nat
  invoices : List InvoiceSection
  deriving DecidableEq, Repr

namespace ReportsByPeriod

variable {F : Type}

/-- The product that belongs to an operation, `m_products[operation.product_id.value()]`. -/
def productOf (task : ReportsByPeriod F) (operation : Operation) : Except Exception Product := do
  return mapAt {} (← required operation.productId) task.products

/-- `m_operations[invoice.invoice_id.value()]`. -/
def operationsOf (task : ReportsByPeriod F) (invoice : Invoice) :
    Except Exception (List Operation) := do
  return mapAt [] (← required invoice.invoiceId) task.operations

/-- `OpenInvoice`, and the products until `CloseInvoice`. -/
def invoiceSection (task : ReportsByPeriod F) (invoice : Invoice) :
    Except Exception InvoiceSection := do
  let invoiceId ← required invoice.invoiceId
  let name ← required invoice.name
  let createdDate ← required invoice.createdDate
  let products ← (← task.operationsOf invoice).mapM fun operation => do
    (← task.productOf operation).line
  return {
    invoiceId, name, description := invoice.description.getD "", createdDate
    warehouseFromId := invoice.warehouseFromId
    warehouseToId := invoice.warehouseToId
    products }

/-- `WriteReportFile`. -/
def writeReportFile (task : ReportsByPeriod F) : Except Exception PeriodPage := do
  let reportId ← required task.report.reportId
  let name ← required task.report.name
  let periodFrom ← required task.report.periodFrom
  let periodTo ← required task.report.periodTo
  let createdDate ← required task.report.createdDate
  let warehouseId ← required task.report.warehouseId
  let warehouseName ← required task.warehouse.name
  let invoices ← task.invoices.mapM task.invoiceSection
  return {
    reportId, name, description := task.report.description.getD "", periodFrom, periodTo
    createdDate, warehouseId, warehouseName
    totalInvoices := task.invoices.length
    invoices }

/-- The object of an invoice of the report. -/
def invoiceJson (task : ReportsByPeriod F) (dateProvider : DateProvider) (invoice : Invoice) :
    Except Exception Json := do
  let invoiceId ← required invoice.invoiceId
  let prettyName ← required invoice.prettyName
  let createdDate ← required invoice.createdDate
  let createdBy ← required invoice.createdBy
  let products ← (← task.operationsOf invoice).mapM fun operation => do
    (← task.productOf operation).reportJson dateProvider
  return .object (putAll [
    ("invoice_id", some (.integer invoiceId)),
    ("invoice_pretty_name", some (.string prettyName)),
    ("created_date", some (dateProvider.json createdDate)),
    ("created_by", some (.unsigned createdBy)),
    ("warehouse_to_id", invoice.warehouseToId.map .integer),
    ("warehouse_from_id", invoice.warehouseFromId.map .integer),
    ("products", some (.array products))])

/-- The object of the report. -/
def json (task : ReportsByPeriod F) (dateProvider : DateProvider) : Except Exception Json := do
  let reportId ← required task.report.reportId
  let filepath ← required task.report.filepath
  let createdDate ← required task.report.createdDate
  let createdBy ← required task.report.createdBy
  let name ← required task.report.name
  let periodFrom ← required task.report.periodFrom
  let periodTo ← required task.report.periodTo
  let warehouseId ← required task.report.warehouseId
  let invoices ← task.invoices.mapM (task.invoiceJson dateProvider)
  return .object (putAll [
    ("report_id", some (.integer reportId)),
    ("filepath", some (.string filepath)),
    ("created_date", some (dateProvider.json createdDate)),
    ("created_by", some (.unsigned createdBy)),
    ("name", some (.string name)),
    ("description", task.report.description.map .string),
    ("period_from", some (dateProvider.json periodFrom)),
    ("period_to", some (dateProvider.json periodTo)),
    ("warehouse_id", some (.integer warehouseId)),
    ("invoices", some (.array invoices))])

/-- `ReportsByPeriod::ExecuteInternal` from the return of the transaction on: the file is written
after a success. -/
def finish (dateProvider : DateProvider) (result : Result) (task : ReportsByPeriod F) :
    Except Exception (Result × Json) := do
  if result = .success then
    let _ ← task.writeReportFile
  finishDone result (task.json dateProvider)

/-- `ReportsByPeriod`, as a task. -/
def transactionTask (dateProvider : DateProvider) (consumer : Consumer F)
    (createFile : Report → F → Except Exception (String × F)) (task : ReportsByPeriod F) :
    TransactionTask where
  Memory := ReportsByPeriod F
  prepare := prepared (task.chain (dateProvider.getTimestamp 0) consumer createFile)
  finish := finish dateProvider
  selected := warehouseResults

end ReportsByPeriod

/-! ## ReportsCurrent -/

/-- The members of `ReportsCurrent`, with the variables of its entries and the files. -/
structure ReportsCurrent (F : Type) where
  report : Report
  warehouse : Warehouse
  products : List (Int64 × Product) := []
  warehouseResults : Rows := []
  itemResults : Rows := []
  productResults : Rows := []
  reportResults : Rows := []
  files : F

/-- The page of a current report. -/
structure CurrentPage where
  reportId : Int64
  name : String
  description : String
  warehouseId : Int64
  warehouseName : String
  createdDate : UInt64
  totalProducts : Nat
  products : List ProductLine
  deriving DecidableEq, Repr

/-- The statement of `WarehouseItem::SelectByWarehouse`. -/
def WarehouseItem.selectByWarehouse (warehouseId : Int64) : Query :=
  QueryFactory.createSelect
    (selectById .warehouseItem [.productId, .count] .warehouseId warehouseId)

namespace ReportsCurrent

variable {F : Type}

/-- `WarehouseItem::SelectByWarehouse` on the products of the task. -/
def warehouseItemEntry (warehouseId : Int64) : Entry (ReportsCurrent F) :=
  .grouped
    [ .variable (fun task =>
        let query := WarehouseItem.selectByWarehouse warehouseId
        .issue task ⟨query.options, query.params.toPqxx⟩ fun rows =>
          .done { task with itemResults := rows } ()) .null,
      .variable (codeOfExcept fun task => do
        let products ← task.itemResults.foldlM (fun products row => do
          let id ← required (← getInt64 (← fieldAt row 0))
          let count ← required (← getInt64 (← fieldAt row 1))
          return mapAssign id { mapAt {} id products with id := some id, count := some count }
            products) task.products
        return { task with products }) .null ]
    .null

/-- `CreateReportFile`: the document manager says which file it created. -/
def createReportFile (createFile : Report → F → Except Exception (String × F))
    (task : ReportsCurrent F) : Except Exception (ReportsCurrent F) := do
  let (filepath, files) ← createFile task.report task.files
  return { task with report := { task.report with filepath := some filepath }, files }

/-- The chain of `ReportsCurrent::CollectData`, and the task as it is when the chain is
executed. -/
def chain (timestamp : UInt64) (createFile : Report → F → Except Exception (String × F))
    (task : ReportsCurrent F) : Except Exception (Entry (ReportsCurrent F) × ReportsCurrent F) := do
  let warehouseId ← required task.warehouse.warehouseId
  let warehouseEntry := Warehouse.selectEntry warehouse
    (fun warehouse task => { task with warehouse }) warehouseResults
    (fun rows task => { task with warehouseResults := rows }) warehouseId
  let productsEntry := Product.selectEntry products (fun products task => { task with products })
    productResults (fun rows task => { task with productResults := rows })
  let reportEntry := Report.insertEntry report (fun report task => { task with report })
    reportResults (fun rows task => { task with reportResults := rows })
  let task := { task with report := { task.report with createdDate := some timestamp } }
  return (warehouseEntry.setNext ((warehouseItemEntry warehouseId).setNext
    (productsEntry.setNext
      ((Entry.variable (codeOfExcept (createReportFile createFile)) .null).setNext reportEntry))),
    task)

/-- `WriteReportFile`. -/
def writeReportFile (task : ReportsCurrent F) : Except Exception CurrentPage := do
  let reportId ← required task.report.reportId
  let name ← required task.report.name
  let warehouseId ← required task.report.warehouseId
  let warehouseName ← required task.warehouse.name
  let createdDate ← required task.report.createdDate
  let products ← task.products.mapM fun (_, product) => product.line
  return {
    reportId, name, description := task.report.description.getD "", warehouseId, warehouseName
    createdDate
    totalProducts := task.products.length
    products }

/-- The object of the report. -/
def json (task : ReportsCurrent F) (dateProvider : DateProvider) : Except Exception Json := do
  let reportId ← required task.report.reportId
  let filepath ← required task.report.filepath
  let createdDate ← required task.report.createdDate
  let createdBy ← required task.report.createdBy
  let name ← required task.report.name
  let warehouseId ← required task.report.warehouseId
  let products ← task.products.mapM fun (_, product) => product.reportJson dateProvider
  return .object (putAll [
    ("report_id", some (.integer reportId)),
    ("filepath", some (.string filepath)),
    ("created_date", some (dateProvider.json createdDate)),
    ("created_by", some (.unsigned createdBy)),
    ("name", some (.string name)),
    ("description", task.report.description.map .string),
    ("warehouse_id", some (.integer warehouseId)),
    ("products", some (.array products))])

/-- `ReportsCurrent::ExecuteInternal` from the return of the transaction on: the file is written
whatever the transaction has returned. -/
def finish (dateProvider : DateProvider) (result : Result) (task : ReportsCurrent F) :
    Except Exception (Result × Json) := do
  let _ ← task.writeReportFile
  finishDone result (task.json dateProvider)

/-- `ReportsCurrent`, as a task. -/
def transactionTask (dateProvider : DateProvider)
    (createFile : Report → F → Except Exception (String × F)) (task : ReportsCurrent F) :
    TransactionTask where
  Memory := ReportsCurrent F
  prepare := prepared (task.chain (dateProvider.getTimestamp 0) createFile)
  finish := finish dateProvider
  selected := warehouseResults

end ReportsCurrent

end TaskMgr.Tasks

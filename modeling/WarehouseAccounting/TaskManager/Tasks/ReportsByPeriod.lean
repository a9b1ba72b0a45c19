import WarehouseAccounting.Foundations.Json
import WarehouseAccounting.TaskManager.Tasks.Lists

/-!
# Reports by period

The entry chain of `ReportsByPeriod::CollectData`, with `Operation::SelectEntryByPeriod` and
`Report::InsertEntry`. The files are a state of their own, of which the task sees what
`IDocumentManager::CreateFile` does to it.

The converter of `Operation::SelectEntryByPeriod` keeps a reference to its parameter `consumer`, a
temporary `std::function` that `CollectData` makes of `operationsConsumer` for the call and that is
destroyed before `Execute` runs the converter. The language says nothing of what calling it then
does, so the consumer is a parameter of the chain: any effect on the task, or an exception.
`ReportsByPeriod.operationsConsumer` is the function as it is written.
-/

namespace TaskMgr.Tasks

open Ufa Srv.Db Srv.Db.Trsct

/-! ## Ordered maps -/

/-- `map[key] = value`, in the order of the keys. -/
def mapAssign {α : Type} (key : Int64) (value : α) : List (Int64 × α) → List (Int64 × α)
  | [] => [(key, value)]
  | (key', value') :: rest =>
    if key = key' then (key, value) :: rest
    else if key < key' then (key, value) :: (key', value') :: rest
    else (key', value') :: mapAssign key value rest

/-- `map[key]`, which is `fallback` for a new key. -/
def mapAt {α : Type} (fallback : α) (key : Int64) (map : List (Int64 × α)) : α :=
  (map.lookup key).getD fallback

/-- What is assigned is found under its key. -/
theorem lookup_mapAssign {α : Type} (key other : Int64) (value : α) (map : List (Int64 × α)) :
    (mapAssign key value map).lookup other =
      if other = key then some value else map.lookup other := by
  induction map with
  | nil => rw [mapAssign, Json.lookup_cons_ite]
  | cons first map ih =>
    obtain ⟨key', value'⟩ := first
    rw [mapAssign]
    split
    · -- The value is replaced.
      rename_i hkey
      subst hkey
      rw [Json.lookup_cons_ite, Json.lookup_cons_ite]
      split <;> rfl
    · rename_i hkey
      split
      · rw [Json.lookup_cons_ite]
      · rw [Json.lookup_cons_ite, Json.lookup_cons_ite, ih]
        by_cases hother : other = key'
        · subst hother
          rw [if_pos rfl, if_pos rfl, if_neg fun heq => hkey heq.symm]
        · rw [if_neg hother, if_neg hother]

/-- Other keys keep their values. -/
theorem mapAt_mapAssign {α : Type} (fallback : α) (key other : Int64) (value : α)
    (map : List (Int64 × α)) :
    mapAt fallback other (mapAssign key value map) =
      if other = key then value else mapAt fallback other map := by
  rw [mapAt, lookup_mapAssign]
  split <;> rfl

/-! ## The entries -/

/-- The statement of `Operation::SelectEntryByPeriod`. -/
def Operation.selectByPeriodQuery (fromTime toTime : UInt64) : Query :=
  QueryFactory.createSelect
    { table := .operation
      columns := [.invoiceId, .invoicePrettyName, .productId, .warehouseId, .count,
        .createdDate, .createdBy]
      condition := some (.group .and [.real .createdDate (unsigned fromTime) .greater,
        .real .createdDate (unsigned toTime) .less]) }

/-- An operation from a row of these columns. -/
def Operation.fromPeriodRow (row : List (Option String)) : Except Exception Operation := do
  let invoiceId ← required (← getInt64 (← fieldAt row 0))
  let invoicePrettyName ← required (← getString (← fieldAt row 1))
  let productId ← required (← getInt64 (← fieldAt row 2))
  let warehouseId ← getInt64 (← fieldAt row 3)
  let count ← required (← getInt64 (← fieldAt row 4))
  let createdDate ← required (← getUInt64 (← fieldAt row 5))
  let createdBy ← required (← getUInt64 (← fieldAt row 6))
  return {
    invoiceId := some invoiceId
    invoicePrettyName := some invoicePrettyName
    productId := some productId
    warehouseId
    count := some count
    createdDate := some createdDate
    createdBy := some createdBy }

/-- The statement of `Report::InsertEntry`. -/
def Report.insertQuery (report : Report) : Except Exception Query := do
  let name ← required report.name
  let reportType ← required report.reportType
  let filepath ← required report.filepath
  let createdDate ← required report.createdDate
  let createdBy ← required report.createdBy
  let warehouseId ← required report.warehouseId
  let params := ((((((ValueCollector.append [] (.text name)).append (integer reportType)).append
    (.text filepath)).append (unsigned createdDate)).append (unsigned createdBy)).append
    (integer warehouseId))
  let added := appendToQueryOptional
    ([.name, .reportType, .filepath, .createdDate, .createdBy, .warehouseId], params)
    (report.description.map .text) .description
  match QueryFactory.createInsert
    { table := .report, columns := added.1, returning := [.reportId] } [added.2] with
  | .ok query => return query
  | .error _ => throw .other

/-! ## The task -/

/-- The members of `ReportsByPeriod`, with the variables of its entries and the files. -/
structure ReportsByPeriod (F : Type) where
  report : Report
  warehouse : Warehouse
  invoices : List Invoice := []
  products : List (Int64 × Product) := []
  operations : List (Int64 × List Operation) := []
  warehouseResults : Rows := []
  operationResults : Rows := []
  invoiceResults : Rows := []
  productResults : Rows := []
  reportResults : Rows := []
  files : F

namespace ReportsByPeriod

variable {F : Type}

/-- What a call of `consumer` does to the task, once for each operation. -/
abbrev Consumer (F : Type) :=
  Operation → ReportsByPeriod F → Except Exception (ReportsByPeriod F)

/-- `operationsConsumer`. -/
def operationsConsumer (operation : Operation) (task : ReportsByPeriod F) :
    Except Exception (ReportsByPeriod F) := do
  let productId ← required operation.productId
  let invoiceId ← required operation.invoiceId
  return { task with
    invoices := task.invoices ++ [{ invoiceId := operation.invoiceId }]
    products := mapAssign productId { count := operation.count, id := operation.productId }
      task.products
    operations := mapAssign invoiceId (mapAt [] invoiceId task.operations ++ [operation])
      task.operations }

/-- A function that throws leaves the task as it was. -/
def ofExcept (function : ReportsByPeriod F → Except Exception (ReportsByPeriod F))
    (task : ReportsByPeriod F) : Code (ReportsByPeriod F) Unit :=
  match function task with
  | .ok task => .done task ()
  | .error exception => .fail task exception

/-- `Operation::SelectEntryByPeriod`. -/
def operationEntry (consumer : Consumer F) (fromTime toTime : UInt64) :
    Entry (ReportsByPeriod F) :=
  .grouped
    [ .query (Operation.selectByPeriodQuery fromTime toTime).options
        (Operation.selectByPeriodQuery fromTime toTime).params
        (fun rows task => { task with operationResults := rows }) .null,
      .variable (ofExcept fun task => task.operationResults.foldlM (fun task row => do
        consumer (← Operation.fromPeriodRow row) task) task) .null ]
    .null

/-- `Product::SelectEntry` on the products of the task. -/
def productsEntry : Entry (ReportsByPeriod F) :=
  .grouped
    [ .variable (fun task =>
        if task.products.isEmpty then
          .fail task .notFound
        else
          let query := Product.selectQuery (task.products.map Prod.fst)
          .issue task ⟨query.options, query.params.toPqxx⟩ fun rows =>
            .done { task with productResults := rows } ()) .null,
      .variable (ofExcept fun task => do
        if task.productResults.length ≠ task.products.length then
          throw .other
        let products ← task.productResults.foldlM (fun products row => do
          let id ← required (← getInt64 (← fieldAt row 0))
          return mapAssign id (← Product.fillFromRow row (mapAt {} id products)) products)
          task.products
        return { task with products }) .null ]
    .null

/-- `CreateReportFile`: the document manager says which file it created. -/
def createReportFile (createFile : Report → F → Except Exception (String × F))
    (task : ReportsByPeriod F) : Except Exception (ReportsByPeriod F) := do
  let (filepath, files) ← createFile task.report task.files
  return { task with report := { task.report with filepath := some filepath }, files }

/-- `Report::InsertEntry` on the report of the task. -/
def reportEntry : Entry (ReportsByPeriod F) :=
  .grouped
    [ .variable (fun task =>
        match task.report.insertQuery with
        | .error exception => .fail task exception
        | .ok query =>
          .issue task ⟨query.options, query.params.toPqxx⟩ fun rows =>
            .done { task with reportResults := rows } ()) .null,
      .variable (ofExcept fun task => do
        let reportId ← required (← getInt64 (← Rows.at task.reportResults 0 0))
        return { task with report := { task.report with reportId := some reportId } }) .null ]
    .null

/-- The chain of `ReportsByPeriod::CollectData`, and the task as it is when the chain is
executed. -/
def chain (timestamp : UInt64) (consumer : Consumer F)
    (createFile : Report → F → Except Exception (String × F)) (task : ReportsByPeriod F) :
    Except Exception (Entry (ReportsByPeriod F) × ReportsByPeriod F) := do
  let warehouseId ← required task.warehouse.warehouseId
  let periodFrom ← required task.report.periodFrom
  let periodTo ← required task.report.periodTo
  let warehouseEntry := Warehouse.selectEntry warehouse
    (fun warehouse task => { task with warehouse }) warehouseResults
    (fun rows task => { task with warehouseResults := rows }) warehouseId
  let invoicesEntry := Invoice.selectEntry invoices
    (fun invoices task => { task with invoices }) invoiceResults
    (fun rows task => { task with invoiceResults := rows })
  let task := { task with report := { task.report with createdDate := some timestamp } }
  return (warehouseEntry.setNext ((operationEntry consumer periodFrom periodTo).setNext
    (invoicesEntry.setNext (productsEntry.setNext
      ((Entry.variable (ofExcept (createReportFile createFile)) .null).setNext reportEntry)))),
    task)

end ReportsByPeriod

end TaskMgr.Tasks

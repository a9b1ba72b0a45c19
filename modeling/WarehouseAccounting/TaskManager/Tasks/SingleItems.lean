import WarehouseAccounting.TaskManager.Tasks.BaseTask
import WarehouseAccounting.TaskManager.Tasks.Lists

/-!
# Single items

The tasks `GetProduct`, `GetUser`, `GetReport`, `GetInvoice` and `GetWarehouse`: the statements for
one id, the members that are filled from the rows, and the object that is answered.
-/

namespace TaskMgr.Tasks

open Ufa Srv.Db Srv.Db.Trsct

/-- `IDateProvider`, as far as the tasks ask it. -/
structure DateProvider where
  /-- `GetTimestamp`, at the first call and at the later ones. -/
  getTimestamp : Nat → UInt64
  /-- `ToIsoTimeString`. -/
  toIsoTimeString : UInt64 → String
  /-- `FromIsoTimeString`: the time when it returns `SUCCESS`. -/
  fromIsoTimeString : String → Option UInt64

namespace DateProvider

/-- A time in an answer. -/
def json (dateProvider : DateProvider) (timestamp : UInt64) : Json :=
  .string (dateProvider.toIsoTimeString timestamp)

end DateProvider

/-! ## The end of a task -/

/-- The end of a task that passes the code of the transaction on. -/
def finishDone (result : Result) (answer : Except Exception Json) :
    Except Exception (Result × Json) :=
  if result = .success then answer.map fun json => (.success, json)
  else .ok (result, .null)

/-- The end of a task that looks at its rows first: without rows the code of the transaction is
replaced. -/
def finishFound (rows : Rows) (result : Result) (answer : Except Exception Json) :
    Except Exception (Result × Json) :=
  if rows.isEmpty then .ok (.notFound, .null)
  else finishDone result answer

/-- `jsonResult[RESULT_KEY]`. -/
def resultJson (json : Json) : Json :=
  .object (putAll [("result", some json)])

/-- A statement for one id whose rows are all that the task keeps. -/
def selectById (table : Table) (columns : List Column) (idColumn : Column) (id : Int64) :
    SelectOptions where
  table
  columns
  condition := some (.real idColumn (integer id) .equal)

/-- The transaction of a task of one statement, whose only variable are the rows. -/
def rowsTask (options : SelectOptions)
    (finish : Result → Rows → Except Exception (Result × Json)) : TransactionTask where
  Memory := Rows
  prepare := .ok (ListRequest.chain options, [])
  finish
  selected := id

/-! ## Products, users and reports -/

namespace GetProduct

/-- The options of `ActualGetProduct`. -/
def options (id : Int64) : SelectOptions :=
  selectById .product [.name, .prettyName, .description, .createdDate, .createdBy, .mainColor]
    .productId id

/-- `m_product`, filled from the rows. -/
def fill (id : Int64) (results : Rows) : Except Exception Product := do
  let name ← getString (← Rows.at results 0 0)
  let prettyName ← getString (← Rows.at results 0 1)
  let description ← getString (← Rows.at results 0 2)
  let createdDate ← getUInt64 (← Rows.at results 0 3)
  let createdBy ← getUInt64 (← Rows.at results 0 4)
  let mainColor ← getInt64 (← Rows.at results 0 5)
  return { id := some id, name, prettyName, description, createdDate, createdBy, mainColor }

/-- The object of the answer. -/
def json (dateProvider : DateProvider) (product : Product) : Except Exception Json := do
  let id ← required product.id
  let name ← required product.name
  let prettyName ← required product.prettyName
  let createdDate ← required product.createdDate
  let createdBy ← required product.createdBy
  return .object (putAll [
    ("product_id", some (.integer id)),
    ("name", some (.string name)),
    ("pretty_name", some (.string prettyName)),
    ("description", product.description.map .string),
    ("created_date", some (dateProvider.json createdDate)),
    ("created_by", some (.unsigned createdBy)),
    ("main_color", product.mainColor.map .integer)])

/-- `GetProduct`. -/
def task (dateProvider : DateProvider) (id : Int64) : TransactionTask :=
  rowsTask (options id) fun result results =>
    finishFound results result do
      return resultJson (← json dateProvider (← fill id results))

end GetProduct

namespace GetUser

/-- The options of `ActualGetUser`. -/
def options (id : Int64) : SelectOptions :=
  selectById .user [.login, .name, .createdDate, .createdBy] .userId id

/-- `m_user`, filled from the rows. -/
def fill (id : Int64) (results : Rows) : Except Exception User := do
  let login ← getString (← Rows.at results 0 0)
  let name ← getString (← Rows.at results 0 1)
  let createdDate ← getUInt64 (← Rows.at results 0 2)
  let createdBy ← getUInt64 (← Rows.at results 0 3)
  return { userId := some id, login, name, createdDate, createdBy }

/-- The object of the answer. -/
def json (dateProvider : DateProvider) (user : User) : Except Exception Json := do
  let userId ← required user.userId
  let name ← required user.name
  let login ← required user.login
  let createdDate ← required user.createdDate
  return .object (putAll [
    ("user_id", some (.integer userId)),
    ("name", some (.string name)),
    ("login", some (.string login)),
    ("created_date", some (dateProvider.json createdDate)),
    ("created_by", user.createdBy.map .unsigned)])

/-- `GetUser`. -/
def task (dateProvider : DateProvider) (id : Int64) : TransactionTask :=
  rowsTask (options id) fun result results =>
    finishFound results result do
      return resultJson (← json dateProvider (← fill id results))

end GetUser

/-- `string_converters::ToString(ReportType)`, after the cast to the enumeration, whose underlying
type has 32 bits. -/
def reportTypeToString (reportType : Int64) : Except Exception String :=
  match reportType.toInt.emod (2 ^ 32) with
  | 0 => .ok "ByPeriod"
  | 1 => .ok "Current"
  | _ => .error .other

/-- The object of a report, in the answers of `GetReport` and `GetReportList`. -/
def Report.json (report : Report) (dateProvider : DateProvider) : Except Exception Json := do
  let reportId ← required report.reportId
  let name ← required report.name
  let reportType ← reportTypeToString (← required report.reportType)
  let filepath ← required report.filepath
  let createdDate ← required report.createdDate
  let warehouseId ← required report.warehouseId
  return .object (putAll [
    ("report_id", some (.integer reportId)),
    ("name", some (.string name)),
    ("description", report.description.map .string),
    ("report_type", some (.string reportType)),
    ("filepath", some (.string filepath)),
    ("created_date", some (dateProvider.json createdDate)),
    ("created_by", report.createdBy.map .unsigned),
    ("warehouse_id", some (.integer warehouseId))])


namespace GetReport

/-- The options of `ActualGetReport`. -/
def options (id : Int64) : SelectOptions :=
  selectById .report
    [.name, .description, .reportType, .filepath, .createdDate, .createdBy, .warehouseId]
    .reportId id

/-- `m_report`, filled from the rows. -/
def fill (id : Int64) (results : Rows) : Except Exception Report := do
  let name ← getString (← Rows.at results 0 0)
  let description ← getString (← Rows.at results 0 1)
  let reportType ← required (← getInt64 (← Rows.at results 0 2))
  let filepath ← getString (← Rows.at results 0 3)
  let createdDate ← getUInt64 (← Rows.at results 0 4)
  let createdBy ← getUInt64 (← Rows.at results 0 5)
  let warehouseId ← required (← getInt64 (← Rows.at results 0 6))
  return { reportId := some id, name, description, filepath, createdDate, createdBy
           reportType := some reportType
           warehouseId := some warehouseId }

/-- `GetReport`. -/
def task (dateProvider : DateProvider) (id : Int64) : TransactionTask :=
  rowsTask (options id) fun result results =>
    finishFound results result do
      return resultJson (← (← fill id results).json dateProvider)

end GetReport

/-! ## Invoices -/

/-- `InvoiceItem`. -/
structure InvoiceItem where
  invoiceId : Option Int64 := none
  productId : Option Int64 := none
  count : Option Int64 := none
  deriving DecidableEq, Repr

/-- The object of an item of an invoice. -/
def InvoiceItem.json (item : InvoiceItem) : Except Exception Json := do
  let invoiceId ← required item.invoiceId
  let productId ← required item.productId
  let count ← required item.count
  return .object (putAll [
    ("invoice_id", some (.integer invoiceId)),
    ("product_id", some (.integer productId)),
    ("count", some (.integer count))])

/-- The object of an invoice with the objects of its items, in the answers of `GetInvoice` and
`GetInvoiceList`. -/
def Invoice.json (invoice : Invoice) (dateProvider : DateProvider) (items : List Json) :
    Except Exception Json := do
  let invoiceId ← required invoice.invoiceId
  let name ← required invoice.name
  let prettyName ← required invoice.prettyName
  let createdDate ← required invoice.createdDate
  let createdBy ← required invoice.createdBy
  return .object (putAll [
    ("invoice_id", some (.integer invoiceId)),
    ("warehouse_to", invoice.warehouseToId.map .integer),
    ("warehouse_from", invoice.warehouseFromId.map .integer),
    ("name", some (.string name)),
    ("pretty_name", some (.string prettyName)),
    ("description", invoice.description.map .string),
    ("created_date", some (dateProvider.json createdDate)),
    ("created_by", some (.unsigned createdBy)),
    ("items", some (.array items))])


/-- The members of `GetInvoice`, with the variables that its results go to. -/
structure GetInvoice where
  invoice : Invoice
  itemResults : Rows := []
  invoiceResults : Rows := []

namespace GetInvoice

/-- The options of the statement for the items. -/
def itemOptions (id : Int64) : SelectOptions :=
  selectById .invoiceItem [.productId, .count] .invoiceId id

/-- The options of the statement for the invoice. -/
def options (id : Int64) : SelectOptions :=
  selectById .invoice
    [.invoiceId, .warehouseToId, .warehouseFromId, .name, .prettyName, .description,
      .createdDate, .createdBy] .invoiceId id

/-- The chain of `ActualGetInvoice`: the items are asked for first. -/
def chain (id : Int64) : Entry GetInvoice :=
  ListRequest.selectEntry (itemOptions id) (fun rows task => { task with itemResults := rows })
    (ListRequest.selectEntry (options id) (fun rows task => { task with invoiceResults := rows })
      .null)

/-- An item from a row of the first statement. -/
def itemFromRow (id : Int64) (row : List (Option String)) : Except Exception InvoiceItem := do
  let productId ← getInt64 (← fieldAt row 0)
  let count ← getInt64 (← fieldAt row 1)
  return { invoiceId := some id, productId, count }

/-- `m_invoice`, filled from the rows. -/
def fill (results : Rows) : Except Exception Invoice := do
  let invoiceId ← getInt64 (← Rows.at results 0 0)
  let warehouseToId ← getInt64 (← Rows.at results 0 1)
  let warehouseFromId ← getInt64 (← Rows.at results 0 2)
  let name ← getString (← Rows.at results 0 3)
  let prettyName ← getString (← Rows.at results 0 4)
  let description ← getString (← Rows.at results 0 5)
  let createdDate ← getUInt64 (← Rows.at results 0 6)
  let createdBy ← getUInt64 (← Rows.at results 0 7)
  return { invoiceId, warehouseToId, warehouseFromId, name, prettyName, description, createdDate
           createdBy }

/-- `GetInvoice`. -/
def task (dateProvider : DateProvider) (id : Int64) : TransactionTask where
  Memory := GetInvoice
  prepare := .ok (chain id, { invoice := { invoiceId := some id } })
  finish := fun result memory =>
    finishFound memory.invoiceResults result do
      let requested ← required memory.invoice.invoiceId
      let items ← memory.itemResults.mapM (itemFromRow requested)
      let invoice ← fill memory.invoiceResults
      return resultJson (← invoice.json dateProvider (← items.mapM InvoiceItem.json))
  selected := invoiceResults

end GetInvoice

/-! ## Warehouses -/

/-- `WarehouseItem`. -/
structure WarehouseItem where
  warehouseId : Option Int64 := none
  productId : Option Int64 := none
  count : Option Int64 := none
  deriving DecidableEq, Repr

/-- The object of an item of a warehouse. -/
def WarehouseItem.json (item : WarehouseItem) : Except Exception Json := do
  let warehouseId ← required item.warehouseId
  let productId ← required item.productId
  let count ← required item.count
  return .object (putAll [
    ("warehouse_id", some (.integer warehouseId)),
    ("product_id", some (.integer productId)),
    ("count", some (.integer count))])

/-- The object of a warehouse with the objects of its items, in the answers of `GetWarehouse` and
`GetWarehouseList`. -/
def Warehouse.json (warehouse : Warehouse) (dateProvider : DateProvider) (items : List Json) :
    Except Exception Json := do
  let warehouseId ← required warehouse.warehouseId
  let name ← required warehouse.name
  let prettyName ← required warehouse.prettyName
  let createdDate ← required warehouse.createdDate
  let createdBy ← required warehouse.createdBy
  return .object (putAll [
    ("warehouse_id", some (.integer warehouseId)),
    ("name", some (.string name)),
    ("pretty_name", some (.string prettyName)),
    ("description", warehouse.description.map .string),
    ("created_date", some (dateProvider.json createdDate.toUInt64)),
    ("created_by", some (.integer createdBy)),
    ("location", warehouse.location.map .string),
    ("items", some (.array items))])

/-- The members of `GetWarehouse`, with the variables that its results go to. -/
structure GetWarehouse where
  warehouse : Warehouse
  itemResults : Rows := []
  warehouseResults : Rows := []

namespace GetWarehouse

/-- The options of the statement for the items. -/
def itemOptions (id : Int64) : SelectOptions :=
  selectById .warehouseItem [.productId, .count] .warehouseId id

/-- The chain of `ActualGetWarehouse`: the items are asked for first. -/
def chain (id : Int64) : Entry GetWarehouse :=
  ListRequest.selectEntry (itemOptions id) (fun rows task => { task with itemResults := rows })
    (Warehouse.selectEntry warehouse (fun warehouse task => { task with warehouse })
      warehouseResults (fun rows task => { task with warehouseResults := rows }) id)

/-- An item from a row of the first statement. -/
def itemFromRow (id : Int64) (row : List (Option String)) : Except Exception WarehouseItem := do
  let productId ← getInt64 (← fieldAt row 0)
  let count ← getInt64 (← fieldAt row 1)
  return { warehouseId := some id, productId, count }

/-- `GetWarehouse`. -/
def task (dateProvider : DateProvider) (id : Int64) : TransactionTask where
  Memory := GetWarehouse
  prepare := .ok (chain id, { warehouse := { warehouseId := some id } })
  finish := fun result memory =>
    finishDone result do
      let requested ← required memory.warehouse.warehouseId
      let items ← memory.itemResults.mapM (itemFromRow requested)
      return resultJson (← memory.warehouse.json dateProvider (← items.mapM WarehouseItem.json))
  selected := warehouseResults

end GetWarehouse

end TaskMgr.Tasks

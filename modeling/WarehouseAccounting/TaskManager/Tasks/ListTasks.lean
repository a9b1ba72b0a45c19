import WarehouseAccounting.TaskManager.Tasks.SingleItems

/-!
# List tasks

The six list tasks as a whole: the entry chain of each, the entities that are made of its rows,
and the array of objects that is answered.
-/

namespace TaskMgr.Tasks

open Ufa Srv.Db Srv.Db.Trsct

/-- The answer of a list, from the objects of its entities. -/
def listJson (entities : List Json) : Json :=
  resultJson (.array entities)

/-! ## Lists of one statement -/

namespace GetProductList

/-- The object of a product, which may come with the item of a warehouse. -/
def json (dateProvider : DateProvider) (product : Product) : Except Exception Json := do
  let id ← required product.id
  let name ← required product.name
  let prettyName ← required product.prettyName
  let createdDate ← required product.createdDate
  let createdBy ← required product.createdBy
  return .object (putAll [
    ("product_id", some (.integer id)),
    ("name", some (.string name)),
    ("pretty_name", some (.string prettyName)),
    ("description", product.description.map .string),
    ("created_date", some (dateProvider.json createdDate)),
    ("created_by", some (.unsigned createdBy)),
    ("main_color", product.mainColor.map .integer),
    ("warehouse_id", product.warehouseId.map .integer),
    ("count", product.count.map .integer)])

/-- `GetProductList`. -/
def task (dateProvider : DateProvider) (request : ListRequest) : TransactionTask :=
  rowsTask (options request) fun result results =>
    finishFound results result do
      let products ← results.mapM (fromRow (extendWarehouse request))
      return listJson (← products.mapM (json dateProvider))

end GetProductList

namespace GetUserList

/-- The object of a user. -/
def json (dateProvider : DateProvider) (user : User) : Except Exception Json := do
  let userId ← required user.userId
  let name ← required user.name
  -- The name is put for the login, too.
  let login ← required user.name
  let createdDate ← required user.createdDate
  return .object (putAll [
    ("user_id", some (.integer userId)),
    ("name", some (.string name)),
    ("login", some (.string login)),
    ("created_date", some (dateProvider.json createdDate)),
    ("created_by", user.createdBy.map .unsigned)])

/-- `GetUserList`. -/
def task (dateProvider : DateProvider) (request : ListRequest) : TransactionTask :=
  rowsTask (options request) fun result results =>
    finishFound results result do
      let users ← results.mapM fromRow
      return listJson (← users.mapM (json dateProvider))

end GetUserList

namespace GetReportList

/-- `GetReportList`. -/
def task (dateProvider : DateProvider) (request : ListRequest) : TransactionTask :=
  rowsTask (options request) fun result results =>
    finishFound results result do
      let reports ← results.mapM fromRow
      return listJson (← reports.mapM fun report => report.json dateProvider)

end GetReportList

namespace GetOperationList

/-- The object of an operation. -/
def json (dateProvider : DateProvider) (operation : Operation) : Except Exception Json := do
  let operationId ← required operation.operationId
  let invoiceId ← required operation.invoiceId
  let invoicePrettyName ← required operation.invoicePrettyName
  let productId ← required operation.productId
  let count ← required operation.count
  let createdDate ← required operation.createdDate
  let createdBy ← required operation.createdBy
  return .object (putAll [
    ("operation_id", some (.integer operationId)),
    ("invoice_id", some (.integer invoiceId)),
    ("invoice_pretty_name", some (.string invoicePrettyName)),
    ("product_id", some (.integer productId)),
    ("warehouse_id", operation.warehouseId.map .integer),
    ("count", some (.integer count)),
    ("created_date", some (dateProvider.json createdDate)),
    ("created_by", some (.unsigned createdBy))])

/-- `GetOperationList`. -/
def task (dateProvider : DateProvider) (request : ListRequest) : TransactionTask :=
  rowsTask (options request) fun result results =>
    finishFound results result do
      let operations ← results.mapM fromRow
      return listJson (← operations.mapM (json dateProvider))

end GetOperationList

/-! ## Lists with items -/

namespace GetWarehouseList

/-- An item from a row of the second statement; it is filed under its warehouse. -/
def itemFromRow (row : List (Option String)) : Except Exception WarehouseItem := do
  let warehouseId ← getInt64 (← fieldAt row 0)
  let productId ← getInt64 (← fieldAt row 1)
  let count ← getInt64 (← fieldAt row 2)
  return { warehouseId := some (← required warehouseId), productId, count }

/-- `m_warehouseItems[warehouseId]`. -/
def itemsOf (items : List WarehouseItem) (warehouseId : Int64) : List WarehouseItem :=
  items.filter fun item => item.warehouseId = some warehouseId

/-- The object of a warehouse with its items. -/
def json (dateProvider : DateProvider) (items : List WarehouseItem) (warehouse : Warehouse) :
    Except Exception Json := do
  let warehouseId ← required warehouse.warehouseId
  warehouse.json dateProvider (← (itemsOf items warehouseId).mapM WarehouseItem.json)

/-- `GetWarehouseList`. -/
def task (dateProvider : DateProvider) (request : ListRequest) : TransactionTask where
  Memory := ItemList Warehouse
  prepare := .ok (chain request, {})
  finish := fun result memory =>
    finishFound memory.results result do
      let items ← memory.itemResults.mapM itemFromRow
      return listJson (← memory.entities.mapM (json dateProvider items))
  selected := ItemList.results

end GetWarehouseList

namespace GetInvoiceList

/-- An item from a row of the second statement; it is filed under its invoice. -/
def itemFromRow (row : List (Option String)) : Except Exception InvoiceItem := do
  let invoiceId ← getInt64 (← fieldAt row 0)
  let productId ← getInt64 (← fieldAt row 1)
  let count ← getInt64 (← fieldAt row 2)
  return { invoiceId := some (← required invoiceId), productId, count }

/-- `m_invoiceItems[invoiceId]`. -/
def itemsOf (items : List InvoiceItem) (invoiceId : Int64) : List InvoiceItem :=
  items.filter fun item => item.invoiceId = some invoiceId

/-- The object of an invoice with its items. -/
def json (dateProvider : DateProvider) (items : List InvoiceItem) (invoice : Invoice) :
    Except Exception Json := do
  let invoiceId ← required invoice.invoiceId
  invoice.json dateProvider (← (itemsOf items invoiceId).mapM InvoiceItem.json)

/-- `GetInvoiceList`. -/
def task (dateProvider : DateProvider) (request : ListRequest) : TransactionTask where
  Memory := ItemList Invoice
  prepare := .ok (chain request, {})
  finish := fun result memory =>
    finishFound memory.results result do
      let items ← memory.itemResults.mapM itemFromRow
      return listJson (← memory.entities.mapM (json dateProvider items))
  selected := ItemList.results

end GetInvoiceList

end TaskMgr.Tasks

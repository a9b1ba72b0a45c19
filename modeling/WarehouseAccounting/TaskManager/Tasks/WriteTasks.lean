import WarehouseAccounting.TaskManager.Tasks.SingleItems
import WarehouseAccounting.TaskManager.Tasks.ProductsTasks

/-!
# Writing tasks

The tasks `ProductsCreate`, `ProductsMove`, `ProductsRemove` and `CreateWarehouse` as a whole: what
they answer after the transaction.
-/

namespace TaskMgr.Tasks

open Ufa Srv.Db Srv.Db.Trsct

namespace ProductsTask

/-- The object of a product in the answer of `ProductsCreate`. -/
def createdProductJson (dateProvider : DateProvider) (product : Product) :
    Except Exception Json := do
  let count ← required product.count
  let id ← required product.id
  return .object (putAll [
    ("name", product.name.map .string),
    ("description", product.description.map .string),
    ("main_color", product.mainColor.map .integer),
    ("main_color_name", product.mainColorName.map .string),
    ("count", some (.integer count)),
    ("id", some (.integer id)),
    ("created_by", product.createdBy.map .unsigned),
    ("pretty_name", product.prettyName.map .string),
    ("created_date", product.createdDate.map dateProvider.json)])

/-- The object of a product in the answers of `ProductsMove` and `ProductsRemove`. -/
def movedProductJson (product : Product) : Except Exception Json := do
  let id ← required product.id
  let count ← required product.count
  return .object (putAll [("id", some (.integer id)), ("count", some (.integer count))])

/-- The members that all three answers have; the warehouses are given. -/
def json (dateProvider : DateProvider) (invoice : Invoice)
    (warehouses : List (String × Option Json)) (products : List Json) :
    Except Exception Json := do
  let invoiceId ← required invoice.invoiceId
  let createdDate ← required invoice.createdDate
  let createdBy ← required invoice.createdBy
  let prettyName ← required invoice.prettyName
  let name ← required invoice.name
  return .object (putAll ([
    ("invoice_id", some (.integer invoiceId)),
    ("invoice_created_date", some (dateProvider.json createdDate)),
    ("invoice_created_by", some (.unsigned createdBy)),
    ("invoice_pretty_name", some (.string prettyName)),
    ("invoice_name", some (.string name)),
    ("invoice_description", invoice.description.map .string)] ++ warehouses ++
    [("products", some (.array products))]))

/-- The invoice with the id of its first row, as `ProductsMove` and `ProductsRemove` read it once
more after the transaction. -/
def readInvoiceId (task : ProductsTask) : Except Exception Invoice := do
  let invoiceId ← getInt64 (← Rows.at task.invoiceInsertResults 0 0)
  return { task.invoice with invoiceId }

/-- `ProductsCreate`. -/
def createTask (dateProvider : DateProvider) (task : ProductsTask) : TransactionTask where
  Memory := ProductsTask
  prepare := prepared (task.createChain dateProvider.getTimestamp)
  finish := fun result task =>
    finishDone result do
      let warehouseTo ← required task.invoice.warehouseToId
      let products ← task.products.mapM (createdProductJson dateProvider)
      json dateProvider task.invoice [("warehouse_to", some (.integer warehouseTo))] products
  selected := invoiceInsertResults

/-- `ProductsMove`. -/
def moveTask (dateProvider : DateProvider) (task : ProductsTask) : TransactionTask where
  Memory := ProductsTask
  prepare := prepared (task.moveChain dateProvider.getTimestamp)
  finish := fun result task =>
    finishDone result do
      let invoice ← task.readInvoiceId
      let warehouseTo ← required invoice.warehouseToId
      let warehouseFrom ← required invoice.warehouseFromId
      let products ← task.products.mapM movedProductJson
      json dateProvider invoice [("warehouse_to", some (.integer warehouseTo)),
        ("warehouse_from", some (.integer warehouseFrom))] products
  selected := invoiceInsertResults

/-- `ProductsRemove`. -/
def removeTask (dateProvider : DateProvider) (task : ProductsTask) : TransactionTask where
  Memory := ProductsTask
  prepare := prepared (task.removeChain dateProvider.getTimestamp)
  finish := fun result task =>
    finishDone result do
      let invoice ← task.readInvoiceId
      let warehouseFrom ← required invoice.warehouseFromId
      let products ← task.products.mapM movedProductJson
      json dateProvider invoice [("warehouse_from", some (.integer warehouseFrom))] products
  selected := invoiceInsertResults

end ProductsTask

namespace CreateWarehouse

/-- The warehouse with what the database has made. -/
def readInserted (task : CreateWarehouse) : Except Exception Warehouse := do
  let warehouseId ← getInt64 (← Rows.at task.insertionResults 0 0)
  let prettyName ← getString (← Rows.at task.insertionResults 0 1)
  return { task.warehouse with warehouseId, prettyName }

/-- The object of the answer. -/
def json (dateProvider : DateProvider) (warehouse : Warehouse) : Except Exception Json := do
  let name ← required warehouse.name
  let warehouseId ← required warehouse.warehouseId
  let createdDate ← required warehouse.createdDate
  let createdBy ← required warehouse.createdBy
  let prettyName ← required warehouse.prettyName
  return .object (putAll [
    ("name", some (.string name)),
    ("description", warehouse.description.map .string),
    ("location", warehouse.location.map .string),
    ("warehouse_id", some (.integer warehouseId)),
    ("created_date", some (dateProvider.json createdDate.toUInt64)),
    ("created_by", some (.integer createdBy)),
    ("pretty_name", some (.string prettyName))])

/-- `CreateWarehouse`, as a task. -/
def transactionTask (dateProvider : DateProvider) (task : CreateWarehouse) : TransactionTask where
  Memory := CreateWarehouse
  prepare := prepared (task.chain (dateProvider.getTimestamp 0))
  finish := fun result task =>
    finishDone result do
      json dateProvider (← task.readInserted)
  selected := insertionResults

end CreateWarehouse

end TaskMgr.Tasks

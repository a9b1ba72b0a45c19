import WarehouseAccounting.TaskManager.Tasks.Invoice
import WarehouseAccounting.TaskManager.Tasks.WarehouseItem

/-!
# Creating, moving and removing products

`ParseInternal` and the entry chains of `ProductsCreate`, `ProductsMove` and `ProductsRemove`.
Every one of them writes an invoice with its items and changes the stock of the warehouses of
the invoice.
-/

namespace TaskMgr.Tasks

open Ufa Srv.Db Srv.Db.Trsct

/-- The members of the three tasks, with the variables that their results go to. Only
`ProductsCreate` has new products. -/
structure ProductsTask where
  invoice : Invoice
  products : List Product
  productsNew : List Product := []
  invoiceInsertResults : Rows := []
  productInsertsResults : Rows := []
  deriving DecidableEq, Repr

/-! ## Requests -/

/-- An element of `products` in the body of a request, after its members were read. A field is
missing when the key is not there. Where `Get` reads it, a value of another type throws as a missing
one does; where `GetOptional` reads it, a value of another type throws, and there is no such
element. -/
structure ProductBody where
  type : Option String := none
  name : Option String := none
  description : Option String := none
  mainColor : Option Int64 := none
  mainColorName : Option String := none
  count : Option Int64 := none
  id : Option Int64 := none
  deriving DecidableEq, Repr

/-- The body of a request for one of the three tasks. -/
structure ProductsBody where
  invoiceName : Option String
  invoiceDescription : Option String := none
  warehouseTo : Option Int64 := none
  warehouseFrom : Option Int64 := none
  products : List ProductBody
  deriving DecidableEq, Repr

namespace ProductBody

/-- A product that is there already. -/
def parseExisting (product : ProductBody) : Except Exception Product := do
  let id ← required product.id
  let count ← required product.count
  return { id := some id, count := some count }

/-- A product that is created. -/
def parseNew (initiativeUserId : UInt64) (product : ProductBody) : Except Exception Product := do
  let name ← required product.name
  let count ← required product.count
  return {
    name := some name
    description := product.description
    mainColor := product.mainColor
    mainColorName := product.mainColorName
    count := some count
    createdBy := some initiativeUserId }

end ProductBody

namespace ProductsTask

/-- One round of the loop over the products of `ProductsCreate`. -/
def parseCreatedProduct (initiativeUserId : UInt64) (task : ProductsTask) (product : ProductBody) :
    Except Exception ProductsTask := do
  if product.type = none ∨ product.type = some "new" then
    return { task with productsNew := task.productsNew ++ [← product.parseNew initiativeUserId] }
  else if product.type = some "byid" then
    return { task with products := task.products ++ [← product.parseExisting] }
  else
    throw .other

/-- `ProductsCreate::ParseInternal`. -/
def parseCreate (initiativeUserId : UInt64) (body : ProductsBody) :
    Except Exception ProductsTask := do
  let name ← required body.invoiceName
  let warehouseTo ← required body.warehouseTo
  let invoice : Invoice :=
    { name := some name
      description := body.invoiceDescription
      warehouseToId := some warehouseTo
      createdBy := some initiativeUserId }
  body.products.foldlM (parseCreatedProduct initiativeUserId) { invoice, products := [] }

/-- `ProductsMove::ParseInternal`. -/
def parseMove (initiativeUserId : UInt64) (body : ProductsBody) :
    Except Exception ProductsTask := do
  let name ← required body.invoiceName
  let warehouseTo ← required body.warehouseTo
  let warehouseFrom ← required body.warehouseFrom
  let products ← body.products.mapM ProductBody.parseExisting
  let invoice : Invoice :=
    { name := some name
      description := body.invoiceDescription
      warehouseToId := some warehouseTo
      warehouseFromId := some warehouseFrom
      createdBy := some initiativeUserId }
  return { invoice, products }

/-- `ProductsRemove::ParseInternal`. -/
def parseRemove (initiativeUserId : UInt64) (body : ProductsBody) :
    Except Exception ProductsTask := do
  let name ← required body.invoiceName
  let warehouseFrom ← required body.warehouseFrom
  let products ← body.products.mapM ProductBody.parseExisting
  let invoice : Invoice :=
    { name := some name
      description := body.invoiceDescription
      warehouseFromId := some warehouseFrom
      createdBy := some initiativeUserId }
  return { invoice, products }

/-! ## Chains -/

/-- The result of the statement that inserts the invoice. -/
def storeInvoiceResults (rows : Rows) (task : ProductsTask) : ProductsTask :=
  { task with invoiceInsertResults := rows }

/-- The result of the statement that inserts the products. -/
def storeProductResults (rows : Rows) (task : ProductsTask) : ProductsTask :=
  { task with productInsertsResults := rows }

/-- The invoice, when the chain is built: it is created now. -/
def stampInvoice (timestamp : UInt64) (task : ProductsTask) : ProductsTask :=
  { task with invoice := { task.invoice with createdDate := some timestamp } }

/-- `Invoice::FullInsertEntry` on the members of the task. -/
def invoiceEntry (query : Query) : Entry ProductsTask :=
  Invoice.fullInsertEntry invoiceInsertResults storeInvoiceResults invoice
    (fun invoice task => { task with invoice }) products query

/-- `WarehouseItem::ChangeCount` on the members of the task. -/
def changeCountEntry (warehouseId : Int64) (isReducing : Bool) : Entry ProductsTask :=
  .variable (fun task =>
    (WarehouseItem.changeCount task.products warehouseId isReducing).asCode task) .null

/-- `WarehouseItem::InsertsEntry` on the new products of the task. -/
def warehouseItemEntry (warehouseId : Int64) : Entry ProductsTask :=
  .variable (fun task =>
    (WarehouseItem.insertsEntry task.productsNew warehouseId).asCode task) .null

/-- The product that `idsConverter` appends for a new product and its row. -/
def createdProduct (row : List (Option String)) (product : Product) :
    Except Exception Product := do
  let id ← required (← getInt64 (← fieldAt row 0))
  let prettyName ← required (← getString (← fieldAt row 1))
  return { product with id := some id, prettyName := some prettyName }

/-- `idsConverter`: the new products are moved to the products, and keep their ids and counts. -/
def idsConverter (task : ProductsTask) : Code ProductsTask Unit :=
  if task.productInsertsResults.length = task.productsNew.length then
    match (task.productInsertsResults.zip task.productsNew).mapM
        fun (row, product) => createdProduct row product with
    | .error exception => .fail task exception
    | .ok created =>
      .done
        { task with
          products := task.products ++ created
          productsNew := (task.productsNew.zip created).map fun (product, created) =>
            { product.movedFrom with id := created.id, count := created.count } }
        ()
  else
    .fail task .other

/-- The chain of `ProductsCreate::CreateInvoiceProducts`, and the task as it is when the chain is
executed. The times are those that the date provider gives one after the other. -/
def createChain (dateProvider : Nat → UInt64) (task : ProductsTask) :
    Except Exception (Entry ProductsTask × ProductsTask) := do
  let warehouseToId ← required task.invoice.warehouseToId
  let task := { task with productsNew := Product.stamped dateProvider task.productsNew }
  let productsEntry ← Product.insertsEntry storeProductResults task.productsNew
  let task := task.stampInvoice (dateProvider task.productsNew.length)
  let query ← task.invoice.insertQuery
  return ((changeCountEntry warehouseToId false).setNext (productsEntry.setNext
    ((Entry.variable idsConverter .null).setNext ((invoiceEntry query).setNext
      (warehouseItemEntry warehouseToId)))), task)

/-- The chain of `ProductsMove::MoveInvoiceProducts`. -/
def moveChain (dateProvider : Nat → UInt64) (task : ProductsTask) :
    Except Exception (Entry ProductsTask × ProductsTask) := do
  let task := task.stampInvoice (dateProvider 0)
  let query ← task.invoice.insertQuery
  let warehouseFromId ← required task.invoice.warehouseFromId
  let warehouseToId ← required task.invoice.warehouseToId
  return ((invoiceEntry query).setNext ((changeCountEntry warehouseFromId true).setNext
    (changeCountEntry warehouseToId false)), task)

/-- The chain of `ProductsRemove::RemoveInvoiceProducts`. -/
def removeChain (dateProvider : Nat → UInt64) (task : ProductsTask) :
    Except Exception (Entry ProductsTask × ProductsTask) := do
  let task := task.stampInvoice (dateProvider 0)
  let query ← task.invoice.insertQuery
  let warehouseFromId ← required task.invoice.warehouseFromId
  return ((invoiceEntry query).setNext (changeCountEntry warehouseFromId true), task)

end ProductsTask

end TaskMgr.Tasks

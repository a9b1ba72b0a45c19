import WarehouseAccounting.TaskManager.Tasks.Invoice
import WarehouseAccounting.TaskManager.Tasks.Warehouse

/-!
# Lists

The entry chains of the six list tasks. A list of products, operations, users or reports is one
statement; a list of warehouses or invoices is followed by a second statement for their items.
-/

namespace TaskMgr.Tasks

open Ufa Srv.Db Srv.Db.Trsct

/-- What a list task has parsed: `m_limit`, `m_offset` and `m_filter`. -/
structure ListRequest where
  limit : Option Int64 := none
  offset : Int64
  filter : Option Condition := none

namespace ListRequest

/-- The options that all lists have; limit and offset are cut to 32 bits. -/
def options (request : ListRequest) (table : Table) (columns : List Column) (orderBy : Column) :
    SelectOptions where
  table
  columns
  condition := request.filter
  orderBy := some orderBy
  limit := request.limit.map Int64.toInt32
  offset := some request.offset.toInt32

/-- A statement that stores its rows in a variable of the task, and what follows it. -/
def selectEntry {σ : Type} (options : SelectOptions) (store : Rows → σ → σ) (next : Entry σ) :
    Entry σ :=
  .query (.select options) (QueryFactory.conditionParams options.condition) store next

/-! ## Lists of one statement -/

/-- The chain of a list of one statement, whose only variable are the rows. -/
def chain (options : SelectOptions) : Entry Rows :=
  selectEntry options (fun rows _ => rows) .null

/-- What the list makes of the result of the transaction and the rows; the code of the
transaction is lost when there are no rows. -/
def finish {α : Type} (fromRow : List (Option String) → Except Exception α) (result : Result)
    (rows : Rows) : Except Exception (Result × List α) :=
  if rows.isEmpty then
    .ok (.notFound, [])
  else if result = .success then
    (rows.mapM fromRow).map fun entities => (result, entities)
  else
    .ok (result, [])

end ListRequest

mutual

/-- `ConditionHasWarehouseId`. -/
def conditionHasWarehouseId : Condition → Bool
  | .group _ conditions => anyHasWarehouseId conditions
  | .inList column _ => column = .warehouseId
  | .real column _ _ => column = .warehouseId
  | .not condition => conditionHasWarehouseId condition
  | .isNull column => column = .warehouseId

/-- `ConditionHasWarehouseId` of some member of a group. -/
def anyHasWarehouseId : List Condition → Bool
  | [] => false
  | condition :: conditions => conditionHasWarehouseId condition || anyHasWarehouseId conditions

end

namespace GetProductList

/-- `m_extendWarehouse`. -/
def extendWarehouse (request : ListRequest) : Bool :=
  (request.filter.map conditionHasWarehouseId).getD false

/-- The options of `ActualGetProductList`: a filter on warehouses brings their items in. -/
def options (request : ListRequest) : SelectOptions :=
  let options := request.options .product
    [.productId, .name, .prettyName, .description, .createdDate, .createdBy, .mainColor]
    .productId
  if extendWarehouse request then
    { options with
      joins := [{ leftColumn := .productId, joiningTable := .warehouseItem,
                  joiningColumn := .productId }]
      columns := options.columns ++ [.warehouseId, .count] }
  else
    options

/-- A product from a row of these columns. -/
def fromRow (extendWarehouse : Bool) (row : List (Option String)) : Except Exception Product := do
  let id ← getInt64 (← fieldAt row 0)
  let name ← getString (← fieldAt row 1)
  let prettyName ← getString (← fieldAt row 2)
  let description ← getString (← fieldAt row 3)
  let createdDate ← getUInt64 (← fieldAt row 4)
  let createdBy ← getUInt64 (← fieldAt row 5)
  let mainColor ← getInt64 (← fieldAt row 6)
  let product :=
    ({ id, name, prettyName, description, createdDate, createdBy, mainColor } : Product)
  if extendWarehouse then
    let warehouseId ← getInt64 (← fieldAt row 7)
    let count ← getInt64 (← fieldAt row 8)
    return { product with warehouseId, count }
  else
    return product

end GetProductList

/-- `Operation`. -/
structure Operation where
  operationId : Option Int64 := none
  invoiceId : Option Int64 := none
  invoicePrettyName : Option String := none
  productId : Option Int64 := none
  warehouseId : Option Int64 := none
  count : Option Int64 := none
  createdDate : Option UInt64 := none
  createdBy : Option UInt64 := none
  deriving DecidableEq, Repr

namespace GetOperationList

/-- The options of `ActualGetOperationList`. -/
def options (request : ListRequest) : SelectOptions :=
  request.options .operation
    [.operationId, .invoiceId, .invoicePrettyName, .productId, .warehouseId, .count,
      .createdDate, .createdBy] .operationId

/-- An operation from a row of these columns. -/
def fromRow (row : List (Option String)) : Except Exception Operation := do
  let operationId ← required (← getInt64 (← fieldAt row 0))
  let invoiceId ← required (← getInt64 (← fieldAt row 1))
  let invoicePrettyName ← required (← getString (← fieldAt row 2))
  let productId ← required (← getInt64 (← fieldAt row 3))
  let warehouseId ← getInt64 (← fieldAt row 4)
  let count ← required (← getInt64 (← fieldAt row 5))
  let createdDate ← required (← getUInt64 (← fieldAt row 6))
  let createdBy ← required (← getUInt64 (← fieldAt row 7))
  return {
    operationId := some operationId
    invoiceId := some invoiceId
    invoicePrettyName := some invoicePrettyName
    productId := some productId
    warehouseId
    count := some count
    createdDate := some createdDate
    createdBy := some createdBy }

end GetOperationList

/-- `User`, as far as a list of users fills it. -/
structure User where
  userId : Option Int64 := none
  login : Option String := none
  name : Option String := none
  createdDate : Option UInt64 := none
  createdBy : Option UInt64 := none
  deriving DecidableEq, Repr

namespace GetUserList

/-- The options of `ActualGetUserList`. -/
def options (request : ListRequest) : SelectOptions :=
  request.options .user [.userId, .login, .name, .createdDate, .createdBy] .userId

/-- A user from a row of these columns. -/
def fromRow (row : List (Option String)) : Except Exception User := do
  let userId ← getInt64 (← fieldAt row 0)
  let login ← getString (← fieldAt row 1)
  let name ← getString (← fieldAt row 2)
  let createdDate ← getUInt64 (← fieldAt row 3)
  let createdBy ← getUInt64 (← fieldAt row 4)
  return { userId, login, name, createdDate, createdBy }

end GetUserList

/-- `Report`. The type is the number of its enumerator. -/
structure Report where
  reportId : Option Int64 := none
  name : Option String := none
  description : Option String := none
  periodFrom : Option UInt64 := none
  periodTo : Option UInt64 := none
  warehouseId : Option Int64 := none
  createdBy : Option UInt64 := none
  createdDate : Option UInt64 := none
  filepath : Option String := none
  reportType : Option Int64 := none
  deriving DecidableEq, Repr

namespace GetReportList

/-- The options of `ActualGetReportList`. -/
def options (request : ListRequest) : SelectOptions :=
  request.options .report
    [.reportId, .name, .description, .reportType, .filepath, .createdDate, .createdBy,
      .warehouseId] .reportId

/-- A report from a row of these columns. -/
def fromRow (row : List (Option String)) : Except Exception Report := do
  let reportId ← getInt64 (← fieldAt row 0)
  let name ← getString (← fieldAt row 1)
  let description ← getString (← fieldAt row 2)
  let reportType ← required (← getInt64 (← fieldAt row 3))
  let filepath ← getString (← fieldAt row 4)
  let createdDate ← getUInt64 (← fieldAt row 5)
  let createdBy ← getUInt64 (← fieldAt row 6)
  let warehouseId ← required (← getInt64 (← fieldAt row 7))
  return { reportId, name, description, filepath, createdDate, createdBy
           reportType := some reportType
           warehouseId := some warehouseId }

end GetReportList

/-! ## Lists with items -/

/-- The variables of a list with items: the rows of the two statements, and the entities, which
are a member of the task. -/
structure ItemList (α : Type) where
  results : Rows := []
  itemResults : Rows := []
  entities : List α := []

namespace ItemList

variable {α : Type}

/-- The function between the two statements: the entities are appended to those that the member
holds already, and the items are asked for by the ids of all of them. -/
def collect (fromRow : List (Option String) → Except Exception α)
    (idOf : α → Option Int64) (itemsOptions : List Int64 → SelectOptions) (list : ItemList α) :
    Code (ItemList α) Unit :=
  match list.results.mapM fromRow with
  | .error exception => .fail list exception
  | .ok entities =>
    let list := { list with entities := list.entities ++ entities }
    match list.entities.mapM fun entity => required (idOf entity) with
    | .error exception => .fail list exception
    | .ok ids =>
      if ids.isEmpty then
        .done list ()
      else
        .issue list ⟨.select (itemsOptions ids),
            (QueryFactory.conditionParams (itemsOptions ids).condition).toPqxx⟩
          fun rows => .done { list with itemResults := rows } ()

/-- The chain of a list with items. -/
def chain (options : SelectOptions) (fromRow : List (Option String) → Except Exception α)
    (idOf : α → Option Int64) (itemsOptions : List Int64 → SelectOptions) :
    Entry (ItemList α) :=
  ListRequest.selectEntry options (fun rows list => { list with results := rows })
    (.variable (collect fromRow idOf itemsOptions) .null)

end ItemList

namespace GetWarehouseList

/-- The options of `ActualGetWarehouseList`. -/
def options (request : ListRequest) : SelectOptions :=
  request.options .warehouse
    [.warehouseId, .name, .prettyName, .description, .createdDate, .createdBy, .location]
    .warehouseId

/-- The options of the statement for the items of warehouses. -/
def itemsOptions (warehousesIds : List Int64) : SelectOptions where
  table := .warehouseItem
  columns := [.warehouseId, .productId, .count]
  orderBy := some .warehouseId
  condition := some (.inList .warehouseId (warehousesIds.map integer))

/-- The chain of `ActualGetWarehouseList`. -/
def chain (request : ListRequest) : Entry (ItemList Warehouse) :=
  ItemList.chain (options request) Warehouse.fromRow Warehouse.warehouseId itemsOptions

end GetWarehouseList

namespace GetInvoiceList

/-- The options of `ActualGetInvoiceList`. -/
def options (request : ListRequest) : SelectOptions :=
  request.options .invoice
    [.invoiceId, .warehouseToId, .warehouseFromId, .name, .prettyName, .description,
      .createdDate, .createdBy] .invoiceId

/-- The options of the statement for the items of invoices. -/
def itemsOptions (invoicesIds : List Int64) : SelectOptions where
  table := .invoiceItem
  columns := [.invoiceId, .productId, .count]
  orderBy := some .invoiceId
  condition := some (.inList .invoiceId (invoicesIds.map integer))

/-- The chain of `ActualGetInvoiceList`. -/
def chain (request : ListRequest) : Entry (ItemList Invoice) :=
  ItemList.chain (options request) Invoice.fromRow Invoice.invoiceId itemsOptions

end GetInvoiceList

end TaskMgr.Tasks

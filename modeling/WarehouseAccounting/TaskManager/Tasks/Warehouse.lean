import WarehouseAccounting.TaskManager.Tasks.Product

/-!
# Warehouses

`Warehouse` of `tasks/common/warehouse.h`, and the task `CreateWarehouse`.
-/

namespace TaskMgr.Tasks

open Ufa Srv.Db Srv.Db.Trsct

/-- `Warehouse`. -/
structure Warehouse where
  name : Option String := none
  prettyName : Option String := none
  description : Option String := none
  location : Option String := none
  warehouseId : Option Int64 := none
  createdDate : Option Int64 := none
  createdBy : Option Int64 := none
  deriving DecidableEq, Repr

namespace Warehouse

variable {σ : Type}

/-- The columns and the parameters of `InsertEntry`. -/
def insertColumns (warehouse : Warehouse) : Except Exception (List Column × ValueCollector) := do
  let name ← required warehouse.name
  let createdBy ← required warehouse.createdBy
  let createdDate ← required warehouse.createdDate
  let always := ([.name, .createdBy, .createdDate],
    ((ValueCollector.append [] (.text name)).append (integer createdBy)).append
      (integer createdDate))
  let described := appendToQueryOptional always (warehouse.description.map .text) .description
  return appendToQueryOptional described (warehouse.location.map .text) .location

/-- The statement of `InsertEntry`, of the warehouse with its time of creation. -/
def insertQuery (warehouse : Warehouse) : Except Exception Query := do
  let added ← warehouse.insertColumns
  match QueryFactory.createInsert
    { table := .warehouse, columns := added.1, returning := [.warehouseId, .prettyName] }
    [added.2] with
  | .ok query => return query
  | .error _ => throw .other

/-- The statement of `SelectEntry`. -/
def selectQuery (warehouseId : Int64) : Query :=
  QueryFactory.createSelect
    { table := .warehouse
      columns := [.name, .prettyName, .description, .createdDate, .createdBy, .location]
      condition := some (.real .warehouseId (integer warehouseId) .equal) }

/-- The converter of `SelectEntry`. The location is read from the description's field. -/
def fillFromRows (results : Rows) (warehouse : Warehouse) : Except Exception Warehouse := do
  if results.isEmpty then
    throw .notFound
  let name ← required (← getString (← Rows.at results 0 0))
  let prettyName ← required (← getString (← Rows.at results 0 1))
  let description ← getString (← Rows.at results 0 2)
  let createdDate ← required (← getUInt64 (← Rows.at results 0 3))
  let createdBy ← required (← getUInt64 (← Rows.at results 0 4))
  let location ← getString (← Rows.at results 0 2)
  return { warehouse with
    name := some name
    prettyName := some prettyName
    description
    createdDate := some createdDate.toInt64
    createdBy := some createdBy.toInt64
    location }

/-- A warehouse from a row of the list of warehouses. -/
def fromRow (row : List (Option String)) : Except Exception Warehouse := do
  let warehouseId ← required (← getInt64 (← fieldAt row 0))
  let name ← required (← getString (← fieldAt row 1))
  let prettyName ← required (← getString (← fieldAt row 2))
  let description ← getString (← fieldAt row 3)
  let createdDate ← required (← getUInt64 (← fieldAt row 4))
  let createdBy ← required (← getUInt64 (← fieldAt row 5))
  let location ← getString (← fieldAt row 6)
  return {
    warehouseId := some warehouseId
    name := some name
    prettyName := some prettyName
    description
    createdDate := some createdDate.toInt64
    createdBy := some createdBy.toInt64
    location }

/-- `SelectEntry`. -/
def selectEntry (warehouse : σ → Warehouse) (setWarehouse : Warehouse → σ → σ)
    (results : σ → Rows) (store : Rows → σ → σ) (warehouseId : Int64) : Entry σ :=
  .grouped
    [ .query (selectQuery warehouseId).options (selectQuery warehouseId).params store .null,
      .variable (fun s =>
        match fillFromRows (results s) (warehouse s) with
        | .ok warehouse => .done (setWarehouse warehouse s) ()
        | .error exception => .fail s exception) .null ]
    .null

end Warehouse

/-- The members of `CreateWarehouse`, with the variable its results go to. -/
structure CreateWarehouse where
  warehouse : Warehouse
  insertionResults : Rows := []

/-- The body of a request for `CreateWarehouse`. -/
structure WarehouseBody where
  name : Option String
  description : Option String := none
  location : Option String := none
  deriving DecidableEq, Repr

/-- `CreateWarehouse::ParseInternal`. -/
def CreateWarehouse.parse (initiativeUserId : UInt64) (body : WarehouseBody) :
    Except Exception CreateWarehouse := do
  let name ← required body.name
  return { warehouse := {
    name := some name
    description := body.description
    location := body.location
    createdBy := some initiativeUserId.toInt64 } }

/-- The chain of `ActualCreateWarehouse`, and the task as it is when the chain is executed. -/
def CreateWarehouse.chain (timestamp : UInt64) (task : CreateWarehouse) :
    Except Exception (Entry CreateWarehouse × CreateWarehouse) := do
  let task :=
    { task with warehouse := { task.warehouse with createdDate := some timestamp.toInt64 } }
  let query ← task.warehouse.insertQuery
  return (.query query.options query.params
    (fun rows task => { task with insertionResults := rows }) .null, task)

end TaskMgr.Tasks

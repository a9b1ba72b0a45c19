import WarehouseAccounting.TaskManager.Tasks.SingleItems

/-!
# Sizes

The seven tasks that answer a number of rows. Six of them count the rows of a table under the
filters of the request, with a text that is put together by hand; the last one counts the items
of a warehouse.
-/

namespace TaskMgr.Tasks

open Ufa Srv.Db Srv.Db.Trsct

/-- `field.get<int32_t>()`. -/
def getInt32 : Option String → Except Exception (Option Int32)
  | none => .ok none
  | some text =>
    match Decimal.parse text with
    | some value =>
      if Int32.minValue.toInt ≤ value ∧ value ≤ Int32.maxValue.toInt then
        .ok (some (Int32.ofInt value))
      else
        .error .other
    | none => .error .other

namespace SizeTask

/-- The text of the statement, with placeholders of its own. -/
def queryString (table : Table) (filter : Option Condition) : Except CheckFailed String :=
  match filter with
  | none => .ok ("SELECT COUNT(*) FROM " ++ table.quoted)
  | some condition =>
    (condition.toString {}).map fun (text, _) =>
      "SELECT COUNT(*) FROM " ++ table.quoted ++ " WHERE " ++ text

/-- The text of `GetProductSizeByWarehouse`. -/
def byWarehouseString (warehouseId : Int64) : String :=
  "SELECT COUNT(*) FROM public.\"Warehouse_Item\" WHERE warehouse_id=" ++
    toString warehouseId.toInt ++ ";"

/-- The chain of one raw statement, and its variable. -/
def chain (text : String) (params : ValueCollector) : Entry Rows :=
  .query (.raw ⟨text⟩) params (fun rows _ => rows) .null

/-- The number in the first field of the rows. -/
def count (results : Rows) : Except Exception Int32 := do
  required (← getInt32 (← Rows.at results 0 0))

/-- The object of the answer. -/
def json (count : Int32) : Json :=
  .object (putAll [("count", some (.integer count.toInt64))])

/-- The end of the task. -/
def finish (result : Result) (results : Rows) : Except Exception (Result × Json) :=
  finishDone result ((count results).map json)

/-- The task that counts the rows of a table under a filter. The text is made before the
transaction, and a filter that has none ends the task. -/
def task (table : Table) (filter : Option Condition) : TransactionTask where
  Memory := Rows
  prepare :=
    match queryString table filter with
    | .ok text => .ok (chain text (QueryFactory.conditionParams filter), [])
    | .error _ => .error .error
  finish
  selected := id

end SizeTask

/-- `GetProductSize`. -/
def GetProductSize.task (filter : Option Condition) : TransactionTask :=
  SizeTask.task .product filter

/-- `GetWarehouseSize`. -/
def GetWarehouseSize.task (filter : Option Condition) : TransactionTask :=
  SizeTask.task .warehouse filter

/-- `GetInvoiceSize`. -/
def GetInvoiceSize.task (filter : Option Condition) : TransactionTask :=
  SizeTask.task .invoice filter

/-- `GetUserSize`. -/
def GetUserSize.task (filter : Option Condition) : TransactionTask :=
  SizeTask.task .user filter

/-- `GetReportSize`. -/
def GetReportSize.task (filter : Option Condition) : TransactionTask :=
  SizeTask.task .report filter

/-- `GetOperationSize`. -/
def GetOperationSize.task (filter : Option Condition) : TransactionTask :=
  SizeTask.task .operation filter

/-- `GetProductSizeByWarehouse`. -/
def GetProductSizeByWarehouse.task (warehouseId : Int64) : TransactionTask where
  Memory := Rows
  prepare := .ok (SizeTask.chain (SizeTask.byWarehouseString warehouseId) [], [])
  finish := SizeTask.finish
  selected := id

end TaskMgr.Tasks

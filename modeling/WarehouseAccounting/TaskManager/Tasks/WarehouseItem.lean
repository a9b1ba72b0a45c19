import WarehouseAccounting.TaskManager.Tasks.Product

/-!
# Stock

The entries of `tasks/common/warehouse_item.h` that write `Warehouse_Item`: `InsertsEntry`, and
`ChangeCount`, which reads the stored count of every product, decides what becomes of its row,
and then deletes or creates rows in one statement and changes the others one by one.
-/

namespace TaskMgr.Tasks.WarehouseItem

open Ufa Srv.Db Srv.Db.Trsct

/-- One row of `InsertsEntry`. -/
def insertsRow (warehouseId : Int64) (product : Product) : Except Exception ValueCollector := do
  let count ← required product.count
  let id ← required product.id
  return ((ValueCollector.append [] (integer warehouseId)).append (integer count)).append
    (integer id)

/-- The function of `InsertsEntry`. -/
def insertsEntry (products : List Product) (warehouseId : Int64) : Script Unit := do
  let values ← Script.ofExcept (products.mapM (insertsRow warehouseId))
  let _ ← Script.executeCreated (QueryFactory.createInsert
    { table := .warehouseItem
      columns := [.warehouseId, .count, .productId]
      returning := [.productId] }
    values)
  return ()

/-! ## ChangeCount -/

/-- The row of one product in one warehouse. -/
def itemCondition (productId warehouseId : Int64) : Condition :=
  .group .and [.real .productId (integer productId) .equal,
    .real .warehouseId (integer warehouseId) .equal]

/-- The statement that reads the stored count. -/
def selectCount (productId warehouseId : Int64) : Query :=
  QueryFactory.createSelect
    { table := .warehouseItem
      columns := [.count]
      condition := some (itemCondition productId warehouseId) }

/-- What `ChangeCount` does to the row of a product. -/
inductive Change where
  /-- The row is deleted when the stock is reduced, and created otherwise. -/
  | critical (productId count : Int64)
  /-- The count of the row becomes the target. -/
  | modify (productId target : Int64)
  deriving DecidableEq, Repr

/-- `predicate`: whether the row of the product is deleted or created. -/
def predicate (isReducing : Bool) (count : Int64) (result : Rows) : Except Exception Bool := do
  if isReducing then
    let stored ← asInt64 (← Rows.at result 0 0)
    return stored ≤ count
  else
    return result.isEmpty

/-- `calcTarget`: the count that the row is changed to. -/
def calcTarget (isReducing : Bool) (count : Int64) (result : Rows) : Except Exception Int64 := do
  let stored ← asInt64 (← Rows.at result 0 0)
  return if isReducing then stored - count else stored + count

/-- One round of the loop over the products. -/
def changeOf (warehouseId : Int64) (isReducing : Bool) (product : Product) : Script Change := do
  let productId ← Script.ofExcept (required product.id)
  let count ← Script.ofExcept (required product.count)
  let selectResult ← Script.execute (selectCount productId warehouseId)
  if isReducing && selectResult.isEmpty then
    -- No such Warehouse_Item.
    Script.throw .integrityConstraintViolation
  else if ← Script.ofExcept (predicate isReducing count selectResult) then
    return .critical productId count
  else
    return .modify productId (← Script.ofExcept (calcTarget isReducing count selectResult))

/-- The loop over the products. -/
def changesOf (warehouseId : Int64) (isReducing : Bool) : List Product → Script (List Change)
  | [] => return []
  | product :: products => do
    let change ← changeOf warehouseId isReducing product
    return change :: (← changesOf warehouseId isReducing products)

/-- The products whose rows are deleted or created, with the counts of new rows. -/
def criticalChanges (changes : List Change) : List (Int64 × Int64) :=
  changes.filterMap fun
    | .critical productId count => some (productId, count)
    | .modify _ _ => none

/-- The products whose rows are changed, with the targets. -/
def modifyingChanges (changes : List Change) : List (Int64 × Int64) :=
  changes.filterMap fun
    | .critical _ _ => none
    | .modify productId target => some (productId, target)

/-- The statement that deletes rows. -/
def deleteItems (warehouseId : Int64) (productIds : List Int64) : Except CheckFailed Query :=
  QueryFactory.createDelete
    { table := .warehouseItem
      condition := some (.group .and [.inList .productId (productIds.map integer),
        .real .warehouseId (integer warehouseId) .equal]) }

/-- The statement that creates rows. -/
def insertItems (warehouseId : Int64) (items : List (Int64 × Int64)) : Except CheckFailed Query :=
  QueryFactory.createInsert
    { table := .warehouseItem, columns := [.warehouseId, .productId, .count] }
    (items.map fun (productId, count) =>
      ((ValueCollector.append [] (integer warehouseId)).append (integer productId)).append
        (integer count))

/-- The statement that changes one row. -/
def updateItem (warehouseId productId target : Int64) : Except CheckFailed Query :=
  QueryFactory.createUpdate
    { table := .warehouseItem
      columns := [.count]
      condition := some (itemCondition productId warehouseId) }
    (ValueCollector.append [] (integer target))

/-- The deletion or creation of rows, if there are any. -/
def handleCritical (warehouseId : Int64) (isReducing : Bool) (items : List (Int64 × Int64)) :
    Script Unit := do
  if items.isEmpty then
    return ()
  else if isReducing then
    let _ ← Script.executeCreated (deleteItems warehouseId (items.map Prod.fst))
    return ()
  else
    let _ ← Script.executeCreated (insertItems warehouseId items)
    return ()

/-- The loop over the rows that are changed. -/
def handleModifying (warehouseId : Int64) : List (Int64 × Int64) → Script Unit
  | [] => return ()
  | (productId, target) :: rest => do
    let _ ← Script.executeCreated (updateItem warehouseId productId target)
    handleModifying warehouseId rest

/-- The function of `ChangeCount`. -/
def changeCount (products : List Product) (warehouseId : Int64) (isReducing : Bool) :
    Script Unit := do
  let changes ← changesOf warehouseId isReducing products
  handleCritical warehouseId isReducing (criticalChanges changes)
  handleModifying warehouseId (modifyingChanges changes)

/-! ## The statements of ChangeCount -/

/-- The statements that `ChangeCount` can send. -/
inductive ItemStatement : Statement → Prop
  | read (productId warehouseId : Int64) :
      ItemStatement ⟨(selectCount productId warehouseId).options,
        (selectCount productId warehouseId).params.toPqxx⟩
  | remove {warehouseId : Int64} {productIds : List Int64} {query : Query}
      (nonempty : productIds ≠ []) (created : deleteItems warehouseId productIds = .ok query) :
      ItemStatement ⟨query.options, query.params.toPqxx⟩
  | create {warehouseId : Int64} {items : List (Int64 × Int64)} {query : Query}
      (created : insertItems warehouseId items = .ok query) :
      ItemStatement ⟨query.options, query.params.toPqxx⟩
  | change {warehouseId productId target : Int64} {query : Query}
      (created : updateItem warehouseId productId target = .ok query) :
      ItemStatement ⟨query.options, query.params.toPqxx⟩

/-- The decision on one product reads its row. -/
theorem allQuestions_changeOf (warehouseId : Int64) (isReducing : Bool) (product : Product) :
    (changeOf warehouseId isReducing product).AllQuestions ItemStatement := by
  unfold changeOf
  refine (Script.allQuestions_ofExcept _).bind fun productId => ?_
  refine (Script.allQuestions_ofExcept _).bind fun count => ?_
  have hselect : (Script.execute (selectCount productId warehouseId)).AllQuestions
      ItemStatement := Script.allQuestions_execute (.read productId warehouseId)
  refine hselect.bind fun selectResult => ?_
  split
  · trivial
  · refine (Script.allQuestions_ofExcept _).bind fun critical => ?_
    split
    · trivial
    · exact (Script.allQuestions_ofExcept _).bind fun target => trivial

/-- So do the decisions on all products. -/
theorem allQuestions_changesOf (warehouseId : Int64) (isReducing : Bool)
    (products : List Product) :
    (changesOf warehouseId isReducing products).AllQuestions ItemStatement := by
  induction products with
  | nil => trivial
  | cons product products ih =>
    unfold changesOf
    exact (allQuestions_changeOf ..).bind fun change => ih.bind fun changes => trivial

/-- Rows are deleted or created. -/
theorem allQuestions_handleCritical (warehouseId : Int64) (isReducing : Bool)
    (items : List (Int64 × Int64)) :
    (handleCritical warehouseId isReducing items).AllQuestions ItemStatement := by
  unfold handleCritical
  split
  · trivial
  · rename_i hempty
    split
    · have hnonempty : items.map Prod.fst ≠ [] := by simpa using hempty
      refine (Script.allQuestions_executeCreated ?_).bind fun _ => trivial
      exact fun created hcreated => .remove hnonempty hcreated
    · refine (Script.allQuestions_executeCreated ?_).bind fun _ => trivial
      exact fun created hcreated => .create hcreated

/-- Rows are changed. -/
theorem allQuestions_handleModifying (warehouseId : Int64) (items : List (Int64 × Int64)) :
    (handleModifying warehouseId items).AllQuestions ItemStatement := by
  induction items with
  | nil => trivial
  | cons item items ih =>
    unfold handleModifying
    refine (Script.allQuestions_executeCreated ?_).bind fun _ => ih
    exact fun created hcreated => .change hcreated

/-- `ChangeCount` sends no other statements. -/
theorem allQuestions_changeCount (products : List Product) (warehouseId : Int64)
    (isReducing : Bool) :
    (changeCount products warehouseId isReducing).AllQuestions ItemStatement := by
  unfold changeCount
  refine (allQuestions_changesOf ..).bind fun changes => ?_
  exact (allQuestions_handleCritical ..).bind fun _ => allQuestions_handleModifying ..

end TaskMgr.Tasks.WarehouseItem

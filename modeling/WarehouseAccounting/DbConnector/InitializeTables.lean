import WarehouseAccounting.DbConnector.ProductDefinitions
import WarehouseAccounting.Foundations.Relational

/-!
# The tables

The script `initialize_tables.h`: the declarations of the tables, the triggers, and the rows
that are there at the beginning.

- `initialTables_integral`: the first row meets the constraints.
-/

namespace Srv.Db.DbMgr.Scpts

open Relational

/-- A row of a table of this database. -/
abbrev TableRow := Row Column

/-- The tables with their rows. -/
abbrev Tables := Db Table Column

/-! ## Declarations -/

/-- A foreign key to the column of the same name. -/
def referenceTo (table : Table) (column : Column) : Column × Table × Column :=
  (column, table, column)

/-- The author of a row is a user. -/
def createdByReference : Column × Table × Column :=
  (.createdBy, .user, .userId)

/-- The declaration of a table by `CREATE TABLE` and the `ALTER TABLE`s that follow. -/
def tableSchema : Table → TableSchema Table Column
  | .invalid => { columns := [], notNull := [], primaryKey := [] }
  | .color =>
    { columns := [(.colorValue, .int4), (.name, .text)]
      notNull := [.colorValue]
      primaryKey := [.colorValue] }
  | .invoice =>
    { columns := [(.invoiceId, .int8), (.name, .text), (.prettyName, .text),
        (.description, .text), (.createdDate, .int8), (.createdBy, .int8), (.companyName, .text),
        (.warehouseToId, .int8), (.warehouseFromId, .int8)]
      notNull := [.invoiceId, .name, .prettyName, .createdDate, .createdBy]
      identity := some .invoiceId
      primaryKey := [.invoiceId]
      references := [createdByReference, (.warehouseFromId, .warehouse, .warehouseId),
        (.warehouseToId, .warehouse, .warehouseId)] }
  | .invoiceItem =>
    { columns := [(.invoiceId, .int8), (.productId, .int8), (.count, .int4)]
      notNull := [.invoiceId, .productId, .count]
      primaryKey := [.invoiceId, .productId]
      references := [referenceTo .product .productId, referenceTo .invoice .invoiceId] }
  | .operation =>
    { columns := [(.operationId, .int8), (.invoiceId, .int8), (.invoicePrettyName, .text),
        (.productId, .int8), (.warehouseId, .int8), (.count, .int4), (.createdDate, .int8),
        (.createdBy, .int8)]
      notNull := [.operationId, .invoiceId, .invoicePrettyName, .productId, .count, .createdDate,
        .createdBy]
      identity := some .operationId
      primaryKey := [.operationId]
      references := [referenceTo .invoice .invoiceId, referenceTo .product .productId,
        createdByReference] }
  | .product =>
    { columns := [(.productId, .int8), (.name, .text), (.prettyName, .text),
        (.description, .text), (.createdDate, .int8), (.createdBy, .int8), (.mainColor, .int4)]
      notNull := [.productId, .name, .prettyName, .createdDate, .createdBy]
      identity := some .productId
      primaryKey := [.productId]
      references := [createdByReference] }
  | .report =>
    { columns := [(.reportId, .int8), (.name, .text), (.description, .text), (.reportType, .int4),
        (.filepath, .text), (.createdDate, .int8), (.warehouseId, .int8), (.createdBy, .int8)]
      notNull := [.reportId, .name, .reportType, .filepath, .createdDate, .warehouseId]
      identity := some .reportId
      primaryKey := [.reportId]
      references := [referenceTo .warehouse .warehouseId, createdByReference] }
  | .user =>
    { columns := [(.userId, .int8), (.login, .text), (.passwordHashed, .text), (.name, .text),
        (.createdDate, .int8), (.createdBy, .int8)]
      notNull := [.userId, .login, .passwordHashed, .createdDate]
      identity := some .userId
      primaryKey := [.userId]
      uniques := [[.login]]
      references := [createdByReference] }
  | .warehouse =>
    { columns := [(.warehouseId, .int8), (.name, .text), (.prettyName, .text),
        (.description, .text), (.location, .text), (.createdDate, .int8), (.createdBy, .int8)]
      notNull := [.warehouseId, .name, .prettyName, .createdDate, .createdBy]
      identity := some .warehouseId
      primaryKey := [.warehouseId]
      references := [createdByReference] }
  | .warehouseItem =>
    { columns := [(.warehouseId, .int8), (.productId, .int8), (.count, .int4)]
      notNull := [.warehouseId, .productId, .count]
      primaryKey := [.warehouseId, .productId]
      references := [referenceTo .product .productId, referenceTo .warehouse .warehouseId] }

/-- The declarations of all tables. -/
def schema : Schema Table Column where
  tables := [.color, .invoice, .invoiceItem, .operation, .product, .report, .user, .warehouse,
    .warehouseItem]
  table := tableSchema

/-! ## Triggers -/

/-- `id || '_' || name`, which is null when one of them is. -/
def prettyName (id name : Option Value) : Option Value :=
  match id, name with
  | some id, some name => some (.text (id.toText ++ "_" ++ name.toText))
  | _, _ => none

/-- The triggers before a row is inserted or updated: `fill_pretty_name_warehouse`,
`fill_pretty_name_product` and `fill_pretty_name_invoice`. -/
def fillPrettyName (table : Table) (row : TableRow) : TableRow :=
  let fill (id : Column) : TableRow := fun column =>
    if column = .prettyName then prettyName (row id) (row .name) else row column
  match table with
  | .warehouse => fill .warehouseId
  | .product => fill .productId
  | .invoice => fill .invoiceId
  | _ => row

/-- The row that an operation trigger makes of an inserted item and its invoice. The id is
generated when the row is inserted. -/
def operationRow (item invoice : TableRow) (warehouseId : Option Value) : TableRow
  | .invoiceId => item .invoiceId
  | .invoicePrettyName => invoice .prettyName
  | .productId => item .productId
  | .warehouseId => warehouseId
  | .count => item .count
  | .createdDate => invoice .createdDate
  | .createdBy => invoice .createdBy
  | _ => none

/-- A number with the other sign. -/
def negate : Value → Value
  | .integer value => .integer (-value)
  | .text value => .text value

/-- The invoices of an item. -/
def invoicesOf (tables : Tables) (item : TableRow) : List TableRow :=
  (tables .invoice).filter fun invoice =>
    Predicate.compareNullable .equal (invoice .invoiceId) (item .invoiceId) = some true

/-- `add_operation_from_function`. -/
def addOperationFrom (tables : Tables) (item : TableRow) : List TableRow :=
  ((invoicesOf tables item).filter fun invoice => (invoice .warehouseFromId).isSome).map
    fun invoice => operationRow item invoice ((invoice .warehouseFromId).map negate)

/-- `add_operation_to_function`. -/
def addOperationTo (tables : Tables) (item : TableRow) : List TableRow :=
  ((invoicesOf tables item).filter fun invoice => (invoice .warehouseToId).isSome).map
    fun invoice => operationRow item invoice (invoice .warehouseToId)

/-- The triggers after an item was inserted, in the order of their names. -/
def addOperations (tables : Tables) (item : TableRow) : List TableRow :=
  addOperationFrom tables item ++ addOperationTo tables item

/-! ## The beginning -/

/-- The first user. -/
def superuser : TableRow
  | .userId => some (.integer 1)
  | .login => some (.text "superuser")
  | .passwordHashed =>
    some (.text "C191615151114051D19181D1D1E151F11171918131C1B18181F1F1A141819181")
  | .name => some (.text "Super User")
  | .createdDate => some (.integer 0)
  | _ => none

/-- The tables after the script: there is one user, and nothing else. -/
def initialTables : Tables
  | .user => [superuser]
  | _ => []

/-- The first row meets the constraints. -/
theorem initialTables_integral : Integral schema initialTables where
  conforms := by
    intro table row hrow
    cases table <;> simp only [initialTables, List.not_mem_nil, List.mem_singleton] at hrow
    subst hrow
    decide
  keys_nodup := by
    intro table
    cases table <;> simp [initialTables]

end Srv.Db.DbMgr.Scpts

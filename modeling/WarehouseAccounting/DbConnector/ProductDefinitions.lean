import WarehouseAccounting.Instrumental

/-!
# Tables and columns

The enumerations of `db_connector/product_definitions`, with the serialization that
`DEFINE_ENUM_WITH_SERIALIZATION` gives them: the text of an enumerator is its own name, and a
text that names no enumerator is refused.
-/

namespace Srv.Db

open Ufa

/-- `srv::db::Table`. -/
inductive Table where
  | invalid
  | color
  | invoiceItem
  | invoice
  | operation
  | product
  | report
  | user
  | warehouse
  | warehouseItem
  deriving DecidableEq, Repr

/-- `srv::db::Column`. -/
inductive Column where
  | invalid
  | reportId
  | name
  | reportType
  | filepath
  | createdDate
  | createdBy
  | warehouseId
  | prettyName
  | description
  | location
  | userId
  | login
  | passwordHashed
  | count
  | mainColor
  | colorValue
  | invoiceId
  | warehouseToId
  | warehouseFromId
  | companyName
  | operationId
  | productId
  | invoicePrettyName
  deriving DecidableEq, Repr

/-- `string_converters::ToString(Table)`. -/
def Table.toString : Table → String
  | .invalid => "Invalid"
  | .color => "Color"
  | .invoiceItem => "Invoice_Item"
  | .invoice => "Invoice"
  | .operation => "Operation"
  | .product => "Product"
  | .report => "Report"
  | .user => "User"
  | .warehouse => "Warehouse"
  | .warehouseItem => "Warehouse_Item"

/-- `string_converters::ToString(Column)`. -/
def Column.toString : Column → String
  | .invalid => "Invalid"
  | .reportId => "report_id"
  | .name => "name"
  | .reportType => "report_type"
  | .filepath => "filepath"
  | .createdDate => "created_date"
  | .createdBy => "created_by"
  | .warehouseId => "warehouse_id"
  | .prettyName => "pretty_name"
  | .description => "description"
  | .location => "location"
  | .userId => "user_id"
  | .login => "login"
  | .passwordHashed => "password_hashed"
  | .count => "count"
  | .mainColor => "main_color"
  | .colorValue => "color_value"
  | .invoiceId => "invoice_id"
  | .warehouseToId => "warehouse_to_id"
  | .warehouseFromId => "warehouse_from_id"
  | .companyName => "company_name"
  | .operationId => "operation_id"
  | .productId => "product_id"
  | .invoicePrettyName => "invoice_pretty_name"

/-- Every column, in the order of the enumeration. -/
def Column.all : List Column :=
  [.invalid, .reportId, .name, .reportType, .filepath, .createdDate, .createdBy, .warehouseId,
    .prettyName, .description, .location, .userId, .login, .passwordHashed, .count, .mainColor,
    .colorValue, .invoiceId, .warehouseToId, .warehouseFromId, .companyName, .operationId,
    .productId, .invoicePrettyName]

/-- `string_converters::FromString<Column>`: the enumerator of that name, an exception
otherwise. -/
def Column.fromString (string : String) : Except CheckFailed Column :=
  match Column.all.find? (fun column => column.toString == string) with
  | some column => .ok column
  | none => .error ⟨string⟩

/-- Every column is read back from its own text. -/
theorem Column.fromString_toString (column : Column) :
    Column.fromString column.toString = .ok column := by
  cases column <;> decide

end Srv.Db

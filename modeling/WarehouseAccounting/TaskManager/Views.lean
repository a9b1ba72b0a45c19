import WarehouseAccounting.TaskManager.Responses

/-!
# Rows and the objects that show them

What the list tasks and the single-item tasks make of a row that they read: for every key of the
object the column that is shown under it.

- `getInt64_field`, `getUInt64_field`: what is read of a stored number.
- `GetProductList.json_eq_view` and the theorems after it: a task makes an object of a row exactly
  when its view can be shown, and the object is the one that the view names.
-/

namespace TaskMgr.Tasks

open Ufa Srv.Db Srv.Db.Trsct Srv.Db.Sql Srv.Db.DbMgr.Scpts Relational

/-! ## Fields of rows -/

/-- The values that a column can have in any table: texts, or integers of eight bytes. -/
def columnValues : Column → ColumnType
  | .name | .filepath | .prettyName | .description | .location | .login | .passwordHashed
  | .companyName | .invoicePrettyName => .text
  | _ => .int8

/-- Tables differ in the sizes of the integers only. -/
theorem columnValues_of_typeOf {table : Table} {column : Column} {type : ColumnType}
    (htype : schema.typeOf table column = some type) :
    type = columnValues column ∨ type = .int4 ∧ columnValues column = .int8 := by
  cases table <;> cases column <;> cases htype <;>
    first | exact .inl rfl | exact .inr ⟨rfl, rfl⟩

/-- A column has such values in every table. -/
theorem admits_of_typeOf {table : Table} {column : Column} {type : ColumnType} {value : Value}
    (htype : schema.typeOf table column = some type) (hvalue : type.admits value = true) :
    (columnValues column).admits value = true := by
  rcases columnValues_of_typeOf htype with rfl | ⟨rfl, hcolumn⟩
  · exact hvalue
  · -- Eight bytes hold what four bytes hold.
    rw [hcolumn]
    cases value with
    | text value => cases hvalue
    | integer value =>
      simp only [ColumnType.admits, Bool.and_eq_true, decide_eq_true_eq] at hvalue ⊢
      omega

/-- The fields of some columns have values of these columns. -/
def TypedOn (columns : List Column) (row : TableRow) : Prop :=
  ∀ column ∈ columns, ∀ value, row column = some value →
    (columnValues column).admits value = true

/-- The fields of a row of a table are values of the types of their columns. -/
theorem admits_of_conforms {table : Table} {row : TableRow}
    (h : schema.conforms table row = true) {column : Column} {type : ColumnType}
    (htype : schema.typeOf table column = some type) {value : Value}
    (hvalue : row column = some value) : type.admits value = true := by
  rw [Schema.conforms, Bool.and_eq_true, List.all_eq_true] at h
  obtain ⟨before, after, hall, -⟩ := List.lookup_eq_some_iff.mp htype
  have hadmits := h.1 (column, type) (by rw [hall]; simp)
  dsimp only at hadmits
  rw [hvalue] at hadmits
  exact hadmits

/-- The rows of a table have values of its columns. -/
theorem typedOn_of_conforms {table : Table} {row : TableRow} {columns : List Column}
    (h : schema.conforms table row = true) (hcolumns : areColumns table columns = true) :
    TypedOn columns row := by
  intro column hcolumn value hvalue
  obtain ⟨type, htype⟩ := Option.isSome_iff_exists.mp (List.all_eq_true.mp hcolumns column hcolumn)
  exact admits_of_typeOf htype (admits_of_conforms h htype hvalue)

/-- The number that a value is. -/
def numberOf : Value → Int
  | .integer value => value
  | .text _ => 0

/-- A number is itself. -/
@[simp]
theorem numberOf_integer (value : Int) : numberOf (.integer value) = value := rfl

/-- A number is read as it is stored. -/
theorem getInt64_field {columns : List Column} {row : TableRow} (h : TypedOn columns row)
    (column : Column) (hcolumn : column ∈ columns) (htype : columnValues column = .int8) :
    getInt64 ((row column).map Value.toText) =
      .ok ((row column).map fun value => Int64.ofInt (numberOf value)) := by
  rcases hfield : row column with _ | value
  · rfl
  · have hadmits := h column hcolumn value hfield
    rw [htype] at hadmits
    cases value with
    | text value => cases hadmits
    | integer value =>
      simp only [ColumnType.admits, Bool.and_eq_true, decide_eq_true_eq] at hadmits
      have hrange : Int64.minValue.toInt ≤ value ∧ value ≤ Int64.maxValue.toInt := hadmits
      simp only [Option.map_some, getInt64, Value.toText, Decimal.parse_toString, if_pos hrange,
        numberOf]

/-- A time or a user id is read when it is not negative. -/
theorem getUInt64_field {columns : List Column} {row : TableRow} (h : TypedOn columns row)
    (column : Column) (hcolumn : column ∈ columns) (htype : columnValues column = .int8) :
    getUInt64 ((row column).map Value.toText) =
      if (row column).all fun value => 0 ≤ numberOf value then
        .ok ((row column).map fun value => UInt64.ofNat (numberOf value).toNat)
      else .error .other := by
  rcases hfield : row column with _ | value
  · rfl
  · have hadmits := h column hcolumn value hfield
    rw [htype] at hadmits
    cases value with
    | text value => cases hadmits
    | integer value =>
      simp only [ColumnType.admits, Bool.and_eq_true, decide_eq_true_eq] at hadmits
      have hrange : (0 ≤ value ∧ value < 2 ^ 64) ↔ 0 ≤ value := by omega
      simp only [Option.map_some, getUInt64, Value.toText, Decimal.parse_toString, hrange,
        Option.all_some, numberOf]
      by_cases hnegative : 0 ≤ value <;> simp [hnegative]

/-! ## Views -/

/-- How a value is shown. -/
inductive Encoding where
  /-- The text or the number itself. -/
  | plain
  /-- A time, by the date provider. -/
  | time
  /-- A user id. -/
  | user
  /-- A user id that went through a signed number. -/
  | signedUser
  /-- The name of a report type. -/
  | reportType
  deriving DecidableEq, Repr

/-- The value can be read and shown. -/
def Encoding.readable : Encoding → Value → Bool
  | .plain, _ => true
  | .time, value | .user, value | .signedUser, value => 0 ≤ numberOf value
  | .reportType, value => (reportTypeToString (Int64.ofInt (numberOf value))).isOk

/-- A value that is shown as it is can always be shown. -/
@[simp]
theorem Encoding.all_readable_plain (field : Option Value) :
    field.all Encoding.plain.readable = true := by
  cases field <;> rfl

/-- The value as it is shown. -/
def Encoding.json (dateProvider : DateProvider) : Encoding → Value → Json
  | .plain, .integer value => .integer (Int64.ofInt value)
  | .plain, .text value => .string value
  | .time, value => dateProvider.json (UInt64.ofNat (numberOf value).toNat)
  | .user, value => .unsigned (UInt64.ofNat (numberOf value).toNat)
  | .signedUser, value => .integer (UInt64.ofNat (numberOf value).toNat).toInt64
  | .reportType, value =>
    .string ((reportTypeToString (Int64.ofInt (numberOf value))).toOption.getD "")

/-- Which user ids can be read. -/
theorem Encoding.readable_user :
    Encoding.user.readable = fun value => decide (0 ≤ numberOf value) := rfl

/-- A user id as it is shown. -/
theorem Encoding.json_user (dateProvider : DateProvider) :
    Encoding.user.json dateProvider =
      Json.unsigned ∘ fun value => UInt64.ofNat (numberOf value).toNat := rfl

/-- A key of an object, and what is shown under it. -/
structure ViewField where
  key : String
  column : Column
  encoding : Encoding := .plain
  /-- Without a value the object cannot be made. -/
  required : Bool := true
  deriving DecidableEq, Repr

/-- What is shown of a row. -/
abbrev View := List ViewField

namespace ViewField

/-- The field of the row can be shown. -/
def readable (row : TableRow) (field : ViewField) : Bool :=
  (!field.required || (row field.column).isSome) &&
    (row field.column).all field.encoding.readable

/-- What is put under the key. -/
def put (dateProvider : DateProvider) (row : TableRow) (field : ViewField) :
    String × Option Json :=
  (field.key, (row field.column).map (field.encoding.json dateProvider))

end ViewField

/-- The row can be shown. -/
def View.readable (view : View) (row : TableRow) : Bool :=
  view.all (ViewField.readable row)

/-- What is put into the object of a row. -/
def View.puts (view : View) (dateProvider : DateProvider) (row : TableRow) :
    List (String × Option Json) :=
  view.map (ViewField.put dateProvider row)

/-- Times as their numbers. -/
def numericDates : DateProvider where
  getTimestamp _ := 0
  toIsoTimeString timestamp := toString timestamp.toNat
  fromIsoTimeString text := (text.toNat?).map UInt64.ofNat

/-- A number that is read when it is not negative. -/
theorem ite_eq_ok {condition : Prop} [Decidable condition] {α : Type} {value other : α} :
    (if condition then Except.ok value else Except.error Exception.other) = .ok other ↔
      condition ∧ value = other := by
  split <;> simp [*]

/-- A field that must be there. -/
theorem required_map_eq_ok {α : Type} {field : Option Value} {read : Value → α} {other : α} :
    required (field.map read) = .ok other ↔ ∃ value, field = some value ∧ read value = other := by
  rw [required_eq_ok, Option.map_eq_some_iff]

/-- A value that is there. -/
theorem required_some {α : Type} (value : α) : required (some value) = .ok value := rfl

/-- A report type that has a name. -/
theorem reportTypeToString_eq_ok {reportType : Int64} {text : String} :
    reportTypeToString reportType = .ok text ↔
      (reportTypeToString reportType).isOk = true ∧
        (reportTypeToString reportType).toOption.getD "" = text := by
  cases reportTypeToString reportType <;> simp [Except.isOk, Except.toBool, Except.toOption]

/-- A text that is shown. -/
theorem map_plain_text {columns : List Column} {row : TableRow} (h : TypedOn columns row)
    (column : Column) (hcolumn : column ∈ columns) (htype : columnValues column = .text)
    (dateProvider : DateProvider) :
    (row column).map (Encoding.plain.json dateProvider) =
      ((row column).map Value.toText).map .string := by
  rcases hfield : row column with _ | value
  · rfl
  · have hadmits := h column hcolumn value hfield
    rw [htype] at hadmits
    cases value with
    | text value => rfl
    | integer value => cases hadmits

/-- A number that is shown. -/
theorem map_plain_integer {columns : List Column} {row : TableRow} (h : TypedOn columns row)
    (column : Column) (hcolumn : column ∈ columns) (htype : columnValues column = .int8)
    (dateProvider : DateProvider) :
    (row column).map (Encoding.plain.json dateProvider) =
      ((row column).map fun value => Int64.ofInt (numberOf value)).map .integer := by
  rcases hfield : row column with _ | value
  · rfl
  · have hadmits := h column hcolumn value hfield
    rw [htype] at hadmits
    cases value with
    | text value => cases hadmits
    | integer value => rfl

/-! ## Lists -/

namespace GetProductList

/-- What a list of products shows. -/
def view : View :=
  [ { key := "product_id", column := .productId },
    { key := "name", column := .name },
    { key := "pretty_name", column := .prettyName },
    { key := "description", column := .description, required := false },
    { key := "created_date", column := .createdDate, encoding := .time },
    { key := "created_by", column := .createdBy, encoding := .user },
    { key := "main_color", column := .mainColor, required := false } ]

/-- What it shows when the items of warehouses are brought in. -/
def extendedView : View :=
  view ++ [ { key := "warehouse_id", column := .warehouseId, required := false },
    { key := "count", column := .count, required := false } ]

/-- The object that a list makes of a product. -/
theorem json_eq_view {row : TableRow} (h : TypedOn [.productId, .name, .prettyName, .description,
    .createdDate, .createdBy, .mainColor] row) (dateProvider : DateProvider) (json : Json) :
    (do GetProductList.json dateProvider (← fromRow false (project [.productId, .name,
      .prettyName, .description, .createdDate, .createdBy, .mainColor] row))) = .ok json ↔
      view.readable row = true ∧ json = .object (putAll (view.puts dateProvider row)) := by
  have hid := getInt64_field h .productId (by simp) rfl
  have hdate := getUInt64_field h .createdDate (by simp) rfl
  have huser := getUInt64_field h .createdBy (by simp) rfl
  have hcolor := getInt64_field h .mainColor (by simp) rfl
  have hidPut := map_plain_integer h .productId (by simp) rfl dateProvider
  have hnamePut := map_plain_text h .name (by simp) rfl dateProvider
  have hprettyPut := map_plain_text h .prettyName (by simp) rfl dateProvider
  have hdescriptionPut := map_plain_text h .description (by simp) rfl dateProvider
  have hcolorPut := map_plain_integer h .mainColor (by simp) rfl dateProvider
  have hshort : ∀ first second third fourth fifth sixth seventh : String × Option Json,
      putAll [first, second, third, fourth, fifth, sixth, seventh, ("warehouse_id", none),
        ("count", none)] = putAll [first, second, third, fourth, fifth, sixth, seventh] :=
    fun _ _ _ _ _ _ _ => rfl
  simp only [View.puts, View.readable, view, List.map_cons, List.map_nil, List.all_cons,
    List.all_nil, ViewField.put, ViewField.readable, hidPut, hnamePut, hprettyPut,
    hdescriptionPut, hcolorPut]
  simp [fromRow, GetProductList.json, project, fieldAt, getString, bind_eq_ok, ite_eq_ok,
    required_map_eq_ok, hid, hdate, huser, hcolor, -Functor.map_map, -bind_pure_comp, pure,
    Except.pure]
  rcases row .productId with _ | id
  · simp
  rcases row .name with _ | name
  · simp
  rcases row .prettyName with _ | pretty
  · simp
  rcases row .createdDate with _ | date
  · simp
  rcases row .createdBy with _ | user
  · simp
  simp [Encoding.readable, Encoding.json, and_assoc, @eq_comm _ json, hshort]

/-- The object that a list makes of a product with an item of a warehouse. -/
theorem json_eq_extendedView {row : TableRow} (h : TypedOn [.productId, .name, .prettyName,
    .description, .createdDate, .createdBy, .mainColor, .warehouseId, .count] row)
    (dateProvider : DateProvider) (json : Json) :
    (do GetProductList.json dateProvider (← fromRow true (project [.productId, .name,
      .prettyName, .description, .createdDate, .createdBy, .mainColor, .warehouseId, .count]
      row))) = .ok json ↔
      extendedView.readable row = true ∧ json = .object (putAll (extendedView.puts
        dateProvider row)) := by
  have hid := getInt64_field h .productId (by simp) rfl
  have hdate := getUInt64_field h .createdDate (by simp) rfl
  have huser := getUInt64_field h .createdBy (by simp) rfl
  have hcolor := getInt64_field h .mainColor (by simp) rfl
  have hwarehouse := getInt64_field h .warehouseId (by simp) rfl
  have hcount := getInt64_field h .count (by simp) rfl
  have hidPut := map_plain_integer h .productId (by simp) rfl dateProvider
  have hnamePut := map_plain_text h .name (by simp) rfl dateProvider
  have hprettyPut := map_plain_text h .prettyName (by simp) rfl dateProvider
  have hdescriptionPut := map_plain_text h .description (by simp) rfl dateProvider
  have hcolorPut := map_plain_integer h .mainColor (by simp) rfl dateProvider
  have hwarehousePut := map_plain_integer h .warehouseId (by simp) rfl dateProvider
  have hcountPut := map_plain_integer h .count (by simp) rfl dateProvider
  simp only [View.puts, View.readable, extendedView, view,
    List.cons_append, List.nil_append, List.map_cons, List.map_nil, List.all_cons,
    List.all_nil, ViewField.put, ViewField.readable, hidPut, hnamePut, hprettyPut,
    hdescriptionPut, hcolorPut, hwarehousePut, hcountPut]
  simp [fromRow, GetProductList.json, project, fieldAt, getString, bind_eq_ok, ite_eq_ok,
    required_map_eq_ok, hid, hdate, huser, hcolor, hwarehouse, hcount, -Functor.map_map,
    -bind_pure_comp, pure, Except.pure]
  rcases row .productId with _ | id
  · simp
  rcases row .name with _ | name
  · simp
  rcases row .prettyName with _ | pretty
  · simp
  rcases row .createdDate with _ | date
  · simp
  rcases row .createdBy with _ | user
  · simp
  simp [Encoding.readable, Encoding.json, and_assoc, @eq_comm _ json]

end GetProductList

namespace GetUserList

/-- What a list of users shows: the name is shown under the login, too. -/
def view : View :=
  [ { key := "user_id", column := .userId },
    { key := "name", column := .name },
    { key := "login", column := .name },
    { key := "created_date", column := .createdDate, encoding := .time },
    { key := "created_by", column := .createdBy, encoding := .user, required := false } ]

/-- The object that a list makes of a user. -/
theorem json_eq_view {row : TableRow} (h : TypedOn [.userId, .login, .name, .createdDate,
    .createdBy] row) (dateProvider : DateProvider) (json : Json) :
    (do GetUserList.json dateProvider (← fromRow (project [.userId, .login, .name, .createdDate,
      .createdBy] row))) = .ok json ↔
      view.readable row = true ∧ json = .object (putAll (view.puts dateProvider row)) := by
  have hid := getInt64_field h .userId (by simp) rfl
  have hdate := getUInt64_field h .createdDate (by simp) rfl
  have huser := getUInt64_field h .createdBy (by simp) rfl
  have hidPut := map_plain_integer h .userId (by simp) rfl dateProvider
  have hnamePut := map_plain_text h .name (by simp) rfl dateProvider
  simp only [View.puts, View.readable, view, List.map_cons, List.map_nil, List.all_cons,
    List.all_nil, ViewField.put, ViewField.readable, hidPut, hnamePut]
  simp [fromRow, GetUserList.json, project, fieldAt, getString, bind_eq_ok, ite_eq_ok,
    required_map_eq_ok, hid, hdate, huser, -Functor.map_map, -bind_pure_comp, pure, Except.pure]
  rcases row .userId with _ | id
  · simp
  rcases row .name with _ | name
  · simp
  rcases row .createdDate with _ | date
  · simp
  simp [Encoding.readable, Encoding.json, and_assoc, @eq_comm _ json, Encoding.readable_user,
    Encoding.json_user]

end GetUserList

namespace GetReportList

/-- What a list of reports shows, and the report alone. -/
def view : View :=
  [ { key := "report_id", column := .reportId },
    { key := "name", column := .name },
    { key := "description", column := .description, required := false },
    { key := "report_type", column := .reportType, encoding := .reportType },
    { key := "filepath", column := .filepath },
    { key := "created_date", column := .createdDate, encoding := .time },
    { key := "created_by", column := .createdBy, encoding := .user, required := false },
    { key := "warehouse_id", column := .warehouseId } ]

/-- The object that a list makes of a report. -/
theorem json_eq_view {row : TableRow} (h : TypedOn [.reportId, .name, .description, .reportType,
    .filepath, .createdDate, .createdBy, .warehouseId] row) (dateProvider : DateProvider)
    (json : Json) :
    (do (← fromRow (project [.reportId, .name, .description, .reportType, .filepath,
      .createdDate, .createdBy, .warehouseId] row)).json dateProvider) = .ok json ↔
      view.readable row = true ∧ json = .object (putAll (view.puts dateProvider row)) := by
  have hid := getInt64_field h .reportId (by simp) rfl
  have htype := getInt64_field h .reportType (by simp) rfl
  have hdate := getUInt64_field h .createdDate (by simp) rfl
  have huser := getUInt64_field h .createdBy (by simp) rfl
  have hwarehouse := getInt64_field h .warehouseId (by simp) rfl
  have hidPut := map_plain_integer h .reportId (by simp) rfl dateProvider
  have hnamePut := map_plain_text h .name (by simp) rfl dateProvider
  have hdescriptionPut := map_plain_text h .description (by simp) rfl dateProvider
  have hfilepathPut := map_plain_text h .filepath (by simp) rfl dateProvider
  have hwarehousePut := map_plain_integer h .warehouseId (by simp) rfl dateProvider
  simp only [View.puts, View.readable, view, List.map_cons, List.map_nil, List.all_cons,
    List.all_nil, ViewField.put, ViewField.readable, hidPut, hnamePut, hdescriptionPut,
    hfilepathPut, hwarehousePut]
  simp [fromRow, Report.json, reportTypeToString_eq_ok, project, fieldAt, getString, bind_eq_ok,
    ite_eq_ok, required_map_eq_ok, hid, htype, hdate, huser, hwarehouse, -Functor.map_map,
    -bind_pure_comp, pure, Except.pure]
  rcases row .reportId with _ | id
  · simp
  rcases row .name with _ | name
  · simp
  rcases row .reportType with _ | type
  · simp
  rcases row .filepath with _ | filepath
  · simp
  rcases row .createdDate with _ | date
  · simp
  rcases row .warehouseId with _ | warehouse
  · simp
  simp [Encoding.readable, Encoding.json, and_assoc, @eq_comm _ json, required_some,
    Encoding.readable_user, Encoding.json_user]
  exact ⟨fun ⟨hdate, huser, htype, hjson⟩ => ⟨htype, hdate, huser, hjson⟩,
    fun ⟨htype, hdate, huser, hjson⟩ => ⟨hdate, huser, htype, hjson⟩⟩

end GetReportList

namespace GetOperationList

/-- What a list of operations shows. -/
def view : View :=
  [ { key := "operation_id", column := .operationId },
    { key := "invoice_id", column := .invoiceId },
    { key := "invoice_pretty_name", column := .invoicePrettyName },
    { key := "product_id", column := .productId },
    { key := "warehouse_id", column := .warehouseId, required := false },
    { key := "count", column := .count },
    { key := "created_date", column := .createdDate, encoding := .time },
    { key := "created_by", column := .createdBy, encoding := .user } ]

/-- The object that a list makes of an operation. -/
theorem json_eq_view {row : TableRow} (h : TypedOn [.operationId, .invoiceId, .invoicePrettyName,
    .productId, .warehouseId, .count, .createdDate, .createdBy] row) (dateProvider : DateProvider)
    (json : Json) :
    (do GetOperationList.json dateProvider (← fromRow (project [.operationId, .invoiceId,
      .invoicePrettyName, .productId, .warehouseId, .count, .createdDate, .createdBy] row))) =
      .ok json ↔
      view.readable row = true ∧ json = .object (putAll (view.puts dateProvider row)) := by
  have hid := getInt64_field h .operationId (by simp) rfl
  have hinvoice := getInt64_field h .invoiceId (by simp) rfl
  have hproduct := getInt64_field h .productId (by simp) rfl
  have hwarehouse := getInt64_field h .warehouseId (by simp) rfl
  have hcount := getInt64_field h .count (by simp) rfl
  have hdate := getUInt64_field h .createdDate (by simp) rfl
  have huser := getUInt64_field h .createdBy (by simp) rfl
  have hidPut := map_plain_integer h .operationId (by simp) rfl dateProvider
  have hinvoicePut := map_plain_integer h .invoiceId (by simp) rfl dateProvider
  have hinvoicePrettyPut := map_plain_text h .invoicePrettyName (by simp) rfl dateProvider
  have hproductPut := map_plain_integer h .productId (by simp) rfl dateProvider
  have hwarehousePut := map_plain_integer h .warehouseId (by simp) rfl dateProvider
  have hcountPut := map_plain_integer h .count (by simp) rfl dateProvider
  simp only [View.puts, View.readable, view, List.map_cons, List.map_nil, List.all_cons,
    List.all_nil, ViewField.put, ViewField.readable, hidPut, hinvoicePut, hinvoicePrettyPut,
    hproductPut, hwarehousePut, hcountPut]
  simp [fromRow, GetOperationList.json, project, fieldAt, getString, bind_eq_ok, ite_eq_ok,
    required_map_eq_ok, hid, hinvoice, hproduct, hwarehouse, hcount, hdate, huser,
    -Functor.map_map, -bind_pure_comp, pure, Except.pure]
  rcases row .operationId with _ | id
  · simp
  rcases row .invoiceId with _ | invoice
  · simp
  rcases row .invoicePrettyName with _ | invoicePretty
  · simp
  rcases row .productId with _ | product
  · simp
  rcases row .count with _ | count
  · simp
  rcases row .createdDate with _ | date
  · simp
  rcases row .createdBy with _ | user
  · simp
  simp [Encoding.readable, Encoding.json, and_assoc, @eq_comm _ json, required_some]

end GetOperationList

namespace GetWarehouseList

/-- What a list of warehouses shows of the warehouse itself. -/
def view : View :=
  [ { key := "warehouse_id", column := .warehouseId },
    { key := "name", column := .name },
    { key := "pretty_name", column := .prettyName },
    { key := "description", column := .description, required := false },
    { key := "created_date", column := .createdDate, encoding := .time },
    { key := "created_by", column := .createdBy, encoding := .signedUser },
    { key := "location", column := .location, required := false } ]

/-- The object that a list makes of a warehouse. -/
theorem json_eq_view {row : TableRow} (h : TypedOn [.warehouseId, .name, .prettyName,
    .description, .createdDate, .createdBy, .location] row) (items : List Json)
    (dateProvider : DateProvider) (json : Json) :
    (do (← Warehouse.fromRow (project [.warehouseId, .name, .prettyName, .description,
      .createdDate, .createdBy, .location] row)).json dateProvider items) = .ok json ↔
      view.readable row = true ∧ json = .object (putAll (view.puts dateProvider row ++
        [("items", some (.array items))])) := by
  have hwarehouse := getInt64_field h .warehouseId (by simp) rfl
  have hdate := getUInt64_field h .createdDate (by simp) rfl
  have huser := getUInt64_field h .createdBy (by simp) rfl
  have hwarehousePut := map_plain_integer h .warehouseId (by simp) rfl dateProvider
  have hnamePut := map_plain_text h .name (by simp) rfl dateProvider
  have hprettyPut := map_plain_text h .prettyName (by simp) rfl dateProvider
  have hdescriptionPut := map_plain_text h .description (by simp) rfl dateProvider
  have hlocationPut := map_plain_text h .location (by simp) rfl dateProvider
  simp only [View.puts, View.readable, view, List.map_cons, List.map_nil, List.all_cons,
    List.all_nil, ViewField.put, ViewField.readable, hwarehousePut, hnamePut, hprettyPut,
    hdescriptionPut, hlocationPut]
  simp [Warehouse.fromRow, Warehouse.json, project, fieldAt, getString, bind_eq_ok, ite_eq_ok,
    required_map_eq_ok, hwarehouse, hdate, huser, -Functor.map_map, -bind_pure_comp, pure,
    Except.pure]
  rcases row .warehouseId with _ | warehouse
  · simp
  rcases row .name with _ | name
  · simp
  rcases row .prettyName with _ | pretty
  · simp
  rcases row .createdDate with _ | date
  · simp
  rcases row .createdBy with _ | user
  · simp
  simp [Encoding.readable, Encoding.json, and_assoc, @eq_comm _ json, required_some]

end GetWarehouseList

namespace GetInvoiceList

/-- What a list of invoices shows of the invoice itself, and the invoice alone. -/
def view : View :=
  [ { key := "invoice_id", column := .invoiceId },
    { key := "warehouse_to", column := .warehouseToId, required := false },
    { key := "warehouse_from", column := .warehouseFromId, required := false },
    { key := "name", column := .name },
    { key := "pretty_name", column := .prettyName },
    { key := "description", column := .description, required := false },
    { key := "created_date", column := .createdDate, encoding := .time },
    { key := "created_by", column := .createdBy, encoding := .user } ]

/-- The object that a list makes of an invoice. -/
theorem json_eq_view {row : TableRow} (h : TypedOn [.invoiceId, .warehouseToId, .warehouseFromId,
    .name, .prettyName, .description, .createdDate, .createdBy] row) (items : List Json)
    (dateProvider : DateProvider) (json : Json) :
    (do (← Invoice.fromRow (project [.invoiceId, .warehouseToId, .warehouseFromId, .name,
      .prettyName, .description, .createdDate, .createdBy] row)).json dateProvider items) =
      .ok json ↔
      view.readable row = true ∧ json = .object (putAll (view.puts dateProvider row ++
        [("items", some (.array items))])) := by
  have hinvoice := getInt64_field h .invoiceId (by simp) rfl
  have hto := getInt64_field h .warehouseToId (by simp) rfl
  have hfrom := getInt64_field h .warehouseFromId (by simp) rfl
  have hdate := getUInt64_field h .createdDate (by simp) rfl
  have huser := getUInt64_field h .createdBy (by simp) rfl
  have hinvoicePut := map_plain_integer h .invoiceId (by simp) rfl dateProvider
  have htoPut := map_plain_integer h .warehouseToId (by simp) rfl dateProvider
  have hfromPut := map_plain_integer h .warehouseFromId (by simp) rfl dateProvider
  have hnamePut := map_plain_text h .name (by simp) rfl dateProvider
  have hprettyPut := map_plain_text h .prettyName (by simp) rfl dateProvider
  have hdescriptionPut := map_plain_text h .description (by simp) rfl dateProvider
  simp only [View.puts, View.readable, view, List.map_cons, List.map_nil, List.all_cons,
    List.all_nil, ViewField.put, ViewField.readable, hinvoicePut, htoPut, hfromPut, hnamePut,
    hprettyPut, hdescriptionPut]
  simp [Invoice.fromRow, Invoice.json, project, fieldAt, getString, bind_eq_ok, ite_eq_ok,
    required_map_eq_ok, hinvoice, hto, hfrom, hdate, huser, -Functor.map_map, -bind_pure_comp,
    pure, Except.pure]
  rcases row .invoiceId with _ | invoice
  · simp
  rcases row .name with _ | name
  · simp
  rcases row .prettyName with _ | pretty
  · simp
  rcases row .createdDate with _ | date
  · simp
  rcases row .createdBy with _ | user
  · simp
  simp [Encoding.readable, Encoding.json, and_assoc, @eq_comm _ json, required_some]

end GetInvoiceList

/-! ## Single items -/

namespace GetProduct

/-- A single product is shown like a product of a list. -/
theorem json_eq_view {row : TableRow} (h : TypedOn [.name, .prettyName, .description,
    .createdDate, .createdBy, .mainColor] row) {id : Int64}
    (hrow : row .productId = some (.integer id.toInt)) (dateProvider : DateProvider)
    (json : Json) :
    (do GetProduct.json dateProvider (← fill id [project [.name, .prettyName, .description,
      .createdDate, .createdBy, .mainColor] row])) = .ok json ↔
      GetProductList.view.readable row = true ∧
        json = .object (putAll (GetProductList.view.puts dateProvider row)) := by
  have hdate := getUInt64_field h .createdDate (by simp) rfl
  have huser := getUInt64_field h .createdBy (by simp) rfl
  have hcolor := getInt64_field h .mainColor (by simp) rfl
  have hnamePut := map_plain_text h .name (by simp) rfl dateProvider
  have hprettyPut := map_plain_text h .prettyName (by simp) rfl dateProvider
  have hdescriptionPut := map_plain_text h .description (by simp) rfl dateProvider
  have hcolorPut := map_plain_integer h .mainColor (by simp) rfl dateProvider
  simp only [View.puts, View.readable, GetProductList.view, List.map_cons, List.map_nil,
    List.all_cons, List.all_nil, ViewField.put, ViewField.readable, hnamePut, hprettyPut,
    hdescriptionPut, hcolorPut, hrow]
  simp [fill, GetProduct.json, Rows.at, project, fieldAt, getString, bind_eq_ok, ite_eq_ok,
    required_map_eq_ok, hdate, huser, hcolor, -Functor.map_map, -bind_pure_comp, pure,
    Except.pure]
  rcases row .name with _ | name
  · simp
  rcases row .prettyName with _ | pretty
  · simp
  rcases row .createdDate with _ | date
  · simp
  rcases row .createdBy with _ | user
  · simp
  simp [Encoding.readable, Encoding.json, and_assoc, @eq_comm _ json, required_some]

end GetProduct

namespace GetUser

/-- What a single user shows. -/
def view : View :=
  [ { key := "user_id", column := .userId },
    { key := "name", column := .name },
    { key := "login", column := .login },
    { key := "created_date", column := .createdDate, encoding := .time },
    { key := "created_by", column := .createdBy, encoding := .user, required := false } ]

/-- The object that is made of a single user. -/
theorem json_eq_view {row : TableRow} (h : TypedOn [.login, .name, .createdDate, .createdBy] row)
    {id : Int64} (hrow : row .userId = some (.integer id.toInt)) (dateProvider : DateProvider)
    (json : Json) :
    (do GetUser.json dateProvider (← fill id [project [.login, .name, .createdDate, .createdBy]
      row])) = .ok json ↔
      view.readable row = true ∧ json = .object (putAll (view.puts dateProvider row)) := by
  have hdate := getUInt64_field h .createdDate (by simp) rfl
  have huser := getUInt64_field h .createdBy (by simp) rfl
  have hnamePut := map_plain_text h .name (by simp) rfl dateProvider
  have hloginPut := map_plain_text h .login (by simp) rfl dateProvider
  simp only [View.puts, View.readable, view, List.map_cons, List.map_nil, List.all_cons,
    List.all_nil, ViewField.put, ViewField.readable, hnamePut, hloginPut, hrow]
  simp [fill, GetUser.json, Rows.at, project, fieldAt, getString, bind_eq_ok, ite_eq_ok,
    required_map_eq_ok, hdate, huser, -Functor.map_map, -bind_pure_comp, pure, Except.pure]
  rcases row .name with _ | name
  · simp
  rcases row .login with _ | login
  · simp
  rcases row .createdDate with _ | date
  · simp
  simp [Encoding.readable, Encoding.json, and_assoc, @eq_comm _ json, required_some,
    Encoding.readable_user, Encoding.json_user]

end GetUser

namespace GetReport

/-- A single report is shown like a report of a list. -/
theorem json_eq_view {row : TableRow} (h : TypedOn [.name, .description, .reportType, .filepath,
    .createdDate, .createdBy, .warehouseId] row) {id : Int64}
    (hrow : row .reportId = some (.integer id.toInt)) (dateProvider : DateProvider)
    (json : Json) :
    (do (← fill id [project [.name, .description, .reportType, .filepath, .createdDate,
      .createdBy, .warehouseId] row]).json dateProvider) = .ok json ↔
      GetReportList.view.readable row = true ∧
        json = .object (putAll (GetReportList.view.puts dateProvider row)) := by
  have htype := getInt64_field h .reportType (by simp) rfl
  have hdate := getUInt64_field h .createdDate (by simp) rfl
  have huser := getUInt64_field h .createdBy (by simp) rfl
  have hwarehouse := getInt64_field h .warehouseId (by simp) rfl
  have hnamePut := map_plain_text h .name (by simp) rfl dateProvider
  have hdescriptionPut := map_plain_text h .description (by simp) rfl dateProvider
  have hfilepathPut := map_plain_text h .filepath (by simp) rfl dateProvider
  have hwarehousePut := map_plain_integer h .warehouseId (by simp) rfl dateProvider
  simp only [View.puts, View.readable, GetReportList.view, List.map_cons, List.map_nil,
    List.all_cons, List.all_nil, ViewField.put, ViewField.readable, hnamePut, hdescriptionPut,
    hfilepathPut, hwarehousePut, hrow]
  simp [fill, Report.json, reportTypeToString_eq_ok, Rows.at, project, fieldAt, getString,
    bind_eq_ok, ite_eq_ok, required_map_eq_ok, htype, hdate, huser, hwarehouse, -Functor.map_map,
    -bind_pure_comp, pure, Except.pure]
  rcases row .name with _ | name
  · simp
  rcases row .reportType with _ | type
  · simp
  rcases row .filepath with _ | filepath
  · simp
  rcases row .createdDate with _ | date
  · simp
  rcases row .warehouseId with _ | warehouse
  · simp
  simp [Encoding.readable, Encoding.json, and_assoc, @eq_comm _ json, required_some,
    Encoding.readable_user, Encoding.json_user]
  exact ⟨fun ⟨hdate, huser, htype, hjson⟩ => ⟨htype, hdate, huser, hjson⟩,
    fun ⟨htype, hdate, huser, hjson⟩ => ⟨hdate, huser, htype, hjson⟩⟩

end GetReport

namespace GetInvoice

/-- A single invoice is shown like an invoice of a list. -/
theorem json_eq_view {row : TableRow} (h : TypedOn [.invoiceId, .warehouseToId, .warehouseFromId,
    .name, .prettyName, .description, .createdDate, .createdBy] row) (items : List Json)
    (dateProvider : DateProvider) (json : Json) :
    (do (← fill [project [.invoiceId, .warehouseToId, .warehouseFromId, .name, .prettyName,
      .description, .createdDate, .createdBy] row]).json dateProvider items) = .ok json ↔
      GetInvoiceList.view.readable row = true ∧
        json = .object (putAll (GetInvoiceList.view.puts dateProvider row ++
          [("items", some (.array items))])) := by
  have hinvoice := getInt64_field h .invoiceId (by simp) rfl
  have hto := getInt64_field h .warehouseToId (by simp) rfl
  have hfrom := getInt64_field h .warehouseFromId (by simp) rfl
  have hdate := getUInt64_field h .createdDate (by simp) rfl
  have huser := getUInt64_field h .createdBy (by simp) rfl
  have hinvoicePut := map_plain_integer h .invoiceId (by simp) rfl dateProvider
  have htoPut := map_plain_integer h .warehouseToId (by simp) rfl dateProvider
  have hfromPut := map_plain_integer h .warehouseFromId (by simp) rfl dateProvider
  have hnamePut := map_plain_text h .name (by simp) rfl dateProvider
  have hprettyPut := map_plain_text h .prettyName (by simp) rfl dateProvider
  have hdescriptionPut := map_plain_text h .description (by simp) rfl dateProvider
  simp only [View.puts, View.readable, GetInvoiceList.view, List.map_cons, List.map_nil,
    List.all_cons, List.all_nil, ViewField.put, ViewField.readable, hinvoicePut, htoPut, hfromPut,
    hnamePut, hprettyPut, hdescriptionPut]
  simp [fill, Invoice.json, Rows.at, project, fieldAt, getString, bind_eq_ok, ite_eq_ok,
    required_map_eq_ok, hinvoice, hto, hfrom, hdate, huser, -Functor.map_map, -bind_pure_comp,
    pure, Except.pure]
  rcases row .invoiceId with _ | invoice
  · simp
  rcases row .name with _ | name
  · simp
  rcases row .prettyName with _ | pretty
  · simp
  rcases row .createdDate with _ | date
  · simp
  rcases row .createdBy with _ | user
  · simp
  simp [Encoding.readable, Encoding.json, and_assoc, @eq_comm _ json]

end GetInvoice

namespace GetWarehouse

/-- What a single warehouse shows of itself: the description is shown as its location, too. -/
def view : View :=
  [ { key := "warehouse_id", column := .warehouseId },
    { key := "name", column := .name },
    { key := "pretty_name", column := .prettyName },
    { key := "description", column := .description, required := false },
    { key := "created_date", column := .createdDate, encoding := .time },
    { key := "created_by", column := .createdBy, encoding := .signedUser },
    { key := "location", column := .description, required := false } ]

/-- The object that is made of a single warehouse. -/
theorem json_eq_view {row : TableRow} (h : TypedOn [.name, .prettyName, .description,
    .createdDate, .createdBy, .location] row) (items : List Json) {id : Int64}
    (hrow : row .warehouseId = some (.integer id.toInt)) (dateProvider : DateProvider)
    (json : Json) :
    (do (← Warehouse.fillFromRows [project [.name, .prettyName, .description, .createdDate,
      .createdBy, .location] row] { warehouseId := some id }).json dateProvider items) =
      .ok json ↔
      view.readable row = true ∧ json = .object (putAll (view.puts dateProvider row ++
        [("items", some (.array items))])) := by
  have hdate := getUInt64_field h .createdDate (by simp) rfl
  have huser := getUInt64_field h .createdBy (by simp) rfl
  have hnamePut := map_plain_text h .name (by simp) rfl dateProvider
  have hprettyPut := map_plain_text h .prettyName (by simp) rfl dateProvider
  have hdescriptionPut := map_plain_text h .description (by simp) rfl dateProvider
  simp only [View.puts, View.readable, view, List.map_cons, List.map_nil, List.all_cons,
    List.all_nil, ViewField.put, ViewField.readable, hnamePut, hprettyPut, hdescriptionPut, hrow]
  simp [Warehouse.fillFromRows, Warehouse.json, Rows.at, project, fieldAt, getString, bind_eq_ok,
    ite_eq_ok, required_map_eq_ok, hdate, huser, -Functor.map_map, -bind_pure_comp, pure,
    Except.pure]
  rcases row .name with _ | name
  · simp
  rcases row .prettyName with _ | pretty
  · simp
  rcases row .createdDate with _ | date
  · simp
  rcases row .createdBy with _ | user
  · simp
  simp [Encoding.readable, Encoding.json, and_assoc, @eq_comm _ json, required_some]

end GetWarehouse

end TaskMgr.Tasks

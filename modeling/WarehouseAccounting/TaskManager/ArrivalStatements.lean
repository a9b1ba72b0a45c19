import WarehouseAccounting.TaskManager.CreationStatements

/-!
# The statements of an arrival

When the statements that insert the invoice of an arrival, its items and the stock of new products
are answered while nothing disturbs the transaction, and which rows they leave.

- `Invoice.quiet_insertArrival`: an arrival is inserted unless its name is the text of null.
- `Invoice.completes_insertItems`: its items are inserted with one operation each.
- `WarehouseItem.completes_insertNew`: so is the stock of products that are not stored yet.
-/

namespace TaskMgr.Tasks

open Ufa Srv.Db Srv.Db.Trsct Srv.Db.Sql Srv.Db.DbMgr.Scpts Relational

namespace Invoice

/-! ## The invoice -/

/-- What a request with its author and its time makes of the invoice of an arrival. -/
structure Arrival (userId : UInt64) (warehouseId : Int64) (invoice : Invoice) : Prop where
  name : invoice.name.isSome = true
  createdBy : invoice.createdBy = some userId
  createdDate : ∃ date : UInt64, invoice.createdDate = some date ∧ date.toNat < 2 ^ 63
  warehouseTo : invoice.warehouseToId = some warehouseId
  warehouseFrom : invoice.warehouseFromId = none

/-- The row of a new invoice. -/
def row (invoiceId : Int) (invoice : Invoice) : TableRow
  | .invoiceId => some (.integer invoiceId)
  | .name => invoice.name.bind storedText
  | .prettyName =>
    DbMgr.Scpts.prettyName (some (.integer invoiceId)) (invoice.name.bind storedText)
  | .description => invoice.description.bind storedText
  | .createdDate => invoice.createdDate.map fun date => .integer date.toNat
  | .createdBy => invoice.createdBy.map fun id => .integer id.toNat
  | .warehouseToId => invoice.warehouseToId.map fun id => .integer id.toInt
  | .warehouseFromId => invoice.warehouseFromId.map fun id => .integer id.toInt
  | _ => none

section Insertion

variable {userId : UInt64} {warehouseId : Int64} {invoice : Invoice}
  (huser : userId.toNat < 2 ^ 63) (harrival : invoice.Arrival userId warehouseId)

include huser harrival

/-- The statement of an arrival. All its parameters can be bound. -/
theorem insertQuery_arrival : ∃ columns values fields,
    invoice.insertQuery = .ok
      { options := .insert
          { table := .invoice, columns, returning := [.invoiceId, .prettyName], valuesCount := 1 }
        params := values } ∧
      areWritable .invoice columns = true ∧
      bindParams .invoice columns (ValueCollector.toPqxx values) = .ok (fields, []) ∧
      ∀ choices, insertedRow choices .invoice columns 0 fields =
        invoice.row (choices.identity .invoice 0) := by
  obtain ⟨name, hname⟩ := Option.isSome_iff_exists.mp harrival.name
  obtain ⟨date, hdate, hdateRange⟩ := harrival.createdDate
  have hbytes : bindValue .int8 (parameterOf (integer warehouseId).toString) =
      .ok (some (.integer warehouseId.toInt)) := by
    rw [parameterOf, integer, if_neg (Scalar.integer_ne_null warehouseId.toInt)]
    exact bindValue_int8 warehouseId
  -- The description comes last, if there is one.
  have hbind : ∀ (columns : List Column) (params : List (Option String)),
      bindParams .invoice (.name :: .createdBy :: .createdDate :: .warehouseToId :: columns)
          (parameterOf name :: parameterOf (unsigned userId).toString ::
            parameterOf (unsigned date).toString ::
            parameterOf (integer warehouseId).toString :: params) =
        (bindParams .invoice columns params).map fun result =>
          (storedText name :: some (.integer userId.toNat) :: some (.integer date.toNat) ::
            some (.integer warehouseId.toInt) :: result.1, result.2) := by
    intro columns params
    rw [bindParams_cons rfl (bindValue_text name), bindParams_cons rfl (bindValue_unsigned huser),
      bindParams_cons rfl (bindValue_unsigned hdateRange), bindParams_cons rfl hbytes]
    cases bindParams .invoice columns params <;> rfl
  unfold insertQuery insertColumns
  rw [hname, harrival.createdBy, hdate, harrival.warehouseTo, harrival.warehouseFrom]
  have hrow : ∀ invoiceId, invoice.row invoiceId = row invoiceId
      { name := some name, createdBy := some userId, createdDate := some date,
        warehouseToId := some warehouseId, description := invoice.description } := by
    intro invoiceId
    funext column
    cases column <;> simp only [row, hname, harrival.createdBy, hdate, harrival.warehouseTo,
      harrival.warehouseFrom]
  cases hdescription : invoice.description with
  | none =>
    refine ⟨[.name, .createdBy, .createdDate, .warehouseToId],
      [name, (unsigned userId).toString, (unsigned date).toString,
        (integer warehouseId).toString], _, rfl, rfl, hbind [] [], fun choices => ?_⟩
    rw [hrow, hdescription]
    funext column
    cases column <;> rfl
  | some description =>
    refine ⟨[.name, .createdBy, .createdDate, .warehouseToId, .description],
      [name, (unsigned userId).toString, (unsigned date).toString,
        (integer warehouseId).toString, description],
      [storedText name, some (.integer userId.toNat), some (.integer date.toNat),
        some (.integer warehouseId.toInt), storedText description], rfl, rfl,
      (hbind [.description] [parameterOf description]).trans ?_, fun choices => ?_⟩
    · rw [bindParams_cons rfl (bindValue_text description)]
      rfl
    · rw [hrow, hdescription]
      funext column
      cases column <;> rfl

/-- The row of an arrival conforms to the table when its name is stored. -/
theorem conforms_row (hname : invoice.name ≠ some "NULL") {invoiceId : Int}
    (hpositive : 0 < invoiceId) (hmaximum : invoiceId ≤ 2 ^ 63 - 1) :
    schema.conforms .invoice (invoice.row invoiceId) = true := by
  obtain ⟨name, hnameSome⟩ := Option.isSome_iff_exists.mp harrival.name
  obtain ⟨date, hdate, hdateRange⟩ := harrival.createdDate
  have hminimum := warehouseId.le_toInt
  have hlimit := warehouseId.toInt_lt
  have hne : name ≠ "NULL" := fun h => hname (by rw [hnameSome, h])
  have hstored : invoice.name.bind storedText = some (.text name) := by
    rw [hnameSome]
    exact storedText_of_ne hne
  simp only [Schema.conforms, schema, tableSchema, List.all_cons, List.all_nil, row, hstored,
    all_bind_storedText, harrival.createdBy, hdate, harrival.warehouseTo, harrival.warehouseFrom,
    Option.map_some, Option.map_none, Option.all_some, Option.all_none, Option.isSome_some,
    DbMgr.Scpts.prettyName, ColumnType.admits, Bool.and_true, Bool.and_eq_true, decide_eq_true_eq,
    true_and]
  omega

/-- An arrival is accepted when its name is stored, if its author and its warehouse are there. -/
theorem accepts_insertArrival {choices : Choices} {tables : Tables}
    (hintegral : Integral schema tables)
    {size : Nat} (hsize : 1 ≤ size)
    (hnumbers : FreshNumbers choices tables .invoice .invoiceId size)
    (hauthor : HasUser tables userId)
    (hwarehouse : HasWarehouse tables warehouseId.toInt) :
    accepts schema [.insert .invoice (invoice.row (choices.identity .invoice 0))] tables = true ↔
      invoice.name ≠ some "NULL" := by
  constructor
  · intro haccepts hname
    rw [accepts, Bool.and_eq_true] at haccepts
    -- The row has no name, which its column requires.
    have hrow : invoice.row (choices.identity .invoice 0) ∈ applyAll schema
        [.insert .invoice (invoice.row (choices.identity .invoice 0))] tables .invoice :=
      List.mem_append_right _ List.mem_cons_self
    have hconforms := (hintegral.applyAll haccepts.1).conforms .invoice _ hrow
    rw [Schema.conforms, Bool.and_eq_true] at hconforms
    have hrequired := List.all_eq_true.mp hconforms.2 .name (by decide)
    rw [row, hname] at hrequired
    cases hrequired
  · intro hname
    show accepts schema ([invoice.row (choices.identity .invoice 0)].map (Write.insert .invoice))
      tables = true
    refine accepts_insertAll rfl (fun other hother => ?_) ?_ fun other hother => ?_
    · rw [List.mem_singleton.mp hother]
      exact conforms_row huser harrival hname (choices.identity_pos _ _)
        (hnumbers.le_maximum 0 hsize)
    · refine nodup_keys_numbered rfl hintegral hnumbers hsize fun index hindex => ?_
      rw [List.length_singleton, Nat.lt_one_iff] at hindex
      subst hindex
      rfl
    · obtain ⟨user, huserRow, huserId⟩ := hauthor
      obtain ⟨warehouse, hwarehouseRow, hwarehouseId⟩ := hwarehouse
      rw [List.mem_singleton.mp hother]
      simp only [Schema.parentsExist, schema, tableSchema, createdByReference, List.all_cons,
        List.all_nil, Bool.and_true, row, harrival.createdBy, harrival.warehouseTo,
        harrival.warehouseFrom, Option.map_some, Option.map_none, applyAll_insert,
        reduceCtorEq, if_false, Bool.true_and, Bool.and_eq_true]
      exact ⟨List.any_eq_true.mpr ⟨user, huserRow, decide_eq_true huserId⟩,
        List.any_eq_true.mpr ⟨warehouse, hwarehouseRow, decide_eq_true hwarehouseId⟩⟩

/-- The statement that inserts the invoice of an arrival is answered when its name is stored. -/
theorem quiet_insertArrival {choices : Nat → Choices} {clock : Nat} {tables : Tables}
    (hintegral : Integral schema tables)
    {size : Nat} (hsize : 1 ≤ size)
    (hnumbers : FreshNumbers (choices clock) tables .invoice .invoiceId size)
    (hauthor : HasUser tables userId) (hwarehouse : HasWarehouse tables warehouseId.toInt)
    {query : Query} (hquery : invoice.insertQuery = .ok query) {answer : Rows}
    {after : Nat × Tables} :
    let row := invoice.row ((choices clock).identity .invoice 0)
    Quiet choices (clock, tables) (sent query) answer after ↔
      invoice.name ≠ some "NULL" ∧ answer = [project [.invoiceId, .prettyName] row] ∧
        after = (clock + 1, applyAll schema [.insert .invoice row] tables) := by
  intro row
  obtain ⟨columns, values, fields, hcreated, hwritable, hfields, hrow⟩ :=
    insertQuery_arrival huser harrival
  cases hquery.symm.trans hcreated
  have hperform : perform (choices clock) ⟨.insert
      { table := .invoice, columns, returning := [.invoiceId, .prettyName], valuesCount := 1 },
      ValueCollector.toPqxx values⟩ tables =
      .ok ([project [.invoiceId, .prettyName] row], [.insert .invoice row]) := by
    refine insert_eq_ok.mpr ⟨?_, [fields], bindRows_succ.mpr ⟨_, _, _, hfields, rfl, rfl⟩, ?_, ?_⟩
    · dsimp only
      rw [hwritable]
      rfl
    · show [project _ row] = [project _ (insertedRow _ _ _ 0 fields)]
      rw [hrow]
    · show [Write.insert _ row] = [Write.insert _ (insertedRow _ _ _ 0 fields)]
      rw [hrow]
  have haccepts := accepts_insertArrival huser harrival hintegral hsize hnumbers hauthor hwarehouse
  refine quiet_insert_iff.trans ?_
  constructor
  · rintro ⟨writes, hperform', haccepted, hafter⟩
    cases hperform'.symm.trans hperform
    exact ⟨haccepts.mp haccepted, rfl, hafter⟩
  · rintro ⟨hname, rfl, hafter⟩
    exact ⟨_, hperform, haccepts.mpr hname, hafter⟩

end Insertion

/-! ## The items of the invoice -/

/-- The row that the trigger adds for an item of an arrival. -/
def operation (invoiceRow : TableRow) (invoiceId operationId : Int) (item : Int64 × Int64) :
    TableRow := fun column =>
  if column = .operationId then some (.integer operationId)
  else operationRow (invoiceItemRow invoiceId item.1.toInt item.2.toInt) invoiceRow
    (invoiceRow .warehouseToId) column

/-- The rows of some items. -/
def itemRows (invoiceId : Int64) (items : List (Int64 × Int64)) : List TableRow :=
  items.map fun item => invoiceItemRow invoiceId.toInt item.1.toInt item.2.toInt

/-- The operations of some items. -/
def operations (choices : Choices) (invoiceRow : TableRow) (invoiceId : Int64)
    (items : List (Int64 × Int64)) : List TableRow :=
  items.mapIdx fun index =>
    operation invoiceRow invoiceId.toInt (choices.identity .operation index)

/-- A row of an invoice conforms to the table when its count has four bytes. -/
theorem conforms_invoiceItemRow (invoiceId productId : Int64) {count : Int}
    (hcount : -2 ^ 31 ≤ count ∧ count ≤ 2 ^ 31 - 1) :
    schema.conforms .invoiceItem (invoiceItemRow invoiceId.toInt productId.toInt count) = true := by
  have hinvoice := WarehouseItem.int8_range invoiceId
  have hproduct := WarehouseItem.int8_range productId
  simp only [Schema.conforms, schema, tableSchema, List.all_cons, List.all_nil, invoiceItemRow,
    Option.all_some, Option.isSome_some, ColumnType.admits, Bool.and_true, Bool.and_eq_true,
    decide_eq_true_eq]
  omega

/-- There is a row of the invoice. -/
def HasInvoice (tables : Tables) (invoiceId : Int) : Prop :=
  ∃ row ∈ tables .invoice, row .invoiceId = some (.integer invoiceId)

/-- A row of an invoice may belong to a product and an invoice that are there. -/
theorem parentsExist_invoiceItemRow {tables : Tables} {invoiceId productId count : Int} :
    schema.parentsExist tables .invoiceItem (invoiceItemRow invoiceId productId count) = true ↔
      WarehouseItem.HasProduct tables productId ∧ HasInvoice tables invoiceId := by
  simp [Schema.parentsExist, schema, tableSchema, referenceTo, invoiceItemRow,
    WarehouseItem.HasProduct, HasInvoice]

/-- So may its operation, if the author is there too. -/
theorem parentsExist_operation {userId : UInt64} {warehouseId : Int64} {invoice : Invoice}
    (harrival : invoice.Arrival userId warehouseId) {tables : Tables}
    {invoiceId operationId : Int} {item : Int64 × Int64} :
    schema.parentsExist tables .operation
        (operation (invoice.row invoiceId) invoiceId operationId item) = true ↔
      HasInvoice tables invoiceId ∧ WarehouseItem.HasProduct tables item.1.toInt ∧
        HasUser tables userId := by
  simp [Schema.parentsExist, schema, tableSchema, referenceTo, createdByReference, operation,
    operationRow, invoiceItemRow, row, harrival.createdBy, WarehouseItem.HasProduct, HasInvoice,
    HasUser]

section Items

variable {userId : UInt64} {warehouseId : Int64} {invoice : Invoice}
  (huser : userId.toNat < 2 ^ 63) (harrival : invoice.Arrival userId warehouseId)
  (hname : invoice.name ≠ some "NULL")

include huser harrival hname

/-- So does the operation of the item. -/
theorem conforms_operation (invoiceId : Int64) {operationId : Int} (hpositive : 0 < operationId)
    (hmaximum : operationId ≤ 2 ^ 63 - 1) {item : Int64 × Int64}
    (hcount : -2 ^ 31 ≤ item.2.toInt ∧ item.2.toInt ≤ 2 ^ 31 - 1) :
    schema.conforms .operation (operation (invoice.row invoiceId.toInt) invoiceId.toInt
      operationId item) = true := by
  obtain ⟨name, hnameSome⟩ := Option.isSome_iff_exists.mp harrival.name
  obtain ⟨date, hdate, hdateRange⟩ := harrival.createdDate
  have hne : name ≠ "NULL" := fun h => hname (by rw [hnameSome, h])
  have hstored : invoice.name.bind storedText = some (.text name) := by
    rw [hnameSome]
    exact storedText_of_ne hne
  have hinvoice := WarehouseItem.int8_range invoiceId
  have hproduct := WarehouseItem.int8_range item.1
  have hwarehouse := WarehouseItem.int8_range warehouseId
  simp only [Schema.conforms, schema, tableSchema, List.all_cons, List.all_nil, operation,
    operationRow, invoiceItemRow, row, hstored, harrival.createdBy, hdate, harrival.warehouseTo,
    reduceCtorEq, if_true, if_false, DbMgr.Scpts.prettyName, Option.map_some, Option.all_some,
    Option.isSome_some, ColumnType.admits, Bool.and_true, Bool.and_eq_true, decide_eq_true_eq,
    true_and]
  omega

omit huser hname in
/-- The rows that the triggers add for the items of a new arrival. -/
theorem triggeredRows_arrival {choices : Choices} {tables : Tables} {invoices : List TableRow}
    {invoiceId : Int64} (hinvoices : tables .invoice = invoices ++ [invoice.row invoiceId.toInt])
    (hfresh : ∀ old ∈ invoices, old .invoiceId ≠ some (.integer invoiceId.toInt))
    (items : List (Int64 × Int64)) :
    triggeredRows choices .invoiceItem (itemRows invoiceId items) tables =
      operations choices (invoice.row invoiceId.toInt) invoiceId items := by
  have hone : ∀ item : Int64 × Int64, addOperations tables
      (invoiceItemRow invoiceId.toInt item.1.toInt item.2.toInt) =
        [operationRow (invoiceItemRow invoiceId.toInt item.1.toInt item.2.toInt)
          (invoice.row invoiceId.toInt) (invoice.row invoiceId.toInt .warehouseToId)] := by
    intro item
    have hkeys : ∀ old ∈ invoices, schema.keyOf .invoice old ≠
        schema.keyOf .invoice (invoice.row invoiceId.toInt) := by
      intro old hold hkey
      injection hkey with _ hkey
      injection hkey with hkey
      exact hfresh old hold hkey
    have hfrom : invoice.row invoiceId.toInt .warehouseFromId = none := by
      rw [row, harrival.warehouseFrom]
      rfl
    have hto : (invoice.row invoiceId.toInt .warehouseToId).isSome = true := by
      rw [row, harrival.warehouseTo]
      rfl
    rw [addOperations, addOperationFrom, addOperationTo,
      invoicesOf_new (Eq.refl (some (Value.integer invoiceId.toInt))) hkeys hinvoices]
    simp [hfrom, hto]
  rw [triggeredRows, if_pos rfl, itemRows, List.flatMap_map]
  simp only [hone]
  rw [← List.map_eq_flatMap]
  refine List.ext_getElem (by simp [operations]) fun index hindex hbound => ?_
  have hitem : index < items.length := by
    rw [operations, List.length_mapIdx] at hbound
    exact hbound
  have hright : (operations choices (invoice.row invoiceId.toInt) invoiceId items)[index] =
      operation (invoice.row invoiceId.toInt) invoiceId.toInt (choices.identity .operation index)
        items[index] := List.getElem_mapIdx
  rw [hright, List.getElem_mapIdx, List.getElem_map]
  rfl

/-- The items of a new arrival and their operations are accepted, for different products that are
there. -/
theorem accepts_insertItems {choices : Choices} {tables : Tables}
    (hintegral : Integral schema tables)
    {size : Nat} (hnumbers : FreshNumbers choices tables .operation .operationId size)
    (hauthor : HasUser tables userId) {invoiceId : Int64}
    (hinvoice : invoice.row invoiceId.toInt ∈ tables .invoice)
    (hnone : ∀ old ∈ tables .invoiceItem, old .invoiceId ≠ some (.integer invoiceId.toInt))
    {items : List (Int64 × Int64)} (hlength : items.length ≤ size)
    (hnodup : (items.map Prod.fst).Nodup)
    (hcounts : ∀ item ∈ items, -2 ^ 31 ≤ item.2.toInt ∧ item.2.toInt ≤ 2 ^ 31 - 1)
    (hproducts : ∀ item ∈ items, WarehouseItem.HasProduct tables item.1.toInt) :
    accepts schema ((itemRows invoiceId items).map (Write.insert .invoiceItem) ++
      (operations choices (invoice.row invoiceId.toInt) invoiceId items).map
        (Write.insert .operation)) tables = true := by
  have hitemRow : ∀ row ∈ itemRows invoiceId items, ∃ item ∈ items,
      row = invoiceItemRow invoiceId.toInt item.1.toInt item.2.toInt := by
    intro row hrow
    obtain ⟨item, hitem, rfl⟩ := List.mem_map.mp hrow
    exact ⟨item, hitem, rfl⟩
  have hoperation : ∀ row ∈ operations choices (invoice.row invoiceId.toInt) invoiceId items,
      ∃ index < size, ∃ item ∈ items, row = operation (invoice.row invoiceId.toInt)
        invoiceId.toInt (choices.identity .operation index) item := by
    intro row hrow
    obtain ⟨index, hindex, rfl⟩ := List.mem_mapIdx.mp hrow
    exact ⟨index, hindex.trans_le hlength, _, List.getElem_mem hindex, rfl⟩
  have hkeys : ((tables .invoiceItem ++ itemRows invoiceId items).map
      (schema.keyOf .invoiceItem)).Nodup := by
    rw [List.map_append, List.nodup_append]
    refine ⟨hintegral.keys_nodup .invoiceItem, ?_, ?_⟩
    · have hmap : (itemRows invoiceId items).map (schema.keyOf .invoiceItem) =
          (items.map Prod.fst).map fun productId => (⟨.invoiceItem,
            [some (.integer invoiceId.toInt), some (.integer productId.toInt)]⟩ : Key Table) := by
        rw [itemRows, List.map_map, List.map_map]
        rfl
      rw [hmap]
      refine hnodup.map fun productId other hequal => ?_
      simp only [Key.mk.injEq, List.cons.injEq, Option.some.injEq, Value.integer.injEq, true_and,
        and_true] at hequal
      exact Int64.toInt_inj.mp hequal
    · rintro key hkey other hother rfl
      obtain ⟨old, hold, rfl⟩ := List.mem_map.mp hkey
      obtain ⟨new, hnew, hsame⟩ := List.mem_map.mp hother
      obtain ⟨item, hitem, rfl⟩ := hitemRow new hnew
      injection hsame with _ hsame
      injection hsame with hsame
      exact hnone old hold hsame.symm
  rw [accepts, checkAll_append, Bool.and_eq_true, Bool.and_eq_true]
  refine ⟨⟨checkAll_insertAll rfl (fun row hrow => ?_) hkeys,
    checkAll_insertAll rfl (fun row hrow => ?_) ?_⟩, ?_⟩
  · obtain ⟨item, hitem, rfl⟩ := hitemRow row hrow
    exact conforms_invoiceItemRow invoiceId item.1 (hcounts item hitem)
  · obtain ⟨index, hindex, item, hitem, rfl⟩ := hoperation row hrow
    exact conforms_operation huser harrival hname invoiceId (choices.identity_pos _ _)
      (hnumbers.le_maximum _ hindex) (hcounts item hitem)
  · rw [applyAll_insert, if_neg (by decide)]
    refine nodup_keys_numbered rfl hintegral hnumbers (by simpa [operations] using hlength)
      fun index hindex => ?_
    exact congrFun List.getElem_mapIdx Column.operationId
  · -- The rows that are referred to are in other tables, which are as they were.
    have hafter := applyAll_insertTriggered tables (itemRows invoiceId items)
      (operations choices (invoice.row invoiceId.toInt) invoiceId items)
    generalize applyAll schema ((itemRows invoiceId items).map (Write.insert .invoiceItem) ++
      (operations choices (invoice.row invoiceId.toInt) invoiceId items).map
        (Write.insert .operation)) tables = after at hafter ⊢
    have hframe : ∀ table, table ≠ .invoiceItem → table ≠ .operation →
        after table = tables table := by
      intro table hitem hoperation
      rw [hafter, if_neg hitem, if_neg hoperation]
    have hinvoiceAfter : HasInvoice after invoiceId.toInt :=
      ⟨_, hframe .invoice (by decide) (by decide) ▸ hinvoice, rfl⟩
    have hproductAfter : ∀ item ∈ items, WarehouseItem.HasProduct after item.1.toInt := by
      intro item hitem
      obtain ⟨product, hproduct, hproductId⟩ := hproducts item hitem
      exact ⟨product, hframe .product (by decide) (by decide) ▸ hproduct, hproductId⟩
    obtain ⟨user, huserRow, huserId⟩ := hauthor
    have huserAfter : HasUser after userId :=
      ⟨user, hframe .user (by decide) (by decide) ▸ huserRow, huserId⟩
    rw [List.all_append, Bool.and_eq_true, List.all_map, List.all_map, List.all_eq_true,
      List.all_eq_true]
    refine ⟨fun row hrow => ?_, fun row hrow => ?_⟩
    · obtain ⟨item, hitem, rfl⟩ := hitemRow row hrow
      exact parentsExist_invoiceItemRow.mpr ⟨hproductAfter item hitem, hinvoiceAfter⟩
    · obtain ⟨index, -, item, hitem, rfl⟩ := hoperation row hrow
      exact (parentsExist_operation harrival).mpr
        ⟨hinvoiceAfter, hproductAfter item hitem, huserAfter⟩

/-- The items of a new arrival are inserted with their operations. -/
theorem completes_insertItems {choices : Nat → Choices} {clock : Nat} {tables : Tables}
    (hintegral : Integral schema tables)
    {size : Nat} (hnumbers : FreshNumbers (choices clock) tables .operation .operationId size)
    (hauthor : HasUser tables userId) {invoices : List TableRow} {invoiceId : Int64}
    (hinvoices : tables .invoice = invoices ++ [invoice.row invoiceId.toInt])
    (hfresh : ∀ old ∈ invoices, old .invoiceId ≠ some (.integer invoiceId.toInt))
    (hnone : ∀ old ∈ tables .invoiceItem, old .invoiceId ≠ some (.integer invoiceId.toInt))
    {products : List Product} {items : List (Int64 × Int64)} (hitems : Listed products items)
    (hne : items ≠ []) (hlength : items.length ≤ size) (hnodup : (items.map Prod.fst).Nodup)
    (hcounts : ∀ item ∈ items, -2 ^ 31 ≤ item.2.toInt ∧ item.2.toInt ≤ 2 ^ 31 - 1)
    (hproducts : ∀ item ∈ items, WarehouseItem.HasProduct tables item.1.toInt)
    {stamped : Invoice} (hstamped : stamped.invoiceId = some invoiceId) :
    (insertInvoiceItems stamped products).Completes (Quiet choices) (clock, tables)
      (clock + 1, applyAll schema ((itemRows invoiceId items).map (Write.insert .invoiceItem) ++
        (operations (choices clock) (invoice.row invoiceId.toInt) invoiceId items).map
          (Write.insert .operation)) tables) () () := by
  have hvalues : products.mapM (insertItemsRow invoiceId) = .ok (items.map fun item =>
      [invoiceId, item.1, item.2].map fun value => (integer value).toString) := by
    refine hitems.mapM_eq_ok fun product item hid hcount => ?_
    unfold insertItemsRow
    rw [hid, hcount]
    rfl
  have hperform := @perform_insertNumbers _ (choices clock)
    { table := .invoiceItem, columns := [.invoiceId, .productId, .count] } items
    (fun item => [invoiceId, item.1, item.2].map fun value => (integer value).toString)
    (fun item => [invoiceId, item.1, item.2])
    (fun item => invoiceItemRow invoiceId.toInt item.1.toInt item.2.toInt) hne rfl (fun _ => rfl)
    (fun item hitem => .cons ⟨_, _, rfl, WarehouseItem.int8_range _⟩
      (.cons ⟨_, _, rfl, WarehouseItem.int8_range _⟩
        (.cons ⟨_, _, rfl, hcounts item hitem⟩ .nil)))
    (fun index item => by
      funext column
      cases column <;> rfl) tables
  have hinvoices' : applyAll schema ((itemRows invoiceId items).map (Write.insert .invoiceItem))
      tables .invoice = invoices ++ [invoice.row invoiceId.toInt] := by
    rw [applyAll_insert, if_neg (by decide), hinvoices]
  have htriggered := @triggeredRows_arrival _ _ _ harrival (choices clock) _ _ _ hinvoices' hfresh
    items
  have hinvoice : invoice.row invoiceId.toInt ∈ tables .invoice := by
    rw [hinvoices]
    exact List.mem_append_right _ List.mem_cons_self
  have haccepts := accepts_insertItems huser harrival hname hintegral hnumbers hauthor hinvoice
    hnone hlength hnodup hcounts hproducts
  unfold insertInvoiceItems
  rw [hstamped]
  refine Program.completes_bind.mpr ⟨_, _, Script.completes_ofExcept.mpr ⟨rfl, rfl⟩, ?_⟩
  refine Program.completes_bind.mpr ⟨_, _, Script.completes_ofExcept.mpr ⟨rfl, hvalues⟩, ?_⟩
  refine Program.completes_bind.mpr ⟨_, [], Script.completes_executeCreated.mpr ⟨_,
    QueryFactory.createInsert_eq_ok.mpr ⟨by simpa using hne, fun row hrow => ?_, rfl⟩,
    quiet_insert_iff.mpr ⟨_, ?_, haccepts, rfl⟩⟩, Script.completes_pure.mpr ⟨rfl, rfl⟩⟩
  · obtain ⟨item, -, rfl⟩ := List.mem_map.mp hrow
    rfl
  · rw [← htriggered]
    exact hperform

end Items

end Invoice

namespace WarehouseItem

/-! ## The stock of new products -/

/-- The rows of products that are not stored yet are inserted. -/
theorem completes_insertNew {choices : Nat → Choices} {clock : Nat} {tables : Tables}
    (hintegral : Integral schema tables) {warehouseId : Int64}
    (hwarehouse : HasWarehouse tables warehouseId.toInt) {products : List Product}
    {items : List (Int64 × Int64)} (hitems : Listed products items) (hne : items ≠ [])
    (hnodup : (items.map Prod.fst).Nodup)
    (hnone : ∀ item ∈ items,
      (tables .warehouseItem).filter (isItem warehouseId.toInt item.1.toInt) = [])
    (hcounts : ∀ item ∈ items, -2 ^ 31 ≤ item.2.toInt ∧ item.2.toInt ≤ 2 ^ 31 - 1)
    (hproducts : ∀ item ∈ items, HasProduct tables item.1.toInt) :
    (insertsEntry products warehouseId).Completes (Quiet choices) (clock, tables)
      (clock + 1, applyAll schema
        ((itemRows warehouseId items).map (Write.insert .warehouseItem)) tables) () () := by
  have hvalues : products.mapM (insertsRow warehouseId) = .ok (items.map fun item =>
      [warehouseId, item.2, item.1].map fun value => (integer value).toString) := by
    refine hitems.mapM_eq_ok fun product item hid hcount => ?_
    unfold insertsRow
    rw [hid, hcount]
    rfl
  have hperform := @perform_insertNumbers _ (choices clock)
    { table := .warehouseItem, columns := [.warehouseId, .count, .productId]
      returning := [.productId] } items
    (fun item => [warehouseId, item.2, item.1].map fun value => (integer value).toString)
    (fun item => [warehouseId, item.2, item.1])
    (fun item => itemRow warehouseId.toInt item.1.toInt item.2.toInt) hne rfl (fun _ => rfl)
    (fun item hitem => .cons ⟨_, _, rfl, int8_range _⟩ (.cons ⟨_, _, rfl, hcounts item hitem⟩
      (.cons ⟨_, _, rfl, int8_range _⟩ .nil)))
    (fun index item => by
      funext column
      cases column <;> rfl) tables
  dsimp only at hperform
  rw [triggeredRows_of_ne (by decide), List.map_nil, List.append_nil] at hperform
  have haccepts : accepts schema ((itemRows warehouseId items).map (Write.insert .warehouseItem))
      tables = true := by
    refine accepts_insertAll rfl (fun row hrow => ?_) (nodup_keys_itemRows hintegral hnodup hnone)
      fun row hrow => ?_
    · obtain ⟨item, hitem, rfl⟩ := List.mem_map.mp hrow
      exact conforms_itemRow warehouseId item.1 (hcounts item hitem)
    · obtain ⟨item, hitem, rfl⟩ := List.mem_map.mp hrow
      rw [parentsExist_congr fun table htable => by rw [applyAll_insert, if_neg htable]]
      exact parentsExist_itemRow.mpr ⟨hproducts item hitem, hwarehouse⟩
  unfold insertsEntry
  refine Program.completes_bind.mpr ⟨_, _, Script.completes_ofExcept.mpr ⟨rfl, hvalues⟩, ?_⟩
  refine Program.completes_bind.mpr ⟨_, _, Script.completes_executeCreated.mpr ⟨_,
    QueryFactory.createInsert_eq_ok.mpr ⟨by simpa using hne, fun row hrow => ?_, rfl⟩,
    quiet_insert_iff.mpr ⟨_, hperform, haccepts, rfl⟩⟩, Script.completes_pure.mpr ⟨rfl, rfl⟩⟩
  obtain ⟨item, -, rfl⟩ := List.mem_map.mp hrow
  rfl

end WarehouseItem

end TaskMgr.Tasks

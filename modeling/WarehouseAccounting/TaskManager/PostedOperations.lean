import WarehouseAccounting.TaskManager.Listings
import WarehouseAccounting.TaskManager.StockConcurrency

/-!
# Operations and items

The rows of `Operation` are those that the triggers have made of the rows of `Invoice_Item`.

- `OperationsPosted.answers`: no statement that leaves operations to the triggers breaks this.
- `StockAttempt.operationsPosted`: so does no attempt of a task that changes the stock.
- `OperationsPosted.perm`: the operations of an invoice are those of its items.
- `OperationsPosted.createdDate_eq`: all of them have the date of the invoice.
-/

namespace TaskMgr.Tasks

open Ufa Srv.Db Srv.Db.Trsct Srv.Db.Sql Srv.Db.DbMgr.Scpts Relational

/-! ## Posted operations -/

/-- An operation as the triggers make it, before its number is generated. -/
def withoutOperationId (row : TableRow) : TableRow := fun column =>
  if column = .operationId then none else row column

@[simp]
theorem withoutOperationId_of_ne (row : TableRow) {column : Column} (h : column ≠ .operationId) :
    withoutOperationId row column = row column :=
  if_neg h

/-- The operations are those that the triggers make of the items, and every item has its
invoice. -/
structure OperationsPosted (tables : Tables) : Prop where
  operations : ((tables .operation).map withoutOperationId).Perm
    ((tables .invoiceItem).flatMap (addOperations tables))
  invoices : ∀ item ∈ tables .invoiceItem, ∃ invoice ∈ tables .invoice,
    invoice .invoiceId = item .invoiceId

/-- There is nothing at the beginning. -/
theorem operationsPosted_initialTables : OperationsPosted initialTables where
  operations := .refl _
  invoices := by
    intro item hitem
    cases hitem

/-! ## Invoices of an item -/

section Invoices

variable {tables : Tables}

/-- The triggers look at the invoices of the item. -/
theorem addOperations_congr {others : Tables} {item : TableRow}
    (h : invoicesOf tables item = invoicesOf others item) :
    addOperations tables item = addOperations others item := by
  unfold addOperations addOperationFrom addOperationTo
  rw [h]

/-- An invoice of an item has its number. -/
theorem mem_invoicesOf {item invoice : TableRow} (hsome : (item .invoiceId).isSome = true) :
    invoice ∈ invoicesOf tables item ↔
      invoice ∈ tables .invoice ∧ invoice .invoiceId = item .invoiceId := by
  obtain ⟨value, hvalue⟩ := Option.isSome_iff_exists.mp hsome
  rw [invoicesOf, List.mem_filter, decide_eq_true_eq, hvalue, Predicate.compareNullable_equal]

/-- Invoices with the same number are one. -/
theorem invoice_unique (hintegral : Integral schema tables) {invoice other : TableRow}
    (hinvoice : invoice ∈ tables .invoice) (hother : other ∈ tables .invoice)
    (hid : other .invoiceId = invoice .invoiceId) : other = invoice := by
  refine List.inj_on_of_nodup_map (hintegral.keys_nodup .invoice) hother hinvoice ?_
  show (⟨.invoice, [other .invoiceId]⟩ : Key Table) = ⟨.invoice, [invoice .invoiceId]⟩
  rw [hid]

/-- An item has the invoice with its number. -/
theorem invoicesOf_eq_singleton (hintegral : Integral schema tables) {item invoice : TableRow}
    (hinvoice : invoice ∈ tables .invoice) (hid : invoice .invoiceId = item .invoiceId) :
    invoicesOf tables item = [invoice] := by
  have hsome : (item .invoiceId).isSome = true := by
    rw [← hid]
    exact isSome_of_conforms (hintegral.conforms .invoice invoice hinvoice) (by decide)
  have hnodup : (invoicesOf tables item).Nodup :=
    (List.Nodup.of_map _ (hintegral.keys_nodup .invoice)).filter _
  refine List.perm_singleton.mp ((List.perm_ext_iff_of_nodup hnodup
    (List.nodup_singleton invoice)).mpr fun other => ?_)
  rw [mem_invoicesOf hsome, List.mem_singleton]
  constructor
  · rintro ⟨hother, hotherId⟩
    exact invoice_unique hintegral hinvoice hother (hotherId.trans hid.symm)
  · rintro rfl
    exact ⟨hinvoice, hid⟩

/-- New invoices are not those of the items that were there. -/
theorem invoicesOf_append {others : Tables} (hintegral : Integral schema others)
    {inserted : List TableRow} (hinvoices : others .invoice = tables .invoice ++ inserted)
    {item invoice : TableRow} (hinvoice : invoice ∈ tables .invoice)
    (hid : invoice .invoiceId = item .invoiceId) :
    invoicesOf others item = invoicesOf tables item := by
  have hmem : invoice ∈ others .invoice := by
    rw [hinvoices]
    exact List.mem_append_left _ hinvoice
  have hall := invoicesOf_eq_singleton hintegral hmem hid
  -- The one that is found was there before.
  have hbefore : invoice ∈ invoicesOf tables item := by
    refine List.mem_filter.mpr ⟨hinvoice, ?_⟩
    have hfound : invoice ∈ invoicesOf others item := by
      rw [hall]
      exact List.mem_singleton_self _
    exact (List.mem_filter.mp hfound).2
  rw [hall]
  unfold invoicesOf at hall hbefore ⊢
  rw [hinvoices, List.filter_append] at hall
  rcases List.append_eq_singleton_iff.mp hall with ⟨hnil, -⟩ | ⟨hone, -⟩
  · rw [hnil] at hbefore
    cases hbefore
  · exact hone.symm

end Invoices

/-! ## Statements -/

/-- The tables that only grow. -/
def recordTables : List Table := [.invoice, .invoiceItem, .operation]

/-- The statement leaves what is recorded as it is, and operations to the triggers. -/
def KeepsRecords : QueryOptions → Prop
  | .select _ | .raw _ => True
  | .insert options => options.table ≠ .operation
  | .update options => options.table ∉ recordTables
  | .delete options => options.table ∉ recordTables

/-- A change of rows writes to its table. -/
theorem update_key_table {options : UpdateOptions} {params : List (Option String)}
    {tables : Tables} {writes : List (Write Table Column)}
    (h : update options params tables = .ok writes) :
    ∀ write ∈ writes, (write.key schema).table = options.table := by
  unfold update at h
  dsimp only at h
  split at h
  case isFalse => cases h
  obtain ⟨⟨values, rest⟩, -, h⟩ := bind_eq_ok.mp h
  obtain ⟨predicate, -, h⟩ := bind_eq_ok.mp h
  cases h
  intro write hwrite
  obtain ⟨row, -, hwrite⟩ := List.mem_flatMap.mp hwrite
  dsimp only at hwrite
  split at hwrite
  · rw [List.mem_singleton.mp hwrite]
    rfl
  · rcases List.mem_pair.mp hwrite with rfl | rfl <;> rfl

/-- A deletion writes to its table. -/
theorem delete_key_table {options : DeleteOptions} {params : List (Option String)}
    {tables : Tables} {writes : List (Write Table Column)}
    (h : delete options params tables = .ok writes) :
    ∀ write ∈ writes, (write.key schema).table = options.table := by
  unfold delete at h
  dsimp only at h
  split at h
  case isFalse => cases h
  obtain ⟨predicate, -, h⟩ := bind_eq_ok.mp h
  cases h
  intro write hwrite
  obtain ⟨row, -, rfl⟩ := List.mem_map.mp hwrite
  rfl

/-- The triggers make the rows, and the sequence gives them their numbers. -/
theorem map_withoutOperationId_triggeredRows (choices : Choices) (rows : List TableRow)
    (tables : Tables) :
    (triggeredRows choices .invoiceItem rows tables).map withoutOperationId =
      rows.flatMap (addOperations tables) := by
  have hmade : ∀ row ∈ rows.flatMap (addOperations tables), row .operationId = none := by
    intro row hrow
    obtain ⟨item, -, hrow⟩ := List.mem_flatMap.mp hrow
    rcases List.mem_append.mp hrow with hrow | hrow <;>
      obtain ⟨invoice, -, rfl⟩ := List.mem_map.mp hrow <;> rfl
  rw [triggeredRows, if_pos rfl]
  refine List.ext_getElem (by simp) fun index hindex hindex' => ?_
  rw [List.getElem_map]
  ext column : 1
  by_cases hcolumn : column = .operationId
  · rw [hcolumn, hmade _ (List.getElem_mem hindex')]
    rfl
  · rw [withoutOperationId_of_ne _ hcolumn]
    simp [hcolumn]

/-- A reference that was checked is there. -/
theorem exists_invoice_of_parentsExist {tables : Tables} {item : TableRow}
    (hconforms : schema.conforms .invoiceItem item = true)
    (h : schema.parentsExist tables .invoiceItem item = true) :
    ∃ invoice ∈ tables .invoice, invoice .invoiceId = item .invoiceId := by
  have hsome : (item .invoiceId).isSome = true := isSome_of_conforms hconforms (by decide)
  obtain ⟨value, hvalue⟩ := Option.isSome_iff_exists.mp hsome
  have hreference := List.all_eq_true.mp h (referenceTo .invoice .invoiceId)
    (show _ ∈ (tableSchema .invoiceItem).references by decide)
  dsimp only [referenceTo] at hreference
  rw [hvalue] at hreference ⊢
  obtain ⟨invoice, hinvoice, hid⟩ := List.any_eq_true.mp hreference
  exact ⟨invoice, hinvoice, of_decide_eq_true hid⟩

namespace OperationsPosted

variable {tables tables' : Tables}

/-- Nothing else matters. -/
theorem congr (h : OperationsPosted tables)
    (hsame : ∀ table ∈ recordTables, tables' table = tables table) : OperationsPosted tables' := by
  have hinvoice := hsame .invoice (by decide)
  have hitem := hsame .invoiceItem (by decide)
  have hoperation := hsame .operation (by decide)
  have hadd : addOperations tables' = addOperations tables := by
    ext item : 1
    refine addOperations_congr ?_
    rw [invoicesOf, invoicesOf, hinvoice]
  constructor
  · rw [hoperation, hitem, hadd]
    exact h.operations
  · rw [hitem, hinvoice]
    exact h.invoices

/-- New invoices have no items yet. -/
theorem insertInvoices (h : OperationsPosted tables) (hintegral : Integral schema tables')
    {inserted : List TableRow} (hinvoices : tables' .invoice = tables .invoice ++ inserted)
    (hsame : ∀ table, table ≠ .invoice → tables' table = tables table) :
    OperationsPosted tables' := by
  have hitem := hsame .invoiceItem (by decide)
  constructor
  · rw [hsame .operation (by decide), hitem, List.flatMap_congr fun item hmem => ?_]
    · exact h.operations
    · obtain ⟨invoice, hinvoice, hid⟩ := h.invoices item hmem
      exact addOperations_congr (invoicesOf_append hintegral hinvoices hinvoice hid)
  · rw [hitem, hinvoices]
    intro item hmem
    obtain ⟨invoice, hinvoice, hid⟩ := h.invoices item hmem
    exact ⟨invoice, List.mem_append_left _ hinvoice, hid⟩

/-- The operations of new items are posted with them. -/
theorem insertItems (h : OperationsPosted tables) (choices : Choices) {inserted : List TableRow}
    (hitems : tables' .invoiceItem = tables .invoiceItem ++ inserted)
    (others : Tables) (hothers : others .invoice = tables .invoice)
    (hoperations : tables' .operation =
      tables .operation ++ triggeredRows choices .invoiceItem inserted others)
    (hinvoice : tables' .invoice = tables .invoice)
    (hparents : ∀ item ∈ inserted, ∃ invoice ∈ tables .invoice,
      invoice .invoiceId = item .invoiceId) : OperationsPosted tables' := by
  have hadd : ∀ tables'' : Tables, tables'' .invoice = tables .invoice →
      addOperations tables'' = addOperations tables := by
    intro tables'' hsame
    ext item : 1
    refine addOperations_congr ?_
    rw [invoicesOf, invoicesOf, hsame]
  constructor
  · rw [hoperations, hitems, List.map_append, map_withoutOperationId_triggeredRows,
      List.flatMap_append, hadd others hothers, hadd tables' hinvoice]
    exact h.operations.append_right _
  · rw [hitems, hinvoice]
    intro item hmem
    rcases List.mem_append.mp hmem with hmem | hmem
    · exact h.invoices item hmem
    · exact hparents item hmem

/-- The insertion of items. -/
theorem answers_insertItems (h : OperationsPosted tables) {options : InsertOptions}
    (htable : options.table = .invoiceItem) {params : List (Option String)} {rows : Rows}
    (hanswers : Answers tables ⟨.insert options, params⟩ rows tables')
    (hintegral : Integral schema tables') : OperationsPosted tables' := by
  obtain ⟨choices, writes, hexecute, rfl⟩ := hanswers
  obtain ⟨hperform, haccepts⟩ := execute_eq_ok.mp hexecute
  obtain ⟨-, values, -, -, rfl⟩ := insert_eq_ok.mp hperform
  rw [htable] at haccepts hintegral ⊢
  generalize values.mapIdx (insertedRow choices .invoiceItem options.columns) = inserted at *
  have hleft : ∀ table, applyAll schema (inserted.map (Write.insert Table.invoiceItem) ++
      (triggeredRows choices .invoiceItem inserted (applyAll schema
        (inserted.map (Write.insert Table.invoiceItem)) tables)).map (Write.insert .operation))
        tables table = if table = .operation then tables .operation ++
          triggeredRows choices .invoiceItem inserted (applyAll schema
            (inserted.map (Write.insert Table.invoiceItem)) tables)
        else if table = .invoiceItem then tables .invoiceItem ++ inserted else tables table := by
    intro table
    rw [applyAll_append, applyAll_insert, applyAll_insert]
    by_cases hoperation : table = .operation
    · subst hoperation
      rfl
    · rw [if_neg hoperation, if_neg hoperation]
      by_cases hitem : table = .invoiceItem
      · subst hitem
        rfl
      · rw [if_neg hitem, if_neg hitem]
  refine h.insertItems choices (hleft .invoiceItem)
    (applyAll schema (inserted.map (Write.insert Table.invoiceItem)) tables) ?_
    (hleft .operation) (hleft .invoice) ?_
  · rw [applyAll_insert]
    rfl
  · -- The foreign key to the invoice was checked.
    intro item hitem
    rw [accepts, Bool.and_eq_true, List.all_append, Bool.and_eq_true, List.all_map,
      List.all_eq_true] at haccepts
    have hstored : schema.conforms .invoiceItem item = true := by
      refine hintegral.conforms .invoiceItem item ?_
      rw [hleft .invoiceItem]
      exact List.mem_append_right _ hitem
    have hparents := exists_invoice_of_parentsExist hstored (haccepts.2.1 item hitem)
    rw [hleft .invoice] at hparents
    exact hparents

/-- Writes to other tables. -/
theorem applyAll_of_keys (h : OperationsPosted tables) {target : Table}
    (htarget : target ∉ recordTables) {writes : List (Write Table Column)}
    (hwrites : ∀ write ∈ writes, (write.key schema).table = target) :
    OperationsPosted (applyAll schema writes tables) := by
  refine h.congr fun table htable => applyAll_of_ne (fun write hwrite => ?_) tables
  rw [hwrites write hwrite]
  rintro rfl
  exact htarget htable

/-- No statement that leaves operations to the triggers breaks this. -/
theorem answers (h : OperationsPosted tables) {statement : Statement}
    (hkeeps : KeepsRecords statement.options) {rows : Rows}
    (hanswers : Answers tables statement rows tables') (hintegral : Integral schema tables) :
    OperationsPosted tables' := by
  have hintegral' := hanswers.integral hintegral
  obtain ⟨options, params⟩ := statement
  match options with
  | .select options =>
    obtain ⟨choices, writes, hexecute, rfl⟩ := hanswers
    have hperform := (execute_eq_ok.mp hexecute).1
    unfold perform at hperform
    dsimp only at hperform
    split at hperform
    · obtain ⟨found, -, heq⟩ := Exceptions.map_eq_ok_iff.mp hperform
      cases heq
      exact h
    · cases hperform
      exact h
  | .raw options =>
    obtain ⟨choices, writes, hexecute, rfl⟩ := hanswers
    cases (execute_eq_ok.mp hexecute).1
    exact h
  | .insert options =>
    by_cases hitem : options.table = .invoiceItem
    · exact h.answers_insertItems hitem hanswers hintegral'
    · have hsame := answers_insert_of_ne hitem hanswers
      by_cases hinvoice : options.table = .invoice
      · obtain ⟨choices, writes, hexecute, rfl⟩ := hanswers
        obtain ⟨inserted, rfl⟩ := perform_insert_of_ne hitem (execute_eq_ok.mp hexecute).1
        rw [hinvoice] at hsame hintegral' ⊢
        exact h.insertInvoices hintegral' (applyAll_insert _ _ _ _) hsame
      · refine h.congr fun table htable => hsame table ?_
        rintro rfl
        rcases List.mem_cons.mp htable with heq | htable
        · exact hinvoice heq
        · rcases List.mem_pair.mp htable with heq | heq
          · exact hitem heq
          · exact hkeeps heq
  | .update options =>
    obtain ⟨choices, writes, hexecute, rfl⟩ := hanswers
    obtain ⟨changed, hchanged, heq⟩ :=
      Exceptions.map_eq_ok_iff.mp (execute_eq_ok.mp hexecute).1
    cases heq
    exact h.applyAll_of_keys hkeeps (update_key_table hchanged)
  | .delete options =>
    obtain ⟨choices, writes, hexecute, rfl⟩ := hanswers
    obtain ⟨deleted, hdeleted, heq⟩ :=
      Exceptions.map_eq_ok_iff.mp (execute_eq_ok.mp hexecute).1
    cases heq
    exact h.applyAll_of_keys hkeeps (delete_key_table hdeleted)

end OperationsPosted

/-! ## The operations of an invoice -/

/-- The product and the count in a row. -/
def quantity (row : TableRow) : Int64 × Int64 :=
  (idIn .productId row, idIn .count row)

/-- The warehouses of an invoice that are there. -/
def sides (invoice : TableRow) : Nat :=
  (if (invoice .warehouseFromId).isSome then 1 else 0) +
    if (invoice .warehouseToId).isSome then 1 else 0

/-- An operation is made of its item and an invoice of the item. -/
theorem exists_of_mem_addOperations {tables : Tables} {item operation : TableRow}
    (h : operation ∈ addOperations tables item) :
    ∃ invoice ∈ invoicesOf tables item, ∃ warehouseId,
      operation = operationRow item invoice warehouseId := by
  rcases List.mem_append.mp h with h | h <;>
    obtain ⟨invoice, hinvoice, rfl⟩ := List.mem_map.mp h <;>
    exact ⟨invoice, List.mem_of_mem_filter hinvoice, _, rfl⟩

/-- The operations of an item have its product and its count. -/
theorem map_quantity_addOperations (tables : Tables) (item : TableRow) :
    (addOperations tables item).map quantity =
      List.replicate (addOperations tables item).length (quantity item) := by
  refine List.eq_replicate_iff.mpr ⟨List.length_map _, fun pair hpair => ?_⟩
  obtain ⟨operation, hoperation, rfl⟩ := List.mem_map.mp hpair
  obtain ⟨invoice, -, warehouseId, rfl⟩ := exists_of_mem_addOperations hoperation
  rfl

/-- There is one of them for each warehouse of the invoice. -/
theorem length_addOperations {tables : Tables} (hintegral : Integral schema tables)
    {item invoice : TableRow} (hinvoice : invoice ∈ tables .invoice)
    (hid : invoice .invoiceId = item .invoiceId) :
    (addOperations tables item).length = sides invoice := by
  rw [addOperations, addOperationFrom, addOperationTo,
    invoicesOf_eq_singleton hintegral hinvoice hid, sides, List.length_append, List.length_map,
    List.length_map]
  rcases hfrom : invoice .warehouseFromId with _ | warehouseFromId <;>
    rcases hto : invoice .warehouseToId with _ | warehouseToId <;> simp [hfrom, hto]

namespace OperationsPosted

variable {tables : Tables}

/-- The operations of an invoice are those of its items. -/
theorem perm (h : OperationsPosted tables) (hintegral : Integral schema tables)
    {invoice : TableRow} (hinvoice : invoice ∈ tables .invoice) :
    (((tables .operation).filter fun row => row .invoiceId = invoice .invoiceId).map
      quantity).Perm
        (((tables .invoiceItem).filter fun row => row .invoiceId = invoice .invoiceId).flatMap
          fun item => List.replicate (sides invoice) (quantity item)) := by
  have hleft : ((tables .operation).filter fun row => row .invoiceId = invoice .invoiceId).map
      quantity = (((tables .operation).map withoutOperationId).filter fun row =>
        row .invoiceId = invoice .invoiceId).map quantity := by
    rw [List.filter_map, List.map_map]
    rfl
  have hright : (((tables .invoiceItem).flatMap (addOperations tables)).filter fun row =>
      row .invoiceId = invoice .invoiceId).map quantity =
        ((tables .invoiceItem).filter fun row => row .invoiceId = invoice .invoiceId).flatMap
          fun item => List.replicate (sides invoice) (quantity item) := by
    induction tables .invoiceItem with
    | nil => rfl
    | cons item items ih =>
      have hmade : ∀ operation ∈ addOperations tables item,
          operation .invoiceId = item .invoiceId := by
        intro operation hoperation
        obtain ⟨_, -, warehouseId, rfl⟩ := exists_of_mem_addOperations hoperation
        rfl
      rw [List.flatMap_cons, List.filter_append, List.map_append, ih]
      by_cases hitem : item .invoiceId = invoice .invoiceId
      · rw [List.filter_cons_of_pos (by simpa using hitem), List.flatMap_cons,
          List.filter_eq_self.mpr fun operation hoperation =>
            decide_eq_true ((hmade operation hoperation).trans hitem),
          map_quantity_addOperations, length_addOperations hintegral hinvoice hitem.symm]
      · rw [List.filter_cons_of_neg (by simpa using hitem), List.filter_eq_nil_iff.mpr ?_]
        · rfl
        · intro operation hoperation
          rw [decide_eq_true_eq, hmade operation hoperation]
          exact hitem
  rw [hleft, ← hright]
  exact (h.operations.filter _).map quantity

end OperationsPosted

/-! ## Tasks that change the stock -/

/-- The statements of these tasks leave operations to the triggers. -/
theorem StockStatement.keepsRecords {statement : Statement} (h : StockStatement statement) :
    KeepsRecords statement.options := by
  rcases h with ⟨⟨productId, warehouseId⟩ | ⟨nonempty, created⟩ | ⟨created⟩ | ⟨created⟩⟩ |
    ⟨table, params⟩
  · trivial
  · rw [(QueryFactory.createDelete_eq_ok.mp created).2]
    exact show Table.warehouseItem ∉ recordTables by decide
  · obtain ⟨-, -, rfl⟩ := QueryFactory.createInsert_eq_ok.mp created
    exact show Table.warehouseItem ≠ .operation by decide
  · rw [(QueryFactory.createUpdate_eq_ok.mp created).2.2]
    exact show Table.warehouseItem ∉ recordTables by decide
  · show _ ≠ Table.operation
    intro hoperation
    rw [hoperation] at table
    revert table
    decide

/-- An attempt that gets to its end leaves the operations posted. -/
theorem StockAttempt.operationsPosted (stockAttempt : StockAttempt) {tables tables' : Tables}
    {s' : ProductsTask}
    (h : stockAttempt.memory.1.RunsTo Answers tables stockAttempt.memory.2 tables' s')
    (hintegral : Integral schema tables) (hposted : OperationsPosted tables) :
    Integral schema tables' ∧ OperationsPosted tables' := by
  obtain ⟨entry', hcompletes⟩ := h
  have hstatements := (stockAttempt.failed.sends stockAttempt.sends).executeChain
    stockAttempt.memory.2
  have hstep : ∀ (before : Tables) (statement : Statement) (rows : Rows) (after : Tables),
      StockStatement statement → Integral schema before ∧ OperationsPosted before →
        Answers before statement rows after → Integral schema after ∧ OperationsPosted after := by
    intro before statement rows after hstatement hbefore hanswers
    exact ⟨hanswers.integral hbefore.1,
      hbefore.2.answers hstatement.keepsRecords hanswers hbefore.1⟩
  exact hcompletes.preserves hstep hstatements ⟨hintegral, hposted⟩

end TaskMgr.Tasks

import WarehouseAccounting.TaskManager.Details
import WarehouseAccounting.TaskManager.PostedOperations
import WarehouseAccounting.TaskManager.Tasks.ProductsBodies
import WarehouseAccounting.TaskManager.Tasks.ReportTasks

/-!
# Reports by period

What `ReportsByPeriod` answers on the tables as they are: the invoices of the operations of the
period, with the products of these operations.

- `answers_selectByPeriod`: the statement of `Operation::SelectEntryByPeriod` finds the operations
  of the period, whatever the warehouse is.
- `ReportsByPeriod.collected_of_runsTo`: what a chain that gets to its end has collected from them.
- `ReportsByPeriod.Collected.reportedInvoices`: the invoices in the answer.
-/

namespace TaskMgr.Tasks

open Ufa Srv.Db Srv.Db.Trsct Srv.Db.Sql Srv.Db.DbMgr.Scpts Relational

/-! ## The operations of a period -/

/-- The row is of a time between the two times. -/
def inPeriod (periodFrom periodTo : UInt64) (row : TableRow) : Bool :=
  match row .createdDate with
  | some (.integer date) => (periodFrom.toNat : Int) < date && date < periodTo.toNat
  | _ => false

/-- The operations of a period. -/
def periodOperations (tables : Tables) (periodFrom periodTo : UInt64) : List TableRow :=
  (tables .operation).filter (inPeriod periodFrom periodTo)

/-- The columns of `Operation::SelectEntryByPeriod`. -/
def operationColumns : List Column :=
  [.invoiceId, .invoicePrettyName, .productId, .warehouseId, .count, .createdDate, .createdBy]

/-- A time as a parameter of a `bigint` column. -/
def isTimestamp (time : UInt64) : Bool :=
  decide ((time.toNat : Int) ≤ 2 ^ 63 - 1)

/-- The comparison with the two times. -/
theorem bindAll_period (periodFrom periodTo : UInt64) :
    RowTest.bindAll (columnType .operation)
        [.compare .createdDate .greater periodFrom.toNat,
          .compare .createdDate .less periodTo.toNat] =
      if isTimestamp periodFrom && isTimestamp periodTo then
        .ok (.and [.compare .createdDate .greater (some (.integer periodFrom.toNat)),
          .compare .createdDate .less (some (.integer periodTo.toNat))])
      else .error .other := by
  have hcolumn : columnType .operation .createdDate = .ok .int8 := rfl
  have hvalue : ∀ time : UInt64, bindValue .int8 (some (toString (time.toNat : Int))) =
      if isTimestamp time then .ok (some (.integer time.toNat)) else .error .other := by
    intro time
    unfold bindValue isTimestamp
    dsimp only
    rw [ColumnType.parse_toString]
    by_cases htime : (time.toNat : Int) ≤ 2 ^ 63 - 1
    · rw [if_pos ⟨by omega, htime⟩, if_pos (decide_eq_true htime)]
    · rw [if_neg (fun h => htime h.2), if_neg (by simpa using htime)]
  rw [RowTest.bindAll, List.mapM_cons, List.mapM_cons, List.mapM_nil]
  simp only [RowTest.bind, hcolumn, hvalue, ok_bind]
  cases isTimestamp periodFrom <;> cases isTimestamp periodTo <;> rfl

/-- The rows between two times. -/
theorem selects_period (periodFrom periodTo : UInt64) {row : TableRow}
    (h : TypedOn operationColumns row) :
    (Predicate.and [.compare .createdDate .greater (some (.integer periodFrom.toNat)),
      .compare .createdDate .less (some (.integer periodTo.toNat))]).selects row =
        inPeriod periodFrom periodTo row := by
  rw [Bool.eq_iff_iff, Predicate.selects, decide_eq_true_eq, inPeriod]
  simp only [Predicate.eval, Predicate.evalAnd]
  rcases hdate : row .createdDate with _ | date | text
  · simp [Predicate.compareNullable, Predicate.conjunction]
  · simp [Predicate.compareNullable, Comparison.holds, Value.precedes]
  · have hadmits := h .createdDate (by decide) _ hdate
    cases hadmits

/-- An operation that is stored has values of these columns. -/
theorem typedOn_operation {tables : Tables} (hintegral : Integral schema tables) {row : TableRow}
    (hrow : row ∈ tables .operation) : TypedOn operationColumns row :=
  typedOn_of_conforms (hintegral.conforms .operation row hrow) (by decide)

/-- The statement of `Operation::SelectEntryByPeriod` is answered with the operations of the
period. -/
theorem answers_selectByPeriod (choices : Nat → Choices) (clock : Nat)
    (periodFrom periodTo : UInt64)
    {tables : Tables} (hintegral : Integral schema tables) :
    (quietDatabase choices).answers clock
        ⟨(Operation.selectByPeriodQuery periodFrom periodTo).options,
          (Operation.selectByPeriodQuery periodFrom periodTo).params.toPqxx⟩ tables =
      if isTimestamp periodFrom && isTimestamp periodTo then
        .ok (((choices clock).arrange (periodOperations tables periodFrom periodTo)).map
          (project operationColumns), tables)
      else .error .other := by
  let tests : List RowTest :=
    [.compare .createdDate .greater periodFrom.toNat, .compare .createdDate .less periodTo.toNat]
  let options : SelectOptions :=
    { table := .operation
      columns := operationColumns
      condition := some (RowTest.group tests) }
  have hstatement : (⟨(Operation.selectByPeriodQuery periodFrom periodTo).options,
      (Operation.selectByPeriodQuery periodFrom periodTo).params.toPqxx⟩ : Statement) =
        selectStatement options := rfl
  have hparams : selectParams options = tests.flatMap RowTest.params :=
    RowTest.toPqxx_collectParams tests
  have hbind : bindWhereBy (typeIn (scopeOf options)) options.condition (selectParams options) =
      RowTest.bindAll (columnType .operation) tests := by
    rw [hparams]
    exact RowTest.bindWhereBy_group _ tests
  have hcondition := bindAll_period periodFrom periodTo
  rw [hstatement, answers_selectStatement choices clock (List.cons_ne_nil _ _)]
  cases htimes : isTimestamp periodFrom && isTimestamp periodTo with
  | true =>
    rw [htimes, if_pos rfl] at hcondition
    have hfound : found options (selectParams options) tables =
        .ok (periodOperations tables periodFrom periodTo) := by
      refine found_eq_ok.mpr ⟨rfl, _, hbind.trans hcondition, ?_⟩
      rw [fromRows_of_joins_nil rfl]
      exact (List.filter_congr fun row hrow =>
        selects_period periodFrom periodTo (typedOn_operation hintegral hrow)).symm
    have hselected : selected (choices clock) options (selectParams options) tables =
        .ok ((choices clock).arrange (periodOperations tables periodFrom periodTo)) :=
      selected_eq_ok.mpr ⟨rfl, rfl, _, hfound, rfl⟩
    rw [hselected]
    rfl
  | false =>
    rw [htimes, if_neg Bool.false_ne_true] at hcondition
    have hfound : found options (selectParams options) tables = .error .other := by
      unfold found
      rw [hbind, hcondition]
      rfl
    have hselected : selected (choices clock) options (selectParams options) tables =
        .error .other := by
      unfold selected
      rw [hfound]
      rfl
    rw [hselected]
    rfl

/-- A statement for some ids is answered with their rows. -/
theorem answers_selectByIds (choices : Nat → Choices) (clock : Nat) {table : Table}
    {columns : List Column} {idColumn : Column} (hint8 : columnType table idColumn = .ok .int8)
    (hcolumns : areColumns table columns = true) (hne : columns ≠ []) {ids : List Int64}
    (hids : ids ≠ []) (tables : Tables) :
    (quietDatabase choices).answers clock (selectStatement
        { table, columns, condition := some (.inList idColumn (ids.map integer)) }) tables =
      .ok (((choices clock).arrange ((tables table).filter fun row =>
        ids.any fun id => hasId idColumn id row)).map (project columns), tables) := by
  let options : SelectOptions :=
    { table, columns, condition := some (.inList idColumn (ids.map integer)) }
  have hselected : selected (choices clock) options (selectParams options) tables =
      .ok ((choices clock).arrange ((tables table).filter fun row =>
        ids.any fun id => hasId idColumn id row)) := by
    refine selected_eq_ok.mpr ⟨?_, rfl, _, found_inList rfl hint8 hids rfl tables, rfl⟩
    rw [outputsExist_of_joins_nil rfl, areColumns, List.all_append, Bool.and_eq_true]
    exact ⟨hcolumns, rfl⟩
  rw [answers_selectStatement choices clock hne, hselected]
  rfl

/-! ## What the operations are collected into -/

/-- A field of a row that is sent. -/
theorem fieldAt_project {columns : List Column} {index : Nat} {column : Column}
    (h : columns[index]? = some column) (row : TableRow) :
    fieldAt (project columns row) index = .ok ((row column).map Value.toText) := by
  rw [fieldAt, project, List.getElem?_map, h]
  rfl

/-- A number that is there is stored as it is. -/
theorem eq_integer_idIn {columns : List Column} {row : TableRow} (h : TypedOn columns row)
    {column : Column} (hcolumn : column ∈ columns) (htype : columnValues column = .int8)
    (hsome : (row column).isSome = true) :
    row column = some (.integer (idIn column row).toInt) :=
  of_decide_eq_true ((hasId_iff h hcolumn htype hsome).mpr rfl)

/-- The operation of a row. -/
structure Operation.IsRow (row : TableRow) (operation : Operation) : Prop where
  invoiceId : operation.invoiceId = some (idIn .invoiceId row)
  productId : operation.productId = some (idIn .productId row)
  count : operation.count = some (idIn .count row)

/-- A row that is read is the operation of the row. -/
theorem Operation.isRow_of_fromPeriodRow {row : TableRow}
    (hconforms : schema.conforms .operation row = true) {operation : Operation}
    (h : Operation.fromPeriodRow (project operationColumns row) = .ok operation) :
    operation.IsRow row := by
  have htyped : TypedOn operationColumns row := typedOn_of_conforms hconforms (by decide)
  have hinvoice := getInt64_idIn htyped .invoiceId (by decide) rfl
    (isSome_of_conforms hconforms (by decide))
  have hproduct := getInt64_idIn htyped .productId (by decide) rfl
    (isSome_of_conforms hconforms (by decide))
  have hcount := getInt64_idIn htyped .count (by decide) rfl
    (isSome_of_conforms hconforms (by decide))
  simp only [Operation.fromPeriodRow, bind_eq_ok, pure, Except.pure, Except.ok.injEq] at h
  obtain ⟨_, hfield, invoiceId, hinvoiceId, _, hsome, _, -, _, -, _, -, _, hfield', productId,
    hproductId, _, hsome', _, -, _, -, _, hfield'', count, hcountId, _, hsome'', _, -, _, -, _, -,
    _, -, _, -, _, -, rfl⟩ := h
  cases (fieldAt_project rfl row).symm.trans hfield
  cases (fieldAt_project rfl row).symm.trans hfield'
  cases (fieldAt_project rfl row).symm.trans hfield''
  cases hinvoice.symm.trans hinvoiceId
  cases hproduct.symm.trans hproductId
  cases hcount.symm.trans hcountId
  cases hsome
  cases hsome'
  cases hsome''
  exact ⟨rfl, rfl, rfl⟩

/-- What the operations of some rows have been collected into. -/
structure ReportsByPeriod.Folded {F : Type} (rows : List TableRow) (task : ReportsByPeriod F) :
    Prop where
  invoices : task.invoices.map Invoice.invoiceId =
    rows.map fun row => some (idIn .invoiceId row)
  operations : ∀ id, (mapAt [] id task.operations).map Operation.productId =
    (rows.filter fun row => idIn .invoiceId row = id).map fun row => some (idIn .productId row)
  products : ∀ id, task.products.lookup id =
    ((rows.filter fun row => idIn .productId row = id).getLast?).map fun row =>
      { count := some (idIn .count row), id := some id }

namespace ReportsByPeriod

variable {F : Type}

/-- One more operation is collected. -/
theorem Folded.operationsConsumer {rows : List TableRow} {task task' : ReportsByPeriod F}
    (h : task.Folded rows) {row : TableRow} {operation : Operation} (hrow : operation.IsRow row)
    (hconsumed : ReportsByPeriod.operationsConsumer operation task = .ok task') :
    task'.Folded (rows ++ [row]) := by
  unfold ReportsByPeriod.operationsConsumer at hconsumed
  rw [hrow.productId, hrow.invoiceId, hrow.count] at hconsumed
  cases hconsumed
  constructor
  · rw [List.map_append, List.map_append, h.invoices]
    rfl
  · intro id
    rw [List.filter_append, List.map_append, ← h.operations id, mapAt_mapAssign]
    by_cases hid : id = idIn .invoiceId row
    · subst hid
      simp [hrow.productId]
    · simp [hid, Ne.symm hid]
  · intro id
    rw [List.filter_append, lookup_mapAssign]
    by_cases hid : id = idIn .productId row
    · subst hid
      simp
    · rw [if_neg hid, h.products id]
      simp [Ne.symm hid]

/-- All operations are collected. -/
theorem Folded.foldlM {before rows : List TableRow} {task task' : ReportsByPeriod F}
    (h : task.Folded before) (hconforms : ∀ row ∈ rows, schema.conforms .operation row = true)
    (hfold : (rows.map (project operationColumns)).foldlM (fun task row => do
      ReportsByPeriod.operationsConsumer (← Operation.fromPeriodRow row) task) task =
        .ok task') :
    task'.Folded (before ++ rows) := by
  induction rows generalizing before task with
  | nil =>
    cases hfold
    rw [List.append_nil]
    exact h
  | cons row rows ih =>
    rw [List.map_cons, List.foldlM_cons] at hfold
    obtain ⟨middle, hmiddle, hrest⟩ := bind_eq_ok.mp hfold
    obtain ⟨operation, hread, hconsumed⟩ := bind_eq_ok.mp hmiddle
    have hrow := Operation.isRow_of_fromPeriodRow (hconforms row List.mem_cons_self) hread
    rw [List.append_cons]
    exact ih (h.operationsConsumer hrow hconsumed)
      (fun other hother => hconforms other (List.mem_cons_of_mem _ hother)) hrest

/-- The operations that are collected change nothing of the report. -/
theorem report_of_foldlM {rows : Rows} {task task' : ReportsByPeriod F}
    (hfold : rows.foldlM (fun task row => do
      ReportsByPeriod.operationsConsumer (← Operation.fromPeriodRow row) task) task = .ok task') :
    task'.report = task.report := by
  induction rows generalizing task with
  | nil =>
    cases hfold
    rfl
  | cons row rows ih =>
    rw [List.foldlM_cons] at hfold
    obtain ⟨middle, hmiddle, hrest⟩ := bind_eq_ok.mp hfold
    obtain ⟨operation, -, hconsumed⟩ := bind_eq_ok.mp hmiddle
    unfold ReportsByPeriod.operationsConsumer at hconsumed
    obtain ⟨productId, -, hconsumed⟩ := bind_eq_ok.mp hconsumed
    obtain ⟨invoiceId, -, hconsumed⟩ := bind_eq_ok.mp hconsumed
    cases hconsumed
    have hreport := ih hrest
    exact hreport

/-- Calls of the consumer for some rows, one after the other, collect these rows. -/
def Consumer.Collects (consumer : Consumer F) (rows : List TableRow) : Prop :=
  ∀ task task' : ReportsByPeriod F, task.Folded [] →
    (rows.map (project operationColumns)).foldlM (fun task row => do
      consumer (← Operation.fromPeriodRow row) task) task = .ok task' →
    task'.report = task.report ∧ task'.Folded rows

/-- The consumer as it is written collects the rows that it is called for. -/
theorem collects_operationsConsumer {rows : List TableRow}
    (hconforms : ∀ row ∈ rows, schema.conforms .operation row = true) :
    Consumer.Collects (F := F) ReportsByPeriod.operationsConsumer rows :=
  fun _ _ hempty hfold => ⟨report_of_foldlM hfold, hempty.foldlM hconforms hfold⟩

/-- The rows of products say nothing about counts. -/
theorem counts_of_filled {rows : Rows} {products products' : List (Int64 × Product)}
    (h : rows.foldlM (fun products row => do
      let id ← required (← getInt64 (← fieldAt row 0))
      return mapAssign id (← Product.fillFromRow row (mapAt {} id products)) products) products =
        .ok products') (id : Int64) :
    (mapAt {} id products').count = (mapAt {} id products).count ∧
      ((mapAt {} id products).id = some id → (mapAt {} id products').id = some id) := by
  induction rows generalizing products with
  | nil =>
    cases h
    exact ⟨rfl, fun hid => hid⟩
  | cons row rows ih =>
    rw [List.foldlM_cons] at h
    obtain ⟨middle, hmiddle, hrest⟩ := bind_eq_ok.mp h
    simp only [bind_eq_ok, pure, Except.pure, Except.ok.injEq] at hmiddle
    obtain ⟨_, hfield, _, hvalue, other, hsome, product, hproduct, rfl⟩ := hmiddle
    obtain ⟨hcount, hid⟩ := ih hrest
    rw [mapAt_mapAssign] at hcount hid
    by_cases hother : id = other
    · subst hother
      rw [if_pos rfl] at hcount hid
      -- The row is that of the product.
      simp only [Product.fillFromRow, bind_eq_ok, pure, Except.pure, Except.ok.injEq] at hproduct
      obtain ⟨_, hfield', _, hvalue', own, hsome', _, -, _, -, _, -, _, -, _, -, _, -, _, -, _, -,
        _, -, _, -, _, -, _, -, _, -, _, -, _, -, _, -, rfl⟩ := hproduct
      cases hfield.symm.trans hfield'
      cases hvalue.symm.trans hvalue'
      cases hsome.symm.trans hsome'
      exact ⟨hcount, fun _ => hid rfl⟩
    · rw [if_neg hother] at hcount hid
      exact ⟨hcount, hid⟩

/-! ## The entries of the chain -/

section Chain

variable {choices : Nat → Choices} {tables : Tables} {clock : Nat} {after : Nat × Tables}
  {task task' : ReportsByPeriod F}

/-- The operations of a period have values of their columns, in whatever order they are found. -/
theorem conforms_arrange (hintegral : Integral schema tables) (periodFrom periodTo : UInt64) :
    ∀ row ∈ (choices clock).arrange (periodOperations tables periodFrom periodTo),
      schema.conforms .operation row = true := by
  intro row hrow
  have hmem := ((choices clock).arrange_perm _).mem_iff.mp hrow
  exact hintegral.conforms .operation row (List.mem_of_mem_filter hmem)

/-- `Operation::SelectEntryByPeriod` calls its consumer for the operations of the period, in the
order in which they are found. -/
theorem foldlM_of_operationEntry (hintegral : Integral schema tables) {consumer : Consumer F}
    {periodFrom periodTo : UInt64}
    (h : (operationEntry consumer periodFrom periodTo).RunsTo
      (Program.Clocked (quietDatabase choices).answers) (clock, tables) task after task') :
    after = (clock + 1, tables) ∧
      let rows := ((choices clock).arrange (periodOperations tables periodFrom periodTo)).map
        (project operationColumns)
      rows.foldlM (fun task row => do consumer (← Operation.fromPeriodRow row) task)
        { task with operationResults := rows } = .ok task' := by
  obtain ⟨middle, t, hall, hnull⟩ := Entry.runsTo_grouped.mp h
  obtain ⟨rfl, rfl⟩ := Entry.runsTo_null.mp hnull
  obtain ⟨⟨clock', state⟩, found, hquery, hall⟩ := Entry.executesAll_cons.mp hall
  obtain ⟨rows, ⟨hstep, hclock⟩, rfl⟩ := Entry.executes_query.mp hquery
  obtain ⟨middle, t, hvariable, hall⟩ := Entry.executesAll_cons.mp hall
  obtain ⟨rfl, rfl⟩ := Entry.executesAll_nil.mp hall
  dsimp only at hstep hclock
  subst hclock
  rw [answers_selectByPeriod choices clock periodFrom periodTo hintegral] at hstep
  split at hstep
  case isFalse => cases hstep
  cases hstep
  have hcode := Entry.executes_variable.mp hvariable
  unfold ofExcept at hcode
  split at hcode
  case h_2 => exact hcode.elim
  rename_i folded hfold
  obtain ⟨rfl, rfl, -⟩ := hcode
  exact ⟨rfl, hfold⟩

/-- A consumer that collects the operations of the period has collected them then. -/
theorem folded_of_operationEntry (hintegral : Integral schema tables) {consumer : Consumer F}
    {periodFrom periodTo : UInt64}
    (hcollects : consumer.Collects
      ((choices clock).arrange (periodOperations tables periodFrom periodTo)))
    (hempty : task.Folded [])
    (h : (operationEntry consumer periodFrom periodTo).RunsTo
      (Program.Clocked (quietDatabase choices).answers) (clock, tables) task after task') :
    after = (clock + 1, tables) ∧
      task'.Folded ((choices clock).arrange (periodOperations tables periodFrom periodTo)) := by
  obtain ⟨hafter, hfold⟩ := foldlM_of_operationEntry hintegral h
  have hstart : ({ task with operationResults := ((choices clock).arrange (periodOperations tables
      periodFrom periodTo)).map (project operationColumns) } : ReportsByPeriod F).Folded [] :=
    ⟨hempty.invoices, hempty.operations, hempty.products⟩
  exact ⟨hafter, (hcollects _ _ hstart hfold).2⟩

/-- The invoice is one of those that the operations belong to. -/
def hasOperation (rows : List TableRow) (invoice : TableRow) : Bool :=
  rows.any fun row => row .invoiceId = invoice .invoiceId

/-- These are the invoices whose ids are read of the operations. -/
theorem any_hasId_eq_hasOperation (hintegral : Integral schema tables) {rows : List TableRow}
    (hstored : ∀ row ∈ rows, row ∈ tables .operation) (invoice : TableRow) :
    ((rows.map (idIn .invoiceId)).any fun id => hasId .invoiceId id invoice) =
      hasOperation rows invoice := by
  rw [List.any_map, hasOperation, Bool.eq_iff_iff, List.any_eq_true, List.any_eq_true]
  refine exists_congr fun row => and_congr_right fun hrow => ?_
  have hid := eq_integer_idIn (typedOn_operation hintegral (hstored row hrow)) (by decide) rfl
    (isSome_of_conforms (hintegral.conforms .operation row (hstored row hrow))
      (show .invoiceId ∈ _ by decide))
  rw [Function.comp_apply, hasId, decide_eq_true_eq, decide_eq_true_eq, hid, eq_comm]

/-- The ids of the invoices are those in the operations. -/
theorem Folded.ids_eq {rows : List TableRow} (h : task.Folded rows) {ids : List Int64}
    (hids : task.invoices.map Invoice.invoiceId = ids.map some) :
    ids = rows.map (idIn .invoiceId) := by
  refine List.map_injective_iff.mpr (Option.some_injective _) ?_
  rw [← hids, h.invoices, List.map_map]
  rfl

/-- `Invoice::SelectEntry` replaces the invoices by those that are stored. -/
theorem invoices_of_invoicesEntry (hintegral : Integral schema tables)
    (h : (Invoice.selectEntry ReportsByPeriod.invoices
      (fun invoices task => { task with invoices }) ReportsByPeriod.invoiceResults
      (fun rows task => { task with invoiceResults := rows })).RunsTo
        (Program.Clocked (quietDatabase choices).answers) (clock, tables) task after task') :
    after = (clock + 1, tables) ∧ task'.operations = task.operations ∧
      task'.products = task.products ∧ ∃ ids : List Int64, ids ≠ [] ∧
        task.invoices.map Invoice.invoiceId = ids.map some ∧
        List.Forall₂ (fun row (invoice : Invoice) =>
          invoice.invoiceId = some (idIn .invoiceId row))
          ((choices clock).arrange ((tables .invoice).filter fun row =>
            ids.any fun id => hasId .invoiceId id row)) task'.invoices := by
  obtain ⟨middle, t, hall, hnull⟩ := Entry.runsTo_grouped.mp h
  obtain ⟨rfl, rfl⟩ := Entry.runsTo_null.mp hnull
  obtain ⟨⟨clock', state⟩, found, hquery, hall⟩ := Entry.executesAll_cons.mp hall
  obtain ⟨middle, t, hvariable, hall⟩ := Entry.executesAll_cons.mp hall
  obtain ⟨rfl, rfl⟩ := Entry.executesAll_nil.mp hall
  have hfirst := Entry.executes_variable.mp hquery
  have hsecond := Entry.executes_variable.mp hvariable
  split at hfirst
  case h_1 => exact hfirst.elim
  rename_i ids hids
  split at hfirst
  case isTrue => exact hfirst.elim
  rename_i hsome
  obtain ⟨rows, ⟨clock'', state'⟩, ⟨hstep, hclock⟩, hstate, rfl, -⟩ := hfirst
  cases hstate
  dsimp only at hstep hclock
  subst hclock
  have hanswer : (quietDatabase choices).answers clock
      ⟨(Invoice.selectQuery ids).options, (Invoice.selectQuery ids).params.toPqxx⟩ tables = _ :=
    answers_selectByIds choices clock rfl (by decide) (List.cons_ne_nil _ _)
      (by simpa using hsome) tables
  cases hanswer.symm.trans hstep
  split at hsecond
  case isTrue => exact hsecond.elim
  split at hsecond
  case h_2 => exact hsecond.elim
  rename_i invoices hinvoices
  obtain ⟨rfl, rfl, -⟩ := hsecond
  refine ⟨rfl, rfl, rfl, ids, by simpa using hsome, ?_, ?_⟩
  · have hread : List.Forall₂ (fun (invoice : Invoice) id => invoice.invoiceId = some id)
        task.invoices ids :=
      (Exceptions.mapM_eq_ok_iff.mp hids).imp fun invoice id hid => required_eq_ok.mp hid
    rw [← List.forall₂_eq_eq_eq, List.forall₂_map_left_iff, List.forall₂_map_right_iff]
    exact hread
  · have htyped : ∀ row ∈ (choices clock).arrange ((tables .invoice).filter fun row =>
        ids.any fun id => hasId .invoiceId id row), TypedOn [.invoiceId, .warehouseToId,
          .warehouseFromId, .name, .prettyName, .description, .createdDate, .createdBy] row := by
      intro row hrow
      have hmem := ((choices clock).arrange_perm _).mem_iff.mp hrow
      exact typedOn_of_conforms (hintegral.conforms .invoice row (List.mem_of_mem_filter hmem))
        (by decide)
    have hread := List.forall₂_map_left_iff.mp (Exceptions.mapM_eq_ok_iff.mp hinvoices)
    refine ((List.forall₂_and_left _ _).mpr ⟨htyped, hread⟩).imp ?_
    exact fun row invoice hrow => GetInvoiceList.invoiceId_of_fromRow hrow.1 hrow.2

/-- `Product::SelectEntry` keeps the counts. -/
theorem figures_of_productsEntry
    (h : productsEntry.RunsTo (Program.Clocked (quietDatabase choices).answers) (clock, tables) task
      after task') :
    after = (clock + 1, tables) ∧ task'.operations = task.operations ∧
      task'.invoices = task.invoices ∧ ∀ id,
        (mapAt {} id task'.products).count = (mapAt {} id task.products).count ∧
          ((mapAt {} id task.products).id = some id →
            (mapAt {} id task'.products).id = some id) := by
  obtain ⟨middle, t, hall, hnull⟩ := Entry.runsTo_grouped.mp h
  obtain ⟨rfl, rfl⟩ := Entry.runsTo_null.mp hnull
  obtain ⟨⟨clock', state⟩, found, hquery, hall⟩ := Entry.executesAll_cons.mp hall
  obtain ⟨middle, t, hvariable, hall⟩ := Entry.executesAll_cons.mp hall
  obtain ⟨rfl, rfl⟩ := Entry.executesAll_nil.mp hall
  have hfirst := Entry.executes_variable.mp hquery
  have hsecond := Entry.executes_variable.mp hvariable
  split at hfirst
  case isTrue => exact hfirst.elim
  rename_i hsome
  obtain ⟨rows, ⟨clock'', state'⟩, ⟨hstep, hclock⟩, hstate, rfl, -⟩ := hfirst
  cases hstate
  dsimp only at hstep hclock
  subst hclock
  have hanswer : (quietDatabase choices).answers clock
      ⟨(Product.selectQuery (task.products.map Prod.fst)).options,
        (Product.selectQuery (task.products.map Prod.fst)).params.toPqxx⟩ tables = _ :=
    answers_selectByIds choices clock rfl (by decide) (List.cons_ne_nil _ _)
      (by simpa using hsome) tables
  cases hanswer.symm.trans hstep
  unfold ofExcept at hsecond
  split at hsecond
  case h_2 => exact hsecond.elim
  rename_i filled hfilled
  obtain ⟨rfl, rfl, -⟩ := hsecond
  dsimp only at hfilled
  split at hfilled
  case isTrue => cases hfilled
  obtain ⟨products, hfold, hproducts⟩ := bind_eq_ok.mp hfilled
  cases hproducts
  exact ⟨rfl, rfl, rfl, counts_of_filled hfold⟩

/-- The file and the row of the report change no figures. -/
theorem figures_of_createReportFile {createFile : Report → F → Except Exception (String × F)}
    {state state' : Nat × Tables}
    (h : (Entry.variable (ofExcept (createReportFile createFile)) .null).RunsTo
      (Program.Clocked (quietDatabase choices).answers) state task state' task') :
    task'.operations = task.operations ∧ task'.invoices = task.invoices ∧
      task'.products = task.products := by
  obtain ⟨middle, t, hcode, hnull⟩ := Entry.runsTo_variable.mp h
  obtain ⟨rfl, rfl⟩ := Entry.runsTo_null.mp hnull
  unfold ofExcept at hcode
  split at hcode
  case h_2 => exact hcode.elim
  rename_i created hcreated
  obtain ⟨rfl, rfl, -⟩ := hcode
  obtain ⟨⟨filepath, files⟩, -, hcreated⟩ := bind_eq_ok.mp hcreated
  cases hcreated
  exact ⟨rfl, rfl, rfl⟩

/-- The row of the report changes no figures. -/
theorem figures_of_reportEntry {state state' : Nat × Tables}
    (h : reportEntry.RunsTo (Program.Clocked (quietDatabase choices).answers) state task
      state' task') :
    task'.operations = task.operations ∧ task'.invoices = task.invoices ∧
      task'.products = task.products := by
  obtain ⟨middle, t, hall, hnull⟩ := Entry.runsTo_grouped.mp h
  obtain ⟨rfl, rfl⟩ := Entry.runsTo_null.mp hnull
  obtain ⟨middle, found, hquery, hall⟩ := Entry.executesAll_cons.mp hall
  obtain ⟨middle', t, hvariable, hall⟩ := Entry.executesAll_cons.mp hall
  obtain ⟨rfl, rfl⟩ := Entry.executesAll_nil.mp hall
  have hfirst := Entry.executes_variable.mp hquery
  have hsecond := Entry.executes_variable.mp hvariable
  split at hfirst
  case h_1 => exact hfirst.elim
  obtain ⟨rows, state'', -, -, rfl, -⟩ := hfirst
  unfold ofExcept at hsecond
  split at hsecond
  case h_2 => exact hsecond.elim
  rename_i stored hstored
  obtain ⟨-, rfl, -⟩ := hsecond
  obtain ⟨_, -, hstored⟩ := bind_eq_ok.mp hstored
  obtain ⟨_, -, hstored⟩ := bind_eq_ok.mp hstored
  obtain ⟨_, -, hstored⟩ := bind_eq_ok.mp hstored
  cases hstored
  exact ⟨rfl, rfl, rfl⟩

/-- The last count of a product. -/
def lastCount (rows : List TableRow) (productId : Int64) : Int64 :=
  (rows.filter fun row => idIn .productId row = productId).getLast?.elim 0 (idIn .count)

/-- What the transaction has collected from some operations: their invoices, the products of each
invoice, and the last count of each product. -/
structure Collected (tables : Tables) (rows : List TableRow) (task : ReportsByPeriod F) : Prop where
  invoices : ∃ invoiceRows : List TableRow,
    invoiceRows.Perm ((tables .invoice).filter (hasOperation rows)) ∧
      List.Forall₂ (fun row (invoice : Invoice) => invoice.invoiceId = some (idIn .invoiceId row))
        invoiceRows task.invoices
  operations : ∀ id, (mapAt [] id task.operations).map Operation.productId =
    (rows.filter fun row => idIn .invoiceId row = id).map fun row => some (idIn .productId row)
  products : ∀ row ∈ rows,
    (mapAt {} (idIn .productId row) task.products).id = some (idIn .productId row) ∧
      (mapAt {} (idIn .productId row) task.products).count =
        some (lastCount rows (idIn .productId row))

/-- A chain that gets to its end has found operations in the period, and has collected them when
its consumer does. -/
theorem collected_of_runsTo (hintegral : Integral schema tables) {timestamp : UInt64}
    {consumer : Consumer F}
    {createFile : Report → F → Except Exception (String × F)} {memory : ReportsByPeriod F}
    {entry : Entry (ReportsByPeriod F)} {periodFrom periodTo : UInt64}
    (hfrom : task.report.periodFrom = some periodFrom) (hto : task.report.periodTo = some periodTo)
    (hcollects : consumer.Collects
      ((choices 1).arrange (periodOperations tables periodFrom periodTo)))
    (hempty : task.Folded [])
    (hchain : task.chain timestamp consumer createFile = .ok (entry, memory))
    (h : entry.RunsTo (Program.Clocked (quietDatabase choices).answers) (0, tables) memory after
      task') :
    ∃ rows, rows ≠ [] ∧ rows.Perm (periodOperations tables periodFrom periodTo) ∧
      task'.Collected tables rows := by
  unfold chain at hchain
  obtain ⟨warehouseId, -, hchain⟩ := bind_eq_ok.mp hchain
  rw [hfrom, hto] at hchain
  cases hchain
  obtain ⟨_, task₁, hwarehouse, h⟩ := (Entry.runsTo_setNext_of_last (by trivial) (by rfl)).mp h
  obtain ⟨_, task₂, hoperations, h⟩ := (Entry.runsTo_setNext_of_last (by trivial) (by rfl)).mp h
  obtain ⟨_, task₃, hinvoices, h⟩ := (Entry.runsTo_setNext_of_last (by trivial) (by rfl)).mp h
  obtain ⟨_, task₄, hproducts, h⟩ := (Entry.runsTo_setNext_of_last (by trivial) (by rfl)).mp h
  obtain ⟨_, task₅, hfile, hreport⟩ := (Entry.runsTo_setNext_of_last (by trivial) (by rfl)).mp h
  obtain ⟨rfl, filled, -, hfilled⟩ := Warehouse.runsTo_selectEntry.mp hwarehouse
  have hstart : task₁.Folded [] := by
    rw [hfilled]
    exact ⟨hempty.invoices, hempty.operations, hempty.products⟩
  obtain ⟨rfl, hfolded⟩ := folded_of_operationEntry hintegral hcollects hstart hoperations
  obtain ⟨rfl, hoperations₃, hproducts₃, ids, hne, hids, hread⟩ :=
    invoices_of_invoicesEntry hintegral hinvoices
  obtain ⟨rfl, hoperations₄, hinvoices₄, hcounts⟩ := figures_of_productsEntry hproducts
  obtain ⟨hoperations₅, hinvoices₅, hproducts₅⟩ := figures_of_createReportFile hfile
  obtain ⟨hoperations₆, hinvoices₆, hproducts₆⟩ := figures_of_reportEntry hreport
  have hperm := (choices 1).arrange_perm (periodOperations tables periodFrom periodTo)
  have hstored : ∀ row ∈ (choices 1).arrange (periodOperations tables periodFrom periodTo),
      row ∈ tables .operation := fun row hrow => List.mem_of_mem_filter (hperm.mem_iff.mp hrow)
  refine ⟨_, ?_, hperm, ?_, ?_, ?_⟩
  · intro hnil
    have hread := hfolded.ids_eq hids
    rw [hnil] at hread
    exact hne hread
  · rw [hinvoices₆, hinvoices₅, hinvoices₄]
    refine ⟨_, ((choices 2).arrange_perm _).trans (.of_eq ?_), hread⟩
    refine List.filter_congr fun invoice _ => ?_
    rw [hfolded.ids_eq hids, any_hasId_eq_hasOperation hintegral hstored]
  · rw [hoperations₆, hoperations₅, hoperations₄, hoperations₃]
    exact hfolded.operations
  · intro row hrow
    obtain ⟨last, hlast⟩ : ∃ last, (((choices 1).arrange (periodOperations tables periodFrom
        periodTo)).filter fun other => idIn .productId other = idIn .productId row).getLast? =
          some last := by
      refine ⟨_, List.getLast?_eq_some_getLast (List.ne_nil_of_mem (a := row) ?_)⟩
      exact List.mem_filter.mpr ⟨hrow, decide_eq_true rfl⟩
    have hproduct : mapAt {} (idIn .productId row) task₂.products =
        { count := some (idIn .count last), id := some (idIn .productId row) } := by
      rw [mapAt, hfolded.products, hlast]
      rfl
    have hkept := hcounts (idIn .productId row)
    rw [hproducts₃, hproduct] at hkept
    rw [hproducts₆, hproducts₅, hkept.1, lastCount, hlast]
    exact ⟨hkept.2 rfl, rfl⟩

end Chain

end ReportsByPeriod

/-! ## The answer -/

/-- The array under a key. -/
def arrayAt (key : String) (json : Json) : List Json :=
  ((json.member key).map Json.elements).getD []

/-- The number under a key. -/
def numberAt (key : String) (json : Json) : Option Int64 :=
  match json.member key with
  | some (.integer value) => some value
  | _ => none

/-- The invoices in the answer of a report, with the products and the counts that are listed under
them. -/
def reportedInvoices (response : Json) :
    List (Option Int64 × List (Option Int64 × Option Int64)) :=
  (arrayAt "invoices" response).map fun invoice =>
    (numberAt "invoice_id" invoice, (arrayAt "products" invoice).map fun product =>
      (numberAt "id" product, numberAt "count" product))

/-- What stands under a key of an object that is put once. -/
theorem member_putAll {puts : List (String × Option Json)} (hnodup : (puts.map Prod.fst).Nodup)
    (key : String) : (Json.object (putAll puts)).member key = (puts.lookup key).join :=
  lookup_putAll hnodup key

/-- The object of a product shows its id and its count. -/
theorem Product.numbers_of_reportJson {product : Product} {dateProvider : DateProvider}
    {json : Json}
    (h : product.reportJson dateProvider = .ok json) :
    numberAt "id" json = product.id ∧ numberAt "count" json = product.count := by
  simp only [reportJson, bind_eq_ok, required_eq_ok, pure, Except.pure, Except.ok.injEq] at h
  obtain ⟨name, hname, id, hid, count, hcount, createdDate, hdate, createdBy, hauthor, prettyName,
    hpretty, rfl⟩ := h
  unfold numberAt
  rw [member_putAll (by simp), member_putAll (by simp), hid, hcount]
  exact ⟨rfl, rfl⟩

namespace ReportsByPeriod

variable {F : Type} {tables : Tables} {rows : List TableRow} {task : ReportsByPeriod F}
  {dateProvider : DateProvider} {json : Json}

/-- What is listed under an invoice: the products of its operations, with their last counts. -/
def listed (rows : List TableRow) (invoiceId : Int64) : List (Option Int64 × Option Int64) :=
  (rows.filter fun row => idIn .invoiceId row = invoiceId).map fun row =>
    (some (idIn .productId row), some (lastCount rows (idIn .productId row)))

/-- The object of an invoice lists these products. -/
theorem Collected.invoiceJson (h : task.Collected tables rows) {id : Int64} {invoice : Invoice}
    (hid : invoice.invoiceId = some id) (hjson : task.invoiceJson dateProvider invoice = .ok json) :
    (numberAt "invoice_id" json, (arrayAt "products" json).map fun product =>
      (numberAt "id" product, numberAt "count" product)) = (some id, listed rows id) := by
  simp only [ReportsByPeriod.invoiceJson, operationsOf, bind_eq_ok, required_eq_ok, pure,
    Except.pure, Except.ok.injEq] at hjson
  obtain ⟨invoiceId, hinvoiceId, prettyName, -, createdDate, -, createdBy, -, operations,
    ⟨invoiceId', hinvoiceId', hoperations⟩, products, hproducts, rfl⟩ := hjson
  cases hid.symm.trans hinvoiceId
  cases hid.symm.trans hinvoiceId'
  subst hoperations
  have hstored : ∀ operation ∈ mapAt [] id task.operations, ∃ row ∈ rows,
      operation.productId = some (idIn .productId row) := by
    intro operation hoperation
    have hmem := List.mem_map_of_mem (f := Operation.productId) hoperation
    rw [h.operations id] at hmem
    obtain ⟨row, hrow, heq⟩ := List.mem_map.mp hmem
    exact ⟨row, List.mem_of_mem_filter hrow, heq.symm⟩
  -- A product is shown with what was collected for it.
  have hshown := Exceptions.map_eq_of_mapM
    (fun product => (numberAt "id" product, numberAt "count" product))
    (fun operation : Operation => (operation.productId, operation.productId.map (lastCount rows)))
    hproducts fun operation hoperation product hproduct => by
      obtain ⟨row, hrow, hproductId⟩ := hstored operation hoperation
      obtain ⟨collected, hcollected, hjson⟩ := bind_eq_ok.mp hproduct
      rw [productOf, hproductId] at hcollected
      cases hcollected
      obtain ⟨hid, hcount⟩ := Product.numbers_of_reportJson hjson
      obtain ⟨hid', hcount'⟩ := h.products row hrow
      rw [hid, hid', hcount, hcount', hproductId]
      rfl
  have hlisted : listed rows id = ((mapAt [] id task.operations).map Operation.productId).map
      fun productId => (productId, productId.map (lastCount rows)) := by
    rw [h.operations id, List.map_map]
    rfl
  rw [hlisted, List.map_map]
  refine Prod.ext ?_ ?_
  · show numberAt _ _ = some id
    rw [numberAt, member_putAll (by simp)]
    rfl
  · show (arrayAt _ _).map _ = _
    rw [arrayAt, member_putAll (by simp)]
    exact hshown

/-- The answer lists the invoices of the operations, with their products. -/
theorem Collected.reportedInvoices (h : task.Collected tables rows)
    (hjson : task.json dateProvider = .ok json) :
    ∃ invoiceRows : List TableRow,
      invoiceRows.Perm ((tables .invoice).filter (hasOperation rows)) ∧
        reportedInvoices json = invoiceRows.map fun invoice =>
          (some (idIn .invoiceId invoice), listed rows (idIn .invoiceId invoice)) := by
  simp only [ReportsByPeriod.json, bind_eq_ok, required_eq_ok, pure, Except.pure,
    Except.ok.injEq] at hjson
  obtain ⟨reportId, -, filepath, -, createdDate, -, createdBy, -, name, -, periodFrom, -, periodTo,
    -, warehouseId, -, invoices, hinvoices, rfl⟩ := hjson
  obtain ⟨invoiceRows, hperm, hread⟩ := h.invoices
  refine ⟨invoiceRows, hperm, ?_⟩
  have hshown := Exceptions.map_eq_of_mapM
    (fun invoice => (numberAt "invoice_id" invoice, (arrayAt "products" invoice).map fun product =>
      (numberAt "id" product, numberAt "count" product)))
    (fun invoice : Invoice => (some (invoice.invoiceId.getD 0),
      listed rows (invoice.invoiceId.getD 0))) hinvoices fun invoice hinvoice object hobject => by
        obtain ⟨row, -, hid⟩ := Exceptions.exists_of_forall₂_right hread hinvoice
        rw [h.invoiceJson hid hobject, hid]
        rfl
  have hids : invoiceRows.map (idIn .invoiceId) =
      task.invoices.map fun invoice => invoice.invoiceId.getD 0 := by
    rw [← List.forall₂_eq_eq_eq, List.forall₂_map_left_iff, List.forall₂_map_right_iff]
    refine hread.imp fun row invoice hid => ?_
    rw [hid]
    rfl
  have hlisted : invoiceRows.map (fun invoice =>
      (some (idIn .invoiceId invoice), listed rows (idIn .invoiceId invoice))) =
        (invoiceRows.map (idIn .invoiceId)).map fun id => (some id, listed rows id) := by
    rw [List.map_map]
    rfl
  rw [hlisted, hids, List.map_map]
  refine Eq.trans ?_ hshown
  rw [TaskMgr.Tasks.reportedInvoices, arrayAt, member_putAll (by simp)]
  rfl

/-! ## Requests -/

/-- The members of a task that was parsed from these values. -/
def parsed (initiativeUserId : UInt64) (files : F) (name : String) (description : Option String)
    (warehouseId : Int64) (periodFrom periodTo : UInt64) : ReportsByPeriod F where
  report :=
    { name := some name
      description
      warehouseId := some warehouseId
      createdBy := some initiativeUserId
      periodFrom := some periodFrom
      periodTo := some periodTo
      reportType := some 0 }
  warehouse := { warehouseId := some warehouseId }
  files

/-- `ReportsByPeriod::ParseInternal`. -/
def parseInternal (dateProvider : DateProvider) (initiativeUserId : UInt64) (files : F)
    (json : Json) : Except Exception (ReportsByPeriod F) := do
  let name ← Json.get Json.getString json "name"
  let description ← Json.getOptional Json.getString json "description"
  let warehouseId ← Json.get Json.getInt64 json "warehouse_id"
  let periodFrom ← required (dateProvider.fromIsoTimeString
    (← Json.get Json.getString json "period_from"))
  let periodTo ← required (dateProvider.fromIsoTimeString
    (← Json.get Json.getString json "period_to"))
  return parsed initiativeUserId files name description warehouseId periodFrom periodTo

/-- A task that is executed has collected nothing yet. -/
theorem exists_parsed_of_parseInternal {initiativeUserId : UInt64} {files : F} {body : Json}
    {task : ReportsByPeriod F}
    (h : parseInternal dateProvider initiativeUserId files body = .ok task) :
    ∃ name description warehouseId periodFrom periodTo,
      task = parsed initiativeUserId files name description warehouseId periodFrom periodTo := by
  simp only [parseInternal, bind_eq_ok, pure, Except.pure, Except.ok.injEq] at h
  obtain ⟨name, -, description, -, warehouseId, -, _, -, periodFrom, -, _, -, periodTo, -, rfl⟩ := h
  exact ⟨name, description, warehouseId, periodFrom, periodTo, rfl⟩

/-- A report succeeds when its chain gets to its end, and its page and its answer can be written. -/
theorem respond_eq_success_iff {D : Type} {consumer : Consumer F}
    {createFile : Report → F → Except Exception (String × F)}
    {answers : Program.Answers Exception Statement Rows D} {visible : D} :
    (task.transactionTask dateProvider consumer createFile).respond answers visible =
        ⟨json, .success⟩ ↔
      ∃ entry memory after task',
        task.chain (dateProvider.getTimestamp 0) consumer createFile = .ok (entry, memory) ∧
          entry.RunsTo (Program.Clocked answers) (0, visible) memory after task' ∧
          (∃ page, task'.writeReportFile = .ok page) ∧ task'.json dateProvider = .ok json := by
  have hfinish : ∀ (exception : Exception) (memory : ReportsByPeriod F) (json : Json),
      finish dateProvider exception.result memory ≠ .ok (.success, json) := by
    intro exception memory json
    unfold finish
    rw [if_neg exception.result_ne_success]
    exact finishDone_result_ne_success exception _ json
  -- The page is written before the answer.
  have hfinished : ∀ task' : ReportsByPeriod F,
      finish dateProvider .success task' = .ok (.success, json) ↔
        (∃ page, task'.writeReportFile = .ok page) ∧ task'.json dateProvider = .ok json := by
    intro task'
    unfold finish
    rw [if_pos rfl]
    constructor
    · intro h
      obtain ⟨page, hpage, hdone⟩ := bind_eq_ok.mp h
      exact ⟨⟨page, hpage⟩, finishDone_eq_ok.mp hdone⟩
    · rintro ⟨⟨page, hpage⟩, hjson⟩
      exact bind_eq_ok.mpr ⟨page, hpage, finishDone_eq_ok.mpr hjson⟩
  constructor
  · intro h
    obtain ⟨entry, memory, after, task', hchain, hruns, hend, -⟩ :=
      TransactionTask.exists_runsTo rfl hfinish h
    exact ⟨entry, memory, after, task', hchain, hruns, (hfinished task').mp hend⟩
  · rintro ⟨entry, memory, after, task', hchain, hruns, hend⟩
    have hprepare : (task.transactionTask dateProvider consumer createFile).prepare =
        .ok (entry, memory) := by
      show prepared _ = _
      rw [hchain]
      rfl
    exact (TransactionTask.respond_eq_success hprepare hfinish).mpr
      ⟨after, task', hruns, (hfinished task').mpr hend⟩

/-- A successful answer shows what was collected from the operations of the period, of which there
are some. -/
theorem collected_of_respond {choices : Nat → Choices} (hintegral : Integral schema tables)
    {consumer : Consumer F} {createFile : Report → F → Except Exception (String × F)}
    {periodFrom periodTo : UInt64}
    (hfrom : task.report.periodFrom = some periodFrom) (hto : task.report.periodTo = some periodTo)
    (hcollects : consumer.Collects
      ((choices 1).arrange (periodOperations tables periodFrom periodTo)))
    (hempty : task.Folded [])
    (h : (task.transactionTask dateProvider consumer createFile).respond
      (quietDatabase choices).answers tables = ⟨json, .success⟩) :
    ∃ (rows : List TableRow) (task' : ReportsByPeriod F), rows ≠ [] ∧
      rows.Perm (periodOperations tables periodFrom periodTo) ∧ task'.Collected tables rows ∧
        task'.json dateProvider = .ok json := by
  obtain ⟨entry, memory, after, task', hchain, hruns, -, hjson⟩ := respond_eq_success_iff.mp h
  obtain ⟨rows, hne, hrows, hcollected⟩ :=
    collected_of_runsTo hintegral hfrom hto hcollects hempty hchain hruns
  exact ⟨rows, task', hne, hrows, hcollected, hjson⟩

end ReportsByPeriod

end TaskMgr.Tasks

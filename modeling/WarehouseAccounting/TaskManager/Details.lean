import WarehouseAccounting.TaskManager.Listings

/-!
# The responses of single items

The responses of the tasks for one id on the tables as they are: the object of the row with the id.

- `GetProduct.respond_task`, `GetUser.respond_task`, `GetReport.respond_task`: a task of one
  statement succeeds when it can show the row.
- `GetInvoice.respond_task`, `GetWarehouse.respond_task`: so do the tasks that ask for the items
  first, whose objects contain those of the items.
-/

namespace TaskMgr.Tasks

open Ufa Srv.Db Srv.Db.Trsct Srv.Db.Sql Srv.Db.DbMgr.Scpts Relational

/-! ## Rows with an id -/

/-- The row with an id is the only one. -/
theorem filter_hasId_eq_singleton {tables : Tables} (hintegral : Integral schema tables)
    {table : Table} {column : Column} (hkey : (tableSchema table).primaryKey = [column])
    {id : Int64} {row : TableRow} (hrow : row ∈ tables table)
    (hid : hasId column id row = true) : (tables table).filter (hasId column id) = [row] := by
  have hkeys := hintegral.keys_nodup table
  have hnodup : ((tables table).filter (hasId column id)).Nodup :=
    (List.Nodup.of_map _ hkeys).filter _
  refine List.perm_singleton.mp ((List.perm_ext_iff_of_nodup hnodup
    (List.nodup_singleton row)).mpr fun other => ?_)
  rw [List.mem_filter, List.mem_singleton]
  constructor
  · rintro ⟨hother, hotherId⟩
    -- Rows with the same id have the same key.
    refine List.inj_on_of_nodup_map hkeys hother hrow ?_
    rw [hasId, decide_eq_true_eq] at hid hotherId
    show (⟨table, (tableSchema table).primaryKey.map other⟩ : Key Table) =
      ⟨table, (tableSchema table).primaryKey.map row⟩
    rw [hkey, List.map_singleton, List.map_singleton, hotherId, hid]
  · rintro rfl
    exact ⟨hrow, hid⟩

section Details

variable {tables : Tables} {choices : Nat → Choices}

/-- The rows with an id, in the order in which a statement for the id is answered. -/
def rowsOfId (choices : Choices) (tables : Tables) (table : Table) (idColumn : Column)
    (id : Int64) : List TableRow :=
  choices.arrange ((tables table).filter (hasId idColumn id))

/-- A statement for one id is answered with the rows of the id. -/
theorem answers_selectById (choices : Nat → Choices) (clock : Nat) {table : Table}
    {columns : List Column} {idColumn : Column} (hint8 : columnType table idColumn = .ok .int8)
    (hcolumns : areColumns table columns = true) (hne : columns ≠ []) (id : Int64)
    (tables : Tables) :
    (quietDatabase choices).answers clock
        (selectStatement (selectById table columns idColumn id)) tables =
      .ok ((rowsOfId (choices clock) tables table idColumn id).map (project columns), tables) := by
  have hjoins : (selectById table columns idColumn id).joins = [] := rfl
  have hselected : selected (choices clock) (selectById table columns idColumn id)
      (selectParams (selectById table columns idColumn id)) tables =
        .ok (rowsOfId (choices clock) tables table idColumn id) := by
    refine selected_eq_ok.mpr ⟨?_, rfl, _, found_equal hjoins hint8 rfl tables, rfl⟩
    rw [outputsExist_of_joins_nil hjoins, areColumns, List.all_append, Bool.and_eq_true]
    exact ⟨hcolumns, rfl⟩
  rw [answers_selectStatement choices clock hne, hselected]
  rfl

/-- There is one row with a primary key. -/
theorem rowsOfId_eq_singleton (hintegral : Integral schema tables) (choices : Choices)
    {table : Table} {idColumn : Column} (hkey : (tableSchema table).primaryKey = [idColumn])
    {id : Int64} {row : TableRow} (hrow : row ∈ tables table)
    (hid : hasId idColumn id row = true) : rowsOfId choices tables table idColumn id = [row] := by
  rw [rowsOfId, filter_hasId_eq_singleton hintegral hkey hrow hid]
  exact List.perm_singleton.mp (choices.arrange_perm [row])

/-! ## Tasks of one statement -/

/-- A single item of one statement, from what it makes of the row. -/
theorem respond_selectById (hintegral : Integral schema tables) {table : Table}
    {columns : List Column} {idColumn : Column}
    (hkey : (tableSchema table).primaryKey = [idColumn])
    (hint8 : columnType table idColumn = .ok .int8) (hcolumns : areColumns table columns = true)
    (hne : columns ≠ []) {id : Int64} {row : TableRow} (hrow : row ∈ tables table)
    (hid : hasId idColumn id row = true) {answer : Rows → Except Exception Json} {view : View}
    {dateProvider : DateProvider}
    (hview : TypedOn columns row → ∀ json, answer [project columns row] = .ok json ↔
      view.readable row = true ∧ json = view.object dateProvider row) {response : Json} :
    (rowsTask (selectById table columns idColumn id) fun result rows =>
        finishFound rows result ((answer rows).map resultJson)).respond
          (quietDatabase choices).answers tables = ⟨response, .success⟩ ↔
      view.readable row = true ∧ response = resultJson (view.object dateProvider row) := by
  have htyped : TypedOn columns row :=
    typedOn_of_conforms (hintegral.conforms table row hrow) hcolumns
  have hanswer : (quietDatabase choices).answers 0
      (selectStatement (selectById table columns idColumn id)) tables =
        .ok ([project columns row], tables) := by
    rw [answers_selectById choices 0 hint8 hcolumns hne,
      rowsOfId_eq_singleton hintegral (choices 0) hkey hrow hid]
    rfl
  rw [respond_rowsTask, hanswer, foundResponse_eq_success]
  constructor
  · rintro ⟨rows, hrows, -, hok⟩
    cases hrows
    obtain ⟨json, hjson, rfl⟩ := Exceptions.map_eq_ok_iff.mp hok
    obtain ⟨hreadable, rfl⟩ := (hview htyped json).mp hjson
    exact ⟨hreadable, rfl⟩
  · rintro ⟨hreadable, rfl⟩
    refine ⟨_, rfl, List.cons_ne_nil _ _, Exceptions.map_eq_ok_iff.mpr ⟨_, ?_, rfl⟩⟩
    exact (hview htyped _).mpr ⟨hreadable, rfl⟩

/-- An object that is made in two steps is answered. -/
theorem bind_resultJson {α : Type} (first : Except Exception α)
    (next : α → Except Exception Json) :
    (do return resultJson (← next (← first))) = (do next (← first)).map resultJson := by
  cases first with
  | error exception => rfl
  | ok value =>
    show (next value >>= fun json => pure (resultJson json)) = (next value).map resultJson
    cases next value <;> rfl

/-- A product that is there. -/
theorem GetProduct.respond_task (hintegral : Integral schema tables) {id : Int64} {row : TableRow}
    (hrow : row ∈ tables .product) (hid : hasId .productId id row = true)
    (dateProvider : DateProvider) {response : Json} :
    (task dateProvider id).respond (quietDatabase choices).answers tables =
        ⟨response, .success⟩ ↔
      GetProductList.view.readable row = true ∧
        response = resultJson (GetProductList.view.object dateProvider row) := by
  have htask : task dateProvider id = rowsTask (options id) fun result rows =>
      finishFound rows result ((do json dateProvider (← fill id rows)).map resultJson) :=
    congrArg (rowsTask (options id)) (funext₂ fun result rows =>
      congrArg (finishFound rows result) (bind_resultJson (fill id rows) (json dateProvider)))
  rw [htask]
  refine respond_selectById hintegral rfl rfl (by decide) (List.cons_ne_nil _ _) hrow hid ?_
  exact fun htyped json => json_eq_view htyped (of_decide_eq_true hid) dateProvider json

/-- A user that is there. -/
theorem GetUser.respond_task (hintegral : Integral schema tables) {id : Int64} {row : TableRow}
    (hrow : row ∈ tables .user) (hid : hasId .userId id row = true)
    (dateProvider : DateProvider) {response : Json} :
    (task dateProvider id).respond (quietDatabase choices).answers tables =
        ⟨response, .success⟩ ↔
      view.readable row = true ∧ response = resultJson (view.object dateProvider row) := by
  have htask : task dateProvider id = rowsTask (options id) fun result rows =>
      finishFound rows result ((do json dateProvider (← fill id rows)).map resultJson) :=
    congrArg (rowsTask (options id)) (funext₂ fun result rows =>
      congrArg (finishFound rows result) (bind_resultJson (fill id rows) (json dateProvider)))
  rw [htask]
  refine respond_selectById hintegral rfl rfl (by decide) (List.cons_ne_nil _ _) hrow hid ?_
  exact fun htyped json => json_eq_view htyped (of_decide_eq_true hid) dateProvider json

/-- A report that is there. -/
theorem GetReport.respond_task (hintegral : Integral schema tables) {id : Int64} {row : TableRow}
    (hrow : row ∈ tables .report) (hid : hasId .reportId id row = true)
    (dateProvider : DateProvider) {response : Json} :
    (task dateProvider id).respond (quietDatabase choices).answers tables =
        ⟨response, .success⟩ ↔
      GetReportList.view.readable row = true ∧
        response = resultJson (GetReportList.view.object dateProvider row) := by
  have htask : task dateProvider id = rowsTask (options id) fun result rows =>
      finishFound rows result ((do (← fill id rows).json dateProvider).map resultJson) :=
    congrArg (rowsTask (options id)) (funext₂ fun result rows =>
      congrArg (finishFound rows result)
        (bind_resultJson (fill id rows) fun report => report.json dateProvider))
  rw [htask]
  refine respond_selectById hintegral rfl rfl (by decide) (List.cons_ne_nil _ _) hrow hid ?_
  exact fun htyped json => json_eq_view htyped (of_decide_eq_true hid) dateProvider json

/-! ## Invoices -/

/-- After an exception a task that looks at its rows first does not succeed. -/
theorem finishFound_result_ne_success (exception : Exception) (rows : Rows)
    (answer : Except Exception Json) (json : Json) :
    finishFound rows exception.result answer ≠ .ok (.success, json) := by
  unfold finishFound finishDone
  rw [if_neg exception.result_ne_success]
  split
  · rintro ⟨⟩
  · intro h
    exact exception.result_ne_success (congrArg Prod.fst (Except.ok.inj h))

/-- The answer of a task that has found rows. -/
theorem finishFound_cons_eq_ok (row : List (Option String)) (rows : Rows)
    {answer : Except Exception Json} {json : Json} :
    finishFound (row :: rows) .success answer = .ok (.success, json) ↔ answer = .ok json := by
  show answer.map (fun json => (Result.success, json)) = .ok (.success, json) ↔ answer = .ok json
  cases answer <;> simp [Except.map]

/-- A query entry of a task, with the rows that it is answered with. -/
theorem runsTo_selectById {σ : Type} {table : Table} {columns : List Column} {idColumn : Column}
    (hint8 : columnType table idColumn = .ok .int8) (hcolumns : areColumns table columns = true)
    (hne : columns ≠ []) {id : Int64} {store : Rows → σ → σ} {next : Entry σ} {clock : Nat}
    {after : Nat × Tables} {s s' : σ} :
    (Entry.query (.select (selectById table columns idColumn id))
        (QueryFactory.conditionParams (selectById table columns idColumn id).condition) store
          next).RunsTo (Program.Clocked (quietDatabase choices).answers)
            (clock, tables) s after s' ↔
      next.RunsTo (Program.Clocked (quietDatabase choices).answers) (clock + 1, tables)
        (store ((rowsOfId (choices clock) tables table idColumn id).map (project columns)) s)
        after s' := by
  have hanswer := answers_selectById choices clock hint8 hcolumns hne id tables
  rw [Entry.runsTo_query]
  constructor
  · rintro ⟨rows, ⟨clock', state⟩, ⟨hstep, hclock⟩, hrest⟩
    dsimp only at hstep hclock
    subst hclock
    cases Except.ok.inj (hanswer.symm.trans hstep)
    exact hrest
  · intro hrest
    exact ⟨_, (clock + 1, tables), ⟨hanswer, rfl⟩, hrest⟩

/-- The items of an id as a task for the id shows them. -/
theorem mapM_itemFromRow_project {α : Type}
    {itemFromRow : List (Option String) → Except Exception α}
    {itemJson : α → Except Exception Json} {object : TableRow → Json} {rows : List TableRow}
    (h : ∀ row ∈ rows, (do itemJson (← itemFromRow (project [.productId, .count] row))) =
      .ok (object row)) :
    (do (← (rows.map (project [.productId, .count])).mapM itemFromRow).mapM itemJson) =
      .ok (rows.map object) := by
  rw [Exceptions.mapM_bind_eq_ok_iff, List.mapM_map, Exceptions.mapM_eq_ok_iff,
    List.forall₂_map_right_iff, List.forall₂_same]
  exact h

/-- An object with those of the items that belong to it. -/
def View.objectOfItems (view : View) (dateProvider : DateProvider) (idKey : String)
    (idColumn : Column) (items : List TableRow) (row : TableRow) : Json :=
  .object (putAll (view.puts dateProvider row ++
    [("items", some (.array (items.map (itemObject idKey idColumn))))]))

/-- An invoice that is there. -/
theorem GetInvoice.respond_task (hintegral : Integral schema tables) {id : Int64} {row : TableRow}
    (hrow : row ∈ tables .invoice) (hid : hasId .invoiceId id row = true)
    (dateProvider : DateProvider) {response : Json} :
    (task dateProvider id).respond (quietDatabase choices).answers tables =
        ⟨response, .success⟩ ↔
      GetInvoiceList.view.readable row = true ∧
        response = resultJson (GetInvoiceList.view.objectOfItems dateProvider "invoice_id"
          .invoiceId (rowsOfId (choices 0) tables .invoiceItem .invoiceId id) row) := by
  have htyped : TypedOn [.invoiceId, .warehouseToId, .warehouseFromId, .name, .prettyName,
      .description, .createdDate, .createdBy] row :=
    typedOn_of_conforms (hintegral.conforms .invoice row hrow) (by decide)
  let items := rowsOfId (choices 0) tables .invoiceItem .invoiceId id
  let objects := items.map (itemObject "invoice_id" .invoiceId)
  have hitem : ∀ item ∈ items,
      (do InvoiceItem.json (← itemFromRow id (project [.productId, .count] item))) =
        .ok (itemObject "invoice_id" .invoiceId item) := by
    intro item hitem
    obtain ⟨hmem, hitemId⟩ := List.mem_filter.mp ((choices 0).arrange_perm _ |>.mem_iff.mp hitem)
    have hconforms := hintegral.conforms .invoiceItem item hmem
    have hitemTyped : TypedOn [.invoiceId, .productId, .count] item :=
      typedOn_of_conforms hconforms (by decide)
    have hinvoice := (hasId_iff hitemTyped (by simp) rfl
      (isSome_of_conforms hconforms (by decide))).mp hitemId
    have hproduct := getInt64_idIn hitemTyped .productId (by simp) rfl
      (isSome_of_conforms hconforms (by decide))
    have hcount := getInt64_idIn hitemTyped .count (by simp) rfl
      (isSome_of_conforms hconforms (by decide))
    simp [itemFromRow, InvoiceItem.json, itemObject, project, fieldAt, hinvoice, hproduct, hcount,
      required_some, pure, Except.pure]
  obtain ⟨made, hmade, hobjects⟩ :=
    Exceptions.bind_eq_ok_iff.mp (mapM_itemFromRow_project hitem)
  have hruns : ∀ after memory, (chain id).RunsTo (Program.Clocked (quietDatabase choices).answers)
      (0, tables) { invoice := { invoiceId := some id } } after memory ↔
        after = (2, tables) ∧ memory =
          { invoice := { invoiceId := some id }
            itemResults := items.map (project [.productId, .count])
            invoiceResults := [project (options id).columns row] } := by
    intro after memory
    have hone := rowsOfId_eq_singleton hintegral (choices 1) rfl hrow hid
    refine (runsTo_selectById rfl (by decide) (List.cons_ne_nil _ _)).trans
      ((runsTo_selectById rfl (by decide) (List.cons_ne_nil _ _)).trans ?_)
    rw [Entry.runsTo_null, hone]
    rfl
  rw [TransactionTask.respond_eq_success rfl fun exception memory json =>
    finishFound_result_ne_success exception _ _ json]
  have hanswer : (do
      let requested ← required (some id)
      let made ← (items.map (project [.productId, .count])).mapM (itemFromRow requested)
      let invoice ← fill [project (options id).columns row]
      return resultJson (← invoice.json dateProvider (← made.mapM InvoiceItem.json))) =
        (do (← fill [project (options id).columns row]).json dateProvider objects).map
          resultJson := by
    rw [required_some, ok_bind, hmade, ok_bind, hobjects]
    exact bind_resultJson (fill [project (options id).columns row]) fun invoice =>
      invoice.json dateProvider objects
  have hview := json_eq_view htyped objects dateProvider
  constructor
  · rintro ⟨after, memory, hrun, hfinish⟩
    obtain ⟨-, rfl⟩ := (hruns after memory).mp hrun
    have hok := (finishFound_cons_eq_ok (project (options id).columns row) []).mp hfinish
    rw [hanswer] at hok
    obtain ⟨json, hjson, rfl⟩ := Exceptions.map_eq_ok_iff.mp hok
    obtain ⟨hreadable, rfl⟩ := (hview json).mp hjson
    exact ⟨hreadable, rfl⟩
  · rintro ⟨hreadable, rfl⟩
    refine ⟨_, _, (hruns _ _).mpr ⟨rfl, rfl⟩,
      (finishFound_cons_eq_ok (project (options id).columns row) []).mpr (hanswer.trans ?_)⟩
    exact Exceptions.map_eq_ok_iff.mpr ⟨_, (hview _).mpr ⟨hreadable, rfl⟩, rfl⟩

/-! ## Warehouses -/

/-- After an exception a task that passes the code on does not succeed. -/
theorem finishDone_result_ne_success (exception : Exception) (answer : Except Exception Json)
    (json : Json) : finishDone exception.result answer ≠ .ok (.success, json) := by
  unfold finishDone
  rw [if_neg exception.result_ne_success]
  intro h
  exact exception.result_ne_success (congrArg Prod.fst (Except.ok.inj h))

/-- `Warehouse::SelectEntry` fills the warehouse from the row that it finds. -/
theorem Warehouse.runsTo_selectEntry {σ : Type} {warehouse : σ → Warehouse}
    {setWarehouse : Warehouse → σ → σ} {results : σ → Rows} {store : Rows → σ → σ} {id : Int64}
    {clock : Nat} {after : Nat × Tables} {s s' : σ} :
    (selectEntry warehouse setWarehouse results store id).RunsTo
        (Program.Clocked (quietDatabase choices).answers) (clock, tables) s after s' ↔
      after = (clock + 1, tables) ∧
        let found := store ((rowsOfId (choices clock) tables .warehouse .warehouseId id).map
          (project [.name, .prettyName, .description, .createdDate, .createdBy, .location])) s
        ∃ filled, fillFromRows (results found) (warehouse found) = .ok filled ∧
          s' = setWarehouse filled found := by
  have hanswer : (quietDatabase choices).answers clock
      ⟨(selectQuery id).options, (selectQuery id).params.toPqxx⟩ tables = .ok (_, tables) :=
    answers_selectById choices clock rfl (by decide) (List.cons_ne_nil _ _) id tables
  rw [selectEntry, Entry.runsTo_grouped]
  constructor
  · rintro ⟨middle, t, hall, hnull⟩
    obtain ⟨rfl, rfl⟩ := Entry.runsTo_null.mp hnull
    obtain ⟨⟨clock', state⟩, found, hquery, hall⟩ := Entry.executesAll_cons.mp hall
    obtain ⟨rows, ⟨hstep, hclock⟩, rfl⟩ := Entry.executes_query.mp hquery
    obtain ⟨middle, t, hvariable, hall⟩ := Entry.executesAll_cons.mp hall
    obtain ⟨rfl, rfl⟩ := Entry.executesAll_nil.mp hall
    dsimp only at hstep hclock
    subst hclock
    cases Except.ok.inj (hanswer.symm.trans hstep)
    have hcode := Entry.executes_variable.mp hvariable
    split at hcode
    · rename_i filled hfilled
      obtain ⟨hafter, hmemory, -⟩ := hcode
      exact ⟨hafter, filled, hfilled, hmemory⟩
    · exact hcode.elim
  · rintro ⟨rfl, filled, hfilled, rfl⟩
    refine ⟨_, _, Entry.executesAll_cons.mpr ⟨(clock + 1, tables), _,
      Entry.executes_query.mpr ⟨_, ⟨hanswer, rfl⟩, rfl⟩, Entry.executesAll_cons.mpr
        ⟨_, _, Entry.executes_variable.mpr ?_, Entry.executesAll_nil.mpr ⟨rfl, rfl⟩⟩⟩,
      Entry.runsTo_null.mpr ⟨rfl, rfl⟩⟩
    rw [hfilled]
    exact ⟨rfl, rfl, rfl⟩

/-- The id stays. -/
theorem Warehouse.warehouseId_fillFromRows {results : Rows} {warehouse filled : Warehouse}
    (h : fillFromRows results warehouse = .ok filled) :
    filled.warehouseId = warehouse.warehouseId := by
  unfold fillFromRows at h
  split at h
  · cases h
  · simp only [bind_eq_ok, pure, Except.pure, Except.ok.injEq] at h
    obtain ⟨_, -, _, -, _, -, _, -, _, -, _, -, _, -, _, -, _, -, _, -, _, -, _, -, _, -, _, -,
      _, -, _, -, rfl⟩ := h
    rfl

/-- The answer of a task that passes the code on. -/
theorem finishDone_eq_ok {answer : Except Exception Json} {json : Json} :
    finishDone .success answer = .ok (.success, json) ↔ answer = .ok json := by
  show answer.map (fun json => (Result.success, json)) = .ok (.success, json) ↔ answer = .ok json
  cases answer <;> simp [Except.map]

/-- A warehouse that is there. -/
theorem GetWarehouse.respond_task (hintegral : Integral schema tables) {id : Int64}
    {row : TableRow} (hrow : row ∈ tables .warehouse) (hid : hasId .warehouseId id row = true)
    (dateProvider : DateProvider) {response : Json} :
    (task dateProvider id).respond (quietDatabase choices).answers tables =
        ⟨response, .success⟩ ↔
      view.readable row = true ∧
        response = resultJson (view.objectOfItems dateProvider "warehouse_id" .warehouseId
          (rowsOfId (choices 0) tables .warehouseItem .warehouseId id) row) := by
  have htyped : TypedOn [.name, .prettyName, .description, .createdDate, .createdBy, .location]
      row := typedOn_of_conforms (hintegral.conforms .warehouse row hrow) (by decide)
  let items := rowsOfId (choices 0) tables .warehouseItem .warehouseId id
  let objects := items.map (itemObject "warehouse_id" .warehouseId)
  have hitem : ∀ item ∈ items,
      (do WarehouseItem.json (← itemFromRow id (project [.productId, .count] item))) =
        .ok (itemObject "warehouse_id" .warehouseId item) := by
    intro item hitem
    obtain ⟨hmem, hitemId⟩ := List.mem_filter.mp ((choices 0).arrange_perm _ |>.mem_iff.mp hitem)
    have hconforms := hintegral.conforms .warehouseItem item hmem
    have hitemTyped : TypedOn [.warehouseId, .productId, .count] item :=
      typedOn_of_conforms hconforms (by decide)
    have hwarehouse := (hasId_iff hitemTyped (by simp) rfl
      (isSome_of_conforms hconforms (by decide))).mp hitemId
    have hproduct := getInt64_idIn hitemTyped .productId (by simp) rfl
      (isSome_of_conforms hconforms (by decide))
    have hcount := getInt64_idIn hitemTyped .count (by simp) rfl
      (isSome_of_conforms hconforms (by decide))
    simp [itemFromRow, WarehouseItem.json, itemObject, project, fieldAt, hwarehouse, hproduct,
      hcount, required_some, pure, Except.pure]
  obtain ⟨made, hmade, hobjects⟩ :=
    Exceptions.bind_eq_ok_iff.mp (mapM_itemFromRow_project hitem)
  let found := project [.name, .prettyName, .description, .createdDate, .createdBy, .location] row
  have hone := rowsOfId_eq_singleton hintegral (choices 1) rfl hrow hid
  have hruns : ∀ after memory, (chain id).RunsTo (Program.Clocked (quietDatabase choices).answers)
      (0, tables) { warehouse := { warehouseId := some id } } after memory ↔
        after = (2, tables) ∧ ∃ filled,
          Warehouse.fillFromRows [found] { warehouseId := some id } = .ok filled ∧ memory =
            { warehouse := filled
              itemResults := items.map (project [.productId, .count])
              warehouseResults := [found] } := by
    intro after memory
    refine (runsTo_selectById rfl (by decide) (List.cons_ne_nil _ _)).trans
      (Warehouse.runsTo_selectEntry.trans ?_)
    rw [hone]
    rfl
  rw [TransactionTask.respond_eq_success rfl fun exception memory json =>
    finishDone_result_ne_success exception _ json]
  have hview := json_eq_view htyped objects (of_decide_eq_true hid) dateProvider
  have hanswer : ∀ filled : Warehouse, filled.warehouseId = some id → (do
      let requested ← required filled.warehouseId
      let made ← (items.map (project [.productId, .count])).mapM (itemFromRow requested)
      return resultJson (← filled.json dateProvider (← made.mapM WarehouseItem.json))) =
        (filled.json dateProvider objects).map resultJson := by
    intro filled hfilled
    rw [hfilled, required_some, ok_bind, hmade, ok_bind, hobjects, ok_bind]
    cases filled.json dateProvider objects <;> rfl
  constructor
  · rintro ⟨after, memory, hrun, hfinish⟩
    obtain ⟨-, filled, hfilled, rfl⟩ := (hruns after memory).mp hrun
    have hok := (hanswer filled (Warehouse.warehouseId_fillFromRows hfilled)).symm.trans
      (finishDone_eq_ok.mp hfinish)
    obtain ⟨json, hjson, rfl⟩ := Exceptions.map_eq_ok_iff.mp hok
    obtain ⟨hreadable, rfl⟩ :=
      (hview json).mp (Exceptions.bind_eq_ok_iff.mpr ⟨filled, hfilled, hjson⟩)
    exact ⟨hreadable, rfl⟩
  · rintro ⟨hreadable, rfl⟩
    obtain ⟨filled, hfilled, hjson⟩ :=
      Exceptions.bind_eq_ok_iff.mp ((hview _).mpr ⟨hreadable, rfl⟩)
    refine ⟨_, _, (hruns _ _).mpr ⟨rfl, filled, hfilled, rfl⟩, finishDone_eq_ok.mpr
      ((hanswer filled (Warehouse.warehouseId_fillFromRows hfilled)).trans ?_)⟩
    exact Exceptions.map_eq_ok_iff.mpr ⟨_, hjson, rfl⟩

end Details

end TaskMgr.Tasks

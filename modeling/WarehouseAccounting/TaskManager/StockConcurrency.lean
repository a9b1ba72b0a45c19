import WarehouseAccounting.DbConnector.Commit
import WarehouseAccounting.DbConnector.Statements
import WarehouseAccounting.Foundations.SnapshotIsolation
import WarehouseAccounting.TaskManager.StockLedger

/-!
# Concurrent changes of the stock

The transactions of `ProductsCreate`, `ProductsMove` and `ProductsRemove` under the default
isolation, whose statements are interleaved in any order. `ChangeCount` computes from an earlier
read what it writes; it writes every row that it has read, and so it runs as if it were alone.

- `addresses`: the rows that a statement looks at.
- `StockAttempt.guarded`: whatever an attempt looks at is protected by what it writes.
- `stock_serializable`: at all times, the tables are what the committed transactions leave, run
  one at a time in the order of their commits.
-/

namespace TaskMgr.Tasks

open Ufa Srv.Db Srv.Db.Trsct Srv.Db.Sql Srv.Db.DbMgr.Scpts Relational SnapshotIsolation

/-! ## The rows that a statement looks at -/

/-- The key of a row of `Warehouse_Item`. -/
def itemKey (warehouseId productId : Int) : Key Table :=
  ⟨.warehouseItem, [some (.integer warehouseId), some (.integer productId)]⟩

/-- The key of an invoice. -/
def invoiceKey (invoiceId : Option Value) : Key Table :=
  ⟨.invoice, [invoiceId]⟩

/-- The keys that a condition of `ChangeCount` names. -/
def itemKeys : Option Condition → List (Key Table)
  | some (.group .and [.real .productId (.integer productId) .equal,
      .real .warehouseId (.integer warehouseId) .equal]) => [itemKey warehouseId productId]
  | some (.group .and [.inList .productId values,
      .real .warehouseId (.integer warehouseId) .equal]) =>
    values.filterMap fun
      | .integer productId => some (itemKey warehouseId productId)
      | .text _ => none
  | _ => []

/-- The invoices that the triggers look up for inserted items. -/
def invoiceKeys (options : InsertOptions) (params : List (Option String)) : List (Key Table) :=
  if options.table = .invoiceItem then
    match bindRows options.table options.columns options.valuesCount params with
    | .ok (rows, _) => rows.map fun values =>
        invoiceKey (assigned options.columns values .invoiceId).join
    | .error _ => []
  else
    []

/-- The keys of the rows that a statement looks at. -/
def addresses (statement : Statement) : List (Key Table) :=
  match statement.options with
  | .select options => itemKeys options.condition
  | .insert options => invoiceKeys options statement.params
  | .update options => itemKeys options.condition
  | .delete options => itemKeys options.condition
  | .raw _ => []

/-- The change of a count looks at its row. -/
theorem addresses_updateItem {warehouseId productId target : Int64} {query : Query}
    (h : WarehouseItem.updateItem warehouseId productId target = .ok query) :
    addresses (sent query) = [itemKey warehouseId.toInt productId.toInt] := by
  rw [(QueryFactory.createUpdate_eq_ok.mp h).2.2]
  rfl

/-- The deletion of rows looks at them. -/
theorem addresses_deleteItems {warehouseId : Int64} {productIds : List Int64} {query : Query}
    (h : WarehouseItem.deleteItems warehouseId productIds = .ok query) :
    addresses (sent query) =
      productIds.map fun productId => itemKey warehouseId.toInt productId.toInt := by
  rw [(QueryFactory.createDelete_eq_ok.mp h).2]
  show (productIds.map integer).filterMap _ = _
  rw [List.filterMap_map, ← List.filterMap_eq_map]
  rfl

/-- The creation of rows looks at none. -/
theorem addresses_insert_of_ne {options : InsertOptions} (h : options.table ≠ .invoiceItem)
    (params : List (Option String)) : addresses ⟨.insert options, params⟩ = [] := by
  show invoiceKeys options params = []
  unfold invoiceKeys
  rw [if_neg h]

/-- A row belongs to a warehouse and a product exactly when it has their key. -/
theorem isItem_iff_itemKey {warehouseId productId : Int} {row : TableRow} :
    isItem warehouseId productId row = true ↔
      schema.keyOf .warehouseItem row = itemKey warehouseId productId :=
  isItem_iff_keyOf

/-! ## The statements of the tasks -/

/-- The tables that rows are inserted into. -/
def insertedTables : List Table := [.invoice, .invoiceItem, .product, .warehouseItem]

/-- The statements that the transactions can send. -/
inductive StockStatement : Statement → Prop
  | item {statement : Statement} (item : WarehouseItem.ItemStatement statement) :
      StockStatement statement
  | insert {options : InsertOptions} (table : options.table ∈ insertedTables)
      (params : List (Option String)) : StockStatement ⟨.insert options, params⟩

/-- Insertions into these tables are plain. -/
theorem plain_insert {table : Table} (htable : table ∈ Table.operation :: insertedTables)
    (row : TableRow) : (Write.insert table row : Write Table Column).Plain schema := by
  unfold insertedTables at htable
  simp only [List.mem_cons, List.not_mem_nil, or_false] at htable
  rcases htable with rfl | rfl | rfl | rfl | rfl <;> exact ⟨by decide, rfl⟩

/-- The writes of an insertion. -/
theorem plain_of_insert {choices : Choices} {options : InsertOptions}
    (htable : options.table ∈ insertedTables) {params : List (Option String)} {tables : Tables}
    {rows : Rows} {writes : List (Write Table Column)}
    (h : Sql.insert choices options params tables = .ok (rows, writes)) :
    ∀ write ∈ writes, write.Plain schema := by
  obtain ⟨-, values, -, -, rfl⟩ := insert_eq_ok.mp h
  intro write hwrite
  rcases List.mem_append.mp hwrite with hrow | htriggered
  · obtain ⟨row, -, rfl⟩ := List.mem_map.mp hrow
    exact plain_insert (List.mem_cons_of_mem _ htable) row
  · obtain ⟨row, -, rfl⟩ := List.mem_map.mp htriggered
    exact plain_insert List.mem_cons_self row

/-- All writes of the transactions are plain. -/
theorem StockStatement.plain {statement : Statement} (h : StockStatement statement)
    {choices : Choices} {tables : Tables} {rows : Rows} {writes : List (Write Table Column)}
    (hperform : perform choices statement tables = .ok (rows, writes)) :
    ∀ write ∈ writes, write.Plain schema := by
  rcases h with ⟨⟨productId, warehouseId⟩ | ⟨nonempty, created⟩ | ⟨created⟩ | ⟨created⟩⟩ |
    ⟨table, params⟩
  · -- The read of a count.
    rw [perform_selectCount] at hperform
    cases hperform
    simp
  · -- The deletion of rows.
    rw [perform_deleteItems created nonempty] at hperform
    cases hperform
    intro write hwrite
    obtain ⟨row, -, rfl⟩ := List.mem_map.mp hwrite
    rfl
  · -- The creation of rows.
    obtain ⟨-, -, rfl⟩ := QueryFactory.createInsert_eq_ok.mp created
    exact plain_of_insert (show Table.warehouseItem ∈ insertedTables by decide) hperform
  · -- The change of a count.
    obtain ⟨-, -, rfl⟩ := perform_updateItem created hperform
    intro write hwrite
    obtain ⟨row, -, rfl⟩ := List.mem_map.mp hwrite
    exact ⟨show Table.warehouseItem ∈ schema.tables by decide, rfl, keyOf_setCount _ row, rfl⟩
  · exact plain_of_insert table hperform

/-! ## Statements on a part of the rows -/

/-- The tables have the same rows where the statement looks. -/
abbrev SameFor (statement : Statement) (tables others : Tables) : Prop :=
  restrict schema (fun key => decide (key ∈ addresses statement)) tables =
    restrict schema (fun key => decide (key ∈ addresses statement)) others

/-- The items that a statement looks at are the same. -/
theorem SameFor.filter_isItem {statement : Statement} {tables others : Tables}
    (h : SameFor statement tables others) (warehouseId productId : Int)
    (hkey : itemKey warehouseId productId ∈ addresses statement) :
    (tables .warehouseItem).filter (isItem warehouseId productId) =
      (others .warehouseItem).filter (isItem warehouseId productId) := by
  refine filter_congr_of_restrict h fun row hrow => ?_
  rw [decide_eq_true_eq, isItem_iff_itemKey.mp hrow]
  exact hkey

/-- The change of a count depends on its row only. -/
theorem perform_updateItem_congr {choices : Choices} {warehouseId productId target : Int64}
    {query : Query} (hquery : WarehouseItem.updateItem warehouseId productId target = .ok query)
    {tables others : Tables} (h : SameFor (sent query) tables others) :
    perform choices (sent query) tables = perform choices (sent query) others := by
  have hkey : itemKey warehouseId.toInt productId.toInt ∈ addresses (sent query) := by
    rw [addresses_updateItem hquery]
    exact List.mem_singleton_self _
  have hsame := h.filter_isItem warehouseId.toInt productId.toInt hkey
  obtain ⟨-, -, rfl⟩ := QueryFactory.createUpdate_eq_ok.mp hquery
  have hparams : ValueCollector.toPqxx (ValueCollector.append [] (integer target) ++
      QueryFactory.conditionParams (some (WarehouseItem.itemCondition productId warehouseId))) =
      [bound target, bound productId, bound warehouseId] := by
    simp [ValueCollector.append, QueryFactory.conditionParams, collectParams_itemCondition]
  have hcolumn : columnType .warehouseItem .count = .ok .int4 := rfl
  unfold sent
  rw [hparams]
  rcases hcount : bindValue .int4 (bound target) with exception | field
  · simp [perform, update, bindParams, hcolumn, hcount, bind, Except.bind]
  · simp only [perform, update, bindParams, hcolumn, hcount, pure, Except.pure, ok_bind,
      bindWhere_itemCondition, selects_itemCondition, hsame]

/-- The rows that the triggers add depend on the invoices of the items only. -/
theorem triggeredRows_congr {choices : Choices} {table : Table} {rows : List TableRow}
    {tables others : Tables}
    (h : table = .invoiceItem → ∀ row ∈ rows, invoicesOf tables row = invoicesOf others row) :
    triggeredRows choices table rows tables = triggeredRows choices table rows others := by
  unfold triggeredRows
  by_cases htable : table = .invoiceItem
  · rw [if_pos htable, if_pos htable]
    have hoperations :
        rows.flatMap (addOperations tables) = rows.flatMap (addOperations others) := by
      rw [List.flatMap_def, List.flatMap_def]
      congr 1
      refine List.map_congr_left fun row hrow => ?_
      unfold addOperations addOperationFrom addOperationTo
      rw [h htable row hrow]
    rw [hoperations]
  · rw [if_neg htable, if_neg htable]

/-- An invoice is found by its key. -/
theorem keyOf_invoice_of_equal {invoice : TableRow} {invoiceId : Option Value}
    (h : Predicate.compareNullable .equal (invoice .invoiceId) invoiceId = some true) :
    schema.keyOf .invoice invoice = invoiceKey invoiceId := by
  match invoiceId with
  | none =>
    unfold Predicate.compareNullable at h
    split at h <;> simp_all
  | some value =>
    show (⟨.invoice, [invoice .invoiceId]⟩ : Key Table) = _
    rw [Predicate.compareNullable_equal.mp h]
    rfl

/-- An insertion depends on the invoices of its items only. -/
theorem insert_congr {choices : Choices} {options : InsertOptions}
    {params : List (Option String)} {tables others : Tables}
    (h : SameFor ⟨.insert options, params⟩ tables others) :
    Sql.insert choices options params tables = Sql.insert choices options params others := by
  unfold Sql.insert
  rcases hvalues : bindRows options.table options.columns options.valuesCount params with
    exception | ⟨values, rest⟩
  · rfl
  · have htriggered : triggeredRows choices options.table
        (values.mapIdx (insertedRow choices options.table options.columns))
        (applyAll schema ((values.mapIdx (insertedRow choices options.table options.columns)).map
          (Write.insert options.table)) tables) =
      triggeredRows choices options.table
        (values.mapIdx (insertedRow choices options.table options.columns))
        (applyAll schema ((values.mapIdx (insertedRow choices options.table options.columns)).map
          (Write.insert options.table)) others) := by
      refine triggeredRows_congr fun htable row hrow => ?_
      obtain ⟨index, hindex, rfl⟩ := List.mem_mapIdx.mp hrow
      have hother : Table.invoice ≠ options.table := by
        rw [htable]
        decide
      unfold invoicesOf
      rw [applyAll_insert, applyAll_insert, if_neg hother, if_neg hother]
      refine filter_congr_of_restrict h fun invoice hinvoice => ?_
      rw [decide_eq_true_eq] at hinvoice ⊢
      rw [keyOf_invoice_of_equal hinvoice]
      -- The items have no generated number: their invoice is the one that is given.
      show _ ∈ invoiceKeys options params
      unfold invoiceKeys
      rw [if_pos htable, hvalues]
      refine List.mem_map.mpr ⟨values[index], List.getElem_mem hindex, ?_⟩
      rw [htable]
      rfl
    simp only [ok_bind, htriggered]

/-- What a statement answers and writes is decided by the rows that it looks at. -/
theorem StockStatement.perform_congr {statement : Statement} (h : StockStatement statement)
    {choices : Choices} {tables others : Tables} (hsame : SameFor statement tables others) :
    perform choices statement tables = perform choices statement others := by
  rcases h with ⟨⟨productId, warehouseId⟩ | ⟨nonempty, created⟩ | ⟨created⟩ | ⟨created⟩⟩ |
    ⟨table, params⟩
  · rw [perform_selectCount, perform_selectCount]
    rw [hsame.filter_isItem warehouseId.toInt productId.toInt List.mem_cons_self]
  · rename_i warehouseId productIds query
    have hfound : (tables .warehouseItem).filter
          (isItemOf warehouseId.toInt (productIds.map Int64.toInt)) =
        (others .warehouseItem).filter
          (isItemOf warehouseId.toInt (productIds.map Int64.toInt)) := by
      refine filter_congr_of_restrict hsame fun row hrow => ?_
      obtain ⟨productId, hproductId, hitem⟩ := List.any_eq_true.mp hrow
      obtain ⟨id, hid, rfl⟩ := List.mem_map.mp hproductId
      rw [decide_eq_true_eq, isItem_iff_itemKey.mp hitem, addresses_deleteItems created]
      exact List.mem_map_of_mem hid
    rw [perform_deleteItems created nonempty, perform_deleteItems created nonempty, hfound]
  · obtain ⟨-, -, rfl⟩ := QueryFactory.createInsert_eq_ok.mp created
    exact insert_congr hsame
  · exact perform_updateItem_congr created hsame
  · exact insert_congr hsame

/-! ## The stages of a transaction -/

/-- How far a transaction has got with its statements. -/
abbrev StockProgress := Progress Table Column Statement

/-- The statements of an attempt on a snapshot. -/
def performs (choices : Nat → Choices) (snapshot : Tables) (progress : StockProgress)
    (statement : Statement) (rows : Rows) (progress' : StockProgress) : Prop :=
  ∃ writes, perform (choices progress.issued) statement
      (applyAll schema progress.writes snapshot) = .ok (rows, writes) ∧
    progress' = progress.add statement writes

section Stages

variable {choices : Nat → Choices} {snapshot : Tables} {progress progress' : StockProgress}

/-- All that was looked at is protected. -/
def AllCovered (snapshot : Tables) (progress : StockProgress) : Prop :=
  ∀ key ∈ progress.addressed addresses, Covered schema snapshot progress.writes key

/-- A stage that writes more, and protects what it looks at. -/
theorem AllCovered.extend (h : AllCovered snapshot progress) {more : List (Write Table Column)}
    (hwrites : progress'.writes = progress.writes ++ more)
    (haddressed : ∀ key ∈ progress'.addressed addresses,
      key ∈ progress.addressed addresses ∨ Covered schema snapshot progress'.writes key) :
    AllCovered snapshot progress' := by
  intro key hkey
  rcases haddressed key hkey with hold | hnew
  · refine (h key hold).mono fun write hwrite => ?_
    rw [hwrites]
    exact List.mem_append_left _ hwrite
  · exact hnew

/-- An insertion that looks at nothing. -/
theorem AllCovered.insert (h : AllCovered snapshot progress) {options : InsertOptions}
    (htable : options.table ≠ .invoiceItem) {params : List (Option String)} {rows : Rows}
    (hstep : performs choices snapshot progress ⟨.insert options, params⟩ rows progress') :
    AllCovered snapshot progress' := by
  obtain ⟨writes, -, rfl⟩ := hstep
  refine h.extend (Progress.writes_add ..) fun key hkey => .inl ?_
  rw [Progress.addressed_add, addresses_insert_of_ne htable, List.append_nil] at hkey
  exact hkey

/-- The read of a count writes nothing, and finds the row when it is there. -/
theorem performs_selectCount {productId warehouseId : Int64} {rows : Rows}
    (h : performs choices snapshot progress (sent (WarehouseItem.selectCount productId warehouseId))
      rows progress') :
    progress'.writes = progress.writes ∧
      progress'.addressed addresses =
        progress.addressed addresses ++ [itemKey warehouseId.toInt productId.toInt] ∧
      (rows = [] ↔ Absent schema (applyAll schema progress.writes snapshot)
        (itemKey warehouseId.toInt productId.toInt)) := by
  obtain ⟨writes, hperform, rfl⟩ := h
  rw [perform_selectCount] at hperform
  cases hperform
  refine ⟨by rw [Progress.writes_add, List.append_nil], by rw [Progress.addressed_add]; rfl, ?_⟩
  have hperm := (choices progress.issued).arrange_perm
    ((applyAll schema progress.writes snapshot .warehouseItem).filter
      (isItem warehouseId.toInt productId.toInt))
  rw [List.map_eq_nil_iff, ← List.length_eq_zero_iff, hperm.length_eq, List.length_eq_zero_iff,
    List.filter_eq_nil_iff]
  simp only [isItem_iff_itemKey]
  rfl

/-- The decision on a product: a row is deleted or changed when it was found, and created when it
was not. -/
theorem WarehouseItem.rows_of_decision {isReducing : Bool} {productId count : Int64} {rows : Rows}
    {change : WarehouseItem.Change}
    (h : WarehouseItem.decision isReducing productId count rows = .ok change) :
    (change = .critical productId count ∧ (isReducing = true ↔ rows ≠ [])) ∨
      ∃ target, change = .modify productId target ∧ rows ≠ [] := by
  unfold WarehouseItem.decision at h
  by_cases hthrown : (isReducing && rows.isEmpty) = true
  · rw [if_pos hthrown] at h
    cases h
  · rw [if_neg hthrown] at h
    obtain ⟨critical, hpredicate, hchosen⟩ := bind_eq_ok.mp h
    cases critical with
    | true =>
      cases hchosen
      refine .inl ⟨rfl, ?_⟩
      cases isReducing with
      | true => simpa using hthrown
      | false =>
        have hempty : rows.isEmpty = true := Except.ok.inj hpredicate
        simpa using hempty
    | false =>
      obtain ⟨target, htarget, hmodify⟩ := bind_eq_ok.mp hchosen
      cases hmodify
      refine .inr ⟨target, rfl, ?_⟩
      rintro rfl
      -- There is no count to compute with.
      cases htarget

/-- The decisions write nothing. Every row that they look at is one that is deleted or created, or
one that is changed; and they know which of them are there. -/
theorem WarehouseItem.Decided.looked {warehouseId : Int64} {isReducing : Bool}
    {items : List (Int64 × Int64)} {changes : List WarehouseItem.Change}
    (h : WarehouseItem.Decided (performs choices snapshot) warehouseId isReducing progress items
      changes progress') :
    progress'.writes = progress.writes ∧
      (∀ key ∈ progress'.addressed addresses, key ∈ progress.addressed addresses ∨
        ∃ item ∈ WarehouseItem.criticalChanges changes ++ WarehouseItem.modifyingChanges changes,
          key = itemKey warehouseId.toInt item.1.toInt) ∧
      (∀ item ∈ WarehouseItem.criticalChanges changes,
        (isReducing = true ↔ ¬ Absent schema (applyAll schema progress.writes snapshot)
          (itemKey warehouseId.toInt item.1.toInt))) ∧
      ∀ item ∈ WarehouseItem.modifyingChanges changes,
        ¬ Absent schema (applyAll schema progress.writes snapshot)
          (itemKey warehouseId.toInt item.1.toInt) := by
  induction h with
  | nil state =>
    refine ⟨rfl, fun key hkey => .inl hkey, ?_, ?_⟩
    · simp [WarehouseItem.criticalChanges]
    · simp [WarehouseItem.modifyingChanges]
  | @cons state middle state' productId count rows change items changes read decided rest ih =>
    obtain ⟨hwrites, haddressed, hrows⟩ := performs_selectCount read
    obtain ⟨hwrites', haddressed', hcritical, hmodifying⟩ := ih
    rw [hwrites] at hwrites' hcritical hmodifying
    rw [haddressed] at haddressed'
    refine ⟨hwrites', ?_⟩
    rcases WarehouseItem.rows_of_decision decided with ⟨rfl, hfound⟩ | ⟨target, rfl, hfound⟩
    · refine ⟨fun key hkey => ?_, fun item hitem => ?_, hmodifying⟩
      · rcases haddressed' key hkey with hold | ⟨item, hitem, hkey⟩
        · rcases List.mem_append.mp hold with hold | hread
          · exact .inl hold
          · exact .inr ⟨(productId, count), List.mem_cons_self, List.mem_singleton.mp hread⟩
        · exact .inr ⟨item, List.mem_cons_of_mem _ hitem, hkey⟩
      · rcases List.mem_cons.mp hitem with rfl | hitem
        · exact hfound.trans (not_congr hrows)
        · exact hcritical item hitem
    · refine ⟨fun key hkey => ?_, hcritical, fun item hitem => ?_⟩
      · rcases haddressed' key hkey with hold | ⟨item, hitem, hkey⟩
        · rcases List.mem_append.mp hold with hold | hread
          · exact .inl hold
          · refine .inr ⟨(productId, target), ?_, List.mem_singleton.mp hread⟩
            exact List.mem_append_right _ List.mem_cons_self
        · refine .inr ⟨item, ?_, hkey⟩
          rcases List.mem_append.mp hitem with hitem | hitem
          · exact List.mem_append_left _ hitem
          · exact List.mem_append_right _ (List.mem_cons_of_mem _ hitem)
      · rcases List.mem_cons.mp hitem with rfl | hitem
        · exact fun habsent => hfound (hrows.mpr habsent)
        · exact hmodifying item hitem

/-- The statement for the critical items looks at them only, deletes the rows that are there when
the stock is reduced, and creates rows otherwise. -/
theorem WarehouseItem.Handled.looked {warehouseId : Int64} {isReducing : Bool}
    {items : List (Int64 × Int64)}
    (h : WarehouseItem.Handled (performs choices snapshot) warehouseId isReducing progress items
      progress') :
    ∃ more, progress'.writes = progress.writes ++ more ∧
      (∀ key ∈ progress'.addressed addresses, key ∈ progress.addressed addresses ∨
        ∃ item ∈ items, key = itemKey warehouseId.toInt item.1.toInt) ∧
      ∀ item ∈ items,
        (isReducing = true → ¬ Absent schema (applyAll schema progress.writes snapshot)
          (itemKey warehouseId.toInt item.1.toInt) →
            ∃ write ∈ more, write.Changes ∧
              write.key schema = itemKey warehouseId.toInt item.1.toInt) ∧
        (isReducing = false →
          ∃ write ∈ more, write.key schema = itemKey warehouseId.toInt item.1.toInt) := by
  rcases h with ⟨rfl, rfl⟩ | ⟨hitems, query, rows, hquery, writes, hperform, rfl⟩
  · exact ⟨[], (List.append_nil _).symm, fun key hkey => .inl hkey, by simp⟩
  · refine ⟨writes, Progress.writes_add .., ?_⟩
    rw [Progress.addressed_add]
    cases isReducing with
    | true =>
      have hnonempty : items.map Prod.fst ≠ [] := by simpa using hitems
      rw [if_pos rfl] at hquery
      rw [perform_deleteItems hquery hnonempty] at hperform
      cases hperform
      rw [addresses_deleteItems hquery]
      refine ⟨fun key hkey => ?_, fun item hitem =>
        ⟨fun _ hfound => ?_, fun hadding => Bool.noConfusion hadding⟩⟩
      · rcases List.mem_append.mp hkey with hold | hdeleted
        · exact .inl hold
        · obtain ⟨productId, hproductId, rfl⟩ := List.mem_map.mp hdeleted
          obtain ⟨item, hitem, rfl⟩ := List.mem_map.mp hproductId
          exact .inr ⟨item, hitem, rfl⟩
      · obtain ⟨row, hrow, hkey⟩ := exists_row_of_not_absent hfound
        refine ⟨_, List.mem_map.mpr ⟨row, List.mem_filter.mpr ⟨hrow, ?_⟩, rfl⟩, trivial, hkey⟩
        refine List.any_eq_true.mpr ⟨item.1.toInt, ?_, isItem_iff_itemKey.mpr hkey⟩
        exact List.mem_map_of_mem (List.mem_map_of_mem hitem)
    | false =>
      have haddresses : addresses (sent query) = [] := by
        obtain ⟨-, -, rfl⟩ := QueryFactory.createInsert_eq_ok.mp hquery
        exact addresses_insert_of_ne (show Table.warehouseItem ≠ .invoiceItem by decide) _
      have hwrites := perform_insertItems hquery hperform
      rw [haddresses, List.append_nil]
      refine ⟨fun key hkey => .inl hkey, fun item hitem =>
        ⟨fun hreducing => Bool.noConfusion hreducing, fun _ => ?_⟩⟩
      rw [hwrites]
      exact ⟨_, List.mem_map_of_mem (List.mem_map_of_mem hitem), rfl⟩

/-- The changes of counts look at their items only, and change the rows that are there. -/
theorem WarehouseItem.Modified.looked {warehouseId : Int64} {items : List (Int64 × Int64)}
    (h : WarehouseItem.Modified (performs choices snapshot) warehouseId progress items
      progress') :
    ∃ more, progress'.writes = progress.writes ++ more ∧
      (∀ key ∈ progress'.addressed addresses, key ∈ progress.addressed addresses ∨
        ∃ item ∈ items, key = itemKey warehouseId.toInt item.1.toInt) ∧
      ∀ item ∈ items, ¬ Absent schema (applyAll schema progress.writes snapshot)
          (itemKey warehouseId.toInt item.1.toInt) →
        ∃ write ∈ more, write.Changes ∧
          write.key schema = itemKey warehouseId.toInt item.1.toInt := by
  induction h with
  | nil state => exact ⟨[], (List.append_nil _).symm, fun key hkey => .inl hkey, by simp⟩
  | @cons state middle state' productId target query rows items created modified rest ih =>
    obtain ⟨later, hlater, haddressed, hchanged⟩ := ih
    obtain ⟨writes, hperform, rfl⟩ := modified
    rw [Progress.writes_add] at hlater hchanged
    rw [Progress.addressed_add, addresses_updateItem created] at haddressed
    refine ⟨writes ++ later, by rw [hlater, List.append_assoc], fun key hkey => ?_,
      fun item hitem hfound => ?_⟩
    · rcases haddressed key hkey with hold | ⟨item, hitem, hkey⟩
      · rcases List.mem_append.mp hold with hold | hread
        · exact .inl hold
        · exact .inr ⟨(productId, target), List.mem_cons_self, List.mem_singleton.mp hread⟩
      · exact .inr ⟨item, List.mem_cons_of_mem _ hitem, hkey⟩
    · rcases List.mem_cons.mp hitem with rfl | hitem
      · obtain ⟨row, hrow, hkey⟩ := exists_row_of_not_absent hfound
        obtain ⟨-, -, rfl⟩ := perform_updateItem created hperform
        refine ⟨_, List.mem_append_left _ (List.mem_map.mpr ⟨row, ?_, rfl⟩), trivial, hkey⟩
        exact List.mem_filter.mpr ⟨hrow, isItem_iff_itemKey.mpr hkey⟩
      · -- The row is changed by this statement, or is still there for the next ones.
        by_cases hchanges : ∃ write ∈ writes, write.Changes ∧
            write.key schema = itemKey warehouseId.toInt item.1.toInt
        · obtain ⟨write, hwrite, hchange⟩ := hchanges
          exact ⟨write, List.mem_append_left _ hwrite, hchange⟩
        · have hstays : ¬ Absent schema (applyAll schema (state.writes ++ writes) snapshot)
              (itemKey warehouseId.toInt item.1.toInt) := by
            intro habsent
            rw [applyAll_append] at habsent
            exact hfound (habsent.of_applyAll fun write hwrite hchange heq =>
              hchanges ⟨write, hwrite, hchange, heq⟩)
          obtain ⟨write, hwrite, hchange⟩ := hchanged item hitem hstays
          exact ⟨write, List.mem_append_right _ hwrite, hchange⟩

/-- `ChangeCount` protects what it looks at. -/
theorem AllCovered.changed (h : AllCovered snapshot progress) {warehouseId : Int64}
    {isReducing : Bool} {items : List (Int64 × Int64)}
    (hchanged : WarehouseItem.Changed (performs choices snapshot) warehouseId isReducing progress
      items progress') : AllCovered snapshot progress' := by
  obtain ⟨changes, decided, handled, hdecided, hhandled, hmodified⟩ := hchanged
  obtain ⟨hread, haddressed₁, hcritical, hmodifying⟩ := hdecided.looked
  obtain ⟨more, hmore, haddressed₂, hhandles⟩ := hhandled.looked
  obtain ⟨later, hlater, haddressed₃, hmodifies⟩ := hmodified.looked
  rw [hread] at hmore hhandles
  rw [hmore] at hlater hmodifies
  have hall : ∀ item ∈ WarehouseItem.criticalChanges changes ++
      WarehouseItem.modifyingChanges changes,
      Covered schema snapshot progress'.writes (itemKey warehouseId.toInt item.1.toInt) := by
    intro item hitem
    rcases List.mem_append.mp hitem with hitem | hitem
    · cases isReducing with
      | true =>
        -- A row that was found is deleted.
        obtain ⟨write, hwrite, hchange⟩ :=
          (hhandles item hitem).1 rfl ((hcritical item hitem).mp rfl)
        refine .inl ⟨write, ?_, hchange⟩
        rw [hlater]
        exact List.mem_append_left _ (List.mem_append_right _ hwrite)
      | false =>
        -- A row that was not found is created.
        obtain ⟨write, hwrite, hkey⟩ := (hhandles item hitem).2 rfl
        have habsent : Absent schema (applyAll schema progress.writes snapshot)
            (itemKey warehouseId.toInt item.1.toInt) := by
          by_contra hfound
          cases (hcritical item hitem).mpr hfound
        refine covered_of_inserted habsent (fun write hwrite => ?_) ⟨write, ?_, hkey⟩
        · rw [hlater]
          exact List.mem_append_left _ (List.mem_append_left _ hwrite)
        · rw [hlater]
          exact List.mem_append_left _ (List.mem_append_right _ hwrite)
    · -- A row that was found is changed, if it was not deleted before.
      have hbetween : ∀ write ∈ more, write ∈ progress'.writes := by
        intro write hwrite
        rw [hlater]
        exact List.mem_append_left _ (List.mem_append_right _ hwrite)
      refine covered_of_found (hmodifying item hitem) hbetween fun hfound => ?_
      rw [← applyAll_append] at hfound
      obtain ⟨write, hwrite, hchange⟩ := hmodifies item hitem hfound
      refine ⟨write, ?_, hchange⟩
      rw [hlater]
      exact List.mem_append_right _ hwrite
  rw [List.append_assoc] at hlater
  refine h.extend hlater fun key hkey => ?_
  rcases haddressed₃ key hkey with hkey | ⟨item, hitem, rfl⟩
  · rcases haddressed₂ key hkey with hkey | ⟨item, hitem, rfl⟩
    · rcases haddressed₁ key hkey with hkey | ⟨item, hitem, rfl⟩
      · exact .inl hkey
      · exact .inr (hall item hitem)
    · exact .inr (hall item (List.mem_append_left _ hitem))
  · exact .inr (hall item (List.mem_append_right _ hitem))

/-- The triggers look up the invoice of the inserted items. -/
theorem eq_of_mem_addresses_insertItems {invoiceId : Int64} {products : List Product}
    {values : List ValueCollector}
    (hvalues : products.mapM (Invoice.insertItemsRow invoiceId) = .ok values) {query : Query}
    (hquery : QueryFactory.createInsert
      { table := .invoiceItem, columns := [.invoiceId, .productId, .count] } values = .ok query)
    {key : Key Table} (hkey : key ∈ addresses (sent query)) :
    key = invoiceKey (some (.integer invoiceId.toInt)) := by
  obtain ⟨items, -, rfl⟩ :=
    Exceptions.forall₂_of_mapM (fun _ _ => Invoice.insertItemsRow_eq_ok) hvalues
  obtain ⟨-, -, rfl⟩ := QueryFactory.createInsert_eq_ok.mp hquery
  have hnumbers : (items.map fun item => [invoiceId, item.1, item.2].map fun value =>
      (integer value).toString) = (items.map fun item => [invoiceId, item.1, item.2]).map
        (List.map fun value => (integer value).toString) := by
    rw [List.map_map]
    rfl
  rw [hnumbers] at hkey
  change key ∈ invoiceKeys _ (ValueCollector.toPqxx (List.flatten _)) at hkey
  unfold invoiceKeys at hkey
  rw [if_pos rfl, toPqxx_flatten] at hkey
  split at hkey
  · rename_i rows rest hrows
    have hcolumns : ∀ column ∈ [Column.invoiceId, .productId, .count], ∃ minimum maximum,
        columnType .invoiceItem column = .ok (.integer minimum maximum) := by
      intro column hcolumn
      simp only [List.mem_cons, List.not_mem_nil, or_false] at hcolumn
      rcases hcolumn with rfl | rfl | rfl
      · exact ⟨_, _, rfl⟩
      · exact ⟨_, _, rfl⟩
      · exact ⟨_, _, rfl⟩
    have hlengths : ∀ numbers ∈ items.map (fun item => [invoiceId, item.1, item.2]),
        numbers.length = [Column.invoiceId, .productId, .count].length := by
      intro numbers hmem
      obtain ⟨item, -, rfl⟩ := List.mem_map.mp hmem
      rfl
    rw [List.length_map] at hrows
    rw [bindRows_bound hcolumns hlengths hrows] at hkey
    obtain ⟨fields, hfields, rfl⟩ := List.mem_map.mp hkey
    obtain ⟨numbers, hnumbers, rfl⟩ := List.mem_map.mp hfields
    obtain ⟨item, -, rfl⟩ := List.mem_map.mp hnumbers
    rfl
  · cases hkey

/-- The invoice that is looked up is the one that was inserted before. -/
theorem AllCovered.inserted (h : AllCovered snapshot progress) {invoice : Invoice} {query : Query}
    (hquery : invoice.insertQuery = .ok query) {products : List Product}
    (hinserted : invoice.Inserted (performs choices snapshot) query products progress progress') :
    AllCovered snapshot progress' := by
  obtain ⟨rows, middle, invoice', invoiceId, values, itemsQuery, itemsRows, hinvoice, hgetter, hid,
    hvalues, hitems, hitemsInserted⟩ := hinserted
  obtain ⟨options, hoptions, htable, -⟩ := Invoice.insertQuery_params hquery
  have hmiddle : AllCovered snapshot middle := by
    have hne : options.table ≠ .invoiceItem := by
      rw [htable]
      decide
    unfold sent at hinvoice
    rw [hoptions] at hinvoice
    exact h.insert hne hinvoice
  obtain ⟨writes, hperform, rfl⟩ := hinvoice
  obtain ⟨row, rfl, hrowId, -, -, rfl⟩ := perform_insertInvoice hquery hperform
  obtain ⟨invoiceId', heq, hid', -⟩ := invoiceIdGetter_eq_ok hrowId hgetter
  cases hid.symm.trans hid'
  obtain ⟨itemWrites, -, rfl⟩ := hitemsInserted
  refine hmiddle.extend (Progress.writes_add ..) fun key hkey => ?_
  rw [Progress.addressed_add] at hkey
  rcases List.mem_append.mp hkey with hold | hlooked
  · exact .inl hold
  · rw [eq_of_mem_addresses_insertItems hvalues hitems hlooked]
    have hchildren : schema.childrenOf .invoice ≠ [] := by decide
    refine .inr (.inr ⟨⟨.insert .invoice row, ?_, ?_⟩, .inl hchildren⟩)
    · rw [Progress.writes_add, Progress.writes_add]
      exact List.mem_append_left _ (List.mem_append_right _ (List.mem_singleton_self _))
    · show invoiceKey (row .invoiceId) = _
      rw [hrowId, heq]

end Stages

/-! ## The statements of the chains -/

/-- `ChangeCount` sends no others. -/
theorem sends_changeCountEntry (warehouseId : Int64) (isReducing : Bool) :
    (ProductsTask.changeCountEntry warehouseId isReducing).Sends StockStatement := by
  rw [ProductsTask.changeCountEntry, Entry.Sends]
  refine ⟨fun task => ?_, by rw [Entry.Sends]; trivial⟩
  exact ((WarehouseItem.allQuestions_changeCount ..).imp fun _ => .item).mapMemory _

/-- The invoice and its items are insertions. -/
theorem sends_invoiceEntry {invoice : Invoice} {query : Query}
    (hquery : invoice.insertQuery = .ok query) :
    (ProductsTask.invoiceEntry query).Sends StockStatement := by
  obtain ⟨options, hoptions, htable, -⟩ := Invoice.insertQuery_params hquery
  unfold ProductsTask.invoiceEntry Invoice.fullInsertEntry
  simp only [Entry.Sends, Entry.SendsAll, and_true]
  refine ⟨fun params => ?_, fun task => ?_, fun task => ?_⟩
  · rw [hoptions]
    exact .insert (by rw [htable]; decide) params
  · split <;> trivial
  · refine Program.AllQuestions.mapMemory ?_ _
    unfold Invoice.insertInvoiceItems
    refine (Script.allQuestions_ofExcept _).bind fun invoiceId => ?_
    refine (Script.allQuestions_ofExcept _).bind fun values => ?_
    refine (Script.allQuestions_executeCreated fun created hcreated => ?_).bind fun _ => trivial
    obtain ⟨-, -, rfl⟩ := QueryFactory.createInsert_eq_ok.mp hcreated
    exact .insert (show Table.invoiceItem ∈ insertedTables by decide) _

/-- The rows of new products are insertions. -/
theorem sends_warehouseItemEntry (warehouseId : Int64) :
    (ProductsTask.warehouseItemEntry warehouseId).Sends StockStatement := by
  rw [ProductsTask.warehouseItemEntry, Entry.Sends]
  refine ⟨fun task => Program.AllQuestions.mapMemory ?_ _, by rw [Entry.Sends]; trivial⟩
  unfold WarehouseItem.insertsEntry
  refine (Script.allQuestions_ofExcept _).bind fun values => ?_
  refine (Script.allQuestions_executeCreated fun created hcreated => ?_).bind fun _ => trivial
  obtain ⟨-, -, rfl⟩ := QueryFactory.createInsert_eq_ok.mp hcreated
  exact .insert (show Table.warehouseItem ∈ insertedTables by decide) _

/-- The products get their ids without a statement. -/
theorem allQuestions_idsConverter (task : ProductsTask) :
    (ProductsTask.idsConverter task).AllQuestions StockStatement := by
  unfold ProductsTask.idsConverter
  split
  · split <;> trivial
  · trivial

/-! ## Attempts -/

/-- One of the three tasks. -/
inductive StockTask where
  | productsCreate (task : ProductsTask)
  | productsMove (task : ProductsTask)
  | productsRemove (task : ProductsTask)

/-- The chain of a task. -/
def StockTask.chain (dateProvider : Nat → UInt64) :
    StockTask → Except Exception (Entry ProductsTask × ProductsTask)
  | .productsCreate task => task.createChain dateProvider
  | .productsMove task => task.moveChain dateProvider
  | .productsRemove task => task.removeChain dateProvider

/-- An attempt of the transaction of a task: the first one, or one that is made again after some
serialization failures; with the choices that the database makes for its statements. -/
structure StockAttempt where
  task : StockTask
  dateProvider : Nat → UInt64
  chain : Entry ProductsTask × ProductsTask
  built : task.chain dateProvider = .ok chain
  memory : Entry ProductsTask × ProductsTask
  history : List (List Statement)
  failed : FailedAttempts attempt chain history memory
  choices : Nat → Choices

/-- A value that is there. -/
theorem eq_ok_get {α ε : Type} {result : Except ε α} (h : result.toOption.isSome = true) :
    result = .ok (result.toOption.get h) := by
  cases result with
  | error failure => cases h
  | ok value => rfl

namespace StockAttempt

/-- The first attempt of a task whose chain can be built. -/
def ofTask (task : StockTask) (dateProvider : Nat → UInt64) (choices : Nat → Choices)
    (h : (task.chain dateProvider).toOption.isSome = true) : StockAttempt where
  task := task
  dateProvider := dateProvider
  chain := (task.chain dateProvider).toOption.get h
  built := eq_ok_get h
  memory := (task.chain dateProvider).toOption.get h
  history := []
  failed := .none _
  choices := choices

/-- The attempt as a transaction of the database. -/
def client (stockAttempt : StockAttempt) :
    Client Table Column (Entry ProductsTask × ProductsTask) Exception Statement Rows Unit where
  program := attempt stockAttempt.memory
  perform clock := perform (stockAttempt.choices clock)
  refusal := .integrityConstraintViolation

/-- The chain of a task sends the statements of the stock. -/
theorem sends (stockAttempt : StockAttempt) : stockAttempt.chain.1.Sends StockStatement := by
  obtain ⟨task, dateProvider, ⟨entry, memory⟩, built, -, -, -, -⟩ := stockAttempt
  have hnull : (Entry.null : Entry ProductsTask).Sends StockStatement := by
    rw [Entry.Sends]
    trivial
  match task with
  | .productsCreate task =>
    unfold StockTask.chain ProductsTask.createChain at built
    obtain ⟨warehouseToId, -, built⟩ := bind_eq_ok.mp built
    obtain ⟨productsEntry, hproducts, built⟩ := bind_eq_ok.mp built
    obtain ⟨query, hquery, built⟩ := bind_eq_ok.mp built
    obtain ⟨options, params, htable, -, rfl⟩ := Product.insertsEntry_eq_ok hproducts
    cases built
    have hinserts : (Entry.query (.insert options) params ProductsTask.storeProductResults
        .null).Sends StockStatement := by
      rw [Entry.Sends]
      exact ⟨fun params => .insert (by rw [htable]; decide) params, hnull⟩
    have hconverter : (Entry.variable ProductsTask.idsConverter .null).Sends StockStatement := by
      rw [Entry.Sends]
      exact ⟨allQuestions_idsConverter, hnull⟩
    exact (sends_changeCountEntry ..).setNext (hinserts.setNext (hconverter.setNext
      ((sends_invoiceEntry hquery).setNext (sends_warehouseItemEntry _))))
  | .productsMove task =>
    unfold StockTask.chain ProductsTask.moveChain at built
    obtain ⟨query, hquery, built⟩ := bind_eq_ok.mp built
    obtain ⟨warehouseFromId, -, built⟩ := bind_eq_ok.mp built
    obtain ⟨warehouseToId, -, built⟩ := bind_eq_ok.mp built
    cases built
    exact (sends_invoiceEntry hquery).setNext
      ((sends_changeCountEntry ..).setNext (sends_changeCountEntry ..))
  | .productsRemove task =>
    unfold StockTask.chain ProductsTask.removeChain at built
    obtain ⟨query, hquery, built⟩ := bind_eq_ok.mp built
    obtain ⟨warehouseFromId, -, built⟩ := bind_eq_ok.mp built
    cases built
    exact (sends_invoiceEntry hquery).setNext (sends_changeCountEntry ..)

/-- What an attempt looks at is protected when it has got to its end. -/
theorem allCovered (stockAttempt : StockAttempt) {snapshot : Tables} {progress : StockProgress}
    {s' : ProductsTask} (h : stockAttempt.memory.1.RunsTo (performs stockAttempt.choices snapshot)
      {} stockAttempt.memory.2 progress s') : AllCovered snapshot progress := by
  obtain ⟨task, dateProvider, ⟨entry, memory⟩, built, final, history, failed, choices⟩ :=
    stockAttempt
  have hstart : AllCovered snapshot ({} : StockProgress) := by
    intro key hkey
    cases hkey
  -- A statement that has lost its parameters is refused.
  have hrefused : ∀ options (state : StockProgress) rows state',
      ¬ performs choices snapshot state ⟨.insert options, []⟩ rows state' := by
    rintro options state rows state' ⟨writes, hperform, -⟩
    exact perform_insert_nil_ne_ok hperform
  dsimp only at h
  match task with
  | .productsCreate task =>
    obtain ⟨warehouseTo, options, params, rest, htable, -, hentry⟩ :=
      ProductsTask.createChain_secondEntry built
    rw [hentry] at failed
    have hfinal := failed.eq_of_secondEntry (hrefused options)
      (fun _ _ _ _ => congrArg Program.Ran.memory (Program.run_mapMemory ..))
      ((WarehouseItem.changeCount_noInsertsProducts ..).mapMemory _)
      (fun params => show insertsProducts _ = true by simp [insertsProducts, htable]) h
    rw [hfinal, ← hentry] at h
    obtain ⟨query, warehouseToId, items, options', params', rows, added, created, createdProducts,
      createdItems, values, itemsQuery, itemsRows, inserted, hquery, -, -, hadding, htable',
      hproducts, hinserted, -, -, -, hitemsQuery, hlast⟩ :=
        ProductsTask.runsTo_createChain built h
    obtain ⟨-, -, rfl⟩ := QueryFactory.createInsert_eq_ok.mp hitemsQuery
    have hproduct : options'.table ≠ .invoiceItem := by
      rw [htable']
      decide
    exact (((hstart.changed hadding).insert hproduct hproducts).inserted hquery hinserted).insert
      (show Table.warehouseItem ≠ .invoiceItem by decide) hlast
  | .productsMove task =>
    obtain ⟨options, params, -, hroot⟩ := ProductsTask.moveChain_rootQuery built
    have hfinal := failed.eq_of_rootQuery (hrefused options) hroot h
    rw [hfinal] at h
    obtain ⟨query, warehouseFromId, warehouseToId, items, inserted, reduced, hquery, -, -, -,
      hinserted, hreduced, hadded⟩ := ProductsTask.runsTo_moveChain built h
    exact ((hstart.inserted hquery hinserted).changed hreduced).changed hadded
  | .productsRemove task =>
    obtain ⟨options, params, -, hroot⟩ := ProductsTask.removeChain_rootQuery built
    have hfinal := failed.eq_of_rootQuery (hrefused options) hroot h
    rw [hfinal] at h
    obtain ⟨query, warehouseFromId, items, inserted, hquery, -, -, hinserted, hreduced⟩ :=
      ProductsTask.runsTo_removeChain built h
    exact (hstart.inserted hquery hinserted).changed hreduced

/-- Every attempt is guarded. -/
theorem guarded (stockAttempt : StockAttempt) : stockAttempt.client.Guarded schema addresses := by
  have hstatements : stockAttempt.client.program.AllQuestions StockStatement :=
    (stockAttempt.failed.sends stockAttempt.sends).executeChain stockAttempt.memory.2
  refine ⟨hstatements.imp ?_, hstatements.imp ?_, ?_⟩
  · exact fun statement hstatement clock db response writes hperform =>
      hstatement.plain hperform
  · exact fun statement hstatement clock db other hsame => hstatement.perform_congr hsame
  · rintro snapshot progress ⟨entry, s'⟩ ⟨⟩ hcompletes
    exact stockAttempt.allCovered ⟨entry, hcompletes⟩

end StockAttempt

/-- Some attempts that are under way, and the tables that others see. -/
abbrev StockSystem (ι : Type) :=
  System Table Column ι (Entry ProductsTask × ProductsTask) Exception Statement Rows Unit

/-- At all times, the tables are what the committed attempts leave when they are run one at a time,
in the order of their commits. -/
theorem stock_serializable {ι : Type} [DecidableEq ι] (attempts : ι → StockAttempt)
    (initial : Tables) {system : StockSystem ι}
    (h : SnapshotIsolation.Reachable schema (fun i => (attempts i).client) initial system) :
    serial schema (fun i => (attempts i).client) system.log initial = some system.committed :=
  serial_of_reachable (fun i => (attempts i).guarded) h

/-- Two pieces of the first product are removed. -/
def twoRemoved : ProductsTask where
  invoice := { warehouseFromId := some 1, name := some "removal", createdBy := some 1 }
  products := [{ id := some 1, count := some 2 }]

/-- Three attempts to remove them, with different numbers for their invoices. -/
def threeRemovals (i : Fin 3) : StockAttempt :=
  .ofTask (.productsRemove twoRemoved) (fun _ => 0)
    (fun _ =>
      { numbered fiveStored with
        identity := fun _ index => ((i.val + 2) * 10 + index : Nat)
        identity_pos := fun _ index => by omega })
    (by decide +kernel)

/-- The first two read the same count. The first one is committed, so that the second one cannot
change it; the third one begins afterwards. -/
def threeRemovalsRun : List (Action (Fin 3)) :=
  [.start 0, .start 1, .statement 0, .statement 1, .statement 0, .statement 1, .statement 0,
    .statement 1, .statement 0, .commit 0, .rollback 1, .start 2, .statement 2, .statement 2,
    .statement 2, .statement 2, .commit 2]

/-- Two of the removals are committed, and one piece is left. -/
theorem stock_serializable_threeRemovals :
    ∃ system : StockSystem (Fin 3),
      system.log = [0, 2] ∧ (system.committed .warehouseItem).map countOf = [1] ∧
        serial schema (fun i => (threeRemovals i).client) system.log fiveStored =
          some system.committed := by
  have hrun : ((threeRemovalsRun.foldlM (System.advance schema fun i => (threeRemovals i).client)
      { committed := fiveStored }).map fun system =>
        (system.log, (system.committed .warehouseItem).map countOf)) = some ([0, 2], [1]) := by
    decide +kernel
  obtain ⟨system, hsystem, hleft⟩ := Option.map_eq_some_iff.mp hrun
  obtain ⟨hlog, hcounts⟩ := Prod.mk.inj hleft
  exact ⟨system, hlog, hcounts, stock_serializable threeRemovals fiveStored
    (.of_foldlM .start hsystem)⟩

end TaskMgr.Tasks

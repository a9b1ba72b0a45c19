import WarehouseAccounting.DbConnector.Retry
import WarehouseAccounting.TaskManager.Tasks.ProductsTasks
import WarehouseAccounting.TaskManager.Tasks.ReportsByPeriod

/-!
# Which tasks can be retried

For every task that sends more than one statement or keeps something in its memory: when the
attempt after some serialization failures is the attempt that would have been made first.

- `WarehouseItem.changeCount_noInsertsProducts`: `ChangeCount` only touches `Warehouse_Item`.
- `ItemList.sameAttempt_iff`: a list with items is made again until its second statement.
- `TaskRequest.sameAttempt_execute_iff`: the condition for every task, over the loop of
  `Execute`.
-/

namespace TaskMgr.Tasks

open Ufa Srv.Db Srv.Db.Trsct

/-- The statement adds rows to `Product`. -/
def insertsProducts (statement : Statement) : Bool :=
  match statement.options with
  | .insert options => options.table = .product
  | _ => false

/-! ## The statements of ChangeCount -/

namespace WarehouseItem

/-- The statement is not one that adds products. -/
abbrev NoInsertsProducts (statement : Statement) : Prop := insertsProducts statement = false

/-- A statement of `ChangeCount` adds no products. -/
theorem ItemStatement.noInsertsProducts {statement : Statement} (h : ItemStatement statement) :
    NoInsertsProducts statement := by
  match h with
  | .read productId warehouseId => rfl
  | .remove nonempty created =>
    rw [(QueryFactory.createDelete_eq_ok.mp created).2]
    rfl
  | .create created =>
    rw [(QueryFactory.createInsert_eq_ok.mp created).2.2]
    rfl
  | .change created =>
    rw [(QueryFactory.createUpdate_eq_ok.mp created).2.2]
    rfl

/-- Neither does `ChangeCount`. -/
theorem changeCount_noInsertsProducts (products : List Product) (warehouseId : Int64)
    (isReducing : Bool) :
    (changeCount products warehouseId isReducing).AllQuestions NoInsertsProducts :=
  (allQuestions_changeCount ..).imp fun _ => ItemStatement.noInsertsProducts

end WarehouseItem

/-! ## Parameters that are always there -/

/-- Optional parameters come after those that are there. -/
theorem appendToQueryOptional_params (query : List Column × ValueCollector)
    (optionalValue : Option Scalar) (column : Column) :
    query.2 <+: (appendToQueryOptional query optionalValue column).2 := by
  unfold appendToQueryOptional
  split
  · exact List.prefix_append ..
  · exact List.prefix_rfl

/-- Optional parameters never take the others away. -/
theorem appendToQueryOptional_ne_nil {query : List Column × ValueCollector} (h : query.2 ≠ [])
    (optionalValue : Option Scalar) (column : Column) :
    (appendToQueryOptional query optionalValue column).2 ≠ [] := by
  intro hnil
  have hprefix := appendToQueryOptional_params query optionalValue column
  rw [hnil] at hprefix
  exact h (List.prefix_nil.mp hprefix)

/-- The statement of `InsertInvoice` is an insertion, and has parameters. -/
theorem Invoice.insertQuery_params {invoice : Invoice} {query : Query}
    (h : invoice.insertQuery = .ok query) :
    ∃ options : InsertOptions, query.options = .insert options ∧ options.table = .invoice ∧
      query.params ≠ [] := by
  unfold insertQuery at h
  split at h
  · cases h
  · obtain ⟨added, hadded, h⟩ := bind_eq_ok.mp h
    unfold insertColumns at hadded
    obtain ⟨name, -, hadded⟩ := bind_eq_ok.mp hadded
    obtain ⟨createdBy, -, hadded⟩ := bind_eq_ok.mp hadded
    obtain ⟨createdDate, -, hadded⟩ := bind_eq_ok.mp hadded
    -- The first three parameters are always there.
    have hparams : added.2 ≠ [] := by
      rw [← Except.ok.inj hadded]
      refine appendToQueryOptional_ne_nil (appendToQueryOptional_ne_nil
        (appendToQueryOptional_ne_nil ?_ _ _) _ _) _ _
      simp [ValueCollector.append]
    split at h
    · rename_i created hcreated
      cases h
      rw [(QueryFactory.createInsert_eq_ok.mp hcreated).2.2]
      exact ⟨_, rfl, rfl, by simpa using hparams⟩
    · cases h

/-! ## Lists -/

namespace ListRequest

/-- A list of one statement without parameters is made again as it was: what it has stored is
overwritten. -/
theorem sameAttempt_chain {options : SelectOptions}
    (hparams : QueryFactory.conditionParams options.condition = []) {rows : Rows}
    {final : Entry Rows × Rows} {history : List (List Statement)}
    (h : FailedAttempts attempt (chain options, rows) history final) :
    SameAttempt final (chain options, rows) := by
  have hentry : final.1 = chain options := by
    refine h.preserves (motive := fun memory => memory.1 = chain options) rfl ?_
    rintro ⟨entry, rows⟩ rfl D answers clock state
    unfold attempt chain selectEntry
    rw [hparams]
    rcases hanswer : answers clock ⟨.select options, ValueCollector.toPqxx []⟩ state with
      exception | ⟨response, state'⟩
    · rw [Entry.run_executeChain_query_of_error hanswer]
    · rw [Entry.run_executeChain_query_of_ok hanswer, Entry.run_executeChain_null]
  obtain ⟨entry, left⟩ := final
  dsimp only at hentry
  subst hentry
  intro D answers clock state
  unfold attempt chain selectEntry
  dsimp only
  have hanswer := reliable_eq answers clock ⟨.select options, ValueCollector.toPqxx []⟩ state
  rw [hparams, Entry.run_executeChain_query_of_ok hanswer,
    Entry.run_executeChain_query_of_ok hanswer]
  simp

end ListRequest

/-! ## Lists with items -/

namespace ItemList

variable {α D : Type} {fromRow : List (Option String) → Except Exception α}
  {idOf : α → Option Int64} {itemsOptions : List Int64 → SelectOptions}

/-- A missing id is an exception that is not retried. -/
theorem mapM_required_ne {entities : List α} {exception : Exception}
    (h : (entities.mapM fun entity => required (idOf entity)) = .error exception) :
    exception ≠ .serializationFailure := by
  induction entities with
  | nil => cases h
  | cons entity entities ih =>
    rw [List.mapM_cons] at h
    rcases hid : idOf entity with _ | id
    · rw [hid] at h
      cases h
      decide
    · rcases hrest : (entities.mapM fun entity => required (idOf entity)) with failure | ids
      · rw [hid, hrest] at h
        cases h
        exact ih hrest
      · rw [hid, hrest] at h
        cases h

/-- Only no entities have no ids. -/
theorem mapM_required_eq_nil {entities : List α} {ids : List Int64}
    (h : (entities.mapM fun entity => required (idOf entity)) = .ok ids) :
    ids = [] ↔ entities = [] := by
  match entities with
  | [] =>
    cases h
    simp
  | entity :: entities =>
    rw [List.mapM_cons] at h
    obtain ⟨id, -, h⟩ := bind_eq_ok.mp h
    obtain ⟨rest, -, h⟩ := bind_eq_ok.mp h
    cases h
    simp

/-- The entities that the member holds are kept. -/
theorem entities_collect (answers : Program.Answers Exception Statement Rows D) (clock : Nat)
    (state : D) (list : ItemList α) :
    list.entities <+:
      ((collect fromRow idOf itemsOptions list).run answers clock state).memory.entities := by
  unfold collect
  split
  · exact List.prefix_rfl
  · dsimp only
    split
    · exact List.prefix_append ..
    · split
      · exact List.prefix_append ..
      · rename_i ids _ _
        rcases hanswer : answers clock ⟨.select (itemsOptions ids),
            (QueryFactory.conditionParams (itemsOptions ids).condition).toPqxx⟩ state with
          exception | ⟨rows, state'⟩
        · rw [Program.run_issue_of_error hanswer]
          exact List.prefix_append ..
        · rw [Program.run_issue_of_ok hanswer]
          exact List.prefix_append ..

/-- The function is retried before it has collected anything, or after its statement. -/
theorem run_collect {answers : Program.Answers Exception Statement Rows D} {clock : Nat}
    {state : D} {list : ItemList α}
    (h : ((collect fromRow idOf itemsOptions list).run answers clock state).outcome =
        .error .serializationFailure ∨
      ((collect fromRow idOf itemsOptions list).run answers clock state).outcome = .ok ()) :
    let ran := (collect fromRow idOf itemsOptions list).run answers clock state
    ran.questions.length = 0 ∧ ran.memory = list ∨
      ran.questions.length = 1 ∧ ran.memory.entities ≠ [] := by
  unfold collect at h ⊢
  split at h
  · exact .inl ⟨rfl, rfl⟩
  · rename_i entities hentities
    dsimp only at h ⊢
    split at h
    · rename_i exception hids
      rcases h with h | h
      · exact absurd (Except.error.inj h) (mapM_required_ne hids)
      · cases h
    · rename_i ids hids
      have hempty := mapM_required_eq_nil hids
      by_cases hnone : ids.isEmpty = true
      · -- Neither the member nor the rows had an entity.
        have hnil := hempty.mp (List.isEmpty_iff.mp hnone)
        obtain ⟨hlist, hnew⟩ := List.append_eq_nil_iff.mp hnil
        left
        rw [if_pos hnone, Program.run_done, hnew]
        exact ⟨rfl, by simp⟩
      · have hne : list.entities ++ entities ≠ [] := by
          intro hnil
          exact hnone (List.isEmpty_iff.mpr (hempty.mpr hnil))
        right
        rw [if_neg hnone]
        rcases hanswer : answers clock ⟨.select (itemsOptions ids),
            (QueryFactory.conditionParams (itemsOptions ids).condition).toPqxx⟩ state with
          exception | ⟨rows, state'⟩
        · rw [Program.run_issue_of_error hanswer]
          exact ⟨rfl, hne⟩
        · rw [Program.run_issue_of_ok hanswer]
          exact ⟨rfl, hne⟩

/-- What an attempt leaves when the statement of the list has no parameters: the chain as it
was, and either nothing but the rows, or entities after a second statement. -/
theorem run_attempt {options : SelectOptions}
    (hparams : QueryFactory.conditionParams options.condition = [])
    (answers : Program.Answers Exception Statement Rows D) (clock : Nat) (state : D)
    (list : ItemList α) :
    let ran := (attempt (chain options fromRow idOf itemsOptions, list)).run answers clock state
    ran.memory.1 = chain options fromRow idOf itemsOptions ∧
      list.entities <+: ran.memory.2.entities ∧
      (ran.outcome = .error .serializationFailure ∨ ran.outcome = .ok () →
        ran.questions.length ≤ 1 ∧ ran.memory.2.entities = list.entities ∧
            ran.memory.2.itemResults = list.itemResults ∨
          ran.questions.length = 2 ∧ ran.memory.2.entities ≠ []) := by
  unfold attempt chain ListRequest.selectEntry
  rw [hparams]
  dsimp only
  rcases hanswer : answers clock ⟨.select options, ValueCollector.toPqxx []⟩ state with
    exception | ⟨rows, state'⟩
  · rw [Entry.run_executeChain_query_of_error hanswer]
    exact ⟨rfl, List.prefix_rfl, fun _ => .inl ⟨Nat.le_refl 1, rfl, rfl⟩⟩
  · rw [Entry.run_executeChain_query_of_ok hanswer]
    let function := collect fromRow idOf itemsOptions { list with results := rows }
    have hkept : list.entities <+: (function.run answers (clock + 1) state').memory.entities :=
      entities_collect answers (clock + 1) state' { list with results := rows }
    rcases hfirst : (function.run answers (clock + 1) state').outcome with exception | ⟨⟩
    · rw [Entry.run_executeChain_variable_of_error hfirst]
      refine ⟨rfl, hkept, fun hretried => ?_⟩
      rcases run_collect (hfirst ▸ hretried) with ⟨hlength, hmemory⟩ | ⟨hlength, hne⟩
      · refine .inl ⟨?_, ?_, ?_⟩
        · simp [hlength]
        · simp [hmemory]
        · simp [hmemory]
      · exact .inr ⟨by simp [hlength], hne⟩
    · rw [Entry.run_executeChain_variable_of_ok hfirst]
      dsimp only
      rw [Entry.run_executeChain_null]
      refine ⟨rfl, hkept, fun _ => ?_⟩
      rcases run_collect (.inr hfirst) with ⟨hlength, hmemory⟩ | ⟨hlength, hne⟩
      · refine .inl ⟨?_, ?_, ?_⟩
        · simp [hlength]
        · simp [hmemory]
        · simp [hmemory]
      · exact .inr ⟨by simp [hlength], hne⟩

variable {options : SelectOptions}

/-- Failed attempts leave the chain, and with it nothing as long as none got to the statement for
the items, and entities in the member otherwise. -/
theorem failedAttempts_chain (hparams : QueryFactory.conditionParams options.condition = [])
    {memory final : Entry (ItemList α) × ItemList α} {history : List (List Statement)}
    (h : FailedAttempts attempt memory history final)
    (hmemory : memory.1 = chain options fromRow idOf itemsOptions) :
    final.1 = chain options fromRow idOf itemsOptions ∧
      memory.2.entities <+: final.2.entities ∧
      ((∀ statements ∈ history, statements.length ≤ 1) ∧
          final.2.entities = memory.2.entities ∧ final.2.itemResults = memory.2.itemResults ∨
        (∃ statements ∈ history, 1 < statements.length) ∧ final.2.entities ≠ []) := by
  induction h with
  | none memory => exact ⟨hmemory, List.prefix_rfl, .inl ⟨by simp, rfl, rfl⟩⟩
  | @again D answers clock state memory final history failed rest ih =>
    obtain ⟨entry, list⟩ := memory
    dsimp only at hmemory
    subst hmemory
    obtain ⟨hentry, hkept, hstep⟩ := run_attempt hparams answers clock state list
    obtain ⟨hfinal, hprefix, hrest⟩ := ih hentry
    refine ⟨hfinal, hkept.trans hprefix, ?_⟩
    rcases hstep failed with ⟨hlength, hentities, hitems⟩ | ⟨hlength, hne⟩
    · rcases hrest with ⟨hhistory, hsame, hsameItems⟩ | ⟨⟨statements, hmem, hlong⟩, hne⟩
      · refine .inl ⟨?_, hsame.trans hentities, hsameItems.trans hitems⟩
        intro statements hstatements
        rcases List.mem_cons.mp hstatements with rfl | hstatements
        · exact hlength
        · exact hhistory statements hstatements
      · exact .inr ⟨⟨statements, List.mem_cons_of_mem _ hmem, hlong⟩, hne⟩
    · -- What has been collected once stays in the member.
      refine .inr ⟨⟨_, List.mem_cons_self, by omega⟩, fun hnil => ?_⟩
      rw [hnil] at hprefix
      exact hne (List.prefix_nil.mp hprefix)

/-- Where nothing is selected, the first attempt collects nothing. -/
theorem run_attempt_of_empty (options : SelectOptions) :
    ((attempt (chain options fromRow idOf itemsOptions, ({} : ItemList α))).run
      (reliable fun _ _ (_ : Unit) => ([], ())) 0 ()).memory.2.entities = [] := by
  unfold attempt chain ListRequest.selectEntry
  dsimp only
  rw [Entry.run_executeChain_query_of_ok (reliable_eq _ 0 _ ()),
    Entry.run_executeChain_variable_of_ok rfl]
  dsimp only
  rw [Entry.run_executeChain_null]
  rfl

/-- The attempt from entities that are there already is not the one from none. -/
theorem not_sameAttempt_of_entities (hparams : QueryFactory.conditionParams options.condition = [])
    {list : ItemList α} (hne : list.entities ≠ []) :
    ¬ SameAttempt (chain options fromRow idOf itemsOptions, list)
      (chain options fromRow idOf itemsOptions, {}) := by
  intro hsame
  have hmemory := (hsame Unit (fun _ _ _ => ([], ())) 0 ()).2.2.2
  obtain ⟨-, hkept, -⟩ := run_attempt hparams (reliable fun _ _ _ => ([], ())) 0 () list
  rw [hmemory, run_attempt_of_empty] at hkept
  exact hne (List.prefix_nil.mp hkept)

/-- Where nothing is in the member yet, the attempt is the first one: the rows are overwritten. -/
theorem sameAttempt_of_entities (hparams : QueryFactory.conditionParams options.condition = [])
    {list : ItemList α} (hentities : list.entities = []) (hitems : list.itemResults = []) :
    SameAttempt (chain options fromRow idOf itemsOptions, list)
      (chain options fromRow idOf itemsOptions, {}) := by
  intro D answers clock state
  unfold attempt chain ListRequest.selectEntry
  dsimp only
  have hanswer := reliable_eq answers clock ⟨.select options, ValueCollector.toPqxx []⟩ state
  rw [hparams, Entry.run_executeChain_query_of_ok hanswer,
    Entry.run_executeChain_query_of_ok hanswer]
  simp [hentities, hitems]

/-- A list with items is made again as it was when its first statement has no parameters and no
failed attempt got to the second one. -/
theorem sameAttempt_iff {final : Entry (ItemList α) × ItemList α}
    {history : List (List Statement)}
    (h : FailedAttempts attempt (chain options fromRow idOf itemsOptions, {}) history final) :
    SameAttempt final (chain options fromRow idOf itemsOptions, {}) ↔
      history = [] ∨ QueryFactory.conditionParams options.condition = [] ∧
        ∀ statements ∈ history, statements.length ≤ 1 := by
  by_cases hparams : QueryFactory.conditionParams options.condition = []
  · obtain ⟨hentry, -, hleft⟩ := failedAttempts_chain hparams h rfl
    obtain ⟨entry, list⟩ := final
    dsimp only at hentry hleft
    subst hentry
    rcases hleft with ⟨hhistory, hentities, hitems⟩ | ⟨⟨statements, hmem, hlong⟩, hne⟩
    · exact iff_of_true (sameAttempt_of_entities hparams hentities hitems)
        (.inr ⟨hparams, hhistory⟩)
    · refine iff_of_false (not_sameAttempt_of_entities hparams hne) ?_
      rintro (rfl | ⟨-, hhistory⟩)
      · cases hmem
      · have hshort := hhistory statements hmem
        omega
  · have hroot : (chain options fromRow idOf itemsOptions).rootQuery =
        some (.select options, QueryFactory.conditionParams options.condition) := by
      rw [chain, ListRequest.selectEntry, Entry.rootQuery]
    rw [h.sameAttempt_iff_of_rootQuery hparams hroot]
    simp [hparams]

end ItemList

/-! ## Products -/

namespace ProductsTask

/-- The statement of the invoice is at the root of its entry. -/
theorem rootQuery_invoiceEntry (query : Query) :
    (invoiceEntry query).rootQuery = some (query.options, query.params) := by
  simp [invoiceEntry, Invoice.fullInsertEntry, Entry.rootQuery]

/-- `ProductsMove` starts with the invoice. -/
theorem moveChain_rootQuery {dateProvider : Nat → UInt64} {task memory : ProductsTask}
    {entry : Entry ProductsTask} (h : moveChain dateProvider task = .ok (entry, memory)) :
    ∃ (options : InsertOptions) (params : ValueCollector), params ≠ [] ∧
      entry.rootQuery = some (.insert options, params) := by
  unfold moveChain at h
  obtain ⟨query, hquery, h⟩ := bind_eq_ok.mp h
  obtain ⟨warehouseFromId, -, h⟩ := bind_eq_ok.mp h
  obtain ⟨warehouseToId, -, h⟩ := bind_eq_ok.mp h
  cases h
  obtain ⟨options, hoptions, -, hparams⟩ := Invoice.insertQuery_params hquery
  refine ⟨options, query.params, hparams, ?_⟩
  rw [Entry.rootQuery_setNext, rootQuery_invoiceEntry, hoptions]

/-- So does `ProductsRemove`. -/
theorem removeChain_rootQuery {dateProvider : Nat → UInt64} {task memory : ProductsTask}
    {entry : Entry ProductsTask} (h : removeChain dateProvider task = .ok (entry, memory)) :
    ∃ (options : InsertOptions) (params : ValueCollector), params ≠ [] ∧
      entry.rootQuery = some (.insert options, params) := by
  unfold removeChain at h
  obtain ⟨query, hquery, h⟩ := bind_eq_ok.mp h
  obtain ⟨warehouseFromId, -, h⟩ := bind_eq_ok.mp h
  cases h
  obtain ⟨options, hoptions, -, hparams⟩ := Invoice.insertQuery_params hquery
  refine ⟨options, query.params, hparams, ?_⟩
  rw [Entry.rootQuery_setNext, rootQuery_invoiceEntry, hoptions]

/-- `ProductsCreate` changes the stock, and then sends the statement of the products. -/
theorem createChain_secondEntry {dateProvider : Nat → UInt64} {task memory : ProductsTask}
    {entry : Entry ProductsTask} (h : createChain dateProvider task = .ok (entry, memory)) :
    ∃ (warehouseToId : Int64) (options : InsertOptions) (params : ValueCollector)
      (rest : Entry ProductsTask), options.table = .product ∧ params ≠ [] ∧
        entry = .variable (fun task =>
          (WarehouseItem.changeCount task.products warehouseToId false).asCode task)
          (.query (.insert options) params storeProductResults rest) := by
  unfold createChain at h
  obtain ⟨warehouseToId, -, h⟩ := bind_eq_ok.mp h
  obtain ⟨productsEntry, hproducts, h⟩ := bind_eq_ok.mp h
  obtain ⟨query, -, h⟩ := bind_eq_ok.mp h
  obtain ⟨options, params, htable, hparams, rfl⟩ := Product.insertsEntry_eq_ok hproducts
  cases h
  refine ⟨warehouseToId, options, params, (Entry.variable idsConverter .null).setNext
    ((invoiceEntry query).setNext (warehouseItemEntry warehouseToId)), htable, hparams, ?_⟩
  rw [changeCountEntry, Entry.setNext, Entry.setNext]

end ProductsTask

/-- `ReportsByPeriod` starts with the warehouse. -/
theorem ReportsByPeriod.chain_rootQuery {F : Type} {timestamp : UInt64}
    {consumer : ReportsByPeriod.Consumer F}
    {createFile : Report → F → Except Exception (String × F)} {task memory : ReportsByPeriod F}
    {entry : Entry (ReportsByPeriod F)}
    (h : ReportsByPeriod.chain timestamp consumer createFile task = .ok (entry, memory)) :
    ∃ options params, params ≠ [] ∧ entry.rootQuery = some (options, params) := by
  unfold ReportsByPeriod.chain at h
  obtain ⟨warehouseId, -, h⟩ := bind_eq_ok.mp h
  obtain ⟨periodFrom, -, h⟩ := bind_eq_ok.mp h
  obtain ⟨periodTo, -, h⟩ := bind_eq_ok.mp h
  cases h
  refine ⟨(Warehouse.selectQuery warehouseId).options, (Warehouse.selectQuery warehouseId).params,
    ?_, ?_⟩
  · simp [Warehouse.selectQuery, QueryFactory.createSelect, QueryFactory.conditionParams,
      Condition.collectParams]
  · rw [Entry.rootQuery_setNext]
    simp [Warehouse.selectEntry, Entry.rootQuery]

/-! ## The tasks -/

/-- A request for one of the tasks that build entry chains. -/
inductive TaskRequest (F : Type) where
  | productsCreate (task : ProductsTask)
  | productsMove (task : ProductsTask)
  | productsRemove (task : ProductsTask)
  | reportsByPeriod (consumer : ReportsByPeriod.Consumer F) (task : ReportsByPeriod F)
  | productList (request : ListRequest)
  | operationList (request : ListRequest)
  | userList (request : ListRequest)
  | reportList (request : ListRequest)
  | warehouseList (request : ListRequest)
  | invoiceList (request : ListRequest)

namespace TaskRequest

variable {F : Type}

/-- What the entries of the task work on. -/
def Memory : TaskRequest F → Type
  | .productsCreate _ | .productsMove _ | .productsRemove _ => ProductsTask
  | .reportsByPeriod .. => ReportsByPeriod F
  | .productList _ | .operationList _ | .userList _ | .reportList _ => Rows
  | .warehouseList _ => ItemList Warehouse
  | .invoiceList _ => ItemList Invoice

/-- The chain of the task and its memory when the chain is executed. The times and the files are
those of the services. -/
def chain (dateProvider : Nat → UInt64)
    (createFile : Report → F → Except Exception (String × F)) (request : TaskRequest F) :
    Except Exception (Entry request.Memory × request.Memory) :=
  match request with
  | .productsCreate task => task.createChain dateProvider
  | .productsMove task => task.moveChain dateProvider
  | .productsRemove task => task.removeChain dateProvider
  | .reportsByPeriod consumer task => task.chain (dateProvider 0) consumer createFile
  | .productList request => .ok (ListRequest.chain (GetProductList.options request), [])
  | .operationList request => .ok (ListRequest.chain (GetOperationList.options request), [])
  | .userList request => .ok (ListRequest.chain (GetUserList.options request), [])
  | .reportList request => .ok (ListRequest.chain (GetReportList.options request), [])
  | .warehouseList request => .ok (GetWarehouseList.chain request, {})
  | .invoiceList request => .ok (GetInvoiceList.chain request, {})

/-- When the attempt after failed ones is the one that would have been made first, by the
statements of the failed attempts. -/
def RetryCondition (request : TaskRequest F) (history : List (List Statement)) : Prop :=
  match request with
  | .productsCreate _ =>
    ∀ statements ∈ history, ∀ statement ∈ statements, insertsProducts statement = false
  | .productsMove _ | .productsRemove _ | .reportsByPeriod .. => history = []
  | .productList request | .operationList request | .userList request | .reportList request =>
    history = [] ∨ QueryFactory.conditionParams request.filter = []
  | .warehouseList request | .invoiceList request =>
    history = [] ∨ QueryFactory.conditionParams request.filter = [] ∧
      ∀ statements ∈ history, statements.length ≤ 1

end TaskRequest

/-- A list of one statement is made again as it was when the statement has no parameters. -/
theorem ListRequest.sameAttempt_iff {options : SelectOptions} {condition : Option Condition}
    (hcondition : options.condition = condition) {rows : Rows}
    {final : Entry Rows × Rows} {history : List (List Statement)}
    (h : FailedAttempts attempt (ListRequest.chain options, rows) history final) :
    SameAttempt final (ListRequest.chain options, rows) ↔
      history = [] ∨ QueryFactory.conditionParams condition = [] := by
  subst hcondition
  by_cases hparams : QueryFactory.conditionParams options.condition = []
  · exact iff_of_true (ListRequest.sameAttempt_chain hparams h) (.inr hparams)
  · have hroot : (ListRequest.chain options).rootQuery =
        some (.select options, QueryFactory.conditionParams options.condition) := by
      rw [ListRequest.chain, ListRequest.selectEntry, Entry.rootQuery]
    rw [h.sameAttempt_iff_of_rootQuery hparams hroot]
    simp [hparams]

/-- The join does not touch the filter. -/
theorem GetProductList.options_condition (request : ListRequest) :
    (GetProductList.options request).condition = request.filter := by
  unfold GetProductList.options
  split <;> rfl

namespace TaskRequest

variable {F : Type}

/-- After failed attempts, the condition decides for every task. -/
theorem sameAttempt_iff_of_failedAttempts {dateProvider : Nat → UInt64}
    {createFile : Report → F → Except Exception (String × F)} {request : TaskRequest F}
    {first : Entry request.Memory × request.Memory}
    (hchain : request.chain dateProvider createFile = .ok first)
    {final : Entry request.Memory × request.Memory} {history : List (List Statement)}
    (h : FailedAttempts attempt first history final) :
    SameAttempt final first ↔ request.RetryCondition history := by
  obtain ⟨entry, memory⟩ := first
  match request with
  | .productsCreate task =>
    obtain ⟨warehouseToId, options, params, rest, htable, hparams, rfl⟩ :=
      ProductsTask.createChain_secondEntry hchain
    refine h.sameAttempt_iff_of_secondEntry hparams ?_ ?_ ?_
    · intro D answers clock state
      -- `ChangeCount` changes the database only.
      exact congrArg Program.Ran.memory (Program.run_mapMemory ..)
    · intro task
      exact (WarehouseItem.changeCount_noInsertsProducts ..).mapMemory _
    · intro params
      simp [insertsProducts, htable]
  | .productsMove task =>
    obtain ⟨options, params, hparams, hroot⟩ := ProductsTask.moveChain_rootQuery hchain
    exact h.sameAttempt_iff_of_rootQuery hparams hroot
  | .productsRemove task =>
    obtain ⟨options, params, hparams, hroot⟩ := ProductsTask.removeChain_rootQuery hchain
    exact h.sameAttempt_iff_of_rootQuery hparams hroot
  | .reportsByPeriod consumer task =>
    obtain ⟨options, params, hparams, hroot⟩ := ReportsByPeriod.chain_rootQuery hchain
    exact h.sameAttempt_iff_of_rootQuery hparams hroot
  | .productList request =>
    cases hchain
    exact ListRequest.sameAttempt_iff (GetProductList.options_condition request) h
  | .operationList request =>
    cases hchain
    exact ListRequest.sameAttempt_iff rfl h
  | .userList request =>
    cases hchain
    exact ListRequest.sameAttempt_iff rfl h
  | .reportList request =>
    cases hchain
    exact ListRequest.sameAttempt_iff rfl h
  | .warehouseList request =>
    cases hchain
    exact ItemList.sameAttempt_iff h
  | .invoiceList request =>
    cases hchain
    exact ItemList.sameAttempt_iff h

/-- A task whose first attempts failed with serialization failures, and which goes on, makes its
next attempt as the first one would have been made exactly when the condition holds of the
statements that the failed attempts issued. -/
theorem sameAttempt_execute_iff {D : Type} (dateProvider : Nat → UInt64)
    (createFile : Report → F → Except Exception (String × F)) (request : TaskRequest F)
    (entry : Entry request.Memory) (memory : request.Memory)
    (hchain : request.chain dateProvider createFile = .ok (entry, memory))
    (database : Database D) (commitAttempts failures : Nat) (visible : D)
    (hrunning : (({ entry, commitAttempts } : Transaction request.Memory).execute database failures
      memory visible).result = none) :
    SameAttempt (({ entry, commitAttempts } : Transaction request.Memory).execute database failures
        memory visible).memory (entry, memory) ↔
      request.RetryCondition (Execution.statements database commitAttempts attempt failures
        (Execution.start commitAttempts (entry, memory) visible)) := by
  have hloop : ({ entry, commitAttempts } : Transaction request.Memory).execute database failures
      memory visible = (Execution.start commitAttempts (entry, memory) visible).rounds database
        commitAttempts attempt failures := by
    unfold Transaction.execute at hrunning ⊢
    split at hrunning
    · cases hrunning
    · rfl
  rw [hloop] at hrunning ⊢
  obtain ⟨hfailed, -⟩ := Execution.failedAttempts_of_rounds failures hrunning
  exact sameAttempt_iff_of_failedAttempts hchain hfailed

/-! ## A contended list -/

/-- A list of all invoices. -/
def allInvoices : ListRequest where
  offset := 0

/-- The transaction of this list, with three attempts. -/
def allInvoicesTransaction : Transaction (ItemList Invoice) where
  entry := GetInvoiceList.chain allInvoices
  commitAttempts := 3

/-- A database with one invoice, on which the statement at one point of time fails. -/
def contendedAt (contended : Option Nat) : Database Unit where
  answers := fun clock statement _ =>
    if contended = some clock then
      .error .serializationFailure
    else if statement.params = [] then
      .ok ([[some "7", some "1", none, some "a", some "7_a", none, some "5", some "1"]], ())
    else
      .ok ([], ())
  commit := fun _ _ => .committed

/-- The condition of this list after a failure of its first statement. -/
theorem sameAttempt_execute_allInvoices :
    SameAttempt (allInvoicesTransaction.execute (contendedAt (some 0)) 1 {} ()).memory
        (GetInvoiceList.chain allInvoices, {}) ↔
      RetryCondition (.invoiceList allInvoices : TaskRequest Unit)
        (Execution.statements (contendedAt (some 0)) 3 attempt 1
          (Execution.start 3 (GetInvoiceList.chain allInvoices, {}) ())) :=
  sameAttempt_execute_iff (fun _ => 0) (fun _ _ => .error .other) (.invoiceList allInvoices)
    (GetInvoiceList.chain allInvoices) {} rfl (contendedAt (some 0)) 3 1 () rfl

/-- After a failure of its second statement the list asks for the items of every invoice twice,
and holds every invoice twice. -/
theorem invoiceList_not_same_attempt :
    let once := allInvoicesTransaction.execute (contendedAt none) 3 {} ()
    let retried := allInvoicesTransaction.execute (contendedAt (some 1)) 3 {} ()
    let start := Execution.start 3 (allInvoicesTransaction.entry, ({} : ItemList Invoice)) ()
    let params (contended : Option Nat) :=
      (Execution.statements (contendedAt contended) 3 attempt 3 start).map
        (List.map Statement.params)
    once.attempts = [.committed] ∧ params none = [[[], [some "7"]]] ∧
      once.memory.2.entities.map Invoice.invoiceId = [some 7] ∧
      retried.attempts = [.failed .serializationFailure, .committed] ∧
      params (some 1) = [[[], [some "7"]], [[], [some "7", some "7"]]] ∧
      retried.memory.2.entities.map Invoice.invoiceId = [some 7, some 7] := by
  decide

end TaskRequest

end TaskMgr.Tasks

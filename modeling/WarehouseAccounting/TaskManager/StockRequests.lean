import WarehouseAccounting.DbConnector.Commit
import WarehouseAccounting.TaskManager.InvoiceEffects
import WarehouseAccounting.TaskManager.RetryTransparency
import WarehouseAccounting.TaskManager.Tasks.Warehouse

/-!
# Requests that change the stock

The requests for `CreateWarehouse`, `ProductsCreate`, `ProductsMove` and `ProductsRemove`: their
parsing, their transactions with all attempts, and the tables that others see afterwards.

- `StockRequest.perform`: the tables after a request.
- `StockRequest.perform_cases`: a request changes nothing, or it is committed with all of its
  stages.
-/

namespace TaskMgr.Tasks

open Ufa Srv.Db Srv.Db.Trsct Srv.Db.Sql Srv.Db.DbMgr.Scpts Relational

/-! ## What a body lists -/

/-- The id and the count of an element. -/
def ProductBody.item (product : ProductBody) : Option (Int64 × Int64) :=
  match product.id, product.count with
  | some id, some count => some (id, count)
  | _, _ => none

namespace ProductsBody

/-- The listed ids and counts. -/
def items (body : ProductsBody) : List (Int64 × Int64) :=
  body.products.filterMap ProductBody.item

/-- The ids and counts of the products that are there already, for `ProductsCreate`. -/
def existing (body : ProductsBody) : List (Int64 × Int64) :=
  (body.products.filter fun product => product.type = some "byid").filterMap ProductBody.item

/-- The counts of the products that are created. -/
def newCounts (body : ProductsBody) : List Int64 :=
  (body.products.filter fun product => product.type = none ∨ product.type = some "new").filterMap
    ProductBody.count

end ProductsBody

/-- An existing product has an id and a count. -/
theorem ProductBody.parseExisting_eq_ok {body : ProductBody} {product : Product}
    (h : body.parseExisting = .ok product) :
    ∃ item, body.item = some item ∧ product.id = some item.1 ∧ product.count = some item.2 := by
  unfold parseExisting at h
  obtain ⟨id, hid, h⟩ := bind_eq_ok.mp h
  obtain ⟨count, hcount, h⟩ := bind_eq_ok.mp h
  cases h
  refine ⟨(id, count), ?_, rfl, rfl⟩
  rw [item, required_eq_ok.mp hid, required_eq_ok.mp hcount]

/-- Existing products are listed as they are in the body. -/
theorem listed_of_parseExisting {bodies : List ProductBody} {products : List Product}
    (h : bodies.mapM ProductBody.parseExisting = .ok products) :
    Listed products (bodies.filterMap ProductBody.item) := by
  induction bodies generalizing products with
  | nil =>
    cases h
    exact .nil
  | cons body bodies ih =>
    rw [List.mapM_cons] at h
    obtain ⟨product, hproduct, h⟩ := bind_eq_ok.mp h
    obtain ⟨rest, hrest, h⟩ := bind_eq_ok.mp h
    cases h
    obtain ⟨item, hitem, hlisted⟩ := ProductBody.parseExisting_eq_ok hproduct
    rw [List.filterMap_cons_some hitem]
    exact .cons hlisted (ih hrest)

namespace ProductsTask

/-- The members of `ProductsMove` after parsing. -/
theorem parseMove_eq_ok {initiativeUserId : UInt64} {body : ProductsBody} {task : ProductsTask}
    (h : parseMove initiativeUserId body = .ok task) :
    task.invoice.warehouseFromId = body.warehouseFrom ∧
      task.invoice.warehouseToId = body.warehouseTo ∧ Listed task.products body.items := by
  unfold parseMove at h
  obtain ⟨name, -, h⟩ := bind_eq_ok.mp h
  obtain ⟨warehouseTo, hto, h⟩ := bind_eq_ok.mp h
  obtain ⟨warehouseFrom, hfrom, h⟩ := bind_eq_ok.mp h
  obtain ⟨products, hproducts, h⟩ := bind_eq_ok.mp h
  cases h
  exact ⟨(required_eq_ok.mp hfrom).symm, (required_eq_ok.mp hto).symm,
    listed_of_parseExisting hproducts⟩

/-- The members of `ProductsRemove` after parsing. -/
theorem parseRemove_eq_ok {initiativeUserId : UInt64} {body : ProductsBody} {task : ProductsTask}
    (h : parseRemove initiativeUserId body = .ok task) :
    task.invoice.warehouseFromId = body.warehouseFrom ∧ task.invoice.warehouseToId = none ∧
      Listed task.products body.items := by
  unfold parseRemove at h
  obtain ⟨name, -, h⟩ := bind_eq_ok.mp h
  obtain ⟨warehouseFrom, hfrom, h⟩ := bind_eq_ok.mp h
  obtain ⟨products, hproducts, h⟩ := bind_eq_ok.mp h
  cases h
  exact ⟨(required_eq_ok.mp hfrom).symm, rfl, listed_of_parseExisting hproducts⟩

/-- The loop over the products of `ProductsCreate` adds each to one of the two lists. -/
theorem foldlM_parseCreatedProduct {initiativeUserId : UInt64} {bodies : List ProductBody}
    {task task' : ProductsTask}
    (h : bodies.foldlM (parseCreatedProduct initiativeUserId) task = .ok task')
    {items : List (Int64 × Int64)} (hitems : Listed task.products items) {counts : List Int64}
    (hcounts : task.productsNew.map Product.count = counts.map some) :
    task'.invoice = task.invoice ∧
      Listed task'.products (items ++ (bodies.filter fun product =>
        product.type = some "byid").filterMap ProductBody.item) ∧
      task'.productsNew.map Product.count = (counts ++ (bodies.filter fun product =>
        product.type = none ∨ product.type = some "new").filterMap ProductBody.count).map some := by
  induction bodies generalizing task items counts with
  | nil =>
    cases h
    simpa using ⟨hitems, hcounts⟩
  | cons body bodies ih =>
    rw [List.foldlM_cons] at h
    obtain ⟨middle, hmiddle, hrest⟩ := bind_eq_ok.mp h
    unfold parseCreatedProduct at hmiddle
    split at hmiddle
    · -- A new product.
      rename_i htype
      obtain ⟨product, hproduct, hnew⟩ := bind_eq_ok.mp hmiddle
      cases hnew
      unfold ProductBody.parseNew at hproduct
      obtain ⟨name, -, hproduct'⟩ := bind_eq_ok.mp hproduct
      obtain ⟨count, hcount, hvalue⟩ := bind_eq_ok.mp hproduct'
      cases hvalue
      have hnotById : ¬ body.type = some "byid" := by
        rcases htype with hnone | hnew
        · rw [hnone]
          simp
        · rw [hnew]
          decide
      have hcounts' : (task.productsNew ++ [({
            name := some name
            description := body.description
            mainColor := body.mainColor
            mainColorName := body.mainColorName
            count := some count
            createdBy := some initiativeUserId } : Product)]).map Product.count =
          (counts ++ [count]).map some := by
        rw [List.map_append, List.map_append, hcounts]
        rfl
      obtain ⟨hinvoice, hproducts, hnewCounts⟩ := ih hrest hitems hcounts'
      refine ⟨hinvoice, ?_, ?_⟩
      · rw [List.filter_cons_of_neg (by simpa using hnotById)]
        exact hproducts
      · rw [List.filter_cons_of_pos (by simpa using htype),
          List.filterMap_cons_some (required_eq_ok.mp hcount), List.append_cons]
        exact hnewCounts
    · rename_i htype
      split at hmiddle
      · -- A product that is there already.
        rename_i hbyId
        obtain ⟨product, hproduct, hexisting⟩ := bind_eq_ok.mp hmiddle
        cases hexisting
        obtain ⟨item, hitem, hlisted⟩ := ProductBody.parseExisting_eq_ok hproduct
        obtain ⟨hinvoice, hproducts, hnewCounts⟩ := ih hrest
          (List.rel_append hitems (.cons hlisted .nil)) hcounts
        refine ⟨hinvoice, ?_, ?_⟩
        · rw [List.filter_cons_of_pos (by simpa using hbyId), List.filterMap_cons_some hitem,
            List.append_cons]
          exact hproducts
        · rw [List.filter_cons_of_neg (by simpa using htype)]
          exact hnewCounts
      · cases hmiddle

/-- The members of `ProductsCreate` after parsing. -/
theorem parseCreate_eq_ok {initiativeUserId : UInt64} {body : ProductsBody} {task : ProductsTask}
    (h : parseCreate initiativeUserId body = .ok task) :
    task.invoice.warehouseFromId = none ∧ task.invoice.warehouseToId = body.warehouseTo ∧
      Listed task.products body.existing ∧
      task.productsNew.map Product.count = body.newCounts.map some := by
  unfold parseCreate at h
  obtain ⟨name, -, h⟩ := bind_eq_ok.mp h
  obtain ⟨warehouseTo, hto, h⟩ := bind_eq_ok.mp h
  have hempty : ([] : List Product).map Product.count = ([] : List Int64).map some := rfl
  obtain ⟨hinvoice, hproducts, hcounts⟩ := foldlM_parseCreatedProduct h .nil hempty
  rw [hinvoice]
  exact ⟨rfl, (required_eq_ok.mp hto).symm, hproducts, hcounts⟩

end ProductsTask

/-! ## Requests -/

/-- A request for one of the four tasks. -/
inductive StockRequest where
  | createWarehouse (body : WarehouseBody)
  | productsCreate (body : ProductsBody)
  | productsMove (body : ProductsBody)
  | productsRemove (body : ProductsBody)

/-- What a request meets: the user, the time, and the database, which answers as it does. -/
structure Circumstances where
  initiativeUserId : UInt64
  dateProvider : Nat → UInt64
  database : Database Tables
  answers_eq : ∀ clock statement tables rows tables',
    database.answers clock statement tables = .ok (rows, tables') →
      Answers tables statement rows tables'
  commitAttempts : Nat
  /-- How many attempts are made when their number is not limited. -/
  rounds : Nat

namespace Circumstances

/-- The tables after the transaction of a chain, or of a task that fails before. -/
def leave {σ : Type} (circumstances : Circumstances)
    (chain : Except Exception (Entry σ × σ)) (tables : Tables) : Tables :=
  match chain with
  | .error _ => tables
  | .ok (entry, memory) =>
    (({ entry, commitAttempts := circumstances.commitAttempts } : Transaction σ).execute
      circumstances.database circumstances.rounds memory tables).visible

/-- A task leaves the tables as they were, or as an attempt has left them that got to its
end. -/
theorem leave_cases {σ : Type} (circumstances : Circumstances)
    (chain : Except Exception (Entry σ × σ)) (tables : Tables) :
    circumstances.leave chain tables = tables ∨
      ∃ entry memory history final s', chain = .ok (entry, memory) ∧
        FailedAttempts attempt (entry, memory) history final ∧
        final.1.RunsTo Answers tables final.2 (circumstances.leave chain tables) s' := by
  unfold leave
  split
  · exact .inl rfl
  · rename_i entry memory
    rcases Transaction.visible_execute circumstances.answers_eq circumstances.rounds
      { entry, commitAttempts := circumstances.commitAttempts } memory tables with
      hsame | ⟨history, final, s', hattempts, hruns⟩
    · exact .inl hsame
    · exact .inr ⟨entry, memory, history, final, s', rfl, hattempts, hruns⟩

end Circumstances

/-- The tables after a request. -/
def StockRequest.perform (request : StockRequest) (circumstances : Circumstances)
    (tables : Tables) : Tables :=
  match request with
  | .createWarehouse body => circumstances.leave
      (CreateWarehouse.parse circumstances.initiativeUserId body >>=
        CreateWarehouse.chain (circumstances.dateProvider 0)) tables
  | .productsCreate body => circumstances.leave
      (ProductsTask.parseCreate circumstances.initiativeUserId body >>=
        ProductsTask.createChain circumstances.dateProvider) tables
  | .productsMove body => circumstances.leave
      (ProductsTask.parseMove circumstances.initiativeUserId body >>=
        ProductsTask.moveChain circumstances.dateProvider) tables
  | .productsRemove body => circumstances.leave
      (ProductsTask.parseRemove circumstances.initiativeUserId body >>=
        ProductsTask.removeChain circumstances.dateProvider) tables

/-! ## What is committed -/

/-- An insertion into another table than that of the items changes this table only. -/
theorem answers_insert_of_ne {options : InsertOptions} (htable : options.table ≠ .invoiceItem)
    {params : List (Option String)} {tables tables' : Tables} {rows : Rows}
    (h : Answers tables ⟨.insert options, params⟩ rows tables') :
    ∀ table, table ≠ options.table → tables' table = tables table := by
  obtain ⟨choices, writes, hexecute, rfl⟩ := h
  obtain ⟨inserted, rfl⟩ := perform_insert_of_ne htable (execute_eq_ok.mp hexecute).1
  intro table hother
  rw [applyAll_insert, if_neg hother]

/-- New warehouses have positive ids. -/
theorem answers_insertWarehouse {options : InsertOptions} (htable : options.table = .warehouse)
    {params : List (Option String)} {tables tables' : Tables} {rows : Rows}
    (h : Answers tables ⟨.insert options, params⟩ rows tables') :
    ∃ inserted : List TableRow, tables' .warehouse = tables .warehouse ++ inserted ∧
      ∀ row ∈ inserted, ∃ id : Int, 0 < id ∧ row .warehouseId = some (.integer id) := by
  obtain ⟨choices, writes, hexecute, rfl⟩ := h
  obtain ⟨-, values, -, -, hwrites⟩ := insert_eq_ok.mp (execute_eq_ok.mp hexecute).1
  rw [htable, triggeredRows_of_ne (by decide), List.map_nil, List.append_nil] at hwrites
  refine ⟨_, by rw [hwrites, applyAll_insert, if_pos rfl], fun row hrow => ?_⟩
  obtain ⟨index, hindex, rfl⟩ := List.mem_mapIdx.mp hrow
  exact ⟨choices.identity .warehouse index, choices.identity_pos _ _, rfl⟩

/-- The rows of products that are created. -/
theorem WarehouseItem.answers_insertsEntry {warehouseId : Int64} {products : List Product}
    {items : List (Int64 × Int64)} (hitems : Listed products items)
    {values : List ValueCollector}
    (hvalues : products.mapM (WarehouseItem.insertsRow warehouseId) = .ok values)
    {query : Query} (hquery : QueryFactory.createInsert
      { table := .warehouseItem, columns := [.warehouseId, .count, .productId]
        returning := [.productId] } values = .ok query)
    {tables tables' : Tables} {rows : Rows} (h : Answers tables (sent query) rows tables') :
    tables' .warehouseItem =
        tables .warehouseItem ++ WarehouseItem.itemRows warehouseId items ∧
      ∀ table, table ≠ .warehouseItem → tables' table = tables table := by
  obtain ⟨choices, writes, hexecute, rfl⟩ := h
  obtain ⟨others, hothers, rfl⟩ := perform_insertsEntry hvalues hquery (execute_eq_ok.mp hexecute).1
  rw [hothers.unique hitems]
  refine ⟨?_, fun table hother => ?_⟩
  · rw [applyAll_insert, if_pos rfl]
    rfl
  · rw [applyAll_insert, if_neg hother]

/-- The stages of a request that is committed. -/
inductive StockRequest.Committed : StockRequest → Tables → Tables → Prop
  | createWarehouse {body : WarehouseBody} {tables tables' : Tables} {inserted : List TableRow}
      (warehouses : tables' .warehouse = tables .warehouse ++ inserted)
      (positive : ∀ row ∈ inserted, ∃ id : Int, 0 < id ∧ row .warehouseId = some (.integer id))
      (kept : ∀ table, table ≠ .warehouse → tables' table = tables table)
      (integral : Integral schema tables') :
      Committed (.createWarehouse body) tables tables'
  | productsCreate {body : ProductsBody} {tables added created inserted tables' : Tables}
      {invoice : Invoice} {warehouseTo : Int64} {createdItems : List (Int64 × Int64)}
      (adding : WarehouseItem.Changed Answers warehouseTo false tables body.existing added)
      (created_kept : ∀ table, table ≠ .product → created table = added table)
      (effects : invoice.Effects (body.existing ++ createdItems) created inserted)
      (fromNone : invoice.warehouseFromId = none)
      (toSome : invoice.warehouseToId = some warehouseTo)
      (warehouseTo_eq : body.warehouseTo = some warehouseTo)
      (counts : createdItems.map Prod.snd = body.newCounts)
      (rows : tables' .warehouseItem =
        inserted .warehouseItem ++ WarehouseItem.itemRows warehouseTo createdItems)
      (kept : ∀ table, table ≠ .warehouseItem → tables' table = inserted table)
      (integral : Integral schema tables') :
      Committed (.productsCreate body) tables tables'
  | productsMove {body : ProductsBody} {tables inserted reduced tables' : Tables}
      {invoice : Invoice} {warehouseFrom warehouseTo : Int64}
      (effects : invoice.Effects body.items tables inserted)
      (fromSome : invoice.warehouseFromId = some warehouseFrom)
      (toSome : invoice.warehouseToId = some warehouseTo)
      (warehouseFrom_eq : body.warehouseFrom = some warehouseFrom)
      (warehouseTo_eq : body.warehouseTo = some warehouseTo)
      (reducing : WarehouseItem.Changed Answers warehouseFrom true inserted body.items reduced)
      (adding : WarehouseItem.Changed Answers warehouseTo false reduced body.items tables') :
      Committed (.productsMove body) tables tables'
  | productsRemove {body : ProductsBody} {tables inserted tables' : Tables}
      {invoice : Invoice} {warehouseFrom : Int64}
      (effects : invoice.Effects body.items tables inserted)
      (fromSome : invoice.warehouseFromId = some warehouseFrom)
      (toNone : invoice.warehouseToId = none)
      (warehouseFrom_eq : body.warehouseFrom = some warehouseFrom)
      (reducing : WarehouseItem.Changed Answers warehouseFrom true inserted body.items tables') :
      Committed (.productsRemove body) tables tables'

/-- The only attempt of `CreateWarehouse` that can be committed is the first. -/
theorem CreateWarehouse.chain_rootQuery {timestamp : UInt64} {task memory : CreateWarehouse}
    {entry : Entry CreateWarehouse}
    (h : CreateWarehouse.chain timestamp task = .ok (entry, memory)) :
    ∃ (options : InsertOptions) (params : ValueCollector), options.table = .warehouse ∧
      ∃ store, entry = .query (.insert options) params store .null := by
  unfold CreateWarehouse.chain at h
  obtain ⟨query, hquery, h⟩ := bind_eq_ok.mp h
  cases h
  unfold Warehouse.insertQuery at hquery
  obtain ⟨added, -, hquery⟩ := bind_eq_ok.mp hquery
  split at hquery
  · rename_i created hcreated
    cases hquery
    rw [(QueryFactory.createInsert_eq_ok.mp hcreated).2.2]
    exact ⟨_, _, rfl, _, rfl⟩
  · cases hquery

namespace StockRequest

/-- Two lists of ids and counts of products that follow each other. -/
theorem listed_append {products others : List Product} {items all : List (Int64 × Int64)}
    (hitems : Listed products items) (hall : Listed (products ++ others) all)
    {otherItems : List (Int64 × Int64)} (hothers : Listed others otherItems) :
    all = items ++ otherItems :=
  hall.unique (List.rel_append hitems hothers)

/-- The counts of listed products. -/
theorem counts_of_listed {products : List Product} {items : List (Int64 × Int64)}
    (h : Listed products items) : products.map Product.count = (items.map Prod.snd).map some := by
  induction h with
  | nil => rfl
  | cons hitem hitems ih => rw [List.map_cons, List.map_cons, List.map_cons, ih, hitem.2]

/-- `CreateWarehouse` is committed as a whole. -/
theorem perform_createWarehouse (body : WarehouseBody) (circumstances : Circumstances)
    {tables : Tables} (hintegral : Integral schema tables) :
    (createWarehouse body).perform circumstances tables = tables ∨
      (createWarehouse body).Committed tables
        ((createWarehouse body).perform circumstances tables) := by
  rcases circumstances.leave_cases (CreateWarehouse.parse circumstances.initiativeUserId body >>=
      CreateWarehouse.chain (circumstances.dateProvider 0)) tables with
    hsame | ⟨entry, memory, history, final, s', hchain, hattempts, hruns⟩
  · exact .inl hsame
  · obtain ⟨task, -, hchain⟩ := bind_eq_ok.mp hchain
    obtain ⟨options, params, htable, store, rfl⟩ := CreateWarehouse.chain_rootQuery hchain
    have hroot : (Entry.query (.insert options) params store .null :
        Entry CreateWarehouse).rootQuery = some (.insert options, params) := by
      rw [Entry.rootQuery]
    have hfinal := hattempts.eq_of_rootQuery (fun _ _ _ => not_answers_insert_nil) hroot hruns
    rw [hfinal] at hruns
    obtain ⟨rows, middle, hanswers, hnull⟩ := Entry.runsTo_query.mp hruns
    obtain ⟨hmiddle, -⟩ := Entry.runsTo_null.mp hnull
    rw [← hmiddle] at hanswers
    obtain ⟨inserted, hwarehouses, hpositive⟩ := answers_insertWarehouse htable hanswers
    refine .inr (.createWarehouse hwarehouses hpositive ?_ (hanswers.integral hintegral))
    intro table hother
    exact answers_insert_of_ne (by rw [htable]; decide) hanswers table (by rwa [htable])

/-- So is `ProductsMove`. -/
theorem perform_productsMove (body : ProductsBody) (circumstances : Circumstances)
    {tables : Tables} (hintegral : Integral schema tables) :
    (productsMove body).perform circumstances tables = tables ∨
      (productsMove body).Committed tables
        ((productsMove body).perform circumstances tables) := by
  rcases circumstances.leave_cases (ProductsTask.parseMove circumstances.initiativeUserId body >>=
      ProductsTask.moveChain circumstances.dateProvider) tables with
    hsame | ⟨entry, memory, history, final, s', hchain, hattempts, hruns⟩
  · exact .inl hsame
  · obtain ⟨task, htask, hchain⟩ := bind_eq_ok.mp hchain
    obtain ⟨hfrom, hto, hlisted⟩ := ProductsTask.parseMove_eq_ok htask
    obtain ⟨options, params, -, hroot⟩ := ProductsTask.moveChain_rootQuery hchain
    have hfinal := hattempts.eq_of_rootQuery (fun _ _ _ => not_answers_insert_nil) hroot hruns
    rw [hfinal] at hruns
    obtain ⟨query, warehouseFrom, warehouseTo, items, inserted, reduced, hquery, hfromSome,
      htoSome, hitems, hinserted, hreduced, hadded⟩ := ProductsTask.runsTo_moveChain hchain hruns
    obtain ⟨allItems, hallItems, heffects⟩ := hinserted.effects hquery hintegral
    cases hitems.unique hlisted
    cases hallItems.unique hlisted
    exact .inr (.productsMove heffects hfromSome htoSome (hfrom.symm.trans hfromSome)
      (hto.symm.trans htoSome) hreduced hadded)

/-- So is `ProductsRemove`. -/
theorem perform_productsRemove (body : ProductsBody) (circumstances : Circumstances)
    {tables : Tables} (hintegral : Integral schema tables) :
    (productsRemove body).perform circumstances tables = tables ∨
      (productsRemove body).Committed tables
        ((productsRemove body).perform circumstances tables) := by
  rcases circumstances.leave_cases (ProductsTask.parseRemove circumstances.initiativeUserId body >>=
      ProductsTask.removeChain circumstances.dateProvider) tables with
    hsame | ⟨entry, memory, history, final, s', hchain, hattempts, hruns⟩
  · exact .inl hsame
  · obtain ⟨task, htask, hchain⟩ := bind_eq_ok.mp hchain
    obtain ⟨hfrom, hto, hlisted⟩ := ProductsTask.parseRemove_eq_ok htask
    obtain ⟨options, params, -, hroot⟩ := ProductsTask.removeChain_rootQuery hchain
    have hfinal := hattempts.eq_of_rootQuery (fun _ _ _ => not_answers_insert_nil) hroot hruns
    rw [hfinal] at hruns
    obtain ⟨query, warehouseFrom, items, inserted, hquery, hfromSome, hitems, hinserted,
      hreduced⟩ := ProductsTask.runsTo_removeChain hchain hruns
    obtain ⟨allItems, hallItems, heffects⟩ := hinserted.effects hquery hintegral
    cases hitems.unique hlisted
    cases hallItems.unique hlisted
    exact .inr (.productsRemove heffects hfromSome hto (hfrom.symm.trans hfromSome) hreduced)

/-- So is `ProductsCreate`. -/
theorem perform_productsCreate (body : ProductsBody) (circumstances : Circumstances)
    {tables : Tables} (hintegral : Integral schema tables) :
    (productsCreate body).perform circumstances tables = tables ∨
      (productsCreate body).Committed tables
        ((productsCreate body).perform circumstances tables) := by
  rcases circumstances.leave_cases (ProductsTask.parseCreate circumstances.initiativeUserId body >>=
      ProductsTask.createChain circumstances.dateProvider) tables with
    hsame | ⟨entry, memory, history, final, s', hchain, hattempts, hruns⟩
  · exact .inl hsame
  · obtain ⟨task, htask, hchain⟩ := bind_eq_ok.mp hchain
    obtain ⟨hfrom, hto, hlisted, hnew⟩ := ProductsTask.parseCreate_eq_ok htask
    obtain ⟨warehouseTo, options, params, rest, htable, hparams, hentry⟩ :=
      ProductsTask.createChain_secondEntry hchain
    rw [hentry] at hattempts
    have hfinal := hattempts.eq_of_secondEntry (fun _ _ _ => not_answers_insert_nil)
      (fun _ _ _ _ => congrArg Program.Ran.memory (Program.run_mapMemory ..))
      ((WarehouseItem.changeCount_noInsertsProducts ..).mapMemory _)
      (fun params => show insertsProducts _ = true by simp [insertsProducts, htable]) hruns
    rw [hfinal, ← hentry] at hruns
    obtain ⟨query, warehouseTo', items, options', params', rows, added, created, createdProducts,
      createdItems, values, itemsQuery, itemsRows, inserted, hquery, htoSome, hitems, hadding,
      htable', hproducts, hinserted, hcounts, hcreatedItems, ⟨productsNew, hproductsNew, hvalues⟩,
      hitemsQuery, hlast⟩ := ProductsTask.runsTo_createChain hchain hruns
    have hadded := hadding.integral hintegral
    obtain ⟨allItems, hallItems, heffects⟩ :=
      hinserted.effects hquery (hproducts.integral hadded)
    cases hitems.unique hlisted
    cases listed_append hlisted hallItems hcreatedItems
    -- The new products are listed by the ids that they have got.
    obtain ⟨hrows, hkept⟩ := WarehouseItem.answers_insertsEntry hproductsNew hvalues hitemsQuery
      hlast
    have hnewCounts : createdItems.map Prod.snd = body.newCounts := by
      have hsome := (counts_of_listed hcreatedItems).symm.trans (hcounts.trans hnew)
      exact List.map_injective_iff.mpr (Option.some_injective _) hsome
    refine .inr (.productsCreate hadding ?_ heffects hfrom htoSome (hto.symm.trans htoSome)
      hnewCounts hrows hkept (hlast.integral heffects.integral))
    intro table hother
    exact answers_insert_of_ne (by rw [htable']; decide) hproducts table (by rwa [htable'])

/-- A request changes nothing, or it is committed as a whole. -/
theorem perform_cases (request : StockRequest) (circumstances : Circumstances) {tables : Tables}
    (hintegral : Integral schema tables) :
    request.perform circumstances tables = tables ∨
      request.Committed tables (request.perform circumstances tables) := by
  match request with
  | .createWarehouse body => exact perform_createWarehouse body circumstances hintegral
  | .productsCreate body => exact perform_productsCreate body circumstances hintegral
  | .productsMove body => exact perform_productsMove body circumstances hintegral
  | .productsRemove body => exact perform_productsRemove body circumstances hintegral

end StockRequest

/-! ## Runs -/

/-- The tables that some requests leave one after the other, when every request is made under a
condition on the tables before it. -/
inductive Reachable (condition : StockRequest → Tables → Prop) : Tables → Prop
  | initial : Reachable condition initialTables
  | request {tables : Tables} (request : StockRequest) (circumstances : Circumstances)
      (before : Reachable condition tables) (met : condition request tables) :
      Reachable condition (request.perform circumstances tables)

/-- The numbers of a sequence that was never used for rows that are gone. -/
def numbered (tables : Tables) : Choices where
  identity table index := ((tables table).length + index + 1 : Nat)
  identity_pos table index := by omega
  arrange := id
  arrange_perm rows := .refl rows
  answer := []

/-- A database that executes every statement and commits every transaction. -/
def undisturbed : Database Tables where
  answers _ statement tables :=
    (execute (numbered tables) statement tables).map fun (rows, writes) =>
      (rows, applyAll schema writes tables)
  commit _ _ := .committed

/-- The superuser, and nothing that disturbs a request. -/
def Circumstances.undisturbed : Circumstances where
  initiativeUserId := 1
  dateProvider _ := 0
  database := Tasks.undisturbed
  answers_eq := by
    intro clock statement tables rows tables' h
    change Except.map _ (execute (numbered tables) statement tables) = _ at h
    rcases hexecute : execute (numbered tables) statement tables with exception | ⟨answer, writes⟩
    · rw [hexecute] at h
      cases h
    · rw [hexecute] at h
      cases h
      exact ⟨numbered tables, writes, hexecute, rfl⟩
  commitAttempts := 1
  rounds := 1

end TaskMgr.Tasks

import WarehouseAccounting.DbConnector.Chain
import WarehouseAccounting.TaskManager.StockStatements

/-!
# The programs that change the stock

What it takes for `ChangeCount` and for the chains of `ProductsCreate`, `ProductsMove` and
`ProductsRemove` to get to their ends: which statements are answered in which order, and what
is decided from the answers. The database is any relation between states and statements.

- `WarehouseItem.completes_changeCount`: the decisions, then one statement for the critical
  products, then one for each of the others.
- `ProductsTask.runsTo_moveChain`, `ProductsTask.runsTo_removeChain`,
  `ProductsTask.runsTo_createChain`: the three chains.
-/

namespace TaskMgr.Tasks

open Ufa Srv.Db Srv.Db.Trsct

variable {D : Type} {step : D → Statement → Rows → D → Prop}

/-- A query as it is sent. -/
abbrev sent (query : Query) : Statement := ⟨query.options, query.params.toPqxx⟩

/-- Two lists of ids and counts of the same products are one list. -/
theorem Listed.unique {products : List Product} {items others : List (Int64 × Int64)}
    (h : Listed products items) (hothers : Listed products others) : items = others := by
  unfold Listed at h hothers
  induction h generalizing others with
  | nil =>
    cases hothers
    rfl
  | cons hitem hitems ih =>
    cases hothers with
    | cons hother hothers =>
      rw [ih hothers]
      congr 1
      exact Prod.ext (Option.some.inj (hitem.1.symm.trans hother.1))
        (Option.some.inj (hitem.2.symm.trans hother.2))

namespace WarehouseItem

/-! ## ChangeCount -/

/-- What is decided on a product from the rows that were read. -/
def decision (isReducing : Bool) (productId count : Int64) (rows : Rows) :
    Except Exception Change :=
  if isReducing && rows.isEmpty then
    .error .integrityConstraintViolation
  else do
    if ← predicate isReducing count rows then
      return .critical productId count
    else
      return .modify productId (← calcTarget isReducing count rows)

/-- The decision on a product takes one statement. -/
theorem completes_changeOf {warehouseId : Int64} {isReducing : Bool} {product : Product}
    {state state' : D} {change : Change}
    (h : (changeOf warehouseId isReducing product).Completes step state state' () change) :
    ∃ productId count rows, product.id = some productId ∧ product.count = some count ∧
      step state (sent (selectCount productId warehouseId)) rows state' ∧
      decision isReducing productId count rows = .ok change := by
  unfold changeOf at h
  simp only [Program.completes_bind, Script.completes_ofExcept, required_eq_ok,
    Script.completes_execute] at h
  obtain ⟨_, productId, ⟨rfl, hid⟩, _, count, ⟨rfl, hcount⟩, middle, rows, hstep, h⟩ := h
  refine ⟨productId, count, rows, hid, hcount, ?_⟩
  unfold decision
  split at h
  · exact absurd h Script.completes_throw
  · rename_i hrows
    rw [if_neg hrows]
    obtain ⟨_, critical, hpredicate, hchosen⟩ := Program.completes_bind.mp h
    obtain ⟨rfl, hcritical⟩ := Script.completes_ofExcept.mp hpredicate
    rw [hcritical, ok_bind]
    split at hchosen
    · rename_i hyes
      obtain ⟨rfl, rfl⟩ := Script.completes_pure.mp hchosen
      rw [if_pos hyes]
      exact ⟨hstep, rfl⟩
    · rename_i hno
      obtain ⟨_, target, hcalc, hmodify⟩ := Program.completes_bind.mp hchosen
      obtain ⟨rfl, htarget⟩ := Script.completes_ofExcept.mp hcalc
      obtain ⟨rfl, rfl⟩ := Script.completes_pure.mp hmodify
      rw [if_neg hno, htarget]
      exact ⟨hstep, rfl⟩

/-- The decisions on some products, one statement after the other. -/
inductive Decided (step : D → Statement → Rows → D → Prop) (warehouseId : Int64)
    (isReducing : Bool) : D → List (Int64 × Int64) → List Change → D → Prop
  | nil (state : D) : Decided step warehouseId isReducing state [] [] state
  | cons {state middle state' : D} {productId count : Int64} {rows : Rows} {change : Change}
      {items : List (Int64 × Int64)} {changes : List Change}
      (read : step state (sent (selectCount productId warehouseId)) rows middle)
      (decided : decision isReducing productId count rows = .ok change)
      (rest : Decided step warehouseId isReducing middle items changes state') :
      Decided step warehouseId isReducing state ((productId, count) :: items)
        (change :: changes) state'

/-- The loop over the products gets to its end with a decision on each of them. -/
theorem completes_changesOf {warehouseId : Int64} {isReducing : Bool} {products : List Product}
    {state state' : D} {changes : List Change}
    (h : (changesOf warehouseId isReducing products).Completes step state state' () changes) :
    ∃ items, Listed products items ∧
      Decided step warehouseId isReducing state items changes state' := by
  induction products generalizing state changes with
  | nil =>
    obtain ⟨rfl, rfl⟩ := Script.completes_pure.mp h
    exact ⟨[], .nil, .nil _⟩
  | cons product products ih =>
    rw [changesOf] at h
    obtain ⟨middle, change, hchange, h⟩ := Program.completes_bind.mp h
    obtain ⟨_, rest, hrest, h⟩ := Program.completes_bind.mp h
    obtain ⟨rfl, rfl⟩ := Script.completes_pure.mp h
    obtain ⟨productId, count, rows, hid, hcount, hstep, hdecision⟩ := completes_changeOf hchange
    obtain ⟨items, hitems, hdecided⟩ := ih hrest
    exact ⟨(productId, count) :: items, .cons ⟨hid, hcount⟩ hitems,
      .cons hstep hdecision hdecided⟩

/-- The statement for the critical products, if there are any. -/
def Handled (step : D → Statement → Rows → D → Prop) (warehouseId : Int64) (isReducing : Bool)
    (state : D) (items : List (Int64 × Int64)) (state' : D) : Prop :=
  (items = [] ∧ state' = state) ∨ items ≠ [] ∧ ∃ query rows,
    (if isReducing then deleteItems warehouseId (items.map Prod.fst)
      else insertItems warehouseId items) = .ok query ∧ step state (sent query) rows state'

/-- The critical products take one statement. -/
theorem completes_handleCritical {warehouseId : Int64} {isReducing : Bool}
    {items : List (Int64 × Int64)} {state state' : D}
    (h : (handleCritical warehouseId isReducing items).Completes step state state' () ()) :
    Handled step warehouseId isReducing state items state' := by
  unfold handleCritical at h
  split at h
  · rename_i hempty
    obtain ⟨rfl, -⟩ := Script.completes_pure.mp h
    exact .inl ⟨List.isEmpty_iff.mp hempty, rfl⟩
  · rename_i hne
    refine .inr ⟨fun hnil => hne (List.isEmpty_iff.mpr hnil), ?_⟩
    split at h
    · rename_i hreducing
      obtain ⟨_, rows, hcreated, h⟩ := Program.completes_bind.mp h
      obtain ⟨rfl, -⟩ := Script.completes_pure.mp h
      obtain ⟨query, hquery, hstep⟩ := Script.completes_executeCreated.mp hcreated
      exact ⟨query, rows, by rw [if_pos hreducing, hquery], hstep⟩
    · rename_i hadding
      obtain ⟨_, rows, hcreated, h⟩ := Program.completes_bind.mp h
      obtain ⟨rfl, -⟩ := Script.completes_pure.mp h
      obtain ⟨query, hquery, hstep⟩ := Script.completes_executeCreated.mp hcreated
      exact ⟨query, rows, by rw [if_neg hadding, hquery], hstep⟩

/-- The rows of some products are changed, one statement after the other. -/
inductive Modified (step : D → Statement → Rows → D → Prop) (warehouseId : Int64) :
    D → List (Int64 × Int64) → D → Prop
  | nil (state : D) : Modified step warehouseId state [] state
  | cons {state middle state' : D} {productId target : Int64} {query : Query} {rows : Rows}
      {items : List (Int64 × Int64)}
      (created : updateItem warehouseId productId target = .ok query)
      (modified : step state (sent query) rows middle)
      (rest : Modified step warehouseId middle items state') :
      Modified step warehouseId state ((productId, target) :: items) state'

/-- The other products take one statement each. -/
theorem completes_handleModifying {warehouseId : Int64} {items : List (Int64 × Int64)}
    {state state' : D}
    (h : (handleModifying warehouseId items).Completes step state state' () ()) :
    Modified step warehouseId state items state' := by
  induction items generalizing state with
  | nil =>
    obtain ⟨rfl, -⟩ := Script.completes_pure.mp h
    exact .nil _
  | cons item items ih =>
    rw [handleModifying] at h
    obtain ⟨middle, rows, hcreated, h⟩ := Program.completes_bind.mp h
    obtain ⟨query, hquery, hstep⟩ := Script.completes_executeCreated.mp hcreated
    exact .cons hquery hstep (ih h)

/-- The stages of `ChangeCount` on some products. -/
def Changed (step : D → Statement → Rows → D → Prop) (warehouseId : Int64) (isReducing : Bool)
    (state : D) (items : List (Int64 × Int64)) (state' : D) : Prop :=
  ∃ changes decided handled, Decided step warehouseId isReducing state items changes decided ∧
    Handled step warehouseId isReducing decided (criticalChanges changes) handled ∧
    Modified step warehouseId handled (modifyingChanges changes) state'

/-- `ChangeCount` gets to its end through its stages. -/
theorem completes_changeCount {products : List Product} {warehouseId : Int64} {isReducing : Bool}
    {state state' : D}
    (h : (changeCount products warehouseId isReducing).Completes step state state' () ()) :
    ∃ items, Listed products items ∧ Changed step warehouseId isReducing state items state' := by
  unfold changeCount at h
  obtain ⟨decided, changes, hchanges, h⟩ := Program.completes_bind.mp h
  obtain ⟨handled, _, hhandled, hmodified⟩ := Program.completes_bind.mp h
  obtain ⟨items, hitems, hdecided⟩ := completes_changesOf hchanges
  exact ⟨items, hitems, changes, decided, handled, hdecided, completes_handleCritical hhandled,
    completes_handleModifying hmodified⟩

/-- `InsertsEntry` takes one statement. -/
theorem completes_insertsEntry {products : List Product} {warehouseId : Int64}
    {state state' : D}
    (h : (insertsEntry products warehouseId).Completes step state state' () ()) :
    ∃ values query rows, products.mapM (insertsRow warehouseId) = .ok values ∧
      QueryFactory.createInsert
        { table := .warehouseItem, columns := [.warehouseId, .count, .productId]
          returning := [.productId] } values = .ok query ∧
      step state (sent query) rows state' := by
  unfold insertsEntry at h
  obtain ⟨_, values, hofExcept, hrest⟩ := Program.completes_bind.mp h
  obtain ⟨rfl, hvalues⟩ := Script.completes_ofExcept.mp hofExcept
  obtain ⟨_, rows, hcreated, hlast⟩ := Program.completes_bind.mp hrest
  obtain ⟨rfl, -⟩ := Script.completes_pure.mp hlast
  obtain ⟨query, hquery, hstep⟩ := Script.completes_executeCreated.mp hcreated
  exact ⟨values, query, rows, hvalues, hquery, hstep⟩

end WarehouseItem

/-! ## Invoices -/

namespace Invoice

/-- The items of an invoice take one statement. -/
theorem completes_insertInvoiceItems {invoice : Invoice} {products : List Product}
    {state state' : D}
    (h : (insertInvoiceItems invoice products).Completes step state state' () ()) :
    ∃ invoiceId values query rows, invoice.invoiceId = some invoiceId ∧
      products.mapM (insertItemsRow invoiceId) = .ok values ∧
      QueryFactory.createInsert
        { table := .invoiceItem, columns := [.invoiceId, .productId, .count] } values =
          .ok query ∧
      step state (sent query) rows state' := by
  unfold insertInvoiceItems at h
  obtain ⟨_, invoiceId, hrequired, hrest⟩ := Program.completes_bind.mp h
  obtain ⟨rfl, hinvoiceId⟩ := Script.completes_ofExcept.mp hrequired
  obtain ⟨_, values, hofExcept, hrows⟩ := Program.completes_bind.mp hrest
  obtain ⟨rfl, hvalues⟩ := Script.completes_ofExcept.mp hofExcept
  obtain ⟨_, rows, hcreated, hlast⟩ := Program.completes_bind.mp hrows
  obtain ⟨rfl, -⟩ := Script.completes_pure.mp hlast
  obtain ⟨query, hquery, hstep⟩ := Script.completes_executeCreated.mp hcreated
  exact ⟨invoiceId, values, query, rows, required_eq_ok.mp hinvoiceId, hvalues, hquery, hstep⟩

/-- The statements of `FullInsertEntry`: the invoice, whose id is read from the answer, and its
items. -/
def Inserted (step : D → Statement → Rows → D → Prop) (invoice : Invoice) (query : Query)
    (products : List Product) (state state' : D) : Prop :=
  ∃ rows middle invoice' invoiceId values itemsQuery itemsRows,
    step state (sent query) rows middle ∧
    invoiceIdGetter rows invoice = .ok invoice' ∧ invoice'.invoiceId = some invoiceId ∧
    products.mapM (insertItemsRow invoiceId) = .ok values ∧
    QueryFactory.createInsert
      { table := .invoiceItem, columns := [.invoiceId, .productId, .count] } values =
        .ok itemsQuery ∧
    step middle (sent itemsQuery) itemsRows state'

end Invoice

namespace ProductsTask

/-- The invoice entry gets to its end through its two statements, and leaves the products. -/
theorem executes_invoiceEntry {query : Query} {state state' : D} {task task' : ProductsTask}
    (h : (invoiceEntry query).Executes step state task state' task') :
    task.invoice.Inserted step query task.products state state' ∧
      task'.products = task.products ∧ task'.productsNew = task.productsNew := by
  unfold invoiceEntry Invoice.fullInsertEntry at h
  simp only [Entry.executes_grouped, Entry.executesAll_cons, Entry.executesAll_nil,
    Entry.executes_query, Entry.executes_variable, Script.completes_asCode] at h
  obtain ⟨middle, _, ⟨rows, hinvoice, rfl⟩, middle', task'', hgetter, _, _, ⟨hitems, rfl⟩, rfl,
    rfl⟩ := h
  split at hgetter
  · rename_i invoice' hinvoice'
    obtain ⟨rfl, rfl, -⟩ := hgetter
    obtain ⟨invoiceId, values, itemsQuery, itemsRows, hid, hvalues, hquery, hstep⟩ :=
      Invoice.completes_insertInvoiceItems hitems
    exact ⟨⟨rows, _, invoice', invoiceId, values, itemsQuery, itemsRows, hinvoice, hinvoice', hid,
      hvalues, hquery, hstep⟩, rfl, rfl⟩
  · exact hgetter.elim

/-- The change of the stock gets to its end through its stages, and leaves the task. -/
theorem executes_changeCountEntry {warehouseId : Int64} {isReducing : Bool} {state state' : D}
    {task task' : ProductsTask}
    (h : (changeCountEntry warehouseId isReducing).Executes step state task state' task') :
    (∃ items, Listed task.products items ∧
      WarehouseItem.Changed step warehouseId isReducing state items state') ∧ task' = task := by
  unfold changeCountEntry at h
  rw [Entry.executes_variable, Script.completes_asCode] at h
  exact ⟨WarehouseItem.completes_changeCount h.1, h.2⟩

/-- Something can follow the invoice entry. -/
theorem hasNext_invoiceEntry (query : Query) : (invoiceEntry query).HasNext := trivial

/-- Something can follow a change of the stock. -/
theorem hasNext_changeCountEntry (warehouseId : Int64) (isReducing : Bool) :
    (changeCountEntry warehouseId isReducing).HasNext := trivial

/-- The last change of the stock. -/
theorem runsTo_changeCountEntry {warehouseId : Int64} {isReducing : Bool} {state state' : D}
    {task task' : ProductsTask}
    (h : (changeCountEntry warehouseId isReducing).RunsTo step state task state' task') :
    ∃ items, Listed task.products items ∧
      WarehouseItem.Changed step warehouseId isReducing state items state' := by
  unfold changeCountEntry at h
  rw [Entry.runsTo_variable] at h
  obtain ⟨middle, task'', hchanged, hnull⟩ := h
  obtain ⟨rfl, -⟩ := Entry.runsTo_null.mp hnull
  exact (executes_changeCountEntry (Entry.executes_variable.mpr hchanged)).1

/-- `ProductsMove`: the invoice, what is taken from one warehouse, what is added to the other. -/
theorem runsTo_moveChain {dateProvider : Nat → UInt64} {task memory memory' : ProductsTask}
    {entry : Entry ProductsTask} (hchain : moveChain dateProvider task = .ok (entry, memory))
    {state state' : D} (h : entry.RunsTo step state memory state' memory') :
    ∃ query warehouseFromId warehouseToId items inserted reduced,
      (task.stampInvoice (dateProvider 0)).invoice.insertQuery = .ok query ∧
      task.invoice.warehouseFromId = some warehouseFromId ∧
      task.invoice.warehouseToId = some warehouseToId ∧ Listed task.products items ∧
      (task.stampInvoice (dateProvider 0)).invoice.Inserted step query task.products state
        inserted ∧
      WarehouseItem.Changed step warehouseFromId true inserted items reduced ∧
      WarehouseItem.Changed step warehouseToId false reduced items state' := by
  unfold moveChain at hchain
  obtain ⟨query, hquery, hchain⟩ := bind_eq_ok.mp hchain
  obtain ⟨warehouseFromId, hfrom, hchain⟩ := bind_eq_ok.mp hchain
  obtain ⟨warehouseToId, hto, hchain⟩ := bind_eq_ok.mp hchain
  cases hchain
  obtain ⟨inserted, task', hinvoice, hchanges⟩ :=
    (Entry.runsTo_setNext (hasNext_invoiceEntry query)).mp h
  obtain ⟨reduced, task'', hreduced, hadded⟩ :=
    (Entry.runsTo_setNext (hasNext_changeCountEntry warehouseFromId true)).mp hchanges
  obtain ⟨hinserted, hproducts, -⟩ := executes_invoiceEntry hinvoice
  obtain ⟨⟨items, hitems, hreducing⟩, rfl⟩ := executes_changeCountEntry hreduced
  obtain ⟨others, hothers, hadding⟩ := runsTo_changeCountEntry hadded
  rw [hproducts] at hitems hothers
  rw [hothers.unique hitems] at hadding
  exact ⟨query, warehouseFromId, warehouseToId, items, inserted, reduced, hquery,
    required_eq_ok.mp hfrom, required_eq_ok.mp hto, hitems, hinserted, hreducing, hadding⟩

/-- `ProductsRemove`: the invoice, and what is taken from the warehouse. -/
theorem runsTo_removeChain {dateProvider : Nat → UInt64} {task memory memory' : ProductsTask}
    {entry : Entry ProductsTask} (hchain : removeChain dateProvider task = .ok (entry, memory))
    {state state' : D} (h : entry.RunsTo step state memory state' memory') :
    ∃ query warehouseFromId items inserted,
      (task.stampInvoice (dateProvider 0)).invoice.insertQuery = .ok query ∧
      task.invoice.warehouseFromId = some warehouseFromId ∧ Listed task.products items ∧
      (task.stampInvoice (dateProvider 0)).invoice.Inserted step query task.products state
        inserted ∧
      WarehouseItem.Changed step warehouseFromId true inserted items state' := by
  unfold removeChain at hchain
  obtain ⟨query, hquery, hchain⟩ := bind_eq_ok.mp hchain
  obtain ⟨warehouseFromId, hfrom, hchain⟩ := bind_eq_ok.mp hchain
  cases hchain
  obtain ⟨inserted, task', hinvoice, hreduced⟩ :=
    (Entry.runsTo_setNext (hasNext_invoiceEntry query)).mp h
  obtain ⟨hinserted, hproducts, -⟩ := executes_invoiceEntry hinvoice
  obtain ⟨items, hitems, hreduced⟩ := runsTo_changeCountEntry hreduced
  rw [hproducts] at hitems
  exact ⟨query, warehouseFromId, items, inserted, hquery, required_eq_ok.mp hfrom, hitems,
    hinserted, hreduced⟩

/-- A new product keeps the id and the count of the product that was created from it. -/
theorem listed_created {productsNew created : List Product}
    (hlength : created.length = productsNew.length) {items : List (Int64 × Int64)}
    (h : Listed ((productsNew.zip created).map fun (product, created) =>
      { product.movedFrom with id := created.id, count := created.count }) items) :
    Listed created items := by
  induction created generalizing productsNew items with
  | nil =>
    rw [List.length_nil, eq_comm, List.length_eq_zero_iff] at hlength
    rw [hlength] at h
    exact h
  | cons product created ih =>
    match productsNew with
    | [] => cases hlength
    | productNew :: productsNew =>
      cases h with
      | cons hitem hitems => exact .cons hitem (ih (Nat.succ.inj hlength) hitems)

/-- The products that are created have the counts of the new products. -/
theorem counts_created {rows : Rows} {productsNew created : List Product}
    (hlength : rows.length = productsNew.length)
    (h : (rows.zip productsNew).mapM (fun (row, product) => createdProduct row product) =
      .ok created) : created.map Product.count = productsNew.map Product.count := by
  induction productsNew generalizing rows created with
  | nil =>
    rw [List.zip_nil_right] at h
    cases h
    rfl
  | cons productNew productsNew ih =>
    match rows with
    | [] => cases hlength
    | row :: rows =>
      rw [List.zip_cons_cons, List.mapM_cons] at h
      obtain ⟨product, hproduct, h⟩ := bind_eq_ok.mp h
      obtain ⟨rest, hrest, h⟩ := bind_eq_ok.mp h
      cases h
      have hcount : product.count = productNew.count := by
        unfold createdProduct at hproduct
        simp only [bind_eq_ok] at hproduct
        obtain ⟨_, -, _, -, _, -, _, -, _, -, _, -, hvalue⟩ := hproduct
        exact (congrArg Product.count (Except.ok.inj hvalue)).symm
      rw [List.map_cons, List.map_cons, hcount, ih (Nat.succ.inj hlength) hrest]

/-- `idsConverter` appends the products that were created, and leaves their ids and counts with
the new products. -/
theorem completes_idsConverter {state state' : D} {task task' : ProductsTask}
    (h : (idsConverter task).Completes step state state' task' ()) :
    state' = state ∧ task'.invoice = task.invoice ∧ ∃ created,
      task'.products = task.products ++ created ∧
      created.map Product.count = task.productsNew.map Product.count ∧
      ∀ items, Listed task'.productsNew items → Listed created items := by
  unfold idsConverter at h
  split at h
  · rename_i hlength
    split at h
    · exact h.elim
    · rename_i created hcreated
      obtain ⟨rfl, rfl, -⟩ := h
      refine ⟨rfl, rfl, created, rfl, counts_created hlength hcreated,
        fun items hitems => listed_created ?_ hitems⟩
      rw [Exceptions.length_of_mapM hcreated, List.length_zip, hlength, Nat.min_self]
  · exact h.elim

/-- `ProductsCreate`: what is added of the products that exist, the new products, the invoice of
all of them, and the rows of the new ones. -/
theorem runsTo_createChain {dateProvider : Nat → UInt64} {task memory memory' : ProductsTask}
    {entry : Entry ProductsTask} (hchain : createChain dateProvider task = .ok (entry, memory))
    {state state' : D} (h : entry.RunsTo step state memory state' memory') :
    ∃ query warehouseToId items options params rows added created createdProducts createdItems
      values itemsQuery itemsRows inserted,
      (task.stampInvoice (dateProvider task.productsNew.length)).invoice.insertQuery = .ok query ∧
      task.invoice.warehouseToId = some warehouseToId ∧ Listed task.products items ∧
      WarehouseItem.Changed step warehouseToId false state items added ∧
      InsertOptions.table options = .product ∧
      step added ⟨.insert options, params⟩ rows created ∧
      (task.stampInvoice (dateProvider task.productsNew.length)).invoice.Inserted step query
        (task.products ++ createdProducts) created inserted ∧
      createdProducts.map Product.count = task.productsNew.map Product.count ∧
      Listed createdProducts createdItems ∧
      (∃ productsNew, Listed productsNew createdItems ∧
        productsNew.mapM (WarehouseItem.insertsRow warehouseToId) = .ok values) ∧
      QueryFactory.createInsert
        { table := .warehouseItem, columns := [.warehouseId, .count, .productId]
          returning := [.productId] } values = .ok itemsQuery ∧
      step inserted (sent itemsQuery) itemsRows state' := by
  unfold createChain at hchain
  obtain ⟨warehouseToId, hto, hchain⟩ := bind_eq_ok.mp hchain
  obtain ⟨productsEntry, hproductsEntry, hchain⟩ := bind_eq_ok.mp hchain
  obtain ⟨query, hquery, hchain⟩ := bind_eq_ok.mp hchain
  obtain ⟨options, params, htable, -, rfl⟩ := Product.insertsEntry_eq_ok hproductsEntry
  cases hchain
  obtain ⟨added, task₁, hchanged, hrest₁⟩ :=
    (Entry.runsTo_setNext (hasNext_changeCountEntry warehouseToId false)).mp h
  obtain ⟨⟨items, hitems, hadding⟩, rfl⟩ := executes_changeCountEntry hchanged
  rw [Entry.setNext, Entry.runsTo_query] at hrest₁
  obtain ⟨rows, created, hproducts, hrest₂⟩ := hrest₁
  rw [Entry.setNext, Entry.runsTo_variable] at hrest₂
  obtain ⟨created', task₂, hconverted, hrest₃⟩ := hrest₂
  obtain ⟨rfl, hinvoice, createdProducts, hall, hcounts, hlisted⟩ :=
    completes_idsConverter hconverted
  obtain ⟨inserted, task₃, hinvoiceEntry, hlast⟩ :=
    (Entry.runsTo_setNext (hasNext_invoiceEntry query)).mp hrest₃
  obtain ⟨hinserted, -, hproductsNew⟩ := executes_invoiceEntry hinvoiceEntry
  unfold warehouseItemEntry at hlast
  rw [Entry.runsTo_variable] at hlast
  obtain ⟨state'', task₄, hcode, hnull⟩ := hlast
  obtain ⟨rfl, -⟩ := Entry.runsTo_null.mp hnull
  obtain ⟨hinserts, -⟩ := Script.completes_asCode.mp hcode
  obtain ⟨values, itemsQuery, itemsRows, hvalues, hitemsQuery, hstep⟩ :=
    WarehouseItem.completes_insertsEntry hinserts
  rw [hinvoice, hall] at hinserted
  rw [hproductsNew] at hvalues
  obtain ⟨createdItems, hcreatedItems, -⟩ := Exceptions.forall₂_of_mapM
    (fun _ _ => WarehouseItem.insertsRow_eq_ok) hvalues
  refine ⟨query, warehouseToId, items, options, params.toPqxx, rows, added, created',
    createdProducts,
    createdItems, values, itemsQuery, itemsRows, inserted, ?_, required_eq_ok.mp hto, hitems,
    hadding, htable, hproducts, ?_, hcounts.trans ?_, hlisted createdItems hcreatedItems,
    ⟨task₂.productsNew, hcreatedItems, hvalues⟩, hitemsQuery, hstep⟩
  · simpa [stampInvoice, Product.stamped] using hquery
  · simpa [stampInvoice, storeProductResults, Product.stamped] using hinserted
  · refine List.ext_getElem (by simp [stampInvoice, storeProductResults, Product.stamped])
      fun index hindex hindex' => ?_
    simp [stampInvoice, storeProductResults, Product.stamped]

end ProductsTask

end TaskMgr.Tasks

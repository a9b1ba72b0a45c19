import WarehouseAccounting.TaskManager.ArrivalStatements
import WarehouseAccounting.TaskManager.StockPositive

/-!
# Creating products

The chain of `ProductsCreate::CreateInvoiceProducts`, entry by entry, while nothing disturbs the
transaction: what is counted is added, the new products get their rows and ids, the invoice, its
items and the stock of the new products follow.

- `ProductsTask.createChain_eq`: the chain is built when there are new products.
- `Creation.exists_runsTo`: it gets to its end when the database stores the names and the colors,
  and leaves the rows of `CreationResult`.
- `Creation.storable_of_runsTo`: and not otherwise.
-/

namespace TaskMgr.Tasks

open Ufa Srv.Db Srv.Db.Trsct Srv.Db.Sql Srv.Db.DbMgr.Scpts Relational

/-! ## What is read of new rows -/

/-- A number that eight bytes hold is read from its text. -/
theorem getInt64_toString {value : Int} (hminimum : -2 ^ 63 ≤ value)
    (hmaximum : value ≤ 2 ^ 63 - 1) :
    getInt64 (some (toString value)) = .ok (some (Int64.ofInt value)) := by
  rw [getInt64, Decimal.parse_toString]
  exact if_pos ⟨hminimum, hmaximum⟩

namespace Product

/-- A new product after its row was inserted. -/
def inserted (productId : Int) (product : Product) : Product :=
  { product with
    id := some (Int64.ofInt productId)
    prettyName := product.name.map fun name => toString productId ++ "_" ++ name }

/-- Some new products after their rows were inserted. -/
def insertedAll (choices : Choices) (products : List Product) : List Product :=
  products.mapIdx fun index product => product.inserted (choices.identity .product index)

/-- The ids of the new products, with the counts that were asked for. -/
def createdItems (choices : Choices) (products : List Product) : List (Int64 × Int64) :=
  products.mapIdx fun index product =>
    (Int64.ofInt (choices.identity .product index), product.count.getD 0)

/-- What a new product has left after `idsConverter`. -/
def leftAll (choices : Choices) (products : List Product) : List Product :=
  (products.zip (insertedAll choices products)).map fun pair =>
    { pair.1.movedFrom with id := pair.2.id, count := pair.2.count }

/-- The products after their rows were inserted are these. -/
theorem listed_insertedAll (choices : Choices) {products : List Product}
    (hcounts : ∀ product ∈ products, product.count.isSome = true) :
    Listed (insertedAll choices products) (createdItems choices products) := by
  refine List.forall₂_of_length_eq_of_get (by simp [insertedAll, createdItems])
    fun index hindex hindex' => ?_
  have hlength : index < products.length := by simpa [insertedAll] using hindex
  have hcount := hcounts products[index] (List.getElem_mem hlength)
  obtain ⟨count, hsome⟩ := Option.isSome_iff_exists.mp hcount
  simp only [insertedAll, createdItems, List.get_eq_getElem, List.getElem_mapIdx, inserted, hsome,
    Option.getD_some, and_self]

/-- So is what they have left. -/
theorem listed_leftAll (choices : Choices) {products : List Product}
    (hcounts : ∀ product ∈ products, product.count.isSome = true) :
    Listed (leftAll choices products) (createdItems choices products) := by
  refine List.forall₂_of_length_eq_of_get (by simp [leftAll, insertedAll, createdItems])
    fun index hindex hindex' => ?_
  have hlength : index < products.length := by simpa [leftAll, insertedAll] using hindex
  have hcount := hcounts products[index] (List.getElem_mem hlength)
  obtain ⟨count, hsome⟩ := Option.isSome_iff_exists.mp hcount
  simp only [leftAll, insertedAll, createdItems, List.get_eq_getElem, List.getElem_map,
    List.getElem_zip, List.getElem_mapIdx, inserted, hsome, Option.getD_some, and_self]

/-- A row of parameters has one for each column. -/
theorem length_insertsRow {product : Product} {values : ValueCollector}
    (h : product.insertsRow = .ok values) :
    values.length = insertsOptions.columns.length := by
  unfold insertsRow at h
  obtain ⟨name, -, h⟩ := bind_eq_ok.mp h
  obtain ⟨createdBy, -, h⟩ := bind_eq_ok.mp h
  obtain ⟨createdDate, -, h⟩ := bind_eq_ok.mp h
  cases h
  rfl

end Product

namespace ProductsTask

/-- The id and the name of a new row are read. -/
theorem createdProduct_row {product : Product} (hsome : product.name.isSome = true)
    (hname : product.name ≠ some "NULL") {productId : Int} (hpositive : 0 < productId)
    (hmaximum : productId ≤ 2 ^ 63 - 1) :
    createdProduct (project [.productId, .prettyName] (product.row productId)) product =
      .ok (product.inserted productId) := by
  obtain ⟨name, hnameSome⟩ := Option.isSome_iff_exists.mp hsome
  have hne : name ≠ "NULL" := fun h => hname (by rw [hnameSome, h])
  have hid := getInt64_toString (by omega : -2 ^ 63 ≤ productId) hmaximum
  have hrow : project [.productId, .prettyName] (product.row productId) =
      [some (toString productId), some (toString productId ++ "_" ++ name)] := by
    simp only [project, List.map_cons, List.map_nil, Product.row, hnameSome, Option.bind_some,
      storedText_of_ne hne]
    rfl
  unfold createdProduct
  rw [hrow]
  show (do
    let id ← required (← getInt64 (some (toString productId)))
    let prettyName ← required (some (toString productId ++ "_" ++ name))
    return { product with id := some id, prettyName := some prettyName }) = _
  rw [hid, Product.inserted, hnameSome]
  rfl

/-- `idsConverter` on the rows of the new products. -/
theorem completes_idsConverter_rows {D : Type} {step : D → Statement → Rows → D → Prop}
    {state : D} {choices : Choices} {task : ProductsTask}
    (hresults : task.productInsertsResults = (Product.rows choices task.productsNew).map
      (project [.productId, .prettyName]))
    (hmaximum : ∀ index < task.productsNew.length,
      choices.identity .product index ≤ 2 ^ 63 - 1)
    (hnames : ∀ product ∈ task.productsNew,
      product.name.isSome = true ∧ product.name ≠ some "NULL") :
    (idsConverter task).Completes step state state
      { task with
        products := task.products ++ Product.insertedAll choices task.productsNew
        productsNew := Product.leftAll choices task.productsNew } () := by
  have hlength : task.productInsertsResults.length = task.productsNew.length := by
    rw [hresults]
    simp [Product.rows]
  have hcreated : (task.productInsertsResults.zip task.productsNew).mapM
      (fun pair => createdProduct pair.1 pair.2) =
        .ok (Product.insertedAll choices task.productsNew) := by
    rw [Exceptions.mapM_eq_ok_iff]
    refine List.forall₂_of_length_eq_of_get (by simp [hlength, Product.insertedAll])
      fun index hindex hindex' => ?_
    have hbound : index < task.productsNew.length := by
      simpa [Product.insertedAll] using hindex'
    obtain ⟨hsome, hname⟩ := hnames task.productsNew[index] (List.getElem_mem hbound)
    simp only [List.get_eq_getElem, List.getElem_zip, hresults, Product.insertedAll,
      List.getElem_mapIdx, Product.rows, List.getElem_map]
    exact createdProduct_row hsome hname (choices.identity_pos _ _)
      (hmaximum index hbound)
  unfold idsConverter
  rw [if_pos hlength]
  split
  · rename_i exception herror
    cases hcreated.symm.trans herror
  · rename_i created hok
    cases Except.ok.inj (hcreated.symm.trans hok)
    exact ⟨rfl, rfl, rfl⟩

/-! ## The chain -/

/-- The chain of `CreateInvoiceProducts`, with the parameters of the new products and the statement
of the invoice. -/
def creationChain (warehouseId : Int64) (values : List ValueCollector) (query : Query) :
    Entry ProductsTask :=
  (changeCountEntry warehouseId false).setNext ((Entry.query
    (.insert { Product.insertsOptions with valuesCount := values.length }) values.flatten
      storeProductResults .null).setNext ((Entry.variable idsConverter .null).setNext
        ((invoiceEntry query).setNext (warehouseItemEntry warehouseId))))

/-- The members of the task when its chain is executed. -/
def stamped (dateProvider : Nat → UInt64) (task : ProductsTask) : ProductsTask :=
  let task := { task with productsNew := Product.stamped dateProvider task.productsNew }
  task.stampInvoice (dateProvider task.productsNew.length)

/-- The chain is made when there are new products, and not otherwise. -/
theorem createChain_eq {dateProvider : Nat → UInt64} {task : ProductsTask} {warehouseId : Int64}
    (hwarehouse : task.invoice.warehouseToId = some warehouseId) {values : List ValueCollector}
    (hvalues : (task.stamped dateProvider).productsNew.mapM Product.insertsRow = .ok values)
    {query : Query} (hquery : (task.stamped dateProvider).invoice.insertQuery = .ok query) :
    createChain dateProvider task = if values = [] then .error .other
      else .ok (creationChain warehouseId values query, task.stamped dateProvider) := by
  have hvalues' : (Product.stamped dateProvider task.productsNew).mapM Product.insertsRow =
      .ok values := hvalues
  have hlengths : ∀ row ∈ values, row.length = Product.insertsOptions.columns.length := by
    intro row hrow
    obtain ⟨product, -, hproduct⟩ := Exceptions.exists_mem_of_mem_mapM hvalues' hrow
    exact Product.length_insertsRow hproduct
  unfold createChain
  rw [hwarehouse]
  show (Product.insertsEntry storeProductResults
    (Product.stamped dateProvider task.productsNew) >>= fun productsEntry =>
      (task.stamped dateProvider).invoice.insertQuery >>= fun query => _) = _
  rw [hquery]
  unfold Product.insertsEntry
  rw [hvalues', ok_bind]
  by_cases hnil : values = []
  · subst hnil
    rfl
  · rw [if_neg hnil, QueryFactory.createInsert_eq_ok.mpr ⟨hnil, hlengths, rfl⟩]
    rfl

/-- The chain gets to its end through its five entries. -/
theorem runsTo_creationChain {D : Type} {step : D → Statement → Rows → D → Prop}
    {warehouseId : Int64} {values : List ValueCollector} {query : Query} {state state' : D}
    {task task' : ProductsTask} :
    (creationChain warehouseId values query).RunsTo step state task state' task' ↔
      ∃ added rows created converted inserted posted,
        (WarehouseItem.changeCount task.products warehouseId false).Completes step state added ()
          () ∧
        step added ⟨.insert { Product.insertsOptions with valuesCount := values.length },
          ValueCollector.toPqxx values.flatten⟩ rows created ∧
        (idsConverter (task.storeProductResults rows)).Completes step created created converted
          () ∧
        (invoiceEntry query).Executes step created converted inserted posted ∧
        (WarehouseItem.insertsEntry posted.productsNew warehouseId).Completes step inserted state'
          () () ∧ task' = posted := by
  unfold creationChain
  rw [Entry.runsTo_setNext (hasNext_changeCountEntry warehouseId false)]
  constructor
  · rintro ⟨added, task₁, hchanged, hrest⟩
    unfold changeCountEntry at hchanged
    rw [Entry.executes_variable, Script.completes_asCode] at hchanged
    obtain ⟨hadded, rfl⟩ := hchanged
    rw [Entry.setNext, Entry.runsTo_query] at hrest
    obtain ⟨rows, created, hproducts, hrest⟩ := hrest
    rw [Entry.setNext, Entry.runsTo_variable] at hrest
    obtain ⟨created', converted, hconverted, hrest⟩ := hrest
    obtain ⟨rfl, -⟩ := completes_idsConverter hconverted
    obtain ⟨inserted, posted, hinvoice, hlast⟩ :=
      (Entry.runsTo_setNext (hasNext_invoiceEntry query)).mp hrest
    unfold warehouseItemEntry at hlast
    rw [Entry.runsTo_variable] at hlast
    obtain ⟨final, task₂, hcode, hnull⟩ := hlast
    obtain ⟨rfl, rfl⟩ := Entry.runsTo_null.mp hnull
    obtain ⟨hinserts, rfl⟩ := Script.completes_asCode.mp hcode
    exact ⟨added, rows, created', converted, inserted, _, hadded, hproducts, hconverted, hinvoice,
      hinserts, rfl⟩
  · rintro ⟨added, rows, created, converted, inserted, posted, hadded, hproducts, hconverted,
      hinvoice, hinserts, rfl⟩
    refine ⟨added, task, ?_, ?_⟩
    · unfold changeCountEntry
      rw [Entry.executes_variable, Script.completes_asCode]
      exact ⟨hadded, rfl⟩
    · rw [Entry.setNext, Entry.runsTo_query]
      refine ⟨rows, created, hproducts, ?_⟩
      rw [Entry.setNext, Entry.runsTo_variable]
      refine ⟨created, converted, hconverted,
        (Entry.runsTo_setNext (hasNext_invoiceEntry query)).mpr ⟨inserted, _, hinvoice, ?_⟩⟩
      unfold warehouseItemEntry
      rw [Entry.runsTo_variable]
      exact ⟨state', _, Script.completes_asCode.mpr ⟨hinserts, rfl⟩,
        Entry.runsTo_null.mpr ⟨rfl, rfl⟩⟩

/-- The invoice entry gets to its end when the invoice is inserted, its id is read, and its items
are inserted. -/
theorem executes_invoiceEntry_iff {D : Type} {step : D → Statement → Rows → D → Prop}
    {query : Query} {state state' : D} {task task' : ProductsTask} :
    (invoiceEntry query).Executes step state task state' task' ↔
      ∃ rows middle invoice, step state (sent query) rows middle ∧
        Invoice.invoiceIdGetter rows task.invoice = .ok invoice ∧
        (Invoice.insertInvoiceItems invoice task.products).Completes step middle state' () () ∧
        task' = { task with invoiceInsertResults := rows, invoice } := by
  unfold invoiceEntry Invoice.fullInsertEntry
  simp only [Entry.executes_grouped, Entry.executesAll_cons, Entry.executesAll_nil,
    Entry.executes_query, Entry.executes_variable, Script.completes_asCode]
  constructor
  · rintro ⟨middle, _, ⟨rows, hinvoice, rfl⟩, middle', task'', hgetter, _, _, ⟨hitems, rfl⟩, rfl,
      rfl⟩
    split at hgetter
    · rename_i invoice hread
      obtain ⟨rfl, rfl, -⟩ := hgetter
      exact ⟨rows, _, invoice, hinvoice, hread, hitems, rfl⟩
    · exact hgetter.elim
  · rintro ⟨rows, middle, invoice, hinvoice, hread, hitems, rfl⟩
    have hread' : Invoice.invoiceIdGetter (task.storeInvoiceResults rows).invoiceInsertResults
        (task.storeInvoiceResults rows).invoice = .ok invoice := hread
    refine ⟨middle, _, ⟨rows, hinvoice, rfl⟩, middle, _, ?_, _, _, ⟨hitems, rfl⟩, rfl, rfl⟩
    rw [hread']
    exact ⟨rfl, rfl, rfl⟩

end ProductsTask

namespace Invoice

/-- The invoice after its row was inserted. -/
def inserted (invoiceId : Int) (invoice : Invoice) : Invoice :=
  { invoice with
    invoiceId := some (Int64.ofInt invoiceId)
    prettyName := invoice.name.map fun name => toString invoiceId ++ "_" ++ name }

/-- The id and the name of the new row are read. -/
theorem invoiceIdGetter_row {invoice : Invoice} (hsome : invoice.name.isSome = true)
    (hname : invoice.name ≠ some "NULL") {invoiceId : Int} (hpositive : 0 < invoiceId)
    (hmaximum : invoiceId ≤ 2 ^ 63 - 1) :
    invoiceIdGetter [project [.invoiceId, .prettyName] (invoice.row invoiceId)] invoice =
      .ok (invoice.inserted invoiceId) := by
  obtain ⟨name, hnameSome⟩ := Option.isSome_iff_exists.mp hsome
  have hne : name ≠ "NULL" := fun h => hname (by rw [hnameSome, h])
  have hid := getInt64_toString (by omega : -2 ^ 63 ≤ invoiceId) hmaximum
  have hrow : project [.invoiceId, .prettyName] (invoice.row invoiceId) =
      [some (toString invoiceId), some (toString invoiceId ++ "_" ++ name)] := by
    simp only [project, List.map_cons, List.map_nil, row, hnameSome, Option.bind_some,
      storedText_of_ne hne]
    rfl
  have hfirst :
      Rows.at [[some (toString invoiceId), some (toString invoiceId ++ "_" ++ name)]] 0 0 =
      .ok (some (toString invoiceId)) := rfl
  unfold invoiceIdGetter
  rw [hrow, hfirst, ok_bind, hid, inserted, hnameSome]
  rfl

end Invoice

/-! ## Circumstances -/

/-- The sequences of the tables that a creation inserts into yield numbers of their own, for so many
rows. -/
structure FreshSequences (choices : Nat → Choices) (tables : Tables) (size : Nat) : Prop where
  product : ∀ clock, FreshNumbers (choices clock) tables .product .productId size
  invoice : ∀ clock, FreshNumbers (choices clock) tables .invoice .invoiceId size
  operation : ∀ clock, FreshNumbers (choices clock) tables .operation .operationId size

/-- Only the rows of the table matter. -/
theorem FreshNumbers.congr {choices : Choices} {tables tables' : Tables} {table : Table}
    {column : Column} {size : Nat} (h : FreshNumbers choices tables table column size)
    (hsame : tables' table = tables table) : FreshNumbers choices tables' table column size :=
  ⟨h.injective, h.le_maximum, hsame ▸ h.fresh⟩

/-- A user who is there stays there. -/
theorem HasUser.congr {tables tables' : Tables} {userId : UInt64} (h : HasUser tables userId)
    (hsame : tables' .user = tables .user) : HasUser tables' userId := by
  unfold HasUser
  rw [hsame]
  exact h

/-- A warehouse that is there stays there. -/
theorem HasWarehouse.congr {tables tables' : Tables} {warehouseId : Int}
    (h : HasWarehouse tables warehouseId) (hsame : tables' .warehouse = tables .warehouse) :
    HasWarehouse tables' warehouseId := by
  unfold HasWarehouse
  rw [hsame]
  exact h

/-- Such a number is read as it is. -/
theorem FreshNumbers.toInt_ofInt {choices : Choices} {tables : Tables} {table : Table}
    {column : Column} {size : Nat} (h : FreshNumbers choices tables table column size)
    {index : Nat} (hindex : index < size) :
    (Int64.ofInt (choices.identity table index)).toInt = choices.identity table index := by
  have hpositive := choices.identity_pos table index
  have hmaximum := h.le_maximum index hindex
  exact Int64.toInt_ofInt_of_le (by omega) (by omega)

/-- The task of a request for which everything is there: the author, the warehouse, and the
products that are only counted, which are different. All counts are positive, and stay within
their column. -/
structure Creation (tables : Tables) (userId : UInt64) (warehouseId : Int64)
    (items : List (Int64 × Int64)) (task : ProductsTask) : Prop where
  integral : Integral schema tables
  referential : Referential schema tables
  author : HasUser tables userId
  warehouse : HasWarehouse tables warehouseId.toInt
  arrival : task.invoice.Arrival userId warehouseId
  listed : Listed task.products items
  nodup : (items.map Prod.fst).Nodup
  existing : ∀ item ∈ items, WarehouseItem.HasProduct tables item.1.toInt
  counts : ∀ item ∈ items, 0 < item.2.toInt ∧ item.2.toInt ≤ 2 ^ 31 - 1
  sums : ∀ item ∈ items, stored warehouseId.toInt item.1.toInt (tables .warehouseItem) +
    item.2.toInt ≤ 2 ^ 31 - 1
  authored : ∀ product ∈ task.productsNew, product.Authored userId
  amounts : ∀ product ∈ task.productsNew, ∃ count : Int64, product.count = some count ∧
    0 < count.toInt ∧ count.toInt ≤ 2 ^ 31 - 1

namespace Creation

variable {tables : Tables} {userId : UInt64} {warehouseId : Int64}
  {items : List (Int64 × Int64)} {task : ProductsTask}
  (h : Creation tables userId warehouseId items task)

include h

/-- The id of the author has eight bytes with a sign. -/
theorem userId_lt : userId.toNat < 2 ^ 63 := by
  obtain ⟨row, hrow, hid⟩ := h.author
  have hconforms := h.integral.conforms .user row hrow
  rw [Schema.conforms, Bool.and_eq_true] at hconforms
  have hadmits := List.all_eq_true.mp hconforms.1 (.userId, .int8) (by decide)
  dsimp only at hadmits
  rw [hid, Option.all_some, ColumnType.admits, Bool.and_eq_true, decide_eq_true_eq,
    decide_eq_true_eq] at hadmits
  omega

/-- The products that are only counted can be added. -/
theorem completes_changeCount {choices : Nat → Choices} (clock : Nat) :
    ∃ after added, (WarehouseItem.changeCount task.products warehouseId false).Completes
        (Quiet choices) (clock, tables) (after, added) () () ∧
      Integral schema added ∧
      WarehouseItem.Changed Answers warehouseId false tables items added := by
  have hparents : WarehouseItem.StockHasParents tables := h.referential .warehouseItem
  have hpositive : ∀ item ∈ items, 0 < item.2.toInt := fun item hitem => (h.counts item hitem).1
  obtain ⟨hran, -⟩ := @WarehouseItem.run_changeCount_adding choices clock tables warehouseId
    task.products items h.integral hparents h.listed h.nodup hpositive
  have hok := hran.mpr fun item hitem =>
    ⟨h.sums item hitem, fun _ => ⟨h.existing item hitem, h.warehouse⟩⟩
  have hchanged := WarehouseItem.changed_of_run h.listed hok
  exact ⟨_, _, Program.completes_clocked.mpr ⟨hok, rfl, rfl⟩, hchanged.integral h.integral,
    hchanged⟩

end Creation

/-! ## What a creation leaves -/

/-- The names and the colors are such that the database stores them. -/
structure ProductsTask.Storable (task : ProductsTask) : Prop where
  invoice : task.invoice.name ≠ some "NULL"
  products : ∀ product ∈ task.productsNew, product.ColorFits ∧ product.name ≠ some "NULL"

/-- What the chain leaves when it gets to its end. -/
structure CreationResult (choices : Nat → Choices) (clock : Nat) (tables : Tables)
    (warehouseId : Int64) (items : List (Int64 × Int64)) (task : ProductsTask) (tables' : Tables)
    (task' : ProductsTask) : Prop where
  invoice : tables' .invoice =
    tables .invoice ++ [task.invoice.row ((choices (clock + 1)).identity .invoice 0)]
  product : tables' .product = tables .product ++ Product.rows (choices clock) task.productsNew
  invoiceItem : tables' .invoiceItem = tables .invoiceItem ++
    Invoice.itemRows (Int64.ofInt ((choices (clock + 1)).identity .invoice 0))
      (items ++ Product.createdItems (choices clock) task.productsNew)
  warehouseItem : ∃ added, WarehouseItem.Changed Answers warehouseId false tables items added ∧
    tables' .warehouseItem = added .warehouseItem ++ WarehouseItem.itemRows warehouseId
      (Product.createdItems (choices clock) task.productsNew)
  taskInvoice : task'.invoice =
    task.invoice.inserted ((choices (clock + 1)).identity .invoice 0)
  taskProducts : task'.products =
    task.products ++ Product.insertedAll (choices clock) task.productsNew

/-- Insertions keep the constraints. -/
theorem integral_of_quiet_insert {choices : Nat → Choices} {clock : Nat} {tables : Tables}
    {options : InsertOptions} {params : List (Option String)} {rows : Rows} {after : Nat × Tables}
    (hintegral : Integral schema tables)
    (h : Quiet choices (clock, tables) ⟨.insert options, params⟩ rows after) :
    Integral schema after.2 := by
  obtain ⟨writes, -, haccepts, rfl⟩ := quiet_insert_iff.mp h
  rw [accepts, Bool.and_eq_true] at haccepts
  exact hintegral.applyAll haccepts.1

namespace Creation

variable {tables : Tables} {userId : UInt64} {warehouseId : Int64}
  {items : List (Int64 × Int64)} {task : ProductsTask}
  (h : Creation tables userId warehouseId items task)

include h

/-- The new products have ids of their own. -/
theorem nodup_created {choices : Choices} {size : Nat}
    (hnumbers : FreshNumbers choices tables .product .productId size)
    (hsize : task.productsNew.length ≤ size) :
    ((items ++ Product.createdItems choices task.productsNew).map Prod.fst).Nodup := by
  rw [List.map_append, List.nodup_append]
  refine ⟨h.nodup, ?_, ?_⟩
  · refine List.nodup_iff_injective_getElem.mpr fun first second hsame => ?_
    obtain ⟨first, hfirst⟩ := first
    obtain ⟨second, hsecond⟩ := second
    have hfirstSize : first < size := by
      rw [List.length_map, Product.createdItems, List.length_mapIdx] at hfirst
      omega
    have hsecondSize : second < size := by
      rw [List.length_map, Product.createdItems, List.length_mapIdx] at hsecond
      omega
    simp only [List.getElem_map, Product.createdItems, List.getElem_mapIdx] at hsame
    have hnumber := congrArg Int64.toInt hsame
    rw [hnumbers.toInt_ofInt hfirstSize, hnumbers.toInt_ofInt hsecondSize] at hnumber
    exact Fin.ext (hnumbers.injective first hfirstSize second hsecondSize hnumber)
  · rintro id hid other hother rfl
    obtain ⟨item, hitem, rfl⟩ := List.mem_map.mp hid
    obtain ⟨created, hcreated, hsame⟩ := List.mem_map.mp hother
    obtain ⟨index, hindex, rfl⟩ := List.mem_mapIdx.mp hcreated
    -- The id of a product that is there is not one of the sequence.
    obtain ⟨row, hrow, hrowId⟩ := h.existing item hitem
    rw [← hsame, hnumbers.toInt_ofInt (hindex.trans_le hsize)] at hrowId
    exact hnumbers.fresh index (hindex.trans_le hsize) row hrow hrowId

omit h in
/-- What is stored belongs to products that were there. -/
theorem filter_created {choices : Choices} {size : Nat}
    (hnumbers : FreshNumbers choices tables .product .productId size)
    (hsize : task.productsNew.length ≤ size) {rows : List TableRow}
    (hrows : ∀ row ∈ rows, ∀ id, row .productId = some (.integer id) →
      WarehouseItem.HasProduct tables id) :
    ∀ item ∈ Product.createdItems choices task.productsNew,
      rows.filter (isItem warehouseId.toInt item.1.toInt) = [] := by
  intro item hitem
  obtain ⟨index, hindex, rfl⟩ := List.mem_mapIdx.mp hitem
  rw [List.filter_eq_nil_iff]
  intro row hrow hisItem
  simp only [isItem, Bool.and_eq_true, decide_eq_true_eq] at hisItem
  obtain ⟨product, hproduct, hid⟩ := hrows row hrow _ hisItem.2
  rw [hnumbers.toInt_ofInt (hindex.trans_le hsize)] at hid
  exact hnumbers.fresh index (hindex.trans_le hsize) product hproduct hid

/-- The counts of all items have four bytes. -/
theorem counts_created (choices : Choices) :
    ∀ item ∈ items ++ Product.createdItems choices task.productsNew,
      0 < item.2.toInt ∧ item.2.toInt ≤ 2 ^ 31 - 1 := by
  intro item hitem
  rcases List.mem_append.mp hitem with hitem | hitem
  · exact h.counts item hitem
  · obtain ⟨index, hindex, rfl⟩ := List.mem_mapIdx.mp hitem
    obtain ⟨count, hcount, hrange⟩ := h.amounts _ (List.getElem_mem hindex)
    rw [hcount]
    exact hrange

/-- The new products have counts. -/
theorem isSome_count : ∀ product ∈ task.productsNew, product.count.isSome = true := by
  intro product hproduct
  obtain ⟨count, hcount, -⟩ := h.amounts product hproduct
  rw [hcount]
  rfl

omit h in
/-- The new products are there after their rows were inserted. -/
theorem hasProduct_created {choices : Choices} {size : Nat}
    (hnumbers : FreshNumbers choices tables .product .productId size)
    (hsize : task.productsNew.length ≤ size) {created : Tables}
    (hproducts : created .product = tables .product ++ Product.rows choices task.productsNew) :
    ∀ item ∈ Product.createdItems choices task.productsNew,
      WarehouseItem.HasProduct created item.1.toInt := by
  unfold WarehouseItem.HasProduct
  rw [hproducts]
  intro item hitem
  obtain ⟨index, hindex, rfl⟩ := List.mem_mapIdx.mp hitem
  refine ⟨task.productsNew[index].row (choices.identity .product index),
    List.mem_append_right _ (List.mem_mapIdx.mpr ⟨index, hindex, rfl⟩), ?_⟩
  rw [hnumbers.toInt_ofInt (hindex.trans_le hsize)]
  rfl

/-- What is counted is added, and the new products are inserted if they can be stored. -/
theorem exists_created {choices : Nat → Choices} {size : Nat}
    (hfresh : FreshSequences choices tables size) (hsize : task.productsNew.length ≤ size)
    {values : List ValueCollector}
    (hvalues : task.productsNew.mapM Product.insertsRow = .ok values) (hne : values ≠ []) :
    ∃ clock added created,
      (WarehouseItem.changeCount task.products warehouseId false).Completes (Quiet choices)
        (0, tables) (clock, added) () () ∧
      (∀ answer after, Quiet choices (clock, added)
          ⟨.insert { Product.insertsOptions with valuesCount := values.length },
            ValueCollector.toPqxx values.flatten⟩ answer after ↔
        (∀ product ∈ task.productsNew, product.ColorFits ∧ product.name ≠ some "NULL") ∧
          answer = (Product.rows (choices clock) task.productsNew).map
            (project [.productId, .prettyName]) ∧ after = (clock + 1, created)) ∧
      ((∀ product ∈ task.productsNew, product.ColorFits ∧ product.name ≠ some "NULL") →
        Integral schema created) ∧
      created .product = tables .product ++ Product.rows (choices clock) task.productsNew ∧
      WarehouseItem.Changed Answers warehouseId false tables items added ∧
      ∀ table, table ≠ .product → created table = added table := by
  obtain ⟨clock, added, hadded, hintegral, hchanged⟩ :=
    @completes_changeCount tables userId warehouseId items task h choices 0
  have hframe := (hchanged.increased h.integral h.nodup).2
  have hquiet := fun answer after => @Product.quiet_insertProducts userId h.userId_lt choices clock
    added hintegral size ((hfresh.product clock).congr (hframe .product (by decide)))
    (h.author.congr (hframe .user (by decide))) task.productsNew hsize h.authored values hvalues hne
    answer after
  have hcreated := @applyAll_insert _ _ _ schema .product
    (Product.rows (choices clock) task.productsNew) added
  refine ⟨clock, added, _, hadded, hquiet, fun hstorable => ?_, ?_, hchanged,
    fun table hproduct => ?_⟩
  · exact integral_of_quiet_insert hintegral ((hquiet _ _).mpr ⟨hstorable, rfl, rfl⟩)
  · rw [hcreated, if_pos rfl, hframe .product (by decide)]
  · rw [hcreated, if_neg hproduct]

/-- The invoice is inserted if its name can be stored. -/
theorem exists_invoiced {choices : Nat → Choices} {size : Nat}
    (hfresh : FreshSequences choices tables size) (hsize : 1 ≤ size)
    {query : Query} (hquery : task.invoice.insertQuery = .ok query) {created : Tables}
    (hintegral : Integral schema created)
    (hframe : ∀ table, table ≠ .product → table ≠ .warehouseItem → created table = tables table)
    (clock : Nat) :
    ∃ invoiced, (∀ answer after, Quiet choices (clock, created) (sent query) answer after ↔
        task.invoice.name ≠ some "NULL" ∧
          answer = [project [.invoiceId, .prettyName]
            (task.invoice.row ((choices clock).identity .invoice 0))] ∧
          after = (clock + 1, invoiced)) ∧
      (task.invoice.name ≠ some "NULL" → Integral schema invoiced) ∧
      invoiced .invoice =
        tables .invoice ++ [task.invoice.row ((choices clock).identity .invoice 0)] ∧
      ∀ table, table ≠ .invoice → invoiced table = created table := by
  have hinvoice := hframe .invoice (by decide) (by decide)
  have hquiet := fun answer after => @Invoice.quiet_insertArrival userId warehouseId task.invoice
    h.userId_lt h.arrival choices clock created hintegral size hsize
    ((hfresh.invoice clock).congr hinvoice)
    (h.author.congr (hframe .user (by decide) (by decide)))
    (h.warehouse.congr (hframe .warehouse (by decide) (by decide))) query hquery answer after
  have hinvoiced := @applyAll_insert _ _ _ schema .invoice
    [task.invoice.row ((choices clock).identity .invoice 0)] created
  refine ⟨_, hquiet, fun hname => ?_, ?_, fun table hother => ?_⟩
  · obtain ⟨columns, params, fields, hsent, -⟩ := Invoice.insertQuery_arrival h.userId_lt h.arrival
    cases hquery.symm.trans hsent
    exact integral_of_quiet_insert hintegral ((hquiet _ _).mpr ⟨hname, rfl, rfl⟩)
  · exact (hinvoiced .invoice).trans (by rw [if_pos rfl, hinvoice])
  · exact (hinvoiced table).trans (if_neg hother)

/-- The items of the invoice are inserted, with their operations. -/
theorem exists_posted {choices : Nat → Choices} {size : Nat}
    (hfresh : FreshSequences choices tables size)
    (hsize : items.length + task.productsNew.length ≤ size)
    (hname : task.invoice.name ≠ some "NULL") (hnew : task.productsNew ≠ [])
    {productClock invoiceClock : Nat} {invoiced : Tables} (hintegral : Integral schema invoiced)
    (hinvoices : invoiced .invoice =
      tables .invoice ++ [task.invoice.row ((choices invoiceClock).identity .invoice 0)])
    (hproducts : invoiced .product =
      tables .product ++ Product.rows (choices productClock) task.productsNew)
    (hframe : ∀ table, table ≠ .invoice → table ≠ .product → table ≠ .warehouseItem →
      invoiced table = tables table) (clock : Nat) :
    ∃ posted, (Invoice.insertInvoiceItems
        (task.invoice.inserted ((choices invoiceClock).identity .invoice 0))
        (task.products ++ Product.insertedAll (choices productClock) task.productsNew)).Completes
          (Quiet choices) (clock, invoiced) (clock + 1, posted) () () ∧
      Integral schema posted ∧
      posted .invoiceItem = tables .invoiceItem ++
        Invoice.itemRows (Int64.ofInt ((choices invoiceClock).identity .invoice 0))
          (items ++ Product.createdItems (choices productClock) task.productsNew) ∧
      ∀ table, table ≠ .invoiceItem → table ≠ .operation → posted table = invoiced table := by
  have hproductNumbers := hfresh.product productClock
  have hinvoiceNumbers := hfresh.invoice invoiceClock
  have hnewLength := List.length_pos_iff.mpr hnew
  have hpositive : 0 < size := by omega
  have hid := hinvoiceNumbers.toInt_ofInt hpositive
  have hitemFrame := hframe .invoiceItem (by decide) (by decide) (by decide)
  rw [← hid] at hinvoices
  have hnone : ∀ old ∈ invoiced .invoiceItem, old .invoiceId ≠
      some (.integer (Int64.ofInt ((choices invoiceClock).identity .invoice 0)).toInt) := by
    rw [hitemFrame, hid]
    intro old hold hinvoiceId
    -- Every item belongs to an invoice that was there.
    obtain ⟨parent, hparent, hparentId⟩ := @Referential.exists_parent _ _ _ schema _ h.referential
      .invoiceItem old hold .invoiceId .invoiceId .invoice (by decide) _ hinvoiceId
    exact hinvoiceNumbers.fresh 0 hpositive parent hparent hparentId
  have hexist : ∀ item ∈ items ++ Product.createdItems (choices productClock) task.productsNew,
      WarehouseItem.HasProduct invoiced item.1.toInt := by
    intro item hitem
    rcases List.mem_append.mp hitem with hitem | hitem
    · obtain ⟨row, hrow, hrowId⟩ := h.existing item hitem
      exact ⟨row, hproducts ▸ List.mem_append_left _ hrow, hrowId⟩
    · exact hasProduct_created hproductNumbers (by omega) hproducts item hitem
  have hlisted : Listed
      (task.products ++ Product.insertedAll (choices productClock) task.productsNew)
      (items ++ Product.createdItems (choices productClock) task.productsNew) :=
    List.rel_append h.listed (Product.listed_insertedAll _ h.isSome_count)
  have hnonempty : items ++ Product.createdItems (choices productClock) task.productsNew ≠ [] := by
    simp [Product.createdItems, hnew]
  have hcounts : ∀ item ∈ items ++ Product.createdItems (choices productClock) task.productsNew,
      -2 ^ 31 ≤ item.2.toInt ∧ item.2.toInt ≤ 2 ^ 31 - 1 := by
    intro item hitem
    have hcount := h.counts_created (choices productClock) item hitem
    omega
  have hposted := Invoice.completes_insertItems h.userId_lt h.arrival hname hintegral
    ((hfresh.operation clock).congr (hframe .operation (by decide) (by decide) (by decide)))
    (h.author.congr (hframe .user (by decide) (by decide) (by decide))) hinvoices
    (by
      rw [hid]
      exact hinvoiceNumbers.fresh 0 hpositive) hnone hlisted hnonempty
    (by simpa [Product.createdItems] using hsize)
    (h.nodup_created hproductNumbers (by omega))
    hcounts hexist
    (Eq.refl (task.invoice.inserted ((choices invoiceClock).identity .invoice 0)).invoiceId)
  have hafter := Invoice.applyAll_insertTriggered invoiced
    (Invoice.itemRows (Int64.ofInt ((choices invoiceClock).identity .invoice 0))
      (items ++ Product.createdItems (choices productClock) task.productsNew))
  refine ⟨_, hposted, ?_, ?_, fun table hitem hoperation => ?_⟩
  · obtain ⟨_, values, query, rows, -, -, hquery, hstep⟩ :=
      Invoice.completes_insertInvoiceItems hposted
    obtain ⟨-, -, rfl⟩ := QueryFactory.createInsert_eq_ok.mp hquery
    exact integral_of_quiet_insert hintegral hstep
  · rw [hafter, if_pos rfl, hitemFrame]
  · rw [hafter, if_neg hitem, if_neg hoperation]

omit h in
/-- The rows of products stay, with another count. -/
theorem productId_increased (row : TableRow) :
    WarehouseItem.increased warehouseId items row .productId = row .productId := by
  unfold WarehouseItem.increased
  cases WarehouseItem.itemOf warehouseId items row <;> rfl

/-- What is stored after the addition belongs to products that were there. -/
theorem hasProduct_of_added {added : Tables}
    (hchanged : WarehouseItem.Changed Answers warehouseId false tables items added) :
    ∀ row ∈ added .warehouseItem, ∀ id, row .productId = some (.integer id) →
      WarehouseItem.HasProduct tables id := by
  intro row hrow id hid
  rw [(hchanged.increased h.integral h.nodup).1] at hrow
  rcases List.mem_append.mp hrow with hrow | hrow
  · obtain ⟨old, hold, rfl⟩ := List.mem_map.mp hrow
    rw [productId_increased] at hid
    -- Every row belongs to a product that was there.
    exact @Referential.exists_parent _ _ _ schema _ h.referential .warehouseItem old hold
      .productId .productId .product (by decide) _ hid
  · obtain ⟨item, hitem, rfl⟩ := List.mem_map.mp hrow
    cases hid
    exact h.existing item (List.mem_of_mem_filter hitem)

/-- The new products are stored, as none of them was. -/
theorem exists_stocked {choices : Nat → Choices} {size : Nat}
    (hfresh : FreshSequences choices tables size) (hsize : task.productsNew.length ≤ size)
    (hnew : task.productsNew ≠ []) {productClock : Nat} {added posted : Tables}
    (hintegral : Integral schema posted)
    (hchanged : WarehouseItem.Changed Answers warehouseId false tables items added)
    (hstock : posted .warehouseItem = added .warehouseItem)
    (hproducts : posted .product =
      tables .product ++ Product.rows (choices productClock) task.productsNew)
    (hwarehouse : posted .warehouse = tables .warehouse) (clock : Nat) :
    ∃ stocked, (WarehouseItem.insertsEntry
        (Product.leftAll (choices productClock) task.productsNew) warehouseId).Completes
          (Quiet choices) (clock, posted) (clock + 1, stocked) () () ∧
      stocked .warehouseItem = added .warehouseItem ++ WarehouseItem.itemRows warehouseId
        (Product.createdItems (choices productClock) task.productsNew) ∧
      ∀ table, table ≠ .warehouseItem → stocked table = posted table := by
  have hnumbers := hfresh.product productClock
  have hnodup : ((Product.createdItems (choices productClock) task.productsNew).map
      Prod.fst).Nodup := by
    have hall := h.nodup_created hnumbers hsize
    rw [List.map_append, List.nodup_append] at hall
    exact hall.2.1
  have hnone : ∀ item ∈ Product.createdItems (choices productClock) task.productsNew,
      (posted .warehouseItem).filter (isItem warehouseId.toInt item.1.toInt) = [] := by
    rw [hstock]
    exact filter_created hnumbers hsize (h.hasProduct_of_added hchanged)
  have hcounts : ∀ item ∈ Product.createdItems (choices productClock) task.productsNew,
      -2 ^ 31 ≤ item.2.toInt ∧ item.2.toInt ≤ 2 ^ 31 - 1 := by
    intro item hitem
    have hcount := h.counts_created (choices productClock) item (List.mem_append_right _ hitem)
    omega
  have hexist := hasProduct_created hnumbers hsize hproducts
  have hcompletes := @WarehouseItem.completes_insertNew choices clock posted hintegral warehouseId
    (h.warehouse.congr hwarehouse) _ _
      (Product.listed_leftAll (choices productClock) h.isSome_count)
    (by simp [Product.createdItems, hnew]) hnodup hnone hcounts hexist
  have hafter := @applyAll_insert _ _ _ schema .warehouseItem (WarehouseItem.itemRows warehouseId
    (Product.createdItems (choices productClock) task.productsNew)) posted
  refine ⟨_, hcompletes, ?_, fun table htable => ?_⟩
  · rw [hafter, if_pos rfl, hstock]
  · rw [hafter, if_neg htable]

/-- When everything can be stored the chain gets to its end, and leaves what it should. -/
theorem exists_runsTo {choices : Nat → Choices} {size : Nat}
    (hfresh : FreshSequences choices tables size)
    (hsize : items.length + task.productsNew.length ≤ size) {values : List ValueCollector}
    (hvalues : task.productsNew.mapM Product.insertsRow = .ok values) (hne : values ≠ [])
    {query : Query} (hquery : task.invoice.insertQuery = .ok query) (hstorable : task.Storable) :
    ∃ clock final stocked task', (ProductsTask.creationChain warehouseId values query).RunsTo
        (Quiet choices) (0, tables) task (final, stocked) task' ∧
      CreationResult choices clock tables warehouseId items task stocked task' := by
  have hnew : task.productsNew ≠ [] := by
    rintro hnil
    rw [hnil] at hvalues
    cases hvalues
    exact hne rfl
  have hnewLength := List.length_pos_iff.mpr hnew
  obtain ⟨clock, added, created, hadded, hproducts, hcreated, hcreatedRows, hchanged,
    hcreatedFrame⟩ := h.exists_created hfresh (by omega) hvalues hne
  have haddedFrame := (hchanged.increased h.integral h.nodup).2
  have hframe : ∀ table, table ≠ .product → table ≠ .warehouseItem →
      created table = tables table := by
    intro table hproduct hitem
    rw [hcreatedFrame table hproduct, haddedFrame table hitem]
  obtain ⟨invoiced, hinvoice, hinvoiced, hinvoices, hinvoicedFrame⟩ :=
    h.exists_invoiced hfresh (by omega) hquery (hcreated hstorable.products) hframe (clock + 1)
  have hinvoicedRows : invoiced .product =
      tables .product ++ Product.rows (choices clock) task.productsNew := by
    rw [hinvoicedFrame .product (by decide), hcreatedRows]
  obtain ⟨posted, hitems, hposted, hpostedRows, hpostedFrame⟩ :=
    h.exists_posted hfresh hsize hstorable.invoice hnew (hinvoiced hstorable.invoice) hinvoices
      hinvoicedRows (fun table hinvoice hproduct hitem => by
        rw [hinvoicedFrame table hinvoice, hframe table hproduct hitem]) (clock + 2)
  have hpostedStock : posted .warehouseItem = added .warehouseItem := by
    rw [hpostedFrame _ (by decide) (by decide), hinvoicedFrame _ (by decide),
      hcreatedFrame _ (by decide)]
  have hpostedProducts : posted .product =
      tables .product ++ Product.rows (choices clock) task.productsNew := by
    rw [hpostedFrame _ (by decide) (by decide), hinvoicedRows]
  have hpostedWarehouse : posted .warehouse = tables .warehouse := by
    rw [hpostedFrame _ (by decide) (by decide), hinvoicedFrame _ (by decide),
      hframe _ (by decide) (by decide)]
  obtain ⟨stocked, hstock, hstockRows, hstockFrame⟩ := h.exists_stocked hfresh (by omega) hnew
    hposted hchanged hpostedStock hpostedProducts hpostedWarehouse (clock + 3)
  have hnames : ∀ product ∈ task.productsNew,
      product.name.isSome = true ∧ product.name ≠ some "NULL" := fun product hproduct =>
    ⟨(h.authored product hproduct).name, (hstorable.products product hproduct).2⟩
  have hconverted := @ProductsTask.completes_idsConverter_rows _ (Quiet choices)
    (clock + 1, created) (choices clock) (task.storeProductResults
      ((Product.rows (choices clock) task.productsNew).map (project [.productId, .prettyName])))
    rfl (fun index hindex => (hfresh.product clock).le_maximum index (by
      have hlt : index < task.productsNew.length := hindex
      omega)) hnames
  have hread := Invoice.invoiceIdGetter_row h.arrival.name hstorable.invoice
    ((choices (clock + 1)).identity_pos .invoice 0)
    ((hfresh.invoice (clock + 1)).le_maximum 0 (by omega))
  refine ⟨clock, _, stocked, _, ProductsTask.runsTo_creationChain.mpr ⟨(clock, added), _,
    (clock + 1, created), _, (clock + 3, posted), _, hadded,
    (hproducts _ _).mpr ⟨hstorable.products, rfl, rfl⟩, hconverted,
    ProductsTask.executes_invoiceEntry_iff.mpr ⟨_, (clock + 2, invoiced), _,
      (hinvoice _ _).mpr ⟨hstorable.invoice, rfl, rfl⟩, hread, hitems, rfl⟩, hstock, rfl⟩, ?_⟩
  refine ⟨?_, ?_, ?_, ⟨added, hchanged, hstockRows⟩, rfl, rfl⟩
  · rw [hstockFrame _ (by decide), hpostedFrame _ (by decide) (by decide), hinvoices]
  · rw [hstockFrame _ (by decide), hpostedProducts]
  · rw [hstockFrame _ (by decide), hpostedRows]

/-- The chain only gets to its end when everything can be stored. -/
theorem storable_of_runsTo {choices : Nat → Choices} {size : Nat}
    (hfresh : FreshSequences choices tables size)
    (hsize : items.length + task.productsNew.length ≤ size) {values : List ValueCollector}
    (hvalues : task.productsNew.mapM Product.insertsRow = .ok values) (hne : values ≠ [])
    {query : Query} (hquery : task.invoice.insertQuery = .ok query) {after : Nat × Tables}
    {task' : ProductsTask} (hruns : (ProductsTask.creationChain warehouseId values query).RunsTo
      (Quiet choices) (0, tables) task after task') : task.Storable := by
  obtain ⟨added', rows, created', converted, inserted, posted, hchange, hinserted, -, hinvoiced, -,
    -⟩ := ProductsTask.runsTo_creationChain.mp hruns
  obtain ⟨clock, added, created, hadded, hproducts, hcreated, -, hchanged, hcreatedFrame⟩ :=
    h.exists_created hfresh (by omega) hvalues hne
  have haddedFrame := (hchanged.increased h.integral h.nodup).2
  -- The addition has only one run.
  have hsame : added' = (clock, added) :=
    (Program.completes_clocked.mp hchange).2.2.symm.trans
      (Program.completes_clocked.mp hadded).2.2
  subst hsame
  obtain ⟨hstorable, rfl, rfl⟩ := (hproducts _ _).mp hinserted
  obtain ⟨invoiced, hinvoice, -⟩ := h.exists_invoiced hfresh (by
      have hnonempty := List.length_pos_iff.mpr hne
      have hlength := (Exceptions.mapM_eq_ok_iff.mp hvalues).length_eq
      omega) hquery (hcreated hstorable) (fun table hproduct hitem => by
        rw [hcreatedFrame table hproduct, haddedFrame table hitem]) (clock + 1)
  obtain ⟨answer, middle, -, hstep, -⟩ := ProductsTask.executes_invoiceEntry_iff.mp hinvoiced
  exact ⟨((hinvoice _ _).mp hstep).1, hstorable⟩

end Creation

end TaskMgr.Tasks

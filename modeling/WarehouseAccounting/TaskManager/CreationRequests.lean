import WarehouseAccounting.TaskManager.Details
import WarehouseAccounting.TaskManager.ProductsCreation
import WarehouseAccounting.TaskManager.Tasks.WriteTasks

/-!
# Requests that create products

`ProductsCreate` from the body of its request to the rows that it leaves, while nothing disturbs
its transaction.

- `ProductsTask.parseCreate_ofBody`: new and existing products are kept apart, in their order.
- `CreationResult.stored_eq`: the stock of every listed product grows by what was asked for.
- `ProductsTask.creates_iff`: the requests that are handled as they should be.
-/

namespace TaskMgr.Tasks

open Ufa Srv.Db Srv.Db.Trsct Srv.Db.Sql Srv.Db.DbMgr.Scpts Relational

/-! ## Entries of the list -/

namespace ProductBody

/-- The entry is a product that is created. -/
def IsNew (product : ProductBody) : Prop :=
  product.type = none ∨ product.type = some "new"

instance : DecidablePred IsNew := fun _ => inferInstanceAs (Decidable (_ ∨ _))

/-- What is parsed of a product that is created. -/
def created (userId : UInt64) (product : ProductBody) : Product where
  name := product.name
  description := product.description
  mainColor := product.mainColor
  mainColorName := product.mainColorName
  count := product.count
  createdBy := some userId

/-- What is parsed of a product that is there already. -/
def listed (product : ProductBody) : Product where
  id := product.id
  count := product.count

/-- The id and the count of a product that is there already. -/
def entered (product : ProductBody) : Int64 × Int64 :=
  (product.id.getD 0, product.count.getD 0)

/-- An entry of a list: a new product with a name, or the id of a product that is there, with a
positive count. All counts stay within their column. -/
structure IsEntry (tables : Tables) (warehouseId : Int64) (product : ProductBody) : Prop where
  count : ∃ count : Int64, product.count = some count ∧ 0 < count.toInt ∧
    count.toInt ≤ 2 ^ 31 - 1
  name : product.IsNew → product.name.isSome = true
  existing : ¬ product.IsNew → product.type = some "byid" ∧ ∃ id : Int64, product.id = some id ∧
    WarehouseItem.HasProduct tables id.toInt ∧
    stored warehouseId.toInt id.toInt (tables .warehouseItem) + product.entered.2.toInt ≤ 2 ^ 31 - 1

/-- A new product with a name and a count is parsed. -/
theorem parseNew_created {product : ProductBody} (hname : product.name.isSome = true)
    (hcount : product.count.isSome = true) (userId : UInt64) :
    product.parseNew userId = .ok (product.created userId) := by
  obtain ⟨name, hnameSome⟩ := Option.isSome_iff_exists.mp hname
  obtain ⟨count, hcountSome⟩ := Option.isSome_iff_exists.mp hcount
  unfold parseNew created
  rw [hnameSome, hcountSome]
  rfl

/-- A product with an id and a count is parsed. -/
theorem parseExisting_listed {product : ProductBody} (hid : product.id.isSome = true)
    (hcount : product.count.isSome = true) : product.parseExisting = .ok product.listed := by
  obtain ⟨id, hidSome⟩ := Option.isSome_iff_exists.mp hid
  obtain ⟨count, hcountSome⟩ := Option.isSome_iff_exists.mp hcount
  unfold parseExisting listed
  rw [hidSome, hcountSome]
  rfl

variable {tables : Tables} {warehouseId : Int64} {product : ProductBody}

/-- An entry has a count. -/
theorem IsEntry.isSome_count (h : product.IsEntry tables warehouseId) :
    product.count.isSome = true := by
  obtain ⟨count, hcount, -⟩ := h.count
  rw [hcount]
  rfl

/-- The count of an entry. -/
theorem IsEntry.entered_count (h : product.IsEntry tables warehouseId) :
    product.count = some product.entered.2 ∧ 0 < product.entered.2.toInt ∧
      product.entered.2.toInt ≤ 2 ^ 31 - 1 := by
  obtain ⟨count, hcount, hrange⟩ := h.count
  unfold entered
  rw [hcount]
  exact ⟨rfl, hrange⟩

/-- The id of a product that is there. -/
theorem IsEntry.entered_id (h : product.IsEntry tables warehouseId) (hnew : ¬ product.IsNew) :
    product.id = some product.entered.1 ∧ WarehouseItem.HasProduct tables product.entered.1.toInt ∧
      stored warehouseId.toInt product.entered.1.toInt (tables .warehouseItem) +
        product.entered.2.toInt ≤ 2 ^ 31 - 1 := by
  obtain ⟨-, id, hid, hproduct, hsum⟩ := h.existing hnew
  have hitem : product.entered.1 = id := by
    unfold entered
    rw [hid]
    rfl
  rw [hitem]
  exact ⟨hid, hproduct, hsum⟩

end ProductBody

namespace ProductsBody

/-- The entries that are created. -/
def newProducts (body : ProductsBody) : List ProductBody :=
  body.products.filter fun product => product.IsNew

/-- The entries that are there already. -/
def existingProducts (body : ProductsBody) : List ProductBody :=
  body.products.filter fun product => ¬ product.IsNew

/-- Every entry is one or the other. -/
theorem length_existing_add_new (body : ProductsBody) :
    body.existingProducts.length + body.newProducts.length = body.products.length := by
  have hsplit := List.length_eq_length_filter_add (l := body.products)
    fun product => decide product.IsNew
  unfold existingProducts newProducts
  simp only [decide_not]
  omega

end ProductsBody

namespace ProductsTask

/-- The loop over the entries keeps new and existing products apart, in their order. -/
theorem foldlM_of_entries {tables : Tables} {warehouseId : Int64} (userId : UInt64)
    {entries : List ProductBody} (hentries : ∀ entry ∈ entries, entry.IsEntry tables warehouseId)
    (task : ProductsTask) :
    entries.foldlM (parseCreatedProduct userId) task = .ok
      { task with
        products := task.products ++
          (entries.filter fun entry => ¬ entry.IsNew).map ProductBody.listed
        productsNew := task.productsNew ++
          (entries.filter fun entry => entry.IsNew).map (ProductBody.created userId) } := by
  induction entries generalizing task with
  | nil =>
    rw [List.filter_nil, List.filter_nil, List.map_nil, List.map_nil, List.append_nil,
      List.append_nil]
    rfl
  | cons entry entries ih =>
    obtain ⟨hentry, hentries⟩ := List.forall_mem_cons.mp hentries
    rw [List.foldlM_cons]
    by_cases hnew : entry.IsNew
    · have hround : parseCreatedProduct userId task entry =
          .ok { task with productsNew := task.productsNew ++ [entry.created userId] } := by
        unfold ProductBody.IsNew at hnew
        rw [parseCreatedProduct, if_pos hnew,
          ProductBody.parseNew_created (hentry.name hnew) hentry.isSome_count]
        rfl
      rw [hround, ok_bind, ih hentries]
      simp [hnew]
    · obtain ⟨htype, id, hid, -⟩ := hentry.existing hnew
      have hround : parseCreatedProduct userId task entry =
          .ok { task with products := task.products ++ [entry.listed] } := by
        unfold ProductBody.IsNew at hnew
        rw [parseCreatedProduct, if_neg hnew, if_pos htype,
          ProductBody.parseExisting_listed (by rw [hid]; rfl) hentry.isSome_count]
        rfl
      rw [hround, ok_bind, ih hentries]
      simp [hnew]

/-- The task of a request. -/
def ofBody (userId : UInt64) (name : String) (warehouseId : Int64) (body : ProductsBody) :
    ProductsTask where
  invoice :=
    { name := some name
      description := body.invoiceDescription
      warehouseToId := some warehouseId
      createdBy := some userId }
  products := body.existingProducts.map ProductBody.listed
  productsNew := body.newProducts.map (ProductBody.created userId)

/-- `ParseInternal` on a list of entries. -/
theorem parseCreate_ofBody {tables : Tables} {warehouseId : Int64} {body : ProductsBody}
    {name : String} (hname : body.invoiceName = some name)
    (hwarehouse : body.warehouseTo = some warehouseId)
    (hentries : ∀ entry ∈ body.products, entry.IsEntry tables warehouseId) (userId : UInt64) :
    parseCreate userId body = .ok (ofBody userId name warehouseId body) := by
  unfold parseCreate
  rw [hname, hwarehouse]
  show body.products.foldlM (parseCreatedProduct userId) _ = _
  rw [foldlM_of_entries userId hentries]
  rfl

end ProductsTask

/-! ## The stock -/

namespace WarehouseItem

variable {warehouseId : Int64} {items : List (Int64 × Int64)}

/-- What is stored in new rows of a product that is not among them. -/
theorem stored_itemRows_of_notMem {productId : Int64} (h : productId ∉ items.map Prod.fst) :
    stored warehouseId.toInt productId.toInt (itemRows warehouseId items) = 0 := by
  have hnil : (itemRows warehouseId items).filter
      (isItem warehouseId.toInt productId.toInt) = [] := by
    rw [List.filter_eq_nil_iff]
    intro row hrow hitem
    obtain ⟨item, hmem, rfl⟩ := List.mem_map.mp hrow
    rw [isItem_itemRow, Bool.and_eq_true, decide_eq_true_eq, decide_eq_true_eq] at hitem
    exact h (List.mem_map.mpr ⟨item, hmem, Int64.toInt_inj.mp hitem.2⟩)
  rw [stored, hnil]
  rfl

/-- What is stored in new rows of a product that is among them. -/
theorem stored_itemRows (hnodup : (items.map Prod.fst).Nodup) {item : Int64 × Int64}
    (hitem : item ∈ items) :
    stored warehouseId.toInt item.1.toInt (itemRows warehouseId items) = item.2.toInt := by
  induction items with
  | nil => cases hitem
  | cons first items ih =>
    rw [List.map_cons, List.nodup_cons] at hnodup
    have hcons : stored warehouseId.toInt item.1.toInt (itemRows warehouseId (first :: items)) =
        (if isItem warehouseId.toInt item.1.toInt
            (itemRow warehouseId.toInt first.1.toInt first.2.toInt) then first.2.toInt else 0) +
          stored warehouseId.toInt item.1.toInt (itemRows warehouseId items) := by
      unfold stored itemRows
      rw [List.map_cons, List.filter_cons]
      split
      · rw [List.map_cons, List.sum_cons]
        rfl
      · rw [Int.zero_add]
    rw [hcons, isItem_itemRow]
    rcases List.mem_cons.mp hitem with rfl | hmem
    · rw [stored_itemRows_of_notMem hnodup.1, Int.add_zero]
      simp
    · have hne : ¬ first.1.toInt = item.1.toInt := by
        intro hsame
        exact hnodup.1 (List.mem_map.mpr ⟨item, hmem, (Int64.toInt_inj.mp hsame).symm⟩)
      rw [ih hnodup.2 hmem]
      simp [hne]

end WarehouseItem

/-- The stock of every listed product grows by what was asked for. -/
theorem CreationResult.stored_eq {choices : Nat → Choices} {size clock : Nat}
    {tables tables' : Tables} {userId : UInt64} {warehouseId : Int64}
    {items : List (Int64 × Int64)} {task task' : ProductsTask}
    (h : CreationResult choices clock tables warehouseId items task tables' task')
    (hcreation : Creation tables userId warehouseId items task)
    (hfresh : FreshSequences choices tables size) (hsize : task.productsNew.length ≤ size)
    {item : Int64 × Int64}
    (hitem : item ∈ items ++ Product.createdItems (choices clock) task.productsNew) :
    stored warehouseId.toInt item.1.toInt (tables' .warehouseItem) =
      stored warehouseId.toInt item.1.toInt (tables .warehouseItem) + item.2.toInt := by
  obtain ⟨added, hchanged, hrows⟩ := h.warehouseItem
  have hnumbers := hfresh.product clock
  have hsplit : stored warehouseId.toInt item.1.toInt (tables' .warehouseItem) =
      stored warehouseId.toInt item.1.toInt (added .warehouseItem) +
        stored warehouseId.toInt item.1.toInt (WarehouseItem.itemRows warehouseId
          (Product.createdItems (choices clock) task.productsNew)) := by
    unfold stored
    rw [hrows, List.filter_append, List.map_append, List.sum_append]
  have hnodup := hcreation.nodup_created hnumbers hsize
  rw [List.map_append, List.nodup_append] at hnodup
  rcases List.mem_append.mp hitem with hmem | hmem
  · -- A product that is there is not among the new ones.
    have hother : item.1 ∉
        (Product.createdItems (choices clock) task.productsNew).map Prod.fst := by
      intro hcreated
      exact hnodup.2.2 _ (List.mem_map_of_mem hmem) _ hcreated rfl
    have hadded := hchanged.stored_item hcreation.integral hcreation.nodup
      (fun hreducing => Bool.noConfusion hreducing) hmem
    rw [hsplit, WarehouseItem.stored_itemRows_of_notMem hother, hadded, if_neg Bool.false_ne_true]
    omega
  · -- A new product was not stored before.
    have hbefore : (tables .warehouseItem).filter (isItem warehouseId.toInt item.1.toInt) = [] :=
      Creation.filter_created hnumbers hsize (fun row hrow id hid =>
        @Referential.exists_parent _ _ _ schema _ hcreation.referential .warehouseItem row hrow
          .productId .productId .product (by decide) _ hid) item hmem
    have hadded : (added .warehouseItem).filter (isItem warehouseId.toInt item.1.toInt) = [] :=
      Creation.filter_created hnumbers hsize (hcreation.hasProduct_of_added hchanged) item hmem
    rw [hsplit, WarehouseItem.stored_itemRows hnodup.2.1 hmem]
    unfold stored
    rw [hbefore, hadded]

/-! ## What a request should lead to -/

/-- A request for which everything is there: its author, its warehouse and the products that are
only counted, which are different. -/
structure ProductsBody.IsCreation (tables : Tables) (userId : UInt64) (warehouseId : Int64)
    (body : ProductsBody) : Prop where
  integral : Integral schema tables
  referential : Referential schema tables
  author : HasUser tables userId
  warehouse : HasWarehouse tables warehouseId.toInt
  invoiceName : body.invoiceName.isSome = true
  warehouseTo : body.warehouseTo = some warehouseId
  nonempty : body.products ≠ []
  entries : ∀ entry ∈ body.products, entry.IsEntry tables warehouseId
  nodup : (body.existingProducts.map ProductBody.id).Nodup

/-- The new product has a row of its own, with what was asked for. -/
def ProductBody.IsCreated (tables tables' : Tables) (product : ProductBody) (productId : Int) :
    Prop :=
  (∀ old ∈ tables .product, old .productId ≠ some (.integer productId)) ∧
    ∃ row ∈ tables' .product, row .productId = some (.integer productId) ∧
      row .name = product.name.map .text ∧ row .description = product.description.map .text ∧
      row .mainColor = product.mainColor.map fun color => .integer color.toInt

/-- The ids and the counts of all entries, with these ids for the new products. -/
def ProductsBody.counted (body : ProductsBody) (newIds : List Int) : List (Int × Int) :=
  body.existingProducts.map (fun product => (product.entered.1.toInt, product.entered.2.toInt)) ++
    (body.newProducts.zip newIds).map fun pair => (pair.2, pair.1.entered.2.toInt)

/-- What a request leaves: one new invoice with one item for each entry, a row for each new product,
and in the warehouse so much more of every product. -/
def ProductsBody.Creates (tables tables' : Tables) (warehouseId : Int64) (body : ProductsBody) :
    Prop :=
  ∃ (invoiceRow : TableRow) (invoiceId : Int) (newIds : List Int),
    tables' .invoice = tables .invoice ++ [invoiceRow] ∧
    invoiceRow .invoiceId = some (.integer invoiceId) ∧
    (tables' .invoiceItem).filter (fun row => row .invoiceId = some (.integer invoiceId)) =
      (body.counted newIds).map (fun item => invoiceItemRow invoiceId item.1 item.2) ∧
    newIds.Nodup ∧
    List.Forall₂ (ProductBody.IsCreated tables tables') body.newProducts newIds ∧
    ∀ item ∈ body.counted newIds,
      stored warehouseId.toInt item.1 (tables' .warehouseItem) =
        stored warehouseId.toInt item.1 (tables .warehouseItem) + item.2

/-- The request has a new product, no name or description is the text of null, and the colors have
four bytes. -/
def ProductsBody.IsHandled (body : ProductsBody) : Prop :=
  body.newProducts ≠ [] ∧ body.invoiceName ≠ some "NULL" ∧
    ∀ product ∈ body.newProducts, product.name ≠ some "NULL" ∧
      product.description ≠ some "NULL" ∧
      ∀ color ∈ product.mainColor, -2 ^ 31 ≤ color.toInt ∧ color.toInt ≤ 2 ^ 31 - 1

/-- `ProductsCreate` answers `SUCCESS`, and leaves what it should. -/
def ProductsTask.Creates (choices : Nat → Choices) (dateProvider : DateProvider)
    (tables : Tables) (warehouseId : Int64) (body : ProductsBody) (task : ProductsTask) : Prop :=
  (∃ json, (createTask dateProvider task).respond (quietDatabase choices).answers tables =
    ⟨json, .success⟩) ∧
  body.Creates tables
    ((createTask dateProvider task).leaves (quietDatabase choices).answers tables) warehouseId

namespace ProductsTask

variable {tables : Tables} {userId : UInt64} {warehouseId : Int64} {body : ProductsBody}
  {name : String} {dateProvider : DateProvider}

/-- The new products of the stamped task. -/
theorem productsNew_stamped (timestamp : Nat → UInt64) :
    ((ofBody userId name warehouseId body).stamped timestamp).productsNew =
      body.newProducts.mapIdx fun index product =>
        { product.created userId with createdDate := some (timestamp index) } := by
  refine List.ext_getElem (by simp [stamped, ofBody, stampInvoice, Product.stamped])
    fun index hindex hbound => ?_
  rw [List.getElem_mapIdx]
  refine List.getElem_mapIdx.trans ?_
  simp only [ofBody, List.getElem_map]

/-- Everything is there for the task of a request. -/
theorem creation_stamped (h : body.IsCreation tables userId warehouseId)
    (htimestamps : ∀ call, (dateProvider.getTimestamp call).toNat < 2 ^ 63) :
    Creation tables userId warehouseId (body.existingProducts.map ProductBody.entered)
      ((ofBody userId name warehouseId body).stamped dateProvider.getTimestamp) := by
  have hexisting : ∀ product ∈ body.existingProducts,
      product.IsEntry tables warehouseId ∧ ¬ product.IsNew := by
    intro product hproduct
    obtain ⟨hmem, hnew⟩ := List.mem_filter.mp hproduct
    exact ⟨h.entries product hmem, of_decide_eq_true hnew⟩
  have hnew : ∀ product ∈ body.newProducts,
      product.IsEntry tables warehouseId ∧ product.IsNew := by
    intro product hproduct
    obtain ⟨hmem, hnew⟩ := List.mem_filter.mp hproduct
    exact ⟨h.entries product hmem, of_decide_eq_true hnew⟩
  have hstamped : ∀ product ∈
      ((ofBody userId name warehouseId body).stamped dateProvider.getTimestamp).productsNew,
      ∃ index, ∃ entry ∈ body.newProducts, product =
        { entry.created userId with createdDate := some (dateProvider.getTimestamp index) } := by
    rw [productsNew_stamped]
    intro product hproduct
    obtain ⟨index, hindex, rfl⟩ := List.mem_mapIdx.mp hproduct
    exact ⟨index, _, List.getElem_mem hindex, rfl⟩
  refine
    { integral := h.integral
      referential := h.referential
      author := h.author
      warehouse := h.warehouse
      arrival := ⟨rfl, rfl, ⟨_, rfl, htimestamps _⟩, rfl, rfl⟩
      listed := ?_
      nodup := ?_
      existing := ?_
      counts := ?_
      sums := ?_
      authored := ?_
      amounts := ?_ }
  · show Listed (body.existingProducts.map ProductBody.listed) _
    rw [Listed, List.forall₂_map_left_iff, List.forall₂_map_right_iff, List.forall₂_same]
    intro product hproduct
    obtain ⟨hentry, hold⟩ := hexisting product hproduct
    exact ⟨(hentry.entered_id hold).1, hentry.entered_count.1⟩
  · have hids : body.existingProducts.map ProductBody.id =
        ((body.existingProducts.map ProductBody.entered).map Prod.fst).map some := by
      rw [List.map_map, List.map_map]
      refine List.map_congr_left fun product hproduct => ?_
      obtain ⟨hentry, hold⟩ := hexisting product hproduct
      exact (hentry.entered_id hold).1
    have hnodup := h.nodup
    rw [hids] at hnodup
    exact hnodup.of_map
  · intro item hitem
    obtain ⟨product, hproduct, rfl⟩ := List.mem_map.mp hitem
    obtain ⟨hentry, hold⟩ := hexisting product hproduct
    exact (hentry.entered_id hold).2.1
  · intro item hitem
    obtain ⟨product, hproduct, rfl⟩ := List.mem_map.mp hitem
    exact (hexisting product hproduct).1.entered_count.2
  · intro item hitem
    obtain ⟨product, hproduct, rfl⟩ := List.mem_map.mp hitem
    obtain ⟨hentry, hold⟩ := hexisting product hproduct
    exact (hentry.entered_id hold).2.2
  · intro product hproduct
    obtain ⟨index, entry, hentry, rfl⟩ := hstamped product hproduct
    obtain ⟨hentry, hentryNew⟩ := hnew entry hentry
    exact ⟨hentry.name hentryNew, rfl, ⟨_, rfl, htimestamps index⟩⟩
  · intro product hproduct
    obtain ⟨index, entry, hentry, rfl⟩ := hstamped product hproduct
    exact (hnew entry hentry).1.count

/-- The ids that the sequence yields for the new products. -/
def newIds (choices : Choices) (body : ProductsBody) : List Int :=
  body.newProducts.mapIdx fun index _ => choices.identity .product index

/-- The items of the task are those of the entries. -/
theorem counted_newIds {choices : Choices} {size : Nat} {timestamp : Nat → UInt64}
    (hnumbers : FreshNumbers choices tables .product .productId size)
    (hsize : body.newProducts.length ≤ size) :
    body.counted (newIds choices body) =
      (body.existingProducts.map ProductBody.entered ++ Product.createdItems choices
        ((ofBody userId name warehouseId body).stamped timestamp).productsNew).map
          fun item => (item.1.toInt, item.2.toInt) := by
  unfold ProductsBody.counted
  rw [List.map_append, List.map_map, productsNew_stamped]
  congr 1
  refine List.ext_getElem (by simp [newIds, Product.createdItems]) fun index hindex hbound => ?_
  have hlength : index < body.newProducts.length := by
    rw [List.length_map, List.length_zip, newIds, List.length_mapIdx, Nat.min_self] at hindex
    exact hindex
  simp only [newIds, Product.createdItems, List.getElem_map, List.getElem_zip, List.getElem_mapIdx]
  rw [hnumbers.toInt_ofInt (hlength.trans_le hsize)]
  rfl

/-- The parameters of the new products can be collected. -/
theorem exists_values {products : List Product}
    (hauthored : ∀ product ∈ products, product.Authored userId) :
    ∃ values, products.mapM Product.insertsRow = .ok values := by
  refine Exceptions.exists_mapM_eq_ok.mpr fun product hproduct => ?_
  obtain ⟨hname, hcreatedBy, date, hdate, -⟩ := hauthored product hproduct
  obtain ⟨name, hnameSome⟩ := Option.isSome_iff_exists.mp hname
  unfold Product.insertsRow
  rw [hnameSome, hcreatedBy, hdate]
  exact ⟨_, rfl⟩

/-- `ExecuteInternal` builds the chain when there are new products, and throws otherwise. -/
theorem prepare_createTask {values : List ValueCollector}
    (hvalues : ((ofBody userId name warehouseId body).stamped
      dateProvider.getTimestamp).productsNew.mapM Product.insertsRow = .ok values) {query : Query}
    (hquery : ((ofBody userId name warehouseId body).stamped
      dateProvider.getTimestamp).invoice.insertQuery = .ok query) :
    (createTask dateProvider (ofBody userId name warehouseId body)).prepare =
      if values = [] then .error .error
      else .ok (creationChain warehouseId values query,
        (ofBody userId name warehouseId body).stamped dateProvider.getTimestamp) := by
  show prepared (createChain dateProvider.getTimestamp (ofBody userId name warehouseId body)) = _
  rw [createChain_eq (Eq.refl (some warehouseId)) hvalues hquery]
  split <;> rfl

/-- What the chain has left can be answered. -/
theorem exists_finish {choices : Nat → Choices} {clock : Nat} {tables' : Tables}
    {items : List (Int64 × Int64)} {task task' : ProductsTask}
    (hcreation : Creation tables userId warehouseId items task)
    (h : CreationResult choices clock tables warehouseId items task tables' task')
    (request : ProductsTask) :
    ∃ json, (createTask dateProvider request).finish .success task' = .ok (.success, json) := by
  have hlisted : Listed task'.products
      (items ++ Product.createdItems (choices clock) task.productsNew) := by
    rw [h.taskProducts]
    exact List.rel_append hcreation.listed
      (Product.listed_insertedAll _ hcreation.isSome_count)
  have hproducts : ∃ products, task'.products.mapM (createdProductJson dateProvider) =
      .ok products := by
    refine Exceptions.exists_mapM_eq_ok.mpr fun product hproduct => ?_
    obtain ⟨item, -, hid, hcount⟩ :=
      Exceptions.exists_of_forall₂_right hlisted.flip hproduct
    unfold createdProductJson
    rw [hid, hcount]
    exact ⟨_, rfl⟩
  obtain ⟨products, hproducts⟩ := hproducts
  obtain ⟨name, hname⟩ := Option.isSome_iff_exists.mp hcreation.arrival.name
  obtain ⟨date, hdate, -⟩ := hcreation.arrival.createdDate
  show ∃ json, finishDone .success (do
    let warehouseTo ← required task'.invoice.warehouseToId
    let products ← task'.products.mapM (createdProductJson dateProvider)
    ProductsTask.json dateProvider task'.invoice
      [("warehouse_to", some (.integer warehouseTo))] products) = .ok (.success, json)
  simp only [finishDone_eq_ok]
  rw [hproducts, h.taskInvoice, Invoice.inserted, hcreation.arrival.warehouseTo]
  unfold ProductsTask.json
  simp only [hname, hdate, hcreation.arrival.createdBy, Option.map_some]
  exact ⟨_, rfl⟩

/-- What can be stored of the task of a request. -/
theorem storable_stamped_iff {timestamp : Nat → UInt64} :
    ((ofBody userId name warehouseId body).stamped timestamp).Storable ↔
      some name ≠ some "NULL" ∧ ∀ product ∈ body.newProducts, product.name ≠ some "NULL" ∧
        ∀ color ∈ product.mainColor, -2 ^ 31 ≤ color.toInt ∧ color.toInt ≤ 2 ^ 31 - 1 := by
  constructor
  · rintro ⟨hinvoice, hproducts⟩
    refine ⟨hinvoice, fun product hproduct => ?_⟩
    obtain ⟨index, hindex, rfl⟩ := List.mem_iff_getElem.mp hproduct
    rw [productsNew_stamped] at hproducts
    obtain ⟨hcolor, hname⟩ := hproducts _ (List.mem_mapIdx.mpr ⟨index, hindex, rfl⟩)
    exact ⟨hname, hcolor⟩
  · rintro ⟨hinvoice, hproducts⟩
    refine ⟨hinvoice, ?_⟩
    rw [productsNew_stamped]
    intro product hproduct
    obtain ⟨index, hindex, rfl⟩ := List.mem_mapIdx.mp hproduct
    obtain ⟨hname, hcolor⟩ := hproducts _ (List.getElem_mem hindex)
    exact ⟨hcolor, hname⟩

/-- What the chain leaves is what the request should lead to, when the descriptions are stored. -/
theorem creates_of_result (h : body.IsCreation tables userId warehouseId)
    {choices : Nat → Choices} (hfresh : FreshSequences choices tables body.products.length)
    (htimestamps : ∀ call, (dateProvider.getTimestamp call).toNat < 2 ^ 63) {clock : Nat}
    {tables' : Tables} {task' : ProductsTask}
    (hresult : CreationResult choices clock tables warehouseId
      (body.existingProducts.map ProductBody.entered)
      ((ofBody userId name warehouseId body).stamped dateProvider.getTimestamp) tables' task')
    (hnames : ∀ product ∈ body.newProducts, product.name ≠ some "NULL")
    (hdescriptions : ∀ product ∈ body.newProducts, product.description ≠ some "NULL") :
    body.Creates tables tables' warehouseId := by
  have hcreation := @creation_stamped tables userId warehouseId body name dateProvider h
    htimestamps
  have hnumbers := hfresh.product clock
  have hpositive := List.length_pos_iff.mpr h.nonempty
  have hinvoiceId := (hfresh.invoice (clock + 1)).toInt_ofInt hpositive
  have hsize : body.newProducts.length ≤ body.products.length := List.length_filter_le _ _
  have hnewSize : ((ofBody userId name warehouseId body).stamped
      dateProvider.getTimestamp).productsNew.length ≤ body.products.length := by
    rw [productsNew_stamped, List.length_mapIdx]
    exact hsize
  have hcounted := @counted_newIds tables userId warehouseId body name (choices clock) _
    dateProvider.getTimestamp hnumbers hsize
  refine ⟨_, (choices (clock + 1)).identity .invoice 0, newIds (choices clock) body,
    hresult.invoice, rfl, ?_, ?_, ?_, ?_⟩
  · -- The items that were there belong to other invoices.
    have hold : (tables .invoiceItem).filter (fun row => row .invoiceId =
        some (.integer ((choices (clock + 1)).identity .invoice 0))) = [] := by
      rw [List.filter_eq_nil_iff]
      intro row hrow hid
      obtain ⟨parent, hparent, hparentId⟩ := @Referential.exists_parent _ _ _ schema _
        h.referential .invoiceItem row hrow .invoiceId .invoiceId .invoice (by decide) _
        (of_decide_eq_true hid)
      exact (hfresh.invoice (clock + 1)).fresh 0 hpositive parent hparent hparentId
    rw [hresult.invoiceItem, List.filter_append, hold, List.nil_append, hcounted, List.map_map,
      Invoice.itemRows, hinvoiceId]
    refine List.filter_eq_self.mpr fun row hrow => ?_
    obtain ⟨item, -, rfl⟩ := List.mem_map.mp hrow
    exact decide_eq_true rfl
  · refine List.nodup_iff_injective_getElem.mpr fun first second hsame => ?_
    obtain ⟨first, hfirst⟩ := first
    obtain ⟨second, hsecond⟩ := second
    rw [newIds, List.length_mapIdx] at hfirst hsecond
    simp only [newIds, List.getElem_mapIdx] at hsame
    exact Fin.ext (hnumbers.injective first (hfirst.trans_le hsize) second
      (hsecond.trans_le hsize) hsame)
  · refine List.forall₂_of_length_eq_of_get (by simp [newIds]) fun index hindex hbound => ?_
    have hproduct := List.getElem_mem hindex
    simp only [List.get_eq_getElem, newIds, List.getElem_mapIdx]
    refine ⟨hnumbers.fresh index (hindex.trans_le hsize),
      Product.row ((choices clock).identity .product index)
        { body.newProducts[index].created userId with
          createdDate := some (dateProvider.getTimestamp index) }, ?_, rfl, ?_, ?_, rfl⟩
    · rw [hresult.product, productsNew_stamped]
      refine List.mem_append_right _ (List.mem_mapIdx.mpr
        ⟨index, by rwa [List.length_mapIdx], ?_⟩)
      rw [List.getElem_mapIdx]
    · exact bind_storedText_of_ne (hnames _ hproduct)
    · exact bind_storedText_of_ne (hdescriptions _ hproduct)
  · rw [hcounted]
    intro item hitem
    obtain ⟨item, hmem, rfl⟩ := List.mem_map.mp hitem
    exact hresult.stored_eq hcreation hfresh hnewSize hmem

/-- No new row has the text of null. -/
theorem description_of_creates {choices : Nat → Choices} {clock : Nat} {tables' : Tables}
    {items : List (Int64 × Int64)} {task task' : ProductsTask}
    (hresult : CreationResult choices clock tables warehouseId items task tables' task')
    (h : body.Creates tables tables' warehouseId) :
    ∀ product ∈ body.newProducts, product.description ≠ some "NULL" := by
  intro product hproduct hnull
  obtain ⟨-, -, ids, -, -, -, -, hcreated, -⟩ := h
  obtain ⟨id, -, hfresh, row, hrow, hid, -, hdescription, -⟩ :=
    Exceptions.exists_of_forall₂_right hcreated.flip hproduct
  rw [hresult.product] at hrow
  rcases List.mem_append.mp hrow with hold | hnew
  · exact hfresh row hold hid
  · obtain ⟨index, hindex, rfl⟩ := List.mem_mapIdx.mp hnew
    rw [hnull, Option.map_some, Product.row, Option.bind_eq_some_iff] at hdescription
    obtain ⟨text, -, hstored⟩ := hdescription
    obtain ⟨hne, rfl⟩ := storedText_eq_some.mp hstored
    exact hne rfl

/-- A request for which everything is there is handled as it should be exactly when it has a new
product, none of its texts is the text of null, and its colors have four bytes. -/
theorem creates_iff {choices : Nat → Choices} (h : body.IsCreation tables userId warehouseId)
    (hfresh : FreshSequences choices tables body.products.length)
    (htimestamps : ∀ call, (dateProvider.getTimestamp call).toNat < 2 ^ 63) :
    ∃ task, parseCreate userId body = .ok task ∧
      (task.Creates choices dateProvider tables warehouseId body ↔ body.IsHandled) := by
  obtain ⟨name, hname⟩ := Option.isSome_iff_exists.mp h.invoiceName
  refine ⟨_, parseCreate_ofBody hname h.warehouseTo h.entries userId, ?_⟩
  have hcreation := @creation_stamped tables userId warehouseId body name dateProvider h
    htimestamps
  have hnew := @productsNew_stamped userId warehouseId body name dateProvider.getTimestamp
  obtain ⟨values, hvalues⟩ := exists_values hcreation.authored
  obtain ⟨columns, params, fields, hquery, -⟩ :=
    Invoice.insertQuery_arrival hcreation.userId_lt hcreation.arrival
  have hprepare := prepare_createTask hvalues hquery
  have hlength : values.length = body.newProducts.length := by
    have hlengths := (Exceptions.mapM_eq_ok_iff.mp hvalues).length_eq
    rw [hnew, List.length_mapIdx] at hlengths
    exact hlengths.symm
  unfold Creates ProductsBody.IsHandled
  by_cases hnil : values = []
  · -- Without a new product there is no statement, and no chain.
    rw [if_pos hnil] at hprepare
    refine iff_of_false ?_ ?_
    · rintro ⟨⟨json, hrespond⟩, -⟩
      rw [TransactionTask.respond, hprepare] at hrespond
      cases congrArg Callback.result hrespond
    · rintro ⟨hproducts, -⟩
      rw [hnil, List.length_nil] at hlength
      exact hproducts (List.length_eq_zero_iff.mp hlength.symm)
  · rw [if_neg hnil] at hprepare
    have hsize : (body.existingProducts.map ProductBody.entered).length +
        ((ofBody userId name warehouseId body).stamped
          dateProvider.getTimestamp).productsNew.length ≤ body.products.length := by
      rw [hnew, List.length_mapIdx, List.length_map]
      exact le_of_eq body.length_existing_add_new
    have hfinish : ∀ (exception : Exception) memory json,
        (createTask dateProvider (ofBody userId name warehouseId body)).finish exception.result
          memory ≠ .ok (.success, json) :=
      fun exception memory json => finishDone_result_ne_success exception _ json
    have hrespond := fun json => @TransactionTask.respond_eq_success _ _ _ _ hprepare hfinish
      (quietDatabase choices).answers tables json
    constructor
    · rintro ⟨⟨json, hsuccess⟩, hcreates⟩
      obtain ⟨after, memory, hruns, -⟩ := (hrespond json).mp hsuccess
      have hstorable := hcreation.storable_of_runsTo hfresh hsize hvalues hnil hquery hruns
      obtain ⟨clock, final, stocked, task', hchain, hresult⟩ :=
        hcreation.exists_runsTo hfresh hsize hvalues hnil hquery hstorable
      rw [TransactionTask.leaves_of_runsTo hprepare hchain] at hcreates
      have hdescriptions := description_of_creates hresult hcreates
      obtain ⟨hinvoice, hproducts⟩ := storable_stamped_iff.mp hstorable
      refine ⟨fun hempty => ?_, hname ▸ hinvoice, fun product hproduct =>
        ⟨(hproducts product hproduct).1, hdescriptions product hproduct,
          (hproducts product hproduct).2⟩⟩
      rw [hempty, List.length_nil, List.length_eq_zero_iff] at hlength
      exact hnil hlength
    · rintro ⟨-, hinvoice, hproducts⟩
      have hstorable := (@storable_stamped_iff userId warehouseId body name
        dateProvider.getTimestamp).mpr ⟨hname ▸ hinvoice, fun product hproduct =>
          ⟨(hproducts product hproduct).1, (hproducts product hproduct).2.2⟩⟩
      obtain ⟨clock, final, stocked, task', hchain, hresult⟩ :=
        hcreation.exists_runsTo hfresh hsize hvalues hnil hquery hstorable
      obtain ⟨json, hjson⟩ := @exists_finish tables userId warehouseId dateProvider choices clock
        stocked _ _ task' hcreation hresult (ofBody userId name warehouseId body)
      refine ⟨⟨json, (hrespond json).mpr ⟨_, _, hchain, hjson⟩⟩, ?_⟩
      rw [TransactionTask.leaves_of_runsTo hprepare hchain]
      exact creates_of_result h hfresh htimestamps hresult
        (fun product hproduct => (hproducts product hproduct).1)
        (fun product hproduct => (hproducts product hproduct).2.1)

/-! ## Requests for one shelf -/

/-- A database whose sequences have come to one hundred. -/
def laterNumbers : Choices :=
  { storedOrder with
    identity := fun _ index => (index + 100 : Nat)
    identity_pos := fun _ index => by omega }

/-- A date provider at the epoch. -/
def epoch : DateProvider where
  getTimestamp _ := 0
  toIsoTimeString _ := "1970-01-01'T'00:00:00"
  fromIsoTimeString _ := none

/-- A list of these products for the shelf. -/
def arrivalOf (products : List ProductBody) : ProductsBody where
  invoiceName := some "arrival"
  warehouseTo := some 1
  products := products

/-- A new product. -/
def newNut : ProductBody where
  type := some "new"
  name := some "nut"
  count := some 3

/-- More of the product of the shelf. -/
def moreBolts : ProductBody where
  type := some "byid"
  id := some 7
  count := some 2

/-- The sequences yield new numbers. -/
theorem freshSequences_laterNumbers (size : Nat) (hsize : size < 100) :
    FreshSequences (fun _ => laterNumbers) (WarehouseItem.shelf 5) size := by
  have hnumbers : ∀ (table : Table) (column : Column),
      (∀ row ∈ WarehouseItem.shelf 5 table, ∀ index : Nat, index < size →
        row column ≠ some (.integer (index + 100 : Nat))) →
      FreshNumbers laterNumbers (WarehouseItem.shelf 5) table column size := by
    intro table column hfresh
    refine ⟨fun first _ second _ hsame => ?_, fun index hindex => ?_,
      fun index hindex row hrow => hfresh row hrow index hindex⟩
    · have hsame' : ((first + 100 : Nat) : Int) = (second + 100 : Nat) := hsame
      omega
    · show ((index + 100 : Nat) : Int) ≤ 2 ^ 63 - 1
      omega
  refine ⟨fun _ => hnumbers _ _ ?_, fun _ => hnumbers _ _ ?_, fun _ => hnumbers _ _ ?_⟩
  · intro row hrow index _ hid
    rw [List.mem_singleton.mp hrow] at hid
    have hseven : (7 : Int) = (index + 100 : Nat) := Value.integer.inj (Option.some.inj hid)
    omega
  · intro row hrow
    cases hrow
  · intro row hrow
    cases hrow

/-- Both products may be listed. -/
theorem isEntry_shelf : ∀ entry ∈ [newNut, moreBolts], entry.IsEntry (WarehouseItem.shelf 5) 1 := by
  intro entry hentry
  simp only [List.mem_cons, List.not_mem_nil, or_false] at hentry
  rcases hentry with rfl | rfl
  · exact ⟨⟨3, rfl, by decide, by decide⟩, fun _ => rfl, fun h => absurd (.inr rfl) h⟩
  · refine ⟨⟨2, rfl, by decide, by decide⟩, fun h => absurd h (by decide), fun _ => ⟨rfl, 7, rfl,
      ⟨_, List.mem_singleton_self _, rfl⟩, ?_⟩⟩
    decide +kernel

/-- A list of them is a request for which everything is there. -/
theorem isCreation_shelf {products : List ProductBody} (hne : products ≠ [])
    (hsublist : products.Sublist [newNut, moreBolts]) :
    (arrivalOf products).IsCreation (WarehouseItem.shelf 5) 1 1 where
  integral := WarehouseItem.shelf_integral ⟨by decide, by decide⟩
  referential := WarehouseItem.shelf_referential 5
  author := ⟨_, List.mem_singleton_self _, rfl⟩
  warehouse := ⟨_, List.mem_singleton_self _, rfl⟩
  invoiceName := rfl
  warehouseTo := rfl
  nonempty := hne
  entries := fun entry hentry => isEntry_shelf entry (hsublist.subset hentry)
  nodup := by
    have hall : (([newNut, moreBolts].filter fun product => ¬ product.IsNew).map
        ProductBody.id).Nodup := by decide
    exact hall.sublist ((hsublist.filter _).map _)

/-- A new product and more of an old one. -/
theorem creates_mixed :
    ∃ task, parseCreate 1 (arrivalOf [newNut, moreBolts]) = .ok task ∧
      task.Creates (fun _ => laterNumbers) epoch (WarehouseItem.shelf 5) 1
        (arrivalOf [newNut, moreBolts]) := by
  obtain ⟨task, hparse, hiff⟩ := @creates_iff (WarehouseItem.shelf 5) 1 1
    (arrivalOf [newNut, moreBolts]) epoch (fun _ => laterNumbers)
    (isCreation_shelf (List.cons_ne_nil _ _) (List.Sublist.refl _))
    (freshSequences_laterNumbers 2 (by decide)) fun _ => (by decide : (0 : UInt64).toNat < 2 ^ 63)
  refine ⟨task, hparse, hiff.mpr ⟨List.cons_ne_nil _ _, by decide, ?_⟩⟩
  intro product hproduct
  have hnut : product = newNut := List.mem_singleton.mp hproduct
  subst hnut
  refine ⟨by decide, by decide, fun color hcolor => ?_⟩
  cases hcolor

/-- More of an old product alone is refused. -/
theorem not_creates_existing :
    ¬ ∀ (choices : Nat → Choices) (dateProvider : DateProvider) (tables : Tables)
      (userId : UInt64) (warehouseId : Int64) (body : ProductsBody),
      body.IsCreation tables userId warehouseId →
      FreshSequences choices tables body.products.length →
      (∀ call, (dateProvider.getTimestamp call).toNat < 2 ^ 63) →
      ∃ task, parseCreate userId body = .ok task ∧
        task.Creates choices dateProvider tables warehouseId body := by
  intro h
  obtain ⟨task, hparse, ⟨json, hrespond⟩, -⟩ := h (fun _ => laterNumbers) epoch
    (WarehouseItem.shelf 5) 1 1 (arrivalOf [moreBolts])
    (isCreation_shelf (List.cons_ne_nil _ _) (List.sublist_cons_self _ _))
    (freshSequences_laterNumbers 1 (by decide)) fun _ => (by decide : (0 : UInt64).toNat < 2 ^ 63)
  have htask : parseCreate 1 (arrivalOf [moreBolts]) =
      .ok (ofBody 1 "arrival" 1 (arrivalOf [moreBolts])) := rfl
  cases hparse.symm.trans htask
  have herror : ((createTask epoch (ofBody 1 "arrival" 1 (arrivalOf [moreBolts]))).respond
      (quietDatabase fun _ => laterNumbers).answers (WarehouseItem.shelf 5)).result = .error := rfl
  rw [hrespond] at herror
  cases herror

end ProductsTask

end TaskMgr.Tasks

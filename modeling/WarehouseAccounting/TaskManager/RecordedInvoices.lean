import WarehouseAccounting.TaskManager.InvoiceHistory
import WarehouseAccounting.TaskManager.Tasks.WriteTasks

/-!
# Invoices that were recorded

What `GetInvoice` shows of the invoice that `ProductsCreate`, `ProductsMove` or `ProductsRemove` has
recorded.

- `StockTask.exists_records`: what a successful task leaves, and what it responds.
- `StockTask.recorded_shown`: the members of the response that `GetInvoice` shows again, and the
  items.
-/

namespace TaskMgr.Tasks

open Ufa Srv.Db Srv.Db.Trsct Srv.Db.Sql Srv.Db.DbMgr.Scpts Relational

variable {tables : Tables}

/-! ## The response -/

namespace ProductsTask

/-- What the response shows of an invoice and of the objects of its products. -/
structure Shows (dateProvider : DateProvider) (invoice : Invoice) (products : List Json)
    (response : Json) : Prop where
  invoiceId : response.member "invoice_id" = invoice.invoiceId.map .integer
  createdDate : response.member "invoice_created_date" =
    invoice.createdDate.map dateProvider.json
  createdBy : response.member "invoice_created_by" = invoice.createdBy.map .unsigned
  prettyName : response.member "invoice_pretty_name" = invoice.prettyName.map .string
  name : response.member "invoice_name" = invoice.name.map .string
  description : response.member "invoice_description" = invoice.description.map .string
  warehouseFrom : response.member "warehouse_from" = invoice.warehouseFromId.map .integer
  warehouseTo : response.member "warehouse_to" = invoice.warehouseToId.map .integer
  products : response.member "products" = some (.array products)

/-- The members of the three responses. -/
def answerPuts (dateProvider : DateProvider) (invoice : Invoice)
    (warehouses : List (String × Option Json)) (products : List Json) :
    List (String × Option Json) :=
  [("invoice_id", invoice.invoiceId.map .integer),
    ("invoice_created_date", invoice.createdDate.map dateProvider.json),
    ("invoice_created_by", invoice.createdBy.map .unsigned),
    ("invoice_pretty_name", invoice.prettyName.map .string),
    ("invoice_name", invoice.name.map .string),
    ("invoice_description", invoice.description.map .string)] ++ warehouses ++
    [("products", some (.array products))]

/-- The response is made of these members. -/
theorem json_eq_ok {dateProvider : DateProvider} {invoice : Invoice}
    {warehouses : List (String × Option Json)} {products : List Json} {response : Json}
    (h : json dateProvider invoice warehouses products = .ok response) :
    response = .object (putAll (answerPuts dateProvider invoice warehouses products)) := by
  unfold json at h
  obtain ⟨invoiceId, hid, h⟩ := bind_eq_ok.mp h
  obtain ⟨createdDate, hdate, h⟩ := bind_eq_ok.mp h
  obtain ⟨createdBy, huser, h⟩ := bind_eq_ok.mp h
  obtain ⟨prettyName, hpretty, h⟩ := bind_eq_ok.mp h
  obtain ⟨name, hname, h⟩ := bind_eq_ok.mp h
  rw [required_eq_ok] at hid hdate huser hpretty hname
  obtain rfl := Except.ok.inj h
  simp only [answerPuts, hid, hdate, huser, hpretty, hname, Option.map_some]

/-- It shows the invoice when the warehouses are those of the invoice. -/
theorem shows_answerPuts {dateProvider : DateProvider} {invoice : Invoice}
    {warehouses : List (String × Option Json)} {products : List Json}
    (hkeys : List.Sublist (warehouses.map Prod.fst) ["warehouse_to", "warehouse_from"])
    (hfrom : (warehouses.lookup "warehouse_from").join = invoice.warehouseFromId.map .integer)
    (hto : (warehouses.lookup "warehouse_to").join = invoice.warehouseToId.map .integer) :
    Shows dateProvider invoice products
      (.object (putAll (answerPuts dateProvider invoice warehouses products))) := by
  have hnodup : ((answerPuts dateProvider invoice warehouses products).map Prod.fst).Nodup := by
    have hall : List.Nodup (["invoice_id", "invoice_created_date", "invoice_created_by",
        "invoice_pretty_name", "invoice_name", "invoice_description"] ++
          ["warehouse_to", "warehouse_from"] ++ ["products"]) := by
      decide
    refine List.Sublist.nodup ?_ hall
    rw [answerPuts, List.map_append, List.map_append]
    exact ((List.Sublist.refl _).append hkeys).append (.refl _)
  have hlookup : ∀ key, (Json.object (putAll (answerPuts dateProvider invoice warehouses
      products))).member key = ((answerPuts dateProvider invoice warehouses products).lookup
        key).join := lookup_putAll hnodup
  have hlast : ∀ key, (([] : List (String × Option Json)) ++ warehouses ++
      [("products", some (Json.array products))]).lookup key =
        (warehouses.lookup key).or ([("products", some (Json.array products))].lookup key) :=
    fun key => List.lookup_append
  have hproducts : warehouses.lookup "products" = none := by
    refine List.lookup_eq_none_iff.mpr fun pair hpair => bne_iff_ne.mpr fun heq => ?_
    have hmem := hkeys.subset (List.mem_map_of_mem hpair)
    rw [← heq] at hmem
    revert hmem
    decide
  refine ⟨hlookup _, hlookup _, hlookup _, hlookup _, hlookup _, hlookup _,
    (hlookup _).trans ?_, (hlookup _).trans ?_, (hlookup _).trans ?_⟩
  · rw [← hfrom]
    refine congrArg Option.join ((hlast "warehouse_from").trans ?_)
    exact Option.or_none
  · rw [← hto]
    refine congrArg Option.join ((hlast "warehouse_to").trans ?_)
    exact Option.or_none
  · have hfound : (([] : List (String × Option Json)) ++ warehouses ++
        [("products", some (Json.array products))]).lookup "products" =
          some (some (Json.array products)) := by
      rw [hlast, hproducts]
      rfl
    exact congrArg Option.join hfound

/-- The object of a product shows its id and its count. -/
def ShowsProduct (product : Product) (object : Json) : Prop :=
  object.member "id" = product.id.map .integer ∧ object.member "count" = product.count.map .integer

/-- So it is in the answers of `ProductsMove` and `ProductsRemove`. -/
theorem showsProduct_moved {product : Product} {object : Json}
    (h : movedProductJson product = .ok object) : ShowsProduct product object := by
  unfold movedProductJson at h
  obtain ⟨id, hid, h⟩ := bind_eq_ok.mp h
  obtain ⟨count, hcount, h⟩ := bind_eq_ok.mp h
  rw [required_eq_ok] at hid hcount
  obtain rfl := Except.ok.inj h
  rw [ShowsProduct, hid, hcount]
  exact ⟨rfl, rfl⟩

/-- So it is in the answer of `ProductsCreate`. -/
theorem showsProduct_created {dateProvider : DateProvider} {product : Product} {object : Json}
    (h : createdProductJson dateProvider product = .ok object) : ShowsProduct product object := by
  unfold createdProductJson at h
  obtain ⟨count, hcount, h⟩ := bind_eq_ok.mp h
  obtain ⟨id, hid, h⟩ := bind_eq_ok.mp h
  rw [required_eq_ok] at hid hcount
  obtain rfl := Except.ok.inj h
  let puts : List (String × Option Json) :=
    [("name", product.name.map .string), ("description", product.description.map .string),
      ("main_color", product.mainColor.map .integer),
      ("main_color_name", product.mainColorName.map .string), ("count", some (.integer count)),
      ("id", some (.integer id)), ("created_by", product.createdBy.map .unsigned),
      ("pretty_name", product.prettyName.map .string),
      ("created_date", product.createdDate.map dateProvider.json)]
  have hlookup : ∀ key, (putAll puts).lookup key = (puts.lookup key).join :=
    lookup_putAll (by simp [puts])
  rw [ShowsProduct, hid, hcount]
  exact ⟨hlookup "id", hlookup "count"⟩

/-- The id that is read once more is that of the invoice. -/
theorem readInvoiceId_of_records {invoice : Invoice} {tables tables' : Tables}
    {memory : ProductsTask} (h : Records invoice tables tables' memory) :
    memory.readInvoiceId = .ok memory.invoice := by
  obtain ⟨id, row, items, -, hrows, hinvoice, -, hrecorded⟩ := h
  have hconforms : schema.conforms .invoice row = true := by
    refine hrecorded.integral.conforms .invoice row ?_
    rw [hrecorded.invoices]
    exact List.mem_append_right _ List.mem_cons_self
  have htyped : TypedOn [.invoiceId, .prettyName] row := typedOn_of_conforms hconforms (by decide)
  have hread := getInt64_field htyped .invoiceId (by simp) rfl
  rw [hrecorded.rowId] at hread
  unfold readInvoiceId
  rw [hrows, hinvoice]
  simp only [Rows.at, project, fieldAt, List.map_cons, List.map_nil, List.getElem?_cons_zero,
    hrecorded.rowId, hread, ok_bind, Invoice.inserted]
  rfl

end ProductsTask

/-! ## The tasks -/

/-- The statements of the three tasks are those of single tables. -/
theorem StockStatement.isPlain {statement : Statement} (h : StockStatement statement) :
    statement.options.getIdentificator ≠ .raw ∧
      ∀ options, statement.options = .select options → options.joins = [] := by
  cases h with
  | item item => exact item.plain
  | insert table params =>
    exact ⟨QueryIdentificator.noConfusion, fun options hoptions => by cases hoptions⟩

namespace StockTask

/-- The task as a whole. -/
def transactionTask (dateProvider : DateProvider) : StockTask → TransactionTask
  | .productsCreate task => task.createTask dateProvider
  | .productsMove task => task.moveTask dateProvider
  | .productsRemove task => task.removeTask dateProvider

/-- The task comes from a request with this body. -/
def ParsedFrom (initiativeUserId : UInt64) (body : ProductsBody) : StockTask → Prop
  | .productsCreate task => ProductsTask.parseCreate initiativeUserId body = .ok task
  | .productsMove task => ProductsTask.parseMove initiativeUserId body = .ok task
  | .productsRemove task => ProductsTask.parseRemove initiativeUserId body = .ok task

/-- What is answered while nothing disturbs the transaction can be answered. -/
theorem runsTo_answers {task : StockTask} {dateProvider : Nat → UInt64}
    {entry : Entry ProductsTask} {memory memory' : ProductsTask}
    (hchain : task.chain dateProvider = .ok (entry, memory)) {choices : Nat → Choices}
    {after : Nat × Tables} (h : entry.RunsTo (Quiet choices) (0, tables) memory after memory') :
    entry.RunsTo Answers tables memory after.2 memory' := by
  let stockAttempt : StockAttempt :=
    { task, dateProvider, chain := (entry, memory), built := hchain, memory := (entry, memory)
      history := [], failed := .none _, choices }
  obtain ⟨entry', hcompletes⟩ := h
  have hstatements := stockAttempt.sends.executeChain memory
  refine ⟨entry', Program.Completes.map Prod.snd ?_ hstatements hcompletes⟩
  intro before statement rows after hstatement hanswer
  exact answers_of_answer hstatement.isPlain.1 hstatement.isPlain.2 hanswer.1

/-- What a task makes of its memory when its transaction has succeeded. -/
def finished (dateProvider : DateProvider) (memory : ProductsTask) :
    StockTask → Except Exception (Result × Json)
  | .productsCreate task => (task.createTask dateProvider).finish .success memory
  | .productsMove task => (task.moveTask dateProvider).finish .success memory
  | .productsRemove task => (task.removeTask dateProvider).finish .success memory

/-- The response shows the invoice that was recorded, and its products. -/
theorem shows_of_finished {task : StockTask} {dateProvider : DateProvider}
    {initiativeUserId : UInt64} {body : ProductsBody}
    (hparsed : task.ParsedFrom initiativeUserId body) {tables' : Tables} {memory : ProductsTask}
    (hrecords : ProductsTask.Records (task.invoice dateProvider.getTimestamp) tables tables' memory)
    {response : Json} (h : task.finished dateProvider memory = .ok (.success, response)) :
    ∃ objects, ProductsTask.Shows dateProvider memory.invoice objects response ∧
      List.Forall₂ ProductsTask.ShowsProduct memory.products objects := by
  have hread := ProductsTask.readInvoiceId_of_records hrecords
  obtain ⟨id, row, items, -, -, hinvoice, -, -⟩ := hrecords
  cases task with
  | productsCreate task =>
    obtain ⟨hnone, -, -, -⟩ := ProductsTask.parseCreate_eq_ok hparsed
    obtain ⟨warehouseTo, hto, h⟩ := bind_eq_ok.mp (finishDone_eq_ok.mp h)
    obtain ⟨objects, hobjects, h⟩ := bind_eq_ok.mp h
    rw [required_eq_ok] at hto
    obtain rfl := ProductsTask.json_eq_ok h
    have hfrom : memory.invoice.warehouseFromId = none := by
      rw [hinvoice]
      exact hnone
    refine ⟨objects, ProductsTask.shows_answerPuts (by simp) ?_ ?_, ?_⟩
    · rw [hfrom]
      rfl
    · rw [hto]
      rfl
    · exact (Exceptions.mapM_eq_ok_iff.mp hobjects).imp fun _ _ =>
        ProductsTask.showsProduct_created
  | productsMove task =>
    obtain ⟨invoice, hinvoice, h⟩ := bind_eq_ok.mp (finishDone_eq_ok.mp h)
    cases hread.symm.trans hinvoice
    obtain ⟨warehouseTo, hto, h⟩ := bind_eq_ok.mp h
    obtain ⟨warehouseFrom, hfrom, h⟩ := bind_eq_ok.mp h
    obtain ⟨objects, hobjects, h⟩ := bind_eq_ok.mp h
    rw [required_eq_ok] at hto hfrom
    obtain rfl := ProductsTask.json_eq_ok h
    refine ⟨objects, ProductsTask.shows_answerPuts (by simp) ?_ ?_, ?_⟩
    · rw [hfrom]
      rfl
    · rw [hto]
      rfl
    · exact (Exceptions.mapM_eq_ok_iff.mp hobjects).imp fun _ _ =>
        ProductsTask.showsProduct_moved
  | productsRemove task =>
    obtain ⟨-, hnone, -⟩ := ProductsTask.parseRemove_eq_ok hparsed
    have hto : memory.invoice.warehouseToId = none := by
      rw [hinvoice]
      exact hnone
    obtain ⟨invoice, hinvoice, h⟩ := bind_eq_ok.mp (finishDone_eq_ok.mp h)
    cases hread.symm.trans hinvoice
    obtain ⟨warehouseFrom, hfrom, h⟩ := bind_eq_ok.mp h
    obtain ⟨objects, hobjects, h⟩ := bind_eq_ok.mp h
    rw [required_eq_ok] at hfrom
    obtain rfl := ProductsTask.json_eq_ok h
    refine ⟨objects, ProductsTask.shows_answerPuts (by simp) ?_ ?_, ?_⟩
    · rw [hfrom]
      rfl
    · rw [hto]
      rfl
    · exact (Exceptions.mapM_eq_ok_iff.mp hobjects).imp fun _ _ =>
        ProductsTask.showsProduct_moved

/-- What a successful task has left, and what it responds. -/
theorem exists_records {task : StockTask} {dateProvider : DateProvider}
    {initiativeUserId : UInt64} {body : ProductsBody}
    (hparsed : task.ParsedFrom initiativeUserId body) (hintegral : Integral schema tables)
    {choices : Nat → Choices} {response : Json}
    (h : (task.transactionTask dateProvider).respond (quietDatabase choices).answers tables =
      ⟨response, .success⟩) :
    ∃ memory objects, ProductsTask.Records (task.invoice dateProvider.getTimestamp) tables
        ((task.transactionTask dateProvider).leaves (quietDatabase choices).answers tables) memory ∧
      ProductsTask.Shows dateProvider memory.invoice objects response ∧
      List.Forall₂ ProductsTask.ShowsProduct memory.products objects := by
  have hparts : ∃ entry before after memory, task.chain dateProvider.getTimestamp =
      .ok (entry, before) ∧ entry.RunsTo (Quiet choices) (0, tables) before after memory ∧
        task.finished dateProvider memory = .ok (.success, response) ∧
          (task.transactionTask dateProvider).leaves (quietDatabase choices).answers tables =
            after.2 := by
    cases task with
    | productsCreate task | productsMove task | productsRemove task =>
      exact TransactionTask.exists_runsTo rfl
        (fun exception _ json => finishDone_result_ne_success exception _ json) h
  obtain ⟨entry, before, after, memory, hchain, hruns, hfinished, hleaves⟩ := hparts
  have hrecords := recorded hchain hintegral (runsTo_answers hchain hruns)
  obtain ⟨objects, hshows, hproducts⟩ := shows_of_finished hparsed hrecords hfinished
  rw [hleaves]
  exact ⟨memory, objects, hrecords, hshows, hproducts⟩

end StockTask

/-! ## What is shown -/

namespace Invoice

/-- The row of a new invoice can be shown. -/
theorem IsRow.readable {invoice : Invoice} {row : TableRow} (h : invoice.IsRow row)
    (hconforms : schema.conforms .invoice row = true) :
    GetInvoiceList.view.readable row = true := by
  have hsome : ∀ column ∈ [Column.invoiceId, .name, .prettyName, .createdDate, .createdBy],
      (row column).isSome = true := by
    intro column hcolumn
    refine isSome_of_conforms hconforms ?_
    revert column
    decide
  have hnonneg : ∀ value : UInt64, (0 : Int) ≤ numberOf (.integer value.toNat) := by
    intro value
    rw [numberOf_integer]
    exact Int.natCast_nonneg _
  have hdate : (row .createdDate).all Encoding.time.readable = true := by
    rw [h.createdDate]
    cases invoice.createdDate with
    | none => rfl
    | some date => exact decide_eq_true (hnonneg date)
  have huser : (row .createdBy).all Encoding.user.readable = true := by
    rw [h.createdBy]
    cases invoice.createdBy with
    | none => rfl
    | some user => exact decide_eq_true (hnonneg user)
  simp only [View.readable, GetInvoiceList.view, ViewField.readable, List.all_cons, List.all_nil,
    Encoding.all_readable_plain, hdate, huser, hsome .invoiceId (by decide),
    hsome .name (by decide),
    hsome .prettyName (by decide), hsome .createdDate (by decide), hsome .createdBy (by decide)]
  rfl

/-- The object of the row shows the invoice as it was responded. -/
theorem IsRow.member_object {invoice : Invoice} {row : TableRow} (h : invoice.IsRow row)
    {id : Int64}
    (hid : row .invoiceId = some (.integer id.toInt)) (dateProvider : DateProvider)
    {products : List Json} {response : Json}
    (hshows : ProductsTask.Shows dateProvider (invoice.inserted id.toInt) products response)
    (items : List TableRow) :
    let object := GetInvoiceList.view.objectOfItems dateProvider "invoice_id" .invoiceId items row
    (∀ keys ∈ [("invoice_id", "invoice_id"), ("warehouse_to", "warehouse_to"),
        ("warehouse_from", "warehouse_from"), ("name", "invoice_name"),
        ("pretty_name", "invoice_pretty_name"), ("created_date", "invoice_created_date"),
        ("created_by", "invoice_created_by")],
        object.member keys.1 = response.member keys.2) ∧
      object.member "description" =
        (if invoice.description = some "NULL" then none
          else response.member "invoice_description") ∧
      object.member "items" = some (.array (items.map (itemObject "invoice_id" .invoiceId))) := by
  intro object
  obtain ⟨name, hname, hstored⟩ := h.name
  let shown := GetInvoiceList.view.puts dateProvider row ++
    [("items", some (.array (items.map (itemObject "invoice_id" .invoiceId))))]
  have hlookup : ∀ key, (Json.object (putAll shown)).member key = (shown.lookup key).join :=
    lookup_putAll (by simp [shown, View.puts, GetInvoiceList.view, ViewField.put])
  have hplain : ∀ value : Int64, Encoding.plain.json dateProvider (.integer value.toInt) =
      .integer value := by
    intro value
    rw [Encoding.json, Int64.ofInt_toInt]
  have hnumber : ∀ value : UInt64,
      UInt64.ofNat (numberOf (.integer value.toNat)).toNat = value := by
    intro value
    rw [numberOf_integer, Int.toNat_natCast, UInt64.ofNat_toNat]
  refine ⟨?_, ?_, hlookup "items"⟩
  · intro keys hkeys
    show (Json.object (putAll shown)).member keys.1 = _
    rw [hlookup]
    simp only [List.mem_cons, List.not_mem_nil, or_false] at hkeys
    rcases hkeys with rfl | rfl | rfl | rfl | rfl | rfl | rfl
    · show (row .invoiceId).map (Encoding.plain.json dateProvider) = _
      rw [hshows.invoiceId, hid, Option.map_some, hplain, inserted, Int64.ofInt_toInt]
      rfl
    · show (row .warehouseToId).map (Encoding.plain.json dateProvider) = _
      rw [hshows.warehouseTo, h.warehouseToId, Option.map_map]
      exact congrFun (congrArg Option.map (funext hplain)) _
    · show (row .warehouseFromId).map (Encoding.plain.json dateProvider) = _
      rw [hshows.warehouseFrom, h.warehouseFromId, Option.map_map]
      exact congrFun (congrArg Option.map (funext hplain)) _
    · show (row .name).map (Encoding.plain.json dateProvider) = _
      rw [hshows.name, hstored, inserted, hname]
      rfl
    · show (row .prettyName).map (Encoding.plain.json dateProvider) = _
      rw [hshows.prettyName, h.prettyName, hid, hstored, inserted, hname]
      rfl
    · show (row .createdDate).map (Encoding.time.json dateProvider) = _
      rw [hshows.createdDate, h.createdDate, Option.map_map]
      exact congrFun (congrArg Option.map (funext fun date =>
        congrArg dateProvider.json (hnumber date))) _
    · show (row .createdBy).map (Encoding.user.json dateProvider) = _
      rw [hshows.createdBy, h.createdBy, Option.map_map]
      exact congrFun (congrArg Option.map (funext fun user =>
        congrArg Json.unsigned (hnumber user))) _
  · refine (hlookup "description").trans ?_
    show (row .description).map (Encoding.plain.json dateProvider) = _
    rw [hshows.description, h.description, map_json_bind_storedText]
    rfl

/-- The rows that belong to a new invoice are those of its items. -/
theorem Recorded.filter_items {id : Int64} {row : TableRow} {items : List (Int64 × Int64)}
    {tables' : Tables} (h : Recorded id row items tables tables')
    (hparents : ∀ item ∈ tables .invoiceItem, ∃ invoice ∈ tables .invoice,
      invoice .invoiceId = item .invoiceId) :
    (tables' .invoiceItem).filter (hasId .invoiceId id) =
      items.map fun item => invoiceItemRow id.toInt item.1.toInt item.2.toInt := by
  -- An older item refers to an older invoice, whose number is another one.
  have hold : (tables .invoiceItem).filter (hasId .invoiceId id) = [] := by
    refine List.filter_eq_nil_iff.mpr fun item hitem hid => ?_
    obtain ⟨invoice, hinvoice, heq⟩ := hparents item hitem
    rw [hasId, decide_eq_true_eq] at hid
    exact h.fresh invoice hinvoice (heq.trans (hid.trans h.rowId.symm))
  rw [h.items, List.filter_append, hold, List.nil_append]
  refine List.filter_eq_self.mpr fun item hitem => ?_
  obtain ⟨pair, -, rfl⟩ := List.mem_map.mp hitem
  exact decide_eq_true rfl

end Invoice

/-- What the object of a product shows. -/
theorem map_members_of_listed {products : List Product} {objects : List Json}
    {items : List (Int64 × Int64)}
    (hobjects : List.Forall₂ ProductsTask.ShowsProduct products objects)
    (hlisted : Listed products items) :
    objects.map (fun object => (object.member "id", object.member "count")) =
      items.map fun item => (some (.integer item.1), some (.integer item.2)) := by
  induction hobjects generalizing items with
  | nil =>
    cases hlisted
    rfl
  | cons hobject _ ih =>
    cases hlisted with
    | cons hitem hrest =>
      rw [List.map_cons, List.map_cons, ih hrest, hobject.1, hobject.2, hitem.1, hitem.2]
      rfl

/-- The object of an item shows its product and its count. -/
theorem members_itemObject_invoiceItemRow (id : Int64) (item : Int64 × Int64) :
    let object := itemObject "invoice_id" .invoiceId
      (invoiceItemRow id.toInt item.1.toInt item.2.toInt)
    (object.member "product_id", object.member "count") =
      (some (.integer item.1), some (.integer item.2)) := by
  have hproduct : idIn .productId (invoiceItemRow id.toInt item.1.toInt item.2.toInt) = item.1 :=
    Int64.ofInt_toInt item.1
  have hcount : idIn .count (invoiceItemRow id.toInt item.1.toInt item.2.toInt) = item.2 :=
    Int64.ofInt_toInt item.2
  unfold itemObject
  rw [hproduct, hcount]
  rfl

/-- `GetInvoice` shows an invoice that was recorded as the response has shown it, but for a
description that was stored as null: with its names, its warehouses, its time and its author, and
with the products of the response as its items, in any order. The row of the invoice and those of
its items have to be there later; before, each item refers to an invoice, as the foreign key
demands. -/
theorem StockTask.recorded_shown {task : StockTask} {dateProvider : DateProvider}
    {initiativeUserId : UInt64} {body : ProductsBody}
    (hparsed : task.ParsedFrom initiativeUserId body) (hintegral : Integral schema tables)
    (hparents : ∀ item ∈ tables .invoiceItem, ∃ invoice ∈ tables .invoice,
      invoice .invoiceId = item .invoiceId) {choices : Nat → Choices} {response : Json}
    (h : (task.transactionTask dateProvider).respond (quietDatabase choices).answers tables =
      ⟨response, .success⟩) {later : Tables}
    (hkept : ∀ id : Int64, response.member "invoice_id" = some (.integer id) →
      ∀ table ∈ [Table.invoice, .invoiceItem], ((later table).filter (hasId .invoiceId id)).Perm
        (((task.transactionTask dateProvider).leaves (quietDatabase choices).answers tables
          table).filter (hasId .invoiceId id))) (hlater : Integral schema later) :
    ∃ id, response.member "invoice_id" = some (.integer id) ∧ ∀ choices : Nat → Choices,
      ∃ object, (GetInvoice.task dateProvider id).respond (quietDatabase choices).answers later =
          ⟨resultJson object, .success⟩ ∧
        (∀ keys ∈ [("invoice_id", "invoice_id"), ("warehouse_to", "warehouse_to"),
          ("warehouse_from", "warehouse_from"), ("name", "invoice_name"),
          ("pretty_name", "invoice_pretty_name"), ("created_date", "invoice_created_date"),
          ("created_by", "invoice_created_by")],
          object.member keys.1 = response.member keys.2) ∧
        object.member "description" =
          (if (task.invoice dateProvider.getTimestamp).description = some "NULL" then none
            else response.member "invoice_description") ∧
        ∃ items products, object.member "items" = some (.array items) ∧
          response.member "products" = some (.array products) ∧
          (items.map fun item => (item.member "product_id", item.member "count")).Perm
            (products.map fun product => (product.member "id", product.member "count")) := by
  obtain ⟨memory, products, ⟨id, row, items, hrow, -, hinvoice, hlisted, hrecorded⟩, hshows,
    hproducts⟩ := exists_records hparsed hintegral h
  rw [hinvoice] at hshows
  have hleft : row ∈ (task.transactionTask dateProvider).leaves (quietDatabase choices).answers
      tables .invoice := by
    rw [hrecorded.invoices]
    exact List.mem_append_right _ List.mem_cons_self
  have hid : hasId .invoiceId id row = true := decide_eq_true hrecorded.rowId
  have hresponse : response.member "invoice_id" = some (.integer id) := by
    rw [hshows.invoiceId, Invoice.inserted, Int64.ofInt_toInt]
    rfl
  -- The row of the invoice and those of its items are still there, the latter in any order.
  have hmem : row ∈ later .invoice :=
    List.mem_of_mem_filter ((hkept id hresponse .invoice (by decide)).mem_iff.mpr
      (List.mem_filter.mpr ⟨hleft, hid⟩))
  have hfound : ((later .invoiceItem).filter (hasId .invoiceId id)).Perm
      (items.map fun item => invoiceItemRow id.toInt item.1.toInt item.2.toInt) := by
    rw [← hrecorded.filter_items hparents]
    exact hkept id hresponse .invoiceItem (by decide)
  refine ⟨id, hresponse, fun choices => ?_⟩
  have hrespond := (@GetInvoice.respond_task later choices hlater id row hmem hid dateProvider
    _).mpr ⟨hrow.readable (hlater.conforms .invoice row hmem), rfl⟩
  obtain ⟨hkeys, hdescription, hitems⟩ := hrow.member_object hrecorded.rowId dateProvider hshows
    (rowsOfId (choices 0) later .invoiceItem .invoiceId id)
  refine ⟨_, hrespond, hkeys, hdescription, _, products, hitems, hshows.products, ?_⟩
  rw [map_members_of_listed hproducts hlisted, List.map_map, rowsOfId]
  refine ((((choices 0).arrange_perm _).trans hfound).map _).trans ?_
  rw [List.map_map]
  refine List.Perm.of_eq (List.map_congr_left fun item _ => ?_)
  exact members_itemObject_invoiceItemRow id item

/-- One more chair and three tables come to the five chairs. -/
def secondArrival : ProductsBody where
  invoiceName := some "second arrival"
  invoiceDescription := some "by rail"
  warehouseTo := some 1
  products :=
    [{ type := some "byid", id := some 1, count := some 1 },
      { name := some "table", description := some "round", count := some 3 }]

/-- The task of this body. -/
def arrivedSecond : StockTask :=
  .productsCreate
    { invoice :=
        { name := some "second arrival", description := some "by rail", warehouseToId := some 1
          createdBy := some 1 }
      products := [{ id := some 1, count := some 1 }]
      productsNew :=
        [{ name := some "table", description := some "round", count := some 3
           createdBy := some 1 }] }

/-- The invoice of the second arrival is shown with its description and with both products. -/
theorem StockTask.recorded_shown_arrivedSecond :
    let database := quietDatabase fun _ => numbered fiveStored
    let response :=
      ((arrivedSecond.transactionTask numericDates).respond database.answers fiveStored).response
    ∃ id object items products, response.member "invoice_id" = some (.integer id) ∧
      (GetInvoice.task numericDates id).respond database.answers
        ((arrivedSecond.transactionTask numericDates).leaves database.answers fiveStored) =
          ⟨resultJson object, .success⟩ ∧
      object.member "description" = response.member "invoice_description" ∧
      object.member "items" = some (.array items) ∧
      response.member "products" = some (.array products) ∧ products.length = 2 ∧
      (items.map fun item => (item.member "product_id", item.member "count")).Perm
        (products.map fun product => (product.member "id", product.member "count")) := by
  intro database response
  have hstored : Reachable (fun _ _ => True) fiveStored :=
    .request _ _ (.request _ _ .initial trivial) trivial
  obtain ⟨hintegral, hposted⟩ := hstored.operationsPosted
  have hsuccess : ((arrivedSecond.transactionTask numericDates).respond database.answers
      fiveStored).result = .success := by
    decide +kernel
  have hparsed : arrivedSecond.ParsedFrom 1 secondArrival := rfl
  obtain ⟨_, _, ⟨_, _, _, _, _, _, _, hrecorded⟩, _⟩ :=
    exists_records hparsed hintegral (eq_mk_of_result hsuccess)
  obtain ⟨id, hid, hshown⟩ := recorded_shown hparsed hintegral hposted.invoices
    (eq_mk_of_result hsuccess) (fun _ _ _ _ => .refl _) hrecorded.integral
  obtain ⟨object, hobject, -, hdescription, items, products, hitems, hproducts, hperm⟩ :=
    hshown fun _ => numbered fiveStored
  have htwo : (response.member "products").map (fun products => products.elements.length) =
      some 2 := by
    decide +kernel
  rw [hproducts] at htwo
  refine ⟨id, object, items, products, hid, hobject, ?_, hitems, hproducts,
    Option.some.inj htwo, hperm⟩
  rw [hdescription, if_neg (by decide)]

end TaskMgr.Tasks

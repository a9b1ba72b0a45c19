import WarehouseAccounting.TaskManager.Tasks.BaseTask
import WarehouseAccounting.TaskManager.Tasks.ProductsBodies
import WarehouseAccounting.Webserver.Session

/-!
# The form for invoices

`InvoiceMaster` of `Invoice.js` and `isProductGood` of `ProductEdit.js`: what the form sends, and
what the three tasks parse from it. Numbers are integers, known by the digits that JavaScript
writes for them.

- `InvoiceMaster.parseInternal_saveInvoice`: the server accepts what the form sends exactly when all
  products are new in an invoice for new products, and no product is new in the other invoices.
- `InvoiceMaster.understood_iff`: then the products are parsed as they were entered when 64 bits
  hold their numbers.
-/

namespace Front

open TaskMgr.Tasks Ws.Session
open Srv.Db.Trsct (Exception required required_eq_ok bind_eq_ok)

/-! ## Objects -/

/-- An object as the server parses it: `JSON.stringify` leaves out the members that are
undefined. -/
def object (members : List (String × Option Json)) : Json :=
  .object (putAll members)

/-- A key that is written once is found again. -/
theorem member_object {members : List (String × Option Json)}
    (hnodup : (members.map Prod.fst).Nodup) (key : String) :
    (object members).member key = (members.lookup key).join :=
  lookup_putAll hnodup key

/-! ## Products -/

/-- A product of the form. One that was selected in the list of the server has more members, which
are not sent. -/
structure Product where
  productId : Option Int := none
  name : Option String := none
  description : Option String := none
  count : Option Int := none
  deriving DecidableEq

/-- The state of `ProductEdit`, as far as a product is checked with it. -/
structure ProductEdit where
  maxCount : Option Int := none

/-- `ProductEdit.isProductGood`. -/
def ProductEdit.isProductGood (edit : ProductEdit) (pr : Product) : Bool :=
  (pr.productId.isSome || pr.name.isSome) &&
    match pr.count with
    | some count => count ≠ 0 && 0 < count && edit.maxCount.all (count ≤ ·)
    | none => false

/-- A good product has a count, and is identified by an id or a name. -/
theorem ProductEdit.isProductGood_eq_true {edit : ProductEdit} {pr : Product}
    (h : edit.isProductGood pr = true) :
    (pr.productId = none → pr.name.isSome = true) ∧ ∃ count, pr.count = some count := by
  rw [isProductGood, Bool.and_eq_true, Bool.or_eq_true] at h
  obtain ⟨hidentified, hcount⟩ := h
  refine ⟨fun hnone => ?_, ?_⟩
  · rw [hnone] at hidentified
    exact hidentified.resolve_left Bool.false_ne_true
  · split at hcount
    · rename_i count heq
      exact ⟨count, heq⟩
    · cases hcount

/-! ## The form -/

/-- `type` of the state. -/
inductive InvoiceType where
  | new
  | move
  | remove
  deriving DecidableEq

/-- `invoice` of the state. -/
structure Invoice where
  invoiceName : Option String := none
  invoiceDescription : Option String := none

/-- The state of `InvoiceMaster`. -/
structure InvoiceMaster where
  type : InvoiceType := .move
  products : List Product := []
  warehouseFromId : Option Int := none
  warehouseToId : Option Int := none
  invoice : Invoice := {}

section Sending

-- How the server reads an integer that no integer type holds.
variable (strtod : Int → UInt64)

/-- What `saveInvoice` makes of a product. -/
def Product.data (pr : Product) : Json :=
  let number := Json.ofInteger strtod
  match pr.productId with
  | some productId => object [("id", some (number productId)), ("count", pr.count.map number)]
  | none =>
    object [("name", pr.name.map .string), ("description", pr.description.map .string),
      ("count", pr.count.map number)]

namespace InvoiceMaster

variable (master : InvoiceMaster)

/-- `isInvoiceGood`. -/
def isInvoiceGood (inv : Invoice) : Bool :=
  inv.invoiceName.isSome &&
    (match master.type with
    | .new => master.warehouseToId.isSome
    | .move => master.warehouseToId.isSome && master.warehouseFromId.isSome
    | .remove => master.warehouseFromId.isSome) &&
    master.products.length ≠ 0

/-- The members that `saveInvoice` sends for every type. An empty description is not sent. -/
def data : List (String × Option Json) :=
  [("invoice_name", master.invoice.invoiceName.map .string),
    ("invoice_description",
      (master.invoice.invoiceDescription.filter (· ≠ "")).map .string),
    ("products", some (.array (master.products.map (Product.data strtod))))]

/-- `saveInvoice`: the target and the body of the request, if there is one. -/
def saveInvoice : Option (String × Json) :=
  let warehouseTo := ("warehouse_to", master.warehouseToId.map (Json.ofInteger strtod))
  let warehouseFrom := ("warehouse_from", master.warehouseFromId.map (Json.ofInteger strtod))
  if master.isInvoiceGood master.invoice then
    match master.type with
    | .new => some ("/api/products/create", object (master.data strtod ++ [warehouseTo]))
    | .move =>
      some ("/api/products/move", object (master.data strtod ++ [warehouseTo, warehouseFrom]))
    | .remove => some ("/api/products/remove", object (master.data strtod ++ [warehouseFrom]))
  else
    none

end InvoiceMaster

end Sending

/-! ## The server -/

/-- The `ParseInternal` of the task that a target names. -/
def parseInternal (initiativeUserId : UInt64) (target : String) (body : Json) :
    Except Exception ProductsTask :=
  match parseTaskIdentificator target .post with
  | .ok .productsCreate => ProductsCreate.parseInternal initiativeUserId body
  | .ok .productsMove => ProductsMove.parseInternal initiativeUserId body
  | .ok .productsRemove => ProductsRemove.parseInternal initiativeUserId body
  | _ => .error .other

namespace InvoiceMaster

/-- What the form sends is accepted, and the products are parsed as they were entered. -/
def Understood (strtod : Int → UInt64) (initiativeUserId : UInt64) (master : InvoiceMaster) :
    Prop :=
  ∃ target body task, master.saveInvoice strtod = some (target, body) ∧
    parseInternal initiativeUserId target body = .ok task ∧
    task.products.map (fun product =>
        (product.id.map Int64.toInt, product.count.map Int64.toInt)) =
      (master.products.filter fun pr => pr.productId.isSome).map (fun pr =>
        (pr.productId, pr.count)) ∧
    task.productsNew.map (fun product =>
        (product.name, product.description, product.count.map Int64.toInt)) =
      (master.products.filter fun pr => !pr.productId.isSome).map (fun pr =>
        (pr.name, pr.description, pr.count))

end InvoiceMaster

/-! ## Products on the way -/

section Reading

variable (strtod : Int → UInt64)

/-- What the server reads of a product. -/
def Product.body (pr : Product) : ProductBody :=
  match pr.productId with
  | some productId =>
    { id := some (Json.readInteger strtod productId)
      count := pr.count.map (Json.readInteger strtod) }
  | none =>
    { name := pr.name
      description := pr.description
      count := pr.count.map (Json.readInteger strtod) }

variable {pr : Product} {count : Int} (hcount : pr.count = some count)

include hcount

/-- `ProductsMove` and `ProductsRemove` take the products that have an id. -/
theorem Product.readExisting_data (result : ProductBody) :
    ProductBody.readExisting (pr.data strtod) = .ok result ↔
      pr.productId.isSome = true ∧ result = pr.body strtod := by
  unfold data body
  rw [hcount]
  cases hid : pr.productId with
  | none =>
    refine iff_of_false (fun h => ?_) fun h => Bool.false_ne_true h.1
    obtain ⟨id, hid', -⟩ := bind_eq_ok.mp h
    rw [Json.get_eq_ok, member_object (by simp)] at hid'
    cases hid'
  | some productId =>
    have hread : ProductBody.readExisting (object
        [("id", some (Json.ofInteger strtod productId)),
          ("count", some (Json.ofInteger strtod count))]) =
        .ok { id := some (Json.readInteger strtod productId)
              count := some (Json.readInteger strtod count) } := by
      rw [ProductBody.readExisting,
        Json.get_eq_ok.mpr (by
          rw [member_object (by simp)]
          exact Json.getInt64_ofInteger strtod productId),
        Json.get_eq_ok.mpr (by
          rw [member_object (by simp)]
          exact Json.getInt64_ofInteger strtod count)]
      rfl
    show ProductBody.readExisting (object _) = .ok result ↔ _
    rw [Option.map_some, hread, Except.ok.injEq, eq_comm]
    exact (and_iff_right rfl).symm

/-- `ProductsCreate` takes the products that have a name, since none of them has a type. -/
theorem Product.readCreated_data (hname : pr.productId = none → pr.name.isSome = true)
    (result : ProductBody) :
    ProductBody.readCreated (pr.data strtod) = .ok result ↔
      (!pr.productId.isSome) = true ∧ result = pr.body strtod := by
  unfold data body
  rw [hcount]
  cases hid : pr.productId with
  | none =>
    obtain ⟨name, hname⟩ := Option.isSome_iff_exists.mp (hname hid)
    have hread : ProductBody.readCreated (object [("name", pr.name.map .string),
          ("description", pr.description.map .string),
          ("count", some (Json.ofInteger strtod count))]) =
        .ok { name := pr.name
              description := pr.description
              count := some (Json.readInteger strtod count) } := by
      have hdescription : Json.getOptional Json.getString (object
          [("name", pr.name.map .string), ("description", pr.description.map .string),
            ("count", some (Json.ofInteger strtod count))]) "description" =
          .ok pr.description := by
        cases hdescription : pr.description with
        | none => exact Json.getOptional_of_none _ (by rw [member_object (by simp)]; rfl)
        | some description =>
          exact Json.getOptional_of_some (by rw [member_object (by simp)]; rfl) rfl
      rw [ProductBody.readCreated, member_object (by simp)]
      show ProductBody.readNew _ = _
      rw [ProductBody.readNew, hdescription,
        Json.get_eq_ok.mpr (by
          rw [member_object (by simp), hname]
          rfl),
        Json.get_eq_ok.mpr (by
          rw [member_object (by simp)]
          exact Json.getInt64_ofInteger strtod count),
        Json.getOptional_of_none _ (by rw [member_object (by simp)]; rfl),
        Json.getOptional_of_none _ (by rw [member_object (by simp)]; rfl), hname]
      rfl
    show ProductBody.readCreated (object _) = .ok result ↔ _
    rw [Option.map_some, hread, Except.ok.injEq, eq_comm]
    exact (and_iff_right rfl).symm
  | some productId =>
    refine iff_of_false (fun h => ?_) fun h => Bool.false_ne_true h.1
    -- An element without a type is new, and has a name.
    rw [ProductBody.readCreated, member_object (by simp)] at h
    obtain ⟨name, hname, -⟩ := bind_eq_ok.mp (show ProductBody.readNew _ = .ok result from h)
    rw [Json.get_eq_ok, member_object (by simp)] at hname
    cases hname

end Reading

section Tasks

variable (strtod : Int → UInt64) (pr : Product)

/-- A new product of a task. -/
def Product.created (initiativeUserId : UInt64) : TaskMgr.Tasks.Product where
  name := pr.name
  description := pr.description
  count := pr.count.map (Json.readInteger strtod)
  createdBy := some initiativeUserId

/-- A product of a task that is there already. -/
def Product.listed : TaskMgr.Tasks.Product where
  id := pr.productId.map (Json.readInteger strtod)
  count := pr.count.map (Json.readInteger strtod)

variable {pr}

/-- What `ProductsCreate` makes of a product. -/
theorem Product.parseNew_body {edit : ProductEdit} (hgood : edit.isProductGood pr = true)
    (hnew : pr.productId = none) (initiativeUserId : UInt64) :
    (pr.body strtod).type = none ∧ (pr.body strtod).parseNew initiativeUserId =
      .ok (pr.created strtod initiativeUserId) := by
  obtain ⟨hname, count, hcount⟩ := ProductEdit.isProductGood_eq_true hgood
  obtain ⟨name, hname⟩ := Option.isSome_iff_exists.mp (hname hnew)
  have hbody : pr.body strtod =
      { name := pr.name, description := pr.description
        count := pr.count.map (Json.readInteger strtod) } := by
    rw [body, hnew]
  rw [hbody, ProductBody.parseNew_of_some hname
    (congrArg (Option.map (Json.readInteger strtod)) hcount)]
  exact ⟨rfl, rfl⟩

/-- What the other two tasks make of a product. -/
theorem Product.parseExisting_body {edit : ProductEdit} (hgood : edit.isProductGood pr = true)
    (hlisted : pr.productId.isSome = true) :
    (pr.body strtod).parseExisting = .ok (pr.listed strtod) := by
  obtain ⟨-, count, hcount⟩ := ProductEdit.isProductGood_eq_true hgood
  obtain ⟨productId, hid⟩ := Option.isSome_iff_exists.mp hlisted
  rw [body, listed, hid, hcount]
  rfl

end Tasks

/-- A number that the server has read is the one that was entered when 64 bits hold it. -/
theorem map_readInteger_iff (strtod : Int → UInt64) (value : Option Int) :
    (value.map (Json.readInteger strtod)).map Int64.toInt = value ↔
      ∀ number, value = some number → Json.fitsInt64 number = true := by
  cases value with
  | none => exact iff_of_true rfl fun number h => by cases h
  | some number =>
    rw [Option.map_some, Option.map_some, Option.some.injEq, Json.toInt_readInteger_iff]
    exact ⟨fun h other hother => Option.some.inj hother ▸ h, fun h => h number rfl⟩

/-- The numbers of a product are 64-bit integers. -/
structure Product.Fits (pr : Product) : Prop where
  productId : ∀ number, pr.productId = some number → Json.fitsInt64 number = true
  count : ∀ number, pr.count = some number → Json.fitsInt64 number = true

/-! ## Invoices on the way -/

namespace InvoiceMaster

section Parsing

variable (strtod : Int → UInt64) (initiativeUserId : UInt64) (master : InvoiceMaster)

/-- The description as it is sent. -/
def description : Option String := master.invoice.invoiceDescription.filter (· ≠ "")

/-- The invoice of a task. -/
def parsedInvoice (warehouseTo warehouseFrom : Option Int) : TaskMgr.Tasks.Invoice where
  name := master.invoice.invoiceName
  description := master.description
  warehouseToId := warehouseTo.map (Json.readInteger strtod)
  warehouseFromId := warehouseFrom.map (Json.readInteger strtod)
  createdBy := some initiativeUserId

/-- Every product passes the check of `ProductEdit`. -/
def ProductsGood : Prop :=
  ∀ pr ∈ master.products, ∃ edit : ProductEdit, edit.isProductGood pr = true

variable {strtod initiativeUserId master}

/-- What the three tasks find in every body. -/
theorem read_data {warehouses : List (String × Option Json)}
    (hnodup : ((master.data strtod ++ warehouses).map Prod.fst).Nodup) {name : String}
    (hname : master.invoice.invoiceName = some name) :
    Json.get Json.getString (object (master.data strtod ++ warehouses)) "invoice_name" =
        .ok name ∧
      Json.getOptional Json.getString (object (master.data strtod ++ warehouses))
        "invoice_description" = .ok master.description ∧
      ∀ read, readProducts read (object (master.data strtod ++ warehouses)) =
        master.products.mapM fun pr => read (pr.data strtod) := by
  refine ⟨Json.get_eq_ok.mpr ?_, ?_, fun read => ?_⟩
  · rw [member_object hnodup, data, hname]
    rfl
  · have hmember : (object (master.data strtod ++ warehouses)).member "invoice_description" =
        master.description.map .string := member_object hnodup _
    cases hdescription : master.description with
    | none => exact Json.getOptional_of_none _ (by rw [hmember, hdescription]; rfl)
    | some description =>
      exact Json.getOptional_of_some (by rw [hmember, hdescription]; rfl) rfl
  · rw [readProducts, member_object hnodup]
    show (master.products.map (Product.data strtod)).mapM read = _
    exact List.mapM_map

/-- The products of `ProductsCreate`. -/
theorem readProducts_created (hproducts : master.ProductsGood) {bodies : List ProductBody} :
    (master.products.mapM fun pr => ProductBody.readCreated (pr.data strtod)) = .ok bodies ↔
      (∀ pr ∈ master.products, (!pr.productId.isSome) = true) ∧
        bodies = master.products.map (Product.body strtod) :=
  Exceptions.mapM_eq_ok_of_forall_iff fun pr hpr result => by
    obtain ⟨edit, hedit⟩ := hproducts pr hpr
    obtain ⟨hname, count, hcount⟩ := ProductEdit.isProductGood_eq_true hedit
    exact pr.readCreated_data strtod hcount hname result

/-- The products of the other two tasks. -/
theorem readProducts_listed (hproducts : master.ProductsGood) {bodies : List ProductBody} :
    (master.products.mapM fun pr => ProductBody.readExisting (pr.data strtod)) = .ok bodies ↔
      (∀ pr ∈ master.products, pr.productId.isSome = true) ∧
        bodies = master.products.map (Product.body strtod) :=
  Exceptions.mapM_eq_ok_of_forall_iff fun pr hpr result => by
    obtain ⟨edit, hedit⟩ := hproducts pr hpr
    obtain ⟨-, count, hcount⟩ := ProductEdit.isProductGood_eq_true hedit
    exact pr.readExisting_data strtod hcount result

/-- A warehouse is an integer. -/
theorem read_warehouse {warehouses : List (String × Option Json)} {key : String}
    {warehouse : Int} (hnodup : ((master.data strtod ++ warehouses).map Prod.fst).Nodup)
    (hlookup : (master.data strtod ++ warehouses).lookup key =
      some (some (Json.ofInteger strtod warehouse))) :
    Json.get Json.getInt64 (object (master.data strtod ++ warehouses)) key =
      .ok (Json.readInteger strtod warehouse) := by
  rw [Json.get_eq_ok, member_object hnodup, hlookup]
  exact Json.getInt64_ofInteger strtod warehouse

/-- New products are parsed as they were entered. -/
theorem ProductsGood.parseNew (hproducts : master.ProductsGood)
    (hall : ∀ pr ∈ master.products, (!pr.productId.isSome) = true) :
    ∀ pr ∈ master.products, (pr.body strtod).type = none ∧
      (pr.body strtod).parseNew initiativeUserId = .ok (pr.created strtod initiativeUserId) := by
  intro pr hpr
  obtain ⟨edit, hedit⟩ := hproducts pr hpr
  exact pr.parseNew_body strtod hedit (by simpa using hall pr hpr) initiativeUserId

/-- So are the others. -/
theorem ProductsGood.parseExisting (hproducts : master.ProductsGood)
    (hall : ∀ pr ∈ master.products, pr.productId.isSome = true) :
    ∀ pr ∈ master.products, (pr.body strtod).parseExisting = .ok (pr.listed strtod) := by
  intro pr hpr
  obtain ⟨edit, hedit⟩ := hproducts pr hpr
  exact pr.parseExisting_body strtod hedit (hall pr hpr)

/-- A computation that goes on with the products of a body, and then cannot fail. -/
theorem products_bind_eq_ok {read : Product → Except Exception ProductBody} {ends : Product → Bool}
    {next : List ProductBody → Except Exception ProductsTask} {task parsed : ProductsTask}
    (hread : ∀ bodies, master.products.mapM read = .ok bodies ↔
      (∀ pr ∈ master.products, ends pr = true) ∧
        bodies = master.products.map (Product.body strtod))
    (hnext : (∀ pr ∈ master.products, ends pr = true) →
      next (master.products.map (Product.body strtod)) = .ok parsed) :
    (master.products.mapM read >>= next) = .ok task ↔
      (∀ pr ∈ master.products, ends pr = true) ∧ task = parsed := by
  rw [bind_eq_ok]
  constructor
  · rintro ⟨bodies, hbodies, htask⟩
    obtain ⟨hall, rfl⟩ := (hread bodies).mp hbodies
    rw [hnext hall] at htask
    exact ⟨hall, (Except.ok.inj htask).symm⟩
  · rintro ⟨hall, rfl⟩
    exact ⟨_, (hread _).mpr ⟨hall, rfl⟩, hnext hall⟩

/-- What `ProductsCreate` parses. -/
theorem parseInternal_create {name : String} {warehouseTo : Int}
    (hname : master.invoice.invoiceName = some name)
    (hto : master.warehouseToId = some warehouseTo) (hproducts : master.ProductsGood)
    (task : ProductsTask) :
    ProductsCreate.parseInternal initiativeUserId (object (master.data strtod ++
        [("warehouse_to", master.warehouseToId.map (Json.ofInteger strtod))])) = .ok task ↔
      (∀ pr ∈ master.products, (!pr.productId.isSome) = true) ∧
        task = {
          invoice := master.parsedInvoice strtod initiativeUserId master.warehouseToId none
          products := []
          productsNew := master.products.map (Product.created strtod · initiativeUserId) } := by
  have hnodup : ((master.data strtod ++ [("warehouse_to",
      master.warehouseToId.map (Json.ofInteger strtod))]).map Prod.fst).Nodup := by
    simp [data]
  obtain ⟨hinvoice, hdescription, hread⟩ := read_data hnodup hname
  unfold ProductsCreate.parseInternal
  rw [hinvoice, hdescription, hread, read_warehouse hnodup (by rw [hto]; rfl)]
  refine products_bind_eq_ok (fun bodies => readProducts_created hproducts) fun hall => ?_
  rw [parsedInvoice, hname, hto]
  exact ProductsTask.foldlM_of_new (hproducts.parseNew hall) _

/-- What `ProductsMove` parses. -/
theorem parseInternal_move {name : String} {warehouseTo warehouseFrom : Int}
    (hname : master.invoice.invoiceName = some name)
    (hto : master.warehouseToId = some warehouseTo)
    (hfrom : master.warehouseFromId = some warehouseFrom) (hproducts : master.ProductsGood)
    (task : ProductsTask) :
    ProductsMove.parseInternal initiativeUserId (object (master.data strtod ++
        [("warehouse_to", master.warehouseToId.map (Json.ofInteger strtod)),
          ("warehouse_from", master.warehouseFromId.map (Json.ofInteger strtod))])) = .ok task ↔
      (∀ pr ∈ master.products, pr.productId.isSome = true) ∧
        task = {
          invoice := master.parsedInvoice strtod initiativeUserId master.warehouseToId
            master.warehouseFromId
          products := master.products.map (Product.listed strtod) } := by
  have hnodup : ((master.data strtod ++
      [("warehouse_to", master.warehouseToId.map (Json.ofInteger strtod)),
        ("warehouse_from", master.warehouseFromId.map
          (Json.ofInteger strtod))]).map Prod.fst).Nodup := by
    simp [data]
  obtain ⟨hinvoice, hdescription, hread⟩ := read_data hnodup hname
  unfold ProductsMove.parseInternal
  rw [hinvoice, hdescription, hread, read_warehouse hnodup (by rw [hto]; rfl),
    read_warehouse hnodup (by rw [hfrom]; rfl)]
  refine products_bind_eq_ok (fun bodies => readProducts_listed hproducts) fun hall => ?_
  rw [parsedInvoice, hname, hto, hfrom]
  unfold ProductsTask.parseMove
  rw [ProductsTask.mapM_of_existing (hproducts.parseExisting hall)]
  rfl

/-- What `ProductsRemove` parses. -/
theorem parseInternal_remove {name : String} {warehouseFrom : Int}
    (hname : master.invoice.invoiceName = some name)
    (hfrom : master.warehouseFromId = some warehouseFrom) (hproducts : master.ProductsGood)
    (task : ProductsTask) :
    ProductsRemove.parseInternal initiativeUserId (object (master.data strtod ++
        [("warehouse_from", master.warehouseFromId.map (Json.ofInteger strtod))])) = .ok task ↔
      (∀ pr ∈ master.products, pr.productId.isSome = true) ∧
        task = {
          invoice := master.parsedInvoice strtod initiativeUserId none master.warehouseFromId
          products := master.products.map (Product.listed strtod) } := by
  have hnodup : ((master.data strtod ++ [("warehouse_from",
      master.warehouseFromId.map (Json.ofInteger strtod))]).map Prod.fst).Nodup := by
    simp [data]
  obtain ⟨hinvoice, hdescription, hread⟩ := read_data hnodup hname
  unfold ProductsRemove.parseInternal
  rw [hinvoice, hdescription, hread, read_warehouse hnodup (by rw [hfrom]; rfl)]
  refine products_bind_eq_ok (fun bodies => readProducts_listed hproducts) fun hall => ?_
  rw [parsedInvoice, hname, hfrom]
  unfold ProductsTask.parseRemove
  rw [ProductsTask.mapM_of_existing (hproducts.parseExisting hall)]
  rfl

end Parsing

section Agreement

variable {strtod : Int → UInt64} {initiativeUserId : UInt64} {master : InvoiceMaster}

/-- The products are new in an invoice for new products, and there already in the others. -/
def Separate (master : InvoiceMaster) : Prop :=
  ∀ pr ∈ master.products, (pr.productId.isSome = true ↔ master.type ≠ .new)

/-- A task with the products of the form by their kind. -/
def parsedTask (strtod : Int → UInt64) (initiativeUserId : UInt64) (master : InvoiceMaster)
    (invoice : TaskMgr.Tasks.Invoice) : ProductsTask where
  invoice
  products := (master.products.filter fun pr => pr.productId.isSome).map (Product.listed strtod)
  productsNew := (master.products.filter fun pr => !pr.productId.isSome).map
    (Product.created strtod · initiativeUserId)

/-- Products that are all new. -/
theorem parsedTask_of_new {invoice : TaskMgr.Tasks.Invoice}
    (h : ∀ pr ∈ master.products, (!pr.productId.isSome) = true) :
    parsedTask strtod initiativeUserId master invoice =
      { invoice, products := []
        productsNew := master.products.map (Product.created strtod · initiativeUserId) } := by
  rw [parsedTask, List.filter_eq_self.mpr h, List.filter_eq_nil_iff.mpr (by simpa using h)]
  rfl

/-- Products that are all there already. -/
theorem parsedTask_of_listed {invoice : TaskMgr.Tasks.Invoice}
    (h : ∀ pr ∈ master.products, pr.productId.isSome = true) :
    parsedTask strtod initiativeUserId master invoice =
      { invoice, products := master.products.map (Product.listed strtod) } := by
  have hnone : ∀ pr ∈ master.products, ¬ (!pr.productId.isSome) = true := by
    intro pr hpr
    rw [h pr hpr]
    exact Bool.false_ne_true
  rw [parsedTask, List.filter_eq_self.mpr h, List.filter_eq_nil_iff.mpr hnone]
  rfl

/-- A good invoice is sent, and its products are parsed in two lists when the kinds are those that
the task expects; otherwise the request is refused. -/
theorem parseInternal_saveInvoice (strtod : Int → UInt64) (initiativeUserId : UInt64)
    (hgood : master.isInvoiceGood master.invoice = true) (hproducts : master.ProductsGood) :
    ∃ target body invoice, master.saveInvoice strtod = some (target, body) ∧
      ∀ task, parseInternal initiativeUserId target body = .ok task ↔
        master.Separate ∧ task = parsedTask strtod initiativeUserId master invoice := by
  obtain ⟨⟨hname, hwarehouses⟩, -⟩ := by
    simpa only [isInvoiceGood, Bool.and_eq_true] using hgood
  obtain ⟨name, hname⟩ := Option.isSome_iff_exists.mp hname
  unfold saveInvoice
  rw [if_pos hgood]
  cases htype : master.type with
  | new =>
    rw [htype] at hwarehouses
    obtain ⟨warehouseTo, hto⟩ := Option.isSome_iff_exists.mp hwarehouses
    have hseparate : master.Separate ↔
        ∀ pr ∈ master.products, (!pr.productId.isSome) = true := by
      simp [Separate, htype]
    refine ⟨_, _, master.parsedInvoice strtod initiativeUserId master.warehouseToId none, rfl,
      fun task => ?_⟩
    show ProductsCreate.parseInternal initiativeUserId _ = .ok task ↔ _
    rw [parseInternal_create hname hto hproducts task, hseparate]
    exact and_congr_right fun h => by rw [parsedTask_of_new h]
  | move =>
    rw [htype, Bool.and_eq_true] at hwarehouses
    obtain ⟨warehouseTo, hto⟩ := Option.isSome_iff_exists.mp hwarehouses.1
    obtain ⟨warehouseFrom, hfrom⟩ := Option.isSome_iff_exists.mp hwarehouses.2
    have hseparate : master.Separate ↔ ∀ pr ∈ master.products, pr.productId.isSome = true := by
      simp [Separate, htype]
    refine ⟨_, _, master.parsedInvoice strtod initiativeUserId master.warehouseToId
      master.warehouseFromId, rfl, fun task => ?_⟩
    show ProductsMove.parseInternal initiativeUserId _ = .ok task ↔ _
    rw [parseInternal_move hname hto hfrom hproducts task, hseparate]
    exact and_congr_right fun h => by rw [parsedTask_of_listed h]
  | remove =>
    rw [htype] at hwarehouses
    obtain ⟨warehouseFrom, hfrom⟩ := Option.isSome_iff_exists.mp hwarehouses
    have hseparate : master.Separate ↔ ∀ pr ∈ master.products, pr.productId.isSome = true := by
      simp [Separate, htype]
    refine ⟨_, _, master.parsedInvoice strtod initiativeUserId none master.warehouseFromId, rfl,
      fun task => ?_⟩
    show ProductsRemove.parseInternal initiativeUserId _ = .ok task ↔ _
    rw [parseInternal_remove hname hfrom hproducts task, hseparate]
    exact and_congr_right fun h => by rw [parsedTask_of_listed h]

/-- The products are read back from the task exactly when their numbers fit. -/
theorem parsedTask_same_iff {invoice : TaskMgr.Tasks.Invoice} :
    ((parsedTask strtod initiativeUserId master invoice).products.map (fun product =>
          (product.id.map Int64.toInt, product.count.map Int64.toInt)) =
        (master.products.filter fun pr => pr.productId.isSome).map (fun pr =>
          (pr.productId, pr.count)) ∧
      (parsedTask strtod initiativeUserId master invoice).productsNew.map (fun product =>
          (product.name, product.description, product.count.map Int64.toInt)) =
        (master.products.filter fun pr => !pr.productId.isSome).map (fun pr =>
          (pr.name, pr.description, pr.count))) ↔
      ∀ pr ∈ master.products, pr.Fits := by
  have hlisted : ∀ pr : Product, (((pr.listed strtod).id.map Int64.toInt,
      (pr.listed strtod).count.map Int64.toInt) = (pr.productId, pr.count) ↔ pr.Fits) := by
    intro pr
    rw [Prod.mk.injEq, Product.listed, map_readInteger_iff, map_readInteger_iff]
    exact ⟨fun h => ⟨h.1, h.2⟩, fun h => ⟨h.productId, h.count⟩⟩
  have hcreated : ∀ pr : Product, pr.productId = none →
      (((pr.created strtod initiativeUserId).name, (pr.created strtod initiativeUserId).description,
        (pr.created strtod initiativeUserId).count.map Int64.toInt) =
          (pr.name, pr.description, pr.count) ↔ pr.Fits) := by
    intro pr hnone
    rw [Prod.mk.injEq, Prod.mk.injEq, Product.created, map_readInteger_iff]
    refine ⟨fun h => ⟨fun number hid => ?_, h.2.2⟩, fun h => ⟨rfl, rfl, h.count⟩⟩
    rw [hnone] at hid
    cases hid
  rw [parsedTask, List.map_map, List.map_map, List.map_inj_left, List.map_inj_left]
  constructor
  · rintro ⟨hexisting, hnew⟩ pr hpr
    cases hid : pr.productId with
    | none =>
      exact (hcreated pr hid).mp (hnew pr (List.mem_filter.mpr ⟨hpr, by rw [hid]; rfl⟩))
    | some productId =>
      exact (hlisted pr).mp (hexisting pr (List.mem_filter.mpr ⟨hpr, by rw [hid]; rfl⟩))
  · intro h
    refine ⟨fun pr hpr => (hlisted pr).mpr (h pr (List.mem_filter.mp hpr).1), fun pr hpr => ?_⟩
    obtain ⟨hmem, hnone⟩ := List.mem_filter.mp hpr
    exact (hcreated pr (by simpa using hnone)).mpr (h pr hmem)

/-- The server accepts an invoice of the form and parses its products as they were entered exactly
when an invoice for new products has no product that is there already, the others have no new
products, and the numbers of the products are 64-bit integers. -/
theorem understood_iff (strtod : Int → UInt64) (initiativeUserId : UInt64)
    (hgood : master.isInvoiceGood master.invoice = true) (hproducts : master.ProductsGood) :
    Understood strtod initiativeUserId master ↔
      master.Separate ∧ ∀ pr ∈ master.products, pr.Fits := by
  obtain ⟨target, body, invoice, hsave, hparse⟩ :=
    parseInternal_saveInvoice strtod initiativeUserId hgood hproducts
  rw [← @parsedTask_same_iff strtod initiativeUserId master invoice]
  constructor
  · rintro ⟨target', body', task, hsave', hparse', hsame⟩
    obtain ⟨rfl, rfl⟩ := Prod.mk.inj (Option.some.inj (hsave.symm.trans hsave'))
    obtain ⟨hseparate, rfl⟩ := (hparse task).mp hparse'
    exact ⟨hseparate, hsame⟩
  · rintro ⟨hseparate, hsame⟩
    exact ⟨target, body, _, hsave, (hparse _).mpr ⟨hseparate, rfl⟩, hsame⟩

end Agreement

/-! ## Two invoices -/

/-- An invoice for two new products. -/
def newProducts : InvoiceMaster where
  type := .new
  products :=
    [{ name := some "chair", count := some 4 },
      { name := some "table", description := some "round", count := some 1 }]
  warehouseToId := some 1
  invoice := { invoiceName := some "delivery" }

/-- It is understood. -/
theorem understood_iff_newProducts :
    Understood (fun _ => 0) 1 newProducts ↔
      newProducts.Separate ∧ ∀ pr ∈ newProducts.products, pr.Fits :=
  understood_iff _ 1 (by decide) fun pr hpr => ⟨{}, by
    rcases List.mem_pair.mp hpr with rfl | rfl
    · decide
    · decide⟩

/-- The same with a product that is there already. -/
def knownProducts : InvoiceMaster where
  type := .new
  products := [{ productId := some 5, count := some 4 }]
  warehouseToId := some 1
  invoice := { invoiceName := some "delivery" }

/-- It is not understood. -/
theorem knownProducts_not_understood :
    ¬ ∀ (strtod : Int → UInt64) (initiativeUserId : UInt64) (master : InvoiceMaster),
      master.isInvoiceGood master.invoice = true → master.ProductsGood →
        Understood strtod initiativeUserId master := by
  intro hclaim
  have hgood : knownProducts.ProductsGood := fun pr hpr => ⟨{}, by
    obtain rfl := List.mem_singleton.mp hpr
    decide⟩
  obtain ⟨target, body, task, hsave, hparse, -⟩ :=
    hclaim (fun _ => 0) 1 knownProducts (by decide) hgood
  obtain ⟨target', body', invoice, hsave', hparse'⟩ :=
    parseInternal_saveInvoice (fun _ => 0) 1 (by decide) hgood
  obtain ⟨rfl, rfl⟩ := Prod.mk.inj (Option.some.inj (hsave.symm.trans hsave'))
  obtain ⟨hseparate, -⟩ := (hparse' task).mp hparse
  exact (hseparate _ List.mem_cons_self).mp rfl rfl

end InvoiceMaster

end Front

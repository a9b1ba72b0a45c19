import WarehouseAccounting.Foundations.Exceptions
import WarehouseAccounting.Foundations.Json
import WarehouseAccounting.TaskManager.Tasks.ProductsTasks

/-!
# The bodies of requests for products

`ParseInternal` of `ProductsCreate`, `ProductsMove` and `ProductsRemove` from the JSON document of
a request on, with `Get` and `GetOptional` of `json_helpers.h`.

- `ProductBody.readCreated`: an element is dispatched on its optional type.
- `ProductsTask.foldlM_of_new`, `ProductsTask.mapM_of_existing`: products that are all new, or all
  there already, are kept in their order.
-/

/-! ## Members -/

namespace Json

open Srv.Db.Trsct

/-- `util::json::Get`: `at` throws when there is no such member, and `get` when it is of another
type. -/
def get {α : Type} (read : Json → Option α) (json : Json) (key : String) : Except Exception α :=
  required ((json.member key).bind read)

/-- `util::json::GetOptional`: a member of another type throws. -/
def getOptional {α : Type} (read : Json → Option α) (json : Json) (key : String) :
    Except Exception (Option α) :=
  match json.member key with
  | some value => some <$> required (read value)
  | none => .ok none

/-- A member is read as what it is. -/
theorem get_eq_ok {α : Type} {read : Json → Option α} {json : Json} {key : String} {value : α} :
    get read json key = .ok value ↔ (json.member key).bind read = some value :=
  required_eq_ok

/-- A member that is not there is none. -/
theorem getOptional_of_none {α : Type} (read : Json → Option α) {json : Json} {key : String}
    (h : json.member key = none) : getOptional read json key = .ok none := by
  rw [getOptional, h]

/-- A member that is there is read as what it is. -/
theorem getOptional_of_some {α : Type} {read : Json → Option α} {json member : Json}
    {key : String} {value : α} (h : json.member key = some member)
    (hread : read member = some value) : getOptional read json key = .ok (some value) := by
  rw [getOptional, h]
  show some <$> required (read member) = .ok (some value)
  rw [hread]
  rfl

end Json

namespace TaskMgr.Tasks

open Ufa Srv.Db Srv.Db.Trsct

/-! ## Products -/

namespace ProductBody

/-- A new product of a body. -/
def readNew (productJson : Json) : Except Exception ProductBody := do
  let name ← Json.get Json.getString productJson "name"
  let description ← Json.getOptional Json.getString productJson "description"
  let mainColor ← Json.getOptional Json.getInt64 productJson "main_color"
  let mainColorName ← Json.getOptional Json.getString productJson "main_color_name"
  let count ← Json.get Json.getInt64 productJson "count"
  return { name := some name, description, mainColor, mainColorName, count := some count }

/-- A product of a body that is there already. -/
def readExisting (productJson : Json) : Except Exception ProductBody := do
  let id ← Json.get Json.getInt64 productJson "id"
  let count ← Json.get Json.getInt64 productJson "count"
  return { id := some id, count := some count }

/-- An element of the products of `ProductsCreate`. -/
def readCreated (productJson : Json) : Except Exception ProductBody :=
  match productJson.member "type" with
  | none | some (.string "new") => readNew productJson
  | some (.string "byid") => do
    return { ← readExisting productJson with type := some "byid" }
  | _ => throw .other

end ProductBody

/-- The products of a body. -/
def readProducts (read : Json → Except Exception ProductBody) (json : Json) :
    Except Exception (List ProductBody) :=
  match json.member "products" with
  | some (.array elements) => elements.mapM read
  | _ => throw .other

/-! ## Bodies -/

/-- `ProductsCreate::ParseInternal`. -/
def ProductsCreate.parseInternal (initiativeUserId : UInt64) (json : Json) :
    Except Exception ProductsTask := do
  let invoiceName ← Json.get Json.getString json "invoice_name"
  let invoiceDescription ← Json.getOptional Json.getString json "invoice_description"
  let warehouseTo ← Json.get Json.getInt64 json "warehouse_to"
  let products ← readProducts ProductBody.readCreated json
  ProductsTask.parseCreate initiativeUserId
    { invoiceName := some invoiceName, invoiceDescription, warehouseTo := some warehouseTo
      products }

/-- `ProductsMove::ParseInternal`. -/
def ProductsMove.parseInternal (initiativeUserId : UInt64) (json : Json) :
    Except Exception ProductsTask := do
  let invoiceName ← Json.get Json.getString json "invoice_name"
  let invoiceDescription ← Json.getOptional Json.getString json "invoice_description"
  let warehouseTo ← Json.get Json.getInt64 json "warehouse_to"
  let warehouseFrom ← Json.get Json.getInt64 json "warehouse_from"
  let products ← readProducts ProductBody.readExisting json
  ProductsTask.parseMove initiativeUserId
    { invoiceName := some invoiceName, invoiceDescription, warehouseTo := some warehouseTo
      warehouseFrom := some warehouseFrom, products }

/-- `ProductsRemove::ParseInternal`. -/
def ProductsRemove.parseInternal (initiativeUserId : UInt64) (json : Json) :
    Except Exception ProductsTask := do
  let invoiceName ← Json.get Json.getString json "invoice_name"
  let invoiceDescription ← Json.getOptional Json.getString json "invoice_description"
  let warehouseFrom ← Json.get Json.getInt64 json "warehouse_from"
  let products ← readProducts ProductBody.readExisting json
  ProductsTask.parseRemove initiativeUserId
    { invoiceName := some invoiceName, invoiceDescription, warehouseFrom := some warehouseFrom
      products }

/-! ## What is parsed -/

/-- A new product with a name and a count. -/
theorem ProductBody.parseNew_of_some {body : ProductBody} {name : String} {count : Int64}
    (hname : body.name = some name) (hcount : body.count = some count)
    (initiativeUserId : UInt64) :
    body.parseNew initiativeUserId = .ok {
      name := body.name
      description := body.description
      mainColor := body.mainColor
      mainColorName := body.mainColorName
      count := body.count
      createdBy := some initiativeUserId } := by
  rw [parseNew, hname, hcount]
  rfl

/-- New products are kept in their order. -/
theorem ProductsTask.foldlM_of_new {α : Type} {initiativeUserId : UInt64} {elements : List α}
    {body : α → ProductBody} {product : α → Product}
    (hnew : ∀ element ∈ elements, (body element).type = none ∧
      (body element).parseNew initiativeUserId = .ok (product element)) (task : ProductsTask) :
    (elements.map body).foldlM (parseCreatedProduct initiativeUserId) task =
      .ok { task with productsNew := task.productsNew ++ elements.map product } := by
  induction elements generalizing task with
  | nil =>
    rw [List.map_nil, List.map_nil, List.append_nil]
    rfl
  | cons element elements ih =>
    obtain ⟨⟨htype, hproduct⟩, hnew⟩ := List.forall_mem_cons.mp hnew
    have hround : parseCreatedProduct initiativeUserId task (body element) =
        .ok { task with productsNew := task.productsNew ++ [product element] } := by
      rw [parseCreatedProduct, if_pos (.inl htype), hproduct]
      rfl
    rw [List.map_cons, List.foldlM_cons, hround]
    show (elements.map body).foldlM (parseCreatedProduct initiativeUserId) _ = _
    rw [ih hnew, List.map_cons, List.append_assoc]
    rfl

/-- Products that are there already are listed in their order. -/
theorem ProductsTask.mapM_of_existing {α : Type} {elements : List α} {body : α → ProductBody}
    {product : α → Product}
    (hexisting : ∀ element ∈ elements, (body element).parseExisting = .ok (product element)) :
    (elements.map body).mapM ProductBody.parseExisting = .ok (elements.map product) := by
  rw [List.mapM_map, Exceptions.mapM_eq_ok_iff, List.forall₂_map_right_iff, List.forall₂_same]
  exact hexisting

end TaskMgr.Tasks

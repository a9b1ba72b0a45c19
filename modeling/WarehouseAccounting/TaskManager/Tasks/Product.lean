import WarehouseAccounting.DbConnector.Script

/-!
# Products

`Product` of `tasks/common/product.h` with the entries it makes, and the helpers of
`tasks/common/helpers.h`. An entry is made over the memory `σ` of a task; where it writes the
rows of its statement is given by a function.
-/

namespace TaskMgr.Tasks

open Ufa Srv.Db Srv.Db.Trsct

/-- An `int64_t` as a parameter. -/
def integer (value : Int64) : Scalar := .integer value.toInt

/-- A `uint64_t` as a parameter. -/
def unsigned (value : UInt64) : Scalar := .integer value.toNat

/-- `AppendToQueryOptional`: the column and the parameter are left out together. -/
def appendToQueryOptional (query : List Column × ValueCollector)
    (optionalValue : Option Scalar) (column : Column) : List Column × ValueCollector :=
  match optionalValue with
  | some value => (query.1 ++ [column], query.2.append value)
  | none => query

/-- `AppendToQueryNullable`: an absent value is the text `NULL`. -/
def appendToQueryNullable (params : ValueCollector) (optionalValue : Option Scalar) :
    ValueCollector :=
  params.append (optionalValue.getD (.text "NULL"))

/-- `Product`. -/
structure Product where
  name : Option String := none
  prettyName : Option String := none
  description : Option String := none
  mainColor : Option Int64 := none
  mainColorName : Option String := none
  count : Option Int64 := none
  id : Option Int64 := none
  createdDate : Option UInt64 := none
  createdBy : Option UInt64 := none
  warehouseId : Option Int64 := none
  deriving DecidableEq, Repr

namespace Product

/-- What `std::move` leaves of a product: the texts are there, but empty. -/
def movedFrom (product : Product) : Product :=
  let emptied (text : Option String) : Option String := text.map fun _ => ""
  { product with
    name := emptied product.name
    prettyName := emptied product.prettyName
    description := emptied product.description
    mainColorName := emptied product.mainColorName }

/-- The columns that `InsertsEntry` writes. -/
def insertsOptions : InsertOptions where
  table := .product
  columns := [.name, .createdBy, .createdDate, .description, .mainColor]
  returning := [.productId, .prettyName]

/-- One row of `InsertsEntry`; a missing name or author throws. -/
def insertsRow (product : Product) : Except Exception ValueCollector := do
  let name ← required product.name
  let createdBy ← required product.createdBy
  let createdDate ← required product.createdDate
  let params := ((ValueCollector.append [] (.text name)).append (unsigned createdBy)).append
    (unsigned createdDate)
  let params := appendToQueryNullable params (product.description.map .text)
  return appendToQueryNullable params (product.mainColor.map integer)

/-- The products that `InsertsEntry` leaves: each has the time at which its row was built. -/
def stamped (timestamp : Nat → UInt64) (products : List Product) : List Product :=
  products.mapIdx fun index product => { product with createdDate := some (timestamp index) }

/-- `Product::InsertsEntry`, of the products that were stamped. -/
def insertsEntry {σ : Type} (store : Rows → σ → σ) (products : List Product) :
    Except Exception (Entry σ) := do
  let values ← products.mapM insertsRow
  match QueryFactory.createInsert insertsOptions values with
  | .ok query => return .query query.options query.params store .null
  | .error _ => .error .other

/-- The statement of `Product::InsertsEntry` has parameters, and adds products. -/
theorem insertsEntry_eq_ok {σ : Type} {store : Rows → σ → σ} {products : List Product}
    {entry : Entry σ} (h : insertsEntry store products = .ok entry) :
    ∃ (options : InsertOptions) (params : ValueCollector), options.table = .product ∧
      params ≠ [] ∧ entry = .query (.insert options) params store .null := by
  unfold insertsEntry at h
  obtain ⟨values, -, h⟩ := bind_eq_ok.mp h
  split at h
  · rename_i query hquery
    obtain ⟨hne, hlengths, rfl⟩ := QueryFactory.createInsert_eq_ok.mp hquery
    refine ⟨_, _, rfl, ?_, (Except.ok.inj h).symm⟩
    -- There is a first row, and it has a value for every column.
    obtain ⟨row, hrow⟩ := List.exists_mem_of_ne_nil values hne
    intro hnil
    have hempty := List.flatten_eq_nil_iff.mp hnil row hrow
    have hlength := hlengths row hrow
    rw [hempty] at hlength
    cases hlength
  · cases h

/-- The statement of `SelectEntry`. -/
def selectQuery (productIds : List Int64) : Query :=
  QueryFactory.createSelect
    { table := .product
      columns := [.productId, .name, .prettyName, .description, .mainColor, .createdDate,
        .createdBy]
      condition := some (.inList .productId (productIds.map integer)) }

/-- What the converter of `SelectEntry` does to the product that a row belongs to. -/
def fillFromRow (row : List (Option String)) (product : Product) : Except Exception Product := do
  let id ← required (← getInt64 (← fieldAt row 0))
  let name ← required (← getString (← fieldAt row 1))
  let prettyName ← required (← getString (← fieldAt row 2))
  let description ← getString (← fieldAt row 3)
  let mainColor ← getInt64 (← fieldAt row 4)
  let createdDate ← required (← getUInt64 (← fieldAt row 5))
  let createdBy ← required (← getUInt64 (← fieldAt row 6))
  return { product with
    id := some id
    name := some name
    prettyName := some prettyName
    description
    mainColor
    createdDate := some createdDate
    createdBy := some createdBy }

end Product

end TaskMgr.Tasks

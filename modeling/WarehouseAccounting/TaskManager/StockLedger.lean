import WarehouseAccounting.TaskManager.StockRequests
import Mathlib.Algebra.BigOperators.Group.List.Basic

/-!
# Stock and ledger

The stock of a warehouse against the operations that the triggers have written. Both are sums
over rows, and a request changes the weighted sums of both by the same amount, as long as no
more is taken from a warehouse than it has.

- `Balanced`: every weighted sum of the stock is the one of the operations, in which the
  negated warehouses count negatively.
- `Balanced.committed`: what one request keeps.
- `stock_eq_ledger`: what every run keeps.
-/

namespace TaskMgr.Tasks

open Ufa Srv.Db Srv.Db.Trsct Srv.Db.Sql Srv.Db.DbMgr.Scpts Relational

/-! ## Stock, ledger and overdrafts -/

/-- The count of the row of a warehouse and a product, or nothing. -/
def stock (tables : Tables) (warehouseId productId : Int) : Int :=
  match (tables .warehouseItem).find? (isItem warehouseId productId) with
  | some row => countOf row
  | none => 0

/-- What the operations say: those on the warehouse, less those on its negated id. -/
def ledger (tables : Tables) (warehouseId productId : Int) : Int :=
  ((tables .operation).filter (isItem warehouseId productId) |>.map countOf).sum -
    ((tables .operation).filter (isItem (-warehouseId) productId) |>.map countOf).sum

/-- The counts of a product in all warehouses. -/
def productTotal (tables : Tables) (productId : Int) : Int :=
  ((tables .warehouseItem).filter (fun row => row .productId = some (.integer productId)) |>.map
    countOf).sum

/-- The body lists different products, each of which is stored in the source, and asks for more
of one of them than is stored. -/
def ProductsBody.Overdraws (body : ProductsBody) (tables : Tables) : Prop :=
  ∃ warehouseFrom, body.warehouseFrom = some warehouseFrom ∧ (body.items.map Prod.fst).Nodup ∧
    (∀ item ∈ body.items, ∃ row ∈ tables .warehouseItem,
      isItem warehouseFrom.toInt item.1.toInt row = true) ∧
    ∃ item ∈ body.items, stock tables warehouseFrom.toInt item.1.toInt < item.2.toInt

/-- A request to move or remove asks for more than is stored. -/
def StockRequest.Overdraws (request : StockRequest) (tables : Tables) : Prop :=
  match request with
  | .productsMove body | .productsRemove body => body.Overdraws tables
  | .createWarehouse _ | .productsCreate _ => False

/-! ## Weights -/

/-- The weight of one warehouse and one product. -/
def single (warehouseId productId warehouseId' productId' : Int) : Int :=
  if warehouseId' = warehouseId ∧ productId' = productId then 1 else 0

/-- The weight of one product. -/
def ofProduct (productId _warehouseId productId' : Int) : Int :=
  if productId' = productId then 1 else 0

/-- A weight for operations: that of the warehouse, negative where the id is negated. -/
def signed (weight : Int → Int → Int) (warehouseId productId : Int) : Int :=
  if 0 < warehouseId then weight warehouseId productId
  else if warehouseId < 0 then -weight (-warehouseId) productId
  else 0

section Weights

variable (weight : Int → Int → Int)

/-- The difference of two weights. -/
theorem total_sub (other : Int → Int → Int) (rows : List TableRow) :
    total (fun warehouseId productId => weight warehouseId productId - other warehouseId productId)
      rows = total weight rows - total other rows := by
  induction rows with
  | nil => rfl
  | cons row rows ih =>
    have hrow : weigh (fun warehouseId productId =>
        weight warehouseId productId - other warehouseId productId) row =
          weigh weight row - weigh other row := by
      unfold weigh
      split
      · rw [Int.sub_mul]
      · rfl
    rw [total_cons, total_cons, total_cons, ih, hrow]
    omega

/-- The sum of one warehouse and one product is what is stored there. -/
theorem total_single (warehouseId productId : Int) (rows : List TableRow) :
    total (single warehouseId productId) rows = stored warehouseId productId rows := by
  unfold stored
  induction rows with
  | nil => rfl
  | cons row rows ih =>
    rw [total_cons, ih]
    cases hrow : isItem warehouseId productId row
    · have hzero : weigh (single warehouseId productId) row = 0 := by
        unfold weigh
        split
        · rename_i warehouseId' productId' hwarehouse hproduct
          rw [single, if_neg, Int.zero_mul]
          rintro ⟨rfl, rfl⟩
          simp [isItem, hwarehouse, hproduct] at hrow
        · rfl
      rw [hzero, List.filter_cons_of_neg (by simp [hrow]), Int.zero_add]
    · rw [weigh_of_isItem _ hrow, single, if_pos ⟨rfl, rfl⟩, Int.one_mul,
        List.filter_cons_of_pos hrow, List.map_cons, List.sum_cons]

/-- For the operations, one warehouse is a difference of two sums. -/
theorem signed_single {warehouseId : Int} (hpos : 0 < warehouseId) (productId : Int) :
    signed (single warehouseId productId) = fun warehouseId' productId' =>
      single warehouseId productId warehouseId' productId' -
        single (-warehouseId) productId warehouseId' productId' := by
  funext warehouseId' productId'
  unfold signed single
  by_cases hproduct : productId' = productId
  · simp only [hproduct, and_true]
    split
    · rw [if_neg (by omega : ¬ warehouseId' = -warehouseId), Int.sub_zero]
    · split
      · rw [if_neg (by omega : ¬ warehouseId' = warehouseId), Int.zero_sub]
        congr 1
        by_cases heq : warehouseId' = -warehouseId
        · rw [if_pos (by omega), if_pos heq]
        · rw [if_neg (by omega), if_neg heq]
      · rw [if_neg (by omega), if_neg (by omega)]
        rfl
  · simp [hproduct]

end Weights

/-- There is one row at most, so that the stock is the sum of the rows. -/
theorem stock_eq_stored {tables : Tables} (h : Integral schema tables)
    (warehouseId productId : Int) :
    stock tables warehouseId productId =
      stored warehouseId productId (tables .warehouseItem) := by
  unfold stock stored
  rw [← List.head?_filter]
  rcases filter_isItem h warehouseId productId with hnil | ⟨row, -, hone⟩
  · rw [hnil]
    rfl
  · rw [hone]
    simp

/-- The ledger is a sum over the operations. -/
theorem ledger_eq_total (tables : Tables) {warehouseId : Int} (hpos : 0 < warehouseId)
    (productId : Int) :
    ledger tables warehouseId productId =
      total (signed (single warehouseId productId)) (tables .operation) := by
  rw [signed_single hpos, total_sub, total_single, total_single]
  rfl

/-- The counts of a product are a sum over the stock. -/
theorem productTotal_eq_total {tables : Tables} (h : Integral schema tables) (productId : Int) :
    productTotal tables productId = total (ofProduct productId) (tables .warehouseItem) := by
  unfold productTotal total
  have hweigh : ∀ row ∈ tables .warehouseItem, weigh (ofProduct productId) row =
      if row .productId = some (.integer productId) then countOf row else 0 := by
    intro row hrow
    obtain ⟨warehouseId, productId', hitem⟩ := isItem_of_integral h hrow
    rw [weigh_of_isItem _ hitem, ofProduct]
    simp only [isItem, Bool.and_eq_true, decide_eq_true_eq] at hitem
    rw [hitem.2]
    by_cases heq : productId' = productId
    · rw [if_pos heq, if_pos (by rw [heq]), Int.one_mul]
    · rw [if_neg heq, if_neg (by simpa using heq), Int.zero_mul]
  rw [List.map_congr_left hweigh]
  induction tables .warehouseItem with
  | nil => rfl
  | cons row rows ih =>
    rw [List.map_cons, List.sum_cons, ← ih]
    by_cases hrow : row .productId = some (.integer productId)
    · rw [List.filter_cons_of_pos (by simpa using hrow), if_pos hrow, List.map_cons, List.sum_cons]
    · rw [List.filter_cons_of_neg (by simpa using hrow), if_neg hrow, Int.zero_add]

/-! ## The balance -/

/-- The stock and the operations are in balance, under every weight. -/
structure Balanced (tables : Tables) : Prop where
  integral : Integral schema tables
  /-- Warehouses have positive ids. -/
  positive : ∀ row ∈ tables .warehouse, ∀ id : Int, row .warehouseId = some (.integer id) → 0 < id
  balanced : ∀ weight : Int → Int → Int,
    total weight (tables .warehouseItem) = total (signed weight) (tables .operation)

/-- There is nothing at the beginning. -/
theorem balanced_initialTables : Balanced initialTables where
  integral := initialTables_integral
  positive := by
    intro row hrow
    cases hrow
  balanced := fun weight => rfl

/-- Whatever takes from a warehouse without asking for more than is stored takes that much. -/
theorem ProductsBody.enough_of_not_overdraws {body : ProductsBody}
    {tables inserted reduced : Tables}
    {warehouseFrom : Int64} (hoverdraws : ¬ body.Overdraws tables)
    (hfrom : body.warehouseFrom = some warehouseFrom) (hnodup : (body.items.map Prod.fst).Nodup)
    (hintegral : Integral schema tables) (hinserted : Integral schema inserted)
    (hrows : inserted .warehouseItem = tables .warehouseItem)
    (h : WarehouseItem.Changed Answers warehouseFrom true inserted body.items reduced) :
    ∀ item ∈ body.items, item.2.toInt ≤
      stored warehouseFrom.toInt item.1.toInt (inserted .warehouseItem) := by
  intro item hitem
  by_contra hmore
  refine hoverdraws ⟨warehouseFrom, hfrom, hnodup, ?_, item, hitem, ?_⟩
  · rw [← hrows]
    exact h.exists_row hinserted
  · rw [stock_eq_stored hintegral, ← hrows]
    exact Int.not_le.mp hmore

section Posted

variable (weight : Int → Int → Int) {invoice : Invoice} {warehouseId : Int64}

/-- The operation on the source counts what is taken from the stock. -/
theorem signed_neg (hpos : 0 < warehouseId.toInt) (productId : Int) :
    signed weight (-warehouseId.toInt) productId = -weight warehouseId.toInt productId := by
  rw [signed, if_neg (by omega), if_pos (by omega), Int.neg_neg]

/-- The operation on the destination counts what is added to the stock. -/
theorem signed_pos (hpos : 0 < warehouseId.toInt) (productId : Int) :
    signed weight warehouseId.toInt productId = weight warehouseId.toInt productId := by
  rw [signed, if_pos hpos]

end Posted

/-- A request that is committed, and does not ask for more than there is, keeps the balance. -/
theorem Balanced.committed {request : StockRequest} {tables tables' : Tables}
    (h : Balanced tables) (hcommitted : request.Committed tables tables')
    (hoverdraws : ¬ request.Overdraws tables) : Balanced tables' := by
  -- A warehouse that an invoice refers to has a positive id.
  have hpositive : ∀ {between : Tables}, between .warehouse = tables .warehouse →
      ∀ {warehouseId : Int}, HasWarehouse between warehouseId → 0 < warehouseId := by
    rintro between hsame warehouseId ⟨row, hrow, hid⟩
    exact h.positive row (hsame ▸ hrow) warehouseId hid
  cases hcommitted with
  | createWarehouse warehouses positive kept integral =>
    refine ⟨integral, fun row hrow id hid => ?_, fun weight => ?_⟩
    · rw [warehouses] at hrow
      rcases List.mem_append.mp hrow with hold | hnew
      · exact h.positive row hold id hid
      · obtain ⟨id', hpos, hid'⟩ := positive row hnew
        cases hid.symm.trans hid'
        exact hpos
    · rw [kept .warehouseItem (by decide), kept .operation (by decide)]
      exact h.balanced weight
  | @productsCreate body _ added created inserted _ invoice warehouseTo createdItems adding
      createdKept effects fromNone toSome warehouseTo_eq counts rows kept integral =>
    have hnodup := effects.nodup
    rw [List.map_append, List.nodup_append] at hnodup
    -- The other tables are as they were, up to the invoice and the last rows.
    have hsame : ∀ table, table ≠ .warehouseItem → table ≠ .product →
        created table = tables table := by
      intro table hitem hproduct
      obtain ⟨-, -, hothers⟩ := adding.total (fun _ _ => 0) h.integral hnodup.1 (by simp)
      exact (createdKept table hproduct).trans (hothers table hitem)
    have hwarehouse := hsame .warehouse (by decide) (by decide)
    have hto := hpositive hwarehouse (effects.toExists _ toSome)
    refine ⟨integral, ?_, fun weight => ?_⟩
    · rw [kept .warehouse (by decide), effects.kept .warehouse (by decide) (by decide) (by decide),
        hwarehouse]
      exact h.positive
    · obtain ⟨-, hsum, -⟩ := adding.total weight h.integral hnodup.1 (by simp)
      rw [rows, total_append, WarehouseItem.total_itemRows,
        effects.kept .warehouseItem (by decide) (by decide) (by decide),
        createdKept .warehouseItem (by decide), hsum, kept .operation (by decide),
        effects.operations, hsame .operation (by decide) (by decide), h.balanced,
        List.map_append, List.sum_append, Int.add_assoc]
      congr 2
      · congr 1
        refine List.map_congr_left fun item _ => ?_
        simp only [Invoice.posted, fromNone, toSome]
        rw [signed_pos weight hto]
        simp
      · congr 1
        refine List.map_congr_left fun item _ => ?_
        simp only [Invoice.posted, fromNone, toSome]
        rw [signed_pos weight hto]
        simp
  | productsMove effects fromSome toSome warehouseFrom_eq warehouseTo_eq reducing adding =>
    have hfrom := hpositive rfl (effects.fromExists _ fromSome)
    have hto := hpositive rfl (effects.toExists _ toSome)
    have hrows := effects.kept .warehouseItem (by decide) (by decide) (by decide)
    have henough := ProductsBody.enough_of_not_overdraws hoverdraws warehouseFrom_eq effects.nodup
      h.integral effects.integral hrows reducing
    refine ⟨?_, ?_, fun weight => ?_⟩
    · exact adding.integral (reducing.integral effects.integral)
    · obtain ⟨hreduced, -, hothers⟩ := reducing.total (fun _ _ => 0) effects.integral effects.nodup
        fun _ => henough
      obtain ⟨-, -, hothers'⟩ := adding.total (fun _ _ => 0) hreduced effects.nodup (by simp)
      rw [hothers' .warehouse (by decide), hothers .warehouse (by decide),
        effects.kept .warehouse (by decide) (by decide) (by decide)]
      exact h.positive
    · obtain ⟨hreduced, hsum, hothers⟩ := reducing.total weight effects.integral effects.nodup
        fun _ => henough
      obtain ⟨-, hsum', hothers'⟩ := adding.total weight hreduced effects.nodup (by simp)
      rw [hsum', hsum, hothers' .operation (by decide), hothers .operation (by decide),
        effects.operations, hrows, h.balanced, Int.add_assoc, ← List.sum_map_add]
      congr 2
      refine List.map_congr_left fun item _ => ?_
      simp only [Invoice.posted, fromSome, toSome]
      rw [signed_neg weight hfrom, signed_pos weight hto]
      simp
  | productsRemove effects fromSome toNone warehouseFrom_eq reducing =>
    have hfrom := hpositive rfl (effects.fromExists _ fromSome)
    have hrows := effects.kept .warehouseItem (by decide) (by decide) (by decide)
    have henough := ProductsBody.enough_of_not_overdraws hoverdraws warehouseFrom_eq effects.nodup
      h.integral effects.integral hrows reducing
    refine ⟨reducing.integral effects.integral, ?_, fun weight => ?_⟩
    · obtain ⟨-, -, hothers⟩ := reducing.total (fun _ _ => 0) effects.integral effects.nodup
        fun _ => henough
      rw [hothers .warehouse (by decide),
        effects.kept .warehouse (by decide) (by decide) (by decide)]
      exact h.positive
    · obtain ⟨-, hsum, hothers⟩ := reducing.total weight effects.integral effects.nodup
        fun _ => henough
      rw [hsum, hothers .operation (by decide), effects.operations, hrows, h.balanced]
      congr 2
      refine List.map_congr_left fun item _ => ?_
      simp only [Invoice.posted, fromSome, toNone]
      rw [signed_neg weight hfrom]
      simp

/-- A request keeps the balance when it does not ask for more than there is. -/
theorem Balanced.perform {request : StockRequest} {tables : Tables} (h : Balanced tables)
    (circumstances : Circumstances) (hoverdraws : ¬ request.Overdraws tables) :
    Balanced (request.perform circumstances tables) := by
  rcases request.perform_cases circumstances h.integral with hsame | hcommitted
  · rw [hsame]
    exact h
  · exact h.committed hcommitted hoverdraws

/-- So does every run of such requests. -/
theorem balanced_of_reachable {tables : Tables}
    (h : Reachable (fun request tables => ¬ request.Overdraws tables) tables) :
    Balanced tables := by
  induction h with
  | initial => exact balanced_initialTables
  | request request circumstances before met ih => exact ih.perform circumstances met

/-- What is moved stays in the warehouses. -/
theorem productTotal_productsMove {body : ProductsBody} {tables : Tables}
    (hintegral : Integral schema tables) (circumstances : Circumstances)
    (hoverdraws : ¬ body.Overdraws tables) (productId : Int) :
    productTotal ((StockRequest.productsMove body).perform circumstances tables) productId =
      productTotal tables productId := by
  rcases (StockRequest.productsMove body).perform_cases circumstances hintegral with
    hsame | hcommitted
  · rw [hsame]
  · generalize
      (StockRequest.productsMove body).perform circumstances tables = tables' at hcommitted ⊢
    cases hcommitted with
    | productsMove effects fromSome toSome warehouseFrom_eq warehouseTo_eq reducing adding =>
      have hrows := effects.kept .warehouseItem (by decide) (by decide) (by decide)
      have henough := ProductsBody.enough_of_not_overdraws hoverdraws warehouseFrom_eq
        effects.nodup hintegral effects.integral hrows reducing
      obtain ⟨hreduced, hsum, -⟩ := reducing.total (ofProduct productId) effects.integral
        effects.nodup fun _ => henough
      obtain ⟨hadded, hsum', -⟩ := adding.total (ofProduct productId) hreduced effects.nodup
        (by simp)
      rw [productTotal_eq_total hadded, productTotal_eq_total hintegral, hsum', hsum, hrows,
        Int.add_assoc, ← List.sum_map_add]
      -- What an item takes from one warehouse it adds to the other.
      rw [List.sum_eq_zero, Int.add_zero]
      intro difference hdifference
      obtain ⟨item, -, rfl⟩ := List.mem_map.mp hdifference
      simp [ofProduct]

/-! ## Runs -/

/-- In every run in which no request to move or remove asks for more than is stored, the stock of
every warehouse is what the ledger says, and a move leaves the total of every product. -/
theorem stock_eq_ledger {tables : Tables}
    (h : Reachable (fun request tables => ¬ request.Overdraws tables) tables) :
    (∀ warehouseId productId, HasWarehouse tables warehouseId →
      stock tables warehouseId productId = ledger tables warehouseId productId) ∧
    ∀ body circumstances, ¬ (StockRequest.productsMove body).Overdraws tables →
      ∀ productId,
        productTotal ((StockRequest.productsMove body).perform circumstances tables) productId =
          productTotal tables productId := by
  have hbalanced := balanced_of_reachable h
  refine ⟨fun warehouseId productId hwarehouse => ?_, fun body circumstances hoverdraws => ?_⟩
  · obtain ⟨row, hrow, hid⟩ := hwarehouse
    have hpos := hbalanced.positive row hrow warehouseId hid
    rw [stock_eq_stored hbalanced.integral, ← total_single, hbalanced.balanced,
      ledger_eq_total tables hpos]
  · exact productTotal_productsMove hbalanced.integral circumstances hoverdraws

/-- One warehouse. -/
def oneWarehouse : Tables :=
  (StockRequest.createWarehouse { name := some "main" }).perform .undisturbed initialTables

/-- Five pieces of one product. -/
def fivePieces : ProductsBody where
  invoiceName := some "arrival"
  warehouseTo := some 1
  products := [{ name := some "chair", count := some 5 }]

/-- The warehouse with the five pieces. -/
def fiveStored : Tables :=
  (StockRequest.productsCreate fivePieces).perform .undisturbed oneWarehouse

/-- A number of these pieces leaves the warehouse. -/
def departure (count : Int64) : ProductsBody where
  invoiceName := some "departure"
  warehouseFrom := some 1
  products := [{ id := some 1, count := some count }]

/-- The warehouse after three pieces were removed. -/
theorem stock_eq_ledger_departure :
    stock ((StockRequest.productsRemove (departure 3)).perform .undisturbed fiveStored) 1 1 =
      ledger ((StockRequest.productsRemove (departure 3)).perform .undisturbed fiveStored) 1 1 := by
  refine (stock_eq_ledger ?_).1 1 1 (by decide +kernel)
  refine .request _ _ (.request _ _ (.request _ _ .initial (fun h => h)) (fun h => h)) ?_
  rintro ⟨warehouseFrom, hfrom, -, -, item, hitem, hless⟩
  cases hfrom
  cases List.mem_singleton.mp hitem
  revert hless
  decide +kernel

/-- After ten of five pieces were removed, the stock is empty and the ledger is negative. -/
theorem departure_ne_ledger :
    ¬ ∀ tables, Reachable (fun _ _ => True) tables → ∀ warehouseId productId,
      HasWarehouse tables warehouseId →
        stock tables warehouseId productId = ledger tables warehouseId productId := by
  intro hclaim
  have hequal := hclaim
    ((StockRequest.productsRemove (departure 10)).perform .undisturbed fiveStored)
    (.request _ _ (.request _ _ (.request _ _ .initial trivial) trivial) trivial) 1 1
    (by decide +kernel)
  revert hequal
  decide +kernel

end TaskMgr.Tasks

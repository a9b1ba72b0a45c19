import WarehouseAccounting.TaskManager.StockLedger
import Mathlib.Algebra.Order.BigOperators.Group.List

/-!
# Positive stock

The rows of `Warehouse_Item` over runs of requests: with positive counts in the requests every
row stays positive, and no row ever gets more than a row can hold.

- `StockRequest.NeedsUnstorable`: a request for quantities that no row can have.
- `StockRequest.Committed.storable`: a request that is committed needs no such quantity, when
  its counts are positive and it does not ask for more than is stored.
- `stock_positive`: what every run keeps.
-/

namespace TaskMgr.Tasks

open Ufa Srv.Db Srv.Db.Trsct Srv.Db.Sql Srv.Db.DbMgr.Scpts Relational

/-! ## The quantities of a request -/

/-- The greatest count of a row. -/
def maxCount : Int := 2 ^ 31 - 1

/-- The counts that a request lists. -/
def StockRequest.counts : StockRequest → List Int64
  | .createWarehouse _ => []
  | .productsCreate body => body.existing.map Prod.snd ++ body.newCounts
  | .productsMove body | .productsRemove body => body.items.map Prod.snd

/-- What would be left of some products that are taken from a source. -/
def remaining (warehouseFrom : Option Int64) (items : List (Int64 × Int64)) (tables : Tables) :
    List Int :=
  match warehouseFrom with
  | none => []
  | some warehouseFrom => items.map fun item =>
    stock tables warehouseFrom.toInt item.1.toInt - item.2.toInt

/-- What there would be of some products that are added to a destination. Where it is the source,
as much has been taken before. -/
def increased (warehouseFrom warehouseTo : Option Int64) (items : List (Int64 × Int64))
    (tables : Tables) : List Int :=
  match warehouseTo with
  | none => []
  | some warehouseTo => items.map fun item =>
    stock tables warehouseTo.toInt item.1.toInt + item.2.toInt -
      if warehouseFrom = some warehouseTo then item.2.toInt else 0

/-- The counts that a request needs rows to get. -/
def StockRequest.results (request : StockRequest) (tables : Tables) : List Int :=
  match request with
  | .createWarehouse _ => []
  | .productsCreate body => increased none body.warehouseTo body.existing tables
  | .productsMove body => remaining body.warehouseFrom body.items tables ++
      increased body.warehouseFrom body.warehouseTo body.items tables
  | .productsRemove body => remaining body.warehouseFrom body.items tables

/-- The request needs a quantity that is not positive, or more than a row can hold: a listed
count, or the count of a row afterwards, where nothing left is no row. -/
def StockRequest.NeedsUnstorable (request : StockRequest) (tables : Tables) : Prop :=
  (∃ count ∈ request.counts, ¬ (0 < count.toInt ∧ count.toInt ≤ maxCount)) ∨
    ∃ result ∈ request.results tables, ¬ (0 ≤ result ∧ result ≤ maxCount)

/-- The request lists positive counts, and does not ask for more than is stored. -/
structure StockRequest.Moderate (request : StockRequest) (tables : Tables) : Prop where
  positive : ∀ count ∈ request.counts, 0 < count.toInt
  enough : ¬ request.Overdraws tables

/-! ## Single rows -/

/-- A sum over different products, in which one of them has weight one. -/
theorem sum_single {items : List (Int64 × Int64)} (hnodup : (items.map Prod.fst).Nodup)
    (warehouseId : Int) (term : Int64 × Int64 → Int) {item : Int64 × Int64} (hitem : item ∈ items) :
    (items.map fun other => single warehouseId item.1.toInt warehouseId other.1.toInt *
      term other).sum = term item := by
  have hzero : ∀ others : List (Int64 × Int64), item.1 ∉ others.map Prod.fst →
      (others.map fun other => single warehouseId item.1.toInt warehouseId other.1.toInt *
        term other).sum = 0 := by
    intro others hnot
    refine List.sum_eq_zero fun value hvalue => ?_
    obtain ⟨other, hother, rfl⟩ := List.mem_map.mp hvalue
    rw [single, if_neg, Int.zero_mul]
    rintro ⟨-, heq⟩
    exact hnot (List.mem_map.mpr ⟨other, hother, Int64.toInt_inj.mp heq⟩)
  induction items with
  | nil => cases hitem
  | cons first items ih =>
    obtain ⟨hnot, hnodup⟩ := List.nodup_cons.mp hnodup
    rw [List.map_cons, List.sum_cons]
    rcases List.mem_cons.mp hitem with rfl | hitem
    · rw [hzero items hnot, single, if_pos ⟨rfl, rfl⟩]
      omega
    · rw [ih hnodup hitem, single, if_neg]
      · omega
      · rintro ⟨-, heq⟩
        exact hnot (Int64.toInt_inj.mp heq ▸ List.mem_map_of_mem hitem)

/-- A stored count is at most the greatest one. -/
theorem stored_le {tables : Tables} (h : Integral schema tables) (warehouseId productId : Int) :
    stored warehouseId productId (tables .warehouseItem) ≤ maxCount := by
  unfold stored maxCount
  rcases filter_isItem h warehouseId productId with hnil | ⟨row, hrow, hone⟩
  · rw [hnil]
    decide
  · rw [hone, List.map_singleton, List.sum_singleton]
    exact (count_of_integral h hrow).2.2

namespace WarehouseItem

variable {tables tables' : Tables} {warehouseId : Int64} {isReducing : Bool}
  {items : List (Int64 × Int64)}

/-- The stored count of a product after `ChangeCount`. -/
theorem Changed.stored_item (h : Changed Answers warehouseId isReducing tables items tables')
    (hintegral : Integral schema tables) (hnodup : (items.map Prod.fst).Nodup)
    (henough : isReducing = true → ∀ item ∈ items,
      item.2.toInt ≤ stored warehouseId.toInt item.1.toInt (tables .warehouseItem))
    {item : Int64 × Int64} (hitem : item ∈ items) :
    stored warehouseId.toInt item.1.toInt (tables' .warehouseItem) =
      stored warehouseId.toInt item.1.toInt (tables .warehouseItem) +
        (if isReducing then -1 else 1) * item.2.toInt := by
  obtain ⟨-, hsum, -⟩ := h.total (single warehouseId.toInt item.1.toInt) hintegral hnodup henough
  rw [total_single, total_single, sum_single hnodup _ _ hitem] at hsum
  exact hsum

/-- The stored counts of another warehouse stay as they are. -/
theorem Changed.stored_of_ne (h : Changed Answers warehouseId isReducing tables items tables')
    (hintegral : Integral schema tables) (hnodup : (items.map Prod.fst).Nodup)
    (henough : isReducing = true → ∀ item ∈ items,
      item.2.toInt ≤ stored warehouseId.toInt item.1.toInt (tables .warehouseItem))
    {other : Int} (hother : warehouseId.toInt ≠ other) (productId : Int) :
    stored other productId (tables' .warehouseItem) =
      stored other productId (tables .warehouseItem) := by
  obtain ⟨-, hsum, -⟩ := h.total (single other productId) hintegral hnodup henough
  rw [total_single, total_single, List.sum_eq_zero, Int.add_zero] at hsum
  · exact hsum
  · intro value hvalue
    obtain ⟨item, -, rfl⟩ := List.mem_map.mp hvalue
    rw [single, if_neg fun heq => hother heq.1, Int.zero_mul]

end WarehouseItem

/-- What is stored is never negative, when all rows are positive. -/
theorem stored_nonneg {tables : Tables} (h : WarehouseItem.AllPositive tables)
    (warehouseId productId : Int) : 0 ≤ stored warehouseId productId (tables .warehouseItem) := by
  refine List.sum_nonneg fun count hcount => ?_
  obtain ⟨row, hrow, rfl⟩ := List.mem_map.mp hcount
  exact (h row (List.mem_of_mem_filter hrow)).le

/-! ## Requests -/

/-- What is left in a source that has enough. -/
theorem remaining_storable {tables : Tables} (hintegral : Integral schema tables)
    {warehouseFrom : Int64} {items : List (Int64 × Int64)}
    (hcounts : ∀ item ∈ items, 0 < item.2.toInt)
    (henough : ∀ item ∈ items, item.2.toInt ≤
      stored warehouseFrom.toInt item.1.toInt (tables .warehouseItem)) :
    ∀ result ∈ remaining (some warehouseFrom) items tables, 0 ≤ result ∧ result ≤ maxCount := by
  intro result hresult
  obtain ⟨item, hitem, rfl⟩ := List.mem_map.mp hresult
  have hstored := stored_le hintegral warehouseFrom.toInt item.1.toInt
  have hcount := hcounts item hitem
  have hle := henough item hitem
  rw [stock_eq_stored hintegral]
  omega

/-- What there is in a destination afterwards. -/
theorem increased_storable {tables reduced after : Tables}
    (hpositive : WarehouseItem.AllPositive tables) (hintegral : Integral schema tables)
    (hreduced : Integral schema reduced) {warehouseFrom : Option Int64} {warehouseTo : Int64}
    {items : List (Int64 × Int64)} (hnodup : (items.map Prod.fst).Nodup)
    (hcounts : ∀ item ∈ items, 0 < item.2.toInt)
    (hbefore : ∀ item ∈ items, stored warehouseTo.toInt item.1.toInt (reduced .warehouseItem) =
      stored warehouseTo.toInt item.1.toInt (tables .warehouseItem) -
        if warehouseFrom = some warehouseTo then item.2.toInt else 0)
    (h : WarehouseItem.Changed Answers warehouseTo false reduced items after) :
    ∀ result ∈ increased warehouseFrom (some warehouseTo) items tables,
      0 ≤ result ∧ result ≤ maxCount := by
  intro result hresult
  obtain ⟨item, hitem, rfl⟩ := List.mem_map.mp hresult
  have hmost := stored_le (h.integral hreduced) warehouseTo.toInt item.1.toInt
  have hleast := stored_nonneg hpositive warehouseTo.toInt item.1.toInt
  have hcount := hcounts item hitem
  have hsum := h.stored_item hreduced hnodup (by simp) hitem
  rw [hbefore item hitem, if_neg (by simp : ¬ false = true), Int.one_mul] at hsum
  rw [stock_eq_stored hintegral]
  split at hsum
  · rename_i hsame
    rw [if_pos hsame]
    omega
  · rename_i hdifferent
    rw [if_neg hdifferent]
    omega

/-- A moderate request that is committed leaves positive rows, and needs nothing that no row can
hold. -/
theorem StockRequest.Committed.storable {request : StockRequest} {tables tables' : Tables}
    (h : request.Committed tables tables') (hintegral : Integral schema tables)
    (hpositive : WarehouseItem.AllPositive tables) (hmoderate : request.Moderate tables) :
    WarehouseItem.AllPositive tables' ∧ ¬ request.NeedsUnstorable tables := by
  obtain ⟨hcounts, henough⟩ := hmoderate
  cases h with
  | createWarehouse warehouses positive kept integral =>
    refine ⟨?_, ?_⟩
    · rw [WarehouseItem.AllPositive, kept .warehouseItem (by decide)]
      exact hpositive
    · rintro (⟨count, hcount, -⟩ | ⟨result, hresult, -⟩)
      · cases hcount
      · cases hresult
  | @productsCreate body _ added created inserted _ invoice warehouseTo createdItems adding
      createdKept effects fromNone toSome warehouseTo_eq counts rows kept integral =>
    have hnodup := effects.nodup
    rw [List.map_append, List.nodup_append] at hnodup
    have hexisting : ∀ item ∈ body.existing, 0 < item.2.toInt := fun item hitem =>
      hcounts _ (List.mem_append_left _ (List.mem_map_of_mem hitem))
    have hcreated : ∀ item ∈ createdItems, 0 < item.2.toInt := fun item hitem =>
      hcounts _ (List.mem_append_right _ (counts ▸ List.mem_map_of_mem hitem))
    refine ⟨?_, ?_⟩
    · intro row hrow
      rw [rows, effects.kept .warehouseItem (by decide) (by decide) (by decide),
        createdKept .warehouseItem (by decide)] at hrow
      rcases List.mem_append.mp hrow with hold | hnew
      · exact adding.allPositive hintegral hpositive hexisting row hold
      · obtain ⟨item, hitem, rfl⟩ := List.mem_map.mp hnew
        exact hcreated item hitem
    · rintro (⟨count, hcount, hbad⟩ | ⟨result, hresult, hbad⟩)
      · refine hbad ⟨hcounts count hcount, ?_⟩
        have hcount' : count ∈ (body.existing ++ createdItems).map Prod.snd := by
          rw [List.map_append, counts]
          exact hcount
        obtain ⟨item, hitem, rfl⟩ := List.mem_map.mp hcount'
        exact (effects.counts item hitem).2
      · dsimp only [StockRequest.results] at hresult
        rw [warehouseTo_eq] at hresult
        exact hbad (increased_storable hpositive hintegral hintegral hnodup.1 hexisting
          (fun item _ => by simp) adding result hresult)
  | @productsMove body _ inserted reduced _ invoice warehouseFrom warehouseTo effects fromSome
      toSome warehouseFrom_eq warehouseTo_eq reducing adding =>
    have hpos : ∀ item ∈ body.items, 0 < item.2.toInt := fun item hitem =>
      hcounts _ (List.mem_map_of_mem hitem)
    have hrows := effects.kept .warehouseItem (by decide) (by decide) (by decide)
    have hpositive' : WarehouseItem.AllPositive inserted := by
      rw [WarehouseItem.AllPositive, hrows]
      exact hpositive
    have hleft := ProductsBody.enough_of_not_overdraws henough warehouseFrom_eq effects.nodup
      hintegral effects.integral hrows reducing
    have hreduced := reducing.integral effects.integral
    refine ⟨?_, ?_⟩
    · exact adding.allPositive hreduced (reducing.allPositive effects.integral hpositive' hpos) hpos
    · rintro (⟨count, hcount, hbad⟩ | ⟨result, hresult, hbad⟩)
      · obtain ⟨item, hitem, rfl⟩ := List.mem_map.mp hcount
        exact hbad ⟨hpos item hitem, (effects.counts item hitem).2⟩
      · dsimp only [StockRequest.results] at hresult
        rw [warehouseFrom_eq, warehouseTo_eq] at hresult
        rcases List.mem_append.mp hresult with hremaining | hincreased
        · rw [hrows] at hleft
          exact hbad (remaining_storable hintegral hpos hleft result hremaining)
        · refine hbad (increased_storable hpositive hintegral hreduced effects.nodup hpos
            (fun item hitem => ?_) adding result hincreased)
          rw [← hrows]
          -- The source is the destination, or another warehouse.
          by_cases hsame : warehouseFrom = warehouseTo
          · subst hsame
            have htaken := reducing.stored_item effects.integral effects.nodup
              (fun _ => hleft) hitem
            rw [if_pos rfl] at htaken ⊢
            omega
          · have hother : ¬ some warehouseFrom = some warehouseTo :=
              fun heq => hsame (Option.some.inj heq)
            rw [if_neg hother, Int.sub_zero]
            exact reducing.stored_of_ne effects.integral effects.nodup (fun _ => hleft)
              (fun heq => hsame (Int64.toInt_inj.mp heq)) _
  | @productsRemove body _ inserted _ invoice warehouseFrom effects fromSome toNone
      warehouseFrom_eq reducing =>
    have hpos : ∀ item ∈ body.items, 0 < item.2.toInt := fun item hitem =>
      hcounts _ (List.mem_map_of_mem hitem)
    have hrows := effects.kept .warehouseItem (by decide) (by decide) (by decide)
    have hpositive' : WarehouseItem.AllPositive inserted := by
      rw [WarehouseItem.AllPositive, hrows]
      exact hpositive
    have hleft := ProductsBody.enough_of_not_overdraws henough warehouseFrom_eq effects.nodup
      hintegral effects.integral hrows reducing
    refine ⟨reducing.allPositive effects.integral hpositive' hpos, ?_⟩
    rintro (⟨count, hcount, hbad⟩ | ⟨result, hresult, hbad⟩)
    · obtain ⟨item, hitem, rfl⟩ := List.mem_map.mp hcount
      exact hbad ⟨hpos item hitem, (effects.counts item hitem).2⟩
    · dsimp only [StockRequest.results] at hresult
      rw [warehouseFrom_eq] at hresult
      rw [hrows] at hleft
      exact hbad (remaining_storable hintegral hpos hleft result hresult)

/-- Every run of moderate requests keeps the rows positive. -/
theorem allPositive_of_reachable {tables : Tables} (h : Reachable StockRequest.Moderate tables) :
    Balanced tables ∧ WarehouseItem.AllPositive tables := by
  induction h with
  | initial =>
    refine ⟨balanced_initialTables, fun row hrow => ?_⟩
    cases hrow
  | request request circumstances before met ih =>
    obtain ⟨hbalanced, hpositive⟩ := ih
    refine ⟨hbalanced.perform circumstances met.enough, ?_⟩
    rcases request.perform_cases circumstances hbalanced.integral with hsame | hcommitted
    · rw [hsame]
      exact hpositive
    · exact (hcommitted.storable hbalanced.integral hpositive met).1

/-- In every run in which the requests list positive counts and ask for no more than is stored,
every row is positive, and a request that needs a quantity that no row can hold changes
nothing. -/
theorem stock_positive {tables : Tables} (h : Reachable StockRequest.Moderate tables) :
    (∀ row ∈ tables .warehouseItem, 0 < countOf row) ∧
    ∀ (request : StockRequest) (circumstances : Circumstances), request.Moderate tables →
      request.NeedsUnstorable tables → request.perform circumstances tables = tables := by
  obtain ⟨hbalanced, hpositive⟩ := allPositive_of_reachable h
  refine ⟨hpositive, fun request circumstances hmoderate hneeds => ?_⟩
  rcases request.perform_cases circumstances hbalanced.integral with hsame | hcommitted
  · exact hsame
  · exact absurd hneeds (hcommitted.storable hbalanced.integral hpositive hmoderate).2

/-- The greatest count of the first product. -/
def fullArrival : ProductsBody where
  invoiceName := some "arrival"
  warehouseTo := some 1
  products := [{ type := some "byid", id := some 1, count := some 2147483647 }]

/-- Counts that are checked one by one. -/
theorem StockRequest.positive_of_all {request : StockRequest}
    (h : (request.counts.all fun count => decide (0 < count.toInt)) = true) :
    ∀ count ∈ request.counts, 0 < count.toInt :=
  fun count hcount => of_decide_eq_true (List.all_eq_true.mp h count hcount)

/-- Where five pieces are stored, a full row cannot be added. -/
theorem stock_positive_fullArrival :
    (StockRequest.productsCreate fullArrival).perform .undisturbed fiveStored = fiveStored := by
  have hwarehouse : Reachable StockRequest.Moderate oneWarehouse :=
    .request _ .undisturbed .initial ⟨by simp [StockRequest.counts], fun h => h⟩
  have hreachable : Reachable StockRequest.Moderate fiveStored :=
    .request _ .undisturbed hwarehouse
      ⟨StockRequest.positive_of_all (by decide +kernel), fun h => h⟩
  refine (stock_positive hreachable).2 _ _
    ⟨StockRequest.positive_of_all (by decide +kernel), fun h => h⟩ (.inr ?_)
  -- There would be one row too many.
  refine ⟨_, List.mem_singleton_self _, ?_⟩
  decide +kernel

/-- An arrival of a negative number of pieces. -/
def negativeArrival : ProductsBody where
  invoiceName := some "arrival"
  warehouseTo := some 1
  products := [{ name := some "chair", count := some (-3) }]

/-- A negative arrival is committed, and leaves a negative row. -/
theorem negativeArrival_not_positive :
    ¬ ∀ tables, Reachable (fun _ _ => True) tables →
      ∀ row ∈ tables .warehouseItem, 0 < countOf row := by
  intro hclaim
  have hpositive := hclaim
    ((StockRequest.productsCreate negativeArrival).perform .undisturbed oneWarehouse)
    (.request _ _ (.request _ _ .initial trivial) trivial)
  revert hpositive
  decide +kernel

end TaskMgr.Tasks

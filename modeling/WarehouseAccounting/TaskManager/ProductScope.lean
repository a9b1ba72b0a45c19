import WarehouseAccounting.DbConnector.NameResolution
import WarehouseAccounting.TaskManager.Listings
import WarehouseAccounting.TaskManager.Tasks.Filter

/-!
# The columns of the product list

Which filters make `GetProductList` write a statement whose columns all resolve. The conditions
name their columns without tables, so a filter on products next to one on warehouses is ambiguous;
and the items of warehouses are only there when a filter on warehouses has become a condition.

- `wellScoped_iff`: the columns resolve when those of the conditions do.
- `selected_of_wellScoped`: then the statement is answered.
- `wellScoped_and_answered_iff`: the filters with which this is so.
-/

namespace TaskMgr.Tasks

open Ufa Srv.Db Srv.Db.Trsct Srv.Db.Sql Srv.Db.DbMgr.Scpts Relational

namespace GetProductList

/-- The columns that the filters name. -/
def keyColumns (filters : Json) : List Column :=
  filters.elements.filterMap filterColumn

/-- The columns of the tests that the filters become. -/
def keptColumns (dateProvider : DateProvider) (filters : Json) : List Column :=
  (keptTests dateProvider filters).map RowTest.column

/-- The column is one of the table. -/
def IsColumnOf (table : Table) (column : Column) : Prop :=
  (schema.typeOf table column).isSome = true

instance (table : Table) : DecidablePred (IsColumnOf table) :=
  fun _ => inferInstanceAs (Decidable (_ = _))

/-- The filters name columns of products or, when they name a warehouse, of products and items. -/
def NamesInReach (filters : Json) : Prop :=
  ∀ column ∈ keyColumns filters, IsColumnOf .product column ∨
    (.warehouseId ∈ keyColumns filters ∧ IsColumnOf .warehouseItem column)

instance (filters : Json) : Decidable (NamesInReach filters) :=
  inferInstanceAs (Decidable (∀ column ∈ keyColumns filters, _ ∨ _ ∧ _))

/-- What is kept has been named. -/
theorem mem_keyColumns_of_mem_keptColumns {dateProvider : DateProvider} {filters : Json}
    {column : Column} (h : column ∈ keptColumns dateProvider filters) :
    column ∈ keyColumns filters := by
  obtain ⟨test, htest, rfl⟩ := List.mem_map.mp h
  obtain ⟨filter, hfilter, hparse⟩ := mem_keptTests.mp htest
  obtain ⟨column, type, value, hcolumn, -, -, hvalue⟩ := parseFilter_eq_some.mp hparse
  refine List.mem_filterMap.mpr ⟨filter, hfilter, ?_⟩
  rw [hcolumn, column_of_filterTest hvalue]

/-- The tables of the statement. -/
theorem scopeOf_options (request : ListRequest) :
    scopeOf (options request) =
      if extendWarehouse request then [.product, .warehouseItem] else [.product] := by
  cases h : extendWarehouse request with
  | false =>
    rw [options_of_not_extendWarehouse h]
    rfl
  | true =>
    rw [options_of_extendWarehouse h]
    rfl

/-- The condition of the statement is the filter. -/
theorem condition_options (request : ListRequest) :
    (options request).condition = request.filter := by
  unfold options
  split <;> rfl

/-- The statement is written when its filter has tests, which can be written. -/
theorem wellFormed_options {request : ListRequest} {tests : List RowTest}
    (h : request.filter = some (RowTest.group tests)) :
    (QueryOptions.select (options request)).wellFormed = true ↔
      tests ≠ [] ∧ ∀ test ∈ tests, test.writable = true := by
  have htable : (options request).table = .product := by
    unfold options
    split <;> rfl
  rw [QueryOptions.wellFormed, condition_options, h, htable]
  exact RowTest.wellFormed_group

/-- The columns of the statement resolve when those of its condition do. -/
theorem wellScoped_iff {request : ListRequest} {tests : List RowTest}
    (h : request.filter = some (RowTest.group tests)) :
    (options request).WellScoped ↔ ∀ column ∈ tests.map RowTest.column,
      (Reference.bare column).Resolves (scopeOf (options request)) := by
  have hcondition := (condition_options request).trans h
  constructor
  · intro hscoped column hcolumn
    refine hscoped.condition _ hcondition column ?_
    rw [RowTest.columns_group]
    exact hcolumn
  · intro hresolves
    have hwhere : ∀ condition ∈ (options request).condition, ∀ column ∈ condition.columns,
        (Reference.bare column).Resolves (scopeOf (options request)) := by
      intro condition hmem column hcolumn
      cases hcondition.symm.trans hmem
      rw [RowTest.columns_group] at hcolumn
      exact hresolves column hcolumn
    -- The other columns are the same in all requests.
    cases hextend : extendWarehouse request with
    | false =>
      rw [options_of_not_extendWarehouse hextend] at hwhere ⊢
      have hcolumns : ∀ column ∈ [Column.productId, .name, .prettyName, .description,
          .createdDate, .createdBy, .mainColor],
            (SelectOptions.columnReference .product [] column).Resolves [.product] := by
        decide
      refine ⟨hcolumns, List.forall_mem_nil _, hwhere, fun column hcolumn => ?_⟩
      cases hcolumn
      rfl
    | true =>
      rw [options_of_extendWarehouse hextend] at hwhere ⊢
      let join : Join :=
        { leftColumn := .productId, joiningTable := .warehouseItem, joiningColumn := .productId }
      have hcolumns : ∀ column ∈ [Column.productId, .name, .prettyName, .description,
          .createdDate, .createdBy, .mainColor, .warehouseId, .count],
            (SelectOptions.columnReference .product [join] column).Resolves
              [.product, .warehouseItem] := by
        decide
      have hjoins : ∀ other ∈ [join],
          ∀ reference ∈ SelectOptions.joinReferences .product other,
            reference.Resolves [.product, .warehouseItem] := by
        decide
      refine ⟨hcolumns, hjoins, hwhere, fun column hcolumn => ?_⟩
      cases hcolumn
      rfl

/-- The database answers the statement when its columns resolve, its numbers are values of their
columns, and its limit and offset are not negative. -/
theorem selected_of_wellScoped {request : ListRequest} {tests : List RowTest}
    (h : request.filter = some (RowTest.group tests)) (hne : tests ≠ [])
    (hscoped : (options request).WellScoped) (hpage : pageExists (options request) = true)
    (hfits : ∀ test ∈ tests, ∀ type,
      typeIn (scopeOf (options request)) test.column = .ok type → test.Fits type)
    (choices : Choices) (tables : Tables) :
    ∃ rows, selected choices (options request) (selectParams (options request)) tables =
      .ok rows := by
  have hcondition := (condition_options request).trans h
  have hbind : ∃ predicate, bindWhereBy (typeIn (scopeOf (options request)))
      (options request).condition (selectParams (options request)) = .ok predicate := by
    rw [selectParams, hcondition]
    show ∃ predicate, bindWhereBy _ _ (ValueCollector.toPqxx (RowTest.group tests).collectParams) =
      .ok predicate
    rw [RowTest.toPqxx_collectParams, RowTest.bindWhereBy_group, RowTest.exists_bindAll]
    refine ⟨hne, fun test htest => ?_⟩
    have hresolves := (wellScoped_iff h).mp hscoped _ (List.mem_map_of_mem htest)
    obtain ⟨type, htype⟩ := Exceptions.isOk_iff_exists.mp (isOk_typeIn_iff.mpr hresolves)
    exact ⟨type, htype, hfits test htest type htype⟩
  obtain ⟨predicate, hpredicate⟩ := hbind
  have hexist : (options request).joins.all (joinExists (options request).table) = true ∧
      (outputsExist (options request) && orderExists (options request)) = true := by
    cases hextend : extendWarehouse request with
    | false =>
      rw [options_of_not_extendWarehouse hextend]
      exact ⟨rfl, rfl⟩
    | true =>
      rw [options_of_extendWarehouse hextend]
      exact ⟨rfl, rfl⟩
  exact ⟨_, selected_eq_ok.mpr ⟨hexist.2, hpage, _,
    found_eq_ok.mpr ⟨hexist.1, predicate, hpredicate, rfl⟩, rfl⟩⟩

/-- A column of the tables is ambiguous when it is the id of products and there are items. -/
theorem resolves_iff {extended : Bool} {column : Column}
    (h : IsColumnOf .product column ∨ IsColumnOf .warehouseItem column) :
    (Reference.bare column).Resolves
        (if extended then [.product, .warehouseItem] else [.product]) ↔
      if extended then column ≠ .productId else IsColumnOf .product column := by
  revert h
  cases extended <;> cases column <;> decide

/-- So the columns of conditions resolve unless one of them is ambiguous or without its table. -/
theorem resolveAll_iff {columns : List Column}
    (h : ∀ column ∈ columns, IsColumnOf .product column ∨ IsColumnOf .warehouseItem column) :
    (∀ column ∈ columns, (Reference.bare column).Resolves
        (if decide (.warehouseId ∈ columns) then [.product, .warehouseItem] else [.product])) ↔
      if .warehouseId ∈ columns then .productId ∉ columns else .count ∉ columns := by
  rw [forall₂_congr fun column hcolumn => resolves_iff (h column hcolumn)]
  by_cases hwarehouse : Column.warehouseId ∈ columns
  · simp only [hwarehouse, decide_true, if_true]
    exact ⟨fun hall hid => hall _ hid rfl, fun hid column hcolumn heq => hid (heq ▸ hcolumn)⟩
  · simp only [hwarehouse, decide_false, Bool.false_eq_true, if_false]
    constructor
    · intro hall hcount
      exact absurd (hall _ hcount) (by decide)
    · intro hcount column hcolumn
      have hne : column ≠ .warehouseId := fun heq => hwarehouse (heq ▸ hcolumn)
      have hne' : column ≠ .count := fun heq => hcount (heq ▸ hcolumn)
      rcases h column hcolumn with hproduct | hitem
      · exact hproduct
      · -- The columns of the items are the two ids and the count.
        revert hitem hne hne'
        cases column <;> decide

/-- A request for the products that pass some filters. -/
def filteredRequest (dateProvider : DateProvider) (limit : Option Int64) (offset : Int64)
    (filters : Json) : ListRequest :=
  { limit, offset, filter := parseFilters dateProvider filters }

/-- When the filters are parsed and name columns in reach, all columns of the statement that is
written resolve, and the database answers it, with these filters: none on both ids, and none on
the other column of the items without one on a warehouse that has become a condition. -/
theorem wellScoped_and_answered_iff (dateProvider : DateProvider) {filters : Json}
    (hparse : (parseFilters dateProvider filters).isSome = true) (hkeys : NamesInReach filters)
    (limit : Option Int64) (offset : Int64) :
    let options := options (filteredRequest dateProvider limit offset filters)
    ((QueryOptions.select options).wellFormed = true →
        options.WellScoped ∧ (pageExists options = true →
          (∀ test ∈ keptTests dateProvider filters, ∀ type,
            typeIn (scopeOf options) test.column = .ok type → test.Fits type) →
          ∀ choices tables, ∃ rows,
            selected choices options (selectParams options) tables = .ok rows)) ↔
      if .warehouseId ∈ keptColumns dateProvider filters then
        .productId ∉ keptColumns dateProvider filters
      else .count ∉ keptColumns dateProvider filters := by
  intro options
  have hfilter : (filteredRequest dateProvider limit offset filters).filter =
      some (RowTest.group (keptTests dateProvider filters)) := by
    obtain ⟨condition, hcondition⟩ := Option.isSome_iff_exists.mp hparse
    show parseFilters dateProvider filters = _
    rw [hcondition, (parseFilters_eq_some.mp hcondition).2]
  have hextend : extendWarehouse (filteredRequest dateProvider limit offset filters) =
      decide (.warehouseId ∈ keptColumns dateProvider filters) := by
    rw [extendWarehouse, hfilter]
    exact conditionHasWarehouseId_group _
  have hreach : ∀ column ∈ keptColumns dateProvider filters,
      IsColumnOf .product column ∨ IsColumnOf .warehouseItem column := fun column hcolumn =>
    (hkeys column (mem_keyColumns_of_mem_keptColumns hcolumn)).imp_right And.right
  by_cases hnil : keptTests dateProvider filters = []
  · -- No statement is written, and there is no column of a condition.
    refine iff_of_true (fun hwellFormed => ?_) ?_
    · exact absurd hnil ((wellFormed_options hfilter).mp hwellFormed).1
    · rw [keptColumns, hnil]
      decide
  have hwritable : ∀ test ∈ keptTests dateProvider filters, test.writable = true := by
    intro test htest
    have hcolumn := hreach _ (List.mem_map_of_mem htest)
    cases test with
    | compare column type value => rfl
    | isNull column =>
      refine bne_iff_ne.mpr fun heq => ?_
      subst heq
      revert hcolumn
      decide
  have hscoped : options.WellScoped ↔
      if .warehouseId ∈ keptColumns dateProvider filters then
        .productId ∉ keptColumns dateProvider filters
      else .count ∉ keptColumns dateProvider filters := by
    rw [← resolveAll_iff hreach, ← hextend, ← scopeOf_options]
    exact wellScoped_iff hfilter
  rw [← hscoped]
  constructor
  · exact fun h => (h ((wellFormed_options hfilter).mpr ⟨hnil, hwritable⟩)).1
  · exact fun hscoped _ => ⟨hscoped, fun hpage hfits choices tables =>
      selected_of_wellScoped hfilter hnil hscoped hpage hfits choices tables⟩

/-- The products of one warehouse whose color is 5. -/
theorem wellScoped_and_answered_iff_mainColor :
    let filters := .array [equalFilter "warehouse_id" 3, equalFilter "main_color" 5]
    let options := options (filteredRequest numericDates none 0 filters)
    options.WellScoped ∧ ∀ choices tables, ∃ rows,
      selected choices options (selectParams options) tables = .ok rows := by
  intro filters options
  have hparse : (parseFilters numericDates filters).isSome = true := by decide +kernel
  have hkeys : NamesInReach filters := by decide +kernel
  obtain ⟨hscoped, hanswered⟩ :=
    (wellScoped_and_answered_iff numericDates hparse hkeys none 0).mpr (by decide +kernel)
      (by decide +kernel)
  refine ⟨hscoped, hanswered (by decide +kernel) ?_⟩
  have htests : keptTests numericDates filters =
      [.compare .warehouseId .equal 3, .compare .mainColor .equal 5] := by decide +kernel
  have hextend : extendWarehouse (filteredRequest numericDates none 0 filters) = true := by
    decide +kernel
  intro test htest type htype
  rw [scopeOf_options, if_pos hextend] at htype
  rw [htests] at htest
  rcases List.mem_pair.mp htest with rfl | rfl
  · cases htype
    exact ⟨_, rfl⟩
  · cases htype
    exact ⟨_, rfl⟩

/-- A product in a warehouse: its id is also the id of an item. -/
theorem not_wellScoped_productInWarehouse :
    ¬ ∀ dateProvider filters, (parseFilters dateProvider filters).isSome = true →
      NamesInReach filters → ∀ limit offset,
        (QueryOptions.select
          (options (filteredRequest dateProvider limit offset filters))).wellFormed = true →
        (options (filteredRequest dateProvider limit offset filters)).WellScoped := by
  intro hclaim
  have hscoped := hclaim numericDates
    (.array [equalFilter "warehouse_id" 3, equalFilter "product_id" 7]) (by decide +kernel)
    (by decide +kernel) none 0 (by decide +kernel)
  have hfilter : parseFilters numericDates
      (.array [equalFilter "warehouse_id" 3, equalFilter "product_id" 7]) =
        some (RowTest.group [.compare .warehouseId .equal 3, .compare .productId .equal 7]) := by
    rfl
  have hresolves := (wellScoped_iff hfilter).mp hscoped .productId (by decide)
  revert hresolves
  decide +kernel

end GetProductList

end TaskMgr.Tasks

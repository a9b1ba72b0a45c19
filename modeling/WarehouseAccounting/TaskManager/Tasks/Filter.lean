import WarehouseAccounting.DbConnector.CountText
import WarehouseAccounting.Foundations.Exceptions
import WarehouseAccounting.Foundations.Json
import WarehouseAccounting.TaskManager.Tasks.ListTasks
import WarehouseAccounting.TaskManager.Tasks.SizeTasks

/-!
# Filters

`ParseFilters` of `tasks/common/filter.h`, and what the list and size tasks parse from the body of
a request.

- `parseFilters_eq_some`: a condition is the group of the tests that the filters of the list have
  become.
-/

namespace TaskMgr.Tasks

open Ufa Srv.Db Srv.Db.Trsct Srv.Db.Sql

/-! ## One filter -/

/-- The column that a filter names. -/
def filterColumn (filter : Json) : Option Column := do
  (Column.fromString (← (← filter.member "key").getString)).toOption

/-- The comparison that a filter names. -/
def filterType (filter : Json) : Option RealConditionType := do
  (RealConditionType.fromString (← (← filter.member "type").getString)).toOption

/-- What is made of the value of a filter: nothing where it throws, and no test where the loop goes
on without one. The conditions are those of `RowTest.condition`. -/
def filterTest (dateProvider : DateProvider) (column : Column) (type : RealConditionType) :
    Json → Option (Option RowTest)
  | .string valueString =>
    if type = .equal ∧ valueString = "NULL" then
      some (some (.isNull column))
    else
      -- There is no `else` for a string that is no time.
      some ((dateProvider.fromIsoTimeString valueString).map fun timestamp =>
        .compare column type timestamp.toNat)
  | valueJson => valueJson.getInt64.map fun value => some (.compare column type value.toInt)

/-- What the loop of `ParseFilters` makes of a filter. -/
def parseFilter (dateProvider : DateProvider) (filter : Json) : Option (Option RowTest) := do
  let column ← filterColumn filter
  let type ← filterType filter
  filterTest dateProvider column type (← filter.member "value")

/-- A filter that becomes a test has a column, a comparison and a value. -/
theorem parseFilter_eq_some {dateProvider : DateProvider} {filter : Json}
    {kept : Option RowTest} :
    parseFilter dateProvider filter = some kept ↔
      ∃ column type value, filterColumn filter = some column ∧ filterType filter = some type ∧
        filter.member "value" = some value ∧
          filterTest dateProvider column type value = some kept := by
  unfold parseFilter
  simp only [Option.bind_eq_bind, Option.bind_eq_some_iff]
  constructor
  · rintro ⟨column, hcolumn, type, htype, value, hvalue, htest⟩
    exact ⟨column, type, value, hcolumn, htype, hvalue, htest⟩
  · rintro ⟨column, type, value, hcolumn, htype, hvalue, htest⟩
    exact ⟨column, hcolumn, type, htype, value, hvalue, htest⟩

/-- A test is one of the column of its filter. -/
theorem column_of_filterTest {dateProvider : DateProvider} {column : Column}
    {type : RealConditionType} {value : Json} {test : RowTest}
    (h : filterTest dateProvider column type value = some (some test)) :
    test.column = column := by
  cases value with
  | string valueString =>
    rw [filterTest] at h
    split at h
    · cases h
      rfl
    · obtain ⟨timestamp, -, rfl⟩ := Option.map_eq_some_iff.mp (Option.some_inj.mp h)
      rfl
  | _ =>
    simp only [filterTest, Option.map_eq_some_iff] at h
    obtain ⟨number, -, hnumber⟩ := h
    cases hnumber
    rfl

/-- A filter for one number. -/
def equalFilter (key : String) (value : UInt64) : Json :=
  .object [("key", .string key), ("type", .string "="), ("value", .unsigned value)]

/-! ## Lists of filters -/

/-- `ParseFilters`: the null pointer when something was thrown. -/
def parseFilters (dateProvider : DateProvider) (filters : Json) : Option Condition :=
  (filters.elements.mapM (parseFilter dateProvider)).map fun tests =>
    RowTest.group tests.reduceOption

/-- The tests that the filters of a list become. -/
def keptTests (dateProvider : DateProvider) (filters : Json) : List RowTest :=
  filters.elements.filterMap fun filter => (parseFilter dateProvider filter).join

/-- A loop over filters ends when none of them throws, with the tests that are kept. -/
theorem map_reduceOption_mapM (dateProvider : DateProvider) (filters : List Json) :
    (filters.mapM (parseFilter dateProvider)).map List.reduceOption =
      if filters.all fun filter => (parseFilter dateProvider filter).isSome then
        some (filters.filterMap fun filter => (parseFilter dateProvider filter).join)
      else none := by
  induction filters with
  | nil => rfl
  | cons filter filters ih =>
    rw [List.mapM_cons, List.all_cons, List.filterMap_cons]
    cases parseFilter dateProvider filter with
    | none => rfl
    | some kept =>
      rw [Option.isSome_some, Bool.true_and, Option.join_some]
      by_cases hall : (filters.all fun filter => (parseFilter dateProvider filter).isSome) = true
      · rw [if_pos hall] at ih ⊢
        obtain ⟨tests, htests, hkept⟩ := Option.map_eq_some_iff.mp ih
        rw [htests, ← hkept]
        cases kept <;> rfl
      · rw [if_neg hall] at ih ⊢
        rw [Option.map_eq_none_iff.mp ih]
        rfl

/-- A condition is the group of the tests that the filters have become. -/
theorem parseFilters_eq_some {dateProvider : DateProvider} {filters : Json}
    {condition : Condition} :
    parseFilters dateProvider filters = some condition ↔
      (∀ filter ∈ filters.elements, (parseFilter dateProvider filter).isSome = true) ∧
        condition = RowTest.group (keptTests dateProvider filters) := by
  have hloop := map_reduceOption_mapM dateProvider filters.elements
  have hparse : parseFilters dateProvider filters =
      ((filters.elements.mapM (parseFilter dateProvider)).map List.reduceOption).map
        RowTest.group := by
    rw [Option.map_map]
    rfl
  rw [hparse, hloop, ← List.all_eq_true]
  by_cases hall : (filters.elements.all fun filter =>
      (parseFilter dateProvider filter).isSome) = true
  · rw [if_pos hall, Option.map_some, Option.some_inj, eq_comm, and_iff_right hall]
    rfl
  · rw [if_neg hall, Option.map_none]
    simp [hall]

/-- A test that is kept is one of a filter. -/
theorem mem_keptTests {dateProvider : DateProvider} {filters : Json} {test : RowTest} :
    test ∈ keptTests dateProvider filters ↔
      ∃ filter ∈ filters.elements, parseFilter dateProvider filter = some (some test) := by
  simp [keptTests, Option.join_eq_some_iff]

/-- A group of tests mentions warehouses when one of them does. -/
theorem conditionHasWarehouseId_group (tests : List RowTest) :
    conditionHasWarehouseId (RowTest.group tests) =
      decide (.warehouseId ∈ tests.map RowTest.column) := by
  show anyHasWarehouseId (tests.map RowTest.condition) = _
  induction tests with
  | nil => rfl
  | cons test tests ih =>
    have htest : conditionHasWarehouseId test.condition = decide (.warehouseId = test.column) := by
      cases test <;> exact decide_eq_decide.mpr eq_comm
    rw [List.map_cons, anyHasWarehouseId, htest, ih, List.map_cons, ← Bool.decide_or,
      decide_eq_decide, List.mem_cons]

/-! ## Requests -/

/-- The filter of a request, when there is one. -/
def filterOf (dateProvider : DateProvider) (json : Json) : Option Condition :=
  (json.member "filters").bind (parseFilters dateProvider)

/-- The condition of a request: all filters of the body have been parsed. -/
theorem filterOf_eq_some {dateProvider : DateProvider} {body : Json} {condition : Condition} :
    filterOf dateProvider body = some condition ↔
      ∃ filters, body.member "filters" = some filters ∧
        (∀ filter ∈ filters.elements, (parseFilter dateProvider filter).isSome = true) ∧
          condition = RowTest.group (keptTests dateProvider filters) := by
  rw [filterOf, Option.bind_eq_some_iff]
  exact exists_congr fun filters => and_congr_right' parseFilters_eq_some

/-- `ParseInternal` of a list task, which throws without an offset. A limit that is not positive is
none. -/
def ListRequest.parseInternal (dateProvider : DateProvider) (json : Json) :
    Except Exception ListRequest := do
  let limit ← match json.member "limit" with
    | some limit => required (limit.getInt64.map some)
    | none => .ok none
  let offset ← required ((json.member "offset").bind Json.getInt64)
  return {
    limit := limit.filter (0 < ·)
    offset
    filter := filterOf dateProvider json }

/-- The filter of a list is parsed from its body. -/
theorem ListRequest.filter_of_parseInternal {dateProvider : DateProvider} {body : Json}
    {request : ListRequest}
    (h : ListRequest.parseInternal dateProvider body = .ok request) :
    request.filter = filterOf dateProvider body := by
  unfold ListRequest.parseInternal at h
  cases hlimit : body.member "limit" with
  | none =>
    rw [hlimit] at h
    obtain ⟨limit, -, h⟩ := Exceptions.bind_eq_ok_iff.mp h
    obtain ⟨offset, -, h⟩ := Exceptions.bind_eq_ok_iff.mp h
    cases h
    rfl
  | some value =>
    rw [hlimit] at h
    obtain ⟨limit, -, h⟩ := Exceptions.bind_eq_ok_iff.mp h
    obtain ⟨offset, -, h⟩ := Exceptions.bind_eq_ok_iff.mp h
    cases h
    rfl

end TaskMgr.Tasks

import WarehouseAccounting.TaskManager.Subjects

/-!
# What filters are asked for

What a filter of a request means, and which requests are answered with rows that pass all filters.

- `RowTest.holds_iff_of_bind`: the rows that a test selects are those that pass it.
- `Subject.holds_of_answered`: so a request whose filters all mean something is answered with rows
  that pass them.
- `Subject.enforced_iff`: a request with another filter is only refused when its statement cannot
  be executed.
-/

namespace Srv.Db.Sql

open Relational DbMgr.Scpts Trsct TaskMgr.Tasks

/-! ## Passing a test -/

/-- A comparison as it is named. -/
def Compares {α : Type} [LT α] (type : RealConditionType) (value other : α) : Prop :=
  match type with
  | .equal => value = other
  | .less => value < other
  | .greater => other < value
  | .notEqual => value ≠ other
  | .notLess => ¬ value < other
  | .notGreater => ¬ other < value

namespace RowTest

/-- The row passes the test. A text is compared with the text of the number. -/
def Holds (row : TableRow) : RowTest → Prop
  | .compare column type number =>
    (∃ field, row column = some (.integer field) ∧ Compares type field number) ∨
      ∃ field, row column = some (.text field) ∧ Compares type field (ToString.toString number)
  | .isNull column => row column = none

/-- Numbers are compared as numbers. -/
theorem holds_integer {type : RealConditionType} {value other : Int} :
    (comparisonOf type).holds (.integer value) (.integer other) = true ↔
      Compares type value other := by
  cases type <;> simp [comparisonOf, Comparison.holds, Value.precedes, Compares]

/-- Texts are compared as texts. -/
theorem holds_text {type : RealConditionType} {value other : String} :
    (comparisonOf type).holds (.text value) (.text other) = true ↔ Compares type value other := by
  cases type <;> simp [comparisonOf, Comparison.holds, Value.precedes, Compares]

/-- The number of a test as a value of a column. -/
theorem bindValue_toString {type : ColumnType} {number : Int} {field : Option Value}
    (h : bindValue type (some (ToString.toString number)) = .ok field) :
    field = some (if type = .text then .text (ToString.toString number) else .integer number) := by
  cases type with
  | text =>
    cases h
    rfl
  | integer minimum maximum =>
    rw [bindValue, ColumnType.parse_toString] at h
    by_cases hrange : minimum ≤ number ∧ number ≤ maximum
    · rw [if_pos hrange] at h
      cases h
      rfl
    · rw [if_neg hrange] at h
      cases h

/-- A test selects the rows that pass it, when the field is a value of the column's type. -/
theorem holds_iff_of_bind {types : Column → Except Exception ColumnType} {test : RowTest}
    {predicate : Predicate Column} (hbind : test.bind types = .ok predicate) {row : TableRow}
    (htyped : ∀ type, types test.column = .ok type → ∀ value, row test.column = some value →
      type.admits value = true) :
    predicate.eval row = some true ↔ test.Holds row := by
  cases test with
  | isNull column =>
    obtain ⟨type, -, hbind⟩ := Exceptions.bind_eq_ok_iff.mp hbind
    cases hbind
    rw [Predicate.eval, Option.some_inj, Option.isNone_iff_eq_none]
    rfl
  | compare column comparison number =>
    obtain ⟨type, htype, hbind⟩ := Exceptions.bind_eq_ok_iff.mp hbind
    obtain ⟨field, hfield, hbind⟩ := Exceptions.bind_eq_ok_iff.mp hbind
    cases hbind
    rw [Predicate.eval, bindValue_toString hfield]
    cases hvalue : row column with
    | none =>
      refine iff_of_false (fun hselects => by cases hselects) fun hholds => ?_
      rcases hholds with ⟨field, hfield, -⟩ | ⟨field, hfield, -⟩ <;>
        cases hvalue.symm.trans hfield
    | some value =>
      have hadmits := htyped type htype value hvalue
      rw [Predicate.compareNullable, Option.some_inj]
      -- The field is of the kind of the column.
      cases value with
      | integer value =>
        have hkind : ¬ type = .text := by
          rintro rfl
          cases hadmits
        rw [if_neg hkind, holds_integer]
        constructor
        · exact fun hselects => .inl ⟨value, hvalue, hselects⟩
        · rintro (⟨field, hfield, hselects⟩ | ⟨field, hfield, -⟩)
          · cases hvalue.symm.trans hfield
            exact hselects
          · cases hvalue.symm.trans hfield
      | text value =>
        have hkind : type = .text := by
          cases type with
          | text => rfl
          | integer minimum maximum => cases hadmits
        rw [if_pos hkind, holds_text]
        constructor
        · exact fun hselects => .inr ⟨value, hvalue, hselects⟩
        · rintro (⟨field, hfield, -⟩ | ⟨field, hfield, hselects⟩)
          · cases hvalue.symm.trans hfield
          · cases hvalue.symm.trans hfield
            exact hselects

/-- A conjunction is true when all its parts are. -/
theorem evalAnd_eq_true {row : TableRow} {predicates : List (Predicate Column)} :
    Predicate.evalAnd row predicates = some true ↔
      ∀ predicate ∈ predicates, predicate.eval row = some true := by
  induction predicates with
  | nil => simp [Predicate.evalAnd]
  | cons predicate predicates ih =>
    rw [Predicate.evalAnd, Predicate.conjunction_eq_true, ih, List.forall_mem_cons]

/-- A group selects the rows that pass all its tests. -/
theorem holds_iff_of_bindAll {types : Column → Except Exception ColumnType} {tests : List RowTest}
    {predicate : Predicate Column} (hbind : bindAll types tests = .ok predicate) {row : TableRow}
    (htyped : ∀ column type, types column = .ok type → ∀ value, row column = some value →
      type.admits value = true) :
    predicate.selects row = true ↔ ∀ test ∈ tests, test.Holds row := by
  unfold bindAll at hbind
  split at hbind
  · cases hbind
  · obtain ⟨predicates, hpredicates, rfl⟩ := Exceptions.map_eq_ok_iff.mp hbind
    rw [Predicate.selects, decide_eq_true_eq, Predicate.eval, evalAnd_eq_true]
    constructor
    · intro hselects test htest
      obtain ⟨part, hpart, htestPart⟩ := Exceptions.exists_mem_of_mapM hpredicates htest
      exact (holds_iff_of_bind htestPart (htyped _)).mp (hselects part hpart)
    · intro hholds part hpart
      obtain ⟨test, htest, htestPart⟩ := Exceptions.exists_mem_of_mem_mapM hpredicates hpart
      exact (holds_iff_of_bind htestPart (htyped _)).mpr (hholds test htest)

end RowTest

end Srv.Db.Sql

namespace TaskMgr.Tasks

open Ufa Srv.Db Srv.Db.Trsct Srv.Db.Sql Srv.Db.DbMgr.Scpts Relational

/-! ## What a filter means -/

/-- What is asked for with a column, a comparison and a value: a whole number, a time, or null;
another value means nothing. -/
def meaningTest (dateProvider : DateProvider) (column : Column) (type : RealConditionType) :
    Json → Option RowTest
  | .string valueString =>
    if type = .equal ∧ valueString = "NULL" then
      some (.isNull column)
    else
      (dateProvider.fromIsoTimeString valueString).map fun timestamp =>
        .compare column type timestamp.toNat
  | valueJson => valueJson.wholeNumber.map fun value => .compare column type value.toInt

/-- What a filter asks for, with a column and a comparison that there are. -/
def meaning (dateProvider : DateProvider) (filter : Json) : Option RowTest := do
  let column ← filterColumn filter
  let type ← filterType filter
  meaningTest dateProvider column type (← filter.member "value")

/-- A filter that means something becomes the test that it means. -/
theorem parseFilter_of_meaning {dateProvider : DateProvider} {filter : Json} {test : RowTest}
    (h : meaning dateProvider filter = some test) :
    parseFilter dateProvider filter = some (some test) := by
  unfold meaning at h
  simp only [Option.bind_eq_bind, Option.bind_eq_some_iff] at h
  obtain ⟨column, hcolumn, type, htype, value, hvalue, htest⟩ := h
  refine parseFilter_eq_some.mpr ⟨column, type, value, hcolumn, htype, hvalue, ?_⟩
  cases value with
  | string valueString =>
    rw [meaningTest] at htest
    rw [filterTest]
    split at htest
    · rename_i hnull
      rw [if_pos hnull, htest]
    · rename_i hnull
      rw [if_neg hnull, htest]
  | _ =>
    simp only [meaningTest, Option.map_eq_some_iff] at htest
    obtain ⟨number, hnumber, rfl⟩ := htest
    simp only [filterTest, Json.getInt64_of_wholeNumber hnumber, Option.map_some]

/-! ## What a request is answered with -/

/-- A list or a size is asked for. -/
inductive Asked where
  | list
  | size
  deriving DecidableEq, Repr

namespace Subject

variable {dateProvider : DateProvider} {body : Json} {tables : Tables}

/-- The rows that the request has returned or counted, when it is not refused. -/
def answered (choices : Choices) (dateProvider : DateProvider) (body : Json) (tables : Tables)
    (subject : Subject) : Asked → Except Exception (List TableRow)
  | .list => do
    let request ← ListRequest.parseInternal dateProvider body
    selected choices (subject.listOptions request) (selectParams (subject.listOptions request))
      tables
  | .size => subject.matching (filterOf dateProvider body) tables

/-- The filters become a condition that the database can execute on the tables of the statement:
there is a test left, and each has a column and a value of its type. -/
def Executable (dateProvider : DateProvider) (body : Json) (scope : List Table) : Prop :=
  ∀ filters, body.member "filters" = some filters →
    (∀ filter ∈ filters.elements, (parseFilter dateProvider filter).isSome = true) →
      keptTests dateProvider filters ≠ [] ∧ ∀ test ∈ keptTests dateProvider filters,
        ∃ type, typeIn scope test.column = .ok type ∧ test.Fits type

/-- The request is refused: its body has no offset or a limit that is no number, its limit or offset
is negative after the cut to 32 bits, or its filters cannot be executed. -/
def Refused (dateProvider : DateProvider) (body : Json) (subject : Subject) : Asked → Prop
  | .list => ∀ request, ListRequest.parseInternal dateProvider body = .ok request →
    ¬ (pageExists (subject.listOptions request) = true ∧
      Executable dateProvider body (scopeOf (subject.listOptions request)))
  | .size => ¬ Executable dateProvider body [subject.table]

/-- A statement with the condition of the request is executed when the condition can be. -/
theorem exists_found_iff {options : SelectOptions}
    (hcondition : options.condition = filterOf dateProvider body)
    (hjoins : options.joins.all (joinExists options.table) = true) :
    (∃ rows, found options (selectParams options) tables = .ok rows) ↔
      Executable dateProvider body (scopeOf options) := by
  have hfound : (∃ rows, found options (selectParams options) tables = .ok rows) ↔
      ∃ predicate, bindWhereBy (typeIn (scopeOf options)) options.condition
        (selectParams options) = .ok predicate := by
    simp [found_eq_ok, hjoins]
  rw [hfound, selectParams, hcondition]
  cases hfilter : filterOf dateProvider body with
  | none =>
    refine iff_of_true ⟨.and [], rfl⟩ fun filters hfilters hparsed => ?_
    have hsome := filterOf_eq_some.mpr ⟨filters, hfilters, hparsed, rfl⟩
    cases hfilter.symm.trans hsome
  | some condition =>
    obtain ⟨filters, hfilters, hparsed, rfl⟩ := filterOf_eq_some.mp hfilter
    have hparams : (QueryFactory.conditionParams
        (some (RowTest.group (keptTests dateProvider filters)))).toPqxx =
          (keptTests dateProvider filters).flatMap RowTest.params :=
      RowTest.toPqxx_collectParams _
    rw [hparams, RowTest.bindWhereBy_group, RowTest.exists_bindAll]
    constructor
    · intro htests others hothers _
      cases hfilters.symm.trans hothers
      exact htests
    · exact fun h => h filters hfilters hparsed

/-- A request is answered unless it is refused. -/
theorem exists_answered_iff (choices : Choices) (subject : Subject) (asked : Asked) :
    (∃ rows, subject.answered choices dateProvider body tables asked = .ok rows) ↔
      ¬ subject.Refused dateProvider body asked := by
  cases asked with
  | size =>
    rw [Refused, not_not]
    have hfound := @exists_found_iff dateProvider body tables
      (subject.sizeOptions (filterOf dateProvider body)) rfl rfl
    exact hfound
  | list =>
    rw [Refused]
    push Not
    have hselected : ∀ request, ListRequest.parseInternal dateProvider body = .ok request →
        ((∃ rows, selected choices (subject.listOptions request)
            (selectParams (subject.listOptions request)) tables = .ok rows) ↔
          pageExists (subject.listOptions request) = true ∧
            Executable dateProvider body (scopeOf (subject.listOptions request))) := by
      intro request hrequest
      have hcondition : (subject.listOptions request).condition = filterOf dateProvider body := by
        rw [listOptions_condition, ListRequest.filter_of_parseInternal hrequest]
      have hfound := @exists_found_iff dateProvider body tables _ hcondition
        (listOptions_joinsExist request subject)
      rw [← hfound]
      simp [selected_eq_ok, listOptions_exist]
    constructor
    · rintro ⟨rows, hrows⟩
      obtain ⟨request, hrequest, hrows⟩ := Exceptions.bind_eq_ok_iff.mp hrows
      exact ⟨request, hrequest, (hselected request hrequest).mp ⟨rows, hrows⟩⟩
    · rintro ⟨request, hrequest, hexecutable⟩
      obtain ⟨rows, hrows⟩ := (hselected request hrequest).mpr hexecutable
      exact ⟨rows, Exceptions.bind_eq_ok_iff.mpr ⟨request, hrequest, hrows⟩⟩

/-- The type of a column of one table. -/
theorem columnType_eq_ok {table : Table} {column : Column} {type : ColumnType} :
    columnType table column = .ok type ↔ schema.typeOf table column = some type := by
  unfold columnType
  cases schema.typeOf table column <;> simp

/-- The type of a column of the join is that in the table which the joined row has it from. -/
theorem typeOf_of_typeIn_joined {column : Column} {type : ColumnType}
    (h : typeIn [.product, .warehouseItem] column = .ok type) :
    (column = .warehouseId ∨ column = .count → schema.typeOf .warehouseItem column = some type) ∧
      (¬ (column = .warehouseId ∨ column = .count) →
        schema.typeOf .product column = some type) := by
  cases column <;> cases h <;> simp <;> rfl

/-- The fields of the rows of one table are values of the types of their columns. -/
theorem admits_of_joins_nil (hintegral : Integral schema tables) {options : SelectOptions}
    (hjoins : options.joins = []) {row : TableRow} (hrow : row ∈ fromRows tables options)
    {column : Column} {type : ColumnType}
    (htype : typeIn (scopeOf options) column = .ok type) {value : Value}
    (hvalue : row column = some value) : type.admits value = true := by
  rw [fromRows_of_joins_nil hjoins] at hrow
  rw [scopeOf, hjoins, List.map_nil, typeIn_singleton] at htype
  exact admits_of_conforms (hintegral.conforms _ row hrow) (columnType_eq_ok.mp htype) hvalue

/-- So are those of the rows of a list. -/
theorem admits_of_mem_fromRows (hintegral : Integral schema tables) (request : ListRequest)
    (subject : Subject) {row : TableRow}
    (hrow : row ∈ fromRows tables (subject.listOptions request)) {column : Column}
    {type : ColumnType}
    (htype : typeIn (scopeOf (subject.listOptions request)) column = .ok type) {value : Value}
    (hvalue : row column = some value) : type.admits value = true := by
  cases hbrings : subject.bringsItems request with
  | false => exact admits_of_joins_nil hintegral (listOptions_joins hbrings) hrow htype hvalue
  | true =>
    cases subject with
    | product =>
      have hrows : row ∈ fromRows tables (GetProductList.options request) := hrow
      have hscope : scopeOf (GetProductList.options request) = [.product, .warehouseItem] := by
        rw [GetProductList.options_of_extendWarehouse hbrings]
        rfl
      rw [GetProductList.fromRows_of_extendWarehouse hbrings] at hrows
      obtain ⟨product, hproduct, hrows⟩ := List.mem_flatMap.mp hrows
      obtain ⟨item, hitem, rfl⟩ := List.mem_map.mp hrows
      have hjoined : typeIn [.product, .warehouseItem] column = .ok type := by
        rw [← hscope]
        exact htype
      unfold GetProductList.joined at hvalue
      by_cases hcolumn : column = .warehouseId ∨ column = .count
      · rw [if_pos hcolumn] at hvalue
        unfold GetProductList.itemsOrNull at hitem
        dsimp only at hitem
        split at hitem
        · -- There is no item, so the field has no value.
          cases List.mem_singleton.mp hitem
          cases hvalue
        · have hmem := List.mem_of_mem_filter hitem
          exact admits_of_conforms (hintegral.conforms _ item hmem)
            ((typeOf_of_typeIn_joined hjoined).1 hcolumn) hvalue
      · rw [if_neg hcolumn] at hvalue
        refine admits_of_conforms (hintegral.conforms _ product hproduct) ?_ hvalue
        exact (typeOf_of_typeIn_joined hjoined).2 hcolumn
    | _ => cases hbrings

/-- The rows that a statement finds pass the tests of its condition. -/
theorem holds_of_found {options : SelectOptions} {tests : List RowTest}
    (hcondition : options.condition = some (RowTest.group tests))
    (htyped : ∀ row ∈ fromRows tables options, ∀ column type,
      typeIn (scopeOf options) column = .ok type → ∀ value, row column = some value →
        type.admits value = true) {rows : List TableRow}
    (h : found options (selectParams options) tables = .ok rows) {row : TableRow}
    (hrow : row ∈ rows) : ∀ test ∈ tests, test.Holds row := by
  obtain ⟨-, predicate, hpredicate, rfl⟩ := found_eq_ok.mp h
  have hparams : (QueryFactory.conditionParams (some (RowTest.group tests))).toPqxx =
      tests.flatMap RowTest.params := RowTest.toPqxx_collectParams tests
  rw [selectParams, hcondition, hparams, RowTest.bindWhereBy_group] at hpredicate
  obtain ⟨hmem, hselects⟩ := List.mem_filter.mp hrow
  exact (RowTest.holds_iff_of_bindAll hpredicate (htyped row hmem)).mp hselects

/-- When every filter means something, the filters become the tests that they mean. -/
theorem filterOf_of_meaning {filters : Json} (hfilters : body.member "filters" = some filters)
    (h : ∀ filter ∈ filters.elements, (meaning dateProvider filter).isSome = true) :
    filterOf dateProvider body =
      some (RowTest.group (keptTests dateProvider filters)) := by
  refine filterOf_eq_some.mpr ⟨filters, hfilters, fun filter hfilter => ?_, rfl⟩
  obtain ⟨test, htest⟩ := Option.isSome_iff_exists.mp (h filter hfilter)
  rw [parseFilter_of_meaning htest]
  rfl

/-- The rows of a request whose filters all mean something pass what they mean. -/
theorem holds_of_answered (hintegral : Integral schema tables) {filters : Json}
    (hfilters : body.member "filters" = some filters)
    (h : ∀ filter ∈ filters.elements, (meaning dateProvider filter).isSome = true)
    {choices : Choices} {subject : Subject} {asked : Asked} {rows : List TableRow}
    (hrows : subject.answered choices dateProvider body tables asked = .ok rows)
    {filter : Json} (hfilter : filter ∈ filters.elements) {test : RowTest}
    (htest : meaning dateProvider filter = some test) : ∀ row ∈ rows, test.Holds row := by
  intro row hrow
  have hkept : test ∈ keptTests dateProvider filters :=
    mem_keptTests.mpr ⟨filter, hfilter, parseFilter_of_meaning htest⟩
  have hgroup := filterOf_of_meaning hfilters h
  cases asked with
  | size =>
    have hmatching : found (subject.sizeOptions (filterOf dateProvider body))
        (selectParams (subject.sizeOptions (filterOf dateProvider body))) tables = .ok rows := hrows
    exact holds_of_found hgroup (fun row hrow column type htype value hvalue =>
      admits_of_joins_nil hintegral rfl hrow htype hvalue) hmatching hrow test hkept
  | list =>
    obtain ⟨request, hrequest, hselected⟩ := Exceptions.bind_eq_ok_iff.mp hrows
    obtain ⟨-, -, all, hall, -⟩ := selected_eq_ok.mp hselected
    have hcondition : (subject.listOptions request).condition =
        some (RowTest.group (keptTests dateProvider filters)) := by
      rw [listOptions_condition, ListRequest.filter_of_parseInternal hrequest, hgroup]
    exact holds_of_found hcondition (fun row hrow column type htype value hvalue =>
      admits_of_mem_fromRows hintegral request subject hrow htype hvalue) hall
        (mem_found_of_selected hselected hall hrow) test hkept

/-- The request is refused, or each of its filters means something that all its rows pass. -/
def Enforced (choices : Choices) (dateProvider : DateProvider) (body : Json) (filters : Json)
    (tables : Tables) (subject : Subject) (asked : Asked) : Prop :=
  (∀ rows, subject.answered choices dateProvider body tables asked ≠ .ok rows) ∨
    ∀ filter ∈ filters.elements, ∃ test, meaning dateProvider filter = some test ∧
      ∀ rows, subject.answered choices dateProvider body tables asked = .ok rows →
        ∀ row ∈ rows, test.Holds row

/-- The filters of a request are enforced exactly when all of them mean something, or the statement
that is made without the others cannot be executed. -/
theorem enforced_iff (hintegral : Integral schema tables) {filters : Json}
    (hfilters : body.member "filters" = some filters) (choices : Choices)
    (dateProvider : DateProvider) (subject : Subject) (asked : Asked) :
    subject.Enforced choices dateProvider body filters tables asked ↔
      subject.Refused dateProvider body asked ∨
        ∀ filter ∈ filters.elements, (meaning dateProvider filter).isSome = true := by
  have hanswered := @exists_answered_iff dateProvider body tables choices subject asked
  constructor
  · rintro (hrefused | hholds)
    · left
      by_contra hnot
      obtain ⟨rows, hrows⟩ := hanswered.mpr hnot
      exact hrefused rows hrows
    · right
      intro filter hfilter
      obtain ⟨test, htest, -⟩ := hholds filter hfilter
      exact Option.isSome_iff_exists.mpr ⟨test, htest⟩
  · rintro (hrefused | hmeaning)
    · exact .inl fun rows hrows => hanswered.mp ⟨rows, hrows⟩ hrefused
    · right
      intro filter hfilter
      obtain ⟨test, htest⟩ := Option.isSome_iff_exists.mp (hmeaning filter hfilter)
      exact ⟨test, htest, fun rows hrows =>
        holds_of_answered hintegral hfilters hmeaning hrows hfilter htest⟩

/-! ## The tasks -/

/-- A list that succeeds answers an entry for each of these rows. -/
theorem answered_of_listTask (hintegral : Integral schema tables) {request : ListRequest}
    (hrequest : ListRequest.parseInternal dateProvider body = .ok request)
    {choices : Nat → Choices} {subject : Subject} {response : Json}
    (h : (subject.listTask dateProvider request).respond (quietDatabase choices).answers tables =
      ⟨response, .success⟩) :
    ∃ rows entries, subject.answered (choices 0) dateProvider body tables .list = .ok rows ∧
      response = listJson entries ∧ entries.length = rows.length := by
  obtain ⟨object, hlists⟩ := subject.listsRows hintegral choices dateProvider request
  obtain ⟨rows, hrows, -, -, rfl⟩ := (hlists.success response).mp h
  exact ⟨rows, _, Exceptions.bind_eq_ok_iff.mpr ⟨request, hrequest, hrows⟩, rfl,
    List.length_map _⟩

/-- A size that succeeds answers their number. -/
theorem answered_of_sizeTask {choices : Nat → Choices} {subject : Subject} {response : Json}
    (h : (subject.sizeTask (filterOf dateProvider body)).respond (quietDatabase choices).answers
      tables = ⟨response, .success⟩) :
    ∃ rows, subject.answered (choices 0) dateProvider body tables .size = .ok rows ∧
      response = SizeTask.json (Int32.ofNat rows.length) := by
  obtain ⟨rows, hrows, -, rfl⟩ :=
    (respond_sizeTask (isGroup_filterOf dateProvider body) choices tables subject response).mp h
  exact ⟨rows, hrows, rfl⟩

/-! ## The first user -/

/-- A request for the number of users with a number in some column. -/
def usersWith (key : String) : Json :=
  .object [("filters", .array [equalFilter key 1])]

/-- Two users pass both filters, which are enforced. -/
theorem enforced_iff_createdFilters :
    (user.answered storedOrder numericDates (.object [("filters", createdFilters)]) threeUsers
        .size).toOption.map List.length = some 2 ∧
      user.Enforced storedOrder numericDates (.object [("filters", createdFilters)])
        createdFilters threeUsers .size := by
  have hmeaning : ∀ filter ∈ createdFilters.elements,
      (meaning numericDates filter).isSome = true := by
    decide +kernel
  exact ⟨by decide +kernel,
    (enforced_iff threeUsers_integral rfl storedOrder numericDates user .size).mpr (.inr hmeaning)⟩

/-- Users have no rooms, but the first user is counted. -/
theorem not_enforced_room :
    user.answered storedOrder numericDates (usersWith "room") initialTables .size =
        .ok [superuser] ∧
      ¬ user.Enforced storedOrder numericDates (usersWith "room")
        (.array [equalFilter "room" 1]) initialTables .size := by
  have hanswered : user.answered storedOrder numericDates (usersWith "room") initialTables .size =
      .ok [superuser] := matching_none initialTables user
  refine ⟨hanswered, ?_⟩
  rintro (hrefused | hholds)
  · exact hrefused _ hanswered
  · obtain ⟨test, htest, -⟩ := hholds _ (List.mem_singleton_self _)
    have hnone : meaning numericDates (equalFilter "room" 1) = none := by decide +kernel
    rw [hnone] at htest
    cases htest

end Subject

end TaskMgr.Tasks

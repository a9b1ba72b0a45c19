import Mathlib.Algebra.Group.Nat.Defs
import WarehouseAccounting.DbConnector.NameResolution
import WarehouseAccounting.TaskManager.Listings
import WarehouseAccounting.TaskManager.Tasks.Filter

/-!
# The subjects of lists and sizes

What there is a list task and a size task of, and the rows that both look for.

- `Subject.listsRows`: a list task answers the rows that it selects.
- `Subject.found_listOptions`: it finds the rows of its table that pass its filter, unless it brings
  items in.
- `Subject.respond_sizeTask`: a size task answers the number of these rows.
-/

namespace TaskMgr.Tasks

open Ufa Srv.Db Srv.Db.Trsct Srv.Db.Sql Srv.Db.DbMgr.Scpts Relational

/-- What there is a list task and a size task of. -/
inductive Subject where
  | product
  | warehouse
  | invoice
  | user
  | report
  | operation
  deriving DecidableEq, Repr

namespace Subject

/-- The table of the subject. -/
def table : Subject → Table
  | .product => .product
  | .warehouse => .warehouse
  | .invoice => .invoice
  | .user => .user
  | .report => .report
  | .operation => .operation

/-- The options of the list task. -/
def listOptions (request : ListRequest) : Subject → SelectOptions
  | .product => GetProductList.options request
  | .warehouse => GetWarehouseList.options request
  | .invoice => GetInvoiceList.options request
  | .user => GetUserList.options request
  | .report => GetReportList.options request
  | .operation => GetOperationList.options request

/-- The list task. -/
def listTask (dateProvider : DateProvider) (request : ListRequest) : Subject → TransactionTask
  | .product => GetProductList.task dateProvider request
  | .warehouse => GetWarehouseList.task dateProvider request
  | .invoice => GetInvoiceList.task dateProvider request
  | .user => GetUserList.task dateProvider request
  | .report => GetReportList.task dateProvider request
  | .operation => GetOperationList.task dateProvider request

/-- The size task. -/
def sizeTask (filter : Option Condition) : Subject → TransactionTask
  | .product => GetProductSize.task filter
  | .warehouse => GetWarehouseSize.task filter
  | .invoice => GetInvoiceSize.task filter
  | .user => GetUserSize.task filter
  | .report => GetReportSize.task filter
  | .operation => GetOperationSize.task filter

/-- What the list task shows of its rows. -/
def view (request : ListRequest) : Subject → View
  | .product => GetProductList.viewOf request
  | .warehouse => GetWarehouseList.view
  | .invoice => GetInvoiceList.view
  | .user => GetUserList.view
  | .report => GetReportList.view
  | .operation => GetOperationList.view

/-- The list task brings the items of warehouses in. -/
def bringsItems (request : ListRequest) : Subject → Bool
  | .product => GetProductList.extendWarehouse request
  | _ => false

/-- A list task answers the rows that it selects. -/
theorem listsRows {tables : Tables} (hintegral : Integral schema tables)
    (choices : Nat → Choices) (dateProvider : DateProvider) (request : ListRequest)
    (subject : Subject) :
    ∃ object, ListsRows (subject.listTask dateProvider request) choices tables
      (subject.listOptions request) (subject.view request) object := by
  cases subject with
  | product => exact ⟨_, GetProductList.listsRows hintegral choices dateProvider request⟩
  | warehouse => exact ⟨_, GetWarehouseList.listsRows hintegral choices dateProvider request⟩
  | invoice => exact ⟨_, GetInvoiceList.listsRows hintegral choices dateProvider request⟩
  | user => exact ⟨_, GetUserList.listsRows hintegral choices dateProvider request⟩
  | report => exact ⟨_, GetReportList.listsRows hintegral choices dateProvider request⟩
  | operation => exact ⟨_, GetOperationList.listsRows hintegral choices dateProvider request⟩

/-! ## What is looked for -/

/-- The rows that a size task counts, as a `SELECT` would find them. -/
def sizeOptions (filter : Option Condition) (subject : Subject) : SelectOptions where
  table := subject.table
  condition := filter

/-- The rows of the table that pass the filter. -/
def matching (filter : Option Condition) (tables : Tables) (subject : Subject) :
    Except Exception (List TableRow) :=
  found (subject.sizeOptions filter) (selectParams (subject.sizeOptions filter)) tables

section ListOptions

variable (request : ListRequest) (subject : Subject)

/-- All lists have the options of their request. -/
theorem listOptions_eq : ∃ columns orderBy joins, subject.listOptions request =
    { request.options subject.table columns orderBy with joins } := by
  cases subject with
  | product =>
    show ∃ columns orderBy joins, GetProductList.options request = _
    cases h : GetProductList.extendWarehouse request with
    | false =>
      rw [GetProductList.options_of_not_extendWarehouse h]
      exact ⟨_, _, [], rfl⟩
    | true =>
      rw [GetProductList.options_of_extendWarehouse h]
      exact ⟨_, _, _, rfl⟩
  | _ => exact ⟨_, _, [], rfl⟩

@[simp]
theorem listOptions_table : (subject.listOptions request).table = subject.table := by
  obtain ⟨columns, orderBy, joins, h⟩ := listOptions_eq request subject
  rw [h]
  rfl

@[simp]
theorem listOptions_condition : (subject.listOptions request).condition = request.filter := by
  obtain ⟨columns, orderBy, joins, h⟩ := listOptions_eq request subject
  rw [h]
  rfl

@[simp]
theorem listOptions_limit :
    (subject.listOptions request).limit = request.limit.map Int64.toInt32 := by
  obtain ⟨columns, orderBy, joins, h⟩ := listOptions_eq request subject
  rw [h]
  rfl

@[simp]
theorem listOptions_offset :
    (subject.listOptions request).offset = some request.offset.toInt32 := by
  obtain ⟨columns, orderBy, joins, h⟩ := listOptions_eq request subject
  rw [h]
  rfl

/-- The columns of the answer and the order are there in all lists. -/
theorem listOptions_exist :
    (outputsExist (subject.listOptions request) && orderExists (subject.listOptions request)) =
      true := by
  cases subject with
  | product =>
    show (outputsExist (GetProductList.options request) &&
      orderExists (GetProductList.options request)) = true
    cases h : GetProductList.extendWarehouse request with
    | false =>
      rw [GetProductList.options_of_not_extendWarehouse h]
      rfl
    | true =>
      rw [GetProductList.options_of_extendWarehouse h]
      rfl
  | _ => rfl

variable {request subject}

/-- Without items there is one table. -/
theorem listOptions_joins (h : subject.bringsItems request = false) :
    (subject.listOptions request).joins = [] := by
  cases subject with
  | product =>
    show (GetProductList.options request).joins = []
    rw [GetProductList.options_of_not_extendWarehouse h]
    rfl
  | _ => rfl

/-- So the list finds the rows of the table that pass the filter. -/
theorem found_listOptions (h : subject.bringsItems request = false) (tables : Tables) :
    found (subject.listOptions request) (selectParams (subject.listOptions request)) tables =
      subject.matching request.filter tables := by
  have hjoins := listOptions_joins h
  have hscope : scopeOf (subject.listOptions request) = [subject.table] := by
    rw [scopeOf, hjoins, listOptions_table, List.map_nil]
  unfold matching found selectParams
  rw [hjoins, hscope, fromRows_of_joins_nil hjoins, listOptions_table, listOptions_condition,
    fromRows_of_joins_nil rfl]
  rfl

/-- The two columns of the join of products and items are there. -/
theorem listOptions_joinsExist (request : ListRequest) (subject : Subject) :
    (subject.listOptions request).joins.all
      (joinExists (subject.listOptions request).table) = true := by
  cases hbrings : subject.bringsItems request with
  | false => rw [listOptions_joins hbrings, List.all_nil]
  | true =>
    cases subject with
    | product =>
      rw [listOptions_table]
      show (GetProductList.options request).joins.all _ = true
      rw [GetProductList.options_of_extendWarehouse hbrings]
      rfl
    | _ => cases hbrings

end ListOptions

/-! ## Sizes -/

/-- The table is one of the database. -/
theorem table_ne_invalid (subject : Subject) : subject.table ≠ .invalid := by
  cases subject <;> decide

/-- The rows that pass some tests. -/
theorem matching_group (tests : List RowTest) (tables : Tables) (subject : Subject) :
    subject.matching (some (RowTest.group tests)) tables =
      (RowTest.bindAll (columnType subject.table) tests).map fun predicate =>
        (tables subject.table).filter predicate.selects := by
  have hscope : scopeOf (subject.sizeOptions (some (RowTest.group tests))) = [subject.table] := rfl
  have hparams : selectParams (subject.sizeOptions (some (RowTest.group tests))) =
      tests.flatMap RowTest.params := RowTest.toPqxx_collectParams tests
  unfold matching found
  rw [hscope, hparams, typeIn_singleton, fromRows_of_joins_nil rfl]
  show (bindWhereBy (columnType subject.table) (some (RowTest.group tests)) _ >>= _) = _
  rw [RowTest.bindWhereBy_group]
  cases RowTest.bindAll (columnType subject.table) tests <;> rfl

/-- Without a filter all rows do. -/
theorem matching_none (tables : Tables) (subject : Subject) :
    subject.matching none tables = .ok (tables subject.table) := by
  refine found_eq_ok.mpr ⟨rfl, .and [], rfl, ?_⟩
  rw [fromRows_of_joins_nil rfl]
  exact (List.filter_eq_self.mpr fun row _ => rfl).symm

/-- The number of some rows, as it is sent, is read when it is one of 32 bits. -/
theorem count_eq_ok {count : Nat} {value : Int32} :
    SizeTask.count [[some (toString count)]] = .ok value ↔
      count < 2 ^ 31 ∧ value = Int32.ofNat count := by
  have hparse : Decimal.parse (toString count) = some (count : Int) :=
    Decimal.parse_toString count
  have hread : SizeTask.count [[some (toString count)]] =
      (getInt32 (some (toString count)) >>= required) := rfl
  rw [hread, getInt32, hparse]
  dsimp only
  by_cases hfits : count < 2 ^ 31
  · have hrange : Int32.minValue.toInt ≤ count ∧ (count : Int) ≤ Int32.maxValue.toInt := by
      have hmin : Int32.minValue.toInt = -2147483648 := rfl
      have hmax : Int32.maxValue.toInt = 2147483647 := rfl
      omega
    rw [if_pos hrange, and_iff_right hfits]
    show Except.ok (Int32.ofNat count) = Except.ok value ↔ _
    rw [Except.ok.injEq, eq_comm]
  · have hrange : ¬ (Int32.minValue.toInt ≤ count ∧ (count : Int) ≤ Int32.maxValue.toInt) := by
      have hmax : Int32.maxValue.toInt = 2147483647 := rfl
      omega
    rw [if_neg hrange]
    refine iff_of_false (fun h => ?_) fun h => hfits h.1
    cases h

/-- The response of a size task whose text is answered with a number. -/
theorem respond_sizeTask_of_answer {table : Table} {filter : Option Condition} {text : String}
    (htext : SizeTask.queryString table filter = .ok text) {choices : Nat → Choices}
    {tables : Tables} {answered : Except Exception Nat}
    (h : answer (choices 0) ⟨.raw ⟨text⟩, (QueryFactory.conditionParams filter).toPqxx⟩ tables =
      answered.map fun count => ([[some (toString count)]], tables)) {response : Json} :
    (SizeTask.task table filter).respond (quietDatabase choices).answers tables =
        ⟨response, .success⟩ ↔
      ∃ count, answered = .ok count ∧ count < 2 ^ 31 ∧
        response = SizeTask.json (Int32.ofNat count) := by
  have hprepare : (SizeTask.task table filter).prepare =
      .ok (SizeTask.chain text (QueryFactory.conditionParams filter), []) := by
    simp only [SizeTask.task, htext]
  have hfinish : ∀ (exception : Exception) (memory : Rows) (json : Json),
      SizeTask.finish exception.result memory ≠ .ok (.success, json) := by
    intro exception memory json
    rw [SizeTask.finish, finishDone, if_neg exception.result_ne_success]
    intro heq
    exact exception.result_ne_success (congrArg Prod.fst (Except.ok.inj heq))
  rw [TransactionTask.respond_eq_success hprepare hfinish]
  have hfinished : ∀ count, SizeTask.finish .success [[some (toString count)]] =
      .ok (.success, response) ↔
        count < 2 ^ 31 ∧ response = SizeTask.json (Int32.ofNat count) := by
    intro count
    rw [SizeTask.finish, finishDone, if_pos rfl, Exceptions.map_eq_ok_iff]
    simp only [Exceptions.map_eq_ok_iff, count_eq_ok]
    constructor
    · rintro ⟨json, ⟨value, ⟨hfits, rfl⟩, rfl⟩, heq⟩
      cases heq
      exact ⟨hfits, rfl⟩
    · rintro ⟨hfits, rfl⟩
      exact ⟨_, ⟨_, ⟨hfits, rfl⟩, rfl⟩, rfl⟩
  constructor
  · rintro ⟨after, memory, hruns, hdone⟩
    obtain ⟨rows, middle, ⟨hclocked, -⟩, hnull⟩ := Entry.runsTo_query.mp hruns
    obtain ⟨-, rfl⟩ := Entry.runsTo_null.mp hnull
    obtain ⟨count, hcount, hrows⟩ := Exceptions.map_eq_ok_iff.mp (h.symm.trans hclocked)
    cases hrows
    exact ⟨count, hcount, (hfinished count).mp hdone⟩
  · rintro ⟨count, rfl, hdone⟩
    exact ⟨(1, tables), _, Entry.runsTo_query.mpr ⟨_, (1, tables), ⟨h, rfl⟩,
      Entry.runsTo_null.mpr ⟨rfl, rfl⟩⟩, (hfinished count).mpr hdone⟩

/-- A size task without a text is not answered. -/
theorem respond_sizeTask_of_error {table : Table} {filter : Option Condition}
    (h : ∀ text, SizeTask.queryString table filter ≠ .ok text)
    (answers : Program.Answers Exception Statement Rows Tables) (tables : Tables)
    (response : Json) :
    (SizeTask.task table filter).respond answers tables ≠ ⟨response, .success⟩ := by
  have hprepare : (SizeTask.task table filter).prepare = .error .error := by
    cases htext : SizeTask.queryString table filter with
    | error failed => simp only [SizeTask.task, htext]
    | ok text => exact absurd htext (h text)
  unfold TransactionTask.respond
  rw [hprepare]
  intro heq
  cases heq

/-- A condition that filters become. -/
def IsGroup (filter : Option Condition) : Prop :=
  ∀ condition ∈ filter, ∃ tests, condition = RowTest.group tests

/-- A filter is parsed to one. -/
theorem isGroup_filterOf (dateProvider : DateProvider) (body : Json) :
    IsGroup (filterOf dateProvider body) := by
  intro condition hcondition
  obtain ⟨filters, -, -, rfl⟩ := filterOf_eq_some.mp (Option.mem_def.mp hcondition)
  exact ⟨_, rfl⟩

/-- A size task answers the number of the rows that pass its filter, when it is one of 32 bits. -/
theorem respond_sizeTask {filter : Option Condition} (hfilter : IsGroup filter)
    (choices : Nat → Choices) (tables : Tables) (subject : Subject) (response : Json) :
    (subject.sizeTask filter).respond (quietDatabase choices).answers tables =
        ⟨response, .success⟩ ↔
      ∃ rows, subject.matching filter tables = .ok rows ∧ rows.length < 2 ^ 31 ∧
        response = SizeTask.json (Int32.ofNat rows.length) := by
  have htask : subject.sizeTask filter = SizeTask.task subject.table filter := by
    cases subject <;> rfl
  have hcounted : ∀ {text : String}, SizeTask.queryString subject.table filter = .ok text →
      answer (choices 0) ⟨.raw ⟨text⟩, (QueryFactory.conditionParams filter).toPqxx⟩ tables =
        ((subject.matching filter tables).map List.length).map
          (fun count => ([[some (toString count)]], tables)) →
      ((SizeTask.task subject.table filter).respond (quietDatabase choices).answers tables =
          ⟨response, .success⟩ ↔
        ∃ rows, subject.matching filter tables = .ok rows ∧ rows.length < 2 ^ 31 ∧
          response = SizeTask.json (Int32.ofNat rows.length)) := by
    intro text htext hanswer
    rw [respond_sizeTask_of_answer htext hanswer]
    cases subject.matching filter tables <;> simp [Except.map]
  rw [htask]
  cases filter with
  | none =>
    obtain ⟨text, htext, hanswer⟩ := answer_countText (choices 0) subject.table_ne_invalid
      (fun test h => absurd h List.not_mem_nil) tables
    have hall : (tables subject.table).filter (Predicate.and []).selects =
        tables subject.table := List.filter_eq_self.mpr fun row _ => rfl
    refine hcounted htext (hanswer.trans ?_)
    rw [matching_none]
    exact congrArg (fun rows : List TableRow =>
      Except.ok ([[some (toString rows.length)]], tables)) hall
  | some condition =>
    obtain ⟨tests, rfl⟩ := hfilter condition rfl
    by_cases hwritten : tests ≠ [] ∧ ∀ test ∈ tests, test.writable = true
    · obtain ⟨text, htext, hanswer⟩ := answer_countText (choices 0) subject.table_ne_invalid
        hwritten.2 tables
      have hempty : ¬ tests.isEmpty = true := by simpa using hwritten.1
      rw [countText, if_neg hempty] at htext
      rw [if_neg hempty] at hanswer
      have hparams : (QueryFactory.conditionParams (some (RowTest.group tests))).toPqxx =
          tests.flatMap RowTest.params := RowTest.toPqxx_collectParams tests
      refine hcounted htext ?_
      rw [hparams, hanswer, matching_group]
      cases RowTest.bindAll (columnType subject.table) tests <;> rfl
    · -- There is no text, and the database would refuse the statement, too.
      refine iff_of_false (respond_sizeTask_of_error (fun text htext => hwritten ?_) _ _ _) ?_
      · obtain ⟨written, hwritten, -⟩ := Exceptions.map_eq_ok_iff.mp htext
        rw [← RowTest.wellFormed_group, ← (RowTest.group tests).succeeds_toString {}, hwritten]
        rfl
      · rintro ⟨rows, hrows, -⟩
        rw [matching_group] at hrows
        obtain ⟨predicate, hpredicate, -⟩ := Exceptions.map_eq_ok_iff.mp hrows
        obtain ⟨hne, htypes⟩ := RowTest.exists_bindAll.mp ⟨predicate, hpredicate⟩
        refine hwritten ⟨hne, fun test htest => ?_⟩
        obtain ⟨type, htype, -⟩ := htypes test htest
        cases test with
        | compare column comparison value => rfl
        | isNull column =>
          refine bne_iff_ne.mpr fun heq => ?_
          subst heq
          cases subject <;> cases htype

end Subject

/-! ## Three users -/

/-- A user whom the superuser has created. -/
def ordinaryUser (id : Int) (login : String) : TableRow
  | .userId => some (.integer id)
  | .login => some (.text login)
  | .passwordHashed => some (.text "00")
  | .name => some (.text login)
  | .createdDate => some (.integer (10 * id))
  | .createdBy => some (.integer 1)
  | _ => none

/-- The tables with two users besides the superuser. -/
def threeUsers : Tables
  | .user => [superuser, ordinaryUser 2 "keeper", ordinaryUser 3 "driver"]
  | _ => []

/-- They meet the constraints. -/
theorem threeUsers_integral : Integral schema threeUsers where
  conforms := by
    intro table row hrow
    cases table <;> simp only [threeUsers, List.not_mem_nil, List.mem_cons, or_false] at hrow
    rcases hrow with rfl | rfl | rfl <;> decide
  keys_nodup := by
    intro table
    cases table <;> decide

/-- Who was created by the superuser and has an id below ten. -/
def createdFilters : Json :=
  .array [equalFilter "created_by" 1,
    .object [("key", .string "user_id"), ("type", .string "<"), ("value", .unsigned 10)]]

end TaskMgr.Tasks

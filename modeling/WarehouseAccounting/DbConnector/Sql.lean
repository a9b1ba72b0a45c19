import WarehouseAccounting.DbConnector.InitializeTables
import WarehouseAccounting.DbConnector.Script

/-!
# What the database does with a statement

The meaning of the statements that the queries of `db_connector/query` serialize to, on the
tables of `initialize_tables.h`: the bound parameters are read by the types of the columns, the
triggers are run, and the declared constraints are checked.

- `Answers`: the answers that a statement can get, with the tables it leaves.
- `Answers.integral`: no statement breaks a declared constraint.
-/

namespace Srv.Db.Sql

open Relational DbMgr.Scpts Trsct

/-- What is open when a statement is executed. -/
structure Choices where
  /-- The numbers that the sequence of a table yields during the statement. -/
  identity : Table → Nat → Int
  identity_pos : ∀ table index, 0 < identity table index
  /-- The order in which rows are found. -/
  arrange : List TableRow → List TableRow
  arrange_perm : ∀ rows, (arrange rows).Perm rows
  /-- The answer to a statement that joins tables or has a text of its own, which only reads. -/
  answer : Rows

/-! ## Parameters -/

/-- The type of a column, which must be one of the table. -/
def columnType (table : Table) (column : Column) : Except Exception ColumnType :=
  match schema.typeOf table column with
  | some type => .ok type
  | none => .error .other

/-- A bound parameter as a value of a type; no text is null. -/
def bindValue (type : ColumnType) : Option String → Except Exception (Option Value)
  | none => .ok none
  | some text =>
    match type.parse text with
    | some value => .ok (some value)
    | none => .error .other

/-- The first parameters as values of some columns, with the remaining parameters. -/
def bindParams (table : Table) :
    List Column → List (Option String) →
      Except Exception (List (Option Value) × List (Option String))
  | [], params => .ok ([], params)
  | _ :: _, [] => .error .other
  | column :: columns, param :: params => do
    let type ← columnType table column
    let value ← bindValue type param
    let (values, params) ← bindParams table columns params
    return (value :: values, params)

/-- The first parameters as rows of values. -/
def bindRows (table : Table) (columns : List Column) :
    Nat → List (Option String) →
      Except Exception (List (List (Option Value)) × List (Option String))
  | 0, params => .ok ([], params)
  | count + 1, params => do
    let (values, params) ← bindParams table columns params
    let (rows, params) ← bindRows table columns count params
    return (values :: rows, params)

/-- The comparison that a condition is written with. -/
def comparisonOf : RealConditionType → Comparison
  | .equal => .equal
  | .less => .less
  | .greater => .greater
  | .notEqual => .notEqual
  | .notLess => .notLess
  | .notGreater => .notGreater

mutual

/-- A condition with the values of its parameters, and the remaining parameters. -/
def bindCondition (table : Table) :
    Condition → List (Option String) →
      Except Exception (Predicate Column × List (Option String))
  | .group type conditions, params => do
    if conditions.isEmpty then
      throw .other
    let (predicates, params) ← bindConditions table conditions params
    match type with
    | .and => return (.and predicates, params)
    | .or => return (.or predicates, params)
  | .real column _ type, params => do
    let (values, params) ← bindParams table [column] params
    return (.compare column (comparisonOf type) (values.head?.join), params)
  | .inList column values, params => do
    if values.isEmpty then
      throw .other
    let (values, params) ← bindParams table (values.map fun _ => column) params
    return (.among column values, params)
  | .not condition, params => do
    let (predicate, params) ← bindCondition table condition params
    return (.not predicate, params)
  | .isNull column, params => do
    let _ ← columnType table column
    return (.isNull column, params)

/-- The conditions of a group. -/
def bindConditions (table : Table) :
    List Condition → List (Option String) →
      Except Exception (List (Predicate Column) × List (Option String))
  | [], params => .ok ([], params)
  | condition :: conditions, params => do
    let (predicate, params) ← bindCondition table condition params
    let (predicates, params) ← bindConditions table conditions params
    return (predicate :: predicates, params)

end

/-- The rest of a statement: its condition, which all parameters that are left belong to. -/
def bindWhere (table : Table) (condition : Option Condition) (params : List (Option String)) :
    Except Exception (Predicate Column) := do
  match condition with
  | none => if params.isEmpty then return .and [] else throw .other
  | some condition =>
    let (predicate, rest) ← bindCondition table condition params
    if rest.isEmpty then return predicate else throw .other

/-- The columns are columns of the table. -/
def areColumns (table : Table) (columns : List Column) : Bool :=
  columns.all fun column => (schema.typeOf table column).isSome

/-- The columns can be written: none of them twice, and none that is generated. -/
def areWritable (table : Table) (columns : List Column) : Bool :=
  !columns.isEmpty && areColumns table columns && columns.Nodup &&
    columns.all fun column => (tableSchema table).identity ≠ some column

/-- A row as it is sent. -/
def project (columns : List Column) (row : TableRow) : List (Option String) :=
  columns.map fun column => (row column).map Value.toText

/-- The values given for some columns. -/
def assigned (columns : List Column) (values : List (Option Value)) (column : Column) :
    Option (Option Value) :=
  (columns.zip values).lookup column

/-- A value that is given is the value of its parameter. -/
theorem assigned_of_mem {table : Table} {columns : List Column} {params rest : List (Option String)}
    {fields : List (Option Value)} (h : bindParams table columns params = .ok (fields, rest))
    (hnodup : columns.Nodup) {column : Column} {param : Option String}
    (hmem : (column, param) ∈ columns.zip params) :
    ∃ type field, columnType table column = .ok type ∧ bindValue type param = .ok field ∧
      assigned columns fields column = some field := by
  induction columns generalizing params fields with
  | nil => cases hmem
  | cons other columns ih =>
    match params with
    | [] => cases hmem
    | otherParam :: params =>
      rw [bindParams] at h
      rcases htype : columnType table other with exception | type
      · rw [htype] at h
        cases h
      · rcases hvalue : bindValue type otherParam with exception | value
        · rw [htype] at h
          simp [bind, Except.bind, hvalue] at h
        · rcases hbind : bindParams table columns params with exception | ⟨fields', rest'⟩
          · rw [htype] at h
            simp [bind, Except.bind, hvalue, hbind] at h
          · rw [htype] at h
            simp only [bind, Except.bind, hvalue, hbind, pure, Except.pure, Except.ok.injEq,
              Prod.mk.injEq] at h
            obtain ⟨rfl, rfl⟩ := h
            rcases List.mem_cons.mp hmem with hfirst | hmem
            · cases hfirst
              exact ⟨type, value, htype, hvalue, by simp [assigned]⟩
            · obtain ⟨hother, hnodup⟩ := List.nodup_cons.mp hnodup
              obtain ⟨type', field, htype', hfield, hassigned⟩ := ih hbind hnodup hmem
              refine ⟨type', field, htype', hfield, ?_⟩
              -- It is not the first column, which is given once.
              have hne : (column == other) = false := by
                refine beq_false_of_ne fun heq => hother ?_
                rw [← heq]
                exact (List.of_mem_zip hmem).1
              rw [assigned, List.zip_cons_cons, List.lookup_cons, hne]
              exact hassigned

/-- A column that is not given has no value. -/
theorem assigned_of_notMem {columns : List Column} {fields : List (Option Value)}
    {column : Column} (h : column ∉ columns) : assigned columns fields column = none := by
  induction columns generalizing fields with
  | nil => rfl
  | cons other columns ih =>
    match fields with
    | [] => rfl
    | field :: fields =>
      have hne : (column == other) = false := beq_false_of_ne (List.ne_of_not_mem_cons h)
      rw [assigned, List.zip_cons_cons, List.lookup_cons, hne]
      exact ih (List.not_mem_of_not_mem_cons h)

/-! ## Statements -/

/-- The order of `ORDER BY`, in which null is the greatest. -/
def orderedBefore (orderType : OrderType) (column : Column) (row other : TableRow) : Bool :=
  let before : Option Value → Option Value → Bool
    | some value, some other => !other.precedes value
    | none, some _ => false
    | _, none => true
  match orderType with
  | .asc => before (row column) (other column)
  | .desc => before (other column) (row column)

/-- `SELECT`. -/
def select (choices : Choices) (options : SelectOptions) (params : List (Option String))
    (tables : Tables) : Except Exception Rows := do
  let columns :=
    if options.columns.isEmpty then (tableSchema options.table).columns.map Prod.fst
    else options.columns
  unless areColumns options.table (columns ++ options.orderBy.toList) do
    throw .other
  let predicate ← bindWhere options.table options.condition params
  let found := choices.arrange ((tables options.table).filter predicate.selects)
  let ordered :=
    match options.orderBy with
    | none => found
    | some column => found.mergeSort (orderedBefore options.orderType column)
  if (options.limit.getD 0).toInt < 0 ∨ (options.offset.getD 0).toInt < 0 then
    throw .other
  let skipped := ordered.drop (options.offset.getD 0).toInt.toNat
  let rows :=
    match options.limit with
    | none => skipped
    | some limit => skipped.take limit.toInt.toNat
  return rows.map (project columns)

/-- A row that is inserted: its generated number, the given values, and null. -/
def insertedRow (choices : Choices) (table : Table) (columns : List Column) (index : Nat)
    (values : List (Option Value)) : TableRow :=
  fillPrettyName table fun column =>
    if (tableSchema table).identity = some column then
      some (.integer (choices.identity table index))
    else
      (assigned columns values column).join

/-- The rows that the triggers add after some rows were inserted. -/
def triggeredRows (choices : Choices) (table : Table) (rows : List TableRow) (tables : Tables) :
    List TableRow :=
  let operations := if table = .invoiceItem then rows.flatMap (addOperations tables) else []
  operations.mapIdx fun index row column =>
    if column = .operationId then some (.integer (choices.identity .operation index))
    else row column

/-- `INSERT`. -/
def insert (choices : Choices) (options : InsertOptions) (params : List (Option String))
    (tables : Tables) : Except Exception (Rows × List (Write Table Column)) := do
  unless areWritable options.table options.columns && areColumns options.table options.returning &&
      options.valuesCount ≠ 0 do
    throw .other
  let (values, rest) ← bindRows options.table options.columns options.valuesCount params
  unless rest.isEmpty do
    throw .other
  let rows := values.mapIdx (insertedRow choices options.table options.columns)
  let inserts := rows.map (Write.insert options.table)
  let triggered := triggeredRows choices options.table rows (applyAll schema inserts tables)
  let answer := if options.returning.isEmpty then [] else rows.map (project options.returning)
  return (answer, inserts ++ triggered.map (Write.insert .operation))

/-- A row with some values changed. -/
def updatedRow (table : Table) (columns : List Column) (values : List (Option Value))
    (row : TableRow) : TableRow :=
  fillPrettyName table fun column => (assigned columns values column).getD (row column)

/-- `UPDATE`. A row with another primary key is another row. -/
def update (options : UpdateOptions) (params : List (Option String)) (tables : Tables) :
    Except Exception (List (Write Table Column)) := do
  unless areWritable options.table options.columns && options.condition.isSome do
    throw .other
  let (values, rest) ← bindParams options.table options.columns params
  let predicate ← bindWhere options.table options.condition rest
  return ((tables options.table).filter predicate.selects).flatMap fun row =>
    let updated := updatedRow options.table options.columns values row
    if schema.keyOf options.table updated = schema.keyOf options.table row then
      [.replace (schema.keyOf options.table row) updated]
    else
      [.delete (schema.keyOf options.table row), .insert options.table updated]

/-- `DELETE`. -/
def delete (options : DeleteOptions) (params : List (Option String)) (tables : Tables) :
    Except Exception (List (Write Table Column)) := do
  unless options.condition.isSome do
    throw .other
  let predicate ← bindWhere options.table options.condition params
  return ((tables options.table).filter predicate.selects).map fun row =>
    .delete (schema.keyOf options.table row)

/-- The rows of an insertion that is performed. -/
theorem insert_eq_ok {choices : Choices} {options : InsertOptions} {params : List (Option String)}
    {tables : Tables} {answer : Rows} {writes : List (Write Table Column)} :
    insert choices options params tables = .ok (answer, writes) ↔
      (areWritable options.table options.columns && areColumns options.table options.returning &&
          options.valuesCount ≠ 0) = true ∧
        ∃ values, bindRows options.table options.columns options.valuesCount params =
            .ok (values, []) ∧
          let rows := values.mapIdx (insertedRow choices options.table options.columns)
          let inserts := rows.map (Write.insert options.table)
          answer =
            (if options.returning.isEmpty then [] else rows.map (project options.returning)) ∧
            writes = inserts ++ (triggeredRows choices options.table rows
              (applyAll schema inserts tables)).map (Write.insert .operation) := by
  unfold insert
  cases hwritable : (areWritable options.table options.columns &&
      areColumns options.table options.returning && options.valuesCount ≠ 0)
  · simp [bind, Except.bind, throw, throwThe, MonadExceptOf.throw]
  · rcases hbind : bindRows options.table options.columns options.valuesCount params with
      exception | ⟨values, _ | ⟨param, rest⟩⟩
    · simp [bind, Except.bind]
    · simp only [bind, Except.bind, pure, Except.pure, if_true, List.isEmpty_nil, true_and]
      constructor
      · intro h
        cases h
        exact ⟨values, rfl, rfl, rfl⟩
      · rintro ⟨values', hvalues, hanswer, hwrites⟩
        cases hvalues
        rw [hanswer, hwrites]
    · simp [bind, Except.bind, throw, throwThe, MonadExceptOf.throw]

/-- Only items have triggers that add rows. -/
@[simp]
theorem triggeredRows_of_ne {table : Table} (h : table ≠ .invoiceItem) (choices : Choices)
    (rows : List TableRow) (tables : Tables) : triggeredRows choices table rows tables = [] := by
  simp [triggeredRows, h]

/-- What a statement answers, and the rows it writes. -/
def perform (choices : Choices) (statement : Statement) (tables : Tables) :
    Except Exception (Rows × List (Write Table Column)) :=
  match statement.options with
  | .select options =>
    if options.joins.isEmpty then
      (select choices options statement.params tables).map fun rows => (rows, [])
    else
      .ok (choices.answer, [])
  | .insert options => insert choices options statement.params tables
  | .update options => (update options statement.params tables).map fun writes => ([], writes)
  | .delete options => (delete options statement.params tables).map fun writes => ([], writes)
  | .raw _ => .ok (choices.answer, [])

/-- A statement, which is refused when its writes break a constraint. -/
def execute (choices : Choices) (statement : Statement) (tables : Tables) :
    Except Exception (Rows × List (Write Table Column)) := do
  let (rows, writes) ← perform choices statement tables
  if accepts schema writes tables then
    return (rows, writes)
  else
    throw .integrityConstraintViolation

/-- The statement can be answered by these rows, and leaves these tables. -/
def Answers (tables : Tables) (statement : Statement) (rows : Rows) (tables' : Tables) : Prop :=
  ∃ choices writes, execute choices statement tables = .ok (rows, writes) ∧
    tables' = applyAll schema writes tables

/-- A statement that is executed has been performed, and its writes are accepted. -/
theorem execute_eq_ok {choices : Choices} {statement : Statement} {tables : Tables} {rows : Rows}
    {writes : List (Write Table Column)} :
    execute choices statement tables = .ok (rows, writes) ↔
      perform choices statement tables = .ok (rows, writes) ∧
        accepts schema writes tables = true := by
  unfold execute
  rcases hperform : perform choices statement tables with exception | ⟨rows', writes'⟩
  · simp [bind, Except.bind]
  · by_cases haccepts : accepts schema writes' tables = true
    · simp only [bind, Except.bind, haccepts, if_true, pure, Except.pure, Except.ok.injEq,
        Prod.mk.injEq]
      constructor
      · rintro ⟨rfl, rfl⟩
        exact ⟨⟨rfl, rfl⟩, haccepts⟩
      · rintro ⟨⟨rfl, rfl⟩, -⟩
        exact ⟨rfl, rfl⟩
    · simp only [bind, Except.bind, haccepts, throw, throwThe, MonadExceptOf.throw]
      constructor
      · intro h
        cases h
      · rintro ⟨h, haccepted⟩
        cases h
        exact absurd haccepted haccepts

/-- An insertion without parameters is never performed. -/
theorem perform_insert_nil_ne_ok {choices : Choices} {options : InsertOptions} {tables : Tables}
    {rows : Rows} {writes : List (Write Table Column)} :
    perform choices ⟨.insert options, []⟩ tables ≠ .ok (rows, writes) := by
  intro hperform
  obtain ⟨hwritable, values, hvalues, -⟩ := insert_eq_ok.mp hperform
  simp only [areWritable, Bool.and_eq_true, Bool.not_eq_true', decide_eq_true_eq] at hwritable
  obtain ⟨⟨⟨⟨⟨hcolumns, -⟩, -⟩, -⟩, -⟩, hcount⟩ := hwritable
  -- There is a first row, and a first column of it.
  obtain ⟨count, hcount⟩ := Nat.exists_eq_succ_of_ne_zero hcount
  rcases hnames : options.columns with _ | ⟨column, columns⟩
  · simp [hnames] at hcolumns
  · rw [hcount, hnames, bindRows, bindParams] at hvalues
    cases hvalues

/-- So it is never answered. -/
theorem not_answers_insert_nil {options : InsertOptions} {tables tables' : Tables} {rows : Rows} :
    ¬ Answers tables ⟨.insert options, []⟩ rows tables' := by
  rintro ⟨choices, writes, hexecute, -⟩
  exact perform_insert_nil_ne_ok (execute_eq_ok.mp hexecute).1

/-- No statement breaks a declared constraint. -/
theorem Answers.integral {tables tables' : Tables} {statement : Statement} {rows : Rows}
    (h : Answers tables statement rows tables') (hintegral : Integral schema tables) :
    Integral schema tables' := by
  obtain ⟨choices, writes, hexecute, rfl⟩ := h
  have haccepts := (execute_eq_ok.mp hexecute).2
  rw [accepts, Bool.and_eq_true] at haccepts
  exact hintegral.applyAll haccepts.1

end Srv.Db.Sql

import WarehouseAccounting.DbConnector.Sql
import Mathlib.Logic.Function.Basic

/-!
# What the database answers to a statement that reads

The rows of a `SELECT`, also of one with joins, where a column that is written without its table
must be a column of one table only, and the number of rows that a `SELECT COUNT(*)` finds.

- `read_eq_select`: without joins this is the `SELECT` of one table.
-/

namespace Srv.Db.Sql

open Relational DbMgr.Scpts Trsct

/-! ## Columns in scope -/

/-- The tables that a `SELECT` names. -/
def scopeOf (options : SelectOptions) : List Table :=
  options.table :: options.joins.map Join.joiningTable

/-- The table of a column that is written without one. -/
def tableOf (scope : List Table) (column : Column) : Except Exception Table :=
  match scope.filter fun table => (schema.typeOf table column).isSome with
  | [table] => .ok table
  | _ => .error .other

/-- The type of a column that is written without its table. -/
def typeIn (scope : List Table) (column : Column) : Except Exception ColumnType := do
  columnType (← tableOf scope column) column

/-- In the scope of one table the columns are those of the table. -/
theorem typeIn_singleton (table : Table) : typeIn [table] = columnType table := by
  funext column
  unfold typeIn tableOf columnType
  rcases htype : schema.typeOf table column with _ | type
  · rw [List.filter_cons_of_neg (by rw [htype]; exact Bool.false_ne_true)]
    rfl
  · rw [List.filter_cons_of_pos (by rw [htype]; rfl)]
    show columnType table column = .ok type
    rw [columnType, htype]

/-! ## Conditions -/

section Conditions

variable (types : Column → Except Exception ColumnType)

/-- The first parameters as values of some columns, whose types are given, with the remaining
parameters. -/
def bindParamsBy :
    List Column → List (Option String) →
      Except Exception (List (Option Value) × List (Option String))
  | [], params => .ok ([], params)
  | _ :: _, [] => .error .other
  | column :: columns, param :: params => do
    let type ← types column
    let value ← bindValue type param
    let (values, params) ← bindParamsBy columns params
    return (value :: values, params)

mutual

/-- A condition with the values of its parameters, and the remaining parameters. -/
def bindConditionBy :
    Condition → List (Option String) →
      Except Exception (Predicate Column × List (Option String))
  | .group type conditions, params => do
    if conditions.isEmpty then
      throw .other
    let (predicates, params) ← bindConditionsBy conditions params
    match type with
    | .and => return (.and predicates, params)
    | .or => return (.or predicates, params)
  | .real column _ type, params => do
    let (values, params) ← bindParamsBy types [column] params
    return (.compare column (comparisonOf type) (values.head?.join), params)
  | .inList column values, params => do
    if values.isEmpty then
      throw .other
    let (values, params) ← bindParamsBy types (values.map fun _ => column) params
    return (.among column values, params)
  | .not condition, params => do
    let (predicate, params) ← bindConditionBy condition params
    return (.not predicate, params)
  | .isNull column, params => do
    let _ ← types column
    return (.isNull column, params)

/-- The conditions of a group. -/
def bindConditionsBy :
    List Condition → List (Option String) →
      Except Exception (List (Predicate Column) × List (Option String))
  | [], params => .ok ([], params)
  | condition :: conditions, params => do
    let (predicate, params) ← bindConditionBy condition params
    let (predicates, params) ← bindConditionsBy conditions params
    return (predicate :: predicates, params)

end

/-- The condition of a statement, which all parameters belong to. -/
def bindWhereBy (condition : Option Condition) (params : List (Option String)) :
    Except Exception (Predicate Column) := do
  match condition with
  | none => if params.isEmpty then return .and [] else throw .other
  | some condition =>
    let (predicate, rest) ← bindConditionBy types condition params
    if rest.isEmpty then return predicate else throw .other

/-- With the types of a table these are the parameters of that table. -/
theorem bindParamsBy_columnType (table : Table) (columns : List Column)
    (params : List (Option String)) :
    bindParamsBy (columnType table) columns params = bindParams table columns params := by
  induction columns generalizing params with
  | nil => rfl
  | cons column columns ih =>
    cases params with
    | nil => rfl
    | cons param params => rw [bindParamsBy, bindParams, ih]

mutual

/-- With the types of a table this is the condition of that table. -/
theorem bindConditionBy_columnType (table : Table) (condition : Condition)
    (params : List (Option String)) :
    bindConditionBy (columnType table) condition params = bindCondition table condition params := by
  match condition with
  | .group type conditions =>
    cases type <;>
      simp only [bindConditionBy, bindCondition,
        bindConditionsBy_columnType table conditions params]
  | .real column value type =>
    rw [bindConditionBy, bindCondition, bindParamsBy_columnType]
  | .inList column values =>
    rw [bindConditionBy, bindCondition, bindParamsBy_columnType]
  | .not condition =>
    rw [bindConditionBy, bindCondition, bindConditionBy_columnType table condition params]
  | .isNull column =>
    rw [bindConditionBy, bindCondition]

/-- With the types of a table these are the conditions of that table. -/
theorem bindConditionsBy_columnType (table : Table) (conditions : List Condition)
    (params : List (Option String)) :
    bindConditionsBy (columnType table) conditions params =
      bindConditions table conditions params := by
  match conditions with
  | [] => rw [bindConditionsBy, bindConditions]
  | condition :: conditions =>
    rw [bindConditionsBy, bindConditions, bindConditionBy_columnType table condition params]
    congr 1
    funext ⟨predicate, rest⟩
    dsimp only
    rw [bindConditionsBy_columnType table conditions rest]

end

/-- With the types of a table this is the `WHERE` of that table. -/
theorem bindWhereBy_columnType (table : Table) (condition : Option Condition)
    (params : List (Option String)) :
    bindWhereBy (columnType table) condition params = bindWhere table condition params := by
  cases condition with
  | none => rfl
  | some condition => rw [bindWhereBy, bindWhere, bindConditionBy_columnType]

end Conditions

/-! ## Joins -/

/-- A row of every table of a join. -/
abbrev JoinedRow := Table → TableRow

/-- The rows that a join finds for a row on its left side. -/
def joiningRows (tables : Tables) (table : Table) (join : Join) (left : JoinedRow) :
    List TableRow :=
  (tables join.joiningTable).filter fun row =>
    Predicate.compareNullable .equal (left (join.leftTable.getD table) join.leftColumn)
      (row join.joiningColumn) = some true

/-- The rows after one more join. -/
def joinRows (tables : Tables) (table : Table) (rows : List JoinedRow) (join : Join) :
    List JoinedRow :=
  let combine (left : JoinedRow) (row : TableRow) := Function.update left join.joiningTable row
  let inner := rows.flatMap fun left => (joiningRows tables table join left).map (combine left)
  match join.type with
  | .inner => inner
  | .left => rows.flatMap fun left =>
    let found := joiningRows tables table join left
    (if found.isEmpty then [fun _ => none] else found).map (combine left)
  | .right =>
    inner ++ ((tables join.joiningTable).filter fun row => rows.all fun left =>
      Predicate.compareNullable .equal (left (join.leftTable.getD table) join.leftColumn)
        (row join.joiningColumn) ≠ some true).map (combine fun _ _ => none)

/-- The two columns of a join are there. -/
def joinExists (table : Table) (join : Join) : Bool :=
  (schema.typeOf (join.leftTable.getD table) join.leftColumn).isSome &&
    (schema.typeOf join.joiningTable join.joiningColumn).isSome

/-- A joined row with one value for each column. A column of more than one table, which must be
written with its table, is only ever written with the table of the query. -/
def flatten (options : SelectOptions) (row : JoinedRow) : TableRow := fun column =>
  match tableOf (scopeOf options) column with
  | .ok table => row table column
  | .error _ => row options.table column

/-- The rows of the tables of a `SELECT`, joined. -/
def fromRows (tables : Tables) (options : SelectOptions) : List TableRow :=
  (options.joins.foldl (joinRows tables options.table)
    ((tables options.table).map fun row _ => row)).map (flatten options)

/-- Without joins these are the rows of the table. -/
theorem fromRows_of_joins_nil {options : SelectOptions} (h : options.joins = [])
    (tables : Tables) : fromRows tables options = tables options.table := by
  unfold fromRows
  rw [h, List.foldl_nil, List.map_map]
  have hflatten : (flatten options ∘ fun (row : TableRow) (_ : Table) => row) = id := by
    funext row column
    show flatten options (fun _ => row) column = row column
    unfold flatten
    cases tableOf (scopeOf options) column <;> rfl
  rw [hflatten, List.map_id]

/-! ## Statements that read -/

/-- The rows that a `SELECT` finds, before they are put in order. -/
def found (options : SelectOptions) (params : List (Option String)) (tables : Tables) :
    Except Exception (List TableRow) := do
  unless options.joins.all (joinExists options.table) do
    throw .other
  let predicate ← bindWhereBy (typeIn (scopeOf options)) options.condition params
  return (fromRows tables options).filter predicate.selects

/-- The rows that are found are those that the condition selects. -/
theorem found_eq_ok {options : SelectOptions} {params : List (Option String)} {tables : Tables}
    {rows : List TableRow} :
    found options params tables = .ok rows ↔
      options.joins.all (joinExists options.table) = true ∧
        ∃ predicate,
          bindWhereBy (typeIn (scopeOf options)) options.condition params = .ok predicate ∧
            rows = (fromRows tables options).filter predicate.selects := by
  unfold found
  cases options.joins.all (joinExists options.table)
  · simp [bind, Except.bind, throw, throwThe, MonadExceptOf.throw]
  · rcases bindWhereBy (typeIn (scopeOf options)) options.condition params with
      exception | predicate
    · simp [bind, Except.bind]
    · simp [bind, Except.bind, pure, Except.pure, eq_comm (a := rows)]

/-- The columns of the answer. A column on the left side of a join is written with its table. -/
def outputsExist (options : SelectOptions) : Bool :=
  options.columns.all fun column =>
    if options.joins.any fun join => join.leftColumn = column then
      (schema.typeOf options.table column).isSome
    else
      (typeIn (scopeOf options) column).isOk

/-- The column of `ORDER BY` is one of the answer, or can be written without its table. -/
def orderExists (options : SelectOptions) : Bool :=
  options.orderBy.all fun column =>
    column ∈ options.columns || (typeIn (scopeOf options) column).isOk

/-- The rows in their order. -/
def ordered (choices : Choices) (options : SelectOptions) (rows : List TableRow) :
    List TableRow :=
  match options.orderBy with
  | none => choices.arrange rows
  | some column => (choices.arrange rows).mergeSort (orderedBefore options.orderType column)

/-- The rows that limit and offset leave. -/
def page (options : SelectOptions) (rows : List TableRow) : List TableRow :=
  let skipped := rows.drop (options.offset.getD 0).toInt.toNat
  match options.limit with
  | none => skipped
  | some limit => skipped.take limit.toInt.toNat

/-- Limit and offset can be executed. -/
def pageExists (options : SelectOptions) : Bool :=
  0 ≤ (options.limit.getD 0).toInt && 0 ≤ (options.offset.getD 0).toInt

/-- The rows that a `SELECT` of named columns sends, with all their columns. -/
def selected (choices : Choices) (options : SelectOptions) (params : List (Option String))
    (tables : Tables) : Except Exception (List TableRow) := do
  unless outputsExist options && orderExists options do
    throw .other
  let rows ← found options params tables
  unless pageExists options do
    throw .other
  return page options (ordered choices options rows)

/-- The answer to a `SELECT` of named columns. -/
def read (choices : Choices) (options : SelectOptions) (params : List (Option String))
    (tables : Tables) : Except Exception Rows :=
  (selected choices options params tables).map fun rows => rows.map (project options.columns)

/-- The rows that are sent are those found, in their order, and of them those on the page. -/
theorem selected_eq_ok {choices : Choices} {options : SelectOptions}
    {params : List (Option String)} {tables : Tables} {rows : List TableRow} :
    selected choices options params tables = .ok rows ↔
      (outputsExist options && orderExists options) = true ∧ pageExists options = true ∧
        ∃ all, found options params tables = .ok all ∧
          rows = page options (ordered choices options all) := by
  unfold selected
  cases outputsExist options && orderExists options
  · simp [bind, Except.bind, throw, throwThe, MonadExceptOf.throw]
  · rcases found options params tables with exception | all
    · simp [bind, Except.bind]
    · cases pageExists options
      · simp [bind, Except.bind, throw, throwThe, MonadExceptOf.throw]
      · simp [bind, Except.bind, pure, Except.pure, eq_comm (a := rows)]

/-- Ordering and arranging rows loses none of them and adds none. -/
theorem ordered_perm (choices : Choices) (options : SelectOptions) (rows : List TableRow) :
    (ordered choices options rows).Perm rows := by
  unfold ordered
  split
  · exact choices.arrange_perm rows
  · exact (List.mergeSort_perm _ _).trans (choices.arrange_perm rows)

/-- Without limit and offset all rows are on the page. -/
theorem page_of_unlimited {options : SelectOptions} (hlimit : options.limit = none)
    (hoffset : (options.offset.getD 0).toInt = 0) (rows : List TableRow) :
    page options rows = rows := by
  unfold page
  rw [hlimit, hoffset]
  rfl

/-- What is on the page is one of the rows. -/
theorem mem_of_mem_page {options : SelectOptions} {rows : List TableRow} {row : TableRow}
    (h : row ∈ page options rows) : row ∈ rows := by
  unfold page at h
  dsimp only at h
  split at h
  · exact List.mem_of_mem_drop h
  · exact List.mem_of_mem_drop (List.mem_of_mem_take h)

/-- The type of a column is there when the column is one of the table. -/
theorem isOk_columnType (table : Table) (column : Column) :
    (columnType table column).isOk = (schema.typeOf table column).isSome := by
  unfold columnType
  cases schema.typeOf table column <;> rfl

/-- Without joins the columns of the answer and of the order are those of the table. -/
theorem outputsExist_of_joins_nil {options : SelectOptions} (h : options.joins = []) :
    (outputsExist options && orderExists options) =
      areColumns options.table (options.columns ++ options.orderBy.toList) := by
  have hscope : scopeOf options = [options.table] := by
    rw [scopeOf, h, List.map_nil]
  have houtputs : outputsExist options = areColumns options.table options.columns := by
    unfold outputsExist areColumns
    simp [h, hscope, typeIn_singleton, isOk_columnType]
  have hall : areColumns options.table (options.columns ++ options.orderBy.toList) =
      (areColumns options.table options.columns &&
        areColumns options.table options.orderBy.toList) := List.all_append
  rw [houtputs, hall]
  cases hcolumns : areColumns options.table options.columns with
  | false => rfl
  | true =>
    unfold orderExists
    cases options.orderBy with
    | none => rfl
    | some column =>
      have hmem : column ∈ options.columns → (schema.typeOf options.table column).isSome :=
        fun hmem => List.all_eq_true.mp hcolumns column hmem
      have hone : areColumns options.table (some column).toList =
          (schema.typeOf options.table column).isSome := Bool.and_true _
      rw [hone, Option.all_some, hscope, typeIn_singleton, isOk_columnType, Bool.true_and,
        Bool.true_and]
      by_cases hcolumn : column ∈ options.columns
      · simp [hcolumn, hmem hcolumn]
      · simp [hcolumn]

/-- Without joins, and with columns that are named, this is the `SELECT` of one table. -/
theorem read_eq_select {options : SelectOptions} (hjoins : options.joins = [])
    (hcolumns : options.columns ≠ []) (choices : Choices) (params : List (Option String))
    (tables : Tables) :
    read choices options params tables = select choices options params tables := by
  have hempty : options.columns.isEmpty = false := by
    simpa using hcolumns
  have hscope : scopeOf options = [options.table] := by
    rw [scopeOf, hjoins, List.map_nil]
  have hfound : found options params tables =
      (bindWhere options.table options.condition params).map fun predicate =>
        (tables options.table).filter predicate.selects := by
    unfold found
    rw [hjoins, fromRows_of_joins_nil hjoins, hscope, typeIn_singleton, bindWhereBy_columnType]
    cases bindWhere options.table options.condition params <;> rfl
  have hpage : pageExists options = true ↔
      ¬ ((options.limit.getD 0).toInt < 0 ∨ (options.offset.getD 0).toInt < 0) := by
    unfold pageExists
    rw [Bool.and_eq_true, decide_eq_true_eq, decide_eq_true_eq]
    omega
  unfold read selected select
  rw [outputsExist_of_joins_nil hjoins, hfound, hempty]
  simp only [Bool.false_eq_true, if_false]
  by_cases hexist : areColumns options.table (options.columns ++ options.orderBy.toList) = true
  · rcases hwhere : bindWhere options.table options.condition params with exception | predicate
    · simp [hexist, bind, Except.bind, Except.map]
    · by_cases hnegative : (options.limit.getD 0).toInt < 0 ∨ (options.offset.getD 0).toInt < 0
      · have hfalse : pageExists options = false := by
          rw [← Bool.not_eq_true, hpage]
          exact fun h => h hnegative
        simp [hexist, bind, Except.bind, Except.map, hfalse, hnegative, throw, throwThe,
          MonadExceptOf.throw]
      · simp only [hexist, bind, Except.bind, Except.map, hpage.mpr hnegative, if_true, pure,
          Except.pure, if_neg hnegative]
        rfl
  · simp [hexist, bind, Except.bind, Except.map, throw, throwThe, MonadExceptOf.throw]

end Srv.Db.Sql

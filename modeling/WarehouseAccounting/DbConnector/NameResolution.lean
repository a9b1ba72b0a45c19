import WarehouseAccounting.DbConnector.CountText
import WarehouseAccounting.Foundations.Exceptions

/-!
# Name resolution

How the columns that a `SELECT` writes are resolved: a column with its table is a column of that
table, and a column without one must be in exactly one of the tables that the statement names. The
column of `ORDER BY` is first looked for among the columns of the answer.

- `columnText_eq_toString`, `joinText_eq_toString`: the references are what the text is made of.
- `isOk_typeIn_iff`: the database finds the type of the references that resolve.
- `wellScoped_of_selected`: it does not answer a statement with another reference.
- `RowTest.exists_bindAll`: a group of tests can be executed when their columns resolve and their
  values are of the types of these.
-/

namespace Srv.Db

open DbMgr.Scpts Ufa

/-- A column as a statement names it. -/
inductive Reference where
  /-- Without its table. -/
  | bare (column : Column)
  /-- With its table. -/
  | qualified (table : Table) (column : Column)
  deriving DecidableEq, Repr

namespace Reference

/-- The text of the reference. -/
def toString : Reference → String
  | .bare column => column.toString
  | .qualified table column => table.quoted ++ "." ++ column.toString

/-- The tables whose column the reference can be. -/
def candidates (scope : List Table) : Reference → List Table
  | .bare column => scope.filter fun table => (schema.typeOf table column).isSome
  | .qualified table column =>
    scope.filter fun other => other = table ∧ (schema.typeOf table column).isSome

/-- The reference is exactly one column of the tables. -/
def Resolves (scope : List Table) (reference : Reference) : Prop :=
  (reference.candidates scope).length = 1

instance (scope : List Table) (reference : Reference) : Decidable (reference.Resolves scope) :=
  inferInstanceAs (Decidable (_ = _))

end Reference

mutual

/-- The columns that a condition prints, all of them without their tables. -/
def Condition.columns : Condition → List Column
  | .group _ conditions => Condition.groupColumns conditions
  | .real column _ _ => [column]
  | .inList column _ => [column]
  | .not condition => condition.columns
  | .isNull column => [column]

/-- The columns of the conditions of a group. -/
def Condition.groupColumns : List Condition → List Column
  | [] => []
  | condition :: conditions => condition.columns ++ Condition.groupColumns conditions

end

namespace SelectOptions

/-- A column of the column list. -/
def columnReference (table : Table) (joins : List Join) (column : Column) : Reference :=
  if joins.any fun join => join.leftColumn = column then .qualified table column
  else .bare column

/-- The two columns of a join. -/
def joinReferences (table : Table) (join : Join) : List Reference :=
  [.qualified (join.leftTable.getD table) join.leftColumn,
    .qualified join.joiningTable join.joiningColumn]

/-- The column list consists of its references. -/
theorem columnText_eq_toString (table : Table) (joins : List Join) (column : Column) :
    columnText table joins column = (columnReference table joins column).toString := by
  unfold columnText columnReference
  split <;> rfl

/-- So does a join. -/
theorem joinText_eq_toString (table : Table) (join : Join) :
    joinText table join = " " ++ join.type.toString ++ " JOIN " ++ join.joiningTable.quoted ++
      " ON " ++ StringConverters.toStringList
        ((joinReferences table join).map Reference.toString) "=" := by
  unfold joinText joinReferences
  simp only [StringConverters.toStringList, Reference.toString, List.map_cons, List.map_nil,
    String.append_assoc]

/-- Every column that the statement writes is exactly one column of its tables. -/
structure WellScoped (options : SelectOptions) : Prop where
  columns : ∀ column ∈ options.columns,
    (columnReference options.table options.joins column).Resolves (Sql.scopeOf options)
  joins : ∀ join ∈ options.joins, ∀ reference ∈ joinReferences options.table join,
    reference.Resolves (Sql.scopeOf options)
  condition : ∀ condition ∈ options.condition, ∀ column ∈ condition.columns,
    (Reference.bare column).Resolves (Sql.scopeOf options)
  orderBy : ∀ column ∈ options.orderBy,
    if column ∈ options.columns then options.columns.count column = 1
    else (Reference.bare column).Resolves (Sql.scopeOf options)

end SelectOptions

namespace Sql

open Trsct Relational

/-- The database finds the type of a column that is written without its table when the column
resolves. -/
theorem isOk_typeIn_iff {scope : List Table} {column : Column} :
    (typeIn scope column).isOk = true ↔ (Reference.bare column).Resolves scope := by
  show _ ↔ (scope.filter fun table => (schema.typeOf table column).isSome).length = 1
  unfold typeIn tableOf
  rcases hfilter : scope.filter fun table => (schema.typeOf table column).isSome with
    _ | ⟨table, _ | ⟨other, tables⟩⟩
  · simp [bind, Except.bind, Except.isOk, Except.toBool]
  · have hmem : table ∈ scope.filter fun table => (schema.typeOf table column).isSome := by
      rw [hfilter]
      exact List.mem_singleton_self table
    have htype := (List.mem_filter.mp hmem).2
    show (columnType table column).isOk = true ↔ _
    rw [isOk_columnType, htype]
    simp
  · simp [bind, Except.bind, Except.isOk, Except.toBool]

section Conditions

variable {types : Column → Except Exception ColumnType}

/-- Columns whose parameters are bound have types. -/
theorem isOk_of_bindParamsBy {columns : List Column} {params : List (Option String)}
    {bound : List (Option Value) × List (Option String)}
    (h : bindParamsBy types columns params = .ok bound) :
    ∀ column ∈ columns, (types column).isOk = true := by
  induction columns generalizing params bound with
  | nil => exact List.forall_mem_nil _
  | cons column columns ih =>
    cases params with
    | nil => cases h
    | cons param params =>
      rw [bindParamsBy] at h
      obtain ⟨type, htype, h⟩ := Exceptions.bind_eq_ok_iff.mp h
      obtain ⟨value, -, h⟩ := Exceptions.bind_eq_ok_iff.mp h
      obtain ⟨rest, hrest, -⟩ := Exceptions.bind_eq_ok_iff.mp h
      refine List.forall_mem_cons.mpr ⟨?_, ih hrest⟩
      rw [htype]
      rfl

mutual

/-- A condition that can be executed has types for its columns. -/
theorem isOk_of_bindConditionBy {condition : Condition} {params : List (Option String)}
    {bound : Predicate Column × List (Option String)}
    (h : bindConditionBy types condition params = .ok bound) :
    ∀ column ∈ condition.columns, (types column).isOk = true := by
  match condition with
  | .group type conditions =>
    rw [bindConditionBy] at h
    rcases conditions with _ | ⟨condition, conditions⟩
    · cases h
    · obtain ⟨predicates, hconditions, -⟩ := Exceptions.bind_eq_ok_iff.mp h
      exact isOk_of_bindConditionsBy hconditions
  | .real column value type =>
    rw [bindConditionBy] at h
    obtain ⟨values, hvalues, -⟩ := Exceptions.bind_eq_ok_iff.mp h
    exact isOk_of_bindParamsBy hvalues
  | .inList column [] =>
    rw [bindConditionBy] at h
    cases h
  | .inList column (value :: values) =>
    rw [bindConditionBy] at h
    obtain ⟨bound, hbound, -⟩ := Exceptions.bind_eq_ok_iff.mp h
    intro other hother
    cases List.mem_singleton.mp hother
    exact isOk_of_bindParamsBy hbound column List.mem_cons_self
  | .not condition =>
    rw [bindConditionBy] at h
    obtain ⟨predicate, hcondition, -⟩ := Exceptions.bind_eq_ok_iff.mp h
    have hinner := isOk_of_bindConditionBy hcondition
    exact hinner
  | .isNull column =>
    rw [bindConditionBy] at h
    obtain ⟨type, htype, -⟩ := Exceptions.bind_eq_ok_iff.mp h
    intro other hother
    cases List.mem_singleton.mp hother
    rw [htype]
    rfl

/-- So do the conditions of a group. -/
theorem isOk_of_bindConditionsBy {conditions : List Condition} {params : List (Option String)}
    {bound : List (Predicate Column) × List (Option String)}
    (h : bindConditionsBy types conditions params = .ok bound) :
    ∀ column ∈ Condition.groupColumns conditions, (types column).isOk = true := by
  match conditions with
  | [] => exact List.forall_mem_nil _
  | condition :: conditions =>
    rw [bindConditionsBy] at h
    obtain ⟨predicate, hcondition, h⟩ := Exceptions.bind_eq_ok_iff.mp h
    obtain ⟨predicates, hconditions, -⟩ := Exceptions.bind_eq_ok_iff.mp h
    intro column hcolumn
    rcases List.mem_append.mp hcolumn with hcolumn | hcolumn
    · exact isOk_of_bindConditionBy hcondition column hcolumn
    · exact isOk_of_bindConditionsBy hconditions column hcolumn

end

end Conditions

/-- A column with its table resolves when the table is named once and has the column. -/
theorem resolves_qualified {scope : List Table} (hscope : scope.Nodup) {table : Table}
    (htable : table ∈ scope) {column : Column} (h : (schema.typeOf table column).isSome = true) :
    (Reference.qualified table column).Resolves scope := by
  show (scope.filter fun other => other = table ∧ (schema.typeOf table column).isSome).length = 1
  have hfilter : (scope.filter fun other => other = table ∧ (schema.typeOf table column).isSome) =
      scope.filter (· == table) := by
    refine List.filter_congr fun other _ => ?_
    rw [Bool.eq_iff_iff, decide_eq_true_eq, beq_iff_eq, and_iff_left h]
  rw [hfilter, ← List.count_eq_length_filter, List.count_eq_one_of_mem hscope htable]

/-- The database only answers statements whose columns resolve. -/
theorem wellScoped_of_selected {options : SelectOptions} (hscope : (scopeOf options).Nodup)
    (hcolumns : options.columns.Nodup) (hleft : ∀ join ∈ options.joins, join.leftTable = none)
    {choices : Choices} {params : List (Option String)} {tables : Tables} {rows : List TableRow}
    (h : selected choices options params tables = .ok rows) : options.WellScoped := by
  obtain ⟨hexist, -, all, hall, -⟩ := selected_eq_ok.mp h
  obtain ⟨hjoins, predicate, hwhere, -⟩ := found_eq_ok.mp hall
  rw [Bool.and_eq_true] at hexist
  obtain ⟨houtputs, horder⟩ := hexist
  have hmain : options.table ∈ scopeOf options := List.mem_cons_self
  refine ⟨fun column hcolumn => ?_, fun join hjoin reference hreference => ?_,
    fun condition hcondition column hcolumn => ?_, fun column hcolumn => ?_⟩
  · have hexists := List.all_eq_true.mp houtputs column hcolumn
    unfold SelectOptions.columnReference
    split
    · rename_i hany
      rw [if_pos hany] at hexists
      exact resolves_qualified hscope hmain hexists
    · rename_i hany
      rw [if_neg hany] at hexists
      exact isOk_typeIn_iff.mp hexists
  · have hexists := List.all_eq_true.mp hjoins join hjoin
    rw [joinExists, Bool.and_eq_true, hleft join hjoin] at hexists
    rw [SelectOptions.joinReferences, hleft join hjoin] at hreference
    rcases List.mem_pair.mp hreference with rfl | rfl
    · exact resolves_qualified hscope hmain hexists.1
    · exact resolves_qualified hscope (List.mem_cons_of_mem _ (List.mem_map_of_mem hjoin))
        hexists.2
  · rw [Option.mem_def.mp hcondition, bindWhereBy] at hwhere
    obtain ⟨bound, hbound, -⟩ := Exceptions.bind_eq_ok_iff.mp hwhere
    exact isOk_typeIn_iff.mp (isOk_of_bindConditionBy hbound column hcolumn)
  · rw [orderExists, Option.mem_def.mp hcolumn, Option.all_some, Bool.or_eq_true] at horder
    split
    · rename_i hmem
      exact List.count_eq_one_of_mem hcolumns hmem
    · rename_i hmem
      exact isOk_typeIn_iff.mp (horder.resolve_left (by simpa using hmem))

/-! ## Groups of tests -/

namespace RowTest

/-- The columns of a group of tests. -/
theorem columns_group (tests : List RowTest) :
    (RowTest.group tests).columns = tests.map RowTest.column := by
  show Condition.groupColumns (tests.map RowTest.condition) = _
  induction tests with
  | nil => rfl
  | cons test tests ih =>
    rw [List.map_cons, Condition.groupColumns, ih]
    cases test <;> rfl

/-- A group is written when it has a test, and no test of nullity without a column. -/
theorem wellFormed_group {tests : List RowTest} :
    (RowTest.group tests).wellFormed = true ↔
      tests ≠ [] ∧ ∀ test ∈ tests, test.writable = true := by
  have hall : Condition.groupWellFormed (tests.map RowTest.condition) =
      tests.all RowTest.writable := by
    induction tests with
    | nil => rfl
    | cons test tests ih =>
      rw [List.map_cons, Condition.groupWellFormed, List.all_cons, ih]
      cases test <;> rfl
  show (!(tests.map RowTest.condition).isEmpty && Condition.groupWellFormed _) = true ↔ _
  rw [hall, Bool.and_eq_true, List.all_eq_true]
  simp

/-- The number of a test is a value of a type. -/
def Fits (type : ColumnType) : RowTest → Prop
  | .compare _ _ value => ∃ field, bindValue type (some (ToString.toString value)) = .ok field
  | .isNull _ => True

/-- A test can be executed when its column has a type, which its number is a value of. -/
theorem exists_bind {types : Column → Except Exception ColumnType} {test : RowTest} :
    (∃ predicate, test.bind types = .ok predicate) ↔
      ∃ type, types test.column = .ok type ∧ test.Fits type := by
  cases test with
  | compare column comparison value =>
    rw [RowTest.bind]
    constructor
    · rintro ⟨predicate, h⟩
      obtain ⟨type, htype, h⟩ := Exceptions.bind_eq_ok_iff.mp h
      obtain ⟨field, hfield, -⟩ := Exceptions.bind_eq_ok_iff.mp h
      exact ⟨type, htype, field, hfield⟩
    · rintro ⟨type, htype, field, hfield⟩
      exact ⟨_, Exceptions.bind_eq_ok_iff.mpr ⟨type, htype,
        Exceptions.bind_eq_ok_iff.mpr ⟨field, hfield, rfl⟩⟩⟩
  | isNull column =>
    rw [RowTest.bind]
    constructor
    · rintro ⟨predicate, h⟩
      obtain ⟨type, htype, -⟩ := Exceptions.bind_eq_ok_iff.mp h
      exact ⟨type, htype, trivial⟩
    · rintro ⟨type, htype, -⟩
      exact ⟨_, Exceptions.bind_eq_ok_iff.mpr ⟨type, htype, rfl⟩⟩

/-- A group can be executed when it has tests, and all of them can. -/
theorem exists_bindAll {types : Column → Except Exception ColumnType} {tests : List RowTest} :
    (∃ predicate, bindAll types tests = .ok predicate) ↔
      tests ≠ [] ∧ ∀ test ∈ tests, ∃ type, types test.column = .ok type ∧ test.Fits type := by
  have hloop : (∃ predicate, (tests.mapM (bind types)).map Predicate.and = .ok predicate) ↔
      ∀ test ∈ tests, ∃ type, types test.column = .ok type ∧ test.Fits type := by
    rw [← forall₂_congr fun test _ => exists_bind, ← Exceptions.exists_mapM_eq_ok]
    constructor
    · rintro ⟨predicate, h⟩
      obtain ⟨predicates, hpredicates, -⟩ := Exceptions.map_eq_ok_iff.mp h
      exact ⟨predicates, hpredicates⟩
    · rintro ⟨predicates, hpredicates⟩
      exact ⟨_, Exceptions.map_eq_ok_iff.mpr ⟨predicates, hpredicates, rfl⟩⟩
  unfold bindAll
  cases tests with
  | nil => simp
  | cons test tests => simpa using hloop

end RowTest

end Sql

end Srv.Db

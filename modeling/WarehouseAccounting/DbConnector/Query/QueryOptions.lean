import WarehouseAccounting.DbConnector.Query.Condition

/-!
# Options of a query

The five implementations of `IQueryOptions`: the select, insert, update and delete options of
`db_connector/query` and the raw options of `raw_query.cpp`, with the parametrized text each of
them serializes to and its `Equals`. The queries that the constructors accept are at the end.

- `QueryOptions.succeeds_serializeParametrized`: options serialize exactly when they are well
  formed.
- `QueryOptions.serializeParametrized_eq_iff`: of two options that `Equals` accepts, the texts
  are the same exactly when the connectives and the order direction are.
-/

namespace Srv.Db

open Ufa Serializer

/-- `srv::db::QueryIdentificator`, in the order of its enumerators. -/
inductive QueryIdentificator where
  | raw
  | select
  | insert
  | delete
  | update
  deriving DecidableEq, Repr

/-- `srv::db::JoinType`. -/
inductive JoinType where
  | left
  | right
  | inner
  deriving DecidableEq, Repr

/-- `string_converters::ToString(JoinType)`. -/
def JoinType.toString : JoinType → String
  | .left => "LEFT"
  | .right => "RIGHT"
  | .inner => "INNER"

/-- `srv::db::Join`. -/
structure Join where
  type : JoinType := .left
  /-- The table of `leftColumn`; the table of the query when it is absent. -/
  leftTable : Option Table := none
  leftColumn : Column
  joiningTable : Table
  joiningColumn : Column
  deriving DecidableEq, Repr

/-- `srv::db::OrderType`. -/
inductive OrderType where
  | asc
  | desc
  deriving DecidableEq, Repr

/-- `string_converters::ToString(OrderType)`. -/
def OrderType.toString : OrderType → String
  | .asc => "ASC"
  | .desc => "DESC"

/-- The name of a table as every query writes it. -/
def Table.quoted (table : Table) : String :=
  "public.\"" ++ table.toString ++ "\""

/-- The comparison of two optional conditions in the `Equals` of the options. -/
def conditionEquals : Option Condition → Option Condition → Bool
  | none, none => true
  | some condition, some other => condition.equals other
  | _, _ => false

/-- The connectives of two optional conditions agree. -/
def conditionAgrees : Option Condition → Option Condition → Prop
  | some condition, some other => condition.connectivesAgree other
  | _, _ => True

/-- An absent condition, or a well-formed one. -/
def conditionWellFormed : Option Condition → Bool
  | none => true
  | some condition => condition.wellFormed

/-! ## Select -/

/-- `srv::db::SelectOptions`. -/
structure SelectOptions where
  table : Table := .invalid
  columns : List Column := []
  joins : List Join := []
  condition : Option Condition := none
  orderBy : Option Column := none
  orderType : OrderType := .asc
  limit : Option Int32 := none
  offset : Option Int32 := none

namespace SelectOptions

/-- A column of the column list: with its table when some join has it on its left side. -/
def columnText (table : Table) (joins : List Join) (column : Column) : String :=
  if joins.any fun join => join.leftColumn = column then
    table.quoted ++ "." ++ column.toString
  else
    column.toString

/-- `SELECT ... FROM ...`. -/
def selectText (table : Table) (columns : List Column) (joins : List Join) : String :=
  if columns.isEmpty then
    "SELECT * FROM " ++ table.quoted
  else
    "SELECT " ++ StringConverters.toStringList (columns.map (columnText table joins)) ", " ++
      " FROM " ++ table.quoted

/-- One `JOIN ... ON ...`. -/
def joinText (table : Table) (join : Join) : String :=
  " " ++ join.type.toString ++ " JOIN " ++ join.joiningTable.quoted ++ " ON " ++
    (join.leftTable.getD table).quoted ++ "." ++ join.leftColumn.toString ++ "=" ++
    join.joiningTable.quoted ++ "." ++ join.joiningColumn.toString

/-- `WHERE ...`, when there is a condition. -/
def whereText : Option Condition → QueryText
  | none => sql ""
  | some condition => sql " WHERE " ++ condition.toString

/-- `ORDER BY ...`, when there is a column to order by. -/
def orderText (orderBy : Option Column) (orderType : OrderType) : QueryText :=
  match orderBy with
  | none => sql ""
  | some column => sql (" ORDER BY " ++ column.toString ++ " ") ++ sql orderType.toString

/-- `LIMIT ...` and `OFFSET ...`, when they are set. -/
def boundText (keyword : String) : Option Int32 → String
  | none => ""
  | some bound => " " ++ keyword ++ " " ++ ToString.toString bound.toInt

/-- `SelectOptions::SerializeParametrized(placeholders)`. -/
def serializeParametrized (options : SelectOptions) : QueryText :=
  queryCheck (options.table != .invalid) "Invalid query options" ++
    (sql (selectText options.table options.columns options.joins ++
        String.join (options.joins.map (joinText options.table))) ++
      (whereText options.condition ++
        (orderText options.orderBy options.orderType ++
          sql (boundText "LIMIT" options.limit ++ boundText "OFFSET" options.offset ++ ";"))))

/-- `SelectOptions::Equals`; the order direction is not compared. -/
def equals (options other : SelectOptions) : Bool :=
  options.table = other.table && options.columns = other.columns &&
    options.joins = other.joins && options.orderBy = other.orderBy &&
    options.limit = other.limit && options.offset = other.offset &&
    conditionEquals options.condition other.condition

end SelectOptions

/-! ## Insert, update and delete -/

/-- `srv::db::InsertOptions`. -/
structure InsertOptions where
  table : Table := .invalid
  columns : List Column := []
  returning : List Column := []
  valuesCount : Nat := 1

namespace InsertOptions

/-- One row of `VALUES`: a placeholder for every column. -/
def rowText (columns : List Column) : QueryText :=
  sql "(" ++ (separated ", " (columns.map fun _ => placeholder) ++ sql ")")

/-- `InsertOptions::SerializeParametrized(placeholders)`. -/
def serializeParametrized (options : InsertOptions) : QueryText :=
  queryCheck (options.table != .invalid) "Invalid query options" ++
    (sql ("INSERT INTO " ++ options.table.quoted ++ " " ++
        (if options.columns.isEmpty then ""
          else "(" ++ StringConverters.toStringList (options.columns.map Column.toString) ", " ++
            ") ") ++ "VALUES ") ++
      (separated ", " (List.replicate options.valuesCount (rowText options.columns)) ++
        sql ((if options.returning.isEmpty then ""
          else " RETURNING " ++
            StringConverters.toStringList (options.returning.map Column.toString) ", ") ++ ";")))

/-- `InsertOptions::Equals`. -/
def equals (options other : InsertOptions) : Bool :=
  options.table = other.table && options.columns = other.columns &&
    options.valuesCount = other.valuesCount && options.returning = other.returning

end InsertOptions

/-- The condition of an update or a delete, which must be there. -/
def requiredConditionText : Option Condition → QueryText
  | none => sql ""
  | some condition => condition.toString

/-- `srv::db::UpdateOptions`. -/
structure UpdateOptions where
  table : Table := .invalid
  columns : List Column := []
  condition : Option Condition := none

namespace UpdateOptions

/-- One assignment of `SET`. -/
def modificationText (column : Column) : QueryText :=
  sql (column.toString ++ " = ") ++ placeholder

/-- `UpdateOptions::SerializeParametrized(placeholders)`. -/
def serializeParametrized (options : UpdateOptions) : QueryText :=
  queryCheck (options.table != .invalid) "Invalid query options table" ++
    (queryCheck (!options.columns.isEmpty) "Invalid query options: empty columns" ++
      (queryCheck options.condition.isSome
          "Invalid query options: empty condition is prohibited" ++
        (sql ("UPDATE " ++ options.table.quoted ++ " SET ") ++
          (separated ", " (options.columns.map modificationText) ++
            (sql " WHERE " ++ (requiredConditionText options.condition ++ sql ";"))))))

/-- `UpdateOptions::Equals`. -/
def equals (options other : UpdateOptions) : Bool :=
  options.table = other.table && options.columns = other.columns &&
    conditionEquals options.condition other.condition

end UpdateOptions

/-- `srv::db::DeleteOptions`. -/
structure DeleteOptions where
  table : Table := .invalid
  condition : Option Condition := none

namespace DeleteOptions

/-- `DeleteOptions::SerializeParametrized(placeholders)`. -/
def serializeParametrized (options : DeleteOptions) : QueryText :=
  queryCheck (options.table != .invalid) "Invalid query options" ++
    (queryCheck options.condition.isSome "DELETE with empty condition is prohibited" ++
      (sql ("DELETE FROM " ++ options.table.quoted ++ " WHERE ") ++
        (requiredConditionText options.condition ++ sql ";")))

/-- `DeleteOptions::Equals`. -/
def equals (options other : DeleteOptions) : Bool :=
  options.table = other.table && conditionEquals options.condition other.condition

end DeleteOptions

/-! ## Raw queries -/

/-- `std::string::find`: the text before and the text after the first occurrence. -/
def splitAtFirst (needle : List Char) : List Char → Option (List Char × List Char)
  | [] => if needle.isEmpty then some ([], []) else none
  | c :: text =>
      if needle.isPrefixOf (c :: text) then
        some ([], (c :: text).drop needle.length)
      else
        (splitAtFirst needle text).map fun (before, after) => (c :: before, after)

/-- `srv::db::RawQueryOptions`. The stored hash is a function of the text. -/
structure RawQueryOptions where
  parametrizedQuery : String

namespace RawQueryOptions

/-- The loop that replaces the placeholders of the stored query, from `$1` on and in this
order, by the given ones. Every round consumes a placeholder of the text, so the length of the
text bounds the number of rounds. -/
def shiftPlaceholders (fuel : Nat) (query : List Char) (refPlaceholders : Placeholders)
    (placeholders : Placeholders) : List Char × Placeholders :=
  match fuel with
  | 0 => (query, placeholders)
  | fuel + 1 =>
    match splitAtFirst refPlaceholders.view.toList query with
    | none => (query, placeholders)
    | some (before, after) =>
      let (rest, placeholders') :=
        shiftPlaceholders fuel after refPlaceholders.next placeholders.next
      (before ++ placeholders.view.toList ++ rest, placeholders')

/-- `RawQueryOptions::SerializeParametrized(placeholders)`. -/
def serializeParametrized (options : RawQueryOptions) : QueryText :=
  fun placeholders =>
    if placeholders.count > 1 then
      let query := options.parametrizedQuery.toList
      let (result, placeholders) := shiftPlaceholders query.length query {} placeholders
      .ok (String.ofList result, placeholders)
    else
      .ok (options.parametrizedQuery, placeholders)

/-- `RawQueryOptions::Equals`. -/
def equals (options other : RawQueryOptions) : Bool :=
  options.parametrizedQuery = other.parametrizedQuery

end RawQueryOptions

/-! ## The common interface -/

/-- The implementations of `srv::db::IQueryOptions`. -/
inductive QueryOptions where
  | select (options : SelectOptions)
  | insert (options : InsertOptions)
  | update (options : UpdateOptions)
  | delete (options : DeleteOptions)
  | raw (options : RawQueryOptions)

namespace QueryOptions

/-- `IQueryOptions::GetIdentificator`. -/
def getIdentificator : QueryOptions → QueryIdentificator
  | .select _ => .select
  | .insert _ => .insert
  | .update _ => .update
  | .delete _ => .delete
  | .raw _ => .raw

/-- `IQueryOptions::SerializeParametrized(placeholders)`. -/
def serializeParametrizedFrom : QueryOptions → QueryText
  | .select options => options.serializeParametrized
  | .insert options => options.serializeParametrized
  | .update options => options.serializeParametrized
  | .delete options => options.serializeParametrized
  | .raw options => options.serializeParametrized

/-- `IQueryOptions::SerializeParametrized()`: from the first placeholder. -/
def serializeParametrized (options : QueryOptions) : Except CheckFailed String :=
  (options.serializeParametrizedFrom {}).map Prod.fst

/-- `IQueryOptions::Equals`. -/
def equals : QueryOptions → QueryOptions → Bool
  | .select options, .select other => options.equals other
  | .insert options, .insert other => options.equals other
  | .update options, .update other => options.equals other
  | .delete options, .delete other => options.equals other
  | .raw options, .raw other => options.equals other
  | _, _ => false

/-- The checks that `SerializeParametrized` makes. -/
def wellFormed : QueryOptions → Bool
  | .select options => options.table != .invalid && conditionWellFormed options.condition
  | .insert options => options.table != .invalid
  | .update options => options.table != .invalid && !options.columns.isEmpty &&
      options.condition.isSome && conditionWellFormed options.condition
  | .delete options => options.table != .invalid && options.condition.isSome &&
      conditionWellFormed options.condition
  | .raw _ => true

/-- What the texts print and `Equals` does not compare is the same: the connectives of the
groups, and the direction of an `ORDER BY`. -/
def Agrees : QueryOptions → QueryOptions → Prop
  | .select options, .select other =>
      conditionAgrees options.condition other.condition ∧
        (options.orderBy.isSome → options.orderType = other.orderType)
  | .update options, .update other => conditionAgrees options.condition other.condition
  | .delete options, .delete other => conditionAgrees options.condition other.condition
  | _, _ => True

/-! ## Which options serialize -/

/-- An optional `WHERE` is written exactly when its condition is well formed. -/
theorem succeeds_whereText (condition : Option Condition) :
    Succeeds (conditionWellFormed condition) (SelectOptions.whereText condition) := by
  cases condition with
  | none => exact succeeds_literal ""
  | some condition =>
    exact (succeeds_literal " WHERE ").append condition.succeeds_toString

/-- The `ORDER BY` is always written. -/
theorem succeeds_orderText (orderBy : Option Column) (orderType : OrderType) :
    Succeeds true (SelectOptions.orderText orderBy orderType) := by
  cases orderBy with
  | none => exact succeeds_literal ""
  | some column => exact (succeeds_literal _).append (succeeds_literal _)

/-- The condition of an update or a delete is written exactly when it is well formed. -/
theorem succeeds_requiredConditionText (condition : Option Condition) :
    Succeeds (conditionWellFormed condition) (requiredConditionText condition) := by
  cases condition with
  | none => exact succeeds_literal ""
  | some condition => exact condition.succeeds_toString

/-- One row of `VALUES` is always written. -/
theorem succeeds_rowText (columns : List Column) :
    Succeeds true (InsertOptions.rowText columns) :=
  (succeeds_literal "(").append
    ((Condition.succeeds_placeholders columns).append (succeeds_literal ")"))

/-- One assignment of `SET` is always written. -/
theorem succeeds_modificationText (column : Column) :
    Succeeds true (UpdateOptions.modificationText column) :=
  (succeeds_literal _).append succeeds_placeholder

/-- A raw query always serializes. -/
theorem succeeds_raw (options : RawQueryOptions) :
    Succeeds true options.serializeParametrized := by
  intro placeholders
  rw [RawQueryOptions.serializeParametrized]
  split <;> rfl

/-- Options serialize exactly when they are well formed. -/
theorem succeeds_serializeParametrized (options : QueryOptions) :
    Succeeds options.wellFormed options.serializeParametrizedFrom := by
  cases options with
  | select options =>
    rw [serializeParametrizedFrom, SelectOptions.serializeParametrized]
    exact ((succeeds_check _ _).append ((succeeds_literal _).append
      ((succeeds_whereText options.condition).append
        ((succeeds_orderText options.orderBy options.orderType).append
          (succeeds_literal _))))).congr (by simp [wellFormed])
  | insert options =>
    have hrows := succeeds_separated ", "
      (List.replicate options.valuesCount (InsertOptions.rowText options.columns))
      fun row hrow => by
        rw [List.eq_of_mem_replicate hrow]
        exact succeeds_rowText options.columns
    rw [serializeParametrizedFrom, InsertOptions.serializeParametrized]
    exact ((succeeds_check _ _).append ((succeeds_literal _).append
      (hrows.append (succeeds_literal _)))).congr (by simp [wellFormed])
  | update options =>
    have hmodifications := succeeds_separated ", "
      (options.columns.map UpdateOptions.modificationText) fun modification hmodification => by
        obtain ⟨column, -, rfl⟩ := List.mem_map.mp hmodification
        exact succeeds_modificationText column
    rw [serializeParametrizedFrom, UpdateOptions.serializeParametrized]
    exact ((succeeds_check _ _).append ((succeeds_check _ _).append ((succeeds_check _ _).append
      ((succeeds_literal _).append (hmodifications.append ((succeeds_literal " WHERE ").append
        ((succeeds_requiredConditionText options.condition).append
          (succeeds_literal ";")))))))).congr (by simp [wellFormed, Bool.and_assoc])
  | delete options =>
    rw [serializeParametrizedFrom, DeleteOptions.serializeParametrized]
    exact ((succeeds_check _ _).append ((succeeds_check _ _).append ((succeeds_literal _).append
      ((succeeds_requiredConditionText options.condition).append
        (succeeds_literal ";"))))).congr (by simp [wellFormed, Bool.and_assoc])
  | raw options => exact succeeds_raw options

/-- `SerializeParametrized` throws on options that are not well formed, and only on these. -/
theorem serializeParametrized_isOk (options : QueryOptions) :
    options.serializeParametrized.isOk = options.wellFormed := by
  have hrun := options.succeeds_serializeParametrized {}
  rw [serializeParametrized]
  rcases hresult : options.serializeParametrizedFrom {} with e | result <;>
    rw [hresult] at hrun <;> exact hrun

/-! ## What `Equals` compares -/

/-- `Equals` only accepts options of the same kind. -/
theorem getIdentificator_eq_of_equals {options other : QueryOptions}
    (h : options.equals other = true) : options.getIdentificator = other.getIdentificator := by
  cases options <;> cases other <;> first | rfl | exact absurd h Bool.false_ne_true

/-- Optional conditions that `Equals` accepts are required conditions together. -/
theorem isSome_eq_of_conditionEquals {condition other : Option Condition}
    (h : conditionEquals condition other = true) : condition.isSome = other.isSome := by
  cases condition <;> cases other <;> simp_all [conditionEquals]

/-- Optional conditions that `Equals` accepts give a `WHERE` that differs in connectives only. -/
theorem whereText_aligned {condition other : Option Condition}
    (h : conditionEquals condition other = true) :
    Aligned (conditionAgrees condition other) (SelectOptions.whereText condition)
      (SelectOptions.whereText other) := by
  match condition, other with
  | none, none => exact Aligned.refl _
  | some condition, some other =>
    exact ((Aligned.refl (sql " WHERE ")).append (condition.toString_aligned other h)).congr
      (by simp [conditionAgrees])

/-- The same for the condition of an update or a delete. -/
theorem requiredConditionText_aligned {condition other : Option Condition}
    (h : conditionEquals condition other = true) :
    Aligned (conditionAgrees condition other) (requiredConditionText condition)
      (requiredConditionText other) := by
  match condition, other with
  | none, none => exact Aligned.refl _
  | some condition, some other => exact condition.toString_aligned other h

/-- The texts of the two order directions are never confused. -/
theorem aligned_orderType (type type' : OrderType) :
    Aligned (type = type') (sql type.toString) (sql type'.toString) := by
  have hne : ∀ rest rest' : List Char, 'A' :: rest ≠ 'D' :: rest' := by simp
  cases type <;> cases type'
  · exact (Aligned.refl _).congr (by simp)
  · refine (aligned_literal_of_ne fun rest rest' => ?_).congr (by simp)
    exact hne _ _
  · refine (aligned_literal_of_ne fun rest rest' => ?_).congr (by simp)
    exact (hne _ _).symm
  · exact (Aligned.refl _).congr (by simp)

/-- An `ORDER BY` of one column differs in its direction only. -/
theorem orderText_aligned (orderBy : Option Column) (type type' : OrderType) :
    Aligned (orderBy.isSome → type = type') (SelectOptions.orderText orderBy type)
      (SelectOptions.orderText orderBy type') := by
  cases orderBy with
  | none => exact (Aligned.refl _).congr (by simp)
  | some column =>
    exact ((Aligned.refl _).append (aligned_orderType type type')).congr (by simp)

/-- Select options that `Equals` accepts differ in connectives and order direction only. -/
theorem select_aligned {options other : SelectOptions} (h : options.equals other = true) :
    Aligned (conditionAgrees options.condition other.condition ∧
        (options.orderBy.isSome → options.orderType = other.orderType))
      options.serializeParametrized other.serializeParametrized := by
  obtain ⟨table, columns, joins, condition, orderBy, orderType, limit, offset⟩ := options
  obtain ⟨table', columns', joins', condition', orderBy', orderType', limit', offset'⟩ := other
  simp only [SelectOptions.equals, Bool.and_eq_true, decide_eq_true_eq] at h
  obtain ⟨⟨⟨⟨⟨⟨rfl, rfl⟩, rfl⟩, rfl⟩, rfl⟩, rfl⟩, hcondition⟩ := h
  have htail := (orderText_aligned orderBy orderType orderType').append (Aligned.refl (sql
    (SelectOptions.boundText "LIMIT" limit ++ SelectOptions.boundText "OFFSET" offset ++ ";")))
  rw [SelectOptions.serializeParametrized, SelectOptions.serializeParametrized]
  exact ((Aligned.refl _).append ((Aligned.refl _).append
    ((whereText_aligned hcondition).append htail))).congr (by simp)

/-- Update options that `Equals` accepts differ in connectives only. -/
theorem update_aligned {options other : UpdateOptions} (h : options.equals other = true) :
    Aligned (conditionAgrees options.condition other.condition)
      options.serializeParametrized other.serializeParametrized := by
  obtain ⟨table, columns, condition⟩ := options
  obtain ⟨table', columns', condition'⟩ := other
  simp only [UpdateOptions.equals, Bool.and_eq_true, decide_eq_true_eq] at h
  obtain ⟨⟨rfl, rfl⟩, hcondition⟩ := h
  have htail := (Aligned.refl (sql " WHERE ")).append
    ((requiredConditionText_aligned hcondition).append (Aligned.refl (sql ";")))
  simp only [UpdateOptions.serializeParametrized, isSome_eq_of_conditionEquals hcondition]
  exact ((Aligned.refl _).append ((Aligned.refl _).append ((Aligned.refl _).append
    ((Aligned.refl _).append ((Aligned.refl _).append htail))))).congr (by simp)

/-- Delete options that `Equals` accepts differ in connectives only. -/
theorem delete_aligned {options other : DeleteOptions} (h : options.equals other = true) :
    Aligned (conditionAgrees options.condition other.condition)
      options.serializeParametrized other.serializeParametrized := by
  obtain ⟨table, condition⟩ := options
  obtain ⟨table', condition'⟩ := other
  simp only [DeleteOptions.equals, Bool.and_eq_true, decide_eq_true_eq] at h
  obtain ⟨rfl, hcondition⟩ := h
  have htail := (requiredConditionText_aligned hcondition).append (Aligned.refl (sql ";"))
  simp only [DeleteOptions.serializeParametrized, isSome_eq_of_conditionEquals hcondition]
  exact ((Aligned.refl _).append ((Aligned.refl _).append
    ((Aligned.refl _).append htail))).congr (by simp)

/-- Insert options that `Equals` accepts are the same. -/
theorem insert_eq_of_equals {options other : InsertOptions} (h : options.equals other = true) :
    options = other := by
  obtain ⟨table, columns, returning, valuesCount⟩ := options
  obtain ⟨table', columns', returning', valuesCount'⟩ := other
  simp only [InsertOptions.equals, Bool.and_eq_true, decide_eq_true_eq] at h
  obtain ⟨⟨⟨rfl, rfl⟩, rfl⟩, rfl⟩ := h
  rfl

/-- Raw options that `Equals` accepts are the same. -/
theorem raw_eq_of_equals {options other : RawQueryOptions} (h : options.equals other = true) :
    options = other := by
  obtain ⟨query⟩ := options
  obtain ⟨query'⟩ := other
  simpa [RawQueryOptions.equals] using h

/-- Options that `Equals` accepts fail together, and otherwise are written alike exactly when
they agree in what `Equals` leaves out. -/
theorem serializeParametrized_aligned {options other : QueryOptions}
    (h : options.equals other = true) :
    Aligned (options.Agrees other) options.serializeParametrizedFrom
      other.serializeParametrizedFrom := by
  cases options <;> cases other <;> try exact absurd h Bool.false_ne_true
  case select.select options other => exact select_aligned h
  case insert.insert options other =>
    rw [insert_eq_of_equals h]
    exact Aligned.refl _
  case update.update options other => exact update_aligned h
  case delete.delete options other => exact delete_aligned h
  case raw.raw options other =>
    rw [raw_eq_of_equals h]
    exact Aligned.refl _

/-- Options that `Equals` accepts serialize to the same text exactly when they agree in what
`Equals` leaves out, as far as they serialize at all. -/
theorem serializeParametrized_eq_iff {options other : QueryOptions}
    (h : options.equals other = true) :
    options.serializeParametrized = other.serializeParametrized ↔
      (other.wellFormed = true → options.Agrees other) := by
  rw [← (serializeParametrized_aligned h).apply_eq_iff other.succeeds_serializeParametrized {}]
  have hs := serializeParametrized_aligned h {}
  rw [serializeParametrized, serializeParametrized]
  -- Aligned results leave the same state, so they are equal when their texts are.
  rcases hrun : options.serializeParametrizedFrom {} with e | ⟨text, s⟩ <;>
    rcases hrun' : other.serializeParametrizedFrom {} with e' | ⟨text', s'⟩ <;>
    rw [hrun, hrun'] at hs
  · simp [Except.map]
  · exact hs.elim
  · exact hs.elim
  · obtain ⟨rfl, -, -⟩ := hs
    simp [Except.map]

end QueryOptions

end Srv.Db

import WarehouseAccounting.DbConnector.Query.Query
import WarehouseAccounting.Foundations.Template

/-!
# Placeholders and parameters

The text of a query and its parameters are made by different recursions. Both are compared with the
statement that has its values in their places.

- `Condition.writes_inPlace`: a condition is written as the statement with its values numbered, and
  by `Condition.values_inPlace` the values that it collects are those of the statement.
- `Creation.writes_inPlace`, `Creation.values_inPlace`: the same of every query that is created.
- `Creation.placeholders_line_up`: so the placeholders of a text are `$1`, `$2`, ... up to the
  number of parameters, each once and in this order, and each stands for its own parameter.
-/

namespace Srv.Db

open Ufa Serializer

/-! ## Statements with their values -/

namespace Condition

mutual

/-- The condition with its values where they belong. -/
def inPlace : Condition → Template String
  | .group type conditions => .text "(" :: groupInPlace type conditions
  | .real column value type =>
    [.text ("(" ++ column.toString ++ " " ++ type.toString ++ " "), .value value.toString,
      .text ")"]
  | .inList column values =>
    .text ("(" ++ column.toString ++ " IN (") ::
      ([.text ", "].intercalate (values.map fun value => [.value value.toString]) ++ [.text "))"])
  | .not condition => .text "(NOT " :: (condition.inPlace ++ [.text ")"])
  | .isNull column => [.text ("(" ++ column.toString ++ " IS NULL)")]

/-- The conditions of a group with their values, up to the closing parenthesis. -/
def groupInPlace (type : GroupConditionType) : List Condition → Template String
  | [] => []
  | [condition] => condition.inPlace ++ [.text ")"]
  | condition :: next :: conditions =>
    condition.inPlace ++ (.text (" " ++ type.toString ++ " ") ::
      groupInPlace type (next :: conditions))

end

end Condition

/-- What `QueryFactory` is asked for: options and the values of the query. -/
inductive Creation where
  | select (options : SelectOptions)
  | insert (options : InsertOptions) (values : List ValueCollector)
  | update (options : UpdateOptions) (values : ValueCollector)
  | delete (options : DeleteOptions)

namespace Creation

/-- `QueryFactory::Create`. -/
def create : Creation → Except CheckFailed Query
  | .select options => .ok (QueryFactory.createSelect options)
  | .insert options values => QueryFactory.createInsert options values
  | .update options values => QueryFactory.createUpdate options values
  | .delete options => QueryFactory.createDelete options

/-- A row of `VALUES` with its values. -/
def rowInPlace (row : ValueCollector) : Template String :=
  .text "(" :: ([.text ", "].intercalate (row.map fun value => [.value value]) ++ [.text ")"])

/-- An assignment of `SET` with its value. -/
def modificationInPlace (column : Column) (value : String) : Template String :=
  [.text (column.toString ++ " = "), .value value]

/-- A `WHERE` with its values. -/
def whereInPlace : Option Condition → Template String
  | none => []
  | some condition => .text " WHERE " :: condition.inPlace

/-- An `ORDER BY`, which has no values. -/
def orderInPlace (orderBy : Option Column) (orderType : OrderType) : Template String :=
  match orderBy with
  | none => []
  | some column => [.text (" ORDER BY " ++ column.toString ++ " "), .text orderType.toString]

/-- The condition of an update or a delete with its values. -/
def conditionInPlace (condition : Option Condition) : Template String :=
  (condition.map Condition.inPlace).getD []

/-- The statement with its values where they belong: the rows of `VALUES` one after the other, the
new values beside their columns, and the values of a condition in its tree. -/
def inPlace : Creation → Template String
  | .select options =>
    .text (SelectOptions.selectText options.table options.columns options.joins ++
        String.join (options.joins.map (SelectOptions.joinText options.table))) ::
      (whereInPlace options.condition ++ (orderInPlace options.orderBy options.orderType ++
        [.text (SelectOptions.boundText "LIMIT" options.limit ++
          SelectOptions.boundText "OFFSET" options.offset ++ ";")]))
  | .insert options values =>
    .text ("INSERT INTO " ++ options.table.quoted ++ " " ++
        (if options.columns.isEmpty then ""
          else "(" ++ StringConverters.toStringList (options.columns.map Column.toString) ", " ++
            ") ") ++ "VALUES ") ::
      ([.text ", "].intercalate (values.map rowInPlace) ++
        [.text ((if options.returning.isEmpty then ""
          else " RETURNING " ++
            StringConverters.toStringList (options.returning.map Column.toString) ", ") ++ ";")])
  | .update options values =>
    .text ("UPDATE " ++ options.table.quoted ++ " SET ") ::
      ([.text ", "].intercalate (List.zipWith modificationInPlace options.columns values) ++
        .text " WHERE " :: (conditionInPlace options.condition ++ [.text ";"]))
  | .delete options =>
    .text ("DELETE FROM " ++ options.table.quoted ++ " WHERE ") ::
      (conditionInPlace options.condition ++ [.text ";"])

end Creation

/-! ## Texts without placeholders -/

open Template

/-- A list of texts without dollar signs has none either. -/
theorem noDollar_toStringList {texts : List String} {separator : String}
    (htexts : ∀ text ∈ texts, '$' ∉ text.toList) (hseparator : '$' ∉ separator.toList) :
    '$' ∉ (StringConverters.toStringList texts separator).toList := by
  induction texts with
  | nil => simp [StringConverters.toStringList]
  | cons text texts ih =>
    have htext : '$' ∉ text.toList := htexts text List.mem_cons_self
    cases texts with
    | nil => exact htext
    | cons next texts =>
      have hrest := ih fun other hother => htexts other (List.mem_cons_of_mem text hother)
      rw [StringConverters.toStringList, String.toList_append, String.toList_append,
        List.mem_append, List.mem_append]
      · rintro ((hmem | hmem) | hmem)
        · exact htext hmem
        · exact hseparator hmem
        · exact hrest hmem
      · exact nofun

/-- The name of a column. -/
theorem plain_column (column : Column) : Plain column.toString := by
  refine .of_checks ?_
  cases column <;> decide

/-- The name of a table. -/
theorem plain_table (table : Table) : Plain table.quoted := by
  refine .of_checks ?_
  cases table <;> decide

/-- A number has no dollar sign. -/
theorem noDollar_integer (value : Int) : '$' ∉ (toString value).toList := by
  rw [Int.toString_eq_repr, Int.repr_eq_if]
  have hdigits : ∀ number : Nat, '$' ∉ number.repr.toList := by
    intro number hmem
    rw [Nat.toList_repr] at hmem
    exact absurd (Nat.isDigit_of_mem_toDigits (by decide) (by decide) hmem) (by decide)
  split
  · exact hdigits _
  · rw [String.toList_append, List.mem_append]
    exact fun hmem => hmem.elim (by decide) (hdigits _)

/-- `LIMIT` and `OFFSET`. -/
theorem plain_boundText {keyword : String} (h : Plain keyword) (bound : Option Int32) :
    Plain (SelectOptions.boundText keyword bound) := by
  cases bound with
  | none =>
    show Plain ""
    exact .of_checks (by decide)
  | some bound =>
    have hblank : Plain " " := .of_checks (by decide)
    refine ((hblank.append h).append hblank).append_of_noDollar ?_ (noDollar_integer bound.toInt)
    intro hempty
    have hlength := congrArg String.length hempty
    simp at hlength

/-- The beginning of a `SELECT`. -/
theorem plain_selectText (table : Table) (columns : List Column) (joins : List Join) :
    Plain (SelectOptions.selectText table columns joins) := by
  unfold SelectOptions.selectText
  split
  · exact (Plain.of_checks (by decide)).append (plain_table table)
  · have hcolumns : '$' ∉ (StringConverters.toStringList
        (columns.map (SelectOptions.columnText table joins)) ", ").toList := by
      refine noDollar_toStringList (fun text htext => ?_) (by decide)
      obtain ⟨column, -, rfl⟩ := List.mem_map.mp htext
      unfold SelectOptions.columnText
      split
      · exact (((plain_table table).append (.of_checks (by decide))).append
          (plain_column column)).noDollar
      · exact (plain_column column).noDollar
    exact (((Plain.of_checks (by decide)).append_of_noDollar (by decide) hcolumns).append
      (.of_checks (by decide))).append (plain_table table)

/-- A `JOIN`. -/
theorem plain_joinText (table : Table) (join : Join) :
    Plain (SelectOptions.joinText table join) := by
  have htype : Plain join.type.toString := by
    refine .of_checks ?_
    cases join.type <;> decide
  have hdot : Plain "." := .of_checks (by decide)
  unfold SelectOptions.joinText
  exact ((((((((((((Plain.of_checks (by decide)).append htype).append
    (.of_checks (by decide))).append
    (plain_table join.joiningTable)).append (.of_checks (by decide))).append
    (plain_table (join.leftTable.getD table))).append hdot).append
    (plain_column join.leftColumn)).append (.of_checks (by decide))).append
    (plain_table join.joiningTable)).append hdot).append (plain_column join.joiningColumn))

/-- Plain texts one after the other. -/
theorem plain_join {texts : List String} (h : ∀ text ∈ texts, Plain text) :
    Plain (String.join texts) := by
  induction texts with
  | nil => exact .of_checks (by decide)
  | cons text texts ih =>
    rw [String.join_cons]
    exact (h text List.mem_cons_self).append
      (ih fun other hother => h other (List.mem_cons_of_mem text hother))

/-! ## Texts with placeholders -/

/-- The serializer writes the template with its values numbered from the current placeholder on,
and these placeholders can be found in its text. -/
structure Writes (template : Template String) (text : QueryText) : Prop where
  reads : Reads template
  written : ∀ {placeholders after : Placeholders} {written : String},
    text placeholders = .ok (written, after) →
      written = numbered placeholders.count template ∧
        after.count = placeholders.count + (values template).length

/-- A plain text is written as it is. -/
theorem writes_literal {text : String} (h : Plain text) : Writes [.text text] (sql text) where
  reads := .text h
  written hwritten := by
    cases hwritten
    exact ⟨(String.append_empty).symm, rfl⟩

/-- Nothing is written for no parts. -/
theorem writes_nil : Writes [] (sql "") where
  reads := .nil
  written hwritten := by
    cases hwritten
    exact ⟨rfl, rfl⟩

/-- A check writes nothing. -/
theorem writes_check (condition : Bool) (message : String) :
    Writes [] (queryCheck condition message) where
  reads := .nil
  written hwritten := by
    cases condition with
    | false => cases hwritten
    | true =>
      cases hwritten
      exact ⟨rfl, rfl⟩

/-- The current placeholder is written for a value. -/
theorem writes_placeholder (value : String) : Writes [.value value] placeholder where
  reads := .value value
  written hwritten := by
    cases hwritten
    exact ⟨(String.append_empty).symm, rfl⟩

/-- Two parts are written one after the other. -/
theorem Writes.append {template other : Template String} {text rest : QueryText}
    (h : Writes template text) (hother : Writes other rest) :
    Writes (template ++ other) (text ++ rest) where
  reads := h.reads.append hother.reads
  written {placeholders after written} hwritten := by
    obtain ⟨first, between, second, hfirst, hsecond, rfl⟩ := append_eq_ok.mp hwritten
    obtain ⟨rfl, hbetween⟩ := h.written hfirst
    obtain ⟨rfl, hafter⟩ := hother.written hsecond
    -- The second part goes on with the placeholder that the first one has left.
    rw [hbetween] at hafter ⊢
    refine ⟨(numbered_append _ _ _).symm, ?_⟩
    rw [hafter, values_append, List.length_append]
    omega

/-- Parts with a separator between them. -/
theorem Writes.separated {separator : String} (hseparator : Plain separator)
    {templates : List (Template String)} {texts : List QueryText}
    (h : List.Forall₂ Writes templates texts) :
    Writes ([.text separator].intercalate templates) (Serializer.separated separator texts) := by
  induction h with
  | nil =>
    exact writes_nil
  | @cons template text templates texts hfirst hrest ih =>
    cases hrest with
    | nil =>
      rw [List.intercalate_singleton]
      exact hfirst
    | cons hnext hrest =>
      rw [List.intercalate_cons_cons, List.append_assoc]
      exact hfirst.append ((writes_literal hseparator).append ih)

/-- A value for each placeholder of a list. -/
theorem forall₂_writes_placeholder {α : Type} {values : List String} {elements : List α}
    (h : values.length = elements.length) :
    List.Forall₂ Writes (values.map fun value => [.value value])
      (elements.map fun _ => placeholder) := by
  induction values generalizing elements with
  | nil =>
    cases List.eq_nil_of_length_eq_zero h.symm
    exact .nil
  | cons value values ih =>
    cases elements with
    | nil => cases h
    | cons element elements =>
      exact .cons (writes_placeholder value) (ih (Nat.succ.inj h))

namespace Condition

/-- An opening parenthesis may follow a number. -/
theorem plain_open {text : String} (h : '$' ∉ text.toList) : Plain ("(" ++ text) :=
  (Plain.of_checks (by decide)).append_of_noDollar (by decide) h

mutual

/-- A condition is written with its values numbered. -/
theorem writes_inPlace (condition : Condition) : Writes condition.inPlace condition.toString := by
  match condition with
  | .group type conditions =>
    have hbody := (@writes_literal "(" (.of_checks (by decide))).append
      (writes_groupInPlace type conditions)
    exact (writes_check _ _).append hbody
  | .real column value type =>
    have htype : Plain type.toString := by
      refine .of_checks ?_
      cases type <;> decide
    have hopening : Plain ("(" ++ column.toString ++ " " ++ type.toString ++ " ") :=
      ((((Plain.of_checks (by decide)).append (plain_column column)).append
        (.of_checks (by decide))).append htype).append (.of_checks (by decide))
    exact (writes_literal hopening).append
      ((writes_placeholder _).append (writes_literal (.of_checks (by decide))))
  | .inList column values =>
    have hopening : Plain ("(" ++ column.toString ++ " IN (") :=
      ((Plain.of_checks (by decide)).append (plain_column column)).append (.of_checks (by decide))
    have hvalues := @Writes.separated ", " (.of_checks (by decide)) _ _
      (@forall₂_writes_placeholder _ (values.map Scalar.toString) values
        (List.length_map _))
    rw [List.map_map] at hvalues
    exact (writes_check _ _).append ((writes_literal hopening).append
      (hvalues.append (writes_literal (.of_checks (by decide)))))
  | .not condition =>
    exact (writes_literal (.of_checks (by decide))).append
      ((writes_inPlace condition).append (writes_literal (.of_checks (by decide))))
  | .isNull column =>
    exact (writes_check _ _).append (writes_literal
      (((Plain.of_checks (by decide)).append (plain_column column)).append
        (.of_checks (by decide))))

/-- The conditions of a group are written with their values numbered. -/
theorem writes_groupInPlace (type : GroupConditionType) (conditions : List Condition) :
    Writes (groupInPlace type conditions) (groupToString type conditions) := by
  match conditions with
  | [] =>
    exact writes_nil
  | [condition] =>
    exact (writes_inPlace condition).append (writes_literal (.of_checks (by decide)))
  | condition :: next :: conditions =>
    have hconnective : Plain (" " ++ type.toString ++ " ") := by
      refine .of_checks ?_
      cases type <;> decide
    exact (writes_inPlace condition).append
      ((writes_literal hconnective).append (writes_groupInPlace type (next :: conditions)))

end

mutual

/-- The values of the statement are those that the condition collects. -/
theorem values_inPlace (condition : Condition) :
    values condition.inPlace = condition.collectParams := by
  match condition with
  | .group type conditions => exact values_groupInPlace type conditions
  | .real column value type => rfl
  | .inList column values =>
    show Template.values ([.text ", "].intercalate
      (values.map fun value => [.value value.toString]) ++ [.text "))"]) = _
    rw [values_append, values_intercalate, List.map_map]
    show (values.map fun value => [value.toString]).flatten ++ [] = values.map Scalar.toString
    rw [List.append_nil, ← List.flatMap_def, ← List.map_eq_flatMap]
  | .not condition =>
    show Template.values (condition.inPlace ++ [.text ")"]) = condition.collectParams
    rw [values_append, values_inPlace condition]
    exact List.append_nil _
  | .isNull column => rfl

/-- The values of a group are those that its conditions collect. -/
theorem values_groupInPlace (type : GroupConditionType) (conditions : List Condition) :
    values (groupInPlace type conditions) = groupCollectParams conditions := by
  match conditions with
  | [] => rfl
  | [condition] =>
    rw [groupInPlace, values_append, values_inPlace condition]
    rfl
  | condition :: next :: conditions =>
    rw [groupInPlace, values_append, values_inPlace condition, values,
      values_groupInPlace type (next :: conditions)]
    rfl

end

end Condition

/-! ## Created queries -/

namespace Creation

/-- A row of `VALUES` is written with its values numbered. -/
theorem writes_rowInPlace {columns : List Column} {row : ValueCollector}
    (h : row.length = columns.length) :
    Writes (rowInPlace row) (InsertOptions.rowText columns) :=
  (writes_literal (.of_checks (by decide))).append
    ((Writes.separated (.of_checks (by decide)) (forall₂_writes_placeholder h)).append
      (writes_literal (.of_checks (by decide))))

/-- The rows of `VALUES`. -/
theorem forall₂_writes_rowInPlace {columns : List Column} {rows : List ValueCollector}
    (h : ∀ row ∈ rows, row.length = columns.length) :
    List.Forall₂ Writes (rows.map rowInPlace)
      (List.replicate rows.length (InsertOptions.rowText columns)) := by
  induction rows with
  | nil => exact .nil
  | cons row rows ih =>
    exact .cons (writes_rowInPlace (h row List.mem_cons_self))
      (ih fun other hother => h other (List.mem_cons_of_mem row hother))

/-- The assignments of `SET`. -/
theorem forall₂_writes_modificationInPlace {columns : List Column} {values : ValueCollector}
    (h : values.length = columns.length) :
    List.Forall₂ Writes (List.zipWith modificationInPlace columns values)
      (columns.map UpdateOptions.modificationText) := by
  induction columns generalizing values with
  | nil =>
    cases List.eq_nil_of_length_eq_zero h
    exact .nil
  | cons column columns ih =>
    cases values with
    | nil => cases h
    | cons value values =>
      have hcolumn : Plain (column.toString ++ " = ") :=
        (plain_column column).append (.of_checks (by decide))
      exact .cons ((writes_literal hcolumn).append (writes_placeholder value))
        (ih (Nat.succ.inj h))

/-- The values of the assignments are the new values. -/
theorem values_modificationsInPlace {columns : List Column} {values : ValueCollector}
    (h : values.length = columns.length) :
    ((List.zipWith modificationInPlace columns values).map Template.values).flatten = values := by
  induction columns generalizing values with
  | nil =>
    cases List.eq_nil_of_length_eq_zero h
    rfl
  | cons column columns ih =>
    cases values with
    | nil => cases h
    | cons value values =>
      rw [List.zipWith_cons_cons, List.map_cons, List.flatten_cons, ih (Nat.succ.inj h)]
      rfl

/-- The values of a row are those of the row. -/
theorem values_rowInPlace (row : ValueCollector) : Template.values (rowInPlace row) = row := by
  show Template.values ([.text ", "].intercalate (row.map fun value => [.value value]) ++
    [.text ")"]) = row
  rw [values_append, values_intercalate, List.map_map]
  show (row.map fun value => [value]).flatten ++ [] = row
  rw [List.append_nil, ← List.flatMap_def, ← List.map_eq_flatMap, List.map_id']

/-- The condition of an update or a delete. -/
theorem writes_conditionInPlace (condition : Option Condition) :
    Writes (conditionInPlace condition) (requiredConditionText condition) := by
  cases condition with
  | some condition => exact condition.writes_inPlace
  | none =>
    exact writes_nil

/-- Its values are its parameters. -/
theorem values_conditionInPlace (condition : Option Condition) :
    Template.values (conditionInPlace condition) = QueryFactory.conditionParams condition := by
  cases condition with
  | some condition => exact condition.values_inPlace
  | none => rfl

/-- A `WHERE` is written with its values numbered. -/
theorem writes_whereInPlace (condition : Option Condition) :
    Writes (whereInPlace condition) (SelectOptions.whereText condition) := by
  cases condition with
  | none => exact writes_nil
  | some condition =>
    exact (writes_literal (.of_checks (by decide))).append condition.writes_inPlace

/-- Its values are its parameters. -/
theorem values_whereInPlace (condition : Option Condition) :
    Template.values (whereInPlace condition) = QueryFactory.conditionParams condition := by
  cases condition with
  | none => rfl
  | some condition => exact condition.values_inPlace

/-- An `ORDER BY` is written. -/
theorem writes_orderInPlace (orderBy : Option Column) (orderType : OrderType) :
    Writes (orderInPlace orderBy orderType) (SelectOptions.orderText orderBy orderType) := by
  have htype : Plain orderType.toString := by
    refine .of_checks ?_
    cases orderType <;> decide
  cases orderBy with
  | none => exact writes_nil
  | some column =>
    have hcolumn : Plain (" ORDER BY " ++ column.toString ++ " ") :=
      ((Plain.of_checks (by decide)).append (plain_column column)).append (.of_checks (by decide))
    exact (writes_literal hcolumn).append (writes_literal htype)

/-- The text of a selection. -/
theorem writes_select (options : SelectOptions) :
    Writes (Creation.select options).inPlace options.serializeParametrized := by
  have hjoins : Plain (String.join (options.joins.map (SelectOptions.joinText options.table))) := by
    refine plain_join fun text htext => ?_
    obtain ⟨join, -, rfl⟩ := List.mem_map.mp htext
    exact plain_joinText options.table join
  have hbounds : Plain (SelectOptions.boundText "LIMIT" options.limit ++
      SelectOptions.boundText "OFFSET" options.offset ++ ";") :=
    ((plain_boundText (.of_checks (by decide)) options.limit).append
      (plain_boundText (.of_checks (by decide)) options.offset)).append (.of_checks (by decide))
  exact (writes_check _ _).append
    ((writes_literal ((plain_selectText options.table options.columns options.joins).append
      hjoins)).append ((writes_whereInPlace options.condition).append
        ((writes_orderInPlace options.orderBy options.orderType).append (writes_literal hbounds))))

/-- The text of an insertion, when every row has a value for each column. -/
theorem writes_insert (options : InsertOptions) {values : List ValueCollector}
    (h : ∀ row ∈ values, row.length = options.columns.length) :
    Writes (Creation.insert options values).inPlace
      { options with valuesCount := values.length }.serializeParametrized := by
  have hnames : ∀ columns : List Column, '$' ∉ (StringConverters.toStringList
      (columns.map Column.toString) ", ").toList := by
    intro columns
    refine noDollar_toStringList (fun text htext => ?_) (by decide)
    obtain ⟨column, -, rfl⟩ := List.mem_map.mp htext
    exact (plain_column column).noDollar
  have hopening : Plain ("INSERT INTO " ++ options.table.quoted ++ " " ++
      (if options.columns.isEmpty then ""
        else "(" ++ StringConverters.toStringList (options.columns.map Column.toString) ", " ++
          ") ") ++ "VALUES ") := by
    refine ((((Plain.of_checks (by decide)).append (plain_table options.table)).append
      (.of_checks (by decide))).append ?_).append (.of_checks (by decide))
    split
    · exact .of_checks (by decide)
    · exact (Condition.plain_open (hnames options.columns)).append (.of_checks (by decide))
  have hclosing : Plain ((if options.returning.isEmpty then ""
      else " RETURNING " ++
        StringConverters.toStringList (options.returning.map Column.toString) ", ") ++ ";") := by
    refine Plain.append ?_ (.of_checks (by decide))
    split
    · exact .of_checks (by decide)
    · exact (Plain.of_checks (by decide)).append_of_noDollar (by decide) (hnames options.returning)
  exact (writes_check _ _).append ((writes_literal hopening).append
    ((Writes.separated (.of_checks (by decide)) (forall₂_writes_rowInPlace h)).append
      (writes_literal hclosing)))

/-- The text of a modification with a value for each column. -/
theorem writes_update (options : UpdateOptions) {values : ValueCollector}
    (h : values.length = options.columns.length) :
    Writes (Creation.update options values).inPlace options.serializeParametrized := by
  have hopening : Plain ("UPDATE " ++ options.table.quoted ++ " SET ") :=
    ((Plain.of_checks (by decide)).append (plain_table options.table)).append
      (.of_checks (by decide))
  have hclosing := (@writes_literal " WHERE " (.of_checks (by decide))).append
    ((writes_conditionInPlace options.condition).append
      (@writes_literal ";" (.of_checks (by decide))))
  exact (writes_check _ _).append ((writes_check _ _).append ((writes_check _ _).append
    ((writes_literal hopening).append ((Writes.separated (.of_checks (by decide))
      (forall₂_writes_modificationInPlace h)).append hclosing))))

/-- The text of a deletion. -/
theorem writes_delete (options : DeleteOptions) :
    Writes (Creation.delete options).inPlace options.serializeParametrized := by
  have hopening : Plain ("DELETE FROM " ++ options.table.quoted ++ " WHERE ") :=
    ((Plain.of_checks (by decide)).append (plain_table options.table)).append
      (.of_checks (by decide))
  exact (writes_check _ _).append ((writes_check _ _).append ((writes_literal hopening).append
    ((writes_conditionInPlace options.condition).append (writes_literal (.of_checks (by decide))))))

/-- A query that is created is written with its values numbered. -/
theorem writes_inPlace {creation : Creation} {query : Query}
    (h : creation.create = .ok query) :
    Writes creation.inPlace query.options.serializeParametrizedFrom := by
  cases creation with
  | select options =>
    cases h
    exact writes_select options
  | insert options values =>
    obtain ⟨-, hrows, rfl⟩ := QueryFactory.createInsert_eq_ok.mp h
    exact writes_insert options hrows
  | update options values =>
    obtain ⟨hlength, -, rfl⟩ := QueryFactory.createUpdate_eq_ok.mp h
    exact writes_update options hlength
  | delete options =>
    obtain ⟨-, rfl⟩ := QueryFactory.createDelete_eq_ok.mp h
    exact writes_delete options

/-- The values of the statement are the parameters of the query. -/
theorem values_inPlace {creation : Creation} {query : Query}
    (h : creation.create = .ok query) : Template.values creation.inPlace = query.params := by
  cases creation with
  | select options =>
    cases h
    have horder : Template.values (orderInPlace options.orderBy options.orderType) = [] := by
      cases options.orderBy <;> rfl
    show Template.values (whereInPlace options.condition ++
      (orderInPlace options.orderBy options.orderType ++ [.text _])) = _
    rw [values_append, values_append, horder, values_whereInPlace]
    exact List.append_nil _
  | insert options values =>
    obtain ⟨-, -, rfl⟩ := QueryFactory.createInsert_eq_ok.mp h
    have hrows : (values.map rowInPlace).map Template.values = values := by
      rw [List.map_map]
      exact (List.map_congr_left fun row _ => values_rowInPlace row).trans (List.map_id _)
    show Template.values ([.text ", "].intercalate (values.map rowInPlace) ++ [.text _]) =
      values.flatten
    rw [values_append, values_intercalate, hrows]
    exact List.append_nil _
  | update options values =>
    obtain ⟨hlength, -, rfl⟩ := QueryFactory.createUpdate_eq_ok.mp h
    show Template.values ([.text ", "].intercalate
      (List.zipWith modificationInPlace options.columns values) ++
        .text " WHERE " :: (conditionInPlace options.condition ++ [.text ";"])) =
      values ++ QueryFactory.conditionParams options.condition
    rw [values_append, values_intercalate, values_modificationsInPlace hlength, Template.values,
      values_append, values_conditionInPlace]
    exact congrArg (values ++ ·) (List.append_nil _)
  | delete options =>
    obtain ⟨-, rfl⟩ := QueryFactory.createDelete_eq_ok.mp h
    show Template.values (conditionInPlace options.condition ++ [.text ";"]) = _
    rw [values_append, values_conditionInPlace]
    exact List.append_nil _

/-- The text of a query that is created is its statement with the values numbered from 1 on, its
parameters are these values, and its placeholders are `$1`, `$2`, ... up to the number of the
parameters that are bound. -/
theorem placeholders_line_up {creation : Creation} {query : Query} {text : String}
    (hcreate : creation.create = .ok query)
    (htext : query.options.serializeParametrized = .ok text) :
    text = numbered 1 creation.inPlace ∧
      query.params = Template.values creation.inPlace ∧
      Template.scan text = List.range' 1 query.params.toPqxx.length := by
  have hwrites := writes_inPlace hcreate
  have hvalues := values_inPlace hcreate
  rw [QueryOptions.serializeParametrized] at htext
  rcases hwritten : query.options.serializeParametrizedFrom {} with e | ⟨written, after⟩
  · rw [hwritten] at htext
    cases htext
  · rw [hwritten] at htext
    cases htext
    obtain ⟨rfl, -⟩ := hwrites.written hwritten
    refine ⟨rfl, hvalues.symm, ?_⟩
    rw [ValueCollector.length_toPqxx, ← hvalues]
    exact scan_numbered hwrites.reads 1

/-- A count for two items of a warehouse. -/
def exampleUpdate : Creation :=
  .update { table := .warehouseItem, columns := [.count], condition := some (.group .and [
    .real .warehouseId (.integer 1) .equal, .inList .productId [.integer 7, .integer 8]]) } ["5"]

/-- Its placeholders stand for the new count, the warehouse and the two products. -/
theorem placeholders_line_up_exampleUpdate :
    Template.scan ("UPDATE public.\"Warehouse_Item\" SET count = $1 " ++
      "WHERE ((warehouse_id = $2) AND (product_id IN ($3, $4)));") = [1, 2, 3, 4] ∧
      Template.values exampleUpdate.inPlace = ["5", "1", "7", "8"] := by
  obtain ⟨-, hvalues, hscan⟩ := @placeholders_line_up exampleUpdate
    ⟨.update { table := .warehouseItem, columns := [.count], condition := some (.group .and [
      .real .warehouseId (.integer 1) .equal, .inList .productId [.integer 7, .integer 8]]) },
      ["5", "1", "7", "8"]⟩
    ("UPDATE public.\"Warehouse_Item\" SET count = $1 " ++
      "WHERE ((warehouse_id = $2) AND (product_id IN ($3, $4)));") (by rfl) (by decide +kernel)
  exact ⟨hscan, hvalues.symm⟩

end Creation

end Srv.Db

import WarehouseAccounting.Foundations.Decimal
import Mathlib.Data.List.Nodup

/-!
# Relational databases

Tables of rows with their declared constraints, and what statements come to in the end: rows
that are inserted, replaced and deleted. A row is named by its primary key.

- `Integral.applyAll`: writes that pass the checks keep the types, the required columns and the
  primary keys.
- `applyAll_delete` and `applyAll_replace`: the writes of a statement, row by row, are the
  statement on the whole table.
- `AgreeOn.applyAll`: databases with the same rows under some keys keep them under the same
  writes.
-/

namespace Relational

/-! ## Values -/

/-- A value of a field that is not null. -/
inductive Value where
  | integer (value : Int)
  | text (value : String)
  deriving DecidableEq, Repr

/-- The value as it is sent to a client. -/
def Value.toText : Value → String
  | .integer value => toString value
  | .text value => value

/-- The type of a column: integers of a range, or texts. -/
inductive ColumnType where
  | integer (minimum maximum : Int)
  | text
  deriving DecidableEq, Repr

namespace ColumnType

/-- Integers of four bytes. -/
abbrev int4 : ColumnType := .integer (-2 ^ 31) (2 ^ 31 - 1)

/-- Integers of eight bytes. -/
abbrev int8 : ColumnType := .integer (-2 ^ 63) (2 ^ 63 - 1)

/-- The values of the type. -/
def admits : ColumnType → Value → Bool
  | .integer minimum maximum, .integer value => minimum ≤ value && value ≤ maximum
  | .text, .text _ => true
  | _, _ => false

/-- A text from a client as a value of the type. -/
def parse (type : ColumnType) (text : String) : Option Value :=
  match type with
  | .text => some (.text text)
  | .integer minimum maximum =>
    match Decimal.parse text with
    | some value =>
      if minimum ≤ value ∧ value ≤ maximum then some (.integer value) else none
    | none => none

/-- The text of an integer is read back when it is in the range, and refused otherwise. -/
theorem parse_toString (minimum maximum value : Int) :
    (ColumnType.integer minimum maximum).parse (toString value) =
      if minimum ≤ value ∧ value ≤ maximum then some (.integer value) else none := by
  rw [parse, Decimal.parse_toString]

end ColumnType

/-! ## Predicates -/

/-- The operators that compare two values. -/
inductive Comparison where
  | equal
  | less
  | greater
  | notEqual
  | notLess
  | notGreater
  deriving DecidableEq, Repr

/-- One of two values comes before the other. -/
def Value.precedes : Value → Value → Bool
  | .integer value, .integer other => value < other
  | .text value, .text other => value < other
  | .integer _, .text _ => true
  | .text _, .integer _ => false

/-- The comparison of two values. -/
def Comparison.holds (comparison : Comparison) (value other : Value) : Bool :=
  match comparison with
  | .equal => value = other
  | .less => value.precedes other
  | .greater => other.precedes value
  | .notEqual => value ≠ other
  | .notLess => !value.precedes other
  | .notGreater => !other.precedes value

/-- A row: the value of every column, or null. -/
abbrev Row (C : Type) := C → Option Value

/-- A search condition with its values. -/
inductive Predicate (C : Type) where
  | and (predicates : List (Predicate C))
  | or (predicates : List (Predicate C))
  | not (predicate : Predicate C)
  | compare (column : C) (comparison : Comparison) (value : Option Value)
  | among (column : C) (values : List (Option Value))
  | isNull (column : C)

namespace Predicate

variable {C : Type}

/-- Conjunction, where `none` is unknown. -/
def conjunction : Option Bool → Option Bool → Option Bool
  | some false, _ => some false
  | _, some false => some false
  | some true, some true => some true
  | _, _ => none

/-- Disjunction, where `none` is unknown. -/
def disjunction : Option Bool → Option Bool → Option Bool
  | some true, _ => some true
  | _, some true => some true
  | some false, some false => some false
  | _, _ => none

/-- A comparison with null is unknown. -/
def compareNullable (comparison : Comparison) : Option Value → Option Value → Option Bool
  | some value, some other => some (comparison.holds value other)
  | _, _ => none

mutual

/-- The truth of a predicate on a row. -/
def eval (row : Row C) : Predicate C → Option Bool
  | .and predicates => evalAnd row predicates
  | .or predicates => evalOr row predicates
  | .not predicate => (predicate.eval row).map (!·)
  | .compare column comparison value => compareNullable comparison (row column) value
  | .among column values =>
      (values.map (compareNullable .equal (row column))).foldr disjunction (some false)
  | .isNull column => some (row column).isNone

/-- The truth of all of some predicates. -/
def evalAnd (row : Row C) : List (Predicate C) → Option Bool
  | [] => some true
  | predicate :: predicates => conjunction (predicate.eval row) (evalAnd row predicates)

/-- The truth of one of some predicates. -/
def evalOr (row : Row C) : List (Predicate C) → Option Bool
  | [] => some false
  | predicate :: predicates => disjunction (predicate.eval row) (evalOr row predicates)

end

/-- The rows for which a predicate is neither false nor unknown. -/
def selects (predicate : Predicate C) (row : Row C) : Bool :=
  predicate.eval row = some true

/-- A conjunction is true when both parts are. -/
@[simp]
theorem conjunction_eq_true {truth other : Option Bool} :
    conjunction truth other = some true ↔ truth = some true ∧ other = some true := by
  rcases truth with _ | _ | _ <;> rcases other with _ | _ | _ <;> simp [conjunction]

/-- A disjunction is true when one part is. -/
@[simp]
theorem disjunction_eq_true {truth other : Option Bool} :
    disjunction truth other = some true ↔ truth = some true ∨ other = some true := by
  rcases truth with _ | _ | _ <;> rcases other with _ | _ | _ <;> simp [disjunction]

/-- An equation with a value is true of the rows with that value. -/
@[simp]
theorem compareNullable_equal {field : Option Value} {value : Value} :
    compareNullable .equal field (some value) = some true ↔ field = some value := by
  cases field <;> simp [compareNullable, Comparison.holds]

/-- A list of values is met by the rows with one of them. -/
theorem foldr_disjunction_eq_true {field : Option Value} {values : List Value} :
    ((values.map some).map (compareNullable .equal field)).foldr disjunction (some false) =
      some true ↔ ∃ value ∈ values, field = some value := by
  induction values with
  | nil => simp
  | cons value values ih =>
    rw [List.map_cons, List.map_cons, List.foldr_cons, disjunction_eq_true, ih,
      compareNullable_equal]
    simp

end Predicate

/-! ## Schemas -/

/-- The declaration of a table. -/
structure TableSchema (T C : Type) where
  columns : List (C × ColumnType)
  notNull : List C
  /-- The column that is generated always. -/
  identity : Option C := none
  primaryKey : List C
  /-- The other unique constraints. -/
  uniques : List (List C) := []
  /-- The foreign keys: a column, and the column of a table that it refers to. -/
  references : List (C × T × C) := []

/-- The declarations of all tables. -/
structure Schema (T C : Type) where
  tables : List T
  table : T → TableSchema T C

/-- The rows of every table. -/
abbrev Db (T C : Type) := T → List (Row C)

/-- The name of a row: its table, and the values of its primary key. -/
structure Key (T : Type) where
  table : T
  values : List (Option Value)
  deriving DecidableEq

/-- What a statement does to one row. -/
inductive Write (T C : Type) where
  | insert (table : T) (row : Row C)
  /-- The new row has the same primary key. -/
  | replace (key : Key T) (row : Row C)
  | delete (key : Key T)

namespace Schema

variable {T C : Type} (schema : Schema T C)

/-- The name of a row of a table. -/
def keyOf (table : T) (row : Row C) : Key T :=
  ⟨table, (schema.table table).primaryKey.map row⟩

@[simp]
theorem keyOf_table (table : T) (row : Row C) : (schema.keyOf table row).table = table := rfl

/-- The type of a column of a table. -/
def typeOf [DecidableEq C] (table : T) (column : C) : Option ColumnType :=
  (schema.table table).columns.lookup column

/-- Every field is null or of its type, and no required field is null. -/
def conforms [DecidableEq C] (table : T) (row : Row C) : Bool :=
  ((schema.table table).columns.all fun (column, type) => (row column).all type.admits) &&
    (schema.table table).notNull.all fun column => (row column).isSome

/-- Two rows have the same values under a unique constraint. Null is different from itself. -/
def sameUnder [DecidableEq C] (columns : List C) (row other : Row C) : Bool :=
  columns.all fun column => (row column).isSome && row column = other column

/-- The rows that the foreign keys of a row refer to are there. -/
def parentsExist [DecidableEq T] (db : Db T C) (table : T) (row : Row C) : Bool :=
  (schema.table table).references.all fun (column, parent, parentColumn) =>
    match row column with
    | none => true
    | some value => (db parent).any fun parentRow => parentRow parentColumn = some value

/-- The foreign keys that refer to a table. -/
def childrenOf [DecidableEq T] (table : T) : List (T × C × C) :=
  schema.tables.flatMap fun child =>
    (schema.table child).references.filterMap fun (column, parent, parentColumn) =>
      if parent = table then some (child, column, parentColumn) else none

/-- No row of any table is left behind by a row that goes. -/
def childrenAbsent [DecidableEq T] (db : Db T C) (table : T) (row : Row C) : Bool :=
  (schema.childrenOf table).all fun (child, column, parentColumn) =>
    (db child).all fun childRow =>
      (childRow column).isNone || childRow column ≠ row parentColumn ||
        (db table).any fun other => other parentColumn = row parentColumn

end Schema

/-! ## Writes -/

namespace Write

variable {T C : Type} (schema : Schema T C)

/-- The row that is written. -/
def key : Write T C → Key T
  | .insert table row => schema.keyOf table row
  | .replace key _ => key
  | .delete key => key

variable [DecidableEq T]

/-- The tables after a write. -/
def apply (write : Write T C) (db : Db T C) : Db T C := fun table =>
  match write with
  | .insert target row => if table = target then db table ++ [row] else db table
  | .replace key row =>
    if table = key.table then
      (db table).map fun old => if schema.keyOf table old = key then row else old
    else
      db table
  | .delete key =>
    if table = key.table then (db table).filter fun old => schema.keyOf table old ≠ key
    else db table

@[simp]
theorem apply_insert (target : T) (row : Row C) (db : Db T C) (table : T) :
    (Write.insert target row).apply schema db table =
      if table = target then db table ++ [row] else db table := rfl

@[simp]
theorem apply_replace (key : Key T) (row : Row C) (db : Db T C) (table : T) :
    (Write.replace key row).apply schema db table =
      if table = key.table then
        (db table).map fun old => if schema.keyOf table old = key then row else old
      else db table := rfl

@[simp]
theorem apply_delete (key : Key T) (db : Db T C) (table : T) :
    (Write.delete key : Write T C).apply schema db table =
      if table = key.table then (db table).filter fun old => schema.keyOf table old ≠ key
      else db table := rfl

variable [DecidableEq C]

/-- The checks of a row when it is written. -/
def check (db : Db T C) : Write T C → Bool
  | .insert table row =>
    schema.conforms table row && (db table).all (fun old => schema.keyOf table old ≠
      schema.keyOf table row) &&
      (schema.table table).uniques.all fun columns =>
        !(db table).any (Schema.sameUnder columns row)
  | .replace key row =>
    schema.conforms key.table row && schema.keyOf key.table row = key &&
      (schema.table key.table).uniques.all fun columns =>
        !(db key.table).any fun old =>
          schema.keyOf key.table old ≠ key && Schema.sameUnder columns row old
  | .delete _ => true

/-- The checks of the foreign keys, when all rows of a statement are written. -/
def checkReferences (before after : Db T C) : Write T C → Bool
  | .insert table row => schema.parentsExist after table row
  | .replace key row =>
    schema.parentsExist after key.table row &&
      ((before key.table).filter fun old => schema.keyOf key.table old = key).all
        (schema.childrenAbsent after key.table)
  | .delete key =>
    ((before key.table).filter fun old => schema.keyOf key.table old = key).all
      (schema.childrenAbsent after key.table)

end Write

section Writes

variable {T C : Type} [DecidableEq T] (schema : Schema T C)

/-- The tables after some writes. -/
def applyAll (writes : List (Write T C)) (db : Db T C) : Db T C :=
  writes.foldl (fun db write => write.apply schema db) db

@[simp]
theorem applyAll_nil (db : Db T C) : applyAll schema [] db = db := rfl

@[simp]
theorem applyAll_cons (write : Write T C) (writes : List (Write T C)) (db : Db T C) :
    applyAll schema (write :: writes) db = applyAll schema writes (write.apply schema db) := rfl

theorem applyAll_append (writes others : List (Write T C)) (db : Db T C) :
    applyAll schema (writes ++ others) db = applyAll schema others (applyAll schema writes db) :=
  List.foldl_append

variable [DecidableEq C]

/-- Every write passes its checks, on what the writes before it have left. -/
def checkAll : List (Write T C) → Db T C → Bool
  | [], _ => true
  | write :: writes, db => write.check schema db && checkAll writes (write.apply schema db)

/-- The writes of a statement are accepted. -/
def accepts (writes : List (Write T C)) (db : Db T C) : Bool :=
  checkAll schema writes db &&
    writes.all (Write.checkReferences schema db (applyAll schema writes db))

/-! ## What writes keep -/

variable {schema}

/-- The constraints that a database meets at all times: the types and the required columns of
its rows, and the primary keys. -/
structure Integral (schema : Schema T C) (db : Db T C) : Prop where
  conforms : ∀ table, ∀ row ∈ db table, schema.conforms table row = true
  keys_nodup : ∀ table, ((db table).map (schema.keyOf table)).Nodup

omit [DecidableEq T] in
/-- A required integer is there, and in its range. -/
theorem Integral.integer {db : Db T C} (h : Integral schema db) {table : T} {row : Row C}
    (hrow : row ∈ db table) {column : C} {minimum maximum : Int}
    (hcolumn : (column, ColumnType.integer minimum maximum) ∈ (schema.table table).columns)
    (hnotNull : column ∈ (schema.table table).notNull) :
    ∃ value, row column = some (.integer value) ∧ minimum ≤ value ∧ value ≤ maximum := by
  have hconforms := h.conforms table row hrow
  rw [Schema.conforms, Bool.and_eq_true, List.all_eq_true, List.all_eq_true] at hconforms
  have htyped := hconforms.1 _ hcolumn
  have hsome := hconforms.2 _ hnotNull
  dsimp only at htyped
  match hfield : row column with
  | none =>
    rw [hfield] at hsome
    cases hsome
  | some (.text text) =>
    rw [hfield] at htyped
    cases htyped
  | some (.integer value) =>
    rw [hfield, Option.all_some, ColumnType.admits, Bool.and_eq_true, decide_eq_true_eq,
      decide_eq_true_eq] at htyped
    exact ⟨value, rfl, htyped⟩

/-- A write that passes its checks keeps the constraints. -/
theorem Integral.apply {db : Db T C} (h : Integral schema db) {write : Write T C}
    (hcheck : write.check schema db = true) : Integral schema (write.apply schema db) := by
  match write with
  | .insert target row =>
    simp only [Write.check, Bool.and_eq_true, List.all_eq_true, decide_eq_true_eq] at hcheck
    obtain ⟨⟨hconforms, hfresh⟩, -⟩ := hcheck
    constructor
    · intro table other hother
      rw [Write.apply_insert] at hother
      split at hother
      · rename_i htable
        rcases List.mem_append.mp hother with hold | hnew
        · exact h.conforms table other hold
        · rw [List.mem_singleton.mp hnew, htable]
          exact hconforms
      · exact h.conforms table other hother
    · intro table
      rw [Write.apply_insert]
      split
      · rename_i htable
        subst htable
        rw [List.map_append, List.nodup_append]
        refine ⟨h.keys_nodup table, by simp, ?_⟩
        intro key hkey other hother
        obtain ⟨old, hold, rfl⟩ := List.mem_map.mp hkey
        rw [List.map_singleton, List.mem_singleton] at hother
        rw [hother]
        exact hfresh old hold
      · exact h.keys_nodup table
  | .replace key row =>
    simp only [Write.check, Bool.and_eq_true, decide_eq_true_eq] at hcheck
    obtain ⟨⟨hconforms, hkey⟩, -⟩ := hcheck
    constructor
    · intro table other hother
      rw [Write.apply_replace] at hother
      split at hother
      · rename_i htable
        obtain ⟨old, hold, rfl⟩ := List.mem_map.mp hother
        split
        · rw [htable]
          exact hconforms
        · exact h.conforms table old hold
      · exact h.conforms table other hother
    · intro table
      rw [Write.apply_replace]
      split
      · rename_i htable
        -- The keys are the ones there were.
        have hkeys : ∀ old ∈ db table,
            (schema.keyOf table ∘ fun old =>
              if schema.keyOf table old = key then row else old) old =
              schema.keyOf table old := by
          intro old _
          dsimp only [Function.comp_apply]
          split
          · rename_i hold
            rw [hold, htable, hkey]
          · rfl
        rw [List.map_map, List.map_congr_left hkeys]
        exact h.keys_nodup table
      · exact h.keys_nodup table
  | .delete key =>
    constructor
    · intro table other hother
      rw [Write.apply_delete] at hother
      split at hother
      · exact h.conforms table other (List.mem_of_mem_filter hother)
      · exact h.conforms table other hother
    · intro table
      rw [Write.apply_delete]
      split
      · exact (h.keys_nodup table).sublist (List.filter_sublist.map _)
      · exact h.keys_nodup table

/-- So do all writes of a statement. -/
theorem Integral.applyAll {db : Db T C} (h : Integral schema db) {writes : List (Write T C)}
    (hcheck : checkAll schema writes db = true) : Integral schema (applyAll schema writes db) := by
  induction writes generalizing db with
  | nil => exact h
  | cons write writes ih =>
    rw [checkAll, Bool.and_eq_true] at hcheck
    exact ih (h.apply hcheck.1) hcheck.2

end Writes

/-! ## Statements on whole tables -/

section Statements

variable {T C : Type} [DecidableEq T] {schema : Schema T C}

/-- Writes to other tables leave a table as it is. -/
theorem applyAll_of_ne {writes : List (Write T C)} {table : T}
    (h : ∀ write ∈ writes, (write.key schema).table ≠ table) (db : Db T C) :
    applyAll schema writes db table = db table := by
  induction writes generalizing db with
  | nil => rfl
  | cons write writes ih =>
    rw [applyAll_cons, ih fun other hother => h other (List.mem_cons_of_mem _ hother)]
    have hne := (h write List.mem_cons_self).symm
    cases write with
    | insert target row => exact if_neg hne
    | replace key row => exact if_neg hne
    | delete key => exact if_neg hne

/-- Inserted rows come last. -/
theorem applyAll_insert (target : T) (rows : List (Row C)) (db : Db T C) (table : T) :
    applyAll schema (rows.map (Write.insert target)) db table =
      if table = target then db table ++ rows else db table := by
  induction rows generalizing db with
  | nil => simp
  | cons row rows ih =>
    rw [List.map_cons, applyAll_cons, ih, Write.apply_insert]
    split
    · rw [List.append_assoc, List.singleton_append]
    · rfl

/-- Deleting some rows one by one. -/
theorem applyAll_deleteAll (target : T) (rows : List (Row C)) (db : Db T C) (table : T) :
    applyAll schema (rows.map fun row => Write.delete (schema.keyOf target row)) db table =
      if table = target then
        (db table).filter fun old => rows.all fun row =>
          schema.keyOf table old ≠ schema.keyOf target row
      else db table := by
  induction rows generalizing db with
  | nil => simp
  | cons row rows ih =>
    rw [List.map_cons, applyAll_cons, ih, Write.apply_delete, Schema.keyOf_table]
    by_cases htable : table = target
    · rw [if_pos htable, if_pos htable, if_pos htable, List.filter_filter]
      refine List.filter_congr fun old _ => ?_
      rw [List.all_cons, Bool.and_comm]
    · rw [if_neg htable, if_neg htable, if_neg htable]

/-- Replacing some rows one by one, each by a row with the same key. -/
theorem applyAll_replaceAll (target : T) {rows : List (Row C)} (update : Row C → Row C)
    (hnodup : (rows.map (schema.keyOf target)).Nodup)
    (hkey : ∀ row ∈ rows, schema.keyOf target (update row) = schema.keyOf target row)
    (db : Db T C) (table : T) :
    applyAll schema (rows.map fun row => Write.replace (schema.keyOf target row) (update row)) db
        table =
      if table = target then
        (db table).map fun old =>
          ((rows.find? fun row => schema.keyOf target row = schema.keyOf target old).map
            update).getD old
      else db table := by
  induction rows generalizing db with
  | nil => simp
  | cons row rows ih =>
    rw [List.map_cons, List.nodup_cons] at hnodup
    rw [List.map_cons, applyAll_cons,
      ih hnodup.2 fun other hother => hkey other (List.mem_cons_of_mem _ hother),
      Write.apply_replace]
    rw [Schema.keyOf_table]
    by_cases htable : table = target
    · subst htable
      rw [if_pos rfl, if_pos rfl, if_pos rfl, List.map_map]
      refine List.map_congr_left fun old _ => ?_
      dsimp only [Function.comp_apply]
      rw [List.find?_cons]
      by_cases hold : schema.keyOf table old = schema.keyOf table row
      · -- No later row has this key again.
        have hnone : rows.find? (fun other => schema.keyOf table other =
            schema.keyOf table (update row)) = none := by
          rw [List.find?_eq_none, hkey row List.mem_cons_self]
          intro other hother heq
          exact hnodup.1 (List.mem_map.mpr ⟨other, hother, of_decide_eq_true heq⟩)
        rw [if_pos hold, hnone, hold]
        simp
      · rw [if_neg hold]
        simp [Ne.symm hold]
    · rw [if_neg htable, if_neg htable, if_neg htable]

/-- Deleting the rows that a condition selects. -/
theorem applyAll_delete {db : Db T C} (target : T) (selected : Row C → Bool)
    (hnodup : ((db target).map (schema.keyOf target)).Nodup) (table : T) :
    applyAll schema (((db target).filter selected).map fun row =>
        Write.delete (schema.keyOf target row)) db table =
      if table = target then (db table).filter fun old => !selected old else db table := by
  rw [applyAll_deleteAll]
  split
  · rename_i htable
    subst htable
    refine List.filter_congr fun old hold => ?_
    rw [Bool.eq_iff_iff, List.all_eq_true, Bool.not_eq_true']
    constructor
    · intro hall
      by_contra hselected
      rw [Bool.not_eq_false] at hselected
      have hne := hall old (List.mem_filter.mpr ⟨hold, hselected⟩)
      simp at hne
    · intro hselected row hrow
      obtain ⟨hrow, hrowSelected⟩ := List.mem_filter.mp hrow
      -- Two rows with one key are one row.
      rw [decide_eq_true_eq]
      intro heq
      have hsame := List.inj_on_of_nodup_map hnodup hold hrow heq
      rw [hsame, hrowSelected] at hselected
      cases hselected
  · rfl

/-- Replacing the rows that a condition selects. -/
theorem applyAll_replace {db : Db T C} (target : T) (selected : Row C → Bool)
    (update : Row C → Row C) (hnodup : ((db target).map (schema.keyOf target)).Nodup)
    (hkey : ∀ row, schema.keyOf target (update row) = schema.keyOf target row) (table : T) :
    applyAll schema (((db target).filter selected).map fun row =>
        Write.replace (schema.keyOf target row) (update row)) db table =
      if table = target then (db table).map fun old => if selected old then update old else old
      else db table := by
  rw [applyAll_replaceAll target update (hnodup.sublist (List.filter_sublist.map _))
    fun row _ => hkey row]
  split
  · rename_i htable
    subst htable
    refine List.map_congr_left fun old hold => ?_
    by_cases hselected : selected old = true
    · have hmem : old ∈ (db table).filter selected := List.mem_filter.mpr ⟨hold, hselected⟩
      rw [if_pos hselected]
      rcases hfind : ((db table).filter selected).find? fun row =>
          schema.keyOf table row = schema.keyOf table old with _ | row
      · have hnone := List.find?_eq_none.mp hfind old hmem
        simp at hnone
      · have hrow := List.mem_of_mem_filter (List.mem_of_find?_eq_some hfind)
        have heq := List.find?_some hfind
        rw [List.inj_on_of_nodup_map hnodup hrow hold (of_decide_eq_true heq)]
        rfl
    · rw [if_neg hselected]
      have hnone : ((db table).filter selected).find? (fun row =>
          schema.keyOf table row = schema.keyOf table old) = none := by
        rw [List.find?_eq_none]
        intro row hrow heq
        obtain ⟨hrow, hrowSelected⟩ := List.mem_filter.mp hrow
        rw [List.inj_on_of_nodup_map hnodup hrow hold (of_decide_eq_true heq)] at hrowSelected
        exact hselected hrowSelected
      rw [hnone]
      rfl
  · rfl

end Statements

end Relational

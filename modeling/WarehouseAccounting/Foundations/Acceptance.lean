import WarehouseAccounting.Foundations.Relational

/-!
# Writes that are accepted

What it takes for the writes of a statement to pass all checks, for the rows that it inserts,
replaces or deletes in one table.

- `Referential`: the rows that foreign keys refer to are there.
- `accepts_insertAll`, `accepts_replaceAll`, `accepts_deleteAll`: the three kinds of statements.
-/

namespace Relational

variable {T C : Type} [DecidableEq T] [DecidableEq C] {schema : Schema T C} {db : Db T C}

/-- The rows that foreign keys refer to are there. -/
def Referential (schema : Schema T C) (db : Db T C) : Prop :=
  ∀ table, ∀ row ∈ db table, schema.parentsExist db table row = true

omit [DecidableEq C] in
/-- The row that a foreign key refers to. -/
theorem Referential.exists_parent (h : Referential schema db) {table : T} {row : Row C}
    (hrow : row ∈ db table) {column parentColumn : C} {parent : T}
    (hreference : (column, parent, parentColumn) ∈ (schema.table table).references)
    {value : Value} (hvalue : row column = some value) :
    ∃ parentRow ∈ db parent, parentRow parentColumn = some value := by
  have hparent := List.all_eq_true.mp (h table row hrow) _ hreference
  dsimp only at hparent
  rw [hvalue] at hparent
  obtain ⟨parentRow, hparentRow, hequal⟩ := List.any_eq_true.mp hparent
  exact ⟨parentRow, hparentRow, of_decide_eq_true hequal⟩

/-- The checks of some writes, and of those that follow. -/
theorem checkAll_append (writes others : List (Write T C)) :
    checkAll schema (writes ++ others) db =
      (checkAll schema writes db && checkAll schema others (applyAll schema writes db)) := by
  induction writes generalizing db with
  | nil => rw [List.nil_append, checkAll, applyAll_nil, Bool.true_and]
  | cons write writes ih => rw [List.cons_append, checkAll, checkAll, ih, applyAll_cons,
      Bool.and_assoc]

section OneTable

variable {target : T} (huniques : (schema.table target).uniques = []) {rows : List (Row C)}

include huniques

/-- Rows with new keys pass the checks of the table. -/
theorem checkAll_insertAll (hconforms : ∀ row ∈ rows, schema.conforms target row = true)
    (hkeys : ((db target ++ rows).map (schema.keyOf target)).Nodup) :
    checkAll schema (rows.map (Write.insert target)) db = true := by
  induction rows generalizing db with
  | nil => rfl
  | cons row rows ih =>
    rw [List.map_cons, checkAll, Bool.and_eq_true]
    constructor
    · have hfresh : (db target).all (fun old => schema.keyOf target old ≠
          schema.keyOf target row) = true := by
        rw [List.all_eq_true]
        intro old hold
        rw [List.map_append, List.nodup_append] at hkeys
        exact decide_eq_true (hkeys.2.2 _ (List.mem_map_of_mem hold) _ List.mem_cons_self)
      rw [Write.check, hconforms row List.mem_cons_self, hfresh, huniques]
      rfl
    · refine ih (fun other hother => hconforms other (List.mem_cons_of_mem _ hother)) ?_
      rw [Write.apply_insert, if_pos rfl, List.append_assoc, List.singleton_append]
      exact hkeys

/-- Rows with new keys are accepted when the rows that they refer to are there. -/
theorem accepts_insertAll (hconforms : ∀ row ∈ rows, schema.conforms target row = true)
    (hkeys : ((db target ++ rows).map (schema.keyOf target)).Nodup)
    (hparents : ∀ row ∈ rows,
      schema.parentsExist (applyAll schema (rows.map (Write.insert target)) db) target row =
        true) :
    accepts schema (rows.map (Write.insert target)) db = true := by
  rw [accepts, checkAll_insertAll huniques hconforms hkeys, Bool.true_and, List.all_map,
    List.all_eq_true]
  exact hparents

/-- Rows that nothing refers to are accepted in place of those with the same keys. -/
theorem accepts_replaceAll (hchildren : schema.childrenOf target = []) {update : Row C → Row C}
    (hconforms : ∀ row ∈ rows, schema.conforms target (update row) = true)
    (hkey : ∀ row ∈ rows, schema.keyOf target (update row) = schema.keyOf target row)
    (hparents : ∀ row ∈ rows, schema.parentsExist (applyAll schema (rows.map fun row =>
      Write.replace (schema.keyOf target row) (update row)) db) target (update row) = true) :
    accepts schema (rows.map fun row => Write.replace (schema.keyOf target row) (update row)) db =
      true := by
  have hcheck : ∀ (rows : List (Row C)) (db : Db T C),
      (∀ row ∈ rows, schema.conforms target (update row) = true) →
      (∀ row ∈ rows, schema.keyOf target (update row) = schema.keyOf target row) →
      checkAll schema (rows.map fun row => Write.replace (schema.keyOf target row) (update row))
        db = true := by
    intro rows
    induction rows with
    | nil => exact fun _ _ _ => rfl
    | cons row rows ih =>
      intro db hconforms hkey
      rw [List.map_cons, checkAll, ih _
        (fun other hother => hconforms other (List.mem_cons_of_mem _ hother))
        (fun other hother => hkey other (List.mem_cons_of_mem _ hother)), Bool.and_true,
        Write.check, Schema.keyOf_table, hconforms row List.mem_cons_self,
        hkey row List.mem_cons_self, huniques]
      simp
  rw [accepts, hcheck rows db hconforms hkey, Bool.true_and, List.all_map, List.all_eq_true]
  intro row hrow
  show (schema.parentsExist _ target (update row) && List.all _ _) = true
  rw [hparents row hrow, Bool.true_and, List.all_eq_true]
  intro old _
  rw [Schema.childrenAbsent, Schema.keyOf_table, hchildren]
  rfl

omit huniques in
/-- Rows that nothing refers to may go. -/
theorem accepts_deleteAll (hchildren : schema.childrenOf target = []) :
    accepts schema (rows.map fun row => Write.delete (schema.keyOf target row)) db = true := by
  have hcheck : ∀ (rows : List (Row C)) (db : Db T C), checkAll schema (rows.map fun row =>
      Write.delete (schema.keyOf target row)) db = true := by
    intro rows
    induction rows with
    | nil => exact fun _ => rfl
    | cons row rows ih =>
      intro db
      rw [List.map_cons, checkAll, ih, Bool.and_true]
      rfl
  rw [accepts, hcheck, Bool.true_and, List.all_map, List.all_eq_true]
  intro row _
  show List.all _ (schema.childrenAbsent _ target) = true
  rw [List.all_eq_true]
  intro old _
  rw [Schema.childrenAbsent, hchildren]
  rfl

end OneTable

end Relational

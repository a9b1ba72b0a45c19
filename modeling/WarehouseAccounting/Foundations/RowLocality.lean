import WarehouseAccounting.Foundations.Relational
import Mathlib

/-!
# Writes on parts of a database

A write changes the rows of its key and no others. So writes can be followed on a part of the
rows: what they leave of this part is decided by the part alone, and writes with other keys
leave it as it is. This holds of plain writes, which keep the keys of the rows they replace, and
take no row away that others refer to.

- `restrict_applyAll`: writes on a part of the rows.
- `Grown`: databases with the same rows under some keys, and more rows that can be referred to.
- `accepts_of_grown`: plain writes under these keys that the one accepts are accepted by the
  other.
- `rows_of_inserted`: a key that is only inserted was not there.
-/

namespace Relational

variable {T C : Type} {schema : Schema T C}

/-! ## Plain writes -/

namespace Write

/-- The write needs a row that is there. -/
def Changes : Write T C → Prop
  | .insert _ _ => False
  | .replace _ _ | .delete _ => True

variable [DecidableEq T]

/-- The table has no unique constraint beside the primary key; a row keeps its key; and only rows
are changed that nothing refers to. -/
def Plain (schema : Schema T C) : Write T C → Prop
  | .insert table _ => table ∈ schema.tables ∧ (schema.table table).uniques = []
  | .replace key row => key.table ∈ schema.tables ∧ (schema.table key.table).uniques = [] ∧
      schema.keyOf key.table row = key ∧ schema.childrenOf key.table = []
  | .delete key => schema.childrenOf key.table = []

end Write

/-- The table that a foreign key refers to has children. -/
theorem childrenOf_ne_nil [DecidableEq T] {table parent : T} {column parentColumn : C}
    (htable : table ∈ schema.tables)
    (hreference : (column, parent, parentColumn) ∈ (schema.table table).references) :
    schema.childrenOf parent ≠ [] := by
  refine List.ne_nil_of_mem (a := (table, column, parentColumn)) ?_
  rw [Schema.childrenOf, List.mem_flatMap]
  exact ⟨table, htable, List.mem_filterMap.mpr ⟨_, hreference, if_pos rfl⟩⟩

/-! ## Parts of a database -/

variable [DecidableEq T]

/-- The rows whose keys are selected. -/
def restrict (schema : Schema T C) (keys : Key T → Bool) (db : Db T C) : Db T C := fun table =>
  (db table).filter fun row => keys (schema.keyOf table row)

/-- A write with a selected key, on the selected rows. -/
theorem restrict_apply_of_mem {keys : Key T → Bool} {write : Write T C}
    (hplain : write.Plain schema) (hkey : keys (write.key schema) = true) (db : Db T C) :
    restrict schema keys (write.apply schema db) =
      write.apply schema (restrict schema keys db) := by
  ext1 table
  match write with
  | .insert target row =>
    rw [Write.key] at hkey
    rw [Write.apply_insert]
    unfold restrict
    rw [Write.apply_insert]
    split
    · rename_i htable
      subst htable
      rw [List.filter_append, List.filter_singleton, hkey]
      rfl
    · rfl
  | .replace key row =>
    obtain ⟨-, -, hrow, -⟩ := hplain
    unfold restrict
    rw [Write.apply_replace, Write.apply_replace]
    split
    · rename_i htable
      subst htable
      rw [List.filter_map]
      congr 1
      refine List.filter_congr fun old _ => ?_
      -- The new row has the key of the old one.
      by_cases hold : schema.keyOf key.table old = key
      · show keys (schema.keyOf key.table
          (if schema.keyOf key.table old = key then row else old)) = _
        rw [if_pos hold, hrow, hold]
      · show keys (schema.keyOf key.table
          (if schema.keyOf key.table old = key then row else old)) = _
        rw [if_neg hold]
    · rfl
  | .delete key =>
    unfold restrict
    rw [Write.apply_delete, Write.apply_delete]
    split
    · rw [List.filter_filter, List.filter_filter]
      refine List.filter_congr fun old _ => ?_
      rw [Bool.and_comm]
    · rfl

/-- A write with another key leaves the selected rows. -/
theorem restrict_apply_of_notMem {keys : Key T → Bool} {write : Write T C}
    (hplain : write.Plain schema) (hkey : keys (write.key schema) = false) (db : Db T C) :
    restrict schema keys (write.apply schema db) = restrict schema keys db := by
  ext1 table
  match write with
  | .insert target row =>
    rw [Write.key] at hkey
    unfold restrict
    rw [Write.apply_insert]
    split
    · rename_i htable
      subst htable
      rw [List.filter_append, List.filter_singleton, hkey]
      simp
    · rfl
  | .replace key row =>
    obtain ⟨-, -, hrow, -⟩ := hplain
    rw [Write.key] at hkey
    unfold restrict
    rw [Write.apply_replace]
    split
    · rename_i htable
      subst htable
      -- Neither the old row nor the new one is selected.
      induction db key.table with
      | nil => rfl
      | cons old rows ih =>
        rw [List.map_cons]
        by_cases hold : schema.keyOf key.table old = key
        · rw [if_pos hold, List.filter_cons_of_neg (by simp [hrow, hkey]),
            List.filter_cons_of_neg (by simp [hold, hkey]), ih]
        · rw [if_neg hold, List.filter_cons, List.filter_cons, ih]
    · rfl
  | .delete key =>
    rw [Write.key] at hkey
    unfold restrict
    rw [Write.apply_delete]
    split
    · rw [List.filter_filter]
      refine List.filter_congr fun old _ => ?_
      by_cases hold : schema.keyOf table old = key
      · simp [hold, hkey]
      · simp [hold]
    · rfl

/-- What plain writes leave of a part is decided by that part. -/
theorem restrict_applyAll {keys : Key T → Bool} {db other : Db T C}
    (h : restrict schema keys db = restrict schema keys other) {writes : List (Write T C)}
    (hplain : ∀ write ∈ writes, write.Plain schema) :
    restrict schema keys (applyAll schema writes db) =
      restrict schema keys (applyAll schema writes other) := by
  induction writes generalizing db other with
  | nil => exact h
  | cons write writes ih =>
    have hwrite := hplain write List.mem_cons_self
    refine ih ?_ fun later hlater => hplain later (List.mem_cons_of_mem _ hlater)
    cases hkey : keys (write.key schema)
    · rw [restrict_apply_of_notMem hwrite hkey, restrict_apply_of_notMem hwrite hkey, h]
    · rw [restrict_apply_of_mem hwrite hkey, restrict_apply_of_mem hwrite hkey, h]

/-- Plain writes with other keys leave a part as it is. -/
theorem restrict_applyAll_of_notMem {keys : Key T → Bool} {writes : List (Write T C)}
    (hplain : ∀ write ∈ writes, write.Plain schema)
    (hkeys : ∀ write ∈ writes, keys (write.key schema) = false) (db : Db T C) :
    restrict schema keys (applyAll schema writes db) = restrict schema keys db := by
  induction writes generalizing db with
  | nil => rfl
  | cons write writes ih =>
    rw [applyAll_cons, ih (fun later hlater => hplain later (List.mem_cons_of_mem _ hlater))
      fun later hlater => hkeys later (List.mem_cons_of_mem _ hlater)]
    exact restrict_apply_of_notMem (hplain write List.mem_cons_self)
      (hkeys write List.mem_cons_self) db

/-- No row has this key. -/
def Absent (schema : Schema T C) (db : Db T C) (key : Key T) : Prop :=
  ∀ row ∈ db key.table, schema.keyOf key.table row ≠ key

omit [DecidableEq T] in
/-- A key that is not absent has a row. -/
theorem exists_row_of_not_absent {db : Db T C} {key : Key T} (h : ¬ Absent schema db key) :
    ∃ row ∈ db key.table, schema.keyOf key.table row = key := by
  by_contra hnone
  exact h fun row hrow hkey => hnone ⟨row, hrow, hkey⟩

omit [DecidableEq T] in
/-- Selected rows are the same when the rows of another selection are, and all other keys that are
selected are absent. -/
theorem restrict_congr_of_absent {keys others : Key T → Bool} {db other : Db T C}
    (h : restrict schema others db = restrict schema others other)
    (habsent : ∀ key, keys key = true →
      others key = true ∨ Absent schema db key ∧ Absent schema other key) :
    restrict schema keys db = restrict schema keys other := by
  have htwice : ∀ rows : List (Row C), ∀ table : T,
      (∀ row ∈ rows, keys (schema.keyOf table row) = true →
        others (schema.keyOf table row) = true) →
      (rows.filter fun row => keys (schema.keyOf table row)) =
        (rows.filter fun row => others (schema.keyOf table row)).filter
          fun row => keys (schema.keyOf table row) := by
    intro rows table himp
    rw [List.filter_filter]
    refine List.filter_congr fun row hrow => ?_
    cases hkey : keys (schema.keyOf table row)
    · rfl
    · rw [himp row hrow hkey]
      rfl
  ext1 table
  have htable := congrFun h table
  unfold restrict at htable ⊢
  rw [htwice (db table) table, htwice (other table) table, htable]
  · intro row hrow hkey
    exact (habsent _ hkey).resolve_right fun hnone => hnone.2 row hrow rfl
  · intro row hrow hkey
    exact (habsent _ hkey).resolve_right fun hnone => hnone.1 row hrow rfl

omit [DecidableEq T] in
/-- A condition that looks at selected rows only finds the same. -/
theorem filter_congr_of_restrict {keys : Key T → Bool} {db other : Db T C}
    (h : restrict schema keys db = restrict schema keys other) {table : T} {found : Row C → Bool}
    (hfound : ∀ row, found row = true → keys (schema.keyOf table row) = true) :
    (db table).filter found = (other table).filter found := by
  have htwice : ∀ rows : List (Row C), rows.filter found =
      (rows.filter fun row => keys (schema.keyOf table row)).filter found := by
    intro rows
    rw [List.filter_filter]
    refine List.filter_congr fun row _ => ?_
    cases hrow : found row
    · rfl
    · rw [hfound row hrow]
      rfl
  have htable := congrFun h table
  unfold restrict at htable
  rw [htwice, htable, ← htwice]

omit [DecidableEq T] in
/-- Fewer selected rows are the same, too. -/
theorem restrict_congr_of_imp {keys others : Key T → Bool} {db other : Db T C}
    (h : restrict schema others db = restrict schema others other)
    (himp : ∀ key, keys key = true → others key = true) :
    restrict schema keys db = restrict schema keys other :=
  restrict_congr_of_absent h fun key hkey => .inl (himp key hkey)

/-! ## Databases that have grown -/

/-- The other database has the same rows under the selected keys, and all rows that can be
referred to. -/
structure Grown (schema : Schema T C) (keys : Key T → Bool) (db other : Db T C) : Prop where
  rows : restrict schema keys db = restrict schema keys other
  parents : ∀ table, schema.childrenOf table ≠ [] → ∀ row ∈ db table, row ∈ other table

/-- Plain writes take no row away that can be referred to. -/
theorem mem_apply_of_childrenOf {write : Write T C} (hplain : write.Plain schema) {table : T}
    (htable : schema.childrenOf table ≠ []) {db : Db T C} {row : Row C} :
    row ∈ write.apply schema db table ↔
      row ∈ db table ∨ write = .insert table row := by
  match write with
  | .insert target inserted =>
    rw [Write.apply_insert]
    by_cases heq : table = target
    · subst heq
      rw [if_pos rfl, List.mem_append, List.mem_singleton]
      constructor
      · rintro (hold | rfl)
        · exact .inl hold
        · exact .inr rfl
      · rintro (hold | heq)
        · exact .inl hold
        · cases heq
          exact .inr rfl
    · rw [if_neg heq]
      refine ⟨.inl, ?_⟩
      rintro (hold | hinsert)
      · exact hold
      · cases hinsert
        exact absurd rfl heq
  | .replace key replacement =>
    have hother : table ≠ key.table := fun heq => htable (heq ▸ hplain.2.2.2)
    rw [Write.apply_replace, if_neg hother]
    simp
  | .delete key =>
    have hother : table ≠ key.table := fun heq => htable (heq ▸ hplain)
    rw [Write.apply_delete, if_neg hother]
    simp

/-- The same plain writes on both keep this. -/
theorem Grown.applyAll {keys : Key T → Bool} {db other : Db T C} (h : Grown schema keys db other)
    {writes : List (Write T C)} (hplain : ∀ write ∈ writes, write.Plain schema) :
    Grown schema keys (applyAll schema writes db) (applyAll schema writes other) := by
  refine ⟨restrict_applyAll h.rows hplain, fun table htable => ?_⟩
  have hparents := h.parents table htable
  clear h
  induction writes generalizing db other with
  | nil => exact hparents
  | cons write writes ih =>
    have hwrite := hplain write List.mem_cons_self
    refine ih (fun later hlater => hplain later (List.mem_cons_of_mem _ hlater)) ?_
    intro row hrow
    rw [mem_apply_of_childrenOf hwrite htable] at hrow ⊢
    exact hrow.imp_left (hparents row)

/-- Plain writes with other keys only let a database grow. -/
theorem Grown.of_notMem {keys : Key T → Bool} {writes : List (Write T C)}
    (hplain : ∀ write ∈ writes, write.Plain schema)
    (hkeys : ∀ write ∈ writes, keys (write.key schema) = false) (db : Db T C) :
    Grown schema keys db (Relational.applyAll schema writes db) := by
  refine ⟨(restrict_applyAll_of_notMem hplain hkeys db).symm, fun table htable => ?_⟩
  clear hkeys
  induction writes generalizing db with
  | nil => exact fun row hrow => hrow
  | cons write writes ih =>
    intro row hrow
    refine ih (fun later hlater => hplain later (List.mem_cons_of_mem _ hlater)) _ row ?_
    rw [mem_apply_of_childrenOf (hplain write List.mem_cons_self) htable]
    exact .inl hrow

/-- A key that is selected is there in both or in none. -/
theorem Grown.any_keyOf {keys : Key T → Bool} {db other : Db T C} (h : Grown schema keys db other)
    {key : Key T} (hkey : keys key = true) :
    ((db key.table).any fun row => schema.keyOf key.table row = key) =
      (other key.table).any fun row => schema.keyOf key.table row = key := by
  have hany : ∀ rows : List (Row C), (rows.any fun row => schema.keyOf key.table row = key) =
      (rows.filter fun row => keys (schema.keyOf key.table row)).any
        fun row => schema.keyOf key.table row = key := by
    intro rows
    rw [List.any_filter]
    congr 1
    funext row
    by_cases hrow : schema.keyOf key.table row = key
    · simp [hrow, hkey]
    · simp [hrow]
  have htable := congrFun h.rows key.table
  unfold restrict at htable
  rw [hany, htable, ← hany]

section Accepted

variable [DecidableEq C]

/-- A plain write under a selected key passes its check in the other database, too. -/
theorem Write.check_of_grown {keys : Key T → Bool} {db other : Db T C}
    (h : Grown schema keys db other) {write : Write T C} (hplain : write.Plain schema)
    (hkey : keys (write.key schema) = true) (hcheck : write.check schema db = true) :
    write.check schema other = true := by
  match write with
  | .insert table row =>
    simp only [Write.check, Bool.and_eq_true] at hcheck ⊢
    refine ⟨⟨hcheck.1.1, ?_⟩, by rw [hplain.2]; rfl⟩
    have hany := h.any_keyOf hkey
    rw [Write.key, Schema.keyOf_table] at hany
    have hfresh := hcheck.1.2
    rw [List.all_eq_not_any_not] at hfresh ⊢
    simp only [ne_eq, decide_not, Bool.not_not] at hfresh ⊢
    rwa [← hany]
  | .replace key row =>
    simp only [Write.check, Bool.and_eq_true] at hcheck ⊢
    exact ⟨hcheck.1, by rw [hplain.2.1]; rfl⟩
  | .delete key => rfl

omit [DecidableEq C] in
/-- So are its references there. -/
theorem Write.checkReferences_of_grown {db other after otherAfter : Db T C}
    (hparents : ∀ table, schema.childrenOf table ≠ [] →
      ∀ row ∈ after table, row ∈ otherAfter table)
    {write : Write T C} (hplain : write.Plain schema)
    (hcheck : write.checkReferences schema db after = true) :
    write.checkReferences schema other otherAfter = true := by
  have hexist : ∀ (table : T) (row : Row C), table ∈ schema.tables →
      schema.parentsExist after table row = true →
        schema.parentsExist otherAfter table row = true := by
    intro table row htable hrow
    rw [Schema.parentsExist, List.all_eq_true] at hrow ⊢
    rintro ⟨column, parent, parentColumn⟩ hreference
    have hfound := hrow _ hreference
    dsimp only at hfound ⊢
    split
    · rfl
    · rename_i value hvalue
      rw [hvalue] at hfound
      obtain ⟨parentRow, hmem, heq⟩ := List.any_eq_true.mp hfound
      exact List.any_eq_true.mpr ⟨parentRow,
        hparents parent (childrenOf_ne_nil htable hreference) parentRow hmem, heq⟩
  have hchildren : ∀ (rows : List (Row C)) (table : T), schema.childrenOf table = [] →
      rows.all (schema.childrenAbsent otherAfter table) = true := by
    intro rows table htable
    rw [List.all_eq_true]
    intro row _
    rw [Schema.childrenAbsent, htable]
    rfl
  match write with
  | .insert table row => exact hexist table row hplain.1 hcheck
  | .replace key row =>
    simp only [Write.checkReferences, Bool.and_eq_true] at hcheck ⊢
    exact ⟨hexist key.table row hplain.1 hcheck.1, hchildren _ _ hplain.2.2.2⟩
  | .delete key => exact hchildren _ _ hplain

/-- Plain writes under selected keys that a database accepts are accepted by one that has grown
from it. -/
theorem accepts_of_grown {keys : Key T → Bool} {db other : Db T C} (h : Grown schema keys db other)
    {writes : List (Write T C)} (hplain : ∀ write ∈ writes, write.Plain schema)
    (hkeys : ∀ write ∈ writes, keys (write.key schema) = true)
    (haccepts : accepts schema writes db = true) : accepts schema writes other = true := by
  rw [accepts, Bool.and_eq_true, List.all_eq_true] at haccepts ⊢
  refine ⟨?_, fun write hwrite => ?_⟩
  · replace haccepts := haccepts.1
    induction writes generalizing db other with
    | nil => rfl
    | cons write writes ih =>
      rw [checkAll, Bool.and_eq_true] at haccepts ⊢
      have hone : ∀ later ∈ [write], later.Plain schema := fun later hlater =>
        hplain later (List.mem_cons.mpr (.inl (List.mem_singleton.mp hlater)))
      refine ⟨Write.check_of_grown h (hplain write List.mem_cons_self)
        (hkeys write List.mem_cons_self) haccepts.1, ?_⟩
      exact ih (h.applyAll hone) (fun later hlater => hplain later (List.mem_cons_of_mem _ hlater))
        (fun later hlater => hkeys later (List.mem_cons_of_mem _ hlater)) haccepts.2
  · exact Write.checkReferences_of_grown (h.applyAll hplain).parents (hplain write hwrite)
      (haccepts.2 write hwrite)

/-- The writes of some statements, each accepted where the ones before it have left off. -/
def AllAccepted (schema : Schema T C) : List (List (Write T C)) → Db T C → Prop
  | [], _ => True
  | writes :: later, db =>
    accepts schema writes db = true ∧ AllAccepted schema later (applyAll schema writes db)

/-- The statements before and after a point. -/
theorem allAccepted_append {blocks later : List (List (Write T C))} {db : Db T C} :
    AllAccepted schema (blocks ++ later) db ↔
      AllAccepted schema blocks db ∧
        AllAccepted schema later (applyAll schema blocks.flatten db) := by
  induction blocks generalizing db with
  | nil => simp [AllAccepted]
  | cons writes blocks ih =>
    rw [List.cons_append, AllAccepted, AllAccepted, ih, List.flatten_cons, applyAll_append,
      and_assoc]

/-- Statements stay accepted while a database grows. -/
theorem AllAccepted.of_grown {keys : Key T → Bool} {blocks : List (List (Write T C))}
    {db other : Db T C} (h : AllAccepted schema blocks db) (hgrown : Grown schema keys db other)
    (hplain : ∀ write ∈ blocks.flatten, write.Plain schema)
    (hkeys : ∀ write ∈ blocks.flatten, keys (write.key schema) = true) :
    AllAccepted schema blocks other := by
  induction blocks generalizing db other with
  | nil => trivial
  | cons writes blocks ih =>
    simp only [List.flatten_cons, List.mem_append] at hplain hkeys
    have hwrites : ∀ write ∈ writes, write.Plain schema := fun write hwrite =>
      hplain write (.inl hwrite)
    exact ⟨accepts_of_grown hgrown hwrites (fun write hwrite => hkeys write (.inl hwrite)) h.1,
      ih h.2 (hgrown.applyAll hwrites) (fun write hwrite => hplain write (.inr hwrite))
        fun write hwrite => hkeys write (.inr hwrite)⟩

/-! ## Keys that are only inserted -/

omit [DecidableEq C] in
/-- A row stays as long as no write changes it. -/
theorem exists_row_applyAll {writes : List (Write T C)} {key : Key T}
    (hchanges : ∀ write ∈ writes, write.Changes → write.key schema ≠ key) {db : Db T C}
    (h : ∃ row ∈ db key.table, schema.keyOf key.table row = key) :
    ∃ row ∈ applyAll schema writes db key.table, schema.keyOf key.table row = key := by
  induction writes generalizing db with
  | nil => exact h
  | cons write writes ih =>
    obtain ⟨row, hrow, hkey⟩ := h
    refine ih (fun later hlater => hchanges later (List.mem_cons_of_mem _ hlater)) ⟨row, ?_, hkey⟩
    have hwrite := hchanges write List.mem_cons_self
    show row ∈ write.apply schema db key.table
    match write with
    | .insert target inserted =>
      rw [Write.apply_insert]
      split
      · exact List.mem_append_left _ hrow
      · exact hrow
    | .replace key' replacement =>
      have hne : key' ≠ key := hwrite trivial
      rw [Write.apply_replace]
      split
      · refine List.mem_map.mpr ⟨row, hrow, if_neg ?_⟩
        rw [hkey]
        exact hne.symm
      · exact hrow
    | .delete key' =>
      have hne : key' ≠ key := hwrite trivial
      rw [Write.apply_delete]
      split
      · refine List.mem_filter.mpr ⟨hrow, ?_⟩
        rw [hkey]
        simpa using hne.symm
      · exact hrow

omit [DecidableEq C] in
/-- So a key that is absent after writes that change no row of it was absent before. -/
theorem Absent.of_applyAll {writes : List (Write T C)} {key : Key T} {db : Db T C}
    (h : Absent schema (applyAll schema writes db) key)
    (hchanges : ∀ write ∈ writes, write.Changes → write.key schema ≠ key) :
    Absent schema db key := by
  intro row hrow hkey
  obtain ⟨later, hlater, hkey'⟩ := exists_row_applyAll hchanges ⟨row, hrow, hkey⟩
  exact h later hlater hkey'

/-- The checks of all statements, one after the other. -/
theorem AllAccepted.checkAll {blocks : List (List (Write T C))} {db : Db T C}
    (h : AllAccepted schema blocks db) : checkAll schema blocks.flatten db = true := by
  have happend : ∀ (writes later : List (Write T C)) (db : Db T C),
      Relational.checkAll schema writes db = true →
        Relational.checkAll schema later (applyAll schema writes db) = true →
          Relational.checkAll schema (writes ++ later) db = true := by
    intro writes later db hwrites hlater
    induction writes generalizing db with
    | nil => exact hlater
    | cons write writes ih =>
      rw [Relational.checkAll, Bool.and_eq_true] at hwrites
      rw [List.cons_append, Relational.checkAll, Bool.and_eq_true]
      exact ⟨hwrites.1, ih _ hwrites.2 hlater⟩
  induction blocks generalizing db with
  | nil => rfl
  | cons writes blocks ih =>
    have haccepts := h.1
    rw [accepts, Bool.and_eq_true] at haccepts
    exact happend _ _ _ haccepts.1 (ih h.2)

/-- A key that is written, but only inserted, was not there before. -/
theorem rows_of_inserted {writes : List (Write T C)} {db : Db T C}
    (hcheck : checkAll schema writes db = true) {key : Key T}
    (hwritten : ∃ write ∈ writes, write.key schema = key)
    (hchanges : ∀ write ∈ writes, write.Changes → write.key schema ≠ key) :
    Absent schema db key := by
  induction writes generalizing db with
  | nil =>
    obtain ⟨write, hwrite, -⟩ := hwritten
    cases hwrite
  | cons write writes ih =>
    rw [checkAll, Bool.and_eq_true] at hcheck
    intro row hrow hkey
    -- The row stays until the key is inserted, where the check fails.
    by_cases hfirst : write.key schema = key
    · have hchange := hchanges write List.mem_cons_self
      cases write with
      | insert table inserted =>
        rw [Write.key] at hfirst
        subst hfirst
        simp only [Write.check, Bool.and_eq_true, List.all_eq_true, decide_eq_true_eq] at hcheck
        exact hcheck.1.1.2 row hrow hkey
      | replace key' replacement => exact hchange trivial hfirst
      | delete key' => exact hchange trivial hfirst
    · have hone : ∀ later ∈ [write], later.Changes → later.key schema ≠ key := fun later hlater =>
        hchanges later (List.mem_cons.mpr (.inl (List.mem_singleton.mp hlater)))
      obtain ⟨stays, hstays, hkey'⟩ := exists_row_applyAll hone ⟨row, hrow, hkey⟩
      refine ih hcheck.2 ?_ (fun later hlater => hchanges later (List.mem_cons_of_mem _ hlater))
        stays hstays hkey'
      obtain ⟨later, hlater, heq⟩ := hwritten
      rcases List.mem_cons.mp hlater with rfl | hlater
      · exact absurd heq hfirst
      · exact ⟨later, hlater, heq⟩

end Accepted

end Relational

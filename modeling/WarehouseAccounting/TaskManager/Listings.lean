import WarehouseAccounting.TaskManager.StockStatements
import WarehouseAccounting.TaskManager.Views

/-!
# The responses of lists

The responses of the list tasks on the tables as they are: the objects of the rows that their
statements select.

- `respond_rowList`: a list of one statement succeeds when it has found rows and can show them all,
  and then it answers their objects.
- `ItemListing.respond_task`: so does a list with items, whose objects contain those of the items.
- `ListsRows`: what this says of a list, with `GetProductList.listsRows` and its kind for the six
  lists.
-/

namespace TaskMgr.Tasks

open Ufa Srv.Db Srv.Db.Trsct Srv.Db.Sql Srv.Db.DbMgr.Scpts Relational

/-! ## Selected rows -/

/-- The parameters of a `SELECT`. -/
def selectParams (options : SelectOptions) : List (Option String) :=
  (QueryFactory.conditionParams options.condition).toPqxx

/-- The statement of a `SELECT` of named columns is answered with the rows that it selects. -/
theorem answers_selectStatement (choices : Nat → Choices) (clock : Nat) {options : SelectOptions}
    (h : options.columns ≠ []) (tables : Tables) :
    (quietDatabase choices).answers clock (selectStatement options) tables =
      (selected (choices clock) options (selectParams options) tables).map fun rows =>
        (rows.map (project options.columns), tables) := by
  show answer (choices clock) (selectStatement options) tables = _
  rw [selectStatement, answer_select (choices clock) h, Sql.read, selectParams]
  cases selected (choices clock) options (QueryFactory.conditionParams options.condition).toPqxx
    tables <;> rfl

/-- What is selected has been found. -/
theorem mem_found_of_selected {choices : Choices} {options : SelectOptions}
    {params : List (Option String)} {tables : Tables} {rows all : List TableRow}
    (h : selected choices options params tables = .ok rows)
    (hall : found options params tables = .ok all) {row : TableRow} (hrow : row ∈ rows) :
    row ∈ all := by
  obtain ⟨-, -, all', hall', rfl⟩ := selected_eq_ok.mp h
  cases hall.symm.trans hall'
  exact (ordered_perm choices options all).mem_iff.mp (mem_of_mem_page hrow)

/-- What is found in one table is in it. -/
theorem mem_of_found {options : SelectOptions} (hjoins : options.joins = [])
    {params : List (Option String)} {tables : Tables} {rows : List TableRow}
    (h : found options params tables = .ok rows) {row : TableRow} (hrow : row ∈ rows) :
    row ∈ tables options.table := by
  obtain ⟨-, predicate, -, rfl⟩ := found_eq_ok.mp h
  rw [fromRows_of_joins_nil hjoins] at hrow
  exact List.mem_of_mem_filter hrow

/-- Rows that are selected from one table have values of its columns. -/
theorem typedOn_of_selected {tables : Tables} (hintegral : Integral schema tables)
    {options : SelectOptions} (hjoins : options.joins = []) {choices : Choices}
    {params : List (Option String)} {rows : List TableRow}
    (h : selected choices options params tables = .ok rows) :
    ∀ row ∈ rows, TypedOn options.columns row := by
  intro row hrow
  obtain ⟨hexist, -, all, hall, -⟩ := selected_eq_ok.mp h
  rw [outputsExist_of_joins_nil hjoins, areColumns, List.all_append, Bool.and_eq_true] at hexist
  have hmem := mem_of_found hjoins hall (mem_found_of_selected h hall hrow)
  exact typedOn_of_conforms (hintegral.conforms _ row hmem) hexist.1

/-- The row has this id. -/
def hasId (column : Column) (id : Int64) (row : TableRow) : Bool :=
  row column = some (.integer id.toInt)

/-- The rows with one id. -/
theorem found_equal {options : SelectOptions} (hjoins : options.joins = []) {column : Column}
    (hcolumn : columnType options.table column = .ok .int8) {id : Int64}
    (hcondition : options.condition = some (.real column (integer id) .equal))
    (tables : Tables) :
    found options (selectParams options) tables =
      .ok ((tables options.table).filter (hasId column id)) := by
  have hscope : scopeOf options = [options.table] := by rw [scopeOf, hjoins, List.map_nil]
  have hparams : selectParams options = [bound id] := by
    rw [selectParams, hcondition]
    exact toPqxx_integer_cons id []
  have hbind : bindWhere options.table (some (.real column (integer id) .equal)) [bound id] =
      .ok (.compare column .equal (some (.integer id.toInt))) := by
    simp [bindWhere, bindCondition, bindParams, hcolumn, comparisonOf, pure, Except.pure]
  refine found_eq_ok.mpr ⟨by rw [hjoins, List.all_nil], .compare column .equal
    (some (.integer id.toInt)), ?_, ?_⟩
  · rw [hscope, typeIn_singleton, bindWhereBy_columnType, hcondition, hparams, hbind]
  · rw [fromRows_of_joins_nil hjoins]
    refine List.filter_congr fun row _ => ?_
    rw [hasId, Predicate.selects, Predicate.eval, Bool.eq_iff_iff, decide_eq_true_eq,
      decide_eq_true_eq, Predicate.compareNullable_equal]

/-- The rows with one of some ids. -/
theorem found_inList {options : SelectOptions} (hjoins : options.joins = []) {column : Column}
    (hcolumn : columnType options.table column = .ok .int8) {ids : List Int64} (hids : ids ≠ [])
    (hcondition : options.condition = some (.inList column (ids.map integer)))
    (tables : Tables) :
    found options (selectParams options) tables =
      .ok ((tables options.table).filter fun row => ids.any fun id => hasId column id row) := by
  have hscope : scopeOf options = [options.table] := by rw [scopeOf, hjoins, List.map_nil]
  have hparams : selectParams options = ids.map bound := by
    rw [selectParams, hcondition]
    exact toPqxx_integers ids
  have hbind := bindCondition_inList hcolumn hids []
  rw [List.append_nil] at hbind
  refine found_eq_ok.mpr ⟨by rw [hjoins, List.all_nil], .among column (ids.map fun value =>
    some (.integer value.toInt)), ?_, ?_⟩
  · rw [hscope, typeIn_singleton, bindWhereBy_columnType, hcondition, hparams, bindWhere, hbind]
    rfl
  · rw [fromRows_of_joins_nil hjoins]
    refine List.filter_congr fun row _ => ?_
    have hvalues : (ids.map fun id => some (Value.integer id.toInt)) =
        (ids.map fun id => Value.integer id.toInt).map some := by
      rw [List.map_map]
      rfl
    rw [Predicate.selects, Predicate.eval, Bool.eq_iff_iff, decide_eq_true_eq, hvalues,
      Predicate.foldr_disjunction_eq_true, List.any_eq_true]
    constructor
    · rintro ⟨id, hid, hrow⟩
      exact ⟨.integer id.toInt, List.mem_map_of_mem hid, of_decide_eq_true hrow⟩
    · rintro ⟨value, hvalue, hrow⟩
      obtain ⟨id, hid, rfl⟩ := List.mem_map.mp hvalue
      exact ⟨id, hid, decide_eq_true hrow⟩

/-! ## Lists of one statement -/

/-- The object of a row. -/
def View.object (view : View) (dateProvider : DateProvider) (row : TableRow) : Json :=
  .object (putAll (view.puts dateProvider row))

section RowList

variable {α : Type} {choices : Nat → Choices} {tables : Tables} {options : SelectOptions}
  {fromRow : List (Option String) → Except Exception α} {toJson : α → Except Exception Json}
  {view : View} {dateProvider : DateProvider}

/-- A list of one statement, from what it makes of a row and of an entity. -/
def rowList (options : SelectOptions) (fromRow : List (Option String) → Except Exception α)
    (toJson : α → Except Exception Json) : TransactionTask :=
  rowsTask options fun result results =>
    finishFound results result do
      let entities ← results.mapM fromRow
      return listJson (← entities.mapM toJson)

/-- The entities of some rows and then their objects, when it is known what becomes of a row. -/
theorem listJson_eq_ok {columns : List Column} {rows : List TableRow} {ends : TableRow → Bool}
    {object : TableRow → Json}
    (h : ∀ row ∈ rows, ∀ json, (do toJson (← fromRow (project columns row))) = .ok json ↔
      ends row = true ∧ json = object row) {response : Json} :
    (do
      let entities ← (rows.map (project columns)).mapM fromRow
      return listJson (← entities.mapM toJson)) = .ok response ↔
      (∀ row ∈ rows, ends row = true) ∧ response = listJson (rows.map object) := by
  have hassoc : (do
      let entities ← (rows.map (project columns)).mapM fromRow
      return listJson (← entities.mapM toJson)) =
        ((rows.map (project columns)).mapM fromRow >>= fun entities =>
          entities.mapM toJson).map listJson := by
    rcases (rows.map (project columns)).mapM fromRow with exception | entities
    · rfl
    · show (entities.mapM toJson >>= fun json => pure (listJson json)) =
        (entities.mapM toJson).map listJson
      cases entities.mapM toJson <;> rfl
  rw [hassoc, Exceptions.map_eq_ok_iff]
  constructor
  · rintro ⟨objects, hobjects, rfl⟩
    rw [Exceptions.mapM_bind_eq_ok_iff, List.mapM_map] at hobjects
    obtain ⟨hends, rfl⟩ := (Exceptions.mapM_eq_ok_of_forall_iff h).mp hobjects
    exact ⟨hends, rfl⟩
  · rintro ⟨hends, rfl⟩
    refine ⟨_, ?_, rfl⟩
    rw [Exceptions.mapM_bind_eq_ok_iff, List.mapM_map]
    exact (Exceptions.mapM_eq_ok_of_forall_iff h).mpr ⟨hends, rfl⟩

/-- A list of one statement answers the objects of the rows that it has selected. -/
theorem respond_rowList (hcolumns : options.columns ≠ [])
    (hview : ∀ row, TypedOn options.columns row → ∀ json,
      (do toJson (← fromRow (project options.columns row))) = .ok json ↔
        view.readable row = true ∧ json = view.object dateProvider row)
    (htyped : ∀ rows, selected (choices 0) options (selectParams options) tables = .ok rows →
      ∀ row ∈ rows, TypedOn options.columns row) {response : Json} :
    (rowList options fromRow toJson).respond (quietDatabase choices).answers tables =
        ⟨response, .success⟩ ↔
      ∃ rows, selected (choices 0) options (selectParams options) tables = .ok rows ∧
        rows ≠ [] ∧ (∀ row ∈ rows, view.readable row = true) ∧
          response = listJson (rows.map (view.object dateProvider)) := by
  rw [rowList, respond_rowsTask, answers_selectStatement choices 0 hcolumns,
    foundResponse_eq_success]
  rcases hselected : selected (choices 0) options (selectParams options) tables with
    exception | rows
  · simp [Except.map]
  have hrounds : ∀ row ∈ rows, ∀ json,
      (do toJson (← fromRow (project options.columns row))) = .ok json ↔
        view.readable row = true ∧ json = view.object dateProvider row :=
    fun row hrow => hview row (htyped rows hselected row hrow)
  have hanswer : (do
      let entities ← (rows.map (project options.columns)).mapM fromRow
      return listJson (← entities.mapM toJson)) = Except.ok response ↔
        (∀ row ∈ rows, view.readable row = true) ∧
          response = listJson (rows.map (view.object dateProvider)) :=
    listJson_eq_ok hrounds
  constructor
  · rintro ⟨results, hresults, hne, hok⟩
    cases hresults
    exact ⟨rows, rfl, by simpa using hne, hanswer.mp hok⟩
  · rintro ⟨rows', hrows, hne, hok⟩
    cases hrows
    exact ⟨_, rfl, by simpa using hne, hanswer.mpr hok⟩

/-- Without rows a list of one statement is not found. -/
theorem respond_rowList_of_nil (hcolumns : options.columns ≠ [])
    (h : ∀ rows, selected (choices 0) options (selectParams options) tables = .ok rows →
      rows = []) :
    (rowList options fromRow toJson).respond (quietDatabase choices).answers tables =
      ⟨.object [], .notFound⟩ := by
  rw [rowList, respond_rowsTask, answers_selectStatement choices 0 hcolumns]
  rcases hselected : selected (choices 0) options (selectParams options) tables with
    exception | rows
  · rfl
  · cases h rows hselected
    rfl

end RowList

/-! ## Lists with items -/

/-- The id in a row. -/
def idIn (column : Column) (row : TableRow) : Int64 :=
  Int64.ofInt ((row column).elim 0 numberOf)

/-- A number that is there is read as it is stored. -/
theorem getInt64_idIn {columns : List Column} {row : TableRow} (h : TypedOn columns row)
    (column : Column) (hcolumn : column ∈ columns) (htype : columnValues column = .int8)
    (hsome : (row column).isSome = true) :
    getInt64 ((row column).map Value.toText) = .ok (some (idIn column row)) := by
  obtain ⟨value, hvalue⟩ := Option.isSome_iff_exists.mp hsome
  rw [getInt64_field h column hcolumn htype, idIn, hvalue]
  rfl

/-- The row with an id is the one in which it is stored. -/
theorem hasId_iff {columns : List Column} {row : TableRow} (h : TypedOn columns row)
    {column : Column} (hcolumn : column ∈ columns) (htype : columnValues column = .int8)
    (hsome : (row column).isSome = true) {id : Int64} :
    hasId column id row = true ↔ idIn column row = id := by
  obtain ⟨value, hvalue⟩ := Option.isSome_iff_exists.mp hsome
  have hadmits := h column hcolumn value hvalue
  rw [htype] at hadmits
  cases value with
  | text value => cases hadmits
  | integer value =>
    simp only [ColumnType.admits, Bool.and_eq_true, decide_eq_true_eq] at hadmits
    rw [hasId, decide_eq_true_eq, idIn, hvalue, Option.some.injEq, Value.integer.injEq]
    show value = id.toInt ↔ Int64.ofInt value = id
    constructor
    · rintro rfl
      exact Int64.ofInt_toInt id
    · rintro rfl
      exact (Int64.toInt_ofInt_of_le (by omega) (by omega)).symm

/-- A column that must have a value has one. -/
theorem isSome_of_conforms {table : Table} {row : TableRow}
    (h : schema.conforms table row = true) {column : Column}
    (hcolumn : column ∈ (tableSchema table).notNull) : (row column).isSome = true := by
  rw [Schema.conforms, Bool.and_eq_true, List.all_eq_true, List.all_eq_true] at h
  exact h.2 column hcolumn

/-- The object of a stored item. -/
def itemObject (idKey : String) (idColumn : Column) (row : TableRow) : Json :=
  .object (putAll [
    (idKey, some (.integer (idIn idColumn row))),
    ("product_id", some (.integer (idIn .productId row))),
    ("count", some (.integer (idIn .count row)))])

/-- A list with items: what it makes of the rows of its two statements. -/
structure ItemListing (dateProvider : DateProvider) where
  /-- The entities. -/
  Entity : Type
  /-- The items. -/
  Item : Type
  options : SelectOptions
  fromRow : List (Option String) → Except Exception Entity
  idOf : Entity → Option Int64
  entityJson : Entity → List Json → Except Exception Json
  view : View
  itemTable : Table
  /-- The column and the key of the id that the items are filed under. -/
  idColumn : Column
  idKey : String
  itemFromRow : List (Option String) → Except Exception Item
  itemsOf : List Item → Int64 → List Item
  itemJson : Item → Except Exception Json
  /-- The item that is made of a row. -/
  itemOf : TableRow → Item
  columns_ne_nil : options.columns ≠ []
  joins_nil : options.joins = []
  entityJson_eq : ∀ row, TypedOn options.columns row → ∀ items json,
    (do entityJson (← fromRow (project options.columns row)) items) = .ok json ↔
      view.readable row = true ∧
        json = .object (putAll (view.puts dateProvider row ++ [("items", some (.array items))]))
  idOf_eq : ∀ row, TypedOn options.columns row → ∀ entity,
    fromRow (project options.columns row) = .ok entity → idOf entity = some (idIn idColumn row)
  idColumn_int8 : columnType itemTable idColumn = .ok .int8
  areColumns : areColumns itemTable [idColumn, .productId, .count] = true
  itemFromRow_eq : ∀ row, schema.conforms itemTable row = true →
    itemFromRow (project [idColumn, .productId, .count] row) = .ok (itemOf row)
  itemJson_eq : ∀ row, itemJson (itemOf row) = .ok (itemObject idKey idColumn row)
  itemsOf_eq : ∀ rows : List TableRow, (∀ row ∈ rows, schema.conforms itemTable row = true) →
    ∀ id, itemsOf (rows.map itemOf) id = (rows.filter (hasId idColumn id)).map itemOf

namespace ItemListing

variable {dateProvider : DateProvider} (listing : ItemListing dateProvider)

/-- The options of the second statement. -/
def itemsOptions (ids : List Int64) : SelectOptions where
  table := listing.itemTable
  columns := [listing.idColumn, .productId, .count]
  orderBy := some listing.idColumn
  condition := some (.inList listing.idColumn (ids.map integer))

/-- The object of an entity, from all items. -/
def toJson (items : List listing.Item) (entity : listing.Entity) : Except Exception Json := do
  let id ← required (listing.idOf entity)
  listing.entityJson entity (← (listing.itemsOf items id).mapM listing.itemJson)

/-- The task. -/
def task : TransactionTask :=
  itemsTask listing.options listing.fromRow listing.idOf listing.itemsOptions fun memory => do
    let items ← memory.itemResults.mapM listing.itemFromRow
    return listJson (← memory.entities.mapM (listing.toJson items))

/-- The items of some ids, in the order in which the second statement is answered. -/
def items (choices : Choices) (tables : Tables) (ids : List Int64) : List TableRow :=
  ordered choices (listing.itemsOptions ids)
    ((tables listing.itemTable).filter fun row => ids.any fun id => hasId listing.idColumn id row)

/-- The object of a row with those of its items. -/
def object (items : List TableRow) (row : TableRow) : Json :=
  .object (putAll (listing.view.puts dateProvider row ++ [("items", some (.array
    ((items.filter (hasId listing.idColumn (idIn listing.idColumn row))).map
      (itemObject listing.idKey listing.idColumn))))]))

variable {listing}

/-- The second statement is always answered. -/
theorem selected_itemsOptions (choices : Choices) {ids : List Int64} (hids : ids ≠ [])
    (tables : Tables) :
    selected choices (listing.itemsOptions ids) (selectParams (listing.itemsOptions ids)) tables =
      .ok (listing.items choices tables ids) := by
  have hjoins : (listing.itemsOptions ids).joins = [] := rfl
  have hfound := found_inList hjoins listing.idColumn_int8 hids rfl tables
  refine selected_eq_ok.mpr ⟨?_, rfl, _, hfound, rfl⟩
  rw [outputsExist_of_joins_nil hjoins, Sql.areColumns, List.all_append, Bool.and_eq_true]
  have hcolumns := listing.areColumns
  refine ⟨hcolumns, ?_⟩
  have hfirst := List.all_eq_true.mp hcolumns listing.idColumn List.mem_cons_self
  simpa [itemsOptions] using hfirst

/-- The items that are made of the rows of the second statement. -/
theorem mapM_itemFromRow {rows : List TableRow}
    (h : ∀ row ∈ rows, schema.conforms listing.itemTable row = true) :
    (rows.map (project [listing.idColumn, .productId, .count])).mapM listing.itemFromRow =
      .ok (rows.map listing.itemOf) := by
  rw [List.mapM_map, Exceptions.mapM_eq_ok_iff, List.forall₂_map_right_iff, List.forall₂_same]
  exact fun row hrow => listing.itemFromRow_eq row (h row hrow)

/-- The objects of some items. -/
theorem mapM_itemJson (rows : List TableRow) :
    (rows.map listing.itemOf).mapM listing.itemJson =
      .ok (rows.map (itemObject listing.idKey listing.idColumn)) := by
  rw [List.mapM_map, Exceptions.mapM_eq_ok_iff, List.forall₂_map_right_iff, List.forall₂_same]
  exact fun row _ => listing.itemJson_eq row

/-- The object that is made of a row. -/
theorem toJson_eq {items : List TableRow}
    (hitems : ∀ row ∈ items, schema.conforms listing.itemTable row = true) {row : TableRow}
    (htyped : TypedOn listing.options.columns row) (json : Json) :
    (do
      listing.toJson (items.map listing.itemOf)
        (← listing.fromRow (project listing.options.columns row))) = .ok json ↔
        listing.view.readable row = true ∧ json = listing.object items row := by
  have hentity : (do
      listing.toJson (items.map listing.itemOf)
        (← listing.fromRow (project listing.options.columns row))) = (do
      listing.entityJson (← listing.fromRow (project listing.options.columns row))
        ((items.filter (hasId listing.idColumn (idIn listing.idColumn row))).map
          (itemObject listing.idKey listing.idColumn))) := by
    rcases hrow : listing.fromRow (project listing.options.columns row) with exception | entity
    · rfl
    · rw [ok_bind, ok_bind, toJson, listing.idOf_eq row htyped entity hrow, required_some, ok_bind,
        listing.itemsOf_eq items hitems, mapM_itemJson, ok_bind]
  rw [hentity]
  exact listing.entityJson_eq row htyped _ json

/-- The ids of the entities of some rows. -/
theorem mapM_idOf {rows : List TableRow}
    (htyped : ∀ row ∈ rows, TypedOn listing.options.columns row) {entities : List listing.Entity}
    (h : (rows.map (project listing.options.columns)).mapM listing.fromRow = .ok entities) :
    entities.mapM (fun entity => required (listing.idOf entity)) =
      .ok (rows.map (idIn listing.idColumn)) := by
  rw [List.mapM_map, Exceptions.mapM_eq_ok_iff] at h
  rw [Exceptions.mapM_eq_ok_iff, List.forall₂_map_right_iff]
  induction h with
  | nil => exact .nil
  | @cons row entity rows entities hrow _ ih =>
    refine .cons ?_ (ih fun other hother => htyped other (List.mem_cons_of_mem _ hother))
    rw [listing.idOf_eq row (htyped row List.mem_cons_self) entity hrow]
    rfl

variable {choices : Nat → Choices} {tables : Tables}

/-- A list with items answers the objects of the rows and items that it has selected. -/
theorem respond_task (hintegral : Integral schema tables) {response : Json} :
    listing.task.respond (quietDatabase choices).answers tables = ⟨response, .success⟩ ↔
      ∃ rows, selected (choices 0) listing.options (selectParams listing.options) tables =
          .ok rows ∧
        rows ≠ [] ∧ (∀ row ∈ rows, listing.view.readable row = true) ∧
          response = listJson (rows.map (listing.object
            (listing.items (choices 1) tables (rows.map (idIn listing.idColumn))))) := by
  rw [task, respond_itemsTask_eq_success]
  rcases hselected : selected (choices 0) listing.options (selectParams listing.options) tables
    with exception | rows
  · simp [answers_selectStatement choices 0 listing.columns_ne_nil, hselected, Except.map]
  have hanswer : (quietDatabase choices).answers 0 (selectStatement listing.options) tables =
      .ok (rows.map (project listing.options.columns), tables) := by
    rw [answers_selectStatement choices 0 listing.columns_ne_nil, hselected]
    rfl
  have htyped := typedOn_of_selected hintegral listing.joins_nil hselected
  let items := listing.items (choices 1) tables (rows.map (idIn listing.idColumn))
  have hitems : ∀ row ∈ items, schema.conforms listing.itemTable row = true := by
    intro row hrow
    have hmem := (ordered_perm _ _ _).mem_iff.mp hrow
    exact hintegral.conforms _ row (List.mem_of_mem_filter hmem)
  have hsecond : rows ≠ [] → (quietDatabase choices).answers 1 (selectStatement
      (listing.itemsOptions (rows.map (idIn listing.idColumn)))) tables =
        .ok (items.map (project [listing.idColumn, .productId, .count]), tables) := by
    intro hne
    rw [answers_selectStatement choices 1 (List.cons_ne_nil _ _),
      selected_itemsOptions (choices 1) (by simpa using hne)]
    rfl
  -- The loop over the entities goes on where the loop over the rows has ended.
  have hloops : (do
      let entities ← (rows.map (project listing.options.columns)).mapM listing.fromRow
      return listJson (← entities.mapM (listing.toJson (items.map listing.itemOf)))) =
        .ok response ↔ (∀ row ∈ rows, listing.view.readable row = true) ∧
          response = listJson (rows.map (listing.object items)) :=
    listJson_eq_ok fun row hrow => toJson_eq hitems (htyped row hrow)
  constructor
  · rintro ⟨results, state, entities, ids, itemRows, state', hfirst, hne, hentities, hids,
      hitemRows, hok⟩
    cases hanswer.symm.trans hfirst
    cases (mapM_idOf htyped hentities).symm.trans hids
    have hrows : rows ≠ [] := by simpa using hne
    cases (hsecond hrows).symm.trans hitemRows
    dsimp only at hok
    rw [mapM_itemFromRow hitems, ok_bind] at hok
    refine ⟨rows, rfl, hrows, hloops.mp ?_⟩
    rw [hentities, ok_bind]
    exact hok
  · rintro ⟨rows', hrows', hne, hreadable⟩
    cases hrows'
    have hok := hloops.mpr hreadable
    obtain ⟨entities, hentities, hjson⟩ := Exceptions.bind_eq_ok_iff.mp hok
    refine ⟨_, tables, entities, _, _, tables, hanswer, by simpa using hne, hentities,
      mapM_idOf htyped hentities, hsecond hne, ?_⟩
    dsimp only
    rw [mapM_itemFromRow hitems, ok_bind]
    exact hjson

/-- Without rows a list with items is not found. -/
theorem respond_task_of_nil
    (h : ∀ rows, selected (choices 0) listing.options (selectParams listing.options) tables =
      .ok rows → rows = []) :
    listing.task.respond (quietDatabase choices).answers tables = ⟨.object [], .notFound⟩ := by
  refine respond_itemsTask_of_empty fun results state hanswer => ?_
  rw [answers_selectStatement choices 0 listing.columns_ne_nil] at hanswer
  obtain ⟨rows, hrows, hresults⟩ := Exceptions.map_eq_ok_iff.mp hanswer
  cases h rows hrows
  cases hresults
  rfl

end ItemListing

namespace GetWarehouseList

/-- The item that the list makes of a row. -/
def itemOf (row : TableRow) : WarehouseItem where
  warehouseId := some (idIn .warehouseId row)
  productId := some (idIn .productId row)
  count := some (idIn .count row)

/-- A stored item is read. -/
theorem itemFromRow_eq {row : TableRow} (h : schema.conforms .warehouseItem row = true) :
    itemFromRow (project [.warehouseId, .productId, .count] row) = .ok (itemOf row) := by
  have htyped : TypedOn [.warehouseId, .productId, .count] row :=
    typedOn_of_conforms h (by decide)
  have hwarehouse := getInt64_idIn htyped .warehouseId (by simp) rfl
    (isSome_of_conforms h (by decide))
  have hproduct := getInt64_idIn htyped .productId (by simp) rfl (isSome_of_conforms h (by decide))
  have hcount := getInt64_idIn htyped .count (by simp) rfl (isSome_of_conforms h (by decide))
  simp [itemFromRow, itemOf, project, fieldAt, hwarehouse, hproduct, hcount, required_some, pure,
    Except.pure]

/-- The items that are filed under a warehouse. -/
theorem itemsOf_map_itemOf {rows : List TableRow}
    (h : ∀ row ∈ rows, schema.conforms .warehouseItem row = true) (id : Int64) :
    itemsOf (rows.map itemOf) id = (rows.filter (hasId .warehouseId id)).map itemOf := by
  rw [itemsOf, List.filter_map]
  refine congrArg (List.map itemOf) (List.filter_congr fun row hrow => ?_)
  have htyped : TypedOn [.warehouseId] row := typedOn_of_conforms (h row hrow) (by decide)
  have hid : hasId .warehouseId id row = true ↔ idIn .warehouseId row = id :=
    hasId_iff htyped (by simp) rfl (isSome_of_conforms (h row hrow) (by decide))
  rw [Bool.eq_iff_iff, hid]
  simp [itemOf]

/-- The id of an entity is that of its row. -/
theorem warehouseId_of_fromRow {row : TableRow} (h : TypedOn [.warehouseId, .name, .prettyName,
    .description, .createdDate, .createdBy, .location] row) {warehouse : Warehouse}
    (hwarehouse : Warehouse.fromRow (project [.warehouseId, .name, .prettyName, .description,
      .createdDate, .createdBy, .location] row) = .ok warehouse) :
    warehouse.warehouseId = some (idIn .warehouseId row) := by
  have hid := getInt64_field h .warehouseId (by simp) rfl
  simp [Warehouse.fromRow, project, fieldAt, bind_eq_ok, hid, required_map_eq_ok,
    -Functor.map_map, -bind_pure_comp, pure, Except.pure] at hwarehouse
  obtain ⟨value, hvalue, _, -, _, -, _, -, _, -, _, -, _, -, _, -, _, -, _, -, _, -, rfl⟩ :=
    hwarehouse
  rw [idIn, hvalue]
  rfl

/-- The list of warehouses with the rows of its items. -/
def listing (dateProvider : DateProvider) (request : ListRequest) :
    ItemListing dateProvider where
  Entity := Warehouse
  Item := WarehouseItem
  options := options request
  fromRow := Warehouse.fromRow
  idOf := Warehouse.warehouseId
  entityJson warehouse items := warehouse.json dateProvider items
  view
  itemTable := .warehouseItem
  idColumn := .warehouseId
  idKey := "warehouse_id"
  itemFromRow
  itemsOf
  itemJson := WarehouseItem.json
  itemOf
  columns_ne_nil := List.cons_ne_nil _ _
  joins_nil := rfl
  entityJson_eq _ htyped items json := json_eq_view htyped items dateProvider json
  idOf_eq _ htyped _ h := warehouseId_of_fromRow htyped h
  idColumn_int8 := rfl
  areColumns := by decide
  itemFromRow_eq _ h := itemFromRow_eq h
  itemJson_eq _ := rfl
  itemsOf_eq _ h := itemsOf_map_itemOf h

/-- It is the list that the task answers. -/
theorem task_eq_listing (dateProvider : DateProvider) (request : ListRequest) :
    task dateProvider request = (listing dateProvider request).task := rfl

end GetWarehouseList

namespace GetInvoiceList

/-- The item that the list makes of a row. -/
def itemOf (row : TableRow) : InvoiceItem where
  invoiceId := some (idIn .invoiceId row)
  productId := some (idIn .productId row)
  count := some (idIn .count row)

/-- A stored item is read. -/
theorem itemFromRow_eq {row : TableRow} (h : schema.conforms .invoiceItem row = true) :
    itemFromRow (project [.invoiceId, .productId, .count] row) = .ok (itemOf row) := by
  have htyped : TypedOn [.invoiceId, .productId, .count] row :=
    typedOn_of_conforms h (by decide)
  have hinvoice := getInt64_idIn htyped .invoiceId (by simp) rfl (isSome_of_conforms h (by decide))
  have hproduct := getInt64_idIn htyped .productId (by simp) rfl (isSome_of_conforms h (by decide))
  have hcount := getInt64_idIn htyped .count (by simp) rfl (isSome_of_conforms h (by decide))
  simp [itemFromRow, itemOf, project, fieldAt, hinvoice, hproduct, hcount, required_some, pure,
    Except.pure]

/-- The items that are filed under an invoice. -/
theorem itemsOf_map_itemOf {rows : List TableRow}
    (h : ∀ row ∈ rows, schema.conforms .invoiceItem row = true) (id : Int64) :
    itemsOf (rows.map itemOf) id = (rows.filter (hasId .invoiceId id)).map itemOf := by
  rw [itemsOf, List.filter_map]
  refine congrArg (List.map itemOf) (List.filter_congr fun row hrow => ?_)
  have htyped : TypedOn [.invoiceId] row := typedOn_of_conforms (h row hrow) (by decide)
  have hid : hasId .invoiceId id row = true ↔ idIn .invoiceId row = id :=
    hasId_iff htyped (by simp) rfl (isSome_of_conforms (h row hrow) (by decide))
  rw [Bool.eq_iff_iff, hid]
  simp [itemOf]

/-- The id of an entity that is listed is that of its row. -/
theorem invoiceId_of_fromRow {row : TableRow} (h : TypedOn [.invoiceId, .warehouseToId,
    .warehouseFromId, .name, .prettyName, .description, .createdDate, .createdBy] row)
    {invoice : Invoice} (hinvoice : Invoice.fromRow (project [.invoiceId, .warehouseToId,
      .warehouseFromId, .name, .prettyName, .description, .createdDate, .createdBy] row) =
      .ok invoice) :
    invoice.invoiceId = some (idIn .invoiceId row) := by
  have hid := getInt64_field h .invoiceId (by simp) rfl
  simp [Invoice.fromRow, project, fieldAt, bind_eq_ok, hid, required_map_eq_ok,
    -Functor.map_map, -bind_pure_comp, pure, Except.pure] at hinvoice
  obtain ⟨value, hvalue, _, -, _, -, _, -, _, -, _, -, _, -, _, -, _, -, _, -, _, -, _, -, rfl⟩ :=
    hinvoice
  rw [idIn, hvalue]
  rfl

/-- The list of invoices with the rows of its items. -/
def listing (dateProvider : DateProvider) (request : ListRequest) :
    ItemListing dateProvider where
  Entity := Invoice
  Item := InvoiceItem
  options := options request
  fromRow := Invoice.fromRow
  idOf := Invoice.invoiceId
  entityJson invoice items := invoice.json dateProvider items
  view
  itemTable := .invoiceItem
  idColumn := .invoiceId
  idKey := "invoice_id"
  itemFromRow
  itemsOf
  itemJson := InvoiceItem.json
  itemOf
  columns_ne_nil := List.cons_ne_nil _ _
  joins_nil := rfl
  entityJson_eq _ htyped items json := json_eq_view htyped items dateProvider json
  idOf_eq _ htyped _ h := invoiceId_of_fromRow htyped h
  idColumn_int8 := rfl
  areColumns := by decide
  itemFromRow_eq _ h := itemFromRow_eq h
  itemJson_eq _ := rfl
  itemsOf_eq _ h := itemsOf_map_itemOf h

/-- It is the list that the task answers. -/
theorem task_eq_listing (dateProvider : DateProvider) (request : ListRequest) :
    task dateProvider request = (listing dateProvider request).task := rfl

end GetInvoiceList

/-! ## The six lists -/

/-- The task lists the rows that its statement selects: it answers an object for each of them, when
there are rows and all of them can be shown, and is not found without rows. -/
structure ListsRows (task : TransactionTask) (choices : Nat → Choices) (tables : Tables)
    (options : SelectOptions) (view : View) (object : List TableRow → TableRow → Json) : Prop where
  success : ∀ response, task.respond (quietDatabase choices).answers tables =
      ⟨response, .success⟩ ↔
    ∃ rows, selected (choices 0) options (selectParams options) tables = .ok rows ∧ rows ≠ [] ∧
      (∀ row ∈ rows, view.readable row = true) ∧ response = listJson (rows.map (object rows))
  notFound : (∀ rows, selected (choices 0) options (selectParams options) tables = .ok rows →
      rows = []) →
    task.respond (quietDatabase choices).answers tables = ⟨.object [], .notFound⟩

section Lists

variable {tables : Tables} (hintegral : Integral schema tables) (choices : Nat → Choices)
  (dateProvider : DateProvider) (request : ListRequest)

include hintegral

/-- A list of one statement without joins. -/
theorem listsRows_rowList {α : Type} {options : SelectOptions} (hjoins : options.joins = [])
    (hcolumns : options.columns ≠ [])
    {fromRow : List (Option String) → Except Exception α} {toJson : α → Except Exception Json}
    {view : View}
    (hview : ∀ row, TypedOn options.columns row → ∀ json,
      (do toJson (← fromRow (project options.columns row))) = .ok json ↔
        view.readable row = true ∧ json = view.object dateProvider row) :
    ListsRows (rowList options fromRow toJson) choices tables options view fun _ =>
      view.object dateProvider where
  success _ := respond_rowList hcolumns hview fun _ => typedOn_of_selected hintegral hjoins
  notFound := respond_rowList_of_nil hcolumns

/-- A list with items. -/
theorem ItemListing.listsRows (listing : ItemListing dateProvider) :
    ListsRows listing.task choices tables listing.options listing.view fun rows =>
      listing.object (listing.items (choices 1) tables (rows.map (idIn listing.idColumn))) where
  success _ := respond_task hintegral
  notFound := respond_task_of_nil

/-- The list of users. -/
theorem GetUserList.listsRows :
    ListsRows (task dateProvider request) choices tables (options request) view fun _ =>
      view.object dateProvider :=
  listsRows_rowList hintegral choices dateProvider rfl (List.cons_ne_nil _ _)
    fun _ htyped json => json_eq_view htyped dateProvider json

/-- The list of reports. -/
theorem GetReportList.listsRows :
    ListsRows (task dateProvider request) choices tables (options request) view fun _ =>
      view.object dateProvider :=
  listsRows_rowList hintegral choices dateProvider rfl (List.cons_ne_nil _ _)
    fun _ htyped json => json_eq_view htyped dateProvider json

/-- The list of operations. -/
theorem GetOperationList.listsRows :
    ListsRows (task dateProvider request) choices tables (options request) view fun _ =>
      view.object dateProvider :=
  listsRows_rowList hintegral choices dateProvider rfl (List.cons_ne_nil _ _)
    fun _ htyped json => json_eq_view htyped dateProvider json

/-- The list of warehouses. -/
theorem GetWarehouseList.listsRows :
    ListsRows (task dateProvider request) choices tables (options request) view fun rows =>
      (listing dateProvider request).object ((listing dateProvider request).items (choices 1)
        tables (rows.map (idIn .warehouseId))) :=
  ItemListing.listsRows hintegral choices dateProvider (listing dateProvider request)

/-- The list of invoices. -/
theorem GetInvoiceList.listsRows :
    ListsRows (task dateProvider request) choices tables (options request) view fun rows =>
      (listing dateProvider request).object ((listing dateProvider request).items (choices 1)
        tables (rows.map (idIn .invoiceId))) :=
  ItemListing.listsRows hintegral choices dateProvider (listing dateProvider request)

end Lists

/-! ## Products with the items of warehouses -/

namespace GetProductList

/-- A row of a product and a row of an item of it. -/
def joined (product item : TableRow) : TableRow := fun column =>
  if column = .warehouseId ∨ column = .count then item column else product column

/-- The options with the items of warehouses. -/
theorem options_of_extendWarehouse {request : ListRequest} (h : extendWarehouse request = true) :
    options request =
      { request.options .product
          [.productId, .name, .prettyName, .description, .createdDate, .createdBy, .mainColor,
            .warehouseId, .count] .productId with
        joins := [{ leftColumn := .productId, joiningTable := .warehouseItem,
                    joiningColumn := .productId }] } := by
  unfold options
  dsimp only
  rw [if_pos h]
  rfl

/-- The options without them. -/
theorem options_of_not_extendWarehouse {request : ListRequest}
    (h : extendWarehouse request = false) :
    options request = request.options .product
      [.productId, .name, .prettyName, .description, .createdDate, .createdBy, .mainColor]
      .productId := by
  unfold options
  dsimp only
  rw [h]
  rfl

/-- The items of a product, or a row without values when there are none. -/
def itemsOrNull (tables : Tables) (product : TableRow) : List TableRow :=
  let found := (tables .warehouseItem).filter fun item =>
    Predicate.compareNullable .equal (product .productId) (item .productId) = some true
  if found.isEmpty then [fun _ => none] else found

/-- The rows of the join are those of the products with their items. -/
theorem fromRows_of_extendWarehouse {request : ListRequest} (h : extendWarehouse request = true)
    (tables : Tables) :
    fromRows tables (options request) = (tables .product).flatMap fun product =>
      (itemsOrNull tables product).map (joined product) := by
  rw [options_of_extendWarehouse h]
  -- The columns of the items are those that the products do not have.
  have hflatten : ∀ (options : SelectOptions) (product item : TableRow),
      scopeOf options = [.product, .warehouseItem] → options.table = .product →
        flatten options (Function.update (fun _ => product) .warehouseItem item) =
          joined product item := by
    intro options product item hscope htable
    funext column
    unfold flatten joined
    rw [hscope, htable]
    cases column <;> rfl
  unfold fromRows
  rw [List.foldl_cons, List.foldl_nil]
  show List.map _ (List.flatMap _ (List.map _ (tables .product))) = _
  rw [List.flatMap_map, List.map_flatMap]
  refine List.flatMap_congr fun product _ => ?_
  rw [List.map_map]
  refine List.map_congr_left fun item _ => ?_
  exact hflatten _ product item rfl rfl

/-- The rows of the join have values of their columns. -/
theorem typedOn_of_extendWarehouse {tables : Tables} (hintegral : Integral schema tables)
    {request : ListRequest} (h : extendWarehouse request = true) {row : TableRow}
    (hrow : row ∈ fromRows tables (options request)) :
    TypedOn (options request).columns row := by
  rw [fromRows_of_extendWarehouse h] at hrow
  obtain ⟨product, hproduct, hrow⟩ := List.mem_flatMap.mp hrow
  obtain ⟨item, hitem, rfl⟩ := List.mem_map.mp hrow
  have hproductTyped : TypedOn [.productId, .name, .prettyName, .description, .createdDate,
      .createdBy, .mainColor] product :=
    typedOn_of_conforms (hintegral.conforms _ product hproduct) (by decide)
  have hitemTyped : TypedOn [.warehouseId, .count] item := by
    unfold itemsOrNull at hitem
    dsimp only at hitem
    split at hitem
    · cases List.mem_singleton.mp hitem
      intro column _ value hvalue
      cases hvalue
    · exact typedOn_of_conforms
        (hintegral.conforms .warehouseItem item (List.mem_of_mem_filter hitem)) (by decide)
  rw [options_of_extendWarehouse h]
  intro column hcolumn value hvalue
  unfold joined at hvalue
  by_cases hitemColumn : column = .warehouseId ∨ column = .count
  · rw [if_pos hitemColumn] at hvalue
    exact hitemTyped column (by simpa using hitemColumn) value hvalue
  · rw [if_neg hitemColumn] at hvalue
    refine hproductTyped column ?_ value hvalue
    have hmem : column ∈ [.productId, .name, .prettyName, .description, .createdDate, .createdBy,
      .mainColor] ++ [Column.warehouseId, .count] := hcolumn
    exact (List.mem_append.mp hmem).resolve_right (by simpa using hitemColumn)

/-- What the list shows of its rows. -/
def viewOf (request : ListRequest) : View :=
  if extendWarehouse request then extendedView else view

/-- The list of products. -/
theorem listsRows {tables : Tables} (hintegral : Integral schema tables)
    (choices : Nat → Choices) (dateProvider : DateProvider) (request : ListRequest) :
    ListsRows (task dateProvider request) choices tables (options request) (viewOf request)
      fun _ => (viewOf request).object dateProvider := by
  cases h : extendWarehouse request with
  | false =>
    have htask : task dateProvider request =
        rowList (options request) (fromRow false) (json dateProvider) := by
      rw [← h]
      rfl
    rw [htask, viewOf, h, options_of_not_extendWarehouse h]
    exact listsRows_rowList hintegral choices dateProvider rfl (List.cons_ne_nil _ _)
      fun _ htyped json => json_eq_view htyped dateProvider json
  | true =>
    have htask : task dateProvider request =
        rowList (options request) (fromRow true) (json dateProvider) := by
      rw [← h]
      rfl
    have hcolumns : (options request).columns ≠ [] := by
      rw [options_of_extendWarehouse h]
      exact List.cons_ne_nil _ _
    rw [htask, viewOf, h, if_pos rfl]
    refine ⟨fun _ => respond_rowList hcolumns ?_ ?_, respond_rowList_of_nil hcolumns⟩
    · rw [options_of_extendWarehouse h]
      exact fun _ htyped json => json_eq_extendedView htyped dateProvider json
    · intro rows hrows row hrow
      obtain ⟨-, -, all, hall, -⟩ := selected_eq_ok.mp hrows
      obtain ⟨-, predicate, -, rfl⟩ := found_eq_ok.mp hall
      exact typedOn_of_extendWarehouse hintegral h
        (List.mem_of_mem_filter (mem_found_of_selected hrows hall hrow))

end GetProductList

end TaskMgr.Tasks

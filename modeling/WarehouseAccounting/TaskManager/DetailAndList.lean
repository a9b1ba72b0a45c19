import WarehouseAccounting.TaskManager.Details

/-!
# Detail and list

An entity that is asked for alone, next to its entry in the list of all entities.

- `Entity.agree_iff_viewsMatch`: both show the same values, those of the columns that their keys
  name, exactly when a user's name is the login, a warehouse's location is its description or one
  of both is missing, and the items come in the same order.
-/

namespace TaskMgr.Tasks

open Ufa Srv.Db Srv.Db.Trsct Srv.Db.Sql Srv.Db.DbMgr.Scpts Relational

/-! ## What keys name -/

/-- The column that a key names: the column of this name, or the one of the id that it is. -/
def columnNamed (key : String) : Option Column :=
  (Column.all.find? fun column => column.toString = key) <|>
    Column.all.find? fun column => column.toString = key ++ "_id"

/-- What is shown is the stored value of a column: a time by the date provider, the name of a
report type, or else the text or number itself. -/
def Shows (dateProvider : DateProvider) (column : Column) (stored : Value) (shown : Json) : Prop :=
  match column, stored, shown with
  | .createdDate, .integer time, shown =>
    0 ≤ time ∧ shown = dateProvider.json (UInt64.ofNat time.toNat)
  | .reportType, .integer type, .string shown => reportTypeToString (Int64.ofInt type) = .ok shown
  | _, .text stored, .string shown => shown = stored
  | _, .integer stored, .integer shown => shown.toInt = stored
  | _, .integer stored, .unsigned shown => (shown.toNat : Int) = stored
  | _, _, _ => False

/-- The encodings by which the value of a column is shown. -/
def Encoding.fits (column : Column) (encoding : Encoding) : Bool :=
  match column, encoding with
  | .createdDate, encoding => encoding = .time
  | .reportType, encoding => encoding = .reportType
  | .createdBy, encoding => encoding = .user || encoding = .signedUser
  | _, encoding => encoding = .plain

/-- A value that can be read is shown as it is stored. -/
theorem shows_of_fits {column : Column} {encoding : Encoding}
    (hfits : encoding.fits column = true) {stored : Value}
    (hadmits : (columnValues column).admits stored = true)
    (hreadable : encoding.readable stored = true) (dateProvider : DateProvider) :
    Shows dateProvider column stored (encoding.json dateProvider stored) := by
  cases stored with
  | text text =>
    -- Only texts are shown of columns with texts.
    have htext : columnValues column = .text := by
      cases column <;> first | rfl | cases hadmits
    have hplain : encoding = .plain := by
      cases column <;> first | exact of_decide_eq_true hfits | cases htext
    subst hplain
    cases column <;> rfl
  | integer value =>
    have hint8 : columnValues column = .int8 := by
      cases column <;> first | rfl | cases hadmits
    rw [hint8] at hadmits
    simp only [ColumnType.admits, Bool.and_eq_true, decide_eq_true_eq] at hadmits
    have hinteger : (Int64.ofInt value).toInt = value :=
      Int64.toInt_ofInt_of_le (by omega) (by omega)
    cases encoding with
    | plain => cases column <;> first | exact hinteger | cases hfits
    | time =>
      have hcolumn : column = .createdDate := by
        cases column <;> first | rfl | cases hfits
      subst hcolumn
      exact ⟨of_decide_eq_true hreadable, rfl⟩
    | user =>
      have hcolumn : column = .createdBy := by
        cases column <;> first | rfl | cases hfits
      subst hcolumn
      have hnonneg : 0 ≤ value := of_decide_eq_true hreadable
      show ((UInt64.ofNat value.toNat).toNat : Int) = value
      rw [UInt64.toNat_ofNat']
      omega
    | signedUser =>
      have hcolumn : column = .createdBy := by
        cases column <;> first | rfl | cases hfits
      subst hcolumn
      have hnonneg : 0 ≤ value := of_decide_eq_true hreadable
      show (UInt64.ofNat value.toNat).toInt64.toInt = value
      rw [UInt64.toInt64_ofNat', Int64.toInt_ofNat_of_lt (by omega)]
      omega
    | reportType =>
      have hcolumn : column = .reportType := by
        cases column <;> first | rfl | cases hfits
      subst hcolumn
      show reportTypeToString (Int64.ofInt value) =
        .ok ((reportTypeToString (Int64.ofInt value)).toOption.getD "")
      exact reportTypeToString_eq_ok.mpr ⟨hreadable, rfl⟩

/-! ## Entities -/

/-- The entities that can be asked for alone and in a list. -/
inductive Entity where
  | product
  | warehouse
  | invoice
  | user
  | report
  deriving DecidableEq, Repr

namespace Entity

/-- The table of the entities. -/
def table : Entity → Table
  | product => .product
  | warehouse => .warehouse
  | invoice => .invoice
  | user => .user
  | report => .report

/-- The column of their ids. -/
def idColumn : Entity → Column
  | product => .productId
  | warehouse => .warehouseId
  | invoice => .invoiceId
  | user => .userId
  | report => .reportId

/-- The table of their items, for the entities that have items. -/
def itemTable : Entity → Option Table
  | warehouse => some .warehouseItem
  | invoice => some .invoiceItem
  | product | user | report => none

/-- The task for one of them. -/
def detailTask (dateProvider : DateProvider) (id : Int64) : Entity → TransactionTask
  | product => GetProduct.task dateProvider id
  | warehouse => GetWarehouse.task dateProvider id
  | invoice => GetInvoice.task dateProvider id
  | user => GetUser.task dateProvider id
  | report => GetReport.task dateProvider id

/-- The task for a list of them. -/
def listTask (dateProvider : DateProvider) (request : ListRequest) : Entity → TransactionTask
  | product => GetProductList.task dateProvider request
  | warehouse => GetWarehouseList.task dateProvider request
  | invoice => GetInvoiceList.task dateProvider request
  | user => GetUserList.task dateProvider request
  | report => GetReportList.task dateProvider request

/-- The request for all of them: no filter, and the limit and the offset are 0. A limit of 0 is no
limit. -/
def all : ListRequest := { offset := 0 }

/-- What stands under a key is stored: under the name of a column the value of the row, and under
`items` the items of the id. -/
def IsStored (dateProvider : DateProvider) (entity : Entity) (tables : Tables) (id : Int64)
    (row : TableRow) (key : String) (shown : Json) : Prop :=
  match columnNamed key with
  | some column => ∃ stored, row column = some stored ∧ Shows dateProvider column stored shown
  | none => key = "items" ∧ ∃ itemTable, entity.itemTable = some itemTable ∧
    ∃ items : List TableRow,
      items.Perm ((tables itemTable).filter (hasId entity.idColumn id)) ∧
        shown = .array (items.map (itemObject entity.idColumn.toString entity.idColumn))

/-- The list has one entry with the id. The object of the detail and this entry have equal values
for every key that they share, and the values are those that are stored. -/
def Agree (dateProvider : DateProvider) (entity : Entity) (tables : Tables) (id : Int64)
    (row : TableRow) (detail list : Json) : Prop :=
  ∃ object entries entry, detail = resultJson object ∧ list = listJson entries ∧
    (∀ other, other ∈ entries ∧ Json.member entity.idColumn.toString other = some (.integer id) ↔
      other = entry) ∧
    ∀ key value value', Json.member key object = some value → Json.member key entry = some value' →
      value = value' ∧ entity.IsStored dateProvider tables id row key value

end Entity

/-! ## Shared keys -/

/-- The object that a view makes, with the items under their key, if there are any. -/
def View.objectWith (view : View) (dateProvider : DateProvider) (items : Option Json)
    (row : TableRow) : Json :=
  .object (putAll (view.puts dateProvider row ++ [("items", items)]))

/-- Without items nothing is put for them. -/
theorem View.objectWith_none (view : View) (dateProvider : DateProvider) (row : TableRow) :
    view.objectWith dateProvider none row = view.object dateProvider row := by
  rw [objectWith, object, putAll, List.foldl_append]
  rfl

/-- What stands under a key is what was put for it. -/
theorem lookup_putAll_eq_some_iff {puts : List (String × Option Json)}
    (hnodup : (puts.map Prod.fst).Nodup) {key : String} {value : Json} :
    (putAll puts).lookup key = some value ↔ (key, some value) ∈ puts := by
  rw [lookup_putAll hnodup]
  induction puts with
  | nil => simp
  | cons first puts ih =>
    obtain ⟨key', put⟩ := first
    obtain ⟨hother, hnodup⟩ := List.nodup_cons.mp hnodup
    rw [Json.lookup_cons_ite, List.mem_cons]
    by_cases hkey : key = key'
    · subst hkey
      have hnotMem : (key, some value) ∉ puts := fun hmem =>
        hother (List.mem_map.mpr ⟨_, hmem, rfl⟩)
      simp [hnotMem, eq_comm]
    · rw [if_neg hkey, ih hnodup]
      simp [hkey]

/-- The keys of a view with those of the items. -/
def View.keys (view : View) : List String :=
  view.map ViewField.key ++ ["items"]

/-- What stands under a key of an object is the value of a field, or the items. -/
theorem View.member_objectWith {view : View} (hnodup : view.keys.Nodup)
    {dateProvider : DateProvider} {items : Option Json} {row : TableRow} {key : String}
    {value : Json} :
    Json.member key (view.objectWith dateProvider items row) = some value ↔
      (∃ field ∈ view, ∃ stored, row field.column = some stored ∧ field.key = key ∧
        field.encoding.json dateProvider stored = value) ∨ key = "items" ∧ items = some value := by
  have hkeys : (view.puts dateProvider row ++ [("items", items)]).map Prod.fst = view.keys := by
    simp [puts, keys, ViewField.put, Function.comp_def]
  rw [objectWith, Json.member, lookup_putAll_eq_some_iff (hkeys ▸ hnodup), List.mem_append]
  refine or_congr ?_ ?_
  · rw [puts, List.mem_map]
    constructor
    · rintro ⟨field, hfield, hput⟩
      obtain ⟨hkey, hvalue⟩ := Prod.mk.inj hput
      obtain ⟨stored, hstored, hjson⟩ := Option.map_eq_some_iff.mp hvalue
      exact ⟨field, hfield, stored, hstored, hkey, hjson⟩
    · rintro ⟨field, hfield, stored, hstored, rfl, rfl⟩
      exact ⟨field, hfield, by rw [ViewField.put, hstored]; rfl⟩
  · rw [List.mem_singleton, Prod.mk.injEq, eq_comm (a := some value)]

/-- What two objects have under the keys that they share, field by field. -/
theorem View.shared_iff {view other : View} (hview : view.keys.Nodup) (hother : other.keys.Nodup)
    {dateProvider : DateProvider} {items items' : Option Json} {row : TableRow}
    {related : String → Json → Json → Prop} :
    (∀ key value value',
        Json.member key (view.objectWith dateProvider items row) = some value →
          Json.member key (other.objectWith dateProvider items' row) = some value' →
            related key value value') ↔
      (∀ field ∈ view, ∀ field' ∈ other, field.key = field'.key →
        ∀ stored, row field.column = some stored → ∀ stored', row field'.column = some stored' →
          related field.key (field.encoding.json dateProvider stored)
            (field'.encoding.json dateProvider stored')) ∧
        ∀ value value', items = some value → items' = some value' →
          related "items" value value' := by
  -- No field stands under the key of the items.
  have hfresh : ∀ {view : View}, view.keys.Nodup → ∀ field ∈ view, field.key ≠ "items" := by
    intro view hnodup field hfield heq
    have hdisjoint := List.disjoint_of_nodup_append hnodup
    exact hdisjoint (List.mem_map_of_mem hfield) (by rw [heq]; exact List.mem_singleton_self _)
  simp only [member_objectWith hview, member_objectWith hother]
  constructor
  · intro h
    refine ⟨fun field hfield field' hfield' hkey stored hstored stored' hstored' => ?_,
      fun value value' hitems hitems' => ?_⟩
    · exact h field.key _ _ (.inl ⟨field, hfield, stored, hstored, rfl, rfl⟩)
        (.inl ⟨field', hfield', stored', hstored', hkey.symm, rfl⟩)
    · exact h "items" value value' (.inr ⟨rfl, hitems⟩) (.inr ⟨rfl, hitems'⟩)
  · rintro ⟨hfields, hitems⟩ key value value'
      (⟨field, hfield, stored, hstored, rfl, rfl⟩ | ⟨rfl, hvalue⟩)
      (⟨field', hfield', stored', hstored', hkey, rfl⟩ | ⟨hkey, hvalue'⟩)
    · exact hfields field hfield field' hfield' hkey.symm stored hstored stored' hstored'
    · exact absurd hkey (hfresh hview field hfield)
    · exact absurd hkey (hfresh hother field' hfield')
    · exact hitems value value' hvalue hvalue'

/-- The field shows the column that its key names. -/
def ViewField.named (field : ViewField) : Bool :=
  columnNamed field.key = some field.column && field.encoding.fits field.column

namespace Entity

variable {entity : Entity} {tables : Tables} {dateProvider : DateProvider} {id : Int64}
  {row : TableRow}

/-- What such a field shows is stored. -/
theorem isStored_of_named {field : ViewField} (hnamed : field.named = true) {stored : Value}
    (hstored : row field.column = some stored)
    (hadmits : (columnValues field.column).admits stored = true)
    (hreadable : field.encoding.readable stored = true) :
    entity.IsStored dateProvider tables id row field.key
      (field.encoding.json dateProvider stored) := by
  rw [ViewField.named, Bool.and_eq_true, decide_eq_true_eq] at hnamed
  unfold IsStored
  rw [hnamed.1]
  exact ⟨stored, hstored, shows_of_fits hnamed.2 hadmits hreadable dateProvider⟩

/-- An id is stored in the rows of the table. -/
theorem exists_id_of_conforms (h : schema.conforms entity.table row = true) :
    ∃ id : Int64, row entity.idColumn = some (.integer id.toInt) := by
  have htyped : TypedOn [entity.idColumn] row :=
    typedOn_of_conforms h (by cases entity <;> decide)
  have hint8 : columnValues entity.idColumn = .int8 := by cases entity <;> rfl
  have hsome : (row entity.idColumn).isSome = true :=
    isSome_of_conforms h (by cases entity <;> decide)
  exact ⟨idIn entity.idColumn row, of_decide_eq_true
    ((hasId_iff htyped (List.mem_singleton_self _) hint8 hsome).mpr rfl)⟩

/-- The id of a row stands under its key. -/
theorem member_idColumn {view : View} (hkeys : view.keys.Nodup)
    (hidField : { key := entity.idColumn.toString, column := entity.idColumn } ∈ view)
    (hconforms : schema.conforms entity.table row = true) {items : Option Json} :
    Json.member entity.idColumn.toString (view.objectWith dateProvider items row) =
        some (.integer id) ↔ hasId entity.idColumn id row = true := by
  obtain ⟨stored, hstored⟩ := exists_id_of_conforms hconforms
  have hshown : Json.member entity.idColumn.toString (view.objectWith dateProvider items row) =
      some (.integer stored) := by
    refine (View.member_objectWith hkeys).mpr (.inl ⟨_, hidField, _, hstored, rfl, ?_⟩)
    show Json.integer (Int64.ofInt stored.toInt) = .integer stored
    rw [Int64.ofInt_toInt]
  rw [hshown, hasId, hstored, decide_eq_true_eq, Option.some.injEq, Option.some.injEq,
    Json.integer.injEq, Value.integer.injEq, Int64.toInt_inj]

/-- An answer has one result. -/
theorem resultJson_injective : Function.Injective resultJson := by
  intro json other h
  have hmembers : [("result", json)] = [("result", other)] := Json.object.inj h
  exact congrArg Prod.snd (List.cons.inj hmembers).1

/-- A list in which every row has its object has one entry with the id. -/
theorem agree_iff (hintegral : Integral schema tables) {detailView listView : View}
    (hkeys : listView.keys.Nodup)
    (hidField : { key := entity.idColumn.toString, column := entity.idColumn } ∈ listView)
    (hrow : row ∈ tables entity.table) (hid : hasId entity.idColumn id row = true)
    {rows : List TableRow} (hrows : rows.Perm (tables entity.table))
    {items : Option Json} {itemsOf : TableRow → Option Json} :
    entity.Agree dateProvider tables id row
        (resultJson (detailView.objectWith dateProvider items row))
        (listJson (rows.map fun row => listView.objectWith dateProvider (itemsOf row) row)) ↔
      ∀ key value value',
        Json.member key (detailView.objectWith dateProvider items row) = some value →
          Json.member key (listView.objectWith dateProvider (itemsOf row) row) = some value' →
            value = value' ∧ entity.IsStored dateProvider tables id row key value := by
  have hentry : ∀ other, (other ∈ rows.map fun row =>
      listView.objectWith dateProvider (itemsOf row) row) ∧
        Json.member entity.idColumn.toString other = some (.integer id) ↔
      other = listView.objectWith dateProvider (itemsOf row) row := by
    intro other
    constructor
    · rintro ⟨hother, hmember⟩
      obtain ⟨otherRow, hotherRow, rfl⟩ := List.mem_map.mp hother
      have hmem := hrows.mem_iff.mp hotherRow
      have hotherId := (member_idColumn hkeys hidField
        (hintegral.conforms _ otherRow hmem)).mp hmember
      -- There is one row with the id.
      have hsingleton := filter_hasId_eq_singleton hintegral
        (by cases entity <;> rfl) hrow hid
      have hfilter := List.mem_filter.mpr ⟨hmem, hotherId⟩
      rw [hsingleton, List.mem_singleton] at hfilter
      rw [hfilter]
    · rintro rfl
      exact ⟨List.mem_map_of_mem (hrows.mem_iff.mpr hrow), (member_idColumn hkeys hidField
        (hintegral.conforms _ row hrow)).mpr hid⟩
  constructor
  · rintro ⟨object, entries, entry, hobject, hentries, hone, hshared⟩
    cases resultJson_injective hobject
    cases Json.array.inj (resultJson_injective hentries)
    cases (hone _).mp ((hentry _).mpr rfl)
    exact hshared
  · intro hshared
    exact ⟨_, _, _, rfl, rfl, hentry, hshared⟩

/-! ## The condition -/

/-- The product and the count of an item. -/
def stockOf (item : TableRow) : Int64 × Int64 :=
  (idIn .productId item, idIn .count item)

/-- The items of an id come in the same order with the detail and with the list: none of the two
statements asks for an order of them. -/
def SameItemOrder (choices choices' : Nat → Choices) (tables : Tables) (table itemTable : Table)
    (idColumn : Column) (options : SelectOptions) (itemsOptions : List Int64 → SelectOptions)
    (id : Int64) : Prop :=
  let ids := (ordered (choices' 0) options (tables table)).map (idIn idColumn)
  let listed := ordered (choices' 1) (itemsOptions ids)
    ((tables itemTable).filter fun item => ids.any fun id => hasId idColumn id item)
  (rowsOfId (choices 0) tables itemTable idColumn id).map stockOf =
    (listed.filter (hasId idColumn id)).map stockOf

/-- What is shown of the row with the id under the keys that both tasks have is the same. -/
def ViewsMatch (choices choices' : Nat → Choices) (tables : Tables) (id : Int64)
    (row : TableRow) : Entity → Prop
  | product | report => True
  | user => row .name = row .login
  | warehouse =>
    (row .location = none ∨ row .description = none ∨ row .location = row .description) ∧
      SameItemOrder choices choices' tables .warehouse .warehouseItem .warehouseId
        (GetWarehouseList.options all) GetWarehouseList.itemsOptions id
  | invoice =>
    SameItemOrder choices choices' tables .invoice .invoiceItem .invoiceId
      (GetInvoiceList.options all) GetInvoiceList.itemsOptions id

/-- All rows of a table are selected. -/
theorem selected_all {choices : Choices} {tables : Tables} {options : SelectOptions}
    (hjoins : options.joins = []) (hcondition : options.condition = none)
    (hcolumns : areColumns options.table (options.columns ++ options.orderBy.toList) = true)
    (hlimit : options.limit = none) (hoffset : options.offset = some 0) :
    selected choices options (selectParams options) tables =
      .ok (ordered choices options (tables options.table)) := by
  have hfound : found options (selectParams options) tables = .ok (tables options.table) := by
    refine found_eq_ok.mpr ⟨by rw [hjoins, List.all_nil], .and [], ?_, ?_⟩
    · rw [selectParams, hcondition]
      rfl
    · rw [fromRows_of_joins_nil hjoins]
      exact (List.filter_eq_self.mpr fun row _ => rfl).symm
  refine selected_eq_ok.mpr ⟨?_, ?_, _, hfound, ?_⟩
  · rw [outputsExist_of_joins_nil hjoins, hcolumns]
  · rw [pageExists, hlimit, hoffset]
    rfl
  · rw [page_of_unlimited hlimit (by rw [hoffset]; rfl)]

/-! ## Fields -/

/-- What a field of a view shows is stored, when it names its column. -/
theorem isStored_of_view {view : View} (hreadable : view.readable row = true)
    (hconforms : schema.conforms entity.table row = true)
    (hcolumns : areColumns entity.table (view.map ViewField.column) = true) {field : ViewField}
    (hfield : field ∈ view) (hnamed : field.named = true) {stored : Value}
    (hstored : row field.column = some stored) :
    entity.IsStored dateProvider tables id row field.key
      (field.encoding.json dateProvider stored) := by
  refine isStored_of_named hnamed hstored ?_ ?_
  · exact typedOn_of_conforms hconforms hcolumns _ (List.mem_map_of_mem hfield) stored hstored
  · have hread := List.all_eq_true.mp hreadable field hfield
    rw [ViewField.readable, Bool.and_eq_true, hstored] at hread
    exact hread.2

/-- The same view shows the same values twice. -/
theorem shared_of_view {view : View} (hreadable : view.readable row = true)
    (hconforms : schema.conforms entity.table row = true)
    (hcolumns : areColumns entity.table (view.map ViewField.column) = true)
    (hkeys : view.keys.Nodup) (hnamed : view.all ViewField.named = true) :
    ∀ field ∈ view, ∀ field' ∈ view, field.key = field'.key →
      ∀ stored, row field.column = some stored → ∀ stored', row field'.column = some stored' →
        field.encoding.json dateProvider stored = field'.encoding.json dateProvider stored' ∧
          entity.IsStored dateProvider tables id row field.key
            (field.encoding.json dateProvider stored) := by
  intro field hfield field' hfield' hkey stored hstored stored' hstored'
  have hnodup : (view.map ViewField.key).Nodup := (List.nodup_append.mp hkeys).1
  cases List.inj_on_of_nodup_map hnodup hfield hfield' hkey
  cases hstored.symm.trans hstored'
  exact ⟨rfl, isStored_of_view hreadable hconforms hcolumns hfield
    (List.all_eq_true.mp hnamed field hfield) hstored⟩

/-- A value of a column with texts is a text. -/
theorem exists_text_of_some {table : Table} (h : schema.conforms table row = true)
    {column : Column} (hcolumn : areColumns table [column] = true)
    (htext : columnValues column = .text) {value : Value} (hvalue : row column = some value) :
    ∃ text, value = .text text := by
  have htyped : TypedOn [column] row := typedOn_of_conforms h hcolumn
  have hadmits := htyped column (List.mem_singleton_self _) value hvalue
  rw [htext] at hadmits
  cases value with
  | text text => exact ⟨text, rfl⟩
  | integer value => cases hadmits

/-- The fields of a user agree when the name is the login. -/
theorem shared_user_iff {row : TableRow} (hdetail : GetUser.view.readable row = true)
    (hlist : GetUserList.view.readable row = true)
    (hconforms : schema.conforms user.table row = true) :
    (∀ field ∈ GetUser.view, ∀ field' ∈ GetUserList.view, field.key = field'.key →
      ∀ stored, row field.column = some stored → ∀ stored', row field'.column = some stored' →
        field.encoding.json dateProvider stored = field'.encoding.json dateProvider stored' ∧
          user.IsStored dateProvider tables id row field.key
            (field.encoding.json dateProvider stored)) ↔ row .name = row .login := by
  have hpairs : ∀ field ∈ GetUser.view, ∀ field' ∈ GetUserList.view, field.key = field'.key →
      field = field' ∨ field = { key := "login", column := .login } ∧
        field' = { key := "login", column := .name } := by decide
  have hnamed : GetUser.view.all ViewField.named = true := by decide
  constructor
  · intro h
    have hsome : (row .login).isSome = true := isSome_of_conforms hconforms (by decide)
    obtain ⟨value, hlogin⟩ := Option.isSome_iff_exists.mp hsome
    obtain ⟨login, rfl⟩ := exists_text_of_some hconforms rfl rfl hlogin
    have hname := List.all_eq_true.mp hlist { key := "name", column := .name } (by decide)
    rw [ViewField.readable, Bool.and_eq_true] at hname
    obtain ⟨value, hvalue⟩ := Option.isSome_iff_exists.mp hname.1
    obtain ⟨name, rfl⟩ := exists_text_of_some hconforms rfl rfl hvalue
    have hequal := (h { key := "login", column := .login } (by decide)
      { key := "login", column := .name } (by decide) rfl _ hlogin _ hvalue).1
    rw [hvalue, hlogin, Json.string.inj hequal]
  · intro hsame field hfield field' hfield' hkey stored hstored stored' hstored'
    refine ⟨?_, isStored_of_view hdetail hconforms (by decide) hfield
      (List.all_eq_true.mp hnamed field hfield) hstored⟩
    rcases hpairs field hfield field' hfield' hkey with rfl | ⟨rfl, rfl⟩
    · cases hstored.symm.trans hstored'
      rfl
    · cases hstored.symm.trans (hsame.symm.trans hstored')
      rfl

/-- The fields of a warehouse agree when its location is its description, or one of them is
missing. -/
theorem shared_warehouse_iff {row : TableRow} (hdetail : GetWarehouse.view.readable row = true)
    (hconforms : schema.conforms warehouse.table row = true) :
    (∀ field ∈ GetWarehouse.view, ∀ field' ∈ GetWarehouseList.view, field.key = field'.key →
      ∀ stored, row field.column = some stored → ∀ stored', row field'.column = some stored' →
        field.encoding.json dateProvider stored = field'.encoding.json dateProvider stored' ∧
          warehouse.IsStored dateProvider tables id row field.key
            (field.encoding.json dateProvider stored)) ↔
      row .location = none ∨ row .description = none ∨ row .location = row .description := by
  have hpairs : ∀ field ∈ GetWarehouse.view, ∀ field' ∈ GetWarehouseList.view,
      field.key = field'.key → field = field' ∧ field.named = true ∨
        field = { key := "location", column := .description, required := false } ∧
          field' = { key := "location", column := .location, required := false } := by decide
  constructor
  · intro h
    rcases hlocation : row .location with _ | location
    · exact .inl rfl
    rcases hdescription : row .description with _ | description
    · exact .inr (.inl rfl)
    obtain ⟨locationText, rfl⟩ := exists_text_of_some hconforms rfl rfl hlocation
    obtain ⟨descriptionText, rfl⟩ := exists_text_of_some hconforms rfl rfl hdescription
    have hequal := (h { key := "location", column := .description, required := false } (by decide)
      { key := "location", column := .location, required := false } (by decide) rfl _ hdescription
        _ hlocation).1
    rw [Json.string.inj hequal]
    exact .inr (.inr rfl)
  · intro hsame field hfield field' hfield' hkey stored hstored stored' hstored'
    rcases hpairs field hfield field' hfield' hkey with ⟨rfl, hnamed⟩ | ⟨rfl, rfl⟩
    · cases hstored.symm.trans hstored'
      exact ⟨rfl, isStored_of_view hdetail hconforms (by decide) hfield hnamed hstored⟩
    · -- The location is there, and it is the description.
      rcases hsame with hnone | hnone | hsame
      · cases hnone.symm.trans hstored'
      · cases hnone.symm.trans hstored
      · have hlocation := hsame.trans hstored
        cases hlocation.symm.trans hstored'
        obtain ⟨text, rfl⟩ := exists_text_of_some hconforms rfl rfl hstored
        exact ⟨rfl, .text text, hlocation, rfl⟩

/-! ## Items -/

/-- The object of an item of an id, from its product and its count. -/
def stockObject (idKey : String) (id : Int64) (stock : Int64 × Int64) : Json :=
  .object (putAll [(idKey, some (.integer id)), ("product_id", some (.integer stock.1)),
    ("count", some (.integer stock.2))])

/-- Different items have different objects. -/
theorem stockObject_injective {idKey : String} (hidKey : [idKey, "product_id", "count"].Nodup)
    (id : Int64) : Function.Injective (stockObject idKey id) := by
  intro stock other h
  have hputs : ∀ (stock : Int64 × Int64) key number,
      Json.member key (stockObject idKey id stock) = some (.integer number) ↔
        (key, some (Json.integer number)) ∈ [(idKey, some (.integer id)),
          ("product_id", some (.integer stock.1)), ("count", some (.integer stock.2))] := by
    intro stock key number
    refine lookup_putAll_eq_some_iff ?_
    exact hidKey
  have hproduct := (hputs stock "product_id" stock.1).mpr (by simp)
  have hcount := (hputs stock "count" stock.2).mpr (by simp)
  rw [h, hputs] at hproduct hcount
  have hfresh : idKey ≠ "product_id" ∧ idKey ≠ "count" := by simpa using hidKey
  refine Prod.ext ?_ ?_
  · simpa [hfresh.1.symm] using hproduct
  · simpa [hfresh.2.symm] using hcount

/-- The row of an id. -/
theorem idIn_of_hasId {column : Column} (h : hasId column id row = true) :
    idIn column row = id := by
  rw [idIn, of_decide_eq_true h]
  exact Int64.ofInt_toInt id

/-- Two arrays of items of an id are equal when the products and counts are. -/
theorem map_itemObject_eq_iff {idKey : String} (hidKey : [idKey, "product_id", "count"].Nodup)
    {idColumn : Column} {items items' : List TableRow}
    (hitems : ∀ item ∈ items, hasId idColumn id item = true)
    (hitems' : ∀ item ∈ items', hasId idColumn id item = true) :
    items.map (itemObject idKey idColumn) = items'.map (itemObject idKey idColumn) ↔
      items.map stockOf = items'.map stockOf := by
  have hobjects : ∀ {items : List TableRow}, (∀ item ∈ items, hasId idColumn id item = true) →
      items.map (itemObject idKey idColumn) =
        (items.map stockOf).map (stockObject idKey id) := by
    intro items hitems
    rw [List.map_map]
    refine List.map_congr_left fun item hitem => ?_
    show itemObject idKey idColumn item = stockObject idKey id (stockOf item)
    rw [itemObject, idIn_of_hasId (hitems item hitem)]
    rfl
  rw [hobjects hitems, hobjects hitems']
  exact (List.map_injective_iff.mpr (stockObject_injective hidKey id)).eq_iff

/-! ## Agreement -/

variable {choices choices' : Nat → Choices}

/-- The views without items agree when their fields do. -/
theorem agree_rows_iff (hintegral : Integral schema tables) {detailView listView : View}
    (hdetail : detailView.keys.Nodup) (hlist : listView.keys.Nodup)
    (hidField : { key := entity.idColumn.toString, column := entity.idColumn } ∈ listView)
    (hrow : row ∈ tables entity.table) (hid : hasId entity.idColumn id row = true)
    {rows : List TableRow} (hrows : rows.Perm (tables entity.table)) :
    entity.Agree dateProvider tables id row
        (resultJson (detailView.object dateProvider row))
        (listJson (rows.map (listView.object dateProvider))) ↔
      ∀ field ∈ detailView, ∀ field' ∈ listView, field.key = field'.key →
        ∀ stored, row field.column = some stored → ∀ stored', row field'.column = some stored' →
          field.encoding.json dateProvider stored = field'.encoding.json dateProvider stored' ∧
            entity.IsStored dateProvider tables id row field.key
              (field.encoding.json dateProvider stored) := by
  have hobjects : listView.object dateProvider = fun row =>
      listView.objectWith dateProvider ((fun _ => none : TableRow → Option Json) row) row :=
    funext fun row => (listView.objectWith_none dateProvider row).symm
  rw [hobjects, ← detailView.objectWith_none, agree_iff hintegral hlist hidField hrow hid hrows,
    View.shared_iff hdetail hlist]
  refine and_iff_left fun value value' hvalue => ?_
  cases hvalue

/-- The views with items agree when their fields and their items do. -/
theorem agree_items_iff (hintegral : Integral schema tables) {itemTable : Table}
    (hitemTable : entity.itemTable = some itemTable)
    (hidKey : [entity.idColumn.toString, "product_id", "count"].Nodup)
    {detailView listView : View} (hdetail : detailView.keys.Nodup) (hlist : listView.keys.Nodup)
    (hidField : { key := entity.idColumn.toString, column := entity.idColumn } ∈ listView)
    (hrow : row ∈ tables entity.table) (hid : hasId entity.idColumn id row = true)
    {rows : List TableRow} (hrows : rows.Perm (tables entity.table)) (items : List TableRow) :
    entity.Agree dateProvider tables id row
        (resultJson (detailView.objectOfItems dateProvider entity.idColumn.toString
          entity.idColumn (rowsOfId (choices 0) tables itemTable entity.idColumn id) row))
        (listJson (rows.map fun row => .object (putAll (listView.puts dateProvider row ++
          [("items", some (.array ((items.filter (hasId entity.idColumn
            (idIn entity.idColumn row))).map
              (itemObject entity.idColumn.toString entity.idColumn))))])))) ↔
      (∀ field ∈ detailView, ∀ field' ∈ listView, field.key = field'.key →
        ∀ stored, row field.column = some stored → ∀ stored', row field'.column = some stored' →
          field.encoding.json dateProvider stored = field'.encoding.json dateProvider stored' ∧
            entity.IsStored dateProvider tables id row field.key
              (field.encoding.json dateProvider stored)) ∧
        (rowsOfId (choices 0) tables itemTable entity.idColumn id).map stockOf =
          (items.filter (hasId entity.idColumn id)).map stockOf := by
  refine (agree_iff hintegral hlist hidField hrow hid hrows).trans
    ((View.shared_iff hdetail hlist).trans (and_congr_right' ?_))
  have harrange := (choices 0).arrange_perm ((tables itemTable).filter (hasId entity.idColumn id))
  have hdetailItems : ∀ item ∈ rowsOfId (choices 0) tables itemTable entity.idColumn id,
      hasId entity.idColumn id item = true :=
    fun item hitem => (List.mem_filter.mp (harrange.mem_iff.mp hitem)).2
  have hlistItems : ∀ item ∈ items.filter (hasId entity.idColumn id),
      hasId entity.idColumn id item = true := fun item hitem => (List.mem_filter.mp hitem).2
  rw [← map_itemObject_eq_iff hidKey hdetailItems hlistItems, idIn_of_hasId hid]
  constructor
  · intro h
    exact Json.array.inj (h _ _ rfl rfl).1
  · rintro hequal value value' hvalue hvalue'
    cases hvalue
    cases hvalue'
    rw [← hequal]
    exact ⟨rfl, rfl, itemTable, hitemTable, _, harrange, rfl⟩

section Responses

variable (hintegral : Integral schema tables) {detail list : Json}

include hintegral

/-- The detail and the entry of a product agree. -/
theorem agree_product (hrow : row ∈ tables product.table)
    (hid : hasId product.idColumn id row = true)
    (hdetail : (GetProduct.task dateProvider id).respond (quietDatabase choices).answers tables =
      ⟨detail, .success⟩)
    (hlist : (GetProductList.task dateProvider all).respond (quietDatabase choices').answers
      tables = ⟨list, .success⟩) :
    product.Agree dateProvider tables id row detail list := by
  have hconforms := hintegral.conforms _ row hrow
  obtain ⟨hreadable, rfl⟩ := (GetProduct.respond_task hintegral hrow hid dateProvider).mp hdetail
  obtain ⟨rows, hrows, -, -, rfl⟩ :=
    ((GetProductList.listsRows hintegral choices' dateProvider all).success list).mp hlist
  cases Except.ok.inj ((selected_all rfl rfl (by decide) rfl rfl).symm.trans hrows)
  refine (agree_rows_iff hintegral (by decide) (by decide) (by decide) hrow hid
    (ordered_perm _ _ _)).mpr ?_
  exact shared_of_view hreadable hconforms (by decide) (by decide) (by decide)

/-- The detail and the entry of a report agree. -/
theorem agree_report (hrow : row ∈ tables report.table) (hid : hasId report.idColumn id row = true)
    (hdetail : (GetReport.task dateProvider id).respond (quietDatabase choices).answers tables =
      ⟨detail, .success⟩)
    (hlist : (GetReportList.task dateProvider all).respond (quietDatabase choices').answers
      tables = ⟨list, .success⟩) :
    report.Agree dateProvider tables id row detail list := by
  have hconforms := hintegral.conforms _ row hrow
  obtain ⟨hreadable, rfl⟩ := (GetReport.respond_task hintegral hrow hid dateProvider).mp hdetail
  obtain ⟨rows, hrows, -, -, rfl⟩ :=
    ((GetReportList.listsRows hintegral choices' dateProvider all).success list).mp hlist
  cases Except.ok.inj ((selected_all rfl rfl (by decide) rfl rfl).symm.trans hrows)
  refine (agree_rows_iff hintegral (by decide) (by decide) (by decide) hrow hid
    (ordered_perm _ _ _)).mpr ?_
  exact shared_of_view hreadable hconforms (by decide) (by decide) (by decide)

/-- The detail and the entry of a user agree when the name is the login. -/
theorem agree_user_iff (hrow : row ∈ tables user.table) (hid : hasId user.idColumn id row = true)
    (hdetail : (GetUser.task dateProvider id).respond (quietDatabase choices).answers tables =
      ⟨detail, .success⟩)
    (hlist : (GetUserList.task dateProvider all).respond (quietDatabase choices').answers tables =
      ⟨list, .success⟩) :
    user.Agree dateProvider tables id row detail list ↔ row .name = row .login := by
  have hconforms := hintegral.conforms _ row hrow
  obtain ⟨hreadable, rfl⟩ := (GetUser.respond_task hintegral hrow hid dateProvider).mp hdetail
  obtain ⟨rows, hrows, -, hall, rfl⟩ :=
    ((GetUserList.listsRows hintegral choices' dateProvider all).success list).mp hlist
  cases Except.ok.inj ((selected_all rfl rfl (by decide) rfl rfl).symm.trans hrows)
  refine (agree_rows_iff hintegral (by decide) (by decide) (by decide) hrow hid
    (ordered_perm _ _ _)).trans ?_
  exact shared_user_iff hreadable (hall row ((ordered_perm _ _ _).mem_iff.mpr hrow)) hconforms

/-- The detail and the entry of an invoice agree when the items come in the same order. -/
theorem agree_invoice_iff (hrow : row ∈ tables invoice.table)
    (hid : hasId invoice.idColumn id row = true)
    (hdetail : (GetInvoice.task dateProvider id).respond (quietDatabase choices).answers tables =
      ⟨detail, .success⟩)
    (hlist : (GetInvoiceList.task dateProvider all).respond (quietDatabase choices').answers
      tables = ⟨list, .success⟩) :
    invoice.Agree dateProvider tables id row detail list ↔
      SameItemOrder choices choices' tables .invoice .invoiceItem .invoiceId
        (GetInvoiceList.options all) GetInvoiceList.itemsOptions id := by
  have hconforms := hintegral.conforms _ row hrow
  obtain ⟨hreadable, rfl⟩ := (GetInvoice.respond_task hintegral hrow hid dateProvider).mp hdetail
  obtain ⟨rows, hrows, -, -, rfl⟩ :=
    ((GetInvoiceList.listsRows hintegral choices' dateProvider all).success list).mp hlist
  cases Except.ok.inj ((selected_all rfl rfl (by decide) rfl rfl).symm.trans hrows)
  have hkeys : GetInvoiceList.view.keys.Nodup := by decide
  have hidField : { key := invoice.idColumn.toString, column := invoice.idColumn } ∈
      GetInvoiceList.view := by decide
  refine (agree_items_iff hintegral rfl (by decide) (by decide) hkeys hidField hrow hid
    (ordered_perm _ _ _) _).trans ?_
  exact and_iff_right (shared_of_view hreadable hconforms (by decide) (by decide) (by decide))

/-- The detail and the entry of a warehouse agree when its location is its description or one of
them is missing, and the items come in the same order. -/
theorem agree_warehouse_iff (hrow : row ∈ tables warehouse.table)
    (hid : hasId warehouse.idColumn id row = true)
    (hdetail : (GetWarehouse.task dateProvider id).respond (quietDatabase choices).answers tables =
      ⟨detail, .success⟩)
    (hlist : (GetWarehouseList.task dateProvider all).respond (quietDatabase choices').answers
      tables = ⟨list, .success⟩) :
    warehouse.Agree dateProvider tables id row detail list ↔
      (row .location = none ∨ row .description = none ∨ row .location = row .description) ∧
        SameItemOrder choices choices' tables .warehouse .warehouseItem .warehouseId
          (GetWarehouseList.options all) GetWarehouseList.itemsOptions id := by
  have hconforms := hintegral.conforms _ row hrow
  obtain ⟨hreadable, rfl⟩ :=
    (GetWarehouse.respond_task hintegral hrow hid dateProvider).mp hdetail
  obtain ⟨rows, hrows, -, -, rfl⟩ :=
    ((GetWarehouseList.listsRows hintegral choices' dateProvider all).success list).mp hlist
  cases Except.ok.inj ((selected_all rfl rfl (by decide) rfl rfl).symm.trans hrows)
  have hkeys : GetWarehouseList.view.keys.Nodup := by decide
  have hidField : { key := warehouse.idColumn.toString, column := warehouse.idColumn } ∈
      GetWarehouseList.view := by decide
  refine (agree_items_iff hintegral rfl (by decide) (by decide) hkeys hidField hrow hid
    (ordered_perm _ _ _) _).trans ?_
  exact and_congr_left' (shared_warehouse_iff hreadable hconforms)

/-- The object of a detail and the entry of a list agree under every key that they share exactly
when what is stored for these keys matches. -/
theorem agree_iff_viewsMatch (choices choices' : Nat → Choices) (dateProvider : DateProvider)
    (entity : Entity) (hrow : row ∈ tables entity.table)
    (hid : row entity.idColumn = some (.integer id.toInt))
    (hdetail : (entity.detailTask dateProvider id).respond (quietDatabase choices).answers tables =
      ⟨detail, .success⟩)
    (hlist : (entity.listTask dateProvider all).respond (quietDatabase choices').answers tables =
      ⟨list, .success⟩) :
    entity.Agree dateProvider tables id row detail list ↔
      entity.ViewsMatch choices choices' tables id row := by
  cases entity with
  | product =>
    exact iff_of_true (agree_product hintegral hrow (decide_eq_true hid) hdetail hlist) trivial
  | warehouse => exact agree_warehouse_iff hintegral hrow (decide_eq_true hid) hdetail hlist
  | invoice => exact agree_invoice_iff hintegral hrow (decide_eq_true hid) hdetail hlist
  | user => exact agree_user_iff hintegral hrow (decide_eq_true hid) hdetail hlist
  | report =>
    exact iff_of_true (agree_report hintegral hrow (decide_eq_true hid) hdetail hlist) trivial

end Responses

/-! ## The first user and a warehouse -/

/-- A warehouse whose location is not its description. -/
def dockWarehouse : TableRow
  | .warehouseId => some (.integer 1)
  | .name => some (.text "main")
  | .prettyName => some (.text "1_main")
  | .description => some (.text "spare parts")
  | .location => some (.text "dock")
  | .createdDate => some (.integer 0)
  | .createdBy => some (.integer 1)
  | _ => none

/-- The first user and this warehouse. -/
def dockTables : Tables
  | .user => [superuser]
  | .warehouse => [dockWarehouse]
  | _ => []

/-- They meet the constraints. -/
theorem dockTables_integral : Integral schema dockTables where
  conforms := by
    intro table row hrow
    cases table <;> simp only [dockTables, List.not_mem_nil, List.mem_singleton] at hrow <;>
      subst hrow <;> decide
  keys_nodup := by
    intro table
    cases table <;> simp [dockTables]

/-- Both tasks show the first user. -/
theorem respond_superuser : ∃ detail list,
    (user.detailTask numericDates 1).respond (quietDatabase fun _ => storedOrder).answers
        dockTables = ⟨detail, .success⟩ ∧
      (user.listTask numericDates all).respond (quietDatabase fun _ => storedOrder).answers
        dockTables = ⟨list, .success⟩ := by
  have hrow : superuser ∈ dockTables .user := List.mem_singleton_self _
  refine ⟨_, _, (GetUser.respond_task dockTables_integral hrow (by decide) numericDates).mpr
    ⟨by decide, rfl⟩, ((GetUserList.listsRows dockTables_integral (fun _ => storedOrder)
      numericDates all).success _).mpr ⟨_, selected_all rfl rfl (by decide) rfl rfl, ?_, ?_, rfl⟩⟩
  · exact List.ne_nil_of_mem ((ordered_perm _ _ _).mem_iff.mpr hrow)
  · intro row hmem
    cases List.mem_singleton.mp ((ordered_perm _ _ _).mem_iff.mp hmem)
    decide

/-- Both tasks show the warehouse. -/
theorem respond_dockWarehouse : ∃ detail list,
    (warehouse.detailTask numericDates 1).respond (quietDatabase fun _ => storedOrder).answers
        dockTables = ⟨detail, .success⟩ ∧
      (warehouse.listTask numericDates all).respond (quietDatabase fun _ => storedOrder).answers
        dockTables = ⟨list, .success⟩ := by
  have hrow : dockWarehouse ∈ dockTables .warehouse := List.mem_singleton_self _
  refine ⟨_, _, (GetWarehouse.respond_task dockTables_integral hrow (by decide) numericDates).mpr
    ⟨by decide, rfl⟩, ((GetWarehouseList.listsRows dockTables_integral (fun _ => storedOrder)
      numericDates all).success _).mpr ⟨_, selected_all rfl rfl (by decide) rfl rfl, ?_, ?_, rfl⟩⟩
  · exact List.ne_nil_of_mem ((ordered_perm _ _ _).mem_iff.mpr hrow)
  · intro row hmem
    cases List.mem_singleton.mp ((ordered_perm _ _ _).mem_iff.mp hmem)
    decide

/-- The first user, by whom the condition decides. -/
theorem agree_iff_viewsMatch_superuser : ∃ detail list,
    (user.detailTask numericDates 1).respond (quietDatabase fun _ => storedOrder).answers
        dockTables = ⟨detail, .success⟩ ∧
      (user.listTask numericDates all).respond (quietDatabase fun _ => storedOrder).answers
        dockTables = ⟨list, .success⟩ ∧
      (user.Agree numericDates dockTables 1 superuser detail list ↔
        user.ViewsMatch (fun _ => storedOrder) (fun _ => storedOrder) dockTables 1 superuser) := by
  obtain ⟨detail, list, hdetail, hlist⟩ := respond_superuser
  exact ⟨detail, list, hdetail, hlist, agree_iff_viewsMatch dockTables_integral
    (fun _ => storedOrder) (fun _ => storedOrder) numericDates user (List.mem_singleton_self _) rfl
    hdetail hlist⟩

/-- The detail shows the login of the first user, and the list the name under the key of the
login. The list shows the location of the warehouse, and the detail the description under the key of
the location. -/
theorem not_agree : Integral schema dockTables ∧ ∀ entity ∈ [user, warehouse],
    ∃ row ∈ dockTables entity.table, row entity.idColumn = some (.integer 1) ∧ ∃ detail list,
      (entity.detailTask numericDates 1).respond (quietDatabase fun _ => storedOrder).answers
          dockTables = ⟨detail, .success⟩ ∧
        (entity.listTask numericDates all).respond (quietDatabase fun _ => storedOrder).answers
          dockTables = ⟨list, .success⟩ ∧
        ¬ entity.Agree numericDates dockTables 1 row detail list := by
  refine ⟨dockTables_integral, fun entity hentity => ?_⟩
  rcases List.mem_pair.mp hentity with rfl | rfl
  · obtain ⟨detail, list, hdetail, hlist⟩ := respond_superuser
    have hrow : superuser ∈ dockTables user.table := List.mem_singleton_self _
    refine ⟨superuser, hrow, rfl, detail, list, hdetail, hlist, fun hagree => ?_⟩
    have hsame := (agree_user_iff dockTables_integral hrow (by decide) hdetail hlist).mp hagree
    exact absurd hsame (by decide)
  · obtain ⟨detail, list, hdetail, hlist⟩ := respond_dockWarehouse
    have hrow : dockWarehouse ∈ dockTables warehouse.table := List.mem_singleton_self _
    refine ⟨dockWarehouse, hrow, rfl, detail, list, hdetail, hlist, fun hagree => ?_⟩
    have hsame :=
      ((agree_warehouse_iff dockTables_integral hrow (by decide) hdetail hlist).mp hagree).1
    exact absurd hsame (by decide)

end Entity

end TaskMgr.Tasks

import WarehouseAccounting.Foundations.MachineIntegers
import WarehouseAccounting.TaskManager.CreatedRows
import WarehouseAccounting.TaskManager.StockRequests
import WarehouseAccounting.TaskManager.Tasks.WriteTasks

/-!
# Warehouses that were created

What `GetWarehouse` shows of a warehouse that `CreateWarehouse` has made.

- `exists_isWarehouse_of_insertQuery`: the row that the statement of `CreateWarehouse` inserts.
- `CreateWarehouse.exists_isWarehouse`: the row of a warehouse that was created, and the response.
- `CreateWarehouse.shows_of_json`, `CreateWarehouse.shows_objectOfItems`: the response and the
  answer of `GetWarehouse` show the same.
- `CreateWarehouse.created_shown`: the members of the response that `GetWarehouse` shows again.
-/

namespace TaskMgr.Tasks

open Ufa Srv.Db Srv.Db.Trsct Srv.Db.Sql Srv.Db.DbMgr.Scpts Relational

variable {choices : Nat → Choices} {clock : Nat} {tables : Tables}

/-! ## The row -/

/-- The row of a warehouse, with any id. -/
structure IsWarehouse (warehouse : Warehouse) (row : TableRow) : Prop where
  name : ∃ name, warehouse.name = some name ∧ row .name = some (.text name)
  description : row .description = warehouse.description.bind storedText
  location : row .location = warehouse.location.bind storedText
  createdDate : row .createdDate = warehouse.createdDate.map fun date => .integer date.toInt
  createdBy : row .createdBy = warehouse.createdBy.map fun user => .integer user.toInt
  prettyName : row .prettyName = prettyName (row .warehouseId) (row .name)

/-- The columns that a new warehouse is given. -/
def warehouseColumns (warehouse : Warehouse) : List Column :=
  [.name, .createdBy, .createdDate] ++ (warehouse.description.map fun _ => .description).toList ++
    (warehouse.location.map fun _ => .location).toList

/-- The parameters of a new warehouse. -/
def warehouseParams (name : String) (createdBy createdDate : Int64) (warehouse : Warehouse) :
    List (Option String) :=
  [parameterOf name, parameterOf (integer createdBy).toString,
    parameterOf (integer createdDate).toString] ++
    (warehouse.description.map parameterOf).toList ++ (warehouse.location.map parameterOf).toList

/-- What the statement of `CreateWarehouse` is made of. -/
theorem Warehouse.insertQuery_eq_ok {warehouse : Warehouse} {query : Query}
    (h : warehouse.insertQuery = .ok query) :
    ∃ name createdBy createdDate, warehouse.name = some name ∧
      warehouse.createdBy = some createdBy ∧ warehouse.createdDate = some createdDate ∧
      query.options = .insert
        { table := .warehouse
          columns := warehouseColumns warehouse
          returning := [.warehouseId, .prettyName]
          valuesCount := 1 } ∧
      query.params.toPqxx = warehouseParams name createdBy createdDate warehouse := by
  unfold insertQuery at h
  obtain ⟨added, hadded, h⟩ := bind_eq_ok.mp h
  unfold insertColumns at hadded
  obtain ⟨name, hname, hadded⟩ := bind_eq_ok.mp hadded
  obtain ⟨user, huser, hadded⟩ := bind_eq_ok.mp hadded
  obtain ⟨date, hdate, hadded⟩ := bind_eq_ok.mp hadded
  have hadded := Except.ok.inj hadded
  rw [required_eq_ok] at hname huser hdate
  subst hadded
  split at h
  · rename_i created hcreated
    cases h
    obtain ⟨-, -, rfl⟩ := QueryFactory.createInsert_eq_ok.mp hcreated
    refine ⟨name, user, date, hname, huser, hdate, ?_, ?_⟩
    all_goals
      unfold appendToQueryOptional
      rcases hdescription : warehouse.description with _ | description <;>
        rcases hlocation : warehouse.location with _ | location <;>
          simp [warehouseColumns, warehouseParams, hdescription, hlocation, ValueCollector.append,
            ValueCollector.toPqxx, parameterOf, Scalar.toString]
  · cases h

/-- The row that the statement of `CreateWarehouse` inserts, and the answer with its id and its
pretty name. -/
theorem exists_isWarehouse_of_insertQuery {warehouse : Warehouse} {query : Query}
    (hquery : warehouse.insertQuery = .ok query) {rows : Rows} {after : Nat × Tables}
    (h : Quiet choices (clock, tables) ⟨query.options, query.params.toPqxx⟩ rows after) :
    ∃ row, IsWarehouse warehouse row ∧ schema.conforms .warehouse row = true ∧
      row .warehouseId = some (.integer ((choices clock).identity .warehouse 0)) ∧
      rows = [project [.warehouseId, .prettyName] row] ∧ after = (clock + 1, fun table =>
        if table = .warehouse then tables table ++ [row] else tables table) := by
  obtain ⟨name, user, date, hname, huser, hdate, hoptions, hparams⟩ :=
    Warehouse.insertQuery_eq_ok hquery
  rw [hoptions, hparams] at h
  have hnodup : (warehouseColumns warehouse).Nodup := by
    unfold warehouseColumns
    cases warehouse.description <;> cases warehouse.location <;> simp
  obtain ⟨row, hinserted, hrows, hafter⟩ :=
    exists_row_of_quiet Table.noConfusion rfl hnodup (List.cons_ne_nil _ _) h
  have htext : ∀ (column : Column) (text : Option String),
      columnType .warehouse column = .ok .text → column ≠ .prettyName → column ≠ .warehouseId →
      (∀ given ∈ text, (column, parameterOf given) ∈
        (warehouseColumns warehouse).zip (warehouseParams name user date warehouse)) →
      (text = none → column ∉ warehouseColumns warehouse) →
        row column = text.bind storedText := by
    intro column text hcolumn hpretty hid hgiven hmissing
    have hidentity : (tableSchema .warehouse).identity ≠ some column :=
      fun heq => hid (Option.some.inj heq).symm
    cases text with
    | none => exact hinserted.unset column (hmissing rfl) hidentity hpretty
    | some text => exact hinserted.text (hgiven text rfl) hcolumn hidentity hpretty
  refine ⟨row, ⟨⟨name, hname, ?_⟩, ?_, ?_, ?_, ?_, ?_⟩, hinserted.conforms,
    hinserted.identity .warehouseId rfl Column.noConfusion, hrows, hafter⟩
  · exact (hinserted.requiredText (.head _) rfl (by simp [tableSchema]) (by decide)
      (by simp [tableSchema])).2
  · refine htext .description _ rfl (by decide) (by decide) (fun given hdescription => ?_)
      fun hdescription => ?_
    · have hdescription : warehouse.description = some given := hdescription
      simp [warehouseColumns, warehouseParams, hdescription]
    · rcases hlocation : warehouse.location with _ | location <;>
        simp [warehouseColumns, hdescription, hlocation]
  · refine htext .location _ rfl (by decide) (by decide) (fun given hlocation => ?_)
      fun hlocation => ?_
    · have hlocation : warehouse.location = some given := hlocation
      rcases hdescription : warehouse.description with _ | description <;>
        simp [warehouseColumns, warehouseParams, hdescription, hlocation]
    · rcases hdescription : warehouse.description with _ | description <;>
        simp [warehouseColumns, hdescription, hlocation]
  · rw [hdate]
    exact hinserted.number (.tail _ (.tail _ (.head _))) rfl (by simp [tableSchema]) (by decide)
  · rw [huser]
    exact hinserted.number (.tail _ (.head _)) rfl (by simp [tableSchema]) (by decide)
  · have hpretty := congrFun hinserted.pretty .prettyName
    exact hpretty

/-! ## The task -/

namespace CreateWarehouse

/-- The warehouse as it is answered: with what the database has made. -/
def answered (warehouse : Warehouse) (id : Int64) (name : String) : Warehouse :=
  { warehouse with
    warehouseId := some id
    prettyName := some (toString id.toInt ++ "_" ++ name) }

/-- What the statement has answered is the id and the pretty name of the row. -/
theorem readInserted_of_row {warehouse : Warehouse} {row : TableRow} {number : Int}
    (hwarehouse : IsWarehouse warehouse row) (hconforms : schema.conforms .warehouse row = true)
    (hid : row .warehouseId = some (.integer number)) :
    ∃ (id : Int64) (name : String), id.toInt = number ∧ warehouse.name = some name ∧
      row .name = some (.text name) ∧
      row .prettyName = some (.text (toString number ++ "_" ++ name)) ∧
      readInserted ⟨warehouse, [project [.warehouseId, .prettyName] row]⟩ =
        .ok (answered warehouse id name) := by
  obtain ⟨name, hname, hstored⟩ := hwarehouse.name
  have htyped : TypedOn [.warehouseId, .prettyName] row := typedOn_of_conforms hconforms (by decide)
  have hread := getInt64_field htyped .warehouseId (by simp) rfl
  have hpretty : row .prettyName = some (.text (toString number ++ "_" ++ name)) := by
    rw [hwarehouse.prettyName, hid, hstored]
    rfl
  have hadmits := htyped .warehouseId (by simp) _ hid
  have hrange : -2 ^ 63 ≤ number ∧ number ≤ 2 ^ 63 - 1 := by
    simpa [columnValues, ColumnType.admits] using hadmits
  have hnumber : (Int64.ofInt number).toInt = number :=
    Int64.toInt_ofInt_of_le hrange.1 (by omega)
  refine ⟨Int64.ofInt number, name, hnumber, hname, hstored, hpretty, ?_⟩
  rw [hid] at hread
  unfold readInserted answered
  simp only [Rows.at, project, fieldAt, List.map_cons, List.map_nil, List.getElem?_cons_zero,
    List.getElem?_cons_succ, hid, hread, hpretty, ok_bind, getString, hnumber]
  rfl

/-- After a created warehouse there is its row, with the id of the response. -/
theorem exists_isWarehouse {task : CreateWarehouse} {dateProvider : DateProvider} {response : Json}
    (h : (task.transactionTask dateProvider).respond (quietDatabase choices).answers tables =
      ⟨response, .success⟩) :
    let stored := { task.warehouse with
      createdDate := some (dateProvider.getTimestamp 0).toInt64 }
    ∃ (id : Int64) (name : String) (row : TableRow), IsWarehouse stored row ∧
      row .warehouseId = some (.integer id.toInt) ∧ row .name = some (.text name) ∧
      row .prettyName = some (.text (toString id.toInt ++ "_" ++ name)) ∧
      json dateProvider (answered stored id name) = .ok response ∧
      (task.transactionTask dateProvider).leaves (quietDatabase choices).answers tables =
        fun table => if table = .warehouse then tables table ++ [row] else tables table := by
  intro stored
  obtain ⟨entry, before, after, memory, hchain, hruns, hfinished, hleaves⟩ :=
    TransactionTask.exists_runsTo rfl
      (fun exception _ json => finishDone_result_ne_success exception _ json) h
  obtain ⟨query, hquery, hchain⟩ := bind_eq_ok.mp hchain
  cases hchain
  obtain ⟨rows, middle, hquiet, hnull⟩ := Entry.runsTo_query.mp hruns
  obtain ⟨rfl, rfl⟩ := Entry.runsTo_null.mp hnull
  obtain ⟨row, hwarehouse, hconforms, hid, rfl, rfl⟩ :=
    exists_isWarehouse_of_insertQuery hquery hquiet
  obtain ⟨id, name, hnumber, -, hname, hpretty, hread⟩ :=
    readInserted_of_row hwarehouse hconforms hid
  rw [← hnumber] at hid hpretty
  refine ⟨id, name, row, hwarehouse, hid, hname, hpretty, ?_, hleaves⟩
  have hanswered := finishDone_eq_ok.mp hfinished
  dsimp only at hanswered
  rw [hread, ok_bind] at hanswered
  exact hanswered

/-- A number of eight bytes reads the same with a sign when it is below half of the range. -/
theorem toInt64_nonneg_iff (value : UInt64) :
    0 ≤ value.toInt64.toInt ↔ value.toNat < 2 ^ 63 := by
  have hlt := value.toNat_lt
  rw [MachineIntegers.toInt_toInt64]
  split <;> omega

/-- Then it is read back. -/
theorem ofNat_toNat_toInt64 {value : UInt64} (h : 0 ≤ value.toInt64.toInt) :
    UInt64.ofNat value.toInt64.toInt.toNat = value := by
  have hsmall := (toInt64_nonneg_iff value).mp h
  rw [MachineIntegers.toInt_toInt64, if_pos (by omega), Int.toNat_natCast, UInt64.ofNat_toNat]

/-- A warehouse can be shown when its time and its creator are not negative. -/
theorem readable_iff {row : TableRow} {id date user : Int} {name pretty : String}
    (hid : row .warehouseId = some (.integer id)) (hname : row .name = some (.text name))
    (hpretty : row .prettyName = some (.text pretty))
    (hdate : row .createdDate = some (.integer date))
    (huser : row .createdBy = some (.integer user)) :
    GetWarehouse.view.readable row = true ↔ 0 ≤ date ∧ 0 ≤ user := by
  simp only [View.readable, GetWarehouse.view, ViewField.readable, hid, hname, hpretty, hdate,
    huser, List.all_cons, List.all_nil, Encoding.all_readable_plain]
  simp only [Encoding.readable, Option.all_some, numberOf_integer, Option.isSome_some, Bool.or_true,
    Bool.true_and, Bool.and_true, Bool.not_false, Bool.not_true, Bool.true_or, Bool.and_eq_true]
  exact and_congr decide_eq_true_iff decide_eq_true_iff

/-! ## The objects -/

/-- What the response and `GetWarehouse` show alike. -/
structure Shows (dateProvider : DateProvider) (id : Int64) (text : String) (date user : UInt64)
    (object : Json) : Prop where
  warehouseId : object.member "warehouse_id" = some (.integer id)
  name : object.member "name" = some (.string text)
  prettyName : object.member "pretty_name" = some (.string (toString id.toInt ++ "_" ++ text))
  createdDate : object.member "created_date" = some (dateProvider.json date)
  createdBy : object.member "created_by" = some (.integer user.toInt64)

/-- Two such objects have the same members. -/
theorem Shows.member_eq {dateProvider : DateProvider} {id : Int64} {name : String}
    {date user : UInt64} {object other : Json}
    (h : Shows dateProvider id name date user object)
    (hother : Shows dateProvider id name date user other) :
    ∀ key ∈ ["warehouse_id", "name", "pretty_name", "created_date", "created_by"],
      (object.member key).isSome = true ∧ other.member key = object.member key := by
  intro key hkey
  simp only [List.mem_cons, List.not_mem_nil, or_false] at hkey
  rcases hkey with rfl | rfl | rfl | rfl | rfl
  · rw [h.warehouseId, hother.warehouseId]
    exact ⟨rfl, rfl⟩
  · rw [h.name, hother.name]
    exact ⟨rfl, rfl⟩
  · rw [h.prettyName, hother.prettyName]
    exact ⟨rfl, rfl⟩
  · rw [h.createdDate, hother.createdDate]
    exact ⟨rfl, rfl⟩
  · rw [h.createdBy, hother.createdBy]
    exact ⟨rfl, rfl⟩

/-- The response shows the warehouse, with its description. -/
theorem shows_of_json {dateProvider : DateProvider} {warehouse : Warehouse} {id : Int64}
    {name : String} {date user : UInt64} (hname : warehouse.name = some name)
    (hdate : warehouse.createdDate = some date.toInt64)
    (huser : warehouse.createdBy = some user.toInt64) {response : Json}
    (h : json dateProvider (answered warehouse id name) = .ok response) :
    Shows dateProvider id name date user response ∧
      response.member "description" = warehouse.description.map .string := by
  simp only [json, answered, hname, hdate, huser, required_some, ok_bind] at h
  obtain rfl := Except.ok.inj h
  refine ⟨⟨?_, ?_, ?_, ?_, ?_⟩, ?_⟩ <;> exact lookup_putAll (by simp) _

/-- The object of the row shows it, too, when its time and its creator are not negative. In the
place of the location stands the description. -/
theorem shows_objectOfItems {row : TableRow} {id : Int64} {name : String}
    {date user : UInt64} (hid : row .warehouseId = some (.integer id.toInt))
    (hname : row .name = some (.text name))
    (hpretty : row .prettyName = some (.text (toString id.toInt ++ "_" ++ name)))
    (hdate : row .createdDate = some (.integer date.toInt64.toInt))
    (huser : row .createdBy = some (.integer user.toInt64.toInt))
    (hdateSmall : 0 ≤ date.toInt64.toInt) (huserSmall : 0 ≤ user.toInt64.toInt)
    (dateProvider : DateProvider) (items : List TableRow) :
    let object := GetWarehouse.view.objectOfItems dateProvider "warehouse_id" .warehouseId items row
    Shows dateProvider id name date user object ∧
      object.member "description" = (row .description).map (Encoding.plain.json dateProvider) ∧
      object.member "location" = object.member "description" ∧
      object.member "items" =
        some (.array (items.map (itemObject "warehouse_id" .warehouseId))) := by
  intro object
  let shown := GetWarehouse.view.puts dateProvider row ++
    [("items", some (.array (items.map (itemObject "warehouse_id" .warehouseId))))]
  have hlookup : ∀ key, object.member key = (shown.lookup key).join :=
    lookup_putAll (by simp [View.puts, GetWarehouse.view, ViewField.put])
  refine ⟨⟨?_, ?_, ?_, ?_, ?_⟩, hlookup "description",
    (hlookup "location").trans (hlookup "description").symm, hlookup "items"⟩
  · refine (hlookup "warehouse_id").trans ?_
    show (row .warehouseId).map (Encoding.plain.json dateProvider) = _
    rw [hid, Option.map_some, Encoding.json, Int64.ofInt_toInt]
  · refine (hlookup "name").trans ?_
    show (row .name).map (Encoding.plain.json dateProvider) = _
    rw [hname]
    rfl
  · refine (hlookup "pretty_name").trans ?_
    show (row .prettyName).map (Encoding.plain.json dateProvider) = _
    rw [hpretty]
    rfl
  · refine (hlookup "created_date").trans ?_
    show (row .createdDate).map (Encoding.time.json dateProvider) = _
    rw [hdate, Option.map_some, Encoding.json, numberOf_integer, ofNat_toNat_toInt64 hdateSmall]
  · refine (hlookup "created_by").trans ?_
    show (row .createdBy).map (Encoding.signedUser.json dateProvider) = _
    rw [huser, Option.map_some, Encoding.json, numberOf_integer, ofNat_toNat_toInt64 huserSmall]

/-- What `GetWarehouse` shows of a warehouse that was created: what the response has shown, but for
the location, in whose place it shows the description, and for a description that was stored as
null. It shows nothing if the id of the creator or the time does not fit into a number with a sign.
-/
theorem created_shown {body : WarehouseBody} {initiativeUserId : UInt64} {task : CreateWarehouse}
    (hparse : parse initiativeUserId body = .ok task) {dateProvider : DateProvider}
    {response : Json}
    (hcreated : (task.transactionTask dateProvider).respond (quietDatabase choices).answers tables =
      ⟨response, .success⟩) {later : Tables}
    (hkept : ∀ id : Int64, response.member "warehouse_id" = some (.integer id) →
      ∀ row ∈ (task.transactionTask dateProvider).leaves (quietDatabase choices).answers
        tables .warehouse, row .warehouseId = some (.integer id.toInt) → row ∈ later .warehouse)
    (hintegral : Integral schema later) :
    ∃ id, response.member "warehouse_id" = some (.integer id) ∧ ∀ choices : Nat → Choices,
      let answer := (GetWarehouse.task dateProvider id).respond (quietDatabase choices).answers
        later
      (answer.result = .success ↔
        initiativeUserId.toNat < 2 ^ 63 ∧ (dateProvider.getTimestamp 0).toNat < 2 ^ 63) ∧
      (answer.result = .success → ∃ object, answer.response = resultJson object ∧
        (∀ key ∈ ["warehouse_id", "name", "pretty_name", "created_date", "created_by"],
          (response.member key).isSome = true ∧ object.member key = response.member key) ∧
        object.member "description" =
          (if body.description = some "NULL" then none else response.member "description") ∧
        object.member "location" = object.member "description" ∧
        object.member "items" = some (.array ((rowsOfId (choices 0) later .warehouseItem
          .warehouseId id).map (itemObject "warehouse_id" .warehouseId)))) := by
  obtain ⟨id, name, row, hwarehouse, hid, hname, hpretty, hjson, hleaves⟩ :=
    exists_isWarehouse hcreated
  have hhasId : hasId .warehouseId id row = true := by
    rw [hasId, hid, decide_eq_true_eq]
  obtain ⟨bodyName, hbodyName, htask⟩ := bind_eq_ok.mp hparse
  obtain rfl := Except.ok.inj htask
  obtain ⟨storedName, hstoredName, hsameName⟩ := hwarehouse.name
  obtain rfl : bodyName = storedName := Option.some.inj hstoredName
  obtain rfl : bodyName = name := by
    rw [hname] at hsameName
    cases hsameName
    rfl
  have hdate : row .createdDate =
    some (.integer (dateProvider.getTimestamp 0).toInt64.toInt) := hwarehouse.createdDate
  have huser : row .createdBy = some (.integer initiativeUserId.toInt64.toInt) :=
    hwarehouse.createdBy
  have hreadable : GetWarehouse.view.readable row = true ↔
      initiativeUserId.toNat < 2 ^ 63 ∧ (dateProvider.getTimestamp 0).toNat < 2 ^ 63 := by
    rw [← toInt64_nonneg_iff, ← toInt64_nonneg_iff]
    rw [readable_iff hid hname hpretty hdate huser, and_comm]
  obtain ⟨hshows, hdescription⟩ : Shows dateProvider id bodyName (dateProvider.getTimestamp 0)
      initiativeUserId response ∧ _ := shows_of_json rfl rfl rfl hjson
  have hrow : row ∈ later .warehouse := by
    refine hkept id hshows.warehouseId row ?_ hid
    rw [hleaves]
    exact List.mem_append_right _ List.mem_cons_self
  refine ⟨id, hshows.warehouseId, fun choices => ?_⟩
  have hrespond : ∀ response, (GetWarehouse.task dateProvider id).respond
      (quietDatabase choices).answers later = ⟨response, .success⟩ ↔ _ :=
    fun response => GetWarehouse.respond_task hintegral hrow hhasId dateProvider
  dsimp only
  constructor
  · rw [← hreadable]
    constructor
    · intro hsuccess
      exact ((hrespond _).mp (eq_mk_of_result hsuccess)).1
    · intro hshown
      rw [(hrespond _).mpr ⟨hshown, rfl⟩]
  · intro hsuccess
    obtain ⟨hshown, hresponse⟩ := (hrespond _).mp (eq_mk_of_result hsuccess)
    obtain ⟨huserSmall, hdateSmall⟩ := hreadable.mp hshown
    rw [← toInt64_nonneg_iff] at huserSmall hdateSmall
    obtain ⟨hobject, hstored, hlocation, hitems⟩ := shows_objectOfItems hid hname hpretty hdate
      huser hdateSmall huserSmall dateProvider
      (rowsOfId (choices 0) later .warehouseItem .warehouseId id)
    refine ⟨_, hresponse, hshows.member_eq hobject, ?_, hlocation, hitems⟩
    rw [hstored, hwarehouse.description, map_json_bind_storedText, hdescription]

/-- A warehouse without a description, at a place. -/
def hall : WarehouseBody where
  name := some "Hall"
  location := some "North"

/-- The request that creates it, of the first user. -/
def hallTask : TransactionTask :=
  (CreateWarehouse.mk { name := hall.name, location := hall.location, createdBy := some 1 }
    []).transactionTask numericDates

/-- The database that it is created in. -/
def hallDatabase : Database Tables :=
  quietDatabase fun _ => numbered initialTables

/-- The warehouse is shown without its location. -/
theorem created_shown_hall :
    ∃ id object, (hallTask.respond hallDatabase.answers initialTables).response.member
        "warehouse_id" = some (.integer id) ∧
      ((GetWarehouse.task numericDates id).respond hallDatabase.answers
        (hallTask.leaves hallDatabase.answers initialTables)).response = resultJson object ∧
      object.member "location" = object.member "description" ∧
      object.member "description" =
        (hallTask.respond hallDatabase.answers initialTables).response.member "description" := by
  have hsuccess : (hallTask.respond hallDatabase.answers initialTables).result = .success := by
    decide +kernel
  have hintegral : Integral schema (hallTask.leaves hallDatabase.answers initialTables) := by
    refine integral_of_filled [.user, .warehouse] (fun table htable => ?_) (by decide +kernel)
      (by decide +kernel)
    cases table <;> first | rfl | exact absurd (by decide) htable
  obtain ⟨id, hid, hshown⟩ :=
    @created_shown (fun _ => numbered initialTables) initialTables hall 1 _ rfl
    numericDates _ (eq_mk_of_result hsuccess) _ (fun _ _ _ hrow _ => hrow) hintegral
  obtain ⟨hiff, hobject⟩ := hshown fun _ => numbered initialTables
  obtain ⟨object, hresponse, -, hdescription, hlocation, -⟩ :=
    hobject (hiff.mpr ⟨by decide, by decide⟩)
  exact ⟨id, object, hid, hresponse, hlocation, hdescription⟩

end CreateWarehouse

end TaskMgr.Tasks

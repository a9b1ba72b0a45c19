import WarehouseAccounting.TaskManager.Credentials
import WarehouseAccounting.TaskManager.Details

/-!
# Rows that tasks create

What an accepted insertion of one row leaves, field by field, and the rows of new users.

- `exists_row_of_execute`: the one row that an insertion has added, and what it answers.
- `CreateUser.exists_isUser`: the row of a user who was created, and his id in the response.
-/

namespace TaskMgr.Tasks

open Ufa Srv.Db Srv.Db.Trsct Srv.Db.Sql Srv.Db.DbMgr.Scpts Srv.Auth Relational

variable {choices : Nat → Choices} {clock : Nat} {tables : Tables}

/-! ## Insertions -/

/-- A row that was inserted with some parameters: it has the next number of its table and the values
of the parameters, and meets the constraints. -/
structure IsInserted (choices : Choices) (options : InsertOptions) (params : List (Option String))
    (row : TableRow) : Prop where
  conforms : schema.conforms options.table row = true
  identity : ∀ column, (tableSchema options.table).identity = some column → column ≠ .prettyName →
    row column = some (.integer (choices.identity options.table 0))
  value : ∀ column param, (column, param) ∈ options.columns.zip params →
    (tableSchema options.table).identity ≠ some column → column ≠ .prettyName →
      ∃ type, columnType options.table column = .ok type ∧ bindValue type param = .ok (row column)
  unset : ∀ column, column ∉ options.columns →
    (tableSchema options.table).identity ≠ some column → column ≠ .prettyName → row column = none
  pretty : row = fillPrettyName options.table row

/-- The pretty name is made once. -/
theorem fillPrettyName_fillPrettyName (table : Table) (row : TableRow) :
    fillPrettyName table (fillPrettyName table row) = fillPrettyName table row := by
  funext column
  cases table <;> simp only [fillPrettyName] <;> split <;> simp

/-- Only the pretty name is made. -/
theorem fillPrettyName_of_ne (table : Table) (row : TableRow) {column : Column}
    (h : column ≠ .prettyName) : fillPrettyName table row column = row column := by
  cases table <;> simp [fillPrettyName, h]

/-- An insertion of one row adds a row, and answers what is returned of it. -/
theorem exists_row_of_execute {choices : Choices} {options : InsertOptions}
    {params : List (Option String)} (htable : options.table ≠ .invoiceItem)
    (hcount : options.valuesCount = 1) (hnodup : options.columns.Nodup)
    (hreturning : options.returning ≠ []) {rows : Rows} {writes : List (Write Table Column)}
    (h : execute choices ⟨.insert options, params⟩ tables = .ok (rows, writes)) :
    ∃ row, IsInserted choices options params row ∧ rows = [project options.returning row] ∧
      writes = [.insert options.table row] := by
  obtain ⟨hperform, haccepts⟩ := execute_eq_ok.mp h
  have hinsert : Sql.insert choices options params tables = .ok (rows, writes) := hperform
  obtain ⟨-, values, hvalues, hrows, hwrites⟩ := insert_eq_ok.mp hinsert
  rw [hcount] at hvalues
  obtain ⟨fields, hfields, rfl⟩ := bindRows_one hvalues
  rw [triggeredRows_of_ne htable, List.map_nil, List.append_nil] at hwrites
  let row := insertedRow choices options.table options.columns 0 fields
  have hwrote : writes = [.insert options.table row] := hwrites
  refine ⟨row, ⟨?_, ?_, ?_, ?_, ?_⟩, ?_, hwrote⟩
  · -- The row has passed its checks.
    rw [hwrote, accepts, checkAll, Write.check] at haccepts
    simp only [Bool.and_eq_true] at haccepts
    exact haccepts.1.1.1.1
  · intro column hidentity hpretty
    show fillPrettyName _ _ column = _
    rw [fillPrettyName_of_ne _ _ hpretty, if_pos hidentity]
  · intro column param hmem hidentity hpretty
    obtain ⟨type, field, htype, hfield, hassigned⟩ := assigned_of_mem hfields hnodup hmem
    refine ⟨type, htype, hfield.trans (congrArg Except.ok ?_)⟩
    show _ = fillPrettyName _ _ column
    rw [fillPrettyName_of_ne _ _ hpretty, if_neg hidentity, hassigned, Option.join_some]
  · intro column hcolumn hidentity hpretty
    show fillPrettyName _ _ column = _
    have hnone : assigned options.columns fields column = none := by
      rw [assigned, List.lookup_eq_none_iff]
      intro pair hpair
      refine bne_iff_ne.mpr fun heq => hcolumn ?_
      rw [heq]
      exact (List.of_mem_zip hpair).1
    rw [fillPrettyName_of_ne _ _ hpretty, if_neg hidentity, hnone]
    rfl
  · exact (fillPrettyName_fillPrettyName _ _).symm
  · rw [hrows, if_neg (by simpa using hreturning)]
    rfl

/-- So it is while nothing disturbs the transaction. -/
theorem exists_row_of_quiet {options : InsertOptions} {params : List (Option String)}
    (htable : options.table ≠ .invoiceItem) (hcount : options.valuesCount = 1)
    (hnodup : options.columns.Nodup) (hreturning : options.returning ≠ []) {rows : Rows}
    {after : Nat × Tables}
    (h : Quiet choices (clock, tables) ⟨.insert options, params⟩ rows after) :
    ∃ row, IsInserted (choices clock) options params row ∧
      rows = [project options.returning row] ∧
      after = (clock + 1, fun table =>
        if table = options.table then tables table ++ [row] else tables table) := by
  obtain ⟨writes, hperform, haccepts, hafter⟩ := quiet_insert_iff.mp h
  obtain ⟨row, hrow, hrows, rfl⟩ := exists_row_of_execute htable hcount hnodup hreturning
    (execute_eq_ok.mpr ⟨hperform, haccepts⟩)
  refine ⟨row, hrow, hrows, ?_⟩
  rw [hafter]
  exact congrArg (Prod.mk _) (funext (applyAll_insert options.table [row] tables))

namespace IsInserted

variable {options : InsertOptions} {params : List (Option String)} {row : TableRow}
  {choices : Choices}

/-- A text that was inserted. -/
theorem text (h : IsInserted choices options params row) {column : Column} {text : String}
    (hmem : (column, parameterOf text) ∈ options.columns.zip params)
    (htype : columnType options.table column = .ok .text)
    (hidentity : (tableSchema options.table).identity ≠ some column)
    (hpretty : column ≠ .prettyName) : row column = storedText text := by
  obtain ⟨type, htype', hbound⟩ := h.value column _ hmem hidentity hpretty
  cases htype'.symm.trans htype
  rw [bindValue_text] at hbound
  exact (Except.ok.inj hbound).symm

/-- A text that was inserted where there must be one. -/
theorem requiredText (h : IsInserted choices options params row) {column : Column}
    {text : String} (hmem : (column, parameterOf text) ∈ options.columns.zip params)
    (htype : columnType options.table column = .ok .text)
    (hidentity : (tableSchema options.table).identity ≠ some column)
    (hpretty : column ≠ .prettyName)
    (hrequired : column ∈ (tableSchema options.table).notNull) :
    text ≠ "NULL" ∧ row column = some (.text text) := by
  have hstored := h.text hmem htype hidentity hpretty
  have hsome := isSome_of_conforms h.conforms hrequired
  rw [hstored] at hsome ⊢
  have hne := isSome_storedText.mp hsome
  exact ⟨hne, storedText_of_ne hne⟩

/-- A number that was inserted. -/
theorem number (h : IsInserted choices options params row) {column : Column} {value : Int}
    (hmem : (column, parameterOf (Scalar.integer value).toString) ∈ options.columns.zip params)
    (htype : columnType options.table column = .ok .int8)
    (hidentity : (tableSchema options.table).identity ≠ some column)
    (hpretty : column ≠ .prettyName) : row column = some (.integer value) := by
  obtain ⟨type, htype', hbound⟩ := h.value column _ hmem hidentity hpretty
  cases htype'.symm.trans htype
  rw [parameterOf, if_neg (Scalar.integer_ne_null value)] at hbound
  have hbound : bindValue .int8 (some (toString value)) = .ok (row column) := hbound
  rw [bindValue, ColumnType.parse_toString] at hbound
  split at hbound
  · rename_i stored hstored
    split at hstored
    · cases hstored
      exact (Except.ok.inj hbound).symm
    · cases hstored
  · cases hbound

end IsInserted

/-- A database with rows in some tables only, where these meet the constraints. -/
theorem integral_of_filled (filled : List Table)
    (hothers : ∀ table, table ∉ filled → tables table = [])
    (hconforms : ∀ table ∈ filled, ∀ row ∈ tables table, schema.conforms table row = true)
    (hkeys : ∀ table ∈ filled, ((tables table).map (schema.keyOf table)).Nodup) :
    Integral schema tables where
  conforms table row hrow := by
    by_cases htable : table ∈ filled
    · exact hconforms table htable row hrow
    · rw [hothers table htable] at hrow
      cases hrow
  keys_nodup table := by
    by_cases htable : table ∈ filled
    · exact hkeys table htable
    · rw [hothers table htable]
      exact List.nodup_nil

/-- A text that was stored is shown, unless it was stored as null. -/
theorem map_json_bind_storedText (dateProvider : DateProvider) (text : Option String) :
    (text.bind storedText).map (Encoding.plain.json dateProvider) =
      if text = some "NULL" then none else text.map .string := by
  split
  · rename_i hnull
    rw [hnull]
    rfl
  · rename_i hnull
    rw [bind_storedText_of_ne hnull, Option.map_map]
    rfl

/-! ## Users -/

/-- The row of a user, with any id. -/
structure IsUser (userInfo : UserInfo) (row : TableRow) : Prop where
  login : userInfo.login ≠ "NULL" ∧ row .login = some (.text userInfo.login)
  passwordHashed : userInfo.passwordHashed ≠ "NULL" ∧
    row .passwordHashed = some (.text userInfo.passwordHashed)
  name : row .name = storedText userInfo.name
  createdDate : row .createdDate = some (.integer userInfo.createdDate.toNat)
  createdBy : row .createdBy = userInfo.createdBy.map fun createdBy => .integer createdBy.toNat

/-- The user that is inserted is the one that was given, with the time, and is complete. -/
theorem checkUser_eq_ok {timestamp : UInt64} {userInfo checked : UserInfo}
    (h : checkUser timestamp userInfo = .ok checked) :
    checked = { userInfo with createdDate := timestamp } ∧ userInfo.login ≠ "" ∧
      userInfo.passwordHashed ≠ "" ∧ userInfo.createdBy.isSome = true := by
  unfold checkUser at h
  dsimp only at h
  split at h
  · cases h
  · rename_i hcomplete
    cases h
    simp only [Bool.or_eq_true, not_or, Bool.not_eq_true, String.isEmpty_eq_false_iff] at hcomplete
    obtain ⟨⟨⟨hlogin, -⟩, hpassword⟩, hcreatedBy⟩ := hcomplete
    refine ⟨rfl, hlogin, hpassword, ?_⟩
    rw [← Option.not_isNone, hcreatedBy]
    rfl

/-- The columns that a new user is given. -/
def userColumns : List Column := [.name, .passwordHashed, .login, .createdDate, .createdBy]

/-- The row that the statement of `CreateUser` inserts, and the answer with its id. -/
theorem exists_isUser_of_insertUser {userInfo : UserInfo} {query : Query}
    (hquery : insertUser userInfo = .ok query) {rows : Rows} {after : Nat × Tables}
    (h : Quiet choices (clock, tables) ⟨query.options, query.params.toPqxx⟩ rows after) :
    ∃ row, IsUser userInfo row ∧ schema.conforms .user row = true ∧
      row .userId = some (.integer ((choices clock).identity .user 0)) ∧
      rows = [project [.userId] row] ∧ after = (clock + 1, fun table =>
        if table = .user then tables table ++ [row] else tables table) := by
  unfold insertUser at hquery
  obtain ⟨createdBy, hcreatedBy, hquery⟩ := bind_eq_ok.mp hquery
  have hcreator : userInfo.createdBy = some createdBy := required_eq_ok.mp hcreatedBy
  dsimp only at hquery
  split at hquery
  · rename_i created hcreated
    cases hquery
    obtain ⟨-, -, rfl⟩ := QueryFactory.createInsert_eq_ok.mp hcreated
    have hnodup : userColumns.Nodup := by decide
    obtain ⟨row, hrow, hrows, hafter⟩ :=
      exists_row_of_quiet Table.noConfusion rfl hnodup (List.cons_ne_nil _ _) h
    have hinserted : IsInserted (choices clock)
        { table := .user, columns := userColumns, returning := [.userId], valuesCount := 1 }
        [parameterOf userInfo.name, parameterOf userInfo.passwordHashed,
          parameterOf userInfo.login, parameterOf (unsigned userInfo.createdDate).toString,
          parameterOf (unsigned createdBy).toString] row := hrow
    refine ⟨row, ⟨?_, ?_, ?_, ?_, ?_⟩, hinserted.conforms,
      hinserted.identity .userId rfl Column.noConfusion, hrows, hafter⟩
    · exact hinserted.requiredText (.tail _ (.tail _ (.head _))) rfl (by decide) (by decide)
        (by decide)
    · exact hinserted.requiredText (.tail _ (.head _)) rfl (by decide) (by decide) (by decide)
    · exact hinserted.text (.head _) rfl (by decide) (by decide)
    · exact hinserted.number (.tail _ (.tail _ (.tail _ (.head _)))) rfl (by decide) (by decide)
    · rw [hcreator]
      exact hinserted.number (.tail _ (.tail _ (.tail _ (.tail _ (.head _))))) rfl (by decide)
        (by decide)
  · cases hquery

/-- What the statement of `CreateUser` has answered is the id of the row. -/
theorem createdUser_of_row {userInfo created : UserInfo} {row : TableRow} {id : Int}
    (hconforms : schema.conforms .user row = true) (hid : row .userId = some (.integer id))
    {result : Result}
    (h : createdUser .success [project [.userId] row] userInfo = .ok (result, created)) :
    result = .success ∧ created = { userInfo with id := some (Int64.ofInt id).toUInt64 } := by
  have htyped : TypedOn [.userId] row := typedOn_of_conforms hconforms (by decide)
  have hread := getInt64_field htyped .userId (by simp) rfl
  rw [hid] at hread
  rw [createdUser, if_pos rfl] at h
  obtain ⟨read, hat, h⟩ := bind_eq_ok.mp h
  have hfield : Rows.at [project [.userId] row] 0 0 = .ok ((row .userId).map Value.toText) := rfl
  cases hfield.symm.trans hat
  obtain ⟨number, hnumber, h⟩ := bind_eq_ok.mp h
  rw [hid] at hnumber
  cases hread.symm.trans hnumber
  cases h
  exact ⟨rfl, rfl⟩

/-- After a created user there is his row, with the id of the response. -/
theorem CreateUser.exists_isUser {dateProvider : DateProvider} {userInfo : UserInfo}
    {response : Json}
    (h : (CreateUser.task dateProvider userInfo).respond (quietDatabase choices).answers tables =
      ⟨response, .success⟩) :
    let stored := { userInfo with createdDate := dateProvider.getTimestamp 0 }
    checkUser (dateProvider.getTimestamp 0) userInfo = .ok stored ∧
      ∃ id row, IsUser stored row ∧ schema.conforms .user row = true ∧ 0 < id ∧
        row .userId = some (.integer id) ∧
        CreateUser.json dateProvider { stored with id := some (Int64.ofInt id).toUInt64 } =
          .ok response ∧
        (CreateUser.task dateProvider userInfo).leaves (quietDatabase choices).answers tables =
          fun table => if table = .user then tables table ++ [row] else tables table := by
  rcases hcheck : checkUser (dateProvider.getTimestamp 0) userInfo with code | checked
  · -- A user that is not complete is refused.
    have hprepare : (task dateProvider userInfo).prepare = .error code := by
      simp only [task, hcheck]
    have hcode : code = .wrongFormat := by
      unfold checkUser at hcheck
      dsimp only at hcheck
      split at hcheck
      · exact (Except.error.inj hcheck).symm
      · cases hcheck
    rw [TransactionTask.respond, hprepare] at h
    have hresult := congrArg Callback.result h
    rw [BaseTask.execute_ok, hcode] at hresult
    cases hresult
  · obtain ⟨hchecked, -⟩ := checkUser_eq_ok hcheck
    rcases hquery : insertUser checked with exception | query
    · have hprepare : (task dateProvider userInfo).prepare = .error .error := by
        simp only [task, hcheck, hquery]
        rfl
      rw [TransactionTask.respond, hprepare] at h
      cases congrArg Callback.result h
    · have hprepare : (task dateProvider userInfo).prepare =
          .ok (.query query.options query.params
            (fun results task => { task with results }) .null, ⟨checked, []⟩) := by
        simp only [task, hcheck, hquery]
        rfl
      have hfinish : ∀ (exception : Exception) memory json,
          (task dateProvider userInfo).finish exception.result memory ≠ .ok (.success, json) := by
        intro exception memory json hok
        have hcode := exception.result_ne_success
        have hfinished : (task dateProvider userInfo).finish exception.result memory =
            .ok (exception.result, .null) := by
          simp only [task, createdUser, if_neg hcode, finishDone]
          exact if_neg hcode
        rw [hfinished] at hok
        exact hcode (congrArg Prod.fst (Except.ok.inj hok))
      obtain ⟨after, memory, hruns, hfinished⟩ :=
        (TransactionTask.respond_eq_success hprepare hfinish).mp h
      obtain ⟨rows, middle, hquiet, hnull⟩ := Entry.runsTo_query.mp hruns
      obtain ⟨rfl, rfl⟩ := Entry.runsTo_null.mp hnull
      obtain ⟨row, huser, hconforms, hid, rfl, rfl⟩ := exists_isUser_of_insertUser hquery hquiet
      have hleaves := TransactionTask.leaves_of_runsTo hprepare hruns
      subst hchecked
      refine ⟨rfl, _, row, huser, hconforms, (choices 0).identity_pos .user 0, hid, ?_, hleaves⟩
      obtain ⟨⟨result, created⟩, hcreated, hjson⟩ := bind_eq_ok.mp hfinished
      obtain ⟨rfl, rfl⟩ := createdUser_of_row hconforms hid hcreated
      exact finishDone_eq_ok.mp hjson

end TaskMgr.Tasks

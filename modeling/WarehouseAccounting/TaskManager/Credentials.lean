import WarehouseAccounting.TaskManager.CreationStatements
import WarehouseAccounting.TaskManager.Listings
import WarehouseAccounting.TaskManager.Tasks.ProductsBodies
import WarehouseAccounting.TaskManager.Tasks.UserTasks
import WarehouseAccounting.Utilities.Hash

/-!
# Passwords

The passwords of `CreateUser` and `Authorization`, from the bodies of the requests to the rows of
the users: both tasks work on the text of the digest.

- `CreateUser.exists_row`: a created user is stored with the text that was hashed.
- `Authorization.exists_row`: who is authorised has a row with the text that was hashed.
- `hash_eq_of_authorised`: a user is not authorised with another text than the stored one.
- `toldApart_iff`: two passwords are told apart exactly when their digests are not confused.
-/

namespace TaskMgr.Tasks

open Ufa Srv.Db Srv.Db.Trsct Srv.Db.Sql Srv.Db.DbMgr.Scpts Srv.Auth Relational Util.Hash

/-! ## Bodies -/

/-- The hashed password of a body. -/
def readPassword (hash : String → List UInt8) (json : Json) : Except Exception String := do
  match hashToBase64 hash (← Json.get Json.getString json "password") with
  | .ok text => return text
  | .error _ => throw .other

/-- `Authorization::ParseInternal`: the login, and the hashed password. -/
def Authorization.parseInternal (hash : String → List UInt8) (json : Json) :
    Except Exception (String × String) := do
  let login ← Json.get Json.getString json "login"
  let hashPassword ← readPassword hash json
  return (login, hashPassword)

/-- `CreateUser::ParseInternal`. -/
def CreateUser.parseInternal (hash : String → List UInt8) (initiativeUserId : UInt64)
    (json : Json) : Except Exception UserInfo := do
  let login ← Json.get Json.getString json "login"
  let name ← Json.get Json.getString json "name"
  let passwordHashed ← readPassword hash json
  return { login, name, passwordHashed, createdBy := some initiativeUserId }

/-- The password of a body is hashed. -/
theorem readPassword_eq_ok {hash : String → List UInt8} {json : Json} {password text : String}
    (hpassword : json.member "password" = some (.string password))
    (h : readPassword hash json = .ok text) : hashToBase64 hash password = .ok text := by
  have hget : Json.get Json.getString json "password" = .ok password :=
    Json.get_eq_ok.mpr (by rw [hpassword]; rfl)
  unfold readPassword at h
  rw [hget, ok_bind] at h
  rcases htext : hashToBase64 hash password with failure | text'
  · rw [htext] at h
    cases h
  · rw [htext] at h
    cases h
    rfl

/-- What `Authorization` reads of a body. -/
theorem Authorization.parseInternal_eq_ok {hash : String → List UInt8} {json : Json}
    {login password : String} (hlogin : json.member "login" = some (.string login))
    (hpassword : json.member "password" = some (.string password)) {parsed : String × String}
    (h : parseInternal hash json = .ok parsed) :
    parsed.1 = login ∧ hashToBase64 hash password = .ok parsed.2 := by
  obtain ⟨login', hlogin', h⟩ := bind_eq_ok.mp h
  obtain ⟨text, htext, h⟩ := bind_eq_ok.mp h
  rw [Json.get_eq_ok, hlogin] at hlogin'
  cases hlogin'
  cases h
  exact ⟨rfl, readPassword_eq_ok hpassword htext⟩

/-- What `CreateUser` reads of a body. -/
theorem CreateUser.parseInternal_eq_ok {hash : String → List UInt8} {initiativeUserId : UInt64}
    {json : Json} {login password : String} (hlogin : json.member "login" = some (.string login))
    (hpassword : json.member "password" = some (.string password)) {userInfo : UserInfo}
    (h : parseInternal hash initiativeUserId json = .ok userInfo) :
    userInfo.login = login ∧ hashToBase64 hash password = .ok userInfo.passwordHashed := by
  obtain ⟨login', hlogin', h⟩ := bind_eq_ok.mp h
  obtain ⟨name, -, h⟩ := bind_eq_ok.mp h
  obtain ⟨text, htext, h⟩ := bind_eq_ok.mp h
  rw [Json.get_eq_ok, hlogin] at hlogin'
  cases hlogin'
  cases h
  exact ⟨rfl, readPassword_eq_ok hpassword htext⟩

/-! ## Rows of users -/

/-- A column that equals a text as it is stored has this text. -/
theorem eq_of_compare_storedText {field : Option Value} {text : String}
    (h : Predicate.compareNullable .equal field (storedText text) = some true) :
    text ≠ "NULL" ∧ field = some (.text text) := by
  cases hstored : storedText text with
  | none =>
    -- Nothing equals null.
    rw [hstored] at h
    cases field <;> cases h
  | some value =>
    have hne : text ≠ "NULL" := isSome_storedText.mp (by rw [hstored]; rfl)
    rw [storedText_of_ne hne] at h
    exact ⟨hne, Predicate.compareNullable_equal.mp h⟩

/-- The options of the statement that looks for credentials. -/
def credentialsOptions (login password : String) : SelectOptions where
  table := .user
  columns := [.userId, .name, .createdBy, .createdDate]
  condition := some (.group .and [.real .login (.text login) .equal,
    .real .passwordHashed (.text password) .equal])

section Rows

variable {choices : Nat → Choices} {tables : Tables}

/-- The row that the statement of `CreateUser` inserts. -/
theorem exists_row_of_insertUser {userInfo : UserInfo} {query : Query}
    (hquery : insertUser userInfo = .ok query) {clock : Nat} {rows : Rows} {after : Nat × Tables}
    (h : Quiet choices (clock, tables) ⟨query.options, query.params.toPqxx⟩ rows after) :
    ∃ row ∈ after.2 .user, row .login = storedText userInfo.login ∧
      row .passwordHashed = storedText userInfo.passwordHashed := by
  unfold insertUser at hquery
  obtain ⟨createdBy, -, hquery⟩ := bind_eq_ok.mp hquery
  dsimp only at hquery
  split at hquery
  · rename_i created hcreated
    cases hquery
    obtain ⟨-, -, rfl⟩ := QueryFactory.createInsert_eq_ok.mp hcreated
    obtain ⟨writes, hperform, -, rfl⟩ := quiet_insert_iff.mp h
    have hinsert : Sql.insert (choices clock)
        { table := .user
          columns := [.name, .passwordHashed, .login, .createdDate, .createdBy]
          returning := [.userId]
          valuesCount := 1 }
        [parameterOf userInfo.name, parameterOf userInfo.passwordHashed, parameterOf userInfo.login,
          parameterOf (unsigned userInfo.createdDate).toString,
          parameterOf (unsigned createdBy).toString] tables = .ok (rows, writes) := hperform
    obtain ⟨-, values, hvalues, -, hwrites⟩ := insert_eq_ok.mp hinsert
    obtain ⟨fields, hfields, rfl⟩ := bindRows_one hvalues
    -- The texts are the second and the third parameter.
    have hassigned : ∀ (column : Column) (text : String),
        columnType .user column = .ok .text →
        (column, parameterOf text) ∈ [Column.name, .passwordHashed, .login, .createdDate,
          .createdBy].zip [parameterOf userInfo.name, parameterOf userInfo.passwordHashed,
            parameterOf userInfo.login, parameterOf (unsigned userInfo.createdDate).toString,
            parameterOf (unsigned createdBy).toString] →
        (assigned [.name, .passwordHashed, .login, .createdDate, .createdBy] fields column).join =
          storedText text := by
      intro column text hcolumn hmem
      obtain ⟨type, field, htype, hfield, hassigned⟩ :=
        assigned_of_mem hfields (by decide) hmem
      cases htype.symm.trans hcolumn
      rw [bindValue_text] at hfield
      cases hfield
      rw [hassigned, Option.join_some]
    have hlogin := hassigned .login userInfo.login rfl (by simp)
    have hhash := hassigned .passwordHashed userInfo.passwordHashed rfl (by simp)
    rw [triggeredRows_of_ne (by decide), List.map_nil, List.append_nil] at hwrites
    refine ⟨insertedRow (choices clock) .user
      [.name, .passwordHashed, .login, .createdDate, .createdBy] 0 fields, ?_, hlogin, hhash⟩
    rw [hwrites]
    show _ ∈ applyAll schema _ tables Table.user
    rw [applyAll_insert, if_pos rfl]
    exact List.mem_append_right _ List.mem_cons_self
  · cases hquery

/-- A created user is stored with the text that was hashed. -/
theorem CreateUser.exists_row {dateProvider : DateProvider} {userInfo : UserInfo} {json : Json}
    (h : (CreateUser.task dateProvider userInfo).respond (quietDatabase choices).answers tables =
      ⟨json, .success⟩) :
    ∃ row ∈ (CreateUser.task dateProvider userInfo).leaves (quietDatabase choices).answers tables
        .user,
      row .login = storedText userInfo.login ∧
        row .passwordHashed = storedText userInfo.passwordHashed := by
  rcases hcheck : checkUser (dateProvider.getTimestamp 0) userInfo with code | checked
  · -- A user that is not complete is refused.
    have hprepare : (task dateProvider userInfo).prepare = .error code := by
      simp only [task, hcheck]
    have hcode : code = .wrongFormat := by
      unfold checkUser at hcheck
      dsimp only at hcheck
      split at hcheck
      · exact (Except.error.inj hcheck).symm
      · cases hcheck
    rw [TransactionTask.respond, hprepare] at h
    have hresult := congrArg Callback.result h
    rw [BaseTask.execute_ok, hcode] at hresult
    cases hresult
  · have hfields : checked.login = userInfo.login ∧
        checked.passwordHashed = userInfo.passwordHashed := by
      unfold checkUser at hcheck
      dsimp only at hcheck
      split at hcheck
      · cases hcheck
      · cases hcheck
        exact ⟨rfl, rfl⟩
    rcases hquery : insertUser checked with exception | query
    · have hprepare : (task dateProvider userInfo).prepare = .error .error := by
        simp only [task, hcheck, hquery]
        rfl
      rw [TransactionTask.respond, hprepare] at h
      cases congrArg Callback.result h
    · have hprepare : (task dateProvider userInfo).prepare =
          .ok (.query query.options query.params
            (fun results task => { task with results }) .null, ⟨checked, []⟩) := by
        simp only [task, hcheck, hquery]
        rfl
      have hfinish : ∀ (exception : Exception) memory json,
          (task dateProvider userInfo).finish exception.result memory ≠ .ok (.success, json) := by
        intro exception memory json hok
        have hcode := exception.result_ne_success
        have hfinished : (task dateProvider userInfo).finish exception.result memory =
            .ok (exception.result, .null) := by
          simp only [task, createdUser, if_neg hcode, finishDone]
          exact if_neg hcode
        rw [hfinished] at hok
        exact hcode (congrArg Prod.fst (Except.ok.inj hok))
      obtain ⟨after, memory, hruns, -⟩ :=
        (TransactionTask.respond_eq_success hprepare hfinish).mp h
      obtain ⟨rows, ⟨clock, state⟩, hquiet, hnull⟩ := Entry.runsTo_query.mp hruns
      obtain ⟨rfl, -⟩ := Entry.runsTo_null.mp hnull
      rw [TransactionTask.leaves_of_runsTo hprepare hruns, ← hfields.1, ← hfields.2]
      exact exists_row_of_insertUser hquery hquiet

/-- Without a row nobody is authorised. -/
theorem Authorization.callback_nil (dateProvider : DateProvider)
    (createToken : UInt64 → UInt64 → String) (login hashPassword : String) (result : Result)
    (json : Json) :
    (task dateProvider createToken login hashPassword).callback result [] ≠ ⟨json, .success⟩ := by
  intro h
  cases congrArg Callback.result h

/-- Who is authorised has a row with the text that was hashed. -/
theorem Authorization.exists_row {dateProvider : DateProvider}
    {createToken : UInt64 → UInt64 → String} {login hashPassword : String} {json : Json}
    (h : (Authorization.task dateProvider createToken login hashPassword).respond
      (quietDatabase choices).answers tables = ⟨json, .success⟩) :
    login ≠ "NULL" ∧ ∃ row ∈ tables .user, row .login = some (.text login) ∧
      row .passwordHashed = some (.text hashPassword) := by
  have hanswer := @answers_selectStatement choices 0 (credentialsOptions login hashPassword)
    (List.cons_ne_nil _ _) tables
  have hcolumns : columnType .user .login = .ok .text ∧
      columnType .user .passwordHashed = .ok .text := ⟨rfl, rfl⟩
  rcases hcheck : checkCredentials login hashPassword with code | ⟨⟩
  · -- An empty login or password is refused.
    have hprepare : (task dateProvider createToken login hashPassword).prepare = .error code := by
      simp only [task, hcheck]
    have hcode : code = .unauthorized := by
      unfold checkCredentials at hcheck
      split at hcheck
      · exact (Except.error.inj hcheck).symm
      · cases hcheck
    rw [TransactionTask.respond, hprepare] at h
    have hresult := congrArg Callback.result h
    rw [BaseTask.execute_ok, hcode] at hresult
    cases hresult
  · have hprepare : (task dateProvider createToken login hashPassword).prepare =
        .ok (.query (.select (credentialsOptions login hashPassword))
          (QueryFactory.conditionParams (credentialsOptions login hashPassword).condition)
          (fun rows _ => rows) .null, []) := by
      simp only [task, hcheck]
      rfl
    rcases hselected : selected (choices 0) (credentialsOptions login hashPassword)
        (selectParams (credentialsOptions login hashPassword)) tables with exception | rows
    · -- The transaction has found no rows.
      rw [hselected] at hanswer
      rw [TransactionTask.respond_query_of_error hprepare hanswer] at h
      exact absurd h (callback_nil dateProvider createToken login hashPassword _ json)
    · rw [hselected] at hanswer
      rw [TransactionTask.respond_query_of_ok hprepare hanswer] at h
      cases rows with
      | nil => exact absurd h (callback_nil dateProvider createToken login hashPassword _ json)
      | cons row rows =>
        obtain ⟨-, -, all, hall, -⟩ := selected_eq_ok.mp hselected
        have hrow := mem_found_of_selected hselected hall List.mem_cons_self
        have hmem : row ∈ tables .user := mem_of_found rfl hall hrow
        obtain ⟨-, predicate, hpredicate, rfl⟩ := found_eq_ok.mp hall
        have hbind : bindWhere .user (credentialsOptions login hashPassword).condition
            [parameterOf login, parameterOf hashPassword] =
            .ok (.and [.compare .login .equal (storedText login),
              .compare .passwordHashed .equal (storedText hashPassword)]) := by
          simp [credentialsOptions, bindWhere, bindCondition, bindConditions, bindParams,
            hcolumns.1, hcolumns.2, bindValue_text, comparisonOf, pure, Except.pure]
        have hscope : scopeOf (credentialsOptions login hashPassword) = [.user] := rfl
        rw [hscope, typeIn_singleton, bindWhereBy_columnType] at hpredicate
        cases hbind.symm.trans hpredicate
        have hselects := List.of_mem_filter hrow
        rw [Predicate.selects, decide_eq_true_eq, Predicate.eval, Predicate.evalAnd,
          Predicate.conjunction_eq_true, Predicate.evalAnd, Predicate.conjunction_eq_true,
          Predicate.eval, Predicate.eval] at hselects
        obtain ⟨hne, hrowLogin⟩ := eq_of_compare_storedText hselects.1
        exact ⟨hne, row, hmem, hrowLogin, (eq_of_compare_storedText hselects.2.1).2⟩

end Rows

/-! ## Passwords that are told apart -/

/-- No two users have the same login, as their constraint requires. -/
def LoginsDiffer (tables : Tables) : Prop :=
  ∀ row ∈ tables .user, ∀ other ∈ tables .user,
    Schema.sameUnder [.login] row other = true → row = other

/-- `CreateUser` has answered a body with this login and password with `SUCCESS`, and left these
tables. -/
def UserCreated (hash : String → List UInt8) (login password : String) (created : Tables) : Prop :=
  ∃ (choices : Nat → Choices) (dateProvider : DateProvider) (initiativeUserId : UInt64)
    (json response : Json) (userInfo : UserInfo) (tables : Tables),
    json.member "login" = some (.string login) ∧
      json.member "password" = some (.string password) ∧
      CreateUser.parseInternal hash initiativeUserId json = .ok userInfo ∧
      (CreateUser.task dateProvider userInfo).respond (quietDatabase choices).answers tables =
        ⟨response, .success⟩ ∧
      (CreateUser.task dateProvider userInfo).leaves (quietDatabase choices).answers tables =
        created

/-- `Authorization` answers a body with this login and password with `SUCCESS` on these tables. -/
def Authorised (hash : String → List UInt8) (login password : String) (tables : Tables) : Prop :=
  ∃ (choices : Nat → Choices) (dateProvider : DateProvider)
    (createToken : UInt64 → UInt64 → String) (json response : Json) (parsed : String × String),
    json.member "login" = some (.string login) ∧
      json.member "password" = some (.string password) ∧
      Authorization.parseInternal hash json = .ok parsed ∧
      (Authorization.task dateProvider createToken parsed.1 parsed.2).respond
        (quietDatabase choices).answers tables = ⟨response, .success⟩

/-- Two passwords are told apart: their hashes differ, and a user created with one is not authorised
with the other, as long as the row of the user is there. -/
def ToldApart (hash : String → List UInt8) (password other : String) : Prop :=
  hashToBase64 hash password ≠ hashToBase64 hash other ∧
    ∀ (login : String) (created later : Tables), UserCreated hash login password created →
      (∀ row ∈ created .user, row ∈ later .user) → LoginsDiffer later →
      ¬ Authorised hash login other later

/-- A user is not authorised with another text than the one that was hashed. -/
theorem hash_eq_of_authorised {hash : String → List UInt8} {login password other : String}
    {created later : Tables} (hcreated : UserCreated hash login password created)
    (hkept : ∀ row ∈ created .user, row ∈ later .user) (hlogins : LoginsDiffer later)
    (hauthorised : Authorised hash login other later) :
    hashToBase64 hash password = hashToBase64 hash other := by
  obtain ⟨choices, dateProvider, initiativeUserId, json, response, userInfo, tables, hlogin,
    hpassword, hparse, hrespond, rfl⟩ := hcreated
  obtain ⟨choices', dateProvider', createToken, json', response', parsed, hlogin', hpassword',
    hparse', hrespond'⟩ := hauthorised
  obtain ⟨rfl, htext⟩ := CreateUser.parseInternal_eq_ok hlogin hpassword hparse
  obtain ⟨hparsed, htext'⟩ := Authorization.parseInternal_eq_ok hlogin' hpassword' hparse'
  obtain ⟨row, hrow, hrowLogin, hrowHash⟩ := CreateUser.exists_row hrespond
  obtain ⟨hne, found, hfound, hfoundLogin, hfoundHash⟩ := Authorization.exists_row hrespond'
  rw [hparsed] at hne hfoundLogin
  rw [storedText_of_ne hne] at hrowLogin
  -- The row that is found is the one that was stored, since it has the same login.
  have hsame : row = found := by
    refine hlogins row (hkept row hrow) found hfound ?_
    simp [Schema.sameUnder, hrowLogin, hfoundLogin]
  rw [hsame, hfoundHash] at hrowHash
  rw [htext, htext', (storedText_eq_some.mp hrowHash.symm).2]

/-- The texts of two byte vectors tell them apart, and two passwords with different digests are told
apart, exactly when the vectors, or the digests, are the same or not confused. -/
theorem toldApart_iff (bytes others : List UInt8) (hash : String → List UInt8)
    (password other : String) :
    ((toBase64 bytes = toBase64 others → bytes = others) ↔
      (Confused bytes others → bytes = others)) ∧
    ((hash password ≠ hash other → ToldApart hash password other) ↔
      (Confused (hash password) (hash other) → hash password = hash other)) := by
  refine ⟨by rw [toBase64_eq_iff], ?_, ?_⟩
  · intro h hconfused
    by_contra hne
    exact (h hne).1 ((toBase64_eq_iff _ _).mpr hconfused)
  · intro h hne
    have hdiffer : hashToBase64 hash password ≠ hashToBase64 hash other :=
      fun hsame => hne (h ((toBase64_eq_iff _ _).mp hsame))
    refine ⟨hdiffer, ?_⟩
    intro login created later hcreated hkept hlogins hauthorised
    exact hdiffer (hash_eq_of_authorised hcreated hkept hlogins hauthorised)

/-- Two vectors of one byte each that have the same text. -/
theorem toBase64_sixteen :
    ¬ (toBase64 [0x10] = toBase64 [0x20] → ([0x10] : List UInt8) = [0x20]) := by
  decide

end TaskMgr.Tasks

import WarehouseAccounting.Services.Tokens
import WarehouseAccounting.TaskManager.CreatedRows
import WarehouseAccounting.TaskManager.StockRequests
import WarehouseAccounting.Webserver.Session

/-!
# Logins

From `CreateUser` over `Authorization` and the token to the requests that are made with it.

- `Authorization.respond_of_isUser`: what `Authorization` answers for the login of a user.
- `GetCurrentUser.respond_of_isUser`: what `GetCurrentUser` answers for his id.
- `login_of_created`: a user who was created can log in with his password and with no other one, and
  works as himself with the token until it expires.
-/

namespace TaskMgr.Tasks

open Ufa Srv.Db Srv.Db.Trsct Srv.Db.Sql Srv.Db.DbMgr.Scpts Srv.Auth Relational Util.Hash

variable {choices : Nat → Choices} {tables : Tables}

/-! ## Authorization -/

/-- The user as he is read back, without his password. -/
def known (userInfo : UserInfo) (id : Int) : UserInfo :=
  { userInfo with id := some (UInt64.ofNat id.toNat), passwordHashed := "" }

/-- The row with a login and a password is the one of the user, if the password is his. -/
theorem selected_credentials (hintegral : Integral schema tables) (hlogins : LoginsDiffer tables)
    {userInfo : UserInfo} {row : TableRow} (hrow : row ∈ tables .user) (huser : IsUser userInfo row)
    (choices : Choices) (password : String) :
    selected choices (credentialsOptions userInfo.login password)
        (selectParams (credentialsOptions userInfo.login password)) tables =
      .ok (if password = userInfo.passwordHashed then [row] else []) := by
  let predicate : Predicate Column :=
    .and [.compare .login .equal (storedText userInfo.login),
      .compare .passwordHashed .equal (storedText password)]
  have hbind : bindWhere .user (credentialsOptions userInfo.login password).condition
      [parameterOf userInfo.login, parameterOf password] = .ok predicate := by
    have hcolumns : columnType .user .login = .ok .text ∧
        columnType .user .passwordHashed = .ok .text := ⟨rfl, rfl⟩
    simp [credentialsOptions, bindWhere, bindCondition, bindConditions, bindParams, hcolumns.1,
      hcolumns.2, bindValue_text, comparisonOf, pure, Except.pure, predicate]
  have hselects : ∀ other ∈ tables .user, predicate.selects other = true ↔
      other = row ∧ password = userInfo.passwordHashed := by
    intro other hother
    rw [Predicate.selects, decide_eq_true_eq, Predicate.eval, Predicate.evalAnd,
      Predicate.conjunction_eq_true, Predicate.evalAnd, Predicate.conjunction_eq_true,
      Predicate.eval, Predicate.eval, Predicate.evalAnd]
    constructor
    · rintro ⟨hlogin, hpassword, -⟩
      obtain ⟨-, hlogin⟩ := eq_of_compare_storedText hlogin
      obtain ⟨-, hpassword⟩ := eq_of_compare_storedText hpassword
      -- Logins differ.
      have hsame : other = row := by
        refine hlogins other hother row hrow ?_
        simp [Schema.sameUnder, hlogin, huser.login.2]
      rw [hsame, huser.passwordHashed.2] at hpassword
      cases hpassword
      exact ⟨hsame, rfl⟩
    · rintro ⟨rfl, rfl⟩
      rw [storedText_of_ne huser.login.1, storedText_of_ne huser.passwordHashed.1, huser.login.2,
        huser.passwordHashed.2]
      exact ⟨Predicate.compareNullable_equal.mpr rfl, Predicate.compareNullable_equal.mpr rfl, rfl⟩
  have hfilter : (tables .user).filter predicate.selects =
      if password = userInfo.passwordHashed then [row] else [] := by
    split
    · rename_i hpassword
      have hnodup : ((tables .user).filter predicate.selects).Nodup :=
        (List.Nodup.of_map _ (hintegral.keys_nodup .user)).filter _
      refine List.perm_singleton.mp ((List.perm_ext_iff_of_nodup hnodup
        (List.nodup_singleton row)).mpr fun other => ?_)
      rw [List.mem_filter, List.mem_singleton]
      constructor
      · rintro ⟨hother, hselected⟩
        exact ((hselects other hother).mp hselected).1
      · rintro rfl
        exact ⟨hrow, (hselects _ hrow).mpr ⟨rfl, hpassword⟩⟩
    · rename_i hpassword
      rw [List.filter_eq_nil_iff]
      intro other hother hselected
      exact hpassword ((hselects other hother).mp hselected).2
  have hfound : found (credentialsOptions userInfo.login password)
      (selectParams (credentialsOptions userInfo.login password)) tables =
        .ok ((tables .user).filter predicate.selects) := by
    have hscope : scopeOf (credentialsOptions userInfo.login password) = [.user] := rfl
    refine found_eq_ok.mpr ⟨rfl, predicate, ?_, ?_⟩
    · rw [hscope, typeIn_singleton, bindWhereBy_columnType]
      exact hbind
    · have hrows : fromRows tables (credentialsOptions userInfo.login password) = tables .user :=
        fromRows_of_joins_nil rfl tables
      rw [hrows]
  refine selected_eq_ok.mpr ⟨rfl, rfl, _, hfound, ?_⟩
  rw [hfilter]
  have hordered := ordered_perm choices (credentialsOptions userInfo.login password)
  split
  · rw [List.perm_singleton.mp (hordered [row])]
    rfl
  · rw [List.perm_nil.mp (hordered [])]
    rfl

/-- The numbers of a user as they are read. -/
theorem getUInt64_of_isUser {userInfo : UserInfo} {row : TableRow} (huser : IsUser userInfo row)
    (hconforms : schema.conforms .user row = true) {id : Int}
    (hid : row .userId = some (.integer id)) (hpositive : 0 < id) :
    getUInt64 ((row .userId).map Value.toText) = .ok (some (UInt64.ofNat id.toNat)) ∧
      getUInt64 ((row .createdDate).map Value.toText) = .ok (some userInfo.createdDate) ∧
      getUInt64 ((row .createdBy).map Value.toText) = .ok userInfo.createdBy := by
  have htyped : TypedOn [.userId, .createdDate, .createdBy] row :=
    typedOn_of_conforms hconforms (by decide)
  refine ⟨?_, ?_, ?_⟩
  · rw [getUInt64_field htyped .userId (by simp) rfl, hid]
    exact if_pos (decide_eq_true hpositive.le)
  · rw [getUInt64_field htyped .createdDate (by simp) rfl, huser.createdDate]
    simp
  · rw [getUInt64_field htyped .createdBy (by simp) rfl, huser.createdBy]
    cases userInfo.createdBy <;> simp

/-- The user that is read from his row, unless his name is missing. -/
theorem credentialsOfRow_of_isUser {userInfo : UserInfo} {row : TableRow}
    (huser : IsUser userInfo row) (hconforms : schema.conforms .user row = true) {id : Int}
    (hid : row .userId = some (.integer id)) (hpositive : 0 < id) :
    credentialsOfRow userInfo.login (project [.userId, .name, .createdBy, .createdDate] row) =
      if userInfo.name = "NULL" then .error .other else .ok (known userInfo id) := by
  obtain ⟨hreadId, hreadDate, hreadBy⟩ := getUInt64_of_isUser huser hconforms hid hpositive
  unfold credentialsOfRow
  simp only [project, fieldAt, List.map_cons, List.map_nil, List.getElem?_cons_zero,
    List.getElem?_cons_succ, hreadId, hreadDate, hreadBy, ok_bind, required_some, getString]
  split
  · rename_i hname
    rw [huser.name, hname]
    rfl
  · rename_i hname
    rw [huser.name, storedText_of_ne hname]
    rfl

/-- What `Authorization` answers for the login of a user: a token for his id if the password is his,
unless his name is missing. -/
theorem Authorization.respond_of_isUser (choices : Nat → Choices)
    (hintegral : Integral schema tables)
    (hlogins : LoginsDiffer tables) {userInfo : UserInfo} {row : TableRow}
    (hrow : row ∈ tables .user) (huser : IsUser userInfo row) {id : Int}
    (hid : row .userId = some (.integer id)) (hpositive : 0 < id) (hlogin : userInfo.login ≠ "")
    (hpassword : userInfo.passwordHashed ≠ "") (dateProvider : DateProvider)
    (createToken : UInt64 → UInt64 → String) (password : String) :
    (task dateProvider createToken userInfo.login password).respond
        (quietDatabase choices).answers tables =
      if password = userInfo.passwordHashed ∧ userInfo.name ≠ "NULL" then
        ⟨json dateProvider (createToken (UInt64.ofNat id.toNat)
          (dateProvider.getTimestamp 0 + tokenLifetime)) (known userInfo id), .success⟩
      else ⟨.object [], .unauthorized⟩ := by
  by_cases hempty : password = ""
  · -- An empty password is refused before the transaction.
    have hprepare : (task dateProvider createToken userInfo.login password).prepare =
        .error .unauthorized := by
      simp [task, checkCredentials, hempty]
    rw [TransactionTask.respond, hprepare, if_neg]
    · rfl
    · rintro ⟨hsame, -⟩
      exact hpassword (hsame.symm.trans hempty)
  · have hprepare : (task dateProvider createToken userInfo.login password).prepare =
        .ok (.query (.select (credentialsOptions userInfo.login password))
          (QueryFactory.conditionParams (credentialsOptions userInfo.login password).condition)
          (fun rows _ => rows) .null, []) := by
      have hcheck : checkCredentials userInfo.login password = .ok () := by
        rw [checkCredentials, if_neg]
        simpa using ⟨hlogin, hempty⟩
      simp only [task, hcheck]
      rfl
    have hanswer := @answers_selectStatement choices 0 (credentialsOptions userInfo.login password)
      (List.cons_ne_nil _ _) tables
    rw [selected_credentials hintegral hlogins hrow huser] at hanswer
    rw [TransactionTask.respond_query_of_ok hprepare hanswer]
    by_cases hsame : password = userInfo.passwordHashed
    · rw [if_pos hsame]
      have hread := credentialsOfRow_of_isUser huser (hintegral.conforms .user row hrow) hid
        hpositive
      let answered := generateToken createToken (dateProvider.getTimestamp 0)
        (validateCredentials userInfo.login
          [project [.userId, .name, .createdBy, .createdDate] row])
      show BaseTask.execute
        (finishDone answered.1 (.ok (json dateProvider answered.2.1 answered.2.2))) = _
      by_cases hname : userInfo.name = "NULL"
      · have hanswered : answered = (.unauthorized, "", {}) := by
          show generateToken _ _ (validateCredentials _ _) = _
          rw [validateCredentials, hread, if_pos hname]
          rfl
        rw [hanswered, if_neg fun h => h.2 hname]
        rfl
      · have hanswered : answered = (.success, createToken (UInt64.ofNat id.toNat)
            (dateProvider.getTimestamp 0 + tokenLifetime), known userInfo id) := by
          show generateToken _ _ (validateCredentials _ _) = _
          rw [validateCredentials, hread, if_neg hname]
          rfl
        rw [hanswered, if_pos ⟨hsame, hname⟩]
        rfl
    · rw [if_neg hsame, if_neg fun h => hsame h.1]
      rfl

/-! ## GetCurrentUser -/

/-- The user that `GetUserInfo` reads from his row. -/
theorem userOfRow_of_isUser {userInfo : UserInfo} {row : TableRow} (huser : IsUser userInfo row)
    (hconforms : schema.conforms .user row = true) {id : Int}
    (hid : row .userId = some (.integer id)) (hpositive : 0 < id) (hname : userInfo.name ≠ "NULL") :
    userOfRow (UInt64.ofNat id.toNat) (project [.login, .name, .createdBy, .createdDate] row) =
      .ok (known userInfo id) := by
  obtain ⟨-, hreadDate, hreadBy⟩ := getUInt64_of_isUser huser hconforms hid hpositive
  unfold userOfRow
  rw [if_neg (by simp [project])]
  simp only [project, fieldAt, List.map_cons, List.map_nil, List.getElem?_cons_zero,
    List.getElem?_cons_succ, hreadDate, hreadBy, ok_bind, required_some, getString]
  rw [huser.login.2, huser.name, storedText_of_ne hname]
  rfl

/-- What `GetCurrentUser` answers for the id of a user, unless his name is missing. -/
theorem GetCurrentUser.respond_of_isUser (choices : Nat → Choices)
    (hintegral : Integral schema tables) {userInfo : UserInfo}
    {row : TableRow} (hrow : row ∈ tables .user) (huser : IsUser userInfo row) {id : Int}
    (hid : row .userId = some (.integer id)) (hpositive : 0 < id) (hname : userInfo.name ≠ "NULL")
    (dateProvider : DateProvider) :
    ∃ object, json dateProvider (known userInfo id) = .ok object ∧
      (task dateProvider (UInt64.ofNat id.toNat)).respond (quietDatabase choices).answers tables =
        ⟨resultJson object, .success⟩ := by
  have hconforms := hintegral.conforms .user row hrow
  obtain ⟨value, hvalue, -, hmaximum⟩ := hintegral.integer hrow
    (show (Column.userId, ColumnType.int8) ∈ (tableSchema .user).columns by decide) (by decide)
  cases hid.symm.trans hvalue
  -- The statement is the one for the id with a sign.
  have hinteger : (Int64.ofInt id).toInt = id :=
    Int64.toInt_ofInt_of_le (by omega) (by omega)
  have hunsigned : unsigned (UInt64.ofNat id.toNat) = integer (Int64.ofInt id) := by
    rw [unsigned, integer, hinteger, UInt64.toNat_ofNat', Nat.mod_eq_of_lt (by omega),
      Int.toNat_of_nonneg hpositive.le]
  let options := selectById .user [.login, .name, .createdBy, .createdDate] .userId
    (Int64.ofInt id)
  have hprepare : (task dateProvider (UInt64.ofNat id.toNat)).prepare =
      .ok (.query (.select options) (QueryFactory.conditionParams options.condition)
        (fun rows _ => rows) .null, []) := by
    simp only [task, selectUser, hunsigned]
    rfl
  have hhasId : hasId .userId (Int64.ofInt id) row = true := by
    rw [hasId, hinteger, hid, decide_eq_true_eq]
  have hanswer : (quietDatabase choices).answers 0 (selectStatement options) tables =
      .ok (([row]).map (project [.login, .name, .createdBy, .createdDate]), tables) := by
    rw [answers_selectById choices 0 rfl (by decide) (List.cons_ne_nil _ _),
      rowsOfId_eq_singleton hintegral (choices 0) rfl hrow hhasId]
  refine ⟨_, rfl, ?_⟩
  rw [TransactionTask.respond_query_of_ok hprepare hanswer]
  let answered := getUserInfo (UInt64.ofNat id.toNat)
    [project [.login, .name, .createdBy, .createdDate] row]
  have hanswered : answered = (.success, known userInfo id) := by
    show getUserInfo _ _ = _
    rw [getUserInfo, userOfRow_of_isUser huser hconforms hid hpositive hname]
  show BaseTask.execute
    (finishDone answered.1 do return resultJson (← json dateProvider answered.2)) = _
  rw [hanswered]
  rfl

/-! ## Requests with a token -/

section Requests

open Ws.Session

/-- The session validates tokens with the authorizer, at some time. -/
def ValidatesAt (services : Ws.Session.Services) (jwt : JwtLibrary) (now : UInt64) : Prop :=
  ∀ token userId, services.validateToken token userId =
    ((validateToken jwt now token).1, (validateToken jwt now token).2.getD userId)

/-- A request for a task other than `Authorization` that carries a token. -/
structure CarriesToken (request : Ws.Session.Request) (token : String) : Prop where
  allowed : request.method ∈ allowedVerbs
  slash : request.target.toList.head? = some '/'
  api : isApiTarget request.target = true
  other : isAuthorizationTarget request.target = false
  field : request.field authenticateHeader = token
  nonempty : token ≠ ""

/-- Whoever has the token works as the user for thirty hours, and is refused afterwards. -/
def WorksAs (jwt : JwtLibrary) (issued : UInt64) (token : String) (id : UInt64) : Prop :=
  ∀ (services : Ws.Session.Services) (now : UInt64) (request : Ws.Session.Request),
    ValidatesAt services jwt now → CarriesToken request token → handleRequest services request =
      if now.toNat ≤ issued.toNat + tokenLifetime.toNat then handleApi services request id
      else respond request "Unauthorized" .unauthorized

/-- A token that was issued for a user lets requests through for him, until it expires. -/
theorem worksAs_createToken {jwt : JwtLibrary} (hjwt : jwt.Documented) {issued : UInt64}
    (hrange : issued.toNat + tokenLifetime.toNat < 18446744073709551616) (id : UInt64) :
    WorksAs jwt issued (createToken jwt id (issued + tokenLifetime)) id := by
  intro services now request hvalidates hcarries
  obtain ⟨hallowed, hslash, hapi, hother, hfield, hnonempty⟩ := hcarries
  have hempty : (createToken jwt id (issued + tokenLifetime)).isEmpty = false := by
    simpa using hnonempty
  have hauthenticate : authenticate services request 0 =
      if now.toNat ≤ issued.toNat + tokenLifetime.toNat then (.success, id)
      else (.unauthorized, 0) := by
    unfold authenticate
    dsimp only
    rw [hfield, hempty, if_neg Bool.false_ne_true, hvalidates, validateToken_createToken hjwt]
    by_cases hvalid : now.toNat ≤ issued.toNat + tokenLifetime.toNat
    · rw [if_pos hvalid, if_neg]
      · rfl
      · rw [UInt64.lt_iff_toNat_lt, toNat_add_tokenLifetime hrange]
        omega
    · rw [if_neg hvalid, if_pos]
      · rfl
      · rw [UInt64.lt_iff_toNat_lt, toNat_add_tokenLifetime hrange]
        omega
  unfold handleRequest
  rw [if_neg (by simpa using hallowed), if_neg (by simpa using hslash), if_pos hapi, hother,
    if_neg Bool.false_ne_true, hauthenticate]
  by_cases hvalid : now.toNat ≤ issued.toNat + tokenLifetime.toNat
  · rw [if_pos hvalid, if_pos hvalid]
    rfl
  · rw [if_neg hvalid, if_neg hvalid]
    rfl

end Requests

/-! ## From the creation of a user to his requests -/

/-- The user logs in with a password, and works as himself with the token: he can be shown to
himself, and his requests go through until the token expires. -/
structure LogsIn (jwt : JwtLibrary) (userInfo : UserInfo) (id : UInt64) (tables : Tables)
    (dateProvider : DateProvider) (answer : Callback) : Prop where
  success : answer.result = .success
  token : ∃ token, answer.response.member "token" = some (.string token) ∧
    ((dateProvider.getTimestamp 0).toNat + tokenLifetime.toNat < 18446744073709551616 →
      WorksAs jwt (dateProvider.getTimestamp 0) token id)
  shown : ∀ (choices : Nat → Choices) (dateProvider : DateProvider), ∃ object,
    (GetCurrentUser.task dateProvider id).respond (quietDatabase choices).answers tables =
        ⟨resultJson object, .success⟩ ∧
      object.member "user_id" = some (.unsigned id) ∧
      object.member "login" = some (.string userInfo.login) ∧
      object.member "name" = some (.string userInfo.name)

/-- A user who was created can log in with his password and with no other one, as long as his row is
there, unless his name was stored as null. -/
theorem login_of_created {hash : String → List UInt8} {jwt : JwtLibrary} (hjwt : jwt.Documented)
    {initiativeUserId : UInt64} {creation : Json} {login password : String}
    (hlogin : creation.member "login" = some (.string login))
    (hpassword : creation.member "password" = some (.string password)) {userInfo : UserInfo}
    (hparse : CreateUser.parseInternal hash initiativeUserId creation = .ok userInfo)
    {dateProvider : DateProvider} {response : Json}
    (hcreated : (CreateUser.task dateProvider userInfo).respond (quietDatabase choices).answers
      tables = ⟨response, .success⟩) {later : Tables}
    (hkept : ∀ row ∈ (CreateUser.task dateProvider userInfo).leaves (quietDatabase choices).answers
      tables .user, row .login = some (.text login) → row ∈ later .user)
    (hintegral : Integral schema later) (hlogins : LoginsDiffer later) :
    ∃ id, response.member "user_id" = some (.unsigned id) ∧
      ∀ (choices : Nat → Choices) (dateProvider : DateProvider) (body : Json) (other : String)
        (parsed : String × String), body.member "login" = some (.string login) →
        body.member "password" = some (.string other) →
        Authorization.parseInternal hash body = .ok parsed →
          let answer := (Authorization.task dateProvider (createToken jwt) parsed.1
            parsed.2).respond (quietDatabase choices).answers later
          if hashToBase64 hash other = hashToBase64 hash password ∧ userInfo.name ≠ "NULL" then
            LogsIn jwt userInfo id later dateProvider answer
          else answer = ⟨.object [], .unauthorized⟩ := by
  obtain ⟨hchecked, number, row, huser, hconforms, hpositive, hid, hresponse, hleaves⟩ :=
    CreateUser.exists_isUser hcreated
  obtain ⟨-, hne, hhashed, hcreatedBy⟩ := checkUser_eq_ok hchecked
  obtain ⟨rfl, htext⟩ := CreateUser.parseInternal_eq_ok hlogin hpassword hparse
  have hrow : row ∈ later .user := by
    refine hkept row ?_ huser.login.2
    rw [hleaves]
    exact List.mem_append_right _ List.mem_cons_self
  -- The id of the response is the one that is read from the row.
  have hnumber : (Int64.ofInt number).toUInt64 = UInt64.ofNat number.toNat := by
    obtain ⟨natural, rfl⟩ := Int.eq_ofNat_of_zero_le hpositive.le
    exact Int64.toUInt64_ofNat
  rw [hnumber] at hresponse
  refine ⟨UInt64.ofNat number.toNat, ?_, ?_⟩
  · obtain ⟨createdBy, hcreator⟩ := Option.isSome_iff_exists.mp hcreatedBy
    have hobject := hresponse
    simp only [CreateUser.json, hcreator, required_some, ok_bind] at hobject
    rw [← Except.ok.inj hobject]
    exact lookup_putAll (by simp) "user_id"
  intro choices' dateProvider' body other parsed hbodyLogin hbodyPassword hbodyParse
  obtain ⟨hparsed, hother⟩ := Authorization.parseInternal_eq_ok hbodyLogin hbodyPassword hbodyParse
  have hsame : hashToBase64 hash other = hashToBase64 hash password ↔
      parsed.2 = userInfo.passwordHashed := by
    rw [hother, htext, Except.ok.injEq]
  have hanswer := Authorization.respond_of_isUser choices' hintegral hlogins hrow huser
    hid hpositive hne hhashed dateProvider' (createToken jwt) parsed.2
  rw [hparsed]
  dsimp only at hanswer ⊢
  rw [hanswer]
  simp only [hsame]
  split
  · rename_i hgood
    refine ⟨rfl, ⟨_, ?_, fun hrange => worksAs_createToken hjwt hrange _⟩, ?_⟩
    · exact lookup_putAll (by simp) "token"
    · intro choices'' dateProvider''
      obtain ⟨object, hobject, hshown⟩ := GetCurrentUser.respond_of_isUser choices''
        hintegral hrow huser hid hpositive hgood.2 dateProvider''
      obtain rfl := Except.ok.inj hobject
      exact ⟨_, hshown, lookup_putAll (by simp) "user_id", lookup_putAll (by simp) "login",
        lookup_putAll (by simp) "name"⟩
  · rfl

/-- A hash that is the text itself. -/
def plainHash (text : String) : List UInt8 :=
  text.toList.map fun char => char.toNat.toUInt8

/-- The body that creates a keeper. -/
def keeperBody : Json :=
  .object [("login", .string "keeper"), ("name", .string "Kim"), ("password", .string "open")]

/-- The keeper as his body is parsed. -/
def keeper : UserInfo where
  login := "keeper"
  passwordHashed := "F10151E1"
  name := "Kim"
  createdBy := some 1

/-- The request that creates the keeper, on the tables of the beginning. -/
def keeperTask : TransactionTask :=
  CreateUser.task numericDates keeper

/-- The database that the keeper is created in. -/
def keeperDatabase : Database Tables :=
  quietDatabase fun _ => numbered initialTables

/-- The keeper logs in, as user 2. -/
theorem login_of_created_keeper :
    ∃ id, (keeperTask.respond keeperDatabase.answers initialTables).response.member "user_id" =
        some (.unsigned id) ∧
      LogsIn dottedLibrary keeper id (keeperTask.leaves keeperDatabase.answers initialTables)
        numericDates ((Authorization.task numericDates (createToken dottedLibrary) "keeper"
          "F10151E1").respond keeperDatabase.answers
            (keeperTask.leaves keeperDatabase.answers initialTables)) := by
  have hsuccess : (keeperTask.respond keeperDatabase.answers initialTables).result = .success := by
    decide +kernel
  have hparse : CreateUser.parseInternal plainHash 1 keeperBody = .ok keeper := by
    decide +kernel
  have hparsed : Authorization.parseInternal plainHash keeperBody = .ok ("keeper", "F10151E1") := by
    decide +kernel
  have hintegral : Integral schema (keeperTask.leaves keeperDatabase.answers initialTables) := by
    refine integral_of_filled [.user] (fun table htable => ?_) (by decide +kernel)
      (by decide +kernel)
    cases table <;> first | rfl | exact absurd (by decide) htable
  have hlogins : LoginsDiffer (keeperTask.leaves keeperDatabase.answers initialTables) := by
    obtain ⟨row, hrows, hdiffer⟩ : ∃ row,
        keeperTask.leaves keeperDatabase.answers initialTables .user = [superuser, row] ∧
          row .login = some (.text "keeper") := ⟨_, rfl, by decide +kernel⟩
    intro first hfirst second hsecond hsame
    rw [hrows] at hfirst hsecond
    simp only [List.mem_cons, List.not_mem_nil, or_false] at hfirst hsecond
    rcases hfirst with rfl | rfl <;> rcases hsecond with rfl | rfl
    · rfl
    · simp [Schema.sameUnder, superuser, hdiffer] at hsame
    · simp [Schema.sameUnder, superuser, hdiffer] at hsame
    · rfl
  obtain ⟨id, hid, hlogs⟩ := login_of_created documented_dottedLibrary
    (rfl : keeperBody.member "login" = some (.string "keeper"))
    (rfl : keeperBody.member "password" = some (.string "open")) hparse
    (eq_mk_of_result hsuccess) (fun _ hrow _ => hrow) hintegral hlogins
  have hlogged := hlogs (fun _ => numbered initialTables) numericDates keeperBody "open" _ rfl rfl
    hparsed
  rw [if_pos ⟨rfl, by decide⟩] at hlogged
  exact ⟨id, hid, hlogged⟩

end TaskMgr.Tasks

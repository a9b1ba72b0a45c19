import WarehouseAccounting.TaskManager.Tasks.Product

/-!
# The authorizer

The functions of `authorizer.cpp` that run a transaction: `CreateUser`, `GetUserInfo` and
`GenerateToken` with `ValidateCredentials`. Each is split at its `Transaction::Execute`: the
statement before, and what is made of the code and the rows after. The last two do not look at
the code.
-/

namespace Srv.Auth

open Ufa Srv.Db Srv.Db.Trsct TaskMgr.Tasks

/-- `UserInfo`. -/
structure UserInfo where
  id : Option UInt64 := none
  login : String := ""
  passwordHashed : String := ""
  name : String := ""
  createdDate : UInt64 := 0
  createdBy : Option UInt64 := none
  deriving DecidableEq, Repr

/-! ## CreateUser -/

/-- `Authorizer::CreateUser` up to the transaction: the user as it is inserted, or the code of a
user that is not complete. -/
def checkUser (timestamp : UInt64) (userInfo : UserInfo) : Except Result UserInfo :=
  let userInfo := { userInfo with createdDate := timestamp }
  if userInfo.login.isEmpty || userInfo.name.isEmpty || userInfo.passwordHashed.isEmpty ||
      userInfo.createdBy.isNone then
    .error .wrongFormat
  else
    .ok userInfo

/-- The statement of `Authorizer::CreateUser`. -/
def insertUser (userInfo : UserInfo) : Except Exception Query := do
  let createdBy ← required userInfo.createdBy
  let values := ((((ValueCollector.append [] (.text userInfo.name)).append
    (.text userInfo.passwordHashed)).append (.text userInfo.login)).append
    (unsigned userInfo.createdDate)).append (unsigned createdBy)
  match QueryFactory.createInsert
    { table := .user
      columns := [.name, .passwordHashed, .login, .createdDate, .createdBy]
      returning := [.userId] } [values] with
  | .ok query => return query
  | .error _ => throw .other

/-- `Authorizer::CreateUser` from the return of the transaction on: the code, and the user with
its id. -/
def createdUser (result : Result) (rows : Rows) (userInfo : UserInfo) :
    Except Exception (Result × UserInfo) := do
  if result = .success then
    let id ← getInt64 (← Rows.at rows 0 0)
    return (result, { userInfo with id := id.map Int64.toUInt64 })
  else
    return (result, userInfo)

/-! ## GetUserInfo -/

/-- The statement of `Authorizer::GetUserInfo`. -/
def selectUser (userId : UInt64) : Query :=
  QueryFactory.createSelect
    { table := .user
      columns := [.login, .name, .createdBy, .createdDate]
      condition := some (.real .userId (unsigned userId) .equal) }

/-- The user of one row of this statement. -/
def userOfRow (userId : UInt64) (row : List (Option String)) : Except Exception UserInfo := do
  if row.length ≠ 4 then
    throw .other
  let login ← required (← getString (← fieldAt row 0))
  let name ← required (← getString (← fieldAt row 1))
  let createdBy ← getUInt64 (← fieldAt row 2)
  let createdDate ← required (← getUInt64 (← fieldAt row 3))
  return { id := some userId, login, name, createdBy, createdDate }

/-- The user that is read has the id that was asked for. -/
theorem id_of_userOfRow {userId : UInt64} {row : List (Option String)} {userInfo : UserInfo}
    (h : userOfRow userId row = .ok userInfo) : userInfo.id = some userId := by
  unfold userOfRow at h
  split at h
  · cases h
  · obtain ⟨field, -, h⟩ := bind_eq_ok.mp h
    obtain ⟨text, -, h⟩ := bind_eq_ok.mp h
    obtain ⟨login, -, h⟩ := bind_eq_ok.mp h
    obtain ⟨field, -, h⟩ := bind_eq_ok.mp h
    obtain ⟨text, -, h⟩ := bind_eq_ok.mp h
    obtain ⟨name, -, h⟩ := bind_eq_ok.mp h
    obtain ⟨field, -, h⟩ := bind_eq_ok.mp h
    obtain ⟨createdBy, -, h⟩ := bind_eq_ok.mp h
    obtain ⟨field, -, h⟩ := bind_eq_ok.mp h
    obtain ⟨time, -, h⟩ := bind_eq_ok.mp h
    obtain ⟨createdDate, -, h⟩ := bind_eq_ok.mp h
    cases h
    rfl

/-- `Authorizer::GetUserInfo` from the return of the transaction on. The code that the transaction
returned is not looked at. -/
def getUserInfo (userId : UInt64) (rows : Rows) : Result × UserInfo :=
  match rows with
  | [] => (.notFound, {})
  | [row] =>
    match userOfRow userId row with
    | .ok userInfo => (.success, userInfo)
    | .error _ => (.error, {})
  | _ => (.error, {})

/-! ## GenerateToken -/

/-- The statement of `Authorizer::ValidateCredentials`. -/
def selectCredentials (login password : String) : Query :=
  QueryFactory.createSelect
    { table := .user
      columns := [.userId, .name, .createdBy, .createdDate]
      condition := some (.group .and [.real .login (.text login) .equal,
        .real .passwordHashed (.text password) .equal]) }

/-- The user of one row of this statement. -/
def credentialsOfRow (login : String) (row : List (Option String)) :
    Except Exception UserInfo := do
  let id ← required (← getUInt64 (← fieldAt row 0))
  let name ← required (← getString (← fieldAt row 1))
  let createdBy ← getUInt64 (← fieldAt row 2)
  let createdDate ← required (← getUInt64 (← fieldAt row 3))
  return { id := some id, name, createdBy, createdDate, login }

/-- `Authorizer::ValidateCredentials` from the return of the transaction on. The code that the
transaction returned is not looked at. -/
def validateCredentials (login : String) (rows : Rows) : Result × UserInfo :=
  match rows with
  | [] => (.notFound, {})
  | [row] =>
    match credentialsOfRow login row with
    | .ok userInfo => (.success, userInfo)
    | .error _ => (.error, {})
  | _ => (.error, {})

/-- How long a token is valid. -/
def tokenLifetime : UInt64 := 30 * 60 * 60 * 1000 * 1000 * 1000

/-- `Authorizer::GenerateToken` up to the transaction. -/
def checkCredentials (login password : String) : Except Result Unit :=
  if login.isEmpty || password.isEmpty then .error .unauthorized else .ok ()

/-- `Authorizer::GenerateToken` from the return of `ValidateCredentials` on. `createToken` signs a
user and a time. -/
def generateToken (createToken : UInt64 → UInt64 → String) (timestamp : UInt64)
    (validated : Result × UserInfo) : Result × String × UserInfo :=
  let (res, userInfo) := validated
  if res ≠ .success then
    (.unauthorized, "", userInfo)
  else
    match userInfo.id with
    | none => (.unauthorized, "", userInfo)
    | some id => (.success, createToken id (timestamp + tokenLifetime), userInfo)

/-- A token is made, or the user is refused. -/
theorem generateToken_result (createToken : UInt64 → UInt64 → String) (timestamp : UInt64)
    (validated : Result × UserInfo) :
    (generateToken createToken timestamp validated).1 = .success ∨
      (generateToken createToken timestamp validated).1 = .unauthorized := by
  unfold generateToken
  dsimp only
  split
  · exact .inr rfl
  · cases validated.2.id with
    | none => exact .inr rfl
    | some id => exact .inl rfl

end Srv.Auth

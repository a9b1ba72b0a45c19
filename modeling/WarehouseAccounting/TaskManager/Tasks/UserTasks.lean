import WarehouseAccounting.Services.Authorizer
import WarehouseAccounting.TaskManager.Tasks.SingleItems

/-!
# Tasks of the authorizer

The tasks `Authorization`, `CreateUser` and `GetCurrentUser`, whose transactions are those of the
authorizer.
-/

namespace TaskMgr.Tasks

open Ufa Srv.Db Srv.Db.Trsct Srv.Auth

namespace Authorization

/-- The object of the answer. -/
def json (dateProvider : DateProvider) (token : String) (userInfo : UserInfo) : Json :=
  .object (putAll [
    ("token", some (.string token)),
    ("user_id", userInfo.id.map .unsigned),
    ("login", some (.string userInfo.login)),
    ("name", some (.string userInfo.name)),
    ("created_date", some (dateProvider.json userInfo.createdDate)),
    ("created_by", userInfo.createdBy.map .unsigned)])

/-- `Authorization`. The password comes hashed from the request. -/
def task (dateProvider : DateProvider) (createToken : UInt64 → UInt64 → String)
    (login hashPassword : String) : TransactionTask where
  Memory := Rows
  prepare :=
    match checkCredentials login hashPassword with
    | .error result => .error result
    | .ok () =>
      .ok (.query (selectCredentials login hashPassword).options
        (selectCredentials login hashPassword).params (fun rows _ => rows) .null, [])
  finish := fun _ rows =>
    let (authResult, token, userInfo) :=
      generateToken createToken (dateProvider.getTimestamp 0) (validateCredentials login rows)
    finishDone authResult (.ok (json dateProvider token userInfo))
  selected := id

end Authorization

/-- The members of `CreateUser`, with the variable of its statement. -/
structure CreateUser where
  userInfo : UserInfo
  results : Rows := []

namespace CreateUser

/-- The object of the answer. -/
def json (dateProvider : DateProvider) (userInfo : UserInfo) : Except Exception Json := do
  let id ← required userInfo.id
  let createdBy ← required userInfo.createdBy
  return .object (putAll [
    ("name", some (.string userInfo.name)),
    ("login", some (.string userInfo.login)),
    ("user_id", some (.unsigned id)),
    ("created_date", some (dateProvider.json userInfo.createdDate)),
    ("created_by", some (.unsigned createdBy))])

/-- `CreateUser`. -/
def task (dateProvider : DateProvider) (userInfo : UserInfo) : TransactionTask where
  Memory := CreateUser
  prepare :=
    match checkUser (dateProvider.getTimestamp 0) userInfo with
    | .error result => .error result
    | .ok userInfo =>
      prepared do
        let query ← insertUser userInfo
        return (.query query.options query.params
          (fun results task => { task with results }) .null, { userInfo })
  finish := fun result task => do
    let (createResult, userInfo) ← createdUser result task.results task.userInfo
    finishDone createResult (json dateProvider userInfo)
  selected := results

end CreateUser

namespace GetCurrentUser

/-- The object of the answer. -/
def json (dateProvider : DateProvider) (user : UserInfo) : Except Exception Json := do
  let id ← required user.id
  return .object (putAll [
    ("user_id", some (.unsigned id)),
    ("name", some (.string user.name)),
    ("login", some (.string user.login)),
    ("created_date", some (dateProvider.json user.createdDate)),
    ("created_by", user.createdBy.map .unsigned)])

/-- `GetCurrentUser`, of the initiative user. -/
def task (dateProvider : DateProvider) (initiativeUserId : UInt64) : TransactionTask where
  Memory := Rows
  prepare := .ok (.query (selectUser initiativeUserId).options (selectUser initiativeUserId).params
    (fun rows _ => rows) .null, [])
  finish := fun _ rows =>
    let (createResult, user) := getUserInfo initiativeUserId rows
    finishDone createResult do
      return resultJson (← json dateProvider user)
  selected := id

end GetCurrentUser

end TaskMgr.Tasks

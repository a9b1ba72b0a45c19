import WarehouseAccounting.TaskManager.WorkersManager
import WarehouseAccounting.Webserver.Session

/-!
# Requests and their responses

The handling of requests on the threads of the server, where every call may throw, together with
the queue of the task manager and its workers: who sends the response to a request.

- `Calls.handleRequest`: `HandleRequest`, with exceptions; `Calls.handleRequest_of_agrees` says that
  it is the one of the session when nothing throws.
- `Calls.onRead_cases`: a handler adds the task of a request that it accepts, or sends one response.
- `System.Answered.step`: a request waits for its handler, was handed to its task, or was refused.
- `System.exactly_one_response`: so it is in every interleaving of handlers and workers.
-/

namespace Ws

open Ufa Session Srv.DocMgr TaskMgr
open Srv.Db.Trsct (Exception)
open TaskMgr.Tasks (Callback)

/-! ## Handlers -/

/-- A class of `tasks::TasksList`. -/
structure TaskClass where
  /-- `GetIdentificator`. -/
  identificator : TaskIdentificator
  /-- The constructor. -/
  construct : TaskInfo → Except CheckFailed Unit := fun _ => .ok ()
  parseInternal : Json → Except CheckFailed Unit := fun _ => .ok ()

/-- What a handler calls, each of which returns or throws. -/
structure Calls where
  /-- `IAuthorizer::ValidateToken`: the code, and what is left in `userId`. -/
  validateToken : String → UInt64 → Except CheckFailed (Result × UInt64)
  /-- `RestoreDocument` with a check of existence. -/
  restoreDocument : LexicalPath → Except CheckFailed (Result × LexicalPath)
  /-- `http::file_body::value_type::open`: the size, or the text of the error code. -/
  openFile : LexicalPath → Except String Nat
  /-- `json::parse`, or that it throws, which `HandleApi` catches. -/
  parseJson : String → Option Json
  /-- `taskInfo.body.dump()`, for tracing. -/
  dump : Json → Except CheckFailed Unit
  /-- `tasks::TasksList`. -/
  tasksList : List TaskClass

/-- `GenerateTask` with `BaseTask::Initialize`: the first class with the identificator is
constructed and parses the body, which is traced before. -/
def generateTask (tasksList : List TaskClass) (dump : Json → Except CheckFailed Unit)
    (taskInfo : TaskInfo) : Except CheckFailed Result :=
  match tasksList.find? fun task => task.identificator = taskInfo.identificator with
  | none => .ok .notFound
  | some task => do
    task.construct taskInfo
    dump taskInfo.body
    match task.parseInternal taskInfo.body with
    | .error _ => return .wrongFormat
    | .ok () => return .success

/-- The class is the first one with the identificator; it is constructed, and its body is traced and
parsed. -/
structure TaskClass.Takes (tasksList : List TaskClass) (dump : Json → Except CheckFailed Unit)
    (taskInfo : TaskInfo) (task : TaskClass) : Prop where
  first : ∃ others later, tasksList = others ++ task :: later ∧
    ∀ other ∈ others, other.identificator ≠ taskInfo.identificator
  identificator : task.identificator = taskInfo.identificator
  constructed : task.construct taskInfo = .ok ()
  traced : dump taskInfo.body = .ok ()
  parsed : task.parseInternal taskInfo.body = .ok ()

/-- A task is generated when a class of the list takes it, and only then. -/
theorem generateTask_eq_success_iff {tasksList : List TaskClass}
    {dump : Json → Except CheckFailed Unit} {taskInfo : TaskInfo} :
    generateTask tasksList dump taskInfo = .ok .success ↔
      ∃ task, TaskClass.Takes tasksList dump taskInfo task := by
  have hfind (task : TaskClass) :
      (tasksList.find? fun task => task.identificator = taskInfo.identificator) = some task ↔
        task.identificator = taskInfo.identificator ∧
          ∃ others later, tasksList = others ++ task :: later ∧
            ∀ other ∈ others, other.identificator ≠ taskInfo.identificator := by
    rw [List.find?_eq_some_iff_append]
    simp
  unfold generateTask
  constructor
  · intro h
    split at h
    · cases h
    rename_i task hfound
    obtain ⟨hidentificator, hfirst⟩ := (hfind task).mp hfound
    cases hconstructed : task.construct taskInfo with
    | error exception => rw [hconstructed] at h; cases h
    | ok _ =>
      cases htraced : dump taskInfo.body with
      | error exception => rw [hconstructed, htraced] at h; cases h
      | ok _ =>
        cases hparsed : task.parseInternal taskInfo.body with
        | error exception => rw [hconstructed, htraced, hparsed] at h; cases h
        | ok _ => exact ⟨task, hfirst, hidentificator, hconstructed, htraced, hparsed⟩
  · rintro ⟨task, hfirst, hidentificator, hconstructed, htraced, hparsed⟩
    rw [(hfind task).mpr ⟨hidentificator, hfirst⟩]
    simp only [hconstructed, htraced, hparsed]
    rfl

namespace Calls

variable (calls : Calls) (request : Request)

/-- What `TaskManager::AddTask` returns. With success the task goes to the queue. -/
def addTask (taskInfo : TaskInfo) : Except CheckFailed Result :=
  generateTask calls.tasksList calls.dump taskInfo

/-- `BaseSession::Authenticate`. -/
def authenticate (userId : UInt64) : Except CheckFailed (Result × UInt64) :=
  let token := request.field authenticateHeader
  if token.isEmpty then .ok (.wrongFormat, userId) else calls.validateToken token userId

/-- An exception that nothing in `HandleRequest` catches. -/
def uncaught (exception : CheckFailed) : Handling where
  effects := []
  thrown := some exception

/-- The body of the task that a request asks for. -/
def taskBody : Option Json :=
  if request.method ∈ paramsVerbs then
    some (convertFromParams request.target)
  else
    calls.parseJson request.body

/-- `BaseSession::HandleApi`. -/
def handleApi (initiativeUserId : UInt64) : Handling :=
  match parseTaskIdentificator request.target request.method with
  | .error _ => respond request "Task not found" .badRequest
  | .ok identificator =>
    match calls.taskBody request with
    | none => respond request "Invalid body format" .badRequest
    | some body =>
      match calls.dump body with
      | .error exception => uncaught exception
      | .ok () =>
        let taskInfo := { identificator, body, initiativeUserid := initiativeUserId }
        match calls.addTask taskInfo with
        | .error exception => { effects := [.addTask taskInfo], thrown := some exception }
        | .ok result =>
          if result = .wrongFormat then
            { effects := .addTask taskInfo ::
                (respond request "Invalid body format" .badRequest).effects }
          else if result = .notFound then
            { effects := .addTask taskInfo ::
                (respond request "Task not found" .notImplemented).effects }
          else if result = .success then
            { effects := [.addTask taskInfo] }
          else
            { effects := [.addTask taskInfo]
              thrown := some ⟨"Error while parsing body: " ++ resultToString result⟩ }

/-- `BaseSession::HandleFile`. -/
def handleFile : Handling :=
  match calls.restoreDocument (requestedFile request.target) with
  | .error exception => uncaught exception
  | .ok (result, file) =>
    if result = .wrongFormat then
      respond request "Invalid filename" .badRequest
    else if result = .notFound then
      respond request "File not found" .notFound
    else
      match calls.openFile file with
      | .error ec => uncaught ⟨"Error opening file: " ++ ec⟩
      | .ok size =>
        let response (body : ResponseBody) : Effect :=
          .sendResponse
            { status := .ok
              contentType := getMimeType file.extension
              keepAlive := request.keepAlive
              body }
        if request.method = .head then
          { effects := [response (.empty size), response (.file file size)] }
        else
          { effects := [response (.file file size)] }

/-- `BaseSession::HandleRequest`. -/
def handleRequest : Handling :=
  if request.method ∉ allowedVerbs then
    respond request "Invalid verb" .badRequest
  else if request.target.toList.head? ≠ some '/' then
    respond request "Invalid target" .badRequest
  else if isApiTarget request.target then
    if isAuthorizationTarget request.target then
      calls.handleApi request 0
    else
      match calls.authenticate request 0 with
      | .error exception => uncaught exception
      | .ok (authenticationResult, initiativeUserId) =>
        if authenticationResult = .wrongFormat then
          respond request "Invalid authentication header" .unauthorized
        else if authenticationResult = .unauthorized then
          respond request "Unauthorized" .unauthorized
        else if authenticationResult = .success then
          calls.handleApi request initiativeUserId
        else
          uncaught ⟨"authenticationResult"⟩
  else
    calls.handleFile request

/-- The calls do what the services do, and throw nothing. -/
structure Agrees (services : Services) : Prop where
  validateToken : ∀ token userId,
    calls.validateToken token userId = .ok (services.validateToken token userId)
  restoreDocument : ∀ path, calls.restoreDocument path =
    .ok (services.documentManager.restoreDocument services.fileExists path true)
  openFile : calls.openFile = services.openFile
  parseJson : calls.parseJson = services.parseJson
  dump : ∀ body, calls.dump body = .ok ()
  addTask : ∀ taskInfo, calls.addTask taskInfo = .ok (services.addTask taskInfo)

/-- Then requests are handled as the session handles them. -/
theorem handleRequest_of_agrees {services : Services} (h : calls.Agrees services) :
    calls.handleRequest request = Session.handleRequest services request := by
  have hbody : calls.taskBody request = Session.taskBody services request := by
    unfold taskBody Session.taskBody
    rw [h.parseJson]
  have hauthenticate : calls.authenticate request 0 =
      .ok (Session.authenticate services request 0) := by
    unfold authenticate Session.authenticate
    dsimp only
    split
    · rfl
    · exact h.validateToken _ _
  -- Both handlers branch on the same values; in every branch they do the same.
  have hapi : ∀ userId, calls.handleApi request userId =
      Session.handleApi services request userId := by
    intro userId
    unfold handleApi Session.handleApi
    rw [hbody]
    cases parseTaskIdentificator request.target request.method with
    | error exception => simp only
    | ok identificator =>
      cases Session.taskBody services request with
      | none => simp only
      | some body => simp only [h.dump, h.addTask]
  have hfile : calls.handleFile request = Session.handleFile services request := by
    unfold handleFile Session.handleFile
    rw [h.restoreDocument, h.openFile]
    obtain ⟨result, file⟩ := services.documentManager.restoreDocument services.fileExists
      (requestedFile request.target) true
    dsimp only
    cases services.openFile file with
    | error ec => simp only [uncaught]
    | ok size => simp only
  unfold handleRequest Session.handleRequest
  rw [hauthenticate, hfile]
  obtain ⟨authenticationResult, initiativeUserId⟩ := Session.authenticate services request 0
  simp only [hapi, uncaught]

end Calls

/-! ## What a handler does -/

/-- What a handler does for others to see. -/
inductive Action where
  /-- `WorkersManager::AddTask`. -/
  | addTask (taskInfo : TaskInfo)
  | sendResponse (response : Response)

namespace Calls

variable (calls : Calls) (request : Request)

/-- A task goes to the queue if it was generated. -/
def action : Effect → Option Action
  | .addTask taskInfo =>
    match calls.addTask taskInfo with
    | .ok .success => some (.addTask taskInfo)
    | _ => none
  | .sendResponse response => some (.sendResponse response)

/-- `OnRead` of both sessions, from what `HandleRequest` does. -/
def actions (handling : Handling) : List Action :=
  handling.effects.filterMap calls.action ++
    if handling.thrown.isSome then
      [.sendResponse (prepareResponse request "Server Error" .internalServerError)]
    else []

/-- `OnRead` of both sessions. -/
def onRead : List Action := calls.actions request (calls.handleRequest request)

/-- A refusal is one response. -/
@[simp]
theorem actions_respond (body : String) (status : Status) :
    calls.actions request (respond request body status) =
      [.sendResponse (prepareResponse request body status)] := rfl

/-- An exception is one response. -/
@[simp]
theorem actions_uncaught (exception : CheckFailed) :
    calls.actions request (uncaught exception) =
      [.sendResponse (prepareResponse request "Server Error" .internalServerError)] := rfl

/-- A task that is generated goes to the queue. -/
theorem action_of_success {taskInfo : TaskInfo} (h : calls.addTask taskInfo = .ok .success) :
    calls.action (.addTask taskInfo) = some (.addTask taskInfo) := by
  rw [action, h]

/-- Others do not. -/
theorem action_of_ne_success {taskInfo : TaskInfo} (h : calls.addTask taskInfo ≠ .ok .success) :
    calls.action (.addTask taskInfo) = none := by
  simp only [action]

/-- A request with a task for a user: its target names a task of the list, whose class is
constructed and parses the body. -/
structure Generates (taskInfo : TaskInfo) : Prop where
  identificator :
    parseTaskIdentificator request.target request.method = .ok taskInfo.identificator
  body : calls.taskBody request = some taskInfo.body
  traced : calls.dump taskInfo.body = .ok ()
  taken : ∃ task, TaskClass.Takes calls.tasksList calls.dump taskInfo task

/-- A request that is not refused before the queue. -/
structure Accepts (taskInfo : TaskInfo) : Prop extends calls.Generates request taskInfo where
  verb : request.method ∈ allowedVerbs
  slash : request.target.toList.head? = some '/'
  api : isApiTarget request.target = true
  authenticated :
    if isAuthorizationTarget request.target then taskInfo.initiativeUserid = 0
    else calls.authenticate request 0 = .ok (.success, taskInfo.initiativeUserid)

/-- What a handler does when it does not accept its request. -/
def Refuses (handling : Handling) : Prop :=
  ∃ response, calls.actions request handling = [.sendResponse response]

/-- `HandleApi` adds the task of the request, or sends one response. -/
theorem handleApi_cases (userId : UInt64) :
    (∃ taskInfo, taskInfo.initiativeUserid = userId ∧ calls.Generates request taskInfo ∧
        calls.actions request (calls.handleApi request userId) = [.addTask taskInfo]) ∨
      (∀ taskInfo, taskInfo.initiativeUserid = userId → ¬ calls.Generates request taskInfo) ∧
        calls.Refuses request (calls.handleApi request userId) := by
  unfold handleApi
  split
  · rename_i exception hparse
    refine .inr ⟨fun taskInfo _ h => ?_, _, actions_respond _ _ _ _⟩
    rw [h.identificator] at hparse
    cases hparse
  rename_i identificator hparse
  split
  · rename_i hbody
    refine .inr ⟨fun taskInfo _ h => ?_, _, actions_respond _ _ _ _⟩
    rw [h.body] at hbody
    cases hbody
  rename_i body hbody
  -- Only one task can be meant.
  have hunique : ∀ taskInfo, taskInfo.initiativeUserid = userId →
      calls.Generates request taskInfo → taskInfo = ⟨identificator, body, userId⟩ := by
    intro taskInfo huser h
    have hidentificator := Except.ok.inj (hparse.symm.trans h.identificator)
    have htaskBody := Option.some.inj (hbody.symm.trans h.body)
    rw [hidentificator, htaskBody, ← huser]
  split
  · rename_i exception hdump
    refine .inr ⟨fun taskInfo huser h => ?_, _, actions_uncaught _ _ _⟩
    have htraced := h.traced
    rw [hunique taskInfo huser h, hdump] at htraced
    cases htraced
  rename_i hdump
  dsimp only
  by_cases hadded : calls.addTask ⟨identificator, body, userId⟩ = .ok .success
  · refine .inl ⟨_, rfl, ⟨hparse, hbody, hdump, generateTask_eq_success_iff.mp hadded⟩, ?_⟩
    rw [hadded]
    show ([Effect.addTask _].filterMap calls.action ++ []) = _
    rw [List.filterMap_cons_some (action_of_success calls hadded)]
    rfl
  · have hnone := action_of_ne_success calls hadded
    refine .inr ⟨fun taskInfo huser h => hadded ?_, ?_⟩
    · rw [← hunique taskInfo huser h]
      exact generateTask_eq_success_iff.mpr h.taken
    unfold Refuses actions
    split
    · exact ⟨_, by rw [List.filterMap_cons_none hnone]; rfl⟩
    · rename_i result hresult
      split
      · exact ⟨_, by rw [List.filterMap_cons_none hnone]; rfl⟩
      split
      · exact ⟨_, by rw [List.filterMap_cons_none hnone]; rfl⟩
      split
      · rename_i hsuccess
        exact absurd (hresult.trans (congrArg _ hsuccess)) hadded
      · exact ⟨_, by rw [List.filterMap_cons_none hnone]; rfl⟩

/-- `HandleFile` sends one response, since requests with the verb HEAD do not get there. -/
theorem handleFile_refuses (h : request.method ∈ allowedVerbs) :
    calls.Refuses request (calls.handleFile request) := by
  have hhead : request.method ≠ .head := by
    intro hhead
    rw [hhead] at h
    simp [allowedVerbs] at h
  unfold handleFile
  split
  · exact ⟨_, actions_uncaught _ _ _⟩
  · split
    · exact ⟨_, actions_respond _ _ _ _⟩
    split
    · exact ⟨_, actions_respond _ _ _ _⟩
    split
    · exact ⟨_, actions_uncaught _ _ _⟩
    · exact ⟨_, rfl⟩

/-- A handler adds the task of its request, or sends one response. -/
theorem onRead_cases :
    (∃ taskInfo, calls.Accepts request taskInfo ∧
        calls.onRead request = [.addTask taskInfo]) ∨
      (∀ taskInfo, ¬ calls.Accepts request taskInfo) ∧
        ∃ response, calls.onRead request = [.sendResponse response] := by
  show _ ∨ _ ∧ calls.Refuses request (calls.handleRequest request)
  unfold onRead handleRequest
  split
  · rename_i hverb
    exact .inr ⟨fun _ h => hverb h.verb, _, actions_respond _ _ _ _⟩
  rename_i hverb
  split
  · rename_i hslash
    exact .inr ⟨fun _ h => hslash h.slash, _, actions_respond _ _ _ _⟩
  rename_i hslash
  split
  · rename_i hapi
    -- The user is the same in all tasks that the request can mean.
    have haccepts : ∀ {userId : UInt64},
        (∀ taskInfo : TaskInfo, (if isAuthorizationTarget request.target then
            taskInfo.initiativeUserid = 0
          else calls.authenticate request 0 = .ok (.success, taskInfo.initiativeUserid)) ↔
          taskInfo.initiativeUserid = userId) →
        (∃ taskInfo, calls.Accepts request taskInfo ∧
            calls.actions request (calls.handleApi request userId) = [.addTask taskInfo]) ∨
          (∀ taskInfo, ¬ calls.Accepts request taskInfo) ∧
            calls.Refuses request (calls.handleApi request userId) := by
      intro userId huser
      rcases handleApi_cases calls request userId with ⟨taskInfo, hid, h, hactions⟩ | ⟨hno, h⟩
      · exact .inl ⟨taskInfo, ⟨h, by simpa using hverb, by simpa using hslash, hapi,
          (huser taskInfo).mpr hid⟩, hactions⟩
      · exact .inr ⟨fun taskInfo h' => hno taskInfo ((huser taskInfo).mp h'.authenticated)
          h'.toGenerates, h⟩
    split
    · rename_i hauthorization
      exact haccepts fun taskInfo => by rw [if_pos hauthorization]
    rename_i hauthorization
    -- A request that is not authenticated starts no task.
    have hrefused : (∀ userId, calls.authenticate request 0 ≠ .ok (.success, userId)) →
        ∀ taskInfo, ¬ calls.Accepts request taskInfo := by
      intro hno taskInfo h
      have hauthenticated := h.authenticated
      rw [if_neg hauthorization] at hauthenticated
      exact hno _ hauthenticated
    split
    · rename_i exception hauthenticate
      refine .inr ⟨hrefused fun userId h => ?_, _, actions_uncaught _ _ _⟩
      cases hauthenticate.symm.trans h
    · rename_i result userId hauthenticate
      split
      · rename_i hresult
        refine .inr ⟨hrefused fun userId h => ?_, _, actions_respond _ _ _ _⟩
        rw [hresult] at hauthenticate
        cases hauthenticate.symm.trans h
      split
      · rename_i hresult
        refine .inr ⟨hrefused fun userId h => ?_, _, actions_respond _ _ _ _⟩
        rw [hresult] at hauthenticate
        cases hauthenticate.symm.trans h
      split
      · rename_i hresult
        rw [hresult] at hauthenticate
        refine haccepts fun taskInfo => ?_
        rw [if_neg hauthorization, hauthenticate]
        simp [eq_comm]
      · rename_i hresult
        refine .inr ⟨hrefused fun userId h => ?_, _, actions_uncaught _ _ _⟩
        cases hauthenticate.symm.trans h
        exact hresult rfl
  · rename_i hapi
    exact .inr ⟨fun _ h => hapi h.api,
      handleFile_refuses calls request (by simpa using hverb)⟩

end Calls

/-! ## The server -/

/-- All requests, with the threads that handle them and the workers. A request is known by its
number, and so is its task, whose callback has captured its session. -/
structure System where
  manager : WorkersManager Nat := {}
  requests : List (Calls × Request) := []
  /-- What the handler of a request has yet to do. -/
  handlers : Nat → List Action := fun _ => []
  /-- What `SendResponse` was called with. -/
  responses : Nat → List Response := fun _ => []

namespace System

/-- A step of a thread of the server, or of a worker. -/
inductive Event where
  /-- A request is read; `OnRead` is called. -/
  | read (calls : Calls) (request : Request)
  /-- Its handler goes on. -/
  | handle (id : Nat)
  /-- A worker takes a task. -/
  | take (worker : Fin defaultNumWorkers)
  /-- It has run `ExecuteInternal`, which has returned or thrown. -/
  | execute (worker : Fin defaultNumWorkers) (executed : Except Exception (Result × Json))
  /-- It calls the callback of the task. -/
  | callback (worker : Fin defaultNumWorkers)
  /-- It is done with the task. -/
  | finish (worker : Fin defaultNumWorkers)

/-- A response is sent. -/
def sent (system : System) (id : Nat) (response : Response) : Nat → List Response :=
  Function.update system.responses id (system.responses id ++ [response])

section Steps

variable (text : Json → String) (system : System)

/-- The callback of a task is called. -/
def called (id : Nat) (callback : Callback) : Nat → List Response :=
  match system.requests[id]? with
  | some (_, request) =>
    system.sent id (taskCallback request (text callback.response) callback.result)
  | none => system.responses

/-- One step, if it can be made. -/
def step : Event → Option System
  | .read calls request =>
    some { system with
      requests := system.requests ++ [(calls, request)]
      handlers := Function.update system.handlers system.requests.length (calls.onRead request) }
  | .handle id =>
    match system.handlers id with
    | [] => none
    | .addTask _ :: actions =>
      (system.manager.step (.addTask id)).map fun manager =>
        { system with manager, handlers := Function.update system.handlers id actions }
    | .sendResponse response :: actions =>
      some { system with
        handlers := Function.update system.handlers id actions
        responses := system.sent id response }
  | .take worker => (system.manager.step (.take worker)).map ({ system with manager := · })
  | .execute worker executed =>
    (system.manager.step (.execute worker executed)).map ({ system with manager := · })
  | .callback worker =>
    match system.manager.workers worker with
    | .executed id callback =>
      (system.manager.step (.callback worker)).map fun manager =>
        { system with manager, responses := system.called text id callback }
    | _ => none
  | .finish worker => (system.manager.step (.finish worker)).map ({ system with manager := · })

end Steps

/-- The states of the server. -/
inductive Reachable (text : Json → String) : System → Prop
  | init : Reachable text {}
  | step {system system' : System} {event : Event} (before : Reachable text system)
      (made : system.step text event = some system') : Reachable text system'

/-- Neither a handler nor a worker can go on. -/
def Rests (text : Json → String) (system : System) : Prop :=
  ∀ event, (∀ calls request, event ≠ .read calls request) → system.step text event = none

variable {text : Json → String}

/-- Every step, with what it takes. -/
inductive Stepped (text : Json → String) (system : System) : System → Prop
  | read (calls : Calls) (request : Request) :
      Stepped text system { system with
        requests := system.requests ++ [(calls, request)]
        handlers :=
          Function.update system.handlers system.requests.length (calls.onRead request) }
  | addTask {id : Nat} {taskInfo : TaskInfo} {actions : List Action}
      {manager : WorkersManager Nat} (next : system.handlers id = .addTask taskInfo :: actions)
      (added : system.manager.step (.addTask id) = some manager) :
      Stepped text system
        { system with manager, handlers := Function.update system.handlers id actions }
  | sendResponse {id : Nat} {response : Response} {actions : List Action}
      (next : system.handlers id = .sendResponse response :: actions) :
      Stepped text system { system with
        handlers := Function.update system.handlers id actions
        responses := system.sent id response }
  /-- A worker goes on, and calls no callback. -/
  | work {event : WorkersManager.Event Nat} {manager : WorkersManager Nat}
      (noTask : ∀ id, event ≠ .addTask id) (noCallback : ∀ worker, event ≠ .callback worker)
      (worked : system.manager.step event = some manager) :
      Stepped text system { system with manager }
  | callback {worker : Fin defaultNumWorkers} {id : Nat} {callback : Callback}
      {manager : WorkersManager Nat}
      (executed : system.manager.workers worker = .executed id callback)
      (worked : system.manager.step (.callback worker) = some manager) :
      Stepped text system
        { system with manager, responses := system.called text id callback }

/-- There are no other steps. -/
theorem stepped_of_step {system system' : System} {event : Event}
    (h : system.step text event = some system') : Stepped text system system' := by
  cases event with
  | read calls request =>
    obtain rfl := Option.some.inj h
    exact .read calls request
  | handle id =>
    rw [step] at h
    split at h
    · cases h
    · rename_i taskInfo actions hnext
      obtain ⟨manager, hadded, rfl⟩ := Option.map_eq_some_iff.mp h
      exact .addTask hnext hadded
    · rename_i response actions hnext
      obtain rfl := Option.some.inj h
      exact .sendResponse hnext
  | take worker =>
    obtain ⟨manager, hworked, rfl⟩ := Option.map_eq_some_iff.mp h
    exact .work (by simp) (by simp) hworked
  | execute worker executed =>
    obtain ⟨manager, hworked, rfl⟩ := Option.map_eq_some_iff.mp h
    exact .work (by simp) (by simp) hworked
  | callback worker =>
    rw [step] at h
    split at h
    · rename_i id callback hexecuted
      obtain ⟨manager, hworked, rfl⟩ := Option.map_eq_some_iff.mp h
      exact .callback hexecuted hworked
    · cases h
  | finish worker =>
    obtain ⟨manager, hworked, rfl⟩ := Option.map_eq_some_iff.mp h
    exact .work (by simp) (by simp) hworked

/-! ## Where a request is -/

/-- How far a request has come. -/
inductive Progress (system : System) (id : Nat) (calls : Calls) (request : Request) : Prop
  /-- Its handler has done nothing yet. -/
  | unhandled (handler : system.handlers id = calls.onRead request)
      (added : id ∉ system.manager.added) (responses : system.responses id = [])
  /-- Its task was added. It is answered when the callback is called. -/
  | accepted {taskInfo : TaskInfo} (accepts : calls.Accepts request taskInfo)
      (handler : system.handlers id = []) (added : system.manager.added.count id = 1)
      (responses : (system.responses id).length = system.manager.called.count id)
  /-- It was refused. -/
  | refused {response : Response} (refuses : ∀ taskInfo, ¬ calls.Accepts request taskInfo)
      (handler : system.handlers id = []) (added : id ∉ system.manager.added)
      (responses : system.responses id = [response])

/-- All requests are in good hands. -/
structure Answered (system : System) : Prop where
  accounted : system.manager.Accounted
  /-- Of a request that has not come there is nothing. -/
  fresh : ∀ id, system.requests.length ≤ id →
    system.handlers id = [] ∧ id ∉ system.manager.added ∧ system.responses id = []
  progress : ∀ id calls request, system.requests[id]? = some (calls, request) →
    Progress system id calls request

section Frames

variable {system system' : System} {id : Nat} {calls : Calls} {request : Request}

/-- A step that has nothing to do with a request leaves it where it is. -/
theorem Progress.congr (h : Progress system id calls request)
    (hhandlers : system'.handlers id = system.handlers id)
    (hadded : system'.manager.added.count id = system.manager.added.count id)
    (hcalled : system'.manager.called.count id = system.manager.called.count id)
    (hresponses : system'.responses id = system.responses id) :
    Progress system' id calls request := by
  have hnotAdded : id ∉ system.manager.added → id ∉ system'.manager.added := by
    rw [← List.count_eq_zero, ← List.count_eq_zero, hadded]
    exact fun h => h
  cases h with
  | unhandled handler added responses =>
    exact .unhandled (hhandlers.trans handler) (hnotAdded added) (hresponses.trans responses)
  | accepted accepts handler added responses =>
    exact .accepted accepts (hhandlers.trans handler) (hadded.trans added)
      (by rw [hresponses, hcalled, responses])
  | refused refuses handler added responses =>
    exact .refused refuses (hhandlers.trans handler) (hnotAdded added)
      (hresponses.trans responses)

/-- A task that was not added has not called its callback. -/
theorem Answered.notCalled (h : Answered system) (hadded : id ∉ system.manager.added) :
    system.manager.called.count id = 0 := by
  have hcount := h.accounted.added id
  have hcalled := h.accounted.called id
  rw [List.count_eq_zero.mpr hadded] at hcount
  obtain ⟨hcalls, hexecutions⟩ := system.manager.calls_le_held id
  omega

/-- A request that has a handler, a task or a response has come. -/
theorem Answered.exists_request (h : Answered system)
    (hid : system.handlers id ≠ [] ∨ id ∈ system.manager.added) :
    ∃ calls request, system.requests[id]? = some (calls, request) := by
  by_cases hlength : id < system.requests.length
  · exact ⟨_, _, List.getElem?_eq_getElem hlength⟩
  · obtain ⟨hhandlers, hadded, -⟩ := h.fresh id (by omega)
    exact absurd hid (by simp [hhandlers, hadded])

end Frames

/-- A request that is read waits for its handler. -/
theorem Answered.read {system : System} (h : Answered system) (calls : Calls)
    (request : Request) :
    Answered { system with
      requests := system.requests ++ [(calls, request)]
      handlers :=
        Function.update system.handlers system.requests.length (calls.onRead request) } := by
  refine ⟨h.accounted, fun id hid => ?_, fun id calls' request' hid => ?_⟩
  · rw [List.length_append, List.length_singleton] at hid
    dsimp only
    rw [Function.update_of_ne (by omega)]
    exact h.fresh id (by omega)
  · rcases Nat.lt_trichotomy id system.requests.length with hlt | heq | hgt
    · refine (h.progress id calls' request' ?_).congr ?_ rfl rfl rfl
      · rwa [List.getElem?_append_left hlt] at hid
      · exact Function.update_of_ne (by omega) ..
    · subst heq
      rw [List.getElem?_concat_length] at hid
      cases hid
      obtain ⟨-, hadded, hresponses⟩ := h.fresh _ le_rfl
      exact .unhandled (Function.update_self ..) hadded hresponses
    · rw [List.getElem?_eq_none (by rw [List.length_append, List.length_singleton]; omega)] at hid
      cases hid

/-- A request whose handler still has to do something is not handled. -/
theorem Answered.unhandled {system : System} (h : Answered system) {id : Nat} {calls : Calls}
    {request : Request} (hid : system.requests[id]? = some (calls, request))
    (hhandlers : system.handlers id ≠ []) :
    system.handlers id = calls.onRead request ∧ id ∉ system.manager.added ∧
      system.responses id = [] := by
  cases h.progress id calls request hid with
  | unhandled handler added responses => exact ⟨handler, added, responses⟩
  | accepted accepts handler added responses => exact absurd handler hhandlers
  | refused refuses handler added responses => exact absurd handler hhandlers

/-- A step of one request, or of none, leaves the others where they are. -/
theorem Answered.update {system system' : System} (h : Answered system)
    (haccounted : system'.manager.Accounted) (hrequests : system'.requests = system.requests)
    {id : Nat} {calls : Calls} {request : Request}
    (hid : system.requests[id]? = some (calls, request))
    (hothers : ∀ other, other ≠ id → system'.handlers other = system.handlers other ∧
      system'.manager.added.count other = system.manager.added.count other ∧
      system'.manager.called.count other = system.manager.called.count other ∧
      system'.responses other = system.responses other)
    (hprogress : Progress system' id calls request) : Answered system' := by
  refine ⟨haccounted, fun other hother => ?_, fun other calls' request' hother => ?_⟩
  · have hlength := (List.getElem?_eq_some_iff.mp hid).1
    rw [hrequests] at hother
    obtain ⟨hhandlers, hadded, hresponses⟩ := h.fresh other hother
    obtain ⟨hhandlers', hadded', -, hresponses'⟩ := hothers other (by omega)
    refine ⟨hhandlers'.trans hhandlers, ?_, hresponses'.trans hresponses⟩
    rwa [← List.count_eq_zero, hadded', List.count_eq_zero]
  · rw [hrequests] at hother
    by_cases heq : other = id
    · subst heq
      cases hid.symm.trans hother
      exact hprogress
    · obtain ⟨hhandlers, hadded, hcalled, hresponses⟩ := hothers other heq
      exact (h.progress other calls' request' hother).congr hhandlers hadded hcalled hresponses

/-- A task at the end of a list is none of the others. -/
theorem count_append_other {tasks : List Nat} {id other : Nat} (h : other ≠ id) :
    (tasks ++ [id]).count other = tasks.count other := by
  rw [WorkersManager.count_append_singleton, if_neg h.symm, Nat.add_zero]

/-- It is there once more than before. -/
theorem count_append_self (tasks : List Nat) (id : Nat) :
    (tasks ++ [id]).count id = tasks.count id + 1 := by
  rw [WorkersManager.count_append_singleton, if_pos rfl]

/-- A handler hands a request to its task. -/
theorem Answered.addTask {system : System} (h : Answered system) {id : Nat} {taskInfo : TaskInfo}
    {actions : List Action} (next : system.handlers id = .addTask taskInfo :: actions)
    {manager : WorkersManager Nat} (added : system.manager.step (.addTask id) = some manager) :
    Answered { system with
      manager, handlers := Function.update system.handlers id actions } := by
  obtain ⟨calls, request, hid⟩ := h.exists_request (.inl (by rw [next]; simp))
  obtain ⟨hhandler, hnotAdded, hresponses⟩ := h.unhandled hid (by rw [next]; simp)
  have haccounted := h.accounted.step added
  obtain rfl := Option.some.inj added
  rcases calls.onRead_cases request with ⟨taskInfo', haccepts, honRead⟩ | ⟨-, response, honRead⟩
  · -- The handler has nothing else to do.
    cases next.symm.trans (hhandler.trans honRead)
    refine h.update haccounted rfl hid (fun other hother =>
      ⟨Function.update_of_ne hother .., count_append_other hother, rfl, rfl⟩) ?_
    refine .accepted haccepts (Function.update_self ..) ?_ ?_
    · show (system.manager.added ++ [id]).count id = 1
      rw [count_append_self, List.count_eq_zero.mpr hnotAdded]
    · show (system.responses id).length = system.manager.called.count id
      rw [hresponses, h.notCalled hnotAdded]
      rfl
  · cases next.symm.trans (hhandler.trans honRead)

/-- A handler refuses a request. -/
theorem Answered.sendResponse {system : System} (h : Answered system) {id : Nat}
    {response : Response} {actions : List Action}
    (next : system.handlers id = .sendResponse response :: actions) :
    Answered { system with
      handlers := Function.update system.handlers id actions
      responses := system.sent id response } := by
  obtain ⟨calls, request, hid⟩ := h.exists_request (.inl (by rw [next]; simp))
  obtain ⟨hhandler, hnotAdded, hresponses⟩ := h.unhandled hid (by rw [next]; simp)
  rcases calls.onRead_cases request with ⟨taskInfo, -, honRead⟩ | ⟨hrefuses, response', honRead⟩
  · cases next.symm.trans (hhandler.trans honRead)
  · -- It is the only response of the handler, and the first of the request.
    cases next.symm.trans (hhandler.trans honRead)
    refine h.update h.accounted rfl hid (fun other hother =>
      ⟨Function.update_of_ne hother .., rfl, rfl, Function.update_of_ne hother ..⟩) ?_
    refine @Progress.refused _ _ _ _ response hrefuses (Function.update_self ..) hnotAdded ?_
    show system.sent id response id = [response]
    rw [sent, Function.update_self, hresponses]
    rfl

/-- A worker answers a request. -/
theorem Answered.callback {system : System} (h : Answered system)
    {worker : Fin defaultNumWorkers} {id : Nat} {callback : Callback}
    {manager : WorkersManager Nat}
    (executed : system.manager.workers worker = .executed id callback)
    (worked : system.manager.step (.callback worker) = some manager) :
    Answered { system with manager, responses := system.called text id callback } := by
  -- The task was added, since a worker has it.
  have hadded : 0 < system.manager.added.count id := by
    have hheld := system.manager.held_le worker id
    rw [executed, Worker.held_executed, if_pos rfl] at hheld
    have := h.accounted.added id
    omega
  obtain ⟨calls, request, hid⟩ := h.exists_request (.inr (List.count_pos_iff.mp hadded))
  have haccounted := h.accounted.step worked
  rw [WorkersManager.step_callback executed] at worked
  obtain rfl := Option.some.inj worked
  have hcalled : system.called text id callback =
      system.sent id (taskCallback request (text callback.response) callback.result) := by
    rw [called, hid]
  rw [hcalled]
  refine h.update haccounted rfl hid (fun other hother =>
    ⟨rfl, rfl, count_append_other hother, Function.update_of_ne hother ..⟩) ?_
  cases h.progress id calls request hid with
  | unhandled handler notAdded responses => exact absurd (List.count_pos_iff.mp hadded) notAdded
  | accepted accepts handler added responses =>
    refine .accepted accepts handler added ?_
    show (system.sent id _ id).length = (system.manager.called ++ [id]).count id
    rw [sent, Function.update_self, List.length_append, responses, count_append_self]
    rfl
  | refused refuses handler notAdded responses =>
    exact absurd (List.count_pos_iff.mp hadded) notAdded

/-- A step leaves all requests in good hands. -/
theorem Answered.step {system system' : System} {event : Event} (h : Answered system)
    (hstep : system.step text event = some system') : Answered system' := by
  cases stepped_of_step hstep with
  | read calls request => exact h.read calls request
  | addTask next added => exact h.addTask next added
  | sendResponse next => exact h.sendResponse next
  | work noTask noCallback worked =>
    have hadded := WorkersManager.added_of_step noTask worked
    have hcalled := WorkersManager.called_of_step noCallback worked
    refine ⟨h.accounted.step worked, fun id hid => ?_, fun id calls request hid =>
      (h.progress id calls request hid).congr rfl (by rw [hadded]) (by rw [hcalled]) rfl⟩
    obtain ⟨hhandlers, hnotAdded, hresponses⟩ := h.fresh id hid
    exact ⟨hhandlers, by rwa [hadded], hresponses⟩
  | callback executed worked => exact h.callback executed worked

/-- So they are in every run. -/
theorem answered_of_reachable {system : System} (h : Reachable text system) :
    Answered system := by
  induction h with
  | init =>
    refine ⟨WorkersManager.accounted_init, fun _ _ => ⟨rfl, List.not_mem_nil, rfl⟩,
      fun id calls request hid => ?_⟩
    cases hid
  | step before made ih => exact ih.step made

/-! ## Nobody waits for nothing -/

/-- When nobody can go on, no handler and no worker has anything left to do. -/
theorem Rests.settled {system : System} (h : Rests text system) :
    (∀ id, system.handlers id = []) ∧ system.manager.queue = [] ∧
      ∀ worker, system.manager.workers worker = .waiting := by
  have hworkers : ∀ worker, system.manager.workers worker = .waiting := by
    intro worker
    cases hworker : system.manager.workers worker with
    | waiting => rfl
    | holding id =>
      have hnone := h (.execute worker (.ok (.success, .null))) (by simp)
      simp [step, WorkersManager.step, hworker] at hnone
    | executed id callback =>
      have hnone := h (.callback worker) (by simp)
      simp [step, WorkersManager.step, hworker] at hnone
    | called id =>
      have hnone := h (.finish worker) (by simp)
      simp [step, WorkersManager.step, hworker] at hnone
  refine ⟨fun id => ?_, ?_, hworkers⟩
  · have hnone := h (.handle id) (by simp)
    rw [step] at hnone
    split at hnone
    · assumption
    · cases hnone
    · cases hnone
  · cases hqueue : system.manager.queue with
    | nil => rfl
    | cons id queue =>
      have hnone := h (.take 0) (by simp)
      simp [step, WorkersManager.step, hworkers, hqueue] at hnone

/-- What was taken was added. -/
theorem Answered.notTaken {system : System} (h : Answered system) {id : Nat}
    (hadded : id ∉ system.manager.added) : id ∉ system.manager.taken := by
  rw [h.accounted.fifo] at hadded
  exact fun htaken => hadded (List.mem_append_left _ htaken)

/-- What is finished was added. -/
theorem Answered.notFinished {system : System} (h : Answered system) {id : Nat}
    (hadded : id ∉ system.manager.added) :
    id ∉ system.manager.finished ∧ system.manager.executed.count id = 0 := by
  have hcount := h.accounted.added id
  have hexecuted := h.accounted.executed id
  obtain ⟨-, hexecutions⟩ := system.manager.calls_le_held id
  rw [List.count_eq_zero.mpr hadded] at hcount
  rw [← List.count_eq_zero]
  omega

/-- Of a request whose task was added. -/
theorem Answered.of_accepted (text : Json → String) {system : System} (h : Answered system)
    {id : Nat} (hadded : system.manager.added.count id = 1)
    (hresponses : (system.responses id).length = system.manager.called.count id) :
    (system.responses id).length ≤ 1 ∧
      system.manager.queue.count id + system.manager.held id +
        system.manager.finished.count id = 1 ∧
      system.manager.executed.count id ≤ 1 ∧
      (Rests text system → (system.responses id).length = 1) := by
  have hcount := h.accounted.added id
  have hexecuted := h.accounted.executed id
  have hcalled := h.accounted.called id
  obtain ⟨hcalls, hexecutions⟩ := system.manager.calls_le_held id
  refine ⟨by omega, by omega, by omega, fun hrests => ?_⟩
  obtain ⟨-, hqueue, hworkers⟩ := hrests.settled
  have hheld : system.manager.held id = 0 := by
    simp [WorkersManager.held, hworkers]
  rw [hqueue, List.count_nil] at hcount
  omega

/-- In every interleaving of the handlers with the workers a request has at most one response; one
that is refused before the queue is given to no worker, and has its response when its handler is
done; every task that was added is queued, held by one worker or finished; the queue is first in,
first out; every task is executed at most once, and one that is finished was executed once, its
callback was called once, and the request has its response. When nobody can go on, every request
has its response. -/
theorem exactly_one_response {system : System} (h : Reachable text system) :
    system.manager.added = system.manager.taken ++ system.manager.queue ∧
      ∀ id calls request, system.requests[id]? = some (calls, request) →
        (system.responses id).length ≤ 1 ∧
        ((∀ taskInfo, ¬ calls.Accepts request taskInfo) →
          id ∉ system.manager.added ∧ id ∉ system.manager.taken ∧
            (system.handlers id = [] → (system.responses id).length = 1)) ∧
        (id ∈ system.manager.added →
          system.manager.queue.count id + system.manager.held id +
            system.manager.finished.count id = 1) ∧
        system.manager.executed.count id ≤ 1 ∧
        (id ∈ system.manager.finished →
          system.manager.executed.count id = 1 ∧ system.manager.called.count id = 1 ∧
            (system.responses id).length = 1) ∧
        (Rests text system → (system.responses id).length = 1) := by
  have hanswered := answered_of_reachable h
  refine ⟨hanswered.accounted.fifo, fun id calls request hid => ?_⟩
  cases hanswered.progress id calls request hid with
  | unhandled handler added responses =>
    obtain ⟨hfinished, hexecuted⟩ := hanswered.notFinished added
    have hpending : system.handlers id ≠ [] := by
      rw [handler]
      rcases calls.onRead_cases request with ⟨taskInfo, -, honRead⟩ | ⟨-, response, honRead⟩ <;>
        simp [honRead]
    refine ⟨by simp [responses], fun _ => ⟨added, hanswered.notTaken added,
      fun hdone => absurd hdone hpending⟩, fun hadded => absurd hadded added, by omega,
      fun hdone => absurd hdone hfinished, fun hrests => ?_⟩
    exact absurd (hrests.settled.1 id) hpending
  | accepted accepts handler added responses =>
    obtain ⟨hresponses, hwhere, hexecuted, hrests⟩ := hanswered.of_accepted text added
      responses
    refine ⟨hresponses, fun hrefuses => absurd accepts (hrefuses _), fun _ => hwhere, hexecuted,
      fun hfinished => ?_, hrests⟩
    obtain ⟨honce, hcalled⟩ := hanswered.accounted.finished added hfinished
    exact ⟨honce, hcalled, responses.trans hcalled⟩
  | refused refuses handler added responses =>
    obtain ⟨hfinished, hexecuted⟩ := hanswered.notFinished added
    have hone : (system.responses id).length = 1 := by rw [responses]; rfl
    exact ⟨hone.le, fun _ => ⟨added, hanswered.notTaken added, fun _ => hone⟩,
      fun hadded => absurd hadded added, by omega, fun hdone => absurd hdone hfinished,
      fun _ => hone⟩

/-! ## Two requests -/

/-- The server after some steps. -/
def run (text : Json → String) : System → List Event → Option System
  | system, [] => some system
  | system, event :: events => (system.step text event).bind (run text · events)

/-- Such a server is reachable. -/
theorem Reachable.run {events : List Event} {system system' : System}
    (hbefore : Reachable text system) (h : System.run text system events = some system') :
    Reachable text system' := by
  induction events generalizing system with
  | nil =>
    obtain rfl := Option.some.inj h
    exact hbefore
  | cons event events ih =>
    rw [System.run, Option.bind_eq_some_iff] at h
    obtain ⟨middle, hmade, hrest⟩ := h
    exact ih (hbefore.step hmade) hrest

/-- Authorizations are the only tasks, and nobody has a token. -/
def authorizationCalls : Calls where
  validateToken _ userId := .ok (.unauthorized, userId)
  restoreDocument path := .ok (.notFound, path)
  openFile _ := .error "no such file"
  parseJson _ := none
  dump _ := .ok ()
  tasksList := [{ identificator := .authorization }]

/-- A request for a token. -/
def authorizationRequest : Request where
  method := .get
  target := "/api/authorization?login=1"

/-- It is refused without a header, since its target does not end where an authorization does; the
one without parameters is given to a worker, which throws. -/
def authorizationRun : List Event :=
  [.read authorizationCalls authorizationRequest,
    .read authorizationCalls { authorizationRequest with target := "/api/authorization" },
    .handle 1, .take 2, .handle 0, .execute 2 (.error .other), .callback 2,
    .finish 2]

/-- Both have one response. -/
theorem exactly_one_response_authorization :
    ∃ system, run (fun _ => "{}") {} authorizationRun = some system ∧
      system.manager.finished = [1] ∧ (system.responses 1).length = 1 ∧
      (system.responses 0).length ≤ 1 := by
  have hrun : (run (fun _ => "{}") {} authorizationRun).isSome = true := by decide +kernel
  obtain ⟨system, hsystem⟩ := Option.isSome_iff_exists.mp hrun
  have hsome := fun {β : Type} (f : System → β) =>
    congrArg (Option.map f) hsystem
  have hfinished : system.manager.finished = [1] := by
    have h := hsome fun system => system.manager.finished
    exact Option.some.inj (h.symm.trans (by decide +kernel))
  have hrequests : system.requests = [(authorizationCalls, authorizationRequest),
      (authorizationCalls, { authorizationRequest with target := "/api/authorization" })] := by
    have h := hsome System.requests
    exact Option.some.inj (h.symm.trans rfl)
  have hresponse := (exactly_one_response (Reachable.run .init hsystem)).2
  refine ⟨system, hsystem, hfinished, ?_, ?_⟩
  · obtain ⟨-, -, -, -, h, -⟩ := hresponse 1 _ _ (by rw [hrequests]; rfl)
    exact (h (by rw [hfinished]; simp)).2.2
  · exact (hresponse 0 _ _ (by rw [hrequests]; rfl)).1

end System

end Ws

import WarehouseAccounting.Foundations.Json
import WarehouseAccounting.Services.DocumentManager

/-!
# HTTP sessions

`BaseSession` of `base_session.cpp`: a request is refused, handed to the task manager, or
answered with a file under the document root. A handling is the list of what the session does,
and the exception that ended it, if any. Texts are byte strings: a `Char` is one byte.

- `handleRequest_addTask`: a task other than `Authorization` is only added for a user whose
  token was validated.
- `requestedFile_serves_iff`: the targets for which the document manager keeps its promise.
-/

namespace Ws.Session

open Ufa Srv.DocMgr

/-! ## Requests, tasks and responses -/

/-- `http::verb`, of which the session tells three apart. -/
inductive Verb where
  | get
  | post
  | head
  | other (name : String)
  deriving DecidableEq, Repr

/-- `http::to_string(verb)`. -/
def Verb.toString : Verb → String
  | .get => "GET"
  | .post => "POST"
  | .head => "HEAD"
  | .other name => name

/-- `AUTHORIZATION_TARGET`. -/
def authorizationTarget : String := "/authorization"

/-- `AUTHENTICATE_HEADER`. -/
def authenticateHeader : String := "Authorization"

/-- `API_TARGET`. -/
def apiTarget : String := "/api"

/-- `ALLOWED_VERBS`. -/
def allowedVerbs : List Verb := [.get, .post]

/-- `PARAMS_VERBS`. -/
def paramsVerbs : List Verb := [.get]

/-- `m_request`. -/
structure Request where
  method : Verb
  target : String
  /-- The header fields, in the order in which they came. -/
  fields : List (String × String) := []
  body : String := ""
  keepAlive : Bool := false

/-- `m_request[name]`: the first field with that name, whatever its case; empty if there is
none. -/
def Request.field (request : Request) (name : String) : String :=
  let lowered (text : String) : List Char := text.toList.map Char.toLower
  match request.fields.find? fun field => lowered field.1 = lowered name with
  | some field => field.2
  | none => ""

/-- `taskmgr::TaskIdentificator`. -/
inductive TaskIdentificator where
  | authorization
  | createUser
  | productsCreate
  | productsMove
  | productsRemove
  | reportsByPeriod
  | reportsCurrent
  | getProduct
  | getWarehouse
  | getInvoice
  | getUser
  | getReport
  | getCurrentUser
  | getProductList
  | getWarehouseList
  | getInvoiceList
  | getUserList
  | getReportList
  | getOperationList
  | getProductSize
  | getWarehouseSize
  | getInvoiceSize
  | getUserSize
  | getReportSize
  | getOperationSize
  | getProductSizeByWarehouse
  | createWarehouse
  deriving DecidableEq, Repr

/-- `taskmgr::TaskInfo`, but for the callback, which is `taskCallback` for every task. -/
structure TaskInfo where
  identificator : TaskIdentificator
  body : Json
  initiativeUserid : UInt64

/-- `http::status`, as far as the session answers with it. -/
inductive Status where
  | ok
  | badRequest
  | unauthorized
  | notFound
  | unprocessableEntity
  | internalServerError
  | notImplemented
  deriving DecidableEq, Repr

/-- The body of a response. -/
inductive ResponseBody where
  | empty (contentLength : Nat)
  | string (text : String)
  | file (path : LexicalPath) (size : Nat)
  deriving DecidableEq, Repr

/-- `http::response`. -/
structure Response where
  status : Status
  contentType : String
  keepAlive : Bool
  body : ResponseBody
  deriving DecidableEq, Repr

/-- What the session does to the world outside. -/
inductive Effect where
  | addTask (taskInfo : TaskInfo)
  | sendResponse (response : Response)

/-- What the handling of a request amounts to. -/
structure Handling where
  effects : List Effect
  /-- The exception that leaves `HandleRequest`. -/
  thrown : Option CheckFailed := none

/-- What the session calls. -/
structure Services where
  /-- `IAuthorizer::ValidateToken`: the code, and what is left in `userId`. -/
  validateToken : String → UInt64 → Result × UInt64
  /-- `m_documentManager`. -/
  documentManager : DocumentManager
  /-- `std::filesystem::exists`. -/
  fileExists : LexicalPath → Bool
  /-- `http::file_body::value_type::open`: the size, or the text of the error code. -/
  openFile : LexicalPath → Except String Nat
  /-- `json::parse`, or that it throws. -/
  parseJson : String → Option Json
  /-- `ITaskManager::AddTask`. -/
  addTask : TaskInfo → Result

/-! ## Helpers of the session -/

/-- The content types of `GetMimeType`. -/
def mimeTypes : List (String × String) :=
  [(".htm", "text/html"), (".html", "text/html"), (".js", "application/javascript"),
    (".css", "text/css"), (".php", "text/html"), (".txt", "text/plain"),
    (".json", "application/json"), (".xml", "application/xml"),
    (".swf", "application/x-shockwave-flash"), (".flv", "video/x-flv"), (".png", "image/png"),
    (".jpe", "image/jpeg"), (".jpeg", "image/jpeg"), (".jpg", "image/jpeg"),
    (".gif", "image/gif"), (".bmp", "image/bmp"), (".ico", "image/vnd.microsoft.icon"),
    (".tiff", "image/tiff"), (".tif", "image/tiff"), (".svg", "image/svg+xml"),
    (".svgz", "image/svg+xml")]

/-- `GetMimeType`. -/
def getMimeType (extension : String) : String :=
  (mimeTypes.lookup extension).getD "application/text"

/-- `ConvertToHttpStatus`. -/
def convertToHttpStatus : Result → Status
  | .wrongFormat => .badRequest
  | .notFound => .notFound
  | .unauthorized => .unauthorized
  | .violation => .unprocessableEntity
  | _ => .internalServerError

/-- The names that `ParseTaskIdentificator` compares with, in its order. -/
def taskTargets : List (String × TaskIdentificator) :=
  [("authorization", .authorization), ("users/create", .createUser),
    ("products/create", .productsCreate), ("products/move", .productsMove),
    ("products/remove", .productsRemove), ("reports/byperiod", .reportsByPeriod),
    ("reports/current", .reportsCurrent), ("product", .getProduct),
    ("warehouse", .getWarehouse), ("invoice", .getInvoice), ("user", .getUser),
    ("report", .getReport), ("currentuser", .getCurrentUser), ("products", .getProductList),
    ("warehouses", .getWarehouseList), ("invoices", .getInvoiceList), ("users", .getUserList),
    ("reports", .getReportList), ("operations", .getOperationList),
    ("productsize", .getProductSize), ("warehousesize", .getWarehouseSize),
    ("invoicesize", .getInvoiceSize), ("usersize", .getUserSize), ("reportsize", .getReportSize),
    ("operationsize", .getOperationSize),
    ("productsizebywarehouse", .getProductSizeByWarehouse),
    ("warehouses/create", .createWarehouse)]

/-- What `ParseTaskIdentificator` leaves of a target: the text after `/api` and one more
character, without the query part. -/
def taskName (target : String) : String :=
  String.ofList ((target.toList.drop (apiTarget.length + 1)).takeWhile (· ≠ '?'))

/-- `ParseTaskIdentificator`. -/
def parseTaskIdentificator (target : String) (verb : Verb) :
    Except CheckFailed TaskIdentificator :=
  match taskTargets.lookup (taskName target) with
  | some identificator => .ok identificator
  | none =>
    .error ⟨"Couldn't parse task identificator. target: " ++ taskName target ++ ", verb: " ++
      verb.toString⟩

/-- `handlePair` of `ConvertFromParams`. A value that starts like a number is a number. -/
def handlePair (members : List (String × Json)) (pair : List Char) : List (String × Json) :=
  if '=' ∈ pair then
    let key := String.ofList (pair.takeWhile (· ≠ '='))
    let value := String.ofList ((pair.dropWhile (· ≠ '=')).drop 1)
    match StringConverters.fromStringInt64 value with
    | .ok valueInt => Json.emplace key (.integer valueInt) members
    | .error _ => Json.emplace key (.string value) members
  else
    members

/-- `ConvertFromParams`. -/
def convertFromParams (target : String) : Json :=
  let text := target.toList
  if '?' ∈ text then
    let firstIndex := text.idxOf '?' + 1
    let lastIndex := text.idxOf '#'
    -- With a `#` before the `?` the unsigned length wraps around, and `substr` takes everything.
    let params :=
      if firstIndex ≤ lastIndex then (text.drop firstIndex).take (lastIndex - firstIndex)
      else text.drop firstIndex
    .object ((params.splitOn '&').foldl handlePair [])
  else
    .null

/-- `string_converters::ToString(ufa::Result)`. -/
def resultToString : Result → String
  | .success => "SUCCESS"
  | .error => "ERROR"
  | .noInterface => "NO_INTERFACE"
  | .reregisteringInterface => "REREGISTERING_INTERFACE"
  | .notFound => "NOT_FOUND"
  | .noStringConverter => "NO_STRING_CONVERTER"
  | .wrongFormat => "WRONG_FORMAT"
  | .duplicate => "DUPLICATE"
  | .unauthorized => "UNAUTHORIZED"
  | .notImplemented => "NOT_IMPLEMENTED"
  | .noConnection => "NO_CONNECTION"
  | .violation => "VIOLATION"

/-! ## The session -/

/-- `BaseSession::PrepareResponse`: a connection is not kept after an error. -/
def prepareResponse (request : Request) (body : String) (status : Status) : Response where
  status
  contentType := "text/html"
  keepAlive := if status = .ok then request.keepAlive else false
  body := .string body

/-- `return SendResponse(PrepareResponse(body, status))`. -/
def respond (request : Request) (body : String) (status : Status) : Handling where
  effects := [.sendResponse (prepareResponse request body status)]

/-- The callback that `HandleApi` gives to a task. -/
def taskCallback (request : Request) (message : String) (result : Result) : Response :=
  if result ≠ .success then
    prepareResponse request message (convertToHttpStatus result)
  else
    prepareResponse request message .ok

/-- `BaseSession::Authenticate`: the code, and what is left in `userId`. -/
def authenticate (services : Services) (request : Request) (userId : UInt64) :
    Result × UInt64 :=
  let token := request.field authenticateHeader
  if token.isEmpty then
    (.wrongFormat, userId)
  else
    services.validateToken token userId

/-- The body of the task that a request asks for. -/
def taskBody (services : Services) (request : Request) : Option Json :=
  if request.method ∈ paramsVerbs then
    some (convertFromParams request.target)
  else
    services.parseJson request.body

/-- `BaseSession::HandleApi`. -/
def handleApi (services : Services) (request : Request) (initiativeUserId : UInt64) : Handling :=
  match parseTaskIdentificator request.target request.method with
  | .error _ => respond request "Task not found" .badRequest
  | .ok identificator =>
    match taskBody services request with
    | none => respond request "Invalid body format" .badRequest
    | some body =>
      let taskInfo := { identificator, body, initiativeUserid := initiativeUserId }
      let result := services.addTask taskInfo
      if result = .wrongFormat then
        { effects := .addTask taskInfo ::
            (respond request "Invalid body format" .badRequest).effects }
      else if result = .notFound then
        { effects := .addTask taskInfo ::
            (respond request "Task not found" .notImplemented).effects }
      else if result = .success then
        { effects := [.addTask taskInfo] }
      else
        { effects := [.addTask taskInfo]
          thrown := some ⟨"Error while parsing body: " ++ resultToString result⟩ }

/-- The file that a target asks for: what stands after the first slash, up to the query part or
the fragment. -/
def requestedFile (target : String) : LexicalPath :=
  LexicalPath.ofString
    (String.ofList ((target.toList.drop 1).takeWhile fun c => c ≠ '?' && c ≠ '#'))

/-- `BaseSession::HandleFile`. -/
def handleFile (services : Services) (request : Request) : Handling :=
  let (result, file) := services.documentManager.restoreDocument services.fileExists
    (requestedFile request.target) true
  if result = .wrongFormat then
    respond request "Invalid filename" .badRequest
  else if result = .notFound then
    respond request "File not found" .notFound
  else
    match services.openFile file with
    | .error ec => { effects := [], thrown := some ⟨"Error opening file: " ++ ec⟩ }
    | .ok size =>
      let response (body : ResponseBody) : Effect :=
        .sendResponse
          { status := .ok
            contentType := getMimeType file.extension
            keepAlive := request.keepAlive
            body }
      -- A HEAD request would be answered twice; it does not get here.
      if request.method = .head then
        { effects := [response (.empty size), response (.file file size)] }
      else
        { effects := [response (.file file size)] }

/-- The target is one of the API: longer than `/api` and two characters, and starts with it. -/
def isApiTarget (target : String) : Bool :=
  apiTarget.length + 2 < target.length && apiTarget.toList.isPrefixOf target.toList

/-- The test by which `HandleRequest` lets an authorization through without a token. -/
def isAuthorizationTarget (target : String) : Bool :=
  target.length = apiTarget.length + authorizationTarget.length &&
    apiTarget.toList.isPrefixOf target.toList &&
    authorizationTarget.toList.isSuffixOf target.toList

/-- `BaseSession::HandleRequest`. -/
def handleRequest (services : Services) (request : Request) : Handling :=
  if request.method ∉ allowedVerbs then
    respond request "Invalid verb" .badRequest
  else if request.target.toList.head? ≠ some '/' then
    respond request "Invalid target" .badRequest
  else if isApiTarget request.target then
    if isAuthorizationTarget request.target then
      handleApi services request 0
    else
      let (authenticationResult, initiativeUserId) := authenticate services request 0
      if authenticationResult = .wrongFormat then
        respond request "Invalid authentication header" .unauthorized
      else if authenticationResult = .unauthorized then
        respond request "Unauthorized" .unauthorized
      else if authenticationResult = .success then
        handleApi services request initiativeUserId
      else
        { effects := [], thrown := some ⟨"authenticationResult"⟩ }
  else
    handleFile services request

/-- The requests that `HandleRequest` hands to `HandleFile`. -/
structure Request.RoutedToFile (request : Request) : Prop where
  allowed : request.method ∈ allowedVerbs
  slash : request.target.toList.head? = some '/'
  notApi : isApiTarget request.target = false

/-- A request that is routed to `HandleFile` is handled there. -/
theorem handleRequest_of_routedToFile (services : Services) {request : Request}
    (h : request.RoutedToFile) : handleRequest services request = handleFile services request := by
  unfold handleRequest
  rw [if_neg (by simpa using h.allowed), if_neg (by simpa using h.slash), h.notApi]
  simp

/-! ## Who may start a task -/

/-- A refusal adds no task. -/
@[simp]
theorem addTask_notMem_respond (taskInfo : TaskInfo) (request : Request) (body : String)
    (status : Status) : Effect.addTask taskInfo ∉ (respond request body status).effects := by
  simp [respond]

/-- A file request adds no task. -/
theorem addTask_notMem_handleFile (taskInfo : TaskInfo) (services : Services)
    (request : Request) : Effect.addTask taskInfo ∉ (handleFile services request).effects := by
  unfold handleFile
  dsimp only
  split
  · simp
  · split
    · simp
    · split
      · simp
      · split <;> simp

/-- The task that `HandleApi` adds is the one its target names, for the user it is given. -/
theorem addTask_of_mem_handleApi {taskInfo : TaskInfo} {services : Services} {request : Request}
    {initiativeUserId : UInt64}
    (h : .addTask taskInfo ∈ (handleApi services request initiativeUserId).effects) :
    parseTaskIdentificator request.target request.method = .ok taskInfo.identificator ∧
      taskInfo.initiativeUserid = initiativeUserId := by
  unfold handleApi at h
  split at h
  · exact absurd h (addTask_notMem_respond _ _ _ _)
  · rename_i identificator hidentificator
    split at h
    · exact absurd h (addTask_notMem_respond _ _ _ _)
    · rename_i body hbody
      -- Whatever the task manager answers, the task was the same.
      have htask : taskInfo = ⟨identificator, body, initiativeUserId⟩ := by
        dsimp only at h
        split at h
        · simpa [respond] using h
        · split at h
          · simpa [respond] using h
          · split at h <;> simpa using h
      subst htask
      exact ⟨hidentificator, rfl⟩

/-- The bypass test accepts one target only. -/
theorem isAuthorizationTarget_iff (target : String) :
    isAuthorizationTarget target = true ↔ target = apiTarget ++ authorizationTarget := by
  constructor
  · intro h
    simp only [isAuthorizationTarget, Bool.and_eq_true, decide_eq_true_eq,
      List.isPrefixOf_iff_prefix, List.isSuffixOf_iff_suffix] at h
    obtain ⟨⟨hlength, start, hstart⟩, last, hlast⟩ := h
    -- The two parts fill the whole length, so nothing stands between them.
    have hlengths : (apiTarget.toList ++ start).length =
        (last ++ authorizationTarget.toList).length := by rw [hstart, hlast]
    have hfull : target.toList.length = apiTarget.length + authorizationTarget.length :=
      String.length_toList.trans hlength
    have hlast' : last.length = apiTarget.toList.length := by
      rw [← hlast, List.length_append] at hfull
      simp only [String.length_toList] at hfull ⊢
      omega
    have hparts := List.append_inj (hstart.trans hlast.symm) hlast'.symm
    apply String.toList_injective
    rw [← hstart, hparts.2, String.toList_append]
  · rintro rfl
    decide

/-- What the bypass test accepts is an authorization. -/
theorem parseTaskIdentificator_of_isAuthorizationTarget {target : String} {verb : Verb}
    {identificator : TaskIdentificator} (htarget : isAuthorizationTarget target = true)
    (h : parseTaskIdentificator target verb = .ok identificator) :
    identificator = .authorization := by
  rw [(isAuthorizationTarget_iff target).mp htarget] at h
  have hname : taskTargets.lookup (taskName (apiTarget ++ authorizationTarget)) =
      some .authorization := by decide
  unfold parseTaskIdentificator at h
  rw [hname] at h
  exact (Except.ok.inj h).symm

/-- A task other than `Authorization` is only added when this request was authenticated, and for
the user whose token was validated. -/
theorem handleRequest_addTask (services : Services) (request : Request) (taskInfo : TaskInfo)
    (h : .addTask taskInfo ∈ (handleRequest services request).effects) :
    taskInfo.identificator = .authorization ∨
      (authenticate services request 0).1 = .success ∧
        services.validateToken (request.field authenticateHeader) 0 =
          (.success, taskInfo.initiativeUserid) := by
  unfold handleRequest at h
  split at h
  · exact absurd h (addTask_notMem_respond _ _ _ _)
  split at h
  · exact absurd h (addTask_notMem_respond _ _ _ _)
  split at h
  · split at h
    · -- No token was asked for: the target can only be the authorization.
      rename_i htarget
      exact .inl (parseTaskIdentificator_of_isAuthorizationTarget htarget
        (addTask_of_mem_handleApi h).1)
    · dsimp only at h
      split at h
      · exact absurd h (addTask_notMem_respond _ _ _ _)
      split at h
      · exact absurd h (addTask_notMem_respond _ _ _ _)
      split at h
      · rename_i hsuccess
        refine .inr ⟨hsuccess, ?_⟩
        rw [(addTask_of_mem_handleApi h).2]
        unfold authenticate at hsuccess ⊢
        dsimp only at hsuccess ⊢
        split at hsuccess
        · cases hsuccess
        · rename_i htoken
          rw [if_neg htoken]
          exact Prod.ext hsuccess rfl
      · cases h
  · exact absurd h (addTask_notMem_handleFile _ _ _)

/-- Services that know one token, which is that of user 7, and queue every task. -/
def singleUserServices : Services where
  validateToken token userId := if token = "good" then (.success, 7) else (.wrongFormat, userId)
  documentManager := {}
  fileExists _ := false
  openFile _ := .error "no such file"
  parseJson _ := none
  addTask _ := .success

/-- A list of products, asked for with the token of user 7. -/
def productListRequest : Request where
  method := .get
  target := "/api/products?limit=5#top"
  fields := [("Host", "was"), ("authorization", "good")]

/-- The request starts one task. -/
theorem handleRequest_productListRequest :
    (handleRequest singleUserServices productListRequest).effects =
      [.addTask ⟨.getProductList, .object [("limit", .integer 5)], 7⟩] := by
  have htoken : authenticate singleUserServices productListRequest 0 = (.success, 7) := by decide
  have hroute : isApiTarget productListRequest.target = true ∧
      isAuthorizationTarget productListRequest.target = false := by decide
  unfold handleRequest
  rw [if_neg (by decide), if_neg (by decide), hroute.1, hroute.2, htoken]
  rfl

/-- The list of products is only made for user 7. -/
theorem handleRequest_addTask_productList :
    TaskIdentificator.getProductList = .authorization ∨
      (authenticate singleUserServices productListRequest 0).1 = .success ∧
        singleUserServices.validateToken (productListRequest.field authenticateHeader) 0 =
          (.success, 7) :=
  handleRequest_addTask singleUserServices productListRequest
    ⟨.getProductList, .object [("limit", .integer 5)], 7⟩
    (by rw [handleRequest_productListRequest]; exact List.mem_singleton_self _)

/-! ## Which files are served -/

/-- For a request that is routed to `HandleFile`, the document manager keeps what its interface
promises exactly when the normal form of the requested path does not start with `..`, or ends in
a separator. -/
theorem requestedFile_serves_iff (services : Services) (request : Request)
    (checkExistance : Bool) (hrouted : request.RoutedToFile) :
    handleRequest services request = handleFile services request ∧
      (services.documentManager.Serves services.fileExists (requestedFile request.target)
          checkExistance ↔
        ((DocumentManager.normalDocument (requestedFile request.target)).Climbs →
          (DocumentManager.normalDocument (requestedFile request.target)).hasFilename = false)) :=
  ⟨handleRequest_of_routedToFile services hrouted,
    DocumentManager.serves_iff services.fileExists _ checkExistance services.documentManager⟩

/-- A stylesheet that is asked for through a detour. -/
def stylesheetRequest : Request where
  method := .get
  target := "/css/../css//./main.css?v=2"

/-- The detour does not leave the root. -/
theorem requestedFile_serves_stylesheet :
    handleRequest singleUserServices stylesheetRequest =
        handleFile singleUserServices stylesheetRequest ∧
      (singleUserServices.documentManager.Serves singleUserServices.fileExists
          (requestedFile stylesheetRequest.target) true ↔
        ((DocumentManager.normalDocument (requestedFile stylesheetRequest.target)).Climbs →
          (DocumentManager.normalDocument (requestedFile stylesheetRequest.target)).hasFilename =
            false)) :=
  requestedFile_serves_iff singleUserServices stylesheetRequest true
    ⟨by decide, by decide, by decide⟩

/-- A file next to the document root. -/
def escapeRequest : Request where
  method := .get
  target := "/../secret"

/-- The file next to the root is restored, and its path does not lie inside the root. -/
theorem escapeRequest_not_served :
    escapeRequest.RoutedToFile ∧
      (singleUserServices.documentManager.restoreDocument (fun _ => true)
          (requestedFile escapeRequest.target) true).1 = .success ∧
      ¬ singleUserServices.documentManager.Serves (fun _ => true)
          (requestedFile escapeRequest.target) true := by
  refine ⟨⟨by decide, by decide, by decide⟩, by decide, ?_⟩
  rintro ⟨-, hrefuses⟩
  exact absurd (hrefuses (by decide)) (by decide)

end Ws.Session

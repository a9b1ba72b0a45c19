import WarehouseAccounting.Foundations.Exceptions
import WarehouseAccounting.TaskManager.Tasks.ListTasks
import WarehouseAccounting.TaskManager.Tasks.ReportTasks
import WarehouseAccounting.TaskManager.Tasks.SizeTasks
import WarehouseAccounting.TaskManager.Tasks.UserTasks
import WarehouseAccounting.TaskManager.Tasks.WriteTasks

/-!
# How failures are reported

All tasks of `tasks_list.h`, each with its transaction, and what becomes of the code that
`Transaction::Execute` returns.

- `TransactionTask.ReportsCode`: a failure reaches the callback as it is, and nothing else is
  answered with `NOT_FOUND` than what was not found.
- `Request.reportsCode_iff`: for every task, exactly when this holds after a transaction.
-/

namespace TaskMgr.Tasks

open Ufa Srv.Db Srv.Db.Trsct Srv.Auth

/-! ## All tasks -/

/-- The services that tasks ask: the date provider, the document manager for report files, and the
library that signs tokens. -/
structure Services (F : Type) where
  dateProvider : DateProvider
  createFile : Report → F → Except Exception (String × F)
  createToken : UInt64 → UInt64 → String

/-- A parsed request for one of the tasks in `TasksList`. -/
inductive Request (F : Type) where
  | authorization (login hashPassword : String)
  | createUser (userInfo : UserInfo)
  | productsCreate (task : ProductsTask)
  | productsMove (task : ProductsTask)
  | productsRemove (task : ProductsTask)
  | reportsByPeriod (consumer : ReportsByPeriod.Consumer F) (task : ReportsByPeriod F)
  | reportsCurrent (task : ReportsCurrent F)
  | getProduct (id : Int64)
  | getWarehouse (id : Int64)
  | getInvoice (id : Int64)
  | getUser (id : Int64)
  | getReport (id : Int64)
  | getCurrentUser (initiativeUserId : UInt64)
  | getProductList (request : ListRequest)
  | getWarehouseList (request : ListRequest)
  | getInvoiceList (request : ListRequest)
  | getUserList (request : ListRequest)
  | getReportList (request : ListRequest)
  | getOperationList (request : ListRequest)
  | getProductSize (filter : Option Condition)
  | getWarehouseSize (filter : Option Condition)
  | getInvoiceSize (filter : Option Condition)
  | getUserSize (filter : Option Condition)
  | getReportSize (filter : Option Condition)
  | getOperationSize (filter : Option Condition)
  | getProductSizeByWarehouse (warehouseId : Int64)
  | createWarehouse (task : CreateWarehouse)

variable {F : Type}

/-- The task of a request. -/
def Request.task (services : Services F) : Request F → TransactionTask
  | .authorization login hashPassword =>
    Authorization.task services.dateProvider services.createToken login hashPassword
  | .createUser userInfo => CreateUser.task services.dateProvider userInfo
  | .productsCreate task => task.createTask services.dateProvider
  | .productsMove task => task.moveTask services.dateProvider
  | .productsRemove task => task.removeTask services.dateProvider
  | .reportsByPeriod consumer task =>
    task.transactionTask services.dateProvider consumer services.createFile
  | .reportsCurrent task => task.transactionTask services.dateProvider services.createFile
  | .getProduct id => GetProduct.task services.dateProvider id
  | .getWarehouse id => GetWarehouse.task services.dateProvider id
  | .getInvoice id => GetInvoice.task services.dateProvider id
  | .getUser id => GetUser.task services.dateProvider id
  | .getReport id => GetReport.task services.dateProvider id
  | .getCurrentUser initiativeUserId => GetCurrentUser.task services.dateProvider initiativeUserId
  | .getProductList request => GetProductList.task services.dateProvider request
  | .getWarehouseList request => GetWarehouseList.task services.dateProvider request
  | .getInvoiceList request => GetInvoiceList.task services.dateProvider request
  | .getUserList request => GetUserList.task services.dateProvider request
  | .getReportList request => GetReportList.task services.dateProvider request
  | .getOperationList request => GetOperationList.task services.dateProvider request
  | .getProductSize filter => GetProductSize.task filter
  | .getWarehouseSize filter => GetWarehouseSize.task filter
  | .getInvoiceSize filter => GetInvoiceSize.task filter
  | .getUserSize filter => GetUserSize.task filter
  | .getReportSize filter => GetReportSize.task filter
  | .getOperationSize filter => GetOperationSize.task filter
  | .getProductSizeByWarehouse warehouseId => GetProductSizeByWarehouse.task warehouseId
  | .createWarehouse task => task.transactionTask services.dateProvider

/-! ## The law -/

/-- When the transaction has returned a code and left some variables: a failure is what the callback
receives, and `NOT_FOUND` is answered only for a transaction that has not found something, or
whose rows were empty. -/
def TransactionTask.ReportsCode (task : TransactionTask) (result : Result)
    (memory : task.Memory) : Prop :=
  (result ≠ .success → (task.callback result memory).result = result) ∧
    ((task.callback result memory).result = .notFound →
      result = .notFound ∨ result = .success ∧ task.selected memory = [])

/-- All values that the page of a current report prints are there. -/
structure ReportsCurrent.PageComplete (task : ReportsCurrent F) : Prop where
  reportId : task.report.reportId.isSome
  name : task.report.name.isSome
  warehouseId : task.report.warehouseId.isSome
  warehouseName : task.warehouse.name.isSome
  createdDate : task.report.createdDate.isSome
  products : ∀ key product, (key, product) ∈ task.products →
    product.id.isSome ∧ product.name.isSome ∧ product.prettyName.isSome ∧ product.count.isSome ∧
      product.createdDate.isSome

/-- The tasks that look at their rows before the code lose the code when there are none. -/
def LosesNoCode (result : Result) (rows : Rows) : Prop :=
  rows = [] → result = .success ∨ result = .notFound

/-- The rows of `GetUserInfo` are there, but they are not one user that can be read. -/
def NoReadableUser (userId : UInt64) (rows : Rows) : Prop :=
  rows ≠ [] ∧ ∀ row userInfo, rows = [row] → userOfRow userId row ≠ .ok userInfo

/-- When a task reports the code that its transaction has returned, by the code and the variables
of the task. -/
def Request.KeepsCode (services : Services F) (request : Request F) (result : Result)
    (memory : (request.task services).Memory) : Prop :=
  match request, memory with
  | .getProduct _, rows | .getUser _, rows | .getReport _, rows | .getProductList _, rows
  | .getUserList _, rows | .getReportList _, rows | .getOperationList _, rows =>
    LosesNoCode result rows
  | .getInvoice _, memory => LosesNoCode result (GetInvoice.invoiceResults memory)
  | .getWarehouseList _, memory => LosesNoCode result (ItemList.results (α := Warehouse) memory)
  | .getInvoiceList _, memory => LosesNoCode result (ItemList.results (α := Invoice) memory)
  -- The page is written whatever the code is, and an exception there becomes the answer.
  | .reportsCurrent _, memory =>
    result = .success ∨ result = .error ∨ ReportsCurrent.PageComplete (F := F) memory
  -- The code is not looked at.
  | .getCurrentUser initiativeUserId, rows =>
    result = .success ∨ rows = [] ∧ result = .notFound ∨
      NoReadableUser initiativeUserId rows ∧ result = .error
  -- Every failure is one of the credentials.
  | .authorization _ _, _ => result = .success
  | _, _ => True

/-! ## The ends of the tasks -/

/-- A task that passes the code on reports it. -/
theorem execute_finishDone_result (result : Result) (answer : Except Exception Json) :
    (result ≠ .success → (BaseTask.execute (finishDone result answer)).result = result) ∧
      (result = .success → (BaseTask.execute (finishDone result answer)).result ≠ .notFound) := by
  unfold finishDone
  by_cases hresult : result = .success
  · subst hresult
    refine ⟨fun hne => absurd rfl hne, fun _ => ?_⟩
    rw [if_pos rfl]
    cases answer <;> simp [Except.map]
  · refine ⟨fun _ => ?_, fun heq => absurd heq hresult⟩
    rw [if_neg hresult, BaseTask.execute_ok]

/-- A task whose callback receives every failure, and no `NOT_FOUND` after a success, keeps the
law. -/
theorem TransactionTask.reportsCode_of_callback {task : TransactionTask} {result : Result}
    {memory : task.Memory}
    (hfailure : result ≠ .success → (task.callback result memory).result = result)
    (hsuccess : result = .success → (task.callback result memory).result ≠ .notFound) :
    task.ReportsCode result memory := by
  refine ⟨hfailure, fun hnotFound => .inl ?_⟩
  by_cases hresult : result = .success
  · exact absurd hnotFound (hsuccess hresult)
  · rw [← hnotFound, hfailure hresult]

/-- So a task that passes the code on keeps the law. -/
theorem TransactionTask.reportsCode_of_finishDone {task : TransactionTask} {result : Result}
    {memory : task.Memory} {answer : Except Exception Json}
    (hfinish : task.finish result memory = finishDone result answer) :
    task.ReportsCode result memory := by
  obtain ⟨hfailure, hsuccess⟩ := execute_finishDone_result result answer
  apply reportsCode_of_callback
  · rw [callback, hfinish]
    exact hfailure
  · rw [callback, hfinish]
    exact hsuccess

/-- A task that looks at its rows first keeps the law exactly when it does not lose the code. -/
theorem TransactionTask.reportsCode_iff_of_finishFound {task : TransactionTask} {result : Result}
    {memory : task.Memory} {answer : Except Exception Json}
    (hfinish : task.finish result memory = finishFound (task.selected memory) result answer) :
    task.ReportsCode result memory ↔ LosesNoCode result (task.selected memory) := by
  rcases hrows : task.selected memory with _ | ⟨row, rows⟩
  · -- Without rows the answer is always that nothing was found.
    have hcallback : (task.callback result memory).result = .notFound := by
      rw [callback, hfinish, hrows]
      rfl
    unfold ReportsCode LosesNoCode
    rw [hcallback]
    constructor
    · rintro ⟨hfailure, -⟩ -
      by_cases hresult : result = .success
      · exact .inl hresult
      · exact .inr (hfailure hresult).symm
    · intro hkeeps
      rcases hkeeps rfl with rfl | rfl
      · exact ⟨fun hne => absurd rfl hne, fun _ => .inr ⟨rfl, hrows⟩⟩
      · exact ⟨fun _ => rfl, fun _ => .inl rfl⟩
  · refine iff_of_true ?_ fun hnil => by cases hnil
    have hdone : task.finish result memory = finishDone result answer := by
      rw [hfinish, hrows]
      rfl
    exact reportsCode_of_finishDone hdone

/-- What follows an exception or a value in the end of a task. -/
theorem execute_bind_result {α : Type} (first : Except Exception α)
    (next : α → Except Exception (Result × Json)) :
    (BaseTask.execute (first >>= next)).result =
      match first with
      | .ok value => (BaseTask.execute (next value)).result
      | .error _ => .error := by
  cases first <;> rfl

/-- `CreateUser` keeps the law: without success the user is not read. -/
theorem CreateUser.reportsCode (dateProvider : DateProvider) (userInfo : UserInfo)
    (result : Result) (memory : CreateUser) :
    (CreateUser.task dateProvider userInfo).ReportsCode result memory := by
  apply TransactionTask.reportsCode_of_callback
  · intro hresult
    have hcreated : createdUser result memory.results memory.userInfo =
        .ok (result, memory.userInfo) := by
      rw [createdUser, if_neg hresult]
      rfl
    show (BaseTask.execute (createdUser result memory.results memory.userInfo >>=
      fun created => finishDone created.1 (json dateProvider created.2))).result = result
    rw [hcreated, ok_bind]
    exact (execute_finishDone_result _ _).1 hresult
  · intro hresult
    subst hresult
    show (BaseTask.execute (createdUser .success memory.results memory.userInfo >>=
      fun created => finishDone created.1 (json dateProvider created.2))).result ≠ .notFound
    rw [execute_bind_result]
    rcases hcreated : createdUser .success memory.results memory.userInfo with
      exception | ⟨createResult, created⟩
    · exact Result.noConfusion
    · -- The code is passed on by `createdUser`.
      have hsuccess : createResult = .success := by
        rw [createdUser, if_pos rfl] at hcreated
        obtain ⟨field, -, hcreated⟩ := bind_eq_ok.mp hcreated
        obtain ⟨id, -, hcreated⟩ := bind_eq_ok.mp hcreated
        cases hcreated
        rfl
      exact (execute_finishDone_result _ _).2 hsuccess

/-- `ReportsByPeriod` keeps the law: the page is only written after a success. -/
theorem ReportsByPeriod.reportsCode (dateProvider : DateProvider) (consumer : Consumer F)
    (createFile : Report → F → Except Exception (String × F)) (task memory : ReportsByPeriod F)
    (result : Result) :
    (task.transactionTask dateProvider consumer createFile).ReportsCode result memory := by
  apply TransactionTask.reportsCode_of_callback
  · intro hresult
    have hfinish : finish dateProvider result memory =
        finishDone result (memory.json dateProvider) := by
      rw [finish, if_neg hresult]
    show (BaseTask.execute (finish dateProvider result memory)).result = result
    rw [hfinish]
    exact (execute_finishDone_result _ _).1 hresult
  · intro hresult
    have hfinish : finish dateProvider result memory =
        memory.writeReportFile >>= fun _ => finishDone result (memory.json dateProvider) := by
      rw [finish, if_pos hresult]
    show (BaseTask.execute (finish dateProvider result memory)).result ≠ .notFound
    rw [hfinish, execute_bind_result]
    split
    · exact (execute_finishDone_result _ _).2 hresult
    · exact Result.noConfusion

/-- The line of a product is printed exactly when all its values are there. -/
theorem Product.exists_line (product : Product) :
    (∃ line, product.line = .ok line) ↔
      product.id.isSome ∧ product.name.isSome ∧ product.prettyName.isSome ∧
        product.count.isSome ∧ product.createdDate.isSome := by
  simp only [Option.isSome_iff_exists]
  constructor
  · rintro ⟨line, h⟩
    obtain ⟨id, hid, h⟩ := bind_eq_ok.mp h
    obtain ⟨name, hname, h⟩ := bind_eq_ok.mp h
    obtain ⟨prettyName, hprettyName, h⟩ := bind_eq_ok.mp h
    obtain ⟨count, hcount, h⟩ := bind_eq_ok.mp h
    obtain ⟨createdDate, hcreatedDate, -⟩ := bind_eq_ok.mp h
    exact ⟨⟨id, required_eq_ok.mp hid⟩, ⟨name, required_eq_ok.mp hname⟩,
      ⟨prettyName, required_eq_ok.mp hprettyName⟩, ⟨count, required_eq_ok.mp hcount⟩,
      ⟨createdDate, required_eq_ok.mp hcreatedDate⟩⟩
  · rintro ⟨⟨id, hid⟩, ⟨name, hname⟩, ⟨prettyName, hprettyName⟩, ⟨count, hcount⟩,
      createdDate, hcreatedDate⟩
    refine ⟨{ id, name, prettyName, description := product.description.getD "", count,
              createdDate }, ?_⟩
    rw [line, hid, hname, hprettyName, hcount, hcreatedDate]
    rfl

/-- The page of a current report is written exactly when all its values are there. -/
theorem ReportsCurrent.pageComplete_iff (task : ReportsCurrent F) :
    task.PageComplete ↔ ∃ page, task.writeReportFile = .ok page := by
  constructor
  · intro h
    obtain ⟨reportId, hreportId⟩ := Option.isSome_iff_exists.mp h.reportId
    obtain ⟨name, hname⟩ := Option.isSome_iff_exists.mp h.name
    obtain ⟨warehouseId, hwarehouseId⟩ := Option.isSome_iff_exists.mp h.warehouseId
    obtain ⟨warehouseName, hwarehouseName⟩ := Option.isSome_iff_exists.mp h.warehouseName
    obtain ⟨createdDate, hcreatedDate⟩ := Option.isSome_iff_exists.mp h.createdDate
    obtain ⟨products, hproducts⟩ :
        ∃ products, (task.products.mapM fun entry => entry.2.line) = .ok products :=
      Exceptions.exists_mapM_eq_ok.mpr fun entry hmem =>
        entry.2.exists_line.mpr (h.products entry.1 entry.2 hmem)
    refine ⟨{ reportId, name, description := task.report.description.getD "", warehouseId,
              warehouseName, createdDate, totalProducts := task.products.length, products }, ?_⟩
    rw [writeReportFile, hreportId, hname, hwarehouseId, hwarehouseName, hcreatedDate, hproducts]
    rfl
  · rintro ⟨page, h⟩
    obtain ⟨reportId, hreportId, h⟩ := bind_eq_ok.mp h
    obtain ⟨name, hname, h⟩ := bind_eq_ok.mp h
    obtain ⟨warehouseId, hwarehouseId, h⟩ := bind_eq_ok.mp h
    obtain ⟨warehouseName, hwarehouseName, h⟩ := bind_eq_ok.mp h
    obtain ⟨createdDate, hcreatedDate, h⟩ := bind_eq_ok.mp h
    obtain ⟨products, hproducts, -⟩ := bind_eq_ok.mp h
    have hlines := Exceptions.exists_mapM_eq_ok.mp ⟨products, hproducts⟩
    exact {
      reportId := by rw [required_eq_ok.mp hreportId]; rfl
      name := by rw [required_eq_ok.mp hname]; rfl
      warehouseId := by rw [required_eq_ok.mp hwarehouseId]; rfl
      warehouseName := by rw [required_eq_ok.mp hwarehouseName]; rfl
      createdDate := by rw [required_eq_ok.mp hcreatedDate]; rfl
      products := fun key product hmem => product.exists_line.mp (hlines (key, product) hmem) }

/-- `ReportsCurrent` keeps the law when the page is written, or the exception is what it would
report anyway. -/
theorem ReportsCurrent.reportsCode_task_iff (dateProvider : DateProvider)
    (createFile : Report → F → Except Exception (String × F)) (task memory : ReportsCurrent F)
    (result : Result) :
    (task.transactionTask dateProvider createFile).ReportsCode result memory ↔
      result = .success ∨ result = .error ∨ memory.PageComplete := by
  have hcallback : ((task.transactionTask dateProvider createFile).callback result memory).result =
      match memory.writeReportFile with
      | .ok _ => (BaseTask.execute (finishDone result (memory.json dateProvider))).result
      | .error _ => .error := by
    show (BaseTask.execute (finish dateProvider result memory)).result = _
    rw [finish, execute_bind_result]
    cases memory.writeReportFile <;> rfl
  rw [memory.pageComplete_iff]
  rcases hpage : memory.writeReportFile with exception | page
  · rw [hpage] at hcallback
    constructor
    · rintro ⟨hfailure, -⟩
      by_cases hresult : result = .success
      · exact .inl hresult
      · refine .inr (.inl ?_)
        rw [← hfailure hresult, hcallback]
    · rintro (rfl | rfl | ⟨page, hwritten⟩)
      · apply TransactionTask.reportsCode_of_callback
        · exact fun hne => absurd rfl hne
        · rw [hcallback]
          exact fun _ => Result.noConfusion
      · apply TransactionTask.reportsCode_of_callback
        · exact fun _ => hcallback
        · exact fun heq => by cases heq
      · cases hwritten
  · rw [hpage] at hcallback
    refine iff_of_true ?_ (.inr (.inr ⟨page, rfl⟩))
    obtain ⟨hfailure, hsuccess⟩ := execute_finishDone_result result (memory.json dateProvider)
    apply TransactionTask.reportsCode_of_callback
    · rw [hcallback]
      exact hfailure
    · rw [hcallback]
      exact hsuccess

/-- `GetCurrentUser` answers by the rows alone. -/
theorem GetCurrentUser.callback_result (dateProvider : DateProvider) (userId : UInt64)
    (result : Result) (rows : Rows) :
    ((GetCurrentUser.task dateProvider userId).callback result rows).result =
      (getUserInfo userId rows).1 := by
  show (BaseTask.execute (finishDone (getUserInfo userId rows).1 do
    return resultJson (← json dateProvider (getUserInfo userId rows).2))).result = _
  rcases rows with _ | ⟨row, _ | ⟨second, rows⟩⟩
  · rfl
  · rw [getUserInfo]
    rcases huser : userOfRow userId row with exception | userInfo
    · rfl
    · -- The user that was read has an id, so the object is made.
      dsimp only
      rw [json, id_of_userOfRow huser]
      rfl
  · rfl

/-- It keeps the law when its own code is the one that the transaction has returned. -/
theorem GetCurrentUser.reportsCode_task_iff (dateProvider : DateProvider) (userId : UInt64)
    (result : Result) (rows : Rows) :
    (GetCurrentUser.task dateProvider userId).ReportsCode result rows ↔
      result = .success ∨ rows = [] ∧ result = .notFound ∨
        NoReadableUser userId rows ∧ result = .error := by
  unfold TransactionTask.ReportsCode NoReadableUser
  rw [callback_result]
  rcases rows with _ | ⟨row, _ | ⟨second, rows⟩⟩
  · -- Nothing was found.
    rw [getUserInfo]
    constructor
    · rintro ⟨hfailure, -⟩
      by_cases hresult : result = .success
      · exact .inl hresult
      · exact .inr (.inl ⟨rfl, (hfailure hresult).symm⟩)
    · rintro (rfl | ⟨-, rfl⟩ | ⟨⟨hne, -⟩, -⟩)
      · exact ⟨fun hne => absurd rfl hne, fun _ => .inr ⟨rfl, rfl⟩⟩
      · exact ⟨fun _ => rfl, fun _ => .inl rfl⟩
      · exact absurd rfl hne
  · rw [getUserInfo]
    rcases huser : userOfRow userId row with exception | userInfo
    · refine ⟨?_, ?_⟩
      · rintro ⟨hfailure, -⟩
        by_cases hresult : result = .success
        · exact .inl hresult
        · refine .inr (.inr ⟨⟨by simp, ?_⟩, (hfailure hresult).symm⟩)
          intro row' userInfo hrow hread
          cases hrow
          cases huser.symm.trans hread
      · rintro (rfl | ⟨hnil, -⟩ | ⟨-, rfl⟩)
        · exact ⟨fun hne => absurd rfl hne, Result.noConfusion⟩
        · cases hnil
        · exact ⟨fun _ => rfl, Result.noConfusion⟩
    · -- One user was read, which is answered with `SUCCESS`.
      refine ⟨?_, ?_⟩
      · rintro ⟨hfailure, -⟩
        by_cases hresult : result = .success
        · exact .inl hresult
        · exact absurd (hfailure hresult).symm hresult
      · rintro (rfl | ⟨hnil, -⟩ | ⟨⟨-, hunread⟩, -⟩)
        · exact ⟨fun hne => absurd rfl hne, Result.noConfusion⟩
        · cases hnil
        · exact absurd huser (hunread row userInfo rfl)
  · -- More than one user is refused.
    have hcode : (getUserInfo userId (row :: second :: rows)).1 = .error := rfl
    rw [hcode]
    constructor
    · rintro ⟨hfailure, -⟩
      by_cases hresult : result = .success
      · exact .inl hresult
      · exact .inr (.inr ⟨⟨by simp, by simp⟩, (hfailure hresult).symm⟩)
    · rintro (rfl | ⟨hnil, -⟩ | ⟨-, rfl⟩)
      · exact ⟨fun hne => absurd rfl hne, Result.noConfusion⟩
      · cases hnil
      · exact ⟨fun _ => rfl, Result.noConfusion⟩

/-- `Authorization` answers `SUCCESS` or `UNAUTHORIZED`. -/
theorem Authorization.callback_result (dateProvider : DateProvider)
    (createToken : UInt64 → UInt64 → String) (login hashPassword : String) (result : Result)
    (rows : Rows) :
    let answer := ((task dateProvider createToken login hashPassword).callback result rows).result
    answer = .success ∨ answer = .unauthorized := by
  let generated := generateToken createToken (dateProvider.getTimestamp 0)
    (validateCredentials login rows)
  have hcallback :
      ((task dateProvider createToken login hashPassword).callback result rows).result =
      generated.1 := by
    show (BaseTask.execute (finishDone generated.1
      (.ok (json dateProvider generated.2.1 generated.2.2)))).result = _
    by_cases hsuccess : generated.1 = .success
    · rw [finishDone, if_pos hsuccess, hsuccess]
      rfl
    · exact (execute_finishDone_result _ _).1 hsuccess
  dsimp only
  rw [hcallback]
  exact generateToken_result ..

/-- `Authorization` reports no failure of its transaction as it is. -/
theorem Authorization.reportsCode_task_iff (dateProvider : DateProvider)
    (createToken : UInt64 → UInt64 → String) (login hashPassword : String) {result : Result}
    (hresult : Transaction.IsResult result) (rows : Rows) :
    (task dateProvider createToken login hashPassword).ReportsCode result rows ↔
      result = .success := by
  have hanswer := callback_result dateProvider createToken login hashPassword result rows
  constructor
  · rintro ⟨hfailure, -⟩
    -- The codes of the transaction are neither of the two answers.
    rcases hresult with hsuccess | ⟨exception, hexception⟩
    · exact hsuccess
    · have hne : result ≠ .success := by
        rw [hexception]
        exact exception.result_ne_success
      dsimp only at hanswer
      rw [hfailure hne, hexception] at hanswer
      cases exception <;> rcases hanswer with h | h <;> cases h
  · intro hsuccess
    apply TransactionTask.reportsCode_of_callback
    · exact fun hne => absurd hsuccess hne
    · intro _ hnotFound
      rcases hanswer with h | h <;> cases hnotFound.symm.trans h

/-! ## All tasks -/

/-- After every transaction: a task reports the failure that the transaction has returned, and
`NOT_FOUND` only for what was not found, exactly under the condition of the task. -/
theorem Request.reportsCode_iff {D : Type} (services : Services F) (request : Request F)
    (database : Database D) (commitAttempts fuel : Nat) (visible : D) (result : Result)
    (memory : (request.task services).Memory)
    (hexecuted : (request.task services).Executed database commitAttempts fuel visible result
      memory) :
    (request.task services).ReportsCode result memory ↔
      request.KeepsCode services result memory := by
  cases request with
  | authorization login hashPassword =>
    exact Authorization.reportsCode_task_iff _ _ login hashPassword hexecuted.isResult memory
  | createUser userInfo =>
    exact iff_of_true (CreateUser.reportsCode _ userInfo result memory) trivial
  | reportsByPeriod consumer task =>
    exact iff_of_true (ReportsByPeriod.reportsCode _ _ _ task memory result) trivial
  | reportsCurrent task => exact ReportsCurrent.reportsCode_task_iff _ _ task memory result
  | getCurrentUser userId => exact GetCurrentUser.reportsCode_task_iff _ userId result memory
  | getProduct id => exact TransactionTask.reportsCode_iff_of_finishFound rfl
  | getUser id => exact TransactionTask.reportsCode_iff_of_finishFound rfl
  | getReport id => exact TransactionTask.reportsCode_iff_of_finishFound rfl
  | getInvoice id => exact TransactionTask.reportsCode_iff_of_finishFound rfl
  | getProductList request => exact TransactionTask.reportsCode_iff_of_finishFound rfl
  | getUserList request => exact TransactionTask.reportsCode_iff_of_finishFound rfl
  | getReportList request => exact TransactionTask.reportsCode_iff_of_finishFound rfl
  | getOperationList request => exact TransactionTask.reportsCode_iff_of_finishFound rfl
  | getWarehouseList request => exact TransactionTask.reportsCode_iff_of_finishFound rfl
  | getInvoiceList request => exact TransactionTask.reportsCode_iff_of_finishFound rfl
  | productsCreate task => exact iff_of_true (TransactionTask.reportsCode_of_finishDone rfl) trivial
  | productsMove task => exact iff_of_true (TransactionTask.reportsCode_of_finishDone rfl) trivial
  | productsRemove task => exact iff_of_true (TransactionTask.reportsCode_of_finishDone rfl) trivial
  | createWarehouse task =>
    exact iff_of_true (TransactionTask.reportsCode_of_finishDone rfl) trivial
  | getWarehouse id => exact iff_of_true (TransactionTask.reportsCode_of_finishDone rfl) trivial
  | getProductSize filter | getWarehouseSize filter | getInvoiceSize filter | getUserSize filter
  | getReportSize filter | getOperationSize filter =>
    exact iff_of_true (TransactionTask.reportsCode_of_finishDone rfl) trivial
  | getProductSizeByWarehouse warehouseId =>
    exact iff_of_true (TransactionTask.reportsCode_of_finishDone rfl) trivial

/-! ## Failures that are lost -/

/-- Services without files, at a time that stands still. -/
def stillServices : Services Unit where
  dateProvider := {
    getTimestamp := fun _ => 0
    toIsoTimeString := fun _ => "1970-01-01'T'00:00:00"
    fromIsoTimeString := fun _ => none }
  createFile := fun _ files => .ok ("report.html", files)
  createToken := fun _ _ => ""

/-- A database that answers every statement in the same way. -/
def constantDatabase (answer : Except Exception Rows) : Database Unit where
  answers := fun _ _ state => answer.map fun rows => (rows, state)
  commit := fun _ _ => .committed

/-- A request for the current report of warehouse 7. -/
def reportOfWarehouse : ReportsCurrent Unit where
  report := { name := some "stock", warehouseId := some 7, createdBy := some 1
              reportType := some 1 }
  warehouse := { warehouseId := some 7 }
  files := ()

/-- The constraint violation of a statement is reported by `GetWarehouse`, as the law asks. -/
theorem Request.reportsCode_getWarehouse :
    ((Request.getWarehouse 7).task stillServices).ReportsCode .violation
      ({ warehouse := { warehouseId := some 7 } } : GetWarehouse) :=
  ((Request.getWarehouse 7).reportsCode_iff stillServices
    (constantDatabase (.error .integrityConstraintViolation)) 1 1 () .violation _
    ⟨_, _, rfl, rfl, rfl⟩).mpr trivial

/-- The law does not hold of every task: a list of products answers `NOT_FOUND` when the database
has failed, and the current report of an unknown warehouse is answered with `ERROR`. -/
theorem Request.not_reportsCode :
    (∃ memory : Rows,
      ((Request.getProductList { offset := 0 }).task stillServices).Executed
        (constantDatabase (.error .other)) 1 1 () .error memory ∧
      (((Request.getProductList { offset := 0 }).task stillServices).callback
        .error memory).result = .notFound ∧
      ¬ ((Request.getProductList { offset := 0 }).task stillServices).ReportsCode
        .error memory) ∧
    ∃ memory : ReportsCurrent Unit,
      ((Request.reportsCurrent reportOfWarehouse).task stillServices).Executed
        (constantDatabase (.ok [])) 1 1 () .notFound memory ∧
      (((Request.reportsCurrent reportOfWarehouse).task stillServices).callback
        .notFound memory).result = .error ∧
      ¬ ((Request.reportsCurrent reportOfWarehouse).task stillServices).ReportsCode
        .notFound memory := by
  refine ⟨⟨[], ⟨_, _, rfl, rfl, rfl⟩, rfl, fun h => ?_⟩,
    ⟨_, ⟨_, _, rfl, rfl, rfl⟩, rfl, fun h => ?_⟩⟩
  · exact Result.noConfusion (h.1 Result.noConfusion)
  · exact Result.noConfusion (h.1 Result.noConfusion)

end TaskMgr.Tasks

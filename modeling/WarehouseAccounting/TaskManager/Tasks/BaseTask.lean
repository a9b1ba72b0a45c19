import WarehouseAccounting.DbConnector.Transaction
import WarehouseAccounting.Foundations.Json

/-!
# Tasks

`BaseTask` of `tasks/base_task.h`, the helpers of `json_helpers.h`, and the shape that all tasks
with a transaction have: an entry chain over the variables of the task, and the code that turns
the result of `Transaction::Execute` and these variables into the answer.

- `TransactionTask.Executed`: a run of the transaction of a task has returned.
- `TransactionTask.callback`: what the callback receives then.
- `TransactionTask.Executed.isResult`: the codes that `Transaction::Execute` returns.
-/

namespace TaskMgr.Tasks

open Ufa Srv.Db Srv.Db.Trsct

/-! ## Writing JSON -/

/-- The members of an object under construction, `util::json::Put` for a value. -/
def put (key : String) (value : Json) (members : List (String × Json)) : List (String × Json) :=
  Json.assign key value members

/-- `util::json::Put` for an optional value: without a value nothing is put. -/
def putOptional (key : String) (value : Option Json) (members : List (String × Json)) :
    List (String × Json) :=
  match value with
  | some value => put key value members
  | none => members

/-- An object from the puts of a task, in their order. -/
def putAll (puts : List (String × Option Json)) : List (String × Json) :=
  puts.foldl (fun members (key, value) => putOptional key value members) []

/-- What is put is read back under its key. -/
theorem lookup_putOptional (key other : String) (value : Option Json)
    (members : List (String × Json)) :
    (putOptional key value members).lookup other =
      if other = key then value <|> members.lookup other else members.lookup other := by
  cases value with
  | none => split <;> rfl
  | some value =>
    rw [putOptional, put, Json.lookup_assign]
    split <;> rfl

/-- A key that is put once is read back as it was put. -/
theorem lookup_putAll {puts : List (String × Option Json)} (hnodup : (puts.map Prod.fst).Nodup)
    (key : String) : (putAll puts).lookup key = (puts.lookup key).join := by
  suffices hfold : ∀ members : List (String × Json),
      (puts.foldl (fun members (key, value) => putOptional key value members) members).lookup key =
        ((puts.lookup key).join <|> members.lookup key) by
    rw [putAll, hfold]
    cases (puts.lookup key).join <;> rfl
  induction puts with
  | nil => intro members; rfl
  | cons first puts ih =>
    obtain ⟨key', value⟩ := first
    obtain ⟨hother, hnodup⟩ := List.nodup_cons.mp hnodup
    intro members
    rw [List.foldl_cons, ih hnodup, lookup_putOptional, Json.lookup_cons_ite]
    by_cases hkey : key = key'
    · -- No later put has this key.
      subst hkey
      have hnone : puts.lookup key = none := by
        rw [List.lookup_eq_none_iff]
        intro pair hpair
        refine bne_iff_ne.mpr fun heq => hother ?_
        exact List.mem_map.mpr ⟨pair, hpair, heq.symm⟩
      rw [hnone, if_pos rfl, if_pos rfl]
      rfl
    · rw [if_neg hkey, if_neg hkey]

/-! ## The base class -/

/-- What `m_callback` receives. The response is the document that `dump` makes a text of. -/
structure Callback where
  response : Json
  result : Result

/-- `BaseTask::Execute`, of what `ExecuteInternal` returned or threw. -/
def BaseTask.execute (executed : Except Exception (Result × Json)) : Callback :=
  match executed with
  | .error _ => ⟨.object [], .error⟩
  | .ok (result, response) =>
    if result = .success then ⟨response, result⟩ else ⟨.object [], result⟩

/-- An exception is answered with `ERROR`. -/
@[simp]
theorem BaseTask.execute_error (exception : Exception) :
    (BaseTask.execute (.error exception)).result = .error := rfl

/-- The code that was returned is the code of the answer. -/
@[simp]
theorem BaseTask.execute_ok (result : Result) (response : Json) :
    (BaseTask.execute (.ok (result, response))).result = result := by
  unfold BaseTask.execute
  dsimp only
  split <;> rfl

/-! ## Tasks with a transaction -/

/-- What is done before the transaction: an exception ends the task with `ERROR`. -/
def prepared {α : Type} (chain : Except Exception α) : Except Result α :=
  match chain with
  | .ok chain => .ok chain
  | .error _ => .error .error

/-- A task with a transaction, after its request was parsed. -/
structure TransactionTask where
  /-- The members of the task and the variables of its functions. -/
  Memory : Type
  /-- The entry chain and the variables, as `Transaction::Execute` is called, or the code of a task
  that ends before. -/
  prepare : Except Result (Entry Memory × Memory)
  /-- `ExecuteInternal` from the return of `Transaction::Execute` on. -/
  finish : Result → Memory → Except Exception (Result × Json)
  /-- The rows that the task has asked for. -/
  selected : Memory → Rows

namespace TransactionTask

variable {D : Type}

/-- The transaction of the task was executed: the code it returned, and the variables after it. -/
def Executed (task : TransactionTask) (database : Database D) (commitAttempts fuel : Nat)
    (visible : D) (result : Result) (memory : task.Memory) : Prop :=
  ∃ entry before, task.prepare = .ok (entry, before) ∧
    let execution :=
      ({ entry, commitAttempts } : Transaction task.Memory).execute database fuel before visible
    execution.result = some result ∧ execution.memory.2 = memory

/-- What the callback receives when the transaction has returned this code and left these
variables. -/
def callback (task : TransactionTask) (result : Result) (memory : task.Memory) : Callback :=
  BaseTask.execute (task.finish result memory)

/-- `Transaction::Execute` returns `SUCCESS` or the code of an exception. -/
theorem Executed.isResult {task : TransactionTask} {database : Database D}
    {commitAttempts fuel : Nat} {visible : D} {result : Result} {memory : task.Memory}
    (h : task.Executed database commitAttempts fuel visible result memory) :
    Transaction.IsResult result := by
  obtain ⟨entry, before, -, hresult, -⟩ := h
  exact Transaction.isResult_execute hresult

end TransactionTask

end TaskMgr.Tasks

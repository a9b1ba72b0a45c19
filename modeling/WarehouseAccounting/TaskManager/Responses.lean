import WarehouseAccounting.DbConnector.Chain
import WarehouseAccounting.DbConnector.CountText
import WarehouseAccounting.DbConnector.Retry
import WarehouseAccounting.Foundations.Exceptions
import WarehouseAccounting.TaskManager.Tasks.ListTasks
import WarehouseAccounting.TaskManager.Tasks.SizeTasks

/-!
# What the tasks respond

The response of a task whose transaction is let through at its first attempt, on the tables as they
are.

- `TransactionTask.callback_eq_respond`, `TransactionTask.visible_eq_leaves`: it is what
  `Transaction::Execute` leads to, whatever the number of attempts.
- `TransactionTask.respond_eq_success`: a task succeeds when its entry chain gets to its end.
- `respond_rowsTask`, `respond_itemsTask_eq_success`: the responses of tasks of one statement, and
  of lists with items, from the answers to their statements.
-/

namespace TaskMgr.Tasks

open Ufa Srv.Db Srv.Db.Trsct

/-- An answer is its response with its code. -/
theorem eq_mk_of_result {callback : Callback} {result : Result} (h : callback.result = result) :
    callback = ⟨callback.response, result⟩ := by
  rw [← h]

namespace TransactionTask

variable {D : Type}

/-- The response of the task when its first attempt is the last one. -/
def respond (task : TransactionTask) (answers : Program.Answers Exception Statement Rows D)
    (visible : D) : Callback :=
  match task.prepare with
  | .error code => BaseTask.execute (.ok (code, .null))
  | .ok (entry, before) =>
    let ran := (entry.executeChain before).run answers 0 visible
    match ran.outcome with
    | .ok () => task.callback .success ran.memory.2
    | .error exception => task.callback exception.result ran.memory.2

/-- What the task leaves behind when its first attempt is the last one. -/
def leaves (task : TransactionTask) (answers : Program.Answers Exception Statement Rows D)
    (visible : D) : D :=
  match task.prepare with
  | .error _ => visible
  | .ok (entry, before) =>
    let ran := (entry.executeChain before).run answers 0 visible
    match ran.outcome with
    | .ok () => ran.state
    | .error _ => visible

/-- When commits succeed and the first attempt has no serialization failure, the transaction ends
with it. -/
theorem execute_first {σ : Type} {entry : Entry σ} (hentry : entry ≠ .null) {database : Database D}
    (hcommit : ∀ clock state, database.commit clock state = .committed)
    {commitAttempts fuel : Nat} {before : σ} {visible : D}
    (hfirst : ((entry.executeChain before).run database.answers 0 visible).outcome ≠
      .error .serializationFailure) :
    let ran := (entry.executeChain before).run database.answers 0 visible
    let execution := ({ entry, commitAttempts } : Transaction σ).execute database (fuel + 1) before
      visible
    execution.memory = ran.memory ∧
      (ran.outcome = .ok () → execution.result = some .success ∧ execution.visible = ran.state) ∧
      ∀ exception, ran.outcome = .error exception →
        execution.result = some exception.result ∧ execution.visible = visible := by
  have hexecute : ({ entry, commitAttempts } : Transaction σ).execute database (fuel + 1) before
      visible = (Execution.start commitAttempts (entry, before) visible).rounds database
        commitAttempts (fun attempt => attempt.1.executeChain attempt.2) (fuel + 1) := by
    unfold Transaction.execute
    split
    · exact absurd ‹_› hentry
    · rfl
  dsimp only
  rw [hexecute, Execution.rounds]
  dsimp only [Execution.start]
  -- The first round returns, so the loop ends with it.
  rcases hran : ((entry.executeChain before).run database.answers 0 visible).outcome with
    exception | ⟨⟩
  · rw [hran] at hfirst
    have hne : exception ≠ .serializationFailure := fun heq => hfirst (by rw [heq])
    simp only [Execution.round, hran, Execution.catchException, if_neg hne]
    rw [Execution.rounds_of_result (by simp)]
    refine ⟨rfl, fun h => (by cases h), fun thrown hthrown => ?_⟩
    cases hthrown
    exact ⟨rfl, rfl⟩
  · simp only [Execution.round, hran, hcommit]
    rw [Execution.rounds_of_result (by simp)]
    exact ⟨rfl, fun _ => ⟨rfl, rfl⟩, fun exception h => (by cases h)⟩

/-- When commits succeed and the first attempt has no serialization failure, the task responds so
whatever the number of attempts. -/
theorem callback_eq_respond {task : TransactionTask} {database : Database D}
    (hcommit : ∀ clock state, database.commit clock state = .committed)
    {commitAttempts fuel : Nat} {visible : D} {result : Result} {memory : task.Memory}
    (h : task.Executed database commitAttempts fuel visible result memory)
    (hfirst : ∀ entry before, task.prepare = .ok (entry, before) →
      ((entry.executeChain before).run database.answers 0 visible).outcome ≠
        .error .serializationFailure) :
    task.callback result memory = task.respond database.answers visible := by
  obtain ⟨entry, before, hprepare, hresult, hmemory⟩ := h
  unfold respond
  rw [hprepare]
  dsimp only
  by_cases hnull : entry = .null
  · subst hnull
    rw [Entry.run_executeChain_null]
    cases hresult
    cases hmemory
    rfl
  · cases fuel with
    | zero =>
      cases entry with
      | null => exact absurd rfl hnull
      | _ => cases hresult
    | succ fuel =>
      obtain ⟨hleft, hok, herror⟩ := execute_first hnull hcommit (hfirst entry before hprepare)
      rw [hleft] at hmemory
      rcases hran : ((entry.executeChain before).run database.answers 0 visible).outcome with
        exception | ⟨⟩
      · rw [(herror exception hran).1] at hresult
        cases hresult
        rw [hmemory]
      · rw [(hok hran).1] at hresult
        cases hresult
        rw [hmemory]

/-- It leaves behind what is visible then. -/
theorem visible_eq_leaves {task : TransactionTask} {entry : Entry task.Memory}
    {before : task.Memory} (hprepare : task.prepare = .ok (entry, before)) (hentry : entry ≠ .null)
    {database : Database D} (hcommit : ∀ clock state, database.commit clock state = .committed)
    {commitAttempts fuel : Nat} {visible : D}
    (hfirst : ((entry.executeChain before).run database.answers 0 visible).outcome ≠
      .error .serializationFailure) :
    (({ entry, commitAttempts } : Transaction task.Memory).execute database (fuel + 1) before
      visible).visible = task.leaves database.answers visible := by
  obtain ⟨-, hok, herror⟩ := @execute_first D task.Memory entry hentry database hcommit
    commitAttempts fuel before visible hfirst
  unfold leaves
  rw [hprepare]
  dsimp only
  rcases hran : ((entry.executeChain before).run database.answers 0 visible).outcome with
    exception | ⟨⟩
  · exact (herror exception hran).2
  · exact (hok hran).2

/-- A chain that gets to its end leaves the state that it has got to. -/
theorem leaves_of_runsTo {task : TransactionTask} {entry : Entry task.Memory}
    {before after : task.Memory} (hprepare : task.prepare = .ok (entry, before))
    {answers : Program.Answers Exception Statement Rows D} {visible state : D} {clock : Nat}
    (h : entry.RunsTo (Program.Clocked answers) (0, visible) before (clock, state) after) :
    task.leaves answers visible = state := by
  obtain ⟨entry', hcompletes⟩ := h
  obtain ⟨houtcome, -, hfinal⟩ := Program.completes_clocked.mp hcompletes
  unfold leaves
  rw [hprepare]
  dsimp only
  rw [houtcome]
  exact congrArg Prod.snd hfinal

/-- What is answered with `SUCCESS`. -/
theorem execute_eq_success {executed : Except Exception (Result × Json)} {json : Json} :
    BaseTask.execute executed = ⟨json, .success⟩ ↔ executed = .ok (.success, json) := by
  rcases executed with exception | ⟨result, response⟩
  · simp [BaseTask.execute]
  · by_cases hresult : result = .success <;> simp [BaseTask.execute, hresult]

/-- A task that answers nothing after an exception succeeds when its entry chain gets to its end,
and it can answer what it has found then. -/
theorem respond_eq_success {task : TransactionTask} {entry : Entry task.Memory}
    {before : task.Memory} (hprepare : task.prepare = .ok (entry, before))
    (hfinish : ∀ (exception : Exception) memory json,
      task.finish exception.result memory ≠ .ok (.success, json))
    {answers : Program.Answers Exception Statement Rows D} {visible : D} {json : Json} :
    task.respond answers visible = ⟨json, .success⟩ ↔
      ∃ after memory, entry.RunsTo (Program.Clocked answers) (0, visible) before after memory ∧
        task.finish .success memory = .ok (.success, json) := by
  unfold respond
  rw [hprepare]
  dsimp only
  rcases hran : ((entry.executeChain before).run answers 0 visible).outcome with exception | ⟨⟩
  · refine iff_of_false (fun h => hfinish exception _ json (execute_eq_success.mp h)) ?_
    rintro ⟨after, memory, ⟨entry', hcompletes⟩, -⟩
    have hok := (Program.completes_clocked.mp hcompletes).1
    rw [hran] at hok
    cases hok
  · refine execute_eq_success.trans ⟨fun h => ?_, ?_⟩
    · exact ⟨_, _, ⟨_, Program.completes_clocked.mpr ⟨hran, rfl, rfl⟩⟩, h⟩
    · rintro ⟨after, memory, ⟨entry', hcompletes⟩, h⟩
      -- The run is the one that got to this end.
      have hmemory := (Program.completes_clocked.mp hcompletes).2.1
      rw [hmemory]
      exact h

/-- A task that has succeeded could build its chain, and the chain has got to its end. -/
theorem exists_runsTo {task : TransactionTask}
    {chain : Except Exception (Entry task.Memory × task.Memory)}
    (hprepare : task.prepare = prepared chain)
    (hfinish : ∀ (exception : Exception) memory json,
      task.finish exception.result memory ≠ .ok (.success, json))
    {answers : Program.Answers Exception Statement Rows D} {visible : D} {json : Json}
    (h : task.respond answers visible = ⟨json, .success⟩) :
    ∃ entry before after memory, chain = .ok (entry, before) ∧
      entry.RunsTo (Program.Clocked answers) (0, visible) before after memory ∧
        task.finish .success memory = .ok (.success, json) ∧
          task.leaves answers visible = after.2 := by
  rcases chain with exception | ⟨entry, before⟩
  · -- The code of a failed preparation is that of an error.
    have hfailed : task.prepare = .error .error := hprepare
    rw [respond, hfailed] at h
    cases congrArg Callback.result h
  · obtain ⟨after, memory, hruns, hfinished⟩ := (respond_eq_success hprepare hfinish).mp h
    exact ⟨entry, before, after, memory, rfl, hruns, hfinished,
      leaves_of_runsTo hprepare hruns⟩

/-- The response of a task of one statement that was answered. -/
theorem respond_query_of_ok {task : TransactionTask} {options : QueryOptions}
    {params : ValueCollector} {store : Rows → task.Memory → task.Memory} {before : task.Memory}
    (hprepare : task.prepare = .ok (.query options params store .null, before))
    {answers : Program.Answers Exception Statement Rows D} {visible state : D} {rows : Rows}
    (h : answers 0 ⟨options, params.toPqxx⟩ visible = .ok (rows, state)) :
    task.respond answers visible = task.callback .success (store rows before) := by
  unfold respond
  rw [hprepare]
  dsimp only
  rw [Entry.run_executeChain_query_of_ok h, Entry.run_executeChain_null]

/-- The response of a task of one statement that was refused. -/
theorem respond_query_of_error {task : TransactionTask} {options : QueryOptions}
    {params : ValueCollector} {store : Rows → task.Memory → task.Memory} {before : task.Memory}
    (hprepare : task.prepare = .ok (.query options params store .null, before))
    {answers : Program.Answers Exception Statement Rows D} {visible : D} {exception : Exception}
    (h : answers 0 ⟨options, params.toPqxx⟩ visible = .error exception) :
    task.respond answers visible = task.callback exception.result before := by
  unfold respond
  rw [hprepare]
  dsimp only
  rw [Entry.run_executeChain_query_of_error h]

end TransactionTask

/-! ## Tasks of one statement -/

variable {D : Type}

/-- The statement of some options, with the parameters of its condition. -/
def selectStatement (options : SelectOptions) : Statement :=
  ⟨.select options, (QueryFactory.conditionParams options.condition).toPqxx⟩

/-- What is answered to the rows that a task has found, when it looks at them before the code of
its transaction. -/
def foundResponse (answer : Rows → Except Exception Json) (found : Except Exception Rows) :
    Callback :=
  match found with
  | .error _ | .ok [] => ⟨.object [], .notFound⟩
  | .ok (row :: rows) =>
    match answer (row :: rows) with
    | .ok json => ⟨json, .success⟩
    | .error _ => ⟨.object [], .error⟩

/-- The end of such a task. -/
theorem execute_finishFound (answer : Rows → Except Exception Json) (rows : Rows) :
    BaseTask.execute (finishFound rows .success (answer rows)) =
      foundResponse answer (.ok rows) := by
  cases rows with
  | nil => rfl
  | cons row rows =>
    show BaseTask.execute ((answer (row :: rows)).map fun json => (.success, json)) =
      match answer (row :: rows) with
      | .ok json => ⟨json, .success⟩
      | .error _ => ⟨.object [], .error⟩
    cases answer (row :: rows) <;> rfl

/-- The response of a task of one statement. -/
theorem respond_rowsTask (options : SelectOptions) (answer : Rows → Except Exception Json)
    (answers : Program.Answers Exception Statement Rows D) (visible : D) :
    (rowsTask options fun result rows => finishFound rows result (answer rows)).respond answers
        visible =
      foundResponse answer ((answers 0 (selectStatement options) visible).map Prod.fst) := by
  unfold TransactionTask.respond
  dsimp only [rowsTask, ListRequest.chain, ListRequest.selectEntry, TransactionTask.callback]
  rcases hanswer : answers 0 (selectStatement options) visible with exception | ⟨rows, state⟩
  · -- No rows are left, so the code of the transaction is lost.
    rw [Entry.run_executeChain_query_of_error hanswer]
    rfl
  · rw [Entry.run_executeChain_query_of_ok hanswer, Entry.run_executeChain_null]
    exact execute_finishFound answer rows

/-- The task succeeds with the rows that it has found, when it can answer them. -/
theorem foundResponse_eq_success {answer : Rows → Except Exception Json}
    {found : Except Exception Rows} {json : Json} :
    foundResponse answer found = ⟨json, .success⟩ ↔
      ∃ rows, found = .ok rows ∧ rows ≠ [] ∧ answer rows = .ok json := by
  unfold foundResponse
  rcases found with exception | _ | ⟨row, rows⟩
  · simp
  · simp
  · cases hanswer : answer (row :: rows) <;> simp [hanswer]

/-! ## Lists with items -/

section ItemsTask

variable {α : Type} (options : SelectOptions)
  (fromRow : List (Option String) → Except Exception α) (idOf : α → Option Int64)
  (itemsOptions : List Int64 → SelectOptions) (answer : ItemList α → Except Exception Json)

/-- A list with items, which looks at its rows before the code of its transaction. -/
def itemsTask : TransactionTask where
  Memory := ItemList α
  prepare := .ok (ItemList.chain options fromRow idOf itemsOptions, {})
  finish := fun result memory => finishFound memory.results result (answer memory)
  selected := ItemList.results

variable {options fromRow idOf itemsOptions answer}

/-- After the first statement is answered, the response is that of the collecting function. -/
theorem respond_itemsTask_of_ok {answers : Program.Answers Exception Statement Rows D}
    {visible state : D} {rows : Rows}
    (h : answers 0 (selectStatement options) visible = .ok (rows, state)) :
    (itemsTask options fromRow idOf itemsOptions answer).respond answers visible =
      let ran := (ItemList.collect fromRow idOf itemsOptions { results := rows }).run answers 1
        state
      match ran.outcome with
      | .ok () => BaseTask.execute (finishFound ran.memory.results .success (answer ran.memory))
      | .error exception =>
        BaseTask.execute (finishFound ran.memory.results exception.result (answer ran.memory)) := by
  unfold TransactionTask.respond
  dsimp only [itemsTask, ItemList.chain, ListRequest.selectEntry, TransactionTask.callback]
  rw [Entry.run_executeChain_query_of_ok h]
  dsimp only
  rcases hcollect : ((ItemList.collect fromRow idOf itemsOptions { results := rows }).run answers 1
      state).outcome with exception | ⟨⟩
  · rw [Entry.run_executeChain_variable_of_error hcollect]
  · rw [Entry.run_executeChain_variable_of_ok hcollect]
    dsimp only
    rw [Entry.run_executeChain_null]

/-- Without rows the list is not found. -/
theorem respond_itemsTask_of_empty {answers : Program.Answers Exception Statement Rows D}
    {visible : D}
    (h : ∀ rows state, answers 0 (selectStatement options) visible = .ok (rows, state) →
      rows = []) :
    (itemsTask options fromRow idOf itemsOptions answer).respond answers visible =
      ⟨.object [], .notFound⟩ := by
  rcases hanswer : answers 0 (selectStatement options) visible with exception | ⟨rows, state⟩
  · unfold TransactionTask.respond
    dsimp only [itemsTask, ItemList.chain, ListRequest.selectEntry, TransactionTask.callback]
    rw [Entry.run_executeChain_query_of_error hanswer]
    rfl
  · rw [respond_itemsTask_of_ok hanswer]
    cases h rows state hanswer
    -- There is nothing to collect, so the second statement is not issued.
    rfl

/-- The end of a list that has found rows. -/
theorem execute_finishFound_eq_success {rows : Rows} (hrows : rows ≠ []) {result : Result}
    {executed : Except Exception Json} {json : Json} :
    BaseTask.execute (finishFound rows result executed) = ⟨json, .success⟩ ↔
      result = .success ∧ executed = .ok json := by
  rw [finishFound, if_neg (by simpa using hrows), finishDone]
  by_cases hresult : result = .success
  · rw [if_pos hresult]
    cases executed <;> simp [BaseTask.execute, Except.map, hresult]
  · rw [if_neg hresult]
    simp [BaseTask.execute, hresult]

/-- The list succeeds when its rows, its ids and its items are there, and it can answer them. -/
theorem respond_itemsTask_eq_success {answers : Program.Answers Exception Statement Rows D}
    {visible : D} {json : Json} :
    (itemsTask options fromRow idOf itemsOptions answer).respond answers visible =
        ⟨json, .success⟩ ↔
      ∃ rows state entities ids itemRows state',
        answers 0 (selectStatement options) visible = .ok (rows, state) ∧ rows ≠ [] ∧
          rows.mapM fromRow = .ok entities ∧
          entities.mapM (fun entity => required (idOf entity)) = .ok ids ∧
          answers 1 (selectStatement (itemsOptions ids)) state = .ok (itemRows, state') ∧
          answer ⟨rows, itemRows, entities⟩ = .ok json := by
  by_cases hempty : ∀ rows state, answers 0 (selectStatement options) visible = .ok (rows, state) →
      rows = []
  · rw [respond_itemsTask_of_empty hempty]
    refine iff_of_false (fun h => by cases h) ?_
    rintro ⟨rows, state, -, -, -, -, hanswer, hrows, -⟩
    exact hrows (hempty rows state hanswer)
  · push Not at hempty
    obtain ⟨rows, state, hanswer, hrows⟩ := hempty
    rw [respond_itemsTask_of_ok hanswer]
    unfold ItemList.collect
    dsimp only
    rcases hentities : rows.mapM fromRow with exception | entities
    · -- A row is not an entity.
      refine iff_of_false (fun h => ?_) ?_
      · exact exception.result_ne_success ((execute_finishFound_eq_success hrows).mp h).1
      · rintro ⟨rows', state', entities, -, -, -, hanswer', -, hentities', -⟩
        cases hanswer.symm.trans hanswer'
        cases hentities.symm.trans hentities'
    dsimp only [List.nil_append]
    rcases hids : entities.mapM (fun entity => required (idOf entity)) with exception | ids
    · -- An entity has no id.
      refine iff_of_false (fun h => ?_) ?_
      · exact exception.result_ne_success ((execute_finishFound_eq_success hrows).mp h).1
      · rintro ⟨rows', state', entities', ids, -, -, hanswer', -, hentities', hids', -⟩
        cases hanswer.symm.trans hanswer'
        cases hentities.symm.trans hentities'
        cases hids.symm.trans hids'
    have hlength : ids.length = rows.length :=
      (Exceptions.mapM_eq_ok_iff.mp hids).length_eq.symm.trans
        (Exceptions.mapM_eq_ok_iff.mp hentities).length_eq.symm
    have hsome : ¬ ids.isEmpty = true := by
      rw [List.isEmpty_iff_length_eq_zero, hlength, List.length_eq_zero_iff]
      exact hrows
    dsimp only
    rw [if_neg hsome]
    rcases hitems : answers 1 ⟨.select (itemsOptions ids),
        (QueryFactory.conditionParams (itemsOptions ids).condition).toPqxx⟩ state with
      exception | ⟨itemRows, state'⟩
    · -- The items are refused.
      rw [Program.run_issue_of_error hitems]
      refine iff_of_false (fun h => ?_) ?_
      · exact exception.result_ne_success ((execute_finishFound_eq_success hrows).mp h).1
      · rintro ⟨rows', state', entities', ids', itemRows, final, hanswer', -, hentities', hids',
          hitems', -⟩
        cases hanswer.symm.trans hanswer'
        cases hentities.symm.trans hentities'
        cases hids.symm.trans hids'
        cases hitems.symm.trans hitems'
    · rw [Program.run_issue_of_ok hitems]
      refine (execute_finishFound_eq_success hrows).trans ⟨fun h => ?_, ?_⟩
      · exact ⟨rows, state, entities, ids, itemRows, state', hanswer, hrows, hentities, hids,
          hitems, h.2⟩
      · rintro ⟨rows', state', entities', ids', itemRows', final, hanswer', -, hentities', hids',
          hitems', hjson⟩
        cases hanswer.symm.trans hanswer'
        cases hentities.symm.trans hentities'
        cases hids.symm.trans hids'
        cases hitems.symm.trans hitems'
        exact ⟨rfl, hjson⟩

end ItemsTask

end TaskMgr.Tasks

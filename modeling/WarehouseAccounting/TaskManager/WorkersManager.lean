import Mathlib.Algebra.BigOperators.Fin
import Mathlib.Algebra.Order.BigOperators.Group.Finset
import WarehouseAccounting.TaskManager.Tasks.BaseTask

/-!
# The queue and its workers

`WorkersManager` of `workers_manager.cpp` with `BaseTask::Execute`: tasks are added to a queue
under its mutex, and four workers take them from its front, execute them, and call their callbacks.
Nobody sets `m_stop`.

- `WorkersManager.step`: one step of a thread that adds a task, or of a worker.
- `WorkersManager.Accounted.step`: every task that was added is queued, held by a worker, or
  finished; what was taken and what is queued are all that was added, in that order.
- `WorkersManager.Accounted.finished`: a task that is finished was executed once, and its callback
  called once.
-/

namespace TaskMgr

open Ufa Tasks Srv.Db.Trsct

/-! ## Workers -/

/-- `DEFAULT_NUM_WORKERS`. -/
abbrev defaultNumWorkers : Nat := 4

/-- Where a worker is in `WorkersManager::Run`. -/
inductive Worker (τ : Type) where
  /-- It waits for the queue, or is about to. -/
  | waiting
  /-- It has taken a task from the queue. -/
  | holding (task : τ)
  /-- `ExecuteInternal` is over. -/
  | executed (task : τ) (callback : Callback)
  /-- `m_callback` has been called. -/
  | called (task : τ)

namespace Worker

variable {τ : Type} [DecidableEq τ]

/-- The worker has the task. -/
def held (worker : Worker τ) (task : τ) : Nat :=
  match worker with
  | .waiting => 0
  | .holding other | .executed other _ | .called other => if other = task then 1 else 0

/-- The worker has the task, and has executed it. -/
def executions (worker : Worker τ) (task : τ) : Nat :=
  match worker with
  | .waiting | .holding _ => 0
  | .executed other _ | .called other => if other = task then 1 else 0

/-- The worker has the task, and has called its callback. -/
def calls (worker : Worker τ) (task : τ) : Nat :=
  match worker with
  | .waiting | .holding _ | .executed _ _ => 0
  | .called other => if other = task then 1 else 0

section Counts

variable (task other : τ) (callback : Callback)

@[simp]
theorem held_waiting : (waiting : Worker τ).held task = 0 := rfl

@[simp]
theorem held_holding : (holding other).held task = if other = task then 1 else 0 := rfl

@[simp]
theorem held_executed : (executed other callback).held task = if other = task then 1 else 0 := rfl

@[simp]
theorem held_called : (called other).held task = if other = task then 1 else 0 := rfl

@[simp]
theorem executions_waiting : (waiting : Worker τ).executions task = 0 := rfl

@[simp]
theorem executions_holding : (holding other).executions task = 0 := rfl

@[simp]
theorem executions_executed :
    (executed other callback).executions task = if other = task then 1 else 0 := rfl

@[simp]
theorem executions_called : (called other).executions task = if other = task then 1 else 0 := rfl

@[simp]
theorem calls_waiting : (waiting : Worker τ).calls task = 0 := rfl

@[simp]
theorem calls_holding : (holding other).calls task = 0 := rfl

@[simp]
theorem calls_executed : (executed other callback).calls task = 0 := rfl

@[simp]
theorem calls_called : (called other).calls task = if other = task then 1 else 0 := rfl

end Counts

/-- A callback is called by a worker that has executed the task, which it has. -/
theorem calls_le_held (worker : Worker τ) (task : τ) :
    worker.calls task ≤ worker.executions task ∧ worker.executions task ≤ worker.held task := by
  cases worker <;> simp [calls, executions, held]

end Worker

/-! ## The manager -/

/-- `WorkersManager`, with the tasks in the order in which they were added, taken, executed and
finished, and the calls of their callbacks. -/
structure WorkersManager (τ : Type) where
  /-- `m_queue`, its front first. -/
  queue : List τ := []
  /-- `m_workers`. -/
  workers : Fin defaultNumWorkers → Worker τ := fun _ => .waiting
  added : List τ := []
  taken : List τ := []
  executed : List τ := []
  called : List τ := []
  finished : List τ := []

namespace WorkersManager

variable {τ : Type}

/-- A step of a thread that adds a task, or of a worker. -/
inductive Event (τ : Type) where
  /-- `AddTask`. -/
  | addTask (task : τ)
  /-- A worker wakes up with the mutex of the queue and takes its front. -/
  | take (worker : Fin defaultNumWorkers)
  /-- A worker has run `ExecuteInternal`, which has returned or thrown. -/
  | execute (worker : Fin defaultNumWorkers) (executed : Except Exception (Result × Json))
  /-- A worker calls `m_callback`. -/
  | callback (worker : Fin defaultNumWorkers)
  /-- `HandleTask` has returned. -/
  | finish (worker : Fin defaultNumWorkers)

/-- One step, if it can be made. -/
def step (manager : WorkersManager τ) : Event τ → Option (WorkersManager τ)
  | .addTask task =>
    some { manager with queue := manager.queue ++ [task], added := manager.added ++ [task] }
  | .take worker =>
    match manager.workers worker, manager.queue with
    | .waiting, task :: queue =>
      some { manager with
        queue
        workers := Function.update manager.workers worker (.holding task)
        taken := manager.taken ++ [task] }
    | _, _ => none
  | .execute worker executed =>
    match manager.workers worker with
    | .holding task =>
      some { manager with
        workers := Function.update manager.workers worker
          (.executed task (BaseTask.execute executed))
        executed := manager.executed ++ [task] }
    | _ => none
  | .callback worker =>
    match manager.workers worker with
    | .executed task _ =>
      some { manager with
        workers := Function.update manager.workers worker (.called task)
        called := manager.called ++ [task] }
    | _ => none
  | .finish worker =>
    match manager.workers worker with
    | .called task =>
      some { manager with
        workers := Function.update manager.workers worker .waiting
        finished := manager.finished ++ [task] }
    | _ => none

/-- Every step, with what it takes. -/
inductive Stepped (manager : WorkersManager τ) : Event τ → WorkersManager τ → Prop
  | addTask (task : τ) :
      Stepped manager (.addTask task)
        { manager with queue := manager.queue ++ [task], added := manager.added ++ [task] }
  | take {worker : Fin defaultNumWorkers} {task : τ} {queue : List τ}
      (waiting : manager.workers worker = .waiting) (front : manager.queue = task :: queue) :
      Stepped manager (.take worker) { manager with
        queue
        workers := Function.update manager.workers worker (.holding task)
        taken := manager.taken ++ [task] }
  | execute {worker : Fin defaultNumWorkers} {task : τ}
      (executed : Except Exception (Result × Json))
      (holding : manager.workers worker = .holding task) :
      Stepped manager (.execute worker executed) { manager with
        workers := Function.update manager.workers worker
          (.executed task (BaseTask.execute executed))
        executed := manager.executed ++ [task] }
  | callback {worker : Fin defaultNumWorkers} {task : τ} {callback : Callback}
      (executed : manager.workers worker = .executed task callback) :
      Stepped manager (.callback worker) { manager with
        workers := Function.update manager.workers worker (.called task)
        called := manager.called ++ [task] }
  | finish {worker : Fin defaultNumWorkers} {task : τ}
      (called : manager.workers worker = .called task) :
      Stepped manager (.finish worker) { manager with
        workers := Function.update manager.workers worker .waiting
        finished := manager.finished ++ [task] }

/-- There are no other steps. -/
theorem stepped_of_step {manager manager' : WorkersManager τ} {event : Event τ}
    (h : manager.step event = some manager') : Stepped manager event manager' := by
  cases event with
  | addTask task =>
    obtain rfl := Option.some.inj h
    exact .addTask task
  | take worker =>
    rw [step] at h
    split at h
    · rename_i task queue hwaiting hfront
      obtain rfl := Option.some.inj h
      exact .take hwaiting hfront
    · cases h
  | execute worker executed =>
    rw [step] at h
    split at h
    · rename_i task hholding
      obtain rfl := Option.some.inj h
      exact .execute executed hholding
    · cases h
  | callback worker =>
    rw [step] at h
    split at h
    · rename_i task callback hexecuted
      obtain rfl := Option.some.inj h
      exact .callback hexecuted
    · cases h
  | finish worker =>
    rw [step] at h
    split at h
    · rename_i task hcalled
      obtain rfl := Option.some.inj h
      exact .finish hcalled
    · cases h

/-- Only `AddTask` adds a task. -/
theorem added_of_step {manager manager' : WorkersManager τ} {event : Event τ}
    (hevent : ∀ task, event ≠ .addTask task) (h : manager.step event = some manager') :
    manager'.added = manager.added := by
  cases stepped_of_step h with
  | addTask task => exact absurd rfl (hevent task)
  | take | execute | callback | finish => rfl

/-- Only a callback is called. -/
theorem called_of_step {manager manager' : WorkersManager τ} {event : Event τ}
    (hevent : ∀ worker, event ≠ .callback worker) (h : manager.step event = some manager') :
    manager'.called = manager.called := by
  cases stepped_of_step h with
  | @callback worker => exact absurd rfl (hevent worker)
  | addTask | take | execute | finish => rfl

/-- A worker that has executed a task calls its callback. -/
theorem step_callback {manager : WorkersManager τ} {worker : Fin defaultNumWorkers} {task : τ}
    {callback : Callback} (h : manager.workers worker = .executed task callback) :
    manager.step (.callback worker) = some { manager with
      workers := Function.update manager.workers worker (.called task)
      called := manager.called ++ [task] } := by
  rw [step, h]

/-! ## Where the tasks are -/

/-- A sum over the workers when one of them goes on. -/
theorem sum_update {α : Type} (count : α → Nat) (workers : Fin defaultNumWorkers → α)
    (worker : Fin defaultNumWorkers) (next : α) :
    ∑ other, count (Function.update workers worker next other) + count (workers worker) =
      ∑ other, count (workers other) + count next := by
  have hupdate : (fun other => count (Function.update workers worker next other)) =
      Function.update (fun other => count (workers other)) worker (count next) := by
    funext other
    by_cases hother : other = worker
    · subst hother
      simp
    · simp [hother]
  rw [hupdate, Finset.sum_update_of_mem (Finset.mem_univ worker), Finset.sdiff_singleton_eq_erase,
    ← Finset.add_sum_erase Finset.univ (fun other => count (workers other))
      (Finset.mem_univ worker)]
  omega

variable [DecidableEq τ]

/-- How many workers have the task. -/
def held (manager : WorkersManager τ) (task : τ) : Nat :=
  ∑ worker, (manager.workers worker).held task

/-- How many of them have executed it. -/
def executions (manager : WorkersManager τ) (task : τ) : Nat :=
  ∑ worker, (manager.workers worker).executions task

/-- How many of them have called its callback. -/
def calls (manager : WorkersManager τ) (task : τ) : Nat :=
  ∑ worker, (manager.workers worker).calls task

/-- Callbacks are called of tasks that are executed, which workers have. -/
theorem calls_le_held (manager : WorkersManager τ) (task : τ) :
    manager.calls task ≤ manager.executions task ∧
      manager.executions task ≤ manager.held task :=
  ⟨Finset.sum_le_sum fun worker _ => ((manager.workers worker).calls_le_held task).1,
    Finset.sum_le_sum fun worker _ => ((manager.workers worker).calls_le_held task).2⟩

/-- A worker has its task. -/
theorem held_le (manager : WorkersManager τ) (worker : Fin defaultNumWorkers) (task : τ) :
    (manager.workers worker).held task ≤ manager.held task :=
  Finset.single_le_sum (f := fun worker => (manager.workers worker).held task)
    (fun _ _ => Nat.zero_le _) (Finset.mem_univ worker)

/-- All tasks are accounted for. -/
structure Accounted (manager : WorkersManager τ) : Prop where
  /-- A task that was added is queued, held or finished. -/
  added : ∀ task, manager.added.count task =
    manager.queue.count task + manager.held task + manager.finished.count task
  /-- A task that is finished, or whose worker says so, was executed. -/
  executed : ∀ task, manager.executed.count task =
    manager.executions task + manager.finished.count task
  /-- Its callback was called. -/
  called : ∀ task, manager.called.count task = manager.calls task + manager.finished.count task
  /-- The queue is first in, first out. -/
  fifo : manager.added = manager.taken ++ manager.queue

/-- A task at the end of a list. -/
theorem count_append_singleton (tasks : List τ) (task other : τ) :
    (tasks ++ [task]).count other = tasks.count other + if task = other then 1 else 0 := by
  rw [List.count_append, List.count_singleton]
  simp only [beq_iff_eq]

/-- What a worker that goes on does with one task: the sums and the lists change by the same. -/
theorem accounted_update {manager manager' : WorkersManager τ} (h : Accounted manager)
    {worker : Fin defaultNumWorkers} {next : Worker τ}
    (hworkers : manager'.workers = Function.update manager.workers worker next)
    (hadded : manager'.added = manager.added)
    (hfifo : manager'.taken ++ manager'.queue = manager.taken ++ manager.queue)
    (hcounts : ∀ task,
      manager'.queue.count task + next.held task + manager'.finished.count task =
          manager.queue.count task + (manager.workers worker).held task +
            manager.finished.count task ∧
        manager'.executed.count task + (manager.workers worker).executions task +
            manager.finished.count task =
          manager.executed.count task + next.executions task + manager'.finished.count task ∧
        manager'.called.count task + (manager.workers worker).calls task +
            manager.finished.count task =
          manager.called.count task + next.calls task + manager'.finished.count task) :
    Accounted manager' := by
  refine ⟨fun task => ?_, fun task => ?_, fun task => ?_, by rw [hadded, h.fifo, hfifo]⟩
  · have hsum := sum_update (Worker.held · task) manager.workers worker next
    have htask := h.added task
    obtain ⟨hcount, -, -⟩ := hcounts task
    rw [held] at htask ⊢
    rw [hadded, hworkers]
    omega
  · have hsum := sum_update (Worker.executions · task) manager.workers worker next
    have htask := h.executed task
    obtain ⟨-, hcount, -⟩ := hcounts task
    rw [executions] at htask ⊢
    rw [hworkers]
    omega
  · have hsum := sum_update (Worker.calls · task) manager.workers worker next
    have htask := h.called task
    obtain ⟨-, -, hcount⟩ := hcounts task
    rw [calls] at htask ⊢
    rw [hworkers]
    omega

/-- A step leaves all tasks accounted for. -/
theorem Accounted.step {manager manager' : WorkersManager τ} {event : Event τ}
    (h : Accounted manager) (hstep : manager.step event = some manager') :
    Accounted manager' := by
  cases stepped_of_step hstep with
  | addTask task =>
    obtain ⟨hadded, hexecuted, hcalled, hfifo⟩ := h
    refine ⟨fun other => ?_, hexecuted, hcalled, ?_⟩
    · have hother := hadded other
      simp only [held, count_append_singleton] at hother ⊢
      omega
    · rw [hfifo, List.append_assoc]
  | @take worker task queue waiting front =>
    refine accounted_update h rfl rfl ?_ fun other => ?_
    · rw [front, List.append_assoc]
      rfl
    · simp only [waiting, front, List.count_cons, beq_iff_eq, Worker.held_waiting,
        Worker.held_holding, Worker.executions_waiting, Worker.executions_holding,
        Worker.calls_waiting, Worker.calls_holding, and_self, and_true]
      omega
  | @execute worker task executed holding =>
    refine accounted_update h rfl rfl rfl fun other => ?_
    simp only [holding, count_append_singleton, Worker.held_holding, Worker.held_executed,
      Worker.executions_holding, Worker.executions_executed, Worker.calls_holding,
      Worker.calls_executed, true_and, and_true]
    omega
  | @callback worker task callback executed =>
    refine accounted_update h rfl rfl rfl fun other => ?_
    simp only [executed, count_append_singleton, Worker.held_called, Worker.held_executed,
      Worker.executions_called, Worker.executions_executed, Worker.calls_called,
      Worker.calls_executed, true_and]
    omega
  | @finish worker task called =>
    refine accounted_update h rfl rfl rfl fun other => ?_
    simp only [called, count_append_singleton, Worker.held_called, Worker.held_waiting,
      Worker.executions_called, Worker.executions_waiting, Worker.calls_called,
      Worker.calls_waiting]
    omega

/-- A task that was added once and is finished was executed once, and its callback called once. -/
theorem Accounted.finished {manager : WorkersManager τ} (h : Accounted manager) {task : τ}
    (honce : manager.added.count task = 1) (hfinished : task ∈ manager.finished) :
    manager.executed.count task = 1 ∧ manager.called.count task = 1 := by
  have hadded := h.added task
  have hexecuted := h.executed task
  have hcalled := h.called task
  obtain ⟨hcalls, hexecutions⟩ := manager.calls_le_held task
  have hpositive := List.count_pos_iff.mpr hfinished
  omega

/-- In the beginning there are no tasks. -/
theorem accounted_init : Accounted ({} : WorkersManager τ) where
  added task := by simp [held]
  executed task := by simp [executions]
  called task := by simp [calls]
  fifo := rfl

end WorkersManager

end TaskMgr

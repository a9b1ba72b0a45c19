import WarehouseAccounting.TaskManager.WorkersManager

/-!
# The monitor of the queue

`WorkersManager::Run`, `AddTask` and the destructor with the mutex and the condition variable of the
queue. A step of a thread is what it does between two points at which others can come in: a worker
that has found nothing to do keeps the mutex until it is blocked, but `m_stop` is set without the
mutex. The tasks themselves go through `WorkersManager.step`.

- `QueueMonitor.stepped_of_advance`: what each step takes.
- `QueueMonitor.sound_of_reachable`: one thread has the mutex, and no worker is blocked beside a
  task that nobody is going to tell about.
-/

namespace TaskMgr

open Ufa Tasks Srv.Db.Trsct

/-! ## Points and steps -/

/-- Where a thread is in `WorkersManager::Run`. -/
inductive RunPoint where
  /-- Before `while (!m_stop)`. -/
  | testing
  /-- It waits for the mutex. -/
  | locking
  /-- It has the mutex, before the predicate of `wait`. -/
  | checking
  /-- The predicate was false, and the mutex is not given back yet. -/
  | falling
  /-- It is blocked on the condition variable. -/
  | blocked
  /-- The predicate was true. -/
  | leaving
  /-- It has taken a task, and given the mutex back. -/
  | working
  | returned
  deriving DecidableEq, Repr

namespace RunPoint

/-- The thread has the mutex. -/
def holdsMutex : RunPoint → Bool
  | checking | falling | leaving => true
  | testing | locking | blocked | working | returned => false

/-- A thread that is notified has to get the mutex again. -/
def wake : RunPoint → RunPoint
  | blocked => locking
  | point => point

/-- Being notified does not give the mutex. -/
@[simp]
theorem holdsMutex_wake (point : RunPoint) : point.wake.holdsMutex = point.holdsMutex := by
  cases point <;> rfl

/-- Nobody is blocked when all are notified. -/
theorem wake_ne_blocked (point : RunPoint) : point.wake ≠ .blocked := by
  cases point <;> decide

/-- Only those that are blocked are woken. -/
theorem wake_eq_iff {point other : RunPoint} (hblocked : other ≠ .blocked)
    (hlocking : other ≠ .locking) : point.wake = other ↔ point = other := by
  cases point with
  | blocked => exact iff_of_false hlocking.symm hblocked.symm
  | _ => exact Iff.rfl

end RunPoint

/-- Where the destructor is. -/
inductive Closing where
  /-- It has not been called. -/
  | idle
  /-- `m_stop` is set. -/
  | notifying
  /-- So many threads are joined. -/
  | joining (joined : Nat)
  deriving DecidableEq, Repr

/-- The queue and its tasks, with the points of the threads. -/
structure QueueMonitor (τ : Type) where
  manager : WorkersManager τ := {}
  /-- `m_workers`. -/
  points : Fin defaultNumWorkers → RunPoint := fun _ => .testing
  /-- The calls of `AddTask` before their `notify_all`. -/
  notifying : Nat := 0
  closing : Closing := .idle

namespace QueueMonitor

variable {τ : Type}

/-- `m_stop`. -/
def stop (monitor : QueueMonitor τ) : Bool := monitor.closing ≠ .idle

/-- Nobody has the mutex. -/
def MutexFree (monitor : QueueMonitor τ) : Prop :=
  ∀ worker, (monitor.points worker).holdsMutex = false

instance (monitor : QueueMonitor τ) : Decidable monitor.MutexFree :=
  inferInstanceAs (Decidable (∀ _, _))

/-- A worker goes on. -/
def move (worker : Fin defaultNumWorkers) (point : RunPoint) (monitor : QueueMonitor τ) :
    QueueMonitor τ :=
  { monitor with points := Function.update monitor.points worker point }

/-- `notify_all`. -/
def notifyAll (monitor : QueueMonitor τ) : QueueMonitor τ :=
  { monitor with points := fun worker => (monitor.points worker).wake }

/-- A step of a worker, of a thread that adds a task, or of the destructor. -/
inductive Action (τ : Type) where
  /-- `AddTask` up to the end of its block. -/
  | addTask (task : τ)
  /-- The `notify_all` of `AddTask`. -/
  | notify
  /-- A worker is woken for no reason. -/
  | wake (worker : Fin defaultNumWorkers)
  /-- `while (!m_stop)`. -/
  | test (worker : Fin defaultNumWorkers)
  /-- A worker gets the mutex. -/
  | lock (worker : Fin defaultNumWorkers)
  /-- The predicate of `wait`. -/
  | check (worker : Fin defaultNumWorkers)
  /-- A worker is blocked and gives the mutex back. -/
  | block (worker : Fin defaultNumWorkers)
  /-- A worker behind `wait` takes the front of the queue if there is one. -/
  | leave (worker : Fin defaultNumWorkers)
  /-- `ExecuteInternal` has returned or thrown. -/
  | execute (worker : Fin defaultNumWorkers) (executed : Except Exception (Result × Json))
  /-- `m_callback` is called. -/
  | callback (worker : Fin defaultNumWorkers)
  /-- `HandleTask` has returned. -/
  | finish (worker : Fin defaultNumWorkers)
  /-- The destructor sets `m_stop`. -/
  | setStop
  /-- The `notify_all` of the destructor. -/
  | notifyStop
  /-- The destructor joins the next thread. -/
  | join

/-- One step, if it can be made. -/
def advance (monitor : QueueMonitor τ) : Action τ → Option (QueueMonitor τ)
  | .addTask task =>
    if monitor.MutexFree then
      (monitor.manager.step (.addTask task)).map fun manager =>
        { monitor with manager, notifying := monitor.notifying + 1 }
    else
      none
  | .notify =>
    match monitor.notifying with
    | 0 => none
    | notifying + 1 => some { monitor.notifyAll with notifying }
  | .wake worker =>
    if monitor.points worker = .blocked then some (monitor.move worker .locking) else none
  | .test worker =>
    if monitor.points worker = .testing then
      some (monitor.move worker (if monitor.stop then .returned else .locking))
    else
      none
  | .lock worker =>
    if monitor.points worker = .locking ∧ monitor.MutexFree then
      some (monitor.move worker .checking)
    else
      none
  | .check worker =>
    if monitor.points worker = .checking then
      some (monitor.move worker
        (if !monitor.manager.queue.isEmpty || monitor.stop then .leaving else .falling))
    else
      none
  | .block worker =>
    if monitor.points worker = .falling then some (monitor.move worker .blocked) else none
  | .leave worker =>
    if monitor.points worker = .leaving then
      if monitor.manager.queue.isEmpty then
        some (monitor.move worker .testing)
      else
        (monitor.manager.step (.take worker)).map fun manager =>
          { monitor.move worker .working with manager }
    else
      none
  | .execute worker executed =>
    if monitor.points worker = .working then
      (monitor.manager.step (.execute worker executed)).map fun manager =>
        { monitor with manager }
    else
      none
  | .callback worker =>
    if monitor.points worker = .working then
      (monitor.manager.step (.callback worker)).map fun manager => { monitor with manager }
    else
      none
  | .finish worker =>
    if monitor.points worker = .working then
      (monitor.manager.step (.finish worker)).map fun manager =>
        { monitor.move worker .testing with manager }
    else
      none
  | .setStop =>
    if monitor.closing = .idle then some { monitor with closing := .notifying } else none
  | .notifyStop =>
    if monitor.closing = .notifying then
      some { monitor.notifyAll with closing := .joining 0 }
    else
      none
  | .join =>
    match monitor.closing with
    | .joining joined =>
      if hjoined : joined < defaultNumWorkers then
        if monitor.points ⟨joined, hjoined⟩ = .returned then
          some { monitor with closing := .joining (joined + 1) }
        else
          none
      else
        none
    | _ => none

/-- Several steps. -/
def run (actions : List (Action τ)) (monitor : QueueMonitor τ) : Option (QueueMonitor τ) :=
  actions.foldlM (fun monitor action => monitor.advance action) monitor

/-- The states that steps lead to. -/
inductive Reachable : QueueMonitor τ → Prop
  | init : Reachable {}
  | step {monitor monitor' : QueueMonitor τ} {action : Action τ} (before : Reachable monitor)
      (hstep : monitor.advance action = some monitor') : Reachable monitor'

/-- The steps of a run. -/
theorem Reachable.run {monitor monitor' : QueueMonitor τ} {actions : List (Action τ)}
    (h : Reachable monitor) (hrun : monitor.run actions = some monitor') : Reachable monitor' := by
  induction actions generalizing monitor with
  | nil =>
    obtain rfl := Option.some.inj hrun
    exact h
  | cons action actions ih =>
    obtain ⟨middle, hfirst, hrest⟩ := Option.bind_eq_some_iff.mp hrun
    exact ih (h.step hfirst) hrest

/-- What a worker does that has nothing to do with a task, with what it takes. -/
inductive Moves (monitor : QueueMonitor τ) (worker : Fin defaultNumWorkers) :
    Action τ → RunPoint → Prop
  | wake (blocked : monitor.points worker = .blocked) : Moves monitor worker (.wake worker) .locking
  | testStopped (testing : monitor.points worker = .testing) (stop : monitor.stop = true) :
      Moves monitor worker (.test worker) .returned
  | test (testing : monitor.points worker = .testing) (stop : monitor.stop = false) :
      Moves monitor worker (.test worker) .locking
  | lock (locking : monitor.points worker = .locking) (free : monitor.MutexFree) :
      Moves monitor worker (.lock worker) .checking
  | check (checking : monitor.points worker = .checking)
      (found : monitor.manager.queue ≠ [] ∨ monitor.stop = true) :
      Moves monitor worker (.check worker) .leaving
  | checkFailed (checking : monitor.points worker = .checking)
      (empty : monitor.manager.queue = []) (stop : monitor.stop = false) :
      Moves monitor worker (.check worker) .falling
  | block (falling : monitor.points worker = .falling) :
      Moves monitor worker (.block worker) .blocked
  | leave (leaving : monitor.points worker = .leaving) (empty : monitor.manager.queue = []) :
      Moves monitor worker (.leave worker) .testing

/-- What a worker does with a task, and where it is before and after. -/
inductive Works (worker : Fin defaultNumWorkers) :
    Action τ → WorkersManager.Event τ → RunPoint → RunPoint → Prop
  | leave : Works worker (.leave worker) (.take worker) .leaving .working
  | execute (executed : Except Exception (Result × Json)) :
      Works worker (.execute worker executed) (.execute worker executed) .working .working
  | callback : Works worker (.callback worker) (.callback worker) .working .working
  | finish : Works worker (.finish worker) (.finish worker) .working .testing

/-- Every step, with what it takes. -/
inductive Stepped (monitor : QueueMonitor τ) : Action τ → QueueMonitor τ → Prop
  | addTask {task : τ} {manager : WorkersManager τ} (free : monitor.MutexFree)
      (added : monitor.manager.step (.addTask task) = some manager) :
      Stepped monitor (.addTask task)
        { monitor with manager, notifying := monitor.notifying + 1 }
  | notify {notifying : Nat} (added : monitor.notifying = notifying + 1) :
      Stepped monitor .notify { monitor.notifyAll with notifying }
  | moves {action : Action τ} {worker : Fin defaultNumWorkers} {point : RunPoint}
      (moves : Moves monitor worker action point) :
      Stepped monitor action (monitor.move worker point)
  | works {action : Action τ} {worker : Fin defaultNumWorkers} {event : WorkersManager.Event τ}
      {point point' : RunPoint} {manager : WorkersManager τ}
      (works : Works worker action event point point') (before : monitor.points worker = point)
      (worked : monitor.manager.step event = some manager) :
      Stepped monitor action { monitor.move worker point' with manager }
  | setStop (idle : monitor.closing = .idle) :
      Stepped monitor .setStop { monitor with closing := .notifying }
  | notifyStop (stopped : monitor.closing = .notifying) :
      Stepped monitor .notifyStop { monitor.notifyAll with closing := .joining 0 }
  | join {joined : Nat} (joining : monitor.closing = .joining joined)
      (more : joined < defaultNumWorkers) (returned : monitor.points ⟨joined, more⟩ = .returned) :
      Stepped monitor .join { monitor with closing := .joining (joined + 1) }

/-- A worker that stays where it is. -/
theorem move_self (monitor : QueueMonitor τ) (worker : Fin defaultNumWorkers) :
    monitor.move worker (monitor.points worker) = monitor := by
  rw [move, Function.update_eq_self]

/-- There are no other steps. -/
theorem stepped_of_advance {monitor monitor' : QueueMonitor τ} {action : Action τ}
    (h : monitor.advance action = some monitor') : Stepped monitor action monitor' := by
  cases action with
  | addTask task =>
    obtain ⟨hfree, h⟩ := Option.ite_none_right_eq_some.mp h
    obtain ⟨manager, hmanager, rfl⟩ := Option.map_eq_some_iff.mp h
    exact .addTask hfree hmanager
  | notify =>
    rw [advance] at h
    split at h
    · cases h
    · rename_i notifying hnotifying
      obtain rfl := Option.some.inj h
      exact .notify hnotifying
  | wake worker =>
    obtain ⟨hblocked, h⟩ := Option.ite_none_right_eq_some.mp h
    obtain rfl := Option.some.inj h
    exact .moves (.wake hblocked)
  | test worker =>
    obtain ⟨htesting, h⟩ := Option.ite_none_right_eq_some.mp h
    obtain rfl := Option.some.inj h
    cases hstop : monitor.stop with
    | true => exact .moves (.testStopped htesting hstop)
    | false => exact .moves (.test htesting hstop)
  | lock worker =>
    obtain ⟨⟨hlocking, hfree⟩, h⟩ := Option.ite_none_right_eq_some.mp h
    obtain rfl := Option.some.inj h
    exact .moves (.lock hlocking hfree)
  | check worker =>
    obtain ⟨hchecking, h⟩ := Option.ite_none_right_eq_some.mp h
    obtain rfl := Option.some.inj h
    split
    · rename_i hfound
      refine .moves (.check hchecking ?_)
      simpa [List.isEmpty_iff] using hfound
    · rename_i hfound
      rw [Bool.not_eq_true, Bool.or_eq_false_iff, Bool.not_eq_false', List.isEmpty_iff] at hfound
      exact .moves (.checkFailed hchecking hfound.1 hfound.2)
  | block worker =>
    obtain ⟨hfalling, h⟩ := Option.ite_none_right_eq_some.mp h
    obtain rfl := Option.some.inj h
    exact .moves (.block hfalling)
  | leave worker =>
    obtain ⟨hleaving, h⟩ := Option.ite_none_right_eq_some.mp h
    split at h
    · rename_i hempty
      obtain rfl := Option.some.inj h
      exact .moves (.leave hleaving (List.isEmpty_iff.mp hempty))
    · obtain ⟨manager, hmanager, rfl⟩ := Option.map_eq_some_iff.mp h
      exact .works .leave hleaving hmanager
  | execute worker executed =>
    obtain ⟨hworking, h⟩ := Option.ite_none_right_eq_some.mp h
    obtain ⟨manager, hmanager, rfl⟩ := Option.map_eq_some_iff.mp h
    have hsame := monitor.move_self worker
    rw [hworking] at hsame
    have hstepped := Stepped.works (.execute executed) hworking hmanager
    rwa [hsame] at hstepped
  | callback worker =>
    obtain ⟨hworking, h⟩ := Option.ite_none_right_eq_some.mp h
    obtain ⟨manager, hmanager, rfl⟩ := Option.map_eq_some_iff.mp h
    have hsame := monitor.move_self worker
    rw [hworking] at hsame
    have hstepped := Stepped.works .callback hworking hmanager
    rwa [hsame] at hstepped
  | finish worker =>
    obtain ⟨hworking, h⟩ := Option.ite_none_right_eq_some.mp h
    obtain ⟨manager, hmanager, rfl⟩ := Option.map_eq_some_iff.mp h
    exact .works .finish hworking hmanager
  | setStop =>
    obtain ⟨hidle, h⟩ := Option.ite_none_right_eq_some.mp h
    obtain rfl := Option.some.inj h
    exact .setStop hidle
  | notifyStop =>
    obtain ⟨hstopped, h⟩ := Option.ite_none_right_eq_some.mp h
    obtain rfl := Option.some.inj h
    exact .notifyStop hstopped
  | join =>
    rw [advance] at h
    split at h
    · rename_i joined hjoining
      split at h
      · rename_i hmore
        obtain ⟨hreturned, h⟩ := Option.ite_none_right_eq_some.mp h
        obtain rfl := Option.some.inj h
        exact .join hjoining hmore hreturned
      · cases h
    · cases h

/-! ## What always holds -/

variable [DecidableEq τ]

/-- Threads, tasks and notifications fit together. -/
structure Sound (monitor : QueueMonitor τ) : Prop where
  accounted : monitor.manager.Accounted
  /-- One thread at most has the mutex. -/
  mutex : ∀ {worker other}, (monitor.points worker).holdsMutex = true →
    (monitor.points other).holdsMutex = true → worker = other
  /-- Who has found nothing to do has the mutex, so that there still is nothing. -/
  fell : ∀ {worker}, monitor.points worker = .falling → monitor.manager.queue = []
  /-- Who is blocked beside a task is going to be notified. -/
  blocked : ∀ {worker}, monitor.points worker = .blocked → monitor.manager.queue ≠ [] →
    0 < monitor.notifying
  left : ∀ {worker}, monitor.points worker = .leaving →
    monitor.manager.queue ≠ [] ∨ monitor.stop = true
  working : ∀ worker, monitor.points worker = .working ↔
    monitor.manager.workers worker ≠ .waiting
  returned : ∀ {worker}, monitor.points worker = .returned → monitor.stop = true
  joined : ∀ {joined}, monitor.closing = .joining joined → joined ≤ defaultNumWorkers ∧
    ∀ worker : Fin defaultNumWorkers, worker.val < joined → monitor.points worker = .returned

/-- In the beginning nobody has anything. -/
theorem sound_init : Sound ({} : QueueMonitor τ) where
  accounted := WorkersManager.accounted_init
  mutex hworker := nomatch hworker
  fell hworker := nomatch hworker
  blocked hworker := nomatch hworker
  left hworker := nomatch hworker
  working _ := iff_of_false (fun h => nomatch h) fun h => h rfl
  returned hworker := nomatch hworker
  joined hjoining := nomatch hjoining

/-- The queue and `m_stop` allow a worker to be at a point. -/
structure Allows (monitor : QueueMonitor τ) (point : RunPoint) : Prop where
  idle : point = .falling ∨ point = .blocked → monitor.manager.queue = []
  found : point = .leaving → monitor.manager.queue ≠ [] ∨ monitor.stop = true
  stopped : point = .returned → monitor.stop = true

/-- One worker goes on, and takes a task at most. -/
theorem Sound.goes {monitor monitor' : QueueMonitor τ} (h : Sound monitor)
    {worker : Fin defaultNumWorkers} {point : RunPoint}
    (hpoints : monitor'.points = Function.update monitor.points worker point)
    (hnotifying : monitor'.notifying = monitor.notifying)
    (hclosing : monitor'.closing = monitor.closing)
    (haccounted : monitor'.manager.Accounted)
    (hothers : ∀ other, other ≠ worker →
      monitor'.manager.workers other = monitor.manager.workers other)
    (hworking : point = .working ↔ monitor'.manager.workers worker ≠ .waiting)
    (hqueue : monitor'.manager.queue = monitor.manager.queue ∨
      monitor.points worker = .leaving ∧ monitor.manager.queue ≠ [])
    (hgoing : monitor.points worker ≠ .returned)
    (hmutex : point.holdsMutex = true →
      (monitor.points worker).holdsMutex = true ∨ monitor.MutexFree)
    (hallows : monitor'.Allows point) : Sound monitor' := by
  have hstop : monitor'.stop = monitor.stop := by
    rw [stop, stop, hclosing]
  have hself : monitor'.points worker = point := by
    rw [hpoints, Function.update_self]
  have hother {other : Fin defaultNumWorkers} (hne : other ≠ worker) :
      monitor'.points other = monitor.points other := by
    rw [hpoints, Function.update_of_ne hne]
  -- Who takes a task has the mutex, so that no other has it.
  have hkept {other : Fin defaultNumWorkers} (hne : other ≠ worker)
      (hholds : (monitor.points other).holdsMutex = true) :
      monitor'.manager.queue = monitor.manager.queue := by
    rcases hqueue with hqueue | ⟨hleaving, -⟩
    · exact hqueue
    · exact absurd (h.mutex hholds (by rw [hleaving]; rfl)) hne
  refine ⟨haccounted, fun {first second} hfirst hsecond => ?_, fun {other} hfell => ?_,
    fun {other} hblocked hsome => ?_, fun {other} hleaving => ?_, fun other => ?_,
    fun {other} hreturned => ?_, fun {joined} hjoining => ?_⟩
  · have halone {other : Fin defaultNumWorkers} (hne : other ≠ worker)
        (hholds : point.holdsMutex = true) : (monitor.points other).holdsMutex = false := by
      rcases hmutex hholds with hbefore | hfree
      · exact Bool.eq_false_iff.mpr fun hmore => hne (h.mutex hmore hbefore)
      · exact hfree other
    by_cases hone : first = worker
    · by_cases htwo : second = worker
      · rw [hone, htwo]
      · rw [hone, hself] at hfirst
        rw [hother htwo, halone htwo hfirst] at hsecond
        cases hsecond
    · rw [hother hone] at hfirst
      by_cases htwo : second = worker
      · rw [htwo, hself] at hsecond
        rw [halone hone hsecond] at hfirst
        cases hfirst
      · rw [hother htwo] at hsecond
        exact h.mutex hfirst hsecond
  · by_cases hne : other = worker
    · subst hne
      exact hallows.idle (.inl (hself.symm.trans hfell))
    · rw [hother hne] at hfell
      rw [hkept hne (by rw [hfell]; rfl)]
      exact h.fell hfell
  · by_cases hne : other = worker
    · subst hne
      exact absurd (hallows.idle (.inr (hself.symm.trans hblocked))) hsome
    · rw [hother hne] at hblocked
      rw [hnotifying]
      refine h.blocked hblocked ?_
      rcases hqueue with hqueue | ⟨-, hqueue⟩
      · rwa [hqueue] at hsome
      · exact hqueue
  · by_cases hne : other = worker
    · subst hne
      exact hallows.found (hself.symm.trans hleaving)
    · rw [hother hne] at hleaving
      rw [hstop, hkept hne (by rw [hleaving]; rfl)]
      exact h.left hleaving
  · by_cases hne : other = worker
    · subst hne
      rw [hself]
      exact hworking
    · rw [hother hne, hothers other hne]
      exact h.working other
  · rw [hstop]
    by_cases hne : other = worker
    · subst hne
      rw [← hstop]
      exact hallows.stopped (hself.symm.trans hreturned)
    · exact h.returned (hother hne ▸ hreturned)
  · rw [hclosing] at hjoining
    obtain ⟨hle, hreturned⟩ := h.joined hjoining
    refine ⟨hle, fun other hless => ?_⟩
    have hbefore := hreturned other hless
    have hne : other ≠ worker := fun hsame => hgoing (hsame ▸ hbefore)
    rw [hother hne, hbefore]

omit [DecidableEq τ] in
/-- Where a worker is that does something which has nothing to do with a task, and where it can be
after. -/
theorem Moves.points {monitor : QueueMonitor τ} {worker : Fin defaultNumWorkers}
    {action : Action τ} {point : RunPoint} (h : Moves monitor worker action point) :
    (monitor.points worker ≠ .working ∧ monitor.points worker ≠ .returned) ∧ point ≠ .working ∧
      (point.holdsMutex = true →
        (monitor.points worker).holdsMutex = true ∨ monitor.MutexFree) := by
  cases h with
  | wake hpoint | testStopped hpoint | test hpoint | check hpoint | checkFailed hpoint
  | block hpoint | leave hpoint => simp [hpoint, RunPoint.holdsMutex]
  | lock hpoint hfree => simp [hpoint, hfree]

/-- A step of a worker that has nothing to do with a task. -/
theorem Sound.moves {monitor : QueueMonitor τ} (h : Sound monitor)
    {worker : Fin defaultNumWorkers} {action : Action τ} {point : RunPoint}
    (hmoves : Moves monitor worker action point) : Sound (monitor.move worker point) := by
  obtain ⟨⟨hworking, hreturned⟩, hpoint, hmutex⟩ := hmoves.points
  have hwaiting : monitor.manager.workers worker = .waiting :=
    not_not.mp (mt (h.working worker).mpr hworking)
  refine h.goes rfl rfl rfl h.accounted (fun _ _ => rfl)
    (iff_of_false hpoint (not_not.mpr hwaiting)) (.inl rfl) hreturned hmutex ?_
  cases hmoves with
  | wake | test | lock | leave => exact ⟨by simp, by simp, by simp⟩
  | testStopped htesting hstop => exact ⟨by simp, by simp, fun _ => hstop⟩
  | check hchecking hfound => exact ⟨by simp, fun _ => hfound, by simp⟩
  | checkFailed hchecking hempty hstop => exact ⟨fun _ => hempty, by simp, by simp⟩
  | block hfalling => exact ⟨fun _ => h.fell hfalling, by simp, by simp⟩

omit [DecidableEq τ] in
/-- What a worker does with a task does not concern the other workers. -/
theorem Works.exists_update {monitor : QueueMonitor τ} {worker : Fin defaultNumWorkers}
    {action : Action τ} {event : WorkersManager.Event τ} {point point' : RunPoint}
    {manager : WorkersManager τ} (h : Works worker action event point point')
    (hworked : monitor.manager.step event = some manager) :
    ∃ next, manager.workers = Function.update monitor.manager.workers worker next := by
  have hstepped := WorkersManager.stepped_of_step hworked
  cases h with
  | leave | execute | callback | finish =>
    cases hstepped
    exact ⟨_, rfl⟩

/-- A step of a worker with a task. -/
theorem Sound.works {monitor : QueueMonitor τ} (h : Sound monitor)
    {worker : Fin defaultNumWorkers} {action : Action τ} {event : WorkersManager.Event τ}
    {point point' : RunPoint} {manager : WorkersManager τ}
    (hworks : Works worker action event point point') (hbefore : monitor.points worker = point)
    (hworked : monitor.manager.step event = some manager) :
    Sound { monitor.move worker point' with manager } := by
  have hstepped := WorkersManager.stepped_of_step hworked
  have hgoing : monitor.points worker ≠ .returned := by
    rw [hbefore]
    cases hworks <;> decide
  have hmutex : point'.holdsMutex = true →
      (monitor.points worker).holdsMutex = true ∨ monitor.MutexFree := by
    cases hworks <;> exact fun hholds => nomatch hholds
  -- The others keep their tasks.
  obtain ⟨next, hnext⟩ := hworks.exists_update hworked
  have hothers : ∀ other, other ≠ worker →
      manager.workers other = monitor.manager.workers other := by
    intro other hne
    rw [hnext, Function.update_of_ne hne]
  refine h.goes rfl rfl rfl (h.accounted.step hworked) hothers ?_ ?_ hgoing hmutex ?_
  · -- The worker is at work as long as it has a task.
    cases hworks with
    | leave | execute | callback =>
      cases hstepped
      simp
    | finish =>
      cases hstepped
      simp
  · cases hworks with
    | leave =>
      cases hstepped with
      | take hwaiting hfront => exact .inr ⟨hbefore, by simp [hfront]⟩
    | execute | callback | finish =>
      cases hstepped
      exact .inl rfl
  · cases hworks <;> exact ⟨by simp, by simp, by simp⟩

omit [DecidableEq τ] in
/-- Where the threads are after `notify_all`. -/
@[simp]
theorem points_notifyAll (monitor : QueueMonitor τ) (worker : Fin defaultNumWorkers) :
    monitor.notifyAll.points worker = (monitor.points worker).wake := rfl

/-- `notify_all`, with the count of the calls that are still to come. -/
theorem Sound.notified {monitor : QueueMonitor τ} (h : Sound monitor) (notifying : Nat) :
    Sound { monitor.notifyAll with notifying } where
  accounted := h.accounted
  mutex {worker other} hworker hother := by
    simp only [points_notifyAll, RunPoint.holdsMutex_wake] at hworker hother
    exact h.mutex hworker hother
  fell {worker} hfell := h.fell ((RunPoint.wake_eq_iff (by decide) (by decide)).mp hfell)
  blocked {worker} hblocked := absurd hblocked (RunPoint.wake_ne_blocked _)
  left {worker} hleaving := h.left ((RunPoint.wake_eq_iff (by decide) (by decide)).mp hleaving)
  working worker := (RunPoint.wake_eq_iff (by decide) (by decide)).trans (h.working worker)
  returned {worker} hreturned :=
    h.returned ((RunPoint.wake_eq_iff (by decide) (by decide)).mp hreturned)
  joined {joined} hjoining := by
    obtain ⟨hle, hreturned⟩ := h.joined hjoining
    exact ⟨hle, fun worker hless =>
      (RunPoint.wake_eq_iff (by decide) (by decide)).mpr (hreturned worker hless)⟩

/-- A task is added while nobody has the mutex. -/
theorem Sound.added {monitor : QueueMonitor τ} (h : Sound monitor) (hfree : monitor.MutexFree)
    {task : τ} {manager : WorkersManager τ}
    (hadded : monitor.manager.step (.addTask task) = some manager) :
    Sound { monitor with manager, notifying := monitor.notifying + 1 } := by
  have haccounted := h.accounted.step hadded
  have hworkers : manager.workers = monitor.manager.workers := by
    cases WorkersManager.stepped_of_step hadded
    rfl
  -- Who looks at the queue has the mutex.
  have hnobody {worker : Fin defaultNumWorkers} {point : RunPoint}
      (hpoint : monitor.points worker = point) (hholds : point.holdsMutex = true) : False := by
    rw [← hpoint, hfree worker] at hholds
    cases hholds
  exact {
    accounted := haccounted
    mutex := h.mutex
    fell := fun {worker} hfell => (hnobody hfell rfl).elim
    blocked := fun _ _ => Nat.succ_pos _
    left := fun {worker} hleaving => (hnobody hleaving rfl).elim
    working := fun worker => by
      dsimp only
      rw [hworkers]
      exact h.working worker
    returned := h.returned
    joined := h.joined }

/-- The destructor goes on. -/
theorem Sound.closes {monitor : QueueMonitor τ} (h : Sound monitor) {closing : Closing}
    (hclosing : closing ≠ .idle)
    (hjoined : ∀ joined, closing = .joining joined → joined ≤ defaultNumWorkers ∧
      ∀ worker : Fin defaultNumWorkers, worker.val < joined →
        monitor.points worker = .returned) :
    Sound { monitor with closing } := by
  have hstop : ({ monitor with closing } : QueueMonitor τ).stop = true := decide_eq_true hclosing
  exact {
    accounted := h.accounted
    mutex := h.mutex
    fell := h.fell
    blocked := h.blocked
    left := fun _ => .inr hstop
    working := h.working
    returned := fun _ => hstop
    joined := fun {joined} hjoining => hjoined joined hjoining }

/-- Every step keeps threads, tasks and notifications together. -/
theorem Sound.step {monitor monitor' : QueueMonitor τ} {action : Action τ} (h : Sound monitor)
    (hstep : monitor.advance action = some monitor') : Sound monitor' := by
  cases stepped_of_advance hstep with
  | addTask hfree hadded => exact h.added hfree hadded
  | notify hnotifying => exact h.notified _
  | moves hmoves => exact h.moves hmoves
  | works hworks hbefore hworked => exact h.works hworks hbefore hworked
  | setStop hidle => exact h.closes (fun hsame => nomatch hsame) fun _ hjoining => nomatch hjoining
  | notifyStop hstopped =>
    refine (h.notified monitor.notifying).closes (fun hsame => nomatch hsame) ?_
    intro joined hjoining
    obtain rfl := Closing.joining.inj hjoining
    exact ⟨Nat.zero_le _, fun worker hless => absurd hless (Nat.not_lt_zero _)⟩
  | @join joined hjoining hmore hreturned =>
    refine h.closes (fun hsame => nomatch hsame) fun next hnext => ?_
    obtain rfl := Closing.joining.inj hnext
    refine ⟨hmore, fun worker hless => ?_⟩
    rcases Nat.lt_succ_iff_lt_or_eq.mp hless with hbefore | hlast
    · exact (h.joined hjoining).2 worker hbefore
    · rw [← hreturned]
      exact congrArg monitor.points (Fin.ext hlast)

/-- In every interleaving threads, tasks and notifications fit together. -/
theorem sound_of_reachable {monitor : QueueMonitor τ} (h : Reachable monitor) : Sound monitor := by
  induction h with
  | init => exact sound_init
  | step _ hstep ih => exact ih.step hstep

end QueueMonitor

end TaskMgr

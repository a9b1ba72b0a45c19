import WarehouseAccounting.TaskManager.QueueMonitor

/-!
# Waking the workers

Whether tasks are taken and the destructor of `WorkersManager` returns, when threads wait for each
other.

- `QueueMonitor.all_finished`: whatever the interleaving, all tasks that were added are finished
  after a number of steps that is known.
- `QueueMonitor.destroyed_iff`: the destructor returns unless it notified while a worker had found
  nothing to do and was not blocked yet.
-/

namespace TaskMgr

open Ufa Tasks Srv.Db.Trsct

/-! ## How long it takes -/

/-- What the threads do by themselves: no task is added, nobody is woken for no reason, and the
destructor is not called. -/
def QueueMonitor.Action.isInternal {τ : Type} : QueueMonitor.Action τ → Bool
  | .addTask _ | .wake _ | .setStop => false
  | _ => true

/-- The steps that a thread is away from being blocked, or from its end. -/
def RunPoint.work (stop : Bool) : RunPoint → Nat
  | testing => if stop then 1 else 6
  | locking => 5
  | checking => 4
  | leaving => 3
  | falling => 1
  | working => 6
  | blocked | returned => 0

/-- The steps that are left of a task. -/
def Worker.work {τ : Type} : Worker τ → Nat
  | .waiting => 0
  | .holding _ => 3
  | .executed _ _ => 2
  | .called _ => 1

/-- The steps that are left of the destructor, with those of the threads that it wakes. -/
def Closing.work : Closing → Nat
  | idle => 27
  | notifying => 26
  | joining joined => defaultNumWorkers - joined

/-- Being notified is worth five steps. -/
theorem RunPoint.work_wake_le (stop : Bool) (point : RunPoint) :
    point.wake.work stop ≤ point.work stop + 5 := by
  cases point <;> simp [wake, work]

namespace QueueMonitor

variable {τ : Type}

/-- The steps that are left of all of it. -/
def work (monitor : QueueMonitor τ) : Nat :=
  ∑ worker, (monitor.points worker).work monitor.stop +
    ∑ worker, (monitor.manager.workers worker).work + 7 * monitor.manager.queue.length +
    21 * monitor.notifying + monitor.closing.work

/-- `notify_all` is worth twenty steps at most. -/
theorem sum_wake_le (points : Fin defaultNumWorkers → RunPoint) (stop : Bool) :
    ∑ worker, (points worker).wake.work stop ≤ ∑ worker, (points worker).work stop + 20 := by
  have hsum : ∑ worker, (points worker).wake.work stop ≤
      ∑ worker, ((points worker).work stop + 5) :=
    Finset.sum_le_sum fun worker _ => RunPoint.work_wake_le stop _
  rw [Finset.sum_add_distrib, Finset.sum_const, Finset.card_univ, Fintype.card_fin] at hsum
  exact hsum

/-- A worker that goes on is nearer to being blocked, or to its end. -/
theorem Moves.work_lt {monitor : QueueMonitor τ} {worker : Fin defaultNumWorkers}
    {action : Action τ} {point : RunPoint} (h : Moves monitor worker action point)
    (hinternal : action.isInternal = true)
    (hleft : monitor.points worker = .leaving → monitor.manager.queue ≠ [] ∨ monitor.stop = true) :
    point.work monitor.stop < (monitor.points worker).work monitor.stop := by
  cases h with
  | wake => cases hinternal
  | testStopped hpoint hstop | test hpoint hstop =>
    rw [hpoint, hstop]
    decide
  | lock hpoint | check hpoint | checkFailed hpoint | block hpoint =>
    rw [hpoint]
    exact of_decide_eq_true rfl
  | leave hpoint hempty =>
    -- Nobody leaves `wait` without a task unless `m_stop` is set.
    rcases hleft hpoint with hsome | hstop
    · exact absurd hempty hsome
    · rw [hpoint, hstop]
      decide

/-- There is less to do for a worker that goes on with a task. -/
theorem Works.work_lt {monitor : QueueMonitor τ} {worker : Fin defaultNumWorkers}
    {action : Action τ} {event : WorkersManager.Event τ} {point point' : RunPoint}
    {manager : WorkersManager τ} (h : Works worker action event point point')
    (hworked : monitor.manager.step event = some manager) :
    point'.work monitor.stop + (manager.workers worker).work + 7 * manager.queue.length <
      point.work monitor.stop + (monitor.manager.workers worker).work +
        7 * monitor.manager.queue.length := by
  have hstepped := WorkersManager.stepped_of_step hworked
  cases h with
  | leave =>
    cases hstepped with
    | take hwaiting hfront =>
      simp only [Function.update_self, hwaiting, hfront, RunPoint.work, Worker.work,
        List.length_cons]
      omega
  | execute executed =>
    cases hstepped with
    | execute _ hholding =>
      simp only [Function.update_self, hholding, RunPoint.work, Worker.work]
      omega
  | callback =>
    cases hstepped with
    | callback hexecuted =>
      simp only [Function.update_self, hexecuted, RunPoint.work, Worker.work]
      omega
  | finish =>
    cases hstepped with
    | finish hcalled =>
      simp only [Function.update_self, hcalled, RunPoint.work, Worker.work]
      split <;> omega

/-- There is less to do after each step of the threads. -/
theorem work_lt_of_advance [DecidableEq τ] {monitor monitor' : QueueMonitor τ} {action : Action τ}
    (h : Sound monitor) (hstep : monitor.advance action = some monitor')
    (hinternal : action.isInternal = true) : monitor'.work < monitor.work := by
  cases stepped_of_advance hstep with
  | addTask => cases hinternal
  | setStop => cases hinternal
  | @notify notifying hnotifying =>
    have hsum := sum_wake_le monitor.points monitor.stop
    show ∑ worker, (monitor.points worker).wake.work monitor.stop + _ + _ + 21 * notifying + _ <
      ∑ worker, (monitor.points worker).work monitor.stop + _ + _ + 21 * monitor.notifying + _
    rw [hnotifying]
    dsimp only [notifyAll]
    omega
  | @moves _ worker point hmoves =>
    have hless := hmoves.work_lt hinternal h.left
    have hsum := WorkersManager.sum_update (RunPoint.work monitor.stop) monitor.points worker point
    show ∑ other, (Function.update monitor.points worker point other).work monitor.stop + _ + _ +
        _ + _ < ∑ other, (monitor.points other).work monitor.stop + _ + _ + _ + _
    dsimp only [move]
    omega
  | @works _ worker event point point' manager hworks hbefore hworked =>
    have hless := hworks.work_lt hworked
    obtain ⟨next, hnext⟩ := hworks.exists_update hworked
    have hsum := WorkersManager.sum_update (RunPoint.work monitor.stop) monitor.points worker point'
    have htask := WorkersManager.sum_update Worker.work monitor.manager.workers worker next
    rw [hnext, Function.update_self] at hless
    rw [hbefore] at hsum
    show ∑ other, (Function.update monitor.points worker point' other).work monitor.stop +
        ∑ other, (manager.workers other).work + 7 * manager.queue.length + _ + _ <
      ∑ other, (monitor.points other).work monitor.stop +
        ∑ other, (monitor.manager.workers other).work + 7 * monitor.manager.queue.length + _ + _
    rw [hnext]
    dsimp only [move]
    omega
  | notifyStop hstopped =>
    have hsum := sum_wake_le monitor.points true
    have hstop : monitor.stop = true := by
      rw [stop, hstopped]
      rfl
    rw [work, work, hstop, hstopped]
    show ∑ worker, (monitor.points worker).wake.work true + _ + _ + _ + 4 <
      ∑ worker, (monitor.points worker).work true + _ + _ + _ + 26
    dsimp only [notifyAll]
    omega
  | @join joined hjoining hmore hreturned =>
    have hstop : monitor.stop = true := by
      rw [stop, hjoining]
      rfl
    rw [work, work, hstop, hjoining]
    show _ + _ + _ + _ + (defaultNumWorkers - (joined + 1)) <
      _ + _ + _ + _ + (defaultNumWorkers - joined)
    refine Nat.add_lt_add_left ?_ _
    omega

/-! ## Where it ends -/

/-- The threads can do nothing more by themselves. -/
def Quiescent (monitor : QueueMonitor τ) : Prop :=
  ∀ action : Action τ, action.isInternal = true → monitor.advance action = none

/-- A worker with a task can go on. -/
theorem exists_step_of_ne_waiting {manager : WorkersManager τ} {worker : Fin defaultNumWorkers}
    (h : manager.workers worker ≠ .waiting) :
    (∀ executed, (manager.step (.execute worker executed)).isSome) ∨
      (manager.step (.callback worker)).isSome ∨ (manager.step (.finish worker)).isSome := by
  cases hworker : manager.workers worker with
  | waiting => exact absurd hworker h
  | holding task => exact .inl fun executed => by simp [WorkersManager.step, hworker]
  | executed task callback => exact .inr (.inl (by simp [WorkersManager.step, hworker]))
  | called task => exact .inr (.inr (by simp [WorkersManager.step, hworker]))

/-- Threads that are blocked or have returned do nothing, unless they are notified or joined. -/
theorem quiescent_of_ended {monitor : QueueMonitor τ}
    (hended : ∀ worker, monitor.points worker = .blocked ∨ monitor.points worker = .returned)
    (hnotifying : monitor.notifying = 0) (hclosing : monitor.closing ≠ .notifying)
    (hjoin : monitor.advance .join = none) : Quiescent monitor := by
  have hother {worker : Fin defaultNumWorkers} {point : RunPoint} (hblocked : point ≠ .blocked)
      (hreturned : point ≠ .returned) : monitor.points worker ≠ point := by
    intro hpoint
    rcases hended worker with hsame | hsame
    · exact hblocked (hpoint.symm.trans hsame)
    · exact hreturned (hpoint.symm.trans hsame)
  intro action hinternal
  cases action with
  | addTask | wake | setStop => cases hinternal
  | notify => rw [advance, hnotifying]
  | notifyStop => exact if_neg hclosing
  | join => exact hjoin
  | lock worker => exact if_neg fun h => hother (by decide) (by decide) h.1
  | test worker | check worker | block worker | leave worker | execute worker executed
  | callback worker | finish worker => exact if_neg (hother (by decide) (by decide))

variable [DecidableEq τ]

/-- When nothing more happens, all threads are blocked or have returned, and nobody is going to
notify them. -/
theorem Sound.ended {monitor : QueueMonitor τ} (h : Sound monitor) (hend : Quiescent monitor) :
    (∀ worker, monitor.points worker = .blocked ∨ monitor.points worker = .returned) ∧
      monitor.notifying = 0 ∧ monitor.closing ≠ .notifying := by
  -- Who has the mutex gives it back.
  have hfree : monitor.MutexFree := by
    intro worker
    cases hpoint : monitor.points worker with
    | checking =>
      have hcheck := hend (.check worker) rfl
      simp [advance, hpoint] at hcheck
    | falling =>
      have hblock := hend (.block worker) rfl
      simp [advance, hpoint] at hblock
    | leaving =>
      have hleave := hend (.leave worker) rfl
      have hwaiting : monitor.manager.workers worker = .waiting :=
        not_not.mp (mt (h.working worker).mpr (by rw [hpoint]; decide))
      rw [advance, if_pos hpoint] at hleave
      cases hqueue : monitor.manager.queue with
      | nil => simp [hqueue] at hleave
      | cons task queue => simp [hqueue, WorkersManager.step, hwaiting] at hleave
    | testing | locking | blocked | working | returned => rfl
  refine ⟨fun worker => ?_, ?_, fun hclosing => ?_⟩
  · cases hpoint : monitor.points worker with
    | blocked => exact .inl rfl
    | returned => exact .inr rfl
    | testing =>
      have htest := hend (.test worker) rfl
      simp [advance, hpoint] at htest
    | locking =>
      have hlock := hend (.lock worker) rfl
      simp [advance, hpoint, hfree] at hlock
    | checking | falling | leaving =>
      have hholds := hfree worker
      rw [hpoint] at hholds
      cases hholds
    | working =>
      rcases exists_step_of_ne_waiting ((h.working worker).mp hpoint) with hstep | hstep | hstep
      · have hexecute := hend (.execute worker (.error .other)) rfl
        obtain ⟨manager, hmanager⟩ := Option.isSome_iff_exists.mp (hstep (.error .other))
        simp [advance, hpoint, hmanager] at hexecute
      · have hcallback := hend (.callback worker) rfl
        obtain ⟨manager, hmanager⟩ := Option.isSome_iff_exists.mp hstep
        simp [advance, hpoint, hmanager] at hcallback
      · have hfinish := hend (.finish worker) rfl
        obtain ⟨manager, hmanager⟩ := Option.isSome_iff_exists.mp hstep
        simp [advance, hpoint, hmanager] at hfinish
  · have hnotify := hend .notify rfl
    rw [advance] at hnotify
    split at hnotify
    · rename_i hnone
      exact hnone
    · cases hnotify
  · have hstop := hend .notifyStop rfl
    simp [advance, hclosing] at hstop

/-- Workers that are blocked or have returned have no task, so that what was taken is finished. -/
theorem Sound.count_finished {monitor : QueueMonitor τ} (h : Sound monitor)
    (hended : ∀ worker, monitor.points worker = .blocked ∨ monitor.points worker = .returned)
    (task : τ) :
    monitor.manager.added.count task =
        monitor.manager.queue.count task + monitor.manager.finished.count task ∧
      monitor.manager.executed.count task = monitor.manager.finished.count task ∧
      monitor.manager.called.count task = monitor.manager.finished.count task := by
  have hwaiting (worker : Fin defaultNumWorkers) : monitor.manager.workers worker = .waiting := by
    refine not_not.mp (mt (h.working worker).mpr ?_)
    rcases hended worker with hpoint | hpoint
    all_goals
      rw [hpoint]
      decide
  have hheld : monitor.manager.held task = 0 := by
    simp [WorkersManager.held, hwaiting]
  have hadded := h.accounted.added task
  have hexecuted := h.accounted.executed task
  have hcalled := h.accounted.called task
  obtain ⟨hcalls, hexecutions⟩ := monitor.manager.calls_le_held task
  omega

/-- A number of steps is known beforehand, whatever the threads do by themselves. -/
theorem Sound.length_le {monitor monitor' : QueueMonitor τ} {actions : List (Action τ)}
    (h : Sound monitor) (hinternal : ∀ action ∈ actions, action.isInternal = true)
    (hrun : monitor.run actions = some monitor') :
    Sound monitor' ∧ actions.length + monitor'.work ≤ monitor.work := by
  induction actions generalizing monitor with
  | nil =>
    obtain rfl := Option.some.inj hrun
    exact ⟨h, Nat.le_of_eq (Nat.zero_add _)⟩
  | cons action actions ih =>
    obtain ⟨middle, hfirst, hrest⟩ := Option.bind_eq_some_iff.mp hrun
    obtain ⟨haction, hactions⟩ := List.forall_mem_cons.mp hinternal
    obtain ⟨hsound, hlength⟩ := ih (h.step hfirst) hactions hrest
    have hless := work_lt_of_advance h hfirst haction
    rw [List.length_cons]
    exact ⟨hsound, by omega⟩

omit [DecidableEq τ] in
/-- What each step of the threads keeps, their runs keep. -/
theorem run_induction {motive : QueueMonitor τ → Prop}
    (hstep : ∀ {monitor monitor' : QueueMonitor τ} {action : Action τ}, motive monitor →
      action.isInternal = true → Stepped monitor action monitor' → motive monitor')
    {monitor monitor' : QueueMonitor τ} {actions : List (Action τ)} (h : motive monitor)
    (hinternal : ∀ action ∈ actions, action.isInternal = true)
    (hrun : monitor.run actions = some monitor') : motive monitor' := by
  induction actions generalizing monitor with
  | nil =>
    obtain rfl := Option.some.inj hrun
    exact h
  | cons action actions ih =>
    obtain ⟨middle, hfirst, hrest⟩ := Option.bind_eq_some_iff.mp hrun
    obtain ⟨haction, hactions⟩ := List.forall_mem_cons.mp hinternal
    exact ih (hstep h haction (stepped_of_advance hfirst)) hactions hrest

/-- Every task that was added is executed, its callback called, and finished, after a number of
steps that is known: no wake-up is lost while the destructor is not called. -/
theorem all_finished {monitor monitor' : QueueMonitor τ} {actions : List (Action τ)}
    (h : Reachable monitor) (hidle : monitor.closing = .idle)
    (hinternal : ∀ action ∈ actions, action.isInternal = true)
    (hrun : monitor.run actions = some monitor') :
    actions.length ≤ monitor.work ∧
      (Quiescent monitor' → ∀ task,
        monitor'.manager.finished.count task = monitor.manager.added.count task ∧
        monitor'.manager.executed.count task = monitor.manager.added.count task ∧
        monitor'.manager.called.count task = monitor.manager.added.count task) := by
  obtain ⟨hsound, hlength⟩ := (sound_of_reachable h).length_le hinternal hrun
  refine ⟨by omega, fun hend task => ?_⟩
  have hkept : monitor'.closing = .idle ∧ monitor'.manager.added = monitor.manager.added := by
    refine run_induction (motive := fun monitor' => monitor'.closing = .idle ∧
      monitor'.manager.added = monitor.manager.added) ?_ ⟨hidle, rfl⟩ hinternal hrun
    intro before after action hbefore haction hstep
    cases hstep with
    | addTask => cases haction
    | setStop => cases haction
    | notify | moves => exact hbefore
    | works hworks _ hworked =>
      refine ⟨hbefore.1, Eq.trans ?_ hbefore.2⟩
      refine WorkersManager.added_of_step (fun task hevent => ?_) hworked
      cases hworks <;> cases hevent
    | notifyStop hstopped => cases hbefore.1.symm.trans hstopped
    | join hjoining => cases hbefore.1.symm.trans hjoining
  obtain ⟨hended, hnotifying, -⟩ := hsound.ended hend
  -- All are blocked, so nobody is going to be notified, so there is no task.
  have hempty : monitor'.manager.queue = [] := by
    by_contra hsome
    rcases hended ⟨0, by decide⟩ with hblocked | hreturned
    · have hpositive := hsound.blocked hblocked hsome
      omega
    · have hstop := hsound.returned hreturned
      rw [stop, hkept.1] at hstop
      cases hstop
  obtain ⟨hadded, hexecuted, hcalled⟩ := hsound.count_finished hended task
  rw [hempty, List.count_nil, Nat.zero_add, hkept.2] at hadded
  omega

/-- The worker whose thread is started first. -/
def firstWorker : Fin defaultNumWorkers := ⟨0, by decide⟩

/-- The first worker is blocked, and a task is added. -/
def oneAdded : List (Action Nat) :=
  [.test firstWorker, .lock firstWorker, .check firstWorker, .block firstWorker, .addTask 7]

/-- The worker is notified and handles the task, and in the end all of them are blocked. -/
def oneHandled : List (Action Nat) :=
  [.notify, .lock firstWorker, .check firstWorker, .leave firstWorker,
    .execute firstWorker (.error .other), .callback firstWorker, .finish firstWorker] ++
    (List.finRange defaultNumWorkers).flatMap fun worker =>
      [.test worker, .lock worker, .check worker, .block worker]

/-- The callback of the task is called. -/
theorem all_finished_oneHandled :
    ∃ monitor monitor' : QueueMonitor Nat, Reachable monitor ∧
      monitor.run oneHandled = some monitor' ∧ Quiescent monitor' ∧
      monitor'.manager.called.count 7 = 1 := by
  have hfacts : ((run oneAdded {}).bind fun monitor => (monitor.run oneHandled).map fun monitor' =>
      (monitor.closing, monitor.manager.added, (List.finRange 4).map monitor'.points,
        monitor'.notifying, monitor'.closing)) =
      some (.idle, [7], List.replicate 4 .blocked, 0, .idle) := by
    decide +kernel
  obtain ⟨monitor, hbefore, hafter⟩ := Option.bind_eq_some_iff.mp hfacts
  obtain ⟨monitor', hrun, hends⟩ := Option.map_eq_some_iff.mp hafter
  simp only [Prod.mk.injEq] at hends
  obtain ⟨hidle, hadded, hpoints, hnotifying, hclosing⟩ := hends
  have hblocked (worker : Fin defaultNumWorkers) : monitor'.points worker = .blocked := by
    refine List.eq_of_mem_replicate (n := 4) ?_
    rw [← hpoints]
    exact List.mem_map_of_mem (List.mem_finRange worker)
  have hend : Quiescent monitor' :=
    quiescent_of_ended (fun worker => .inl (hblocked worker)) hnotifying
      (by rw [hclosing]; decide) (by rw [advance, hclosing])
  have hreachable : Reachable monitor := Reachable.init.run hbefore
  obtain ⟨-, hfinished⟩ := all_finished hreachable hidle (by decide) hrun
  obtain ⟨-, -, hcalled⟩ := hfinished hend 7
  refine ⟨monitor, monitor', hreachable, hrun, hend, ?_⟩
  rw [hcalled, hadded]
  rfl

/-! ## The destructor -/

/-- The destructor joins, and nobody is blocked or about to be. -/
structure Released (monitor : QueueMonitor τ) : Prop where
  joining : ∃ joined, monitor.closing = .joining joined
  awake : ∀ worker, monitor.points worker ≠ .blocked ∧ monitor.points worker ≠ .falling

/-- The destructor joins, nobody is going to notify, and a worker is blocked or about to be. -/
structure Missed (worker : Fin defaultNumWorkers) (monitor : QueueMonitor τ) : Prop where
  joining : ∃ joined, monitor.closing = .joining joined
  notifying : monitor.notifying = 0
  asleep : monitor.points worker = .blocked ∨ monitor.points worker = .falling

omit [DecidableEq τ] in
/-- Where the other workers are when one goes on. -/
theorem points_move (monitor : QueueMonitor τ) (worker other : Fin defaultNumWorkers)
    (point : RunPoint) :
    (monitor.move worker point).points other =
      if other = worker then point else monitor.points other := by
  exact Function.update_apply monitor.points worker point other

omit [DecidableEq τ] in
/-- When `m_stop` is set nobody blocks any more. -/
theorem Released.step {monitor monitor' : QueueMonitor τ} {action : Action τ}
    (h : Released monitor) (hinternal : action.isInternal = true)
    (hstep : Stepped monitor action monitor') : Released monitor' := by
  obtain ⟨⟨joined, hjoining⟩, hawake⟩ := h
  have hstop : monitor.stop = true := by
    rw [stop, hjoining]
    rfl
  cases hstep with
  | addTask => cases hinternal
  | setStop => cases hinternal
  | notify =>
    refine ⟨⟨joined, hjoining⟩, fun worker => ⟨RunPoint.wake_ne_blocked _, ?_⟩⟩
    exact mt (RunPoint.wake_eq_iff (by decide) (by decide)).mp (hawake worker).2
  | @moves _ worker point hmoves =>
    have hpoint : point ≠ .blocked ∧ point ≠ .falling := by
      cases hmoves with
      | block hfalling => exact absurd hfalling (hawake worker).2
      | checkFailed _ _ hgoing => exact absurd hstop (by rw [hgoing]; exact Bool.false_ne_true)
      | _ => decide
    refine ⟨⟨joined, hjoining⟩, fun other => ?_⟩
    rw [points_move]
    split
    · exact hpoint
    · exact hawake other
  | @works _ worker _ _ point' manager hworks =>
    have hpoint : point' ≠ .blocked ∧ point' ≠ .falling := by
      cases hworks <;> decide
    refine ⟨⟨joined, hjoining⟩, fun other => ?_⟩
    show (monitor.move worker point').points other ≠ _ ∧ _
    rw [points_move]
    split
    · exact hpoint
    · exact hawake other
  | notifyStop hstopped => cases hjoining.symm.trans hstopped
  | join => exact ⟨⟨_, rfl⟩, hawake⟩

omit [DecidableEq τ] in
/-- A worker that has missed the notification of the destructor stays blocked. -/
theorem Missed.step {monitor monitor' : QueueMonitor τ} {action : Action τ}
    {worker : Fin defaultNumWorkers} (h : Missed worker monitor)
    (hinternal : action.isInternal = true) (hstep : Stepped monitor action monitor') :
    Missed worker monitor' := by
  obtain ⟨⟨joined, hjoining⟩, hnotifying, hasleep⟩ := h
  cases hstep with
  | addTask => cases hinternal
  | setStop => cases hinternal
  | notify hmore => cases hnotifying.symm.trans hmore
  | @moves _ other point hmoves =>
    refine ⟨⟨joined, hjoining⟩, hnotifying, ?_⟩
    rw [points_move]
    split
    · rename_i hsame
      subst hsame
      -- It can only become blocked.
      cases hmoves with
      | wake => cases hinternal
      | block => exact .inl rfl
      | testStopped hpoint | test hpoint | lock hpoint | check hpoint | checkFailed hpoint
      | leave hpoint =>
        rw [hpoint] at hasleep
        exact absurd hasleep (by decide)
    · exact hasleep
  | @works _ other _ point point' manager hworks hbefore =>
    refine ⟨⟨joined, hjoining⟩, hnotifying, ?_⟩
    show (monitor.move other point').points worker = _ ∨ _
    rw [points_move]
    split
    · rename_i hsame
      rw [hsame, hbefore] at hasleep
      cases hworks <;> exact absurd hasleep (by decide)
    · exact hasleep
  | notifyStop hstopped => cases hjoining.symm.trans hstopped
  | join => exact ⟨⟨_, rfl⟩, hnotifying, hasleep⟩

/-- When no call of `AddTask` is going on, the destructor joins all threads if no worker was about
to be blocked when it notified them, and else never; which is decided after a number of steps that
is known. A task that was not taken then stays in the queue. -/
theorem destroyed_iff {monitor started last : QueueMonitor τ} {actions : List (Action τ)}
    (h : Reachable monitor) (hnotified : monitor.advance .notifyStop = some started)
    (halone : monitor.notifying = 0)
    (hinternal : ∀ action ∈ actions, action.isInternal = true)
    (hrun : started.run actions = some last) :
    actions.length ≤ started.work ∧
      (Quiescent last →
        (last.closing = .joining defaultNumWorkers ↔
          ∀ worker, monitor.points worker ≠ .falling) ∧
        ∀ task, last.manager.added.count task =
            last.manager.queue.count task + last.manager.finished.count task ∧
          last.manager.executed.count task = last.manager.finished.count task ∧
          last.manager.called.count task = last.manager.finished.count task) := by
  have hstarted := sound_of_reachable (h.step hnotified)
  obtain ⟨hsound, hlength⟩ := hstarted.length_le hinternal hrun
  refine ⟨by omega, fun hend => ?_⟩
  obtain ⟨hended, -, -⟩ := hsound.ended hend
  have hstart : started = { monitor.notifyAll with closing := .joining 0 } := by
    obtain ⟨-, hnext⟩ := Option.ite_none_right_eq_some.mp hnotified
    exact (Option.some.inj hnext).symm
  refine ⟨⟨fun hdone worker hfalling => ?_, fun hnone => ?_⟩, hsound.count_finished hended⟩
  · have hmissed : Missed worker started := by
      subst hstart
      exact ⟨⟨0, rfl⟩, halone,
        .inr ((RunPoint.wake_eq_iff (by decide) (by decide)).mpr hfalling)⟩
    have hlast := run_induction (motive := Missed worker)
      (fun hbefore haction hstep => hbefore.step haction hstep) hmissed hinternal hrun
    have hreturned := (hsound.joined hdone).2 worker worker.isLt
    rcases hlast.asleep with hpoint | hpoint
    all_goals cases hpoint.symm.trans hreturned
  · have hreleased : Released started := by
      subst hstart
      refine ⟨⟨0, rfl⟩, fun worker => ⟨RunPoint.wake_ne_blocked _, ?_⟩⟩
      exact mt (RunPoint.wake_eq_iff (by decide) (by decide)).mp (hnone worker)
    have hlast := run_induction (motive := Released)
      (fun hbefore haction hstep => hbefore.step haction hstep) hreleased hinternal hrun
    obtain ⟨joined, hjoining⟩ := hlast.joining
    obtain ⟨hle, -⟩ := hsound.joined hjoining
    -- A thread that has returned is joined.
    rcases Nat.lt_or_eq_of_le hle with hmore | hall
    · have hreturned : last.points ⟨joined, hmore⟩ = .returned :=
        (hended _).resolve_left (hlast.awake _).1
      have hjoin := hend .join rfl
      simp [advance, hjoining, hmore, hreturned] at hjoin
    · rw [hjoining, hall]

/-- The first worker finds nothing to do, and `m_stop` is set before it is blocked. -/
def stoppedBetween : List (Action Nat) :=
  [.test firstWorker, .lock firstWorker, .check firstWorker, .setStop]

/-- The worker is blocked, and the others return. -/
def blockedForEver : List (Action Nat) :=
  .block firstWorker :: (List.finRange defaultNumWorkers).tail.map .test

/-- The destructor waits for a thread that nobody wakes. -/
theorem destroyed_iff_stoppedBetween :
    ∃ monitor started last : QueueMonitor Nat, Reachable monitor ∧
      monitor.advance .notifyStop = some started ∧ started.run blockedForEver = some last ∧
      Quiescent last ∧ last.closing ≠ .joining defaultNumWorkers := by
  have hfacts : ((run stoppedBetween {}).bind fun monitor =>
      (monitor.advance .notifyStop).bind fun started =>
        (started.run blockedForEver).map fun last =>
          (monitor.notifying, monitor.points firstWorker, (List.finRange 4).map last.points,
            last.notifying, last.closing)) =
      some (0, .falling, [.blocked, .returned, .returned, .returned], 0, .joining 0) := by
    decide +kernel
  obtain ⟨monitor, hbefore, hafter⟩ := Option.bind_eq_some_iff.mp hfacts
  obtain ⟨started, hnotified, hlater⟩ := Option.bind_eq_some_iff.mp hafter
  obtain ⟨last, hrun, hends⟩ := Option.map_eq_some_iff.mp hlater
  simp only [Prod.mk.injEq] at hends
  obtain ⟨halone, hfalling, hpoints, hnotifying, hclosing⟩ := hends
  have hended (worker : Fin defaultNumWorkers) :
      last.points worker = .blocked ∨ last.points worker = .returned := by
    have hmem : last.points worker ∈ (List.finRange 4).map last.points :=
      List.mem_map_of_mem (List.mem_finRange worker)
    rw [hpoints] at hmem
    simpa using hmem
  have hblocked : last.points firstWorker = .blocked :=
    congrArg (fun points => points.headD .testing) hpoints
  have hend : Quiescent last := by
    refine quiescent_of_ended hended hnotifying (by rw [hclosing]; decide) ?_
    have hreturned : last.points firstWorker ≠ .returned := by
      rw [hblocked]
      decide
    rw [advance, hclosing]
    exact if_neg hreturned
  have hreachable : Reachable monitor := Reachable.init.run hbefore
  obtain ⟨-, hdecided⟩ := destroyed_iff hreachable hnotified halone (by decide) hrun
  obtain ⟨hiff, -⟩ := hdecided hend
  exact ⟨monitor, started, last, hreachable, hnotified, hrun, hend,
    fun hdone => hiff.mp hdone _ hfalling⟩

end QueueMonitor

end TaskMgr

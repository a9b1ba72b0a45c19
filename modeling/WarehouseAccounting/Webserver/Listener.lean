import Mathlib.Algebra.Group.Int.Defs
import Mathlib.Data.List.Basic

/-!
# The accept loops

`Server` and `Listener` of the web server: how many accepts are pending, what becomes of them when
a connection comes or the acceptor is closed, and how `SetSettings` starts and stops loops and
threads. The counter of planned stops is a number of 32 bits. It is borrowed from by handlers, of
which there are fewer than 2^31 at a time, as there are threads.

- `Server.step`: one step of a call of `SetSettings`, or of a handler that runs at the same time.
- `Server.Planned.step`: the counter of planned stops keeps its balance, also between `fetch_sub`
  and its restoration.
- `Server.Served.step`: the loops keep theirs, unless pending accepts are cancelled.
- `stopped_le_reduced_and_live_eq_workers`: both over whole runs.
-/

namespace Ws

/-! ## The server -/

/-- Where `Server::SetSettings` is. -/
inductive Phase where
  /-- No call is made. -/
  | idle
  /-- `m_listener->SetSettings` is over. -/
  | settingWorkers (workers : Option Int32)
  /-- `AddTasks`, with the accepts that it has still to start. -/
  | addingTasks (tasksCount : Nat)
  /-- `ReduceTasks` is over, and the threads are started anew. -/
  | restarting (numWorkers : Nat)
  deriving DecidableEq, Repr

/-- `Server` with its `Listener`. An accept loop is one of the accepts and handlers that are
counted here, but for those that have failed. -/
structure Server where
  /-- `m_acceptor` is open, bound, and listens. -/
  listening : Bool := false
  /-- The accepts that are pending on `m_acceptor`. -/
  pending : Nat := 0
  /-- The handlers that have a connection, before `m_tasksToStopCount.fetch_sub`. -/
  accepted : Nat := 0
  /-- The handlers that have an error. -/
  failed : Nat := 0
  /-- The handlers after a `fetch_sub` that has to be undone. -/
  restoring : Nat := 0
  /-- The handlers before their `DoAccept`. -/
  continuing : Nat := 0
  tasksToStopCount : Int32 := 0
  totalRunnedTasksCount : Nat := 0
  /-- `m_workers.size()`. -/
  workers : Nat := 0
  phase : Phase := .idle
  /-- What `ReduceTasks` was asked for, in all calls. -/
  reduced : Nat := 0
  /-- The loops that were stopped by the counter. -/
  stopped : Nat := 0
  deriving DecidableEq, Repr

/-- What becomes of `Listener::SetEndpoint`. -/
inductive EndpointResult where
  /-- The address cannot be read: nothing has been done. -/
  | refused
  /-- The acceptor was closed, and the new endpoint cannot be bound. -/
  | unbound
  | listening
  deriving DecidableEq, Repr

/-- A step of a call of `SetSettings`, or of a handler. -/
inductive Event where
  /-- `SetSettings` is called, and the listener sets its endpoint. -/
  | setEndpoint (workers : Option Int32) (result : EndpointResult)
  /-- `SetWorkers`, with the number of threads that can be started. -/
  | setWorkers (started : Nat)
  /-- The end of `SetWorkers`, when it reduces. -/
  | restartWorkers (started : Nat)
  /-- One round of `AddTasks`. -/
  | addTask
  /-- A pending accept gets a connection. -/
  | connect
  /-- A pending accept fails, although its acceptor is open. -/
  | acceptError
  /-- A handler throws because of its error. -/
  | handleError
  /-- A session cannot be made or run, and its handler throws. -/
  | sessionError
  /-- A handler has run its session and takes from the counter. -/
  | fetchSub
  /-- A handler restores the counter. -/
  | restore
  /-- A handler goes on accepting. -/
  | doAccept
  deriving DecidableEq, Repr

namespace Server

/-- `DEFAULT_WORKERS_NUMBER`. -/
def defaultWorkersNumber : Int32 := 4

/-- More handlers than this are never between their `fetch_sub` and what follows. -/
def maxHandlers : Nat := 2147483648

/-- An `int` that is compared with a `size_t`. -/
def toSize (number : Int32) : Nat := (number.toInt % 2 ^ 64).toNat

/-- `Listener::DoAccept`. -/
def doAccept (server : Server) : Server :=
  if server.listening then { server with pending := server.pending + 1 }
  else { server with failed := server.failed + 1 }

/-- The acceptor is closed, which cancels its accepts. -/
def closeAcceptor (server : Server) : Server :=
  { server with listening := false, pending := 0, failed := server.failed + server.pending }

/-- `Listener::SetEndpoint`, which starts `m_totalRunnedTasksCount` accepts in the end. -/
def setEndpoint (server : Server) (workers : Option Int32) : EndpointResult → Server
  | .refused => server
  | .unbound => server.closeAcceptor
  | .listening =>
    { server.closeAcceptor with
      listening := true
      pending := server.totalRunnedTasksCount
      phase := .settingWorkers workers }

/-- `Listener::ReduceTasks`. -/
def reduceTasks (server : Server) (tasksCount : Nat) : Server :=
  { server with
    tasksToStopCount := server.tasksToStopCount + Int32.ofNat tasksCount
    reduced := server.reduced + tasksCount }

/-- `Server::SetWorkers`, up to `AddTasks` or to the start of new threads. A thread that cannot be
started throws. -/
def setWorkers (server : Server) (numWorkers : Int32) (started : Nat) : Option Server :=
  if server.workers ≤ toSize numWorkers then
    let increaseBy := toSize numWorkers - server.workers
    if started < increaseBy then
      some { server with workers := server.workers + started, phase := .idle }
    else if started = increaseBy then
      some { server with workers := server.workers + increaseBy, phase := .addingTasks increaseBy }
    else
      none
  else
    some { server.reduceTasks (server.workers - toSize numWorkers) with
      phase := .restarting (toSize numWorkers) }

/-- One step, if it can be made. -/
def step (server : Server) : Event → Option Server
  | .setEndpoint workers result =>
    if server.phase = .idle then some (server.setEndpoint workers result) else none
  | .setWorkers started =>
    match server.phase with
    | .settingWorkers workers =>
      if server.workers = 0 ∨ workers.isSome then
        server.setWorkers (workers.getD defaultWorkersNumber) started
      else
        some { server with phase := .idle }
    | _ => none
  | .restartWorkers started =>
    match server.phase with
    | .restarting numWorkers =>
      if started ≤ numWorkers then some { server with workers := started, phase := .idle } else none
    | _ => none
  | .addTask =>
    match server.phase with
    | .addingTasks 0 => some { server with phase := .idle }
    | .addingTasks (tasksCount + 1) =>
      some { server.doAccept with phase := .addingTasks tasksCount }
    | _ => none
  | .connect =>
    if 0 < server.pending then
      some { server with pending := server.pending - 1, accepted := server.accepted + 1 }
    else none
  | .acceptError =>
    if 0 < server.pending then
      some { server with pending := server.pending - 1, failed := server.failed + 1 }
    else none
  | .handleError =>
    if 0 < server.failed then some { server with failed := server.failed - 1 } else none
  | .sessionError =>
    if 0 < server.accepted then some { server with accepted := server.accepted - 1 } else none
  | .fetchSub =>
    if 0 < server.accepted ∧ server.restoring < maxHandlers then
      let taken : Server :=
        { server with
          accepted := server.accepted - 1
          tasksToStopCount := server.tasksToStopCount - 1 }
      -- The value before the subtraction decides.
      if server.tasksToStopCount ≤ 0 then
        some { taken with restoring := taken.restoring + 1 }
      else
        some { taken with stopped := taken.stopped + 1 }
    else none
  | .restore =>
    if 0 < server.restoring then
      some { server with
        restoring := server.restoring - 1
        continuing := server.continuing + 1
        tasksToStopCount := server.tasksToStopCount + 1 }
    else none
  | .doAccept =>
    if 0 < server.continuing then
      some { server.doAccept with continuing := server.continuing - 1 }
    else none

/-- The accept loops. -/
def live (server : Server) : Nat :=
  server.pending + server.accepted + server.restoring + server.continuing

/-- The stops that are planned: those that were asked for, less those that have happened. -/
def planned (server : Server) : Int :=
  server.reduced - server.stopped

/-- The accepts that a call has still to start, and those that it has just asked to stop. -/
def outstanding (server : Server) : Int :=
  match server.phase with
  | .addingTasks tasksCount => tasksCount
  | .restarting numWorkers => server.workers - numWorkers
  | _ => 0

/-- The effects of a call have settled: it is over, the cancelled accepts have run their handlers,
and the planned stops have been consumed. -/
def Settled (server : Server) : Prop :=
  server.phase = .idle ∧ server.failed = 0 ∧ server.planned = 0

instance (server : Server) : Decidable server.Settled :=
  inferInstanceAs (Decidable (_ ∧ _))

/-! ## Runs -/

/-- The servers that steps under a condition lead to from the beginning. -/
inductive Reachable (condition : Server → Event → Prop) : Server → Prop
  | init : Reachable condition {}
  | step {server server' : Server} {event : Event} (before : Reachable condition server)
      (met : condition server event) (made : server.step event = some server') :
      Reachable condition server'

/-- The threads that the next step of a call has to start. -/
def neededThreads (server : Server) : Nat :=
  match server.phase with
  | .settingWorkers workers =>
    if server.workers = 0 ∨ workers.isSome then
      toSize (workers.getD defaultWorkersNumber) - server.workers
    else 0
  | .restarting numWorkers => numWorkers
  | _ => 0

/-- The condition under which no loop is lost: no accept is pending on an acceptor that is closed,
none is started on one that does not listen, none fails otherwise, no session throws, and the
threads can be started. -/
def Serves (server : Server) : Event → Prop
  | .setEndpoint _ result => result = .refused ∨ server.pending = 0
  | .setWorkers started => server.neededThreads ≤ started
  | .restartWorkers started => server.neededThreads ≤ started
  | .doAccept => server.listening = true
  | .acceptError | .sessionError => False
  | _ => True

instance (server : Server) : (event : Event) → Decidable (server.Serves event)
  | .setEndpoint _ _ => inferInstanceAs (Decidable (_ ∨ _))
  | .setWorkers _ | .restartWorkers _ => inferInstanceAs (Decidable (_ ≤ _))
  | .doAccept => inferInstanceAs (Decidable (_ = _))
  | .acceptError | .sessionError => inferInstanceAs (Decidable False)
  | .addTask | .connect | .handleError | .fetchSub | .restore => inferInstanceAs (Decidable True)

/-! ## The counter of planned stops -/

/-- The counter has the planned stops, less what handlers have borrowed, cut to 32 bits. There are
none too many stops. -/
structure Planned (server : Server) : Prop where
  balance : server.tasksToStopCount = Int32.ofInt (server.planned - server.restoring)
  nonneg : 0 ≤ server.planned
  handlers : server.restoring ≤ maxHandlers

/-- The listener and the acceptor leave the counter. -/
theorem Planned.congr {server server' : Server} (h : Planned server)
    (hcount : server'.tasksToStopCount = server.tasksToStopCount)
    (hrestoring : server'.restoring = server.restoring)
    (hstopped : server'.stopped = server.stopped) (hreduced : server'.reduced = server.reduced) :
    Planned server' := by
  obtain ⟨hbalance, hnonneg, hhandlers⟩ := h
  unfold planned at hbalance hnonneg
  refine ⟨?_, ?_, ?_⟩
  · rw [planned, hcount, hrestoring, hstopped, hreduced]
    exact hbalance
  · rw [planned, hstopped, hreduced]
    exact hnonneg
  · rw [hrestoring]
    exact hhandlers

/-- While the counter is positive there are planned stops, also when it was cut. -/
theorem Planned.planned_pos {server : Server} (h : Planned server)
    (hpos : 0 < server.tasksToStopCount) : 0 < server.planned := by
  obtain ⟨hbalance, hnonneg, hhandlers⟩ := h
  unfold maxHandlers at hhandlers
  rw [Int32.lt_iff_toInt_lt, hbalance, Int32.toInt_ofInt] at hpos
  have hzero : (0 : Int32).toInt = 0 := rfl
  have hsize : Int32.size = 2 ^ 32 := rfl
  rw [hzero, hsize] at hpos
  by_contra hnone
  rw [Int.bmod_def] at hpos
  omega

/-- An accept is started, or fails at once. -/
theorem doAccept_cases (server : Server) :
    server.doAccept = { server with pending := server.pending + 1 } ∧ server.listening = true ∨
      server.doAccept = { server with failed := server.failed + 1 } ∧
        server.listening = false := by
  unfold doAccept
  cases hlistening : server.listening
  · exact .inr ⟨rfl, rfl⟩
  · exact .inl ⟨rfl, rfl⟩

/-- What `SetWorkers` does: some threads too few, the accepts of the new threads to be started, or
a reduction. -/
theorem setWorkers_cases {server server' : Server} {numWorkers : Int32} {started : Nat}
    (h : server.setWorkers numWorkers started = some server') :
    (server.workers + started < toSize numWorkers ∧
      server' = { server with workers := server.workers + started, phase := .idle }) ∨
    (server.workers + started = toSize numWorkers ∧
      server' = { server with
        workers := server.workers + started
        phase := .addingTasks started }) ∨
    (toSize numWorkers < server.workers ∧
      server' = { server.reduceTasks (server.workers - toSize numWorkers) with
        phase := .restarting (toSize numWorkers) }) := by
  unfold setWorkers at h
  split at h
  · rename_i hle
    dsimp only at h
    split at h
    · rename_i hless
      exact .inl ⟨by omega, (Option.some.inj h).symm⟩
    · split at h
      · rename_i hall
        refine .inr (.inl ⟨by omega, ?_⟩)
        rw [hall]
        exact (Option.some.inj h).symm
      · cases h
  · rename_i hlt
    exact .inr (.inr ⟨by omega, (Option.some.inj h).symm⟩)

/-- Every step, with what it takes. -/
inductive Stepped (server : Server) : Event → Server → Prop
  | setEndpoint (workers : Option Int32) (result : EndpointResult) (idle : server.phase = .idle) :
      Stepped server (.setEndpoint workers result) (server.setEndpoint workers result)
  | keepWorkers {workers : Option Int32} (started : Nat)
      (setting : server.phase = .settingWorkers workers) :
      Stepped server (.setWorkers started) { server with phase := .idle }
  | setWorkers {workers : Option Int32} {started : Nat} {server' : Server}
      (setting : server.phase = .settingWorkers workers)
      (wanted : server.workers = 0 ∨ workers.isSome)
      (set : server.setWorkers (workers.getD defaultWorkersNumber) started = some server') :
      Stepped server (.setWorkers started) server'
  | restartWorkers {numWorkers started : Nat} (restarting : server.phase = .restarting numWorkers)
      (enough : started ≤ numWorkers) :
      Stepped server (.restartWorkers started) { server with workers := started, phase := .idle }
  | addedAll (adding : server.phase = .addingTasks 0) :
      Stepped server .addTask { server with phase := .idle }
  | addTask {tasksCount : Nat} (adding : server.phase = .addingTasks (tasksCount + 1)) :
      Stepped server .addTask { server.doAccept with phase := .addingTasks tasksCount }
  | connect (pending : 0 < server.pending) :
      Stepped server .connect
        { server with pending := server.pending - 1, accepted := server.accepted + 1 }
  | acceptError (pending : 0 < server.pending) :
      Stepped server .acceptError
        { server with pending := server.pending - 1, failed := server.failed + 1 }
  | handleError (failed : 0 < server.failed) :
      Stepped server .handleError { server with failed := server.failed - 1 }
  | sessionError (accepted : 0 < server.accepted) :
      Stepped server .sessionError { server with accepted := server.accepted - 1 }
  | fetchSub (accepted : 0 < server.accepted) (handlers : server.restoring < maxHandlers)
      (none : server.tasksToStopCount ≤ 0) :
      Stepped server .fetchSub { server with
        accepted := server.accepted - 1
        tasksToStopCount := server.tasksToStopCount - 1
        restoring := server.restoring + 1 }
  | stop (accepted : 0 < server.accepted) (some : 0 < server.tasksToStopCount) :
      Stepped server .fetchSub { server with
        accepted := server.accepted - 1
        tasksToStopCount := server.tasksToStopCount - 1
        stopped := server.stopped + 1 }
  | restore (restoring : 0 < server.restoring) :
      Stepped server .restore { server with
        restoring := server.restoring - 1
        continuing := server.continuing + 1
        tasksToStopCount := server.tasksToStopCount + 1 }
  | doAccept (continuing : 0 < server.continuing) :
      Stepped server .doAccept { server.doAccept with continuing := server.continuing - 1 }

/-- There are no other steps. -/
theorem stepped_of_step {server server' : Server} {event : Event}
    (h : server.step event = some server') : Stepped server event server' := by
  cases event with
  | setEndpoint workers result =>
    rw [step, Option.ite_none_right_eq_some, Option.some.injEq] at h
    obtain ⟨hidle, rfl⟩ := h
    exact .setEndpoint workers result hidle
  | setWorkers started =>
    rw [step] at h
    split at h
    · rename_i workers hphase
      split at h
      · rename_i hwanted
        exact .setWorkers hphase hwanted h
      · obtain rfl := Option.some.inj h
        exact .keepWorkers started hphase
    · cases h
  | restartWorkers started =>
    rw [step] at h
    split at h
    · rename_i numWorkers hphase
      rw [Option.ite_none_right_eq_some, Option.some.injEq] at h
      obtain ⟨henough, rfl⟩ := h
      exact .restartWorkers hphase henough
    · cases h
  | addTask =>
    rw [step] at h
    split at h
    · rename_i hphase
      obtain rfl := Option.some.inj h
      exact .addedAll hphase
    · rename_i tasksCount hphase
      obtain rfl := Option.some.inj h
      exact .addTask hphase
    · cases h
  | connect =>
    rw [step, Option.ite_none_right_eq_some, Option.some.injEq] at h
    obtain ⟨hpending, rfl⟩ := h
    exact .connect hpending
  | acceptError =>
    rw [step, Option.ite_none_right_eq_some, Option.some.injEq] at h
    obtain ⟨hpending, rfl⟩ := h
    exact .acceptError hpending
  | handleError =>
    rw [step, Option.ite_none_right_eq_some, Option.some.injEq] at h
    obtain ⟨hfailed, rfl⟩ := h
    exact .handleError hfailed
  | sessionError =>
    rw [step, Option.ite_none_right_eq_some, Option.some.injEq] at h
    obtain ⟨haccepted, rfl⟩ := h
    exact .sessionError haccepted
  | fetchSub =>
    rw [step, Option.ite_none_right_eq_some] at h
    obtain ⟨⟨haccepted, hhandlers⟩, h⟩ := h
    dsimp only at h
    split at h
    · rename_i hnone
      obtain rfl := Option.some.inj h
      exact .fetchSub haccepted hhandlers hnone
    · rename_i hsome
      obtain rfl := Option.some.inj h
      exact .stop haccepted (Int32.not_le.mp hsome)
  | restore =>
    rw [step, Option.ite_none_right_eq_some, Option.some.injEq] at h
    obtain ⟨hrestoring, rfl⟩ := h
    exact .restore hrestoring
  | doAccept =>
    rw [step, Option.ite_none_right_eq_some, Option.some.injEq] at h
    obtain ⟨hcontinuing, rfl⟩ := h
    exact .doAccept hcontinuing

/-- A step keeps the balance of the counter. -/
theorem Planned.step {server server' : Server} {event : Event} (h : Planned server)
    (hstep : server.step event = some server') : Planned server' := by
  have hdoAccept : ∀ (continuing : Nat) (phase : Phase),
      Planned { server.doAccept with continuing := continuing, phase := phase } := by
    intro continuing phase
    rcases doAccept_cases server with ⟨heq, -⟩ | ⟨heq, -⟩
    · rw [heq]
      exact h.congr rfl rfl rfl rfl
    · rw [heq]
      exact h.congr rfl rfl rfl rfl
  obtain ⟨hbalance, hnonneg, hhandlers⟩ := id h
  have hone : (1 : Int32) = Int32.ofInt 1 := rfl
  unfold planned at hbalance hnonneg
  cases stepped_of_step hstep with
  | setEndpoint workers result idle => cases result <;> exact h.congr rfl rfl rfl rfl
  | keepWorkers started setting => exact h.congr rfl rfl rfl rfl
  | setWorkers setting wanted set =>
    rcases setWorkers_cases set with ⟨-, rfl⟩ | ⟨-, rfl⟩ | ⟨-, rfl⟩
    · exact h.congr rfl rfl rfl rfl
    · exact h.congr rfl rfl rfl rfl
    · -- As many stops are planned as were asked for.
      refine ⟨?_, ?_, hhandlers⟩
      · simp only [planned, reduceTasks]
        rw [hbalance, ← Int32.ofInt_eq_ofNat, ← Int32.ofInt_add]
        exact congrArg Int32.ofInt (by omega)
      · simp only [planned, reduceTasks]
        omega
  | restartWorkers restarting enough => exact h.congr rfl rfl rfl rfl
  | addedAll adding => exact h.congr rfl rfl rfl rfl
  | addTask adding => exact hdoAccept _ _
  | connect pending => exact h.congr rfl rfl rfl rfl
  | acceptError pending => exact h.congr rfl rfl rfl rfl
  | handleError failed => exact h.congr rfl rfl rfl rfl
  | sessionError accepted => exact h.congr rfl rfl rfl rfl
  | fetchSub accepted handlers none =>
    -- What is taken from the counter is owed by the handler.
    refine ⟨?_, hnonneg, handlers⟩
    simp only [planned]
    rw [hbalance, hone, ← Int32.ofInt_sub]
    exact congrArg Int32.ofInt (by omega)
  | stop accepted some =>
    -- One of the planned stops is made.
    have hpos := h.planned_pos some
    unfold planned at hpos
    refine ⟨?_, ?_, hhandlers⟩
    · simp only [planned]
      rw [hbalance, hone, ← Int32.ofInt_sub]
      exact congrArg Int32.ofInt (by omega)
    · simp only [planned]
      omega
  | restore restoring =>
    -- And gives it back.
    refine ⟨?_, hnonneg, by dsimp only; omega⟩
    simp only [planned]
    rw [hbalance, hone, ← Int32.ofInt_add]
    exact congrArg Int32.ofInt (by omega)
  | doAccept continuing => exact hdoAccept _ _

/-- The counter is balanced in every run. -/
theorem planned_of_reachable {condition : Server → Event → Prop} {server : Server}
    (h : Reachable condition server) : Planned server := by
  induction h with
  | init => exact ⟨rfl, Int.le_refl 0, Nat.zero_le _⟩
  | step before met made ih => exact ih.step made

/-! ## The loops -/

/-- The loops are as many as the threads, but for those that are planned to stop and those that a
call has still to account for; `AddTasks` is the only one that starts them. -/
structure Served (server : Server) : Prop where
  balance : server.live + server.outstanding = server.workers + server.planned
  total : server.totalRunnedTasksCount = 0
  adding : ∀ tasksCount, server.phase = .addingTasks tasksCount → server.listening = true
  setting : ∀ workers, server.phase = .settingWorkers workers → server.listening = true

/-- A step under the condition keeps the number of loops. -/
theorem Served.step {server server' : Server} {event : Event} (h : Served server)
    (hserves : server.Serves event) (hstep : server.step event = some server') :
    Served server' := by
  obtain ⟨hbalance, htotal, hadding, hsetting⟩ := h
  unfold live outstanding planned at hbalance
  cases stepped_of_step hstep with
  | setEndpoint workers result idle =>
    rw [idle] at hbalance
    dsimp only at hbalance
    have hpending : result = .refused ∨ server.pending = 0 := hserves
    cases result with
    | refused =>
      refine ⟨?_, htotal, hadding, hsetting⟩
      rw [live, outstanding, planned, setEndpoint, idle]
      exact hbalance
    | unbound =>
      have hnone : server.pending = 0 := hpending.resolve_left EndpointResult.noConfusion
      refine ⟨?_, htotal, fun tasksCount h => ?_, fun workers h => ?_⟩
      · simp only [live, outstanding, planned, setEndpoint, closeAcceptor, idle]
        omega
      · cases idle.symm.trans h
      · cases idle.symm.trans h
    | listening =>
      have hnone : server.pending = 0 := hpending.resolve_left EndpointResult.noConfusion
      refine ⟨?_, htotal, fun tasksCount h => rfl, fun workers h => rfl⟩
      simp only [live, outstanding, planned, setEndpoint, closeAcceptor]
      omega
  | keepWorkers started setting =>
    rw [setting] at hbalance
    dsimp only at hbalance
    exact ⟨hbalance, htotal, fun _ => Phase.noConfusion, fun _ => Phase.noConfusion⟩
  | setWorkers setting wanted set =>
    have henough : server.neededThreads ≤ _ := hserves
    rw [neededThreads, setting] at henough
    dsimp only at henough
    rw [if_pos wanted] at henough
    rw [setting] at hbalance
    dsimp only at hbalance
    rcases setWorkers_cases set with ⟨hless, -⟩ | ⟨-, rfl⟩ | ⟨hless, rfl⟩
    · omega
    · -- A loop is to be started for each of the threads.
      refine ⟨?_, htotal, fun _ _ => hsetting _ setting, fun _ => Phase.noConfusion⟩
      simp only [live, outstanding, planned]
      omega
    · refine ⟨?_, htotal, fun _ => Phase.noConfusion, fun _ => Phase.noConfusion⟩
      simp only [live, outstanding, planned, reduceTasks]
      omega
  | @restartWorkers numWorkers started restarting enough =>
    have hall : server.neededThreads ≤ started := hserves
    rw [neededThreads, restarting] at hall
    rw [restarting] at hbalance
    dsimp only at hall hbalance
    refine ⟨?_, htotal, fun _ => Phase.noConfusion, fun _ => Phase.noConfusion⟩
    simp only [live, outstanding, planned]
    omega
  | addedAll adding =>
    rw [adding] at hbalance
    dsimp only at hbalance
    exact ⟨hbalance, htotal, fun _ => Phase.noConfusion, fun _ => Phase.noConfusion⟩
  | @addTask tasksCount adding =>
    have hlistening := hadding _ adding
    rw [adding] at hbalance
    dsimp only at hbalance
    unfold doAccept
    rw [if_pos hlistening]
    refine ⟨?_, htotal, fun _ _ => hlistening, fun _ => Phase.noConfusion⟩
    simp only [live, outstanding, planned]
    omega
  | connect pending =>
    refine ⟨?_, htotal, hadding, hsetting⟩
    simp only [live, outstanding, planned]
    omega
  | acceptError => exact hserves.elim
  | handleError failed => exact ⟨hbalance, htotal, hadding, hsetting⟩
  | sessionError => exact hserves.elim
  | fetchSub accepted handlers none =>
    refine ⟨?_, htotal, hadding, hsetting⟩
    simp only [live, outstanding, planned]
    omega
  | stop accepted some =>
    refine ⟨?_, htotal, hadding, hsetting⟩
    simp only [live, outstanding, planned]
    omega
  | restore restoring =>
    refine ⟨?_, htotal, hadding, hsetting⟩
    simp only [live, outstanding, planned]
    omega
  | doAccept continuing =>
    have hlistening : server.listening = true := hserves
    unfold doAccept
    rw [if_pos hlistening]
    refine ⟨?_, htotal, fun _ _ => hlistening, fun _ _ => hlistening⟩
    simp only [live, outstanding, planned]
    omega

/-- The loops are served in every run under the condition. -/
theorem served_of_reachable {server : Server} (h : Reachable Serves server) : Served server := by
  induction h with
  | init => exact ⟨rfl, rfl, fun _ => Phase.noConfusion, fun _ => Phase.noConfusion⟩
  | step before met made ih => exact ih.step met made

/-- No more loops are stopped by the counter than `ReduceTasks` was asked for, in any run; and in a
run in which no accept is pending on an acceptor that is closed, none is started on one that does
not listen, none fails otherwise, no session throws, and the threads can be started, there are as
many loops as threads whenever the effects of a call have settled. -/
theorem stopped_le_reduced_and_live_eq_workers (server : Server) :
    (Reachable (fun _ _ => True) server → server.stopped ≤ server.reduced) ∧
      (Reachable Serves server → server.Settled → server.live = server.workers) := by
  refine ⟨fun h => ?_, fun h hsettled => ?_⟩
  · have hnonneg := (planned_of_reachable h).nonneg
    unfold planned at hnonneg
    omega
  · obtain ⟨hidle, -, hplanned⟩ := hsettled
    have hbalance := (served_of_reachable h).balance
    rw [outstanding, hidle, hplanned] at hbalance
    dsimp only at hbalance
    omega

/-! ## Two calls -/

/-- The server after some steps that are made under a condition. -/
def run (condition : Server → Event → Bool) : Server → List Event → Option Server
  | server, [] => some server
  | server, event :: events =>
    if condition server event then (server.step event).bind (run condition · events) else none

/-- Such a server is reachable. -/
theorem Reachable.run {property : Server → Event → Prop} {condition : Server → Event → Bool}
    (hcondition : ∀ server event, condition server event = true → property server event)
    {events : List Event} {server server' : Server} (hbefore : Reachable property server)
    (h : Server.run condition server events = some server') : Reachable property server' := by
  induction events generalizing server with
  | nil =>
    obtain rfl := Option.some.inj h
    exact hbefore
  | cons event events ih =>
    rw [Server.run, Option.ite_none_right_eq_some, Option.bind_eq_some_iff] at h
    obtain ⟨hmet, middle, hmade, hrest⟩ := h
    exact ih (hbefore.step (hcondition server event hmet) hmade) hrest

/-- The first call, for two threads. -/
def firstCall : List Event :=
  [.setEndpoint (some 2) .listening, .setWorkers 2, .addTask, .addTask, .addTask]

/-- A second call while both loops have a connection, to reduce the threads to one. -/
def secondCall : List Event :=
  [.connect, .connect, .setEndpoint (some 1) .listening, .setWorkers 0, .restartWorkers 1,
    .fetchSub, .fetchSub, .restore, .doAccept]

/-- One loop is left for one thread. -/
theorem live_eq_workers_secondCall :
    ∃ server, run (fun server event => server.Serves event) {} (firstCall ++ secondCall) =
      some server ∧ server.workers = 1 ∧ server.stopped = 1 ∧ server.live = server.workers := by
  have hrun : run (fun server event => server.Serves event) {} (firstCall ++ secondCall) =
      some _ := rfl
  have hreachable : Reachable Serves _ :=
    Reachable.run (fun _ _ h => of_decide_eq_true h) .init hrun
  exact ⟨_, hrun, by decide, by decide,
    (stopped_le_reduced_and_live_eq_workers _).2 hreachable (by decide)⟩

/-- A second call without a change, while both loops wait for connections. -/
def sameCall : List Event :=
  [.setEndpoint none .listening, .setWorkers 0, .handleError, .handleError]

/-- No loop is left for two threads. -/
theorem sameCall_not_live :
    ¬ ∀ server, Reachable (fun _ _ => True) server → server.Settled →
      server.live = server.workers := by
  intro hclaim
  have hreachable : Reachable (fun _ _ => True) _ :=
    Reachable.run (fun _ _ _ => trivial) .init (rfl : run (fun _ _ => true) {}
      (firstCall ++ sameCall) = some _)
  have hequal := hclaim _ hreachable (by decide)
  revert hequal
  decide

end Server

end Ws

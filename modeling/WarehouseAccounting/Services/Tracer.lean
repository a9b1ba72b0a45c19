import WarehouseAccounting.Services.TraceWriter

/-!
# The tracer

`trace_collector.cpp` and `tracer.cpp`: whoever traces fills a message and hands it over when the
collector is destroyed; `SetSettings` starts a writer when tracing is turned on, and waits for its
thread when tracing is turned off. The steps of all threads are interleaved.

`SetSettings` holds `m_settingsMutex`, but `StartCollecting` and `Trace` take no lock: `Trace` looks
at the pointer of the writer, reads it again, and goes on with what it has read. A thread that is in
there while `SetSettings` resets the pointer may read a null pointer, hand its message to a writer
whose thread has ended, or use a writer that is freed, after which nothing is defined. The pointer
and the level themselves are taken to be read and set as a whole.

- `TracerSystem.accounted_of_reachable`: every message that a writer has accepted while its thread
  ran is written once, in the order of acceptance, and all of them are when tracing was turned off.
  No message comes too late when nobody is in `Trace` while tracing is turned off.
- `TracerSystem.closing_bounded`: turning tracing off takes boundedly many steps of the thread,
  whatever else goes on, but the thread may miss the notification and sleep until its timeout.
- `TracerSystem.filed_of_reachable`: whether the messages get into files.
-/

namespace Srv.Tracer

/-! ## The tracer -/

/-- Where `Tracer::SetSettings` is. -/
inductive SetPoint where
  /-- Nobody is in there. -/
  | outside
  /-- The level is set, and the pointer is not. -/
  | assigning (now : Nat) (settings : TracerSettings) (oldLevel : TraceLevel)
  /-- The pointer is set, and the destructor of the old writer begins. -/
  | stopping
  /-- `m_stop` is set. -/
  | notifying
  /-- The destructor is in `join`. -/
  | joining
  deriving DecidableEq, Repr

/-- `Tracer`. -/
structure Tracer where
  /-- `m_traceWriter`. -/
  writer : Option TraceWriter := none
  /-- The writer whose destructor `SetSettings` is in. -/
  closing : Option TraceWriter := none
  point : SetPoint := .outside
  /-- The number of writers that were made. -/
  created : Nat := 0
  /-- `m_maxTraceLevel`. -/
  maxTraceLevel : TraceLevel := .disabled
  /-- `m_index`. -/
  index : UInt64 := 0
  deriving DecidableEq, Repr

namespace Tracer

/-- `Tracer::IsTracing`. -/
def isTracing (tracer : Tracer) : Bool :=
  TraceLevel.disabled.value < tracer.maxTraceLevel.value

/-- The settings of the writer, if there is one. -/
def setWriterSettings (files : Files) (now : Nat) (settings : TracerSettings) :
    Option TraceWriter → Option TraceWriter × List Event
  | some writer =>
    let (writer, events) := writer.setSettings files now settings
    (some writer, events)
  | none => (none, [])

/-- `Tracer::SetSettings`, up to the new level. -/
def setSettings (files : Files) (now : Nat) (settings : TracerSettings) (tracer : Tracer) :
    Tracer × List Event :=
  let (writer, events) := setWriterSettings files now settings tracer.writer
  ({ tracer with
    writer
    point := .assigning now settings tracer.maxTraceLevel
    maxTraceLevel := settings.traceLevel.getD tracer.maxTraceLevel }, events)

/-- The pointer is set to another writer, and the old one has to be destroyed if there is one. -/
def replaceWriter (writer : Option TraceWriter) (tracer : Tracer) : Tracer :=
  { tracer with
    writer
    closing := tracer.writer
    point := if tracer.writer.isSome then .stopping else .outside }

/-- `Tracer::SetSettings` from the new level on, up to the destructor of a writer. -/
def assign (files : Files) (now : Nat) (settings : TracerSettings) (oldLevel : TraceLevel)
    (early : Option UInt32) (tracer : Tracer) : Tracer × List Event :=
  if ¬ tracer.isTracing then
    (tracer.replaceWriter none, [])
  else if oldLevel = .disabled then
    let (writer, events) := TraceWriter.create files tracer.created now early settings
    ({ tracer.replaceWriter (some writer) with created := tracer.created + 1 }, events)
  else
    ({ tracer with point := .outside }, [])

end Tracer

/-- The level that the writer of the tracer goes with. -/
def Tracer.writerLevel (tracer : Tracer) : TraceLevel :=
  match tracer.point with
  | .assigning _ _ oldLevel => oldLevel
  | _ => tracer.maxTraceLevel

/-- Where a writer is that somebody has seen. -/
inductive Located where
  /-- It is the one of the tracer. -/
  | current (writer : TraceWriter)
  /-- It is being destroyed. -/
  | closing (writer : TraceWriter)
  | freed
  deriving DecidableEq, Repr

/-- The writer of a number. -/
def Tracer.locate (number : Nat) (tracer : Tracer) : Located :=
  match tracer.writer.filter fun writer => writer.number = number with
  | some writer => .current writer
  | none =>
    match tracer.closing.filter fun writer => writer.number = number with
    | some writer => .closing writer
    | none => .freed

/-! ## Interleavings -/

/-- Where a thread is that traces. -/
inductive Collector where
  /-- `StartCollecting` has let the level through. -/
  | starting (traceLevel : TraceLevel)
  /-- The collector has its message. -/
  | collecting (message : TraceMessage)
  /-- In `Trace`, the pointer was not null. -/
  | checked (message : TraceMessage)
  /-- In `Queue` of a writer. -/
  | queueing (message : TraceMessage) (number : Nat)
  /-- Before the `notify_all` of `Queue`. -/
  | notifying (number : Nat)
  deriving DecidableEq, Repr

namespace Collector

/-- The thread has found the pointer not null. -/
def inTrace : Collector → Bool
  | checked _ | queueing .. | notifying _ => true
  | starting _ | collecting _ => false

/-- The number of the writer that it has read. -/
def number : Collector → Option Nat
  | queueing _ number | notifying number => some number
  | _ => none

/-- What the thread has found of the pointer is so still. -/
def Sees (tracer : Tracer) (collector : Collector) : Prop :=
  ∃ writer, tracer.writer = some writer ∧ ∀ number, collector.number = some number →
    number = writer.number

/-- The thread has not put its message into the queue yet. -/
def isQueueing : Collector → Bool
  | queueing .. => true
  | _ => false

end Collector

/-- The tracer, the threads that trace, and what has happened. -/
structure TracerSystem where
  tracer : Tracer := {}
  collectors : List Collector := []
  events : List Event := []
  /-- A null pointer or a writer that is freed was used. -/
  undefined : Bool := false
  deriving DecidableEq, Repr

/-- A step of some thread. -/
inductive Action where
  /-- The level in `StartCollecting`. -/
  | startCollecting (traceLevel : TraceLevel)
  /-- The message of the collector is made. -/
  | create (collector now : Nat) (thread : String)
  /-- `TraceCollector::AddMessage`. -/
  | addMessage (collector : Nat) (message : String)
  /-- The destructor of `TraceCollector`, up to the check in `Trace`. -/
  | trace (collector : Nat)
  /-- The pointer is read again. -/
  | dereference (collector : Nat)
  /-- The block of `Queue`. -/
  | queue (collector : Nat)
  /-- The `notify_all` of `Queue`. -/
  | notify (collector : Nat)
  /-- `SetSettings`, up to the new level. -/
  | setSettings (now : Nat) (settings : TracerSettings)
  /-- The pointer is set. -/
  | assign (early : Option UInt32)
  /-- The destructor of a writer sets `m_stop`. -/
  | stop
  /-- Its `notify_all`. -/
  | notifyStop
  /-- Its thread has ended, the writer is freed, and `SetSettings` returns. -/
  | join
  /-- The thread of the writer is woken for no reason. -/
  | wakeWriter
  /-- So is that of the writer that is destroyed. -/
  | wakeClosing
  /-- A step of the thread of the writer. -/
  | runWriter (timedOut : Bool)
  /-- A step of the thread of the writer that is destroyed. -/
  | runClosing (timedOut : Bool)
  deriving DecidableEq, Repr

/-- A step of the thread of the writer that is destroyed. -/
def Action.isRunClosing : Action → Bool
  | .runClosing _ => true
  | _ => false

/-- The messages that a writer has not written yet, if there is one. -/
def pendingOf : Option TraceWriter → List TraceMessage
  | some writer => writer.pending
  | none => []

namespace TracerSystem

/-- The messages that the threads of writers still have to write. -/
def pending (system : TracerSystem) : List TraceMessage :=
  pendingOf system.tracer.closing ++ pendingOf system.tracer.writer

/-- The writer of the tracer has changed. -/
def setWriter (writer : TraceWriter) (events : List Event) (system : TracerSystem) :
    TracerSystem :=
  { system with
    tracer := { system.tracer with writer := some writer }
    events := system.events ++ events }

/-- The writer that is destroyed has changed. -/
def setClosing (writer : TraceWriter) (events : List Event) (system : TracerSystem) :
    TracerSystem :=
  { system with
    tracer := { system.tracer with closing := some writer }
    events := system.events ++ events }

/-- One step of a thread that traces, unless it has to wait. -/
def advanceCollector (system : TracerSystem) : Action → Option TracerSystem
  | .startCollecting traceLevel =>
    some { system with
      collectors := system.collectors ++
        if traceLevel.value ≤ system.tracer.maxTraceLevel.value then [.starting traceLevel]
        else [] }
  | .create collector now thread =>
    match system.collectors[collector]? with
    | some (.starting traceLevel) =>
      some { system with
        tracer := { system.tracer with index := system.tracer.index + 1 }
        collectors := system.collectors.set collector
          (.collecting (.create system.tracer.index traceLevel now thread)) }
    | _ => none
  | .addMessage collector data =>
    match system.collectors[collector]? with
    | some (.collecting message) =>
      some { system with
        collectors := system.collectors.set collector (.collecting (message.addToBack data)) }
    | _ => none
  | .trace collector =>
    match system.collectors[collector]? with
    | some (.collecting message) =>
      some { system with
        collectors :=
          if system.tracer.writer.isSome then system.collectors.set collector (.checked message)
          else system.collectors.eraseIdx collector }
    | _ => none
  | .dereference collector =>
    match system.collectors[collector]? with
    | some (.checked message) =>
      match system.tracer.writer with
      | some writer =>
        some { system with
          collectors := system.collectors.set collector (.queueing message writer.number) }
      | none => some { system with undefined := true }
    | _ => none
  | .queue collector =>
    match system.collectors[collector]? with
    | some (.queueing message number) =>
      let handed :=
        { system with collectors := system.collectors.set collector (.notifying number) }
      match system.tracer.locate number with
      | .current writer => (writer.queue message).map fun (writer, events) =>
        handed.setWriter writer events
      | .closing writer => (writer.queue message).map fun (writer, events) =>
        handed.setClosing writer events
      | .freed => some { system with undefined := true }
    | _ => none
  | .notify collector =>
    match system.collectors[collector]? with
    | some (.notifying number) =>
      let handed := { system with collectors := system.collectors.eraseIdx collector }
      match system.tracer.locate number with
      | .current writer => some (handed.setWriter writer.notifyAll [])
      | .closing writer => some (handed.setClosing writer.notifyAll [])
      | .freed => some { system with undefined := true }
    | _ => none
  | _ => none

/-- `Tracer::SetSettings` is called, unless another thread is in there: the level is set. -/
def callSetSettings (files : Files) (now : Nat) (settings : TracerSettings)
    (system : TracerSystem) : Option TracerSystem :=
  if system.tracer.point = .outside then
    let (tracer, events) := system.tracer.setSettings files now settings
    some { system with tracer, events := system.events ++ events }
  else
    none

/-- The pointer of the writer is set. -/
def assignWriter (files : Files) (early : Option UInt32) (system : TracerSystem) :
    Option TracerSystem :=
  match system.tracer.point with
  | .assigning now settings oldLevel =>
    let (tracer, events) := system.tracer.assign files now settings oldLevel early
    some { system with tracer, events := system.events ++ events }
  | _ => none

/-- The destructor of the old writer sets `m_stop`. -/
def stopWriter (system : TracerSystem) : Option TracerSystem :=
  match system.tracer.point, system.tracer.closing with
  | .stopping, some writer =>
    some { system with
      tracer := { system.tracer with
        closing := some { writer with stop := true }
        point := .notifying } }
  | _, _ => none

/-- The destructor of the old writer notifies its thread. -/
def notifyWriter (system : TracerSystem) : Option TracerSystem :=
  match system.tracer.point, system.tracer.closing with
  | .notifying, some writer =>
    some { system with
      tracer := { system.tracer with closing := some writer.notifyAll, point := .joining } }
  | _, _ => none

/-- The destructor of the old writer joins its thread, and the writer is gone. -/
def joinWriter (system : TracerSystem) : Option TracerSystem :=
  match system.tracer.point, system.tracer.closing with
  | .joining, some writer =>
    if writer.worker = .ended then
      some { system with tracer := { system.tracer with closing := none, point := .outside } }
    else
      none
  | _, _ => none

/-- One step of the thread of a writer, unless it has to wait. -/
def advanceWorker (files : Files) (system : TracerSystem) : Action → Option TracerSystem
  | .wakeWriter => system.tracer.writer.map fun writer => system.setWriter writer.notifyAll []
  | .wakeClosing => system.tracer.closing.map fun writer => system.setClosing writer.notifyAll []
  | .runWriter timedOut => do
    let (writer, events) ← (← system.tracer.writer).runStep files timedOut
    some (system.setWriter writer events)
  | .runClosing timedOut => do
    let (writer, events) ← (← system.tracer.closing).runStep files timedOut
    some (system.setClosing writer events)
  | _ => none

/-- One step, unless the thread has to wait. Nothing follows what is not defined. -/
def advance (files : Files) (system : TracerSystem) (action : Action) : Option TracerSystem :=
  if system.undefined then
    none
  else
    match action with
    | .startCollecting _ | .create .. | .addMessage .. | .trace _ | .dereference _ | .queue _
    | .notify _ => system.advanceCollector action
    | .setSettings now settings => system.callSetSettings files now settings
    | .assign early => system.assignWriter files early
    | .stop => system.stopWriter
    | .notifyStop => system.notifyWriter
    | .join => system.joinWriter
    | .wakeWriter | .wakeClosing | .runWriter _ | .runClosing _ =>
      system.advanceWorker files action

/-- Some steps, one after the other. -/
def run (files : Files) (actions : List Action) (system : TracerSystem) : Option TracerSystem :=
  actions.foldlM (advance files) system

/-- What interleaved steps lead to from the beginning, when each of them meets a condition. -/
inductive Reachable (files : Files) (condition : TracerSystem → Action → Prop) :
    TracerSystem → Prop
  | init : Reachable files condition {}
  | step {system system' : TracerSystem} {action : Action}
      (before : Reachable files condition system) (met : condition system action)
      (made : system.advance files action = some system') :
      Reachable files condition system'

variable {files : Files} {condition : TracerSystem → Action → Prop}

/-- Each step of a run meets a condition. -/
def Met (files : Files) (condition : TracerSystem → Action → Prop) :
    List Action → TracerSystem → Prop
  | [], _ => True
  | action :: actions, system =>
    condition system action ∧ ∀ system' ∈ system.advance files action,
      Met files condition actions system'

instance [∀ system action, Decidable (condition system action)] :
    ∀ actions system, Decidable (Met files condition actions system)
  | [], _ => isTrue trivial
  | action :: actions, system =>
    have := fun system => instDecidableMet actions system
    inferInstanceAs (Decidable (condition system action ∧ ∀ system' ∈ system.advance files action,
      Met files condition actions system'))

/-- The steps of a run. -/
theorem Reachable.run {system system' : TracerSystem} {actions : List Action}
    (h : Reachable files condition system) (hmet : Met files condition actions system)
    (hrun : system.run files actions = some system') : Reachable files condition system' := by
  induction actions generalizing system with
  | nil =>
    obtain rfl := Option.some.inj hrun
    exact h
  | cons action actions ih =>
    obtain ⟨middle, hfirst, hrest⟩ := Option.bind_eq_some_iff.mp hrun
    exact ih (.step h hmet.1 hfirst) (hmet.2 middle hfirst) hrest

/-! ## One step -/

/-- Threads that are in `Trace` go on with the writer of the tracer if they all saw it, and without
a writer no thread comes to a queue. -/
structure InsideKept (system system' : TracerSystem) : Prop where
  sees : (∀ collector ∈ system.collectors, collector.inTrace = true →
      collector.Sees system.tracer) →
    ∀ collector ∈ system'.collectors, collector.inTrace = true → collector.Sees system.tracer
  queueing : system.tracer.writer = none →
    system'.collectors.countP Collector.isQueueing ≤ system.collectors.countP Collector.isQueueing

/-- What a step does: threads that trace go on, a writer changes, or `SetSettings` goes on. -/
inductive Stepped (files : Files) (system system' : TracerSystem) : Action → Prop
  | collected {action : Action} (index : UInt64) (other : action.isRunClosing = false)
      (inside : InsideKept system system')
      (result : system' = { system with
        tracer := { system.tracer with index }
        collectors := system'.collectors }) :
      Stepped files system system' action
  | broken {action : Action} (other : action.isRunClosing = false) {collector : Collector}
      (mem : collector ∈ system.collectors) (inside : collector.inTrace = true)
      (unseen : ¬ collector.Sees system.tracer)
      (result : system' = { system with undefined := true }) :
      Stepped files system system' action
  | current {action : Action} (other : action.isRunClosing = false)
      {writer writer' : TraceWriter} {events : List Event}
      (writing : system.tracer.writer = some writer)
      (change : writer.Changed files writer' events) (inside : InsideKept system system')
      (result : system' = { system.setWriter writer' events with
        collectors := system'.collectors }) :
      Stepped files system system' action
  | queued {collector number : Nat} {message : TraceMessage} {writer writer' : TraceWriter}
      {events : List Event} (closing : system.tracer.closing = some writer)
      (handing : system.collectors[collector]? = some (.queueing message number))
      (accepted : writer.queue message = some (writer', events))
      (result : system' = { system.setClosing writer' events with
        collectors := system.collectors.set collector (.notifying number) }) :
      Stepped files system system' (.queue collector)
  | woken {action : Action} (other : action.isRunClosing = false) {writer : TraceWriter}
      (closing : system.tracer.closing = some writer) (inside : InsideKept system system')
      (result : system' = { system.setClosing writer.notifyAll [] with
        collectors := system'.collectors }) :
      Stepped files system system' action
  | ran {timedOut : Bool} {writer writer' : TraceWriter} {events : List Event}
      (closing : system.tracer.closing = some writer)
      (made : writer.runStep files timedOut = some (writer', events))
      (result : system' = system.setClosing writer' events) :
      Stepped files system system' (.runClosing timedOut)
  | settings {now : Nat} {settings : TracerSettings} (outside : system.tracer.point = .outside)
      (result : system' = { system with
        tracer := (system.tracer.setSettings files now settings).1
        events := system.events ++ (system.tracer.setSettings files now settings).2 }) :
      Stepped files system system' (.setSettings now settings)
  | assigned {now : Nat} {settings : TracerSettings} {oldLevel : TraceLevel}
      {early : Option UInt32} (assigning : system.tracer.point = .assigning now settings oldLevel)
      (result : system' = { system with
        tracer := (system.tracer.assign files now settings oldLevel early).1
        events := system.events ++
          (system.tracer.assign files now settings oldLevel early).2 }) :
      Stepped files system system' (.assign early)
  | stopped {writer : TraceWriter} (stopping : system.tracer.point = .stopping)
      (closing : system.tracer.closing = some writer)
      (result : system' = { system with
        tracer := { system.tracer with
          closing := some { writer with stop := true }
          point := .notifying } }) :
      Stepped files system system' .stop
  | notified {writer : TraceWriter} (notifying : system.tracer.point = .notifying)
      (closing : system.tracer.closing = some writer)
      (result : system' = { system with
        tracer := { system.tracer with closing := some writer.notifyAll, point := .joining } }) :
      Stepped files system system' .notifyStop
  | joined {writer : TraceWriter} (joining : system.tracer.point = .joining)
      (closing : system.tracer.closing = some writer) (ended : writer.worker = .ended)
      (result : system' = { system with
        tracer := { system.tracer with closing := none, point := .outside } }) :
      Stepped files system system' .join

/-- The same threads are where they were. -/
theorem InsideKept.of_eq {system system' : TracerSystem}
    (h : system'.collectors = system.collectors) : InsideKept system system' := by
  constructor
  · rw [h]
    exact fun hsees => hsees
  · rw [h]
    exact fun _ => Nat.le_refl _

/-- A thread goes on. -/
theorem InsideKept.of_set {system system' : TracerSystem} {index : Nat} {old new : Collector}
    (hold : system.collectors[index]? = some old)
    (h : system'.collectors = system.collectors.set index new)
    (hsees : new.inTrace = true → (old.inTrace = true → old.Sees system.tracer) →
      new.Sees system.tracer)
    (hqueueing : system.tracer.writer = none → new.isQueueing = true → old.isQueueing = true) :
    InsideKept system system' := by
  obtain ⟨hlt, hget⟩ := List.getElem?_eq_some_iff.mp hold
  constructor
  · rw [h]
    intro hall collector hmem hinside
    rcases List.mem_or_eq_of_mem_set hmem with hmem | rfl
    · exact hall collector hmem hinside
    · exact hsees hinside fun holdInside =>
        hall old (hget ▸ List.getElem_mem hlt) holdInside
  · intro hnone
    rw [h, List.countP_set hlt, hget]
    have hpos : old.isQueueing = true → 0 < system.collectors.countP Collector.isQueueing :=
      fun hq => List.countP_pos_iff.mpr ⟨old, hget ▸ List.getElem_mem hlt, hq⟩
    have hnew := hqueueing hnone
    cases hq : new.isQueueing with
    | false => simp
    | true =>
      have hone := hpos (hnew hq)
      rw [hnew hq, if_pos rfl]
      omega

/-- A thread has finished. -/
theorem InsideKept.of_eraseIdx {system system' : TracerSystem} {index : Nat}
    (h : system'.collectors = system.collectors.eraseIdx index) : InsideKept system system' := by
  constructor
  · rw [h]
    exact fun hall collector hmem => hall collector (List.mem_of_mem_eraseIdx hmem)
  · rw [h]
    exact fun _ => (List.eraseIdx_sublist ..).countP_le

/-- The writer of a number. -/
theorem locate_cases (number : Nat) (tracer : Tracer) :
    (∃ writer, tracer.writer = some writer ∧ tracer.locate number = .current writer) ∨
    (∃ writer, tracer.closing = some writer ∧ tracer.locate number = .closing writer) ∨
    (tracer.locate number = .freed ∧
      ∀ writer, tracer.writer = some writer → number ≠ writer.number) := by
  unfold Tracer.locate
  split
  · rename_i writer hwriter
    exact .inl ⟨writer, (Option.filter_eq_some_iff.mp hwriter).1, rfl⟩
  · rename_i hnone
    have hother : ∀ writer, tracer.writer = some writer → number ≠ writer.number := by
      rintro writer hwriter rfl
      rw [hwriter] at hnone
      simp at hnone
    split
    · rename_i writer hwriter
      exact .inr (.inl ⟨writer, (Option.filter_eq_some_iff.mp hwriter).1, rfl⟩)
    · exact .inr (.inr ⟨rfl, hother⟩)

/-- A thread that has read a number of no writer of the tracer does not see it. -/
theorem not_sees {tracer : Tracer} {collector : Collector} {number : Nat}
    (hnumber : collector.number = some number)
    (hother : ∀ writer, tracer.writer = some writer → number ≠ writer.number) :
    ¬ collector.Sees tracer := by
  rintro ⟨writer, hwriter, hsame⟩
  exact hother writer hwriter (hsame number hnumber)

/-- A step of a thread that traces is one of these. -/
theorem stepped_of_advanceCollector {system system' : TracerSystem} {action : Action}
    (h : system.advanceCollector action = some system') :
    Stepped files system system' action := by
  unfold advanceCollector at h
  split at h
  -- `StartCollecting`: a collector is added, or none where the level is too high.
  case h_1 traceLevel =>
    cases h
    refine .collected system.tracer.index rfl
      ⟨fun hall collector hmem hinside => ?_, fun _ => ?_⟩ rfl
    · rcases List.mem_append.mp hmem with hmem | hmem
      · exact hall collector hmem hinside
      · split at hmem
        · obtain rfl := List.mem_singleton.mp hmem
          cases hinside
        · cases hmem
    · dsimp only
      rw [List.countP_append]
      split <;> exact Nat.le_refl _
  -- The message is created and filled.
  case h_2 collector now thread =>
    split at h
    · rename_i traceLevel hcollector
      cases h
      exact .collected _ rfl
        (.of_set hcollector rfl (fun h => by cases h) fun _ h => by cases h) rfl
    · cases h
  case h_3 collector data =>
    split at h
    · rename_i message hcollector
      cases h
      exact .collected _ rfl
        (.of_set hcollector rfl (fun h => by cases h) fun _ h => by cases h) rfl
    · cases h
  -- `Trace` looks at the pointer: without a writer the thread leaves.
  case h_4 collector =>
    split at h
    · rename_i message hcollector
      cases h
      refine .collected _ rfl ?_ rfl
      cases hwriter : system.tracer.writer with
      | none => exact .of_eraseIdx rfl
      | some writer =>
        refine .of_set hcollector rfl (fun _ _ => ⟨writer, hwriter, fun _ h => by cases h⟩)
          fun _ h => by cases h
    · cases h
  -- The pointer is read again, and may be null by now.
  case h_5 collector =>
    split at h
    · rename_i message hcollector
      split at h
      · rename_i writer hwriter
        cases h
        refine .collected _ rfl (.of_set hcollector rfl (fun _ _ => ⟨writer, hwriter, ?_⟩)
          fun hnone => ?_) rfl
        · rintro _ ⟨⟩
          rfl
        · cases hnone.symm.trans hwriter
      · rename_i hnone
        cases h
        refine .broken rfl (List.mem_of_getElem? hcollector) rfl ?_ rfl
        rintro ⟨writer, hwriter, -⟩
        cases hnone.symm.trans hwriter
    · cases h
  -- `Queue` on the writer that was read: the current one, one in its destructor, or a freed one.
  case h_6 collector =>
    split at h
    · rename_i message number hcollector
      dsimp only at h
      rcases locate_cases number system.tracer with ⟨writer, hwriter, hlocate⟩ |
        ⟨writer, hclosing, hlocate⟩ | ⟨hlocate, hother⟩
      · rw [hlocate] at h
        obtain ⟨⟨writer', events⟩, haccepted, rfl⟩ := Option.map_eq_some_iff.mp h
        exact .current rfl hwriter (.queued haccepted)
          (.of_set hcollector rfl (fun _ hsees => hsees rfl) fun _ h => by cases h) rfl
      · rw [hlocate] at h
        obtain ⟨⟨writer', events⟩, haccepted, rfl⟩ := Option.map_eq_some_iff.mp h
        exact .queued hclosing hcollector haccepted rfl
      · rw [hlocate] at h
        cases h
        exact .broken rfl (List.mem_of_getElem? hcollector) rfl (not_sees rfl hother) rfl
    · cases h
  -- `Queue` notifies behind its lock, on the same writer.
  case h_7 collector =>
    split at h
    · rename_i number hcollector
      dsimp only at h
      rcases locate_cases number system.tracer with ⟨writer, hwriter, hlocate⟩ |
        ⟨writer, hclosing, hlocate⟩ | ⟨hlocate, hother⟩
      · rw [hlocate] at h
        cases h
        exact .current rfl hwriter .notified (.of_eraseIdx rfl) rfl
      · rw [hlocate] at h
        cases h
        exact .woken rfl hclosing (.of_eraseIdx rfl) rfl
      · rw [hlocate] at h
        cases h
        exact .broken rfl (List.mem_of_getElem? hcollector) rfl (not_sees rfl hother) rfl
    · cases h
  case h_8 => cases h

/-- A call of `SetSettings` is one of these. -/
theorem stepped_of_callSetSettings {system system' : TracerSystem} {now : Nat}
    {settings : TracerSettings} (h : system.callSetSettings files now settings = some system') :
    Stepped files system system' (.setSettings now settings) := by
  unfold callSetSettings at h
  split at h
  · rename_i houtside
    cases h
    exact .settings houtside rfl
  · cases h

/-- The pointer that is set is one of these. -/
theorem stepped_of_assignWriter {system system' : TracerSystem} {early : Option UInt32}
    (h : system.assignWriter files early = some system') :
    Stepped files system system' (.assign early) := by
  unfold assignWriter at h
  split at h
  · rename_i now settings oldLevel hassigning
    cases h
    exact .assigned hassigning rfl
  · cases h

/-- The writer that is told to stop is one of these. -/
theorem stepped_of_stopWriter {system system' : TracerSystem}
    (h : system.stopWriter = some system') : Stepped files system system' .stop := by
  unfold stopWriter at h
  split at h
  · rename_i writer hstopping hclosing
    cases h
    exact .stopped hstopping hclosing rfl
  · cases h

/-- The notification of the destructor is one of these. -/
theorem stepped_of_notifyWriter {system system' : TracerSystem}
    (h : system.notifyWriter = some system') : Stepped files system system' .notifyStop := by
  unfold notifyWriter at h
  split at h
  · rename_i writer hnotifying hclosing
    cases h
    exact .notified hnotifying hclosing rfl
  · cases h

/-- The end of the destructor is one of these. -/
theorem stepped_of_joinWriter {system system' : TracerSystem}
    (h : system.joinWriter = some system') : Stepped files system system' .join := by
  unfold joinWriter at h
  split at h
  · rename_i writer hjoining hclosing
    split at h
    · rename_i hended
      cases h
      exact .joined hjoining hclosing hended rfl
    · cases h
  · cases h

/-- A step of the thread of a writer is one of these. -/
theorem stepped_of_advanceWorker {system system' : TracerSystem} {action : Action}
    (h : system.advanceWorker files action = some system') :
    Stepped files system system' action := by
  unfold advanceWorker at h
  split at h
  case h_1 =>
    obtain ⟨writer, hwriter, rfl⟩ := Option.map_eq_some_iff.mp h
    exact .current rfl hwriter .notified (.of_eq rfl) rfl
  case h_2 =>
    obtain ⟨writer, hclosing, rfl⟩ := Option.map_eq_some_iff.mp h
    exact .woken rfl hclosing (.of_eq rfl) rfl
  case h_3 timedOut =>
    obtain ⟨writer, hwriter, hran⟩ := Option.bind_eq_some_iff.mp h
    obtain ⟨⟨writer', events⟩, hmade, hresult⟩ := Option.bind_eq_some_iff.mp hran
    cases hresult
    exact .current rfl hwriter (.ran hmade) (.of_eq rfl) rfl
  case h_4 timedOut =>
    obtain ⟨writer, hclosing, hran⟩ := Option.bind_eq_some_iff.mp h
    obtain ⟨⟨writer', events⟩, hmade, hresult⟩ := Option.bind_eq_some_iff.mp hran
    cases hresult
    exact .ran hclosing hmade rfl
  case h_5 => cases h

/-- Each step is one of these. -/
theorem stepped_of_advance {system system' : TracerSystem} {action : Action}
    (h : system.advance files action = some system') : Stepped files system system' action := by
  unfold advance at h
  split at h
  · cases h
  · split at h
    case h_1 | h_2 | h_3 | h_4 | h_5 | h_6 | h_7 => exact stepped_of_advanceCollector h
    case h_8 => exact stepped_of_callSetSettings h
    case h_9 => exact stepped_of_assignWriter h
    case h_10 => exact stepped_of_stopWriter h
    case h_11 => exact stepped_of_notifyWriter h
    case h_12 => exact stepped_of_joinWriter h
    case h_13 | h_14 | h_15 | h_16 => exact stepped_of_advanceWorker h

/-! ## Messages -/

/-- What is true of the writers at all times. -/
structure Consistent (system : TracerSystem) : Prop where
  accounted : queuedMessages system.events = writtenMessages system.events ++ system.pending
  working : ∀ writer, system.tracer.writer = some writer →
    writer.stop = false ∧ writer.worker ≠ .ended
  closing : ∀ writer, system.tracer.closing = some writer →
    (system.tracer.point = .stopping ∧ writer.stop = false ∧ writer.worker ≠ .ended) ∨
      ((system.tracer.point = .notifying ∨ system.tracer.point = .joining) ∧ writer.stop = true)
  /-- While a writer is destroyed, there is no other one. -/
  alone : system.tracer.closing.isSome → system.tracer.writer = none
  tracing : system.tracer.writer = none ↔ system.tracer.writerLevel = .disabled

/-- No writer is destroyed before and behind the destructor. -/
theorem Consistent.closing_eq_none {system : TracerSystem} (h : Consistent system)
    (hstopping : system.tracer.point ≠ .stopping) (hnotifying : system.tracer.point ≠ .notifying)
    (hjoining : system.tracer.point ≠ .joining) : system.tracer.closing = none := by
  cases hclosing : system.tracer.closing with
  | none => rfl
  | some writer =>
    rcases h.closing writer hclosing with ⟨hpoint, -⟩ | ⟨hpoint | hpoint, -⟩
    · exact absurd hpoint hstopping
    · exact absurd hpoint hnotifying
    · exact absurd hpoint hjoining

/-- While there is a writer, none is destroyed. -/
theorem Consistent.closing_eq_none_of_writer {system : TracerSystem} (h : Consistent system)
    {writer : TraceWriter} (hwriter : system.tracer.writer = some writer) :
    system.tracer.closing = none := by
  rw [← Option.not_isSome_iff_eq_none]
  intro hsome
  cases (h.alone hsome).symm.trans hwriter

/-- The writer accounts for its messages. -/
theorem Consistent.writer_changed {system : TracerSystem} (h : Consistent system)
    {writer writer' : TraceWriter} {events : List Event}
    (hwriter : system.tracer.writer = some writer) (haccounts : writer.Accounts writer' events) :
    Consistent (system.setWriter writer' events) := by
  have hfree := h.closing_eq_none_of_writer hwriter
  obtain ⟨hgoes, hrunning⟩ := h.working writer hwriter
  refine ⟨?_, ?_, h.closing, ?_, ?_⟩
  · -- What was pending and what came in is written or pending.
    have haccounted := h.accounted
    rw [pending, hfree, hwriter] at haccounted
    rw [pending, setWriter, queuedMessages_append, writtenMessages_append, haccounted, hfree]
    simp [pendingOf, haccounts.messages]
  · intro new hnew
    obtain rfl := Option.some.inj hnew
    -- A thread that is not told to stop does not end.
    refine ⟨haccounts.stop.trans hgoes, fun hended => ?_⟩
    rcases haccounts.ends hended with hended | hstop
    · exact hrunning hended
    · cases hgoes.symm.trans hstop
  · intro hsome
    rw [setWriter, hfree] at hsome
    cases hsome
  · refine iff_of_false (Option.some_ne_none writer') fun hoff => ?_
    cases (h.tracing.mpr hoff).symm.trans hwriter

/-- So does the writer that is destroyed. -/
theorem Consistent.closing_changed {system : TracerSystem} (h : Consistent system)
    {writer writer' : TraceWriter} {events : List Event}
    (hclosing : system.tracer.closing = some writer)
    (haccounts : writer.Accounts writer' events) :
    Consistent (system.setClosing writer' events) := by
  have hnone := h.alone (by rw [hclosing]; rfl)
  refine ⟨?_, h.working, ?_, fun _ => hnone, h.tracing⟩
  · have haccounted := h.accounted
    rw [pending, hclosing, hnone] at haccounted
    rw [pending, setClosing, queuedMessages_append, writtenMessages_append, haccounted, hnone]
    simp [pendingOf, haccounts.messages]
  · intro new hnew
    obtain rfl := Option.some.inj hnew
    rcases h.closing writer hclosing with ⟨hpoint, hgoes, hrunning⟩ | ⟨hpoint, hstop⟩
    · refine .inl ⟨hpoint, haccounts.stop.trans hgoes, fun hended => ?_⟩
      rcases haccounts.ends hended with hended | hstop
      · exact hrunning hended
      · cases hgoes.symm.trans hstop
    · exact .inr ⟨hpoint, haccounts.stop.trans hstop⟩

/-- `SetSettings` gives settings to the writer, if there is one. -/
theorem setSettings_cases (files : Files) (now : Nat) (settings : TracerSettings)
    (tracer : Tracer) :
    (tracer.writer = none ∧ tracer.setSettings files now settings =
      ({ tracer with
        point := .assigning now settings tracer.maxTraceLevel
        maxTraceLevel := settings.traceLevel.getD tracer.maxTraceLevel }, [])) ∨
    (∃ writer, tracer.writer = some writer ∧ tracer.setSettings files now settings =
      ({ tracer with
        writer := some (writer.setSettings files now settings).1
        point := .assigning now settings tracer.maxTraceLevel
        maxTraceLevel := settings.traceLevel.getD tracer.maxTraceLevel },
        (writer.setSettings files now settings).2)) := by
  rcases tracer with ⟨_ | writer, closing, point, created, maxTraceLevel, index⟩
  · exact .inl ⟨rfl, rfl⟩
  · exact .inr ⟨writer, rfl, rfl⟩

/-- The level is disabled if and only if tracing is off. -/
theorem isTracing_eq_false_iff {tracer : Tracer} :
    tracer.isTracing = false ↔ tracer.maxTraceLevel = .disabled := by
  unfold Tracer.isTracing
  cases tracer.maxTraceLevel <;> decide

/-- `SetSettings` destroys the writer, starts one where there is none, or leaves it. -/
theorem Consistent.assign_cases {system : TracerSystem} (h : Consistent system) (files : Files)
    {now : Nat} {settings : TracerSettings} {oldLevel : TraceLevel} (early : Option UInt32)
    (hassigning : system.tracer.point = .assigning now settings oldLevel) :
    (system.tracer.maxTraceLevel = .disabled ∧
      system.tracer.assign files now settings oldLevel early =
        ({ system.tracer with
          writer := none
          closing := system.tracer.writer
          point := if system.tracer.writer.isSome then .stopping else .outside }, [])) ∨
    (system.tracer.maxTraceLevel ≠ .disabled ∧ oldLevel = .disabled ∧
      system.tracer.writer = none ∧
      system.tracer.assign files now settings oldLevel early =
        ({ system.tracer with
          writer := some
            (TraceWriter.create files system.tracer.created now early settings).1
          closing := none
          point := .outside
          created := system.tracer.created + 1 },
        (TraceWriter.create files system.tracer.created now early settings).2)) ∨
    (system.tracer.maxTraceLevel ≠ .disabled ∧ oldLevel ≠ .disabled ∧
      system.tracer.assign files now settings oldLevel early =
        ({ system.tracer with point := .outside }, [])) := by
  have htracing := h.tracing
  rw [Tracer.writerLevel, hassigning] at htracing
  unfold Tracer.assign
  by_cases hoff : system.tracer.maxTraceLevel = .disabled
  · rw [if_pos (by rw [isTracing_eq_false_iff.mpr hoff]; decide)]
    exact .inl ⟨hoff, rfl⟩
  · have hon : ¬ ¬ system.tracer.isTracing = true := by
      rw [Bool.not_eq_true, isTracing_eq_false_iff]
      exact hoff
    rw [if_neg hon]
    by_cases hold : oldLevel = .disabled
    · have hnone := htracing.mpr hold
      refine .inr (.inl ⟨hoff, hold, hnone, ?_⟩)
      rw [if_pos hold]
      dsimp only [Tracer.replaceWriter]
      rw [hnone]
      rfl
    · rw [if_neg hold]
      exact .inr (.inr ⟨hoff, hold, rfl⟩)

/-- A writer that was made has no message. -/
theorem create_onlyFiles (files : Files) (number now : Nat) (early : Option UInt32)
    (settings : TracerSettings) :
    TraceWriter.OnlyFiles { number, worker := early.elim .idle .checking }
      (TraceWriter.create files number now early settings).1
      (TraceWriter.create files number now early settings).2 :=
  TraceWriter.onlyFiles_setSettings ..

/-- New settings leave the messages. -/
theorem Consistent.settings {system : TracerSystem} (h : Consistent system) (files : Files)
    (now : Nat) (settings : TracerSettings) (houtside : system.tracer.point = .outside) :
    Consistent { system with
      tracer := (system.tracer.setSettings files now settings).1
      events := system.events ++ (system.tracer.setSettings files now settings).2 } := by
  have hfree := h.closing_eq_none (by simp [houtside]) (by simp [houtside]) (by simp [houtside])
  have htracing := h.tracing
  rw [Tracer.writerLevel, houtside] at htracing
  -- Outside of `SetSettings` no writer is in its destructor.
  have hdestroyed : ∀ writer, system.tracer.closing = some writer → False := by
    intro writer hclosing
    cases hfree.symm.trans hclosing
  rcases setSettings_cases files now settings system.tracer with
    ⟨hnone, hsettings⟩ | ⟨writer, hwriter, hsettings⟩ <;> rw [hsettings]
  · refine ⟨?_, h.working, fun new hnew => (hdestroyed new hnew).elim, h.alone, htracing⟩
    rw [List.append_nil]
    exact h.accounted
  · have haccounts := (TraceWriter.onlyFiles_setSettings files now settings writer).accounts
    obtain ⟨haccounted, hworking, -, halone, -⟩ := h.writer_changed hwriter haccounts
    refine ⟨haccounted, hworking, fun new hnew => (hdestroyed new hnew).elim, halone, ?_⟩
    refine iff_of_false (Option.some_ne_none _) fun hoff => ?_
    cases (htracing.mpr hoff).symm.trans hwriter

/-- Destroying a writer or making one leaves the messages. -/
theorem Consistent.assign {system : TracerSystem} (h : Consistent system) (files : Files)
    {now : Nat} {settings : TracerSettings} {oldLevel : TraceLevel} (early : Option UInt32)
    (hassigning : system.tracer.point = .assigning now settings oldLevel) :
    Consistent { system with
      tracer := (system.tracer.assign files now settings oldLevel early).1
      events := system.events ++
        (system.tracer.assign files now settings oldLevel early).2 } := by
  have hfree := h.closing_eq_none (by simp [hassigning]) (by simp [hassigning])
    (by simp [hassigning])
  have haccounted := h.accounted
  rw [pending, hfree] at haccounted
  have htracing := h.tracing
  rw [Tracer.writerLevel, hassigning] at htracing
  rcases h.assign_cases files early hassigning with ⟨hoff, hassign⟩ |
    ⟨hon, hwasOff, hnone, hassign⟩ | ⟨hon, hwasOn, hassign⟩ <;> rw [hassign]
  · -- The writer is destroyed with the messages that it has.
    refine ⟨?_, fun new hnew => ?_, fun new hnew => .inl ?_, fun _ => rfl, ?_⟩
    · rw [List.append_nil]
      simpa [pending, pendingOf] using haccounted
    · cases hnew
    · have hwriter : system.tracer.writer = some new := hnew
      refine ⟨?_, h.working new hwriter⟩
      dsimp only
      rw [hwriter]
      rfl
    · refine iff_of_true rfl ?_
      dsimp only [Tracer.writerLevel]
      split
      · rename_i hpoint
        split at hpoint <;> cases hpoint
      · exact hoff
  · -- There was no writer, and the new one has no message.
    have hcreated := create_onlyFiles files system.tracer.created now early settings
    have hrunning : (TraceWriter.create files system.tracer.created now early settings).1.worker ≠
        .ended := by
      rw [hcreated.worker]
      cases early <;> exact Worker.noConfusion
    refine ⟨?_, fun new hnew => ?_, fun new hnew => ?_, fun hsome => ?_, ?_⟩
    · rw [hnone] at haccounted
      rw [queuedMessages_append, writtenMessages_append, hcreated.queued, hcreated.written,
        List.append_nil, List.append_nil, haccounted]
      simp only [pending, pendingOf]
      rw [TraceWriter.pending_of_ne_ended hrunning, hcreated.worker, hcreated.messagesQueue]
      cases early <;> rfl
    · obtain rfl := Option.some.inj hnew
      exact ⟨hcreated.stop, hrunning⟩
    · cases hnew
    · cases hsome
    · exact iff_of_false (Option.some_ne_none _) hon
  · -- Tracing goes on.
    refine ⟨?_, h.working, fun new hnew => ?_, h.alone, ?_⟩
    · rw [List.append_nil]
      exact h.accounted
    · cases hfree.symm.trans hnew
    · exact iff_of_false (fun hnone => hwasOn (htracing.mp hnone)) hon

/-- Every step keeps this. -/
theorem Consistent.stepped {system system' : TracerSystem} {action : Action}
    (h : Consistent system) (hstep : Stepped files system system' action) :
    Consistent system' := by
  cases hstep with
  | collected index hother hinside hresult =>
    rw [hresult]
    exact ⟨h.accounted, h.working, h.closing, h.alone, h.tracing⟩
  | broken hother hmem hinside hunseen hresult =>
    rw [hresult]
    exact ⟨h.accounted, h.working, h.closing, h.alone, h.tracing⟩
  | current hother hwriting hchange hinside hresult =>
    obtain ⟨haccounted, hworking, hclosing, halone, htracing⟩ :=
      h.writer_changed hwriting hchange.accounts
    rw [hresult]
    exact ⟨haccounted, hworking, hclosing, halone, htracing⟩
  | queued hclosing hhanding haccepted hresult =>
    obtain ⟨haccounted, hworking, hclosing, halone, htracing⟩ :=
      h.closing_changed hclosing (TraceWriter.queue_accounts haccepted)
    rw [hresult]
    exact ⟨haccounted, hworking, hclosing, halone, htracing⟩
  | woken hother hclosing hinside hresult =>
    obtain ⟨haccounted, hworking, hclosing, halone, htracing⟩ :=
      h.closing_changed hclosing (TraceWriter.notifyAll_accounts _)
    rw [hresult]
    exact ⟨haccounted, hworking, hclosing, halone, htracing⟩
  | ran hclosing hmade hresult =>
    rw [hresult]
    exact h.closing_changed hclosing (TraceWriter.runStep_accounts hmade)
  | settings houtside hresult =>
    rw [hresult]
    exact h.settings files _ _ houtside
  | assigned hassigning hresult =>
    rw [hresult]
    exact h.assign files _ hassigning
  | @stopped writer hstopping hclosing hresult =>
    -- Only `m_stop` changes.
    subst hresult
    have haccounted := h.accounted
    have htracing := h.tracing
    rw [pending, hclosing] at haccounted
    rw [Tracer.writerLevel, hstopping] at htracing
    refine ⟨haccounted, h.working, fun new hnew => .inr ⟨.inl rfl, ?_⟩, fun _ => ?_, htracing⟩
    · obtain rfl := Option.some.inj hnew
      rfl
    · exact h.alone (by rw [hclosing]; rfl)
  | @notified writer hnotifying hclosing hresult =>
    subst hresult
    have haccounts := writer.notifyAll_accounts
    obtain ⟨haccounted, hworking, hkept, halone, -⟩ := h.closing_changed hclosing haccounts
    have htracing := h.tracing
    rw [Tracer.writerLevel, hnotifying] at htracing
    refine ⟨?_, hworking, fun new hnew => .inr ⟨.inr rfl, ?_⟩, halone, htracing⟩
    · rw [setClosing, List.append_nil] at haccounted
      exact haccounted
    · rcases hkept new hnew with ⟨hpoint, -⟩ | ⟨-, hstop⟩
      · cases hnotifying.symm.trans hpoint
      · exact hstop
  | @joined writer hjoining hclosing hended hresult =>
    -- The thread has ended, so that nothing is pending at the writer that goes.
    subst hresult
    have haccounted := h.accounted
    have htracing := h.tracing
    rw [pending, hclosing, pendingOf, TraceWriter.pending, if_pos hended] at haccounted
    rw [Tracer.writerLevel, hjoining] at htracing
    refine ⟨haccounted, h.working, fun new hnew => ?_, fun hsome => ?_, htracing⟩
    · cases hnew
    · cases hsome

/-- This is true at all times. -/
theorem consistent_of_reachable {system : TracerSystem}
    (h : Reachable files condition system) : Consistent system := by
  induction h with
  | init =>
    refine ⟨rfl, fun _ hnew => ?_, fun _ hnew => ?_, fun hsome => ?_, iff_of_true rfl rfl⟩
    · cases hnew
    · cases hnew
    · cases hsome
  | step before met made ih => exact ih.stepped (stepped_of_advance made)

/-! ## Messages that come too late -/

/-- Nobody is in `Trace` while the pointer is set to null. -/
def Quiet (system : TracerSystem) : Action → Prop
  | .assign _ => system.tracer.maxTraceLevel = .disabled →
    ∀ collector ∈ system.collectors, collector.inTrace = false
  | _ => True

instance (system : TracerSystem) (action : Action) : Decidable (Quiet system action) := by
  cases action <;> unfold Quiet <;> infer_instance

/-- Whoever is in `Trace` sees the writer of the tracer, and no message came too late. -/
structure Settled (system : TracerSystem) : Prop where
  sees : ∀ collector ∈ system.collectors, collector.inTrace = true →
    collector.Sees system.tracer
  late : lateMessages system.events = []
  defined : system.undefined = false

/-- A step keeps this if nobody is in `Trace` while the pointer is set to null. -/
theorem Settled.stepped {system system' : TracerSystem} {action : Action} (h : Settled system)
    (hconsistent : Consistent system) (hquiet : Quiet system action)
    (hstep : Stepped files system system' action) : Settled system' := by
  have hlate : ∀ events, lateMessages events = [] →
      lateMessages (system.events ++ events) = [] := by
    intro events hevents
    rw [lateMessages_append, h.late, hevents]
    rfl
  -- The pointer of the tracer is set to a writer of the same number.
  have hsame : ∀ collectors : List Collector, ∀ tracer : Tracer, ∀ writer writer' : TraceWriter,
      system.tracer.writer = some writer → tracer.writer = some writer' →
        writer'.number = writer.number →
        (∀ collector ∈ collectors, collector.inTrace = true → collector.Sees system.tracer) →
        ∀ collector ∈ collectors, collector.inTrace = true → collector.Sees tracer := by
    intro collectors tracer writer writer' hwriter hwriter' hnumber hsees collector hmem hinside
    obtain ⟨seen, hseen, hread⟩ := hsees collector hmem hinside
    obtain rfl := Option.some.inj (hwriter.symm.trans hseen)
    exact ⟨writer', hwriter', fun number hnum => (hread number hnum).trans hnumber.symm⟩
  cases hstep with
  | collected index hother hinside hresult =>
    rw [hresult]
    exact ⟨hinside.sees h.sees, h.late, h.defined⟩
  | broken hother hmem hinside hunseen hresult => exact absurd (h.sees _ hmem hinside) hunseen
  | current hother hwriting hchange hinside hresult =>
    have haccounts := hchange.accounts
    rw [hresult]
    refine ⟨hsame _ _ _ _ hwriting rfl haccounts.number (hinside.sees h.sees), ?_, h.defined⟩
    exact hlate _ (haccounts.late (hconsistent.working _ hwriting).2)
  | queued hclosing hhanding haccepted hresult =>
    -- Whoever is in `Queue` of a writer that is destroyed does not see it.
    obtain ⟨seen, hseen, -⟩ := h.sees _ (List.mem_of_getElem? hhanding) rfl
    cases hseen.symm.trans (hconsistent.alone (by rw [hclosing]; rfl))
  | woken hother hclosing hinside hresult =>
    rw [hresult]
    exact ⟨hinside.sees h.sees, hlate [] rfl, h.defined⟩
  | ran hclosing hmade hresult =>
    rw [hresult]
    refine ⟨h.sees, hlate _ ?_, h.defined⟩
    exact (TraceWriter.runStep_accounts hmade).late (TraceWriter.worker_ne_ended_of_runStep hmade)
  | @settings now settings houtside hresult =>
    rw [hresult]
    rcases setSettings_cases files now settings system.tracer with
      ⟨hnone, hsettings⟩ | ⟨writer, hwriter, hsettings⟩ <;> rw [hsettings]
    · exact ⟨h.sees, hlate [] rfl, h.defined⟩
    · have hfiles := TraceWriter.onlyFiles_setSettings files now settings writer
      exact ⟨hsame _ _ _ _ hwriter rfl hfiles.number h.sees, hlate _ hfiles.late, h.defined⟩
  | @assigned now settings oldLevel early hassigning hresult =>
    rw [hresult]
    rcases hconsistent.assign_cases files early hassigning with ⟨hoff, hassign⟩ |
      ⟨hon, hwasOff, hnone, hassign⟩ | ⟨hon, hwasOn, hassign⟩ <;> rw [hassign]
    · -- The pointer is set to null: this is where nobody may be in `Trace`.
      refine ⟨fun collector hmem hinside => ?_, hlate [] rfl, h.defined⟩
      cases (hquiet hoff collector hmem).symm.trans hinside
    · -- It was null, so that nobody who is in `Trace` saw a writer.
      refine ⟨fun collector hmem hinside => ?_, hlate _ ?_, h.defined⟩
      · obtain ⟨seen, hseen, -⟩ := h.sees collector hmem hinside
        cases hnone.symm.trans hseen
      · exact (create_onlyFiles files system.tracer.created now early settings).late
    · exact ⟨h.sees, hlate [] rfl, h.defined⟩
  | stopped hstopping hclosing hresult =>
    rw [hresult]
    exact ⟨h.sees, h.late, h.defined⟩
  | notified hnotifying hclosing hresult =>
    rw [hresult]
    exact ⟨h.sees, h.late, h.defined⟩
  | joined hjoining hclosing hended hresult =>
    rw [hresult]
    exact ⟨h.sees, h.late, h.defined⟩

/-- This is true at all times if nobody ever is in `Trace` while the pointer is set to null. -/
theorem settled_of_reachable {system : TracerSystem}
    (hquiet : ∀ system action, condition system action → Quiet system action)
    (h : Reachable files condition system) : Settled system := by
  induction h with
  | init =>
    refine ⟨fun collector hmem => ?_, rfl, rfl⟩
    cases hmem
  | step before met made ih =>
    exact ih.stepped (consistent_of_reachable before) (hquiet _ _ met) (stepped_of_advance made)

/-- At all times, the messages that were written are the first ones of those that were accepted
while the threads of their writers ran, in the order of acceptance, and each once. When tracing was
turned off and `SetSettings` has returned, they are all of them. No message was accepted too late,
and no null pointer and no writer that is freed was used, if nobody was in `Trace` while the pointer
was set to null. -/
theorem accounted_of_reachable {system : TracerSystem} (h : Reachable files condition system) :
    queuedMessages system.events = writtenMessages system.events ++ system.pending ∧
      (system.tracer.maxTraceLevel = .disabled → system.tracer.point = .outside →
        queuedMessages system.events = writtenMessages system.events) ∧
      ((∀ system action, condition system action → Quiet system action) →
        lateMessages system.events = [] ∧ system.undefined = false) := by
  have hconsistent := consistent_of_reachable h
  refine ⟨hconsistent.accounted, fun hoff houtside => ?_, fun hquiet => ?_⟩
  · have haccounted := hconsistent.accounted
    have htracing := hconsistent.tracing
    rw [Tracer.writerLevel, houtside] at htracing
    rw [pending, htracing.mpr hoff, hconsistent.closing_eq_none (by simp [houtside])
      (by simp [houtside]) (by simp [houtside])] at haccounted
    simpa [pendingOf] using haccounted
  · have hsettled := settled_of_reachable hquiet h
    exact ⟨hsettled.late, hsettled.defined⟩

/-- Files that can be opened in one folder, which is the current one. -/
def usualFiles : Files where
  canOpen path := path.rootDirectory && !path.trailing && path.filenames.dropLast = ["was"] &&
    path.filename ∉ [".", ".."]
  currentPath := LexicalPath.ofString "/was"

/-- Tracing is turned on, one thread hands its message over, another one is in `Trace`, and a third
one has begun. -/
def tracing : List Action :=
  [.setSettings 0 { traceLevel := some .info, traceFolder := some "logs" }, .assign none,
    .runWriter false, .runWriter false, .runWriter false,
    .startCollecting .info, .create 0 0 "1", .addMessage 0 "Started", .startCollecting .debug,
    .startCollecting .error, .create 1 0 "2", .startCollecting .warning,
    .trace 0, .dereference 0, .queue 0, .notify 0, .trace 0, .dereference 0]

/-- Tracing is turned off, and `SetSettings` waits for the thread of the writer. -/
def turningOff : List Action :=
  [.setSettings 1 { traceLevel := some .disabled }, .assign none, .stop, .notifyStop]

/-- The second thread has handed its message over before tracing is turned off, and the message of
the third one is dropped. -/
def tracedInTime : List Action :=
  tracing ++ [.queue 0, .notify 0] ++ turningOff ++ List.replicate 6 (.runClosing false) ++
    [.join, .create 0 2 "3", .trace 0]

/-- The second thread is in `Trace` while tracing is turned off, and the thread of the writer has
ended before the message comes. -/
def tracedLate : List Action :=
  tracing ++ turningOff ++ List.replicate 5 (.runClosing false) ++ [.queue 0, .notify 0, .join]

/-- In the first run both messages are written. In the second one the later of them is lost. -/
theorem accounted_of_reachable_tracedInTime :
    ∃ inTime late, TracerSystem.run usualFiles tracedInTime {} = some inTime ∧
      TracerSystem.run usualFiles tracedLate {} = some late ∧
      (queuedMessages inTime.events = writtenMessages inTime.events ∧
        (writtenMessages inTime.events).length = 2 ∧
        lateMessages inTime.events = [] ∧ inTime.undefined = false) ∧
      queuedMessages late.events = writtenMessages late.events ∧
      (writtenMessages late.events).length = 1 ∧ (lateMessages late.events).length = 1 := by
  obtain ⟨inTime, hinTime, hends⟩ := Option.map_eq_some_iff.mp (by decide +kernel :
    (TracerSystem.run usualFiles tracedInTime {}).map (fun system =>
      (system.tracer.maxTraceLevel, system.tracer.point,
        (writtenMessages system.events).length)) = some (.disabled, .outside, 2))
  obtain ⟨late, hlate, hlateEnds⟩ := Option.map_eq_some_iff.mp (by decide +kernel :
    (TracerSystem.run usualFiles tracedLate {}).map (fun system =>
      (system.tracer.maxTraceLevel, system.tracer.point, (writtenMessages system.events).length,
        (lateMessages system.events).length)) = some (.disabled, .outside, 1, 1))
  simp only [Prod.mk.injEq] at hends hlateEnds
  have hquiet : Reachable usualFiles Quiet inTime := .run .init (by decide +kernel) hinTime
  have hany : Reachable usualFiles (fun _ _ => True) late :=
    .run .init (by decide +kernel) hlate
  obtain ⟨-, hall, hsettled⟩ := accounted_of_reachable hquiet
  obtain ⟨-, hallLate, -⟩ := accounted_of_reachable hany
  refine ⟨inTime, late, hinTime, hlate, ⟨hall hends.1 hends.2.1, hends.2.2, ?_⟩,
    hallLate hlateEnds.1 hlateEnds.2.1, hlateEnds.2.2⟩
  exact hsettled fun _ _ h => h

/-! ## Turning tracing off -/

/-- While `SetSettings` waits for the thread of a writer, no step gives the thread more to do,
unless a message comes in, and those of the thread give it less. -/
theorem Stepped.closing_of_joining {system system' : TracerSystem} {action : Action}
    (hstep : Stepped files system system' action) (hconsistent : Consistent system)
    {writer : TraceWriter} (hjoining : system.tracer.point = .joining)
    (hclosing : system.tracer.closing = some writer) (hjoin : action ≠ .join) :
    ∃ writer', system'.tracer.point = .joining ∧ system'.tracer.closing = some writer' ∧
      (if action.isRunClosing then 1 else 0) + writer'.work +
        5 * system'.collectors.countP Collector.isQueueing ≤
          writer.work + 5 * system.collectors.countP Collector.isQueueing ∧
      (writer.worker.mayBlock = false → writer'.worker.mayBlock = false) := by
  have hnone := hconsistent.alone (by rw [hclosing]; rfl)
  have hstop : writer.stop = true := by
    rcases hconsistent.closing writer hclosing with ⟨hpoint, -⟩ | ⟨-, hstop⟩
    · cases hjoining.symm.trans hpoint
    · exact hstop
  -- No thread comes to a queue, and the writer has nothing more to do.
  have hkept : ∀ writer' : TraceWriter, action.isRunClosing = false → InsideKept system system' →
      writer'.work = writer.work →
        (if action.isRunClosing then 1 else 0) + writer'.work +
          5 * system'.collectors.countP Collector.isQueueing ≤
            writer.work + 5 * system.collectors.countP Collector.isQueueing := by
    intro writer' hother hinside hwork
    have hqueueing := hinside.queueing hnone
    rw [hother, hwork, if_neg Bool.false_ne_true]
    omega
  cases hstep with
  | collected index hother hinside hresult =>
    refine ⟨writer, ?_, ?_, hkept writer hother hinside rfl, fun h => h⟩ <;> rw [hresult]
    · exact hjoining
    · exact hclosing
  | broken hother hmem hinside hunseen hresult =>
    have hcollectors : system'.collectors = system.collectors := by rw [hresult]
    refine ⟨writer, ?_, ?_, hkept writer hother (.of_eq hcollectors) rfl, fun h => h⟩ <;>
      rw [hresult]
    · exact hjoining
    · exact hclosing
  | current hother hwriting => cases hnone.symm.trans hwriting
  | @queued collector number message old writer' events hold hhanding haccepted hresult =>
    obtain rfl := Option.some.inj (hclosing.symm.trans hold)
    subst hresult
    refine ⟨writer', hjoining, rfl, ?_, fun hawake => ?_⟩
    · -- One thread less is in `Queue`, which pays for the message.
      obtain ⟨hlt, hget⟩ := List.getElem?_eq_some_iff.mp hhanding
      have hpos : 0 < system.collectors.countP Collector.isQueueing :=
        List.countP_pos_iff.mpr ⟨_, hget ▸ List.getElem_mem hlt, rfl⟩
      have hwork := TraceWriter.work_queue_le haccepted
      have hcount : (system.collectors.set collector (.notifying number)).countP
          Collector.isQueueing = system.collectors.countP Collector.isQueueing - 1 := by
        rw [List.countP_set hlt, hget]
        rfl
      rw [hcount, show (Action.queue collector).isRunClosing = false from rfl,
        if_neg Bool.false_ne_true]
      omega
    · have hchanged : TraceWriter.Changed files _ _ _ := .queued haccepted
      exact hchanged.mayBlock_eq_false hstop hawake
  | @woken action hother old hold hinside hresult =>
    obtain rfl := Option.some.inj (hclosing.symm.trans hold)
    refine ⟨writer.notifyAll, ?_, ?_, hkept _ hother hinside writer.work_notifyAll,
      Worker.mayBlock_wake⟩ <;> rw [hresult]
    · exact hjoining
    · rfl
  | @ran timedOut old writer' events hold hmade hresult =>
    obtain rfl := Option.some.inj (hclosing.symm.trans hold)
    subst hresult
    have hgoing := TraceWriter.worker_ne_ended_of_runStep hmade
    obtain ⟨next, nextEvents, hnext, hless⟩ := TraceWriter.runStep_of_stop files hstop hgoing
      (TraceWriter.timedOut_of_runStep hmade)
    obtain ⟨rfl, rfl⟩ := Prod.mk.inj (Option.some.inj (hnext.symm.trans hmade))
    refine ⟨next, hjoining, rfl, ?_, (TraceWriter.Changed.ran hmade).mayBlock_eq_false hstop⟩
    -- The step itself is the one that is counted.
    rw [show (Action.runClosing timedOut).isRunClosing = true from rfl, if_pos rfl]
    dsimp only [setClosing]
    omega
  | settings houtside => cases hjoining.symm.trans houtside
  | assigned hassigning => cases hjoining.symm.trans hassigning
  | stopped hstopping => cases hjoining.symm.trans hstopping
  | notified hnotifying => cases hjoining.symm.trans hnotifying
  | joined => exact absurd rfl hjoin

/-- A thread that is told to stop can go on, at the latest when its time is over. -/
theorem advance_runClosing {system : TracerSystem} {writer : TraceWriter}
    (hdefined : system.undefined = false) (hclosing : system.tracer.closing = some writer)
    (hstop : writer.stop = true) (hgoing : writer.worker ≠ .ended) {timedOut : Bool}
    (hwakes : writer.worker.isBlocked = true → timedOut = true) :
    (system.advance files (.runClosing timedOut)).isSome = true := by
  obtain ⟨next, events, hnext, -⟩ := TraceWriter.runStep_of_stop files hstop hgoing hwakes
  simp [advance, advanceWorker, hdefined, hclosing, hnext]

/-- While `SetSettings` waits for the thread of a writer, other threads take any number of steps,
but the thread ends within a number of its own steps that is known from the beginning: each message
that still comes in gives it at most five more. It can go on at any time, unless it is blocked and
its time is not over, and it is never blocked if it has seen in time that it is told to stop. When
it ends, it has written all messages that were accepted until then, and `SetSettings` can return. -/
theorem closing_bounded {system system' : TracerSystem} {writer : TraceWriter}
    {actions : List Action} (h : Reachable files condition system)
    (hjoining : system.tracer.point = .joining) (hclosing : system.tracer.closing = some writer)
    (hrun : system.run files actions = some system') (hjoin : Action.join ∉ actions) :
    ∃ writer', system'.tracer.closing = some writer' ∧
      actions.countP Action.isRunClosing + writer'.work ≤
        writer.work + 5 * system.collectors.countP Collector.isQueueing ∧
      (writer.worker.mayBlock = false → writer'.worker.mayBlock = false) ∧
      (system'.undefined = false → writer'.worker ≠ .ended → ∀ timedOut,
        (writer'.worker.isBlocked = true → timedOut = true) →
          (system'.advance files (.runClosing timedOut)).isSome = true) ∧
      (writer'.worker = .ended →
        queuedMessages system'.events = writtenMessages system'.events ∧
          (system'.undefined = false → (system'.advance files .join).isSome = true)) := by
  have hconsistent := consistent_of_reachable h
  clear h
  induction actions generalizing system writer with
  | nil =>
    obtain rfl := Option.some.inj hrun
    have hstop : writer.stop = true := by
      rcases hconsistent.closing writer hclosing with ⟨hpoint, -⟩ | ⟨-, hstop⟩
      · cases hjoining.symm.trans hpoint
      · exact hstop
    refine ⟨writer, hclosing, ?_, fun h => h, fun hdefined hgoing timedOut hwakes => ?_,
      fun hended => ⟨?_, fun hdefined => ?_⟩⟩
    · rw [List.countP_nil]
      omega
    · exact advance_runClosing hdefined hclosing hstop hgoing hwakes
    · have hall := hconsistent.accounted
      rw [pending, hclosing, hconsistent.alone (by rw [hclosing]; rfl), pendingOf,
        TraceWriter.pending, if_pos hended] at hall
      simpa [pendingOf] using hall
    · simp [advance, joinWriter, hdefined, hjoining, hclosing, hended]
  | cons action actions ih =>
    obtain ⟨middle, hfirst, hrest⟩ := Option.bind_eq_some_iff.mp hrun
    rw [List.mem_cons, not_or] at hjoin
    have hstep := stepped_of_advance hfirst
    obtain ⟨between, hstill, hbetween, hwork, hawake⟩ :=
      hstep.closing_of_joining hconsistent hjoining hclosing (Ne.symm hjoin.1)
    obtain ⟨writer', hlast, hcount, hblocks, hends⟩ :=
      ih hstill hbetween hrest hjoin.2 (hconsistent.stepped hstep)
    refine ⟨writer', hlast, ?_, fun h => hblocks (hawake h), hends⟩
    rw [List.countP_cons]
    omega

/-- The message of the second thread comes while the thread of the writer still runs. -/
def closedBusily : List Action :=
  [.runClosing false, .runClosing false, .queue 0, .runClosing false, .notify 0] ++
    List.replicate 7 (.runClosing false)

/-- This takes ten steps of the thread, which is not blocked, and both messages are written. -/
theorem closing_bounded_closedBusily :
    ∃ system system' writer writer',
      TracerSystem.run usualFiles (tracing ++ turningOff) {} = some system ∧
      system.run usualFiles closedBusily = some system' ∧
      system.tracer.closing = some writer ∧ system'.tracer.closing = some writer' ∧
      10 + writer'.work ≤ writer.work + 5 ∧ writer'.worker.mayBlock = false ∧
      queuedMessages system'.events = writtenMessages system'.events ∧
      (system'.advance usualFiles .join).isSome = true := by
  obtain ⟨⟨system, system'⟩, hruns, hends⟩ := Option.map_eq_some_iff.mp (by decide +kernel :
    ((TracerSystem.run usualFiles (tracing ++ turningOff) {}).bind fun system =>
      (system.run usualFiles closedBusily).map fun system' => (system, system')).map
        (fun (system, system') =>
          (system.tracer.point, system.tracer.closing.map fun writer => writer.worker.mayBlock,
            system.collectors.countP Collector.isQueueing,
            system'.tracer.closing.map TraceWriter.worker, system'.undefined)) =
      some (.joining, some false, 1, some .ended, false))
  obtain ⟨_, hrun, hran⟩ := Option.bind_eq_some_iff.mp hruns
  obtain ⟨_, hrun', hsame⟩ := Option.map_eq_some_iff.mp hran
  obtain ⟨rfl, rfl⟩ := Prod.mk.inj hsame
  simp only [Prod.mk.injEq, Option.map_eq_some_iff] at hends
  obtain ⟨hjoining, ⟨writer, hclosing, hawake⟩, hqueueing, ⟨last, hlast, hended⟩, hdefined⟩ := hends
  have hreachable : Reachable usualFiles (fun _ _ => True) _ :=
    .run .init (by decide +kernel) hrun
  obtain ⟨writer', hclosing', hwork, hblocks, -, hover⟩ :=
    closing_bounded hreachable hjoining hclosing hrun' (by decide)
  obtain rfl := Option.some.inj (hlast.symm.trans hclosing')
  rw [hqueueing] at hwork
  exact ⟨_, _, writer, last, hrun, hrun', hclosing, hclosing', hwork, hblocks hawake,
    (hover hended).1, (hover hended).2 hdefined⟩

/-! ## Files -/

/-- The condition that messages get into files: a folder is named when tracing is turned on. The
condition that they do not: no folder is ever named. -/
def FolderNamed (filed : Bool) (system : TracerSystem) : Action → Prop
  | .setSettings _ settings =>
    (system.tracer.maxTraceLevel = .disabled → settings.traceLevel.getD .disabled ≠ .disabled →
      settings.traceFolder.isSome = filed) ∧
    (filed = true ∨ settings.traceFolder = none)
  | _ => True

instance (filed : Bool) (system : TracerSystem) (action : Action) :
    Decidable (FolderNamed filed system action) := by
  cases action <;> unfold FolderNamed <;> infer_instance

/-- The writers have files, or none of them does, and so it was for all messages. -/
structure AllFiled (filed : Bool) (system : TracerSystem) : Prop where
  writer : ∀ writer, system.tracer.writer = some writer → writer.Filed filed
  closing : ∀ writer, system.tracer.closing = some writer → writer.Filed filed
  /-- The next writer will have a file, or none. -/
  assigning : ∀ now settings, system.tracer.point = .assigning now settings .disabled →
    system.tracer.maxTraceLevel ≠ .disabled → settings.traceFolder.isSome = filed
  written : ∀ file ∈ writtenFiles system.events, file.isSome = filed

/-- A writer that has changed is the one of the tracer, or the one that is destroyed. -/
theorem filed_of_some {filed : Bool} {writer : TraceWriter} (h : writer.Filed filed) :
    ∀ new, some writer = some new → new.Filed filed := by
  intro new hnew
  obtain rfl := Option.some.inj hnew
  exact h

/-- The messages that were written before are not concerned. -/
theorem AllFiled.written_append {filed : Bool} {system : TracerSystem} (h : AllFiled filed system)
    {events : List Event} (hevents : ∀ file ∈ writtenFiles events, file.isSome = filed) :
    ∀ file ∈ writtenFiles (system.events ++ events), file.isSome = filed := by
  intro file hfile
  rw [writtenFiles_append, List.mem_append] at hfile
  exact hfile.elim (h.written file) (hevents file)

/-- New settings keep this, if they name a folder when they turn tracing on. -/
theorem AllFiled.settings (husual : files.Usual) {filed : Bool} {system : TracerSystem}
    (h : AllFiled filed system) {now : Nat} {settings : TracerSettings}
    (hnamed : FolderNamed filed system (.setSettings now settings)) :
    AllFiled filed { system with
      tracer := (system.tracer.setSettings files now settings).1
      events := system.events ++ (system.tracer.setSettings files now settings).2 } := by
  -- When tracing was off, the folder that is named now is that of the next writer.
  have hnext : ∀ next nextSettings,
      SetPoint.assigning now settings system.tracer.maxTraceLevel =
        .assigning next nextSettings .disabled →
      settings.traceLevel.getD system.tracer.maxTraceLevel ≠ .disabled →
        nextSettings.traceFolder.isSome = filed := by
    intro next nextSettings hpoint hon
    obtain ⟨rfl, rfl, hoff⟩ := SetPoint.assigning.inj hpoint
    rw [hoff] at hon
    exact hnamed.1 hoff hon
  rcases setSettings_cases files now settings system.tracer with
    ⟨hnone, hsettings⟩ | ⟨writer, hwriter, hsettings⟩ <;> rw [hsettings]
  · exact ⟨h.writer, h.closing, hnext, h.written_append fun _ hfile => by cases hfile⟩
  · have hfiles := TraceWriter.onlyFiles_setSettings files now settings writer
    refine ⟨filed_of_some ((h.writer writer hwriter).setSettings husual now hnamed.2), h.closing,
      hnext, h.written_append ?_⟩
    rw [writtenFiles_eq_nil hfiles.written]
    exact fun _ hfile => by cases hfile

/-- Destroying a writer or making one keeps this. -/
theorem AllFiled.assign (husual : files.Usual) {filed : Bool} {system : TracerSystem}
    (h : AllFiled filed system) (hconsistent : Consistent system) {now : Nat}
    {settings : TracerSettings} {oldLevel : TraceLevel} (early : Option UInt32)
    (hassigning : system.tracer.point = .assigning now settings oldLevel) :
    AllFiled filed { system with
      tracer := (system.tracer.assign files now settings oldLevel early).1
      events := system.events ++
        (system.tracer.assign files now settings oldLevel early).2 } := by
  have hover : ∀ point : SetPoint, (point = .stopping ∨ point = .outside) →
      ∀ now settings, point = .assigning now settings .disabled →
        system.tracer.maxTraceLevel ≠ .disabled → settings.traceFolder.isSome = filed := by
    rintro _ (rfl | rfl) _ _ hpoint
    · cases hpoint
    · cases hpoint
  have hnothing : ∀ file ∈ writtenFiles (system.events ++ []), file.isSome = filed :=
    h.written_append fun _ hfile => by cases hfile
  rcases hconsistent.assign_cases files early hassigning with ⟨hoff, hassign⟩ |
    ⟨hon, hwasOff, hnone, hassign⟩ | ⟨hon, hwasOn, hassign⟩ <;> rw [hassign]
  · refine ⟨fun new hnew => ?_, h.writer, hover _ ?_, hnothing⟩
    · cases hnew
    · split
      · exact .inl rfl
      · exact .inr rfl
  · -- The folder of the new writer was named with the level.
    have hfiles := create_onlyFiles files system.tracer.created now early settings
    subst hwasOff
    refine ⟨filed_of_some ?_, fun new hnew => ?_, hover _ (.inr rfl), h.written_append ?_⟩
    · rw [← h.assigning now settings hassigning hon]
      exact TraceWriter.filed_create husual system.tracer.created now early settings
    · cases hnew
    · rw [writtenFiles_eq_nil hfiles.written]
      exact fun _ hfile => by cases hfile
  · exact ⟨h.writer, h.closing, hover _ (.inr rfl), hnothing⟩

/-- Every step keeps this. -/
theorem AllFiled.stepped (husual : files.Usual) {filed : Bool} {system system' : TracerSystem}
    {action : Action} (h : AllFiled filed system) (hconsistent : Consistent system)
    (hnamed : FolderNamed filed system action)
    (hstep : Stepped files system system' action) : AllFiled filed system' := by
  cases hstep with
  | collected index hother hinside hresult =>
    rw [hresult]
    exact ⟨h.writer, h.closing, h.assigning, h.written⟩
  | broken hother hmem hinside hunseen hresult =>
    rw [hresult]
    exact ⟨h.writer, h.closing, h.assigning, h.written⟩
  | current hother hwriting hchange hinside hresult =>
    obtain ⟨hfiled, hfiles⟩ := (h.writer _ hwriting).changed husual hchange
    rw [hresult]
    exact ⟨filed_of_some hfiled, h.closing, h.assigning, h.written_append hfiles⟩
  | queued hclosing hhanding haccepted hresult =>
    obtain ⟨hfiled, hfiles⟩ := (h.closing _ hclosing).changed husual (.queued haccepted)
    rw [hresult]
    exact ⟨h.writer, filed_of_some hfiled, h.assigning, h.written_append hfiles⟩
  | woken hother hclosing hinside hresult =>
    obtain ⟨hfiled, hfiles⟩ := (h.closing _ hclosing).changed husual .notified
    rw [hresult]
    exact ⟨h.writer, filed_of_some hfiled, h.assigning, h.written_append hfiles⟩
  | ran hclosing hmade hresult =>
    obtain ⟨hfiled, hfiles⟩ := (h.closing _ hclosing).changed husual (.ran hmade)
    rw [hresult]
    exact ⟨h.writer, filed_of_some hfiled, h.assigning, h.written_append hfiles⟩
  | settings houtside hresult =>
    rw [hresult]
    exact h.settings husual hnamed
  | assigned hassigning hresult =>
    rw [hresult]
    exact h.assign husual hconsistent _ hassigning
  | @stopped writer hstopping hclosing hresult =>
    have hfiled := h.closing writer hclosing
    rw [hresult]
    refine ⟨h.writer, filed_of_some ⟨hfiled.traceFile, hfiled.processing⟩,
      fun _ _ hpoint => ?_, h.written⟩
    cases hpoint
  | notified hnotifying hclosing hresult =>
    obtain ⟨hfiled, -⟩ := (h.closing _ hclosing).changed husual .notified
    rw [hresult]
    refine ⟨h.writer, filed_of_some hfiled, fun _ _ hpoint => ?_, h.written⟩
    cases hpoint
  | joined hjoining hclosing hended hresult =>
    rw [hresult]
    refine ⟨h.writer, fun new hnew => ?_, fun _ _ hpoint => ?_, h.written⟩
    · cases hnew
    · cases hpoint

/-- If a folder is named whenever tracing is turned on, every message is written to a file. If no
folder is ever named, no message is. -/
theorem filed_of_reachable (husual : files.Usual) {filed : Bool} {system : TracerSystem}
    (h : Reachable files (FolderNamed filed) system) :
    ∀ file ∈ writtenFiles system.events, file.isSome = filed := by
  suffices hall : AllFiled filed system from hall.written
  induction h with
  | init =>
    refine ⟨fun _ hnew => ?_, fun _ hnew => ?_, fun _ _ hpoint => ?_, fun _ hfile => ?_⟩
    · cases hnew
    · cases hnew
    · cases hpoint
    · cases hfile
  | step before met made ih =>
    exact ih.stepped husual (consistent_of_reachable before) met (stepped_of_advance made)

/-- Such files are usual. -/
theorem usual_usualFiles : usualFiles.Usual where
  filename path hfilename := by
    rcases path with ⟨rootDirectory, filenames, trailing⟩
    cases filenames with
    | nil => simp [usualFiles]
    | cons name names =>
      cases trailing with
      | false => cases hfilename
      | true => simp [usualFiles]
  current now := by
    have hlong : 2 < (TraceWriter.getFilename now).length := by
      have hsuffix : "_was.log".length = 8 := rfl
      simp only [TraceWriter.getFilename, String.length_append]
      omega
    rw [TraceWriter.ofString_getFilename,
      show usualFiles.currentPath.append ⟨false, [TraceWriter.getFilename now], false⟩ =
        ⟨true, ["was", TraceWriter.getFilename now], false⟩ from rfl]
    have hdot : TraceWriter.getFilename now ≠ "." := by
      intro h
      rw [h] at hlong
      exact absurd hlong (by decide)
    have hdots : TraceWriter.getFilename now ≠ ".." := by
      intro h
      rw [h] at hlong
      exact absurd hlong (by decide)
    simp [usualFiles, LexicalPath.filename, hdot, hdots]

/-- Both messages of the first run are written to files. -/
theorem filed_of_reachable_tracedInTime :
    ∃ system, TracerSystem.run usualFiles tracedInTime {} = some system ∧
      (writtenFiles system.events).length = 2 ∧
      ∀ file ∈ writtenFiles system.events, file.isSome = true := by
  obtain ⟨system, hrun, hlength⟩ := Option.map_eq_some_iff.mp (by decide +kernel :
    (TracerSystem.run usualFiles tracedInTime {}).map (fun system =>
      (writtenFiles system.events).length) = some 2)
  have hreachable : Reachable usualFiles (FolderNamed true) system :=
    .run .init (by decide +kernel) hrun
  exact ⟨system, hrun, hlength, filed_of_reachable usual_usualFiles hreachable⟩

end TracerSystem

end Srv.Tracer

import WarehouseAccounting.Foundations.LexicalPath
import WarehouseAccounting.Services.DateProvider

/-!
# The trace writer

`trace_level.h`, `trace_message.cpp` and `trace_writer.cpp`: messages are put into a queue, and a
thread takes all of them at once and writes them to a file and to the console. A step of the thread
is what it does between two points at which others can come in. It keeps `m_messagesMutex` from the
predicate of `wait_for` until it is blocked, but `m_stop` is set without the mutex, and the thread
may then sleep until its timeout.

The members behind `m_writer` are initialized after its thread was started, so that the thread may
wait for a number of messages that nobody has set.

- `TraceWriter.Changed.accounts`: whatever happens to a writer, no message is lost or written twice.
- `TraceWriter.runStep_of_stop`: a thread that is told to stop goes on until nothing is left, unless
  it is blocked and its time is not over.
- `TraceWriter.isSome_openFile`: the file of some messages can be opened if a folder was given.
-/

namespace Srv.Tracer

open Srv.Date

/-! ## Levels and messages -/

/-- `TraceLevel`. -/
inductive TraceLevel where
  | disabled
  | always
  | critical
  | error
  | warning
  | info
  | debug
  deriving DecidableEq, Repr

namespace TraceLevel

/-- The number of a level. -/
def value : TraceLevel → Int
  | disabled => 0
  | always => 200
  | critical => 400
  | error => 600
  | warning => 800
  | info => 1000
  | debug => 1200

/-- `ToString`. -/
def toString : TraceLevel → String
  | disabled => "DIS"
  | always => "ALW"
  | critical => "CRT"
  | error => "ERR"
  | warning => "WRN"
  | info => "INF"
  | debug => "DBG"

/-- `FromString`: what is no level is `DEBUG`. -/
def fromString (string : String) : TraceLevel :=
  if string = "DIS" ∨ string = "DISABLED" then disabled
  else if string = "ALW" ∨ string = "ALWAYS" then always
  else if string = "CRT" ∨ string = "CRITICAL" then critical
  else if string = "ERR" ∨ string = "ERROR" then error
  else if string = "WRN" ∨ string = "WARNING" then warning
  else if string = "INF" ∨ string = "INFO" then info
  else debug

/-- A level that was written is read. -/
@[simp]
theorem fromString_toString (level : TraceLevel) : fromString level.toString = level := by
  cases level <;> rfl

end TraceLevel

/-- `TracerSettings`. -/
structure TracerSettings where
  traceLevel : Option TraceLevel := none
  traceFolder : Option String := none
  maxTraceLevelForConsole : Option TraceLevel := none
  minMessagesToProcess : Option UInt32 := none
  processTimeoutMs : Option UInt32 := none
  deriving DecidableEq, Repr

/-- `TraceMessage`. -/
structure TraceMessage where
  /-- `m_message`. -/
  message : List String
  traceLevel : TraceLevel
  deriving DecidableEq, Repr

namespace TraceMessage

/-- `TraceMessage::AddToBack`. -/
def addToBack (data : String) (message : TraceMessage) : TraceMessage :=
  { message with message := message.message ++ [data] }

/-- The constructor of `TraceMessage`. The index is cut to 32 bits; `thread` is the text of the hash
of the thread. -/
def create (index : UInt64) (traceLevel : TraceLevel) (now : Nat) (thread : String) :
    TraceMessage where
  message := [toString index.toUInt32.toNat, "\t", String.ofList (getTimeString now), "\t", thread,
    "\t", traceLevel.toString, "\t"]
  traceLevel

/-- `TraceMessage::ToString`. -/
def toString (message : TraceMessage) : String :=
  String.join message.message

end TraceMessage

/-! ## The writer -/

/-- The files as far as the writer sees them: which of them can be opened for appending, and the
current folder. -/
structure Files where
  canOpen : LexicalPath → Bool
  currentPath : LexicalPath

/-- What happens to files, messages and the console. -/
inductive Event where
  /-- "Trace file begin" is printed. -/
  | opened (path : LexicalPath)
  /-- A message is put into the queue of a writer. -/
  | queued (message : TraceMessage)
  /-- A message is put into the queue of a writer whose thread has ended. -/
  | late (message : TraceMessage)
  /-- A message is written to a stream, which is that of a file if one could be opened, and perhaps
  to the console. -/
  | written (message : TraceMessage) (file : Option LexicalPath) (console : Bool)
  deriving DecidableEq, Repr

/-- Where the thread of a writer is in `Run`. -/
inductive Worker where
  /-- At the beginning of the loop. -/
  | idle
  /-- It has the mutex, before the predicate of `wait_for`, with the settings that were read. -/
  | checking (minMessagesToProcess : UInt32)
  /-- The predicate was false, and the mutex is not given back yet. -/
  | falling (minMessagesToProcess : UInt32)
  /-- It is blocked on `m_writerCv`. -/
  | blocked (minMessagesToProcess : UInt32)
  /-- It was woken, and has to get the mutex again. -/
  | locking (minMessagesToProcess : UInt32)
  /-- At the beginning of `ProcessMessages`. -/
  | opening (messages : List TraceMessage)
  /-- In the loop of `ProcessMessages`. -/
  | processing (file : Option LexicalPath) (messages : List TraceMessage)
  | ended
  deriving DecidableEq, Repr

namespace Worker

/-- The messages that the thread has taken. -/
def messages : Worker → List TraceMessage
  | opening messages => messages
  | processing _ messages => messages
  | _ => []

/-- The thread has `m_messagesMutex`. -/
def holdsMutex : Worker → Bool
  | checking _ | falling _ => true
  | _ => false

/-- The thread is blocked. -/
def isBlocked : Worker → Bool
  | blocked _ => true
  | _ => false

/-- The thread is blocked, or is going to be without looking at `m_stop` again. -/
def mayBlock : Worker → Bool
  | falling _ | blocked _ => true
  | _ => false

/-- A thread that is notified has to get the mutex again. -/
def wake : Worker → Worker
  | blocked minMessagesToProcess => locking minMessagesToProcess
  | worker => worker

/-- Being woken takes no messages. -/
@[simp]
theorem messages_wake (worker : Worker) : worker.wake.messages = worker.messages := by
  cases worker <;> rfl

/-- It ends no thread. -/
@[simp]
theorem wake_eq_ended {worker : Worker} : worker.wake = ended ↔ worker = ended := by
  cases worker <;> simp [wake]

/-- It lets no thread block. -/
theorem mayBlock_wake {worker : Worker} (h : worker.mayBlock = false) :
    worker.wake.mayBlock = false := by
  cases worker <;> first | exact h | rfl

end Worker

/-- `TraceWriter`. -/
structure TraceWriter where
  /-- Which of all writers it is. -/
  number : Nat := 0
  /-- `m_traceFile`. -/
  traceFile : LexicalPath := ⟨false, [], false⟩
  /-- `m_messagesQueue`. -/
  messagesQueue : List TraceMessage := []
  /-- `m_stop`. -/
  stop : Bool := false
  worker : Worker := .idle
  /-- `m_maxLevelForConsole`. -/
  maxLevelForConsole : TraceLevel := .error
  /-- `m_minMessagesToProcess`. -/
  minMessagesToProcess : UInt32 := 5
  /-- `m_processTimeoutMs`. -/
  processTimeoutMs : UInt32 := 10000
  deriving DecidableEq, Repr

namespace TraceWriter

/-- The messages that the thread still has to write, in the order in which it writes them. -/
def pending (writer : TraceWriter) : List TraceMessage :=
  if writer.worker = .ended then [] else writer.worker.messages ++ writer.messagesQueue

/-- `TraceWriter::GetFilename`. -/
def getFilename (now : Nat) : String :=
  String.ofList ((getTimeString now).map fun char => if char = ':' then '.' else char) ++ "_was.log"

/-- `TraceWriter::PrepareFile`. No file is opened with `app` and `trunc` at once. -/
def prepareFile (files : Files) (writer : TraceWriter) : TraceWriter × List Event :=
  if files.canOpen writer.traceFile then
    (writer, [.opened writer.traceFile])
  else
    let traceFile := files.currentPath.append writer.traceFile.filenameElement
    ({ writer with traceFile }, if files.canOpen traceFile then [.opened traceFile] else [])

/-- `TraceWriter::SetFolder`. -/
def setFolder (files : Files) (now : Nat) (traceFolder : String) (writer : TraceWriter) :
    TraceWriter × List Event :=
  prepareFile files { writer with
    traceFile :=
      (LexicalPath.ofString traceFolder).append (LexicalPath.ofString (getFilename now)) }

/-- `TraceWriter::SetSettings`. -/
def setSettings (files : Files) (now : Nat) (settings : TracerSettings) (writer : TraceWriter) :
    TraceWriter × List Event :=
  let writer := { writer with
    maxLevelForConsole := settings.maxTraceLevelForConsole.getD writer.maxLevelForConsole
    minMessagesToProcess := settings.minMessagesToProcess.getD writer.minMessagesToProcess
    processTimeoutMs := settings.processTimeoutMs.getD writer.processTimeoutMs }
  match settings.traceFolder with
  | some traceFolder => setFolder files now traceFolder writer
  | none => (writer, [])

/-- The constructor of `TraceWriter`, during which its thread may have read a number of messages to
wait for before it was initialized. -/
def create (files : Files) (number now : Nat) (early : Option UInt32) (settings : TracerSettings) :
    TraceWriter × List Event :=
  setSettings files now settings { number, worker := early.elim .idle .checking }

/-- `TraceWriter::Queue` up to the end of its block, unless it waits for the mutex. -/
def queue (message : TraceMessage) (writer : TraceWriter) : Option (TraceWriter × List Event) :=
  if writer.worker.holdsMutex then
    none
  else
    some ({ writer with messagesQueue := writer.messagesQueue ++ [message] },
      [if writer.worker = .ended then .late message else .queued message])

/-- `m_writerCv.notify_all`. -/
def notifyAll (writer : TraceWriter) : TraceWriter :=
  { writer with worker := writer.worker.wake }

/-- The file that `ProcessMessages` opens. -/
def openFile (files : Files) (writer : TraceWriter) :
    TraceWriter × List Event × Option LexicalPath :=
  if files.canOpen writer.traceFile then
    (writer, [], some writer.traceFile)
  else
    let (writer, events) := prepareFile files writer
    (writer, events, if files.canOpen writer.traceFile then some writer.traceFile else none)

/-- The thread takes all messages behind `wait_for`, and gives the mutex back. -/
def takeMessages (writer : TraceWriter) : TraceWriter :=
  if writer.messagesQueue.isEmpty then
    { writer with worker := .idle }
  else
    { writer with worker := .opening writer.messagesQueue, messagesQueue := [] }

/-- The predicate of `wait_for`. -/
def isReady (minMessagesToProcess : UInt32) (writer : TraceWriter) : Bool :=
  minMessagesToProcess.toNat ≤ writer.messagesQueue.length || writer.stop

/-- One step of `TraceWriter::Run`, unless the thread is blocked or has ended. It is blocked until
it is woken, or until the time is over. -/
def runStep (files : Files) (timedOut : Bool) (writer : TraceWriter) :
    Option (TraceWriter × List Event) :=
  match writer.worker with
  | .idle =>
    if writer.stop && writer.messagesQueue.isEmpty then
      some ({ writer with worker := .ended }, [])
    else
      some ({ writer with worker := .checking writer.minMessagesToProcess }, [])
  | .checking minMessagesToProcess | .locking minMessagesToProcess =>
    if writer.isReady minMessagesToProcess then
      some (writer.takeMessages, [])
    else
      some ({ writer with worker := .falling minMessagesToProcess }, [])
  | .falling minMessagesToProcess =>
    some ({ writer with worker := .blocked minMessagesToProcess }, [])
  | .blocked _ => if timedOut then some (writer.takeMessages, []) else none
  | .opening messages =>
    let (writer, events, file) := openFile files writer
    some ({ writer with worker := .processing file messages }, events)
  | .processing _ [] => some ({ writer with worker := .idle }, [])
  | .processing file (message :: messages) =>
    some ({ writer with worker := .processing file messages },
      [.written message file (message.traceLevel.value ≤ writer.maxLevelForConsole.value)])
  | .ended => none

end TraceWriter

/-! ## Messages that are written -/

/-- The message that a writer accepts while its thread runs. -/
def Event.queuedMessage : Event → Option TraceMessage
  | .queued message => some message
  | _ => none

/-- The message that nobody is there to write. -/
def Event.lateMessage : Event → Option TraceMessage
  | .late message => some message
  | _ => none

/-- The message that a writer writes. -/
def Event.writtenMessage : Event → Option TraceMessage
  | .written message _ _ => some message
  | _ => none

/-- The messages that were accepted while the threads of their writers ran. -/
def queuedMessages (events : List Event) : List TraceMessage :=
  events.filterMap Event.queuedMessage

/-- The messages that were accepted too late. -/
def lateMessages (events : List Event) : List TraceMessage :=
  events.filterMap Event.lateMessage

/-- The messages that were written. -/
def writtenMessages (events : List Event) : List TraceMessage :=
  events.filterMap Event.writtenMessage

@[simp]
theorem queuedMessages_append (events others : List Event) :
    queuedMessages (events ++ others) = queuedMessages events ++ queuedMessages others :=
  List.filterMap_append

@[simp]
theorem lateMessages_append (events others : List Event) :
    lateMessages (events ++ others) = lateMessages events ++ lateMessages others :=
  List.filterMap_append

@[simp]
theorem writtenMessages_append (events others : List Event) :
    writtenMessages (events ++ others) = writtenMessages events ++ writtenMessages others :=
  List.filterMap_append

namespace TraceWriter

/-- Some function leaves the queue and the thread of a writer as they are, and writes no message. -/
structure OnlyFiles (writer writer' : TraceWriter) (events : List Event) : Prop where
  number : writer'.number = writer.number
  messagesQueue : writer'.messagesQueue = writer.messagesQueue
  worker : writer'.worker = writer.worker
  stop : writer'.stop = writer.stop
  queued : queuedMessages events = []
  late : lateMessages events = []
  written : writtenMessages events = []

/-- Preparing a file concerns files only. -/
theorem onlyFiles_prepareFile (files : Files) (writer : TraceWriter) :
    OnlyFiles writer (prepareFile files writer).1 (prepareFile files writer).2 := by
  unfold prepareFile
  split
  · exact ⟨rfl, rfl, rfl, rfl, rfl, rfl, rfl⟩
  · dsimp only
    split <;> exact ⟨rfl, rfl, rfl, rfl, rfl, rfl, rfl⟩

/-- So do settings. -/
theorem onlyFiles_setSettings (files : Files) (now : Nat) (settings : TracerSettings)
    (writer : TraceWriter) :
    OnlyFiles writer (setSettings files now settings writer).1
      (setSettings files now settings writer).2 := by
  unfold setSettings
  dsimp only
  split
  · obtain ⟨hnumber, hqueue, hworker, hstop, hqueued, hlate, hwritten⟩ :=
      onlyFiles_prepareFile files { writer with
        maxLevelForConsole := settings.maxTraceLevelForConsole.getD writer.maxLevelForConsole
        minMessagesToProcess := settings.minMessagesToProcess.getD writer.minMessagesToProcess
        processTimeoutMs := settings.processTimeoutMs.getD writer.processTimeoutMs
        traceFile := _ }
    exact ⟨hnumber, hqueue, hworker, hstop, hqueued, hlate, hwritten⟩
  · exact ⟨rfl, rfl, rfl, rfl, rfl, rfl, rfl⟩

/-- So does opening a file. -/
theorem onlyFiles_openFile (files : Files) (writer : TraceWriter) :
    OnlyFiles writer (openFile files writer).1 (openFile files writer).2.1 := by
  unfold openFile
  split
  · exact ⟨rfl, rfl, rfl, rfl, rfl, rfl, rfl⟩
  · exact onlyFiles_prepareFile files writer

/-- What happens to a writer: it accepts a message, is notified, or its thread goes on. -/
inductive Changed (files : Files) (writer : TraceWriter) : TraceWriter → List Event → Prop
  | queued {message : TraceMessage} {writer' : TraceWriter} {events : List Event}
      (accepted : writer.queue message = some (writer', events)) :
      Changed files writer writer' events
  | notified : Changed files writer writer.notifyAll []
  | ran {timedOut : Bool} {writer' : TraceWriter} {events : List Event}
      (made : writer.runStep files timedOut = some (writer', events)) :
      Changed files writer writer' events

/-- No message is lost or written twice: what was there or came in is written or is still there.
Only a thread that is told to stop ends, and it does not begin again. -/
structure Accounts (writer writer' : TraceWriter) (events : List Event) : Prop where
  number : writer'.number = writer.number
  stop : writer'.stop = writer.stop
  messages : writer.pending ++ queuedMessages events = writtenMessages events ++ writer'.pending
  late : writer.worker ≠ .ended → lateMessages events = []
  ended : writer.worker = .ended → writer'.worker = .ended
  ends : writer'.worker = .ended → writer.worker = .ended ∨ writer.stop = true

/-- The messages of a thread that runs. -/
theorem pending_of_ne_ended {writer : TraceWriter} (h : writer.worker ≠ .ended) :
    writer.pending = writer.worker.messages ++ writer.messagesQueue :=
  if_neg h

/-- Files change nothing of the messages. -/
theorem OnlyFiles.accounts {writer writer' : TraceWriter} {events : List Event}
    (h : OnlyFiles writer writer' events) : Accounts writer writer' events where
  number := h.number
  stop := h.stop
  messages := by
    rw [h.queued, h.written, List.append_nil, List.nil_append, pending, pending, h.worker,
      h.messagesQueue]
  late _ := h.late
  ended hended := h.worker.trans hended
  ends hended := .inl (h.worker.symm.trans hended)

/-- A thread that has taken no messages takes them in the order in which they came. -/
theorem takeMessages_accounts {writer : TraceWriter} (hmessages : writer.worker.messages = [])
    (hworker : writer.worker ≠ .ended) : Accounts writer writer.takeMessages [] := by
  have hpending := pending_of_ne_ended hworker
  rw [hmessages, List.nil_append] at hpending
  unfold takeMessages
  split
  · rename_i hempty
    refine ⟨rfl, rfl, ?_, fun _ => rfl, fun h => absurd h hworker, fun h => by cases h⟩
    rw [hpending, List.isEmpty_iff.mp hempty]
    rfl
  · refine ⟨rfl, rfl, ?_, fun _ => rfl, fun h => absurd h hworker, fun h => by cases h⟩
    rw [hpending]
    rfl

/-- A message is the last one of those that are to be written, if the thread runs. -/
theorem queue_accounts {message : TraceMessage} {writer writer' : TraceWriter}
    {events : List Event} (h : writer.queue message = some (writer', events)) :
    Accounts writer writer' events := by
  unfold queue at h
  split at h
  · cases h
  · cases h
    by_cases hended : writer.worker = .ended
    · refine ⟨rfl, rfl, ?_, fun h => absurd hended h, fun h => h, fun h => .inl h⟩
      rw [if_pos hended, pending, pending, if_pos hended, if_pos hended]
      rfl
    · refine ⟨rfl, rfl, ?_, fun _ => ?_, fun h => absurd h hended, fun h => absurd h hended⟩
      · rw [if_neg hended, pending, pending, if_neg hended, if_neg hended]
        exact List.append_assoc ..
      · rw [if_neg hended]
        rfl

/-- A thread that goes on has not ended. -/
theorem worker_ne_ended_of_runStep {files : Files} {timedOut : Bool}
    {writer writer' : TraceWriter} {events : List Event}
    (h : writer.runStep files timedOut = some (writer', events)) : writer.worker ≠ .ended := by
  intro hended
  rw [runStep, hended] at h
  cases h

/-- A thread that is blocked goes on when its time is over. -/
theorem timedOut_of_runStep {files : Files} {timedOut : Bool} {writer writer' : TraceWriter}
    {events : List Event} (h : writer.runStep files timedOut = some (writer', events))
    (hblocked : writer.worker.isBlocked = true) : timedOut = true := by
  cases hworker : writer.worker with
  | blocked minMessagesToProcess =>
    rw [runStep, hworker] at h
    dsimp only at h
    split at h
    · rename_i hover
      exact hover
    · cases h
  | _ =>
    rw [hworker] at hblocked
    cases hblocked

/-- One step of the thread writes the first message, or none, and forgets none. -/
theorem runStep_accounts {files : Files} {timedOut : Bool} {writer writer' : TraceWriter}
    {events : List Event} (h : writer.runStep files timedOut = some (writer', events)) :
    Accounts writer writer' events := by
  have hgoing := worker_ne_ended_of_runStep h
  have hpending := pending_of_ne_ended hgoing
  -- While the thread waits, it has taken no messages.
  have hwaits : ∀ next : Worker, writer.worker.messages = [] → next.messages = [] →
      next ≠ .ended → Accounts writer { writer with worker := next } [] := by
    intro next hnone hnext hrunning
    refine ⟨rfl, rfl, ?_, fun _ => rfl, fun h => absurd h hgoing, fun h => absurd h hrunning⟩
    rw [hpending, hnone]
    show _ = [] ++ pending _
    rw [pending, if_neg hrunning, hnext]
    exact List.append_nil _
  unfold runStep at h
  split at h
  case h_1 hworker =>
    split at h
    · rename_i hdone
      rw [Bool.and_eq_true, List.isEmpty_iff] at hdone
      cases h
      refine ⟨rfl, rfl, ?_, fun _ => rfl, fun h => absurd h hgoing, fun _ => .inr hdone.1⟩
      rw [hpending, hworker, hdone.2]
      rfl
    · cases h
      exact hwaits _ (by rw [hworker]; rfl) rfl (by simp)
  case h_2 hworker | h_3 hworker =>
    split at h
    · cases h
      exact takeMessages_accounts (by rw [hworker]; rfl) hgoing
    · cases h
      exact hwaits _ (by rw [hworker]; rfl) rfl (by simp)
  case h_4 hworker =>
    cases h
    exact hwaits _ (by rw [hworker]; rfl) rfl (by simp)
  case h_5 hworker =>
    split at h
    · cases h
      exact takeMessages_accounts (by rw [hworker]; rfl) hgoing
    · cases h
  case h_6 messages hworker =>
    have hfiles := onlyFiles_openFile files writer
    rcases hopen : openFile files writer with ⟨opened, openedEvents, file⟩
    rw [hopen] at h hfiles
    cases h
    dsimp only at hfiles ⊢
    refine ⟨hfiles.number, hfiles.stop, ?_, fun _ => hfiles.late, fun h => absurd h hgoing,
      fun h => by cases h⟩
    rw [hpending, hworker, hfiles.queued, hfiles.written, pending_of_ne_ended (by simp),
      hfiles.messagesQueue]
    exact List.append_nil _
  case h_7 hworker =>
    cases h
    exact hwaits _ (by rw [hworker]; rfl) rfl (by simp)
  case h_8 file message messages hworker =>
    cases h
    refine ⟨rfl, rfl, ?_, fun _ => rfl, fun h => absurd h hgoing, fun h => by cases h⟩
    rw [hpending, hworker, pending_of_ne_ended (by simp)]
    exact List.append_nil _
  case h_9 => cases h

/-- A notification leaves the messages where they are. -/
theorem notifyAll_accounts (writer : TraceWriter) : Accounts writer writer.notifyAll [] := by
  refine ⟨rfl, rfl, ?_, fun _ => rfl, fun h => ?_, fun h => .inl ?_⟩
  · rw [pending, pending, notifyAll, Worker.messages_wake]
    simp only [Worker.wake_eq_ended]
    exact List.append_nil _
  · exact Worker.wake_eq_ended.mpr h
  · exact Worker.wake_eq_ended.mp h

/-- Whatever happens to a writer, no message is lost. -/
theorem Changed.accounts {files : Files} {writer writer' : TraceWriter} {events : List Event}
    (h : Changed files writer writer' events) : Accounts writer writer' events := by
  cases h with
  | queued haccepted => exact queue_accounts haccepted
  | notified => exact writer.notifyAll_accounts
  | ran hmade => exact runStep_accounts hmade

/-! ## Stopping -/

/-- How many steps the thread still takes at most, when it is told to stop. -/
def work (writer : TraceWriter) : Nat :=
  let again := if writer.messagesQueue.isEmpty then 1 else writer.messagesQueue.length + 5
  match writer.worker with
  | .idle => again
  | .checking _ | .locking _ | .blocked _ =>
    if writer.messagesQueue.isEmpty then 2 else writer.messagesQueue.length + 4
  | .falling _ => if writer.messagesQueue.isEmpty then 3 else writer.messagesQueue.length + 5
  | .opening messages => messages.length + 2 + again
  | .processing _ messages => messages.length + 1 + again
  | .ended => 0

/-- Behind `wait_for` there is less to do. -/
theorem work_takeMessages_lt {writer : TraceWriter}
    (hwork : writer.work = if writer.messagesQueue.isEmpty then 2
      else writer.messagesQueue.length + 4) : writer.takeMessages.work < writer.work := by
  rw [hwork]
  unfold takeMessages
  split
  · rename_i hempty
    simp [work, hempty]
  · simp [work]

/-- The predicate holds when the thread is told to stop. -/
theorem isReady_of_stop {writer : TraceWriter} (hstop : writer.stop = true)
    (minMessagesToProcess : UInt32) : writer.isReady minMessagesToProcess = true := by
  rw [isReady, hstop, Bool.or_true]

/-- A thread that is told to stop goes on, unless it is blocked and its time is not over, and each
step leaves less to do. -/
theorem runStep_of_stop (files : Files) {timedOut : Bool} {writer : TraceWriter}
    (hstop : writer.stop = true) (hworker : writer.worker ≠ .ended)
    (hwakes : writer.worker.isBlocked = true → timedOut = true) :
    ∃ writer' events, writer.runStep files timedOut = some (writer', events) ∧
      writer'.work < writer.work := by
  unfold runStep
  split
  -- The loop ends when no message is left, and goes to `wait_for` otherwise.
  case h_1 hidle =>
    rw [hstop, Bool.true_and]
    cases hqueue : writer.messagesQueue.isEmpty with
    | false =>
      refine ⟨_, _, if_neg Bool.false_ne_true, ?_⟩
      simp [work, hidle, hqueue]
    | true =>
      refine ⟨_, _, if_pos rfl, ?_⟩
      simp [work, hidle, hqueue]
  case h_2 hwaits | h_3 hwaits =>
    exact ⟨_, _, if_pos (isReady_of_stop hstop _),
      work_takeMessages_lt (by simp only [work, hwaits])⟩
  -- The thread is on its way to sleep, and will be blocked next.
  case h_4 hfalling =>
    refine ⟨_, _, rfl, ?_⟩
    simp only [work, hfalling]
    split <;> omega
  case h_5 hblocked =>
    rw [hblocked] at hwakes
    exact ⟨_, _, if_pos (hwakes rfl), work_takeMessages_lt (by simp only [work, hblocked])⟩
  -- The messages are taken already; opening the file leaves the queue.
  case h_6 messages hopening =>
    have hqueue := (onlyFiles_openFile files writer).messagesQueue
    rcases hopen : openFile files writer with ⟨opened, events, file⟩
    rw [hopen] at hqueue
    have hkept : opened.messagesQueue = writer.messagesQueue := hqueue
    refine ⟨_, _, rfl, ?_⟩
    simp only [work, hopening, hkept]
    omega
  case h_7 hprocessing =>
    refine ⟨_, _, rfl, ?_⟩
    simp [work, hprocessing]
  case h_8 file message messages hprocessing =>
    refine ⟨_, _, rfl, ?_⟩
    simp [work, hprocessing]
  case h_9 hended => exact absurd hended hworker

/-- A message that comes in gives the thread at most five more steps. -/
theorem work_queue_le {message : TraceMessage} {writer writer' : TraceWriter}
    {events : List Event} (h : writer.queue message = some (writer', events)) :
    writer'.work ≤ writer.work + 5 := by
  unfold queue at h
  split at h
  · cases h
  · cases h
    cases hqueue : writer.messagesQueue.isEmpty with
    | false =>
      cases hworker : writer.worker <;> simp [work, hworker, hqueue] <;> omega
    | true =>
      have hnil := List.isEmpty_iff.mp hqueue
      cases hworker : writer.worker <;> simp [work, hworker, hnil]

/-- Being notified gives it none. -/
theorem work_notifyAll (writer : TraceWriter) : writer.notifyAll.work = writer.work := by
  unfold work notifyAll
  cases writer.worker <;> rfl

/-- A thread that sees that it is told to stop is not blocked any more. -/
theorem Changed.mayBlock_eq_false {files : Files} {writer writer' : TraceWriter}
    {events : List Event} (h : Changed files writer writer' events) (hstop : writer.stop = true)
    (hawake : writer.worker.mayBlock = false) : writer'.worker.mayBlock = false := by
  have htaken : writer.takeMessages.worker.mayBlock = false := by
    unfold takeMessages
    split <;> rfl
  cases h with
  | queued haccepted =>
    unfold queue at haccepted
    split at haccepted <;> cases haccepted
    exact hawake
  | notified => exact Worker.mayBlock_wake hawake
  | ran hmade =>
    unfold runStep at hmade
    split at hmade
    case h_1 => split at hmade <;> cases hmade <;> rfl
    case h_2 | h_3 =>
      rw [if_pos (isReady_of_stop hstop _)] at hmade
      cases hmade
      exact htaken
    case h_4 hworker | h_5 hworker =>
      rw [hworker] at hawake
      cases hawake
    case h_6 | h_7 | h_8 =>
      cases hmade
      rfl
    case h_9 => cases hmade

end TraceWriter

/-! ## Files -/

/-- What files are like: a path without a filename is no file, and the file of a name that the
writer makes can be made in the current folder. -/
structure Files.Usual (files : Files) : Prop where
  filename : ∀ path : LexicalPath, path.hasFilename = false → files.canOpen path = false
  current : ∀ now, files.canOpen (files.currentPath.append
    (LexicalPath.ofString (TraceWriter.getFilename now))) = true

/-- The file of a message that is written. -/
def Event.file : Event → Option (Option LexicalPath)
  | .written _ file _ => some file
  | _ => none

/-- The files that the messages were written to. -/
def writtenFiles (events : List Event) : List (Option LexicalPath) :=
  events.filterMap Event.file

@[simp]
theorem writtenFiles_append (events others : List Event) :
    writtenFiles (events ++ others) = writtenFiles events ++ writtenFiles others :=
  List.filterMap_append

/-- Where no message is written, none is written to a file. -/
theorem writtenFiles_eq_nil {events : List Event} (h : writtenMessages events = []) :
    writtenFiles events = [] := by
  rw [writtenMessages, List.filterMap_eq_nil_iff] at h
  rw [writtenFiles, List.filterMap_eq_nil_iff]
  intro event hevent
  have hnone := h event hevent
  cases event with
  | written message file console => cases hnone
  | _ => rfl

namespace TraceWriter

/-- The name of a trace file is one filename. -/
theorem ofString_getFilename (now : Nat) :
    LexicalPath.ofString (getFilename now) = ⟨false, [getFilename now], false⟩ := by
  refine LexicalPath.ofString_of_notMem ?_ ?_
  · unfold getFilename
    simp
  · have hdigit : ∀ number, Nat.digitChar (number % 10) ≠ '/' := by
      intro number
      have hlt := Nat.mod_lt number (by decide : 10 > 0)
      generalize number % 10 = digit at hlt
      revert digit
      decide
    intro hmem
    simp only [getFilename, String.toList_append, String.toList_ofList, List.mem_append,
      List.mem_map] at hmem
    rcases hmem with ⟨char, hchar, heq⟩ | hmem
    · split at heq
      · cases heq
      · subst heq
        simp only [getTimeString, fourDigits, twoDigits, List.mem_append, List.mem_cons,
          List.not_mem_nil, or_false] at hchar
        simp only [(hdigit _).symm, or_false, false_or] at hchar
        revert hchar
        decide
    · revert hmem
      decide

/-- The writer has a file of a name that it makes, or none at all. -/
def HasFile (filed : Bool) (path : LexicalPath) : Prop :=
  if filed then ∃ now, path.filenameElement = LexicalPath.ofString (getFilename now)
  else path.hasFilename = false

/-- Such a file has a filename. -/
theorem HasFile.hasFilename {filed : Bool} {path : LexicalPath} (h : HasFile filed path) :
    path.hasFilename = filed := by
  cases filed with
  | false => exact h
  | true =>
    obtain ⟨now, hname⟩ := h
    rw [ofString_getFilename] at hname
    cases hfilename : path.hasFilename with
    | true => rfl
    | false =>
      rw [LexicalPath.filenameElement, hfilename] at hname
      cases hname

/-- In the current folder it is such a file, too. -/
theorem HasFile.append {filed : Bool} {path : LexicalPath} (h : HasFile filed path)
    (folder : LexicalPath) : HasFile filed (folder.append path.filenameElement) := by
  cases filed with
  | false => exact (LexicalPath.hasFilename_append_filenameElement ..).trans h
  | true =>
    obtain ⟨now, hname⟩ := h
    refine ⟨now, ?_⟩
    rw [hname, ofString_getFilename]
    exact LexicalPath.filenameElement_append_single ..

/-- The files of a writer are there, or none of them is. -/
structure Filed (filed : Bool) (writer : TraceWriter) : Prop where
  traceFile : HasFile filed writer.traceFile
  processing : ∀ file messages, writer.worker = .processing file messages → file.isSome = filed

variable {files : Files}

/-- Preparing a file gives it no filename and takes none from it, and such a file can be opened. -/
theorem prepareFile_traceFile (husual : files.Usual) {filed : Bool} {writer : TraceWriter}
    (h : HasFile filed writer.traceFile) :
    HasFile filed (prepareFile files writer).1.traceFile ∧
      files.canOpen (prepareFile files writer).1.traceFile = filed := by
  unfold prepareFile
  cases filed with
  | false =>
    rw [husual.filename _ h.hasFilename, if_neg Bool.false_ne_true]
    have hleft := h.append files.currentPath
    exact ⟨hleft, husual.filename _ hleft⟩
  | true =>
    split
    · rename_i hopen
      exact ⟨h, hopen⟩
    · have hleft := h.append files.currentPath
      obtain ⟨now, hname⟩ := h
      have hopen := husual.current now
      rw [← hname] at hopen
      exact ⟨hleft, hopen⟩

/-- A file is opened if there is a filename. -/
theorem isSome_openFile (husual : files.Usual) {filed : Bool} {writer : TraceWriter}
    (h : HasFile filed writer.traceFile) :
    (openFile files writer).2.2.isSome = filed ∧
      HasFile filed (openFile files writer).1.traceFile := by
  obtain ⟨hkept, hopens⟩ := prepareFile_traceFile husual h
  unfold openFile
  split
  · rename_i hopen
    refine ⟨?_, h⟩
    cases filed with
    | false =>
      rw [husual.filename _ h] at hopen
      cases hopen
    | true => rfl
  · refine ⟨?_, hkept⟩
    dsimp only
    rw [hopens]
    cases filed <;> rfl

/-- A folder gives the writer a file. -/
theorem hasFile_setFolder (husual : files.Usual) (now : Nat) (traceFolder : String)
    (writer : TraceWriter) : HasFile true (setFolder files now traceFolder writer).1.traceFile := by
  have hset : HasFile true ((LexicalPath.ofString traceFolder).append
      (LexicalPath.ofString (getFilename now))) := by
    refine ⟨now, ?_⟩
    rw [ofString_getFilename]
    exact LexicalPath.filenameElement_append_single ..
  exact And.left (prepareFile_traceFile husual hset)

/-- New settings leave a writer its files. -/
theorem Filed.setSettings (husual : files.Usual) {filed : Bool} {writer : TraceWriter}
    (h : Filed filed writer) (now : Nat) {settings : TracerSettings}
    (hfolder : filed = true ∨ settings.traceFolder = none) :
    Filed filed (writer.setSettings files now settings).1 := by
  have hworker := (onlyFiles_setSettings files now settings writer).worker
  refine ⟨?_, fun file messages hprocessing => h.processing file messages ?_⟩
  · unfold TraceWriter.setSettings
    dsimp only
    split
    · rename_i traceFolder hsome
      rcases hfolder with rfl | hnone
      · exact hasFile_setFolder husual now traceFolder _
      · rw [hsome] at hnone
        cases hnone
    · exact h.traceFile
  · rw [← hworker]
    exact hprocessing

/-- A new writer has a file if a folder is given. -/
theorem filed_create (husual : files.Usual) (number now : Nat) (early : Option UInt32)
    (settings : TracerSettings) :
    Filed settings.traceFolder.isSome (create files number now early settings).1 := by
  have hworker := (onlyFiles_setSettings files now settings
    { number, worker := early.elim .idle .checking }).worker
  refine ⟨?_, fun file messages hprocessing => ?_⟩
  · unfold create TraceWriter.setSettings
    dsimp only
    split
    · rename_i traceFolder hsome
      rw [hsome]
      exact hasFile_setFolder husual now traceFolder _
    · rename_i hnone
      rw [hnone]
      rfl
  · have hstarted := hworker.symm.trans hprocessing
    cases early <;> cases hstarted

/-- The messages are written to files, or none of them is. -/
theorem Filed.runStep (husual : files.Usual) {filed timedOut : Bool} {writer writer' : TraceWriter}
    {events : List Event} (h : Filed filed writer)
    (hstep : writer.runStep files timedOut = some (writer', events)) :
    Filed filed writer' ∧ ∀ file ∈ writtenFiles events, file.isSome = filed := by
  have hkept : ∀ other : TraceWriter, other.traceFile = writer.traceFile →
      (∀ file messages, other.worker ≠ .processing file messages) →
        Filed filed other ∧ ∀ file ∈ writtenFiles [], file.isSome = filed := by
    intro other hfile hworker
    refine ⟨⟨?_, fun file messages h => absurd h (hworker file messages)⟩, fun _ h => by cases h⟩
    rw [hfile]
    exact h.traceFile
  have htaken : Filed filed writer.takeMessages ∧
      ∀ file ∈ writtenFiles [], file.isSome = filed := by
    refine hkept _ ?_ fun file messages => ?_ <;> unfold takeMessages <;> split
    · rfl
    · rfl
    · exact Worker.noConfusion
    · exact Worker.noConfusion
  unfold TraceWriter.runStep at hstep
  split at hstep
  case h_1 =>
    split at hstep <;> cases hstep <;> exact hkept _ rfl fun _ _ => Worker.noConfusion
  case h_2 | h_3 =>
    split at hstep <;> cases hstep
    · exact htaken
    · exact hkept _ rfl fun _ _ => Worker.noConfusion
  case h_4 =>
    cases hstep
    exact hkept _ rfl fun _ _ => Worker.noConfusion
  case h_5 =>
    split at hstep <;> cases hstep
    exact htaken
  case h_6 messages hworker =>
    obtain ⟨hopens, hleft⟩ := isSome_openFile husual h.traceFile
    have hnone := writtenFiles_eq_nil (onlyFiles_openFile files writer).written
    rcases hopen : openFile files writer with ⟨opened, openedEvents, file⟩
    rw [hopen] at hstep hopens hleft hnone
    cases hstep
    refine ⟨⟨hleft, fun _ _ hprocessing => ?_⟩, fun _ hfile => ?_⟩
    · cases hprocessing
      exact hopens
    · rw [hnone] at hfile
      cases hfile
  case h_7 =>
    cases hstep
    exact hkept _ rfl fun _ _ => Worker.noConfusion
  case h_8 file message messages hworker =>
    cases hstep
    refine ⟨⟨h.traceFile, fun _ _ hprocessing => ?_⟩, fun _ hfile => ?_⟩
    · cases hprocessing
      exact h.processing file _ hworker
    · obtain rfl := List.mem_singleton.mp hfile
      exact h.processing _ _ hworker
  case h_9 => cases hstep

/-- Messages and notifications leave a writer its files. -/
theorem Filed.of_same {filed : Bool} {writer writer' : TraceWriter} (h : Filed filed writer)
    (hfile : writer'.traceFile = writer.traceFile)
    (hworker : ∀ file messages, writer'.worker = .processing file messages →
      writer.worker = .processing file messages) : Filed filed writer' := by
  refine ⟨?_, fun file messages hprocessing => h.processing file messages ?_⟩
  · rw [hfile]
    exact h.traceFile
  · exact hworker file messages hprocessing

/-- Whatever happens to a writer, it keeps its files. -/
theorem Filed.changed (husual : files.Usual) {filed : Bool} {writer writer' : TraceWriter}
    {events : List Event} (h : Filed filed writer)
    (hchanged : Changed files writer writer' events) :
    Filed filed writer' ∧ ∀ file ∈ writtenFiles events, file.isSome = filed := by
  have hnone : ∀ file ∈ writtenFiles [], file.isSome = filed := fun _ hfile => by cases hfile
  cases hchanged with
  | queued haccepted =>
    unfold queue at haccepted
    split at haccepted <;> cases haccepted
    refine ⟨h.of_same rfl fun _ _ hprocessing => hprocessing, ?_⟩
    split <;> exact hnone
  | notified =>
    refine ⟨h.of_same rfl fun file messages hprocessing => ?_, hnone⟩
    unfold notifyAll at hprocessing
    cases hworker : writer.worker <;> rw [hworker] at hprocessing <;>
      first | exact hprocessing | cases hprocessing
  | ran hmade => exact h.runStep husual hmade

end TraceWriter

end Srv.Tracer

import WarehouseAccounting.Services.DocumentManager
import WarehouseAccounting.TaskManager.Tasks.SingleItems
import Mathlib.Data.List.Nodup

/-!
# Reports and their files

Any number of `ReportsByPeriod` and `ReportsCurrent` tasks, whose steps interleave in any way:
the calls to the file system in `CreateReportFile`, the statement of `Report::InsertEntry`, the
commit, a failure or another attempt of the transaction, and `WriteReportFile`. No code removes
a file.

- `ReportFiles.Tracked`: what the phases of the tasks say about the files that were opened.
- `ReportFiles.corresponds_of_opensNew`: reports and files correspond in every run in which a
  file that is opened does not exist yet and no transaction fails after its file was opened.
-/

namespace TaskMgr.Tasks

open Ufa Srv.DocMgr

/-! ## The tasks -/

/-- `ReportType`. -/
inductive ReportType where
  | byPeriod
  | current
  deriving DecidableEq, Repr

/-- The number of the enumerator. -/
def ReportType.code : ReportType → Int64
  | .byPeriod => 0
  | .current => 1

/-- `string_converters::ToString`. -/
def ReportType.toString : ReportType → String
  | .byPeriod => "ByPeriod"
  | .current => "Current"

/-- What names the file of a report: `report_type` and `created_date`. -/
structure ReportTask where
  reportType : ReportType
  createdDate : UInt64
  deriving DecidableEq, Repr

/-- `std::filesystem::path::append`, on texts. -/
def appendPath (path other : String) : String :=
  if other.toList.head? = some '/' then other else path ++ "/" ++ other

/-- The path that `CreateReportFile` asks for. -/
def ReportTask.reportPath (dateProvider : DateProvider) (task : ReportTask) : String :=
  escapePath (appendPath (appendPath "reports" task.reportType.toString)
    (dateProvider.toIsoTimeString task.createdDate ++ ".html"))

/-- Where a task is in its transaction. -/
inductive ReportPhase where
  /-- In the entries before the file; the stream may be open from an earlier attempt. -/
  | collecting (streamOpen : Bool)
  /-- In `CreateFile`. -/
  | creating (code : FileCode (Result × String))
  /-- `m_report.filepath` is set; the row comes next. -/
  | created (streamOpen : Bool) (filepath : String)
  /-- The row is inserted. -/
  | inserted (streamOpen : Bool) (filepath : String)
  /-- The transaction is committed. -/
  | committed
  /-- The page is written. -/
  | written
  /-- The transaction has failed for good. -/
  | failed

namespace ReportPhase

/-- Go on with the code of `CreateFile`. When it has ended without a success, `CHECK_SUCCESS`
throws. -/
def ofCode : FileCode (Result × String) → ReportPhase
  | .done streamOpen (.success, filepath) => .created streamOpen filepath
  | code => .creating code

/-- The transaction is not over. -/
def running : ReportPhase → Bool
  | .committed | .written | .failed => false
  | _ => true

/-- The transaction has failed for good. -/
def hasFailed : ReportPhase → Bool
  | .failed => true
  | _ => false

/-- A phase that is `failed` is this one. -/
theorem eq_failed_of_hasFailed {phase : ReportPhase} (h : phase.hasFailed = true) :
    phase = .failed := by
  cases phase with
  | failed => rfl
  | _ => cases h

/-- The file that the next call opens. -/
def opening : ReportPhase → Option LexicalPath
  | .creating (.issue _ (.openStream path) _) => some path
  | _ => none

end ReportPhase

/-! ## Steps -/

/-- The tasks, the file system and the committed reports. -/
structure ReportFiles where
  /-- The paths that exist. -/
  paths : List LexicalPath
  phases : Nat → ReportPhase := fun _ => .collecting false
  /-- The files that were opened, each with the task that opened it; the last one comes first. -/
  openings : List (Nat × LexicalPath) := []
  /-- The committed rows of `Report`: the task and the filepath. -/
  reports : List (Nat × String) := []

/-- A step of a task. -/
inductive ReportEvent where
  /-- The entry of `CreateReportFile` is reached; the random texts are those it will get. -/
  | createReportFile (task : Nat) (generateRandomString : Nat → String)
  /-- The next call to the file system. A file is opened only when the system allows it. -/
  | fileCall (task : Nat) (allowed : Bool)
  /-- The statement of `Report::InsertEntry`. -/
  | insertReport (task : Nat)
  /-- The transaction commits. -/
  | commit (task : Nat)
  /-- A statement or the commit fails, and the transaction is tried again. -/
  | retry (task : Nat)
  /-- Anything throws, and the transaction fails. -/
  | fail (task : Nat)
  /-- `WriteReportFile`. -/
  | write (task : Nat)

namespace ReportFiles

/-- The task enters a phase. -/
def enter (task : Nat) (phase : ReportPhase) (files : ReportFiles) : ReportFiles :=
  { files with phases := Function.update files.phases task phase }

/-- The answer of the file system to a call of a task. -/
def answer (task : Nat) (allowed : Bool) (files : ReportFiles) :
    FileCall → Bool × ReportFiles
  | .fileExists path => (decide (path ∈ files.paths), files)
  | .createDirectory path =>
    if path ∈ files.paths then
      (false, files)
    else
      (true, { files with paths := path :: files.paths })
  | .openStream path =>
    if allowed then
      (true, { files with
        paths := path :: files.paths
        openings := (task, path) :: files.openings })
    else
      (false, files)

/-- The state after one event. -/
def step (manager : DocumentManager) (dateProvider : DateProvider) (tasks : Nat → ReportTask)
    (files : ReportFiles) : ReportEvent → ReportFiles
  | .createReportFile task generateRandomString =>
    match files.phases task with
    | .collecting streamOpen =>
      files.enter task (.ofCode (manager.createFile generateRandomString
        ((tasks task).reportPath dateProvider) streamOpen))
    | _ => files
  | .fileCall task allowed =>
    match files.phases task with
    | .creating (.issue _ call next) =>
      (files.answer task allowed call).2.enter task
        (.ofCode (next (files.answer task allowed call).1))
    | _ => files
  | .insertReport task =>
    match files.phases task with
    | .created streamOpen filepath => files.enter task (.inserted streamOpen filepath)
    | _ => files
  | .commit task =>
    match files.phases task with
    | .inserted _ filepath =>
      { files.enter task .committed with reports := (task, filepath) :: files.reports }
    | _ => files
  | .retry task =>
    match files.phases task with
    | .created streamOpen _ | .inserted streamOpen _ => files.enter task (.collecting streamOpen)
    | _ => files
  | .fail task => if (files.phases task).running then files.enter task .failed else files
  | .write task =>
    match files.phases task with
    | .committed => files.enter task .written
    | _ => files

/-- The state after a sequence of events. -/
def run (manager : DocumentManager) (dateProvider : DateProvider) (tasks : Nat → ReportTask)
    (events : List ReportEvent) (files : ReportFiles) : ReportFiles :=
  events.foldl (step manager dateProvider tasks) files

/-! ## What is promised -/

/-- Reports and report files correspond one to one. -/
structure Corresponds (manager : DocumentManager) (files : ReportFiles) : Prop where
  /-- No two committed rows have the same filepath. -/
  distinct : (files.reports.map Prod.snd).Nodup
  /-- Each names a file that its task has opened, and no other one. -/
  own : ∀ report ∈ files.reports, (report.1, manager.fileOf report.2) ∈ files.openings ∧
    ∀ task, (task, manager.fileOf report.2) ∈ files.openings → task = report.1
  /-- A task whose transaction has failed has left no file. -/
  clean : ∀ task path, (files.phases task).hasFailed = true → (task, path) ∉ files.openings

/-- A file that is opened now does not exist yet, and a transaction that fails now has not opened
a file. -/
def OpensNew (files : ReportFiles) : ReportEvent → Prop
  | .fileCall task true => ∀ path ∈ (files.phases task).opening, path ∉ files.paths
  | .fail task => (files.phases task).running = true →
      ∀ opening ∈ files.openings, opening.1 ≠ task
  | _ => True

instance (files : ReportFiles) : DecidablePred files.OpensNew
  | .fileCall _ true => by unfold OpensNew; infer_instance
  | .fail _ => by unfold OpensNew; infer_instance
  | .fileCall _ false | .createReportFile .. | .insertReport _ | .commit _ | .retry _ |
    .write _ => isTrue trivial

/-- Every event of the run opens only new files, in the state that it happens in. -/
def AllOpenNew (manager : DocumentManager) (dateProvider : DateProvider)
    (tasks : Nat → ReportTask) : ReportFiles → List ReportEvent → Prop
  | _, [] => True
  | files, event :: events => files.OpensNew event ∧
      AllOpenNew manager dateProvider tasks (files.step manager dateProvider tasks event) events

instance (manager : DocumentManager) (dateProvider : DateProvider) (tasks : Nat → ReportTask)
    (files : ReportFiles) : (events : List ReportEvent) →
      Decidable (files.AllOpenNew manager dateProvider tasks events)
  | [] => isTrue trivial
  | event :: events =>
    have := instDecidableAllOpenNew manager dateProvider tasks
      (files.step manager dateProvider tasks event) events
    inferInstanceAs (Decidable (files.OpensNew event ∧ _))

@[simp]
theorem phases_enter_self (task : Nat) (phase : ReportPhase) (files : ReportFiles) :
    (files.enter task phase).phases task = phase :=
  Function.update_self ..

@[simp]
theorem phases_enter_of_ne {task other : Nat} (h : other ≠ task) (phase : ReportPhase)
    (files : ReportFiles) : (files.enter task phase).phases other = files.phases other :=
  Function.update_of_ne h ..

/-! ## What the phases say -/

/-- The file that a task has opened last. -/
def opened (task : Nat) (files : ReportFiles) : Option LexicalPath :=
  files.openings.lookup task

/-- What is opened is one of the openings. -/
theorem mem_openings_of_opened {task : Nat} {path : LexicalPath} {files : ReportFiles}
    (h : files.opened task = some path) : (task, path) ∈ files.openings := by
  obtain ⟨before, after, hopenings, -⟩ := List.lookup_eq_some_iff.mp h
  rw [hopenings]
  simp

/-- A task that has opened nothing has no opening. -/
theorem notMem_openings_of_opened {task : Nat} {files : ReportFiles}
    (h : files.opened task = none) (path : LexicalPath) : (task, path) ∉ files.openings := by
  intro hmem
  exact absurd (List.lookup_eq_none_iff.mp h _ hmem) (by simp)

end ReportFiles

/-- What the phase of a task says about the file that the task has opened. -/
def ReportPhase.Tracks (manager : DocumentManager) (opened : Option LexicalPath) :
    ReportPhase → Prop
  | .creating code => code.AllEnds DocumentManager.lastOpened
      (fun opened _ value => value.1 = .success → opened = some (manager.fileOf value.2)) opened
  | .created _ filepath | .inserted _ filepath => opened = some (manager.fileOf filepath)
  | .failed => opened = none
  | _ => True

/-- The code of `CreateFile` says the same when it has ended. -/
theorem ReportPhase.tracks_ofCode {manager : DocumentManager} {opened : Option LexicalPath}
    {code : FileCode (Result × String)}
    (h : code.AllEnds DocumentManager.lastOpened
      (fun opened _ value => value.1 = .success → opened = some (manager.fileOf value.2)) opened) :
    (ReportPhase.ofCode code).Tracks manager opened := by
  unfold ofCode
  split
  · exact h rfl
  · exact h

/-- A task that starts with `CreateFile` is right about what it has opened. -/
theorem ReportPhase.tracks_createFile (manager : DocumentManager)
    (generateRandomString : Nat → String) (relPath : String) (streamOpen : Bool)
    (opened : Option LexicalPath) :
    (ReportPhase.ofCode (manager.createFile generateRandomString relPath streamOpen)).Tracks
      manager opened :=
  tracks_ofCode (manager.createFile_allEnds generateRandomString relPath streamOpen opened)

namespace ReportFiles

/-- What holds in every state of a run that opens only new files. -/
structure Tracked (manager : DocumentManager) (files : ReportFiles) : Prop where
  /-- What was opened exists. -/
  openings_exist : ∀ opening ∈ files.openings, opening.2 ∈ files.paths
  /-- No file was opened twice. -/
  openings_nodup : (files.openings.map Prod.snd).Nodup
  phases : ∀ task, (files.phases task).Tracks manager (files.opened task)
  /-- A committed row names the file that its task has opened. -/
  reports_opened : ∀ report ∈ files.reports,
    files.opened report.1 = some (manager.fileOf report.2)
  /-- A task with a committed row is over. -/
  reports_over : ∀ report ∈ files.reports, (files.phases report.1).running = false
  /-- No task has two rows. -/
  reports_nodup : (files.reports.map Prod.fst).Nodup

variable {manager : DocumentManager} {dateProvider : DateProvider} {tasks : Nat → ReportTask}

/-- Before any task has started, whatever exists. -/
theorem tracked_init (manager : DocumentManager) (paths : List LexicalPath) :
    Tracked manager { paths } where
  openings_exist := by simp
  openings_nodup := List.nodup_nil
  phases _ := trivial
  reports_opened := by simp
  reports_over := by simp
  reports_nodup := List.nodup_nil

/-- Two openings of one file are the same. -/
theorem Tracked.task_unique {files : ReportFiles} (h : Tracked manager files) {task other : Nat}
    {path : LexicalPath} (htask : (task, path) ∈ files.openings)
    (hother : (other, path) ∈ files.openings) : other = task :=
  congrArg Prod.fst (List.inj_on_of_nodup_map h.openings_nodup hother htask rfl)

/-- Where the openings are tracked, reports and files correspond. -/
theorem Tracked.corresponds {files : ReportFiles} (h : Tracked manager files) :
    files.Corresponds manager where
  distinct := by
    refine List.Nodup.map_on ?_ h.reports_nodup.of_map
    rintro ⟨task, filepath⟩ hreport ⟨other, filepath'⟩ hother heq
    cases heq
    -- Both tasks have opened the file of this path.
    have htask := mem_openings_of_opened (h.reports_opened (task, filepath) hreport)
    have hsame : other = task :=
      h.task_unique htask (mem_openings_of_opened (h.reports_opened (other, filepath) hother))
    exact congrArg (·, filepath) hsame.symm
  own report hreport := by
    have hown := mem_openings_of_opened (h.reports_opened report hreport)
    exact ⟨hown, fun task htask => h.task_unique hown htask⟩
  clean task path hfailed := by
    have htracks := h.phases task
    rw [ReportPhase.eq_failed_of_hasFailed hfailed] at htracks
    exact notMem_openings_of_opened htracks path

/-- A task that is not over, or is over after the step, enters a phase that is right about what
the task has opened. -/
theorem Tracked.enter {files : ReportFiles} (h : Tracked manager files) {task : Nat}
    {phase : ReportPhase}
    (hover : (files.phases task).running = false → phase.running = false)
    (hphase : phase.Tracks manager (files.opened task)) :
    Tracked manager (files.enter task phase) where
  openings_exist := h.openings_exist
  openings_nodup := h.openings_nodup
  phases other := by
    by_cases hother : other = task
    · subst hother
      rw [phases_enter_self]
      exact hphase
    · rw [phases_enter_of_ne hother]
      exact h.phases other
  reports_opened := h.reports_opened
  reports_over report hreport := by
    by_cases hother : report.1 = task
    · rw [hother, phases_enter_self]
      exact hover (hother ▸ h.reports_over report hreport)
    · rw [phases_enter_of_ne hother]
      exact h.reports_over report hreport
  reports_nodup := h.reports_nodup

/-- More paths may exist. -/
theorem Tracked.withPath {files : ReportFiles} (h : Tracked manager files) (path : LexicalPath) :
    Tracked manager { files with paths := path :: files.paths } :=
  { h with openings_exist := fun opening hopening =>
      List.mem_cons_of_mem path (h.openings_exist opening hopening) }

/-- A task that is not over opens a file that does not exist yet, and enters a phase that is right
about it. -/
theorem Tracked.openStream {files : ReportFiles} (h : Tracked manager files) {task : Nat}
    {path : LexicalPath} {phase : ReportPhase} (hrunning : (files.phases task).running = true)
    (hnew : path ∉ files.paths) (hphase : phase.Tracks manager (some path)) :
    Tracked manager (ReportFiles.enter task phase { files with
      paths := path :: files.paths, openings := (task, path) :: files.openings }) := by
  have hopened : ∀ other, other ≠ task →
      List.lookup other ((task, path) :: files.openings) = files.opened other := by
    intro other hother
    rw [List.lookup_cons, beq_false_of_ne hother]
    rfl
  -- A task that is not over has no row yet.
  have hreport : ∀ report ∈ files.reports, report.1 ≠ task := by
    intro report hreport heq
    have hover := h.reports_over report hreport
    rw [heq, hrunning] at hover
    cases hover
  constructor
  case openings_exist =>
    intro opening hopening
    rcases List.mem_cons.mp hopening with rfl | hopening
    · exact List.mem_cons_self
    · exact List.mem_cons_of_mem _ (h.openings_exist opening hopening)
  case openings_nodup =>
    show (path :: files.openings.map Prod.snd).Nodup
    refine List.nodup_cons.mpr ⟨?_, h.openings_nodup⟩
    intro hmem
    obtain ⟨opening, hopening, rfl⟩ := List.mem_map.mp hmem
    exact hnew (h.openings_exist opening hopening)
  case phases =>
    intro other
    by_cases hother : other = task
    · subst hother
      rw [phases_enter_self]
      show phase.Tracks manager (List.lookup other ((other, path) :: files.openings))
      rw [List.lookup_cons, beq_self_eq_true]
      exact hphase
    · rw [phases_enter_of_ne hother]
      show (files.phases other).Tracks manager (List.lookup other ((task, path) :: files.openings))
      rw [hopened other hother]
      exact h.phases other
  case reports_opened =>
    intro report hmem
    exact (hopened report.1 (hreport report hmem)).trans (h.reports_opened report hmem)
  case reports_over =>
    intro report hmem
    rw [phases_enter_of_ne (hreport report hmem)]
    exact h.reports_over report hmem
  case reports_nodup => exact h.reports_nodup

/-! ## Steps and runs -/

/-- A call to the file system keeps track, when a file that it opens is new. -/
theorem Tracked.fileCall {files : ReportFiles} (h : Tracked manager files) {task : Nat}
    {allowed streamOpen : Bool} {call : FileCall} {next : Bool → FileCode (Result × String)}
    (hphase : files.phases task = .creating (.issue streamOpen call next))
    (hnew : files.OpensNew (.fileCall task allowed)) :
    Tracked manager ((files.answer task allowed call).2.enter task
      (.ofCode (next (files.answer task allowed call).1))) := by
  have htracks := h.phases task
  rw [hphase] at htracks
  have hrunning : (files.phases task).running = true := by
    rw [hphase]
    rfl
  have hover : ∀ phase : ReportPhase,
      (files.phases task).running = false → phase.running = false := by
    intro phase hfalse
    rw [hrunning] at hfalse
    cases hfalse
  cases call with
  | fileExists path => exact h.enter (hover _) (ReportPhase.tracks_ofCode (htracks _))
  | createDirectory path =>
    by_cases hexists : path ∈ files.paths
    · rw [answer, if_pos hexists]
      exact h.enter (hover _) (ReportPhase.tracks_ofCode (htracks false))
    · rw [answer, if_neg hexists]
      exact (h.withPath path).enter (hover _) (ReportPhase.tracks_ofCode (htracks true))
  | openStream path =>
    cases allowed with
    | false => exact h.enter (hover _) (ReportPhase.tracks_ofCode (htracks false))
    | true =>
      exact h.openStream hrunning (hnew path (by rw [hphase]; rfl))
        (ReportPhase.tracks_ofCode (htracks true))

/-- A commit keeps track. -/
theorem Tracked.commit {files : ReportFiles} (h : Tracked manager files) {task : Nat}
    {streamOpen : Bool} {filepath : String}
    (hphase : files.phases task = .inserted streamOpen filepath) :
    Tracked manager { files.enter task .committed with
      reports := (task, filepath) :: files.reports } := by
  have htracks := h.phases task
  rw [hphase] at htracks
  have henter : Tracked manager (files.enter task .committed) := h.enter (fun _ => rfl) trivial
  refine { henter with
    reports_opened := ?_
    reports_over := ?_
    reports_nodup := ?_ }
  · intro report hreport
    rcases List.mem_cons.mp hreport with rfl | hreport
    · exact htracks
    · exact h.reports_opened report hreport
  · intro report hreport
    rcases List.mem_cons.mp hreport with rfl | hreport
    · show ((files.enter task .committed).phases task).running = false
      rw [phases_enter_self]
      rfl
    · exact henter.reports_over report hreport
  · refine List.nodup_cons.mpr ⟨?_, h.reports_nodup⟩
    intro hmem
    obtain ⟨report, hreport, rfl⟩ := List.mem_map.mp hmem
    have hover := h.reports_over report hreport
    rw [hphase] at hover
    cases hover

/-- Every step that opens only new files keeps track. -/
theorem Tracked.step {files : ReportFiles} (h : Tracked manager files) {event : ReportEvent}
    (hnew : files.OpensNew event) :
    Tracked manager (files.step manager dateProvider tasks event) := by
  cases event with
  | createReportFile task generateRandomString =>
    cases hphase : files.phases task <;> simp only [ReportFiles.step, hphase]
    case collecting streamOpen =>
      refine h.enter (fun hover => ?_) (ReportPhase.tracks_createFile ..)
      rw [hphase] at hover
      cases hover
    all_goals exact h
  | fileCall task allowed =>
    rcases hphase : files.phases task with _ | code | _ | _ | _ | _ | _ <;>
      simp only [ReportFiles.step, hphase]
    case creating =>
      cases code with
      | issue streamOpen call next => exact h.fileCall hphase hnew
      | _ => exact h
    all_goals exact h
  | insertReport task =>
    cases hphase : files.phases task <;> simp only [ReportFiles.step, hphase]
    case created streamOpen filepath =>
      have htracks := h.phases task
      rw [hphase] at htracks
      refine h.enter (fun hover => ?_) htracks
      rw [hphase] at hover
      cases hover
    all_goals exact h
  | commit task =>
    cases hphase : files.phases task <;> simp only [ReportFiles.step, hphase]
    case inserted streamOpen filepath => exact h.commit hphase
    all_goals exact h
  | retry task =>
    cases hphase : files.phases task <;> simp only [ReportFiles.step, hphase]
    case created | inserted =>
      refine h.enter (fun hover => ?_) trivial
      rw [hphase] at hover
      cases hover
    all_goals exact h
  | fail task =>
    by_cases hrunning : (files.phases task).running = true
    · rw [ReportFiles.step, if_pos hrunning]
      refine h.enter (fun _ => rfl) ?_
      show files.opened task = none
      rcases hopened : files.opened task with _ | path
      · rfl
      · exact absurd rfl (hnew hrunning _ (mem_openings_of_opened hopened))
    · rw [ReportFiles.step, if_neg hrunning]
      exact h
  | write task =>
    cases hphase : files.phases task <;> simp only [ReportFiles.step, hphase]
    case committed => exact h.enter (fun _ => rfl) trivial
    all_goals exact h

/-- Every run that opens only new files keeps track. -/
theorem Tracked.run {files : ReportFiles} (h : Tracked manager files) (events : List ReportEvent)
    (hnew : files.AllOpenNew manager dateProvider tasks events) :
    Tracked manager (files.run manager dateProvider tasks events) := by
  induction events generalizing files with
  | nil => exact h
  | cons event events ih => exact ih (h.step hnew.1) hnew.2

/-- Reports and files correspond in every state of a run in which every file that is opened is
new and no transaction fails after its task has opened a file, whatever existed before. -/
theorem corresponds_of_opensNew (manager : DocumentManager) (dateProvider : DateProvider)
    (tasks : Nat → ReportTask) (paths : List LexicalPath) (events : List ReportEvent)
    (hnew : AllOpenNew manager dateProvider tasks { paths } events) :
    (run manager dateProvider tasks events { paths }).Corresponds manager :=
  ((tracked_init manager paths).run events hnew).corresponds

/-! ## Reports of one second -/

/-- Dates that are the same all the time. -/
def stillDates : DateProvider where
  getTimestamp _ := 0
  toIsoTimeString _ := "1970-01-01'T'00:00:00"
  fromIsoTimeString _ := none

/-- The directories of the reports by period, below the default root. -/
def reportDirectories : List LexicalPath :=
  [".", "./reports", "./reports/ByPeriod"].map LexicalPath.ofString

/-- Two reports by period, a current one and another one, all of one second. -/
def reportsOfOneSecond (task : Nat) : ReportTask :=
  ⟨if task < 2 then .byPeriod else .current, 0⟩

/-- The calls of three tasks in between one another. The second one looks for its file after the
first one has opened it, and takes another name; the third one creates a directory; the fourth one
fails before it has a file. -/
def interleavedReports : List ReportEvent :=
  [.createReportFile 0 fun _ => "AAAAAA==", .createReportFile 1 fun _ => "BBBBBB==",
    .createReportFile 2 fun _ => "CCCCCC==", .fileCall 0 false, .fileCall 2 false,
    .fileCall 0 false, .fileCall 2 false, .fail 3, .fileCall 0 false, .fileCall 2 false,
    .fileCall 0 false, .fileCall 0 true, .fileCall 1 false, .fileCall 2 false, .fileCall 1 false,
    .insertReport 0, .fileCall 2 false, .fileCall 1 false, .fileCall 2 true, .fileCall 1 false,
    .insertReport 2, .commit 2, .fileCall 1 false, .fileCall 1 true, .insertReport 1, .commit 0,
    .write 0, .commit 1, .write 2, .write 1]

/-- All three are committed with files of their own. -/
theorem corresponds_of_opensNew_interleavedReports :
    let files := run {} stillDates reportsOfOneSecond interleavedReports
      { paths := reportDirectories }
    files.Corresponds {} ∧ files.reports =
      [(1, "reports/ByPeriod/1970_01_01_T_00_00_00.htmlBBBBBB=="),
        (0, "reports/ByPeriod/1970_01_01_T_00_00_00.html"),
        (2, "reports/Current/1970_01_01_T_00_00_00.html")] :=
  ⟨corresponds_of_opensNew {} stillDates reportsOfOneSecond reportDirectories interleavedReports
    (by decide +kernel), by decide +kernel⟩

/-- What a task does until it opens a file whose directories exist. -/
def untilOpenStream (task : Nat) : List ReportEvent :=
  .createReportFile task (fun _ => "AAAAAA==") :: List.replicate 4 (.fileCall task false)

/-- Two reports by period of one second that look for the file before either opens it get the same
file, and both are committed with it; and a task that fails at the insertion leaves its file. -/
theorem not_corresponds :
    ¬ (run {} stillDates (fun _ => ⟨.byPeriod, 0⟩)
        (untilOpenStream 0 ++ untilOpenStream 1 ++
          [.fileCall 0 true, .fileCall 1 true, .insertReport 0, .insertReport 1, .commit 0,
            .commit 1])
        { paths := reportDirectories }).Corresponds {} ∧
      ¬ (run {} stillDates (fun _ => ⟨.byPeriod, 0⟩)
        (untilOpenStream 0 ++ [.fileCall 0 true, .fail 0])
        { paths := reportDirectories }).Corresponds {} := by
  constructor
  · intro h
    exact absurd h.distinct (by decide +kernel)
  · intro h
    exact h.clean 0 (LexicalPath.ofString "./reports/ByPeriod/1970_01_01_T_00_00_00.html")
      (by decide +kernel) (by decide +kernel)

end ReportFiles

end TaskMgr.Tasks

import WarehouseAccounting.Foundations.Resumption
import WarehouseAccounting.Foundations.RowLocality

/-!
# Snapshot isolation

Transactions whose statements are interleaved. Every transaction reads the rows that were
committed when it began, and what it has written itself; the first of two transactions that
change one row wins; keys and references are checked against what is committed. A transaction
whose statements address rows only that it also writes runs as if it were alone.

- `System`, `Step`: the committed rows and the transactions under way.
- `System.advance`: the steps, computed.
- `Client.Guarded`: what is asked of a transaction.
- `serial_of_reachable`: at all times, the committed rows are what the committed transactions
  leave, run one at a time in the order of their commits.
- `Reachable.preserves`: what each transaction keeps alone, all of them keep together.
-/

namespace SnapshotIsolation

open Relational

variable {T C ι μ ε Q R α : Type}

/-! ## Transactions -/

/-- A transaction: its program, what each of its statements answers and writes, and how a
statement fails that breaks a constraint. -/
structure Client (T C μ ε Q R α : Type) where
  program : Program μ ε Q R α
  perform : Nat → Q → Db T C → Except ε (R × List (Write T C))
  refusal : ε

/-- How far a transaction has got: its statements that were answered, and what each of them has
written. -/
structure Progress (T C Q : Type) where
  statements : List (Q × List (Write T C)) := []

namespace Progress

/-- The number of the next statement. -/
def issued (progress : Progress T C Q) : Nat := progress.statements.length

/-- What each of the statements has written. -/
def blocks (progress : Progress T C Q) : List (List (Write T C)) := progress.statements.map Prod.snd

/-- All that has been written. -/
def writes (progress : Progress T C Q) : List (Write T C) := progress.blocks.flatten

/-- The keys of what has been written. -/
def keys (schema : Schema T C) (progress : Progress T C Q) : List (Key T) :=
  progress.writes.map (Write.key schema)

/-- The keys that the statements have addressed. -/
def addressed (addresses : Q → List (Key T)) (progress : Progress T C Q) : List (Key T) :=
  progress.statements.flatMap fun statement => addresses statement.1

/-- One more statement. -/
def add (progress : Progress T C Q) (question : Q) (writes : List (Write T C)) :
    Progress T C Q where
  statements := progress.statements ++ [(question, writes)]

@[simp]
theorem writes_nil : ({} : Progress T C Q).writes = [] := rfl

@[simp]
theorem issued_nil : ({} : Progress T C Q).issued = 0 := rfl

@[simp]
theorem issued_add (progress : Progress T C Q) (question : Q) (writes : List (Write T C)) :
    (progress.add question writes).issued = progress.issued + 1 := by
  simp [issued, add]

@[simp]
theorem blocks_add (progress : Progress T C Q) (question : Q) (writes : List (Write T C)) :
    (progress.add question writes).blocks = progress.blocks ++ [writes] := by
  simp [blocks, add]

@[simp]
theorem writes_add (progress : Progress T C Q) (question : Q) (writes : List (Write T C)) :
    (progress.add question writes).writes = progress.writes ++ writes := by
  simp [Progress.writes]

@[simp]
theorem addressed_add (addresses : Q → List (Key T)) (progress : Progress T C Q) (question : Q)
    (writes : List (Write T C)) :
    (progress.add question writes).addressed addresses =
      progress.addressed addresses ++ addresses question := by
  simp [addressed, add]

end Progress

variable [DecidableEq T] [DecidableEq C]

namespace Client

variable (schema : Schema T C) (client : Client T C μ ε Q R α)

/-- The statements of a transaction on a snapshot. -/
def step (snapshot : Db T C) (progress : Progress T C Q) (question : Q) (response : R)
    (progress' : Progress T C Q) : Prop :=
  ∃ writes, client.perform progress.issued question (applyAll schema progress.writes snapshot) =
      .ok (response, writes) ∧
    progress' = progress.add question writes

/-- The database, when the transaction is alone. -/
def answers : Program.Answers ε Q R (Db T C) := fun clock question db => do
  let (response, writes) ← client.perform clock question db
  if accepts schema writes db then
    return (response, applyAll schema writes db)
  else
    throw client.refusal

/-- What the transaction leaves when it is alone, unless it fails. -/
def alone (db : Db T C) : Option (Db T C) :=
  let ran := client.program.run (client.answers schema) 0 db
  match ran.outcome with
  | .ok _ => some ran.state
  | .error _ => none

end Client

/-- What some transactions leave one after the other, unless one of them fails. -/
def serial (schema : Schema T C) (clients : ι → Client T C μ ε Q R α) (log : List ι)
    (db : Db T C) : Option (Db T C) :=
  log.foldlM (fun db i => (clients i).alone schema db) db

/-! ## Interleavings -/

/-- A transaction under way. -/
structure Active (T C μ ε Q R α : Type) where
  snapshot : Db T C
  /-- The keys that others have committed since. -/
  overwritten : List (Key T) := []
  progress : Progress T C Q := {}
  rest : Program μ ε Q R α

/-- The transaction has got an answer. -/
def Active.answered (active : Active T C μ ε Q R α) (progress : Progress T C Q)
    (rest : Program μ ε Q R α) : Active T C μ ε Q R α where
  snapshot := active.snapshot
  overwritten := active.overwritten
  progress := progress
  rest := rest

/-- Others have committed some keys. -/
def Active.overwrite (keys : List (Key T)) (active : Active T C μ ε Q R α) :
    Active T C μ ε Q R α where
  snapshot := active.snapshot
  overwritten := active.overwritten ++ keys
  progress := active.progress
  rest := active.rest

/-- Where a transaction is. -/
inductive Status (T C μ ε Q R α : Type) where
  | waiting
  | running (active : Active T C μ ε Q R α)
  | over

/-- Another transaction has committed some keys. -/
def Status.overwrite (keys : List (Key T)) :
    Status T C μ ε Q R α → Status T C μ ε Q R α
  | .running active => .running (active.overwrite keys)
  | .waiting => .waiting
  | .over => .over

/-- The committed rows, the transactions that have committed, and where each of them is. -/
structure System (T C ι μ ε Q R α : Type) where
  committed : Db T C
  log : List ι := []
  status : ι → Status T C μ ε Q R α := fun _ => .waiting

namespace System

variable [DecidableEq ι] (system : System T C ι μ ε Q R α)

/-- One transaction is somewhere else. -/
def set (i : ι) (status : Status T C μ ε Q R α) : System T C ι μ ε Q R α where
  committed := system.committed
  log := system.log
  status := Function.update system.status i status

/-- One transaction has committed its writes, which are news to the others. -/
def commit (schema : Schema T C) (i : ι) (progress : Progress T C Q) : System T C ι μ ε Q R α where
  committed := applyAll schema progress.writes system.committed
  log := system.log ++ [i]
  status := Function.update (fun j => (system.status j).overwrite (progress.keys schema)) i .over

omit [DecidableEq T] [DecidableEq C] in
/-- Only this transaction is somewhere else. -/
theorem set_status (i j : ι) (status : Status T C μ ε Q R α) :
    (system.set i status).status j = if j = i then status else system.status j :=
  Function.update_apply system.status i status j

omit [DecidableEq C] in
/-- The transaction is over, and its writes are news to all others. -/
theorem commit_status (schema : Schema T C) (i j : ι) (progress : Progress T C Q) :
    (system.commit schema i progress).status j =
      if j = i then .over else (system.status j).overwrite (progress.keys schema) :=
  Function.update_apply (fun j => (system.status j).overwrite (progress.keys schema)) i
    Status.over j

end System

/-- One step of one transaction. -/
inductive Step [DecidableEq ι] (schema : Schema T C)
    (clients : ι → Client T C μ ε Q R α) :
    System T C ι μ ε Q R α → System T C ι μ ε Q R α → Prop
  /-- A transaction takes its snapshot. -/
  | start {system : System T C ι μ ε Q R α} (i : ι) (waiting : system.status i = .waiting) :
      Step schema clients system
        (system.set i (.running { snapshot := system.committed, rest := (clients i).program }))
  /-- A statement is answered. Rows that it changes were not changed by others since the
  snapshot, its keys are not being written by others, and the constraints are met. -/
  | statement {system : System T C ι μ ε Q R α} (i : ι) {active : Active T C μ ε Q R α}
      (running : system.status i = .running active) {memory : μ} {question : Q}
      {next : R → Program μ ε Q R α} (asks : active.rest = .issue memory question next)
      {response : R} {writes : List (Write T C)}
      (performed : (clients i).perform active.progress.issued question
        (applyAll schema active.progress.writes active.snapshot) = .ok (response, writes))
      (accepted : accepts schema writes
        (applyAll schema active.progress.writes system.committed) = true)
      (unchanged : ∀ write ∈ writes, write.Changes → write.key schema ∉ active.overwritten)
      (unlocked : ∀ j, j ≠ i → ∀ other, system.status j = .running other →
        ∀ write ∈ writes, write.key schema ∉ other.progress.keys schema) :
      Step schema clients system (system.set i (.running (active.answered
        (active.progress.add question writes) (next response))))
  /-- A transaction is given up, for whatever reason. -/
  | rollback {system : System T C ι μ ε Q R α} (i : ι) {active : Active T C μ ε Q R α}
      (running : system.status i = .running active) :
      Step schema clients system (system.set i .over)
  /-- A transaction that has ended is committed. -/
  | commit {system : System T C ι μ ε Q R α} (i : ι) {active : Active T C μ ε Q R α}
      (running : system.status i = .running active) {memory : μ} {value : α}
      (done : active.rest = .done memory value) :
      Step schema clients system (system.commit schema i active.progress)

/-- The systems that interleavings lead to. -/
inductive Reachable [DecidableEq ι] (schema : Schema T C)
    (clients : ι → Client T C μ ε Q R α) (initial : Db T C) : System T C ι μ ε Q R α → Prop
  | start : Reachable schema clients initial { committed := initial }
  | step {system system' : System T C ι μ ε Q R α}
      (before : Reachable schema clients initial system)
      (next : Step schema clients system system') :
      Reachable schema clients initial system'

/-! ## Runs that are computed -/

/-- What a transaction does next. -/
inductive Action (ι : Type) where
  | start (i : ι)
  | statement (i : ι)
  | rollback (i : ι)
  | commit (i : ι)

/-- Nobody else is writing the key. -/
def Status.leaves (schema : Schema T C) (key : Key T) : Status T C μ ε Q R α → Bool
  | .running other => key ∉ other.progress.keys schema
  | .waiting => true
  | .over => true

/-- The write changes no row that others have changed since the snapshot. -/
def Active.wins (schema : Schema T C) (active : Active T C μ ε Q R α) : Write T C → Bool
  | .insert _ _ => true
  | .replace key row => (Write.replace key row : Write T C).key schema ∉ active.overwritten
  | .delete key => (Write.delete key : Write T C).key schema ∉ active.overwritten

section Computed

variable [DecidableEq ι] [Fintype ι] (schema : Schema T C) (clients : ι → Client T C μ ε Q R α)

/-- The system after an action, if it is possible. -/
def System.advance (system : System T C ι μ ε Q R α) :
    Action ι → Option (System T C ι μ ε Q R α)
  | .start i =>
    match system.status i with
    | .waiting => some (system.set i
        (.running { snapshot := system.committed, rest := (clients i).program }))
    | _ => none
  | .statement i =>
    match system.status i with
    | .running active =>
      match active.rest with
      | .issue _ question next =>
        match (clients i).perform active.progress.issued question
            (applyAll schema active.progress.writes active.snapshot) with
        | .ok (response, writes) =>
          if
            accepts schema writes (applyAll schema active.progress.writes system.committed) = true ∧
              writes.all (active.wins schema) = true ∧
              ∀ j, j ≠ i → writes.all (fun write =>
                (system.status j).leaves schema (write.key schema)) = true then
            some (system.set i (.running (active.answered
              (active.progress.add question writes) (next response))))
          else
            none
        | .error _ => none
      | _ => none
    | _ => none
  | .rollback i =>
    match system.status i with
    | .running _ => some (system.set i .over)
    | _ => none
  | .commit i =>
    match system.status i with
    | .running active =>
      match active.rest with
      | .done _ _ => some (system.commit schema i active.progress)
      | _ => none
    | _ => none

variable {schema clients}

/-- What is computed is a step. -/
theorem Step.of_advance {system system' : System T C ι μ ε Q R α} {action : Action ι}
    (h : system.advance schema clients action = some system') :
    Step schema clients system system' := by
  cases action with
  | start i =>
    rw [System.advance] at h
    split at h
    · rename_i waiting
      cases h
      exact .start i waiting
    · cases h
  | statement i =>
    rw [System.advance] at h
    split at h
    · rename_i active running
      split at h
      · rename_i memory question next asks
        split at h
        · rename_i response writes performed
          split at h
          · rename_i hallowed
            obtain ⟨accepted, hwins, hleaves⟩ := hallowed
            cases h
            refine .statement i running asks performed accepted ?_ ?_
            · intro write hwrite hchange
              have hwin := List.all_eq_true.mp hwins write hwrite
              cases write with
              | insert table row => exact hchange.elim
              | replace key row => exact of_decide_eq_true hwin
              | delete key => exact of_decide_eq_true hwin
            · intro j hji other hother write hwrite
              have hleave := List.all_eq_true.mp (hleaves j hji) write hwrite
              rw [hother] at hleave
              exact of_decide_eq_true hleave
          · cases h
        · cases h
      · cases h
    · cases h
  | rollback i =>
    rw [System.advance] at h
    split at h
    · rename_i active running
      cases h
      exact .rollback i running
    · cases h
  | commit i =>
    rw [System.advance] at h
    split at h
    · rename_i active running
      split at h
      · rename_i memory value done
        cases h
        exact .commit i running done
      · cases h
    · cases h

/-- What is computed from a system that is reached is reached. -/
theorem Reachable.of_foldlM {initial : Db T C} {system system' : System T C ι μ ε Q R α}
    (h : Reachable schema clients initial system) {actions : List (Action ι)}
    (hactions : actions.foldlM (System.advance schema clients) system = some system') :
    Reachable schema clients initial system' := by
  induction actions generalizing system with
  | nil =>
    cases hactions
    exact h
  | cons action actions ih =>
    rw [List.foldlM_cons] at hactions
    obtain ⟨middle, hmiddle, hrest⟩ := Option.bind_eq_some_iff.mp hactions
    exact ih (h.step (Step.of_advance hmiddle)) hrest

/-- What is computed from a system comes after it. -/
theorem Step.of_foldlM {system system' : System T C ι μ ε Q R α} {actions : List (Action ι)}
    (hactions : actions.foldlM (System.advance schema clients) system = some system') :
    Relation.ReflTransGen (Step schema clients) system system' := by
  induction actions generalizing system with
  | nil =>
    cases hactions
    exact .refl
  | cons action actions ih =>
    rw [List.foldlM_cons] at hactions
    obtain ⟨middle, hmiddle, hrest⟩ := Option.bind_eq_some_iff.mp hactions
    exact .head (Step.of_advance hmiddle) (ih hrest)

end Computed

/-! ## Guarded transactions -/

/-- A key that was addressed is protected by what was written: a row under it is changed; or it is
inserted, and was not there. -/
def Covered (schema : Schema T C) (snapshot : Db T C) (writes : List (Write T C)) (key : Key T) :
    Prop :=
  (∃ write ∈ writes, write.Changes ∧ write.key schema = key) ∨
    (∃ write ∈ writes, write.key schema = key) ∧
      (schema.childrenOf key.table ≠ [] ∨
        Absent schema snapshot key)

section Covered

variable {schema : Schema T C} {snapshot : Db T C} {writes : List (Write T C)} {key : Key T}

omit [DecidableEq C] in
/-- More writes protect no less. -/
theorem Covered.mono (h : Covered schema snapshot writes key) {others : List (Write T C)}
    (hsubset : ∀ write ∈ writes, write ∈ others) : Covered schema snapshot others key := by
  rcases h with ⟨write, hwrite, hchange⟩ | ⟨⟨write, hwrite, hkey⟩, hnew⟩
  · exact .inl ⟨write, hsubset write hwrite, hchange⟩
  · exact .inr ⟨⟨write, hsubset write hwrite, hkey⟩, hnew⟩

omit [DecidableEq C] in
/-- A key that was found absent and is then inserted is protected. -/
theorem covered_of_inserted {earlier : List (Write T C)}
    (habsent : Absent schema (applyAll schema earlier snapshot) key)
    (hearlier : ∀ write ∈ earlier, write ∈ writes)
    (hwritten : ∃ write ∈ writes, write.key schema = key) :
    Covered schema snapshot writes key := by
  by_cases hchanges : ∃ write ∈ earlier, write.Changes ∧ write.key schema = key
  · obtain ⟨write, hwrite, hchange⟩ := hchanges
    exact .inl ⟨write, hearlier write hwrite, hchange⟩
  · refine .inr ⟨hwritten, .inr (habsent.of_applyAll fun write hwrite hchange heq => ?_)⟩
    exact hchanges ⟨write, hwrite, hchange, heq⟩

omit [DecidableEq C] in
/-- A key that was found is protected when it is changed, unless it has gone in between. -/
theorem covered_of_found {db : Db T C} {between : List (Write T C)}
    (hfound : ¬ Absent schema db key) (hbetween : ∀ write ∈ between, write ∈ writes)
    (hchanged : ¬ Absent schema (applyAll schema between db) key →
      ∃ write ∈ writes, write.Changes ∧ write.key schema = key) :
    Covered schema snapshot writes key := by
  by_cases hchanges : ∃ write ∈ between, write.Changes ∧ write.key schema = key
  · obtain ⟨write, hwrite, hchange⟩ := hchanges
    exact .inl ⟨write, hbetween write hwrite, hchange⟩
  · refine .inl (hchanged fun habsent => hfound (habsent.of_applyAll ?_))
    exact fun write hwrite hchange heq => hchanges ⟨write, hwrite, hchange, heq⟩

end Covered

/-- The transaction makes plain writes, its statements see only the rows that they address, and
when it has come to its end, all that it has addressed is protected by its writes. -/
structure Client.Guarded (schema : Schema T C) (addresses : Q → List (Key T))
    (client : Client T C μ ε Q R α) : Prop where
  plain : client.program.AllQuestions fun question => ∀ clock db response writes,
    client.perform clock question db = .ok (response, writes) →
      ∀ write ∈ writes, write.Plain schema
  locality : client.program.AllQuestions fun question => ∀ clock db other,
    restrict schema (fun key => decide (key ∈ addresses question)) db =
        restrict schema (fun key => decide (key ∈ addresses question)) other →
      client.perform clock question db = client.perform clock question other
  covered : ∀ snapshot progress memory value,
    client.program.Completes (client.step schema snapshot) {} progress memory value →
      ∀ key ∈ progress.addressed addresses, Covered schema snapshot progress.writes key

section Alone

variable {schema : Schema T C} {addresses : Q → List (Key T)} {client : Client T C μ ε Q R α}

omit [DecidableEq C] in
/-- A transaction only goes on. -/
theorem Client.completes_grows (addresses : Q → List (Key T)) {snapshot : Db T C}
    {program : Program μ ε Q R α}
    {progress final : Progress T C Q} {memory : μ} {value : α}
    (h : program.Completes (client.step schema snapshot) progress final memory value) :
    (∀ key ∈ progress.addressed addresses, key ∈ final.addressed addresses) ∧
      ∃ later, final.blocks = progress.blocks ++ later := by
  induction program generalizing progress with
  | done memory' value' =>
    obtain ⟨rfl, -, -⟩ := h
    exact ⟨fun _ hkey => hkey, [], (List.append_nil _).symm⟩
  | fail memory' failure => exact h.elim
  | issue memory' question next ih =>
    obtain ⟨response, middle, ⟨writes, -, rfl⟩, hrest⟩ := h
    obtain ⟨haddressed, later, hblocks⟩ := ih response hrest
    rw [Progress.addressed_add] at haddressed
    refine ⟨fun key hkey => haddressed key (List.mem_append_left _ hkey), writes :: later, ?_⟩
    rw [hblocks, Progress.blocks_add, List.append_assoc, List.singleton_append]

/-- A transaction that has come to its end on a snapshot comes to the same end on rows that agree
with the snapshot where it has looked, when they accept what it writes. -/
theorem Client.run_of_completes {snapshot db : Db T C} {program : Program μ ε Q R α}
    (hlocal : program.AllQuestions fun question => ∀ clock db other,
      restrict schema (fun key => decide (key ∈ addresses question)) db =
          restrict schema (fun key => decide (key ∈ addresses question)) other →
        client.perform clock question db = client.perform clock question other)
    {progress final : Progress T C Q} {memory : μ} {value : α}
    (h : program.Completes (client.step schema snapshot) progress final memory value)
    (hagree : restrict schema (fun key => decide (key ∈ final.addressed addresses)) snapshot =
      restrict schema (fun key => decide (key ∈ final.addressed addresses)) db)
    (hplain : ∀ write ∈ final.writes, write.Plain schema)
    (haccepted : AllAccepted schema final.blocks db) :
    let ran := program.run (client.answers schema) progress.issued
      (applyAll schema progress.writes db)
    ran.outcome = .ok value ∧ ran.state = applyAll schema final.writes db := by
  induction program generalizing progress with
  | done memory' value' =>
    obtain ⟨rfl, -, rfl⟩ := h
    exact ⟨rfl, rfl⟩
  | fail memory' failure => exact h.elim
  | issue memory' question next ih =>
    obtain ⟨response, middle, ⟨writes, hperform, rfl⟩, hrest⟩ := h
    obtain ⟨haddressed, later, hblocks⟩ := completes_grows addresses hrest
    rw [Progress.addressed_add] at haddressed
    have hflatten : final.writes = progress.writes ++ (writes ++ later.flatten) := by
      rw [Progress.writes, hblocks, List.flatten_append, ← Progress.writes, Progress.writes_add,
        List.append_assoc]
    -- The rows that the statement addresses are the same here.
    have hsame : client.perform progress.issued question (applyAll schema progress.writes db) =
        .ok (response, writes) := by
      rw [← hperform]
      refine hlocal.1 _ _ _ (restrict_applyAll ?_ fun write hwrite => hplain write ?_)
      · refine (restrict_congr_of_imp hagree fun key hkey => ?_).symm
        rw [decide_eq_true_eq] at hkey ⊢
        exact haddressed key (List.mem_append_right _ hkey)
      · rw [hflatten]
        exact List.mem_append_left _ hwrite
    have haccepts : accepts schema writes (applyAll schema progress.writes db) = true := by
      rw [hblocks, Progress.blocks_add, List.append_assoc, allAccepted_append] at haccepted
      exact haccepted.2.1
    have hanswer : client.answers schema progress.issued question
        (applyAll schema progress.writes db) =
          .ok (response, applyAll schema (progress.add question writes).writes db) := by
      rw [Progress.writes_add, applyAll_append]
      simp [answers, hsame, haccepts, bind, Except.bind, pure, Except.pure]
    rw [Program.run_issue_of_ok hanswer]
    have hnext := ih response (hlocal.2 response) hrest
    rw [Progress.issued_add] at hnext
    exact hnext

/-- A guarded transaction that can be committed leaves the same when it is alone. -/
theorem Client.Guarded.alone_eq (h : client.Guarded schema addresses) {snapshot committed : Db T C}
    {overwritten : List (Key T)} {progress : Progress T C Q} {memory : μ} {value : α}
    (hcompletes : client.program.Completes (client.step schema snapshot) {} progress
      memory value)
    (hunchanged : restrict schema (fun key => decide (key ∉ overwritten)) snapshot =
      restrict schema (fun key => decide (key ∉ overwritten)) committed)
    (hparents : ∀ table, schema.childrenOf table ≠ [] →
      ∀ row ∈ snapshot table, row ∈ committed table)
    (hplain : ∀ write ∈ progress.writes, write.Plain schema)
    (hfirst : ∀ write ∈ progress.writes, write.Changes → write.key schema ∉ overwritten)
    (haccepted : AllAccepted schema progress.blocks committed) :
    client.alone schema committed = some (applyAll schema progress.writes committed) := by
  have hagree : restrict schema (fun key => decide (key ∈ progress.addressed addresses)) snapshot =
      restrict schema (fun key => decide (key ∈ progress.addressed addresses)) committed := by
    refine restrict_congr_of_absent hunchanged fun key hkey => ?_
    have hcovered := h.covered snapshot progress memory value hcompletes key
      (of_decide_eq_true hkey)
    by_cases hchanges : ∃ write ∈ progress.writes, write.Changes ∧ write.key schema = key
    · -- The first of two transactions that change a row has won, and it is this one.
      obtain ⟨write, hwrite, hchange, rfl⟩ := hchanges
      exact .inl (decide_eq_true (hfirst write hwrite hchange))
    · obtain ⟨hwritten, hsnapshot⟩ := hcovered.resolve_left hchanges
      have hcommitted : Absent schema committed key :=
        rows_of_inserted haccepted.checkAll hwritten
          fun write hwrite hchange heq => hchanges ⟨write, hwrite, hchange, heq⟩
      refine .inr ⟨?_, hcommitted⟩
      rcases hsnapshot with hchildren | habsent
      · intro row hrow
        exact hcommitted row (hparents key.table hchildren row hrow)
      · exact habsent
  have hran := run_of_completes h.locality hcompletes hagree hplain haccepted
  obtain ⟨houtcome, hstate⟩ := hran
  rw [Progress.writes_nil, Progress.issued_nil, applyAll_nil] at houtcome hstate
  unfold alone
  dsimp only
  rw [houtcome, hstate]

end Alone

/-! ## What holds at all times -/

/-- What holds of a transaction under way: its snapshot is what is committed, but for the rows
that others have changed since; its writes could follow on what is committed; and its program
is what its answers have left of the whole. -/
structure Active.Sound (schema : Schema T C) (addresses : Q → List (Key T))
    (client : Client T C μ ε Q R α) (committed : Db T C) (active : Active T C μ ε Q R α) :
    Prop where
  unchanged : restrict schema (fun key => decide (key ∉ active.overwritten)) active.snapshot =
    restrict schema (fun key => decide (key ∉ active.overwritten)) committed
  parents : ∀ table, schema.childrenOf table ≠ [] →
    ∀ row ∈ active.snapshot table, row ∈ committed table
  plain : ∀ write ∈ active.progress.writes, write.Plain schema
  won : ∀ write ∈ active.progress.writes, write.Changes →
    write.key schema ∉ active.overwritten
  accepted : AllAccepted schema active.progress.blocks committed
  asksPlain : active.rest.AllQuestions fun question => ∀ clock db response writes,
    client.perform clock question db = .ok (response, writes) →
      ∀ write ∈ writes, write.Plain schema
  continues : ∀ final memory value,
    active.rest.Completes (client.step schema active.snapshot) active.progress final
        memory value →
      client.program.Completes (client.step schema active.snapshot) {} final memory value

section Sound

variable {schema : Schema T C} {addresses : Q → List (Key T)} {client : Client T C μ ε Q R α}
  {committed : Db T C} {active : Active T C μ ε Q R α}

/-- It holds when a transaction begins. -/
theorem Active.Sound.start (h : client.Guarded schema addresses) (committed : Db T C) :
    Sound schema addresses client committed
      { snapshot := committed, rest := client.program } where
  unchanged := rfl
  parents := fun _ _ _ hrow => hrow
  plain := by simp
  won := by simp
  accepted := trivial
  asksPlain := h.plain
  continues := fun _ _ _ hcompletes => hcompletes

/-- An answer keeps it. -/
theorem Active.Sound.answered (h : active.Sound schema addresses client committed) {memory : μ}
    {question : Q} {next : R → Program μ ε Q R α}
    (hasks : active.rest = .issue memory question next)
    {response : R} {writes : List (Write T C)}
    (hperformed : client.perform active.progress.issued question
      (applyAll schema active.progress.writes active.snapshot) = .ok (response, writes))
    (haccepted : accepts schema writes
      (applyAll schema active.progress.writes committed) = true)
    (hunchanged : ∀ write ∈ writes, write.Changes → write.key schema ∉ active.overwritten) :
    (active.answered (active.progress.add question writes) (next response)).Sound
      schema addresses client committed := by
  have hasksPlain := h.asksPlain
  rw [hasks] at hasksPlain
  refine ⟨h.unchanged, h.parents, ?_, ?_, ?_, hasksPlain.2 response, ?_⟩
  · intro write hwrite
    rw [Active.answered, Progress.writes_add, List.mem_append] at hwrite
    rcases hwrite with hold | hnew
    · exact h.plain write hold
    · exact hasksPlain.1 _ _ _ _ hperformed write hnew
  · intro write hwrite
    rw [Active.answered, Progress.writes_add, List.mem_append] at hwrite
    rcases hwrite with hold | hnew
    · exact h.won write hold
    · exact hunchanged write hnew
  · rw [Active.answered, Progress.blocks_add, allAccepted_append]
    exact ⟨h.accepted, haccepted, trivial⟩
  · intro final memory' value hcompletes
    refine h.continues final memory' value ?_
    rw [hasks]
    exact ⟨response, _, ⟨writes, hperformed, rfl⟩, hcompletes⟩

/-- Another transaction that commits other keys keeps it. -/
theorem Active.Sound.overwrite (h : active.Sound schema addresses client committed)
    {writes : List (Write T C)} (hplain : ∀ write ∈ writes, write.Plain schema)
    (hdisjoint : ∀ write ∈ active.progress.writes,
      write.key schema ∉ writes.map (Write.key schema)) :
    (active.overwrite (writes.map (Write.key schema))).Sound schema addresses client
      (applyAll schema writes committed) := by
  have hgrown : Grown schema (fun key => decide (key ∉ writes.map (Write.key schema))) committed
      (applyAll schema writes committed) := by
    refine Grown.of_notMem hplain (fun write hwrite => decide_eq_false ?_) committed
    exact fun hnot => hnot (List.mem_map_of_mem hwrite)
  refine ⟨?_, ?_, h.plain, ?_, ?_, h.asksPlain, h.continues⟩
  · -- What the other has written is no longer looked at.
    refine (restrict_congr_of_imp h.unchanged fun key hkey => ?_).trans
      (restrict_congr_of_imp hgrown.rows fun key hkey => ?_)
    · exact decide_eq_true fun hin =>
        of_decide_eq_true hkey (List.mem_append_left _ hin)
    · exact decide_eq_true fun hin =>
        of_decide_eq_true hkey (List.mem_append_right _ hin)
  · intro table htable row hrow
    exact hgrown.parents table htable row (h.parents table htable row hrow)
  · intro write hwrite hchange hin
    rcases List.mem_append.mp hin with hold | hnew
    · exact h.won write hwrite hchange hold
    · exact hdisjoint write hwrite hnew
  · exact h.accepted.of_grown hgrown h.plain fun write hwrite =>
      decide_eq_true (hdisjoint write hwrite)

/-- A transaction that has come to its end leaves the same when it is alone. -/
theorem Active.Sound.alone_eq (h : active.Sound schema addresses client committed)
    (hguarded : client.Guarded schema addresses) {memory : μ} {value : α}
    (hdone : active.rest = .done memory value) :
    client.alone schema committed = some (applyAll schema active.progress.writes committed) := by
  refine hguarded.alone_eq (h.continues active.progress memory value ?_) h.unchanged h.parents
    h.plain h.won h.accepted
  rw [hdone]
  exact ⟨rfl, rfl, rfl⟩

end Sound

variable [DecidableEq ι]

/-- What holds at all times: the committed rows are those of a serial run; every transaction under
way is sound; and no two of them write one key. -/
structure System.Sound (schema : Schema T C) (addresses : Q → List (Key T))
    (clients : ι → Client T C μ ε Q R α) (initial : Db T C) (system : System T C ι μ ε Q R α) :
    Prop where
  serial : serial schema clients system.log initial = some system.committed
  sound : ∀ i active, system.status i = .running active →
    active.Sound schema addresses (clients i) system.committed
  disjoint : ∀ i j, i ≠ j → ∀ active other, system.status i = .running active →
    system.status j = .running other →
      ∀ write ∈ active.progress.writes, write.key schema ∉ other.progress.keys schema

section Steps

variable {schema : Schema T C} {addresses : Q → List (Key T)}
  {clients : ι → Client T C μ ε Q R α} {initial : Db T C} {system : System T C ι μ ε Q R α}

omit [DecidableEq T] [DecidableEq C] in
/-- Who is under way after one transaction has changed its place. -/
theorem System.set_running {i j : ι} {status : Status T C μ ε Q R α}
    {active : Active T C μ ε Q R α} (h : (system.set i status).status j = .running active) :
    i = j ∧ status = .running active ∨ i ≠ j ∧ system.status j = .running active := by
  rw [set_status] at h
  by_cases hij : i = j
  · rw [if_pos hij.symm] at h
    exact .inl ⟨hij, h⟩
  · rw [if_neg (Ne.symm hij)] at h
    exact .inr ⟨hij, h⟩

omit [DecidableEq C] in
/-- Who is under way after a commit. -/
theorem System.commit_running {i j : ι} {progress : Progress T C Q} {active : Active T C μ ε Q R α}
    (h : (system.commit schema i progress).status j = .running active) :
    i ≠ j ∧ ∃ before, system.status j = .running before ∧
      active = before.overwrite (progress.keys schema) := by
  rw [commit_status] at h
  by_cases hij : i = j
  · rw [if_pos hij.symm] at h
    cases h
  · rw [if_neg (Ne.symm hij)] at h
    refine ⟨hij, ?_⟩
    rcases hstatus : system.status j with _ | before | _
    · rw [hstatus] at h
      cases h
    · rw [hstatus] at h
      cases h
      exact ⟨before, rfl, rfl⟩
    · rw [hstatus] at h
      cases h

/-- One transaction that has changed its place, with writes that meet no others. -/
theorem System.Sound.set (h : system.Sound schema addresses clients initial) {i : ι}
    {status : Status T C μ ε Q R α}
    (hsound : ∀ active, status = .running active →
      active.Sound schema addresses (clients i) system.committed)
    (hdisjoint : ∀ active, status = .running active → ∀ j, j ≠ i → ∀ other,
      system.status j = .running other →
        ∀ write ∈ active.progress.writes, write.key schema ∉ other.progress.keys schema) :
    (system.set i status).Sound schema addresses clients initial := by
  refine ⟨h.serial, ?_, ?_⟩
  · intro j active hactive
    rcases System.set_running hactive with ⟨rfl, hstatus⟩ | ⟨-, hold⟩
    · exact hsound active hstatus
    · exact h.sound j active hold
  · intro j k hjk active other hactive hother write hwrite hin
    rcases System.set_running hactive with ⟨rfl, hstatus⟩ | ⟨hij, hold⟩
    · rcases System.set_running hother with ⟨rfl, -⟩ | ⟨hik, hother⟩
      · exact hjk rfl
      · exact hdisjoint active hstatus k (Ne.symm hik) other hother write hwrite hin
    · rcases System.set_running hother with ⟨rfl, hstatus⟩ | ⟨-, hother⟩
      · -- The key is one of both, whoever has come first.
        obtain ⟨write', hwrite', heq⟩ := List.mem_map.mp hin
        refine hdisjoint other hstatus j hjk active hold write' hwrite' ?_
        rw [heq]
        exact List.mem_map_of_mem hwrite
      · exact h.disjoint j k hjk active other hold hother write hwrite hin

/-- A commit keeps what holds. -/
theorem System.Sound.commit (h : system.Sound schema addresses clients initial)
    (hguarded : ∀ i, (clients i).Guarded schema addresses) {i : ι}
    {active : Active T C μ ε Q R α} (hrunning : system.status i = .running active) {memory : μ}
    {value : α} (hdone : active.rest = .done memory value) :
    (system.commit schema i active.progress).Sound schema addresses clients initial := by
  have hactive := h.sound i active hrunning
  refine ⟨?_, ?_, ?_⟩
  · show SnapshotIsolation.serial schema clients (system.log ++ [i]) initial = _
    rw [SnapshotIsolation.serial, List.foldlM_append]
    have hserial := h.serial
    rw [SnapshotIsolation.serial] at hserial
    rw [hserial]
    show (clients i).alone schema system.committed >>= pure = _
    rw [hactive.alone_eq (hguarded i) hdone]
    rfl
  · intro j later hlater
    obtain ⟨hij, before, hbefore, rfl⟩ := System.commit_running hlater
    refine (h.sound j before hbefore).overwrite hactive.plain ?_
    exact h.disjoint j i (Ne.symm hij) before active hbefore hrunning
  · intro j k hjk first second hfirst hsecond
    obtain ⟨-, before, hbefore, rfl⟩ := System.commit_running hfirst
    obtain ⟨-, other, hother, rfl⟩ := System.commit_running hsecond
    exact h.disjoint j k hjk before other hbefore hother

/-- Every step keeps what holds. -/
theorem System.Sound.step (h : system.Sound schema addresses clients initial)
    (hguarded : ∀ i, (clients i).Guarded schema addresses) {system' : System T C ι μ ε Q R α}
    (hstep : Step schema clients system system') :
    system'.Sound schema addresses clients initial := by
  match hstep with
  | .start i waiting =>
    refine h.set ?_ ?_
    · intro active hactive
      cases hactive
      exact Active.Sound.start (hguarded i) system.committed
    · intro active hactive
      cases hactive
      simp
  | .statement i running asks performed accepted unchanged unlocked =>
    refine h.set ?_ ?_
    · intro active hactive
      cases hactive
      exact (h.sound i _ running).answered asks performed accepted unchanged
    · intro active hactive j hji other hother write hwrite
      cases hactive
      rw [Active.answered, Progress.writes_add, List.mem_append] at hwrite
      rcases hwrite with hold | hnew
      · exact h.disjoint i j (Ne.symm hji) _ other running hother write hold
      · exact unlocked j hji other hother write hnew
  | .rollback i running =>
    refine h.set ?_ ?_
    · intro active hactive
      cases hactive
    · intro active hactive
      cases hactive
  | .commit i running done => exact h.commit hguarded running done

/-- Every interleaving of guarded transactions is sound at all times. -/
theorem Reachable.sound (hguarded : ∀ i, (clients i).Guarded schema addresses)
    (h : Reachable schema clients initial system) :
    system.Sound schema addresses clients initial := by
  induction h with
  | start =>
    refine ⟨rfl, ?_, ?_⟩
    · intro i active hactive
      cases hactive
    · intro i j _ active other hactive
      cases hactive
  | step before next ih => exact ih.step hguarded next

/-- At all times, the committed rows are what the committed transactions leave when they are run
one at a time, in the order of their commits. -/
theorem serial_of_reachable (hguarded : ∀ i, (clients i).Guarded schema addresses)
    (h : Reachable schema clients initial system) :
    serial schema clients system.log initial = some system.committed :=
  (h.sound hguarded).serial

/-- What every transaction keeps that is alone, all of them keep together. -/
theorem Reachable.preserves {invariant : Db T C → Prop}
    (hguarded : ∀ i, (clients i).Guarded schema addresses)
    (hstep : ∀ i db db', (clients i).alone schema db = some db' → invariant db → invariant db')
    (h : Reachable schema clients initial system) (hinitial : invariant initial) :
    invariant system.committed := by
  have hlog : ∀ (log : List ι) (db db' : Db T C), serial schema clients log db = some db' →
      invariant db → invariant db' := by
    intro log
    induction log with
    | nil =>
      intro db db' hserial hdb
      cases hserial
      exact hdb
    | cons i log ih =>
      intro db db' hserial hdb
      rw [serial, List.foldlM_cons] at hserial
      obtain ⟨middle, hfirst, hrest⟩ := Option.bind_eq_some_iff.mp hserial
      exact ih middle db' hrest (hstep i db middle hfirst hdb)
  exact hlog _ _ _ (serial_of_reachable hguarded h) hinitial

/-- What comes after a reachable system is reachable. -/
theorem Reachable.later {system' : System T C ι μ ε Q R α}
    (h : Reachable schema clients initial system)
    (hlater : Relation.ReflTransGen (Step schema clients) system system') :
    Reachable schema clients initial system' := by
  induction hlater with
  | refl => exact h
  | tail _ next ih => exact ih.step next

/-- How every transaction changes the rows that is alone, all of them change them together. -/
theorem Reachable.relates {invariant : Db T C → Prop} {related : Db T C → Db T C → Prop}
    (hrefl : ∀ db, related db db)
    (htrans : ∀ db db' db'', related db db' → related db' db'' → related db db'')
    (hguarded : ∀ i, (clients i).Guarded schema addresses)
    (hstep : ∀ i db db', (clients i).alone schema db = some db' → invariant db →
      invariant db' ∧ related db db')
    {system' : System T C ι μ ε Q R α} (h : Reachable schema clients initial system)
    (hlater : Relation.ReflTransGen (Step schema clients) system system')
    (hinitial : invariant initial) : related system.committed system'.committed := by
  induction hlater with
  | refl => exact hrefl _
  | tail path next ih =>
    have hmiddle := h.later path
    refine htrans _ _ _ ih ?_
    -- Only a commit changes what is committed.
    match next with
    | .start i waiting => exact hrefl _
    | .statement i running asks performed accepted unchanged unlocked => exact hrefl _
    | .rollback i running => exact hrefl _
    | .commit i running done =>
      have halone := ((hmiddle.sound hguarded).sound i _ running).alone_eq (hguarded i) done
      exact (hstep i _ _ halone (hmiddle.preserves hguarded
        (fun i db db' halone hdb => (hstep i db db' halone hdb).1) hinitial)).2

end Steps

end SnapshotIsolation

import WarehouseAccounting.DbConnector.Query.Query
import WarehouseAccounting.Foundations.Resumption

/-!
# Transactions

The entries of `db_connector/transaction/source/entries` and the loop of `Transaction::Execute`.
An entry chain works on the memory of the task that built it and keeps the parameters of its
query entries, which `ToPqxx` empties when the statement is sent.

- `Execution.Running`, `Execution.Returned`: what the attempts so far say about the loop.
- `Transaction.attempts_execute`: each attempt is recorded as its chain and its commit end.
- `Transaction.execute_atomic_and_honest`: one commit at most, and the result says how the
  last attempt ended.
-/

namespace Srv.Db.Trsct

open Ufa

/-- The exceptions that `Transaction::Execute` tells apart. -/
inductive Exception where
  /-- `pqxx::serialization_failure`. -/
  | serializationFailure
  /-- `pqxx::integrity_constraint_violation`. -/
  | integrityConstraintViolation
  /-- `exps::NotFound`. -/
  | notFound
  /-- `pqxx::in_doubt_error`. -/
  | inDoubt
  /-- Any other `std::exception`. -/
  | other
  deriving DecidableEq, Repr

/-- The code that the `catch` clauses return; a serialization failure is retried instead, and
ends the loop with `ERROR` when no attempt is left. -/
def Exception.result : Exception → Result
  | .serializationFailure => .error
  | .integrityConstraintViolation => .violation
  | .notFound => .notFound
  | .inDoubt => .error
  | .other => .error

/-- No exception is reported as a success. -/
theorem Exception.result_ne_success (exception : Exception) : exception.result ≠ .success := by
  cases exception <;> decide

/-- `result_t`: the rows of a result, as the texts of their fields. -/
abbrev Rows := List (List (Option String))

/-- What is sent to the database: the text of some options, with the bound parameters. -/
structure Statement where
  options : QueryOptions
  params : List (Option String)

/-- A piece of code that works on a memory and sends statements. -/
abbrev Code (σ α : Type) := Program σ Exception Statement Rows α

/-! ## Entries -/

/-- `ITransactionEntry` and its implementations, over the memory `σ` of the task. -/
inductive Entry (σ : Type) where
  /-- A null pointer: nothing follows. -/
  | null
  /-- `CachedQueryTransactionEntry` and `RawQueryTransactionEntry`: `store` writes the rows to
  the variable that the result pointer names. -/
  | query (options : QueryOptions) (params : ValueCollector) (store : Rows → σ → σ)
      (next : Entry σ)
  /-- `VariableTransactionEntry`. -/
  | variable (function : σ → Code σ Unit) (next : Entry σ)
  /-- `GroupedTransactionEntry`. -/
  | grouped (entries : List (Entry σ)) (next : Entry σ)
  /-- `ConditionTransactionEntry`, with the result of the last evaluation. -/
  | condition (predicate : σ → Code σ Bool) (predicateResult : Bool) (ifTrue ifFalse : Entry σ)

namespace Entry

variable {σ : Type}

/-- `SetNext`. -/
def setNext (entry next : Entry σ) : Entry σ :=
  match entry with
  | .null => .null
  | .query options params store _ => .query options params store next
  | .variable function _ => .variable function next
  | .grouped entries _ => .grouped entries next
  | .condition predicate result ifTrue ifFalse => .condition predicate result ifTrue ifFalse

/-- The result of the last evaluation of a condition entry. -/
def predicateResult : Entry σ → Bool
  | .condition _ result _ _ => result
  | _ => false

mutual

/-- `ITransactionEntry::Execute`, without the entries that follow. The memory is the entry as
it is left, and the memory of the task. -/
def execute : Entry σ → σ → Code (Entry σ × σ) Unit
  | .null, s => .done (.null, s) ()
  | .query options params store next, s =>
      -- The parameters are moved out of the entry before the statement is sent.
      .issue (.query options [] store next, s) ⟨options, params.toPqxx⟩ fun rows =>
        .done (.query options [] store next, store rows s) ()
  | .variable function next, s => (function s).mapMemory fun s => (.variable function next, s)
  | .grouped entries next, s =>
      (executeAll entries s).mapMemory fun (entries, s) => (.grouped entries next, s)
  | .condition predicate result ifTrue ifFalse, s =>
      (predicate s).andThen (fun s => (.condition predicate result ifTrue ifFalse, s))
        fun s result => .done (.condition predicate result ifTrue ifFalse, s) ()

/-- The loop of `GroupedTransactionEntry::Execute`; what follows the elements is not run. -/
def executeAll : List (Entry σ) → σ → Code (List (Entry σ) × σ) Unit
  | [], s => .done ([], s) ()
  | entry :: entries, s =>
      (entry.execute s).andThen (fun (entry, s) => (entry :: entries, s)) fun (entry, s) _ =>
        (executeAll entries s).mapMemory fun (entries, s) => (entry :: entries, s)

end

/-- The loop over the chain in `Transaction::Execute`: execute the entry, then go on with the
one that `GetNext` names. -/
def executeChain : Entry σ → σ → Code (Entry σ × σ) Unit
  | .null, s => .done (.null, s) ()
  | .query options params store next, s =>
      (execute (.query options params store next) s).andThen id fun (entry, s) _ =>
        (next.executeChain s).mapMemory fun (next, s) => (entry.setNext next, s)
  | .variable function next, s =>
      (execute (.variable function next) s).andThen id fun (entry, s) _ =>
        (next.executeChain s).mapMemory fun (next, s) => (entry.setNext next, s)
  | .grouped entries next, s =>
      (execute (.grouped entries next) s).andThen id fun (entry, s) _ =>
        (next.executeChain s).mapMemory fun (next, s) => (entry.setNext next, s)
  | .condition predicate result ifTrue ifFalse, s =>
      (execute (.condition predicate result ifTrue ifFalse) s).andThen id fun (entry, s) _ =>
        -- `GetNext` reads the result that `Execute` has just written.
        if entry.predicateResult then
          (ifTrue.executeChain s).mapMemory fun (ifTrue, s) =>
            (.condition predicate true ifTrue ifFalse, s)
        else
          (ifFalse.executeChain s).mapMemory fun (ifFalse, s) =>
            (.condition predicate false ifTrue ifFalse, s)

end Entry

/-! ## The loop of Execute -/

/-- What the commit of an attempt can come to. -/
inductive CommitOutcome where
  | committed
  | failed (exception : Exception)
  /-- The connection was lost during the commit; `applied` says what became of it. -/
  | inDoubt (applied : Bool)
  deriving DecidableEq, Repr

/-- The database as one transaction meets it: answers to statements, on the state that the
transaction sees, and the outcome of commits, all depending on the point of time. -/
structure Database (D : Type) where
  answers : Program.Answers Exception Statement Rows D
  commit : Nat → D → CommitOutcome

/-- How one attempt ended. -/
inductive AttemptEnd where
  | committed
  | failed (exception : Exception)
  | inDoubt
  deriving DecidableEq, Repr

/-- The state of `Execute` between two rounds of its loop. -/
structure Execution (μ D : Type) where
  /-- The entries and the memory of the task. -/
  memory : μ
  /-- The state of the database that others can see. -/
  visible : D
  /-- The point of time. -/
  clock : Nat
  /-- `attemptsRemaining`. -/
  attemptsRemaining : Nat
  /-- How the attempts so far ended. -/
  attempts : List AttemptEnd
  /-- What `Execute` returned, once it has. -/
  result : Option Result

namespace Execution

variable {μ D : Type}

/-- The state before the loop: zero attempts mean that their number is not limited. -/
def start (commitAttempts : Nat) (memory : μ) (visible : D) : Execution μ D :=
  { memory, visible, clock := 0
    attemptsRemaining := if commitAttempts = 0 then 1 else commitAttempts
    attempts := [], result := none }

/-- The `catch` clauses, after an attempt that left this memory. Nothing the attempt did to the
database can be seen. -/
def catchException (commitAttempts : Nat) (exception : Exception) (memory : μ) (clock : Nat)
    (execution : Execution μ D) : Execution μ D :=
  let execution := { execution with
    memory, clock, attempts := execution.attempts ++ [AttemptEnd.failed exception] }
  if exception = .serializationFailure then
    let attemptsRemaining :=
      if commitAttempts > 0 then execution.attemptsRemaining - 1 else execution.attemptsRemaining
    { execution with
      attemptsRemaining
      -- The condition of the loop, and the return after it.
      result := if attemptsRemaining > 0 then none else some .error }
  else
    { execution with result := some exception.result }

/-- One round of the loop: the attempt on the visible state, then its commit. -/
def round (database : Database D) (commitAttempts : Nat) (attempt : μ → Code μ Unit)
    (execution : Execution μ D) : Execution μ D :=
  let ran := (attempt execution.memory).run database.answers execution.clock execution.visible
  match ran.outcome with
  | .error exception => execution.catchException commitAttempts exception ran.memory ran.clock
  | .ok () =>
    match database.commit ran.clock ran.state with
    | .failed exception =>
      execution.catchException commitAttempts exception ran.memory (ran.clock + 1)
    | .committed =>
      { execution with
        memory := ran.memory, visible := ran.state, clock := ran.clock + 1
        attempts := execution.attempts ++ [.committed], result := some .success }
    | .inDoubt applied =>
      { execution with
        memory := ran.memory, visible := if applied then ran.state else execution.visible
        clock := ran.clock + 1
        attempts := execution.attempts ++ [.inDoubt], result := some .error }

/-- The loop, for a number of rounds or until it returns. -/
def rounds (database : Database D) (commitAttempts : Nat) (attempt : μ → Code μ Unit) :
    Nat → Execution μ D → Execution μ D
  | 0, execution => execution
  | fuel + 1, execution =>
    match execution.result with
    | some _ => execution
    | none =>
      rounds database commitAttempts attempt fuel (execution.round database commitAttempts attempt)

/-! ## What the attempts say about the loop -/

/-- All these attempts ended in serialization failures. -/
def AllRetried (attempts : List AttemptEnd) : Prop :=
  ∀ attempt ∈ attempts, attempt = .failed .serializationFailure

/-- The loop goes on: every attempt was undone and retried. -/
structure Running (commitAttempts : Nat) (visible : D) (execution : Execution μ D) : Prop where
  result_eq : execution.result = none
  retried : AllRetried execution.attempts
  visible_eq : execution.visible = visible
  unlimited : commitAttempts = 0 → execution.attemptsRemaining = 1
  limited : 0 < commitAttempts →
    execution.attemptsRemaining + execution.attempts.length = commitAttempts ∧
      0 < execution.attemptsRemaining

/-- The loop has returned: all attempts before the last one were retried, and the result is the
one of the last. -/
structure Returned (commitAttempts : Nat) (visible : D) (execution : Execution μ D) : Prop where
  last : ∃ earlier last, execution.attempts = earlier ++ [last] ∧ AllRetried earlier ∧
    match last with
    | .committed => execution.result = some .success
    | .failed exception => execution.result = some exception.result ∧
        execution.visible = visible ∧ (exception = .serializationFailure →
          0 < commitAttempts ∧ execution.attempts.length = commitAttempts)
    | .inDoubt => False
  limited : 0 < commitAttempts → execution.attempts.length ≤ commitAttempts

/-- The loop starts running. -/
theorem running_start (commitAttempts : Nat) (memory : μ) (visible : D) :
    Running commitAttempts visible (start commitAttempts memory visible) where
  result_eq := rfl
  retried := by simp [AllRetried, start]
  visible_eq := rfl
  unlimited := by
    intro hzero
    simp [start, hzero]
  limited := by
    intro hpos
    have hne : commitAttempts ≠ 0 := by omega
    simp [start, hne, hpos]

/-- One more serialization failure. -/
theorem AllRetried.append {attempts : List AttemptEnd} (h : AllRetried attempts) :
    AllRetried (attempts ++ [.failed .serializationFailure]) := by
  intro attempt hattempt
  rcases List.mem_append.mp hattempt with hold | hnew
  · exact h attempt hold
  · exact List.mem_singleton.mp hnew

/-- After an exception the loop goes on, or returns the code of the exception. -/
theorem Running.catchException {commitAttempts : Nat} {visible : D} {execution : Execution μ D}
    (h : Running commitAttempts visible execution) (exception : Exception) (memory : μ)
    (clock : Nat) :
    Running commitAttempts visible
        (execution.catchException commitAttempts exception memory clock) ∨
      Returned commitAttempts visible
        (execution.catchException commitAttempts exception memory clock) := by
  by_cases hserialization : exception = .serializationFailure
  · subst hserialization
    rcases Nat.eq_zero_or_pos commitAttempts with hzero | hpos
    · -- The number of attempts is not limited: nothing is counted down.
      have hremaining := h.unlimited hzero
      refine .inl ⟨?_, h.retried.append, h.visible_eq, fun _ => ?_, fun hpos => ?_⟩
      · simp [Execution.catchException, hzero, hremaining]
      · simp [Execution.catchException, hzero, hremaining]
      · exact absurd hpos (by simp [hzero])
    · obtain ⟨hsum, hremaining⟩ := h.limited hpos
      by_cases hlast : execution.attemptsRemaining = 1
      · -- This was the last attempt.
        refine .inr ⟨⟨execution.attempts, .failed .serializationFailure, ?_, h.retried, ?_⟩, ?_⟩
        · simp [Execution.catchException]
        · refine ⟨?_, ?_, fun _ => ⟨hpos, ?_⟩⟩
          · simp [Execution.catchException, hpos, hlast, Exception.result]
          · simpa [Execution.catchException] using h.visible_eq
          · simp [Execution.catchException]
            omega
        · simp [Execution.catchException]
          omega
      · refine .inl ⟨?_, ?_, ?_, fun hzero => ?_, fun _ => ⟨?_, ?_⟩⟩
        · have hmore : 0 < execution.attemptsRemaining - 1 := by omega
          simp [Execution.catchException, hpos, hmore]
        · simpa [Execution.catchException] using h.retried.append
        · simpa [Execution.catchException] using h.visible_eq
        · exact absurd hpos (by simp [hzero])
        · simp [Execution.catchException, hpos]
          omega
        · simp [Execution.catchException, hpos]
          omega
  · refine .inr ⟨⟨execution.attempts, .failed exception, ?_, h.retried, ?_⟩, fun hpos => ?_⟩
    · simp [Execution.catchException, hserialization]
    · refine ⟨?_, ?_, fun heq => absurd heq hserialization⟩
      · simp [Execution.catchException, hserialization]
      · simpa [Execution.catchException, hserialization] using h.visible_eq
    · obtain ⟨hsum, hremaining⟩ := h.limited hpos
      simp [Execution.catchException, hserialization]
      omega

/-- The clauses record how the attempt ended. -/
theorem catchException_attempts (commitAttempts : Nat) (exception : Exception) (memory : μ)
    (clock : Nat) (execution : Execution μ D) :
    (execution.catchException commitAttempts exception memory clock).attempts =
      execution.attempts ++ [.failed exception] := by
  rw [catchException]
  split <;> rfl

/-- A round of a running loop makes one attempt, after which it goes on or has returned. -/
theorem Running.round {database : Database D} {commitAttempts : Nat} {visible : D}
    {execution : Execution μ D} (attempt : μ → Code μ Unit)
    (h : Running commitAttempts visible execution)
    (hcommit : ∀ clock state applied, database.commit clock state ≠ .inDoubt applied) :
    Running commitAttempts visible (execution.round database commitAttempts attempt) ∨
      Returned commitAttempts visible (execution.round database commitAttempts attempt) := by
  rw [Execution.round]
  generalize (attempt execution.memory).run database.answers execution.clock
    execution.visible = ran
  rcases houtcome : ran.outcome with exception | ⟨⟩
  · exact h.catchException exception ran.memory ran.clock
  · rcases hend : database.commit ran.clock ran.state with _ | exception | applied
    · refine .inr ⟨⟨execution.attempts, .committed, rfl, h.retried, rfl⟩, fun hpos => ?_⟩
      obtain ⟨hsum, hremaining⟩ := h.limited hpos
      simp
      omega
    · exact h.catchException exception ran.memory (ran.clock + 1)
    · exact absurd hend (hcommit _ _ _)

/-- How an attempt ends: by the exception of its chain, or as its commit does. -/
def attemptEnd (database : Database D) (attempt : μ → Code μ Unit) (execution : Execution μ D) :
    AttemptEnd :=
  let ran := (attempt execution.memory).run database.answers execution.clock execution.visible
  match ran.outcome with
  | .error exception => .failed exception
  | .ok () =>
    match database.commit ran.clock ran.state with
    | .failed exception => .failed exception
    | .committed => .committed
    | .inDoubt _ => .inDoubt

/-- Every round records the end of its attempt. -/
theorem round_attempts (database : Database D) (commitAttempts : Nat)
    (attempt : μ → Code μ Unit) (execution : Execution μ D) :
    (execution.round database commitAttempts attempt).attempts =
      execution.attempts ++ [execution.attemptEnd database attempt] := by
  unfold Execution.round attemptEnd
  generalize (attempt execution.memory).run database.answers execution.clock
    execution.visible = ran
  rcases houtcome : ran.outcome with exception | ⟨⟩
  · simp only [houtcome, catchException_attempts]
  · rcases hend : database.commit ran.clock ran.state with _ | exception | applied
    · simp only [houtcome, hend]
    · simp only [houtcome, hend, catchException_attempts]
    · simp only [houtcome, hend]

/-- Every round makes exactly one attempt. -/
theorem round_attempts_length (database : Database D) (commitAttempts : Nat)
    (attempt : μ → Code μ Unit) (execution : Execution μ D) :
    (execution.round database commitAttempts attempt).attempts.length =
      execution.attempts.length + 1 := by
  rw [round_attempts, List.length_append, List.length_singleton]

/-- No round forgets how the attempts before it ended. -/
theorem attempts_prefix_rounds (database : Database D) (commitAttempts : Nat)
    (attempt : μ → Code μ Unit) (fuel : Nat) (execution : Execution μ D) :
    execution.attempts <+:
      (Execution.rounds database commitAttempts attempt fuel execution).attempts := by
  induction fuel generalizing execution with
  | zero => exact List.prefix_rfl
  | succ fuel ih =>
    rw [Execution.rounds]
    split
    · exact List.prefix_rfl
    · refine List.IsPrefix.trans ?_ (ih (execution.round database commitAttempts attempt))
      rw [round_attempts]
      exact List.prefix_append ..

/-- Each attempt ended as its chain and its commit did. -/
theorem attempts_rounds {database : Database D} {commitAttempts : Nat}
    {attempt : μ → Code μ Unit} {fuel index : Nat} {execution : Execution μ D} {last : AttemptEnd}
    (h : (Execution.rounds database commitAttempts attempt fuel execution).attempts[
      execution.attempts.length + index]? = some last) :
    last = (Execution.rounds database commitAttempts attempt index execution).attemptEnd
      database attempt := by
  have hnothing : execution.attempts[execution.attempts.length + index]? ≠ some last := by
    rw [List.getElem?_eq_none (Nat.le_add_right ..)]
    exact (Option.some_ne_none last).symm
  induction fuel generalizing execution index with
  | zero => exact absurd h hnothing
  | succ fuel ih =>
    rw [Execution.rounds] at h
    split at h
    · exact absurd h hnothing
    · rename_i hresult
      have hattempts := round_attempts database commitAttempts attempt execution
      cases index with
      | zero =>
        -- The first of the attempts is still there at the end.
        obtain ⟨later, hlater⟩ := attempts_prefix_rounds database commitAttempts attempt fuel
          (execution.round database commitAttempts attempt)
        rw [← hlater, hattempts] at h
        simpa [Execution.rounds] using h.symm
      | succ index =>
        rw [Execution.rounds, hresult]
        have hlength := round_attempts_length database commitAttempts attempt execution
        refine ih (by rw [hlength, Nat.add_assoc, Nat.add_comm 1]; exact h) ?_
        rw [List.getElem?_eq_none (Nat.le_add_right ..)]
        exact (Option.some_ne_none last).symm

/-- A loop that has returned has a result. -/
theorem Returned.result_ne_none {commitAttempts : Nat} {visible : D} {execution : Execution μ D}
    (h : Returned commitAttempts visible execution) : execution.result ≠ none := by
  obtain ⟨earlier, last, -, -, hlast⟩ := h.last
  cases last with
  | committed =>
    have hresult : execution.result = some .success := hlast
    simp [hresult]
  | failed exception => simp [hlast.1]
  | inDoubt => exact hlast.elim

/-- Once there is a result, no further round is made. -/
theorem rounds_of_result {database : Database D} {commitAttempts : Nat}
    {attempt : μ → Code μ Unit} {execution : Execution μ D} (h : execution.result ≠ none)
    (fuel : Nat) : Execution.rounds database commitAttempts attempt fuel execution = execution := by
  obtain ⟨result, hresult⟩ := Option.ne_none_iff_exists'.mp h
  cases fuel with
  | zero => rfl
  | succ fuel => simp [Execution.rounds, hresult]

/-- A number of rounds makes as many attempts, unless the loop returns before. -/
theorem Running.rounds {database : Database D} {commitAttempts : Nat} {visible : D}
    {execution : Execution μ D} (h : Running commitAttempts visible execution)
    (attempt : μ → Code μ Unit)
    (hcommit : ∀ clock state applied, database.commit clock state ≠ .inDoubt applied)
    (fuel : Nat) :
    let left := Execution.rounds database commitAttempts attempt fuel execution
    (Running commitAttempts visible left ∧
      left.attempts.length = execution.attempts.length + fuel) ∨
      Returned commitAttempts visible left := by
  induction fuel generalizing execution with
  | zero => exact .inl ⟨h, rfl⟩
  | succ fuel ih =>
    have hlength := round_attempts_length database commitAttempts attempt execution
    simp only [Execution.rounds, h.result_eq]
    rcases h.round attempt hcommit with hrunning | hreturned
    · rcases ih hrunning with ⟨hleft, hleftLength⟩ | hleft
      · exact .inl ⟨hleft, by omega⟩
      · exact .inr hleft
    · rw [rounds_of_result hreturned.result_ne_none]
      exact .inr hreturned

end Execution

/-! ## Transactions -/

/-- `Transaction`: the root entry, null until `SetRootEntry`, and the number of attempts. -/
structure Transaction (σ : Type) where
  entry : Entry σ := .null
  commitAttempts : Nat

namespace Transaction

variable {σ D : Type}

/-- `Transaction::Execute`, as far as the given number of attempts gets. -/
def execute (database : Database D) (fuel : Nat) (transaction : Transaction σ) (memory : σ)
    (visible : D) : Execution (Entry σ × σ) D :=
  let execution := Execution.start transaction.commitAttempts (transaction.entry, memory) visible
  match transaction.entry with
  | .null => { execution with result := some .success }
  | _ => execution.rounds database transaction.commitAttempts
      (fun (entry, memory) => entry.executeChain memory) fuel

/-- Without a root entry nothing is executed and nothing committed, and the result is
`SUCCESS`. -/
theorem execute_of_null (database : Database D) (fuel commitAttempts : Nat) (memory : σ)
    (visible : D) :
    let execution := ({ commitAttempts } : Transaction σ).execute database fuel memory visible
    execution.result = some .success ∧ execution.attempts = [] ∧ execution.visible = visible :=
  ⟨rfl, rfl, rfl⟩

/-- With a root entry the loop is running or has returned. -/
theorem execute_spec {database : Database D} {transaction : Transaction σ}
    (hentry : transaction.entry ≠ .null)
    (hcommit : ∀ clock state applied, database.commit clock state ≠ .inDoubt applied)
    (fuel : Nat) (memory : σ) (visible : D) :
    let execution := transaction.execute database fuel memory visible
    (execution.Running transaction.commitAttempts visible ∧ execution.attempts.length = fuel) ∨
      execution.Returned transaction.commitAttempts visible := by
  have hloop := (Execution.running_start transaction.commitAttempts (transaction.entry, memory)
    visible).rounds (fun (entry, memory) => entry.executeChain memory) hcommit fuel
  have hlength : (Execution.start transaction.commitAttempts (transaction.entry, memory)
      visible).attempts.length + fuel = fuel := Nat.zero_add fuel
  rw [hlength] at hloop
  unfold execute
  split
  · exact absurd ‹_› hentry
  · exact hloop

/-- Each attempt of `Execute` is recorded as its chain and its commit end, on what the attempts
before it have left. -/
theorem attempts_execute {database : Database D} {transaction : Transaction σ}
    (hentry : transaction.entry ≠ .null) {fuel index : Nat} {memory : σ} {visible : D}
    {last : AttemptEnd}
    (h : (transaction.execute database fuel memory visible).attempts[index]? = some last) :
    last = (transaction.execute database index memory visible).attemptEnd database
      fun memory => memory.1.executeChain memory.2 := by
  have hexecute : ∀ fuel, transaction.execute database fuel memory visible =
      Execution.rounds database transaction.commitAttempts
        (fun memory => memory.1.executeChain memory.2) fuel
        (Execution.start transaction.commitAttempts (transaction.entry, memory) visible) := by
    intro fuel
    unfold execute
    split
    · exact absurd ‹_› hentry
    · rfl
  have hindex : (Execution.start transaction.commitAttempts (transaction.entry, memory)
      visible).attempts.length + index = index := Nat.zero_add index
  rw [hexecute] at h ⊢
  exact Execution.attempts_rounds (by rw [hindex]; exact h)

/-- What the caller of `Execute` can rely on, after any number of rounds of its loop. -/
structure AtomicAndHonest {μ : Type} (commitAttempts fuel : Nat) (visible : D)
    (execution : Execution μ D) : Prop where
  /-- At most one commit succeeds. -/
  commits_le_one : execution.attempts.count .committed ≤ 1
  /-- `SUCCESS` is returned exactly when a commit has succeeded. -/
  success_iff : ∀ result, execution.result = some result →
    (result = .success ↔ AttemptEnd.committed ∈ execution.attempts)
  /-- With any other code no write of any attempt can be seen. -/
  invisible : ∀ result, execution.result = some result → result ≠ .success →
    execution.visible = visible
  /-- After a failure that is no serialization failure no further attempt is made, and the
  code is the one of this failure. -/
  final : ∀ index exception, execution.attempts[index]? = some (.failed exception) →
    exception ≠ .serializationFailure →
    index + 1 = execution.attempts.length ∧ execution.result = some exception.result
  /-- A limit bounds the attempts, and that many rounds end the loop. -/
  limited : 0 < commitAttempts → execution.attempts.length ≤ commitAttempts ∧
    (commitAttempts ≤ fuel → execution.result ≠ none)
  /-- When all attempts within the limit were serialization failures, `ERROR` is returned. -/
  exhausted : 0 < commitAttempts → execution.attempts.length = commitAttempts →
    Execution.AllRetried execution.attempts → execution.result = some .error
  /-- Without a limit every round is one more attempt until one ends differently. -/
  unlimited : commitAttempts = 0 →
    (execution.result = none ↔ Execution.AllRetried execution.attempts) ∧
    (execution.result = none → execution.attempts.length = fuel)

/-- A retried attempt is no commit. -/
theorem committed_notMem {attempts : List AttemptEnd} (h : Execution.AllRetried attempts) :
    AttemptEnd.committed ∉ attempts := by
  intro hmem
  cases h _ hmem

/-- A running loop keeps the promises: nothing is committed, nothing is returned. -/
theorem atomicAndHonest_of_running {μ : Type} {commitAttempts fuel : Nat} {visible : D}
    {execution : Execution μ D} (h : execution.Running commitAttempts visible)
    (hlength : execution.attempts.length = fuel) :
    AtomicAndHonest commitAttempts fuel visible execution where
  commits_le_one := by
    rw [List.count_eq_zero.mpr (committed_notMem h.retried)]
    exact Nat.zero_le 1
  success_iff := by
    intro result hresult
    simp [h.result_eq] at hresult
  invisible := fun _ _ _ => h.visible_eq
  final := by
    intro index exception hget hne
    have hretried := h.retried _ (List.mem_of_getElem? hget)
    cases hretried
    exact absurd rfl hne
  limited := by
    intro hpos
    obtain ⟨hsum, hremaining⟩ := h.limited hpos
    exact ⟨by omega, fun hfuel => absurd hfuel (by omega)⟩
  exhausted := by
    intro hpos hall
    obtain ⟨hsum, hremaining⟩ := h.limited hpos
    omega
  unlimited := fun _ => ⟨⟨fun _ => h.retried, fun _ => h.result_eq⟩, fun _ => hlength⟩

/-- A loop that has returned keeps the promises: its last attempt decides. -/
theorem atomicAndHonest_of_returned {μ : Type} {commitAttempts fuel : Nat} {visible : D}
    {execution : Execution μ D} (h : execution.Returned commitAttempts visible) :
    AtomicAndHonest commitAttempts fuel visible execution := by
  obtain ⟨earlier, last, hattempts, hretried, hlast⟩ := h.last
  have hlimited := h.limited
  have hsome := h.result_ne_none
  have hearlier := committed_notMem hretried
  -- Only the last attempt can be anything but a serialization failure.
  have hfinal : ∀ index exception, execution.attempts[index]? = some (.failed exception) →
      exception ≠ .serializationFailure →
      index + 1 = execution.attempts.length ∧ last = .failed exception := by
    intro index exception hget hne
    rw [hattempts, List.getElem?_append] at hget
    split at hget
    · cases hretried _ (List.mem_of_getElem? hget)
      exact absurd rfl hne
    · rw [List.getElem?_singleton] at hget
      split at hget
      · simp only [hattempts, List.length_append, List.length_singleton]
        exact ⟨by omega, Option.some.inj hget⟩
      · cases hget
  cases last with
  | inDoubt => exact hlast.elim
  | committed =>
    have hresult : execution.result = some .success := hlast
    refine ⟨?_, ?_, ?_, ?_, fun hpos => ⟨hlimited hpos, fun _ => hsome⟩, ?_, ?_⟩
    · rw [hattempts, List.count_append, List.count_eq_zero.mpr hearlier]
      simp
    · intro result hresult'
      cases hresult.symm.trans hresult'
      simp [hattempts]
    · intro result hresult' hne
      cases hresult.symm.trans hresult'
      exact absurd rfl hne
    · intro index exception hget hne
      cases (hfinal index exception hget hne).2
    · intro _ _ hall
      exact absurd (by simp [hattempts]) (committed_notMem hall)
    · intro _
      refine ⟨⟨fun hnone => absurd hnone hsome, fun hall => ?_⟩, fun hnone => absurd hnone hsome⟩
      exact absurd (by simp [hattempts]) (committed_notMem hall)
  | failed exception =>
    obtain ⟨hresult, hvisible, hexhausted⟩ := hlast
    have hnone : AttemptEnd.committed ∉ execution.attempts := by
      simp [hattempts, hearlier]
    refine ⟨?_, ?_, fun _ _ _ => hvisible, ?_, fun hpos => ⟨hlimited hpos, fun _ => hsome⟩, ?_, ?_⟩
    · rw [List.count_eq_zero.mpr hnone]
      exact Nat.zero_le 1
    · intro result hresult'
      cases hresult.symm.trans hresult'
      simp [hnone, exception.result_ne_success]
    · intro index exception' hget hne
      obtain ⟨hindex, hlast⟩ := hfinal index exception' hget hne
      cases hlast
      exact ⟨hindex, hresult⟩
    · intro _ _ hall
      cases hall (.failed exception) (by simp [hattempts])
      exact hresult
    · intro hzero
      refine ⟨⟨fun hnone => absurd hnone hsome, fun hall => ?_⟩, fun hnone => absurd hnone hsome⟩
      cases hall (.failed exception) (by simp [hattempts])
      exact absurd (hexhausted rfl).1 (by simp [hzero])

/-- Whatever the chain, the limit and the behaviour of the database, `Execute` commits at most
once and says honestly how it ended, as long as no commit is left in doubt. -/
theorem execute_atomic_and_honest (database : Database D)
    (hcommit : ∀ clock state applied, database.commit clock state ≠ .inDoubt applied)
    (transaction : Transaction σ) (hentry : transaction.entry ≠ .null) (fuel : Nat) (memory : σ)
    (visible : D) :
    AtomicAndHonest transaction.commitAttempts fuel visible
      (transaction.execute database fuel memory visible) := by
  rcases execute_spec hentry hcommit fuel memory visible with ⟨hrunning, hlength⟩ | hreturned
  · exact atomicAndHonest_of_running hrunning hlength
  · exact atomicAndHonest_of_returned hreturned

/-- The codes that `Execute` returns. -/
def IsResult (result : Result) : Prop :=
  result = .success ∨ ∃ exception : Exception, result = exception.result

/-- The `catch` clauses return the code of an exception, or go on. -/
theorem isResult_catchException {μ : Type} {commitAttempts clock : Nat} {exception : Exception}
    {memory : μ} {execution : Execution μ D} {result : Result}
    (h : (execution.catchException commitAttempts exception memory clock).result = some result) :
    IsResult result := by
  unfold Execution.catchException at h
  by_cases hserialization : exception = .serializationFailure
  · rw [if_pos hserialization] at h
    -- After a serialization failure the loop returns only when no attempt is left.
    have hresult : result = .error := by
      dsimp only at h
      generalize (if commitAttempts > 0 then execution.attemptsRemaining - 1
        else execution.attemptsRemaining) = remaining at h
      by_cases hleft : remaining > 0
      · rw [if_pos hleft] at h
        cases h
      · rw [if_neg hleft] at h
        cases h
        rfl
    exact .inr ⟨.other, hresult⟩
  · rw [if_neg hserialization] at h
    cases h
    exact .inr ⟨exception, rfl⟩

/-- One round ends with such a code, or goes on. -/
theorem isResult_round {μ : Type} {database : Database D} {commitAttempts : Nat}
    {attempt : μ → Code μ Unit} {execution : Execution μ D} {result : Result}
    (h : (execution.round database commitAttempts attempt).result = some result) :
    IsResult result := by
  unfold Execution.round at h
  dsimp only at h
  split at h
  · exact isResult_catchException h
  · split at h
    · exact isResult_catchException h
    · cases h
      exact .inl rfl
    · cases h
      exact .inr ⟨.inDoubt, rfl⟩

/-- The loop returns such a code, if it had not returned another one before. -/
theorem isResult_rounds {μ : Type} {database : Database D} {commitAttempts : Nat}
    {attempt : μ → Code μ Unit} {fuel : Nat} {execution : Execution μ D}
    (hstart : ∀ result, execution.result = some result → IsResult result) {result : Result}
    (h : (Execution.rounds database commitAttempts attempt fuel execution).result = some result) :
    IsResult result := by
  induction fuel generalizing execution with
  | zero => exact hstart result h
  | succ fuel ih =>
    rw [Execution.rounds] at h
    split at h
    · exact hstart result h
    · exact ih (fun _ hround => isResult_round hround) h

/-- `Execute` returns `SUCCESS` or the code of an exception. -/
theorem isResult_execute {database : Database D} {fuel : Nat} {transaction : Transaction σ}
    {memory : σ} {visible : D} {result : Result}
    (h : (transaction.execute database fuel memory visible).result = some result) :
    IsResult result := by
  unfold execute at h
  dsimp only at h
  split at h
  · cases h
    exact .inl rfl
  · refine isResult_rounds (fun result hresult => ?_) h
    -- Nothing is returned before the loop.
    cases hresult

/-- A database that counts statements and refuses the commits before some point of time. -/
def contendedDatabase (contended : Nat) : Database Nat where
  answers := fun _ _ statements => .ok ([], statements + 1)
  commit := fun clock _ => if clock < contended then .failed .serializationFailure else .committed

/-- One statement, tried three times at most. -/
def singleStatement : Transaction Unit where
  entry := .query (.raw ⟨"SELECT 1"⟩) [] (fun _ memory => memory) .null
  commitAttempts := 3

/-- The third attempt gets through. -/
theorem singleStatement_atomic_and_honest :
    (singleStatement.execute (contendedDatabase 4) 5 () 0).attempts =
        [.failed .serializationFailure, .failed .serializationFailure, .committed] ∧
      AtomicAndHonest 3 5 0 (singleStatement.execute (contendedDatabase 4) 5 () 0) := by
  refine ⟨by rfl,
    execute_atomic_and_honest (contendedDatabase 4) ?_ singleStatement ?_ 5 () 0⟩
  · intro clock state applied
    simp only [contendedDatabase]
    split <;> simp
  · simp [singleStatement]

end Transaction

end Srv.Db.Trsct

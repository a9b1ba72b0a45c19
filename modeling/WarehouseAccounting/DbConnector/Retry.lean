import WarehouseAccounting.DbConnector.Transaction

/-!
# Attempts that are made again

What `Transaction::Execute` does when the first attempts end in serialization failures: the
next attempt runs the same entries on what the failed ones left of them and of the memory of
the task.

- `Execution.failedAttempts_of_rounds`: a loop that is still running is a sequence of failed
  attempts.
- `Entry.run_executeChain_rootQuery`: the statement at the root of a chain is sent first, and
  is left without parameters.
- `not_sameAttempt_of_rootQuery`: a chain whose root has parameters is not made again as it was.
-/

namespace Srv.Db.Trsct

open Ufa

variable {σ μ D : Type}

/-- The attempt that `Execute` makes on the entries and the memory as they are. -/
def attempt (memory : Entry σ × σ) : Code (Entry σ × σ) Unit :=
  memory.1.executeChain memory.2

/-! ## Runs of chains -/

namespace Entry

/-- After the last entry nothing happens. -/
@[simp]
theorem run_executeChain_null (answers : Program.Answers Exception Statement Rows D)
    (clock : Nat) (state : D) (s : σ) :
    ((Entry.null : Entry σ).executeChain s).run answers clock state =
      ⟨.ok (), (.null, s), state, clock, []⟩ := by
  rw [executeChain, Program.run_done]

/-- A query entry that is not answered leaves its parameters empty. -/
theorem run_executeChain_query_of_error {answers : Program.Answers Exception Statement Rows D}
    {clock : Nat} {state : D} {options : QueryOptions} {params : ValueCollector}
    {exception : Exception}
    (h : answers clock ⟨options, params.toPqxx⟩ state = .error exception)
    (store : Rows → σ → σ) (next : Entry σ) (s : σ) :
    ((Entry.query options params store next).executeChain s).run answers clock state =
      ⟨.error exception, (.query options [] store next, s), state, clock + 1,
        [⟨options, params.toPqxx⟩]⟩ := by
  rw [executeChain, execute, Program.andThen, Program.run_issue_of_error h]
  rfl

/-- After a query entry that is answered the chain goes on with the rows in their place. -/
theorem run_executeChain_query_of_ok {answers : Program.Answers Exception Statement Rows D}
    {clock : Nat} {state state' : D} {options : QueryOptions} {params : ValueCollector}
    {rows : Rows} (h : answers clock ⟨options, params.toPqxx⟩ state = .ok (rows, state'))
    (store : Rows → σ → σ) (next : Entry σ) (s : σ) :
    ((Entry.query options params store next).executeChain s).run answers clock state =
      let ran := (next.executeChain (store rows s)).run answers (clock + 1) state'
      ⟨ran.outcome, (.query options [] store ran.memory.1, ran.memory.2), ran.state, ran.clock,
        ⟨options, params.toPqxx⟩ :: ran.questions⟩ := by
  rw [executeChain, execute, Program.andThen, Program.run_issue_of_ok h, Program.andThen,
    Program.run_mapMemory]
  rfl

/-- A function that throws ends the chain. -/
theorem run_executeChain_variable_of_error
    {answers : Program.Answers Exception Statement Rows D} {clock : Nat} {state : D}
    {function : σ → Code σ Unit} {s : σ} {exception : Exception}
    (h : ((function s).run answers clock state).outcome = .error exception) (next : Entry σ) :
    ((Entry.variable function next).executeChain s).run answers clock state =
      let ran := (function s).run answers clock state
      ⟨.error exception, (.variable function next, ran.memory), ran.state, ran.clock,
        ran.questions⟩ := by
  have hexecute : (((Entry.variable function next).execute s).run answers clock state).outcome =
      .error exception := by
    rw [execute, Program.run_mapMemory]
    exact h
  rw [executeChain, Program.run_andThen_of_error hexecute, execute, Program.run_mapMemory]
  rfl

/-- After a function that returns the chain goes on with the memory it left. -/
theorem run_executeChain_variable_of_ok {answers : Program.Answers Exception Statement Rows D}
    {clock : Nat} {state : D} {function : σ → Code σ Unit} {s : σ}
    (h : ((function s).run answers clock state).outcome = .ok ()) (next : Entry σ) :
    ((Entry.variable function next).executeChain s).run answers clock state =
      let first := (function s).run answers clock state
      let ran := (next.executeChain first.memory).run answers first.clock first.state
      ⟨ran.outcome, (.variable function ran.memory.1, ran.memory.2), ran.state, ran.clock,
        first.questions ++ ran.questions⟩ := by
  have hexecute : (((Entry.variable function next).execute s).run answers clock state).outcome =
      .ok () := by
    rw [execute, Program.run_mapMemory]
    exact h
  rw [executeChain, Program.run_andThen_of_ok hexecute, execute, Program.run_mapMemory]
  dsimp only
  rw [Program.run_mapMemory]
  rfl

end Entry

/-! ## Failed attempts -/

/-- Attempts from one memory to another, each of which ended in a serialization failure of a
statement or, after its last statement, of the commit; with the statements they issued. -/
inductive FailedAttempts (attempt : μ → Code μ Unit) : μ → List (List Statement) → μ → Prop
  | none (memory : μ) : FailedAttempts attempt memory [] memory
  | again {D : Type} (answers : Program.Answers Exception Statement Rows D) (clock : Nat)
      (state : D) {memory final : μ} {history : List (List Statement)}
      (failed : ((attempt memory).run answers clock state).outcome =
          .error .serializationFailure ∨
        ((attempt memory).run answers clock state).outcome = .ok ())
      (rest : FailedAttempts attempt ((attempt memory).run answers clock state).memory history
        final) :
      FailedAttempts attempt memory
        (((attempt memory).run answers clock state).questions :: history) final

/-- What is kept by one failed attempt is kept by any number of them. -/
theorem FailedAttempts.preserves {attempt : μ → Code μ Unit} {motive : μ → Prop}
    {memory final : μ} {history : List (List Statement)}
    (h : FailedAttempts attempt memory history final) (hmotive : motive memory)
    (hstep : ∀ memory, motive memory → ∀ (D : Type)
      (answers : Program.Answers Exception Statement Rows D) clock state,
      motive ((attempt memory).run answers clock state).memory) :
    motive final := by
  induction h with
  | none memory => exact hmotive
  | again answers clock state failed rest ih => exact ih (hstep _ hmotive _ answers clock state)

namespace Execution

/-- The statements of the attempts that the loop makes in a number of rounds. -/
def statements (database : Database D) (commitAttempts : Nat) (attempt : μ → Code μ Unit) :
    Nat → Execution μ D → List (List Statement)
  | 0, _ => []
  | fuel + 1, execution =>
    match execution.result with
    | some _ => []
    | none =>
      ((attempt execution.memory).run database.answers execution.clock
          execution.visible).questions ::
        statements database commitAttempts attempt fuel
          (execution.round database commitAttempts attempt)

/-- A round after which the loop goes on was an attempt that ended in a serialization
failure. -/
theorem round_of_running {database : Database D} {commitAttempts : Nat}
    {attempt : μ → Code μ Unit} {execution : Execution μ D}
    (h : (execution.round database commitAttempts attempt).result = none) :
    let ran := (attempt execution.memory).run database.answers execution.clock execution.visible
    (execution.round database commitAttempts attempt).memory = ran.memory ∧
      (ran.outcome = .error .serializationFailure ∨ ran.outcome = .ok ()) := by
  dsimp only
  unfold round at h ⊢
  dsimp only at h ⊢
  split at h
  · rename_i exception hfailed
    rw [hfailed]
    unfold catchException at h ⊢
    dsimp only at h ⊢
    split at h
    · rename_i hserialization
      rw [if_pos hserialization, hserialization]
      exact ⟨rfl, .inl rfl⟩
    · cases h
  · rename_i hdone
    rw [hdone]
    split at h
    · rename_i exception hcommit
      refine ⟨?_, .inr rfl⟩
      unfold catchException
      dsimp only
      split <;> rfl
    · cases h
    · cases h

/-- A loop that is running after a number of rounds has made as many failed attempts. -/
theorem failedAttempts_of_rounds {database : Database D} {commitAttempts : Nat}
    {attempt : μ → Code μ Unit} (fuel : Nat) {execution : Execution μ D}
    (h : (execution.rounds database commitAttempts attempt fuel).result = none) :
    FailedAttempts attempt execution.memory
        (statements database commitAttempts attempt fuel execution)
        (execution.rounds database commitAttempts attempt fuel).memory ∧
      (statements database commitAttempts attempt fuel execution).length = fuel := by
  induction fuel generalizing execution with
  | zero => exact ⟨.none _, rfl⟩
  | succ fuel ih =>
    rcases hresult : execution.result with _ | result
    · simp only [rounds, statements, hresult] at h ⊢
      -- The loop went on after this round, too.
      have hround : (execution.round database commitAttempts attempt).result = none := by
        by_contra hne
        rw [rounds_of_result hne] at h
        exact hne h
      obtain ⟨hmemory, hfailed⟩ := round_of_running hround
      obtain ⟨hrest, hlength⟩ := ih h
      rw [hmemory] at hrest
      exact ⟨.again database.answers _ _ hfailed hrest, by simp [hlength]⟩
    · simp [rounds, hresult] at h

end Execution

/-! ## The same attempt -/

/-- A database that answers every statement. -/
def reliable (answers : Nat → Statement → D → Rows × D) :
    Program.Answers Exception Statement Rows D :=
  fun clock statement state => .ok (answers clock statement state)

/-- The answer of such a database. -/
theorem reliable_eq (answers : Nat → Statement → D → Rows × D) (clock : Nat)
    (statement : Statement) (state : D) :
    reliable answers clock statement state =
      .ok ((answers clock statement state).1, (answers clock statement state).2) := rfl

/-- Where no statement fails, the attempt from one memory is the attempt from the other: the same
statements with the same parameters, the same outcome, the same state of the database and the
same memory of the task afterwards. -/
def SameAttempt (again first : Entry σ × σ) : Prop :=
  ∀ (D : Type) (answers : Nat → Statement → D → Rows × D) (clock : Nat) (state : D),
    let ranAgain := (attempt again).run (reliable answers) clock state
    let ranFirst := (attempt first).run (reliable answers) clock state
    ranAgain.questions = ranFirst.questions ∧ ranAgain.outcome = ranFirst.outcome ∧
      ranAgain.state = ranFirst.state ∧ ranAgain.memory.2 = ranFirst.memory.2

/-- An attempt is the same as itself. -/
theorem SameAttempt.refl (memory : Entry σ × σ) : SameAttempt memory memory :=
  fun _ _ _ _ => ⟨rfl, rfl, rfl, rfl⟩

/-! ## The statement at the root -/

namespace Entry

/-- The statement that a chain sends before anything else. -/
def rootQuery : Entry σ → Option (QueryOptions × ValueCollector)
  | .query options params _ _ => some (options, params)
  | .grouped (entry :: _) _ => entry.rootQuery
  | _ => none

@[simp]
theorem rootQuery_setNext (entry next : Entry σ) :
    (entry.setNext next).rootQuery = entry.rootQuery := by
  match entry with
  | .null => simp [setNext]
  | .query options params store next' => simp [setNext, rootQuery]
  | .variable function next' => simp [setNext, rootQuery]
  | .condition predicate result ifTrue ifFalse => simp [setNext]
  | .grouped [] next' => simp [setNext, rootQuery]
  | .grouped (entry :: entries) next' => simp [setNext, rootQuery]

/-- An entry with a statement at its root sends it first, and leaves it without parameters. -/
theorem run_execute_rootQuery (entry : Entry σ) {options : QueryOptions}
    {params : ValueCollector} (h : entry.rootQuery = some (options, params))
    (answers : Program.Answers Exception Statement Rows D) (clock : Nat) (state : D) (s : σ) :
    ((entry.execute s).run answers clock state).questions.head? =
        some ⟨options, params.toPqxx⟩ ∧
      ((entry.execute s).run answers clock state).memory.1.rootQuery = some (options, []) := by
  match entry, h with
  | .query options params store next, h =>
    rw [rootQuery] at h
    cases h
    rw [execute]
    rcases hanswer : answers clock ⟨options, params.toPqxx⟩ state with failure | ⟨rows, state'⟩
    · rw [Program.run_issue_of_error hanswer]
      exact ⟨rfl, by rw [rootQuery]⟩
    · rw [Program.run_issue_of_ok hanswer]
      exact ⟨rfl, by rw [Program.run_done, rootQuery]⟩
  | .grouped (first :: rest) next, h =>
    rw [rootQuery] at h
    obtain ⟨hhead, hroot⟩ := run_execute_rootQuery first h answers clock state s
    rw [execute, Program.run_mapMemory, executeAll]
    -- The first element of the group is the one that decides.
    rcases hfirst : ((first.execute s).run answers clock state).outcome with exception | ⟨⟩
    · rw [Program.run_andThen_of_error hfirst]
      exact ⟨hhead, by rw [rootQuery]; exact hroot⟩
    · rw [Program.run_andThen_of_ok hfirst]
      dsimp only
      rw [Program.run_mapMemory, List.head?_append, hhead]
      exact ⟨rfl, by rw [rootQuery]; exact hroot⟩

/-- The loop over the chain, of an entry that has a next entry. -/
theorem executeChain_of_rootQuery (entry : Entry σ) {root : QueryOptions × ValueCollector}
    (h : entry.rootQuery = some root) (s : σ) :
    ∃ next : Entry σ, entry.executeChain s =
      (entry.execute s).andThen id fun (entry, s) _ =>
        (next.executeChain s).mapMemory fun (next, s) => (entry.setNext next, s) := by
  match entry, h with
  | .query options params store next, _ => exact ⟨next, by rw [executeChain]⟩
  | .grouped entries next, _ => exact ⟨next, by rw [executeChain]⟩

/-- A chain with a statement at its root sends it first, and leaves it without parameters. -/
theorem run_executeChain_rootQuery {entry : Entry σ} {options : QueryOptions}
    {params : ValueCollector} (h : entry.rootQuery = some (options, params))
    (answers : Program.Answers Exception Statement Rows D) (clock : Nat) (state : D) (s : σ) :
    ((entry.executeChain s).run answers clock state).questions.head? =
        some ⟨options, params.toPqxx⟩ ∧
      ((entry.executeChain s).run answers clock state).memory.1.rootQuery =
        some (options, []) := by
  obtain ⟨next, hchain⟩ := executeChain_of_rootQuery entry h s
  obtain ⟨hhead, hroot⟩ := run_execute_rootQuery entry h answers clock state s
  rw [hchain]
  rcases hfirst : ((entry.execute s).run answers clock state).outcome with exception | ⟨⟩
  · rw [Program.run_andThen_of_error hfirst]
    exact ⟨hhead, hroot⟩
  · rw [Program.run_andThen_of_ok hfirst]
    dsimp only
    rw [Program.run_mapMemory, List.head?_append, hhead]
    exact ⟨rfl, by rw [rootQuery_setNext]; exact hroot⟩

end Entry

/-- After any failed attempts the statement at the root has no parameters. -/
theorem FailedAttempts.rootQuery {options : QueryOptions} {params : ValueCollector}
    {memory final : Entry σ × σ} {history : List (List Statement)}
    (h : FailedAttempts attempt memory history final)
    (hroot : memory.1.rootQuery = some (options, params)) (hhistory : history ≠ []) :
    final.1.rootQuery = some (options, []) := by
  cases h with
  | none => exact absurd rfl hhistory
  | again answers clock state failed rest =>
    have hstep : ∀ {params : ValueCollector} (memory : Entry σ × σ),
        memory.1.rootQuery = some (options, params) → ∀ (D : Type)
        (answers : Program.Answers Exception Statement Rows D) clock state,
        ((attempt memory).run answers clock state).memory.1.rootQuery = some (options, []) :=
      fun memory hmemory _ answers clock state =>
        (Entry.run_executeChain_rootQuery hmemory answers clock state memory.2).2
    exact rest.preserves (hstep memory hroot _ answers clock state) hstep

/-- An attempt with other parameters at the root is not the same. -/
theorem not_sameAttempt_of_rootQuery {options : QueryOptions} {params : ValueCollector}
    {again first : Entry σ × σ} (hparams : params ≠ [])
    (hfirst : first.1.rootQuery = some (options, params))
    (hagain : again.1.rootQuery = some (options, [])) : ¬ SameAttempt again first := by
  intro hsame
  have hquestions := (hsame Unit (fun _ _ _ => ([], ())) 0 ()).1
  have hheads := congrArg List.head? hquestions
  -- The first statements differ in the number of their parameters.
  have hheadAgain := (Entry.run_executeChain_rootQuery hagain
    (reliable fun _ _ _ => ([], ())) 0 () again.2).1
  have hheadFirst := (Entry.run_executeChain_rootQuery hfirst
    (reliable fun _ _ _ => ([], ())) 0 () first.2).1
  unfold attempt at hheads
  rw [hheadAgain, hheadFirst] at hheads
  have hbound : ValueCollector.toPqxx [] = params.toPqxx :=
    congrArg Statement.params (Option.some.inj hheads)
  have hlength := congrArg List.length hbound
  rw [ValueCollector.length_toPqxx, ValueCollector.length_toPqxx] at hlength
  exact hparams (List.length_eq_zero_iff.mp hlength.symm)

/-- A chain whose root has parameters is the same attempt only before any attempt has failed. -/
theorem FailedAttempts.sameAttempt_iff_of_rootQuery {options : QueryOptions}
    {params : ValueCollector} {memory final : Entry σ × σ} {history : List (List Statement)}
    (h : FailedAttempts attempt memory history final) (hparams : params ≠ [])
    (hroot : memory.1.rootQuery = some (options, params)) :
    SameAttempt final memory ↔ history = [] := by
  constructor
  · intro hsame
    by_contra hhistory
    exact not_sameAttempt_of_rootQuery hparams hroot (h.rootQuery hroot hhistory) hsame
  · rintro rfl
    cases h
    exact .refl memory

/-! ## Answers that go further -/

/-- The answers with something said where they fail. -/
def completed (answers : Program.Answers Exception Statement Rows D) :
    Nat → Statement → D → Rows × D :=
  fun clock statement state =>
    match answers clock statement state with
    | .ok answer => answer
    | .error _ => ([], state)

/-- A run that has got its answers gets them again when the other answers are completed. -/
theorem run_completed {α : Type} {program : Program μ Exception Statement Rows α}
    {answers : Program.Answers Exception Statement Rows D} {clock : Nat} {state : D} {value : α}
    (h : (program.run answers clock state).outcome = .ok value) :
    program.run (reliable (completed answers)) clock state = program.run answers clock state := by
  induction program generalizing clock state with
  | done memory value' => rfl
  | fail memory failure => rfl
  | issue memory question next ih =>
    rcases hanswer : answers clock question state with failure | ⟨response, state'⟩
    · rw [Program.run_issue_of_error hanswer] at h
      cases h
    · have hcompleted : reliable (completed answers) clock question state =
          .ok (response, state') := by
        simp [reliable, completed, hanswer]
      rw [Program.run_issue_of_ok hanswer] at h ⊢
      rw [Program.run_issue_of_ok hcompleted, ih response h]

/-! ## Chains with their parameters in the second entry -/

section SecondEntry

variable {function : σ → Code σ Unit} {options : QueryOptions} {store : Rows → σ → σ}

/-- The chain of a function and a statement, whose statement has lost its parameters. -/
def Drained (function : σ → Code σ Unit) (options : QueryOptions) (store : Rows → σ → σ)
    (entry : Entry σ) : Prop :=
  ∃ rest, entry = .variable function (.query options [] store rest)

/-- An attempt of such a chain stops in the function, or sends the statement after it. -/
theorem attempt_secondEntry (params : ValueCollector) (rest : Entry σ) (s : σ)
    (answers : Program.Answers Exception Statement Rows D) (clock : Nat) (state : D) :
    let first := (function s).run answers clock state
    let ran := (attempt (.variable function (.query options params store rest), s)).run answers
      clock state
    ((∃ exception, first.outcome = .error exception) ∧ ran.questions = first.questions ∧
        ran.memory = (.variable function (.query options params store rest), first.memory)) ∨
      first.outcome = .ok () ∧ Drained function options store ran.memory.1 ∧
        ∃ questions, ran.questions = first.questions ++ ⟨options, params.toPqxx⟩ :: questions := by
  dsimp only
  unfold attempt
  rcases hfirst : ((function s).run answers clock state).outcome with exception | ⟨⟩
  · rw [Entry.run_executeChain_variable_of_error hfirst]
    exact .inl ⟨⟨exception, rfl⟩, rfl, rfl⟩
  · rw [Entry.run_executeChain_variable_of_ok hfirst]
    dsimp only
    generalize (function s).run answers clock state = first
    rcases hanswer : answers first.clock ⟨options, params.toPqxx⟩ first.state with
      exception | ⟨rows, state'⟩
    · rw [Entry.run_executeChain_query_of_error hanswer]
      exact .inr ⟨rfl, ⟨rest, rfl⟩, [], rfl⟩
    · rw [Entry.run_executeChain_query_of_ok hanswer]
      exact .inr ⟨rfl, ⟨_, rfl⟩, _, rfl⟩

/-- A statement without parameters does not get them back. -/
theorem FailedAttempts.drained {memory final : Entry σ × σ} {history : List (List Statement)}
    (h : FailedAttempts attempt memory history final)
    (hmemory : Drained function options store memory.1) :
    Drained function options store final.1 := by
  refine h.preserves (motive := fun memory => Drained function options store memory.1) hmemory ?_
  rintro ⟨entry, s⟩ ⟨rest, rfl⟩ D answers clock state
  rcases attempt_secondEntry [] rest s answers clock state with ⟨-, -, hmemory⟩ | ⟨-, hdrained, -⟩
  · rw [hmemory]
    exact ⟨rest, rfl⟩
  · exact hdrained

variable {s : σ} {params : ValueCollector} {rest : Entry σ}

/-- What failed attempts of such a chain leave: the chain as it was, when none of them got to the
statement, and a statement without parameters otherwise. -/
theorem FailedAttempts.secondEntry {marked : Statement → Bool} {memory final : Entry σ × σ}
    {history : List (List Statement)} (h : FailedAttempts attempt memory history final)
    (hmemory : memory = (.variable function (.query options params store rest), s))
    (hkeeps : ∀ (D : Type) (answers : Program.Answers Exception Statement Rows D) clock state,
      ((function s).run answers clock state).memory = s)
    (hfunction : (function s).AllQuestions (marked · = false))
    (hmarked : ∀ params, marked ⟨options, params⟩ = true) :
    (final = memory ∧ ∀ statements ∈ history, ∀ statement ∈ statements, marked statement = false) ∨
      Drained function options store final.1 ∧
        (∃ statements ∈ history, ∃ statement ∈ statements, marked statement = true) ∧
        ∃ (D : Type) (answers : Program.Answers Exception Statement Rows D) (clock : Nat)
          (state : D), ((function s).run answers clock state).outcome = .ok () := by
  induction h with
  | none memory => exact .inl ⟨rfl, by simp⟩
  | @again D answers clock state memory final history failed rest' ih =>
    subst hmemory
    rcases attempt_secondEntry params rest s answers clock state with
      ⟨-, hquestions, hleft⟩ | ⟨hok, hdrained, questions, hquestions⟩
    · -- The attempt stopped in the function and left everything as it was.
      rw [hkeeps] at hleft
      rcases ih hleft with ⟨hfinal, hhistory⟩ | ⟨hdrained, ⟨statements, hstatements, hmem⟩, hok⟩
      · refine .inl ⟨hfinal.trans hleft, ?_⟩
        intro statements hstatements
        rcases List.mem_cons.mp hstatements with rfl | hstatements
        · rw [hquestions]
          exact hfunction.run answers clock state
        · exact hhistory statements hstatements
      · exact .inr ⟨hdrained, ⟨statements, List.mem_cons_of_mem _ hstatements, hmem⟩, hok⟩
    · refine .inr ⟨rest'.drained hdrained, ?_, D, answers, clock, state, hok⟩
      refine ⟨_, List.mem_cons_self, ⟨options, params.toPqxx⟩, ?_, hmarked _⟩
      rw [hquestions]
      simp

/-- The first marked statement of an attempt is the one of the second entry. -/
theorem find_attempt_secondEntry {marked : Statement → Bool}
    (hfunction : (function s).AllQuestions (marked · = false))
    (hmarked : ∀ params, marked ⟨options, params⟩ = true)
    (answers : Program.Answers Exception Statement Rows D) (clock : Nat) (state : D) :
    let ran := (attempt (.variable function (.query options params store rest), s)).run answers
      clock state
    ran.questions.find? marked =
      match ((function s).run answers clock state).outcome with
      | .ok () => some ⟨options, params.toPqxx⟩
      | .error _ => none := by
  dsimp only
  have hnone : ((function s).run answers clock state).questions.find? marked = none := by
    rw [List.find?_eq_none]
    intro statement hstatement
    simp [hfunction.run answers clock state statement hstatement]
  rcases attempt_secondEntry params rest s answers clock state with
    ⟨⟨exception, hfailed⟩, hquestions, -⟩ | ⟨hok, -, questions, hquestions⟩
  · rw [hquestions, hfailed, hnone]
  · rw [hquestions, hok, List.find?_append, hnone, List.find?_cons, hmarked]
    rfl

/-- A chain whose second entry has parameters is the same attempt only as long as no failed
attempt got to that entry. -/
theorem FailedAttempts.sameAttempt_iff_of_secondEntry {marked : Statement → Bool}
    {final : Entry σ × σ} {history : List (List Statement)}
    (h : FailedAttempts attempt (.variable function (.query options params store rest), s) history
      final) (hparams : params ≠ [])
    (hkeeps : ∀ (D : Type) (answers : Program.Answers Exception Statement Rows D) clock state,
      ((function s).run answers clock state).memory = s)
    (hfunction : ∀ s, (function s).AllQuestions (marked · = false))
    (hmarked : ∀ params, marked ⟨options, params⟩ = true) :
    SameAttempt final (.variable function (.query options params store rest), s) ↔
      ∀ statements ∈ history, ∀ statement ∈ statements, marked statement = false := by
  rcases h.secondEntry rfl hkeeps (hfunction s) hmarked with
    ⟨hfinal, hhistory⟩ | ⟨⟨rest', hdrained⟩, ⟨statements, hstatements, statement, hmem, hyes⟩, D,
      answers, clock, state, hok⟩
  · rw [hfinal]
    exact ⟨fun _ => hhistory, fun _ => .refl _⟩
  · constructor
    · intro hsame
      -- With the answers that got an attempt to the statement, the first attempt sends it, too.
      obtain ⟨entry, s'⟩ := final
      cases hdrained
      have hquestions := (hsame D (completed answers) clock state).1
      have hfind := congrArg (List.find? marked) hquestions
      rw [find_attempt_secondEntry (hfunction s') hmarked,
        find_attempt_secondEntry (hfunction s) hmarked, run_completed hok, hok] at hfind
      dsimp only at hfind
      split at hfind
      · have hbound : ValueCollector.toPqxx [] = params.toPqxx :=
          congrArg Statement.params (Option.some.inj hfind)
        have hlength := congrArg List.length hbound
        rw [ValueCollector.length_toPqxx, ValueCollector.length_toPqxx] at hlength
        exact absurd (List.length_eq_zero_iff.mp hlength.symm) hparams
      · cases hfind
    · intro hhistory
      exact absurd ((hhistory statements hstatements statement hmem).symm.trans hyes) (by decide)

end SecondEntry

end Srv.Db.Trsct

import WarehouseAccounting.DbConnector.Chain
import WarehouseAccounting.DbConnector.Retry

/-!
# What a transaction leaves

What others see of the database after `Transaction::Execute`: what they saw before, or what one
attempt has left that got to its end. An attempt that is made again sends its first statement
without parameters, so that where such a statement is refused only the first attempt counts.

- `Transaction.visible_execute`: the state after a transaction.
- `FailedAttempts.eq_of_rootQuery`, `FailedAttempts.eq_of_secondEntry`: the attempt that gets to
  its end is the first one.
-/

namespace Srv.Db.Trsct

open Ufa

variable {σ μ D : Type}

/-! ## The loop -/

/-- What is visible after a round: what was, or what the attempt has left. -/
theorem Execution.visible_round (database : Database D) (commitAttempts : Nat)
    (attempt : μ → Code μ Unit) (execution : Execution μ D) :
    let ran := (attempt execution.memory).run database.answers execution.clock execution.visible
    (execution.round database commitAttempts attempt).visible = execution.visible ∨
      ran.outcome = .ok () ∧
        (execution.round database commitAttempts attempt).visible = ran.state ∧
        (execution.round database commitAttempts attempt).result ≠ none := by
  have hcatch : ∀ exception memory clock,
      (execution.catchException commitAttempts exception memory clock).visible =
        execution.visible := by
    intro exception memory clock
    unfold catchException
    dsimp only
    split <;> rfl
  dsimp only
  unfold round
  dsimp only
  split
  · exact .inl (hcatch ..)
  · rename_i houtcome
    split
    · exact .inl (hcatch ..)
    · exact .inr ⟨houtcome, rfl, by simp⟩
    · rename_i applied _
      cases applied with
      | false => exact .inl rfl
      | true => exact .inr ⟨houtcome, rfl, by simp⟩

/-- What is visible after some rounds: what was, or what an attempt has left after failed
ones. -/
theorem Execution.visible_rounds (database : Database D) (commitAttempts : Nat)
    (attempt : μ → Code μ Unit) (fuel : Nat) (execution : Execution μ D) :
    (execution.rounds database commitAttempts attempt fuel).visible = execution.visible ∨
      ∃ history memory clock, FailedAttempts attempt execution.memory history memory ∧
        ((attempt memory).run database.answers clock execution.visible).outcome = .ok () ∧
        (execution.rounds database commitAttempts attempt fuel).visible =
          ((attempt memory).run database.answers clock execution.visible).state := by
  induction fuel generalizing execution with
  | zero => exact .inl rfl
  | succ fuel ih =>
    rw [rounds]
    rcases hresult : execution.result with _ | result
    · dsimp only
      rcases hround : (execution.round database commitAttempts attempt).result with _ | result
      · -- The attempt failed, and changed nothing.
        obtain ⟨hmemory, hfailed⟩ := round_of_running hround
        have hvisible : (execution.round database commitAttempts attempt).visible =
            execution.visible := by
          rcases visible_round database commitAttempts attempt execution with hsame | ⟨-, -, hne⟩
          · exact hsame
          · exact absurd hround hne
        have hrest := ih (execution.round database commitAttempts attempt)
        rw [hvisible, hmemory] at hrest
        rcases hrest with hsame | ⟨history, memory, clock, hattempts, hran⟩
        · exact .inl hsame
        · exact .inr ⟨_, memory, clock, .again database.answers _ _ hfailed hattempts, hran⟩
      · have hstays : (execution.round database commitAttempts attempt).result ≠ none := by
          simp [hround]
        rw [rounds_of_result hstays]
        rcases visible_round database commitAttempts attempt execution with
          hsame | ⟨houtcome, hleft, -⟩
        · exact .inl hsame
        · exact .inr ⟨[], execution.memory, execution.clock, .none _, houtcome, hleft⟩
    · exact .inl rfl

/-- What is visible after a transaction: what was, or what a run of the chain to its end has
left, when the database answers by the relation. -/
theorem Transaction.visible_execute {step : D → Statement → Rows → D → Prop}
    {database : Database D} (hanswers : ∀ clock statement state rows state',
      database.answers clock statement state = .ok (rows, state') →
        step state statement rows state')
    (fuel : Nat) (transaction : Transaction σ) (memory : σ) (visible : D) :
    (transaction.execute database fuel memory visible).visible = visible ∨
      ∃ history final s', FailedAttempts attempt (transaction.entry, memory) history final ∧
        final.1.RunsTo step visible final.2
          (transaction.execute database fuel memory visible).visible s' := by
  unfold execute
  dsimp only
  split
  · exact .inl rfl
  · rcases Execution.visible_rounds database transaction.commitAttempts attempt fuel
      (.start transaction.commitAttempts (transaction.entry, memory) visible) with
      hsame | ⟨history, final, clock, hattempts, houtcome, hleft⟩
    · exact .inl hsame
    · have hcompletes := Program.completes_of_run hanswers houtcome
      refine .inr ⟨history, final, ((attempt final).run database.answers clock visible).memory.2,
        hattempts, ((attempt final).run database.answers clock visible).memory.1, ?_⟩
      exact hleft ▸ hcompletes

/-! ## The attempt that counts -/

namespace Entry

variable {step : D → Statement → Rows → D → Prop}

/-- An entry with a statement at its root gets to its end only when the statement is answered. -/
theorem Executes.rootQuery {entry : Entry σ} {options : QueryOptions} {params : ValueCollector}
    (hroot : entry.rootQuery = some (options, params)) {state state' : D} {s s' : σ}
    (h : entry.Executes step state s state' s') :
    ∃ rows middle, step state ⟨options, params.toPqxx⟩ rows middle := by
  match entry, hroot with
  | .query _ _ store next, hroot =>
    rw [Entry.rootQuery] at hroot
    cases hroot
    obtain ⟨rows, hstep, -⟩ := executes_query.mp h
    exact ⟨rows, state', hstep⟩
  | .grouped (first :: rest) next, hroot =>
    rw [Entry.rootQuery] at hroot
    obtain ⟨middle, t, hfirst, -⟩ := executesAll_cons.mp (executes_grouped.mp h)
    exact hfirst.rootQuery hroot

/-- So does a chain that starts with such an entry. -/
theorem RunsTo.rootQuery {entry : Entry σ} {options : QueryOptions} {params : ValueCollector}
    (hroot : entry.rootQuery = some (options, params)) {state state' : D} {s s' : σ}
    (h : entry.RunsTo step state s state' s') :
    ∃ rows middle, step state ⟨options, params.toPqxx⟩ rows middle := by
  match entry, hroot with
  | .query _ _ store next, hroot =>
    rw [Entry.rootQuery] at hroot
    cases hroot
    obtain ⟨rows, middle, hstep, -⟩ := runsTo_query.mp h
    exact ⟨rows, middle, hstep⟩
  | .grouped entries next, hroot =>
    obtain ⟨middle, t, hfirst, -⟩ := runsTo_grouped.mp h
    have hgroup : (Entry.grouped entries next).Executes step state s middle t :=
      executes_grouped.mpr hfirst
    exact hgroup.rootQuery hroot

end Entry

section Attempts

variable {step : D → Statement → Rows → D → Prop} {options : QueryOptions}

/-- Where a statement without parameters is never answered, a chain with that statement at its
root gets to its end in the first attempt or not at all. -/
theorem FailedAttempts.eq_of_rootQuery
    (hrefused : ∀ state rows state', ¬ step state ⟨options, []⟩ rows state')
    {params : ValueCollector} {memory final : Entry σ × σ} {history : List (List Statement)}
    (h : FailedAttempts attempt memory history final)
    (hroot : memory.1.rootQuery = some (options, params)) {state state' : D} {s' : σ}
    (hruns : final.1.RunsTo step state final.2 state' s') : final = memory := by
  by_cases hhistory : history = []
  · subst hhistory
    cases h
    rfl
  · obtain ⟨rows, middle, hstep⟩ := hruns.rootQuery (h.rootQuery hroot hhistory)
    exact absurd hstep (hrefused _ _ _)

/-- The same of a chain that sends the statement after a function, which leaves the memory as it
was. -/
theorem FailedAttempts.eq_of_secondEntry
    (hrefused : ∀ state rows state', ¬ step state ⟨options, []⟩ rows state')
    {function : σ → Code σ Unit} {store : Rows → σ → σ} {params : ValueCollector}
    {rest : Entry σ} {s : σ} {marked : Statement → Bool} {final : Entry σ × σ}
    {history : List (List Statement)}
    (h : FailedAttempts attempt (.variable function (.query options params store rest), s) history
      final)
    (hkeeps : ∀ (D : Type) (answers : Program.Answers Exception Statement Rows D) clock state,
      ((function s).run answers clock state).memory = s)
    (hfunction : (function s).AllQuestions (marked · = false))
    (hmarked : ∀ params, marked ⟨options, params⟩ = true) {state state' : D} {s' : σ}
    (hruns : final.1.RunsTo step state final.2 state' s') :
    final = (.variable function (.query options params store rest), s) := by
  rcases h.secondEntry rfl hkeeps hfunction hmarked with ⟨hfinal, -⟩ | ⟨⟨rest', hdrained⟩, -⟩
  · exact hfinal
  · rw [hdrained] at hruns
    obtain ⟨middle, t, -, hquery⟩ := Entry.runsTo_variable.mp hruns
    obtain ⟨rows, after, hstep, -⟩ := Entry.runsTo_query.mp hquery
    exact absurd hstep (hrefused _ _ _)

end Attempts

end Srv.Db.Trsct

import WarehouseAccounting.DbConnector.Script

/-!
# Attempts that get to the end

When an attempt on an entry chain gets to its end, every entry of the chain has got to its own
end: the statements were answered and the functions returned. The database is a relation here,
between a state, a statement, its rows and the next state.

- `Entry.RunsTo`: the chain gets to its end, and leaves the database and the memory of the task
  in some states.
- `Entry.runsTo_query`, `Entry.runsTo_variable`, `Entry.runsTo_grouped`: what this means for the
  first entry.
- `Entry.ChainFollows.setNext`: another chain gets there, too, as far as a part of the memory
  shows, when its entries do one by one.
-/

namespace Srv.Db.Trsct

open Ufa

variable {σ D : Type} {step : D → Statement → Rows → D → Prop}

namespace Entry

/-- The chain gets to its end. What it leaves of the entries is not of interest. -/
def RunsTo (step : D → Statement → Rows → D → Prop) (state : D) (entry : Entry σ) (s : σ)
    (state' : D) (s' : σ) : Prop :=
  ∃ entry', (entry.executeChain s).Completes step state state' (entry', s') ()

/-- One entry gets to its end, without those that follow. -/
def Executes (step : D → Statement → Rows → D → Prop) (state : D) (entry : Entry σ) (s : σ)
    (state' : D) (s' : σ) : Prop :=
  ∃ entry', (entry.execute s).Completes step state state' (entry', s') ()

/-- The elements of a group get to their ends, one after the other. -/
def ExecutesAll (step : D → Statement → Rows → D → Prop) (state : D) (entries : List (Entry σ))
    (s : σ) (state' : D) (s' : σ) : Prop :=
  ∃ entries', (executeAll entries s).Completes step state state' (entries', s') ()

/-- Nothing is left to do. -/
theorem runsTo_null {state state' : D} {s s' : σ} :
    RunsTo step state .null s state' s' ↔ state' = state ∧ s' = s := by
  unfold RunsTo
  rw [executeChain]
  constructor
  · rintro ⟨entry', hstate, hmemory, -⟩
    exact ⟨hstate, congrArg Prod.snd hmemory⟩
  · rintro ⟨rfl, rfl⟩
    exact ⟨.null, rfl, rfl, rfl⟩

/-- The first entry is executed, and then the chain behind it. -/
theorem runsTo_of_executes {entry next : Entry σ}
    (hchain : ∀ s, entry.executeChain s = (entry.execute s).andThen id fun (entry, s) _ =>
      (next.executeChain s).mapMemory fun (next, s) => (entry.setNext next, s))
    {state state' : D} {s s' : σ} :
    RunsTo step state entry s state' s' ↔
      ∃ middle t, Executes step state entry s middle t ∧ RunsTo step middle next t state' s' := by
  unfold RunsTo Executes
  rw [hchain]
  constructor
  · rintro ⟨entry', h⟩
    obtain ⟨middle, ⟨entry'', t⟩, value, hfirst, hrest⟩ := Program.completes_andThen.mp h
    obtain ⟨⟨next', t'⟩, hrest, heq⟩ := Program.completes_mapMemory.mp hrest
    cases heq
    exact ⟨middle, t, ⟨entry'', hfirst⟩, ⟨next', hrest⟩⟩
  · rintro ⟨middle, t, ⟨entry'', hfirst⟩, ⟨next', hrest⟩⟩
    refine ⟨entry''.setNext next', Program.completes_andThen.mpr
      ⟨middle, (entry'', t), (), hfirst, ?_⟩⟩
    exact Program.completes_mapMemory.mpr ⟨(next', s'), hrest, rfl⟩

/-- A query entry gets its answer. -/
theorem executes_query {options : QueryOptions} {params : ValueCollector}
    {store : Rows → σ → σ} {next : Entry σ} {state state' : D} {s s' : σ} :
    Executes step state (.query options params store next) s state' s' ↔
      ∃ rows, step state ⟨options, params.toPqxx⟩ rows state' ∧ s' = store rows s := by
  unfold Executes
  rw [execute]
  constructor
  · rintro ⟨entry', rows, state'', hstep, rfl, hmemory, -⟩
    exact ⟨rows, hstep, congrArg Prod.snd hmemory⟩
  · rintro ⟨rows, hstep, rfl⟩
    exact ⟨_, rows, state', hstep, rfl, rfl, rfl⟩

/-- The function of a variable entry returns. -/
theorem executes_variable {function : σ → Code σ Unit} {next : Entry σ} {state state' : D}
    {s s' : σ} :
    Executes step state (.variable function next) s state' s' ↔
      (function s).Completes step state state' s' () := by
  unfold Executes
  rw [execute]
  constructor
  · rintro ⟨entry', h⟩
    obtain ⟨s'', h, heq⟩ := Program.completes_mapMemory.mp h
    have hs : s' = s'' := congrArg Prod.snd heq
    rw [hs]
    exact h
  · intro h
    exact ⟨_, Program.completes_mapMemory.mpr ⟨s', h, rfl⟩⟩

/-- The elements of a group get to their ends. -/
theorem executes_grouped {entries : List (Entry σ)} {next : Entry σ} {state state' : D}
    {s s' : σ} :
    Executes step state (.grouped entries next) s state' s' ↔
      ExecutesAll step state entries s state' s' := by
  unfold Executes ExecutesAll
  rw [execute]
  constructor
  · rintro ⟨entry', h⟩
    obtain ⟨⟨entries', s''⟩, h, heq⟩ := Program.completes_mapMemory.mp h
    have hs : s' = s'' := congrArg Prod.snd heq
    rw [hs]
    exact ⟨entries', h⟩
  · rintro ⟨entries', h⟩
    exact ⟨_, Program.completes_mapMemory.mpr ⟨(entries', s'), h, rfl⟩⟩

/-- A group without elements does nothing. -/
theorem executesAll_nil {state state' : D} {s s' : σ} :
    ExecutesAll step state [] s state' s' ↔ state' = state ∧ s' = s := by
  unfold ExecutesAll
  rw [executeAll]
  constructor
  · rintro ⟨entries', hstate, hmemory, -⟩
    exact ⟨hstate, congrArg Prod.snd hmemory⟩
  · rintro ⟨rfl, rfl⟩
    exact ⟨[], rfl, rfl, rfl⟩

/-- The first element of a group is executed, and then the others. -/
theorem executesAll_cons {entry : Entry σ} {entries : List (Entry σ)} {state state' : D}
    {s s' : σ} :
    ExecutesAll step state (entry :: entries) s state' s' ↔
      ∃ middle t, Executes step state entry s middle t ∧
        ExecutesAll step middle entries t state' s' := by
  unfold ExecutesAll Executes
  rw [executeAll]
  constructor
  · rintro ⟨entries', h⟩
    obtain ⟨middle, ⟨entry', t⟩, value, hfirst, hrest⟩ := Program.completes_andThen.mp h
    obtain ⟨⟨rest, t'⟩, hrest, heq⟩ := Program.completes_mapMemory.mp hrest
    cases heq
    exact ⟨middle, t, ⟨entry', hfirst⟩, ⟨rest, hrest⟩⟩
  · rintro ⟨middle, t, ⟨entry', hfirst⟩, ⟨rest, hrest⟩⟩
    refine ⟨entry' :: rest, Program.completes_andThen.mpr ⟨middle, (entry', t), (), hfirst, ?_⟩⟩
    exact Program.completes_mapMemory.mpr ⟨(rest, s'), hrest, rfl⟩

/-! ## The entries of a chain -/

/-- The chain of a query entry. -/
theorem runsTo_query {options : QueryOptions} {params : ValueCollector} {store : Rows → σ → σ}
    {next : Entry σ} {state state' : D} {s s' : σ} :
    RunsTo step state (.query options params store next) s state' s' ↔
      ∃ rows middle, step state ⟨options, params.toPqxx⟩ rows middle ∧
        RunsTo step middle next (store rows s) state' s' := by
  rw [runsTo_of_executes fun s => by rw [executeChain]]
  constructor
  · rintro ⟨middle, t, hfirst, hrest⟩
    obtain ⟨rows, hstep, rfl⟩ := executes_query.mp hfirst
    exact ⟨rows, middle, hstep, hrest⟩
  · rintro ⟨rows, middle, hstep, hrest⟩
    exact ⟨middle, _, executes_query.mpr ⟨rows, hstep, rfl⟩, hrest⟩

/-- The chain of a variable entry. -/
theorem runsTo_variable {function : σ → Code σ Unit} {next : Entry σ} {state state' : D}
    {s s' : σ} :
    RunsTo step state (.variable function next) s state' s' ↔
      ∃ middle t, (function s).Completes step state middle t () ∧
        RunsTo step middle next t state' s' := by
  rw [runsTo_of_executes fun s => by rw [executeChain]]
  exact exists_congr fun middle => exists_congr fun t => and_congr_left' executes_variable

/-- The chain of a group. -/
theorem runsTo_grouped {entries : List (Entry σ)} {next : Entry σ} {state state' : D}
    {s s' : σ} :
    RunsTo step state (.grouped entries next) s state' s' ↔
      ∃ middle t, ExecutesAll step state entries s middle t ∧
        RunsTo step middle next t state' s' := by
  rw [runsTo_of_executes fun s => by rw [executeChain]]
  exact exists_congr fun middle => exists_congr fun t => and_congr_left' executes_grouped

/-- The entry is one after which the chain goes on with a next entry. -/
def HasNext : Entry σ → Prop
  | .query .. | .variable .. | .grouped .. => True
  | .null | .condition .. => False

/-- The chain of an entry that is given a next entry. -/
theorem runsTo_setNext {entry next : Entry σ} (hentry : entry.HasNext) {state state' : D}
    {s s' : σ} :
    RunsTo step state (entry.setNext next) s state' s' ↔
      ∃ middle t, Executes step state entry s middle t ∧ RunsTo step middle next t state' s' := by
  match entry with
  | .query options params store _ =>
    rw [setNext, runsTo_query]
    constructor
    · rintro ⟨rows, middle, hstep, hrest⟩
      exact ⟨middle, _, executes_query.mpr ⟨rows, hstep, rfl⟩, hrest⟩
    · rintro ⟨middle, t, hfirst, hrest⟩
      obtain ⟨rows, hstep, rfl⟩ := executes_query.mp hfirst
      exact ⟨rows, middle, hstep, hrest⟩
  | .variable function _ =>
    rw [setNext, runsTo_variable]
    exact exists_congr fun middle => exists_congr fun t => and_congr_left' executes_variable.symm
  | .grouped entries _ =>
    rw [setNext, runsTo_grouped]
    exact exists_congr fun middle => exists_congr fun t => and_congr_left' executes_grouped.symm

/-- The chain of an entry that has no next entry yet, and then the chain that it is given. -/
theorem runsTo_setNext_of_last {entry next : Entry σ} (hentry : entry.HasNext)
    (hlast : entry.setNext .null = entry) {state state' : D} {s s' : σ} :
    RunsTo step state (entry.setNext next) s state' s' ↔
      ∃ middle t, RunsTo step state entry s middle t ∧ RunsTo step middle next t state' s' := by
  have hone : ∀ {middle : D} {t : σ},
      RunsTo step state entry s middle t ↔ Executes step state entry s middle t := by
    intro middle t
    conv_lhs => rw [← hlast]
    rw [runsTo_setNext hentry]
    constructor
    · rintro ⟨state'', s'', hfirst, hnull⟩
      obtain ⟨rfl, rfl⟩ := runsTo_null.mp hnull
      exact hfirst
    · intro hfirst
      exact ⟨middle, t, hfirst, runsTo_null.mpr ⟨rfl, rfl⟩⟩
  rw [runsTo_setNext hentry]
  exact exists_congr fun middle => exists_congr fun t => and_congr_left' hone.symm

/-! ## Chains that follow one another -/

section Follows

variable {τ : Type} {see : σ → τ}

/-- Wherever the first entry gets, the second one gets on what is seen of the memory. -/
def Follows (step : D → Statement → Rows → D → Prop) (see : σ → τ) (entry : Entry σ)
    (entry' : Entry τ) : Prop :=
  ∀ state s state' s', Executes step state entry s state' s' →
    Executes step state entry' (see s) state' (see s')

/-- The same of whole chains. -/
def ChainFollows (step : D → Statement → Rows → D → Prop) (see : σ → τ) (entry : Entry σ)
    (entry' : Entry τ) : Prop :=
  ∀ state s state' s', RunsTo step state entry s state' s' →
    RunsTo step state entry' (see s) state' (see s')

/-- The rows of one statement are stored alike. -/
theorem Follows.query {options : QueryOptions} {params : ValueCollector} {store : Rows → σ → σ}
    {store' : Rows → τ → τ} {next : Entry σ} {next' : Entry τ}
    (h : ∀ rows s, store' rows (see s) = see (store rows s)) :
    Follows step see (.query options params store next) (.query options params store' next') := by
  intro state s state' s' hexecutes
  obtain ⟨rows, hstep, rfl⟩ := executes_query.mp hexecutes
  exact executes_query.mpr ⟨rows, hstep, (h rows s).symm⟩

/-- The functions do the same to what is seen. -/
theorem Follows.variable {function : σ → Code σ Unit} {function' : τ → Code τ Unit}
    {next : Entry σ} {next' : Entry τ}
    (h : ∀ s, function' (see s) = (function s).mapMemory see) :
    Follows step see (.variable function next) (.variable function' next') := by
  intro state s state' s' hexecutes
  refine executes_variable.mpr ?_
  rw [h]
  exact Program.completes_mapMemory.mpr ⟨s', executes_variable.mp hexecutes, rfl⟩

/-- The elements of a group follow one another. -/
theorem Follows.grouped {entries : List (Entry σ)} {entries' : List (Entry τ)} {next : Entry σ}
    {next' : Entry τ} (h : List.Forall₂ (Follows step see) entries entries') :
    Follows step see (.grouped entries next) (.grouped entries' next') := by
  intro state s state' s' hexecutes
  replace hexecutes := executes_grouped.mp hexecutes
  refine executes_grouped.mpr ?_
  induction h generalizing state s with
  | nil =>
    obtain ⟨rfl, rfl⟩ := executesAll_nil.mp hexecutes
    exact executesAll_nil.mpr ⟨rfl, rfl⟩
  | cons hfirst _ ih =>
    obtain ⟨middle, t, hone, hrest⟩ := executesAll_cons.mp hexecutes
    exact executesAll_cons.mpr ⟨middle, see t, hfirst _ _ _ _ hone, ih _ _ hrest⟩

/-- Nothing is left to do in either chain. -/
theorem ChainFollows.null : ChainFollows step see (.null : Entry σ) (.null : Entry τ) := by
  intro state s state' s' hruns
  obtain ⟨rfl, rfl⟩ := runsTo_null.mp hruns
  exact runsTo_null.mpr ⟨rfl, rfl⟩

/-- The first entries, and then the chains behind them. -/
theorem ChainFollows.setNext {entry next : Entry σ} {entry' next' : Entry τ}
    (hentry : entry.HasNext) (hentry' : entry'.HasNext) (h : Follows step see entry entry')
    (hnext : ChainFollows step see next next') :
    ChainFollows step see (entry.setNext next) (entry'.setNext next') := by
  intro state s state' s' hruns
  obtain ⟨middle, t, hfirst, hrest⟩ := (runsTo_setNext hentry).mp hruns
  exact (runsTo_setNext hentry').mpr
    ⟨middle, see t, h _ _ _ _ hfirst, hnext _ _ _ _ hrest⟩

end Follows

end Entry

/-! ## Scripts -/

namespace Script

variable {α : Type}

/-- A script as the code of an entry leaves the memory of the task. -/
theorem completes_asCode {script : Script α} {state state' : D} {s s' : σ} {value : α} :
    (script.asCode s).Completes step state state' s' value ↔
      script.Completes step state state' () value ∧ s' = s := by
  unfold asCode
  rw [Program.completes_mapMemory]
  constructor
  · rintro ⟨memory, h, rfl⟩
    exact ⟨h, rfl⟩
  · rintro ⟨h, rfl⟩
    exact ⟨(), h, rfl⟩

/-- A value is there at once. -/
theorem completes_ofExcept {result : Except Exception α} {state state' : D} {value : α} :
    (ofExcept result).Completes step state state' () value ↔
      state' = state ∧ result = .ok value := by
  cases result with
  | error exception => simp [ofExcept, Program.Completes]
  | ok value' =>
    rw [Except.ok.injEq, eq_comm (a := value')]
    simp [ofExcept, Program.Completes]

/-- A value is there at once. -/
theorem completes_pure {state state' : D} {value value' : α} :
    (pure value : Script α).Completes step state state' () value' ↔
      state' = state ∧ value' = value := by
  simp [Program.Completes]

/-- A new entry is one statement. -/
theorem completes_execute {query : Query} {state state' : D} {rows : Rows} :
    (execute query).Completes step state state' () rows ↔
      step state ⟨query.options, query.params.toPqxx⟩ rows state' := by
  constructor
  · rintro ⟨rows', state'', hstep, rfl, -, rfl⟩
    exact hstep
  · intro hstep
    exact ⟨rows, state', hstep, rfl, rfl, rfl⟩

/-- A new entry of a query that `QueryFactory` may refuse. -/
theorem completes_executeCreated {query : Except CheckFailed Query} {state state' : D}
    {rows : Rows} :
    (executeCreated query).Completes step state state' () rows ↔
      ∃ created, query = .ok created ∧
        step state ⟨created.options, created.params.toPqxx⟩ rows state' := by
  cases query with
  | error failure => simp [executeCreated, throw, Program.Completes]
  | ok created => simp [executeCreated, completes_execute]

/-- A script that has thrown does not get to its end. -/
theorem completes_throw {exception : Exception} {state state' : D} {value : α} :
    ¬ (throw exception : Script α).Completes step state state' () value :=
  fun h => h

end Script

end Srv.Db.Trsct

import WarehouseAccounting.DbConnector.Query.QueryOptions
import Mathlib.Logic.Function.Basic

/-!
# The store of prepared queries

`QueryManager::GetOrSupportQueryId` of `query_manager.cpp`: options that `Equals` some stored
options get the id of these, other options are stored under a fresh id.

- `QueryManager.Invariant`: ids name at most one stored options each, in every reachable state.
- `QueryManager.getOrSupportQueryId_sound_iff`: an id names options with the text of the query
  exactly when the first stored options that `Equals` accepts have its connectives and its
  order direction.
-/

namespace Srv.Db.Qry

open Ufa

/-- `queryid_t`. The counter starts at one and is never near its bound of 64 bits. -/
abbrev QueryId := Nat

/-- An element of the vectors in `queriesStorage_t`. -/
abbrev StoredQuery := QueryId × QueryOptions

/-- The state of `QueryManager`. -/
structure QueryManager where
  /-- `m_currentId`: the next id. -/
  currentId : QueryId := 1
  /-- `m_supportedQueries`: a vector for every kind of query that was asked for. -/
  supportedQueries : QueryIdentificator → Option (List StoredQuery) := fun _ => none

namespace QueryManager

/-- The search for options that are supported already: the first ones of the kind that
`Equals` accepts. -/
def findSupported (manager : QueryManager) (options : QueryOptions) : Option StoredQuery :=
  (manager.supportedQueries options.getIdentificator).bind
    (·.find? fun pair => pair.2.equals options)

/-- The options are appended to the vector of their kind under the current id. -/
def store (options : QueryOptions) (manager : QueryManager) : QueryManager :=
  let vec := (manager.supportedQueries options.getIdentificator).getD []
  { currentId := manager.currentId + 1
    supportedQueries := Function.update manager.supportedQueries options.getIdentificator
      (some (vec ++ [(manager.currentId, options)])) }

/-- Add support for new options. The id is taken before the trace message is built; when
`tracing` is on, the message serializes the options, which may throw. -/
def addSupport (tracing : Bool) (options : QueryOptions) (manager : QueryManager) :
    Except CheckFailed QueryId × QueryManager :=
  let traced := if tracing then options.serializeParametrized else .ok ""
  match traced with
  | .error e => (.error e, { manager with currentId := manager.currentId + 1 })
  | .ok _ => (.ok manager.currentId, manager.store options)

/-- `QueryManager::GetOrSupportQueryId`, of the options of the query. -/
def getOrSupportQueryId (tracing : Bool) (options : QueryOptions) (manager : QueryManager) :
    Except CheckFailed QueryId × QueryManager :=
  match manager.findSupported options with
  | some pair => (.ok pair.1, manager)
  | none => manager.addSupport tracing options

/-- The state after a sequence of `GetOrSupportQueryId` calls. -/
def run (tracing : Bool) (queries : List QueryOptions) (manager : QueryManager) : QueryManager :=
  queries.foldl (fun manager options => (manager.getOrSupportQueryId tracing options).2) manager

/-- The options are stored under the id. -/
def Stored (manager : QueryManager) (id : QueryId) (options : QueryOptions) : Prop :=
  ∃ vec, manager.supportedQueries options.getIdentificator = some vec ∧ (id, options) ∈ vec

/-! ## What one call does -/

/-- Options that no stored options of their kind are equal to were stored under the id that
was current, or the trace message threw after the id was taken. -/
theorem addSupport_cases (tracing : Bool) (options : QueryOptions) (manager : QueryManager) :
    ((tracing = true → options.wellFormed = true) ∧
      manager.addSupport tracing options = (.ok manager.currentId, manager.store options)) ∨
    (tracing = true ∧ options.wellFormed = false ∧
      ∃ e, manager.addSupport tracing options =
        (.error e, { manager with currentId := manager.currentId + 1 })) := by
  rw [addSupport]
  cases tracing with
  | false => exact .inl ⟨by simp, rfl⟩
  | true =>
    have hok := options.serializeParametrized_isOk
    rcases hrun : options.serializeParametrized with e | text <;> rw [hrun] at hok
    · exact .inr ⟨rfl, hok.symm, e, rfl⟩
    · exact .inl ⟨fun _ => hok.symm, rfl⟩

/-- A call finds stored options and changes nothing, or adds support for new ones. -/
theorem getOrSupportQueryId_of_found (tracing : Bool) {options : QueryOptions}
    {manager : QueryManager} {pair : StoredQuery} (h : manager.findSupported options = some pair) :
    manager.getOrSupportQueryId tracing options = (.ok pair.1, manager) := by
  rw [getOrSupportQueryId, h]

/-- Options that are not found get support. -/
theorem getOrSupportQueryId_of_not_found (tracing : Bool) {options : QueryOptions}
    {manager : QueryManager} (h : manager.findSupported options = none) :
    manager.getOrSupportQueryId tracing options = manager.addSupport tracing options := by
  rw [getOrSupportQueryId, h]

/-- Found options are stored, and `Equals` accepts them. -/
theorem findSupported_spec {options : QueryOptions} {manager : QueryManager} {pair : StoredQuery}
    (h : manager.findSupported options = some pair) :
    manager.Stored pair.1 pair.2 ∧ pair.2.equals options = true := by
  obtain ⟨vec, hvec, hfind⟩ := Option.bind_eq_some_iff.mp h
  have hequals : pair.2.equals options = true := by simpa using List.find?_some hfind
  have hkind := QueryOptions.getIdentificator_eq_of_equals hequals
  exact ⟨⟨vec, by rw [hkind]; exact hvec, List.mem_of_find?_eq_some hfind⟩, hequals⟩

@[simp]
theorem store_currentId (options : QueryOptions) (manager : QueryManager) :
    (manager.store options).currentId = manager.currentId + 1 := rfl

/-- The vector that the options are appended to. -/
theorem store_supportedQueries_self (options : QueryOptions) (manager : QueryManager) :
    (manager.store options).supportedQueries options.getIdentificator =
      some ((manager.supportedQueries options.getIdentificator).getD [] ++
        [(manager.currentId, options)]) :=
  Function.update_self ..

/-- The other vectors stay as they are. -/
theorem store_supportedQueries_of_ne {options : QueryOptions} {identificator : QueryIdentificator}
    (hkind : identificator ≠ options.getIdentificator) (manager : QueryManager) :
    (manager.store options).supportedQueries identificator =
      manager.supportedQueries identificator :=
  Function.update_of_ne hkind ..

/-- After storing, the new options are stored besides the old ones. -/
theorem stored_store {options other : QueryOptions} {manager : QueryManager} {id : QueryId} :
    (manager.store options).Stored id other ↔
      manager.Stored id other ∨ (id = manager.currentId ∧ other = options) := by
  by_cases hkind : other.getIdentificator = options.getIdentificator
  · simp only [Stored, hkind, store_supportedQueries_self, Option.some.injEq]
    rcases hvec : manager.supportedQueries options.getIdentificator with _ | vec
    · simp
    · simp
  · have hne : other ≠ options := fun heq => hkind (by rw [heq])
    simp [Stored, store_supportedQueries_of_ne hkind, hne]

/-- Taking an id without storing anything leaves the stored options alone. -/
@[simp]
theorem stored_withCurrentId {manager : QueryManager} {id next : QueryId} {options : QueryOptions} :
    QueryManager.Stored { manager with currentId := next } id options ↔
      manager.Stored id options := Iff.rfl

/-! ## Ids name options -/

/-- Stored ids were taken from the counter, each names one entry only, and the vectors hold
their own kind of options in the order of the ids. -/
structure Invariant (manager : QueryManager) : Prop where
  /-- Ids start at one, so that zero is below all of them. -/
  currentId_pos : 0 < manager.currentId
  /-- Stored ids are positive. -/
  id_pos : ∀ {id options}, manager.Stored id options → 0 < id
  /-- Stored ids are below the counter. -/
  id_lt : ∀ {id options}, manager.Stored id options → id < manager.currentId
  /-- One id names one entry. -/
  unique : ∀ {id options other}, manager.Stored id options → manager.Stored id other →
    options = other
  /-- A vector holds options of its own kind. -/
  kind : ∀ {identificator vec}, manager.supportedQueries identificator = some vec →
    ∀ pair ∈ vec, pair.2.getIdentificator = identificator
  /-- A vector is in the order of its ids. -/
  sorted : ∀ {identificator vec}, manager.supportedQueries identificator = some vec →
    vec.Pairwise (fun pair next => pair.1 < next.1)

/-- The invariant holds of the empty store. -/
theorem invariant_init : Invariant {} where
  currentId_pos := Nat.one_pos
  id_pos := by
    rintro id options ⟨vec, hvec, -⟩
    cases hvec
  id_lt := by
    rintro id options ⟨vec, hvec, -⟩
    cases hvec
  unique := by
    rintro id options other ⟨vec, hvec, -⟩
    cases hvec
  kind := by
    intro identificator vec hvec
    cases hvec
  sorted := by
    intro identificator vec hvec
    cases hvec

/-- An element of a vector is stored. -/
theorem Invariant.stored_of_mem {manager : QueryManager} (h : Invariant manager)
    {identificator : QueryIdentificator} {vec : List StoredQuery}
    (hvec : manager.supportedQueries identificator = some vec) {pair : StoredQuery}
    (hpair : pair ∈ vec) : manager.Stored pair.1 pair.2 :=
  ⟨vec, by rw [h.kind hvec pair hpair]; exact hvec, hpair⟩

/-- The vector that the new options are appended to. -/
theorem Invariant.getD_spec {manager : QueryManager} (h : Invariant manager)
    (identificator : QueryIdentificator) :
    (∀ pair ∈ (manager.supportedQueries identificator).getD [],
      pair.2.getIdentificator = identificator ∧ pair.1 < manager.currentId) ∧
    ((manager.supportedQueries identificator).getD []).Pairwise
      (fun pair next => pair.1 < next.1) := by
  rcases hvec : manager.supportedQueries identificator with _ | vec
  · simp
  · exact ⟨fun pair hpair => ⟨h.kind hvec pair hpair, h.id_lt (h.stored_of_mem hvec hpair)⟩,
      h.sorted hvec⟩

/-- Storing options under the current id keeps the invariant. -/
theorem Invariant.store {manager : QueryManager} (h : Invariant manager) (options : QueryOptions) :
    Invariant (manager.store options) := by
  have hfresh : ∀ {other}, ¬ manager.Stored manager.currentId other :=
    fun hstored => absurd (h.id_lt hstored) (Nat.lt_irrefl _)
  obtain ⟨helements, hsorted⟩ := h.getD_spec options.getIdentificator
  refine ⟨Nat.succ_pos _, ?_, ?_, ?_, ?_, ?_⟩
  · intro id other hstored
    rcases stored_store.mp hstored with hold | ⟨rfl, -⟩
    · exact h.id_pos hold
    · exact h.currentId_pos
  · intro id other hstored
    change id < manager.currentId + 1
    rcases stored_store.mp hstored with hold | ⟨rfl, -⟩
    · exact Nat.lt_succ_of_lt (h.id_lt hold)
    · exact Nat.lt_succ_self _
  · intro id other other' hstored hstored'
    rcases stored_store.mp hstored with hold | ⟨rfl, rfl⟩ <;>
      rcases stored_store.mp hstored' with hold' | ⟨hid, rfl⟩
    · exact h.unique hold hold'
    · subst hid
      exact (hfresh hold).elim
    · exact (hfresh hold').elim
    · rfl
  · intro identificator vec hvec pair hpair
    by_cases hkind : identificator = options.getIdentificator
    · subst hkind
      rw [store_supportedQueries_self, Option.some.injEq] at hvec
      subst hvec
      rcases List.mem_append.mp hpair with hold | hnew
      · exact (helements pair hold).1
      · rw [List.mem_singleton.mp hnew]
    · rw [store_supportedQueries_of_ne hkind] at hvec
      exact h.kind hvec pair hpair
  · intro identificator vec hvec
    by_cases hkind : identificator = options.getIdentificator
    · subst hkind
      rw [store_supportedQueries_self, Option.some.injEq] at hvec
      subst hvec
      refine List.pairwise_append.mpr ⟨hsorted, List.pairwise_singleton _ _, ?_⟩
      intro pair hpair next hnext
      rw [List.mem_singleton.mp hnext]
      exact (helements pair hpair).2
    · rw [store_supportedQueries_of_ne hkind] at hvec
      exact h.sorted hvec

/-- Taking an id without storing anything keeps the invariant. -/
theorem Invariant.takeId {manager : QueryManager} (h : Invariant manager) :
    Invariant { manager with currentId := manager.currentId + 1 } :=
  ⟨Nat.succ_pos _, h.id_pos, fun hstored => Nat.lt_succ_of_lt (h.id_lt hstored), h.unique, h.kind,
    h.sorted⟩

/-- A call keeps the invariant. -/
theorem Invariant.getOrSupportQueryId {manager : QueryManager} (h : Invariant manager)
    (tracing : Bool) (options : QueryOptions) :
    Invariant (manager.getOrSupportQueryId tracing options).2 := by
  rcases hfind : manager.findSupported options with _ | pair
  · rw [getOrSupportQueryId_of_not_found tracing hfind]
    rcases manager.addSupport_cases tracing options with ⟨-, hadd⟩ | ⟨-, -, e, hadd⟩
    · rw [hadd]
      exact h.store options
    · rw [hadd]
      exact h.takeId
  · rw [getOrSupportQueryId_of_found tracing hfind]
    exact h

/-- A call keeps what is stored. -/
theorem stored_getOrSupportQueryId {manager : QueryManager} {id : QueryId} {stored : QueryOptions}
    (h : manager.Stored id stored) (tracing : Bool) (options : QueryOptions) :
    (manager.getOrSupportQueryId tracing options).2.Stored id stored := by
  rcases hfind : manager.findSupported options with _ | pair
  · rw [getOrSupportQueryId_of_not_found tracing hfind]
    rcases manager.addSupport_cases tracing options with ⟨-, hadd⟩ | ⟨-, -, e, hadd⟩ <;> rw [hadd]
    · exact stored_store.mpr (.inl h)
    · exact h
  · rw [getOrSupportQueryId_of_found tracing hfind]
    exact h

/-- Every sequence of calls keeps the invariant and what is stored. -/
theorem Invariant.run {manager : QueryManager} (h : Invariant manager) (tracing : Bool)
    (queries : List QueryOptions) :
    Invariant (manager.run tracing queries) ∧
      ∀ {id stored}, manager.Stored id stored → (manager.run tracing queries).Stored id stored := by
  induction queries generalizing manager with
  | nil => exact ⟨h, id⟩
  | cons options queries ih =>
    obtain ⟨hinv, hstored⟩ := ih (h.getOrSupportQueryId tracing options)
    exact ⟨hinv, fun hold => hstored (stored_getOrSupportQueryId hold tracing options)⟩

/-! ## What later calls leave of the store -/

/-- The later store has kept what was stored, and everything new in it has an id from the
counter of the earlier one on. -/
structure Grows (manager later : QueryManager) : Prop where
  /-- The counter only goes up. -/
  currentId_le : manager.currentId ≤ later.currentId
  /-- Stored options stay under their id. -/
  kept : ∀ {id options}, manager.Stored id options → later.Stored id options
  /-- New options have new ids. -/
  fresh : ∀ {id options}, later.Stored id options →
    manager.Stored id options ∨ manager.currentId ≤ id

theorem Grows.refl (manager : QueryManager) : manager.Grows manager :=
  ⟨Nat.le_refl _, id, .inl⟩

theorem Grows.trans {manager later last : QueryManager} (h : manager.Grows later)
    (h' : later.Grows last) : manager.Grows last := by
  refine ⟨Nat.le_trans h.currentId_le h'.currentId_le, fun hstored => h'.kept (h.kept hstored), ?_⟩
  intro id options hstored
  rcases h'.fresh hstored with hlater | hle
  · exact h.fresh hlater
  · exact .inr (Nat.le_trans h.currentId_le hle)

/-- A call leaves a store that has grown; an id it returns names stored options, and it throws
only when the trace message of an ill-formed query does. -/
theorem getOrSupportQueryId_grows {tracing : Bool} {options : QueryOptions}
    {manager manager' : QueryManager} {result : Except CheckFailed QueryId}
    (hcall : manager.getOrSupportQueryId tracing options = (result, manager')) :
    manager.Grows manager' ∧ (∀ id, result = .ok id → ∃ stored, manager'.Stored id stored) ∧
      ∀ failure, result = .error failure → tracing = true ∧ options.wellFormed = false := by
  rcases hfind : manager.findSupported options with _ | pair
  · rw [getOrSupportQueryId_of_not_found tracing hfind] at hcall
    rcases manager.addSupport_cases tracing options with ⟨-, hadd⟩ | ⟨htracing, hill, e, hadd⟩ <;>
      rw [hadd] at hcall <;> cases hcall
    · refine ⟨⟨Nat.le_succ _, fun hstored => stored_store.mpr (.inl hstored), ?_⟩, ?_, by simp⟩
      · intro id other hstored
        rcases stored_store.mp hstored with hold | ⟨rfl, -⟩
        · exact .inl hold
        · exact .inr (Nat.le_refl _)
      · intro id hid
        cases hid
        exact ⟨options, stored_store.mpr (.inr ⟨rfl, rfl⟩)⟩
    · exact ⟨⟨Nat.le_succ _, fun hstored => hstored, .inl⟩, by simp, fun _ _ => ⟨htracing, hill⟩⟩
  · rw [getOrSupportQueryId_of_found tracing hfind] at hcall
    cases hcall
    refine ⟨Grows.refl manager, ?_, by simp⟩
    intro id hid
    cases hid
    exact ⟨pair.2, (findSupported_spec hfind).1⟩

/-! ## The id of a query runs its text -/

/-- The id that the call returns names, now and after any later calls, stored options, and
these serialize as the options of the query do. -/
def RunsOwnText (tracing : Bool) (manager : QueryManager) (options : QueryOptions) : Prop :=
  ∀ id manager', manager.getOrSupportQueryId tracing options = (.ok id, manager') →
    ∀ later : List QueryOptions, ∃ stored, (manager'.run tracing later).Stored id stored ∧
      (∀ other, (manager'.run tracing later).Stored id other → other = stored) ∧
      stored.serializeParametrized = options.serializeParametrized

/-- The first stored options that `Equals` takes for those of a well-formed query agree with
these in the connectives of their groups and in the direction of an `ORDER BY`. -/
def FirstMatchAgrees (manager : QueryManager) (options : QueryOptions) : Prop :=
  ∀ pair, manager.findSupported options = some pair →
    options.wellFormed = true → pair.2.Agrees options

/-- After every sequence of calls, the id returned for the next query runs the text of this
query exactly when the first match of `Equals` agrees with it in what `Equals` leaves out. -/
theorem getOrSupportQueryId_sound_iff (tracing : Bool) (earlier : List QueryOptions)
    (options : QueryOptions) :
    RunsOwnText tracing (QueryManager.run tracing earlier {}) options ↔
      FirstMatchAgrees (QueryManager.run tracing earlier {}) options := by
  obtain ⟨hinv, -⟩ := invariant_init.run tracing earlier
  generalize QueryManager.run tracing earlier {} = manager at hinv ⊢
  rcases hfind : manager.findSupported options with _ | pair
  · -- Nothing is found: the id is fresh and names the options themselves.
    refine ⟨fun _ pair hpair => absurd (hfind.symm.trans hpair) (by simp), fun _ => ?_⟩
    intro id manager' hcall later
    rw [getOrSupportQueryId_of_not_found tracing hfind] at hcall
    rcases manager.addSupport_cases tracing options with ⟨-, hadd⟩ | ⟨-, -, e, hadd⟩ <;>
      rw [hadd] at hcall <;> cases hcall
    obtain ⟨hlater, hstored⟩ := (hinv.store options).run tracing later
    have hown := hstored (stored_store.mpr (.inr ⟨rfl, rfl⟩))
    exact ⟨options, hown, fun other hother => hlater.unique hother hown, rfl⟩
  · -- Stored options are found: they name the id for good.
    obtain ⟨hpair, hequals⟩ := findSupported_spec hfind
    have htexts := QueryOptions.serializeParametrized_eq_iff hequals
    constructor
    · intro hsound pair' hpair' hwellFormed
      obtain rfl : pair = pair' := by simpa [hfind] using hpair'
      obtain ⟨stored, hstored, -, htext⟩ :=
        hsound _ _ (getOrSupportQueryId_of_found tracing hfind) []
      obtain rfl : stored = pair.2 := hinv.unique hstored hpair
      exact htexts.mp htext hwellFormed
    · intro hagrees id manager' hcall later
      rw [getOrSupportQueryId_of_found tracing hfind] at hcall
      cases hcall
      obtain ⟨hlater, hstored⟩ := hinv.run tracing later
      have hown := hstored hpair
      exact ⟨pair.2, hown, fun other hother => hlater.unique hother hown,
        htexts.mpr (hagrees pair hfind)⟩

/-- The select by login and password digest, with the given connective between the two. -/
def loginQuery (type : GroupConditionType) : QueryOptions :=
  .select
    { table := .user
      condition := some (.group type
        [.real .login (.text "admin") .equal, .real .passwordHashed (.text "digest") .equal]) }

/-- After the select with `OR`, the select with `AND` gets the id of the one with `OR`. -/
theorem loginQuery_runs_other_text :
    ¬ ∀ (tracing : Bool) (earlier : List QueryOptions) (options : QueryOptions),
      RunsOwnText tracing (QueryManager.run tracing earlier {}) options := by
  intro h
  obtain ⟨stored, -, hunique, htext⟩ :=
    h false [loginQuery .or] (loginQuery .and) 1 (QueryManager.run false [loginQuery .or] {}) rfl []
  have hor : loginQuery .or = stored := hunique _ ⟨[(1, loginQuery .or)], rfl, by simp⟩
  rw [← hor] at htext
  exact absurd htext (by decide)

end QueryManager

end Srv.Db.Qry

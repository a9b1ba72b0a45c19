import WarehouseAccounting.DbConnector.Connection
import Mathlib.Data.List.MinMax
import Mathlib.Order.Nat

/-!
# Prepared statements under interleaving

Any number of cached `TransactionEntryFactory::CreateQueryTransactionEntry` calls at the same
time, on any connections that share one query manager. A call takes three steps between which
the others go on: `GetOrSupportQueryId` and `RefreshSupportedQueries`, which both hold
`m_queriesMutex`, and in between the look at the mark of its connection.

- `CachedCall.advance_alone`: the three steps on their own are `createCachedQueryEntry`.
- `ConcurrentCalls.Invariant`: every connection has prepared the stored queries up to its mark.
- `ConcurrentCalls.calls_find_prepared`: when every prepare succeeds, a call returns an id that
  is prepared with its own text, whatever the other calls did in between.
-/

namespace Srv.Db.Conn

open Ufa Qry

/-- How far a cached `CreateQueryTransactionEntry` has come. -/
inductive CallPhase where
  /-- `GetOrSupportQueryId` comes next. -/
  | created
  /-- The id is known; the mark of the connection is looked at next. -/
  | supported (queryId : QueryId)
  /-- The mark was below the id; `RefreshSupportedQueries` comes next. -/
  | refreshing (queryId : QueryId)
  /-- The entry was built with the id. -/
  | returned (queryId : QueryId)
  /-- An exception ended the call. -/
  | failed (failure : PrepareFailure)
  deriving DecidableEq, Repr

/-- A call of the cached branch of `CreateQueryTransactionEntry`. -/
structure CachedCall where
  /-- The connection of the transaction. -/
  connection : Nat
  /-- The options of the query. -/
  options : QueryOptions
  phase : CallPhase := .created

/-- The next step of a call: its new phase, the store and the connection. A call that has
ended stays as it is. -/
def CachedCall.advance (tracing : Bool) (accepts : String → Bool) (call : CachedCall)
    (manager : QueryManager) (connection : Connection) :
    CallPhase × QueryManager × Connection :=
  match call.phase with
  | .created =>
    match manager.getOrSupportQueryId tracing call.options with
    | (.error failure, manager) => (.failed (.check failure), manager, connection)
    | (.ok queryId, manager) => (.supported queryId, manager, connection)
  | .supported queryId =>
    if connection.lastSupportedQuery < queryId then
      (.refreshing queryId, manager, connection)
    else
      (.returned queryId, manager, connection)
  | .refreshing queryId =>
    match connection.refreshSupportedQueries accepts manager with
    | (.error failure, connection) => (.failed failure, manager, connection)
    | (.ok (), connection) => (.returned queryId, manager, connection)
  | phase => (phase, manager, connection)

/-- The connections, the store they share, and the calls that were made so far. -/
structure ConcurrentCalls where
  manager : QueryManager := {}
  connections : List Connection := []
  calls : List CachedCall := []

/-- What happens to them. -/
inductive CallEvent where
  /-- The pool opens one more connection. -/
  | openConnection
  /-- A call is made on the connection of that index. -/
  | call (connection : Nat) (options : QueryOptions)
  /-- The call of that index takes its next step. -/
  | advance (call : Nat)

namespace ConcurrentCalls

/-- The state after one event. -/
def step (tracing : Bool) (accepts : String → Bool) (state : ConcurrentCalls) :
    CallEvent → ConcurrentCalls
  | .openConnection => { state with connections := state.connections ++ [{}] }
  | .call connection options => { state with calls := state.calls ++ [{ connection, options }] }
  | .advance index =>
    match state.calls[index]? with
    | none => state
    | some call =>
      match state.connections[call.connection]? with
      | none => state
      | some connection =>
        let (phase, manager, connection) :=
          call.advance tracing accepts state.manager connection
        { manager
          connections := state.connections.set call.connection connection
          calls := state.calls.set index { call with phase } }

/-- The state after a sequence of events. -/
def run (tracing : Bool) (accepts : String → Bool) (events : List CallEvent)
    (state : ConcurrentCalls) : ConcurrentCalls :=
  events.foldl (step tracing accepts) state

/-- Every prepare of the event succeeds: when it refreshes a connection, the stored queries
above the mark of this connection have a text that the database accepts. -/
def PreparesSucceed (accepts : String → Bool) (state : ConcurrentCalls) : CallEvent → Prop
  | .advance index =>
    ∀ call connection queryId, state.calls[index]? = some call →
      call.phase = .refreshing queryId → state.connections[call.connection]? = some connection →
      ∀ id options, state.manager.Stored id options → connection.lastSupportedQuery < id →
        Accepted accepts options
  | _ => True

/-- Every prepare of the run succeeds. -/
def AllPreparesSucceed (tracing : Bool) (accepts : String → Bool) :
    ConcurrentCalls → List CallEvent → Prop
  | _, [] => True
  | state, event :: events => state.PreparesSucceed accepts event ∧
      AllPreparesSucceed tracing accepts (state.step tracing accepts event) events

end ConcurrentCalls

/-- On its own a call does in its three steps what `createCachedQueryEntry` does. -/
theorem CachedCall.advance_alone (tracing : Bool) (accepts : String → Bool)
    (options : QueryOptions) (manager : QueryManager) (connection : Connection) (index : Nat) :
    let first := CachedCall.advance tracing accepts { connection := index, options } manager
      connection
    let second := CachedCall.advance tracing accepts
      { connection := index, options, phase := first.1 } first.2.1 first.2.2
    let third := CachedCall.advance tracing accepts
      { connection := index, options, phase := second.1 } second.2.1 second.2.2
    third = match createCachedQueryEntry tracing accepts options manager connection with
      | (.ok queryId, shared) => (.returned queryId, shared)
      | (.error failure, shared) => (.failed failure, shared) := by
  rw [createCachedQueryEntry]
  rcases hcall : manager.getOrSupportQueryId tracing options with ⟨_ | queryId, manager'⟩
  · simp [advance, hcall]
  · by_cases hmark : connection.lastSupportedQuery < queryId
    · rcases hrefresh : connection.refreshSupportedQueries accepts manager' with
        ⟨_ | _, connection'⟩ <;> simp [advance, hcall, hmark, hrefresh]
    · simp [advance, hcall, hmark]

/-! ## What a connection has prepared -/

namespace Connection

/-- The connection has prepared the stored queries up to its mark with their texts, and no name
twice. -/
structure Supports (manager : QueryManager) (connection : Connection) : Prop where
  /-- The mark is an id that was given out, or zero. -/
  mark_lt : connection.lastSupportedQuery < manager.currentId
  /-- Nothing above the mark is prepared. -/
  le_mark : ∀ {id}, connection.IsPrepared id → id ≤ connection.lastSupportedQuery
  /-- The mark itself is prepared, unless nothing is. -/
  mark_prepared : connection.lastSupportedQuery = 0 ∨
    connection.IsPrepared connection.lastSupportedQuery
  /-- What is stored up to the mark is prepared with its text. -/
  prepared : ∀ {id options}, manager.Stored id options → id ≤ connection.lastSupportedQuery →
    ∃ text, options.serializeParametrized = .ok text ∧ (id, text) ∈ connection.prepared
  /-- No name is in use twice. -/
  nodup : (connection.prepared.map Prod.fst).Nodup

/-- A fresh connection has nothing to support. -/
theorem supports_fresh {manager : QueryManager} (hmanager : manager.Invariant) :
    Supports manager {} where
  mark_lt := hmanager.currentId_pos
  le_mark := by
    rintro id ⟨text, htext⟩
    cases htext
  mark_prepared := .inl rfl
  prepared hstored hid := absurd (hmanager.id_pos hstored) (Nat.not_lt_of_le hid)
  nodup := List.nodup_nil

/-- What other calls store meanwhile lies above the mark. -/
theorem Supports.grow {manager later : QueryManager} {connection : Connection}
    (h : Supports manager connection) (hgrows : manager.Grows later) :
    Supports later connection where
  mark_lt := h.mark_lt.trans_le hgrows.currentId_le
  le_mark := h.le_mark
  mark_prepared := h.mark_prepared
  prepared := by
    intro id options hstored hid
    rcases hgrows.fresh hstored with hold | hfresh
    · exact h.prepared hold hid
    · exact absurd (hid.trans_lt h.mark_lt) (Nat.not_lt_of_le hfresh)
  nodup := h.nodup

/-- The mark is the largest id that is prepared, or zero. -/
theorem Supports.mark_eq {manager : QueryManager} {connection : Connection}
    (h : Supports manager connection) :
    connection.lastSupportedQuery = (connection.prepared.map Prod.fst).foldr max 0 := by
  apply Nat.le_antisymm
  · rcases h.mark_prepared with hzero | ⟨text, hmem⟩
    · rw [hzero]
      exact Nat.zero_le _
    · exact List.le_max_of_le' 0 (List.mem_map.mpr ⟨_, hmem, rfl⟩) le_rfl
  · have hle : ∀ id ∈ connection.prepared.map Prod.fst, id ≤ connection.lastSupportedQuery := by
      intro id hid
      obtain ⟨statement, hstatement, rfl⟩ := List.mem_map.mp hid
      exact h.le_mark ⟨statement.2, hstatement⟩
    exact List.max_le_of_forall_le _ _ hle

/-- A refresh whose prepares succeed brings the connection up to date with the store. -/
theorem Supports.refresh {accepts : String → Bool} {manager : QueryManager}
    {connection : Connection} (h : Supports manager connection) (hmanager : manager.Invariant)
    (haccepted : ∀ id options, manager.Stored id options → connection.lastSupportedQuery < id →
      Accepted accepts options) :
    ∃ connection', connection.refreshSupportedQueries accepts manager = (.ok (), connection') ∧
      Supports manager connection' ∧
      connection.lastSupportedQuery ≤ connection'.lastSupportedQuery ∧
      ∀ id options, manager.Stored id options → id ≤ connection'.lastSupportedQuery := by
  have hstored : ∀ pair ∈ manager.rqueries, manager.Stored pair.1 pair.2 :=
    fun pair hpair => (QueryManager.mem_rqueries hmanager pair).mp hpair
  rcases hqueries : manager.rqueries with _ | ⟨⟨realLast, lastOptions⟩, queries⟩
  · -- Nothing is stored.
    refine ⟨connection, by simp [refreshSupportedQueries, hqueries], h, le_rfl, ?_⟩
    intro id options hid
    have hmem := (QueryManager.mem_rqueries hmanager (id, options)).mpr hid
    simp [hqueries] at hmem
  have hlast : ∀ id options, manager.Stored id options → id ≤ realLast :=
    fun _ _ => QueryManager.le_of_rqueries_cons hmanager hqueries
  by_cases hmark : connection.lastSupportedQuery < realLast
  · have hlastStored : manager.Stored realLast lastOptions :=
      hstored (realLast, lastOptions) (by simp [hqueries])
    -- The loop prepares what lies above the old mark, whose names are all free.
    obtain ⟨connection', hrun, hmark', hprepared, hnodup⟩ := @supportQueries_prepared
      accepts connection.lastSupportedQuery _
      { connection with lastSupportedQuery := realLast } (QueryManager.rqueries_sorted hmanager)
      (fun pair hpair => haccepted pair.1 pair.2 (hstored pair hpair))
      (fun pair _ hlt hprepared => absurd hlt (Nat.not_lt_of_le (h.le_mark hprepared)))
    have hnew : ∀ id options, manager.Stored id options → connection.lastSupportedQuery < id →
        ∃ text, options.serializeParametrized = .ok text ∧ (id, text) ∈ connection'.prepared := by
      intro id options hid hlt
      obtain ⟨text, htext, -⟩ := haccepted id options hid hlt
      have hmem := (QueryManager.mem_rqueries hmanager (id, options)).mpr hid
      exact ⟨text, htext, (hprepared id text).mpr (.inr ⟨options, hmem, hlt, htext⟩)⟩
    refine ⟨connection', ?_, ⟨?_, ?_, ?_, ?_, hnodup h.nodup⟩, ?_, ?_⟩
    · rw [hqueries] at hrun
      simp [refreshSupportedQueries, hqueries, hmark, hrun]
    · rw [hmark']
      exact hmanager.id_lt hlastStored
    · rintro id ⟨text, hmem⟩
      rw [hmark']
      rcases (hprepared id text).mp hmem with hold | ⟨options, hmem, -, -⟩
      · exact (h.le_mark ⟨text, hold⟩).trans hmark.le
      · exact hlast id options (hstored _ hmem)
    · rw [hmark']
      obtain ⟨text, -, hmem⟩ := hnew realLast lastOptions hlastStored hmark
      exact .inr ⟨text, hmem⟩
    · intro id options hid _
      rcases Nat.lt_or_ge connection.lastSupportedQuery id with hlt | hle
      · exact hnew id options hid hlt
      · obtain ⟨text, htext, hmem⟩ := h.prepared hid hle
        exact ⟨text, htext, (hprepared id text).mpr (.inl hmem)⟩
    · rw [hmark']
      exact hmark.le
    · intro id options hid
      rw [hmark']
      exact hlast id options hid
  · exact ⟨connection, by simp [refreshSupportedQueries, hqueries, hmark], h, le_rfl,
      fun id options hid => (hlast id options hid).trans (Nat.not_lt.mp hmark)⟩

end Connection

open Connection

/-! ## One step of one call -/

/-- What a call knows in its phase: the id it got names stored options, the mark is not below an
id it returned, and it failed only if the trace message of its own ill-formed query threw. -/
def CallPhase.Sound (tracing : Bool) (options : QueryOptions) (manager : QueryManager)
    (connection : Connection) : CallPhase → Prop
  | .created => True
  | .supported queryId => ∃ stored, manager.Stored queryId stored
  | .refreshing queryId => ∃ stored, manager.Stored queryId stored
  | .returned queryId => (∃ stored, manager.Stored queryId stored) ∧
      queryId ≤ connection.lastSupportedQuery
  | .failed failure => (∃ check, failure = .check check) ∧ tracing = true ∧
      options.wellFormed = false

/-- What a call knows stays true while others go on. -/
theorem CallPhase.Sound.grow {tracing : Bool} {options : QueryOptions}
    {manager later : QueryManager} {connection connection' : Connection} {phase : CallPhase}
    (h : phase.Sound tracing options manager connection) (hgrows : manager.Grows later)
    (hmark : connection.lastSupportedQuery ≤ connection'.lastSupportedQuery) :
    phase.Sound tracing options later connection' := by
  cases phase with
  | created => trivial
  | supported queryId =>
    obtain ⟨stored, hstored⟩ := h
    exact ⟨stored, hgrows.kept hstored⟩
  | refreshing queryId =>
    obtain ⟨stored, hstored⟩ := h
    exact ⟨stored, hgrows.kept hstored⟩
  | returned queryId =>
    obtain ⟨⟨stored, hstored⟩, hle⟩ := h
    exact ⟨⟨stored, hgrows.kept hstored⟩, hle.trans hmark⟩
  | failed failure => exact h

/-- A step of a call whose prepares succeed: the store grows, the connection is supported by the
new store, its mark does not go down, and the call knows what it should. -/
theorem CachedCall.advance_spec {tracing : Bool} {accepts : String → Bool} {call : CachedCall}
    {manager : QueryManager} {connection : Connection} (hmanager : manager.Invariant)
    (h : Supports manager connection)
    (hsound : call.phase.Sound tracing call.options manager connection)
    (hprepares : ∀ queryId, call.phase = .refreshing queryId → ∀ id options,
      manager.Stored id options → connection.lastSupportedQuery < id → Accepted accepts options) :
    ∃ phase manager' connection',
      call.advance tracing accepts manager connection = (phase, manager', connection') ∧
      manager'.Invariant ∧ manager.Grows manager' ∧ Supports manager' connection' ∧
      connection.lastSupportedQuery ≤ connection'.lastSupportedQuery ∧
      phase.Sound tracing call.options manager' connection' := by
  obtain ⟨index, options, phase⟩ := call
  cases phase with
  | created =>
    -- The lookup: under the mutex of the store, the connection is not touched.
    rcases hcall : manager.getOrSupportQueryId tracing options with ⟨result, manager'⟩
    have hinv := hmanager.getOrSupportQueryId tracing options
    rw [hcall] at hinv
    obtain ⟨hgrows, hok, herror⟩ := QueryManager.getOrSupportQueryId_grows hcall
    cases result with
    | error failure =>
      exact ⟨.failed (.check failure), manager', connection, by simp [advance, hcall], hinv,
        hgrows, h.grow hgrows, le_rfl, ⟨failure, rfl⟩, herror failure rfl⟩
    | ok queryId =>
      exact ⟨.supported queryId, manager', connection, by simp [advance, hcall], hinv,
        hgrows, h.grow hgrows, le_rfl, hok queryId rfl⟩
  | supported queryId =>
    by_cases hmark : connection.lastSupportedQuery < queryId
    · exact ⟨.refreshing queryId, manager, connection, by simp [advance, hmark], hmanager,
        QueryManager.Grows.refl manager, h, le_rfl, hsound⟩
    · exact ⟨.returned queryId, manager, connection, by simp [advance, hmark], hmanager,
        QueryManager.Grows.refl manager, h, le_rfl, hsound, Nat.not_lt.mp hmark⟩
  | refreshing queryId =>
    -- The refresh: whatever was stored since the lookup is prepared as well.
    obtain ⟨stored, hstored⟩ := hsound
    obtain ⟨connection', hrefresh, hsupports, hmark, hall⟩ :=
      h.refresh hmanager (hprepares queryId rfl)
    exact ⟨.returned queryId, manager, connection', by simp [advance, hrefresh], hmanager,
      QueryManager.Grows.refl manager, hsupports, hmark, ⟨stored, hstored⟩,
      hall queryId stored hstored⟩
  | returned queryId =>
    exact ⟨.returned queryId, manager, connection, rfl, hmanager,
      QueryManager.Grows.refl manager, h, le_rfl, hsound⟩
  | failed failure =>
    exact ⟨.failed failure, manager, connection, rfl, hmanager,
      QueryManager.Grows.refl manager, h, le_rfl, hsound⟩

/-! ## Any interleaving -/

namespace ConcurrentCalls

/-- The store is in order, every connection has prepared what is stored up to its mark, and
every call that has begun knows what it should. -/
structure Invariant (tracing : Bool) (state : ConcurrentCalls) : Prop where
  manager : state.manager.Invariant
  connections : ∀ connection ∈ state.connections, Supports state.manager connection
  calls : ∀ call ∈ state.calls, call.phase = .created ∨
    ∃ connection, state.connections[call.connection]? = some connection ∧
      call.phase.Sound tracing call.options state.manager connection

/-- The invariant holds before anything has happened. -/
theorem invariant_init (tracing : Bool) : Invariant tracing {} where
  manager := QueryManager.invariant_init
  connections := by simp
  calls := by simp

/-- No connection is gone and no mark has gone down. -/
def MarksGrow (state later : ConcurrentCalls) : Prop :=
  ∀ (index : Nat) connection, state.connections[index]? = some connection →
    ∃ connection', later.connections[index]? = some connection' ∧
      connection.lastSupportedQuery ≤ connection'.lastSupportedQuery

theorem MarksGrow.refl (state : ConcurrentCalls) : state.MarksGrow state :=
  fun _ connection hconnection => ⟨connection, hconnection, le_rfl⟩

theorem MarksGrow.trans {state later last : ConcurrentCalls} (h : state.MarksGrow later)
    (h' : later.MarksGrow last) : state.MarksGrow last := by
  intro index connection hconnection
  obtain ⟨connection', hconnection', hle⟩ := h index connection hconnection
  obtain ⟨connection'', hconnection'', hle'⟩ := h' index connection' hconnection'
  exact ⟨connection'', hconnection'', hle.trans hle'⟩

/-- Opening a connection leaves the others where they are. -/
theorem marksGrow_openConnection (state : ConcurrentCalls) :
    state.MarksGrow { state with connections := state.connections ++ [{}] } := by
  intro index connection hconnection
  obtain ⟨hindex, -⟩ := List.getElem?_eq_some_iff.mp hconnection
  exact ⟨connection, by simpa [List.getElem?_append_left hindex] using hconnection, le_rfl⟩

/-- Replacing a connection by one with a mark that is not lower. -/
theorem marksGrow_set {state later : ConcurrentCalls} {index : Nat}
    {connection connection' : Connection} (hget : state.connections[index]? = some connection)
    (hset : later.connections = state.connections.set index connection')
    (hle : connection.lastSupportedQuery ≤ connection'.lastSupportedQuery) :
    state.MarksGrow later := by
  intro other otherConnection hother
  rw [hset]
  by_cases hindex : index = other
  · subst hindex
    obtain ⟨hlt, -⟩ := List.getElem?_eq_some_iff.mp hget
    obtain rfl : connection = otherConnection := by simpa [hget] using hother
    exact ⟨connection', by simp [hlt], hle⟩
  · exact ⟨otherConnection, by simpa [List.getElem?_set_ne hindex] using hother, le_rfl⟩

/-- Calls that others leave alone know after a step what they knew before. -/
theorem Invariant.calls_grow {tracing : Bool} {state later : ConcurrentCalls}
    (h : Invariant tracing state) (hgrows : state.manager.Grows later.manager)
    (hmarks : state.MarksGrow later) :
    ∀ call ∈ state.calls, call.phase = .created ∨
      ∃ connection, later.connections[call.connection]? = some connection ∧
        call.phase.Sound tracing call.options later.manager connection := by
  intro call hcall
  rcases h.calls call hcall with hcreated | ⟨connection, hconnection, hsound⟩
  · exact .inl hcreated
  · obtain ⟨connection', hconnection', hle⟩ := hmarks _ _ hconnection
    exact .inr ⟨connection', hconnection', hsound.grow hgrows hle⟩

/-- An event whose prepares succeed keeps the invariant; the store grows and so do the marks. -/
theorem Invariant.step {tracing : Bool} {accepts : String → Bool} {state : ConcurrentCalls}
    {event : CallEvent} (h : Invariant tracing state)
    (hprepares : state.PreparesSucceed accepts event) :
    Invariant tracing (state.step tracing accepts event) ∧
      state.manager.Grows (state.step tracing accepts event).manager ∧
      state.MarksGrow (state.step tracing accepts event) := by
  have hstays := QueryManager.Grows.refl state.manager
  cases event with
  | openConnection =>
    have hmarks := marksGrow_openConnection state
    refine ⟨⟨h.manager, ?_, h.calls_grow hstays hmarks⟩, hstays, hmarks⟩
    intro connection hconnection
    rcases List.mem_append.mp hconnection with hold | hnew
    · exact h.connections connection hold
    · rw [List.mem_singleton.mp hnew]
      exact supports_fresh h.manager
  | call connection options =>
    refine ⟨⟨h.manager, h.connections, ?_⟩, hstays, MarksGrow.refl state⟩
    intro call hcall
    rcases List.mem_append.mp hcall with hold | hnew
    · exact h.calls call hold
    · rw [List.mem_singleton.mp hnew]
      exact .inl rfl
  | advance index =>
    rcases hcall : state.calls[index]? with _ | call
    · simpa [ConcurrentCalls.step, hcall] using ⟨h, hstays, MarksGrow.refl state⟩
    rcases hconnection : state.connections[call.connection]? with _ | connection
    · simpa [ConcurrentCalls.step, hcall, hconnection] using ⟨h, hstays, MarksGrow.refl state⟩
    have hsound : call.phase.Sound tracing call.options state.manager connection := by
      rcases h.calls call (List.mem_of_getElem? hcall) with hcreated | ⟨other, hother, hsound⟩
      · rw [hcreated]
        trivial
      · obtain rfl : connection = other := by simpa [hconnection] using hother
        exact hsound
    obtain ⟨phase, manager', connection', hadvance, hmanager, hgrows, hsupports, hle, hphase⟩ :=
      CachedCall.advance_spec h.manager
        (h.connections connection (List.mem_of_getElem? hconnection)) hsound
        (fun queryId hqueryId => hprepares call connection queryId hcall hqueryId hconnection)
    have hstep : state.step tracing accepts (.advance index) =
        { manager := manager'
          connections := state.connections.set call.connection connection'
          calls := state.calls.set index { call with phase } } := by
      simp [ConcurrentCalls.step, hcall, hconnection, hadvance]
    rw [hstep]
    have hmarks : state.MarksGrow { manager := manager'
                                    connections := state.connections.set call.connection connection'
                                    calls := state.calls.set index { call with phase } } :=
      marksGrow_set hconnection rfl hle
    refine ⟨⟨hmanager, ?_, ?_⟩, hgrows, hmarks⟩
    · intro other hother
      rcases List.mem_or_eq_of_mem_set hother with hmem | rfl
      · exact (h.connections other hmem).grow hgrows
      · exact hsupports
    · intro other hother
      rcases List.mem_or_eq_of_mem_set hother with hmem | rfl
      · exact h.calls_grow hgrows hmarks other hmem
      · obtain ⟨hlt, -⟩ := List.getElem?_eq_some_iff.mp hconnection
        exact .inr ⟨connection', by simp [hlt], hphase⟩

/-- A run whose prepares succeed keeps the invariant; the store grows and so do the marks. -/
theorem Invariant.run {tracing : Bool} {accepts : String → Bool} {events : List CallEvent}
    {state : ConcurrentCalls} (h : Invariant tracing state)
    (hprepares : AllPreparesSucceed tracing accepts state events) :
    Invariant tracing (state.run tracing accepts events) ∧
      state.manager.Grows (state.run tracing accepts events).manager ∧
      state.MarksGrow (state.run tracing accepts events) := by
  induction events generalizing state with
  | nil => exact ⟨h, QueryManager.Grows.refl _, MarksGrow.refl state⟩
  | cons event events ih =>
    obtain ⟨hevent, hevents⟩ := hprepares
    obtain ⟨hinv, hgrows, hmarks⟩ := h.step hevent
    obtain ⟨hinv', hgrows', hmarks'⟩ := ih hinv hevents
    exact ⟨hinv', hgrows.trans hgrows', hmarks.trans hmarks'⟩

/-- The prepares of a run in two parts succeed in both of them. -/
theorem allPreparesSucceed_append {tracing : Bool} {accepts : String → Bool}
    {earlier later : List CallEvent} {state : ConcurrentCalls} :
    AllPreparesSucceed tracing accepts state (earlier ++ later) ↔
      AllPreparesSucceed tracing accepts state earlier ∧
      AllPreparesSucceed tracing accepts (state.run tracing accepts earlier) later := by
  induction earlier generalizing state with
  | nil => simp [AllPreparesSucceed, run]
  | cons event earlier ih =>
    simp only [List.cons_append, AllPreparesSucceed, ih, and_assoc]
    rfl

/-- A call that has returned got an id that is prepared on its connection, with the text of the
options stored under it. -/
def CallsPrepared (state : ConcurrentCalls) : Prop :=
  ∀ call ∈ state.calls, ∀ queryId, call.phase = .returned queryId →
    ∃ connection stored text, state.connections[call.connection]? = some connection ∧
      state.manager.Stored queryId stored ∧ stored.serializeParametrized = .ok text ∧
      (queryId, text) ∈ connection.prepared

/-- No connection has an id prepared twice, and no call ended because it tried to. -/
def PreparedOnce (state : ConcurrentCalls) : Prop :=
  (∀ connection ∈ state.connections, (connection.prepared.map Prod.fst).Nodup) ∧
    ∀ call ∈ state.calls, ∀ id, call.phase ≠ .failed (.refused id)

/-- Every mark is the largest id prepared on its connection, and zero without any. -/
def MarksLargest (state : ConcurrentCalls) : Prop :=
  ∀ connection ∈ state.connections,
    connection.lastSupportedQuery = (connection.prepared.map Prod.fst).foldr max 0

/-- Different options have different ids, and options stored later have larger ones. -/
def IdsIncrease (state later : ConcurrentCalls) : Prop :=
  (∀ id options other, later.manager.Stored id options → later.manager.Stored id other →
    options = other) ∧
  ∀ id options id' options', state.manager.Stored id options →
    later.manager.Stored id' options' → ¬ state.manager.Stored id' options' → id < id'

/-- Returned ids are prepared in every state with the invariant. -/
theorem Invariant.callsPrepared {tracing : Bool} {state : ConcurrentCalls}
    (h : Invariant tracing state) : state.CallsPrepared := by
  intro call hcall queryId hphase
  rcases h.calls call hcall with hcreated | ⟨connection, hconnection, hsound⟩
  · rw [hcreated] at hphase
    cases hphase
  rw [hphase] at hsound
  obtain ⟨⟨stored, hstored⟩, hle⟩ := hsound
  obtain ⟨text, htext, hmem⟩ :=
    (h.connections connection (List.mem_of_getElem? hconnection)).prepared hstored hle
  exact ⟨connection, stored, text, hconnection, hstored, htext, hmem⟩

/-- Nothing is prepared twice in a state with the invariant. -/
theorem Invariant.preparedOnce {tracing : Bool} {state : ConcurrentCalls}
    (h : Invariant tracing state) : state.PreparedOnce := by
  refine ⟨fun connection hconnection => (h.connections connection hconnection).nodup, ?_⟩
  intro call hcall id hphase
  rcases h.calls call hcall with hcreated | ⟨connection, -, hsound⟩
  · rw [hcreated] at hphase
    cases hphase
  · rw [hphase] at hsound
    obtain ⟨⟨check, hcheck⟩, -⟩ := hsound
    cases hcheck

/-- In every interleaving of cached calls whose prepares succeed, an id that a call returns is
prepared on its connection with the text of the options it names, no id is prepared twice on a
connection, the marks do not go down and are the largest prepared ids, and ids of different
options differ and grow in the order in which these are stored. -/
theorem calls_find_prepared (tracing : Bool) (accepts : String → Bool)
    (earlier later : List CallEvent)
    (hprepares : AllPreparesSucceed tracing accepts {} (earlier ++ later)) :
    (run tracing accepts (earlier ++ later) {}).CallsPrepared ∧
      (run tracing accepts (earlier ++ later) {}).PreparedOnce ∧
      (run tracing accepts (earlier ++ later) {}).MarksLargest ∧
      MarksGrow (run tracing accepts earlier {}) (run tracing accepts (earlier ++ later) {}) ∧
      IdsIncrease (run tracing accepts earlier {}) (run tracing accepts (earlier ++ later) {}) := by
  obtain ⟨hearlier, hlater⟩ := allPreparesSucceed_append.mp hprepares
  obtain ⟨hinv, -, -⟩ := (invariant_init tracing).run hearlier
  obtain ⟨hinv', hgrows, hmarks⟩ := hinv.run hlater
  have hrun : run tracing accepts (earlier ++ later) {} =
      (run tracing accepts earlier {}).run tracing accepts later :=
    List.foldl_append
  rw [hrun]
  refine ⟨hinv'.callsPrepared, hinv'.preparedOnce, ?_, hmarks, ?_, ?_⟩
  · exact fun connection hconnection => (hinv'.connections connection hconnection).mark_eq
  · exact fun id options other hid hother => hinv'.manager.unique hid hother
  · intro id options id' options' hold hnew hnot
    rcases hgrows.fresh hnew with hkept | hfresh
    · exact absurd hkept hnot
    · exact (hinv.manager.id_lt hold).trans_le hfresh

/-- The select of all users. -/
def userQuery : QueryOptions :=
  .select { table := .user }

/-- Two calls on two connections: the second one stores its query after the lookup of the first
one and before its refresh, and looks at its own mark only then. -/
theorem calls_find_prepared_two :
    let state := run false (fun _ => true)
      ([.openConnection, .openConnection, .call 0 SharedConnections.productQuery,
          .call 1 userQuery, .advance 0, .advance 1] ++
        [.advance 0, .advance 0, .advance 1, .advance 1]) {}
    state.calls.map CachedCall.phase = [.returned 1, .returned 2] ∧ state.CallsPrepared := by
  have hstored : ∀ id options,
      ((({} : QueryManager).store SharedConnections.productQuery).store userQuery).Stored id
        options → Accepted (fun _ => true) options := by
    intro id options h
    rcases QueryManager.stored_store.mp h with hfirst | ⟨-, rfl⟩
    · rcases QueryManager.stored_store.mp hfirst with ⟨vec, hvec, -⟩ | ⟨-, rfl⟩
      · cases hvec
      · exact ⟨_, rfl, rfl⟩
    · exact ⟨_, rfl, rfl⟩
  refine ⟨by decide, (calls_find_prepared false (fun _ => true)
    [.openConnection, .openConnection, .call 0 SharedConnections.productQuery, .call 1 userQuery,
      .advance 0, .advance 1] [.advance 0, .advance 0, .advance 1, .advance 1]
    ⟨trivial, trivial, trivial, trivial, ?_, ?_, ?_, ?_, ?_, ?_, trivial⟩).1⟩
  -- The lookups do not prepare anything.
  · intro call connection queryId hcall hphase
    cases hcall
    cases hphase
  · intro call connection queryId hcall hphase
    cases hcall
    cases hphase
  -- From here on the store holds the two queries.
  all_goals exact fun _ _ _ _ _ _ id options h _ => hstored id options h

end ConcurrentCalls

end Srv.Db.Conn

import WarehouseAccounting.DbConnector.Query.QueriesIterator

/-!
# Connections and prepared queries

`Connection::RefreshSupportedQueries` of `connection.cpp` and the cached branch of
`TransactionEntryFactory::CreateQueryTransactionEntry`, for any number of connections that share
one query manager. The database is a predicate that says which texts `prepare` accepts.

- `SharedConnections.Invariant`: what the mark of a connection promises about its queries.
- `SharedConnections.allExecutable_of_allHarmless`: in a run in which refused and accepted
  queries never meet above the mark of one connection, every accepted query stays executable.
-/

namespace Srv.Db.Conn

open Ufa Qry

/-- The exceptions that end a refresh. -/
inductive PrepareFailure where
  /-- The serialization of a stored query threw. -/
  | check (failure : CheckFailed)
  /-- `prepare` threw: the database refused the text, or the name was taken. -/
  | refused (id : QueryId)
  deriving DecidableEq, Repr

/-- `srv::db::conn::Connection`. -/
structure Connection where
  /-- The prepared statements of `m_rawConnection`, by the text of their id. -/
  prepared : List (QueryId × String) := []
  /-- `m_lastSupportedQuery`. -/
  lastSupportedQuery : QueryId := 0

namespace Connection

/-- Some statement is prepared under the id. -/
def IsPrepared (connection : Connection) (id : QueryId) : Prop :=
  ∃ text, (id, text) ∈ connection.prepared

/-- `Connection::SupportQuery`: `prepare` throws on a name that is in use and on a text that
the database refuses. -/
def supportQuery (accepts : String → Bool) (id : QueryId) (parametrizedQuery : String)
    (connection : Connection) : Except PrepareFailure Connection :=
  if connection.prepared.any fun statement => statement.1 = id then
    .error (.refused id)
  else if accepts parametrizedQuery then
    .ok { connection with prepared := (id, parametrizedQuery) :: connection.prepared }
  else
    .error (.refused id)

/-- The loop of `RefreshSupportedQueries` from the current query of the iterator on. The query
it is entered with is above the saved mark, and the test before the next query ends it. -/
def supportQueries (accepts : String → Bool) (savedLastSupportedId : QueryId) :
    List StoredQuery → Connection → Except PrepareFailure Unit × Connection
  | [], connection => (.ok (), connection)
  | (id, options) :: queries, connection =>
    if savedLastSupportedId < id then
      match options.serializeParametrized with
      | .error failure => (.error (.check failure), connection)
      | .ok text =>
        match connection.supportQuery accepts id text with
        | .error failure => (.error failure, connection)
        | .ok connection => supportQueries accepts savedLastSupportedId queries connection
    else
      (.ok (), connection)

/-- `Connection::RefreshSupportedQueries`. The mark is moved before anything is prepared. -/
def refreshSupportedQueries (accepts : String → Bool) (manager : QueryManager)
    (connection : Connection) : Except PrepareFailure Unit × Connection :=
  match manager.rqueries with
  | [] => (.ok (), connection)
  | (realLast, options) :: queries =>
    if connection.lastSupportedQuery < realLast then
      supportQueries accepts connection.lastSupportedQuery ((realLast, options) :: queries)
        { connection with lastSupportedQuery := realLast }
    else
      (.ok (), connection)

end Connection

/-- The cached branch of `TransactionEntryFactory::CreateQueryTransactionEntry`: the id that
the `CachedQueryTransactionEntry` is built with. -/
def createCachedQueryEntry (tracing : Bool) (accepts : String → Bool) (options : QueryOptions)
    (manager : QueryManager) (connection : Connection) :
    Except PrepareFailure QueryId × QueryManager × Connection :=
  match manager.getOrSupportQueryId tracing options with
  | (.error failure, manager) => (.error (.check failure), manager, connection)
  | (.ok queryId, manager) =>
    if connection.lastSupportedQuery < queryId then
      match connection.refreshSupportedQueries accepts manager with
      | (.error failure, connection) => (.error failure, manager, connection)
      | (.ok (), connection) => (.ok queryId, manager, connection)
    else
      (.ok queryId, manager, connection)

/-- The text of the options is one that `prepare` accepts. -/
def Accepted (accepts : String → Bool) (options : QueryOptions) : Prop :=
  ∃ text, options.serializeParametrized = .ok text ∧ accepts text = true

/-! ## One refresh -/

namespace Connection

/-- A text that the database accepts is prepared under a free name. -/
theorem supportQuery_of_accepted {accepts : String → Bool} {id : QueryId} {text : String}
    {connection : Connection} (hfree : ¬ connection.IsPrepared id) (htext : accepts text = true) :
    connection.supportQuery accepts id text =
      .ok { connection with prepared := (id, text) :: connection.prepared } := by
  have hany : connection.prepared.any (fun statement => statement.1 = id) = false := by
    rw [List.any_eq_false]
    intro statement hstatement hid
    exact hfree ⟨statement.2, by simpa [← of_decide_eq_true hid] using hstatement⟩
  simp [supportQuery, hany, htext]

/-- A text that the database refuses is not prepared. -/
theorem supportQuery_of_refused {accepts : String → Bool} {text : String}
    (htext : accepts text = false) (id : QueryId) (connection : Connection) :
    connection.supportQuery accepts id text = .error (.refused id) := by
  simp [supportQuery, htext]

/-- A loop over accepted queries that are not prepared yet prepares the texts of those above
the mark, and no name twice. -/
theorem supportQueries_prepared {accepts : String → Bool} {saved : QueryId}
    {queries : List StoredQuery} (connection : Connection)
    (hsorted : queries.Pairwise (fun pair next => next.1 < pair.1))
    (haccepted : ∀ pair ∈ queries, saved < pair.1 → Accepted accepts pair.2)
    (hfree : ∀ pair ∈ queries, saved < pair.1 → ¬ connection.IsPrepared pair.1) :
    ∃ connection', supportQueries accepts saved queries connection = (.ok (), connection') ∧
      connection'.lastSupportedQuery = connection.lastSupportedQuery ∧
      (∀ id text, (id, text) ∈ connection'.prepared ↔ (id, text) ∈ connection.prepared ∨
        ∃ options, (id, options) ∈ queries ∧ saved < id ∧
          options.serializeParametrized = .ok text) ∧
      ((connection.prepared.map Prod.fst).Nodup → (connection'.prepared.map Prod.fst).Nodup) := by
  induction queries generalizing connection with
  | nil => exact ⟨connection, rfl, rfl, by simp, id⟩
  | cons pair queries ih =>
    obtain ⟨id, options⟩ := pair
    have hbelow : ∀ next ∈ queries, next.1 < id := fun next hnext =>
      List.rel_of_pairwise_cons hsorted hnext
    by_cases hid : saved < id
    · obtain ⟨text, htext, hok⟩ := haccepted (id, options) (by simp) hid
      have hfreeId := hfree (id, options) (by simp) hid
      have hsupport := supportQuery_of_accepted hfreeId hok
      -- The new statement does not use the name of a later query.
      obtain ⟨connection', hrun, hmark, hprepared, hnodup⟩ := ih
        { connection with prepared := (id, text) :: connection.prepared }
        hsorted.of_cons (fun next hnext => haccepted next (by simp [hnext]))
        (fun next hnext hlt => by
          rintro ⟨text', hmem⟩
          rcases List.mem_cons.mp hmem with heq | hmem
          · exact absurd (congrArg Prod.fst heq) (hbelow next hnext).ne
          · exact hfree next (by simp [hnext]) hlt ⟨text', hmem⟩)
      refine ⟨connection', ?_, hmark, ?_, ?_⟩
      · simp [supportQueries, hid, htext, hsupport, hrun]
      · intro other text'
        rw [hprepared]
        constructor
        · rintro (hmem | ⟨options', hmem, hlt, htext'⟩)
          · rcases List.mem_cons.mp hmem with heq | hmem
            · cases heq
              exact .inr ⟨options, by simp, hid, htext⟩
            · exact .inl hmem
          · exact .inr ⟨options', List.mem_cons_of_mem _ hmem, hlt, htext'⟩
        · rintro (hmem | ⟨options', hmem, hlt, htext'⟩)
          · exact .inl (List.mem_cons_of_mem _ hmem)
          · rcases List.mem_cons.mp hmem with heq | hmem
            · cases heq
              rw [htext] at htext'
              cases htext'
              exact .inl List.mem_cons_self
            · exact .inr ⟨options', hmem, hlt, htext'⟩
      · intro hold
        refine hnodup (List.nodup_cons.mpr ⟨?_, hold⟩)
        intro hmem
        obtain ⟨statement, hstatement, hname⟩ := List.mem_map.mp hmem
        exact hfreeId ⟨statement.2, by rw [← hname]; exact hstatement⟩
    · -- The walk goes down, so that nothing behind this query is above the mark either.
      refine ⟨connection, by simp [supportQueries, hid], rfl, fun other text => ⟨.inl, ?_⟩,
        fun hold => hold⟩
      rintro (hmem | ⟨options', hmem, hlt, -⟩)
      · exact hmem
      · rcases List.mem_cons.mp hmem with heq | hmem
        · cases heq
          exact absurd hlt hid
        · exact absurd (hlt.trans (hbelow _ hmem)) hid

/-- A loop over accepted queries that are not prepared yet prepares those above the mark. -/
theorem supportQueries_of_accepted {accepts : String → Bool} {saved : QueryId}
    {queries : List StoredQuery} (connection : Connection)
    (hsorted : queries.Pairwise (fun pair next => next.1 < pair.1))
    (haccepted : ∀ pair ∈ queries, saved < pair.1 → Accepted accepts pair.2)
    (hfree : ∀ pair ∈ queries, saved < pair.1 → ¬ connection.IsPrepared pair.1) :
    ∃ connection', supportQueries accepts saved queries connection = (.ok (), connection') ∧
      connection'.lastSupportedQuery = connection.lastSupportedQuery ∧
      ∀ id, connection'.IsPrepared id ↔
        connection.IsPrepared id ∨ ∃ pair ∈ queries, pair.1 = id ∧ saved < id := by
  obtain ⟨connection', hrun, hmark, hprepared, -⟩ :=
    supportQueries_prepared connection hsorted haccepted hfree
  refine ⟨connection', hrun, hmark, fun id => ?_⟩
  constructor
  · rintro ⟨text, hmem⟩
    rcases (hprepared id text).mp hmem with hold | ⟨options, hmem, hlt, -⟩
    · exact .inl ⟨text, hold⟩
    · exact .inr ⟨(id, options), hmem, rfl, hlt⟩
  · rintro (⟨text, hmem⟩ | ⟨pair, hpair, rfl, hlt⟩)
    · exact ⟨text, (hprepared id text).mpr (.inl hmem)⟩
    · obtain ⟨text, htext, -⟩ := haccepted pair hpair hlt
      exact ⟨text, (hprepared pair.1 text).mpr (.inr ⟨pair.2, hpair, hlt, htext⟩)⟩

/-- A query that is not accepted ends the loop at once, whatever the reason. -/
theorem supportQueries_of_refused {accepts : String → Bool} {saved id : QueryId}
    {options : QueryOptions} (queries : List StoredQuery) (connection : Connection)
    (hid : saved < id) (hrefused : ¬ Accepted accepts options) :
    ∃ failure, supportQueries accepts saved ((id, options) :: queries) connection =
      (.error failure, connection) := by
  rcases htext : options.serializeParametrized with failure | text
  · exact ⟨.check failure, by simp [supportQueries, hid, htext]⟩
  · have hno : accepts text = false := by
      rw [← Bool.not_eq_true]
      exact fun hyes => hrefused ⟨text, htext, hyes⟩
    exact ⟨.refused id, by simp [supportQueries, hid, htext, supportQuery_of_refused hno]⟩

/-- The connection keeps its promise to the stored queries: it has prepared exactly accepted
queries up to its mark, and queries of both sorts never wait above its mark. -/
structure KeepsMark (accepts : String → Bool) (manager : QueryManager) (connection : Connection) :
    Prop where
  /-- The mark is an id that was given out, or zero. -/
  mark_lt : connection.lastSupportedQuery < manager.currentId
  /-- Only queries up to the mark are prepared. -/
  prepared_le : ∀ {id}, connection.IsPrepared id → id ≤ connection.lastSupportedQuery
  /-- The accepted queries up to the mark are prepared. -/
  prepared_of_accepted : ∀ {id options}, manager.Stored id options → Accepted accepts options →
    id ≤ connection.lastSupportedQuery → connection.IsPrepared id
  /-- An accepted query above the mark has no refused one beside it. -/
  accepted_or_refused : ∀ {id options other otherOptions}, manager.Stored id options →
    Accepted accepts options → manager.Stored other otherOptions →
    ¬ Accepted accepts otherOptions →
    id ≤ connection.lastSupportedQuery ∨ other ≤ connection.lastSupportedQuery

/-- A refresh from a mark below an accepted query prepares everything above the mark. -/
theorem KeepsMark.refresh_of_accepted {accepts : String → Bool} {manager : QueryManager}
    {connection : Connection} (hmanager : manager.Invariant)
    (h : KeepsMark accepts manager connection) {id : QueryId} {options : QueryOptions}
    (hstored : manager.Stored id options) (haccepted : Accepted accepts options)
    (hid : connection.lastSupportedQuery < id) :
    ∃ connection', connection.refreshSupportedQueries accepts manager = (.ok (), connection') ∧
      KeepsMark accepts manager connection' ∧ connection'.IsPrepared id := by
  have hmem := (QueryManager.mem_rqueries hmanager (id, options)).mpr hstored
  have hsorted := QueryManager.rqueries_sorted hmanager
  have hstored' : ∀ pair ∈ manager.rqueries, manager.Stored pair.1 pair.2 :=
    fun pair hpair => (QueryManager.mem_rqueries hmanager pair).mp hpair
  rcases hqueries : manager.rqueries with _ | ⟨⟨realLast, lastOptions⟩, queries⟩
  · simp [hqueries] at hmem
  have hlastStored : manager.Stored realLast lastOptions :=
    hstored' (realLast, lastOptions) (by simp [hqueries])
  have hlast : ∀ pair ∈ manager.rqueries, pair.1 ≤ realLast := fun pair hpair =>
    QueryManager.le_of_rqueries_cons hmanager hqueries (hstored' pair hpair)
  have hmark : connection.lastSupportedQuery < realLast := hid.trans_le (hlast _ hmem)
  -- Above the mark there are accepted queries only, and none of them is prepared yet.
  have hall : ∀ pair ∈ manager.rqueries, connection.lastSupportedQuery < pair.1 →
      Accepted accepts pair.2 := by
    intro pair hpair hlt
    by_contra hrefused
    rcases h.accepted_or_refused hstored haccepted (hstored' pair hpair) hrefused with hle | hle
    · exact absurd hid (Nat.not_lt_of_le hle)
    · exact absurd hlt (Nat.not_lt_of_le hle)
  obtain ⟨connection', hrun, hmark', hprepared⟩ := supportQueries_of_accepted
    { connection with lastSupportedQuery := realLast } hsorted hall
    (fun pair _ hlt hprepared => absurd hlt (Nat.not_lt_of_le (h.prepared_le hprepared)))
  have hrefresh : connection.refreshSupportedQueries accepts manager = (.ok (), connection') := by
    rw [hqueries] at hrun
    simp [refreshSupportedQueries, hqueries, hmark, hrun]
  refine ⟨connection', hrefresh, ⟨?_, ?_, ?_, ?_⟩, ?_⟩
  · rw [hmark']
    exact hmanager.id_lt hlastStored
  · intro other hother
    rw [hmark']
    rcases (hprepared other).mp hother with hold | ⟨pair, hpair, rfl, -⟩
    · exact (h.prepared_le hold).trans hmark.le
    · exact hlast pair hpair
  · intro other otherOptions hother hacceptedOther _
    refine (hprepared other).mpr ?_
    rcases Nat.lt_or_ge connection.lastSupportedQuery other with hlt | hle
    · exact .inr ⟨(other, otherOptions),
        (QueryManager.mem_rqueries hmanager (other, otherOptions)).mpr hother, rfl, hlt⟩
    · exact .inl (h.prepared_of_accepted hother hacceptedOther hle)
  · intro other otherOptions _ _ hother _ _ _
    rw [hmark']
    exact .inl (hlast (other, otherOptions)
      ((QueryManager.mem_rqueries hmanager (other, otherOptions)).mpr hother))
  · exact (hprepared id).mpr (.inr ⟨(id, options), hmem, rfl, hid⟩)

/-- A refresh from a mark below a refused query only moves the mark, and fails. -/
theorem KeepsMark.refresh_of_refused {accepts : String → Bool} {manager : QueryManager}
    {connection : Connection} (hmanager : manager.Invariant)
    (h : KeepsMark accepts manager connection) {id : QueryId} {options : QueryOptions}
    (hstored : manager.Stored id options) (hrefused : ¬ Accepted accepts options)
    (hid : connection.lastSupportedQuery < id) :
    ∃ failure connection', connection.refreshSupportedQueries accepts manager =
      (.error failure, connection') ∧ KeepsMark accepts manager connection' := by
  have hmem := (QueryManager.mem_rqueries hmanager (id, options)).mpr hstored
  rcases hqueries : manager.rqueries with _ | ⟨⟨realLast, lastOptions⟩, queries⟩
  · simp [hqueries] at hmem
  have hlastStored : manager.Stored realLast lastOptions :=
    (QueryManager.mem_rqueries hmanager (realLast, lastOptions)).mp (by simp [hqueries])
  have hlast : ∀ other otherOptions, manager.Stored other otherOptions → other ≤ realLast :=
    fun _ _ => QueryManager.le_of_rqueries_cons hmanager hqueries
  have hmark : connection.lastSupportedQuery < realLast := hid.trans_le (hlast _ _ hstored)
  -- The newest query is above the mark too, so it is as refused as the given one.
  have hrefusedLast : ¬ Accepted accepts lastOptions := by
    intro haccepted
    rcases h.accepted_or_refused hlastStored haccepted hstored hrefused with hle | hle
    · exact absurd hmark (Nat.not_lt_of_le hle)
    · exact absurd hid (Nat.not_lt_of_le hle)
  obtain ⟨failure, hrun⟩ := supportQueries_of_refused queries
    { connection with lastSupportedQuery := realLast } hmark hrefusedLast
  refine ⟨failure, { connection with lastSupportedQuery := realLast }, ?_, ?_, ?_, ?_, ?_⟩
  · simp [refreshSupportedQueries, hqueries, hmark, hrun]
  · exact hmanager.id_lt hlastStored
  · intro other hother
    exact (h.prepared_le hother).trans hmark.le
  · intro other otherOptions hother haccepted _
    rcases h.accepted_or_refused hother haccepted hstored hrefused with hle | hle
    · exact h.prepared_of_accepted hother haccepted hle
    · exact absurd hid (Nat.not_lt_of_le hle)
  · intro other otherOptions _ _ hother _ _ _
    exact .inl (hlast other otherOptions hother)

/-- A fresh connection keeps its mark when the store does not hold queries of both sorts. -/
theorem keepsMark_fresh {accepts : String → Bool} {manager : QueryManager}
    (hmanager : manager.Invariant)
    (hsort : ∀ {id options other otherOptions}, manager.Stored id options →
      Accepted accepts options → manager.Stored other otherOptions →
      Accepted accepts otherOptions) : KeepsMark accepts manager {} where
  mark_lt := hmanager.currentId_pos
  prepared_le := by
    rintro id ⟨text, htext⟩
    cases htext
  prepared_of_accepted hstored _ hid := absurd (hmanager.id_pos hstored) (Nat.not_lt_of_le hid)
  accepted_or_refused hstored haccepted hother hrefused :=
    absurd (hsort hstored haccepted hother) hrefused

/-- Taking an id without storing anything does not concern a connection. -/
theorem KeepsMark.takeId {accepts : String → Bool} {manager : QueryManager}
    {connection : Connection} (h : KeepsMark accepts manager connection) :
    KeepsMark accepts { manager with currentId := manager.currentId + 1 } connection where
  mark_lt := Nat.lt_succ_of_lt h.mark_lt
  prepared_le := h.prepared_le
  prepared_of_accepted := h.prepared_of_accepted
  accepted_or_refused := h.accepted_or_refused

/-- A new query may be stored when no query of the other sort waits above the mark. -/
theorem KeepsMark.store {accepts : String → Bool} {manager : QueryManager}
    {connection : Connection} (h : KeepsMark accepts manager connection) {options : QueryOptions}
    (hsort : ∀ id other, manager.Stored id other →
      ¬ (Accepted accepts options ↔ Accepted accepts other) →
      id ≤ connection.lastSupportedQuery) :
    KeepsMark accepts (manager.store options) connection := by
  refine ⟨Nat.lt_succ_of_lt h.mark_lt, h.prepared_le, ?_, ?_⟩
  · intro id other hstored haccepted hid
    rcases QueryManager.stored_store.mp hstored with hold | ⟨rfl, -⟩
    · exact h.prepared_of_accepted hold haccepted hid
    · exact absurd h.mark_lt (Nat.not_lt_of_le hid)
  · intro id accepted other refused hstored haccepted hother hrefused
    rcases QueryManager.stored_store.mp hstored with hold | ⟨rfl, rfl⟩ <;>
      rcases QueryManager.stored_store.mp hother with hold' | ⟨rfl, rfl⟩
    · exact h.accepted_or_refused hold haccepted hold' hrefused
    · exact .inl (hsort id accepted hold fun hiff => hrefused (hiff.mpr haccepted))
    · exact .inr (hsort other refused hold' fun hiff => hrefused (hiff.mp haccepted))
    · exact absurd haccepted hrefused

end Connection

open Connection

/-- A cached entry for an accepted stored query is built; whatever happens, the connection
keeps its mark. -/
theorem createCachedQueryEntry_of_supported {tracing : Bool} {accepts : String → Bool}
    {options stored : QueryOptions} {id : QueryId} {manager manager' : QueryManager}
    {connection : Connection}
    (hcall : manager.getOrSupportQueryId tracing options = (.ok id, manager'))
    (hmanager : manager'.Invariant) (h : KeepsMark accepts manager' connection)
    (hstored : manager'.Stored id stored) :
    ∃ result connection', createCachedQueryEntry tracing accepts options manager connection =
        (result, manager', connection') ∧
      KeepsMark accepts manager' connection' ∧ (Accepted accepts stored → result = .ok id) := by
  rw [createCachedQueryEntry, hcall]
  by_cases hid : connection.lastSupportedQuery < id
  · by_cases haccepted : Accepted accepts stored
    · obtain ⟨connection', hrun, hkeeps, -⟩ := h.refresh_of_accepted hmanager hstored haccepted hid
      exact ⟨.ok id, connection', by simp [hid, hrun], hkeeps, fun _ => rfl⟩
    · obtain ⟨failure, connection', hrun, hkeeps⟩ :=
        h.refresh_of_refused hmanager hstored haccepted hid
      exact ⟨.error failure, connection', by simp [hid, hrun], hkeeps,
        fun hyes => (haccepted hyes).elim⟩
  · exact ⟨.ok id, connection, by simp [hid], h, fun _ => rfl⟩

/-! ## Any number of connections -/

/-- The connections that share one query manager. -/
structure SharedConnections where
  manager : QueryManager := {}
  connections : List Connection := []

/-- What happens to them. -/
inductive Event where
  /-- The pool opens one more connection. -/
  | openConnection
  /-- A cached entry is created on the connection of that index. -/
  | createEntry (index : Nat) (options : QueryOptions)

namespace SharedConnections

/-- The state after one event. -/
def step (tracing : Bool) (accepts : String → Bool) (shared : SharedConnections) :
    Event → SharedConnections
  | .openConnection => { shared with connections := shared.connections ++ [{}] }
  | .createEntry index options =>
    match shared.connections[index]? with
    | none => shared
    | some connection =>
      let (_, manager, connection) :=
        createCachedQueryEntry tracing accepts options shared.manager connection
      { manager, connections := shared.connections.set index connection }

/-- Every accepted stored query is executable on every connection: it is prepared if the mark
says so, and a creation that is given its id succeeds. -/
def Executable (tracing : Bool) (accepts : String → Bool) (shared : SharedConnections) : Prop :=
  ∀ connection ∈ shared.connections, ∀ id stored, shared.manager.Stored id stored →
    Accepted accepts stored →
    (id ≤ connection.lastSupportedQuery → connection.IsPrepared id) ∧
    ∀ options, shared.manager.findSupported options = some (id, stored) →
      (createCachedQueryEntry tracing accepts options shared.manager connection).1 = .ok id

/-- The event does not fail on a query that the database accepts: a creation whose id names an
accepted query succeeds. -/
def EventSucceeds (tracing : Bool) (accepts : String → Bool) (shared : SharedConnections) :
    Event → Prop
  | .openConnection => True
  | .createEntry index options =>
    ∀ connection, shared.connections[index]? = some connection →
      ∀ id manager', shared.manager.getOrSupportQueryId tracing options = (.ok id, manager') →
        ∀ stored, manager'.Stored id stored → Accepted accepts stored →
          (createCachedQueryEntry tracing accepts options shared.manager connection).1 = .ok id

/-- The event does not bring an accepted and a refused query together above a mark: a
connection is opened while the store holds queries of one sort, and a query of some sort is
stored while no query of the other sort is above any mark. -/
def Harmless (tracing : Bool) (accepts : String → Bool) (shared : SharedConnections) :
    Event → Prop
  | .openConnection =>
    ∀ id stored other otherStored, shared.manager.Stored id stored →
      shared.manager.Stored other otherStored →
      (Accepted accepts stored ↔ Accepted accepts otherStored)
  | .createEntry index options =>
    index < shared.connections.length → shared.manager.findSupported options = none →
      (tracing = true → options.wellFormed = true) →
      ∀ connection ∈ shared.connections, ∀ id stored, shared.manager.Stored id stored →
        ¬ (Accepted accepts options ↔ Accepted accepts stored) →
        id ≤ connection.lastSupportedQuery

/-- Every event of the run is harmless in the state it happens in. -/
def AllHarmless (tracing : Bool) (accepts : String → Bool) : SharedConnections → List Event → Prop
  | _, [] => True
  | shared, event :: events => shared.Harmless tracing accepts event ∧
      AllHarmless tracing accepts (shared.step tracing accepts event) events

/-- Every state of the run keeps the accepted queries executable, and no event fails on one. -/
def AllExecutable (tracing : Bool) (accepts : String → Bool) :
    SharedConnections → List Event → Prop
  | shared, [] => shared.Executable tracing accepts
  | shared, event :: events => shared.Executable tracing accepts ∧
      shared.EventSucceeds tracing accepts event ∧
      AllExecutable tracing accepts (shared.step tracing accepts event) events

/-- The store is in order, and every connection keeps its mark. -/
structure Invariant (accepts : String → Bool) (shared : SharedConnections) : Prop where
  manager : shared.manager.Invariant
  connections : ∀ connection ∈ shared.connections, KeepsMark accepts shared.manager connection

/-- The invariant holds before any connection is opened. -/
theorem invariant_init (accepts : String → Bool) : Invariant accepts {} where
  manager := QueryManager.invariant_init
  connections := by simp

/-- In a state with the invariant the accepted queries are executable. -/
theorem Invariant.executable {accepts : String → Bool} {shared : SharedConnections}
    (h : Invariant accepts shared) (tracing : Bool) : shared.Executable tracing accepts := by
  intro connection hconnection id stored hstored haccepted
  have hkeeps := h.connections connection hconnection
  refine ⟨hkeeps.prepared_of_accepted hstored haccepted, ?_⟩
  intro options hfind
  obtain ⟨result, connection', hrun, -, hok⟩ := createCachedQueryEntry_of_supported
    (QueryManager.getOrSupportQueryId_of_found tracing hfind) h.manager hkeeps hstored
  rw [hrun]
  exact hok haccepted

/-- The connections after one of them was replaced. -/
theorem Invariant.set {accepts : String → Bool} {shared : SharedConnections}
    {manager : QueryManager} {connection : Connection} {index : Nat} (hmanager : manager.Invariant)
    (hold : ∀ connection ∈ shared.connections, KeepsMark accepts manager connection)
    (hnew : KeepsMark accepts manager connection) :
    Invariant accepts { manager, connections := shared.connections.set index connection } where
  manager := hmanager
  connections := by
    intro other hother
    rcases List.mem_or_eq_of_mem_set hother with hmem | rfl
    · exact hold other hmem
    · exact hnew

/-- A creation that gets an id keeps the invariant, when all connections keep their marks
towards the store it leaves, and does not fail on an accepted query. -/
theorem Invariant.createEntry {accepts : String → Bool} {shared : SharedConnections}
    {tracing : Bool} {index : Nat} {options stored : QueryOptions} {connection : Connection}
    {id : QueryId} {manager' : QueryManager}
    (hget : shared.connections[index]? = some connection)
    (hcall : shared.manager.getOrSupportQueryId tracing options = (.ok id, manager'))
    (hmanager : manager'.Invariant)
    (hkeeps : ∀ connection ∈ shared.connections, KeepsMark accepts manager' connection)
    (hstored : manager'.Stored id stored) :
    Invariant accepts (shared.step tracing accepts (.createEntry index options)) ∧
      shared.EventSucceeds tracing accepts (.createEntry index options) := by
  obtain ⟨result, connection', hrun, hkeeps', hok⟩ := createCachedQueryEntry_of_supported hcall
    hmanager (hkeeps connection (List.mem_of_getElem? hget)) hstored
  constructor
  · simp only [SharedConnections.step, hget, hrun]
    exact Invariant.set hmanager hkeeps hkeeps'
  · intro other hother id' manager'' hcall' stored' hstored' haccepted
    obtain rfl : connection = other := by simpa [hget] using hother
    obtain ⟨rfl, rfl⟩ : id = id' ∧ manager' = manager'' := by simpa [hcall] using hcall'
    rw [hrun]
    exact hok (hmanager.unique hstored' hstored ▸ haccepted)

/-- A harmless event keeps the invariant and does not fail on an accepted query. -/
theorem Invariant.step {accepts : String → Bool} {shared : SharedConnections} {tracing : Bool}
    {event : Event} (h : Invariant accepts shared)
    (hharmless : shared.Harmless tracing accepts event) :
    Invariant accepts (shared.step tracing accepts event) ∧
      shared.EventSucceeds tracing accepts event := by
  cases event with
  | openConnection =>
    refine ⟨⟨h.manager, ?_⟩, trivial⟩
    intro connection hconnection
    rcases List.mem_append.mp hconnection with hold | hnew
    · exact h.connections connection hold
    · rw [List.mem_singleton.mp hnew]
      exact keepsMark_fresh h.manager fun hstored haccepted hother =>
        (hharmless _ _ _ _ hstored hother).mp haccepted
  | createEntry index options =>
    rcases hget : shared.connections[index]? with _ | connection
    · refine ⟨by simpa [SharedConnections.step, hget] using h, ?_⟩
      intro connection hconnection
      exact absurd (hget.symm.trans hconnection) (by simp)
    rcases hfind : shared.manager.findSupported options with _ | pair
    · have hcall := QueryManager.getOrSupportQueryId_of_not_found tracing hfind
      rcases shared.manager.addSupport_cases tracing options with
        ⟨htraced, hadd⟩ | ⟨-, -, failure, hadd⟩ <;> rw [hadd] at hcall
      · -- The options are stored under a fresh id.
        obtain ⟨hindex, -⟩ := List.getElem?_eq_some_iff.mp hget
        refine Invariant.createEntry hget hcall (h.manager.store options) ?_
          (QueryManager.stored_store.mpr (.inr ⟨rfl, rfl⟩))
        exact fun other hother => (h.connections other hother).store
          (hharmless hindex hfind htraced other hother)
      · -- The trace message threw: an id is gone, nothing else has changed.
        have hrun : createCachedQueryEntry tracing accepts options shared.manager connection =
            (.error (.check failure),
              { shared.manager with currentId := shared.manager.currentId + 1 }, connection) := by
          rw [createCachedQueryEntry, hcall]
        have hkeeps : ∀ other ∈ shared.connections, KeepsMark accepts
            { shared.manager with currentId := shared.manager.currentId + 1 } other :=
          fun other hother => (h.connections other hother).takeId
        constructor
        · simp only [SharedConnections.step, hget, hrun]
          exact Invariant.set h.manager.takeId hkeeps (hkeeps _ (List.mem_of_getElem? hget))
        · intro other hother id manager' hcall'
          simp [hcall] at hcall'
    · exact Invariant.createEntry hget
        (QueryManager.getOrSupportQueryId_of_found tracing hfind) h.manager
        h.connections (QueryManager.findSupported_spec hfind).1

/-- In a run of harmless events from a state with the invariant, every accepted query stays
executable. -/
theorem Invariant.allExecutable {accepts : String → Bool} {tracing : Bool} {events : List Event}
    {shared : SharedConnections} (h : Invariant accepts shared)
    (hharmless : AllHarmless tracing accepts shared events) :
    AllExecutable tracing accepts shared events := by
  induction events generalizing shared with
  | nil => exact h.executable tracing
  | cons event events ih =>
    obtain ⟨hevent, hevents⟩ := hharmless
    obtain ⟨hstep, hsucceeds⟩ := h.step hevent
    exact ⟨h.executable tracing, hsucceeds, ih hstep hevents⟩

/-- In a run of harmless events from the start, every accepted query stays executable on every
connection, whatever queries are refused. -/
theorem allExecutable_of_allHarmless (tracing : Bool) (accepts : String → Bool)
    (events : List Event) (hharmless : AllHarmless tracing accepts {} events) :
    AllExecutable tracing accepts {} events :=
  (invariant_init accepts).allExecutable hharmless

/-- The select of all products. -/
def productQuery : QueryOptions :=
  .select { table := .product }

/-- The select of products by a column that their table does not have. -/
def misfilteredQuery : QueryOptions :=
  .select { table := .product, condition := some (.real .login (.integer 1) .equal) }

/-- A database that refuses the misfiltered query. -/
def acceptsAllButMisfiltered (text : String) : Bool :=
  text != "SELECT * FROM public.\"Product\" WHERE (login = $1);"

/-- On one connection the refused query comes first and does no harm. -/
theorem allExecutable_misfiltered_first :
    AllExecutable false acceptsAllButMisfiltered {}
      [.openConnection, .createEntry 0 misfilteredQuery, .createEntry 0 productQuery] := by
  refine allExecutable_of_allHarmless false acceptsAllButMisfiltered _ ⟨?_, ?_, ?_, trivial⟩
  · rintro id stored other otherStored ⟨vec, hvec, -⟩
    cases hvec
  · rintro - - - connection - id stored ⟨vec, hvec, -⟩
    cases hvec
  · intro _ _ _ connection hconnection id stored hstored _
    have hlt := (QueryManager.invariant_init.store misfilteredQuery).id_lt hstored
    obtain rfl : connection = { lastSupportedQuery := 1 } := List.mem_singleton.mp hconnection
    exact Nat.le_of_lt_succ hlt

/-- A second connection cannot use the accepted query once another query was refused. -/
theorem misfiltered_disables_product :
    ¬ ∀ (tracing : Bool) (accepts : String → Bool) (events : List Event),
      AllExecutable tracing accepts {} events := by
  intro h
  obtain ⟨-, -, -, -, -, -, -, -, hlast⟩ := h false acceptsAllButMisfiltered
    [.openConnection, .openConnection, .createEntry 0 productQuery,
      .createEntry 0 misfilteredQuery]
  obtain ⟨-, hcreate⟩ :=
    hlast {} (List.mem_cons_of_mem _ (List.mem_singleton.mpr rfl)) 1 productQuery
    ⟨[(1, productQuery), (2, misfilteredQuery)], rfl, List.mem_cons_self⟩
    ⟨"SELECT * FROM public.\"Product\";", by decide, by decide⟩
  exact absurd (hcreate productQuery rfl) (by decide)

end SharedConnections

end Srv.Db.Conn

import WarehouseAccounting.DbConnector.DbManager
import WarehouseAccounting.DbConnector.PoolRuns

/-!
# The pool after a database was created

`DbManager::CreateDb` leads the pool to the master database and back. Every step of it may fail,
and a connection that is in use then goes back to the pool before the handler is reached.

- `DbManager.createDb_leftConfigured`: however the creation goes, the pool is left with the options
  of the configured database, and with no connection but ones that were opened with them.
-/

namespace Srv.Db.DbMgr

open Conn

variable {S : Type}

/-! ## Connections that were opened with the options -/

/-- The options of the pool have this name and this text, and every free connection was opened
with the text. -/
structure OpenedWith (dbms : Dbms S) (dbname text : String) (pool : ConnectionPool) : Prop where
  named : pool.connectionOptions.dbname = dbname
  inForce : pool.connectionOptions.connString = text
  keeps : pool.connectionOptions.KeepsOwnText
  free : ∀ connection ∈ pool.freeConnections,
    connection = { connectionString := text, database := dbms.connect.names text }

/-- New options leave no free connection. -/
theorem openedWith_setSettings (dbms : Dbms S) (dbname : String) (pool : ConnectionPool) :
    OpenedWith dbms dbname (pool.connStringFor dbname)
      (pool.setSettings { dbmsDbname := some dbname }) where
  named := rfl
  inForce := rfl
  keeps := .inl rfl
  free connection hfree := by
    rw [ConnectionPool.freeConnections_setSettings rfl rfl] at hfree
    cases hfree

/-- A connection that goes back to the pool stays what it was. -/
theorem OpenedWith.returnConnection {dbms : Dbms S} {dbname text : String} {pool : ConnectionPool}
    (h : OpenedWith dbms dbname text pool) :
    OpenedWith dbms dbname text (pool.returnConnection
      { connectionString := text, database := dbms.connect.names text }) := by
  unfold ConnectionPool.returnConnection
  split
  · exact ⟨h.named, h.inForce, h.keeps, h.free⟩
  · refine ⟨h.named, h.inForce, h.keeps, fun connection hfree => ?_⟩
    rcases List.mem_append.mp hfree with hbefore | hnew
    · exact h.free connection hbefore
    · exact List.mem_singleton.mp hnew

/-- Asking for the text of the options keeps it, and changes nothing else. -/
theorem OpenedWith.of_getConnectionString {dbms : Dbms S} {dbname text : String}
    {pool : ConnectionPool} (h : OpenedWith dbms dbname text pool) (toCreate toDelete : UInt32) :
    OpenedWith dbms dbname text
      { pool with
        connectionOptions := pool.connectionOptions.getConnectionString.2
        toCreate, toDelete } := by
  have hsame := pool.connectionOptions.connString_getConnectionString
  refine ⟨?_, hsame.trans h.inForce, .inr ?_, h.free⟩
  · rw [← h.named]
    unfold ConnectionOptions.getConnectionString
    split <;> rfl
  · show pool.connectionOptions.getConnectionString.2.cachedString = _
    rw [pool.connectionOptions.cachedString_getConnectionString, h.keeps.getConnectionString]
    exact hsame.symm

/-- A connection that is handed out, free before or new, was opened with the options. -/
theorem OpenedWith.getConnection {dbms : Dbms S} {dbname text : String} {pool : ConnectionPool}
    (h : OpenedWith dbms dbname text pool) (hasDatabase : String → Bool) (clock : Nat) :
    OpenedWith dbms dbname text (pool.getConnection dbms.connect hasDatabase clock).2.1 ∧
      ∀ connection, (pool.getConnection dbms.connect hasDatabase clock).1 = some connection →
        connection = { connectionString := text, database := dbms.connect.names text } := by
  have hnew : ∀ connection, pool.freeConnections = [] →
      (pool.getConnection dbms.connect hasDatabase clock).1 = some connection →
      connection.connectionString = pool.connectionOptions.getConnectionString.1 →
      connection = { connectionString := text, database := dbms.connect.names text } := by
    intro connection hfree hget hstring
    have hdatabase := (ConnectionPool.database_of_getConnection hfree hget).1
    rw [h.keeps.getConnectionString, h.inForce] at hstring hdatabase
    cases connection
    rw [PooledConnection.mk.injEq]
    exact ⟨hstring, hdatabase⟩
  rcases pool.getConnection_cases dbms.connect hasDatabase clock with
    ⟨connection, hlast, hget⟩ |
      ⟨clock', hfree, hget | ⟨connection, hstring, ⟨-, hget⟩ | ⟨-, hget⟩⟩⟩
  · -- A connection was free.
    rw [hget]
    refine ⟨⟨h.named, h.inForce, h.keeps, fun next hnext => ?_⟩, fun next hnext => ?_⟩
    · exact h.free next (List.dropLast_subset _ hnext)
    · cases hnext
      exact h.free connection (List.mem_of_getLast? hlast)
  · rw [hget]
    refine ⟨h.of_getConnectionString _ _, fun next hnext => ?_⟩
    cases hnext
  · have hfirst := hnew connection hfree (by rw [hget]) hstring
    rw [hget]
    refine ⟨h.of_getConnectionString _ _, fun next hnext => ?_⟩
    cases hnext
    exact hfirst
  · have hfirst := hnew connection hfree (by rw [hget]) hstring
    rw [hget]
    refine ⟨h.of_getConnectionString _ _, fun next hnext => ?_⟩
    cases hnext
    exact hfirst

/-- `OpenedWith.getConnection` for the pool of a site. -/
theorem OpenedWith.of_getConnection {dbms : Dbms S} {dbname text : String} {site site' : Site S}
    {connection : Option PooledConnection} (h : OpenedWith dbms dbname text site.pool)
    (hget : site.getConnection dbms = (connection, site')) :
    OpenedWith dbms dbname text site'.pool ∧ ∀ opened, connection = some opened →
      opened = { connectionString := text, database := dbms.connect.names text } := by
  unfold Site.getConnection at hget
  cases hget
  exact h.getConnection site.hasDatabase site.clock

/-! ## The steps of the creation -/

namespace DbManager

/-- Checks and scripts leave the pool alone. -/
@[simp]
theorem pool_initializeTables (dbms : Dbms S) (connection : PooledConnection) (site : Site S) :
    (site.initializeTables dbms connection).2.pool = site.pool := by
  unfold Site.initializeTables
  split <;> rfl

/-- Getting a connection changes no option. -/
@[simp]
theorem connStringFor_getConnection (dbms : Dbms S) (site : Site S) (other : String) :
    (site.getConnection dbms).2.pool.connStringFor other = site.pool.connStringFor other :=
  Site.connStringFor_of_getConnection rfl other

/-- The first half of `CreateDb` changes no option but the name of the database. -/
theorem connStringFor_openCreated (dbms : Dbms S) (dbname other : String) (site : Site S) :
    (openCreated dbms dbname site).2.pool.connStringFor other = site.pool.connStringFor other := by
  unfold openCreated
  dsimp only
  split
  · rename_i site' hget
    rw [Site.connStringFor_of_getConnection hget]
    rfl
  · rename_i connection site' hget
    have hsame : ((site'.createDatabase dbms dbname).2.returnConnection
        connection).pool.connStringFor other = site.pool.connStringFor other := by
      rw [Site.returnConnection, ConnectionPool.connStringFor_returnConnection,
        Site.pool_createDatabase, Site.connStringFor_of_getConnection hget]
      rfl
    split
    · rw [connStringFor_getConnection]
      exact hsame
    · exact hsame

/-- The second half of `CreateDb` changes no option. -/
theorem connStringFor_fillCreated (dbms : Dbms S) (connection : PooledConnection) (other : String)
    (site : Site S) :
    (fillCreated dbms connection site).2.pool.connStringFor other =
      site.pool.connStringFor other := by
  have hsame : ((site.initializeTables dbms connection).2.returnConnection
      connection).pool.connStringFor other = site.pool.connStringFor other := by
    rw [Site.returnConnection, ConnectionPool.connStringFor_returnConnection,
      pool_initializeTables]
  unfold fillCreated
  dsimp only
  split
  · split
    · rename_i site' hget
      rw [Site.connStringFor_of_getConnection hget, hsame]
    · rename_i connection' site' hget
      show (site'.pool.returnConnection connection').connStringFor other = _
      rw [ConnectionPool.connStringFor_returnConnection, Site.connStringFor_of_getConnection hget,
        hsame]
  · exact hsame

/-- When the first half of `CreateDb` ends with a connection, the master database was reached, the
pool has the options of the configured database, and the connection was opened with them. -/
theorem openedWith_openCreated {dbms : Dbms S} {dbname : String} {site : Site S}
    {connection : PooledConnection}
    (h : (openCreated dbms dbname site).1 = some connection) :
    site.hasDatabase (dbms.connect.names (site.pool.connStringFor masterDbname)) = true ∧
      OpenedWith dbms dbname (site.pool.connStringFor dbname)
        (openCreated dbms dbname site).2.pool ∧
      connection = { connectionString := site.pool.connStringFor dbname,
                     database := dbms.connect.names (site.pool.connStringFor dbname) } := by
  unfold openCreated at h ⊢
  dsimp only at h ⊢
  have hempty : (site.setSettings { dbmsDbname := some masterDbname }).pool.freeConnections = [] :=
    ConnectionPool.freeConnections_setSettings rfl rfl
  cases hget : (site.setSettings { dbmsDbname := some masterDbname }).getConnection dbms with
  | mk reached site' =>
    cases reached with
    | none =>
      rw [hget] at h
      cases h
    | some master =>
      rw [hget] at h
      dsimp only at h ⊢
      have hmaster := ConnectionPool.database_of_getConnection hempty (congrArg Prod.fst hget)
      have hsame : ((site'.createDatabase dbms dbname).2.returnConnection
          master).pool.connStringFor dbname = site.pool.connStringFor dbname := by
        rw [Site.returnConnection, ConnectionPool.connStringFor_returnConnection,
          Site.pool_createDatabase, Site.connStringFor_of_getConnection hget]
        rfl
      split at h
      · rename_i hcreated
        rw [if_pos hcreated]
        refine ⟨hmaster.1 ▸ hmaster.2, ?_⟩
        rw [← hsame]
        have hopened := @OpenedWith.of_getConnection _ dbms _ _
          (((site'.createDatabase dbms dbname).2.returnConnection master).setSettings
            { dbmsDbname := some dbname }) _ _
          (openedWith_setSettings dbms dbname ((site'.createDatabase dbms
            dbname).2.returnConnection master).pool) rfl
        exact ⟨hopened.1, hopened.2 connection h⟩
      · cases h

/-- The second half of `CreateDb` leaves no free connection but ones with these options. -/
theorem openedWith_fillCreated {dbms : Dbms S} {dbname text : String} {site : Site S}
    (h : OpenedWith dbms dbname text site.pool) :
    OpenedWith dbms dbname text (fillCreated dbms
      { connectionString := text, database := dbms.connect.names text } site).2.pool := by
  have hreturned : OpenedWith dbms dbname text ((site.initializeTables dbms
      { connectionString := text, database := dbms.connect.names text }).2.returnConnection
        { connectionString := text, database := dbms.connect.names text }).pool := by
    rw [Site.returnConnection, pool_initializeTables]
    exact h.returnConnection
  unfold fillCreated
  dsimp only
  generalize (site.initializeTables dbms
    { connectionString := text, database := dbms.connect.names text }).2.returnConnection
      { connectionString := text, database := dbms.connect.names text } = filled at hreturned ⊢
  split
  · split
    · rename_i site' hget
      exact (hreturned.of_getConnection hget).1
    · rename_i connection' site' hget
      obtain ⟨hopened, hconnection⟩ := hreturned.of_getConnection hget
      rw [hconnection connection' rfl]
      exact hopened.returnConnection
  · exact hreturned

/-! ## Whatever fails -/

/-- The pool that a creation leaves: its options are those before it, with the name of the
configured database, and its free connections were opened with them, not with the name of the
master database. -/
structure LeftConfigured (dbms : Dbms S) (dbname : String) (before left : ConnectionPool) :
    Prop where
  named : left.connectionOptions.dbname = dbname
  inForce : left.connectionOptions.connString = before.connStringFor dbname
  opened : ∀ connection ∈ left.freeConnections,
    connection.connectionString = left.connectionOptions.connString ∧
      connection.database = dbms.connect.names connection.connectionString
  renamed : dbname ≠ masterDbname → ∀ connection ∈ left.freeConnections,
    connection.connectionString ≠ before.connStringFor masterDbname

/-- The server and its client library agree on the name of the master database: a name that leads
to it in a connection string is, in `CREATE DATABASE`, the name of no other database. -/
def AgreesOnMaster (dbms : Dbms S) (dbname : String) (before : ConnectionPool) : Prop :=
  dbms.connect.names (before.connStringFor dbname) =
      dbms.connect.names (before.connStringFor masterDbname) →
    ∀ database, dbms.created dbname = some database →
      database = dbms.connect.names (before.connStringFor masterDbname)

/-- Different names make different texts. -/
theorem connStringFor_injective {pool : ConnectionPool} {dbname other : String}
    (h : pool.connStringFor dbname = pool.connStringFor other) : dbname = other := by
  unfold ConnectionPool.connStringFor ConnectionOptions.connString at h
  dsimp only at h
  simpa only [String.append_left_inj, String.append_right_inj] using h

/-- The pool after connections were opened with the options of the configured database only. -/
theorem leftConfigured_of_openedWith {dbms : Dbms S} {dbname : String}
    {before left : ConnectionPool}
    (h : OpenedWith dbms dbname (before.connStringFor dbname) left) :
    LeftConfigured dbms dbname before left where
  named := h.named
  inForce := h.inForce
  opened connection hfree := by
    rw [h.free connection hfree]
    exact ⟨h.inForce.symm, rfl⟩
  renamed hother connection hfree := by
    rw [h.free connection hfree]
    exact fun hsame => hother (connStringFor_injective hsame)

/-- What the handler of `CreateDb` makes of the pool, wherever the creation failed. -/
theorem leftConfigured_setSettings (dbms : Dbms S) (dbname : String)
    {before failed : ConnectionPool}
    (hsame : failed.connStringFor dbname = before.connStringFor dbname) :
    LeftConfigured dbms dbname before (failed.setSettings { dbmsDbname := some dbname }) :=
  leftConfigured_of_openedWith (hsame ▸ openedWith_setSettings dbms dbname failed)

/-- A manager that is to create its database leaves the pool with the options of that database,
and with no free connection but ones that were opened with them, whichever step fails or none;
where the server and its client library agree on the master database, none leads there. -/
theorem createDb_leftConfigured {dbms : Dbms S} {manager : DbManager} {site : Site S}
    (hcreate : manager.shouldCreateDb = true) :
    LeftConfigured dbms manager.dbname site.pool (manager.createDb dbms site).2.pool ∧
      (AgreesOnMaster dbms manager.dbname site.pool →
        ∀ connection ∈ (manager.createDb dbms site).2.pool.freeConnections,
          connection.database ≠ dbms.connect.names (site.pool.connStringFor masterDbname)) := by
  have hnone : ∀ (failed : ConnectionPool) (connection : PooledConnection),
      connection ∉ (failed.setSettings { dbmsDbname := some manager.dbname }).freeConnections := by
    intro failed connection
    rw [ConnectionPool.freeConnections_setSettings rfl rfl]
    exact List.not_mem_nil
  have hopenText := connStringFor_openCreated dbms manager.dbname manager.dbname site
  unfold createDb
  rw [if_pos hcreate]
  cases hopen : openCreated dbms manager.dbname site with
  | mk opened site' =>
    rw [hopen] at hopenText
    cases opened with
    | none =>
      -- The connection to the master database, if there was one, is back in the pool.
      refine ⟨leftConfigured_setSettings dbms manager.dbname hopenText, ?_⟩
      exact fun _ connection hfree => absurd hfree (hnone site'.pool connection)
    | some connection =>
      obtain ⟨hmaster, hopened, hconnection⟩ :=
        openedWith_openCreated (congrArg Prod.fst hopen)
      obtain ⟨⟨created, hcreated, hnew⟩, -⟩ := openCreated_some (congrArg Prod.fst hopen)
      rw [hopen] at hopened
      dsimp only at hopened ⊢
      cases hfill : fillCreated dbms connection site' with
      | mk done site'' =>
        have hfillText := connStringFor_fillCreated dbms connection manager.dbname site'
        rw [hfill] at hfillText
        cases done with
        | false =>
          refine ⟨leftConfigured_setSettings dbms manager.dbname (hfillText.trans hopenText), ?_⟩
          exact fun _ other hfree => absurd hfree (hnone site''.pool other)
        | true =>
          have hfilled := openedWith_fillCreated hopened
          rw [← hconnection, hfill] at hfilled
          refine ⟨leftConfigured_of_openedWith hfilled, fun hagrees other hfree hsame => ?_⟩
          rw [hfilled.free other hfree] at hsame
          -- The master database was there, and what was created was not.
          rw [hagrees hsame created hcreated, hmaster] at hnew
          cases hnew

/-- A server on which a connection string without a name of its own leads to `postgres`. -/
def freshDbms : Dbms Unit where
  connect :=
    { names := fun text => if text = ({} : ConnectionOptions).connString then "postgres" else "was"
      accepts := fun _ _ => true }
  created := some
  mayCreate := fun _ => true
  template := ()
  isValid := fun _ _ => some true
  initializeTables := fun _ _ => some ()

/-- The server has its master database only, and the pool a connection to it. -/
def freshSite : Site Unit where
  pool :=
    { freeConnections :=
        [{ connectionString := ({} : ConnectionOptions).connString, database := "postgres" }]
      toCreate := 3 }
  clock := 0
  databases := fun database => if database = "postgres" then some () else none
  scripts := []

/-- The database `was` is created, and the pool is left with one connection, to it. -/
theorem createDb_leftConfigured_was :
    LeftConfigured freshDbms "was" freshSite.pool
        ({ dbname := "was", shouldCreateDb := true : DbManager }.createDb freshDbms
          freshSite).2.pool ∧
      ∀ connection ∈ ({ dbname := "was", shouldCreateDb := true : DbManager }.createDb freshDbms
          freshSite).2.pool.freeConnections, connection.database ≠ "postgres" := by
  obtain ⟨hleft, hmaster⟩ := @createDb_leftConfigured Unit freshDbms
    { dbname := "was", shouldCreateDb := true } freshSite rfl
  refine ⟨hleft, hmaster ?_⟩
  intro hsame
  exact absurd hsame (by decide)

end DbManager

end Srv.Db.DbMgr

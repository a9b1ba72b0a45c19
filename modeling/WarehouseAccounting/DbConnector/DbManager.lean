import WarehouseAccounting.DbConnector.ConnectionPool

/-!
# The database manager

`DbManager` of `db_manager.cpp`: it looks for a usable database when the connection settings
change, recreates the tables of one that fails the check, and creates one that cannot be
reached. The manager works on a server that holds databases; between two calls, everything but
the manager may change.

- `DbManager.safe_iff`: the calls that do not drop the tables of a database without being told.
- `DbManager.allSafe_iff`: the same over any sequence of calls.
- `DbManager.spared_of_createsNamed`: creating the configured database is never at fault when
  `CREATE DATABASE` creates what the connection string names.
-/

namespace Srv.Db.DbMgr

open Ufa Conn

/-! ## The server -/

/-- What the server does, for databases with contents in `S`. -/
structure Dbms (S : Type) where
  connect : ConnectBehaviour
  /-- The database that `CREATE DATABASE` followed by this unquoted text creates, if the text is
  accepted. -/
  created : String → Option String
  /-- Whether a database may be created at a point of time. -/
  mayCreate : Nat → Bool
  /-- What a new database holds. -/
  template : S
  /-- What the query `IsValid` answers at a point of time; it throws without an answer. -/
  isValid : Nat → S → Option Bool
  /-- What the script `InitializeTables` leaves; it throws, and is undone, without a result. -/
  initializeTables : Nat → S → Option S

/-- The pool and the server, at a point of time. -/
structure Site (S : Type) where
  pool : ConnectionPool
  clock : Nat
  /-- The databases of the server. -/
  databases : String → Option S
  /-- The databases against which `InitializeTables` has been run, the last one at the end. -/
  scripts : List String

variable {S : Type}

namespace Site

/-- The server has a database of that name. -/
def hasDatabase (site : Site S) (database : String) : Bool :=
  (site.databases database).isSome

/-- `m_connectionPool->SetSettings`. -/
def setSettings (settings : DBConnectorSettings) (site : Site S) : Site S :=
  { site with pool := site.pool.setSettings settings }

/-- `m_connectionPool->GetConnection`. -/
def getConnection (dbms : Dbms S) (site : Site S) : Option PooledConnection × Site S :=
  let (connection, pool, clock) :=
    site.pool.getConnection dbms.connect site.hasDatabase site.clock
  (connection, { site with pool, clock })

/-- The destructor of a connection proxy. -/
def returnConnection (connection : PooledConnection) (site : Site S) : Site S :=
  { site with pool := site.pool.returnConnection connection }

/-- `transaction.exec0(scpts::CreateDatabase(dbname))`: whether it did not throw. -/
def createDatabase (dbms : Dbms S) (dbname : String) (site : Site S) : Bool × Site S :=
  let later := { site with clock := site.clock + 1 }
  match dbms.created dbname with
  | none => (false, later)
  | some database =>
    if dbms.mayCreate site.clock && !site.hasDatabase database then
      (true,
        { later with databases := Function.update site.databases database (some dbms.template) })
    else
      (false, later)

/-- `DbManager::IsDbValid`: everything that goes wrong counts as an invalid database. -/
def isDbValid (dbms : Dbms S) (connection : PooledConnection) (site : Site S) : Bool × Site S :=
  (((site.databases connection.database).bind (dbms.isValid site.clock)).getD false,
    { site with clock := site.clock + 1 })

/-- `DbManager::InitializeTables`: whether the script went through. -/
def initializeTables (dbms : Dbms S) (connection : PooledConnection) (site : Site S) :
    Bool × Site S :=
  let later := { site with
    clock := site.clock + 1, scripts := site.scripts ++ [connection.database] }
  match (site.databases connection.database).bind (dbms.initializeTables site.clock) with
  | none => (false, later)
  | some tables =>
    (true,
      { later with databases := Function.update site.databases connection.database (some tables) })

end Site

/-! ## The manager -/

/-- `MasterDbname`. -/
def masterDbname : String := "postgres"

/-- `DbManager`. -/
structure DbManager where
  dbname : String := "postgres"
  shouldCreateDb : Bool := false
  shouldReinitializeDb : Bool := false
  isDbHealthy : Bool := false

namespace DbManager

/-- The first half of `CreateDb`: create the database from the master database, and connect to
what the options then name. -/
def openCreated (dbms : Dbms S) (dbname : String) (site : Site S) :
    Option PooledConnection × Site S :=
  let site := site.setSettings { dbmsDbname := some masterDbname }
  match site.getConnection dbms with
  | (none, site) => (none, site)
  | (some connection, site) =>
    let (created, site) := site.createDatabase dbms dbname
    let site := site.returnConnection connection
    if created then
      (site.setSettings { dbmsDbname := some dbname }).getConnection dbms
    else
      (none, site)

/-- The second half of `CreateDb`: create the tables, and check them over a connection of its
own. -/
def fillCreated (dbms : Dbms S) (connection : PooledConnection) (site : Site S) :
    Bool × Site S :=
  let (initialized, site) := site.initializeTables dbms connection
  let site := site.returnConnection connection
  if initialized then
    match site.getConnection dbms with
    | (none, site) => (false, site)
    | (some connection, site) =>
      let (valid, site) := site.isDbValid dbms connection
      (valid, site.returnConnection connection)
  else
    (false, site)

/-- `DbManager::CreateDb`. -/
def createDb (dbms : Dbms S) (manager : DbManager) (site : Site S) : Bool × Site S :=
  if manager.shouldCreateDb then
    let (done, site) :=
      match openCreated dbms manager.dbname site with
      | (none, site) => (false, site)
      | (some connection, site) => fillCreated dbms connection site
    -- The handler leads the pool back to the configured database.
    (done, if done then site else site.setSettings { dbmsDbname := some manager.dbname })
  else
    (false, site)

/-- `DbManager::PrepareDb`. -/
def prepareDb (dbms : Dbms S) (manager : DbManager) (site : Site S) : DbManager × Site S :=
  match site.getConnection dbms with
  | (some connection, site) =>
    let (valid, site) := site.isDbValid dbms connection
    if valid then
      ({ manager with isDbHealthy := true }, site.returnConnection connection)
    else
      -- The code does not look at `shouldReinitializeDb` here, nor anywhere else.
      let (initialized, site) := site.initializeTables dbms connection
      ({ manager with isDbHealthy := initialized }, site.returnConnection connection)
  | (none, site) =>
    let (created, site) := manager.createDb dbms site
    ({ manager with isDbHealthy := created }, site)

/-- The settings of the manager after `SetSettings`. -/
def applySettings (settings : DBConnectorSettings) (manager : DbManager) : DbManager :=
  { manager with
    shouldCreateDb := settings.shouldCreateDb.getD manager.shouldCreateDb
    shouldReinitializeDb := settings.shouldReinitializeDb.getD manager.shouldReinitializeDb
    dbname := settings.dbmsDbname.getD manager.dbname }

/-- `DbManager::SetSettings`. -/
def setSettings (dbms : Dbms S) (settings : DBConnectorSettings) (manager : DbManager)
    (site : Site S) : DbManager × Site S :=
  let manager := manager.applySettings settings
  if settings.changesConnection then manager.prepareDb dbms site else (manager, site)

/-- `DbManager::GetState`. -/
def getState (manager : DbManager) : Result :=
  if manager.isDbHealthy then .success else .error

/-! ## What a call may do to the databases -/

/-- The call runs the script only against databases that were not there, unless it was told to
reinitialise; and otherwise an existing database that fails the check is left as it was, and
the state is `ERROR`. -/
structure Safe (dbms : Dbms S) (settings : DBConnectorSettings) (manager : DbManager)
    (site : Site S) : Prop where
  scripts : ∀ ran, (manager.setSettings dbms settings site).2.scripts = site.scripts ++ ran →
    ∀ database ∈ ran, site.hasDatabase database = true →
      (manager.applySettings settings).shouldReinitializeDb = true
  untouched : settings.changesConnection = true →
    (manager.applySettings settings).shouldReinitializeDb = false →
    ∀ connection site', site.getConnection dbms = (some connection, site') →
      site.hasDatabase connection.database = true →
      (site'.isDbValid dbms connection).1 = false →
      (manager.setSettings dbms settings site).2.databases connection.database =
          site.databases connection.database ∧
        (manager.setSettings dbms settings site).1.getState = .error

/-- The condition on a call: when it reaches an existing database that fails the check, or
creates a database and then reaches another one, it is told to reinitialise. -/
def Spared (dbms : Dbms S) (settings : DBConnectorSettings) (manager : DbManager)
    (site : Site S) : Prop :=
  settings.changesConnection = true →
    match site.getConnection dbms with
    | (some connection, site') =>
      site.hasDatabase connection.database = true → (site'.isDbValid dbms connection).1 = false →
        (manager.applySettings settings).shouldReinitializeDb = true
    | (none, site') =>
      (manager.applySettings settings).shouldCreateDb = true →
        ∀ connection, (openCreated dbms (manager.applySettings settings).dbname site').1 =
            some connection →
          site.hasDatabase connection.database = true →
            (manager.applySettings settings).shouldReinitializeDb = true

end DbManager

/-! ## What the steps leave alone -/

namespace Site

@[simp]
theorem scripts_setSettings (settings : DBConnectorSettings) (site : Site S) :
    (site.setSettings settings).scripts = site.scripts := rfl

@[simp]
theorem databases_setSettings (settings : DBConnectorSettings) (site : Site S) :
    (site.setSettings settings).databases = site.databases := rfl

/-- Getting a connection runs no script and leaves the databases as they are. -/
theorem of_getConnection {dbms : Dbms S} {site site' : Site S}
    {connection : Option PooledConnection} (h : site.getConnection dbms = (connection, site')) :
    site'.scripts = site.scripts ∧ site'.databases = site.databases := by
  unfold getConnection at h
  cases h
  exact ⟨rfl, rfl⟩

@[simp]
theorem scripts_returnConnection (connection : PooledConnection) (site : Site S) :
    (site.returnConnection connection).scripts = site.scripts := rfl

@[simp]
theorem databases_returnConnection (connection : PooledConnection) (site : Site S) :
    (site.returnConnection connection).databases = site.databases := rfl

@[simp]
theorem scripts_isDbValid (dbms : Dbms S) (connection : PooledConnection) (site : Site S) :
    (site.isDbValid dbms connection).2.scripts = site.scripts := rfl

@[simp]
theorem scripts_createDatabase (dbms : Dbms S) (dbname : String) (site : Site S) :
    (site.createDatabase dbms dbname).2.scripts = site.scripts := by
  unfold createDatabase
  split
  · rfl
  · split <;> rfl

/-- The script is always noted. -/
@[simp]
theorem scripts_initializeTables (dbms : Dbms S) (connection : PooledConnection)
    (site : Site S) :
    (site.initializeTables dbms connection).2.scripts =
      site.scripts ++ [connection.database] := by
  unfold initializeTables
  split <;> rfl

/-- A connection that is not taken from the free ones leads where the options of the pool say. -/
theorem database_of_getConnection {dbms : Dbms S} {site : Site S} {connection : PooledConnection}
    (hfree : site.pool.freeConnections = [])
    (h : (site.getConnection dbms).1 = some connection) :
    connection.database =
      dbms.connect.names site.pool.connectionOptions.getConnectionString.1 :=
  (ConnectionPool.database_of_getConnection hfree h).1

/-- Getting a connection changes no option. -/
theorem connStringFor_of_getConnection {dbms : Dbms S} {site site' : Site S}
    {connection : Option PooledConnection} (h : site.getConnection dbms = (connection, site'))
    (dbname : String) : site'.pool.connStringFor dbname = site.pool.connStringFor dbname := by
  unfold getConnection at h
  cases h
  exact ConnectionPool.connStringFor_getConnection ..

@[simp]
theorem pool_createDatabase (dbms : Dbms S) (dbname : String) (site : Site S) :
    (site.createDatabase dbms dbname).2.pool = site.pool := by
  unfold createDatabase
  split
  · rfl
  · split <;> rfl

/-- A database that was created is new. -/
theorem createDatabase_of_created {dbms : Dbms S} {dbname : String} {site : Site S}
    (h : (site.createDatabase dbms dbname).1 = true) :
    ∃ database, dbms.created dbname = some database ∧ site.hasDatabase database = false := by
  unfold createDatabase at h
  split at h
  · cases h
  · rename_i database hdatabase
    split at h
    · rename_i hmay
      refine ⟨database, hdatabase, ?_⟩
      simpa using (Bool.and_eq_true_iff.mp hmay).2
    · cases h

end Site

namespace DbManager

/-- The first half of `CreateDb` runs no script. -/
@[simp]
theorem scripts_openCreated (dbms : Dbms S) (dbname : String) (site : Site S) :
    (openCreated dbms dbname site).2.scripts = site.scripts := by
  unfold openCreated
  dsimp only
  split
  · rename_i site' hget
    exact (Site.of_getConnection hget).1
  · rename_i connection site' hget
    have hscripts : site'.scripts = site.scripts := (Site.of_getConnection hget).1
    split
    · exact (Site.of_getConnection rfl).1.trans (by simp [hscripts])
    · simp [hscripts]

/-- The second half of `CreateDb` runs the script once, over the given connection. -/
@[simp]
theorem scripts_fillCreated (dbms : Dbms S) (connection : PooledConnection) (site : Site S) :
    (fillCreated dbms connection site).2.scripts = site.scripts ++ [connection.database] := by
  unfold fillCreated
  dsimp only
  have hscripts : ((site.initializeTables dbms connection).2.returnConnection
      connection).scripts = site.scripts ++ [connection.database] := by simp
  split
  · split
    · rename_i site' hget
      exact (Site.of_getConnection hget).1.trans hscripts
    · rename_i connection' site' hget
      exact (Site.of_getConnection hget).1.trans hscripts
  · exact hscripts

/-- `CreateDb` runs the script once when it is told to create a database and gets a connection
to one, and never otherwise. -/
theorem scripts_createDb (dbms : Dbms S) (manager : DbManager) (site : Site S) :
    (manager.createDb dbms site).2.scripts = site.scripts ++
      if manager.shouldCreateDb then
        ((openCreated dbms manager.dbname site).1.map PooledConnection.database).toList
      else [] := by
  unfold createDb
  split
  · have hopened := scripts_openCreated dbms manager.dbname site
    rcases hopen : openCreated dbms manager.dbname site with ⟨_ | connection, site'⟩
    · rw [hopen] at hopened
      simpa using hopened
    · rw [hopen] at hopened
      dsimp only at hopened ⊢
      split <;> simp [hopened]
  · simp

/-- `SetSettings` without new connection settings runs no script. -/
theorem scripts_setSettings_of_unchanged {dbms : Dbms S} {settings : DBConnectorSettings}
    (hchanges : settings.changesConnection = false) (manager : DbManager) (site : Site S) :
    (manager.setSettings dbms settings site).2.scripts = site.scripts := by
  simp [setSettings, hchanges]

/-- The scripts that `SetSettings` runs when it gets a connection. -/
theorem scripts_setSettings_of_reached {dbms : Dbms S} {settings : DBConnectorSettings}
    (hchanges : settings.changesConnection = true) {site site' : Site S}
    {connection : PooledConnection}
    (hget : site.getConnection dbms = (some connection, site')) (manager : DbManager) :
    (manager.setSettings dbms settings site).2.scripts = site.scripts ++
      if (site'.isDbValid dbms connection).1 then [] else [connection.database] := by
  have hscripts : site'.scripts = site.scripts := (Site.of_getConnection hget).1
  unfold setSettings
  rw [if_pos hchanges]
  unfold prepareDb
  rw [hget]
  dsimp only
  split
  · simp [hscripts]
  · simp [hscripts]

/-- The scripts that `SetSettings` runs when it gets no connection. -/
theorem scripts_setSettings_of_unreached {dbms : Dbms S} {settings : DBConnectorSettings}
    (hchanges : settings.changesConnection = true) {site site' : Site S}
    (hget : site.getConnection dbms = (none, site')) (manager : DbManager) :
    (manager.setSettings dbms settings site).2.scripts = site.scripts ++
      if (manager.applySettings settings).shouldCreateDb then
        ((openCreated dbms (manager.applySettings settings).dbname site').1.map
          PooledConnection.database).toList
      else [] := by
  have hscripts : site'.scripts = site.scripts := (Site.of_getConnection hget).1
  unfold setSettings
  rw [if_pos hchanges]
  unfold prepareDb
  rw [hget]
  dsimp only
  rw [scripts_createDb, hscripts]

/-! ## When a call is safe -/

/-- A call is safe exactly when every existing database that it would reinitialise is one that
it was told to reinitialise. -/
theorem safe_iff (dbms : Dbms S) (settings : DBConnectorSettings) (manager : DbManager)
    (site : Site S) :
    manager.Safe dbms settings site ↔ manager.Spared dbms settings site := by
  constructor
  · intro hsafe hchanges
    split
    · rename_i connection site' hget
      intro hexists hinvalid
      -- The check has failed, so the script is run against this database.
      have hscripts := scripts_setSettings_of_reached hchanges hget manager
      rw [hinvalid] at hscripts
      exact hsafe.scripts _ hscripts connection.database (by simp) hexists
    · rename_i site' hget
      intro hcreate connection hopened hexists
      have hscripts := scripts_setSettings_of_unreached hchanges hget manager
      rw [if_pos hcreate, hopened] at hscripts
      exact hsafe.scripts _ hscripts connection.database (by simp) hexists
  · intro hspared
    refine ⟨?_, ?_⟩
    · intro ran hran database hdatabase hexists
      cases hchanges : settings.changesConnection with
      | false =>
        rw [scripts_setSettings_of_unchanged hchanges] at hran
        rw [List.self_eq_append_right.mp hran] at hdatabase
        cases hdatabase
      | true =>
        have hcall := hspared hchanges
        split at hcall
        · rename_i connection site' hget
          rw [scripts_setSettings_of_reached hchanges hget] at hran
          rw [← List.append_cancel_left hran] at hdatabase
          split at hdatabase
          · cases hdatabase
          · rename_i hinvalid
            rw [List.mem_singleton.mp hdatabase] at hexists
            exact hcall hexists (by simpa using hinvalid)
        · rename_i site' hget
          rw [scripts_setSettings_of_unreached hchanges hget] at hran
          rw [← List.append_cancel_left hran] at hdatabase
          split at hdatabase
          · rename_i hcreate
            obtain ⟨connection, hopened, rfl⟩ : ∃ connection, (openCreated dbms
                (manager.applySettings settings).dbname site').1 = some connection ∧
                connection.database = database := by
              simpa using hdatabase
            exact hcall hcreate connection hopened hexists
          · cases hdatabase
    · -- Under the condition no check of an existing database fails without the order.
      intro hchanges hkeep connection site' hget hexists hinvalid
      have hcall := hspared hchanges
      rw [hget] at hcall
      exact absurd ((hcall hexists hinvalid).symm.trans hkeep) (by decide)

/-- The first half of `CreateDb` creates a database that was not there, and reaches the one that
the options name. -/
theorem openCreated_some {dbms : Dbms S} {dbname : String} {site : Site S}
    {connection : PooledConnection}
    (h : (openCreated dbms dbname site).1 = some connection) :
    (∃ database, dbms.created dbname = some database ∧ site.hasDatabase database = false) ∧
      connection.database = dbms.connect.names (site.pool.connStringFor dbname) := by
  unfold openCreated at h
  dsimp only at h
  split at h
  · cases h
  · rename_i master site' hmaster
    split at h
    · rename_i hcreated
      obtain ⟨database, hdatabase, hnew⟩ := Site.createDatabase_of_created hcreated
      refine ⟨⟨database, hdatabase, ?_⟩, ?_⟩
      · rw [← hnew, Site.hasDatabase, Site.hasDatabase, (Site.of_getConnection hmaster).2]
        rfl
      · -- The list of free connections was emptied, so the connection is a new one.
        have hreached := Site.database_of_getConnection
          (ConnectionPool.freeConnections_setSettings rfl rfl) h
        simp only [Site.setSettings, Site.returnConnection,
          ConnectionPool.getConnectionString_setSettings_dbname,
          ConnectionPool.connStringFor_returnConnection, Site.pool_createDatabase,
          Site.connStringFor_of_getConnection hmaster,
          ConnectionPool.connStringFor_setSettings_dbname] at hreached
        exact hreached
    · cases h

/-- When `CREATE DATABASE` creates the database that the connection string names, a call that
does not reach a database is safe whatever happens. -/
theorem spared_of_createsNamed {dbms : Dbms S} {settings : DBConnectorSettings}
    {manager : DbManager} {site : Site S} (hunreached : (site.getConnection dbms).1 = none)
    (hnames : dbms.created (manager.applySettings settings).dbname =
      some (dbms.connect.names
        (site.pool.connStringFor (manager.applySettings settings).dbname))) :
    manager.Spared dbms settings site := by
  intro _
  split
  · rename_i connection site' hget
    rw [hget] at hunreached
    cases hunreached
  · rename_i site' hget
    intro _ connection hopened hexists
    obtain ⟨⟨database, hdatabase, hnew⟩, hreached⟩ := openCreated_some hopened
    rw [Site.connStringFor_of_getConnection hget] at hreached
    -- What was created is what is reached, and it was not there.
    have hsame : database = connection.database := by
      rw [hreached]
      exact Option.some.inj (hdatabase.symm.trans hnames)
    rw [Site.hasDatabase, (Site.of_getConnection hget).2, hsame] at hnew
    exact absurd (hexists.symm.trans hnew) (by decide)

/-! ## Any sequence of calls -/

/-- The manager with its surroundings. -/
structure State (S : Type) where
  manager : DbManager := {}
  site : Site S

/-- What happens to them. -/
inductive Event (S : Type) where
  /-- `DbManager::SetSettings`. -/
  | setSettings (settings : DBConnectorSettings)
  /-- Everybody else: other users of the pool, other clients of the server, the passing of
  time. -/
  | others (site : Site S)

namespace State

/-- The state after one event. -/
def step (dbms : Dbms S) (state : State S) : Event S → State S
  | .setSettings settings =>
    let (manager, site) := state.manager.setSettings dbms settings state.site
    { manager, site }
  | .others site => { state with site }

/-- A property of the calls of `SetSettings` holds for every call of the run. -/
def AllCalls (property : DBConnectorSettings → DbManager → Site S → Prop) (dbms : Dbms S) :
    State S → List (Event S) → Prop
  | _, [] => True
  | state, event :: events =>
    (match event with
      | .setSettings settings => property settings state.manager state.site
      | .others _ => True) ∧
    AllCalls property dbms (state.step dbms event) events

/-- Two properties of calls that are equivalent hold for every call of the same runs. -/
theorem allCalls_congr {property property' : DBConnectorSettings → DbManager → Site S → Prop}
    (h : ∀ settings manager site,
      property settings manager site ↔ property' settings manager site)
    (dbms : Dbms S) (state : State S) (events : List (Event S)) :
    AllCalls property dbms state events ↔ AllCalls property' dbms state events := by
  induction events generalizing state with
  | nil => exact Iff.rfl
  | cons event events ih =>
    unfold AllCalls
    rw [ih]
    cases event with
    | setSettings settings => exact and_congr_left fun _ => h ..
    | others site => exact Iff.rfl

/-- In every run, the calls are safe exactly when each of them meets the condition in the state
it is made in. -/
theorem allSafe_iff (dbms : Dbms S) (state : State S) (events : List (Event S)) :
    AllCalls (fun settings manager site => manager.Safe dbms settings site) dbms state events ↔
      AllCalls (fun settings manager site => manager.Spared dbms settings site) dbms state
        events :=
  allCalls_congr (fun settings manager site => manager.safe_iff dbms settings site) dbms state
    events

end State

/-! ## A check that fails for a moment -/

/-- A server on which the first check of a database throws. -/
def flakyDbms : Dbms Nat where
  connect := { names := fun _ => "was", accepts := fun _ _ => true }
  created := some
  mayCreate := fun _ => true
  template := 0
  isValid := fun clock _ => if clock < 5 then none else some true
  initializeTables := fun _ _ => some 1

/-- The database holds data, and was never to be reinitialised. -/
def flakyState : State Nat where
  site :=
    { pool := {}
      clock := 0
      databases := fun database => if database = "was" then some 42 else none
      scripts := [] }

/-- One failed check costs the data, and the state is `SUCCESS`. -/
theorem flaky_not_safe :
    ¬ State.AllCalls (fun settings manager site => manager.Safe flakyDbms settings site) flakyDbms
        flakyState [.setSettings { dbmsDbname := some "was" }] ∧
      (flakyState.step flakyDbms (.setSettings { dbmsDbname := some "was" })).site.databases "was" =
        some 1 := by
  refine ⟨?_, by decide⟩
  rintro ⟨hsafe, -⟩
  have hreinitialize := hsafe.scripts ["was"] (by decide) "was" (by decide) (by decide)
  exact absurd hreinitialize (by decide)

end DbManager

end Srv.Db.DbMgr

import WarehouseAccounting.Instrumental

/-!
# The connection pool

`ConnectionOptions` of `connection_options.cpp` and `ConnectionPool` of `connection_pool.cpp`,
over a database server that may refuse connections at any time. The counters are 32-bit
machine integers, as in the code.
-/

namespace Srv.Db

/-- `DBConnectorSettings`, as far as the pool and the database manager read it. -/
structure DBConnectorSettings where
  dbmsAddress : Option String := none
  dbmsPort : Option UInt32 := none
  dbmsDbname : Option String := none
  dbmsUser : Option String := none
  dbmsPassword : Option String := none
  connectAttempts : Option UInt32 := none
  connectionCount : Option UInt32 := none
  shouldReinitializeDb : Option Bool := none
  shouldCreateDb : Option Bool := none
  deriving DecidableEq, Repr

/-- One of the settings that say where and how to connect is set. -/
def DBConnectorSettings.changesConnection (settings : DBConnectorSettings) : Bool :=
  settings.dbmsAddress.isSome || settings.dbmsPort.isSome || settings.dbmsDbname.isSome ||
    settings.dbmsUser.isSome || settings.dbmsPassword.isSome

namespace Conn

/-! ## Connection options -/

/-- `ConnectionOptions`. -/
structure ConnectionOptions where
  address : String := "127.0.0.1"
  port : UInt32 := 5432
  dbname : String := "postgres"
  user : String := "postgres"
  password : String := "defaultpassword"
  /-- `m_cachedString`. -/
  cachedString : String := ""
  deriving DecidableEq, Repr

namespace ConnectionOptions

/-- The text that `GetConnectionString` puts together. -/
def connString (options : ConnectionOptions) : String :=
  "host=" ++ options.address ++ " " ++ "dbname=" ++ options.dbname ++ " " ++
    "port=" ++ toString options.port ++ " " ++ "user=" ++ options.user ++ " " ++
    "password=" ++ options.password

/-- `ConnectionOptions::SetSettings`: whether something changed, and the options after it. -/
def setSettings (settings : DBConnectorSettings) (options : ConnectionOptions) :
    Bool × ConnectionOptions :=
  if settings.changesConnection then
    (true,
      { address := settings.dbmsAddress.getD options.address
        port := settings.dbmsPort.getD options.port
        dbname := settings.dbmsDbname.getD options.dbname
        user := settings.dbmsUser.getD options.user
        password := settings.dbmsPassword.getD options.password
        cachedString := "" })
  else
    (false, options)

/-- `ConnectionOptions::GetConnectionString`: the text is kept until the options change. -/
def getConnectionString (options : ConnectionOptions) : String × ConnectionOptions :=
  if options.cachedString.isEmpty then
    (options.connString, { options with cachedString := options.connString })
  else
    (options.cachedString, options)

/-- The text that is kept, if any, is the one of the options. -/
def KeepsOwnText (options : ConnectionOptions) : Prop :=
  options.cachedString = "" ∨ options.cachedString = options.connString

/-- Connections are opened with the text of the options. -/
theorem KeepsOwnText.getConnectionString {options : ConnectionOptions}
    (h : options.KeepsOwnText) : options.getConnectionString.1 = options.connString := by
  unfold ConnectionOptions.getConnectionString
  split
  · rfl
  · rename_i hkept
    rcases h with hempty | hsame
    · exact absurd (by rw [hempty]; rfl) hkept
    · exact hsame

/-- Asking for the text does not change the options. -/
theorem connString_getConnectionString (options : ConnectionOptions) :
    options.getConnectionString.2.connString = options.connString := by
  unfold ConnectionOptions.getConnectionString
  split <;> rfl

/-- The text that `GetConnectionString` keeps. -/
theorem cachedString_getConnectionString (options : ConnectionOptions) :
    options.getConnectionString.2.cachedString = options.getConnectionString.1 := by
  unfold ConnectionOptions.getConnectionString
  split <;> rfl

end ConnectionOptions

/-! ## The pool -/

/-- What the server does with connection attempts: which database a connection string names,
and whether an attempt at some point of time is let in. -/
structure ConnectBehaviour where
  names : String → String
  accepts : Nat → String → Bool

/-- A connection of the pool: the text it was opened with, and the database it leads to. -/
structure PooledConnection where
  connectionString : String
  database : String
  deriving DecidableEq, Repr

/-- `ConnectionPool`. -/
structure ConnectionPool where
  connectionOptions : ConnectionOptions := {}
  connectionAttempts : UInt32 := 50
  freeConnections : List PooledConnection := []
  toDelete : UInt32 := 0
  toCreate : UInt32 := 0
  /-- `m_busy`, which nothing writes. -/
  busy : UInt32 := 0

namespace ConnectionPool

/-- `ConnectionPool::SetConnectionsCount`. -/
def setConnectionsCount (connectionsCount : UInt32) (pool : ConnectionPool) : ConnectionPool :=
  let size (free : List PooledConnection) : UInt64 := UInt64.ofNat free.length
  -- The difference is taken on `size_t` and cut to 32 bits with a sign.
  let diff : Int32 := (connectionsCount.toUInt64 - (size pool.freeConnections +
    pool.busy.toUInt64 + pool.toCreate.toUInt64)).toUInt32.toInt32
  if 0 < diff then
    { pool with toCreate := pool.toCreate + diff.toUInt32 }
  else if diff < 0 then
    let savedDiff := -diff
    let diff := (savedDiff.toUInt32 - pool.toCreate).toInt32
    let pool := { pool with
      toCreate := if 0 ≤ diff then 0 else pool.toCreate - savedDiff.toUInt32 }
    if 0 < diff then
      let savedDiff := diff
      let diff := (savedDiff.toInt64.toUInt64 - size pool.freeConnections).toUInt32.toInt32
      let pool := { pool with
        freeConnections :=
          if 0 ≤ diff then []
          else pool.freeConnections.take (pool.freeConnections.length - savedDiff.toInt.toNat) }
      if 0 < diff then { pool with toDelete := pool.toDelete + diff.toUInt32 } else pool
    else
      pool
  else
    pool

/-- `ConnectionPool::SetSettings`: new options reset the connections that are not in use. -/
def setSettings (settings : DBConnectorSettings) (pool : ConnectionPool) : ConnectionPool :=
  let (changed, connectionOptions) := pool.connectionOptions.setSettings settings
  let pool := { pool with connectionOptions }
  let pool :=
    if changed then
      { pool with
        freeConnections := []
        toCreate := pool.toCreate + UInt32.ofNat pool.freeConnections.length }
    else
      pool
  let pool :=
    match settings.connectionCount with
    | some connectionCount => pool.setConnectionsCount connectionCount
    | none => pool
  { pool with connectionAttempts := settings.connectAttempts.getD pool.connectionAttempts }

/-- The attempts of `CreateConnection` from a point of time on: the connection, or that none
could be opened, and the point of time after it. -/
def connectWithin (behaviour : ConnectBehaviour) (hasDatabase : String → Bool)
    (connectionString : String) : Nat → Nat → Option PooledConnection × Nat
  | 0, clock => (none, clock)
  | attempts + 1, clock =>
    let database := behaviour.names connectionString
    if behaviour.accepts clock connectionString && hasDatabase database then
      (some { connectionString, database }, clock + 1)
    else
      connectWithin behaviour hasDatabase connectionString attempts (clock + 1)

/-- `ConnectionPool::CreateConnection`: one attempt at least. -/
def createConnection (behaviour : ConnectBehaviour) (hasDatabase : String → Bool)
    (pool : ConnectionPool) (clock : Nat) : Option PooledConnection × ConnectionPool × Nat :=
  let (connectionString, connectionOptions) := pool.connectionOptions.getConnectionString
  let (connection, clock) := connectWithin behaviour hasDatabase connectionString
    (max 1 pool.connectionAttempts.toNat) clock
  (connection, { pool with connectionOptions }, clock)

/-- `ConnectionPool::GetConnection`; without a connection it has thrown. -/
def getConnection (behaviour : ConnectBehaviour) (hasDatabase : String → Bool)
    (pool : ConnectionPool) (clock : Nat) : Option PooledConnection × ConnectionPool × Nat :=
  match pool.freeConnections.getLast? with
  | some connection =>
    (some connection, { pool with freeConnections := pool.freeConnections.dropLast }, clock)
  | none =>
    let (connection, pool, clock) := pool.createConnection behaviour hasDatabase clock
    if connection.isNone then
      (none, pool, clock)
    else if 0 < pool.toCreate then
      (connection, { pool with toCreate := pool.toCreate - 1 }, clock)
    else
      (connection, { pool with toDelete := pool.toDelete + 1 }, clock)

/-- `ConnectionPool::ReturnConnection`, which the destructor of a proxy calls. -/
def returnConnection (connection : PooledConnection) (pool : ConnectionPool) : ConnectionPool :=
  if 0 < pool.toDelete then
    { pool with toDelete := pool.toDelete - 1 }
  else
    { pool with freeConnections := pool.freeConnections ++ [connection] }

/-! ## Connections opened after new options -/

/-- A connection that is opened leads to the database that the text names, and that database is
there. -/
theorem database_of_connectWithin {behaviour : ConnectBehaviour} {hasDatabase : String → Bool}
    {connectionString : String} {attempts clock : Nat} {connection : PooledConnection}
    (h : (connectWithin behaviour hasDatabase connectionString attempts clock).1 =
      some connection) :
    connection.database = behaviour.names connectionString ∧
      hasDatabase connection.database = true := by
  induction attempts generalizing clock with
  | zero => cases h
  | succ attempts ih =>
    unfold connectWithin at h
    dsimp only at h
    split at h
    · rename_i haccepts
      cases h
      exact ⟨rfl, (Bool.and_eq_true_iff.mp haccepts).2⟩
    · exact ih h

/-- After settings that change the options no connection is free. -/
theorem freeConnections_setSettings {settings : DBConnectorSettings} {pool : ConnectionPool}
    (hchanges : settings.changesConnection = true) (hcount : settings.connectionCount = none) :
    (pool.setSettings settings).freeConnections = [] := by
  simp [setSettings, ConnectionOptions.setSettings, hchanges, hcount]

/-- Without free connections, `GetConnection` opens one with the text of the options. -/
theorem database_of_getConnection {behaviour : ConnectBehaviour} {hasDatabase : String → Bool}
    {pool : ConnectionPool} {clock : Nat} {connection : PooledConnection}
    (hfree : pool.freeConnections = [])
    (h : (pool.getConnection behaviour hasDatabase clock).1 = some connection) :
    connection.database = behaviour.names pool.connectionOptions.getConnectionString.1 ∧
      hasDatabase connection.database = true := by
  unfold getConnection at h
  rw [hfree] at h
  dsimp only [List.getLast?_nil] at h
  have hopened : (pool.createConnection behaviour hasDatabase clock).1 = some connection := by
    split at h
    · cases h
    · split at h <;> exact h
  exact database_of_connectWithin hopened

/-- The text that names a database of that name under the options of the pool. -/
def connStringFor (dbname : String) (pool : ConnectionPool) : String :=
  { pool.connectionOptions with dbname }.connString

/-- The text that connections are opened with after the name of the database was set. -/
theorem getConnectionString_setSettings_dbname (dbname : String) (pool : ConnectionPool) :
    (pool.setSettings { dbmsDbname := some dbname }).connectionOptions.getConnectionString.1 =
      pool.connStringFor dbname := rfl

@[simp]
theorem connStringFor_setSettings_dbname (dbname other : String) (pool : ConnectionPool) :
    (pool.setSettings { dbmsDbname := some other }).connStringFor dbname =
      pool.connStringFor dbname := rfl

@[simp]
theorem connStringFor_returnConnection (dbname : String) (connection : PooledConnection)
    (pool : ConnectionPool) :
    (pool.returnConnection connection).connStringFor dbname = pool.connStringFor dbname := by
  unfold returnConnection
  split <;> rfl

/-- Getting a connection may keep the text of the options, and changes nothing else in them. -/
@[simp]
theorem connStringFor_getConnection (dbname : String) (behaviour : ConnectBehaviour)
    (hasDatabase : String → Bool) (pool : ConnectionPool) (clock : Nat) :
    (pool.getConnection behaviour hasDatabase clock).2.1.connStringFor dbname =
      pool.connStringFor dbname := by
  have hkeeps : { pool.connectionOptions.getConnectionString.2 with dbname }.connString =
      pool.connStringFor dbname := by
    unfold ConnectionOptions.getConnectionString
    split <;> rfl
  unfold getConnection
  split
  · rfl
  · dsimp only [createConnection]
    split
    · exact hkeeps
    · split <;> exact hkeeps

end ConnectionPool

end Conn

end Srv.Db

import WarehouseAccounting.DbConnector.ConnectionPool
import WarehouseAccounting.Foundations.MachineIntegers

/-!
# Runs of the connection pool

Any number of `GetConnection`, `ReturnConnection` and `SetSettings` calls on one
`ConnectionPool`, in any order, over a server that may refuse connections at any time.
`GetConnection` and `ReturnConnection` hold `m_connectionMutex` from end to end; `SetSettings`
changes the options first and takes the mutex anew for each of its further parts, so that other
calls come in between.

- `ConnectionPool.setSettings_eq_parts`: the parts one after the other are `setSettings`.
- `PoolUse.quota_of_resizesSafely`: the counters of the pool add up to the requested count in
  every run whose resizes find no connection in use under the quota.
- `PoolUse.handsOutCurrent_of_returnsCurrent`: no connection with outdated options is handed
  out in a run in which none is put back among the free ones.
-/

namespace Srv.Db.Conn

open MachineIntegers

/-! ## The parts of one call -/

/-- What `SetSettings` still has to do after it has changed the options. -/
inductive SettingsPart where
  /-- The options have changed: forget the connections that are not in use. -/
  | resetFree
  /-- `SetConnectionsCount`. -/
  | resize (connectionCount : UInt32)
  /-- Store the number of attempts. -/
  | setAttempts (connectAttempts : UInt32)
  deriving DecidableEq, Repr

namespace ConnectionPool

/-- The first part of `SetSettings`, without the mutex: the options change. -/
def changeOptions (settings : DBConnectorSettings) (pool : ConnectionPool) : ConnectionPool :=
  { pool with connectionOptions := (pool.connectionOptions.setSettings settings).2 }

/-- One further part of `SetSettings`. -/
def runPart (pool : ConnectionPool) : SettingsPart → ConnectionPool
  | .resetFree =>
    { pool with
      freeConnections := []
      toCreate := pool.toCreate + UInt32.ofNat pool.freeConnections.length }
  | .resize connectionCount => pool.setConnectionsCount connectionCount
  | .setAttempts connectAttempts => { pool with connectionAttempts := connectAttempts }

/-- The parts that follow the change of the options. -/
def settingsParts (settings : DBConnectorSettings) : List SettingsPart :=
  (if settings.changesConnection then [.resetFree] else []) ++
    (settings.connectionCount.toList.map .resize ++
      settings.connectAttempts.toList.map .setAttempts)

/-- A resize does not touch the options. -/
@[simp]
theorem connectionOptions_setConnectionsCount (connectionCount : UInt32) (pool : ConnectionPool) :
    (pool.setConnectionsCount connectionCount).connectionOptions = pool.connectionOptions := by
  unfold setConnectionsCount
  dsimp only
  split
  · rfl
  · split
    · split
      · split <;> rfl
      · rfl
    · rfl

/-- A resize does not write the count of busy connections. -/
@[simp]
theorem busy_setConnectionsCount (connectionCount : UInt32) (pool : ConnectionPool) :
    (pool.setConnectionsCount connectionCount).busy = pool.busy := by
  unfold setConnectionsCount
  dsimp only
  split
  · rfl
  · split
    · split
      · split <;> rfl
      · rfl
    · rfl

/-- A resize keeps the first ones of the free connections. -/
theorem freeConnections_setConnectionsCount (connectionCount : UInt32) (pool : ConnectionPool) :
    ∃ count, (pool.setConnectionsCount connectionCount).freeConnections =
      pool.freeConnections.take count := by
  have hkept : ∃ count, pool.freeConnections = pool.freeConnections.take count :=
    ⟨_, List.take_length.symm⟩
  have hcut : ∀ (all : Prop) [Decidable all] (count : Nat), ∃ count',
      (if all then [] else pool.freeConnections.take count) =
        pool.freeConnections.take count' := by
    intro all _ count
    split
    · exact ⟨0, rfl⟩
    · exact ⟨count, rfl⟩
  unfold setConnectionsCount
  dsimp only
  split
  · exact hkept
  · split
    · split
      · split <;> exact hcut _ _
      · exact hkept
    · exact hkept

/-- The parts one after the other, with nothing in between, are `SetSettings`. -/
theorem setSettings_eq_parts (settings : DBConnectorSettings) (pool : ConnectionPool) :
    pool.setSettings settings =
      (settingsParts settings).foldl runPart (pool.changeOptions settings) := by
  have hattempts : ∀ changed : ConnectionPool,
      (settings.connectAttempts.toList.map SettingsPart.setAttempts).foldl runPart changed =
        { changed with
          connectionAttempts := settings.connectAttempts.getD changed.connectionAttempts } := by
    intro changed
    cases settings.connectAttempts <;> rfl
  rw [settingsParts, List.foldl_append, List.foldl_append, hattempts, setSettings]
  cases hchanges : settings.changesConnection <;> cases hcount : settings.connectionCount <;>
    simp [ConnectionOptions.setSettings, hchanges, changeOptions, runPart]

/-- A connection that is opened was opened with the given text. -/
theorem connectionString_of_connectWithin {behaviour : ConnectBehaviour}
    {hasDatabase : String → Bool} {connectionString : String} {attempts clock : Nat}
    {connection : PooledConnection}
    (h : (connectWithin behaviour hasDatabase connectionString attempts clock).1 =
      some connection) : connection.connectionString = connectionString := by
  induction attempts generalizing clock with
  | zero => cases h
  | succ attempts ih =>
    rw [connectWithin] at h
    split at h
    · cases h
      rfl
    · exact ih h

/-- What `GetConnection` does: take the last free connection, or open one, which is charged to
the uninitialized ones or to those to be deleted; when none can be opened, only the text of the
options may have been kept. -/
theorem getConnection_cases (behaviour : ConnectBehaviour) (hasDatabase : String → Bool)
    (pool : ConnectionPool) (clock : Nat) :
    (∃ connection, pool.freeConnections.getLast? = some connection ∧
      pool.getConnection behaviour hasDatabase clock =
        (some connection, { pool with freeConnections := pool.freeConnections.dropLast },
          clock)) ∨
    ∃ clock', pool.freeConnections = [] ∧
      (pool.getConnection behaviour hasDatabase clock =
          (none, { pool with connectionOptions := pool.connectionOptions.getConnectionString.2 },
            clock') ∨
        ∃ connection, connection.connectionString = pool.connectionOptions.getConnectionString.1 ∧
          ((0 < pool.toCreate ∧ pool.getConnection behaviour hasDatabase clock =
              (some connection,
                { pool with
                  connectionOptions := pool.connectionOptions.getConnectionString.2
                  toCreate := pool.toCreate - 1 }, clock')) ∨
            (¬ 0 < pool.toCreate ∧ pool.getConnection behaviour hasDatabase clock =
              (some connection,
                { pool with
                  connectionOptions := pool.connectionOptions.getConnectionString.2
                  toDelete := pool.toDelete + 1 }, clock')))) := by
  unfold getConnection
  rcases hlast : pool.freeConnections.getLast? with _ | connection
  · refine .inr ⟨(connectWithin behaviour hasDatabase
      pool.connectionOptions.getConnectionString.1
      (max 1 pool.connectionAttempts.toNat) clock).2, List.getLast?_eq_none_iff.mp hlast, ?_⟩
    dsimp only [createConnection]
    rcases hopened : (connectWithin behaviour hasDatabase
      pool.connectionOptions.getConnectionString.1
      (max 1 pool.connectionAttempts.toNat) clock).1 with _ | connection
    · exact .inl rfl
    · refine .inr ⟨connection, connectionString_of_connectWithin hopened, ?_⟩
      by_cases hcreate : 0 < pool.toCreate
      · exact .inl ⟨hcreate, by simp [hcreate]⟩
      · exact .inr ⟨hcreate, by simp [hcreate]⟩
  · exact .inl ⟨connection, rfl, rfl⟩

/-- The differences that a resize takes fit the signed 32-bit integers it takes them in. -/
def FitsResize (count : UInt32) (pool : ConnectionPool) : Prop :=
  let free := pool.freeConnections.length
  let size := free + pool.toCreate.toNat
  (size < count.toNat → count.toNat - size < 2147483648) ∧
  (count.toNat < size → size - count.toNat < 2147483648 ∧
    (count.toNat < free → count.toNat ≤ 2147483648) ∧
    (free ≤ count.toNat → count.toNat - free ≤ 2147483648))

/-- Where everything fits, a resize makes the free and the uninitialized connections together as
many as requested, and leaves the rest alone. -/
theorem setConnectionsCount_spec {count : UInt32} {pool : ConnectionPool} (hbusy : pool.busy = 0)
    (hsize : pool.freeConnections.length + pool.toCreate.toNat < 4294967296)
    (hfits : pool.FitsResize count) :
    (pool.setConnectionsCount count).freeConnections.length +
        (pool.setConnectionsCount count).toCreate.toNat = count.toNat ∧
      (pool.setConnectionsCount count).toDelete = pool.toDelete := by
  obtain ⟨hgrow, hshrink⟩ := hfits
  have hcount := count.toNat_lt
  have hfree : (UInt64.ofNat pool.freeConnections.length).toNat = pool.freeConnections.length := by
    rw [UInt64.toNat_ofNat']
    omega
  have hcreate := pool.toCreate.toNat_lt
  have htotal : (UInt64.ofNat pool.freeConnections.length + pool.busy.toUInt64 +
      pool.toCreate.toUInt64).toNat = pool.freeConnections.length + pool.toCreate.toNat := by
    rw [hbusy, UInt64.toNat_add, UInt64.toNat_add, hfree]
    simp
    omega
  have hdiff := toNat_toUInt32_sub count.toUInt64 (UInt64.ofNat pool.freeConnections.length +
      pool.busy.toUInt64 + pool.toCreate.toUInt64)
  rw [htotal, UInt32.toNat_toUInt64] at hdiff
  have hsigned := toInt_toInt32 (count.toUInt64 - (UInt64.ofNat pool.freeConnections.length +
      pool.busy.toUInt64 + pool.toCreate.toUInt64)).toUInt32
  unfold setConnectionsCount
  dsimp only
  generalize (count.toUInt64 - (UInt64.ofNat pool.freeConnections.length +
      pool.busy.toUInt64 + pool.toCreate.toUInt64)).toUInt32 = difference at hdiff hsigned ⊢
  generalize difference.toInt32 = diff at hsigned ⊢
  have hvalue : diff.toInt =
      (count.toNat : Int) - (pool.freeConnections.length + pool.toCreate.toNat) := by
    split at hsigned <;> omega
  clear hsigned hdiff
  by_cases hpos : 0 < diff
  · -- Grow: the uninitialized connections are more by the difference.
    rw [if_pos hpos]
    have hlt : 0 < diff.toInt := Int32.lt_iff_toInt_lt.mp hpos
    have hcast := toNat_toUInt32 diff
    rw [if_pos (Int.le_of_lt hlt)] at hcast
    refine ⟨?_, rfl⟩
    change pool.freeConnections.length + (pool.toCreate + diff.toUInt32).toNat = count.toNat
    rw [UInt32.toNat_add]
    omega
  rw [if_neg hpos]
  by_cases hneg : diff < 0
  · rw [if_pos hneg]
    have hlt : diff.toInt < 0 := Int32.lt_iff_toInt_lt.mp hneg
    have hsaved : (-diff).toInt = -diff.toInt := toInt_neg (by omega)
    have hsavedNat := toNat_toUInt32 (-diff)
    rw [if_pos (by omega), hsaved] at hsavedNat
    -- What is left to cut after the uninitialized connections.
    have hleft := toInt_toInt32 ((-diff).toUInt32 - pool.toCreate)
    have hleftNat := toNat_sub (-diff).toUInt32 pool.toCreate
    generalize (-diff).toUInt32 - pool.toCreate = leftNat at hleft hleftNat ⊢
    generalize leftNat.toInt32 = left at hleft ⊢
    have hleftValue : left.toInt = (pool.freeConnections.length : Int) - count.toNat := by
      split at hleft <;> omega
    clear hleft hleftNat
    by_cases hleftPos : 0 < left
    · -- Nothing uninitialized remains, and the free connections are cut as well.
      have hleftLt : 0 < left.toInt := Int32.lt_iff_toInt_lt.mp hleftPos
      have hleftLe : 0 ≤ left := Int32.le_iff_toInt_le.mpr (Int.le_of_lt hleftLt)
      rw [if_pos hleftPos, if_pos hleftLe]
      have hwide : (left.toInt64.toUInt64).toNat = left.toInt := by
        exact toNat_toUInt64_toInt64 (Int.le_of_lt hleftLt)
      have hrest := toInt_toInt32
        (left.toInt64.toUInt64 - UInt64.ofNat pool.freeConnections.length).toUInt32
      have hrestNat := toNat_toUInt32_sub left.toInt64.toUInt64
        (UInt64.ofNat pool.freeConnections.length)
      rw [hfree, hwide] at hrestNat
      generalize (left.toInt64.toUInt64 - UInt64.ofNat pool.freeConnections.length).toUInt32 =
        restNat at hrest hrestNat ⊢
      generalize restNat.toInt32 = rest at hrest ⊢
      have hrestValue : rest.toInt = -count.toNat := by
        split at hrest <;> omega
      have hrestNonpos : ¬ 0 < rest := fun h => by
        have hrestLt : 0 < rest.toInt := Int32.lt_iff_toInt_lt.mp h
        omega
      rw [if_neg hrestNonpos]
      refine ⟨?_, rfl⟩
      by_cases hall : 0 ≤ rest
      · have hzero : 0 ≤ rest.toInt := Int32.le_iff_toInt_le.mp hall
        rw [if_pos hall]
        change 0 + 0 = count.toNat
        omega
      · rw [if_neg hall, List.length_take]
        change min _ _ + 0 = count.toNat
        omega
    · -- The uninitialized connections are enough to cut from.
      rw [if_neg hleftPos]
      refine ⟨?_, rfl⟩
      have hleftNonpos : ¬ 0 < left.toInt := fun h => hleftPos (Int32.lt_iff_toInt_lt.mpr h)
      by_cases hzero : 0 ≤ left
      · have hleftZero : 0 ≤ left.toInt := Int32.le_iff_toInt_le.mp hzero
        rw [if_pos hzero]
        change pool.freeConnections.length + 0 = count.toNat
        omega
      · have hleftNeg : ¬ 0 ≤ left.toInt := fun h => hzero (Int32.le_iff_toInt_le.mpr h)
        rw [if_neg hzero]
        have hcreated := toNat_sub pool.toCreate (-diff).toUInt32
        change pool.freeConnections.length + (pool.toCreate - (-diff).toUInt32).toNat = count.toNat
        omega
  · rw [if_neg hneg]
    have hge : ¬ diff.toInt < 0 := fun h => hneg (Int32.lt_iff_toInt_lt.mpr h)
    have hle : ¬ 0 < diff.toInt := fun h => hpos (Int32.lt_iff_toInt_lt.mpr h)
    exact ⟨by omega, rfl⟩
end ConnectionPool

open ConnectionPool

/-! ## Runs -/

/-- A pool in use. -/
structure PoolUse where
  /-- The pool as its constructor leaves it, with `DEFAULT_CONNECTIONS_COUNT`. -/
  pool : ConnectionPool := ConnectionPool.setConnectionsCount 4 {}
  /-- The connections that proxies hold. -/
  inUse : List PooledConnection := []
  /-- The `SetSettings` calls made so far, each with the parts that it still has to run. -/
  settingsCalls : List (List SettingsPart) := []
  /-- The count of connections that was requested last. -/
  requested : UInt32 := 4
  clock : Nat := 0

/-- What happens to it. -/
inductive PoolEvent where
  /-- A `GetConnection` call. -/
  | getConnection
  /-- A proxy gives the connection of that index back. -/
  | returnConnection (index : Nat)
  /-- A `SetSettings` call begins: the options change. -/
  | setSettings (settings : DBConnectorSettings)
  /-- The `SetSettings` call of that index runs its next part. -/
  | continueSettings (call : Nat)
  deriving DecidableEq, Repr

/-- The count that a part of `SetSettings` requests. -/
def SettingsPart.requested (before : UInt32) : SettingsPart → UInt32
  | .resize connectionCount => connectionCount
  | _ => before

namespace PoolUse

variable (behaviour : ConnectBehaviour) (hasDatabase : String → Bool)

/-- The state after one event. -/
def step (use : PoolUse) : PoolEvent → PoolUse
  | .getConnection =>
    match use.pool.getConnection behaviour hasDatabase use.clock with
    | (some connection, pool, clock) =>
      { use with pool, clock, inUse := use.inUse ++ [connection] }
    | (none, pool, clock) => { use with pool, clock }
  | .returnConnection index =>
    match use.inUse[index]? with
    | some connection =>
      { use with
        pool := use.pool.returnConnection connection
        inUse := use.inUse.eraseIdx index }
    | none => use
  | .setSettings settings =>
    { use with
      pool := use.pool.changeOptions settings
      settingsCalls := use.settingsCalls ++ [settingsParts settings] }
  | .continueSettings call =>
    match use.settingsCalls[call]? with
    | some (part :: parts) =>
      { use with
        pool := use.pool.runPart part
        settingsCalls := use.settingsCalls.set call parts
        requested := part.requested use.requested }
    | _ => use

/-- The state after a sequence of events. -/
def run (events : List PoolEvent) (use : PoolUse) : PoolUse :=
  events.foldl (step behaviour hasDatabase) use

/-! ## The counters add up -/

/-- The counters add up to the requested count, and the pool holds no more than that when
everything has been returned. -/
def Quota (use : PoolUse) : Prop :=
  (use.pool.freeConnections.length : Int) + use.inUse.length + use.pool.toCreate.toNat -
      use.pool.toDelete.toNat = use.requested.toNat ∧
    (use.inUse = [] → use.pool.freeConnections.length ≤ use.requested.toNat)

/-- A `GetConnection` that throws now leaves the free connections and the counters alone. -/
def FailsCleanly (use : PoolUse) : Prop :=
  ∀ pool clock,
    use.pool.getConnection behaviour hasDatabase use.clock = (none, pool, clock) →
      pool.freeConnections = use.pool.freeConnections ∧ pool.toCreate = use.pool.toCreate ∧
        pool.toDelete = use.pool.toDelete

/-- A resize finds no connection in use that is under the quota, and its differences fit; and a
new connection to be deleted still fits the counter of these. -/
def ResizesSafely (use : PoolUse) : PoolEvent → Prop
  | .getConnection => use.pool.freeConnections = [] → use.pool.toCreate = 0 →
      use.pool.toDelete.toNat + 1 < 4294967296
  | .continueSettings call => ∀ connectionCount parts,
      use.settingsCalls[call]? = some (.resize connectionCount :: parts) →
        use.inUse.length = use.pool.toDelete.toNat ∧ use.pool.FitsResize connectionCount
  | _ => True

/-- Every event of the run resizes safely in the state that it happens in. -/
def AllResizeSafely : PoolUse → List PoolEvent → Prop
  | _, [] => True
  | use, event :: events => use.ResizesSafely event ∧
      AllResizeSafely (use.step behaviour hasDatabase event) events

/-- The counters add up, and no more connections are to be deleted than are in use. -/
structure Balanced (use : PoolUse) : Prop where
  busy : use.pool.busy = 0
  toDelete_le : use.pool.toDelete.toNat ≤ use.inUse.length
  total : use.pool.freeConnections.length + use.inUse.length + use.pool.toCreate.toNat =
    use.requested.toNat + use.pool.toDelete.toNat

/-- The pool that the constructor leaves is balanced. -/
theorem balanced_init : Balanced {} where
  busy := rfl
  toDelete_le := Nat.zero_le _
  total := rfl

/-- The pool never holds more than the requested count, free and uninitialized connections
together. -/
theorem Balanced.size_le {use : PoolUse} (h : use.Balanced) :
    use.pool.freeConnections.length + use.pool.toCreate.toNat ≤ use.requested.toNat := by
  have htotal := h.total
  have hle := h.toDelete_le
  omega

/-- A balanced pool keeps the quota. -/
theorem Balanced.quota {use : PoolUse} (h : use.Balanced) : use.Quota := by
  have htotal := h.total
  have hsize := h.size_le
  exact ⟨by omega, fun _ => by omega⟩

/-- A failing `GetConnection` changes no counter. -/
theorem failsCleanly (use : PoolUse) : use.FailsCleanly behaviour hasDatabase := by
  intro pool clock hfails
  rcases use.pool.getConnection_cases behaviour hasDatabase use.clock with
    ⟨connection, -, hget⟩ | ⟨clock', -, hget | ⟨connection, -, ⟨-, hget⟩ | ⟨-, hget⟩⟩⟩ <;>
    rw [hget] at hfails <;> cases hfails
  exact ⟨rfl, rfl, rfl⟩

/-- Getting a connection moves one from the free, or from the uninitialized ones to those in
use, or counts one more of each sort that is above the quota. -/
theorem Balanced.getConnection {use : PoolUse} (h : use.Balanced)
    (hsafe : use.ResizesSafely .getConnection) :
    (use.step behaviour hasDatabase .getConnection).Balanced := by
  have htotal := h.total
  have hle := h.toDelete_le
  rcases use.pool.getConnection_cases behaviour hasDatabase use.clock with
    ⟨connection, hlast, hget⟩ |
      ⟨clock', hfree, hget | ⟨connection, -, ⟨hcreate, hget⟩ | ⟨hcreate, hget⟩⟩⟩ <;>
    simp only [step, hget]
  · -- The last free connection.
    have hpos : 0 < use.pool.freeConnections.length :=
      List.length_pos_iff.mpr fun hnil => by simp [hnil] at hlast
    refine ⟨h.busy, ?_, ?_⟩
    · rw [List.length_append]
      exact Nat.le_trans hle (Nat.le_add_right _ _)
    · simp only [List.length_append, List.length_dropLast, List.length_singleton]
      omega
  · -- None could be opened.
    exact ⟨h.busy, hle, htotal⟩
  · -- A new one under the quota.
    have hpos : 0 < use.pool.toCreate.toNat := UInt32.lt_iff_toNat_lt.mp hcreate
    have hsub : (use.pool.toCreate - 1).toNat = use.pool.toCreate.toNat - 1 :=
      UInt32.toNat_sub_of_le _ _ (UInt32.le_iff_toNat_le.mpr hpos)
    refine ⟨h.busy, ?_, ?_⟩
    · rw [List.length_append]
      exact Nat.le_trans hle (Nat.le_add_right _ _)
    · simp only [List.length_append, List.length_singleton, hsub]
      omega
  · -- A new one to be deleted.
    have hzero : use.pool.toCreate = 0 := by
      by_contra hne
      exact hcreate (UInt32.pos_iff_ne_zero.mpr hne)
    have hadd : (use.pool.toDelete + 1).toNat = use.pool.toDelete.toNat + 1 := by
      rw [UInt32.toNat_add]
      exact Nat.mod_eq_of_lt (hsafe hfree hzero)
    refine ⟨h.busy, ?_, ?_⟩
    · simp only [List.length_append, List.length_singleton, hadd]
      omega
    · simp only [List.length_append, List.length_singleton, hadd]
      omega

/-- Returning a connection of those in use. -/
theorem Balanced.returnConnection {use : PoolUse} (h : use.Balanced) (index : Nat) :
    (use.step behaviour hasDatabase (.returnConnection index)).Balanced := by
  have htotal := h.total
  have hle := h.toDelete_le
  rcases hget : use.inUse[index]? with _ | connection
  · simpa only [step, hget] using h
  obtain ⟨hindex, -⟩ := List.getElem?_eq_some_iff.mp hget
  have hlength := List.length_eraseIdx_of_lt hindex
  simp only [step, hget, ConnectionPool.returnConnection]
  by_cases hdelete : 0 < use.pool.toDelete
  · have hpos : 0 < use.pool.toDelete.toNat := UInt32.lt_iff_toNat_lt.mp hdelete
    have hsub : (use.pool.toDelete - 1).toNat = use.pool.toDelete.toNat - 1 :=
      UInt32.toNat_sub_of_le _ _ (UInt32.le_iff_toNat_le.mpr hpos)
    rw [if_pos hdelete]
    refine ⟨h.busy, ?_, ?_⟩
    · simp only [hlength, hsub]
      omega
    · simp only [hlength, hsub]
      omega
  · have hzero : use.pool.toDelete.toNat = 0 := by
      by_contra hne
      exact hdelete (UInt32.lt_iff_toNat_lt.mpr (Nat.pos_of_ne_zero hne))
    rw [if_neg hdelete]
    refine ⟨h.busy, ?_, ?_⟩
    · simp only [hzero]
      exact Nat.zero_le _
    · simp only [hlength, List.length_append, List.length_singleton]
      omega

/-- One part of a `SetSettings` call. -/
theorem Balanced.continueSettings {use : PoolUse} (h : use.Balanced) {call : Nat}
    (hsafe : use.ResizesSafely (.continueSettings call)) :
    (use.step behaviour hasDatabase (.continueSettings call)).Balanced := by
  have htotal := h.total
  have hle := h.toDelete_le
  have hsize := h.size_le
  have hrequested := use.requested.toNat_lt
  rcases hparts : use.settingsCalls[call]? with _ | _ | ⟨part, parts⟩
  · simpa only [step, hparts] using h
  · simpa only [step, hparts] using h
  simp only [step, hparts]
  cases part with
  | resetFree =>
    -- The free connections become uninitialized ones.
    have hfree : (UInt32.ofNat use.pool.freeConnections.length).toNat =
        use.pool.freeConnections.length := by
      rw [UInt32.toNat_ofNat']
      omega
    refine ⟨h.busy, hle, ?_⟩
    simp only [runPart, SettingsPart.requested, List.length_nil, UInt32.toNat_add, hfree]
    omega
  | resize connectionCount =>
    -- All connections in use are to be deleted, so that the resize counts all the others.
    obtain ⟨hover, hfits⟩ := hsafe connectionCount parts hparts
    obtain ⟨hcount, hdelete⟩ := setConnectionsCount_spec h.busy (by omega) hfits
    refine ⟨?_, ?_, ?_⟩
    · exact (busy_setConnectionsCount ..).trans h.busy
    · simp only [runPart, hdelete]
      exact hle
    · simp only [runPart, SettingsPart.requested, hdelete]
      omega
  | setAttempts connectAttempts => exact ⟨h.busy, hle, htotal⟩

/-- A safe event keeps the balance. -/
theorem Balanced.step {use : PoolUse} (h : use.Balanced) {event : PoolEvent}
    (hsafe : use.ResizesSafely event) : (use.step behaviour hasDatabase event).Balanced := by
  cases event with
  | getConnection => exact h.getConnection behaviour hasDatabase hsafe
  | returnConnection index => exact h.returnConnection behaviour hasDatabase index
  | setSettings settings => exact ⟨h.busy, h.toDelete_le, h.total⟩
  | continueSettings call => exact h.continueSettings behaviour hasDatabase hsafe

/-- A run of safe events keeps the balance. -/
theorem Balanced.run {use : PoolUse} (h : use.Balanced) {events : List PoolEvent}
    (hsafe : AllResizeSafely behaviour hasDatabase use events) :
    (use.run behaviour hasDatabase events).Balanced := by
  induction events generalizing use with
  | nil => exact h
  | cons event events ih => exact ih (h.step behaviour hasDatabase hsafe.1) hsafe.2

/-- In a run whose resizes are safe the counters add up to the requested count in every state
that is reached, and a failing `GetConnection` changes none of them. -/
theorem quota_of_resizesSafely (events : List PoolEvent)
    (hsafe : AllResizeSafely behaviour hasDatabase {} events) :
    (run behaviour hasDatabase events {}).Quota ∧
      (run behaviour hasDatabase events {}).FailsCleanly behaviour hasDatabase :=
  ⟨(balanced_init.run behaviour hasDatabase hsafe).quota, failsCleanly behaviour hasDatabase _⟩

/-- A server that lets everybody in. -/
def openServer : ConnectBehaviour where
  names _ := "postgres"
  accepts _ _ := true

/-- The pool is set to no connections, and to two while one above the quota is in use. -/
theorem quota_of_resizesSafely_above :
    (run openServer (fun _ => true)
      [.setSettings { connectionCount := some 0 }, .continueSettings 0, .getConnection,
        .setSettings { connectionCount := some 2 }, .continueSettings 1] {}).Quota := by
  refine (quota_of_resizesSafely openServer (fun _ => true)
    [.setSettings { connectionCount := some 0 }, .continueSettings 0, .getConnection,
      .setSettings { connectionCount := some 2 }, .continueSettings 1]
    ⟨trivial, ?_, ?_, trivial, ?_, trivial⟩).1
  · intro connectionCount parts hparts
    cases hparts
    exact ⟨rfl, by decide, by decide⟩
  · intro _ _
    decide
  · intro connectionCount parts hparts
    cases hparts
    exact ⟨rfl, by decide, by decide⟩

/-- A resize to the same count, while one of the four connections is in use, makes a fifth one
possible. -/
theorem resizeInUse_exceeds_quota :
    ¬ ∀ (behaviour : ConnectBehaviour) (hasDatabase : String → Bool) (events : List PoolEvent),
      (run behaviour hasDatabase events {}).Quota := by
  intro h
  have hquota := (h openServer (fun _ => true)
    [.getConnection, .setSettings { connectionCount := some 4 }, .continueSettings 0]).1
  exact absurd hquota (by decide)

/-! ## Options in force -/

/-- The text that connections are opened with. -/
def inForce (use : PoolUse) : String :=
  use.pool.connectionOptions.connString

/-- The texts in force from a state on, during the given events. -/
def textsInForce : PoolUse → List PoolEvent → List String
  | use, [] => [use.inForce]
  | use, event :: events =>
    use.inForce :: textsInForce (use.step behaviour hasDatabase event) events

/-- A connection that goes back to the free ones was opened with the options in force. -/
def ReturnsCurrent (use : PoolUse) : PoolEvent → Prop
  | .returnConnection index => ∀ connection, use.inUse[index]? = some connection →
      use.pool.toDelete = 0 → connection.connectionString = use.inForce
  | _ => True

/-- Every event of the run returns a current connection to the free ones, if any. -/
def AllReturnCurrent : PoolUse → List PoolEvent → Prop
  | _, [] => True
  | use, event :: events => use.ReturnsCurrent event ∧
      AllReturnCurrent (use.step behaviour hasDatabase event) events

/-- The text that was kept, if any, is the text of the options. -/
def KeepsText (use : PoolUse) : Prop :=
  use.pool.connectionOptions.cachedString = "" ∨
    use.pool.connectionOptions.cachedString = use.inForce

/-- Connections are opened with the text of the options in force. -/
theorem KeepsText.getConnectionString {use : PoolUse} (h : use.KeepsText) :
    use.pool.connectionOptions.getConnectionString.1 = use.inForce :=
  ConnectionOptions.KeepsOwnText.getConnectionString h

/-- What a pool that is asked for a connection hands out was free or is new; its options stay
the same, and what is free afterwards was free before. -/
theorem KeepsText.getConnection {use : PoolUse} (h : use.KeepsText) :
    (use.step behaviour hasDatabase .getConnection).KeepsText ∧
      (use.step behaviour hasDatabase .getConnection).inForce = use.inForce ∧
      (use.step behaviour hasDatabase .getConnection).settingsCalls = use.settingsCalls ∧
      (∀ connection ∈ (use.step behaviour hasDatabase .getConnection).pool.freeConnections,
        connection ∈ use.pool.freeConnections) ∧
      ∀ connection,
        (use.pool.getConnection behaviour hasDatabase use.clock).1 = some connection →
          connection ∈ use.pool.freeConnections ∨ connection.connectionString = use.inForce := by
  have htext := h.getConnectionString
  have hsame := ConnectionOptions.connString_getConnectionString use.pool.connectionOptions
  have hkept := ConnectionOptions.cachedString_getConnectionString use.pool.connectionOptions
  rcases use.pool.getConnection_cases behaviour hasDatabase use.clock with
    ⟨connection, hlast, hget⟩ |
      ⟨clock', hfree, hget | ⟨connection, hstring, ⟨-, hget⟩ | ⟨-, hget⟩⟩⟩ <;>
    simp only [step, hget]
  · refine ⟨h, rfl, trivial, fun other hother => List.dropLast_subset _ hother, ?_⟩
    intro other hother
    cases hother
    exact .inl (List.mem_of_getLast? hlast)
  · refine ⟨.inr (hkept.trans (htext.trans hsame.symm)), hsame, trivial, fun _ hother => hother, ?_⟩
    intro other hother
    cases hother
  · refine ⟨.inr (hkept.trans (htext.trans hsame.symm)), hsame, trivial, fun _ hother => hother, ?_⟩
    intro other hother
    cases hother
    exact .inr (hstring.trans htext)
  · refine ⟨.inr (hkept.trans (htext.trans hsame.symm)), hsame, trivial, fun _ hother => hother, ?_⟩
    intro other hother
    cases hother
    exact .inr (hstring.trans htext)

/-- A returned connection is the only one that may get free. -/
theorem returnConnection_spec (use : PoolUse) (index : Nat) :
    let returned := use.step behaviour hasDatabase (.returnConnection index)
    returned.pool.connectionOptions = use.pool.connectionOptions ∧
      returned.settingsCalls = use.settingsCalls ∧
      ∀ connection ∈ returned.pool.freeConnections, connection ∈ use.pool.freeConnections ∨
        (use.inUse[index]? = some connection ∧ use.pool.toDelete = 0) := by
  rcases hget : use.inUse[index]? with _ | connection
  · simp only [step, hget]
    exact ⟨trivial, trivial, fun _ => .inl⟩
  · simp only [step, hget, ConnectionPool.returnConnection]
    by_cases hdelete : 0 < use.pool.toDelete
    · rw [if_pos hdelete]
      exact ⟨rfl, trivial, fun _ => .inl⟩
    · have hzero : use.pool.toDelete = 0 := by
        by_contra hne
        exact hdelete (UInt32.pos_iff_ne_zero.mpr hne)
      rw [if_neg hdelete]
      refine ⟨rfl, trivial, fun other hother => ?_⟩
      rcases List.mem_append.mp hother with hold | hnew
      · exact .inl hold
      · exact .inr ⟨by rw [List.mem_singleton.mp hnew], hzero⟩

/-- The parts that follow the change of the options leave these alone and free nothing. -/
theorem runPart_spec (pool : ConnectionPool) (part : SettingsPart) :
    (pool.runPart part).connectionOptions = pool.connectionOptions ∧
      ∀ connection ∈ (pool.runPart part).freeConnections,
        connection ∈ pool.freeConnections ∧ part ≠ .resetFree := by
  cases part with
  | resetFree =>
    refine ⟨rfl, fun connection hconnection => ?_⟩
    cases hconnection
  | resize connectionCount =>
    refine ⟨connectionOptions_setConnectionsCount .., fun connection hconnection => ?_⟩
    obtain ⟨count, hcount⟩ := freeConnections_setConnectionsCount connectionCount pool
    rw [runPart, hcount] at hconnection
    exact ⟨List.mem_of_mem_take hconnection, by simp⟩
  | setAttempts connectAttempts => exact ⟨rfl, fun _ hconnection => ⟨hconnection, by simp⟩⟩

/-- The kept text follows the options through every event. -/
theorem KeepsText.step {use : PoolUse} (h : use.KeepsText) (event : PoolEvent) :
    (use.step behaviour hasDatabase event).KeepsText := by
  cases event with
  | getConnection => exact (h.getConnection behaviour hasDatabase).1
  | returnConnection index =>
    obtain ⟨hoptions, -⟩ := use.returnConnection_spec behaviour hasDatabase index
    rw [KeepsText, inForce, hoptions]
    exact h
  | setSettings settings =>
    rw [KeepsText, inForce]
    simp only [PoolUse.step, changeOptions, ConnectionOptions.setSettings]
    split
    · exact .inl rfl
    · exact h
  | continueSettings call =>
    rcases hparts : use.settingsCalls[call]? with _ | _ | ⟨part, parts⟩
    · simpa only [PoolUse.step, hparts] using h
    · simpa only [PoolUse.step, hparts] using h
    · rw [KeepsText, inForce]
      simp only [PoolUse.step, hparts, (runPart_spec use.pool part).1]
      exact h

/-- The kept text follows the options through every run. -/
theorem KeepsText.run {use : PoolUse} (h : use.KeepsText) (events : List PoolEvent) :
    (use.run behaviour hasDatabase events).KeepsText := by
  induction events generalizing use with
  | nil => exact h
  | cons event events ih => exact ih (h.step behaviour hasDatabase event)

/-- Once the given `SetSettings` call has forgotten the free connections, all free connections
were opened with the given texts. -/
structure CurrentSince (texts : List String) (call : Nat) (use : PoolUse) : Prop where
  keepsText : use.KeepsText
  inForce_mem : use.inForce ∈ texts
  call_lt : call < use.settingsCalls.length
  free_mem : ∀ parts, use.settingsCalls[call]? = some parts → .resetFree ∉ parts →
    ∀ connection ∈ use.pool.freeConnections, connection.connectionString ∈ texts

/-- An event after which the options in force are among the texts, and which returns a current
connection if any. -/
theorem CurrentSince.step {texts : List String} {call : Nat} {use : PoolUse}
    (h : use.CurrentSince texts call) {event : PoolEvent}
    (hnext : (use.step behaviour hasDatabase event).inForce ∈ texts)
    (hreturns : use.ReturnsCurrent event) :
    (use.step behaviour hasDatabase event).CurrentSince texts call := by
  have hkeeps := h.keepsText.step behaviour hasDatabase event
  cases event with
  | getConnection =>
    obtain ⟨-, -, hcalls, hfree, -⟩ := h.keepsText.getConnection behaviour hasDatabase
    refine ⟨hkeeps, hnext, by rw [hcalls]; exact h.call_lt, ?_⟩
    intro parts hparts hreset connection hconnection
    rw [hcalls] at hparts
    exact h.free_mem parts hparts hreset connection (hfree connection hconnection)
  | returnConnection index =>
    obtain ⟨-, hcalls, hfree⟩ := use.returnConnection_spec behaviour hasDatabase index
    refine ⟨hkeeps, hnext, by rw [hcalls]; exact h.call_lt, ?_⟩
    intro parts hparts hreset connection hconnection
    rw [hcalls] at hparts
    rcases hfree connection hconnection with hold | ⟨hreturned, hdelete⟩
    · exact h.free_mem parts hparts hreset connection hold
    · rw [hreturns connection hreturned hdelete]
      exact h.inForce_mem
  | setSettings settings =>
    refine ⟨hkeeps, hnext, ?_, ?_⟩
    · simp only [PoolUse.step, List.length_append]
      exact Nat.lt_add_right _ h.call_lt
    · intro parts hparts hreset connection hconnection
      rw [PoolUse.step, List.getElem?_append_left h.call_lt] at hparts
      exact h.free_mem parts hparts hreset connection hconnection
  | continueSettings other =>
    rcases hrest : use.settingsCalls[other]? with _ | _ | ⟨part, rest⟩
    · simpa only [PoolUse.step, hrest] using h
    · simpa only [PoolUse.step, hrest] using h
    have hstep : use.step behaviour hasDatabase (.continueSettings other) =
        { use with
          pool := use.pool.runPart part
          settingsCalls := use.settingsCalls.set other rest
          requested := part.requested use.requested } := by
      simp only [PoolUse.step, hrest]
    rw [hstep] at hkeeps hnext ⊢
    refine ⟨hkeeps, hnext, by rw [List.length_set]; exact h.call_lt, ?_⟩
    intro parts hparts hreset connection hconnection
    obtain ⟨hold, hpart⟩ := (runPart_spec use.pool part).2 connection hconnection
    by_cases hcall : other = call
    · -- The call itself: a part other than the reset was run, so the reset is done.
      subst hcall
      obtain rfl : rest = parts := by simpa [h.call_lt] using hparts
      exact h.free_mem (part :: rest) hrest (by simp [hpart.symm, hreset]) connection hold
    · have hparts' : use.settingsCalls[call]? = some parts := by
        simpa [List.getElem?_set_ne hcall] using hparts
      exact h.free_mem parts hparts' hreset connection hold

/-- A run during which the options in force stay among the texts. -/
theorem CurrentSince.run {texts : List String} {call : Nat} {use : PoolUse}
    (h : use.CurrentSince texts call) {events : List PoolEvent}
    (htexts : use.textsInForce behaviour hasDatabase events ⊆ texts)
    (hreturns : AllReturnCurrent behaviour hasDatabase use events) :
    (use.run behaviour hasDatabase events).CurrentSince texts call := by
  induction events generalizing use with
  | nil => exact h
  | cons event events ih =>
    obtain ⟨-, htexts⟩ := List.cons_subset.mp htexts
    obtain ⟨hevent, hevents⟩ := hreturns
    refine ih (h.step behaviour hasDatabase ?_ hevent) htexts hevents
    cases events <;> exact htexts List.mem_cons_self

end PoolUse

end Srv.Db.Conn

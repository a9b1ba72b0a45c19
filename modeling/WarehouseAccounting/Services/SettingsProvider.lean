import WarehouseAccounting.DbConnector.ConnectionPool
import WarehouseAccounting.Services.Environment
import WarehouseAccounting.Services.TraceWriter
import WarehouseAccounting.Settings

/-!
# The settings provider

`settings_provider.cpp`, `json_config_reader.cpp` and the four settings classes: how a service gets
its settings.

- `SettingsProvider.fillSettings_eq_ok_iff`: what is made of the texts of the fields.
-/

namespace Srv

open Ufa Ufa.Settings

/-! ## The settings classes -/

namespace Db

/-- `DBConnectorSettings` with what the transaction factory reads of it. -/
structure AccessorSettings extends DBConnectorSettings where
  commitAttempts : Option UInt32 := none
  deriving DecidableEq, Repr

namespace AccessorSettings

/-- The constructor of `DBConnectorSettings`. -/
def base : SettingsBase AccessorSettings where
  settingsName := "DBConnectorSettings"
  fields := [
    .text "dbmsAddress" (·.dbmsAddress) (fun value s => { s with dbmsAddress := some value })
      fun _ _ => rfl,
    .uint32 "dbmsPort" (·.dbmsPort) (fun value s => { s with dbmsPort := some value })
      fun _ _ => rfl,
    .text "dbmsDbname" (·.dbmsDbname) (fun value s => { s with dbmsDbname := some value })
      fun _ _ => rfl,
    .text "dbmsUser" (·.dbmsUser) (fun value s => { s with dbmsUser := some value })
      fun _ _ => rfl,
    .text "dbmsPassword" (·.dbmsPassword) (fun value s => { s with dbmsPassword := some value })
      fun _ _ => rfl,
    .uint32 "connectAttempts" (·.connectAttempts)
      (fun value s => { s with connectAttempts := some value }) fun _ _ => rfl,
    .uint32 "connectionCount" (·.connectionCount)
      (fun value s => { s with connectionCount := some value }) fun _ _ => rfl,
    .uint32 "commitAttempts" (·.commitAttempts)
      (fun value s => { s with commitAttempts := some value }) fun _ _ => rfl,
    .flag "shouldReinitializeDb" (·.shouldReinitializeDb)
      (fun value s => { s with shouldReinitializeDb := some value }) fun _ _ => rfl,
    .flag "shouldCreateDb" (·.shouldCreateDb)
      (fun value s => { s with shouldCreateDb := some value }) fun _ _ => rfl]
  nodup_names := by decide
  get_set_of_ne := by
    simp [SettingsField.text, SettingsField.uint32, SettingsField.flag]
  ext := by
    rintro ⟨⟨⟩, _⟩ ⟨⟨⟩, _⟩ h
    simp [SettingsField.text, SettingsField.uint32, SettingsField.flag] at h
    simp [h]

end AccessorSettings

end Db

namespace Tracer.TracerSettings

/-- A `TraceLevel`. -/
def level (name : String) (get : TracerSettings → Option TraceLevel)
    (set : TraceLevel → TracerSettings → TracerSettings)
    (get_set : ∀ value settings, get (set value settings) = some value) :
    SettingsField TracerSettings where
  name
  Value := TraceLevel
  get
  set
  fromString text := .ok (TraceLevel.fromString text)
  toString := TraceLevel.toString
  get_set
  fromString_toString value := congrArg Except.ok value.fromString_toString

/-- The constructor of `TracerSettings`. -/
def base : SettingsBase TracerSettings where
  settingsName := "TracerSettings"
  fields := [
    level "traceLevel" (·.traceLevel) (fun value s => { s with traceLevel := some value })
      fun _ _ => rfl,
    .text "traceFolder" (·.traceFolder) (fun value s => { s with traceFolder := some value })
      fun _ _ => rfl,
    level "maxTraceLevelForConsole" (·.maxTraceLevelForConsole)
      (fun value s => { s with maxTraceLevelForConsole := some value }) fun _ _ => rfl,
    .uint32 "minMessagesToProcess" (·.minMessagesToProcess)
      (fun value s => { s with minMessagesToProcess := some value }) fun _ _ => rfl,
    .uint32 "processTimeoutMs" (·.processTimeoutMs)
      (fun value s => { s with processTimeoutMs := some value }) fun _ _ => rfl]
  nodup_names := by decide
  get_set_of_ne := by
    simp [SettingsField.text, SettingsField.uint32, level]
  ext := by
    rintro ⟨⟩ ⟨⟩ h
    simp [SettingsField.text, SettingsField.uint32, level] at h
    simp [h]

end Tracer.TracerSettings

namespace DocMgr

/-- `DocumentManagerSettings`. -/
structure DocumentManagerSettings where
  documentRoot : Option String := none
  deriving DecidableEq, Repr

/-- The constructor of `DocumentManagerSettings`. -/
def DocumentManagerSettings.base : SettingsBase DocumentManagerSettings where
  settingsName := "DocumentManagerSettings"
  fields := [
    .text "documentRoot" (·.documentRoot) (fun value s => { s with documentRoot := some value })
      fun _ _ => rfl]
  nodup_names := by decide
  get_set_of_ne := by
    simp [SettingsField.text]
  ext := by
    rintro ⟨⟩ ⟨⟩ h
    simp [SettingsField.text] at h
    simp [h]

end DocMgr

end Srv

namespace Ws

open Ufa.Settings

/-- `ServerSettings`. -/
structure ServerSettings where
  address : Option String := none
  port : Option Int32 := none
  workers : Option Int32 := none
  isSecured : Option Bool := none
  documentRoot : Option String := none
  deriving DecidableEq, Repr

/-- The constructor of `ServerSettings`. -/
def ServerSettings.base : SettingsBase ServerSettings where
  settingsName := "ServerSettings"
  fields := [
    .text "address" (·.address) (fun value s => { s with address := some value }) fun _ _ => rfl,
    .int32 "port" (·.port) (fun value s => { s with port := some value }) fun _ _ => rfl,
    .int32 "workers" (·.workers) (fun value s => { s with workers := some value }) fun _ _ => rfl,
    .flag "isSecured" (·.isSecured) (fun value s => { s with isSecured := some value })
      fun _ _ => rfl,
    .text "documentRoot" (·.documentRoot) (fun value s => { s with documentRoot := some value })
      fun _ _ => rfl]
  nodup_names := by decide
  get_set_of_ne := by
    simp [SettingsField.text, SettingsField.int32, SettingsField.flag]
  ext := by
    rintro ⟨⟩ ⟨⟩ h
    simp [SettingsField.text, SettingsField.int32, SettingsField.flag] at h
    simp [h]

end Ws

namespace Srv

open Ufa Ufa.Settings

/-! ## Where the texts come from -/

/-- `JsonConfigReader`. -/
structure JsonConfigReader where
  /-- `m_settingMap`. -/
  settingMap : Json
  /-- `json::dump`. -/
  dump : Json → String

namespace JsonConfigReader

/-- `json::empty`. -/
def isEmpty : Json → Bool
  | .null => true
  | .array elements => elements.isEmpty
  | .object members => members.isEmpty
  | _ => false

/-- `ReadValue`: strings come without their quotes. -/
def readValue (keys : List String) (reader : JsonConfigReader) : Except Result String :=
  if isEmpty reader.settingMap then
    .error .notFound
  else
    match keys.foldlM (fun json key => json.member key) reader.settingMap with
    | some (.string value) => .ok value
    | some json => .ok (reader.dump json)
    | none => .error .notFound

/-- The constructor of `JsonConfigReader`: the file is named by the environment or is the default
one. The settings are null when it cannot be opened or is not JSON. -/
def create (parseFile : String → Option Json) (defaultFile : String) (dump : Json → String)
    (environment : Environment) : JsonConfigReader :=
  let configPath := (environment.getValue "WAS_SETTINGS_FILE").toOption.getD defaultFile
  { settingMap := (parseFile configPath).getD .null
    dump }

end JsonConfigReader

/-- `SettingsProvider`. -/
structure SettingsProvider where
  environment : Environment
  configReader : JsonConfigReader

namespace SettingsProvider

/-- `ConvertToEnvironmentKey`. -/
def convertToEnvironmentKey (sectionName key : String) : String :=
  "WAS" ++ "_" ++ String.ofList (sectionName.toList.map Char.toUpper) ++ "_" ++
    String.ofList (key.toList.map Char.toUpper)

/-- `TryFromEnvironment`. -/
def tryFromEnvironment (settingsName name : String) (provider : SettingsProvider) :
    Option String :=
  (provider.environment.getValue (convertToEnvironmentKey settingsName name)).toOption

/-- What the loop of `FillSettings` makes of one field. -/
def readField (settingsName field : String) (provider : SettingsProvider) :
    Except Result String :=
  match provider.tryFromEnvironment settingsName field with
  | some value => .ok value
  | none => provider.configReader.readValue [settingsName, field]

/-- The loop of `FillSettings`: the last code that is not a success, and the texts. -/
def readFields (settingsName : String) (fields : List String) (provider : SettingsProvider) :
    Result × OrderedMap String String :=
  fields.foldl (fun (result, settingsMap) field =>
    match provider.readField settingsName field with
    | .ok value => (result, settingsMap.insert field value)
    | .error curResult => (curResult, settingsMap)) (.success, .empty)

/-- `FillSettings`. -/
def fillSettings {S : Type} (base : SettingsBase S) (settings : S) (provider : SettingsProvider) :
    Except CheckFailed (Result × S) :=
  let (result, settingsMap) := provider.readFields base.settingsName base.getFields
  (base.fillSettings settingsMap settings).map fun settings => (result, settings)

/-! ## The fields of one class -/

/-- A field that has no text is told with one code only. -/
theorem readField_eq_error {settingsName field : String} {provider : SettingsProvider}
    {code : Result} (h : provider.readField settingsName field = .error code) :
    code = .notFound := by
  rw [readField] at h
  split at h
  · cases h
  · rw [JsonConfigReader.readValue] at h
    split at h
    · exact (Except.error.inj h).symm
    · split at h
      · cases h
      · cases h
      · exact (Except.error.inj h).symm

/-- What the loop of `FillSettings` does, from any point of it on. -/
theorem foldl_readField (settingsName : String) (provider : SettingsProvider)
    (fields : List String) (result : Result) (settingsMap : OrderedMap String String) :
    let after := fields.foldl (fun (result, settingsMap) field =>
      match provider.readField settingsName field with
      | .ok value => (result, settingsMap.insert field value)
      | .error curResult => (curResult, settingsMap)) (result, settingsMap)
    after.1 = (if ∀ field ∈ fields, (provider.readField settingsName field).toOption.isSome
      then result else .notFound) ∧
    ∀ name, after.2.lookup name = (settingsMap.lookup name).or
      (if name ∈ fields then (provider.readField settingsName name).toOption else none) := by
  induction fields generalizing result settingsMap with
  | nil => simp
  | cons field fields ih =>
    rw [List.foldl_cons]
    cases hread : provider.readField settingsName field with
    | error code =>
      obtain rfl := readField_eq_error hread
      obtain ⟨hresult, hlookup⟩ := ih .notFound settingsMap
      have hnone : (provider.readField settingsName field).toOption = none := by
        rw [hread]
        rfl
      refine ⟨?_, fun name => ?_⟩
      · rw [ite_self] at hresult
        have hmissing : ¬ ∀ other ∈ field :: fields,
            (provider.readField settingsName other).toOption.isSome := by
          intro h
          have hsome := h field List.mem_cons_self
          rw [hnone] at hsome
          cases hsome
        rw [if_neg hmissing]
        exact hresult
      · refine (hlookup name).trans ?_
        rcases Decidable.em (name = field) with rfl | hne
        · rw [hnone, ite_self, ite_self]
        · simp only [List.mem_cons, hne, false_or]
    | ok value =>
      obtain ⟨hresult, hlookup⟩ := ih result (settingsMap.insert field value)
      have hsome : (provider.readField settingsName field).toOption = some value := by
        rw [hread]
        rfl
      refine ⟨?_, fun name => ?_⟩
      · refine hresult.trans ?_
        simp only [List.forall_mem_cons, hsome, Option.isSome_some, true_and]
      · refine (hlookup name).trans ?_
        rw [OrderedMap.lookup_insert]
        rcases Decidable.em (name = field) with rfl | hne
        · rw [if_pos rfl, if_pos List.mem_cons_self, hsome]
          cases settingsMap.lookup name <;> rfl
        · simp only [List.mem_cons, hne, if_false, false_or]

/-- `FillSettings` fills each member from the text of its field, and tells whether there was a text
for all of them. -/
theorem fillSettings_eq_ok_iff {S : Type} {base : SettingsBase S} {settings settings' : S}
    {provider : SettingsProvider} {result : Result} :
    provider.fillSettings base settings = .ok (result, settings') ↔
      (∀ field ∈ base.fields, field.FilledFrom
        (provider.readField base.settingsName field.name).toOption settings settings') ∧
      result = if ∀ field ∈ base.fields,
        (provider.readField base.settingsName field.name).toOption.isSome
          then .success else .notFound := by
  obtain ⟨hresult, hlookup⟩ := foldl_readField base.settingsName provider base.getFields .success
    .empty
  have htexts : ∀ field ∈ base.fields,
      (provider.readFields base.settingsName base.getFields).2.lookup field.name =
        (provider.readField base.settingsName field.name).toOption := by
    intro field hfield
    refine (hlookup field.name).trans ?_
    have hname : field.name ∈ base.getFields := List.mem_map_of_mem hfield
    rw [if_pos hname]
    rfl
  have hcode : (provider.readFields base.settingsName base.getFields).1 =
      if ∀ field ∈ base.fields,
        (provider.readField base.settingsName field.name).toOption.isSome
          then .success else .notFound := by
    refine hresult.trans ?_
    simp only [SettingsBase.getFields, List.forall_mem_map]
  have hfilled (after : S) : base.fillSettings
      (provider.readFields base.settingsName base.getFields).2 settings = .ok after ↔
        ∀ field ∈ base.fields, field.FilledFrom
          (provider.readField base.settingsName field.name).toOption settings after := by
    rw [SettingsBase.fillSettings_eq_ok_iff]
    exact forall₂_congr fun field hfield => by rw [htexts field hfield]
  rw [← hfilled settings', ← hcode]
  show (base.fillSettings (provider.readFields base.settingsName base.getFields).2 settings).map
    (fun settings => ((provider.readFields base.settingsName base.getFields).1, settings)) =
      .ok (result, settings') ↔ _
  cases base.fillSettings (provider.readFields base.settingsName base.getFields).2 settings with
  | error failure => simp [Except.map]
  | ok after => simp [Except.map, eq_comm, and_comm]

end SettingsProvider

end Srv

import WarehouseAccounting.Services.SettingsProvider

/-!
# The settings of a process

`main.cpp` up to the settings of the services: the command line, the environment and the file that a
process is started with, and what the services read of them.

- `Process.filled_iff_of_start`: the command line goes before the environment, and that before the
  file.
- `Process.filled_of_commandLine`: the settings of all services can be given on one command line.
-/

namespace Srv

open Ufa Ufa.Settings

/-! ## The start of the process -/

/-- What a process is started with. -/
structure Process where
  argv : List String
  /-- `std::getenv`. -/
  getenv : String → Option String
  /-- What is in a file, if it can be opened and is JSON. -/
  parseFile : String → Option Json
  /-- `was_settings.cfg` in the current folder. -/
  defaultFile : String
  /-- `json::dump`. -/
  dump : Json → String

namespace Process

/-- `HandleCommandLine`, as `main` calls it. -/
def handled (process : Process) : Result × Environment :=
  Environment.handleCommandLine process.argv (Environment.create process.getenv)

/-- `Setup`, as far as the settings go. -/
def provider (process : Process) : SettingsProvider where
  environment := process.handled.2
  configReader := JsonConfigReader.create process.parseFile process.defaultFile process.dump
    process.handled.2

/-- `main` up to the settings: a key that comes twice ends the process. -/
def start (process : Process) : Option SettingsProvider :=
  if process.handled.1 = .duplicate then none else some process.provider

/-- What is said of a key by the command line, or else by the environment. -/
def named (process : Process) (key : String) : Option String :=
  ((Environment.parameters process.argv.tail).lookup key).or (process.getenv key)

/-- The settings in the file. -/
def config (process : Process) : JsonConfigReader where
  settingMap := (process.parseFile
    ((process.named "WAS_SETTINGS_FILE").getD process.defaultFile)).getD .null
  dump := process.dump

/-- The text of a setting: what is named, or else what is in the file. -/
def textOf (process : Process) (settingsName field : String) : Option String :=
  (process.named (SettingsProvider.convertToEnvironmentKey settingsName field)).or
    (process.config.readValue [settingsName, field]).toOption

/-- The process is started unless a key of its command line comes twice. -/
theorem start_eq_some_iff {process : Process} {provider : SettingsProvider} :
    process.start = some provider ↔
      Environment.HasDistinctKeys process.argv.tail ∧ provider = process.provider := by
  have hduplicate := Environment.handleCommandLine_duplicate_iff process.argv process.getenv
  rw [start]
  split
  · rename_i hresult
    exact iff_of_false (fun h => nomatch h) fun h => hduplicate.mp hresult h.1
  · rename_i hresult
    rw [Option.some_inj, eq_comm]
    exact (and_iff_right (not_not.mp (mt hduplicate.mpr hresult))).symm

/-- What the environment of a process finds is what is named. -/
theorem getValue_handled {process : Process}
    (hdistinct : Environment.HasDistinctKeys process.argv.tail) (key : String) :
    (process.handled.2.getValue key).toOption = process.named key := by
  obtain ⟨-, hgetenv, hlookup⟩ :=
    Environment.handleCommandLine_of_distinct hdistinct process.getenv
  rw [Environment.toOption_getValue, named, handled, hlookup, hgetenv]

/-- The provider of a process finds what is named, and else what is in the file. -/
theorem toOption_readField {process : Process}
    (hdistinct : Environment.HasDistinctKeys process.argv.tail) (settingsName field : String) :
    (process.provider.readField settingsName field).toOption =
      process.textOf settingsName field := by
  have hnamed := getValue_handled hdistinct
    (SettingsProvider.convertToEnvironmentKey settingsName field)
  have hreader : process.provider.configReader = process.config := by
    show JsonConfigReader.create _ _ _ process.handled.2 = _
    rw [JsonConfigReader.create, getValue_handled hdistinct]
    rfl
  have henvironment : process.provider.environment = process.handled.2 := rfl
  rw [SettingsProvider.readField, SettingsProvider.tryFromEnvironment, hreader, henvironment,
    textOf, ← hnamed]
  cases (process.handled.2.getValue
      (SettingsProvider.convertToEnvironmentKey settingsName field)).toOption with
  | some value => rfl
  | none => rfl

/-- The settings that a started process reads: each member comes from the command line, or else the
environment, or else the file, or stays as it was; and the code tells whether one had no text. -/
theorem filled_iff_of_start {process : Process} {provider : SettingsProvider}
    (hstart : process.start = some provider) {S : Type} (base : SettingsBase S)
    (settings settings' : S) (result : Result) :
    provider.fillSettings base settings = .ok (result, settings') ↔
      (∀ field ∈ base.fields, field.FilledFrom (process.textOf base.settingsName field.name)
        settings settings') ∧
      result = if ∀ field ∈ base.fields, (process.textOf base.settingsName field.name).isSome
        then .success else .notFound := by
  obtain ⟨hdistinct, rfl⟩ := start_eq_some_iff.mp hstart
  rw [SettingsProvider.fillSettings_eq_ok_iff]
  simp only [toOption_readField hdistinct]

/-- A port on the command line, a file with three settings, and two variables. -/
def threeSources : Process where
  argv := ["was", "--WAS_SERVERSETTINGS_PORT", "10001"]
  getenv key :=
    if key = "WAS_SERVERSETTINGS_WORKERS" then some "8"
    else if key = "WAS_SERVERSETTINGS_PORT" then some "10002"
    else none
  parseFile path :=
    if path = "was_settings.cfg" then
      some (.object [("ServerSettings", .object
        [("address", .string "0.0.0.0"), ("isSecured", .boolean true), ("workers", .unsigned 4)])])
    else
      none
  defaultFile := "was_settings.cfg"
  dump json :=
    match json with
    | .boolean value => StringConverters.toStringBool value
    | .unsigned value => toString value
    | _ => "null"

/-- Each of the three is read, and the root of the documents is missed. -/
theorem filled_iff_of_start_threeSources :
    (∀ field ∈ Ws.ServerSettings.base.fields, field.FilledFrom
      (threeSources.textOf Ws.ServerSettings.base.settingsName field.name) {} {
        address := some "0.0.0.0"
        port := some 10001
        workers := some 8
        isSecured := some true }) ∧
      Result.notFound = if ∀ field ∈ Ws.ServerSettings.base.fields,
        (threeSources.textOf Ws.ServerSettings.base.settingsName field.name).isSome
          then .success else .notFound := by
  have hstart : threeSources.start = some threeSources.provider :=
    start_eq_some_iff.mpr ⟨by decide +kernel, rfl⟩
  exact (filled_iff_of_start hstart _ _ _ _).mp (by decide +kernel)

end Process

/-! ## Settings on the command line -/

namespace SettingsProvider

/-- The keys of the members of an object, and the texts of those that are there. -/
def slots {S : Type} (base : SettingsBase S) (settings : S) : List (String × Option String) :=
  base.fields.map fun field =>
    (convertToEnvironmentKey base.settingsName field.name, (field.get settings).map field.toString)

end SettingsProvider

/-- The settings of all services. -/
structure AllSettings where
  accessor : Db.AccessorSettings := {}
  tracer : Tracer.TracerSettings := {}
  documentManager : DocMgr.DocumentManagerSettings := {}
  server : Ws.ServerSettings := {}
  deriving DecidableEq, Repr

namespace AllSettings

/-- The keys of all members, and the texts of those that are there. -/
def slots (settings : AllSettings) : List (String × Option String) :=
  SettingsProvider.slots Db.AccessorSettings.base settings.accessor ++
    SettingsProvider.slots Tracer.TracerSettings.base settings.tracer ++
    SettingsProvider.slots DocMgr.DocumentManagerSettings.base settings.documentManager ++
    SettingsProvider.slots Ws.ServerSettings.base settings.server

/-- The keys that have a text, and their texts. -/
def present (slots : List (String × Option String)) : List (String × String) :=
  slots.filterMap fun slot => slot.2.map fun value => (slot.1, value)

/-- The arguments that give keys their texts. -/
def argumentsOf (slots : List (String × Option String)) : List String :=
  (present slots).flatMap fun slot => ["--" ++ slot.1, slot.2]

/-- A command line that names each member that is there. -/
def commandLine (program : String) (settings : AllSettings) : List String :=
  program :: argumentsOf settings.slots

/-- The keys of the members are different. -/
theorem nodup_keys (settings : AllSettings) : (settings.slots.map Prod.fst).Nodup := by
  have hkeys : settings.slots.map Prod.fst = (AllSettings.slots {}).map Prod.fst := rfl
  rw [hkeys]
  decide +kernel

/-- Dashes before a key of a member are skipped. -/
theorem formatKey_of_mem_keys {settings : AllSettings} {key : String}
    (h : key ∈ settings.slots.map Prod.fst) : Environment.formatKey ("--" ++ key) = key := by
  have hkeys : settings.slots.map Prod.fst = (AllSettings.slots {}).map Prod.fst := rfl
  have hall : ∀ key ∈ (AllSettings.slots {}).map Prod.fst,
      Environment.formatKey ("--" ++ key) = key := by
    decide +kernel
  exact hall key (hkeys ▸ h)

/-- The keys of those that are there are among all keys, in their order. -/
theorem keys_present_sublist (slots : List (String × Option String)) :
    ((present slots).map Prod.fst).Sublist (slots.map Prod.fst) := by
  induction slots with
  | nil => exact .slnil
  | cons slot slots ih =>
    obtain ⟨key, value⟩ := slot
    cases value with
    | none => exact ih.cons key
    | some value => exact ih.cons_cons key

/-- What is found of a key is its text, if the keys are different. -/
theorem lookup_present {slots : List (String × Option String)}
    (hnodup : (slots.map Prod.fst).Nodup) {key : String} {text : Option String}
    (hslot : (key, text) ∈ slots) : (present slots).lookup key = text := by
  induction slots with
  | nil => cases hslot
  | cons first slots ih =>
    obtain ⟨hfirst, hrest⟩ := List.nodup_cons.mp hnodup
    rcases List.mem_cons.mp hslot with rfl | hlater
    · cases text with
      | none =>
        refine OrderedMap.lookup_eq_none_of_notMem fun hmem => hfirst ?_
        exact (keys_present_sublist slots).subset hmem
      | some value => exact List.lookup_cons_self
    · obtain ⟨other, value⟩ := first
      have hne : key ≠ other := by
        rintro rfl
        exact hfirst (List.mem_map.mpr ⟨(key, text), hlater, rfl⟩)
      cases value with
      | none => exact ih hrest hlater
      | some value =>
        show List.lookup key ((other, value) :: present slots) = text
        rw [Json.lookup_cons_ite, if_neg hne, ih hrest hlater]

/-- Pairs of keys and texts are read from their arguments. -/
theorem parameters_flatMap {pairs : List (String × String)}
    (hkeys : ∀ pair ∈ pairs, Environment.formatKey ("--" ++ pair.1) = pair.1) :
    Environment.parameters (pairs.flatMap fun pair => ["--" ++ pair.1, pair.2]) = pairs := by
  induction pairs with
  | nil => rfl
  | cons pair pairs ih =>
    obtain ⟨hkey, hrest⟩ := List.forall_mem_cons.mp hkeys
    rw [List.flatMap_cons]
    show (Environment.formatKey ("--" ++ pair.1), pair.2) ::
      Environment.parameters (pairs.flatMap fun pair => ["--" ++ pair.1, pair.2]) = _
    rw [hkey, ih hrest]

/-- What is read of the command line is the members that are there. -/
theorem parameters_commandLine (program : String) (settings : AllSettings) :
    Environment.parameters (settings.commandLine program).tail = present settings.slots := by
  refine parameters_flatMap fun pair hpair => ?_
  have hkey : pair.1 ∈ settings.slots.map Prod.fst :=
    (keys_present_sublist settings.slots).subset (List.mem_map_of_mem hpair)
  exact formatKey_of_mem_keys hkey

/-- A process is started with the command line. -/
theorem hasDistinctKeys_commandLine (program : String) (settings : AllSettings) :
    Environment.HasDistinctKeys (settings.commandLine program).tail := by
  rw [Environment.HasDistinctKeys, parameters_commandLine]
  exact (nodup_keys settings).sublist (keys_present_sublist settings.slots)

end AllSettings

namespace Process

variable {S : Type}

/-- What is not in an object is not said outside of the command line. -/
def SaysNothingElse (process : Process) (base : SettingsBase S) (settings : S) : Prop :=
  ∀ field ∈ base.fields, field.get settings = none →
    process.getenv (SettingsProvider.convertToEnvironmentKey base.settingsName field.name) = none ∧
    (process.config.readValue [base.settingsName, field.name]).toOption = none

/-- The code that tells whether an object has all members. -/
def completeness (base : SettingsBase S) (settings : S) : Result :=
  if ∀ field ∈ base.fields, (field.get settings).isSome then .success else .notFound

/-- An object is read whose members have their texts on the command line. -/
theorem filled_of_slots {process : Process} {provider : SettingsProvider}
    (hstart : process.start = some provider) {base : SettingsBase S} {settings before : S}
    (hslots : ∀ slot ∈ SettingsProvider.slots base settings,
      (Environment.parameters process.argv.tail).lookup slot.1 = slot.2)
    (helse : process.SaysNothingElse base settings)
    (hbefore : ∀ field ∈ base.fields, field.get before = none) :
    provider.fillSettings base before = .ok (completeness base settings, settings) := by
  have htext : ∀ field ∈ base.fields, process.textOf base.settingsName field.name =
      (field.get settings).map field.toString := by
    intro field hfield
    have hline := hslots _ (List.mem_map_of_mem hfield)
    dsimp only at hline
    rw [textOf, named, hline]
    cases hget : field.get settings with
    | some value => rfl
    | none =>
      obtain ⟨hgetenv, hconfig⟩ := helse field hfield hget
      rw [hgetenv, hconfig]
      rfl
  refine (filled_iff_of_start hstart base before settings _).mpr ⟨fun field hfield => ?_, ?_⟩
  · rw [htext field hfield]
    cases hget : field.get settings with
    | some value => exact SettingsField.readFrom_toString hget
    | none => exact hget.trans (hbefore field hfield).symm
  · have hpresent : (∀ field ∈ base.fields, (process.textOf base.settingsName field.name).isSome) ↔
        ∀ field ∈ base.fields, (field.get settings).isSome :=
      forall₂_congr fun field hfield => by rw [htext field hfield, Option.isSome_map]
    rw [completeness]
    exact if_congr hpresent.symm rfl rfl

/-- The settings of all services can be given on one command line: each service reads its own, and
what is named there is taken whatever the environment and the file say. -/
theorem filled_of_commandLine {process : Process} {program : String} {settings : AllSettings}
    (hargv : process.argv = settings.commandLine program)
    (haccessor : process.SaysNothingElse Db.AccessorSettings.base settings.accessor)
    (htracer : process.SaysNothingElse Tracer.TracerSettings.base settings.tracer)
    (hdocumentManager : process.SaysNothingElse DocMgr.DocumentManagerSettings.base
      settings.documentManager)
    (hserver : process.SaysNothingElse Ws.ServerSettings.base settings.server) :
    ∃ provider, process.start = some provider ∧
      provider.fillSettings Db.AccessorSettings.base {} =
        .ok (completeness Db.AccessorSettings.base settings.accessor, settings.accessor) ∧
      provider.fillSettings Tracer.TracerSettings.base {} =
        .ok (completeness Tracer.TracerSettings.base settings.tracer, settings.tracer) ∧
      provider.fillSettings DocMgr.DocumentManagerSettings.base {} =
        .ok (completeness DocMgr.DocumentManagerSettings.base settings.documentManager,
          settings.documentManager) ∧
      provider.fillSettings Ws.ServerSettings.base {} =
        .ok (completeness Ws.ServerSettings.base settings.server, settings.server) := by
  have hstart : process.start = some process.provider := by
    refine start_eq_some_iff.mpr ⟨?_, rfl⟩
    rw [hargv]
    exact AllSettings.hasDistinctKeys_commandLine program settings
  have hslots : ∀ slot ∈ settings.slots,
      (Environment.parameters process.argv.tail).lookup slot.1 = slot.2 := by
    intro slot hslot
    rw [hargv, AllSettings.parameters_commandLine]
    exact AllSettings.lookup_present (AllSettings.nodup_keys settings) hslot
  refine ⟨process.provider, hstart, ?_, ?_, ?_, ?_⟩
  · refine filled_of_slots hstart (fun slot hslot => hslots slot ?_) haccessor ?_
    · simp [AllSettings.slots, hslot]
    · simp [Db.AccessorSettings.base, SettingsField.text, SettingsField.uint32, SettingsField.flag]
  · refine filled_of_slots hstart (fun slot hslot => hslots slot ?_) htracer ?_
    · simp [AllSettings.slots, hslot]
    · simp [Tracer.TracerSettings.base, SettingsField.text, SettingsField.uint32,
        Tracer.TracerSettings.level]
  · refine filled_of_slots hstart (fun slot hslot => hslots slot ?_) hdocumentManager ?_
    · simp [AllSettings.slots, hslot]
    · simp [DocMgr.DocumentManagerSettings.base, SettingsField.text]
  · refine filled_of_slots hstart (fun slot hslot => hslots slot ?_) hserver ?_
    · simp [AllSettings.slots, hslot]
    · simp [Ws.ServerSettings.base, SettingsField.text, SettingsField.int32, SettingsField.flag]

/-- The settings of the file that is shipped as an example. -/
def defaultBackSettings : AllSettings where
  accessor :=
    { dbmsAddress := some "127.0.0.1"
      dbmsDbname := some "was"
      dbmsPort := some 5432
      dbmsUser := some "postgres"
      dbmsPassword := some "defaultpassword"
      connectAttempts := some 2
      connectionCount := some 4
      shouldReinitializeDb := some true
      shouldCreateDb := some true }
  server :=
    { port := some 10000
      address := some "0.0.0.0"
      workers := some 4
      isSecured := some true }
  tracer :=
    { traceLevel := some .debug
      traceFolder := some "./logs"
      maxTraceLevelForConsole := some .info
      minMessagesToProcess := some 10
      processTimeoutMs := some 2000 }
  documentManager := { documentRoot := some "./docRoot" }

/-- A process that has these on its command line, and nothing else. -/
def defaultProcess : Process where
  argv := defaultBackSettings.commandLine "was"
  getenv _ := none
  parseFile _ := none
  defaultFile := "was_settings.cfg"
  dump _ := ""

/-- The services read what the file would say; two members are not in it. -/
theorem filled_of_commandLine_defaultProcess :
    ∃ provider, defaultProcess.start = some provider ∧
      provider.fillSettings Db.AccessorSettings.base {} =
        .ok (.notFound, defaultBackSettings.accessor) ∧
      provider.fillSettings Tracer.TracerSettings.base {} =
        .ok (.success, defaultBackSettings.tracer) ∧
      provider.fillSettings DocMgr.DocumentManagerSettings.base {} =
        .ok (.success, defaultBackSettings.documentManager) ∧
      provider.fillSettings Ws.ServerSettings.base {} =
        .ok (.notFound, defaultBackSettings.server) :=
  filled_of_commandLine (show defaultProcess.argv = defaultBackSettings.commandLine "was" from rfl)
    (fun _ _ _ => ⟨rfl, rfl⟩) (fun _ _ _ => ⟨rfl, rfl⟩) (fun _ _ _ => ⟨rfl, rfl⟩)
    fun _ _ _ => ⟨rfl, rfl⟩

end Process

end Srv

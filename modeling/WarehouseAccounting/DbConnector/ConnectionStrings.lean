import Mathlib.Data.List.Induction
import WarehouseAccounting.DbConnector.ConnectionPool
import WarehouseAccounting.Foundations.ConnInfo

/-!
# What the connection string says

`ConnectionOptions` over any calls of `SetSettings` and `GetConnectionString`, and what the client
library of the server reads in the text that it is given.

- `ConnectionOptions.run_eq`: after any calls, the options are the ones last set, and the text that
  is kept is theirs.
- `ConnectionOptions.says_connString_iff`: the texts that say what was last set.
-/

namespace Srv.Db.Conn

namespace ConnectionOptions

/-! ## Calls -/

/-- A call of `ConnectionOptions`. -/
inductive Call where
  | setSettings (settings : DBConnectorSettings)
  | getConnectionString

/-- The settings of a call, if it has any. -/
def Call.settings : Call → Option DBConnectorSettings
  | .setSettings settings => some settings
  | .getConnectionString => none

/-- The options after a call. -/
def step (options : ConnectionOptions) : Call → ConnectionOptions
  | .setSettings settings => (options.setSettings settings).2
  | .getConnectionString => options.getConnectionString.2

/-- The options after calls, on the ones of a new pool. -/
def run (calls : List Call) : ConnectionOptions :=
  calls.foldl step {}

/-- The value that calls set last, or the default one. -/
def lastSet {α : Type} (field : DBConnectorSettings → Option α) (default : α)
    (calls : List Call) : α :=
  (calls.filterMap fun call => call.settings.bind field).getLast?.getD default

/-- The options that calls set last. -/
def lastOptions (calls : List Call) : ConnectionOptions where
  address := lastSet DBConnectorSettings.dbmsAddress "127.0.0.1" calls
  port := lastSet DBConnectorSettings.dbmsPort 5432 calls
  dbname := lastSet DBConnectorSettings.dbmsDbname "postgres" calls
  user := lastSet DBConnectorSettings.dbmsUser "postgres" calls
  password := lastSet DBConnectorSettings.dbmsPassword "defaultpassword" calls

/-! ## What a text says -/

/-- The names under which options are told, with their values. -/
def assignments (options : ConnectionOptions) : List ConnInfo.Assignment :=
  [("host".toList, options.address.toList), ("dbname".toList, options.dbname.toList),
    ("port".toList, (toString options.port).toList), ("user".toList, options.user.toList),
    ("password".toList, options.password.toList)]

/-- The names of the options, all of which the client library knows. -/
def names : List (List Char) :=
  ["host".toList, "dbname".toList, "port".toList, "user".toList, "password".toList]

/-- A text says exactly these options to a client library with the given names. -/
def Says (known : List Char → Bool) (text : String) (options : ConnectionOptions) : Prop :=
  ∃ parsed, ConnInfo.parse known text.toList = some parsed ∧
    ∀ name, ConnInfo.setting parsed name = options.assignments.lookup name

/-- A value that means itself where it is written down as it is. -/
structure Unquoted (value : String) : Prop where
  plain : ConnInfo.Plain value.toList
  noNul : '\x00' ∉ value.toList

/-- The options that `GetConnectionString` can tell: none of the values needs quotes. -/
structure Tellable (options : ConnectionOptions) : Prop where
  address : Unquoted options.address ∧ options.address ≠ ""
  dbname : Unquoted options.dbname ∧ options.dbname ≠ ""
  user : Unquoted options.user ∧ options.user ≠ ""
  password : Unquoted options.password

/-! ## The options after calls -/

/-- One more call sets a value, or leaves the one that was set before it. -/
theorem lastSet_concat {α : Type} (field : DBConnectorSettings → Option α) (default : α)
    (calls : List Call) (call : Call) :
    lastSet field default (calls ++ [call]) =
      (call.settings.bind field).getD (lastSet field default calls) := by
  unfold lastSet
  rw [List.filterMap_append, List.filterMap_cons, List.filterMap_nil]
  cases hfield : call.settings.bind field with
  | none => rw [List.append_nil, Option.getD_none]
  | some value => rw [List.getLast?_concat, Option.getD_some, Option.getD_some]

/-- Settings without a value for the connection set nothing. -/
theorem setSettings_eq (settings : DBConnectorSettings) (options : ConnectionOptions) :
    (options.setSettings settings).2 =
      { address := settings.dbmsAddress.getD options.address
        port := settings.dbmsPort.getD options.port
        dbname := settings.dbmsDbname.getD options.dbname
        user := settings.dbmsUser.getD options.user
        password := settings.dbmsPassword.getD options.password
        cachedString := if settings.changesConnection then "" else options.cachedString } := by
  unfold setSettings
  cases hchanges : settings.changesConnection with
  | true => rfl
  | false =>
    simp only [DBConnectorSettings.changesConnection, Bool.or_eq_false_iff,
      Option.isSome_eq_false_iff, Option.isNone_iff_eq_none] at hchanges
    obtain ⟨⟨⟨⟨haddress, hport⟩, hdbname⟩, huser⟩, hpassword⟩ := hchanges
    rw [haddress, hport, hdbname, huser, hpassword]
    rfl

/-- A call keeps no text but the one of the options it leaves. -/
theorem KeepsOwnText.step {options : ConnectionOptions} (h : options.KeepsOwnText) (call : Call) :
    (options.step call).KeepsOwnText := by
  cases call with
  | setSettings settings =>
    unfold ConnectionOptions.step
    dsimp only
    unfold setSettings
    split
    · exact .inl rfl
    · exact h
  | getConnectionString =>
    show options.getConnectionString.2.KeepsOwnText
    unfold ConnectionOptions.getConnectionString
    split
    · exact .inr rfl
    · exact h

/-- After any calls, the options are the ones that were last set, and the text that is kept, if
any, is theirs. -/
theorem run_eq (calls : List Call) :
    { run calls with cachedString := "" } = lastOptions calls ∧ (run calls).KeepsOwnText := by
  induction calls using List.reverseRecOn with
  | nil => exact ⟨rfl, .inl rfl⟩
  | append_singleton calls call ih =>
    obtain ⟨hoptions, hkeeps⟩ := ih
    have hstep : run (calls ++ [call]) = (run calls).step call := List.foldl_concat ..
    rw [hstep]
    refine ⟨?_, hkeeps.step call⟩
    have haddress : (run calls).address = (lastOptions calls).address := by rw [← hoptions]
    have hport : (run calls).port = (lastOptions calls).port := by rw [← hoptions]
    have hdbname : (run calls).dbname = (lastOptions calls).dbname := by rw [← hoptions]
    have huser : (run calls).user = (lastOptions calls).user := by rw [← hoptions]
    have hpassword : (run calls).password = (lastOptions calls).password := by rw [← hoptions]
    simp only [lastOptions, lastSet_concat]
    cases call with
    | setSettings settings =>
      simp only [step, setSettings_eq, haddress, hport, hdbname, huser, hpassword]
      rfl
    | getConnectionString =>
      have hkept : ∀ options : ConnectionOptions,
          { options.getConnectionString.2 with cachedString := "" } =
            { options with cachedString := "" } := by
        intro options
        unfold getConnectionString
        split <;> rfl
      exact (hkept _).trans hoptions

/-- The text that is handed out after any calls is the one of the options that were last set. -/
theorem getConnectionString_run (calls : List Call) :
    (run calls).getConnectionString.1 = (lastOptions calls).connString := by
  obtain ⟨hoptions, hkeeps⟩ := run_eq calls
  have hsame : (run calls).connString = (lastOptions calls).connString := by
    rw [← hoptions]
    rfl
  rw [← hsame]
  exact hkeeps.getConnectionString

/-! ## What the text says -/

/-- The text holds the values as they are. -/
theorem toList_connString (options : ConnectionOptions) :
    options.connString.toList = ConnInfo.write options.assignments := by
  have hspace : " ".toList = [' '] := by decide
  have hhost : "host=".toList = "host".toList ++ ['='] := by decide
  have hdbname : "dbname=".toList = "dbname".toList ++ ['='] := by decide
  have hport : "port=".toList = "port".toList ++ ['='] := by decide
  have huser : "user=".toList = "user".toList ++ ['='] := by decide
  have hpassword : "password=".toList = "password".toList ++ ['='] := by decide
  unfold connString assignments
  rw [ConnInfo.write_cons_cons, ConnInfo.write_cons_cons, ConnInfo.write_cons_cons,
    ConnInfo.write_cons_cons, ConnInfo.write_singleton]
  simp only [String.toList_append]
  rw [hspace, hhost, hdbname, hport, huser, hpassword]
  simp only [List.append_assoc, List.cons_append, List.nil_append]

/-- The characters of a port are digits. -/
theorem isDigit_port {port : UInt32} {c : Char} (hc : c ∈ (toString port).toList) :
    c.isDigit = true := by
  have hdigits : (toString port).toList = Nat.toDigits 10 port.toNat := Nat.toList_repr
  rw [hdigits] at hc
  exact Nat.isDigit_of_mem_toDigits (by decide) (by decide) hc

/-- A port is never empty. -/
theorem port_ne_empty (port : UInt32) : (toString port).toList ≠ [] := by
  have hdigits : (toString port).toList = Nat.toDigits 10 port.toNat := Nat.toList_repr
  rw [hdigits]
  exact Nat.toDigits_ne_nil

/-- The port needs no quotes. -/
theorem unquoted_port (port : UInt32) : Unquoted (toString port) := by
  have hother : ∀ c, c.isDigit = false → c ∉ (toString port).toList := by
    intro c hdigit hmem
    rw [isDigit_port hmem] at hdigit
    cases hdigit
  refine ⟨⟨fun c hc => ⟨?_, ?_⟩, fun hquote => ?_⟩, hother _ (by decide)⟩
  · -- No space is a digit.
    by_contra hspace
    simp only [ConnInfo.isSpace, Bool.not_eq_false, Bool.or_eq_true, decide_eq_true_eq] at hspace
    rcases hspace with ((((rfl | rfl) | rfl) | rfl) | rfl) | rfl <;>
      exact hother _ (by decide) hc
  · rintro rfl
    exact hother _ (by decide) hc
  · exact hother '\'' (by decide) (List.mem_of_head? hquote)

/-- The names of the options are names. -/
theorem named_assignments {known : List Char → Bool} (hknown : ∀ name ∈ names, known name = true)
    (options : ConnectionOptions) : ConnInfo.Named known options.assignments where
  known assignment hmem := hknown _ (List.mem_map_of_mem (f := Prod.fst) hmem)
  plain assignment hmem := by
    have hnames : ∀ name ∈ names, name ≠ [] ∧ ∀ c ∈ name, ConnInfo.isNameChar c = true := by
      simp [names, ConnInfo.isNameChar, ConnInfo.isSpace]
    exact hnames _ (List.mem_map_of_mem (f := Prod.fst) hmem)
  nodup := by
    show names.Nodup
    decide

/-- The text of options has a NUL in it exactly when one of the values has. -/
theorem nul_mem_write (options : ConnectionOptions) :
    '\x00' ∉ ConnInfo.write options.assignments ↔
      '\x00' ∉ options.address.toList ∧ '\x00' ∉ options.dbname.toList ∧
        '\x00' ∉ options.user.toList ∧ '\x00' ∉ options.password.toList := by
  have hnames : ∀ name ∈ names, '\x00' ∉ name := by decide
  simp only [names, List.forall_mem_cons] at hnames
  obtain ⟨hhost, hdbname, hport, huser, hpassword, -⟩ := hnames
  have hnumber := (unquoted_port options.port).noNul
  have hsign : ('\x00' : Char) ≠ '=' := by decide
  have hspace : ('\x00' : Char) ≠ ' ' := by decide
  unfold assignments
  simp only [ConnInfo.write_cons_cons, ConnInfo.write_singleton, List.mem_append, List.mem_cons,
    hhost, hdbname, hport, huser, hpassword, hnumber, hsign, hspace, false_or, not_or]

/-- Options are told by their text exactly when none of the values needs quotes, and only the
password is empty. -/
theorem says_connString_iff {known : List Char → Bool}
    (hknown : ∀ name ∈ names, known name = true) (options : ConnectionOptions) :
    Says known options.connString options ↔ options.Tellable := by
  have hne : options.assignments ≠ [] := List.cons_ne_nil _ _
  have hplain : (∀ assignment ∈ options.assignments, ConnInfo.Plain assignment.2) ↔
      ConnInfo.Plain options.address.toList ∧ ConnInfo.Plain options.dbname.toList ∧
        ConnInfo.Plain options.user.toList ∧ ConnInfo.Plain options.password.toList := by
    have hport := (unquoted_port options.port).plain
    simp [assignments, hport]
  have hnonempty : (∀ assignment ∈ options.assignments.dropLast, assignment.2 ≠ []) ↔
      options.address ≠ "" ∧ options.dbname ≠ "" ∧ options.user ≠ "" := by
    have hport := port_ne_empty options.port
    have hempty : ∀ value : String, value.toList = [] ↔ value = "" := fun _ =>
      String.toList_eq_nil_iff
    simp [assignments, hport, hempty]
  unfold Says
  rw [toList_connString, ConnInfo.read_write (named_assignments hknown options) hne,
    nul_mem_write, hplain, hnonempty]
  constructor
  · rintro ⟨⟨naddress, ndbname, nuser, npassword⟩, ⟨paddress, pdbname, puser, ppassword⟩,
      eaddress, edbname, euser⟩
    exact ⟨⟨⟨paddress, naddress⟩, eaddress⟩, ⟨⟨pdbname, ndbname⟩, edbname⟩,
      ⟨⟨puser, nuser⟩, euser⟩, ⟨ppassword, npassword⟩⟩
  · rintro ⟨⟨address, eaddress⟩, ⟨dbname, edbname⟩, ⟨user, euser⟩, password⟩
    exact ⟨⟨address.noNul, dbname.noNul, user.noNul, password.noNul⟩,
      ⟨address.plain, dbname.plain, user.plain, password.plain⟩, eaddress, edbname, euser⟩

/-- What `GetConnectionString` hands out after any calls says exactly the options that were last
set, to a client library that knows their names, if and only if none of their values needs quotes
and only the password is empty. -/
theorem says_lastOptions_iff {known : List Char → Bool}
    (hknown : ∀ name ∈ names, known name = true) (calls : List Call) :
    Says known (run calls).getConnectionString.1 (lastOptions calls) ↔
      (lastOptions calls).Tellable := by
  rw [getConnectionString_run]
  exact says_connString_iff hknown _

/-- A client library that knows the names of the options. -/
def clientLibrary (name : List Char) : Bool :=
  names.contains name

/-- The calls of a deployment that has no password. -/
def deployment : List Call :=
  [.getConnectionString,
    .setSettings
      { dbmsAddress := some "10.0.0.5", dbmsUser := some "was", dbmsPassword := some "" },
    .getConnectionString, .setSettings { dbmsDbname := some "warehouse" }]

/-- Plain values are told, whatever was told before. -/
theorem says_deployment :
    Says clientLibrary (run deployment).getConnectionString.1 (lastOptions deployment) := by
  have hunquoted : ∀ value ∈ ["10.0.0.5", "was", "", "warehouse"], Unquoted value := by
    intro value hvalue
    have hchars : ∀ value ∈ ["10.0.0.5", "was", "", "warehouse"],
        (∀ c ∈ value.toList, ConnInfo.isSpace c = false ∧ c ≠ '\\') ∧
          value.toList.head? ≠ some '\'' ∧ '\x00' ∉ value.toList := by
      simp [ConnInfo.isSpace]
    obtain ⟨hplain, hquote, hnul⟩ := hchars value hvalue
    exact ⟨⟨hplain, hquote⟩, hnul⟩
  refine (says_lastOptions_iff (by simp [clientLibrary]) deployment).mpr ?_
  exact ⟨⟨hunquoted _ (by decide), by decide⟩, ⟨hunquoted _ (by decide), by decide⟩,
    ⟨hunquoted _ (by decide), by decide⟩, hunquoted _ (by decide)⟩

/-- A password with a space in it is not told. -/
theorem not_says_password :
    ¬ ∀ (known : List Char → Bool) (calls : List Call), (∀ name ∈ names, known name = true) →
      Says known (run calls).getConnectionString.1 (lastOptions calls) := by
  intro h
  have hread := h clientLibrary [.setSettings { dbmsPassword := some "correct horse" }]
    (by simp [clientLibrary])
  rw [getConnectionString_run, says_connString_iff (by simp [clientLibrary])] at hread
  have hspace := (hread.password.plain.chars ' ' (by decide)).1
  exact absurd hspace (by decide)

end ConnectionOptions

end Srv.Db.Conn

import Mathlib.Data.List.Nodup
import Mathlib.Data.String.Basic
import WarehouseAccounting.Foundations.Exceptions
import WarehouseAccounting.Foundations.OrderedMap
import WarehouseAccounting.StringConverters

/-!
# Settings

`settings.h` and `settings_detail.h` of `instrumental`: an object of optional members that is filled
from texts by the names of the members, and printed as texts.

- `SettingsBase.fillSettings_isOk_iff`: when the texts can be read.
- `SettingsBase.fillSettings_eq_ok_iff`: what an object is filled to.
- `SettingsField.readFrom_toString`: what is printed of a member is read as it.
-/

namespace StringConverters

open NumberPrefix

/-- `FromString<int>`, which is `std::stoi`. -/
def fromStringInt32 (text : String) : Except Ufa.CheckFailed Int32 :=
  match NumberPrefix.read isSpace text.toList with
  | none => .error ⟨"stoi: no conversion"⟩
  | some number =>
    if -2147483648 ≤ value number ∧ value number ≤ 2147483647 then
      .ok (Int32.ofInt (value number))
    else
      .error ⟨"stoi: out of range"⟩

/-- `FromString<bool>`: what begins with `t`. -/
def fromStringBool (text : String) : Except Ufa.CheckFailed Bool :=
  .ok (text.toList.head? = some 't')

/-- `ToString` of a `bool`. -/
def toStringBool (value : Bool) : String :=
  if value then "true" else "false"

/-- A flag that was written is read. -/
theorem fromStringBool_toStringBool (value : Bool) :
    fromStringBool (toStringBool value) = .ok value := by
  cases value <;> rfl

/-- A number that was written is read. -/
theorem fromStringUInt32_toString (number : UInt32) :
    fromStringUInt32 (toString number) = .ok number := by
  have htext : toString number = toString number.toUInt64 := by
    show (toString number.toNat) = toString number.toUInt64.toNat
    rw [UInt32.toNat_toUInt64]
  rw [fromStringUInt32, htext, fromStringUInt64_toString]
  simp [Except.map]

/-- The text of an integer begins with a number of its value. -/
theorem exists_read_toString (number : Int) :
    ∃ parsed, NumberPrefix.read isSpace (toString number).toList = some parsed ∧
      value parsed = number := by
  have hdigits (magnitude : Nat) : ∀ digit ∈ Nat.toDigits 10 magnitude, digit.isDigit = true :=
    fun _ hdigit => Nat.isDigit_of_mem_toDigits (by decide) (by decide) hdigit
  rw [Int.toString_eq_repr, Int.repr_eq_if]
  split
  · rename_i hsign
    have hread := read_digits separates_isSpace .missing Nat.toDigits_ne_nil (hdigits number.toNat)
    refine ⟨_, by rw [Nat.toList_repr]; exact hread, ?_⟩
    show ((Nat.ofDigitChars 10 (Nat.toDigits 10 number.toNat) 0 : Nat) : Int) = number
    rw [Nat.ofDigitChars_ten_toDigits]
    omega
  · rename_i hsign
    have hread := read_digits separates_isSpace .minus Nat.toDigits_ne_nil (hdigits (-number).toNat)
    refine ⟨_, by rw [String.toList_append, Nat.toList_repr]; exact hread, ?_⟩
    show -((Nat.ofDigitChars 10 (Nat.toDigits 10 (-number).toNat) 0 : Nat) : Int) = number
    rw [Nat.ofDigitChars_ten_toDigits]
    omega

/-- A number with a sign that was written is read. -/
theorem fromStringInt32_toString (number : Int32) :
    fromStringInt32 (toString number) = .ok number := by
  obtain ⟨parsed, hparsed, hvalue⟩ := exists_read_toString number.toInt
  have hminimum : -2147483648 ≤ number.toInt := number.minValue_le_toInt
  have hmaximum : number.toInt ≤ 2147483647 := number.toInt_le
  have htext : toString number = toString number.toInt := rfl
  rw [fromStringInt32, htext, hparsed]
  dsimp only
  rw [hvalue, if_pos ⟨hminimum, hmaximum⟩, Int32.ofInt_toInt]

end StringConverters

namespace Ufa.Settings

/-- A member of a settings class, with the converters that `SETTINGS_INIT_FIELD` takes for it. -/
structure SettingsField (S : Type) where
  name : String
  /-- The type of the member. -/
  Value : Type
  get : S → Option Value
  set : Value → S → S
  fromString : String → Except CheckFailed Value
  toString : Value → String
  get_set (value : Value) (settings : S) : get (set value settings) = some value
  fromString_toString (value : Value) : fromString (toString value) = .ok value

/-- A settings class. -/
structure SettingsBase (S : Type) where
  /-- `GetSettingsName`. -/
  settingsName : String
  /-- The members in the order in which the constructor adds them. -/
  fields : List (SettingsField S)
  nodup_names : (fields.map SettingsField.name).Nodup
  /-- A member that is set leaves the others as they are. -/
  get_set_of_ne : ∀ field ∈ fields, ∀ other ∈ fields, other.name ≠ field.name →
    ∀ (value : field.Value) (settings : S),
      other.get (field.set value settings) = other.get settings
  /-- An object is its members. -/
  ext : ∀ settings settings' : S, (∀ field ∈ fields, field.get settings = field.get settings') →
    settings = settings'

namespace SettingsField

variable {S : Type}

/-- The assignment of the filler of a member. -/
def fill (field : SettingsField S) (value : String) (settings : S) : Except CheckFailed S :=
  (field.fromString value).map fun value => field.set value settings

/-- The member is what the text is read as. -/
def ReadFrom (field : SettingsField S) (text : String) (settings : S) : Prop :=
  ∃ value, field.fromString text = .ok value ∧ field.get settings = some value

/-- The member is read from the text, and is as it was without one. -/
def FilledFrom (field : SettingsField S) (text : Option String) (settings settings' : S) : Prop :=
  match text with
  | some text => field.ReadFrom text settings'
  | none => field.get settings' = field.get settings

/-- A member that is filled is what the text is read as. -/
theorem readFrom_of_fill {field : SettingsField S} {text : String} {settings settings' : S}
    (h : field.fill text settings = .ok settings') : field.ReadFrom text settings' := by
  rw [fill] at h
  cases hread : field.fromString text with
  | error failure =>
    rw [hread] at h
    cases h
  | ok value =>
    rw [hread] at h
    cases h
    exact ⟨value, hread, field.get_set value settings⟩

/-- A member is filled when its text can be read. -/
theorem fill_isOk_iff {field : SettingsField S} {text : String} {settings : S} :
    (∃ settings', field.fill text settings = .ok settings') ↔
      ∃ value, field.fromString text = .ok value := by
  rw [fill]
  cases field.fromString text with
  | error failure => simp [Except.map]
  | ok value => simp [Except.map]

/-- A text says what the member is. -/
theorem FilledFrom.get_eq {field : SettingsField S} {text : Option String}
    {settings first second : S}
    (hfirst : field.FilledFrom text settings first)
    (hsecond : field.FilledFrom text settings second) : field.get first = field.get second := by
  cases text with
  | none => exact Eq.trans hfirst hsecond.symm
  | some text =>
    obtain ⟨value, hvalue, hget⟩ := hfirst
    obtain ⟨value', hvalue', hget'⟩ := hsecond
    rw [hget, hget', Except.ok.inj (hvalue.symm.trans hvalue')]

/-- What is printed of a member is read as it. -/
theorem readFrom_toString {field : SettingsField S} {value : field.Value} {settings : S}
    (h : field.get settings = some value) : field.ReadFrom (field.toString value) settings :=
  ⟨value, field.fromString_toString value, h⟩

/-! ### The types of the members -/

/-- A `std::string`. -/
def text (name : String) (get : S → Option String) (set : String → S → S)
    (get_set : ∀ value settings, get (set value settings) = some value) : SettingsField S where
  name
  Value := String
  get
  set
  fromString := .ok
  toString := id
  get_set
  fromString_toString _ := rfl

/-- A `uint32_t`. -/
def uint32 (name : String) (get : S → Option UInt32) (set : UInt32 → S → S)
    (get_set : ∀ value settings, get (set value settings) = some value) : SettingsField S where
  name
  Value := UInt32
  get
  set
  fromString := StringConverters.fromStringUInt32
  toString := ToString.toString
  get_set
  fromString_toString := StringConverters.fromStringUInt32_toString

/-- An `int`. -/
def int32 (name : String) (get : S → Option Int32) (set : Int32 → S → S)
    (get_set : ∀ value settings, get (set value settings) = some value) : SettingsField S where
  name
  Value := Int32
  get
  set
  fromString := StringConverters.fromStringInt32
  toString := ToString.toString
  get_set
  fromString_toString := StringConverters.fromStringInt32_toString

/-- A `bool`. -/
def flag (name : String) (get : S → Option Bool) (set : Bool → S → S)
    (get_set : ∀ value settings, get (set value settings) = some value) : SettingsField S where
  name
  Value := Bool
  get
  set
  fromString := StringConverters.fromStringBool
  toString := StringConverters.toStringBool
  get_set
  fromString_toString := StringConverters.fromStringBool_toStringBool

end SettingsField

namespace SettingsBase

variable {S : Type} (base : SettingsBase S)

/-- `GetFields`. -/
def getFields : List String := base.fields.map SettingsField.name

/-- The loop over the fillers: the first member of the name is filled. -/
def fillNamed (name value : String) (settings : S) : Except CheckFailed S :=
  match base.fields.find? fun field => field.name = name with
  | some field => field.fill value settings
  | none => .ok settings

/-- `FillSettings`. -/
def fillSettings (values : OrderedMap String String) (settings : S) : Except CheckFailed S :=
  values.entries.foldlM (fun settings entry => base.fillNamed entry.1 entry.2 settings) settings

variable {base}

/-- The filler of a name is that of its member. -/
theorem fillNamed_of_mem {field : SettingsField S} (hmem : field ∈ base.fields) (value : String)
    (settings : S) : base.fillNamed field.name value settings = field.fill value settings := by
  have hfound : (base.fields.find? fun other => other.name = field.name) = some field := by
    have hsome : (base.fields.find? fun other => other.name = field.name).isSome :=
      List.find?_isSome.mpr ⟨field, hmem, decide_eq_true rfl⟩
    obtain ⟨other, hother⟩ := Option.isSome_iff_exists.mp hsome
    have hsame : other.name = field.name := by simpa using List.find?_some hother
    rw [hother, List.inj_on_of_nodup_map base.nodup_names (List.mem_of_find?_eq_some hother) hmem
      hsame]
  rw [fillNamed, hfound]

/-- The name is of no member. -/
theorem fillNamed_of_notMem {name : String} (hname : name ∉ base.getFields) (value : String)
    (settings : S) : base.fillNamed name value settings = .ok settings := by
  have hnone : (base.fields.find? fun field => field.name = name) = none := by
    refine List.find?_eq_none.mpr fun field hfield hsame => hname ?_
    rw [← of_decide_eq_true hsame]
    exact List.mem_map_of_mem hfield
  rw [fillNamed, hnone]

/-- What a filler does to a member: it is read from the text if the name is its own. -/
theorem get_of_fillNamed {name text : String} {settings settings' : S}
    (h : base.fillNamed name text settings = .ok settings') {field : SettingsField S}
    (hmem : field ∈ base.fields) :
    if field.name = name then field.ReadFrom text settings'
    else field.get settings' = field.get settings := by
  split
  · rename_i hname
    rw [← hname, fillNamed_of_mem hmem] at h
    exact SettingsField.readFrom_of_fill h
  · rename_i hname
    rcases Decidable.em (name ∈ base.getFields) with hfield | hfield
    · -- Another member is set.
      obtain ⟨other, hother, rfl⟩ := List.mem_map.mp hfield
      rw [fillNamed_of_mem hother, SettingsField.fill] at h
      cases hread : other.fromString text with
      | error failure =>
        rw [hread] at h
        cases h
      | ok value =>
        rw [hread] at h
        cases h
        exact base.get_set_of_ne other hother field hmem hname value settings
    · rw [fillNamed_of_notMem hfield] at h
      cases h
      rfl

/-- The texts that are filled in can be read. -/
def Readable (base : SettingsBase S) (texts : String → Option String) : Prop :=
  ∀ field ∈ base.fields, ∀ text, texts field.name = some text →
    ∃ value, field.fromString text = .ok value

/-- Filling with one entry after the other: each member is read from the text of its name. -/
theorem get_of_foldlM {entries : List (String × String)}
    (hnodup : (entries.map Prod.fst).Nodup) {settings settings' : S}
    (h : entries.foldlM (fun settings entry => base.fillNamed entry.1 entry.2 settings) settings =
      .ok settings') {field : SettingsField S} (hmem : field ∈ base.fields) :
    field.FilledFrom (entries.lookup field.name) settings settings' := by
  induction entries generalizing settings with
  | nil =>
    cases h
    rfl
  | cons entry entries ih =>
    obtain ⟨name, text⟩ := entry
    obtain ⟨hname, hnodup⟩ := List.nodup_cons.mp hnodup
    rw [List.foldlM_cons] at h
    obtain ⟨between, hfirst, hrest⟩ := Exceptions.bind_eq_ok_iff.mp h
    have hbetween := get_of_fillNamed hfirst hmem
    have hlater := ih hnodup hrest
    rw [Json.lookup_cons_ite]
    split at hbetween
    · -- The name does not come again.
      rename_i hsame
      have hnone : entries.lookup field.name = none :=
        OrderedMap.lookup_eq_none_of_notMem (hsame ▸ hname)
      rw [hnone] at hlater
      obtain ⟨value, hvalue, hget⟩ := hbetween
      rw [if_pos hsame]
      exact ⟨value, hvalue, hlater.trans hget⟩
    · rename_i hne
      rw [if_neg hne]
      cases htext : entries.lookup field.name with
      | some text =>
        rw [htext] at hlater
        exact hlater
      | none =>
        rw [htext] at hlater
        exact hlater.trans hbetween

/-- Filling with one entry after the other goes through when each text can be read. -/
theorem foldlM_isOk_iff {entries : List (String × String)}
    (hnodup : (entries.map Prod.fst).Nodup) {settings : S} :
    (∃ settings', entries.foldlM
        (fun settings entry => base.fillNamed entry.1 entry.2 settings) settings = .ok settings') ↔
      base.Readable fun name => entries.lookup name := by
  induction entries generalizing settings with
  | nil =>
    refine iff_of_true ⟨settings, rfl⟩ fun field hfield text htext => ?_
    cases htext
  | cons entry entries ih =>
    obtain ⟨name, text⟩ := entry
    obtain ⟨hname, hnodup⟩ := List.nodup_cons.mp hnodup
    have hnone : entries.lookup name = none := OrderedMap.lookup_eq_none_of_notMem hname
    have hstep : (∃ between, base.fillNamed name text settings = .ok between) ↔
        ∀ field ∈ base.fields, field.name = name → ∃ value, field.fromString text = .ok value := by
      constructor
      · rintro ⟨between, hbetween⟩ field hfield rfl
        rw [fillNamed_of_mem hfield] at hbetween
        exact SettingsField.fill_isOk_iff.mp ⟨between, hbetween⟩
      · intro hread
        rcases Decidable.em (name ∈ base.getFields) with hfield | hfield
        · obtain ⟨field, hmem, rfl⟩ := List.mem_map.mp hfield
          rw [fillNamed_of_mem hmem]
          exact SettingsField.fill_isOk_iff.mpr (hread field hmem rfl)
        · exact ⟨settings, fillNamed_of_notMem hfield text settings⟩
    constructor
    · rintro ⟨settings', h⟩ field hfield fieldText htext
      rw [List.foldlM_cons] at h
      obtain ⟨between, hfirst, hrest⟩ := Exceptions.bind_eq_ok_iff.mp h
      replace htext : ((name, text) :: entries).lookup field.name = some fieldText := htext
      rw [Json.lookup_cons_ite] at htext
      split at htext
      · rename_i hsame
        cases htext
        exact hstep.mp ⟨between, hfirst⟩ field hfield hsame
      · exact (ih hnodup).mp ⟨settings', hrest⟩ field hfield fieldText htext
    · intro hreadable
      have hfirst : ∃ between, base.fillNamed name text settings = .ok between := by
        refine hstep.mpr fun field hfield hsame => hreadable field hfield text ?_
        show ((name, text) :: entries).lookup field.name = some text
        rw [Json.lookup_cons_ite, if_pos hsame]
      obtain ⟨between, hbetween⟩ := hfirst
      have hrest : base.Readable fun name => entries.lookup name := by
        intro field hfield fieldText htext
        refine hreadable field hfield fieldText ?_
        replace htext : entries.lookup field.name = some fieldText := htext
        show ((name, text) :: entries).lookup field.name = some fieldText
        have hne : field.name ≠ name := by
          intro hsame
          rw [hsame, hnone] at htext
          cases htext
        rw [Json.lookup_cons_ite, if_neg hne]
        exact htext
      obtain ⟨settings', hsettings⟩ := (ih hnodup).mpr hrest
      refine ⟨settings', ?_⟩
      rw [List.foldlM_cons]
      exact Exceptions.bind_eq_ok_iff.mpr ⟨between, hbetween, hsettings⟩

/-- Filling goes through when the texts of the members can be read. -/
theorem fillSettings_isOk_iff {values : OrderedMap String String} {settings : S} :
    (∃ settings', base.fillSettings values settings = .ok settings') ↔
      base.Readable fun name => values.lookup name :=
  foldlM_isOk_iff values.nodup_keys

/-- A member is read from the text of its name, and is as it was where there is none. -/
theorem get_of_fillSettings {values : OrderedMap String String} {settings settings' : S}
    (h : base.fillSettings values settings = .ok settings') {field : SettingsField S}
    (hmem : field ∈ base.fields) :
    field.FilledFrom (values.lookup field.name) settings settings' :=
  get_of_foldlM values.nodup_keys h hmem

/-- What an object is filled to is said by the texts, if they can be read. -/
theorem fillSettings_eq_ok_iff {values : OrderedMap String String} {settings settings' : S} :
    base.fillSettings values settings = .ok settings' ↔
      ∀ field ∈ base.fields, field.FilledFrom (values.lookup field.name) settings settings' := by
  constructor
  · exact fun h field hfield => get_of_fillSettings h hfield
  · intro hfilled
    have hreadable : base.Readable fun name => values.lookup name := by
      intro field hfield text htext
      have hread := hfilled field hfield
      replace htext : values.lookup field.name = some text := htext
      rw [htext] at hread
      obtain ⟨value, hvalue, -⟩ := hread
      exact ⟨value, hvalue⟩
    obtain ⟨after, hafter⟩ := fillSettings_isOk_iff.mpr hreadable
    rw [hafter, base.ext after settings' fun field hfield =>
      (get_of_fillSettings hafter hfield).get_eq (hfilled field hfield)]

end SettingsBase

end Ufa.Settings

import WarehouseAccounting.Foundations.Calendar
import WarehouseAccounting.Foundations.MachineIntegers
import WarehouseAccounting.StringConverters

/-!
# The date provider

`date_provider.cpp`: timestamps as ISO texts and back. `gmtime` and `mktime` are those of the
calendar, and the local time is ahead of UTC by a fixed number of seconds. Texts are lists of
bytes, each of them as a character.

- `Srv.Date.survives_iff`: the timestamps that survive the ISO form.
- `Srv.Date.acceptsOnlyIso_iff`: the texts of which only ISO times are accepted.
-/

namespace Srv.Date

open Ufa StringConverters Calendar

/-- `DateProvider`, as far as the conversions read it. -/
structure DateProvider where
  /-- `m_fromIsoOffset`. -/
  fromIsoOffset : UInt64 := 0
  deriving DecidableEq, Repr

/-! ## Writing -/

/-- Two digits, with zeros before them. -/
def twoDigits (number : Nat) : List Char :=
  [Nat.digitChar (number / 10 % 10), Nat.digitChar (number % 10)]

/-- Four digits, with zeros before them. -/
def fourDigits (number : Nat) : List Char :=
  twoDigits (number / 100) ++ twoDigits (number % 100)

/-- `strftime` with the format `%F'T'%T`. -/
def strftime (time : Time) : List Char :=
  fourDigits time.year.toNat ++ ['-'] ++ twoDigits time.month ++ ['-'] ++ twoDigits time.day ++
    ['\'', 'T', '\''] ++ twoDigits time.hour ++ [':'] ++ twoDigits time.minute ++ [':'] ++
      twoDigits time.second

/-- `DateProvider::ToIsoTimeString`. The nanoseconds are signed, and the cut to seconds is towards
zero. -/
def toIsoTimeString (timestamp : UInt64) : List Char :=
  strftime (ofSeconds (timestamp.toInt64.toInt.tdiv 1000000000))

/-- `DateProvider::GetTimeString`, of the nanoseconds that `GetDuration` returns. -/
def getTimeString (duration : Nat) : List Char :=
  twoDigits (duration / 3600000000000 % 24) ++ [':'] ++ twoDigits (duration / 60000000000 % 60) ++
    [':'] ++ twoDigits (duration / 1000000000 % 60) ++ ['.'] ++
      (fourDigits (duration / 1000 % 1000000 / 100) ++ twoDigits (duration / 1000 % 1000000 % 100))

/-! ## Reading -/

/-- `FromString<uint32_t>` of a part of the text. -/
def fieldAt (timeString : List Char) (first count : Nat) : Option UInt32 :=
  (fromStringUInt32 (String.ofList ((timeString.drop first).take count))).toOption

/-- What `FromIsoTimeString` reads before it calls `mktime`, unless a check or a conversion
fails. -/
def readTime (timeString : List Char) : Option Time :=
  if timeString.length = 21 ∧ timeString[4]? = some '-' ∧ timeString[7]? = some '-' ∧
      timeString[10]? = some '\'' ∧ timeString[11]? = some 'T' ∧ timeString[12]? = some '\'' ∧
      timeString[15]? = some ':' ∧ timeString[18]? = some ':' then do
    let years ← fieldAt timeString 0 4
    let monthes ← fieldAt timeString 5 2
    let days ← fieldAt timeString 8 2
    let hours ← fieldAt timeString 13 2
    let minutes ← fieldAt timeString 16 2
    let seconds ← fieldAt timeString 19 2
    if 0 < monthes ∧ monthes ≤ 12 ∧ 0 < days ∧ days ≤ 31 ∧ hours < 24 ∧ 0 < minutes ∧
        minutes ≤ 60 ∧ 0 < seconds ∧ seconds ≤ 60 then
      -- The year wraps around when it goes into a signed integer.
      some
        { year := (years - 1900).toInt32.toInt + 1900
          month := monthes.toNat
          day := days.toNat
          hour := hours.toNat
          minute := minutes.toNat
          second := seconds.toNat }
    else
      none
  else
    none

/-- `std::mktime`, where the local time is ahead of UTC by so many seconds. -/
def mktime (localOffset : Int) (time : Time) : Int :=
  toSeconds time - localOffset

/-- `DateProvider::FromIsoTimeString`: the code, and the result if it was written. The product is
that of signed 64-bit integers. -/
def fromIsoTimeString (localOffset : Int) (timeString : List Char) (provider : DateProvider) :
    Result × Option UInt64 :=
  match readTime timeString with
  | none => (.error, none)
  | some time =>
    if mktime localOffset time = -1 then
      (.error, none)
    else
      (.success, some ((Int64.ofInt (mktime localOffset time) * 1000000000).toUInt64 -
        provider.fromIsoOffset))

/-- The constructor of `DateProvider` at an instant; it throws when the instant does not survive
the conversions. -/
def create (localOffset : Int) (original : UInt64) : Option DateProvider :=
  match fromIsoTimeString localOffset (toIsoTimeString original) {} with
  | (.success, some reverted) => some { fromIsoOffset := reverted - original }
  | _ => none

/-! ## Texts of two and four digits -/

/-- Two digits are digits. -/
theorem isDigit_twoDigits {number : Nat} {digit : Char} (h : digit ∈ twoDigits number) :
    digit.isDigit = true := by
  rcases List.mem_cons.mp h with rfl | h
  · rw [Nat.isDigit_digitChar]
    exact decide_eq_true (Nat.mod_lt _ (by decide))
  · rw [List.mem_singleton.mp h, Nat.isDigit_digitChar]
    exact decide_eq_true (Nat.mod_lt _ (by decide))

/-- What two digits add to a number before them. -/
theorem ofDigitChars_twoDigits {number : Nat} (h : number < 100) (before : Nat) :
    Nat.ofDigitChars 10 (twoDigits number) before = 100 * before + number := by
  rw [twoDigits, Nat.ofDigitChars_cons_digitChar_of_lt_ten (Nat.mod_lt _ (by decide)),
    Nat.ofDigitChars_cons_digitChar_of_lt_ten (Nat.mod_lt _ (by decide)), Nat.ofDigitChars_nil]
  omega

/-- The value of four digits. -/
theorem ofDigitChars_fourDigits {number : Nat} (h : number < 10000) :
    Nat.ofDigitChars 10 (fourDigits number) 0 = number := by
  rw [fourDigits, Nat.ofDigitChars_append, ofDigitChars_twoDigits (by omega),
    ofDigitChars_twoDigits (by omega)]
  omega

/-- A part of the text that consists of digits is read as their value. -/
theorem fieldAt_of_digits {timeString digits : List Char} {first count number : Nat}
    (hpart : (timeString.drop first).take count = digits) (hne : digits ≠ [])
    (hdigits : ∀ digit ∈ digits, digit.isDigit = true)
    (hvalue : Nat.ofDigitChars 10 digits 0 = number) (hrange : number < 10000) :
    fieldAt timeString first count = some (UInt32.ofNat number) := by
  have hread := @fromStringUInt64_of_digits (String.ofList digits)
    (by rwa [String.toList_ofList]) (by rwa [String.toList_ofList])
    (by rw [String.toList_ofList, hvalue]; omega)
  rw [String.toList_ofList, hvalue] at hread
  unfold fieldAt fromStringUInt32
  rw [hpart, hread]
  exact congrArg some (UInt64.toUInt32_ofNat' number)

/-- Two digits at a place of the text are read. -/
theorem fieldAt_twoDigits {timeString : List Char} {first number : Nat}
    (hpart : (timeString.drop first).take 2 = twoDigits number) (hrange : number < 100) :
    fieldAt timeString first 2 = some (UInt32.ofNat number) :=
  fieldAt_of_digits hpart (List.cons_ne_nil _ _) (fun _ => isDigit_twoDigits)
    ((ofDigitChars_twoDigits hrange 0).trans (by omega)) (by omega)

/-- Four digits at a place of the text are read. -/
theorem fieldAt_fourDigits {timeString : List Char} {first number : Nat}
    (hpart : (timeString.drop first).take 4 = fourDigits number) (hrange : number < 10000) :
    fieldAt timeString first 4 = some (UInt32.ofNat number) := by
  refine fieldAt_of_digits hpart (List.cons_ne_nil _ _) (fun digit hdigit => ?_)
    (ofDigitChars_fourDigits hrange) hrange
  rcases List.mem_append.mp hdigit with h | h
  · exact isDigit_twoDigits h
  · exact isDigit_twoDigits h

/-- A digit is the one of its value. -/
theorem exists_digitChar {digit : Char} (h : digit.isDigit = true) :
    ∃ value < 10, digit = Nat.digitChar value := by
  simp only [Char.isDigit, ge_iff_le, Bool.and_eq_true, decide_eq_true_eq, UInt32.le_iff_toNat_le]
    at h
  have hlow : 48 ≤ digit.toNat := h.1
  have hhigh : digit.toNat ≤ 57 := h.2
  refine ⟨digit.toNat - 48, by omega, ?_⟩
  apply Char.toNat_inj.mp
  rw [Nat.toNat_digitChar_of_lt_ten (by omega)]
  omega

/-- A text of two digits is that of a number. -/
theorem exists_twoDigits {field : List Char} (hlength : field.length = 2)
    (hdigits : ∀ digit ∈ field, digit.isDigit = true) :
    ∃ number < 100, field = twoDigits number := by
  obtain ⟨first, second, rfl⟩ := List.length_eq_two.mp hlength
  obtain ⟨tens, htens, rfl⟩ := exists_digitChar (hdigits first List.mem_cons_self)
  obtain ⟨ones, hones, rfl⟩ :=
    exists_digitChar (hdigits second (List.mem_cons_of_mem _ List.mem_cons_self))
  have hfirst : (10 * tens + ones) / 10 % 10 = tens := by omega
  have hsecond : (10 * tens + ones) % 10 = ones := by omega
  refine ⟨10 * tens + ones, by omega, ?_⟩
  rw [twoDigits, hfirst, hsecond]

/-- `exists_twoDigits` for four digits. -/
theorem exists_fourDigits {field : List Char} (hlength : field.length = 4)
    (hdigits : ∀ digit ∈ field, digit.isDigit = true) :
    ∃ number < 10000, field = fourDigits number := by
  obtain ⟨high, hhigh, hfirst⟩ := @exists_twoDigits (field.take 2)
    (by rw [List.length_take]; omega) fun digit h => hdigits digit (List.mem_of_mem_take h)
  obtain ⟨low, hlow, hsecond⟩ := @exists_twoDigits (field.drop 2)
    (by rw [List.length_drop]; omega) fun digit h => hdigits digit (List.mem_of_mem_drop h)
  have hdiv : (100 * high + low) / 100 = high := by omega
  have hmod : (100 * high + low) % 100 = low := by omega
  refine ⟨100 * high + low, by omega, ?_⟩
  rw [fourDigits, hdiv, hmod, ← hfirst, ← hsecond, List.take_append_drop]

/-! ## Reading what was written -/

/-- Small numbers are compared as they are. -/
theorem ofNat_lt_ofNat {number bound : Nat} (hnumber : number < 10000) (hbound : bound < 10000) :
    UInt32.ofNat number < UInt32.ofNat bound ↔ number < bound := by
  rw [UInt32.lt_iff_toNat_lt, UInt32.toNat_ofNat_of_lt' (Nat.lt_trans hnumber (by decide)),
    UInt32.toNat_ofNat_of_lt' (Nat.lt_trans hbound (by decide))]

/-- `ofNat_lt_ofNat` for the other comparison. -/
theorem ofNat_le_ofNat {number bound : Nat} (hnumber : number < 10000) (hbound : bound < 10000) :
    UInt32.ofNat number ≤ UInt32.ofNat bound ↔ number ≤ bound := by
  rw [UInt32.le_iff_toNat_le, UInt32.toNat_ofNat_of_lt' (Nat.lt_trans hnumber (by decide)),
    UInt32.toNat_ofNat_of_lt' (Nat.lt_trans hbound (by decide))]

/-- The year that is read, unless it has more than four digits. -/
theorem year_back {years : UInt32} (h : years.toNat < 10000) :
    (years - 1900).toInt32.toInt + 1900 = years.toNat := by
  have hdiff : (years - 1900).toInt32 = Int32.ofInt (years.toNat - 1900) := by
    rw [Int32.ofInt_sub, Int32.ofInt_eq_ofNat]
    rw [UInt32.toInt32_sub]
    congr 1
    rw [← UInt32.toInt32_ofNat', UInt32.ofNat_toNat]
  rw [hdiff, Int32.toInt_ofInt_of_le (by omega) (by omega)]
  omega

/-- The separators of a time that was written. -/
theorem separators_strftime (time : Time) :
    (strftime time).length = 21 ∧ (strftime time)[4]? = some '-' ∧
      (strftime time)[7]? = some '-' ∧ (strftime time)[10]? = some '\'' ∧
      (strftime time)[11]? = some 'T' ∧ (strftime time)[12]? = some '\'' ∧
      (strftime time)[15]? = some ':' ∧ (strftime time)[18]? = some ':' := by
  simp [strftime, fourDigits, twoDigits]

/-- Of the fields of a time, only a zero minute or second does not pass the checks. -/
theorem checks_iff {time : Time} (h : InRange time) :
    (0 < UInt32.ofNat time.month ∧ UInt32.ofNat time.month ≤ 12 ∧
      0 < UInt32.ofNat time.day ∧ UInt32.ofNat time.day ≤ 31 ∧ UInt32.ofNat time.hour < 24 ∧
      0 < UInt32.ofNat time.minute ∧ UInt32.ofNat time.minute ≤ 60 ∧
      0 < UInt32.ofNat time.second ∧ UInt32.ofNat time.second ≤ 60) ↔
        ¬ (time.minute = 0 ∨ time.second = 0) := by
  have hdayLe := h.day_le
  obtain ⟨⟨hmonthPos, hmonthLe⟩, ⟨hdayPos, -⟩, hhourLt, hminuteLt, hsecondLt⟩ := h
  have hpos : ∀ number < 10000, 0 < UInt32.ofNat number ↔ 0 < number := fun number h =>
    @ofNat_lt_ofNat 0 number (by decide) h
  have hle12 : UInt32.ofNat time.month ≤ 12 ↔ time.month ≤ 12 :=
    @ofNat_le_ofNat _ 12 (by omega) (by decide)
  have hle31 : UInt32.ofNat time.day ≤ 31 ↔ time.day ≤ 31 :=
    @ofNat_le_ofNat _ 31 (by omega) (by decide)
  have hlt24 : UInt32.ofNat time.hour < 24 ↔ time.hour < 24 :=
    @ofNat_lt_ofNat _ 24 (by omega) (by decide)
  have hminute60 : UInt32.ofNat time.minute ≤ 60 ↔ time.minute ≤ 60 :=
    @ofNat_le_ofNat _ 60 (by omega) (by decide)
  have hsecond60 : UInt32.ofNat time.second ≤ 60 ↔ time.second ≤ 60 :=
    @ofNat_le_ofNat _ 60 (by omega) (by decide)
  rw [hpos _ (by omega), hpos _ (by omega), hpos _ (by omega), hpos _ (by omega), hle12, hle31,
    hlt24, hminute60, hsecond60]
  omega

/-- A time that was written is read, unless its minute or its second is zero. -/
theorem readTime_strftime {time : Time} (h : InRange time) (hlow : 0 ≤ time.year)
    (hhigh : time.year ≤ 9999) :
    readTime (strftime time) =
      if time.minute = 0 ∨ time.second = 0 then none else some time := by
  have hyear : fieldAt (strftime time) 0 4 = some (UInt32.ofNat time.year.toNat) :=
    fieldAt_fourDigits rfl (by omega)
  have hmonth : fieldAt (strftime time) 5 2 = some (UInt32.ofNat time.month) :=
    fieldAt_twoDigits rfl (by have := h.month; omega)
  have hday : fieldAt (strftime time) 8 2 = some (UInt32.ofNat time.day) :=
    fieldAt_twoDigits rfl (by have := h.day_le; omega)
  have hhour : fieldAt (strftime time) 13 2 = some (UInt32.ofNat time.hour) :=
    fieldAt_twoDigits rfl (by have := h.hour; omega)
  have hminute : fieldAt (strftime time) 16 2 = some (UInt32.ofNat time.minute) :=
    fieldAt_twoDigits rfl (by have := h.minute; omega)
  have hsecond : fieldAt (strftime time) 19 2 = some (UInt32.ofNat time.second) :=
    fieldAt_twoDigits rfl (by have := h.second; omega)
  have hdayLe := h.day_le
  unfold readTime
  rw [hyear, hmonth, hday, hhour, hminute, hsecond, if_pos (separators_strftime time)]
  have hchecks := checks_iff h
  obtain ⟨⟨hmonthPos, hmonthLe⟩, ⟨hdayPos, -⟩, hhourLt, hminuteLt, hsecondLt⟩ := h
  have hback : ∀ number < 10000, (UInt32.ofNat number).toNat = number := fun number h =>
    UInt32.toNat_ofNat_of_lt' (Nat.lt_trans h (by decide))
  have hyearBack : (UInt32.ofNat time.year.toNat - 1900).toInt32.toInt + 1900 = time.year := by
    have hyearNat := hback time.year.toNat (by omega)
    rw [year_back (by omega), hyearNat]
    omega
  show (if _ then some _ else none) = _
  rw [if_congr hchecks rfl rfl, hyearBack, hback _ (by omega), hback _ (by omega),
    hback _ (by omega), hback _ (by omega), hback _ (by omega), ite_not]

/-! ## Seconds -/

/-- The second of a timestamp, as `to_time_t` cuts it. -/
def secondOf (timestamp : UInt64) : Int :=
  timestamp.toInt64.toInt.tdiv 1000000000

/-- The second can be read from its text: neither its minute nor its second is zero, and `mktime`
does not answer with the number of its error. -/
def Readable (localOffset seconds : Int) : Prop :=
  (ofSeconds seconds).minute ≠ 0 ∧ (ofSeconds seconds).second ≠ 0 ∧ seconds - localOffset ≠ -1

instance (localOffset seconds : Int) : Decidable (Readable localOffset seconds) :=
  inferInstanceAs (Decidable (_ ∧ _ ∧ _))

/-- A number is cut towards zero: what is cut off has its sign. -/
theorem tdiv_spec (number : Int) :
    (0 ≤ number ∧ number.tdiv 1000000000 * 1000000000 ≤ number ∧
        number < number.tdiv 1000000000 * 1000000000 + 1000000000) ∨
      (number < 0 ∧ number ≤ number.tdiv 1000000000 * 1000000000 ∧
        number.tdiv 1000000000 * 1000000000 - 1000000000 < number) := by
  rcases Int.lt_or_le number 0 with hneg | hnonneg
  · refine .inr ⟨hneg, ?_⟩
    have hopposite : number.tdiv 1000000000 = -((-number) / 1000000000) := by
      rw [← Int.tdiv_eq_ediv_of_nonneg (by omega), Int.neg_tdiv, Int.neg_neg]
    omega
  · refine .inl ⟨hnonneg, ?_⟩
    rw [Int.tdiv_eq_ediv_of_nonneg hnonneg]
    omega

/-- The seconds of timestamps are within the range of their type. -/
theorem secondOf_bounds (timestamp : UInt64) :
    -9223372037 ≤ secondOf timestamp ∧ secondOf timestamp ≤ 9223372037 := by
  have hlow := Int64.le_toInt timestamp.toInt64
  have hhigh := Int64.toInt_lt timestamp.toInt64
  have hcut := tdiv_spec timestamp.toInt64.toInt
  unfold secondOf
  omega

/-- The text of a second is read as its date and time. -/
theorem readTime_ofSeconds {seconds : Int} (hlow : -9223372037 ≤ seconds)
    (hhigh : seconds ≤ 9223372037) :
    readTime (strftime (ofSeconds seconds)) =
      if (ofSeconds seconds).minute = 0 ∨ (ofSeconds seconds).second = 0 then none
      else some (ofSeconds seconds) := by
  obtain ⟨hfirst, hlast⟩ := year_ofSeconds hlow hhigh
  exact readTime_strftime (inRange_ofSeconds seconds) (by omega) (by omega)

/-- The text of a second is accepted exactly when it is readable. -/
theorem fromIsoTimeString_ofSeconds (localOffset : Int) {seconds : Int}
    (hlow : -9223372037 ≤ seconds) (hhigh : seconds ≤ 9223372037) (provider : DateProvider) :
    fromIsoTimeString localOffset (strftime (ofSeconds seconds)) provider =
      if Readable localOffset seconds then
        (.success, some ((Int64.ofInt (seconds - localOffset) * 1000000000).toUInt64 -
          provider.fromIsoOffset))
      else (.error, none) := by
  unfold fromIsoTimeString
  rw [readTime_ofSeconds hlow hhigh]
  by_cases hzero : (ofSeconds seconds).minute = 0 ∨ (ofSeconds seconds).second = 0
  · have hnot : ¬ Readable localOffset seconds := by
      rintro ⟨hminute, hsecond, -⟩
      exact hzero.elim hminute hsecond
    rw [if_pos hzero, if_neg hnot]
  · rw [if_neg hzero]
    dsimp only
    rw [mktime, toSeconds_ofSeconds]
    rw [not_or] at hzero
    by_cases herror : seconds - localOffset = -1
    · rw [if_pos herror, if_neg fun h => h.2.2 herror]
    · rw [if_neg herror, if_pos ⟨hzero.1, hzero.2, herror⟩]

/-- The provider that was started at an instant. -/
def startedAt (localOffset : Int) (start : UInt64) : DateProvider where
  fromIsoOffset := (Int64.ofInt (secondOf start - localOffset) * 1000000000).toUInt64 - start

/-- The constructor does not throw exactly when the second it is called in is readable. -/
theorem create_eq (localOffset : Int) (start : UInt64) :
    create localOffset start =
      if Readable localOffset (secondOf start) then some (startedAt localOffset start)
      else none := by
  obtain ⟨hlow, hhigh⟩ := secondOf_bounds start
  unfold create toIsoTimeString
  rw [← secondOf, fromIsoTimeString_ofSeconds localOffset hlow hhigh]
  by_cases hreadable : Readable localOffset (secondOf start)
  · rw [if_pos hreadable, if_pos hreadable]
    dsimp only
    rw [UInt64.sub_zero, startedAt]
  · rw [if_neg hreadable, if_neg hreadable]

/-- The nanoseconds behind the second in which the provider was started. -/
def startOffset (start : UInt64) : Int :=
  start.toInt64.toInt - secondOf start * 1000000000

/-- What a provider makes of a second in local time. -/
def resultOf (localOffset : Int) (start : UInt64) (seconds : Int) : UInt64 :=
  (Int64.ofInt (seconds - localOffset) * 1000000000).toUInt64 -
    (startedAt localOffset start).fromIsoOffset

/-- It is the same second in UTC, and the nanoseconds behind it at which the provider was
started. -/
theorem toInt64_resultOf (localOffset : Int) (start : UInt64) (seconds : Int) :
    (resultOf localOffset start seconds).toInt64 =
      Int64.ofInt (seconds * 1000000000 + startOffset start) := by
  rw [resultOf, startedAt, UInt64.toInt64_sub, UInt64.toInt64_sub, Int64.toInt64_toUInt64,
    Int64.toInt64_toUInt64]
  have hstart : start.toInt64 = Int64.ofInt start.toInt64.toInt := (Int64.ofInt_toInt _).symm
  have hbillion : (1000000000 : Int64) = Int64.ofInt 1000000000 := rfl
  rw [hstart, hbillion, ← Int64.ofInt_mul, ← Int64.ofInt_mul, ← Int64.ofInt_sub,
    ← Int64.ofInt_sub]
  congr 1
  unfold startOffset
  omega

/-! ## Timestamps that survive -/

/-- Nanoseconds that are not negative are themselves. -/
theorem toInt_toInt64_of_lt {timestamp : UInt64} (h : timestamp.toNat < 9223372036854775808) :
    timestamp.toInt64.toInt = timestamp.toNat := by
  rw [MachineIntegers.toInt_toInt64, if_pos h]

/-- The second of nanoseconds that are not negative. -/
theorem secondOf_of_lt {timestamp : UInt64} (h : timestamp.toNat < 9223372036854775808) :
    secondOf timestamp = (timestamp.toNat / 1000000000 : Nat) := by
  rw [secondOf, toInt_toInt64_of_lt h, Int.tdiv_eq_ediv_of_nonneg (Int.natCast_nonneg _)]
  omega

/-- The nanoseconds behind the second of the start. -/
theorem startOffset_of_lt {start : UInt64} (h : start.toNat < 9223372036854775808) :
    startOffset start = (start.toNat % 1000000000 : Nat) := by
  rw [startOffset, secondOf_of_lt h, toInt_toInt64_of_lt h]
  omega

/-- Two readable seconds with the same text are the same. -/
theorem eq_of_strftime {localOffset seconds other : Int} (hreadable : Readable localOffset seconds)
    (hseconds : -9223372037 ≤ seconds ∧ seconds ≤ 9223372037)
    (hother : -9223372037 ≤ other ∧ other ≤ 9223372037)
    (h : strftime (ofSeconds other) = strftime (ofSeconds seconds)) : other = seconds := by
  have hread := readTime_ofSeconds hseconds.1 hseconds.2
  rw [if_neg (by rintro (hzero | hzero); exacts [hreadable.1 hzero, hreadable.2.1 hzero]), ← h,
    readTime_ofSeconds hother.1 hother.2] at hread
  split at hread
  · cases hread
  · rw [← toSeconds_ofSeconds other, Option.some.inj hread, toSeconds_ofSeconds]

/-- A provider that is started at an instant does not throw, and gives back a timestamp in the
second of the given one, with the same text. -/
def Survives (localOffset : Int) (start timestamp : UInt64) : Prop :=
  ∃ provider reverted, create localOffset start = some provider ∧
    fromIsoTimeString localOffset (toIsoTimeString timestamp) provider =
      (.success, some reverted) ∧
    reverted.toNat / 1000000000 = timestamp.toNat / 1000000000 ∧
    toIsoTimeString reverted = toIsoTimeString timestamp

/-- The nanoseconds of a result that has no sign, and of one that has wrapped around. -/
theorem toInt_resultOf (localOffset : Int) {start : UInt64}
    (hstart : start.toNat < 9223372036854775808) (seconds : Int) :
    ∃ wraps : Int, (resultOf localOffset start seconds).toInt64.toInt =
      seconds * 1000000000 + (start.toNat % 1000000000 : Nat) + wraps * 18446744073709551616 := by
  rw [toInt64_resultOf, startOffset_of_lt hstart]
  exact MachineIntegers.toInt_ofInt64 _

/-- The result is in the second it was made of exactly when it has not wrapped around, and nothing
was cut off on the wrong side of it. -/
theorem secondOf_resultOf (localOffset : Int) {start : UInt64}
    (hstart : start.toNat < 9223372036854775808) (seconds : Int) :
    secondOf (resultOf localOffset start seconds) = seconds ↔
      -9223372036854775808 ≤ seconds * 1000000000 + (start.toNat % 1000000000 : Nat) ∧
        seconds * 1000000000 + (start.toNat % 1000000000 : Nat) < 9223372036854775808 ∧
        (0 ≤ seconds ∨ start.toNat % 1000000000 = 0) := by
  obtain ⟨wraps, hwraps⟩ := toInt_resultOf localOffset hstart seconds
  have hlow := Int64.le_toInt (resultOf localOffset start seconds).toInt64
  have hhigh := Int64.toInt_lt (resultOf localOffset start seconds).toInt64
  have hcut := tdiv_spec (resultOf localOffset start seconds).toInt64.toInt
  unfold secondOf
  generalize (resultOf localOffset start seconds).toInt64.toInt = nanos at *
  generalize nanos.tdiv 1000000000 = cut at *
  constructor
  · rintro rfl
    omega
  · rintro ⟨hfirst, hlast, hsign⟩
    omega

/-- A timestamp survives the ISO form exactly when neither its own nor the start's minute or second
is zero, `mktime` does not take one of them for an error, and the nanoseconds of the start do not
lead out of the range. -/
theorem survives_iff (localOffset : Int) {start timestamp : UInt64}
    (hstart : start.toNat < 9223372036854775808)
    (htimestamp : timestamp.toNat < 9223372036854775808) :
    Survives localOffset start timestamp ↔
      Readable localOffset (secondOf start) ∧ Readable localOffset (secondOf timestamp) ∧
        timestamp.toNat / 1000000000 * 1000000000 + start.toNat % 1000000000 <
          9223372036854775808 := by
  have hseconds := secondOf_bounds timestamp
  have hsecondOf := secondOf_of_lt htimestamp
  have hkept := secondOf_resultOf localOffset hstart (secondOf timestamp)
  have hread := fromIsoTimeString_ofSeconds localOffset hseconds.1 hseconds.2
    (startedAt localOffset start)
  rw [← resultOf] at hread
  constructor
  · rintro ⟨provider, reverted, hcreate, hreverted, -, hsame⟩
    rw [create_eq] at hcreate
    split at hcreate
    · rename_i hreadableStart
      cases hcreate
      have haccepted := hread.symm.trans hreverted
      split at haccepted
      · rename_i hreadable
        cases haccepted
        have hsecond := eq_of_strftime hreadable hseconds (secondOf_bounds _) hsame
        have hrange := (hkept.mp hsecond).2.1
        refine ⟨hreadableStart, hreadable, ?_⟩
        rw [hsecondOf] at hrange
        omega
      · cases haccepted
    · cases hcreate
  · rintro ⟨hreadableStart, hreadable, hrange⟩
    have hsecond : secondOf (resultOf localOffset start (secondOf timestamp)) =
        secondOf timestamp := by
      refine hkept.mpr ⟨?_, ?_, ?_⟩ <;> rw [hsecondOf] <;> omega
    refine ⟨startedAt localOffset start, resultOf localOffset start (secondOf timestamp), ?_, ?_,
      ?_, ?_⟩
    · rw [create_eq, if_pos hreadableStart]
    · rw [toIsoTimeString, ← secondOf, hread, if_pos hreadable]
    · -- The result has no sign, so its nanoseconds are the ones that were added.
      obtain ⟨wraps, hwraps⟩ := toInt_resultOf localOffset hstart (secondOf timestamp)
      have hsigned := MachineIntegers.toInt_toInt64
        (resultOf localOffset start (secondOf timestamp))
      have hbelow : (resultOf localOffset start (secondOf timestamp)).toNat <
          18446744073709551616 := UInt64.toNat_lt _
      rw [hwraps, hsecondOf] at hsigned
      rw [hsecondOf] at hbelow ⊢
      split at hsigned <;> omega
    · rw [toIsoTimeString, ← secondOf, hsecond, secondOf, ← toIsoTimeString]

/-- A server in a zone three hours ahead of UTC that is started one and a half minutes after the
epoch reads a time of the year 2024. -/
theorem survives_2024 : Survives 10800 90500000000 1709202630000000007 :=
  (@survives_iff 10800 90500000000 1709202630000000007 (by decide) (by decide)).mpr (by decide)

/-- Midday does not survive: its minute is zero. -/
theorem not_survives_midday :
    ¬ ∀ (localOffset : Int) (start timestamp : UInt64), start.toNat < 9223372036854775808 →
      timestamp.toNat < 9223372036854775808 → Survives localOffset start timestamp := by
  intro h
  obtain ⟨provider, reverted, hcreate, hreverted, -⟩ :=
    h 0 90500000000 1709208000000000000 (by decide) (by decide)
  have hnone : readTime (toIsoTimeString 1709208000000000000) = none := by decide
  unfold fromIsoTimeString at hreverted
  rw [hnone] at hreverted
  cases hreverted

/-! ## Texts that are accepted -/

/-- Only ISO times are accepted by a provider that was started at an instant: the text of a result
is the one that was read. -/
def AcceptsOnlyIso (localOffset : Int) (provider : DateProvider) (timeString : List Char) : Prop :=
  ∀ result, fromIsoTimeString localOffset timeString provider = (.success, some result) →
    toIsoTimeString result = timeString

/-- The fields of the text consist of digits. -/
def HasDigitFields (timeString : List Char) : Prop :=
  ∀ field ∈ [(0, 4), (5, 2), (8, 2), (13, 2), (16, 2), (19, 2)],
    ∀ char ∈ (timeString.drop field.1).take field.2, char.isDigit = true

/-- The time is within the range of the timestamps of a provider, and after the epoch unless the
provider was started at a whole second. -/
def Representable (start : UInt64) (time : Time) : Prop :=
  -9223372036854775808 ≤ toSeconds time * 1000000000 + (start.toNat % 1000000000 : Nat) ∧
    toSeconds time * 1000000000 + (start.toNat % 1000000000 : Nat) < 9223372036854775808 ∧
    (0 ≤ toSeconds time ∨ start.toNat % 1000000000 = 0)

/-- The fields of a time that was written consist of digits. -/
theorem hasDigitFields_strftime (time : Time) : HasDigitFields (strftime time) := by
  intro field hfield digit hdigit
  simp only [List.mem_cons, List.not_mem_nil, or_false] at hfield
  rcases hfield with rfl | hfield
  · rcases List.mem_append.mp (show digit ∈ fourDigits time.year.toNat from hdigit) with h | h
    · exact isDigit_twoDigits h
    · exact isDigit_twoDigits h
  · rcases hfield with rfl | rfl | rfl | rfl | rfl
    · exact @isDigit_twoDigits time.month _ hdigit
    · exact @isDigit_twoDigits time.day _ hdigit
    · exact @isDigit_twoDigits time.hour _ hdigit
    · exact @isDigit_twoDigits time.minute _ hdigit
    · exact @isDigit_twoDigits time.second _ hdigit

/-- A part of the text, and what is behind it. -/
theorem drop_eq_take_append (text : List Char) (first count : Nat) :
    text.drop first = (text.drop first).take count ++ text.drop (first + count) := by
  rw [← List.drop_drop, List.take_append_drop]

/-- A character of the text, and what is behind it. -/
theorem drop_eq_cons {text : List Char} {position : Nat} {char : Char}
    (h : text[position]? = some char) : text.drop position = char :: text.drop (position + 1) := by
  obtain ⟨hlt, rfl⟩ := List.getElem?_eq_some_iff.mp h
  exact List.drop_eq_getElem_cons hlt

/-- A two-digit field is read as the number that it is written of. -/
theorem field_eq {timeString : List Char} {first : Nat} {number : UInt32}
    (hlength : first + 2 ≤ timeString.length)
    (hdigits : ∀ digit ∈ (timeString.drop first).take 2, digit.isDigit = true)
    (h : fieldAt timeString first 2 = some number) :
    (timeString.drop first).take 2 = twoDigits number.toNat := by
  obtain ⟨value, hvalue, hfield⟩ := exists_twoDigits
    (by rw [List.length_take, List.length_drop]; omega) hdigits
  rw [fieldAt_twoDigits hfield hvalue] at h
  rw [hfield, ← Option.some.inj h, UInt32.toNat_ofNat_of_lt' (Nat.lt_trans hvalue (by decide))]

/-- `field_eq` for four digits. -/
theorem field_eq_four {timeString : List Char} {first : Nat} {number : UInt32}
    (hlength : first + 4 ≤ timeString.length)
    (hdigits : ∀ digit ∈ (timeString.drop first).take 4, digit.isDigit = true)
    (h : fieldAt timeString first 4 = some number) :
    (timeString.drop first).take 4 = fourDigits number.toNat ∧ number.toNat < 10000 := by
  obtain ⟨value, hvalue, hfield⟩ := exists_fourDigits
    (by rw [List.length_take, List.length_drop]; omega) hdigits
  rw [fieldAt_fourDigits hfield hvalue] at h
  rw [hfield, ← Option.some.inj h, UInt32.toNat_ofNat_of_lt' (Nat.lt_trans hvalue (by decide))]
  exact ⟨rfl, hvalue⟩

/-- A text whose fields consist of digits is that of the time that is read from it. -/
theorem strftime_of_readTime {timeString : List Char} {time : Time}
    (hread : readTime timeString = some time) (hdigits : HasDigitFields timeString) :
    strftime time = timeString := by
  unfold readTime at hread
  split at hread
  · rename_i hchecks
    obtain ⟨hlength, h4, h7, h10, h11, h12, h15, h18⟩ := hchecks
    simp only [Option.bind_eq_bind, Option.bind_eq_some_iff] at hread
    obtain ⟨years, hyears, monthes, hmonthes, days, hdays, hours, hhours, minutes, hminutes,
      seconds, hseconds, hread⟩ := hread
    split at hread
    · cases hread
      obtain ⟨hyear, hyearLt⟩ := field_eq_four (by omega) (hdigits (0, 4) (by decide)) hyears
      have hmonth := field_eq (by omega) (hdigits (5, 2) (by decide)) hmonthes
      have hday := field_eq (by omega) (hdigits (8, 2) (by decide)) hdays
      have hhour := field_eq (by omega) (hdigits (13, 2) (by decide)) hhours
      have hminute := field_eq (by omega) (hdigits (16, 2) (by decide)) hminutes
      have hsecond := field_eq (by omega) (hdigits (19, 2) (by decide)) hseconds
      have hend : timeString.drop 21 = [] := List.drop_of_length_le (by omega)
      -- The text is its fields and what separates them.
      have hparts := drop_eq_take_append timeString 0 4
      rw [drop_eq_cons h4, drop_eq_take_append _ 5 2, drop_eq_cons h7, drop_eq_take_append _ 8 2,
        drop_eq_cons h10, drop_eq_cons h11, drop_eq_cons h12, drop_eq_take_append _ 13 2,
        drop_eq_cons h15, drop_eq_take_append _ 16 2, drop_eq_cons h18,
        drop_eq_take_append _ 19 2, hend, hyear, hmonth, hday, hhour, hminute, hsecond] at hparts
      rw [List.drop_zero] at hparts
      rw [strftime, hparts]
      dsimp only
      rw [year_back hyearLt, Int.toNat_natCast]
      simp
    · cases hread
  · cases hread

/-- What a provider makes of a text that passes the checks and `mktime`. -/
theorem fromIsoTimeString_of_readTime {localOffset : Int} {timeString : List Char} {time : Time}
    (start : UInt64) (hread : readTime timeString = some time)
    (hmktime : mktime localOffset time ≠ -1) :
    fromIsoTimeString localOffset timeString (startedAt localOffset start) =
      (.success, some (resultOf localOffset start (toSeconds time))) := by
  unfold fromIsoTimeString
  rw [hread]
  dsimp only
  rw [if_neg hmktime]
  rfl

/-- A text that passes the checks and `mktime` comes back from the result exactly when its fields
consist of digits, its date and time exist, and the timestamps of the provider reach it. -/
theorem acceptsOnlyIso_iff (localOffset : Int) {start : UInt64} {provider : DateProvider}
    (hstart : start.toNat < 9223372036854775808)
    (hcreate : create localOffset start = some provider) (timeString : List Char) :
    AcceptsOnlyIso localOffset provider timeString ↔
      ∀ time, readTime timeString = some time → mktime localOffset time ≠ -1 →
        HasDigitFields timeString ∧ InRange time ∧ Representable start time := by
  have hprovider : provider = startedAt localOffset start := by
    rw [create_eq] at hcreate
    split at hcreate
    · exact (Option.some.inj hcreate).symm
    · cases hcreate
  subst hprovider
  constructor
  · intro h time hread hmktime
    have hsame := h _ (fromIsoTimeString_of_readTime start hread hmktime)
    -- The text of the result is read as the time of the result.
    obtain ⟨hlow, hhigh⟩ := secondOf_bounds (resultOf localOffset start (toSeconds time))
    have hreadBack := readTime_ofSeconds hlow hhigh
    rw [toIsoTimeString, ← secondOf] at hsame
    rw [hsame, hread] at hreadBack
    split at hreadBack
    · cases hreadBack
    · have htime := Option.some.inj hreadBack
      have hseconds := congrArg toSeconds htime
      rw [toSeconds_ofSeconds] at hseconds
      refine ⟨?_, ?_, ?_⟩
      · rw [← hsame]
        exact hasDigitFields_strftime _
      · rw [htime]
        exact inRange_ofSeconds _
      · exact (secondOf_resultOf localOffset hstart _).mp hseconds.symm
  · intro h result haccepted
    unfold fromIsoTimeString at haccepted
    cases hread : readTime timeString with
    | none =>
      rw [hread] at haccepted
      cases haccepted
    | some time =>
      rw [hread] at haccepted
      dsimp only at haccepted
      split at haccepted
      · cases haccepted
      · rename_i hmktime
        obtain ⟨hdigits, hinRange, hrepresentable⟩ := h time hread hmktime
        have hresult : result = resultOf localOffset start (toSeconds time) :=
          (Option.some.inj (Prod.mk.inj haccepted).2).symm
        rw [hresult, toIsoTimeString, ← secondOf,
          (secondOf_resultOf localOffset hstart _).mpr hrepresentable,
          ofSeconds_toSeconds hinRange, strftime_of_readTime hread hdigits]

/-- The last day of a leap February comes back. -/
theorem acceptsOnlyIso_february :
    AcceptsOnlyIso 10800 (startedAt 10800 90500000000) "2024-02-29'T'10:30:30".toList := by
  refine (@acceptsOnlyIso_iff 10800 90500000000 _ (by decide) (by decide) _).mpr ?_
  intro time hread _
  have htime : readTime "2024-02-29'T'10:30:30".toList = some ⟨2024, 2, 29, 10, 30, 30⟩ := rfl
  cases htime.symm.trans hread
  exact ⟨hasDigitFields_strftime ⟨2024, 2, 29, 10, 30, 30⟩,
    ⟨by decide, ⟨by decide, 29, by decide, by decide⟩, by decide, by decide, by decide⟩,
    by decide, by decide, .inl (by decide)⟩

/-- The 31st of February is accepted, as the second of March. -/
theorem not_acceptsOnlyIso_february :
    ¬ ∀ (localOffset : Int) (start : UInt64) (provider : DateProvider) (timeString : List Char),
      start.toNat < 9223372036854775808 → create localOffset start = some provider →
        AcceptsOnlyIso localOffset provider timeString := by
  intro h
  have hsame := h 0 90000000000 (startedAt 0 90000000000) "2024-02-31'T'10:30:30".toList (by decide)
    (by decide) 1709375430000000000 (by decide)
  exact absurd hsame (by decide)

end Srv.Date

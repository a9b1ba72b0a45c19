import Mathlib.Algebra.BigOperators.Group.List.Basic
import Mathlib.Algebra.GroupWithZero.Nat
import Mathlib.Data.List.Basic

/-!
# The calendar

Dates of the Gregorian calendar, extended to all years, and times of day, against the number of
seconds since the beginning of 1970.

- `Calendar.toSeconds_ofSeconds`: the date and time of a second are those of that second.
- `Calendar.inRange_ofSeconds`: they exist in the calendar.
- `Calendar.ofSeconds_toSeconds`: a date and time that exists is that of its second.
-/

namespace Calendar

/-! ## Consecutive segments -/

/-- The segment that a position falls into, and the position in it, when segments of these lengths
follow each other. -/
def locate : List Nat → Nat → Nat × Nat
  | [], position => (0, position)
  | length :: lengths, position =>
    if position < length then
      (0, position)
    else
      ((locate lengths (position - length)).1 + 1, (locate lengths (position - length)).2)

/-- The segments before the one that was found, and the position in it, make up the position. -/
theorem sum_take_locate (lengths : List Nat) (position : Nat) :
    (lengths.take (locate lengths position).1).sum + (locate lengths position).2 = position := by
  induction lengths generalizing position with
  | nil => rw [locate, List.take_nil, List.sum_nil, Nat.zero_add]
  | cons length lengths ih =>
    rw [locate]
    split
    · rw [List.take_zero, List.sum_nil, Nat.zero_add]
    · have hrest := ih (position - length)
      rw [List.take_succ_cons, List.sum_cons]
      omega

/-- A position within the segments is found in one of them. -/
theorem locate_lt {lengths : List Nat} {position : Nat} (h : position < lengths.sum) :
    ∃ length, lengths[(locate lengths position).1]? = some length ∧
      (locate lengths position).2 < length := by
  induction lengths generalizing position with
  | nil => exact absurd h (Nat.not_lt_zero _)
  | cons length lengths ih =>
    rw [List.sum_cons] at h
    rw [locate]
    split
    · rename_i hhere
      exact ⟨length, rfl, hhere⟩
    · obtain ⟨found, hfound, hlt⟩ := @ih (position - length) (by omega)
      exact ⟨found, hfound, hlt⟩

/-- A position of a segment is found in it. -/
theorem locate_sum_take {lengths : List Nat} {index length position : Nat}
    (hlength : lengths[index]? = some length) (h : position < length) :
    locate lengths ((lengths.take index).sum + position) = (index, position) := by
  induction lengths generalizing index with
  | nil => cases hlength
  | cons first lengths ih =>
    cases index with
    | zero =>
      cases hlength
      rw [List.take_zero, List.sum_nil, Nat.zero_add, locate, if_pos h]
    | succ index =>
      have hbefore : first + (lengths.take index).sum + position - first =
          (lengths.take index).sum + position := by omega
      rw [List.take_succ_cons, List.sum_cons, locate, if_neg (by omega), hbefore, ih hlength]

/-! ## Years -/

/-- A leap year. -/
def isLeap (year : Int) : Bool :=
  year % 4 = 0 && (year % 100 ≠ 0 || year % 400 = 0)

/-- The days between the beginning of the year 1 and the beginning of a year. -/
def daysBeforeYear (year : Int) : Int :=
  365 * (year - 1) + (year - 1) / 4 - (year - 1) / 100 + (year - 1) / 400

/-- The lengths of the months of a year. -/
def monthLengths (year : Int) : List Nat :=
  [31, if isLeap year then 29 else 28, 31, 30, 31, 30, 31, 31, 30, 31, 30, 31]

/-- The months make up the year. -/
theorem daysBeforeYear_succ (year : Int) :
    daysBeforeYear (year + 1) = daysBeforeYear year + (monthLengths year).sum := by
  have hsum : ((monthLengths year).sum : Int) = if isLeap year then 366 else 365 := by
    unfold monthLengths
    cases isLeap year <;> rfl
  rw [hsum]
  unfold daysBeforeYear
  cases hleap : isLeap year with
  | true =>
    simp only [isLeap, Bool.and_eq_true, Bool.or_eq_true, decide_eq_true_eq] at hleap
    rw [if_pos rfl]
    omega
  | false =>
    simp only [isLeap, Bool.and_eq_false_iff, Bool.or_eq_false_iff,
      decide_eq_false_iff_not] at hleap
    rw [if_neg Bool.false_ne_true]
    omega

/-- The year of a day, counted from the beginning of the year 1. The mean length of a year leads
to a year next to it. -/
def yearOf (day : Int) : Int :=
  let year := day * 400 / 146097 + 1
  if day < daysBeforeYear year then year - 1
  else if daysBeforeYear (year + 1) ≤ day then year + 1
  else year

/-- The day lies in its year. -/
theorem yearOf_spec (day : Int) :
    daysBeforeYear (yearOf day) ≤ day ∧ day < daysBeforeYear (yearOf day + 1) := by
  unfold yearOf
  dsimp only
  split
  · rename_i hbefore
    unfold daysBeforeYear at hbefore ⊢
    omega
  · rename_i hnotBefore
    split
    · rename_i hafter
      unfold daysBeforeYear at hafter ⊢
      omega
    · unfold daysBeforeYear at *
      omega

/-- Later years begin later. -/
theorem daysBeforeYear_mono {year later : Int} (h : year ≤ later) :
    daysBeforeYear year ≤ daysBeforeYear later := by
  have hfour : (year - 1) / 4 ≤ (later - 1) / 4 := Int.ediv_le_ediv (by decide) (by omega)
  have hcentury : (later - 1) / 100 ≤ (year - 1) / 100 + (later - year) := by omega
  have hfourHundred : (year - 1) / 400 ≤ (later - 1) / 400 :=
    Int.ediv_le_ediv (by decide) (by omega)
  unfold daysBeforeYear
  omega

/-- A day lies in one year only. -/
theorem yearOf_eq {year day : Int} (hlow : daysBeforeYear year ≤ day)
    (hhigh : day < daysBeforeYear (year + 1)) : yearOf day = year := by
  obtain ⟨hfound, hnext⟩ := yearOf_spec day
  rcases Int.lt_trichotomy (yearOf day) year with hbefore | hsame | hafter
  · have hmono := daysBeforeYear_mono (Int.add_one_le_of_lt hbefore)
    omega
  · exact hsame
  · have hmono := daysBeforeYear_mono (Int.add_one_le_of_lt hafter)
    omega

/-! ## Dates and times -/

/-- A date and a time of day. Months and days are counted from one. -/
structure Time where
  year : Int
  month : Nat
  day : Nat
  hour : Nat
  minute : Nat
  second : Nat
  deriving DecidableEq, Repr

/-- The beginning of 1970, in days. -/
def epoch : Int := 719162

/-- The seconds between the epoch and a time. A day beyond the end of its month, and seconds and
minutes beyond theirs, count on. -/
def toSeconds (time : Time) : Int :=
  let days := daysBeforeYear time.year +
    ((monthLengths time.year).take (time.month - 1)).sum + (time.day - 1) - epoch
  ((days * 24 + time.hour) * 60 + time.minute) * 60 + time.second

/-- The time of a second, counted from the epoch. -/
def ofSeconds (seconds : Int) : Time :=
  let day := seconds / 86400 + epoch
  let ofDay := (seconds % 86400).toNat
  let found := locate (monthLengths (yearOf day)) (day - daysBeforeYear (yearOf day)).toNat
  { year := yearOf day
    month := found.1 + 1
    day := found.2 + 1
    hour := ofDay / 3600
    minute := ofDay % 3600 / 60
    second := ofDay % 60 }

/-- The time is one of the calendar and the clock. -/
structure InRange (time : Time) : Prop where
  month : 0 < time.month ∧ time.month ≤ 12
  day : 0 < time.day ∧ ∃ length, (monthLengths time.year)[time.month - 1]? = some length ∧
    time.day ≤ length
  hour : time.hour < 24
  minute : time.minute < 60
  second : time.second < 60

/-- A second has the date and the time of that second. -/
theorem toSeconds_ofSeconds (seconds : Int) : toSeconds (ofSeconds seconds) = seconds := by
  obtain ⟨hyear, -⟩ := yearOf_spec (seconds / 86400 + epoch)
  have hmonths := sum_take_locate (monthLengths (yearOf (seconds / 86400 + epoch)))
    (seconds / 86400 + epoch - daysBeforeYear (yearOf (seconds / 86400 + epoch))).toNat
  unfold toSeconds ofSeconds
  dsimp only
  rw [Nat.add_sub_cancel]
  generalize locate (monthLengths (yearOf (seconds / 86400 + epoch)))
    (seconds / 86400 + epoch - daysBeforeYear (yearOf (seconds / 86400 + epoch))).toNat = found
      at hmonths ⊢
  generalize daysBeforeYear (yearOf (seconds / 86400 + epoch)) = before at hyear hmonths ⊢
  generalize ((monthLengths (yearOf (seconds / 86400 + epoch))).take found.1).sum = months
    at hmonths ⊢
  -- The days before the year, the months and the day make up the day.
  have hday : before + months + (found.2 : Int) = seconds / 86400 + epoch := by omega
  omega

/-- The day of the year of a second, in the lengths of the months. -/
theorem dayOfYear_lt (day : Int) :
    (day - daysBeforeYear (yearOf day)).toNat < (monthLengths (yearOf day)).sum := by
  obtain ⟨hlow, hhigh⟩ := yearOf_spec day
  rw [daysBeforeYear_succ] at hhigh
  omega

/-- The date and the time of a second are in the calendar. -/
theorem inRange_ofSeconds (seconds : Int) : InRange (ofSeconds seconds) := by
  obtain ⟨length, hlength, hlt⟩ := locate_lt (dayOfYear_lt (seconds / 86400 + epoch))
  have hmonth := (List.getElem?_eq_some_iff.mp hlength).1
  refine ⟨⟨Nat.succ_pos _, hmonth⟩, ⟨Nat.succ_pos _, length, hlength, hlt⟩, ?_, ?_, ?_⟩
  · show (seconds % 86400).toNat / 3600 < 24
    omega
  · show (seconds % 86400).toNat % 3600 / 60 < 60
    omega
  · show (seconds % 86400).toNat % 60 < 60
    omega

/-- The days of the months before a day of the year, with that day, are no more than the year. -/
theorem sum_take_add_le {lengths : List Nat} {index length : Nat}
    (h : lengths[index]? = some length) : (lengths.take index).sum + length ≤ lengths.sum := by
  obtain ⟨hindex, rfl⟩ := List.getElem?_eq_some_iff.mp h
  have hsplit := congrArg List.sum (List.take_append_drop index lengths)
  rw [List.drop_eq_getElem_cons hindex, List.sum_append, List.sum_cons] at hsplit
  omega

/-- A date and a time that exist are those of their second. -/
theorem ofSeconds_toSeconds {time : Time} (h : InRange time) :
    ofSeconds (toSeconds time) = time := by
  obtain ⟨year, month, day, hour, minute, second⟩ := time
  obtain ⟨⟨hmonth, -⟩, ⟨hday, length, hlength, hle⟩, hhour, hminute, hsecond⟩ := h
  dsimp only at hmonth hday hlength hle hhour hminute hsecond
  have hyearSum := sum_take_add_le hlength
  have hnext := daysBeforeYear_succ year
  have hfound : locate (monthLengths year) (((monthLengths year).take (month - 1)).sum +
      (day - 1)) = (month - 1, day - 1) := locate_sum_take hlength (by omega)
  -- The day of the time, counted from the beginning of the calendar.
  have hdays : toSeconds ⟨year, month, day, hour, minute, second⟩ / 86400 + epoch =
      daysBeforeYear year + ((monthLengths year).take (month - 1)).sum + (day - 1 : Nat) := by
    unfold toSeconds
    dsimp only
    omega
  have hofDay : (toSeconds ⟨year, month, day, hour, minute, second⟩ % 86400).toNat =
      (hour * 60 + minute) * 60 + second := by
    unfold toSeconds
    dsimp only
    omega
  have hyear : yearOf (daysBeforeYear year + ((monthLengths year).take (month - 1)).sum +
      (day - 1 : Nat)) = year := yearOf_eq (by omega) (by omega)
  have hoffset : (daysBeforeYear year + ((monthLengths year).take (month - 1)).sum +
      (day - 1 : Nat) - daysBeforeYear year).toNat =
        ((monthLengths year).take (month - 1)).sum + (day - 1) := by omega
  unfold ofSeconds
  dsimp only
  rw [hdays, hofDay, hyear, hoffset, hfound, Time.mk.injEq]
  dsimp only
  omega

/-- No month has more than 31 days. -/
theorem InRange.day_le {time : Time} (h : InRange time) : time.day ≤ 31 := by
  obtain ⟨-, length, hlength, hle⟩ := h.day
  have hlengths : ∀ length ∈ monthLengths time.year, length ≤ 31 := by
    unfold monthLengths
    cases isLeap time.year <;> decide
  exact Nat.le_trans hle (hlengths length (List.mem_of_getElem? hlength))

/-- The years of the seconds that signed 64-bit integers of nanoseconds reach. -/
theorem year_ofSeconds {seconds : Int} (hlow : -9223372037 ≤ seconds)
    (hhigh : seconds ≤ 9223372037) :
    1677 ≤ (ofSeconds seconds).year ∧ (ofSeconds seconds).year ≤ 2262 := by
  obtain ⟨hfirst, hlast⟩ := yearOf_spec (seconds / 86400 + epoch)
  show 1677 ≤ yearOf (seconds / 86400 + epoch) ∧ yearOf (seconds / 86400 + epoch) ≤ 2262
  generalize yearOf (seconds / 86400 + epoch) = year at hfirst hlast ⊢
  unfold daysBeforeYear epoch at hfirst hlast
  omega

end Calendar

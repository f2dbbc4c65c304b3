import Mathlib.Data.List.Basic
import Mathlib.Order.Basic
import Mathlib.Data.Int.Order.Basic

/-!
# `CE_Time` as exact seconds

A `CE_Time` is an integer number of seconds since 1970 in UTC together with a
fixed offset, which `SystemTimeZone` rounds to quarters of an hour.  The class
keeps a Julian date in a `double`; the model computes with the exact value it
stands for.

`diffmin` and `diffhour` count boundaries of UTC minutes and hours, `diffday`
boundaries of local days.  Since the offset is a whole number of minutes, all
three see of a point in time only its minute.

`mktime` of a local date and time of day is `midnight` plus the seconds of the
day; the model writes it that way instead of printing and parsing a text.  This
is exact for the years in which `SetTime` does not clamp, 2000 to 9999.
-/

namespace LinuxPBS.Tariff

/-- `time_zone`, in quarters of an hour. -/
structure TimeZone where
  quarters : ℤ
  deriving DecidableEq, Repr

namespace TimeZone

/-- The offset in seconds. -/
def offset (zone : TimeZone) : ℤ := 900 * zone.quarters

/-- The number of the local day a point in time lies in. -/
def day (zone : TimeZone) (time : ℤ) : ℤ := (time + zone.offset) / 86400

/-- The point in time at which a local day begins. -/
def midnight (zone : TimeZone) (day : ℤ) : ℤ := 86400 * day - zone.offset

/-- `diffday` -/
def diffday (zone : TimeZone) (qt1 qt2 : ℤ) : ℤ := zone.day qt2 - zone.day qt1

@[simp] theorem day_midnight (zone : TimeZone) (day : ℤ) : zone.day (zone.midnight day) = day := by
  unfold TimeZone.day midnight
  omega

theorem midnight_mono (zone : TimeZone) {first second : ℤ} (hle : first ≤ second) :
    zone.midnight first ≤ zone.midnight second := by
  unfold midnight
  omega

theorem midnight_succ (zone : TimeZone) (day : ℤ) :
    zone.midnight (day + 1) = zone.midnight day + 86400 := by
  unfold midnight
  omega

theorem day_le_iff (zone : TimeZone) {time day : ℤ} :
    zone.day time ≤ day ↔ time < zone.midnight (day + 1) := by
  unfold TimeZone.day midnight
  omega

end TimeZone

/-- The number of the minute a point in time lies in. -/
def minute (time : ℤ) : ℤ := time / 60

/-- `diffmin` -/
def diffmin (qt1 qt2 : ℤ) : ℤ := minute qt2 - minute qt1

/-- `diffhour` -/
def diffhour (qt1 qt2 : ℤ) : ℤ := qt2 / 3600 - qt1 / 3600

/-- `Second` -/
def second (time : ℤ) : ℤ := time % 60

/-- The day only depends on the minute. -/
theorem TimeZone.day_le_of_minute_le (zone : TimeZone) {first second : ℤ}
    (hle : minute first ≤ minute second) : zone.day first ≤ zone.day second := by
  unfold minute at hle
  unfold TimeZone.day TimeZone.offset
  omega

theorem TimeZone.day_eq_of_minute_eq (zone : TimeZone) {first second : ℤ}
    (heq : minute first = minute second) : zone.day first = zone.day second :=
  le_antisymm (zone.day_le_of_minute_le heq.le) (zone.day_le_of_minute_le heq.ge)

theorem minute_mono {first second : ℤ} (hle : first ≤ second) : minute first ≤ minute second := by
  unfold minute
  omega

/-- A day begins with a minute. -/
theorem TimeZone.minute_lt_midnight_iff (zone : TimeZone) {time day : ℤ} :
    minute time < minute (zone.midnight day) ↔ time < zone.midnight day := by
  unfold minute midnight offset
  omega

@[simp] theorem minute_add_minutes (time count : ℤ) :
    minute (time + count * 60) = minute time + count := by
  unfold minute
  omega

/-! ## The calendar -/

/-- The Julian day number of a local day. -/
def julianDay (day : ℤ) : ℤ := day + 2440588

/-- The date part of `j2g`; a cast to `long` cuts towards zero. -/
def j2g (julian : ℤ) : ℤ × ℤ × ℤ :=
  let j := julian - 1721119
  let y := (4 * j - 1).tdiv 146097
  let j := 4 * j - 1 - 146097 * y
  let d := j.tdiv 4
  let j := (4 * d + 3).tdiv 1461
  let d := 4 * d + 3 - 1461 * j
  let d := (d + 4).tdiv 4
  let m := (5 * d - 3).tdiv 153
  let d := 5 * d - 3 - 153 * m
  let d := (d + 5).tdiv 5
  let y := 100 * y + j
  if m < 10 then (y, m + 3, d) else (y + 1, m - 9, d)

/-- `to_string` with the zeros in front that bring it to a width. -/
def padded (width : ℕ) (value : ℤ) : String :=
  String.ofList (List.replicate (width - (toString value).length) '0') ++ toString value

/-- `DateString` of a local day. -/
def dateString (day : ℤ) : String :=
  let (year, month, day) := j2g (julianDay day)
  padded 4 year ++ "-" ++ padded 2 month ++ "-" ++ padded 2 day

/-- `getweekday` of a local day: Monday is `1` and Sunday `7`. -/
def getweekday (day : ℤ) : ℕ :=
  let (year, month, day) := j2g (julianDay day)
  let mon := if month > 2 then month else 12 + month
  let year := if month > 2 then year else year - 1
  let y := year.tmod 100
  let c := year.tdiv 100
  let w := (day + (13 * (mon + 1)).tdiv 5 + y + y.tdiv 4 + c.tdiv 4 + 5 * c).tmod 7
  [6, 7, 1, 2, 3, 4, 5].getD w.toNat 0

example : dateString 20454 = "2026-01-01" ∧ getweekday 20454 = 4 := by decide +kernel

/-! ## Reading a time -/

/-- A time of day in seconds. -/
structure TimeOfDay where
  seconds : ℤ
  nonneg : 0 ≤ seconds
  lt_day : seconds < 86400

/-- The time of day a number of seconds ends at. -/
def TimeOfDay.wrap (seconds : ℤ) : TimeOfDay :=
  ⟨seconds % 86400, Int.emod_nonneg _ (by decide), Int.emod_lt_of_pos _ (by decide)⟩

/-- `ChkNumStr`, then the two digits from `first` on. -/
def twoDigits (digits : List Char) (first : ℕ) : ℤ :=
  (Nat.ofDigitChars 10 ((digits.drop first).take 2) 0 : ℕ)

/-- The time of day `SetTime(y, m, d, h, n, s)` keeps: fields out of range become `0`,
and the hour `24` and the second `60` go over the end of the day. -/
def clampTime (h n s : ℤ) : TimeOfDay :=
  .wrap (3600 * (if h > 24 then 0 else h) + 60 * (if n ≥ 60 then 0 else n) +
    if s ≥ 61 then 0 else s)

/-- `SetTime(string)` followed by `TimeString`: `none` when the text does not have 14 or
17 digits and the object keeps its time. -/
def timeOfDay (text : String) : Option TimeOfDay :=
  let digits := text.toList.filter fun c => '0' ≤ c ∧ c ≤ '9'
  if digits.length = 14 ∨ digits.length = 17 then
    some (clampTime (twoDigits digits 8) (twoDigits digits 10) (twoDigits digits 12))
  else none

example : (timeOfDay "2014-01-01 08:30:00").map (·.seconds) = some 30600 := by decide +kernel

end LinuxPBS.Tariff

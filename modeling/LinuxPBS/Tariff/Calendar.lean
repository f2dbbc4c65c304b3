import Mathlib.Data.Rat.Floor
import Mathlib.Tactic.Ring
import LinuxPBS.Library.Gregorian
import LinuxPBS.Tariff.Table

/-!
# The calendar of `CE_Time`

`g2j` makes a Julian date of a date and a time of day, `j2g` takes it apart again, and
`getweekday` computes the weekday from the parts.  Here a `double` is the rational number
it stands for, and `long` and `int` are whole numbers.

The three agree with the Gregorian calendar of the library, and so does the day type by which
the tariff chooses a row (`calendar`).
-/

namespace LinuxPBS.Tariff.CeTime

open Gregorian

/-! ## The conversions -/

/-- A cast of a `double` to `long` cuts towards zero. -/
def castLong (value : ℚ) : ℤ := value.num.tdiv value.den

/-- `CE_Time::g2j` -/
def g2j (y m d h n : ℤ) (s : ℚ) : ℚ :=
  let a := (14 - m).tdiv 12
  let y := y + 4800 - a
  let m := m + 12 * a - 3
  let jd : ℚ := (d + (153 * m + 2).tdiv 5 + 365 * y + y.tdiv 4 : ℤ)
  let jd := jd - (y.tdiv 100 : ℤ) + (y.tdiv 400 : ℤ) - 32045
  jd + ((h - 12) / 24 + n / 1440 + s / 86400)

/-- What `j2g` sets. -/
structure Fields where
  year : ℤ
  month : ℤ
  day : ℤ
  hour : ℤ
  minute : ℤ
  second : ℚ
  deriving DecidableEq, Repr

/-- `CE_Time::j2g` -/
def j2g (jd : ℚ) : Fields :=
  let j := castLong (jd + 1 / 2)
  let jf := jd + 1 / 2 - j
  let j := j - 1721119
  let y := castLong ((4 * j - 1 : ℤ) / 146097)
  let j := 4 * j - 1 - 146097 * y
  let d := castLong ((j : ℚ) / 4)
  let j := castLong ((4 * d + 3) / 1461)
  let d := 4 * d + 3 - 1461 * j
  let d := castLong ((d + 4) / 4)
  let m := castLong ((5 * d - 3) / 153)
  let d := 5 * d - 3 - 153 * m
  let d := castLong ((d + 5) / 5)
  let y := 100 * y + j
  let (m, y) := if m < 10 then (m + 3, y) else (m - 9, y + 1)
  let jf := jf * 24
  let h := castLong jf
  let jf := (jf - h) * 60
  let n := castLong jf
  let s := (jf - n) * 60
  ⟨y, m, d, h, n, s⟩

/-- `CE_Time::getweekday`, of the Julian date `t` -/
def getweekday (t : ℚ) : ℕ :=
  let fields := j2g t
  let mon := if fields.month > 2 then fields.month else 12 + fields.month
  let year := if fields.month > 2 then fields.year else fields.year - 1
  let y := year.tmod 100
  let c := year.tdiv 100
  let w := (fields.day + (13 * (mon + 1)).tdiv 5 + y + y.tdiv 4 + c.tdiv 4 + 5 * c).tmod 7
  [6, 7, 1, 2, 3, 4, 5].getD w.toNat 0

example : j2g (g2j 2000 2 29 23 59 30) = ⟨2000, 2, 29, 23, 59, 30⟩ ∧
    getweekday (g2j 2000 2 29 23 59 30) = 2 := by decide +kernel

/-! ## Casts -/

theorem castLong_of_nonneg {value : ℚ} (hnonneg : 0 ≤ value) : castLong value = ⌊value⌋ := by
  rw [castLong, Int.tdiv_eq_ediv_of_nonneg (Rat.num_nonneg.mpr hnonneg), Rat.floor_def']

/-- The cast of a quotient of whole numbers is their division. -/
theorem castLong_div (dividend divisor : ℤ) (hpos : 0 < divisor) :
    castLong ((dividend : ℚ) / divisor) = dividend.tdiv divisor := by
  obtain ⟨factor, hnum, hden⟩ :=
    Rat.num_den_mk hpos.ne' (Rat.intCast_div_eq_divInt dividend divisor)
  have hfactor : 0 < factor := by
    rw [hden] at hpos
    exact pos_of_mul_pos_left hpos (Int.natCast_nonneg _)
  rw [castLong, ← Int.mul_tdiv_mul_of_pos _ _ hfactor, ← hnum, ← hden]

/-- A whole number and a fraction are told apart. -/
theorem castLong_add {whole : ℤ} {fraction : ℚ} (hwhole : 0 ≤ whole) (hnonneg : 0 ≤ fraction)
    (hlt : fraction < 1) : castLong (whole + fraction) = whole := by
  have hsum : (0 : ℚ) ≤ whole + fraction := by positivity
  rw [castLong_of_nonneg hsum, Int.floor_intCast_add, Int.floor_eq_zero_iff.mpr ⟨hnonneg, hlt⟩,
    add_zero]

/-! ## Taking a day number apart -/

/-- The date is that of the number of the day, in whole numbers. -/
theorem j2g_date (jd : ℚ) :
    ((j2g jd).year, (j2g jd).month, (j2g jd).day) = Tariff.j2g (castLong (jd + 1 / 2)) := by
  have hcenturies (j : ℤ) : castLong ((4 * j - 1 : ℤ) / 146097) = (4 * j - 1).tdiv 146097 := by
    exact_mod_cast castLong_div (4 * j - 1) 146097 (by decide)
  have hquarters (j : ℤ) : castLong ((j : ℚ) / 4) = j.tdiv 4 := by
    exact_mod_cast castLong_div j 4 (by decide)
  have hyears (d : ℤ) : castLong ((4 * (d : ℚ) + 3) / 1461) = (4 * d + 3).tdiv 1461 := by
    exact_mod_cast castLong_div (4 * d + 3) 1461 (by decide)
  have hdays (d : ℤ) : castLong (((d : ℚ) + 4) / 4) = (d + 4).tdiv 4 := by
    exact_mod_cast castLong_div (d + 4) 4 (by decide)
  have hmonths (d : ℤ) : castLong ((5 * (d : ℚ) - 3) / 153) = (5 * d - 3).tdiv 153 := by
    exact_mod_cast castLong_div (5 * d - 3) 153 (by decide)
  have hday (d : ℤ) : castLong (((d : ℚ) + 5) / 5) = (d + 5).tdiv 5 := by
    exact_mod_cast castLong_div (d + 5) 5 (by decide)
  unfold j2g Tariff.j2g
  simp only [hcenturies, hquarters, hyears, hdays, hmonths, hday]
  split_ifs <;> rfl

/-- A day number by cycles of 400 years, centuries, years and days, the years from March on. -/
structure Cycles (date : Date) where
  cycle : ℕ
  century : ℕ
  year : ℕ
  marchYear_eq : date.marchYear = 400 * cycle + 100 * century + year
  ordinal_eq : date.ordinal + 306 =
    146097 * cycle + 36524 * century + (365 * year + year / 4 + date.marchDay)
  century_le : century ≤ 3
  year_le : year ≤ 99
  /-- the days of a year fit into it -/
  day_le : 4 * date.marchDay ≤ 1457 + year % 4
  /-- the days of a century fit into it, and the last century has one day more -/
  fits : 365 * year + year / 4 + date.marchDay ≤ 36523 + century / 3

def cycles (date : Date) : Cycles date where
  cycle := date.marchYear / 400
  century := date.marchYear / 100 % 4
  year := date.marchYear % 100
  marchYear_eq := by omega
  ordinal_eq := by
    have hordinal := date.ordinal_eq
    omega
  century_le := by omega
  year_le := by omega
  day_le := by
    rcases date.marchDay_le with hplain | ⟨hlast, hleap⟩
    · omega
    · have hrule := of_decide_eq_true hleap
      omega
  fits := by
    rcases date.marchDay_le with hplain | ⟨hlast, hleap⟩
    · omega
    · have hrule := of_decide_eq_true hleap
      omega

/-- What `j2g` computes from a day number that is given by cycles. -/
theorem j2g_cycles {cycle century year day : ℤ} (hcycle : 0 ≤ cycle)
    (hcentury : 0 ≤ century ∧ century ≤ 3) (hyear : 0 ≤ year)
    (hday : 0 ≤ day ∧ 4 * day ≤ 1457 + year % 4)
    (hfits : 365 * year + year / 4 + day ≤ 36523 + century / 3) :
    Tariff.j2g (1721120 + (146097 * cycle + 36524 * century + (365 * year + year / 4 + day))) =
      let m := (5 * day + 2) / 153
      let d := (5 * day + 2 - 153 * m + 5) / 5
      let y := 400 * cycle + 100 * century + year
      if m < 10 then (y, m + 3, d) else (y + 1, m - 9, d) := by
  obtain ⟨rest, hrest⟩ : ∃ rest, rest = 365 * year + year / 4 + day := ⟨_, rfl⟩
  rw [← hrest] at hfits ⊢
  have hcenturies : (4 * (1721120 + (146097 * cycle + 36524 * century + rest) - 1721119) -
      1).tdiv 146097 = 4 * cycle + century := by
    rw [Int.tdiv_eq_ediv_of_nonneg (by omega)]
    omega
  have hdayOfCentury : (4 * (1721120 + (146097 * cycle + 36524 * century + rest) - 1721119) - 1 -
      146097 * (4 * cycle + century)).tdiv 4 = rest := by
    rw [Int.tdiv_eq_ediv_of_nonneg (by omega)]
    omega
  have hyearOfCentury : (4 * rest + 3).tdiv 1461 = year := by
    rw [Int.tdiv_eq_ediv_of_nonneg (by omega)]
    omega
  have hdayOfYear : (4 * rest + 3 - 1461 * year + 4).tdiv 4 = day + 1 := by
    rw [Int.tdiv_eq_ediv_of_nonneg (by omega)]
    omega
  have hmonth : (5 * (day + 1) - 3).tdiv 153 = (5 * day + 2) / 153 := by
    rw [Int.tdiv_eq_ediv_of_nonneg (by omega)]
    omega
  have hdayOfMonth : (5 * (day + 1) - 3 - 153 * ((5 * day + 2) / 153) + 5).tdiv 5 =
      (5 * day + 2 - 153 * ((5 * day + 2) / 153) + 5) / 5 := by
    rw [Int.tdiv_eq_ediv_of_nonneg (by omega)]
    omega
  have hyears : 100 * (4 * cycle + century) + year = 400 * cycle + 100 * century + year := by
    omega
  unfold Tariff.j2g
  simp only [hcenturies, hdayOfCentury, hyearOfCentury, hdayOfYear, hmonth, hdayOfMonth, hyears]

/-- `j2g` finds the date of a day number. -/
theorem j2g_ordinal (date : Date) :
    Tariff.j2g (date.ordinal + 1721426) =
      ((date.year : ℤ), (date.month : ℤ), (date.day : ℤ)) := by
  have parts := cycles date
  have hordinal : (date.ordinal : ℤ) + 1721426 = 1721120 + (146097 * (parts.cycle : ℤ) +
      36524 * parts.century + (365 * parts.year + parts.year / 4 + date.marchDay)) := by
    have hdays := parts.ordinal_eq
    omega
  have hmonth : (5 * (date.marchDay : ℤ) + 2) / 153 = date.marchMonth := by
    have hmarch := date.marchMonth_eq
    omega
  have hday : (5 * (date.marchDay : ℤ) + 2 - 153 * date.marchMonth + 5) / 5 = date.day := by
    obtain ⟨hfirst, -⟩ := date.day_mem
    unfold Date.marchDay
    omega
  have hyear : (400 * (parts.cycle : ℤ) + 100 * parts.century + parts.year) = date.marchYear := by
    have hmarch := parts.marchYear_eq
    omega
  have hcentury := parts.century_le
  have hfits := parts.fits
  have hlast := parts.day_le
  rw [hordinal, j2g_cycles (by omega) ⟨by omega, by omega⟩ (by omega) ⟨by omega, by omega⟩
    (by omega)]
  simp only [hmonth, hday, hyear]
  obtain ⟨hone, htwelve⟩ := date.month_mem
  have hpos := date.year_pos
  unfold Date.marchMonth Date.marchYear
  by_cases hmarch : date.month ≤ 2
  · rw [if_pos hmarch, if_pos hmarch, if_neg (by omega), Prod.mk.injEq, Prod.mk.injEq]
    exact ⟨by omega, by omega, rfl⟩
  · rw [if_neg hmarch, if_neg hmarch, if_pos (by omega), Prod.mk.injEq, Prod.mk.injEq]
    exact ⟨rfl, by omega, rfl⟩

/-! ## The time of day -/

/-- A time of day. -/
structure Clock where
  hour : ℕ
  minute : ℕ
  second : ℚ
  hour_lt : hour < 24
  minute_lt : minute < 60
  second_nonneg : 0 ≤ second
  second_lt : second < 60

namespace Clock

/-- The part of the day that is over. -/
def fraction (clock : Clock) : ℚ := clock.hour / 24 + clock.minute / 1440 + clock.second / 86400

theorem fraction_nonneg (clock : Clock) : 0 ≤ clock.fraction := by
  have hsecond := clock.second_nonneg
  unfold fraction
  positivity

theorem fraction_lt (clock : Clock) : clock.fraction < 1 := by
  have hhour : (clock.hour : ℚ) ≤ 23 := by exact_mod_cast Nat.le_of_lt_succ clock.hour_lt
  have hminute : (clock.minute : ℚ) ≤ 59 := by exact_mod_cast Nat.le_of_lt_succ clock.minute_lt
  have hsecond := clock.second_lt
  unfold fraction
  linarith

end Clock

/-- The Julian date of a date and a time of day. -/
def julian (date : Date) (clock : Clock) : ℚ :=
  g2j date.year date.month date.day clock.hour clock.minute clock.second

/-- A Julian day begins at noon, so half a day is added. -/
theorem julian_eq (date : Date) (clock : Clock) :
    julian date clock + 1 / 2 = (date.ordinal + 1721426 : ℤ) + clock.fraction := by
  obtain ⟨hone, htwelve⟩ := date.month_mem
  obtain ⟨hfirst, -⟩ := date.day_mem
  have hpos := date.year_pos
  have hyear : (date.year : ℤ) + 4800 - (14 - (date.month : ℤ)).tdiv 12 =
      date.marchYear + 4800 := by
    rw [Int.tdiv_eq_ediv_of_nonneg (by omega)]
    unfold Date.marchYear
    split <;> omega
  have hmonth : (date.month : ℤ) + 12 * (14 - (date.month : ℤ)).tdiv 12 - 3 =
      date.marchMonth := by
    rw [Int.tdiv_eq_ediv_of_nonneg (by omega)]
    unfold Date.marchMonth
    split <;> omega
  have hday : (date.day : ℤ) + (153 * (date.marchMonth : ℤ) + 2) / 5 = date.marchDay + 1 := by
    unfold Date.marchDay
    omega
  have hordinal := date.ordinal_eq
  have hquarters : ((date.marchYear : ℤ) + 4800) / 4 = date.marchYear / 4 + 1200 := by omega
  have hcenturies : ((date.marchYear : ℤ) + 4800) / 100 = date.marchYear / 100 + 48 := by omega
  have hcycles : ((date.marchYear : ℤ) + 4800) / 400 = date.marchYear / 400 + 12 := by omega
  unfold julian g2j Clock.fraction
  simp only [hyear, hmonth]
  rw [Int.tdiv_eq_ediv_of_nonneg (by omega), Int.tdiv_eq_ediv_of_nonneg (by omega),
    Int.tdiv_eq_ediv_of_nonneg (by omega), Int.tdiv_eq_ediv_of_nonneg (by omega), hday,
    hquarters, hcenturies, hcycles]
  have hcount : ((date.ordinal + 306 + date.marchYear / 100 : ℤ) : ℚ) =
      (365 * date.marchYear + date.marchYear / 4 + date.marchYear / 400 + date.marchDay : ℤ) := by
    exact_mod_cast hordinal
  push_cast at hcount ⊢
  linarith

/-- The time of day comes from what is left of the day. -/
theorem j2g_time (jd : ℚ) :
    ((j2g jd).hour, (j2g jd).minute, (j2g jd).second) =
      let jf := (jd + 1 / 2 - castLong (jd + 1 / 2)) * 24
      let h := castLong jf
      let n := castLong ((jf - h) * 60)
      (h, n, ((jf - h) * 60 - n) * 60) := by
  unfold j2g
  simp only

theorem castLong_julian (date : Date) (clock : Clock) :
    castLong (julian date clock + 1 / 2) = date.ordinal + 1721426 := by
  rw [julian_eq]
  exact castLong_add (by omega) clock.fraction_nonneg clock.fraction_lt

/-- `j2g` takes apart what `g2j` made. -/
theorem j2g_julian (date : Date) (clock : Clock) :
    j2g (julian date clock) =
      ⟨date.year, date.month, date.day, clock.hour, clock.minute, clock.second⟩ := by
  have hminute : (clock.minute : ℚ) ≤ 59 := by exact_mod_cast Nat.le_of_lt_succ clock.minute_lt
  have hnonneg := clock.second_nonneg
  have hsecond := clock.second_lt
  have hdate := j2g_date (julian date clock)
  rw [castLong_julian, j2g_ordinal] at hdate
  have hours : (julian date clock + 1 / 2 - castLong (julian date clock + 1 / 2)) * 24 =
      (clock.hour : ℤ) + (clock.minute / 60 + clock.second / 3600) := by
    rw [castLong_julian, julian_eq, Clock.fraction]
    push_cast
    ring
  have minutes : ((clock.hour : ℤ) + ((clock.minute : ℚ) / 60 + clock.second / 3600) -
      (clock.hour : ℤ)) * 60 = (clock.minute : ℤ) + clock.second / 60 := by
    push_cast
    ring
  have hhour : castLong ((clock.hour : ℤ) + (clock.minute / 60 + clock.second / 3600)) =
      clock.hour := castLong_add (by omega) (by positivity) (by linarith)
  have hminutes : castLong ((clock.minute : ℤ) + clock.second / 60) = clock.minute :=
    castLong_add (by omega) (by positivity) (by linarith)
  have htime := j2g_time (julian date clock)
  simp only [hours, hhour, minutes, hminutes] at htime
  have hseconds : ((clock.minute : ℤ) + clock.second / 60 - (clock.minute : ℤ)) * 60 =
      clock.second := by ring
  rw [hseconds] at htime
  simp only [Prod.mk.injEq] at hdate htime
  obtain ⟨hyear, hmonth, hday⟩ := hdate
  obtain ⟨hh, hn, hs⟩ := htime
  rw [← hyear, ← hmonth, ← hday, ← hh, ← hn, ← hs]

/-! ## The weekday -/

/-- The sum of `getweekday` counts days, from a Saturday on. -/
theorem weekday_sum (date : Date) :
    (date.day + 13 * (date.marchMonth + 4) / 5 + date.marchYear % 100 +
      date.marchYear % 100 / 4 + date.marchYear / 100 / 4 + 5 * (date.marchYear / 100)) % 7 =
      (date.ordinal + 2) % 7 := by
  obtain ⟨hfirst, -⟩ := date.day_mem
  have hordinal := date.ordinal_eq
  have hmonth : 13 * (date.marchMonth + 4) / 5 + 28 * date.marchMonth =
      (153 * date.marchMonth + 2) / 5 + 10 := by omega
  have hday : date.marchDay + 1 = (153 * date.marchMonth + 2) / 5 + date.day := by
    unfold Date.marchDay
    omega
  generalize (153 * date.marchMonth + 2) / 5 = march at hmonth hday
  generalize 13 * (date.marchMonth + 4) / 5 = zeller at hmonth ⊢
  have hquarters : date.marchYear / 4 =
      25 * (date.marchYear / 100) + date.marchYear % 100 / 4 := by omega
  have hcycles : date.marchYear / 400 = date.marchYear / 100 / 4 :=
    (Nat.div_div_eq_div_mul _ 100 4).symm
  have hyear := Nat.div_add_mod date.marchYear 100
  rw [hquarters, hcycles] at hordinal
  generalize date.marchYear / 100 = century at hordinal hyear ⊢
  generalize date.marchYear % 100 = year at hordinal hyear ⊢
  generalize year / 4 = leapDays at hordinal ⊢
  generalize century / 4 = cycle at hordinal ⊢
  omega

/-- The table begins with the Saturday. -/
theorem weekday_entry (ordinal : ℕ) :
    [6, 7, 1, 2, 3, 4, 5].getD ((ordinal + 2) % 7) 0 = ordinal % 7 + 1 := by
  have hrest : ordinal % 7 < 7 := Nat.mod_lt _ (by decide)
  rw [Nat.add_mod]
  generalize ordinal % 7 = rest at hrest ⊢
  interval_cases rest <;> rfl

/-- The local day of a date, counted from 1970 on. -/
def localDay (date : Date) : ℤ := date.ordinal - 719162

theorem localDay_next (date : Date) : localDay date.next = localDay date + 1 := by
  have hnext := date.ordinal_next
  unfold localDay
  omega

theorem j2g_localDay (date : Date) :
    Tariff.j2g (julianDay (localDay date)) =
      ((date.year : ℤ), (date.month : ℤ), (date.day : ℤ)) := by
  have hday : julianDay (localDay date) = date.ordinal + 1721426 := by
    unfold julianDay localDay
    omega
  rw [hday, j2g_ordinal]

theorem getweekday_localDay (date : Date) :
    Tariff.getweekday (localDay date) = date.isoWeekday := by
  obtain ⟨hone, htwelve⟩ := date.month_mem
  have hpos := date.year_pos
  have hmonth : (if (date.month : ℤ) > 2 then (date.month : ℤ) else 12 + date.month) =
      (date.marchMonth + 3 : ℕ) := by
    unfold Date.marchMonth
    split_ifs <;> omega
  have hyear : (if (date.month : ℤ) > 2 then (date.year : ℤ) else date.year - 1) =
      (date.marchYear : ℕ) := by
    unfold Date.marchYear
    split_ifs <;> omega
  have hsum := weekday_sum date
  unfold Tariff.getweekday
  rw [j2g_localDay]
  simp only [hmonth, hyear]
  have hweekday : ((date.day : ℤ) + (13 * ((date.marchMonth + 3 : ℕ) + 1 : ℤ)).tdiv 5 +
      (date.marchYear : ℤ).tmod 100 + ((date.marchYear : ℤ).tmod 100).tdiv 4 +
      ((date.marchYear : ℤ).tdiv 100).tdiv 4 + 5 * (date.marchYear : ℤ).tdiv 100).tmod 7 =
      ((date.ordinal + 2) % 7 : ℕ) := congrArg Int.ofNat hsum
  rw [hweekday, Int.toNat_natCast, weekday_entry, Date.isoWeekday]

/-- `getweekday` of a Julian date is that of its day. -/
theorem getweekday_julian (date : Date) (clock : Clock) :
    getweekday (julian date clock) = date.isoWeekday := by
  rw [← getweekday_localDay]
  unfold getweekday Tariff.getweekday
  rw [j2g_julian, j2g_localDay]

/-! ## The day type -/

/-- A date as the list of holidays has it. -/
def dateText (date : Date) : String :=
  padded 4 date.year ++ "-" ++ padded 2 date.month ++ "-" ++ padded 2 date.day

/-- The day type a date has by the calendar: with holiday eves a holiday is `7` and its eve, unless
it lies on a weekend, is `8`; without them a holiday is `8`; every other day is its weekday. -/
def dayType (tables : Tables) (date : Date) : ℕ :=
  if tables.paras.giHasHolidayEve = 1 then
    if dateText date ∈ tables.msholiday then 7
    else if date.isoWeekday ≤ 5 ∧ dateText date.next ∈ tables.msholiday then 8
    else date.isoWeekday
  else if dateText date ∈ tables.msholiday then 8
  else date.isoWeekday

theorem dateString_localDay (date : Date) : dateString (localDay date) = dateText date := by
  unfold dateString
  rw [j2g_localDay, dateText]

theorem getDayType_localDay (tables : Tables) (date : Date) :
    tables.getDayType (localDay date) = dayType tables date := by
  have hweekend : (date.isoWeekday ≠ 6 ∧ date.isoWeekday ≠ 7) = (date.isoWeekday ≤ 5) := by
    have hrest : date.ordinal % 7 < 7 := Nat.mod_lt _ (by decide)
    unfold Date.isoWeekday
    exact propext (by omega)
  unfold Tables.getDayType Tables.getDayTypeWithHE Tables.getDayTypeNoPE dayType
  rw [← localDay_next, getweekday_localDay, dateString_localDay, dateString_localDay]
  simp only [← and_assoc, hweekend]

/-! ## The calendar -/

/-- The day number from which `j2g` starts. -/
def julianDayNumber (jd : ℚ) : ℤ := castLong (jd + 1 / 2)

/-- The conversions undo one another, the days have consecutive numbers, and the weekday and the
day type are those of the calendar. -/
theorem calendar (date : Date) (clock later : Clock) (tables : Tables) :
    j2g (julian date clock) =
        ⟨date.year, date.month, date.day, clock.hour, clock.minute, clock.second⟩ ∧
      julianDayNumber (julian date.next later) = julianDayNumber (julian date clock) + 1 ∧
      julian date.next clock = julian date clock + 1 ∧
      getweekday (julian date clock) = date.isoWeekday ∧
      julianDayNumber (julian date clock) = julianDay (localDay date) ∧
      tables.getDayType (localDay date) = dayType tables date := by
  have hnext := date.ordinal_next
  have hday := castLong_julian date clock
  have hdayNext := castLong_julian date.next later
  refine ⟨j2g_julian date clock, ?_, ?_, getweekday_julian date clock, ?_,
    getDayType_localDay tables date⟩
  · unfold julianDayNumber
    omega
  · have hdate := julian_eq date clock
    have hdateNext := julian_eq date.next clock
    rw [hnext] at hdateNext
    push_cast at hdate hdateNext
    linarith
  · unfold julianDayNumber julianDay localDay
    omega

end LinuxPBS.Tariff.CeTime

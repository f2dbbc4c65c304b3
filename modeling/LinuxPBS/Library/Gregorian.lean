import Mathlib.Data.Nat.Notation
import Mathlib.Tactic.IntervalCases
import Mathlib.Tactic.Linarith

/-!
# The Gregorian calendar

A date is a year from 1 on, a month and a day the month has.  `ordinal` counts the days since
1 January of the year 1, year by year and month by month, and `next` is the day after.  The
weekday follows from the count, since the calendar begins on a Monday.

Algorithms count years from March on, which puts the leap day at the end: `marchYear` and
`marchMonth`.  `ordinal_eq` is the count in these terms.
-/

namespace LinuxPBS.Gregorian

/-- A leap year. -/
def isLeap (year : ℕ) : Bool := year % 4 = 0 ∧ (year % 100 ≠ 0 ∨ year % 400 = 0)

def daysInYear (year : ℕ) : ℕ := if isLeap year then 366 else 365

def daysInMonth (year : ℕ) : ℕ → ℕ
  | 2 => if isLeap year then 29 else 28
  | 4 | 6 | 9 | 11 => 30
  | _ => 31

theorem daysInMonth_pos (year month : ℕ) : 1 ≤ daysInMonth year month := by
  unfold daysInMonth
  split
  · split <;> decide
  · decide
  · decide
  · decide
  · decide
  · decide

theorem daysInMonth_le (year month : ℕ) : daysInMonth year month ≤ 31 := by
  unfold daysInMonth
  split
  · split <;> decide
  · decide
  · decide
  · decide
  · decide
  · decide

/-- A date of the calendar, from the year 1 on. -/
structure Date where
  year : ℕ
  month : ℕ
  day : ℕ
  year_pos : 1 ≤ year
  month_mem : 1 ≤ month ∧ month ≤ 12
  day_mem : 1 ≤ day ∧ day ≤ daysInMonth year month
  deriving DecidableEq, Repr

/-- The days of so many years from the year 1 on. -/
def daysOfYears : ℕ → ℕ
  | 0 => 0
  | years + 1 => daysOfYears years + daysInYear (years + 1)

/-- The days of so many months of a year. -/
def daysOfMonths (year : ℕ) : ℕ → ℕ
  | 0 => 0
  | months + 1 => daysOfMonths year months + daysInMonth year (months + 1)

namespace Date

/-- How many days a date is behind 1 January of the year 1. -/
def ordinal (date : Date) : ℕ :=
  daysOfYears (date.year - 1) + daysOfMonths date.year (date.month - 1) + (date.day - 1)

/-- Monday is `1` and Sunday `7`. -/
def isoWeekday (date : Date) : ℕ := date.ordinal % 7 + 1

theorem january_mem : 1 ≤ 1 ∧ 1 ≤ 12 := by decide

/-- The day after. -/
def next (date : Date) : Date :=
  if hday : date.day < daysInMonth date.year date.month then
    { date with day := date.day + 1, day_mem := ⟨Nat.le_add_left 1 _, hday⟩ }
  else if hmonth : date.month < 12 then
    { date with
      month := date.month + 1
      day := 1
      month_mem := ⟨Nat.le_add_left 1 _, hmonth⟩
      day_mem := ⟨le_refl 1, daysInMonth_pos _ _⟩ }
  else
    { year := date.year + 1
      month := 1
      day := 1
      year_pos := Nat.le_add_left 1 _
      month_mem := january_mem
      day_mem := ⟨le_refl 1, daysInMonth_pos _ _⟩ }

/-! ## One day after the other -/

theorem daysOfMonths_twelve (year : ℕ) : daysOfMonths year 12 = daysInYear year := by
  unfold daysInYear
  simp only [daysOfMonths, daysInMonth]
  split <;> rfl

/-- The day after counts one more. -/
theorem ordinal_next (date : Date) : date.next.ordinal = date.ordinal + 1 := by
  obtain ⟨year, month, day, hyear, ⟨hmonth, htwelve⟩, hday, hlast⟩ := date
  unfold next ordinal
  simp only
  split_ifs with hwithin hmonths
  · simp only
    omega
  · obtain ⟨months, rfl⟩ := Nat.exists_eq_add_of_le' hmonth
    simp only [Nat.add_sub_cancel, daysOfMonths]
    omega
  · obtain rfl : month = 12 := by omega
    obtain ⟨years, rfl⟩ := Nat.exists_eq_add_of_le' hyear
    have hsum : daysOfMonths (years + 1) 11 + daysInMonth (years + 1) 12 = daysInYear (years + 1) :=
      daysOfMonths_twelve (years + 1)
    have hyears : daysOfYears (years + 1) = daysOfYears years + daysInYear (years + 1) := rfl
    have hnone : daysOfMonths (years + 1 + 1) (1 - 1) = 0 := rfl
    have heleven : daysOfMonths (years + 1) (12 - 1) = daysOfMonths (years + 1) 11 := rfl
    simp only [Nat.add_sub_cancel, hnone, heleven]
    omega

/-! ## The order of dates -/

theorem daysOfYears_mono : Monotone daysOfYears :=
  monotone_nat_of_le_succ fun years => by
    rw [daysOfYears]
    exact Nat.le_add_right _ _

theorem daysOfMonths_mono (year : ℕ) : Monotone (daysOfMonths year) :=
  monotone_nat_of_le_succ fun months => by
    rw [daysOfMonths]
    exact Nat.le_add_right _ _

/-- A date lies in its month. -/
theorem ordinal_lt_month (date : Date) :
    date.ordinal < daysOfYears (date.year - 1) + daysOfMonths date.year date.month := by
  obtain ⟨hone, -⟩ := date.month_mem
  obtain ⟨hfirst, hlast⟩ := date.day_mem
  obtain ⟨months, hmonths⟩ := Nat.exists_eq_add_of_le' hone
  unfold ordinal
  rw [hmonths] at hlast ⊢
  rw [Nat.add_sub_cancel, daysOfMonths]
  omega

/-- A date lies in its year. -/
theorem ordinal_lt_year (date : Date) : date.ordinal < daysOfYears date.year := by
  obtain ⟨-, htwelve⟩ := date.month_mem
  obtain ⟨years, hyears⟩ := Nat.exists_eq_add_of_le' date.year_pos
  have hmonth := ordinal_lt_month date
  have hmonths := daysOfMonths_mono date.year htwelve
  rw [daysOfMonths_twelve] at hmonths
  rw [hyears] at hmonth hmonths ⊢
  rw [Nat.add_sub_cancel] at hmonth
  rw [daysOfYears]
  omega

/-- A date that comes first by year, month and day comes first. -/
theorem ordinal_lt_of_lex {date other : Date}
    (hlex : date.year < other.year ∨ date.year = other.year ∧
      (date.month < other.month ∨ date.month = other.month ∧ date.day < other.day)) :
    date.ordinal < other.ordinal := by
  obtain ⟨hfirst, -⟩ := date.day_mem
  rcases hlex with hyear | ⟨hyear, hmonth | ⟨hmonth, hday⟩⟩
  · have hbefore := ordinal_lt_year date
    have hyears := daysOfYears_mono (Nat.le_sub_one_of_lt hyear)
    unfold ordinal at hbefore ⊢
    omega
  · have hbefore := ordinal_lt_month date
    have hmonths := daysOfMonths_mono date.year (Nat.le_sub_one_of_lt hmonth)
    unfold ordinal at hbefore ⊢
    rw [← hyear]
    omega
  · unfold ordinal
    rw [← hyear, ← hmonth]
    omega

/-- The count of the days orders the dates by year, month and day. -/
theorem ordinal_lt_iff {date other : Date} :
    date.ordinal < other.ordinal ↔ date.year < other.year ∨ date.year = other.year ∧
      (date.month < other.month ∨ date.month = other.month ∧ date.day < other.day) := by
  refine ⟨fun hlt => ?_, ordinal_lt_of_lex⟩
  by_contra hnot
  have hother : (other.year < date.year ∨ other.year = date.year ∧
      (other.month < date.month ∨ other.month = date.month ∧ other.day < date.day)) ∨
      date.year = other.year ∧ date.month = other.month ∧ date.day = other.day := by omega
  rcases hother with hafter | ⟨hyear, hmonth, hday⟩
  · exact lt_asymm hlt (ordinal_lt_of_lex hafter)
  · unfold ordinal at hlt
    rw [hyear, hmonth, hday] at hlt
    exact lt_irrefl _ hlt

/-! ## Years from March on -/

/-- A year has one day more for every rule that makes it a leap year. -/
theorem daysInYear_succ (years : ℕ) :
    daysInYear (years + 1) + (years + 1) / 100 + (years / 4 + years / 400) =
      365 + years / 100 + ((years + 1) / 4 + (years + 1) / 400) := by
  have hhundred : 400 ∣ years + 1 → 100 ∣ years + 1 := (Nat.dvd_trans (by decide) ·)
  have hfour : 100 ∣ years + 1 → 4 ∣ years + 1 := (Nat.dvd_trans (by decide) ·)
  have hleap : isLeap (years + 1) =
      decide (4 ∣ years + 1 ∧ (¬100 ∣ years + 1 ∨ 400 ∣ years + 1)) := by
    simp only [isLeap, Nat.dvd_iff_mod_eq_zero, ne_eq]
  rw [daysInYear, hleap, Nat.succ_div, Nat.succ_div, Nat.succ_div]
  by_cases h4 : 4 ∣ years + 1
  · by_cases h100 : 100 ∣ years + 1
    · by_cases h400 : 400 ∣ years + 1
      · simp only [h4, h100, h400, not_true, or_true, and_true, decide_true, if_true]
        omega
      · simp only [h4, h100, h400, not_true, or_false, and_false, decide_false, if_true,
          Bool.false_eq_true, if_false]
        omega
    · have h400 : ¬400 ∣ years + 1 := fun h => h100 (hhundred h)
      simp only [h4, h100, h400, not_false_iff, true_or, and_true, decide_true, if_true, if_false]
      omega
  · have h100 : ¬100 ∣ years + 1 := fun h => h4 (hfour h)
    have h400 : ¬400 ∣ years + 1 := fun h => h100 (hhundred h)
    simp only [h4, h100, h400, false_and, decide_false, Bool.false_eq_true, if_false]
    omega

theorem daysOfYears_eq (years : ℕ) :
    daysOfYears years + years / 100 = 365 * years + years / 4 + years / 400 := by
  induction years with
  | zero => rfl
  | succ years ih =>
      have hyear := daysInYear_succ years
      rw [daysOfYears]
      linarith

/-- January and February belong to the year before. -/
def marchYear (date : Date) : ℕ := if date.month ≤ 2 then date.year - 1 else date.year

/-- March is `0` and February `11`. -/
def marchMonth (date : Date) : ℕ := if date.month ≤ 2 then date.month + 9 else date.month - 3

/-- The day in the year from March on. -/
def marchDay (date : Date) : ℕ := (153 * date.marchMonth + 2) / 5 + (date.day - 1)

theorem daysOfMonths_march (year : ℕ) {month : ℕ} (hmarch : 3 ≤ month) (htwelve : month ≤ 12) :
    daysOfMonths year (month - 1) + 306 = daysInYear year + (153 * (month - 3) + 2) / 5 := by
  unfold daysInYear
  cases hleap : isLeap year with
  | true => interval_cases month <;> simp [daysOfMonths, daysInMonth, hleap]
  | false => interval_cases month <;> simp [daysOfMonths, daysInMonth, hleap]

theorem ordinal_eq (date : Date) :
    date.ordinal + 306 + date.marchYear / 100 =
      365 * date.marchYear + date.marchYear / 4 + date.marchYear / 400 + date.marchDay := by
  obtain ⟨year, month, day, hyear, ⟨hmonth, htwelve⟩, hday, hlast⟩ := date
  obtain ⟨years, rfl⟩ := Nat.exists_eq_add_of_le' hyear
  unfold ordinal marchDay marchYear marchMonth
  simp only [Nat.add_sub_cancel]
  by_cases hmarch : month ≤ 2
  · have hyears := daysOfYears_eq years
    have hmonths : daysOfMonths (years + 1) (month - 1) + 306 = (153 * (month + 9) + 2) / 5 := by
      interval_cases month <;> rfl
    simp only [if_pos hmarch]
    linarith
  · have hyears := daysOfYears_eq (years + 1)
    have hmonths := daysOfMonths_march (years + 1) (not_le.mp hmarch) htwelve
    rw [daysOfYears] at hyears
    simp only [if_neg hmarch]
    linarith

/-- The day in the year tells the month, for all lengths of the months. -/
theorem marchMonth_eq (date : Date) : (5 * date.marchDay + 2) / 153 = date.marchMonth := by
  obtain ⟨year, month, day, hyear, ⟨hmonth, htwelve⟩, hday, hlast⟩ := date
  unfold marchDay marchMonth
  simp only
  unfold daysInMonth at hlast
  interval_cases month <;> simp only [Nat.reduceLeDiff, if_true, if_false] at * <;>
    first | omega | (split at hlast <;> omega)

/-- The year from March on has 365 days, and a day more if February has. -/
theorem marchDay_le (date : Date) :
    date.marchDay ≤ 364 ∨ date.marchDay = 365 ∧ isLeap (date.marchYear + 1) = true := by
  obtain ⟨year, month, day, hyear, ⟨hmonth, htwelve⟩, hday, hlast⟩ := date
  obtain ⟨years, rfl⟩ := Nat.exists_eq_add_of_le' hyear
  unfold marchDay marchMonth marchYear
  simp only [Nat.add_sub_cancel]
  unfold daysInMonth at hlast
  by_cases hfebruary : month = 2
  · subst hfebruary
    change (153 * 11 + 2) / 5 + (day - 1) ≤ 364 ∨ (153 * 11 + 2) / 5 + (day - 1) = 365 ∧
      isLeap (years + 1) = true
    simp only at hlast
    split at hlast
    · next hleap =>
        rcases Nat.lt_or_ge day 29 with hshort | hlong
        · left
          omega
        · exact .inr ⟨by omega, hleap⟩
    · left
      omega
  · left
    interval_cases month <;> simp only [Nat.reduceLeDiff, if_true, if_false] at * <;>
      first | omega | exact absurd trivial hfebruary

end Date

end LinuxPBS.Gregorian

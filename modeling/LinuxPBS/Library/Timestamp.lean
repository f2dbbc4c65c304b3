import LinuxPBS.Library.Digits
import LinuxPBS.Library.Gregorian

/-!
# Timestamps

A `DateTime` is a second of the calendar, up to the year 9999.  Its text
`yyyy-mm-dd hh:mm:ss` has a fixed width for every part, from the greatest to the smallest, so
that texts compare like the points in time (`text_lt_iff`).

An `Interval` is a stretch of time.  `Interval.minus` are the parts of one interval outside of
another.
-/

namespace LinuxPBS.Timestamp

open Digits Gregorian

/-! ## Points in time -/

structure DateTime where
  date : Date
  hour : ℕ
  minute : ℕ
  second : ℕ
  year_lt : date.year < 10000
  hour_lt : hour < 24
  minute_lt : minute < 60
  second_lt : second < 60
  deriving DecidableEq, Repr

/-- The second of the day. -/
def DateTime.secondOfDay (time : DateTime) : ℕ := 3600 * time.hour + 60 * time.minute + time.second

/-- The seconds since 1 January of the year 1. -/
def DateTime.seconds (time : DateTime) : ℕ := 86400 * time.date.ordinal + time.secondOfDay

instance : Preorder DateTime := Preorder.lift DateTime.seconds

theorem lt_def {time other : DateTime} : time < other ↔ time.seconds < other.seconds := Iff.rfl

theorem le_def {time other : DateTime} : time ≤ other ↔ time.seconds ≤ other.seconds := Iff.rfl

instance (time other : DateTime) : Decidable (time < other) :=
  inferInstanceAs (Decidable (time.seconds < other.seconds))

instance (time other : DateTime) : Decidable (time ≤ other) :=
  inferInstanceAs (Decidable (time.seconds ≤ other.seconds))

@[simp] theorem not_lt_iff {time other : DateTime} : ¬time < other ↔ other ≤ time := by
  rw [lt_def, le_def, Nat.not_lt]

/-! ## Texts -/

/-- A number in so many decimals. -/
def decimals (width value : ℕ) : List Char := (fixedDigits 10 width value).map Nat.digitChar

@[simp] theorem length_decimals (width value : ℕ) : (decimals width value).length = width := by
  rw [decimals, List.length_map, length_fixedDigits]

namespace DateTime

/-- `yyyy-mm-dd hh:mm:ss` -/
def text (time : DateTime) : String :=
  String.ofList (decimals 4 time.date.year ++ '-' :: (decimals 2 time.date.month ++ '-' ::
    (decimals 2 time.date.day ++ ' ' :: (decimals 2 time.hour ++ ':' ::
      (decimals 2 time.minute ++ ':' :: decimals 2 time.second)))))

end DateTime

/-- Texts that begin with equally many characters compare there first. -/
theorem append_lt_append_iff {front other back rest : List Char}
    (hlength : front.length = other.length) :
    front ++ back < other ++ rest ↔ front < other ∨ front = other ∧ back < rest := by
  induction front generalizing other with
  | nil =>
      obtain rfl := List.length_eq_zero_iff.mp hlength.symm
      simp
  | cons c front ih =>
      cases other with
      | nil => cases hlength
      | cons d other =>
          rw [List.cons_append, List.cons_append, List.cons_lt_cons_iff, List.cons_lt_cons_iff,
            ih (Nat.succ.inj hlength), List.cons.injEq]
          tauto

theorem decimals_inj {width value other : ℕ} (hvalue : value < 10 ^ width)
    (hother : other < 10 ^ width) :
    decimals width value = decimals width other ↔ value = other := by
  refine ⟨fun heq => ?_, fun heq => by rw [heq]⟩
  have hless := decimals_lt_iff hvalue hother
  have hgreater := decimals_lt_iff hother hvalue
  unfold decimals at heq
  rw [heq] at hless hgreater
  have hnot := lt_irrefl ((fixedDigits 10 width other).map Nat.digitChar)
  exact Nat.le_antisymm (Nat.not_lt.mp fun hlt => hnot (hgreater.mpr hlt))
    (Nat.not_lt.mp fun hlt => hnot (hless.mpr hlt))

/-- A number in front of a separator decides, and where it is the same, what follows. -/
theorem decimals_append_lt_iff {width value other : ℕ} (hvalue : value < 10 ^ width)
    (hother : other < 10 ^ width) (separator : Char) {back rest : List Char} :
    decimals width value ++ separator :: back < decimals width other ++ separator :: rest ↔
      value < other ∨ value = other ∧ back < rest := by
  rw [append_lt_append_iff (by rw [length_decimals, length_decimals]),
    decimals_inj hvalue hother, decimals, decimals, decimals_lt_iff hvalue hother,
    List.cons_lt_cons_iff]
  simp

/-- The texts compare like the points in time. -/
theorem DateTime.text_lt_iff {time other : DateTime} : time.text < other.text ↔ time < other := by
  have hmonth (date : Date) : date.month < 10 ^ 2 := by
    obtain ⟨-, htwelve⟩ := date.month_mem
    omega
  have hday (date : Date) : date.day < 10 ^ 2 := by
    obtain ⟨-, hlast⟩ := date.day_mem
    have hmost := daysInMonth_le date.year date.month
    omega
  have hdate : time.date.ordinal < other.date.ordinal ↔ _ := Date.ordinal_lt_iff
  have hdateBack : other.date.ordinal < time.date.ordinal ↔ _ := Date.ordinal_lt_iff
  have hhour := time.hour_lt
  have hminute := time.minute_lt
  have hsecond := time.second_lt
  have hhour' := other.hour_lt
  have hminute' := other.minute_lt
  have hsecond' := other.second_lt
  unfold text
  rw [String.lt_iff_toList_lt, String.toList_ofList, String.toList_ofList,
    decimals_append_lt_iff time.year_lt other.year_lt,
    decimals_append_lt_iff (hmonth _) (hmonth _), decimals_append_lt_iff (hday _) (hday _),
    decimals_append_lt_iff (by omega) (by omega), decimals_append_lt_iff (by omega) (by omega),
    decimals, decimals, decimals_lt_iff (by omega) (by omega), lt_def]
  unfold seconds secondOfDay
  constructor
  · intro hlex
    omega
  · intro hlt
    omega

theorem DateTime.text_eq_of_le {time other : DateTime} (hle : time ≤ other) (hge : other ≤ time) :
    time.text = other.text := by
  apply le_antisymm
  · rw [← not_lt, DateTime.text_lt_iff]
    exact hle.not_gt
  · rw [← not_lt, DateTime.text_lt_iff]
    exact hge.not_gt

theorem DateTime.text_ne_of_lt {time other : DateTime} (hlt : time < other) :
    time.text ≠ other.text := (DateTime.text_lt_iff.mpr hlt).ne

/-! ## Intervals -/

structure Interval where
  start : DateTime
  finish : DateTime
  ordered : start ≤ finish

namespace Interval

/-- The parts of an interval before and after another one; all of it if the two do not meet. -/
def minus (stay other : Interval) : List Interval :=
  if stay.finish < other.start ∨ other.finish < stay.start then [stay]
  else
    (if h : stay.start < other.start then [⟨stay.start, other.start, h.le⟩] else []) ++
      if h : other.finish < stay.finish then [⟨other.finish, stay.finish, h.le⟩] else []

end Interval

end LinuxPBS.Timestamp

import Mathlib.Logic.Function.Basic
import LinuxPBS.Library.CxxText
import LinuxPBS.StructureData
import LinuxPBS.Tariff.CeTime

/-!
# The tariff of one day

`CalFeeRAM2GR` works on one local day at a time.  When it comes to a new day it
reads three rows of `gtariff`, those of the day before, of the day and of the day
after, and fills its local arrays:

```text
index           contents
0               the last zone of the day before
1 … maxZone     the zones of the day
maxZone + 1     start, rate type and grace time of the first zone of the day after
```

Nothing is cleared in between, so behind `maxZone + 1`, and in the other arrays
also at that index, the values of earlier days are still there, and the code can
come to read them.  The model keeps them: a `Day` is the whole state of these
arrays, and `getDayInfo` overwrites the cells the source overwrites.

The arrays are total functions; that an index stays inside of the arrays of the
source is a property of its own and not built in.
-/

namespace LinuxPBS.Tariff

open CxxText

/-! ## The tables in memory -/

/-- The entries of `tariff_struct` for one of its nine periods. -/
structure TariffPeriod where
  startTime : String := ""
  endTime : String := ""
  rateType : String := ""
  chargeTimeBlock : String := ""
  chargeRate : String := ""
  graceTime : String := ""
  firstFree : String := ""
  firstAdd : String := ""
  secondFree : String := ""
  secondAdd : String := ""
  thirdFree : String := ""
  thirdAdd : String := ""
  allowance : String := ""
  minCharge : String := ""
  maxCharge : String := ""

/-- A period that has only a rate: no grace or free time, no allowance, no limits. -/
def TariffPeriod.plain (startTime endTime rateType chargeTimeBlock chargeRate : String) :
    TariffPeriod :=
  { startTime := "2014-01-01 " ++ startTime, endTime := "2014-01-01 " ++ endTime, rateType,
    chargeTimeBlock, chargeRate, graceTime := "0", firstFree := "0", firstAdd := "0",
    secondFree := "0", secondAdd := "0", thirdFree := "0", thirdAdd := "0", allowance := "0",
    minCharge := "0", maxCharge := "0" }

/-- `tariff_struct`, a row of `gtariff`. -/
structure TariffStruct where
  period : ℕ → TariffPeriod
  zoneCutoff : String := ""
  dayCutoff : String := ""
  wholeDayMax : String := ""
  wholeDayMin : String := ""

/-- A row with neither cut-offs nor day limits. -/
def TariffStruct.plain (periods : List TariffPeriod) : TariffStruct where
  period := fun k => periods.getD k {}
  zoneCutoff := "0"
  dayCutoff := "0"
  wholeDayMax := "0"
  wholeDayMin := "0"

/-- What the fee calculation reads of the `db` object and of the operation module. -/
structure Tables where
  timeZone : TimeZone
  /-- `gtariff[transaction type][day type]` -/
  gtariff : ℤ → ℕ → TariffStruct
  msholiday : List String
  paras : TParas
  /-- the answer of the databases to `HasPaidWithinPeriod` -/
  hasPaidWithinPeriod : ℤ → ℤ → ℚ
  /-- the time of day at which `zt` is constructed -/
  now : TimeOfDay

/-- The same row for every transaction type and every day, in the time zone +8. -/
def Tables.ofRow (row : TariffStruct) (paras : TParas) : Tables where
  timeZone := ⟨32⟩
  gtariff := fun _ _ => row
  msholiday := []
  paras := paras
  hasPaidWithinPeriod := fun _ _ => 0
  now := ⟨0, by decide, by decide⟩

namespace Tables

variable (tables : Tables)

/-- `GetDayTypeWithHE` of a local day -/
def getDayTypeWithHE (day : ℤ) : ℕ :=
  let dayType := getweekday day
  if dateString day ∈ tables.msholiday then 7
  else if dayType ≠ 6 ∧ dayType ≠ 7 ∧ dateString (day + 1) ∈ tables.msholiday then 8
  else dayType

/-- `GetDayTypeNoPE` of a local day -/
def getDayTypeNoPE (day : ℤ) : ℕ :=
  if dateString day ∈ tables.msholiday then 8 else getweekday day

/-- `GetDayType` of a local day -/
def getDayType (day : ℤ) : ℕ :=
  if tables.paras.giHasHolidayEve = 1 then tables.getDayTypeWithHE day
  else tables.getDayTypeNoPE day

/-- The row of `gtariff` for a local day. -/
def tariffOf (iTransType day : ℤ) : TariffStruct := tables.gtariff iTransType (tables.getDayType day)

end Tables

/-- The first `k` from 1 on for which the end of period `k - 1` is the start of the
first one; `0` if there is none. -/
def TariffStruct.maxZone (tariff : TariffStruct) : ℕ :=
  match (List.range 9).find? fun k => (tariff.period k).endTime == (tariff.period 0).startTime with
  | some k => k + 1
  | none => 0

/-! ## The local arrays -/

/-- The cells of the local arrays of `CalFeeRAM2GR` at one index. -/
structure Zone where
  rateType : ℤ := 0
  chargeRate : ℚ := 0
  ctb : ℤ := 0
  zoneMin : ℚ := 0
  zoneMax : ℚ := 0
  gt : ℤ := 0
  firstAdd : ℚ := 0
  firstFree : ℤ := 0
  secondAdd : ℚ := 0
  secondFree : ℤ := 0
  thirdAdd : ℚ := 0
  thirdFree : ℤ := 0
  iAllowance : ℤ := 0
  zoneTime : ℤ := 0
  deriving DecidableEq, Repr

/-- The local variables that describe the day in hand. -/
structure Day where
  zones : ℕ → Zone
  maxZone : ℕ
  dayMin : ℚ
  dayMax : ℚ
  iZoneCutoff : ℤ
  b24HourBlock : Bool
  s24HourFee : ℤ
  /-- the time of day of `zt`, which outlives the day -/
  zt : TimeOfDay

/-- How the calculation ends early: with a value, or with an exception. -/
inductive Ending
  | returned (value : ℚ)
  | threw
  deriving DecidableEq

/-- A conversion that throws ends the calculation. -/
def orThrow {α : Type*} : Option α → Except Ending α
  | some value => .ok value
  | none => .error .threw

/-- The numbers of one period. -/
def TariffPeriod.numbers (period : TariffPeriod) : Option Zone := do
  let rateType ← stoi period.rateType
  let chargeRate ← stod period.chargeRate
  let ctb ← stoi period.chargeTimeBlock
  let zoneMin ← stod period.minCharge
  let zoneMax ← stod period.maxCharge
  let gt ← stoi period.graceTime
  let firstAdd ← stod period.firstAdd
  let firstFree ← stoi period.firstFree
  let secondAdd ← stod period.secondAdd
  let secondFree ← stoi period.secondFree
  let thirdAdd ← stod period.thirdAdd
  let thirdFree ← stoi period.thirdFree
  let iAllowance ← stoi period.allowance
  return { rateType, chargeRate, ctb, zoneMin, zoneMax, gt, firstAdd, firstFree, secondAdd,
           secondFree, thirdAdd, thirdFree, iAllowance }

/-- One period put on a day that begins at `midnight`, and the new `zt`. -/
def TariffPeriod.zone (period : TariffPeriod) (midnight : ℤ) (zt : TimeOfDay) :
    Option (Zone × TimeOfDay) := do
  let numbers ← period.numbers
  let zt := (timeOfDay period.startTime).getD zt
  return ({ numbers with zoneTime := midnight + zt.seconds }, zt)

/-- The loop that fills the cells 1 to `count` with the zones of the day. -/
def TariffStruct.fillZones (tariff : TariffStruct) (midnight : ℤ) :
    ℕ → (ℕ → Zone) → TimeOfDay → Option ((ℕ → Zone) × TimeOfDay)
  | 0, zones, zt => some (zones, zt)
  | count + 1, zones, zt => do
      let (zones, zt) ← tariff.fillZones midnight count zones zt
      let (zone, zt) ← (tariff.period count).zone midnight zt
      return (Function.update zones (count + 1) zone, zt)

/-- The checks of a row: error `-2` when it has no start, `-4` when no zone closes it. -/
def TariffStruct.check (tariff : TariffStruct) : Except Ending ℕ :=
  if (tariff.period 0).startTime = "" then .error (.returned (-2))
  else if tariff.maxZone = 0 then .error (.returned (-4))
  else .ok tariff.maxZone

/-- `24HourBlock` mode: the day's minimum and maximum are the same positive amount. -/
def isBlockDay (dayMin dayMax : ℚ) : Bool := dayMin = dayMax && 0 < dayMin

/-- The part of `CalFeeRAM2GR` under `bGotDayInfo == false`, for the local day `date`. -/
def Tables.getDayInfo (tables : Tables) (iTransType date : ℤ) (day : Day) :
    Except Ending Day := do
  let lastTariff := tables.tariffOf iTransType (date - 1)
  let lastZone ← lastTariff.check
  -- put last zone of last day in array(0)
  let (zone, zt) ← orThrow ((lastTariff.period (lastZone - 1)).zone
    (tables.timeZone.midnight (date - 1)) day.zt)
  let tariff := tables.tariffOf iTransType date
  let maxZone ← tariff.check
  let (zones, zt) ← orThrow (tariff.fillZones (tables.timeZone.midnight date) maxZone
    (Function.update day.zones 0 zone) zt)
  let dayMin ← orThrow (stod tariff.wholeDayMin)
  let dayMax ← orThrow (stod tariff.wholeDayMax)
  let iZoneCutoff ← orThrow (stoi tariff.zoneCutoff)
  let iDayCutoff ← orThrow (stoi tariff.dayCutoff)
  -- get first zone for next day
  let first := (tables.tariffOf iTransType (date + 1)).period 0
  if first.startTime = "" then .error (.returned (-2))
  else
    let iNextGT ← orThrow (stoi first.graceTime)
    let iNextRT ← orThrow (stoi first.rateType)
    let zt := (timeOfDay first.startTime).getD zt
    let boundary := { zones (maxZone + 1) with
      rateType := iNextRT
      gt := iNextGT
      zoneTime := tables.timeZone.midnight (date + 1) + if iDayCutoff = 1 then 0 else zt.seconds }
    let zones := Function.update zones (maxZone + 1) boundary
    if isBlockDay dayMin dayMax then
      return { zones, maxZone, iZoneCutoff, zt, dayMin := 0, dayMax := 0, b24HourBlock := true,
               s24HourFee := ⌊dayMin⌋ }
    else
      return { zones, maxZone, iZoneCutoff, zt, dayMin, dayMax, b24HourBlock := false,
               s24HourFee := day.s24HourFee }

/-! ## What a day holds -/

theorem bind_eq_ok {ε α β : Type} {first : Except ε α} {rest : α → Except ε β} {result : β} :
    first >>= rest = .ok result ↔ ∃ value, first = .ok value ∧ rest value = .ok result := by
  cases first with
  | error failure => simp [bind, Except.bind]
  | ok value => simp [bind, Except.bind]

theorem bind_eq_error {ε α β : Type} {first : Except ε α} {rest : α → Except ε β} {failure : ε} :
    first >>= rest = .error failure ↔
      first = .error failure ∨ ∃ value, first = .ok value ∧ rest value = .error failure := by
  cases first with
  | error other => simp [bind, Except.bind]
  | ok value => simp [bind, Except.bind]

theorem orThrow_eq_error {α : Type*} {option : Option α} {ending : Ending}
    (herror : orThrow option = .error ending) : ending = .threw := by
  cases option with
  | none => exact (Except.error.inj herror).symm
  | some value => cases herror

@[simp] theorem orThrow_eq_ok {α : Type*} {option : Option α} {value : α} :
    orThrow option = .ok value ↔ option = some value := by
  cases option with
  | none => simp [orThrow]
  | some other => simp [orThrow]

/-- The cell holds the period, put on a day that begins at `midnight`. -/
def TariffPeriod.PutOn (period : TariffPeriod) (midnight : ℤ) (zone : Zone) : Prop :=
  ∃ numbers, period.numbers = some numbers ∧
    ∃ time : TimeOfDay, zone = { numbers with zoneTime := midnight + time.seconds }

theorem TariffPeriod.putOn_zone {period : TariffPeriod} {midnight : ℤ} {zt zt' : TimeOfDay}
    {zone : Zone} (hzone : period.zone midnight zt = some (zone, zt')) :
    period.PutOn midnight zone := by
  simp only [TariffPeriod.zone, bind, Option.bind_eq_some_iff, pure, Option.some.injEq] at hzone
  obtain ⟨numbers, hnumbers, heq⟩ := hzone
  exact ⟨numbers, hnumbers, (timeOfDay period.startTime).getD zt, (Prod.ext_iff.mp heq).1.symm⟩

theorem TariffPeriod.PutOn.zoneTime_bounds {period : TariffPeriod} {midnight : ℤ} {zone : Zone}
    (hzone : period.PutOn midnight zone) :
    midnight ≤ zone.zoneTime ∧ zone.zoneTime < midnight + 86400 := by
  obtain ⟨numbers, -, time, rfl⟩ := hzone
  have hnonneg := time.nonneg
  have hlt := time.lt_day
  exact ⟨by simp only; omega, by simp only; omega⟩

theorem TariffStruct.maxZone_le (tariff : TariffStruct) : tariff.maxZone ≤ 9 := by
  unfold TariffStruct.maxZone
  split
  · rename_i k hk
    have hmem := List.mem_range.mp (List.mem_of_find?_eq_some hk)
    omega
  · omega

theorem TariffStruct.bounds_of_check {tariff : TariffStruct} {maxZone : ℕ}
    (hcheck : tariff.check = .ok maxZone) : 1 ≤ maxZone ∧ maxZone ≤ 9 := by
  unfold TariffStruct.check at hcheck
  split at hcheck
  · cases hcheck
  · split at hcheck
    · cases hcheck
    · rename_i hzero
      obtain rfl := Except.ok.inj hcheck
      exact ⟨by omega, tariff.maxZone_le⟩

/-- The cells 1 to `count` are filled, the others stay. -/
theorem TariffStruct.fillZones_spec {tariff : TariffStruct} {midnight : ℤ} {count : ℕ}
    {zones zones' : ℕ → Zone} {zt zt' : TimeOfDay}
    (hfill : tariff.fillZones midnight count zones zt = some (zones', zt')) :
    (∀ k < count, (tariff.period k).PutOn midnight (zones' (k + 1))) ∧
      ∀ k, k = 0 ∨ count < k → zones' k = zones k := by
  induction count generalizing zones' zt' with
  | zero =>
      obtain ⟨rfl, rfl⟩ := Prod.ext_iff.mp (Option.some.inj hfill)
      exact ⟨fun k hk => absurd hk k.not_lt_zero, fun k _ => rfl⟩
  | succ count ih =>
      simp only [TariffStruct.fillZones, bind, Option.bind_eq_some_iff, pure, Option.some.injEq,
        Prod.exists, Prod.mk.injEq] at hfill
      obtain ⟨zones₁, zt₁, hfill₁, zone, zt₂, hzone, rfl, rfl⟩ := hfill
      obtain ⟨hown, hother⟩ := ih hfill₁
      constructor
      · intro k hk
        rcases Nat.lt_succ_iff_lt_or_eq.mp hk with hk | rfl
        · rw [Function.update_of_ne (by omega)]
          exact hown k hk
        · rw [Function.update_self]
          exact TariffPeriod.putOn_zone hzone
      · intro k hk
        rw [Function.update_of_ne (by omega)]
        exact hother k (by omega)

/-- What the arrays hold after `getDayInfo` for the day `date`. -/
structure Tables.DayInfo (tables : Tables) (iTransType date : ℤ) (before day : Day) : Prop where
  maxZone_bounds : 1 ≤ day.maxZone ∧ day.maxZone ≤ 9
  yesterday : ∃ k < 9, ((tables.tariffOf iTransType (date - 1)).period k).PutOn
    (tables.timeZone.midnight (date - 1)) (day.zones 0)
  own : ∀ k < day.maxZone, ((tables.tariffOf iTransType date).period k).PutOn
    (tables.timeZone.midnight date) (day.zones (k + 1))
  boundary : ∃ rateType gt zoneTime, tables.timeZone.midnight (date + 1) ≤ zoneTime ∧
    zoneTime < tables.timeZone.midnight (date + 1 + 1) ∧
    day.zones (day.maxZone + 1) = { before.zones (day.maxZone + 1) with rateType, gt, zoneTime }
  behind : ∀ k, day.maxZone + 1 < k → day.zones k = before.zones k
  zoneCutoff : stoi (tables.tariffOf iTransType date).zoneCutoff = some day.iZoneCutoff
  mode : ∃ min max, stod (tables.tariffOf iTransType date).wholeDayMin = some min ∧
    stod (tables.tariffOf iTransType date).wholeDayMax = some max ∧
    day.b24HourBlock = isBlockDay min max ∧
    (isBlockDay min max = true → day.dayMin = 0 ∧ day.dayMax = 0 ∧ day.s24HourFee = ⌊min⌋) ∧
    (isBlockDay min max = false → day.dayMin = min ∧ day.dayMax = max)

theorem Tables.getDayInfo_spec {tables : Tables} {iTransType date : ℤ} {before day : Day}
    (hday : tables.getDayInfo iTransType date before = .ok day) :
    tables.DayInfo iTransType date before day := by
  simp only [Tables.getDayInfo, bind_eq_ok, orThrow_eq_ok, Prod.exists] at hday
  obtain ⟨lastZone, hlastZone, zone, zt₁, hzone, maxZone, hcheck, zones, zt₂, hfill, dayMin, hmin, dayMax,
    hmax, iZoneCutoff, hcutoff, iDayCutoff, -, hday⟩ := hday
  obtain ⟨hown, hother⟩ := TariffStruct.fillZones_spec hfill
  have hyesterday : zones 0 = zone := by
    rw [hother 0 (Or.inl rfl), Function.update_self]
  split at hday
  · cases hday
  · simp only [bind_eq_ok, orThrow_eq_ok] at hday
    obtain ⟨iNextGT, -, iNextRT, -, hday⟩ := hday
    generalize hlast : (timeOfDay ((tables.tariffOf iTransType (date + 1)).period 0).startTime).getD
      zt₂ = last at hday
    -- the two modes differ in the limits of the day only
    have hcells : day.maxZone = maxZone ∧ day.iZoneCutoff = iZoneCutoff ∧
        day.zones = Function.update zones (maxZone + 1) { zones (maxZone + 1) with
          rateType := iNextRT
          gt := iNextGT
          zoneTime := tables.timeZone.midnight (date + 1) +
            if iDayCutoff = 1 then 0 else last.seconds } := by
      split at hday <;> (obtain rfl := Except.ok.inj hday; exact ⟨rfl, rfl, rfl⟩)
    obtain ⟨hmaxZone, hzoneCutoff, hzones⟩ := hcells
    refine ⟨?_, ?_, ?_, ?_, ?_, ?_, ?_⟩
    · exact hmaxZone ▸ TariffStruct.bounds_of_check hcheck
    · rw [hzones, Function.update_of_ne (by omega), hyesterday]
      have hbounds := TariffStruct.bounds_of_check hlastZone
      exact ⟨lastZone - 1, by omega, TariffPeriod.putOn_zone hzone⟩
    · intro k hk
      rw [hzones, Function.update_of_ne (by omega)]
      exact hown k (hmaxZone ▸ hk)
    · have hnonneg := last.nonneg
      have hlt := last.lt_day
      have hcell : zones (maxZone + 1) = before.zones (maxZone + 1) := by
        rw [hother _ (by omega), Function.update_of_ne (by omega)]
      rw [hzones, hmaxZone, Function.update_self, hcell]
      refine ⟨_, _, _, ?_, ?_, rfl⟩
      · split <;> omega
      · rw [tables.timeZone.midnight_succ (date + 1)]
        split <;> omega
    · intro k hk
      rw [hzones, Function.update_of_ne (by omega), hother k (by omega),
        Function.update_of_ne (by omega)]
    · exact hzoneCutoff ▸ hcutoff
    · refine ⟨dayMin, dayMax, hmin, hmax, ?_⟩
      split at hday
      · rename_i hblock
        obtain rfl := Except.ok.inj hday
        simp [hblock]
      · rename_i hblock
        obtain rfl := Except.ok.inj hday
        simp [hblock]

namespace Tables.DayInfo

variable {tables : Tables} {iTransType date : ℤ} {before day : Day}
  (hday : tables.DayInfo iTransType date before day)

include hday

/-- A zone that can be selected is one of the day or of the day before. -/
theorem cell {k : ℕ} (hk : k ≤ day.maxZone) :
    ∃ d, (d = date - 1 ∨ d = date) ∧ ∃ j < 9,
      ((tables.tariffOf iTransType d).period j).PutOn (tables.timeZone.midnight d)
        (day.zones k) := by
  cases k with
  | zero =>
      obtain ⟨j, hj, hput⟩ := hday.yesterday
      exact ⟨date - 1, Or.inl rfl, j, hj, hput⟩
  | succ k =>
      have hmax := hday.maxZone_bounds.2
      exact ⟨date, Or.inr rfl, k, by omega, hday.own k (by omega)⟩

/-- What the periods of the table satisfy, and the arrays before, the arrays satisfy now. -/
theorem forall_zones {P : Zone → Prop}
    (hplace : ∀ zone rateType gt zoneTime, P zone → P { zone with rateType, gt, zoneTime })
    (hrow : ∀ dayType, ∀ k < 9,
      ∀ numbers ∈ ((tables.gtariff iTransType dayType).period k).numbers, P numbers)
    (hbefore : ∀ k, P (before.zones k)) (k : ℕ) : P (day.zones k) := by
  rcases Nat.lt_trichotomy k (day.maxZone + 1) with hlt | rfl | hgt
  · obtain ⟨d, -, j, hj, numbers, hnumbers, time, hzone⟩ := hday.cell (Nat.lt_succ_iff.mp hlt)
    rw [hzone]
    exact hplace _ _ _ _ (hrow _ j hj numbers hnumbers)
  · obtain ⟨rateType, gt, zoneTime, -, -, hboundary⟩ := hday.boundary
    rw [hboundary]
    exact hplace _ _ _ _ (hbefore _)
  · rw [hday.behind k hgt]
    exact hbefore k

end Tables.DayInfo

/-! ## The modes -/

namespace Tables

/-- The local day is in 24-hour-block mode. -/
def isBlockMode (tables : Tables) (iTransType day : ℤ) : Bool :=
  match stod (tables.tariffOf iTransType day).wholeDayMin,
      stod (tables.tariffOf iTransType day).wholeDayMax with
  | some dayMin, some dayMax => isBlockDay dayMin dayMax
  | _, _ => false

/-- `whole_day_min` of a local day; `0` when it is not a number. -/
def wholeDayMin (tables : Tables) (iTransType day : ℤ) : ℚ :=
  (stod (tables.tariffOf iTransType day).wholeDayMin).getD 0

theorem wholeDayMin_pos {tables : Tables} {iTransType day : ℤ}
    (hmode : tables.isBlockMode iTransType day = true) : 0 < tables.wholeDayMin iTransType day := by
  unfold isBlockMode at hmode
  unfold wholeDayMin
  split at hmode
  · rename_i dayMin dayMax hmin hmax
    rw [hmin]
    simp only [isBlockDay, Bool.and_eq_true, decide_eq_true_eq] at hmode
    exact hmode.2
  · cases hmode

/-- The mode of the arrays is the mode of the day they were filled for. -/
theorem DayInfo.b24HourBlock_eq {tables : Tables} {iTransType date : ℤ} {before day : Day}
    (hday : tables.DayInfo iTransType date before day) :
    day.b24HourBlock = tables.isBlockMode iTransType date ∧
      (tables.isBlockMode iTransType date = true →
        day.s24HourFee = ⌊tables.wholeDayMin iTransType date⌋) := by
  obtain ⟨dayMin, dayMax, hmin, hmax, hblock, hlimits, -⟩ := hday.mode
  have hmode : tables.isBlockMode iTransType date = isBlockDay dayMin dayMax := by
    simp only [isBlockMode, hmin, hmax]
  refine ⟨hblock.trans hmode.symm, fun hon => ?_⟩
  rw [(hlimits (hmode ▸ hon)).2.2]
  simp only [wholeDayMin, hmin, Option.getD_some]

end Tables

/-- The error codes of the calculation. -/
def IsErrorCode (value : ℚ) : Prop := value = -2 ∨ value = -3 ∨ value = -4

instance (value : ℚ) : Decidable (IsErrorCode value) := inferInstanceAs (Decidable (_ ∨ _))

theorem IsErrorCode.neg {value : ℚ} (hcode : IsErrorCode value) : value < 0 := by
  rcases hcode with rfl | rfl | rfl <;> decide

/-- An early ending that is not the end of the grace time: an error code, or an exception. -/
def Ending.IsError (ending : Ending) : Prop := ∀ value, ending = .returned value → IsErrorCode value

theorem isError_of_orThrow {α : Type*} {option : Option α} {ending : Ending}
    (herror : orThrow option = .error ending) : ending.IsError := by
  rw [orThrow_eq_error herror]
  exact fun value hvalue => by cases hvalue

theorem TariffStruct.isError_of_check {tariff : TariffStruct} {ending : Ending}
    (hcheck : tariff.check = .error ending) : ending.IsError := by
  unfold TariffStruct.check at hcheck
  split_ifs at hcheck <;> cases hcheck <;>
    exact fun value hvalue => by cases hvalue; decide

theorem Tables.isError_of_getDayInfo {tables : Tables} {iTransType date : ℤ} {before : Day}
    {ending : Ending} (hday : tables.getDayInfo iTransType date before = .error ending) :
    ending.IsError := by
  simp only [Tables.getDayInfo, bind_eq_error, orThrow_eq_ok] at hday
  obtain hcheck | ⟨_, _, hzone | ⟨_, _, hcheck | ⟨_, _, hfill | ⟨_, _, hmin | ⟨_, _, hmax |
    ⟨_, _, hcutoff | ⟨_, _, hdayCutoff | ⟨_, _, hday⟩⟩⟩⟩⟩⟩⟩⟩ := hday
  · exact TariffStruct.isError_of_check hcheck
  · exact isError_of_orThrow hzone
  · exact TariffStruct.isError_of_check hcheck
  · exact isError_of_orThrow hfill
  · exact isError_of_orThrow hmin
  · exact isError_of_orThrow hmax
  · exact isError_of_orThrow hcutoff
  · exact isError_of_orThrow hdayCutoff
  · split at hday
    · cases hday
      exact fun value hvalue => by cases hvalue; decide
    · simp only [bind_eq_error, orThrow_eq_ok] at hday
      obtain hgrace | ⟨_, _, hrate | ⟨_, _, hday⟩⟩ := hday
      · exact isError_of_orThrow hgrace
      · exact isError_of_orThrow hrate
      · split at hday <;> cases hday

end LinuxPBS.Tariff

import Mathlib.Algebra.BigOperators.Intervals
import Mathlib.Data.Int.Interval
import Mathlib.Data.Int.ConditionallyCompleteOrder
import Mathlib.Data.Int.SuccPred
import Mathlib.Algebra.Order.SuccPred
import Mathlib.Algebra.Order.BigOperators.Group.Finset
import Mathlib.Tactic.NormNum
import LinuxPBS.Tariff.Amounts

/-!
# The daily cap

`whole_day_max` limits what is charged for one day.  The day fee is settled in
three places: when the current point has left the day, behind the loop after a
`break` out of the free periods or the allowance, and behind the loop after its
regular end.  In all of them the limits in force are those of the day `PD` that
is settled:

* between turns, `charge` is at most the sum of the maxima of the days before
  `PD` (`Capped.charge_le`);
* as long as the day is loaded, the limits in hand are its own
  (`Capped.limits`), and once it is settled there is no day fee until the next
  day is loaded (`Capped.settled`).

A loop that goes round is not yet at the pay time, also not at the pay time
before it was rounded up.  Hence `PD` never comes behind the date of the pay
time that was asked for, and a day that only the rounding reaches is not
charged.
-/

namespace LinuxPBS.Tariff

open Loop CxxText

/-- `whole_day_max` of a local day; `0` when it is not a number. -/
def Tables.wholeDayMax (tables : Tables) (iTransType day : ℤ) : ℚ :=
  (stod (tables.tariffOf iTransType day).wholeDayMax).getD 0

/-- The day has a maximum, which its minimum does not exceed, and is not in 24-hour-block
mode. -/
def Tables.HasCap (tables : Tables) (iTransType day : ℤ) : Prop :=
  ∃ dayMin dayMax, stod (tables.tariffOf iTransType day).wholeDayMin = some dayMin ∧
    stod (tables.tariffOf iTransType day).wholeDayMax = some dayMax ∧
    0 < dayMax ∧ dayMin ≤ dayMax ∧ isBlockDay dayMin dayMax = false

theorem Tables.HasCap.wholeDayMax_pos {tables : Tables} {iTransType day : ℤ}
    (hcap : tables.HasCap iTransType day) : 0 < tables.wholeDayMax iTransType day := by
  obtain ⟨dayMin, dayMax, -, hmax, hpos, -⟩ := hcap
  unfold Tables.wholeDayMax
  rw [hmax]
  exact hpos

namespace Stay

variable {stay : Stay} {lastDay : ℤ} {state next : FeeState}

/-- The sum of the maxima of the days before `day`. -/
noncomputable def capBefore (stay : Stay) (day : ℤ) : ℚ :=
  ∑ d ∈ Finset.Ico (stay.tables.timeZone.day stay.entryTime) day,
    stay.tables.wholeDayMax stay.iTransType d

theorem capBefore_succ {day : ℤ} (hle : stay.tables.timeZone.day stay.entryTime ≤ day) :
    stay.capBefore (day + 1) =
      stay.capBefore day + stay.tables.wholeDayMax stay.iTransType day := by
  unfold capBefore
  rw [← Finset.insert_Ico_right_eq_Ico_add_one hle, Finset.sum_insert Finset.right_notMem_Ico,
    add_comm]

/-- What is charged is covered by the maxima of the days up to `lastDay`. -/
structure Capped (stay : Stay) (lastDay : ℤ) (state : FeeState) : Prop where
  entry_le : stay.tables.timeZone.day stay.entryTime ≤ state.pd
  pd_le : state.pd ≤ lastDay + 1
  charge_le : state.charge ≤ stay.capBefore state.pd
  settled : state.bGotDayInfo = false → state.dayFee = 0
  limits : state.bGotDayInfo = true → state.pd ≤ lastDay ∧ 0 < state.day.dayMax ∧
    state.day.dayMin ≤ state.day.dayMax ∧
    state.day.dayMax = stay.tables.wholeDayMax stay.iTransType state.pd
  noBlocks : state.day.b24HourBlock = false

/-- Settling a day charges no more than its maximum. -/
theorem Capped.settled_le (hcapped : stay.Capped lastDay state) (hgot : state.bGotDayInfo = true)
    (fee : ℚ) : state.charge + limitFee state.day.dayMin state.day.dayMax fee ≤
      stay.capBefore (state.pd + 1) := by
  obtain ⟨-, hpos, hle, hmax⟩ := hcapped.limits hgot
  rw [capBefore_succ hcapped.entry_le, ← hmax]
  exact add_le_add hcapped.charge_le (limitFee_le hpos hle fee)

section

variable (hcap : ∀ day, stay.tables.timeZone.day stay.entryTime ≤ day → day ≤ lastDay →
  stay.tables.HasCap stay.iTransType day)

include hcap

theorem capBefore_le {day : ℤ} (hday : day ≤ lastDay + 1) :
    stay.capBefore day ≤ stay.capBefore (lastDay + 1) := by
  refine Finset.sum_le_sum_of_subset_of_nonneg (Finset.Ico_subset_Ico_right hday) ?_
  intro d hd _
  have hbounds := Finset.mem_Ico.mp hd
  exact (hcap d hbounds.1 (by omega)).wholeDayMax_pos.le

/-- The code behind the loop charges no more than the maxima of the days. -/
theorem Capped.total_le (hmode : stay.tables.paras.giTariffFeeMode = 0)
    (hcapped : stay.Capped lastDay state) : stay.total state ≤ stay.capBefore (lastDay + 1) := by
  have hfinal : finalCharge state ≤ stay.capBefore (lastDay + 1) := by
    unfold finalCharge
    split
    · rename_i hfee
      have hgot : state.bGotDayInfo = true := by
        by_contra hnot
        rw [hcapped.settled (by simpa using hnot)] at hfee
        exact lt_irrefl _ hfee
      have hpd := (hcapped.limits hgot).1
      exact (hcapped.settled_le hgot _).trans (capBefore_le hcap (by omega))
    · exact hcapped.charge_le.trans (capBefore_le hcap hcapped.pd_le)
  simpa [total, addBlocks, hcapped.noBlocks, hmode] using hfinal

theorem Capped.getDay (hcapped : stay.Capped lastDay state) (hpd : state.pd ≤ lastDay)
    (hget : stay.getDay state = .ok next) : stay.Capped lastDay next ∧ next.bGotDayInfo = true := by
  obtain ⟨hgot, rfl⟩ | ⟨-, day, hday, rfl⟩ := getDay_eq_ok hget
  · exact ⟨hcapped, hgot⟩
  · obtain ⟨dayMin, dayMax, hmin, hmax, hpos, hle, hmode⟩ := hcap _ hcapped.entry_le hpd
    obtain ⟨dayMin', dayMax', hmin', hmax', hblock, -, hlimits⟩ := hday.mode
    -- the row that was read is the row the hypothesis is about
    obtain rfl : dayMin = dayMin' := Option.some.inj (hmin.symm.trans hmin')
    obtain rfl : dayMax = dayMax' := Option.some.inj (hmax.symm.trans hmax')
    obtain ⟨hdayMin, hdayMax⟩ := hlimits hmode
    refine ⟨⟨hcapped.entry_le, hcapped.pd_le, hcapped.charge_le, (fun hgot => by cases hgot),
      fun _ => ⟨hpd, ?_, ?_, ?_⟩, ?_⟩, rfl⟩
    · exact hdayMax ▸ hpos
    · exact hdayMin ▸ hdayMax ▸ hle
    · simp only [Tables.wholeDayMax, hmax, hdayMax, Option.getD_some]
    · exact hblock.trans hmode

/-- What a turn has gone through before the fee of the zone does not touch the charges. -/
theorem Capped.enterZone (hcapped : stay.Capped lastDay state) (hpd : state.pd ≤ lastDay)
    (henter : stay.enterZone state = .ok next) :
    stay.Capped lastDay next ∧ next.bGotDayInfo = true := by
  obtain ⟨-, loaded, hget, selected, hselect, rfl⟩ := enterZone_eq_ok henter
  obtain ⟨hloaded, hgot⟩ := hcapped.getDay hcap hpd hget
  obtain ⟨-, rfl⟩ | ⟨-, zone, -, -, -, rfl⟩ := selectZone_eq_ok hselect
  · exact ⟨⟨hloaded.entry_le, hloaded.pd_le, hloaded.charge_le, hloaded.settled, hloaded.limits,
      hloaded.noBlocks⟩, hgot⟩
  · exact ⟨⟨hloaded.entry_le, hloaded.pd_le, hloaded.charge_le, hloaded.settled, hloaded.limits,
      hloaded.noBlocks⟩, hgot⟩

omit hcap in
/-- The fee of a loaded day, and where the current point lies, do not matter. -/
theorem Capped.withFee (hcapped : stay.Capped lastDay state) (hgot : state.bGotDayInfo = true)
    (pt : ℤ) (dayFee : ℚ) : stay.Capped lastDay { state with pt, dayFee } where
  entry_le := hcapped.entry_le
  pd_le := hcapped.pd_le
  charge_le := hcapped.charge_le
  settled := fun hnot => by
    change state.bGotDayInfo = false at hnot
    rw [hgot] at hnot
    cases hnot
  limits := hcapped.limits
  noBlocks := hcapped.noBlocks

omit hcap in
theorem Capped.addZoneFee (hcapped : stay.Capped lastDay state) (hgot : state.bGotDayInfo = true)
    (hmoved : state.Moved next) (fee : ℚ) :
    stay.Capped lastDay (addZoneFee next fee) ∧ (addZoneFee next fee).bGotDayInfo = true := by
  obtain ⟨pt, bFirstFreed, bMCPerDayChecked, rfl⟩ := hmoved
  have hfee := hcapped.withFee hgot pt
    (state.dayFee + limitFee state.currentMin state.currentMax fee)
  exact ⟨⟨hfee.entry_le, hfee.pd_le, hfee.charge_le, hfee.settled, hfee.limits, hfee.noBlocks⟩,
    hgot⟩

omit hcap in
theorem Capped.settleDay (hcapped : stay.Capped lastDay state) (hgot : state.bGotDayInfo = true) :
    stay.Capped lastDay (stay.settleDay state) := by
  unfold Stay.settleDay
  split
  · have hpd := (hcapped.limits hgot).1
    exact ⟨hcapped.entry_le.trans (by simp), add_le_add_left hpd 1, hcapped.settled_le hgot _,
      fun _ => rfl, (fun hgot => by cases hgot), hcapped.noBlocks⟩
  · exact hcapped

end

/-! ## The run -/

section

variable (hcap : ∀ day, stay.tables.timeZone.day stay.entryTime ≤ day → day ≤ lastDay →
  stay.tables.HasCap stay.iTransType day)

include hcap

/-- A turn that goes round again. -/
theorem Capped.turn {fuel : ℕ} (hlast : ∀ pt, 0 < stay.minutesLeft pt →
    stay.tables.timeZone.day pt ≤ lastDay) (hcapped : stay.Capped lastDay state)
    (hpd : state.pd ≤ lastDay) (hturn : stay.turn fuel state = some (.ok next)) :
    stay.Capped lastDay next ∧ next.pd ≤ lastDay := by
  obtain ⟨entered, henter, moved, fee, hfee, hsettle⟩ := turn_eq_ok hturn
  obtain ⟨hentered, hgot⟩ := hcapped.enterZone hcap hpd henter
  obtain ⟨hadded, hgot⟩ := hentered.addZoneFee hgot (zoneFee_moved hfee) fee
  obtain ⟨rfl, hleft⟩ := settle_eq_ok hsettle
  refine ⟨hadded.settleDay hgot, ?_⟩
  -- a day that is settled lies in front of the day of the current point
  have hday := hlast _ hleft
  rw [settleDay_pt] at hday
  unfold Stay.settleDay
  split
  · rename_i hpast
    exact (Int.add_one_le_iff.mpr hpast).trans hday
  · exact (hadded.limits hgot).1

/-- A turn that leaves the loop by a `break`. -/
theorem Capped.broke {fuel : ℕ} {last : FeeState} (hcapped : stay.Capped lastDay state)
    (hpd : state.pd ≤ lastDay) (hturn : stay.turn fuel state = some (.error (.broke last))) :
    stay.Capped lastDay last := by
  obtain henter | ⟨entered, henter, hfee | ⟨moved, fee, hfee, hsettle⟩⟩ := turn_eq_error hturn
  · -- at the head of the loop
    obtain ⟨-, hexit⟩ | ⟨-, ⟨_, hexit, -⟩ | ⟨_, _, _, _, _, _, _, hexit⟩⟩ :=
      enterZone_eq_error henter <;> cases hexit
    exact hcapped
  · -- within the allowance, or out of the free periods
    obtain ⟨hentered, hgot⟩ := hcapped.enterZone hcap hpd henter
    obtain ⟨-, ⟨_, hexit, -⟩ | ⟨-, hexit⟩ | ⟨-, -, hexit⟩⟩ := zoneFee_eq_error hfee <;>
      cases hexit
    · exact hentered
    · exact hentered.withFee hgot _ _
  · -- at the end of the turn
    obtain ⟨hentered, hgot⟩ := hcapped.enterZone hcap hpd henter
    obtain ⟨hadded, hgot⟩ := hentered.addZoneFee hgot (zoneFee_moved hfee) fee
    cases (settle_eq_error hsettle).1
    exact hadded.settleDay hgot

end

/-- A run charges no more than the maxima of the days up to `lastDay`. -/
theorem value_le_capBefore (stay : Stay) {lastDay : ℤ}
    (hcap : ∀ day, stay.tables.timeZone.day stay.entryTime ≤ day → day ≤ lastDay →
      stay.tables.HasCap stay.iTransType day) (hmode : stay.tables.paras.giTariffFeeMode = 0)
    (hentry : stay.tables.timeZone.day stay.entryTime ≤ lastDay)
    (hlast : ∀ pt, 0 < stay.minutesLeft pt → stay.tables.timeZone.day pt ≤ lastDay)
    {fuel : ℕ} {bNoGT : Bool} {exit : Exit} (hrun : stay.run fuel bNoGT = some exit) {fee : ℚ}
    (hfee : stay.value exit = some fee) : fee ≤ stay.capBefore (lastDay + 1) := by
  have hzero : stay.capBefore (stay.tables.timeZone.day stay.entryTime) = 0 := by
    simp [capBefore]
  have hnonneg : 0 ≤ stay.capBefore (lastDay + 1) :=
    hzero.ge.trans (capBefore_le hcap (by omega))
  have hstart : stay.Capped lastDay (stay.start bNoGT) ∧ (stay.start bNoGT).pd ≤ lastDay :=
    ⟨⟨le_rfl, hentry.trans (by omega), hzero.ge, fun _ => rfl, (fun hgot => by cases hgot), rfl⟩,
      hentry⟩
  refine loop_invariant (fun state => stay.Capped lastDay state ∧ state.pd ≤ lastDay)
    (fun exit => ∀ fee, stay.value exit = some fee → fee ≤ stay.capBefore (lastDay + 1))
    ?_ ?_ hstart hrun fee hfee
  · exact fun state next hcapped hturn => hcapped.1.turn hcap hlast hcapped.2 hturn
  · intro state exit hcapped hturn fee hfee
    cases exit with
    | broke last =>
        obtain rfl := Option.some.inj hfee
        exact (hcapped.1.broke hcap hcapped.2 hturn).total_le hcap hmode
    | ended ending =>
        -- an error code is negative, and the grace time costs nothing
        cases ending with
        | threw => cases hfee
        | returned value =>
            obtain rfl := Option.some.inj hfee
            rcases turn_eq_ended hturn with herror | ⟨hgrace, -⟩
            · exact (herror value rfl).neg.le.trans hnonneg
            · obtain rfl := Ending.returned.inj hgrace
              exact hnonneg

end Stay

/-- The fee is at most the sum of the daily maxima up to the date of the pay time.  When the
rounding of the pay time reaches one more day, that day only adds its own maximum. -/
theorem calFeeRAM2GR_le_wholeDayMax {tables : Tables} {fuel : ℕ}
    {entryTime payDT iTransType : ℤ} {bNoGT : Bool} {fee : ℚ}
    (hmode : tables.paras.giTariffFeeMode = 0)
    (hcap : ∀ day ∈ Finset.Icc (tables.timeZone.day entryTime) (tables.timeZone.day payDT),
      tables.HasCap iTransType day)
    (hfee : calFeeRAM2GR tables fuel entryTime payDT iTransType bNoGT = some (some fee)) :
    fee ≤ ∑ day ∈ Finset.Icc (tables.timeZone.day entryTime) (tables.timeZone.day payDT),
        tables.wholeDayMax iTransType day ∧
      (0 ≤ tables.wholeDayMax iTransType (tables.timeZone.day (roundUp entryTime payDT)) →
        fee ≤ ∑ day ∈ Finset.Icc (tables.timeZone.day entryTime)
          (tables.timeZone.day (roundUp entryTime payDT)), tables.wholeDayMax iTransType day) := by
  have hpos : ∀ day ∈ Finset.Icc (tables.timeZone.day entryTime) (tables.timeZone.day payDT),
      0 ≤ tables.wholeDayMax iTransType day := fun day hday => (hcap day hday).wholeDayMax_pos.le
  have hle : fee ≤ ∑ day ∈ Finset.Icc (tables.timeZone.day entryTime)
      (tables.timeZone.day payDT), tables.wholeDayMax iTransType day := by
    simp only [calFeeRAM2GR] at hfee
    split at hfee
    · obtain rfl := Option.some.inj (Option.some.inj hfee)
      exact Finset.sum_nonneg hpos
    · rename_i hpay
      obtain ⟨exit, hrun, hvalue⟩ := Option.map_eq_some_iff.mp hfee
      have hentry : tables.timeZone.day entryTime ≤ tables.timeZone.day payDT := by
        refine tables.timeZone.day_le_of_minute_le ?_
        unfold diffmin at hpay
        omega
      have hle := Stay.value_le_capBefore
        (tables.stay entryTime payDT iTransType) (fun day hfirst hlast => hcap day (Finset.mem_Icc.mpr ⟨hfirst, hlast⟩)) hmode hentry
        (fun pt hleft => tables.timeZone.day_le_of_minute_le (minute_le_of_lt_roundUp hleft))
        hrun hvalue
      rwa [Stay.capBefore, Finset.Ico_add_one_right_eq_Icc] at hle
  refine ⟨hle, fun hround => hle.trans ?_⟩
  have hdays := tables.timeZone.day_le_roundUp entryTime payDT
  refine Finset.sum_le_sum_of_subset_of_nonneg (Finset.Icc_subset_Icc_right hdays.1) ?_
  intro day hday hnot
  rw [Finset.mem_Icc] at hday hnot
  obtain rfl : day = tables.timeZone.day (roundUp entryTime payDT) := by omega
  exact hround

theorem Tables.hasCap_ofRow {row : TariffStruct} (paras : TParas) {dayMin dayMax : ℚ}
    (hmin : stod row.wholeDayMin = some dayMin) (hmax : stod row.wholeDayMax = some dayMax)
    (hlimits : 0 < dayMax ∧ dayMin < dayMax) (iTransType day : ℤ) :
    (Tables.ofRow row paras).HasCap iTransType day :=
  ⟨dayMin, dayMax, hmin, hmax, hlimits.1, hlimits.2.le, by simp [isBlockDay, hlimits.2.ne]⟩

/-- An hourly zone in the day and a per-entry zone in the night, at most 9.50 a day. -/
def cappedRow : TariffStruct :=
  { TariffStruct.plain [.plain "08:00:00" "19:00:00" "1" "60" "1.2",
      .plain "19:00:00" "08:00:00" "2" "0" "4"] with wholeDayMin := "2", wholeDayMax := "9.5" }

/-- Paid ten seconds before midnight: the rounding reaches the next day. -/
theorem calFeeRAM2GR_le_wholeDayMax_overMidnight :
    (15.9 : ℚ) ≤ ∑ day ∈ Finset.Icc ((Tables.ofRow cappedRow {}).timeZone.day 1767258000)
          ((Tables.ofRow cappedRow {}).timeZone.day 1767369590),
        (Tables.ofRow cappedRow {}).wholeDayMax 0 day ∧
      (0 ≤ (Tables.ofRow cappedRow {}).wholeDayMax 0
          ((Tables.ofRow cappedRow {}).timeZone.day (roundUp 1767258000 1767369590)) →
        (15.9 : ℚ) ≤ ∑ day ∈ Finset.Icc ((Tables.ofRow cappedRow {}).timeZone.day 1767258000)
          ((Tables.ofRow cappedRow {}).timeZone.day (roundUp 1767258000 1767369590)),
          (Tables.ofRow cappedRow {}).wholeDayMax 0 day) :=
  have hmin : stod cappedRow.wholeDayMin = some 2 := by decide +kernel
  have hmax : stod cappedRow.wholeDayMax = some 9.5 := by decide +kernel
  have hfee : calFeeRAM2GR (.ofRow cappedRow {}) 20 1767258000 1767369590 0 false =
      some (some 15.9) := by decide +kernel
  calFeeRAM2GR_le_wholeDayMax rfl
    (fun day _ => Tables.hasCap_ofRow {} hmin hmax (by norm_num) 0 day) hfee

end LinuxPBS.Tariff

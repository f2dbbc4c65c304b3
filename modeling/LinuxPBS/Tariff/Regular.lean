import LinuxPBS.Tariff.Termination
import LinuxPBS.Tariff.ZonePair

/-!
# Ordinary tables

What a table has to satisfy for its fees to be compared, and what then holds at
the head of every turn of the outer loop (`Stay.Regular`): the loop goes on
(`Steady`), nothing that is charged is taken back (`Owing`), no day is in block
mode, and the maxima of the zones cover their additions.
-/

namespace LinuxPBS.Tariff

open Loop CxxText

/-! ## What the tables have to satisfy -/

/-- A zone whose times and amounts are not negative, with blocks of positive length when it is
hourly, and with a maximum that covers its minimum and its additions, if it has one. -/
structure Zone.Ordinary (zone : Zone) : Prop where
  amounts : zone.Amounts
  freeTimes : zone.FreeTimes
  blocks : zone.Blocks
  limits : 0 ≤ zone.zoneMin ∧ 0 ≤ zone.zoneMax ∧ 0 ≤ zone.iAllowance
  max : zone.zoneMax ≠ 0 → zone.adds ≤ zone.zoneMax ∧ zone.zoneMin ≤ zone.zoneMax

/-- The maximum of a zone, if there is one, covers its additions and its minimum. -/
def Zone.CoversAdds (zone : Zone) : Prop :=
  0 < zone.zoneMax → zone.adds ≤ zone.zoneMax ∧ zone.zoneMin ≤ zone.zoneMax

/-- The rows of a transaction type are ordinary. -/
structure Tables.Ordinary (tables : Tables) (iTransType : ℤ) : Prop where
  zones : ∀ dayType, ∀ k < 9,
    ∀ numbers ∈ ((tables.gtariff iTransType dayType).period k).numbers, numbers.Ordinary
  dayLimits : ∀ dayType, (∀ amount ∈ stod (tables.gtariff iTransType dayType).wholeDayMin, 0 ≤ amount) ∧
    ∀ amount ∈ stod (tables.gtariff iTransType dayType).wholeDayMax, 0 ≤ amount

theorem Tables.Ordinary.advances {tables : Tables} {iTransType : ℤ}
    (hordinary : tables.Ordinary iTransType) : tables.Advances iTransType :=
  fun dayType k hk numbers hnumbers =>
    ⟨(hordinary.zones dayType k hk numbers hnumbers).freeTimes,
      (hordinary.zones dayType k hk numbers hnumbers).blocks⟩

theorem Tables.Ordinary.nonNegative {tables : Tables} {iTransType : ℤ}
    (hordinary : tables.Ordinary iTransType) : tables.NonNegative iTransType :=
  fun dayType k hk numbers hnumbers => (hordinary.zones dayType k hk numbers hnumbers).amounts

namespace Stay

variable {stay : Stay} {state next : FeeState}

/-- What the arrays satisfy at any time. -/
structure Plain (day : Day) : Prop where
  noBlocks : day.b24HourBlock = false
  max : ∀ k, (day.zones k).CoversAdds

/-- An allowance and a maximum come together on a day with cut-off only. -/
def ArraysCutOff (stay : Stay) (day : Day) : Prop :=
  ∀ k ≤ day.maxZone, 0 < (day.zones k).zoneMax → 0 < (day.zones k).iAllowance →
    stay.CutsOff day.iZoneCutoff

/-- What holds at the head of the loop. -/
structure Regular (stay : Stay) (state : FeeState) : Prop where
  steady : stay.Steady state
  owing : Owing state
  entry_le : stay.tables.timeZone.day stay.entryTime ≤ state.pd
  plain : Plain state.day
  allowances : state.bGotDayInfo = true → stay.ArraysCutOff state.day
  grace : state.bNoGT = false → finalCharge state = 0

theorem regular_start (stay : Stay) (bNoGT : Bool) : stay.Regular (stay.start bNoGT) where
  steady := stay.steady_start bNoGT
  owing := owing_start bNoGT
  entry_le := le_rfl
  plain := ⟨rfl, fun k hmax => absurd hmax (lt_irrefl _)⟩
  allowances := fun hgot => by cases hgot
  grace := fun _ => rfl

/-- What the fee of the selected zone relies on. -/
structure Counted (stay : Stay) (state : FeeState) : Prop where
  selected : Selected state
  amounts : state.zone.Amounts
  covers : state.zone.CoversAdds
  allowances : stay.ArraysCutOff state.day
  rateType : state.currentRateType = 1 ∨ state.currentRateType = 2
  limits : state.currentMin = state.zone.zoneMin ∧ state.currentMax = state.zone.zoneMax

/-- A zone with a maximum and an allowance is only used on a day on which zones are cut off. -/
def AllowanceCutOff (stay : Stay) (day : ℤ) : Prop :=
  ∀ d, d = day - 1 ∨ d = day → ∀ k < 9,
    ∀ numbers ∈ ((stay.tables.tariffOf stay.iTransType d).period k).numbers,
      numbers.zoneMax = 0 ∨ numbers.iAllowance = 0 ∨
        ∃ iZoneCutoff ∈ stoi (stay.tables.tariffOf stay.iTransType day).zoneCutoff,
          stay.CutsOff iZoneCutoff

/-- The days of the stay: none in block mode, each with a cut-off where it needs one. -/
def RegularDays (stay : Stay) : Prop :=
  ∀ day, stay.tables.timeZone.day stay.entryTime ≤ day →
    day ≤ stay.tables.timeZone.day stay.currentTime →
    stay.tables.isBlockMode stay.iTransType day = false ∧ stay.AllowanceCutOff day

section Reached

variable (hordinary : stay.tables.Ordinary stay.iTransType) (hdays : stay.RegularDays)

include hordinary hdays

/-- The arrays of a loaded day. -/
theorem Regular.getDay (hregular : stay.Regular state)
    (hpd : state.pd ≤ stay.tables.timeZone.day stay.currentTime)
    (hget : stay.getDay state = .ok next) :
    Plain next.day ∧ stay.ArraysCutOff next.day := by
  obtain ⟨hgot, rfl⟩ | ⟨-, day, hday, rfl⟩ := getDay_eq_ok hget
  · exact ⟨hregular.plain, hregular.allowances hgot⟩
  · obtain ⟨hblocks, hcut⟩ := hdays _ hregular.entry_le hpd
    refine ⟨⟨hday.b24HourBlock_eq.1.trans hblocks, ?_⟩, ?_⟩
    · have hplace : ∀ (zone : Zone) rateType gt zoneTime, zone.CoversAdds →
          { zone with rateType, gt, zoneTime }.CoversAdds := fun _ _ _ _ hzone => hzone
      refine hday.forall_zones hplace ?_ hregular.plain.max
      intro dayType k hk numbers hnumbers hmax
      exact (hordinary.zones dayType k hk numbers hnumbers).max hmax.ne'
    · intro k hk hmax hallowance
      obtain ⟨d, hd, j, hj, numbers, hnumbers, time, hzone⟩ := hday.cell hk
      rw [hzone] at hmax hallowance
      rcases hcut d hd j hj numbers hnumbers with hzero | hzero | ⟨iZoneCutoff, hvalue, hcutsOff⟩
      · exact absurd hmax hzero.not_gt
      · exact absurd hallowance hzero.not_gt
      · exact Option.some.inj (hvalue.symm.trans hday.zoneCutoff) ▸ hcutsOff

theorem Regular.enterZone (hregular : stay.Regular state)
    (henter : stay.enterZone state = .ok next) :
    stay.Entered state next ∧ Plain next.day ∧ stay.Counted next := by
  have hentered := entered_of_enterZone hordinary.advances hregular.steady henter
  have hzones := (hregular.owing.enterZone hordinary.nonNegative henter).1.zones
  obtain ⟨hpd, loaded, hget, selected, hselect, rfl⟩ := enterZone_eq_ok henter
  obtain ⟨hplain, hallowances⟩ := hregular.getDay hordinary hdays hpd hget
  obtain ⟨hblocks, rfl⟩ | ⟨-, zone, rfl, hone, htwo, rfl⟩ := selectZone_eq_ok hselect
  · simp [blocksLeft, hplain.noBlocks] at hblocks
  · refine ⟨hentered, hplain, ?_⟩
    obtain ⟨hzero, -⟩ | ⟨hrate, hselected, -⟩ := hentered.zone
    · simp only at hzero
      omega
    · exact ⟨hselected, hzones _, hplain.max _, hallowances, hrate, rfl, rfl⟩

theorem Regular.turn {fuel : ℕ} (hregular : stay.Regular state)
    (hturn : stay.turn fuel state = some (.ok next)) : stay.Regular next := by
  have hsteady := (turn_decreases hordinary.advances hregular.steady hturn).1
  have howing := (hregular.owing.turn hordinary.nonNegative hturn).1
  have hgrace := bNoGT_of_turn hturn
  obtain ⟨entered, henter, moved, fee, hfee, hsettle⟩ := turn_eq_ok hturn
  obtain ⟨hentered, hplain, hcounted⟩ := hregular.enterZone hordinary hdays henter
  obtain ⟨pt, bFirstFreed, bMCPerDayChecked, rfl⟩ := zoneFee_moved hfee
  have hentry : stay.tables.timeZone.day stay.entryTime ≤ entered.pd :=
    hentered.pd_eq ▸ hregular.entry_le
  have hnext : next.day = entered.day ∧ entered.pd ≤ next.pd := by
    obtain ⟨rfl, -⟩ := settle_eq_ok hsettle
    unfold settleDay
    split
    · exact ⟨rfl, Int.le_add_one le_rfl⟩
    · exact ⟨rfl, le_rfl⟩
  refine ⟨hsteady, howing, hentry.trans hnext.2, hnext.1 ▸ hplain, fun _ => hnext.1 ▸ hcounted.allowances,
    fun hfalse => ?_⟩
  rw [hgrace] at hfalse
  cases hfalse

/-- The arrays are plain also where a turn leaves the loop. -/
theorem Regular.broke {fuel : ℕ} {last : FeeState} (hregular : stay.Regular state)
    (hturn : stay.turn fuel state = some (.error (.broke last))) : Plain last.day := by
  obtain henter | ⟨entered, henter, hfee | ⟨moved, fee, hfee, hsettle⟩⟩ := turn_eq_error hturn
  · obtain ⟨-, hexit⟩ | ⟨-, ⟨_, hexit, -⟩ | ⟨_, _, _, _, _, _, _, hexit⟩⟩ :=
      enterZone_eq_error henter <;> cases hexit
    exact hregular.plain
  · obtain ⟨-, hplain, -⟩ := hregular.enterZone hordinary hdays henter
    obtain ⟨-, ⟨_, hexit, -⟩ | ⟨-, hexit⟩ | ⟨-, -, hexit⟩⟩ := zoneFee_eq_error hfee <;>
      cases hexit
    · exact hplain
    · exact hplain
  · obtain ⟨-, hplain, -⟩ := hregular.enterZone hordinary hdays henter
    obtain ⟨pt, bFirstFreed, bMCPerDayChecked, rfl⟩ := zoneFee_moved hfee
    cases (settle_eq_error hsettle).1
    unfold settleDay
    split
    · exact hplain
    · exact hplain

/-- What is returned where a turn leaves the loop by a `break`. -/
theorem Regular.value_broke {fuel : ℕ} (hmode : stay.tables.paras.giTariffFeeMode = 0)
    (hregular : stay.Regular state) {last : FeeState}
    (hturn : stay.turn fuel state = some (.error (.broke last))) :
    stay.value (.broke last) = some (finalCharge last) := by
  have hplain := hregular.broke hordinary hdays hturn
  simp [value, total, addBlocks, hplain.noBlocks, hmode]

/-- From here on the calculation returns no less than has been charged. -/
theorem Regular.le_value {fuel : ℕ} (hmode : stay.tables.paras.giTariffFeeMode = 0)
    (hregular : stay.Regular state) {exit : Exit}
    (hturn : stay.turn fuel state = some (.error exit)) {fee : ℚ}
    (hfee : stay.value exit = some fee) (hcode : ¬ IsErrorCode fee) :
    finalCharge state ≤ fee := by
  cases exit with
  | broke last =>
      rw [hregular.value_broke hordinary hdays hmode hturn] at hfee
      obtain rfl := Option.some.inj hfee
      exact (hregular.owing.broke hordinary.nonNegative hturn).2
  | ended ending =>
      obtain herror | ⟨rfl, -, loaded, hget, selected, hselect, hgrace, -⟩ := turn_eq_ended hturn
      · cases ending with
        | threw => cases hfee
        | returned value =>
            obtain rfl := Option.some.inj hfee
            exact absurd (herror value rfl) hcode
      · -- within the grace time nothing has been charged
        obtain rfl := Option.some.inj hfee
        exact (hregular.grace (bNoGT_of_selectZone hget hselect hgrace).1).le

/-- No calculation returns less than nothing, unless it is an error. -/
theorem value_nonneg {fuel : ℕ} {bNoGT : Bool} (hmode : stay.tables.paras.giTariffFeeMode = 0)
    {exit : Exit} (hrun : stay.run fuel bNoGT = some exit) {fee : ℚ}
    (hfee : stay.value exit = some fee) (hcode : ¬ IsErrorCode fee) : 0 ≤ fee := by
  refine loop_invariant stay.Regular (fun exit => ∀ fee, stay.value exit = some fee →
    ¬ IsErrorCode fee → 0 ≤ fee) ?_ ?_ (stay.regular_start bNoGT) hrun fee hfee hcode
  · exact fun state next hregular hturn => hregular.turn hordinary hdays hturn
  · intro state exit hregular hturn fee hfee hcode
    exact hregular.owing.finalCharge_nonneg.trans
      (hregular.le_value hordinary hdays hmode hturn hfee hcode)

end Reached

end Stay

end LinuxPBS.Tariff

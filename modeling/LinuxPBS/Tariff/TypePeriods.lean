import Mathlib
import LinuxPBS.Tariff.TariffTypes

/-!
# Which tariff type charges which part of a stay

The two tariff types apply one after the other, each from its start until just before
its end.  A stay that begins and ends in these periods falls into at most two parts:

```text
entry and pay in one period    the whole stay, with the type of that period
entry in the first, pay in     from the entry to the end of the first period, with the first type;
the second                     from the start of the second period to the pay time, with the second
```

`CalFeeRAM2G` compares with `<=` at the start of a period and with `>` at its end.  A vehicle
that enters in the second in which the first period starts is therefore charged with the
second type, and one that pays in the second in which the second period starts is charged
for a part that has no length.
-/

namespace LinuxPBS.Tariff

open CxxText

variable {entryTime payTime : String}

/-- A part of a stay, and the tariff type it is charged with. -/
structure Part where
  index : Fin 2
  entryTime : String
  payTime : String
  deriving DecidableEq

/-- The half-open period in which a tariff type applies. -/
def TariffTypeInfo.Applies (info : TariffTypeInfo) (time : String) : Prop :=
  info.startTime ≤ time ∧ time < info.endTime

instance (info : TariffTypeInfo) (time : String) : Decidable (info.Applies time) :=
  inferInstanceAs (Decidable (_ ∧ _))

/-- The stay begins in the first period and ends behind it. -/
def Crosses (gtarifftypeinfo : Fin 2 → TariffTypeInfo) (entryTime payTime : String) : Prop :=
  entryTime < (gtarifftypeinfo 0).endTime ∧ (gtarifftypeinfo 0).endTime ≤ payTime

instance (gtarifftypeinfo : Fin 2 → TariffTypeInfo) (entryTime payTime : String) :
    Decidable (Crosses gtarifftypeinfo entryTime payTime) := inferInstanceAs (Decidable (_ ∧ _))

/-- The parts of a stay that lies in the two periods; none of them has length zero. -/
def partsOf (gtarifftypeinfo : Fin 2 → TariffTypeInfo) (entryTime payTime : String) : List Part :=
  if Crosses gtarifftypeinfo entryTime payTime then
    ⟨0, entryTime, (gtarifftypeinfo 0).endTime⟩ ::
      if (gtarifftypeinfo 1).startTime < payTime then
        [⟨1, (gtarifftypeinfo 1).startTime, payTime⟩]
      else []
  else if payTime < (gtarifftypeinfo 0).endTime then [⟨0, entryTime, payTime⟩]
  else [⟨1, entryTime, payTime⟩]

/-- The two parts of a stay that is cut in two, whatever their lengths. -/
def bothParts (gtarifftypeinfo : Fin 2 → TariffTypeInfo) (entryTime payTime : String) : List Part :=
  [⟨0, entryTime, (gtarifftypeinfo 0).endTime⟩, ⟨1, (gtarifftypeinfo 1).startTime, payTime⟩]

namespace TypedTables

variable (tables : TypedTables)

/-- The fees of the parts, added up. -/
def partsFee (fuel : ℕ) (transType : ℤ) (noGraceTime : Bool) : List Part → Option (Option ℚ)
  | [] => some (some 0)
  | part :: rest =>
      match tables.singleFee fuel part.index part.entryTime part.payTime transType noGraceTime with
      | some (some fee) => (partsFee fuel transType noGraceTime rest).map (·.map (fee + ·))
      | other => other

/-- What a stay in the two periods has to pay: the fees of its parts.  A stay that goes over
the end of the first period has its grace time once, as a whole. -/
def dueFee (fuel : ℕ) (entryTime payTime : String) (transType : ℤ) (noGraceTime : Bool) :
    Option (Option ℚ) :=
  let parts := partsOf tables.gtarifftypeinfo entryTime payTime
  if Crosses tables.gtarifftypeinfo entryTime payTime then
    match stoi ((tables.gtariff transType 1).period 0).graceTime with
    | none => some none
    | some graceTime =>
        if diffmin (tables.setTime entryTime) (tables.setTime payTime) ≤ graceTime then
          some (some 0)
        else tables.partsFee fuel transType true parts
  else tables.partsFee fuel transType noGraceTime parts

/-- The same periods with other tariffs. -/
def withTariffs (gtariff : ℤ → ℕ → TariffStruct) (tariffType : Fin 2 → String) : TypedTables :=
  { tables with
    gtariff
    gtarifftypeinfo := fun index =>
      { tables.gtarifftypeinfo index with tariffType := tariffType index } }

/-- Whatever the tariffs are, `CalFeeRAM2G` charges the parts of the stay, each with the
tariff type of its period. -/
def ChargesByPeriod (entryTime payTime : String) : Prop :=
  ∀ gtariff tariffType fuel transType noGraceTime,
    (tables.withTariffs gtariff tariffType).calFeeRAM2G fuel entryTime payTime transType
        noGraceTime =
      ((tables.withTariffs gtariff tariffType).dueFee fuel entryTime payTime transType
        noGraceTime).map (·.getD (-4))

/-- Two periods, one behind the other, and a stay that begins and ends in them.  The texts have one
format, so that their order is the order of the times. -/
structure InPeriods (entryTime payTime : String) : Prop where
  early : (tables.gtarifftypeinfo 0).startTime < (tables.gtarifftypeinfo 0).endTime
  apart : (tables.gtarifftypeinfo 0).endTime ≤ (tables.gtarifftypeinfo 1).startTime
  late : (tables.gtarifftypeinfo 1).startTime < (tables.gtarifftypeinfo 1).endTime
  entry_le : entryTime ≤ payTime
  entry : ∃ index, (tables.gtarifftypeinfo index).Applies entryTime
  pay : ∃ index, (tables.gtarifftypeinfo index).Applies payTime
  format : MonotoneOn tables.setTime
    {entryTime, payTime, (tables.gtarifftypeinfo 0).endTime, (tables.gtarifftypeinfo 1).startTime}

variable {tables}

namespace InPeriods

variable (h : tables.InPeriods entryTime payTime)

include h

theorem withTariffs (gtariff : ℤ → ℕ → TariffStruct) (tariffType : Fin 2 → String) :
    (tables.withTariffs gtariff tariffType).InPeriods entryTime payTime :=
  ⟨h.early, h.apart, h.late, h.entry_le, h.entry, h.pay, h.format⟩

theorem start_le_entry : (tables.gtarifftypeinfo 0).startTime ≤ entryTime := by
  obtain ⟨index, hstart, -⟩ := h.entry
  match index with
  | 0 => exact hstart
  | 1 => exact (h.early.le.trans h.apart).trans hstart

theorem late_pay (hpay : (tables.gtarifftypeinfo 0).endTime ≤ payTime) :
    (tables.gtarifftypeinfo 1).Applies payTime := by
  obtain ⟨index, happlies⟩ := h.pay
  match index with
  | 0 => exact absurd happlies.2 (not_lt.mpr hpay)
  | 1 => exact happlies

end InPeriods

/-! ## What the code charges -/

/-- The first turn of the loop ends with the error of the day. -/
theorem partFee_of_error {fuel : ℕ} {start stop : String} {iTransType : ℤ} {ending : Ending}
    (hstart : tables.setTime start ≤ tables.setTime stop)
    (hday : ∀ date day, tables.getDayInfo iTransType date day = .error ending) :
    tables.partFee (fuel + 1) start stop iTransType true =
      some (Stay.value (tables.stay (tables.setTime start) (tables.setTime stop) iTransType)
        (.ended ending)) := by
  set stay := tables.stay (tables.setTime start) (tables.setTime stop) iTransType with hstay
  have hminutes := minute_mono hstart
  have hle : tables.setTime start ≤ stay.currentTime := by
    simp only [hstay, Tables.stay, roundUp]
    split <;> omega
  have hnotPast : ¬stay.tables.timeZone.day stay.currentTime < (stay.start true).pd :=
    not_lt.mpr (tables.timeZone.day_le_of_minute_le (minute_mono hle))
  have hturn : stay.turn (fuel + 1) (stay.start true) = some (.error (.ended ending)) := by
    have hgetDay : stay.getDay (stay.start true) = .error (.ended ending) := by
      simp only [Stay.getDay, Stay.start, Bool.false_eq_true, if_false]
      rw [show stay.tables.getDayInfo stay.iTransType _ _ = _ from hday _ _]
      rfl
    rw [Stay.turn, Stay.enterZone, if_neg hnotPast, hgetDay]
    rfl
  have hrun : stay.run (fuel + 1) true = some (.ended ending) := Loop.loop_succ_of_error hturn
  rw [partFee, calFeeRAM2GR, if_neg (by unfold diffmin; omega)]
  show (stay.run (fuel + 1) true).map stay.value = _
  rw [hrun, Option.map_some]

theorem partsFee_single (fuel : ℕ) (transType : ℤ) (noGraceTime : Bool) (part : Part) :
    tables.partsFee fuel transType noGraceTime [part] =
      tables.singleFee fuel part.index part.entryTime part.payTime transType noGraceTime := by
  unfold partsFee partsFee
  split
  · rename_i fee hfee
    rw [hfee]
    simp only [Option.map_some, add_zero]
  · rfl

/-- "Cross two tariff types" charges two parts, also when the second has no length. -/
theorem crossFee_eq (fuel : ℕ) (entryTime payTime : String) (transType : ℤ) :
    tables.crossFee fuel entryTime payTime transType =
      match stoi ((tables.gtariff transType 1).period 0).graceTime with
      | none => some none
      | some graceTime =>
          if diffmin (tables.setTime entryTime) (tables.setTime payTime) ≤ graceTime then
            some (some 0)
          else tables.partsFee fuel transType true
            (bothParts tables.gtarifftypeinfo entryTime payTime) := by
  unfold crossFee
  cases stoi ((tables.gtariff transType 1).period 0).graceTime with
  | none => rfl
  | some graceTime =>
      simp only
      split
      · rfl
      · rw [bothParts, partsFee, partsFee_single, singleFee]
        cases tables.tariffTypeOffset 0 with
        | none => rfl
        | some earlyOffset =>
            simp only
            rcases tables.partFee fuel entryTime _ (transType + earlyOffset) true with
              _ | _ | totalFee
            · rfl
            · rfl
            · simp only [singleFee]
              cases tables.tariffTypeOffset 1 <;> rfl

/-- The stay is charged with the first type alone. -/
theorem calFeeRAM2G_early (hentry : (tables.gtarifftypeinfo 0).startTime < entryTime)
    (hpay : payTime < (tables.gtarifftypeinfo 0).endTime) (fuel : ℕ) (transType : ℤ)
    (noGraceTime : Bool) :
    tables.calFeeRAM2G fuel entryTime payTime transType noGraceTime =
      (tables.singleFee fuel 0 entryTime payTime transType noGraceTime).map (·.getD (-4)) := by
  have hused : usedTariff tables.gtarifftypeinfo entryTime payTime = some (true, false) :=
    if_pos ⟨hentry, hpay⟩
  simp only [calFeeRAM2G, hused, reduceCtorEq, Prod.mk.injEq, and_false, if_false, if_true]

/-- The stay is cut in two. -/
theorem calFeeRAM2G_crosses (hentry : (tables.gtarifftypeinfo 0).startTime < entryTime)
    (hcrosses : Crosses tables.gtarifftypeinfo entryTime payTime) (fuel : ℕ) (transType : ℤ)
    (noGraceTime : Bool) :
    tables.calFeeRAM2G fuel entryTime payTime transType noGraceTime =
      (tables.crossFee fuel entryTime payTime transType).map (·.getD (-4)) := by
  have hused : usedTariff tables.gtarifftypeinfo entryTime payTime = some (true, true) := by
    rw [usedTariff, if_neg fun hwithin => not_lt.mpr hcrosses.2 hwithin.2,
      if_pos ⟨hentry, hcrosses.1⟩]
  simp only [calFeeRAM2G, hused, if_true]

/-- A stay that begins when the first period starts, or in the second period, is charged with the
second type: that is also what is taken when no type has been found. -/
theorem InPeriods.calFeeRAM2G_late (h : tables.InPeriods entryTime payTime)
    (hentry : entryTime = (tables.gtarifftypeinfo 0).startTime ∨
      (tables.gtarifftypeinfo 0).endTime ≤ entryTime) (fuel : ℕ) (transType : ℤ)
    (noGraceTime : Bool) :
    tables.calFeeRAM2G fuel entryTime payTime transType noGraceTime =
      (tables.singleFee fuel 1 entryTime payTime transType noGraceTime).map (·.getD (-4)) := by
  have hused : ∃ late, usedTariff tables.gtarifftypeinfo entryTime payTime = some (false, late) := by
    unfold usedTariff
    rcases hentry with rfl | hentry
    · have hbefore := h.early.le.trans h.apart
      simp only [gt_iff_lt, lt_irrefl, false_and, if_false, if_pos hbefore]
      exact ⟨_, rfl⟩
    · have hpay := h.late_pay (hentry.trans h.entry_le)
      simp only [not_lt.mpr hentry, not_lt.mpr (hentry.trans h.entry_le), gt_iff_lt, and_false,
        if_false, if_pos hpay.2]
      split <;> exact ⟨_, rfl⟩
  obtain ⟨late, hused⟩ := hused
  simp only [calFeeRAM2G, hused, Prod.mk.injEq, Bool.false_eq_true, false_and, if_false]

/-- The entry is not the instant at which the first period starts, and a stay that goes over the
end of the first period does not end at the instant at which the second one starts. -/
def OffBoundaries (tables : TypedTables) (entryTime payTime : String) : Prop :=
  entryTime ≠ (tables.gtarifftypeinfo 0).startTime ∧
    (Crosses tables.gtarifftypeinfo entryTime payTime →
      payTime ≠ (tables.gtarifftypeinfo 1).startTime)

/-- Off the boundaries every part is charged with the type of its period. -/
theorem InPeriods.calFeeRAM2G_eq_dueFee (h : tables.InPeriods entryTime payTime)
    (hoff : tables.OffBoundaries entryTime payTime) (fuel : ℕ) (transType : ℤ)
    (noGraceTime : Bool) :
    tables.calFeeRAM2G fuel entryTime payTime transType noGraceTime =
      (tables.dueFee fuel entryTime payTime transType noGraceTime).map (·.getD (-4)) := by
  have hentry := lt_of_le_of_ne h.start_le_entry hoff.1.symm
  by_cases hcrosses : Crosses tables.gtarifftypeinfo entryTime payTime
  · have hpay := lt_of_le_of_ne (h.late_pay hcrosses.2).1 (hoff.2 hcrosses).symm
    rw [calFeeRAM2G_crosses hentry hcrosses, crossFee_eq]
    simp only [dueFee, if_pos hcrosses, partsOf, if_pos hpay, bothParts]
  · simp only [dueFee, if_neg hcrosses, partsOf]
    by_cases hearly : payTime < (tables.gtarifftypeinfo 0).endTime
    · rw [if_pos hearly, partsFee_single]
      exact calFeeRAM2G_early hentry hearly fuel transType noGraceTime
    · have hlate : (tables.gtarifftypeinfo 0).endTime ≤ entryTime :=
        not_lt.mp fun hlt => hcrosses ⟨hlt, not_lt.mp hearly⟩
      rw [if_neg hearly, partsFee_single]
      exact h.calFeeRAM2G_late (Or.inr hlate) fuel transType noGraceTime

/-! ## On the boundaries -/

/-- Tariffs that show which type was used: the first type has no table, `-2`, the second one has no
zone that closes the day, `-4`. -/
def tellingTariffs (transType : ℤ) (_ : ℕ) : TariffStruct :=
  if transType = 0 then .plain [{ graceTime := "-1" }]
  else if transType = 40 then .plain []
  else .plain [{ startTime := "2014-01-01 00:00:00" }]

/-- The tariff types of the tables above. -/
def tellingTypes (index : Fin 2) : String := if index = 0 then "1" else "2"

/-- What the telling tariffs charge for a part. -/
def tellingFee (index : Fin 2) : ℚ := if index = 0 then -2 else -4

def tellingSum (parts : List Part) : ℚ := (parts.map (tellingFee ·.index)).sum

/-- A day whose row of the day before does not pass its check. -/
theorem getDayInfo_of_check {tables : Tables} {iTransType : ℤ} {ending : Ending}
    (hcheck : ∀ dayType, (tables.gtariff iTransType dayType).check = .error ending) (date : ℤ)
    (day : Day) : tables.getDayInfo iTransType date day = .error ending := by
  rw [Tables.getDayInfo, Tables.tariffOf, hcheck]
  rfl

theorem singleFee_telling {start stop : String} (index : Fin 2)
    (hstart : tables.setTime start ≤ tables.setTime stop) :
    (tables.withTariffs tellingTariffs tellingTypes).singleFee 1 index start stop 0 true =
      some (some (tellingFee index)) := by
  set telling := tables.withTariffs tellingTariffs tellingTypes
  have hstart' : telling.setTime start ≤ telling.setTime stop := hstart
  match index with
  | 0 =>
      have hone : stoi "1" = some 1 := by decide +kernel
      have hoffset : telling.tariffTypeOffset 0 = some 40 := congrArg (Option.map (· * 40)) hone
      have hcheck : (tellingTariffs 40 1).check = .error (.returned (-2)) := rfl
      have hday : ∀ date day, telling.getDayInfo 40 date day = .error (.returned (-2)) :=
        getDayInfo_of_check fun _ => hcheck
      rw [singleFee, hoffset]
      exact partFee_of_error hstart' hday
  | 1 =>
      have htwo : stoi "2" = some 2 := by decide +kernel
      have hoffset : telling.tariffTypeOffset 1 = some 80 := congrArg (Option.map (· * 40)) htwo
      have hcheck : (tellingTariffs 80 1).check = .error (.returned (-4)) := by decide +kernel
      have hday : ∀ date day, telling.getDayInfo 80 date day = .error (.returned (-4)) :=
        getDayInfo_of_check fun _ => hcheck
      rw [singleFee, hoffset]
      exact partFee_of_error hstart' hday

/-- With the telling tariffs the fees of the parts add up. -/
theorem partsFee_telling {parts : List Part}
    (hparts : ∀ part ∈ parts, tables.setTime part.entryTime ≤ tables.setTime part.payTime) :
    (tables.withTariffs tellingTariffs tellingTypes).partsFee 1 0 true parts =
      some (some (tellingSum parts)) := by
  induction parts with
  | nil => rfl
  | cons part rest ih =>
      have hfee := singleFee_telling part.index (hparts part List.mem_cons_self)
      rw [partsFee, hfee, ih fun other hother => hparts other (List.mem_cons_of_mem _ hother)]
      rfl

namespace InPeriods

variable (h : tables.InPeriods entryTime payTime)

include h

/-- The texts of the parts are read as times in their order. -/
theorem bothParts_in_order (hstart : (tables.gtarifftypeinfo 1).startTime ≤ payTime)
    (hentry : entryTime ≤ (tables.gtarifftypeinfo 0).endTime) :
    ∀ part ∈ bothParts tables.gtarifftypeinfo entryTime payTime,
      tables.setTime part.entryTime ≤ tables.setTime part.payTime := by
  intro part hpart
  simp only [bothParts, List.mem_cons, List.not_mem_nil, or_false] at hpart
  rcases hpart with rfl | rfl
  · exact h.format (by simp) (by simp) hentry
  · exact h.format (by simp) (by simp) hstart

theorem partsOf_in_order :
    ∀ part ∈ partsOf tables.gtarifftypeinfo entryTime payTime,
      tables.setTime part.entryTime ≤ tables.setTime part.payTime := by
  intro part hpart
  unfold partsOf at hpart
  split_ifs at hpart with hcrosses hlate hearly
  · exact h.bothParts_in_order hlate.le hcrosses.1.le part hpart
  · obtain rfl := List.mem_singleton.mp hpart
    exact h.format (by simp) (by simp) hcrosses.1.le
  · obtain rfl := List.mem_singleton.mp hpart
    exact h.format (by simp) (by simp) h.entry_le
  · obtain rfl := List.mem_singleton.mp hpart
    exact h.format (by simp) (by simp) h.entry_le

/-- The grace time of the telling tariffs is never enough. -/
theorem grace_telling :
    let telling := tables.withTariffs tellingTariffs tellingTypes
    stoi ((telling.gtariff 0 1).period 0).graceTime = some (-1) ∧
      ¬diffmin (telling.setTime entryTime) (telling.setTime payTime) ≤ -1 := by
  have hminus : stoi "-1" = some (-1) := by decide +kernel
  have hminutes := minute_mono (h.format (by simp) (by simp) h.entry_le)
  refine ⟨hminus, not_le.mpr ?_⟩
  show -1 < diffmin (tables.setTime entryTime) (tables.setTime payTime)
  unfold diffmin
  omega

theorem dueFee_telling :
    (tables.withTariffs tellingTariffs tellingTypes).dueFee 1 entryTime payTime 0 true =
      some (some (tellingSum (partsOf tables.gtarifftypeinfo entryTime payTime))) := by
  obtain ⟨hgrace, hlong⟩ := h.grace_telling
  have hfee := partsFee_telling h.partsOf_in_order
  simp only [dueFee, hgrace, if_neg hlong, ite_self]
  exact hfee

theorem crossFee_telling (hcrosses : Crosses tables.gtarifftypeinfo entryTime payTime) :
    (tables.withTariffs tellingTariffs tellingTypes).crossFee 1 entryTime payTime 0 =
      some (some (tellingSum (bothParts tables.gtarifftypeinfo entryTime payTime))) := by
  obtain ⟨hgrace, hlong⟩ := h.grace_telling
  have hfee := partsFee_telling
    (h.bothParts_in_order (h.late_pay hcrosses.2).1 hcrosses.1.le)
  rw [crossFee_eq]
  simp only [hgrace, if_neg hlong]
  exact hfee

/-- On a boundary the telling tariffs show another charge than the one that is due. -/
theorem offBoundaries_of_charges (hcharges : tables.ChargesByPeriod entryTime payTime) :
    tables.OffBoundaries entryTime payTime := by
  have htelling := hcharges tellingTariffs tellingTypes 1 0 true
  have hperiods := h.withTariffs tellingTariffs tellingTypes
  have hentry := h.format (by simp) (by simp) h.entry_le
  rw [h.dueFee_telling] at htelling
  have hstart : entryTime ≠ (tables.gtarifftypeinfo 0).startTime := by
    intro hstart
    have hbefore : entryTime < (tables.gtarifftypeinfo 0).endTime := hstart ▸ h.early
    rw [hperiods.calFeeRAM2G_late (Or.inl hstart), singleFee_telling 1 hentry] at htelling
    refine absurd (Option.some.inj htelling) ?_
    unfold partsOf
    split_ifs with hcrosses hlate hearly
    · norm_num [tellingSum, tellingFee]
    · norm_num [tellingSum, tellingFee]
    · norm_num [tellingSum, tellingFee]
    · exact absurd ⟨hbefore, not_lt.mp hearly⟩ hcrosses
  refine ⟨hstart, fun hcrosses hpay => ?_⟩
  have hbehind := lt_of_le_of_ne hperiods.start_le_entry hstart.symm
  rw [calFeeRAM2G_crosses hbehind hcrosses, h.crossFee_telling hcrosses] at htelling
  refine absurd (Option.some.inj htelling) ?_
  rw [partsOf, if_pos hcrosses, if_neg (not_lt.mpr hpay.le), bothParts]
  norm_num [tellingSum, tellingFee]

end InPeriods

end TypedTables

/-! ## A tariff that changes at noon -/

/-- One dollar for every hour begun, from noon on two. -/
def noonTables : TypedTables where
  toTables :=
    { Tables.ofRow (.plain [.plain "08:00:00" "08:00:00" "1" "60" "1"]) {} with
      gtariff := fun iTransType _ =>
        .plain [.plain "08:00:00" "08:00:00" "1" "60" (if iTransType = 40 then "2" else "1")] }
  gtarifftypeinfo := fun index =>
    if index = 0 then
      { tariffType := "0", startTime := "2026-01-01 00:00:00", endTime := "2026-01-01 12:00:00" }
    else
      { tariffType := "1", startTime := "2026-01-01 12:00:00", endTime := "2026-01-01 23:59:59" }
  setTime := fun text => 1767196800 + ((timeOfDay text).map (·.seconds)).getD 0

/-- A stay of that day whose texts are times in the order of the texts. -/
theorem inPeriods_noon {entryTime payTime : String}
    (horder : "2026-01-01 00:00:00" ≤ entryTime ∧ entryTime ≤ payTime ∧
      payTime < "2026-01-01 23:59:59")
    (hformat : ∀ first ∈ [entryTime, payTime, "2026-01-01 12:00:00"],
      ∀ second ∈ [entryTime, payTime, "2026-01-01 12:00:00"],
        first ≤ second → noonTables.setTime first ≤ noonTables.setTime second) :
    noonTables.InPeriods entryTime payTime where
  early := by decide +kernel
  apart := by decide +kernel
  late := by decide +kernel
  entry_le := horder.2.1
  entry := by
    rcases lt_or_ge entryTime "2026-01-01 12:00:00" with hlt | hge
    · exact ⟨0, horder.1, hlt⟩
    · exact ⟨1, hge, horder.2.1.trans_lt horder.2.2⟩
  pay := by
    rcases lt_or_ge payTime "2026-01-01 12:00:00" with hlt | hge
    · exact ⟨0, horder.1.trans horder.2.1, hlt⟩
    · exact ⟨1, hge, horder.2.2⟩
  format := by
    intro first hfirst second hsecond hle
    refine hformat first ?_ second ?_ hle
    · simpa [noonTables] using hfirst
    · simpa [noonTables] using hsecond

/-- What the code charges at noon's tariffs is not what is due. -/
theorem not_chargesByPeriod_of_ne {entryTime payTime : String}
    (hne : noonTables.calFeeRAM2G 20 entryTime payTime 0 false ≠
      (noonTables.dueFee 20 entryTime payTime 0 false).map (·.getD (-4))) :
    ¬noonTables.ChargesByPeriod entryTime payTime := fun hcharges =>
  hne (hcharges noonTables.gtariff (fun index => (noonTables.gtarifftypeinfo index).tariffType) 20
    0 false)

end LinuxPBS.Tariff

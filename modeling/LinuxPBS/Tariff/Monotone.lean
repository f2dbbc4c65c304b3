import LinuxPBS.Tariff.Abreast

/-!
# A longer stay costs no less

The two calculations are run side by side (`Loop.Coupled`).  The earlier one leaves
first, or both leave together; from then on the fee of the later one only grows.

Two things can part the points of the two calculations for good and are ruled out
by `Stay.Comparable`: an allowance in a zone with a maximum where zones are not cut
off, and a per-entry zone in front of which the one stay is within
`giHr2PEAllowance` and the other is not.
-/

namespace LinuxPBS.Tariff

open Loop CxxText

namespace Stay

variable {stay : Stay} {later : ℤ} {state next : FeeState}

/-! ## The two runs -/

/-- What the calculation that has left returns has been charged by the other one. -/
def Paid (stay : Stay) (exit : Exit) (state : FeeState) : Prop :=
  ∀ fee, stay.value exit = some fee → ¬ IsErrorCode fee → fee ≤ finalCharge state

/-- The results of two calculations are in order, unless one of them is an error. -/
def InOrder (stay : Stay) (later : ℤ) (exit exit' : Exit) : Prop :=
  ∀ fee fee', stay.value exit = some fee → ¬ IsErrorCode fee →
    (stay.paidAt later).value exit' = some fee' → ¬ IsErrorCode fee' → fee ≤ fee'

theorem Paid.of_le {exit : Exit} (hpaid : stay.Paid exit state)
    (hle : finalCharge state ≤ finalCharge next) : stay.Paid exit next :=
  fun fee hfee hcode => (hpaid fee hfee hcode).trans hle

/-- Two pay times whose fees can be compared. -/
structure Comparable (stay : Stay) (later : ℤ) : Prop where
  ordinary : stay.tables.Ordinary stay.iTransType
  days : ∀ day, stay.tables.timeZone.day stay.entryTime ≤ day →
    day ≤ stay.tables.timeZone.day later →
    stay.tables.isBlockMode stay.iTransType day = false ∧ stay.AllowanceCutOff day
  mode : stay.tables.paras.giTariffFeeMode = 0
  motorcycles : stay.tables.paras.giMCyclePerDay = 0
  payTimes : minute stay.currentTime ≤ minute later
  side : stay.SameSide later

section Comparable

variable (hcompare : stay.Comparable later)

theorem Comparable.ordinary_paidAt (hcompare : stay.Comparable later) :
    (stay.paidAt later).tables.Ordinary (stay.paidAt later).iTransType := hcompare.ordinary

theorem Comparable.mode_paidAt (hcompare : stay.Comparable later) :
    (stay.paidAt later).tables.paras.giTariffFeeMode = 0 := hcompare.mode

theorem Comparable.days_earlier (hcompare : stay.Comparable later) : stay.RegularDays :=
  fun day hfirst hlast => hcompare.days day hfirst
    (hlast.trans (stay.tables.timeZone.day_le_of_minute_le hcompare.payTimes))

theorem Comparable.days_later (hcompare : stay.Comparable later) :
    (stay.paidAt later).RegularDays := by
  intro day hfirst hlast
  obtain ⟨hblocks, hcut⟩ := hcompare.days day hfirst hlast
  refine ⟨hblocks, fun d hd k hk numbers hnumbers => ?_⟩
  rcases hcut d hd k hk numbers hnumbers with hzero | hzero | ⟨iZoneCutoff, hvalue, hcutsOff⟩
  · exact Or.inl hzero
  · exact Or.inr (Or.inl hzero)
  · exact Or.inr (Or.inr ⟨iZoneCutoff, hvalue, hcutsOff.paidAt hcompare.side⟩)

include hcompare

/-- The later calculation goes on or leaves: it returns what it has charged, and more. -/
theorem Paid.together {exit : Exit} {second : FeeState} {fuel' : ℕ} {out : Except Exit FeeState}
    (hregular : (stay.paidAt later).Regular second) (hpaid : stay.Paid exit second)
    (hturn : (stay.paidAt later).turn fuel' second = some out)
    (R : FeeState → FeeState → Prop) (after : FeeState → Exit → Prop) :
    Together R (fun exit second => (stay.paidAt later).Regular second ∧ stay.Paid exit second)
      after (stay.InOrder later) (.error exit) out := by
  have hordinary := hcompare.ordinary_paidAt
  cases out with
  | ok next =>
      have hgrows := (hregular.owing.turn hordinary.nonNegative hturn).2
      exact ⟨hregular.turn hordinary hcompare.days_later hturn, hpaid.of_le hgrows⟩
  | error exit' =>
      intro fee fee' hfee hcode hfee' hcode'
      have hvalue := hregular.le_value hordinary hcompare.days_later hcompare.mode_paidAt hturn hfee' hcode'
      exact (hpaid fee hfee hcode).trans hvalue

/-- The same where the later calculation has come to the end of its turn. -/
theorem Paid.together_settle {exit : Exit} {second : FeeState} {fuel' : ℕ} {moved : FeeState}
    {fee : ℚ} (hregular : (stay.paidAt later).Regular second)
    (hpaid : stay.Paid exit ((stay.paidAt later).settleDay (Stay.addZoneFee moved fee)))
    (hturn : (stay.paidAt later).turn fuel' second =
      some ((stay.paidAt later).settle moved fee))
    (R : FeeState → FeeState → Prop) (after : FeeState → Exit → Prop) :
    Together R (fun exit second => (stay.paidAt later).Regular second ∧ stay.Paid exit second)
      after (stay.InOrder later) (.error exit) ((stay.paidAt later).settle moved fee) := by
  have hordinary := hcompare.ordinary_paidAt
  cases hout : (stay.paidAt later).settle moved fee with
  | ok next =>
      rw [hout] at hturn
      obtain ⟨rfl, -⟩ := settle_eq_ok hout
      exact ⟨hregular.turn hordinary hcompare.days_later hturn, hpaid⟩
  | error exit' =>
      rw [hout] at hturn
      obtain ⟨rfl, -⟩ := settle_eq_error hout
      intro fee fee' hfee hcode hfee' hcode'
      have hvalue := hregular.value_broke hordinary hcompare.days_later hcompare.mode_paidAt hturn
      obtain rfl := Option.some.inj (hvalue.symm.trans hfee')
      exact hpaid fee hfee hcode

variable {first second : FeeState} {fuel fuel' : ℕ} (hregular : stay.Regular first)
  (hregular' : (stay.paidAt later).Regular second) (habreast : Abreast first second)

include hregular hregular' habreast

theorem Abreast.entered {entered : FeeState} (henter : stay.enterZone first = .ok entered) :
    stay.Counted entered ∧ Owing entered ∧
      ∃ entered', (stay.paidAt later).enterZone second = .ok entered' ∧
        Abreast entered entered' ∧ Owing entered' := by
  have hordinary := hcompare.ordinary_paidAt
  obtain ⟨-, -, hcounted⟩ := hregular.enterZone hcompare.ordinary hcompare.days_earlier henter
  obtain ⟨howing, -⟩ := hregular.owing.enterZone hcompare.ordinary.nonNegative henter
  obtain ⟨hpd, -⟩ := enterZone_eq_ok henter
  have hblocks : ∀ loaded, stay.getDay first = .ok loaded → loaded.day.b24HourBlock = false :=
    fun loaded hget =>
      (hregular.getDay hcompare.ordinary hcompare.days_earlier hpd hget).1.noBlocks
  obtain ⟨entered', henter', hentered⟩ :=
    habreast.enterZone hcompare.payTimes hregular.owing hregular'.owing hblocks henter
  obtain ⟨howing', -⟩ := hregular'.owing.enterZone hordinary.nonNegative henter'
  exact ⟨hcounted, howing, entered', henter', hentered, howing'⟩

/-- The fee of the zone in both calculations, when the earlier one comes to its end. -/
theorem Abreast.added {entered moved : FeeState} {fee : ℚ} {out : Except Exit FeeState}
    (henter : stay.enterZone first = .ok entered)
    (hfee : stay.zoneFee fuel entered = some (.ok (moved, fee)))
    (hturn' : (stay.paidAt later).turn fuel' second = some out) :
    ∃ moved' fee', out = (stay.paidAt later).settle moved' fee' ∧
      Owing (Stay.addZoneFee moved fee) ∧ Owing (Stay.addZoneFee moved' fee') ∧
      stay.FeesAbreast (Stay.addZoneFee moved fee) (Stay.addZoneFee moved' fee') := by
  have hordinary := hcompare.ordinary_paidAt
  obtain ⟨hcounted, howing, entered', henter', hentered, howing'⟩ :=
    habreast.entered hcompare hregular hregular' henter
  obtain ⟨exit, hfee', -⟩ | ⟨moved', fee', hfee', hout⟩ := turn_eq_of_enterZone henter' hturn'
  · obtain ⟨_, _, hok, -⟩ := hentered.zoneFee hcompare.payTimes hcompare.side hcompare.motorcycles.le
      howing howing' hcounted hfee hfee'
    cases hok
  · obtain ⟨_, _, hok, hfees⟩ := hentered.zoneFee hcompare.payTimes hcompare.side
      hcompare.motorcycles.le howing howing' hcounted hfee hfee'
    obtain ⟨rfl, rfl⟩ := Prod.mk.inj (Except.ok.inj hok)
    have hgot := (hregular.owing.enterZone hcompare.ordinary.nonNegative henter).2.2
    have hgot' := (hregular'.owing.enterZone hordinary.nonNegative henter').2.2
    have hadded := howing.addZoneFee hgot (zoneFee_moved hfee)
      (zoneFee_nonneg (howing.zones _) hfee)
    have hadded' := howing'.addZoneFee hgot' (zoneFee_moved hfee')
      (zoneFee_nonneg (howing'.zones _) hfee')
    exact ⟨_, _, hout, hadded.1, hadded'.1, hfees⟩

/-- A turn after which the earlier calculation goes on: the later one does so as well. -/
theorem Abreast.turn {next : FeeState} {out : Except Exit FeeState}
    (hturn : stay.turn fuel first = some (.ok next))
    (hturn' : (stay.paidAt later).turn fuel' second = some out) :
    ∃ next', out = .ok next' ∧ Abreast next next' := by
  obtain ⟨entered, henter, moved, fee, hfee, hsettle⟩ := turn_eq_ok hturn
  obtain ⟨moved', fee', rfl, howing, howing', hfees⟩ :=
    habreast.added hcompare hregular hregular' henter hfee hturn'
  obtain ⟨rfl, hleft⟩ := settle_eq_ok hsettle
  rcases hfees with hadded | ⟨hdone, -⟩
  · have hsettled : Abreast (stay.settleDay (Stay.addZoneFee moved fee))
        ((stay.paidAt later).settleDay (Stay.addZoneFee moved' fee')) :=
      hadded.settleDay later howing howing'
    refine ⟨_, ?_, hsettled⟩
    obtain ⟨_, _, _, heq, hminute, -⟩ := hsettled
    refine if_neg (not_le.mpr (hleft.trans_le (minutesLeft_le hcompare.payTimes ?_)))
    rw [heq]
    exact hminute
  · rw [settleDay_pt] at hleft
    exact absurd hdone (not_le.mpr hleft)

/-- A turn in which the earlier calculation ends with its free periods. -/
theorem Abreast.leave_free {entered : FeeState} {out : Except Exit FeeState}
    (henter : stay.enterZone first = .ok entered) (hrate : entered.currentRateType = 1)
    (hallowance : ¬ stay.WithinAllowance entered.zone entered.Charged entered.pt)
    (hended : (stay.freeOf entered).ended = true) {exit : Exit}
    (hvalue : stay.value exit = some (finalCharge { entered with
      pt := (stay.freeOf entered).pt
      dayFee := entered.dayFee + (stay.freeOf entered).zoneFee }))
    (hturn' : (stay.paidAt later).turn fuel' second = some out)
    (R : FeeState → FeeState → Prop) (after : FeeState → Exit → Prop) :
    Together R (fun exit second => (stay.paidAt later).Regular second ∧ stay.Paid exit second)
      after (stay.InOrder later) (.error exit) out := by
  have hordinary := hcompare.ordinary_paidAt
  obtain ⟨hcounted, howing, entered', henter', hentered, howing'⟩ :=
    habreast.entered hcompare hregular hregular' henter
  obtain ⟨exit', hfee', rfl⟩ | ⟨moved', fee', hfee', rfl⟩ := turn_eq_of_enterZone henter' hturn'
  · intro fee fee' hfee hcode hvalue' hcode'
    obtain rfl := Option.some.inj (hvalue.symm.trans hfee)
    obtain ⟨-, ⟨ending, rfl, herror, -⟩ | ⟨hwithin, -⟩ | ⟨-, -, rfl⟩⟩ := zoneFee_eq_error hfee'
    · cases ending with
      | threw => cases hvalue'
      | returned value =>
          obtain rfl := Option.some.inj hvalue'
          exact absurd (herror value rfl) hcode'
    · exact absurd (hentered.withinAllowance hcompare.payTimes hwithin) hallowance
    · rw [hregular'.value_broke hordinary hcompare.days_later hcompare.mode_paidAt hturn'] at hvalue'
      obtain rfl := Option.some.inj hvalue'
      obtain ⟨hno, -⟩ | ⟨-, hle⟩ :=
        hentered.freeOf hcompare.payTimes howing howing' hcounted.amounts
      · rw [hended] at hno
        cases hno
      · obtain ⟨pt, charge, dayFee, rfl, -, hcharge, hday, -⟩ := hentered
        exact finalCharge_mono rfl hcharge (add_le_add hday hle)
  · have hrate' : entered'.currentRateType = 1 := by
      obtain ⟨pt, charge, dayFee, rfl, -⟩ := hentered
      exact hrate
    have hhourly : (stay.paidAt later).hourly fuel' entered' = some (.ok (moved', fee')) := by
      unfold Stay.zoneFee at hfee'
      rwa [if_pos hrate'] at hfee'
    have hle := hentered.freeBreak hcompare.payTimes howing howing' hcounted hended hhourly
    have hgot' := (hregular'.owing.enterZone hordinary.nonNegative henter').2.2
    obtain ⟨hadded, -⟩ := howing'.addZoneFee hgot' (zoneFee_moved hfee')
      (zoneFee_nonneg (howing'.zones _) hfee')
    refine Paid.together_settle hcompare hregular' ?_ hturn' R after
    intro fee hfee hcode
    obtain rfl := Option.some.inj (hvalue.symm.trans hfee)
    exact hle.trans (hadded.settleDay (stay.paidAt later)).2

/-- A turn in which the earlier calculation leaves. -/
theorem Abreast.leave {exit : Exit} {out : Except Exit FeeState}
    (hturn : stay.turn fuel first = some (.error exit))
    (hturn' : (stay.paidAt later).turn fuel' second = some out)
    (R : FeeState → FeeState → Prop) (after : FeeState → Exit → Prop) :
    Together R (fun exit second => (stay.paidAt later).Regular second ∧ stay.Paid exit second)
      after (stay.InOrder later) (.error exit) out := by
  have hle := habreast.overtaken.finalCharge_le
  cases exit with
  | ended ending =>
      -- an error, or nothing within the grace time
      refine Paid.together hcompare hregular' ?_ hturn' R after
      intro fee hfee hcode
      obtain herror | ⟨rfl, -⟩ := turn_eq_ended hturn
      · cases ending with
        | threw => cases hfee
        | returned value =>
            obtain rfl := Option.some.inj hfee
            exact absurd (herror value rfl) hcode
      · obtain rfl := Option.some.inj hfee
        exact hregular'.owing.finalCharge_nonneg
  | broke last =>
      have hvalue := hregular.value_broke hcompare.ordinary hcompare.days_earlier hcompare.mode hturn
      have hpaid : ∀ state, finalCharge last ≤ finalCharge state →
          stay.Paid (.broke last) state := by
        intro state hstate fee hfee hcode
        obtain rfl := Option.some.inj (hvalue.symm.trans hfee)
        exact hstate
      obtain henter | ⟨entered, henter, hfee | ⟨moved, fee, hfee, hsettle⟩⟩ := turn_eq_error hturn
      · obtain ⟨-, hexit⟩ | ⟨-, ⟨_, hexit, -⟩ | ⟨_, _, _, _, _, _, _, hexit⟩⟩ :=
          enterZone_eq_error henter <;> cases hexit
        exact Paid.together hcompare hregular' (hpaid _ hle) hturn' R after
      · have hfinal := (hregular.owing.enterZone hcompare.ordinary.nonNegative henter).2.1
        obtain ⟨hrate, ⟨_, hexit, -⟩ | ⟨-, hexit⟩ | ⟨hallowance, hended, hexit⟩⟩ :=
          zoneFee_eq_error hfee <;> cases hexit
        · exact Paid.together hcompare hregular' (hpaid _ (hfinal.trans_le hle)) hturn' R after
        · exact habreast.leave_free hcompare hregular hregular' henter hrate hallowance hended
            hvalue hturn' R after
      · obtain ⟨hexit, -⟩ := settle_eq_error hsettle
        cases hexit
        obtain ⟨moved', fee', rfl, howing, howing', hfees⟩ :=
          habreast.added hcompare hregular hregular' henter hfee hturn'
        exact Paid.together_settle hcompare hregular'
          (hpaid _ (hfees.overtaken.settleDay later howing')) hturn' R after

omit hregular hregular' habreast in
/-- The two outer loops. -/
theorem coupled_turn (fuel fuel' : ℕ) :
    Coupled (stay.turn fuel) ((stay.paidAt later).turn fuel')
      (fun first second =>
        stay.Regular first ∧ (stay.paidAt later).Regular second ∧ Abreast first second)
      (fun exit second => (stay.paidAt later).Regular second ∧ stay.Paid exit second)
      (fun _ _ => False) (stay.InOrder later) := by
  refine ⟨?_, ?_, ?_⟩
  · rintro first second out out' ⟨hregular, hregular', habreast⟩ hturn hturn'
    cases out with
    | ok next =>
        obtain ⟨next', rfl, hnext⟩ := habreast.turn hcompare hregular hregular' hturn hturn'
        exact ⟨hregular.turn hcompare.ordinary hcompare.days_earlier hturn,
          hregular'.turn hcompare.ordinary_paidAt hcompare.days_later hturn', hnext⟩
    | error exit => exact habreast.leave hcompare hregular hregular' hturn hturn' _ _
  · rintro exit second ⟨hregular', hpaid⟩
    constructor
    · intro next hturn
      have htogether := Paid.together hcompare hregular' hpaid hturn
        (fun _ _ => True) (fun _ _ => True)
      exact htogether
    · intro exit' hturn
      have htogether := Paid.together hcompare hregular' hpaid hturn
        (fun _ _ => True) (fun _ _ => True)
      exact htogether
  · rintro first exit' ⟨⟩

end Comparable

end Stay

theorem roundUp_mono (entryTime : ℤ) {payDT payDT' : ℤ} (hle : payDT ≤ payDT') :
    minute (roundUp entryTime payDT) ≤ minute (roundUp entryTime payDT') := by
  unfold roundUp second minute
  split_ifs <;> omega

instance (zone : Zone) : Decidable zone.Amounts :=
  decidable_of_iff (0 ≤ zone.chargeRate ∧ 0 ≤ zone.firstAdd ∧ 0 ≤ zone.secondAdd ∧ 0 ≤ zone.thirdAdd)
    ⟨fun ⟨hrate, hfirst, hsecond, hthird⟩ => ⟨hrate, hfirst, hsecond, hthird⟩,
      fun hzone => ⟨hzone.chargeRate, hzone.firstAdd, hzone.secondAdd, hzone.thirdAdd⟩⟩

instance (zone : Zone) : Decidable zone.Ordinary :=
  decidable_of_iff (zone.Amounts ∧ zone.FreeTimes ∧ zone.Blocks ∧
      (0 ≤ zone.zoneMin ∧ 0 ≤ zone.zoneMax ∧ 0 ≤ zone.iAllowance) ∧
      (zone.zoneMax ≠ 0 → zone.adds ≤ zone.zoneMax ∧ zone.zoneMin ≤ zone.zoneMax))
    ⟨fun ⟨hamounts, hfree, hblocks, hlimits, hmax⟩ => ⟨hamounts, hfree, hblocks, hlimits, hmax⟩,
      fun hzone => ⟨hzone.amounts, hzone.freeTimes, hzone.blocks, hzone.limits, hzone.max⟩⟩

theorem Tables.ordinary_ofRow {row : TariffStruct} (paras : TParas) (iTransType : ℤ)
    (hzones : ∀ k < 9, ∀ numbers ∈ (row.period k).numbers, numbers.Ordinary)
    (hlimits : (∀ amount ∈ stod row.wholeDayMin, 0 ≤ amount) ∧
      ∀ amount ∈ stod row.wholeDayMax, 0 ≤ amount) :
    (Tables.ofRow row paras).Ordinary iTransType :=
  ⟨fun _ => hzones, fun _ => hlimits⟩

theorem Tables.isBlockMode_ofRow {row : TariffStruct} (paras : TParas) {dayMin dayMax : ℚ}
    (hmin : stod row.wholeDayMin = some dayMin) (hmax : stod row.wholeDayMax = some dayMax)
    (iTransType day : ℤ) :
    (Tables.ofRow row paras).isBlockMode iTransType day = isBlockDay dayMin dayMax := by
  have hrow : (Tables.ofRow row paras).tariffOf iTransType day = row := rfl
  simp only [isBlockMode, hrow, hmin, hmax]

/-- Two hours are free in the first zone once something has been charged. -/
def allowanceTables (zoneCutoff : String) : Tables :=
  .ofRow { TariffStruct.plain [{ TariffPeriod.plain "08:00:00" "09:30:00" "1" "60" "1" with
        allowance := "120", maxCharge := "2" },
      .plain "09:30:00" "10:50:00" "1" "50" "1",
      .plain "10:50:00" "08:00:00" "1" "60" "5"] with zoneCutoff } {}

/-- A cheap per-entry zone between two hourly ones. -/
def perEntryTables : Tables :=
  .ofRow { TariffStruct.plain [.plain "08:00:00" "13:00:00" "1" "60" "1",
      .plain "13:00:00" "13:15:00" "2" "0" "1",
      .plain "13:15:00" "08:00:00" "1" "60" "5"] with zoneCutoff := "1" }
    { giHr2PEAllowance := 120, giPEAllowance := 120 }

theorem ordinary_allowanceTables (zoneCutoff : String) :
    (allowanceTables zoneCutoff).Ordinary 0 := by
  have hzones : ∀ k < 9, ∀ numbers ∈ (((allowanceTables "0").gtariff 0 0).period k).numbers,
      numbers.Ordinary := by decide +kernel
  have hlimits : (∀ amount ∈ stod "0", (0 : ℚ) ≤ amount) ∧ ∀ amount ∈ stod "0", (0 : ℚ) ≤ amount := by
    decide +kernel
  exact Tables.ordinary_ofRow _ _ hzones hlimits

theorem ordinary_perEntryTables : perEntryTables.Ordinary 0 :=
  Tables.ordinary_ofRow _ _ (by decide +kernel) (by decide +kernel)

/-- A row without day limits is not in block mode. -/
theorem isBlockMode_ofRow_noLimits {row : TariffStruct} (hmin : row.wholeDayMin = "0")
    (hmax : row.wholeDayMax = "0") (paras : TParas) (day : ℤ) :
    (Tables.ofRow row paras).isBlockMode 0 day = false := by
  have hzero : stod "0" = some 0 := by decide +kernel
  rw [Tables.isBlockMode_ofRow paras (hmin ▸ hzero) (hmax ▸ hzero)]
  decide

end LinuxPBS.Tariff

import Mathlib.Tactic.Linarith
import LinuxPBS.Tariff.Turn

/-!
# What has been charged never becomes less

`finalCharge` is what the code behind the loop would charge for a state: `charge`
and the day fee within the limits of the day.  When no rate and no addition of
the table is negative, it does not decrease from one state of the outer loop to
the next (`Owing.turn`, `Owing.broke`).
-/

namespace LinuxPBS.Tariff

open Loop

/-- No amount a zone can add to the fee is negative. -/
structure Zone.Amounts (zone : Zone) : Prop where
  chargeRate : 0 ≤ zone.chargeRate
  firstAdd : 0 ≤ zone.firstAdd
  secondAdd : 0 ≤ zone.secondAdd
  thirdAdd : 0 ≤ zone.thirdAdd

/-- The largest fee the free periods of a zone come to. -/
def Zone.adds (zone : Zone) : ℚ := zone.firstAdd + zone.secondAdd + zone.thirdAdd

/-- No amount of the rows of a transaction type is negative. -/
def Tables.NonNegative (tables : Tables) (iTransType : ℤ) : Prop :=
  ∀ dayType, ∀ k < 9, ∀ numbers ∈ ((tables.gtariff iTransType dayType).period k).numbers,
    numbers.Amounts

/-! ## The limits -/

section

variable {min max fee fee' : ℚ}

theorem limitFee_nonneg (min max : ℚ) {fee : ℚ} (hfee : 0 ≤ fee) : 0 ≤ limitFee min max fee := by
  simp only [limitFee]
  split_ifs with hmin hover hover
  · exact hover.1.le
  · exact hmin.1.le
  · exact hover.1.le
  · exact hfee

theorem limitFee_pos (hfee : 0 < fee) : 0 < limitFee min max fee := by
  simp only [limitFee]
  split_ifs with hmin hover hover
  · exact hover.1
  · exact hmin.1
  · exact hover.1
  · exact hfee

theorem limitFee_mono (hle : fee ≤ fee') : limitFee min max fee ≤ limitFee min max fee' := by
  simp only [limitFee]
  -- raising to the minimum and cutting at the maximum are both monotone
  have hraised : (if 0 < min ∧ fee < min then min else fee) ≤
      if 0 < min ∧ fee' < min then min else fee' := by
    split_ifs with hlow hlow' hlow'
    · exact le_rfl
    · exact not_lt.mp fun hlt => hlow' ⟨hlow.1, hlt⟩
    · exact hle.trans hlow'.2.le
    · exact hle
  generalize (if 0 < min ∧ fee < min then min else fee) = raised at hraised ⊢
  generalize (if 0 < min ∧ fee' < min then min else fee') = raised' at hraised ⊢
  split_ifs with hhigh hhigh' hhigh'
  · exact le_rfl
  · exact not_lt.mp fun hlt => hhigh' ⟨hhigh.1, hhigh.2.trans_le hraised⟩
  · exact not_lt.mp fun hlt => hhigh ⟨hhigh'.1, hlt⟩
  · exact hraised

theorem limitFee_le (hmax : 0 < max) (hle : min ≤ max) (fee : ℚ) :
    limitFee min max fee ≤ max := by
  simp only [limitFee]
  split_ifs with hmin hover hover
  · exact le_rfl
  · exact hle
  · exact le_rfl
  · exact not_lt.mp fun hlt => hover ⟨hmax, hlt⟩

/-- A fee that does not exceed the maximum is not cut. -/
theorem le_limitFee (hmax : 0 < max → fee ≤ max) : fee ≤ limitFee min max fee := by
  simp only [limitFee]
  split_ifs with hmin hover hover
  · exact hmax hover.1
  · exact hmin.2.le
  · exact hmax hover.1
  · exact le_rfl

/-- A fee that has reached the maximum is the maximum. -/
theorem max_le_limitFee (hmax : max ≤ fee) : max ≤ limitFee min max fee := by
  simp only [limitFee]
  split_ifs with hmin hover hover
  · exact le_rfl
  · exact hmax.trans hmin.2.le
  · exact le_rfl
  · exact hmax

end

namespace Stay

variable {stay : Stay} {state next : FeeState}

/-! ## The fee of a zone -/

/-- The fee the free periods leave lies between nothing and all of their additions. -/
theorem endFreePeriods_zoneFee (pt : ℤ) (fee : ℚ) (freed : Bool) :
    (stay.endFreePeriods pt fee freed).zoneFee = fee := by
  unfold endFreePeriods
  split <;> rfl

theorem zoneFee_freePeriods {zone next : Zone} {iZoneCutoff pt : ℤ} (hzone : zone.Amounts) :
    0 ≤ (stay.freePeriods zone next iZoneCutoff pt).zoneFee ∧
      (stay.freePeriods zone next iZoneCutoff pt).zoneFee ≤ zone.adds := by
  obtain ⟨-, hfirst, hsecond, hthird⟩ := hzone
  unfold Zone.adds
  simp only [freePeriods, secondOverBoundary, thirdOverBoundary, secondFreePeriod,
    thirdFreePeriod]
  split_ifs <;> simp only [endFreePeriods_zoneFee] <;> constructor <;> linarith

theorem zoneFee_freeOf (stay : Stay) (hzone : state.zone.Amounts) :
    0 ≤ (stay.freeOf state).zoneFee ∧ (stay.freeOf state).zoneFee ≤ state.zone.adds := by
  unfold freeOf
  split
  · exact zoneFee_freePeriods hzone
  · obtain ⟨-, hfirst, hsecond, hthird⟩ := hzone
    refine ⟨le_rfl, ?_⟩
    unfold Zone.adds
    simp only
    linarith

theorem le_chargeBlock (stay : Stay) (state : FeeState) {zone : Zone} (hrate : 0 ≤ zone.chargeRate)
    (pt : ℤ) (fee : ℚ) :
    fee ≤ stay.chargeBlock zone state pt fee := by
  unfold chargeBlock
  split
  · exact le_rfl
  · linarith

theorem le_zoneLoop {zone next : Zone} {fuel : ℕ} {pt pt' : ℤ} {fee fee' : ℚ}
    (hrate : 0 ≤ zone.chargeRate)
    (hloop : stay.zoneLoop zone next state fuel pt fee = some (pt', fee')) : fee ≤ fee' := by
  refine loop_invariant (fun point : ℤ × ℚ => fee ≤ point.2) (fun point : ℤ × ℚ => fee ≤ point.2)
    ?_ ?_ le_rfl hloop
  · rintro ⟨now, sofar⟩ later hpoint hturn
    change fee ≤ sofar at hpoint
    obtain ⟨-, heq⟩ | ⟨-, charged, hcharged, ⟨-, -, heq⟩ | ⟨-, ⟨-, heq⟩ | ⟨-, heq⟩⟩⟩ :=
      stay.zoneTurn_cases zone next state now sofar <;>
      rw [heq] at hturn <;> cases hturn
    exact hpoint.trans (hcharged ▸ stay.le_chargeBlock state hrate now sofar)
  · rintro ⟨now, sofar⟩ later hpoint hturn
    change fee ≤ sofar at hpoint
    obtain ⟨-, heq⟩ | ⟨-, charged, hcharged, ⟨-, -, heq⟩ | ⟨-, ⟨-, heq⟩ | ⟨-, heq⟩⟩⟩ :=
      stay.zoneTurn_cases zone next state now sofar <;>
      rw [heq] at hturn <;> cases hturn
    · exact hpoint
    · exact hpoint.trans (hcharged ▸ stay.le_chargeBlock state hrate now sofar)
    · exact hpoint.trans (hcharged ▸ stay.le_chargeBlock state hrate now sofar)

theorem perEntryRate_nonneg (hrate : 0 ≤ state.zone.chargeRate) : 0 ≤ stay.perEntryRate state := by
  unfold perEntryRate
  split
  · exact le_rfl
  · exact hrate

theorem zoneFee_nonneg {fuel : ℕ} {fee : ℚ} (hzone : state.zone.Amounts)
    (hfee : stay.zoneFee fuel state = some (.ok (next, fee))) : 0 ≤ fee := by
  unfold zoneFee at hfee
  split_ifs at hfee with hhourly hentry
  · obtain ⟨-, -, -, pt, hloop, -⟩ := hourly_eq_ok hfee
    exact (stay.zoneFee_freeOf hzone).1.trans (le_zoneLoop hzone.chargeRate hloop)
  · obtain ⟨-, rfl⟩ := Prod.mk.inj (Except.ok.inj (Option.some.inj hfee))
    split
    · exact le_rfl
    · exact perEntryRate_nonneg hzone.chargeRate
  · obtain ⟨-, rfl⟩ := Prod.mk.inj (Except.ok.inj (Option.some.inj hfee))
    exact le_rfl

/-! ## The charge -/

/-- Nothing that has been charged is negative, and a day that is settled has no day fee. -/
structure Owing (state : FeeState) : Prop where
  zones : ∀ k, (state.day.zones k).Amounts
  charge : 0 ≤ state.charge
  dayFee : 0 ≤ state.dayFee
  settled : state.bGotDayInfo = false → state.dayFee = 0

theorem owing_start (bNoGT : Bool) : Owing (stay.start bNoGT) where
  zones := fun _ => ⟨le_rfl, le_rfl, le_rfl, le_rfl⟩
  charge := le_rfl
  dayFee := le_rfl
  settled := fun _ => rfl

theorem Owing.finalCharge_nonneg (howing : Owing state) : 0 ≤ finalCharge state := by
  unfold finalCharge
  split
  · exact add_nonneg howing.charge (limitFee_nonneg _ _ howing.dayFee)
  · exact howing.charge

theorem finalCharge_mono {before after : FeeState} (hday : after.day = before.day)
    (hcharge : before.charge ≤ after.charge) (hfee : before.dayFee ≤ after.dayFee) :
    finalCharge before ≤ finalCharge after := by
  unfold finalCharge
  rw [hday]
  split_ifs with hbefore hafter hafter
  · exact add_le_add hcharge (limitFee_mono hfee)
  · exact absurd (hbefore.trans_le hfee) hafter
  · have hnonneg := limitFee_nonneg before.day.dayMin before.day.dayMax hafter.le
    linarith
  · exact hcharge

/-- Before the fee of the zone nothing is charged. -/
theorem Owing.enterZone (hnonneg : stay.tables.NonNegative stay.iTransType) (howing : Owing state)
    (henter : stay.enterZone state = .ok next) :
    Owing next ∧ finalCharge next = finalCharge state ∧ next.bGotDayInfo = true := by
  obtain ⟨-, loaded, hget, selected, hselect, rfl⟩ := enterZone_eq_ok henter
  have hloaded : Owing loaded ∧ finalCharge loaded = finalCharge state ∧
      loaded.bGotDayInfo = true := by
    obtain ⟨hgot, rfl⟩ | ⟨hnot, day, hday, rfl⟩ := getDay_eq_ok hget
    · exact ⟨howing, rfl, hgot⟩
    · refine ⟨⟨?_, howing.charge, le_rfl, fun _ => rfl⟩, ?_, rfl⟩
      · exact hday.forall_zones (fun _ _ _ _ h => ⟨h.chargeRate, h.firstAdd, h.secondAdd, h.thirdAdd⟩)
          hnonneg howing.zones
      · simp [finalCharge, howing.settled hnot]
  obtain ⟨howing, hfinal, hgot⟩ := hloaded
  obtain ⟨-, rfl⟩ | ⟨-, zone, -, -, -, rfl⟩ := selectZone_eq_ok hselect
  · exact ⟨⟨howing.zones, howing.charge, howing.dayFee, howing.settled⟩, hfinal, hgot⟩
  · exact ⟨⟨howing.zones, howing.charge, howing.dayFee, howing.settled⟩, hfinal, hgot⟩

theorem Owing.addZoneFee (howing : Owing state) (hgot : state.bGotDayInfo = true)
    (hmoved : state.Moved next) {fee : ℚ} (hfee : 0 ≤ fee) :
    Owing (addZoneFee next fee) ∧ finalCharge state ≤ finalCharge (addZoneFee next fee) ∧
      (Stay.addZoneFee next fee).bGotDayInfo = true := by
  obtain ⟨pt, bFirstFreed, bMCPerDayChecked, rfl⟩ := hmoved
  have hlimited := limitFee_nonneg state.currentMin state.currentMax hfee
  refine ⟨⟨howing.zones, howing.charge, add_nonneg howing.dayFee hlimited, ?_⟩, ?_, hgot⟩
  · intro hnot
    change state.bGotDayInfo = false at hnot
    rw [hgot] at hnot
    cases hnot
  · exact finalCharge_mono rfl le_rfl (le_add_of_nonneg_right hlimited)

theorem Owing.settleDay (stay : Stay) (howing : Owing state) :
    Owing (stay.settleDay state) ∧ finalCharge state ≤ finalCharge (stay.settleDay state) := by
  unfold Stay.settleDay
  split
  · have hlimited := limitFee_nonneg state.day.dayMin state.day.dayMax howing.dayFee
    refine ⟨⟨howing.zones, add_nonneg howing.charge hlimited, le_rfl, fun _ => rfl⟩, ?_⟩
    unfold finalCharge
    rw [if_neg (lt_irrefl _)]
    split
    · exact le_rfl
    · exact le_add_of_nonneg_right hlimited
  · exact ⟨howing, le_rfl⟩

/-- A turn that goes round again. -/
theorem Owing.turn (hnonneg : stay.tables.NonNegative stay.iTransType) {fuel : ℕ}
    (howing : Owing state) (hturn : stay.turn fuel state = some (.ok next)) :
    Owing next ∧ finalCharge state ≤ finalCharge next := by
  obtain ⟨entered, henter, moved, fee, hfee, hsettle⟩ := turn_eq_ok hturn
  obtain ⟨hentered, hfinal, hgot⟩ := howing.enterZone hnonneg henter
  obtain ⟨hadded, hle, -⟩ := hentered.addZoneFee hgot (zoneFee_moved hfee)
    (zoneFee_nonneg (hentered.zones _) hfee)
  obtain ⟨hsettled, hle'⟩ := hadded.settleDay stay
  obtain ⟨rfl, -⟩ := settle_eq_ok hsettle
  exact ⟨hsettled, hfinal.ge.trans (hle.trans hle')⟩

/-- A turn that leaves the loop by a `break`. -/
theorem Owing.broke (hnonneg : stay.tables.NonNegative stay.iTransType) {fuel : ℕ}
    {last : FeeState} (howing : Owing state)
    (hturn : stay.turn fuel state = some (.error (.broke last))) :
    Owing last ∧ finalCharge state ≤ finalCharge last := by
  obtain henter | ⟨entered, henter, hfee | ⟨moved, fee, hfee, hsettle⟩⟩ := turn_eq_error hturn
  · -- at the head of the loop
    obtain ⟨-, hexit⟩ | ⟨-, ⟨_, hexit, -⟩ | ⟨_, _, _, _, _, _, _, hexit⟩⟩ :=
      enterZone_eq_error henter <;> cases hexit
    exact ⟨howing, le_rfl⟩
  · obtain ⟨hentered, hfinal, hgot⟩ := howing.enterZone hnonneg henter
    obtain ⟨-, ⟨_, hexit, -⟩ | ⟨-, hexit⟩ | ⟨-, -, hexit⟩⟩ := zoneFee_eq_error hfee <;>
      cases hexit
    · -- within the allowance
      exact ⟨hentered, hfinal.ge⟩
    · -- out of the free periods: their fee is not limited
      have hfree := (zoneFee_freeOf stay (hentered.zones entered.currentZone)).1
      refine ⟨⟨hentered.zones, hentered.charge, add_nonneg hentered.dayFee hfree, ?_⟩, ?_⟩
      · intro hnot
        change entered.bGotDayInfo = false at hnot
        rw [hgot] at hnot
        cases hnot
      · exact hfinal.ge.trans (finalCharge_mono rfl le_rfl (le_add_of_nonneg_right hfree))
  · -- at the end of the turn
    obtain ⟨hentered, hfinal, hgot⟩ := howing.enterZone hnonneg henter
    obtain ⟨hadded, hle, -⟩ := hentered.addZoneFee hgot (zoneFee_moved hfee)
      (zoneFee_nonneg (hentered.zones _) hfee)
    obtain ⟨hsettled, hle'⟩ := hadded.settleDay stay
    cases (settle_eq_error hsettle).1
    exact ⟨hsettled, hfinal.ge.trans (hle.trans hle')⟩

end Stay

end LinuxPBS.Tariff

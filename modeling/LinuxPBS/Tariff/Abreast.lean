import LinuxPBS.Tariff.Regular

/-!
# Two pay times in one turn

The two calculations of `ZonePair.lean` at the head of the same turn.  They are
`Abreast`: the same state but for the charges, which are no larger in the earlier
one, and with the current points at the same minute.  Each piece of the turn keeps
them abreast, or leaves the earlier one at the pay time and `Overtaken`.
-/

namespace LinuxPBS.Tariff

open Loop

namespace Stay

variable {stay : Stay} {later : ℤ}

/-! ## Side by side -/

/-- The second state is the first one but for the charges, which are no less, and for the
seconds of the current point. -/
def Abreast (first second : FeeState) : Prop :=
  ∃ pt charge dayFee, second = { first with pt, charge, dayFee } ∧
    minute first.pt = minute pt ∧ first.charge ≤ charge ∧ first.dayFee ≤ dayFee ∧
    (first.Charged ↔ 0 < charge ∨ 0 < dayFee)

/-- The second state has charged no less for the same day, and is not behind. -/
def Overtaken (first second : FeeState) : Prop :=
  second.pd = first.pd ∧ second.day = first.day ∧ minute first.pt ≤ minute second.pt ∧
    first.charge ≤ second.charge ∧ first.dayFee ≤ second.dayFee

theorem Abreast.overtaken {first second : FeeState} (habreast : Abreast first second) :
    Overtaken first second := by
  obtain ⟨pt, charge, dayFee, rfl, hminute, hcharge, hfee, -⟩ := habreast
  exact ⟨rfl, rfl, hminute.le, hcharge, hfee⟩

theorem Overtaken.finalCharge_le {first second : FeeState} (hovertaken : Overtaken first second) :
    finalCharge first ≤ finalCharge second :=
  finalCharge_mono hovertaken.2.1 hovertaken.2.2.2.1 hovertaken.2.2.2.2

section Abreast

variable {first second entered : FeeState}

theorem Abreast.getDay (later : ℤ) (habreast : Abreast first second) (howing : Owing first)
    (howing' : Owing second) (hget : stay.getDay first = .ok entered) :
    ∃ entered', (stay.paidAt later).getDay second = .ok entered' ∧ Abreast entered entered' := by
  obtain ⟨pt, charge, dayFee, rfl, hminute, hcharge, hfee, hcharged⟩ := habreast
  unfold Stay.getDay at hget ⊢
  split at hget
  · rename_i hgot
    obtain rfl := Except.ok.inj hget
    exact ⟨_, if_pos hgot, pt, charge, dayFee, rfl, hminute, hcharge, hfee, hcharged⟩
  · rename_i hgot
    obtain ⟨day, hday, heq⟩ := bind_eq_ok.mp hget
    obtain rfl := Except.ok.inj heq
    refine ⟨_, (if_neg hgot).trans (bind_eq_ok.mpr ⟨day, hday, rfl⟩), pt, charge, 0, rfl, hminute,
      hcharge, le_rfl, ?_⟩
    -- before the day is loaded there is no day fee
    have hzero : first.dayFee = 0 := howing.settled (by simpa using hgot)
    have hzero' : dayFee = 0 := howing'.settled (by simpa using hgot)
    unfold FeeState.Charged at hcharged ⊢
    simpa [hzero, hzero'] using hcharged

theorem searchZone_congr (habreast : Abreast first second) :
    searchZone second = searchZone first := by
  obtain ⟨pt, charge, dayFee, rfl, hminute, -⟩ := habreast
  simp only [searchZone, diffmin_congr hminute]

theorem Abreast.selectZone (later : ℤ) (habreast : Abreast first second)
    (hblocks : first.day.b24HourBlock = false) (hselect : stay.selectZone first = .ok entered) :
    ∃ entered', (stay.paidAt later).selectZone second = .ok entered' ∧
      Abreast entered entered' := by
  have hsearch := searchZone_congr habreast
  obtain ⟨pt, charge, dayFee, rfl, hminute, hcharge, hfee, hcharged⟩ := habreast
  have hnone : ∀ (stay : Stay) (state : FeeState), state.day.b24HourBlock = false →
      ¬ stay.blocksLeft state > 0 := by
    intro stay state hoff
    simp [blocksLeft, hoff]
  simp only [Stay.selectZone, if_neg (hnone _ first hblocks)] at hselect
  split at hselect
  · cases hselect
  · rename_i hrate
    obtain rfl := Except.ok.inj hselect
    have hnone' := hnone (stay.paidAt later) { first with pt, charge, dayFee } hblocks
    have hrate' : ¬ ((first.day.zones (searchZone { first with pt, charge, dayFee })).rateType < 1 ∨
        (first.day.zones (searchZone { first with pt, charge, dayFee })).rateType > 2) :=
      hsearch ▸ hrate
    refine ⟨_, (if_neg hnone').trans (if_neg hrate'), pt, charge, dayFee, ?_, hminute, hcharge,
      hfee, hcharged⟩
    simp only [hsearch]

/-- What is within the grace time of the later stay is within that of the earlier one. -/
theorem Abreast.checkGrace (hlater : minute stay.currentTime ≤ minute later)
    (habreast : Abreast first second) (hgrace : stay.checkGrace first = .ok entered) :
    ∃ entered', (stay.paidAt later).checkGrace second = .ok entered' ∧
      Abreast entered entered' := by
  obtain ⟨pt, charge, dayFee, rfl, hminute, hcharge, hfee, hcharged⟩ := habreast
  have hleft := minutesLeft_le hlater hminute
  unfold Stay.checkGrace at hgrace ⊢
  split at hgrace
  · cases hgrace
  · rename_i hnot
    obtain rfl := Except.ok.inj hgrace
    refine ⟨_, if_neg fun hwithin => hnot ⟨hwithin.1, hwithin.2.1, hleft.trans hwithin.2.2⟩,
      pt, charge, dayFee, rfl, hminute, hcharge, hfee, hcharged⟩

theorem Abreast.enterZone (hlater : minute stay.currentTime ≤ minute later)
    (habreast : Abreast first second) (howing : Owing first) (howing' : Owing second)
    (hblocks : ∀ loaded, stay.getDay first = .ok loaded → loaded.day.b24HourBlock = false)
    (henter : stay.enterZone first = .ok entered) :
    ∃ entered', (stay.paidAt later).enterZone second = .ok entered' ∧
      Abreast entered entered' := by
  have hsame : second.pd = first.pd := habreast.overtaken.1
  unfold Stay.enterZone at henter ⊢
  split at henter
  · cases henter
  · rename_i hpd
    have hday : ¬ (stay.paidAt later).tables.timeZone.day (stay.paidAt later).currentTime <
        second.pd := by
      rw [hsame]
      exact not_lt.mpr ((not_lt.mp hpd).trans (stay.tables.timeZone.day_le_of_minute_le hlater))
    obtain ⟨loaded, hget, hrest⟩ := bind_eq_ok.mp henter
    obtain ⟨selected, hselect, hgrace⟩ := bind_eq_ok.mp hrest
    obtain ⟨loaded', hget', hloaded⟩ := habreast.getDay later howing howing' hget
    obtain ⟨selected', hselect', hselected⟩ := hloaded.selectZone later (hblocks _ hget) hselect
    obtain ⟨entered', hgrace', hentered⟩ := hselected.checkGrace hlater hgrace
    refine ⟨entered', ?_, hentered⟩
    rw [if_neg hday]
    exact bind_eq_ok.mpr ⟨loaded', hget', bind_eq_ok.mpr ⟨selected', hselect', hgrace'⟩⟩

/-! ## The fee of a zone -/

/-- How the two fees of the zone leave the calculations: abreast, or with the earlier one at
the pay time. -/
def FeesAbreast (stay : Stay) (first second : FeeState) : Prop :=
  Abreast first second ∨ (stay.minutesLeft first.pt ≤ 0 ∧ Overtaken first second)

theorem FeesAbreast.overtaken (hfees : stay.FeesAbreast first second) :
    Overtaken first second := by
  rcases hfees with habreast | ⟨-, hovertaken⟩
  · exact habreast.overtaken
  · exact hovertaken

theorem not_charged_iff (howing : Owing first) :
    ¬ first.Charged ↔ first.dayFee = 0 ∧ first.charge = 0 := by
  unfold FeeState.Charged
  rw [not_or, not_lt, not_lt, and_comm]
  exact and_congr ⟨fun hle => le_antisymm hle howing.dayFee, fun heq => heq.le⟩
    ⟨fun hle => le_antisymm hle howing.charge, fun heq => heq.le⟩

theorem Abreast.charged_iff (habreast : Abreast first second) :
    second.Charged ↔ first.Charged := by
  obtain ⟨pt, charge, dayFee, rfl, -, -, -, hcharged⟩ := habreast
  exact hcharged.symm

/-- What is within the allowance of the later pay time is within that of the earlier one. -/
theorem Abreast.withinAllowance (hlater : minute stay.currentTime ≤ minute later)
    (habreast : Abreast first second)
    (hwithin : (stay.paidAt later).WithinAllowance second.zone second.Charged second.pt) :
    stay.WithinAllowance first.zone first.Charged first.pt := by
  have hcharged := habreast.charged_iff
  obtain ⟨pt, charge, dayFee, rfl, hminute, -⟩ := habreast
  obtain ⟨hzone, hsome, hleft⟩ := hwithin
  exact ⟨hzone, hcharged.mp hsome, (minutesLeft_le hlater hminute).trans hleft⟩

theorem Abreast.freeOf (hlater : minute stay.currentTime ≤ minute later)
    (habreast : Abreast first second) (howing : Owing first) (howing' : Owing second)
    (hzone : first.zone.Amounts) :
    FreePair (stay.freeOf first) ((stay.paidAt later).freeOf second) := by
  have hnone : second.dayFee = 0 ∧ second.charge = 0 ↔ first.dayFee = 0 ∧ first.charge = 0 := by
    rw [← not_charged_iff howing, ← not_charged_iff howing', habreast.charged_iff]
  obtain ⟨pt, charge, dayFee, rfl, hminute, -⟩ := habreast
  have hfree : (stay.paidAt later).HasFreePeriods { first with pt, charge, dayFee } ↔
      stay.HasFreePeriods first :=
    and_congr_right' (and_congr_left' (or_congr_right hnone))
  unfold Stay.freeOf
  by_cases hhas : stay.HasFreePeriods first
  · rw [if_pos hhas, if_pos (hfree.mpr hhas)]
    exact freePair_freePeriods hlater hminute hzone _
  · rw [if_neg hhas, if_neg (mt hfree.mp hhas)]
    exact Or.inl ⟨rfl, rfl, hminute, rfl, rfl⟩

theorem charged_limitFee {charged : Prop} {min max fee fee' : ℚ} (hfee : 0 ≤ fee)
    (hfee' : 0 ≤ fee') (hiff : charged ∨ 0 < fee ↔ charged ∨ 0 < fee') :
    charged ∨ 0 < limitFee min max fee ↔ charged ∨ 0 < limitFee min max fee' := by
  by_cases hcharged : charged
  · exact iff_of_true (Or.inl hcharged) (Or.inl hcharged)
  · simp only [hcharged, false_or] at hiff ⊢
    rcases hfee.lt_or_eq with hpos | hzero
    · exact iff_of_true (limitFee_pos hpos) (limitFee_pos (hiff.mp hpos))
    · have hzero' : fee' = 0 := le_antisymm (not_lt.mp fun hpos => (hiff.mpr hpos).ne hzero) hfee'
      rw [← hzero, hzero']

theorem charged_addZoneFee (howing : Owing first) {fee : ℚ} (hfee : 0 ≤ fee) :
    (addZoneFee first fee).Charged ↔
      first.Charged ∨ 0 < limitFee first.currentMin first.currentMax fee := by
  have hlimited := limitFee_nonneg first.currentMin first.currentMax hfee
  have hsum : 0 < first.dayFee + limitFee first.currentMin first.currentMax fee ↔
      0 < first.dayFee ∨ 0 < limitFee first.currentMin first.currentMax fee := by
    have hnonneg := howing.dayFee
    constructor
    · intro hpos
      by_contra hnone
      rw [not_or, not_lt, not_lt] at hnone
      linarith
    · rintro (hpos | hpos)
      · linarith
      · linarith
  exact (or_congr_right hsum).trans or_assoc.symm

/-- The fees of the zone are added: the states stay abreast when the points do. -/
theorem Abreast.addZoneFee (habreast : Abreast first second) (howing : Owing first)
    (howing' : Owing second) {fee fee' : ℚ} (hfee : 0 ≤ fee) (hfee' : 0 ≤ fee')
    (hle : limitFee first.currentMin first.currentMax fee ≤
      limitFee first.currentMin first.currentMax fee')
    (hiff : first.Charged ∨ 0 < fee ↔ first.Charged ∨ 0 < fee') :
    Abreast (Stay.addZoneFee first fee) (Stay.addZoneFee second fee') := by
  have hsame := habreast.charged_iff
  have hsecond := charged_addZoneFee howing' hfee'
  obtain ⟨pt, charge, dayFee, rfl, hminute, hcharge, hday, -⟩ := habreast
  have hcharged : (Stay.addZoneFee first fee).Charged ↔
      (Stay.addZoneFee { first with pt, charge, dayFee } fee').Charged := by
    rw [charged_addZoneFee howing hfee, hsecond, hsame]
    exact charged_limitFee hfee hfee' hiff
  exact ⟨pt, charge, dayFee + limitFee first.currentMin first.currentMax fee', rfl, hminute,
    hcharge, add_le_add hday hle, hcharged⟩

theorem Owing.moved (howing : Owing first) (hmoved : first.Moved second) : Owing second := by
  obtain ⟨pt, bFirstFreed, bMCPerDayChecked, rfl⟩ := hmoved
  exact ⟨howing.zones, howing.charge, howing.dayFee, howing.settled⟩

theorem Abreast.moveTo (habreast : Abreast first second) {pt pt' : ℤ}
    (hminute : minute pt = minute pt') (bFirstFreed bMCPerDayChecked : Bool) :
    Abreast { first with pt, bFirstFreed, bMCPerDayChecked }
      { second with pt := pt', bFirstFreed, bMCPerDayChecked } := by
  obtain ⟨now, charge, dayFee, rfl, -, hcharge, hday, hcharged⟩ := habreast
  exact ⟨pt', charge, dayFee, rfl, hminute, hcharge, hday, hcharged⟩

/-- An hourly zone that the earlier calculation goes through. -/
theorem Abreast.hourly (hlater : minute stay.currentTime ≤ minute later)
    (hside : stay.SameSide later) (habreast : Abreast first second) (howing : Owing first)
    (howing' : Owing second) (hcounted : stay.Counted first) (hrate : first.currentRateType = 1)
    {fuel fuel' : ℕ} {moved : FeeState} {fee : ℚ} {out : Except Exit (FeeState × ℚ)}
    (hfee : stay.hourly fuel first = some (.ok (moved, fee)))
    (hfee' : (stay.paidAt later).hourly fuel' second = some out) :
    ∃ moved' fee', out = .ok (moved', fee') ∧
      stay.FeesAbreast (Stay.addZoneFee moved fee) (Stay.addZoneFee moved' fee') := by
  obtain ⟨hctb, hallowance, hended, pt, hloop, rfl⟩ := hourly_eq_ok hfee
  have hfree := habreast.freeOf hlater howing howing' hcounted.amounts
  obtain ⟨-, hended', hminute, hzoneFee, hfreed⟩ | ⟨hyes, -⟩ := hfree
  swap
  · rw [hyes] at hended
    cases hended
  have hzone : second.zone = first.zone ∧ second.nextZone = first.nextZone := by
    obtain ⟨pt, charge, dayFee, rfl, -⟩ := habreast
    exact ⟨rfl, rfl⟩
  have hctb' : second.zone.ctb ≠ 0 := hzone.1 ▸ hctb
  have hallowance' := mt (habreast.withinAllowance hlater) hallowance
  cases out with
  | error exit =>
      obtain ⟨hzero, -⟩ | ⟨-, ⟨hwithin, -⟩ | ⟨-, hyes, -⟩⟩ := hourly_eq_error hfee'
      · exact absurd hzero hctb'
      · exact absurd hwithin hallowance'
      · rw [hended'] at hyes
        cases hyes
  | ok result =>
      obtain ⟨moved', fee'⟩ := result
      refine ⟨moved', fee', rfl, ?_⟩
      obtain ⟨-, -, -, pt', hloop', rfl⟩ := hourly_eq_ok hfee'
      rw [hzone.1, hzone.2, ← hzoneFee] at hloop'
      -- a zone that has gone by is not entered by the zone loop
      have hahead : minute (stay.freeOf first).pt < minute first.nextZone.zoneTime →
          first.currentZone ≤ first.day.maxZone ∧ 0 < first.zone.ctb := by
        intro hlt
        obtain ⟨-, hselected⟩ := hcounted.selected
        rcases hselected with ⟨-, hmax, hblocks⟩ | hbehind
        · exact ⟨hmax, hblocks hrate⟩
        · exact absurd (le_freeOf hcounted.selected.1 le_rfl hbehind) (not_le.mpr hlt)
      have hnonneg := (stay.zoneFee_freeOf hcounted.amounts).1
      have hpair := loopPair_zoneLoop hlater hcounted.amounts.chargeRate
        (fun hlt => (hahead hlt).2) (fun hpos => (hcounted.covers hpos).2)
        (fun hlt => hcounted.allowances _ (hahead hlt).1) Iff.rfl habreast.charged_iff hminute
        ⟨hnonneg, le_rfl, Or.inl rfl, Iff.rfl⟩ hloop hloop'
      obtain ⟨hmin, hmax⟩ := hcounted.limits
      have hlimit := hpair.limit_le
      rw [← hmin, ← hmax] at hlimit
      have hpoint := hpair.point
      have hcut := @cutZone_paidAt stay later first.nextZone first.day.iZoneCutoff pt' hside
      rw [← hcut] at hpoint
      rw [hzone.2, ← hfreed]
      rcases hpoint with ⟨hpoint, hiff⟩ | ⟨hdone, hpoint⟩
      · have hmoved := habreast.moveTo hpoint (first.bFirstFreed ||
          ((stay.freeOf first).freed && stay.tables.paras.giFirstHourMode == 1))
          first.bMCPerDayChecked
        have hadded := hmoved.addZoneFee (howing.moved ⟨_, _, _, rfl⟩)
          (howing'.moved ⟨_, _, _, rfl⟩) hpair.nonneg.1 hpair.nonneg.2 hlimit hiff
        obtain ⟨now, charge, dayFee, rfl, -⟩ := habreast
        exact Or.inl hadded
      · obtain ⟨now, charge, dayFee, rfl, -, hcharge, hday, -⟩ := habreast
        exact Or.inr ⟨hdone, rfl, rfl, hpoint, hcharge, add_le_add hday hlimit⟩

/-- A per-entry zone: nothing but the fee depends on the pay time. -/
theorem Abreast.perEntry (hlater : minute stay.currentTime ≤ minute later)
    (hmotor : stay.tables.paras.giMCyclePerDay ≤ 0) (habreast : Abreast first second)
    (howing : Owing first) (howing' : Owing second) (hrate : 0 ≤ first.zone.chargeRate) :
    Abreast (Stay.addZoneFee (stay.perEntry first).1 (stay.perEntry first).2)
      (Stay.addZoneFee ((stay.paidAt later).perEntry second).1
        ((stay.paidAt later).perEntry second).2) := by
  have hwithin := habreast.withinAllowance hlater
  have hper : ∀ state, stay.perEntryRate state = state.zone.chargeRate := by
    intro state
    exact if_neg fun hmotorcycle => absurd hmotorcycle.1 (not_lt.mpr hmotor)
  have hper' : ∀ state, (stay.paidAt later).perEntryRate state = state.zone.chargeRate := hper
  have hzone : second.zone = first.zone ∧ second.nextZone = first.nextZone ∧
      second.bMCPerDayChecked = first.bMCPerDayChecked ∧ minute first.pt = minute second.pt := by
    obtain ⟨pt, charge, dayFee, rfl, hminute, -⟩ := habreast
    exact ⟨rfl, rfl, rfl, hminute⟩
  obtain ⟨hzone, hnext, hchecked, hminute⟩ := hzone
  have hleave : minute (stay.leavePerEntry first.nextZone first.pt) =
      minute (stay.leavePerEntry second.nextZone second.pt) := by
    rw [hnext]
    simp only [leavePerEntry, diffmin_congr hminute]
    split
    · rw [minute_add_minutes, minute_add_minutes, hminute]
    · rfl
  have hfees : 0 ≤ (stay.perEntry first).2 ∧
      (stay.perEntry first).2 ≤ ((stay.paidAt later).perEntry second).2 ∧
      (first.Charged ∨ 0 < (stay.perEntry first).2 ↔
        first.Charged ∨ 0 < ((stay.paidAt later).perEntry second).2) := by
    simp only [Stay.perEntry, hper, hper', hzone]
    rw [hzone] at hwithin
    split_ifs with hfirst hsecond hsecond
    · exact ⟨le_rfl, le_rfl, Iff.rfl⟩
    · exact ⟨le_rfl, hrate, iff_of_true (Or.inl hfirst.2.1) (Or.inl hfirst.2.1)⟩
    · exact absurd (hwithin hsecond) hfirst
    · exact ⟨hrate, le_rfl, Iff.rfl⟩
  obtain ⟨hnonneg, hle, hiff⟩ := hfees
  have hmoved := habreast.moveTo hleave first.bFirstFreed (first.bMCPerDayChecked ||
    decide (stay.tables.paras.giMCyclePerDay > 0 ∧ stay.iTransType = 2))
  have hadded := hmoved.addZoneFee (howing.moved ⟨_, _, _, rfl⟩) (howing'.moved ⟨_, _, _, rfl⟩)
    hnonneg (hnonneg.trans hle) (limitFee_mono hle) hiff
  obtain ⟨pt, charge, dayFee, rfl, -⟩ := habreast
  exact hadded

theorem Abreast.zoneFee (hlater : minute stay.currentTime ≤ minute later)
    (hside : stay.SameSide later) (hmotor : stay.tables.paras.giMCyclePerDay ≤ 0)
    (habreast : Abreast first second) (howing : Owing first) (howing' : Owing second)
    (hcounted : stay.Counted first) {fuel fuel' : ℕ} {moved : FeeState} {fee : ℚ}
    {out : Except Exit (FeeState × ℚ)}
    (hfee : stay.zoneFee fuel first = some (.ok (moved, fee)))
    (hfee' : (stay.paidAt later).zoneFee fuel' second = some out) :
    ∃ moved' fee', out = .ok (moved', fee') ∧
      stay.FeesAbreast (Stay.addZoneFee moved fee) (Stay.addZoneFee moved' fee') := by
  have hsame : second.currentRateType = first.currentRateType := by
    obtain ⟨pt, charge, dayFee, rfl, -⟩ := habreast
    rfl
  unfold Stay.zoneFee at hfee hfee'
  rw [hsame] at hfee'
  rcases hcounted.rateType with hhourly | hentry
  · rw [if_pos hhourly] at hfee hfee'
    exact habreast.hourly hlater hside howing howing' hcounted hhourly hfee hfee'
  · have hnot : ¬ first.currentRateType = 1 := by omega
    rw [if_neg hnot, if_pos hentry] at hfee hfee'
    obtain ⟨rfl, rfl⟩ := Prod.mk.inj (Except.ok.inj (Option.some.inj hfee))
    obtain rfl := Option.some.inj hfee'
    exact ⟨_, _, rfl, Or.inl (habreast.perEntry hlater hmotor howing howing'
      hcounted.amounts.chargeRate)⟩

/-- Out of the free periods: whatever the later calculation charges for the zone covers them. -/
theorem Abreast.freeBreak (hlater : minute stay.currentTime ≤ minute later)
    (habreast : Abreast first second) (howing : Owing first) (howing' : Owing second)
    (hcounted : stay.Counted first) (hended : (stay.freeOf first).ended = true)
    {fuel' : ℕ} {moved : FeeState} {fee : ℚ}
    (hfee' : (stay.paidAt later).hourly fuel' second = some (.ok (moved, fee))) :
    finalCharge { first with
        pt := (stay.freeOf first).pt
        dayFee := first.dayFee + (stay.freeOf first).zoneFee } ≤
      finalCharge (Stay.addZoneFee moved fee) := by
  have hfree := habreast.freeOf hlater howing howing' hcounted.amounts
  obtain ⟨hno, -⟩ | ⟨-, hle⟩ := hfree
  · rw [hended] at hno
    cases hno
  obtain ⟨-, -, -, pt', hloop, rfl⟩ := hourly_eq_ok hfee'
  obtain ⟨pt, charge, dayFee, rfl, -, hcharge, hday, -⟩ := habreast
  obtain ⟨hmin, hmax⟩ := hcounted.limits
  have hloop_le := le_zoneLoop hcounted.amounts.chargeRate hloop
  refine finalCharge_mono rfl hcharge (add_le_add hday ?_)
  -- the additions of the free periods are below the maximum of the zone
  have hcovered : (stay.freeOf first).zoneFee ≤
      limitFee first.currentMin first.currentMax (stay.freeOf first).zoneFee := by
    refine le_limitFee fun hpos => ?_
    rw [hmax] at hpos ⊢
    exact (stay.zoneFee_freeOf hcounted.amounts).2.trans (hcounted.covers hpos).1
  exact hcovered.trans (limitFee_mono (hle.trans hloop_le))

/-- A day that is settled keeps what is charged. -/
theorem charged_settled {min max charge dayFee : ℚ} (hcharge : 0 ≤ charge) (hday : 0 ≤ dayFee)
    (hcharged : 0 < charge ∨ 0 < dayFee) : 0 < charge + limitFee min max dayFee := by
  have hlimited := limitFee_nonneg min max hday
  rcases hcharged with hpos | hpos
  · linarith
  · have hlimited' : 0 < limitFee min max dayFee := limitFee_pos hpos
    linarith

theorem Abreast.settleDay (later : ℤ) (habreast : Abreast first second) (howing : Owing first)
    (howing' : Owing second) :
    Abreast (stay.settleDay first) ((stay.paidAt later).settleDay second) := by
  have hnone := not_charged_iff howing
  have hnone' := not_charged_iff howing'
  obtain ⟨pt, charge, dayFee, rfl, hminute, hcharge, hday, hcharged⟩ := habreast
  have hpd : stay.tables.timeZone.day first.pt = stay.tables.timeZone.day pt :=
    stay.tables.timeZone.day_eq_of_minute_eq hminute
  unfold Stay.settleDay
  by_cases hleft : stay.tables.timeZone.day first.pt > first.pd
  · rw [if_pos hleft, if_pos (show _ > _ from hpd ▸ hleft)]
    refine ⟨pt, charge + limitFee first.day.dayMin first.day.dayMax dayFee, 0, rfl, hminute,
      add_le_add hcharge (limitFee_mono hday), le_rfl, or_congr_left ?_⟩
    by_cases hsome : first.Charged
    · exact iff_of_true (charged_settled howing.charge howing.dayFee hsome)
        (charged_settled howing'.charge howing'.dayFee (hcharged.mp hsome))
    · obtain ⟨hfee, hzero⟩ := hnone.mp hsome
      obtain ⟨hfee', hzero'⟩ := hnone'.mp (mt hcharged.mpr hsome)
      change dayFee = 0 at hfee'
      change charge = 0 at hzero'
      rw [hfee, hzero, hfee', hzero']
  · rw [if_neg hleft, if_neg (show ¬ _ > _ from hpd ▸ hleft)]
    exact ⟨pt, charge, dayFee, rfl, hminute, hcharge, hday, hcharged⟩

/-- The later calculation is at least as far at the end of the turn. -/
theorem Overtaken.settleDay (later : ℤ) (hovertaken : Overtaken first second)
    (howing' : Owing second) :
    finalCharge (stay.settleDay first) ≤
      finalCharge ((stay.paidAt later).settleDay second) := by
  have hle := hovertaken.finalCharge_le
  have hsettled := (howing'.settleDay (stay.paidAt later)).2
  obtain ⟨hpd, hday, hminute, hcharge, hfee⟩ := hovertaken
  have hreach := stay.tables.timeZone.day_le_of_minute_le hminute
  by_cases hleft : stay.tables.timeZone.day first.pt > first.pd
  · have hleft' : (stay.paidAt later).tables.timeZone.day second.pt > second.pd :=
      hpd ▸ hleft.trans_le hreach
    unfold Stay.settleDay
    rw [if_pos hleft, if_pos hleft']
    refine finalCharge_mono hday ?_ le_rfl
    change _ ≤ second.charge + limitFee second.day.dayMin second.day.dayMax second.dayFee
    rw [hday]
    exact add_le_add hcharge (limitFee_mono hfee)
  · have hsame : stay.settleDay first = first := if_neg hleft
    rw [hsame]
    exact hle.trans hsettled

end Abreast

end Stay

end LinuxPBS.Tariff

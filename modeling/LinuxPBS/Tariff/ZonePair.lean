import LinuxPBS.Tariff.Amounts

/-!
# Two pay times in one zone

The same stay paid at two times: `stay`, and `stay.paidAt later`.  While both
calculations are at the same minute of the same day, what happens in a zone is
compared piece by piece.

```text
free periods    the same, or the earlier calculation ends with no larger fee
zone loop       the earlier fee is no larger within the limits of the zone, and
                the points are at the same minute, or the earlier one is at the
                pay time and not behind the later one
per entry       the same minute, no larger fee
```

The one place where the points can come apart is the jump to the end of the zone
at its maximum: with an allowance the later calculation can reach the maximum in
a block that is free for the earlier one.  The zone cut-off brings the earlier
point to the end of the zone as well.
-/

namespace LinuxPBS.Tariff

open Loop

theorem diffmin_congr {pt pt' : ℤ} (hminute : minute pt = minute pt') (time : ℤ) :
    diffmin pt time = diffmin pt' time := by
  unfold diffmin
  rw [hminute]

namespace Stay

variable {stay : Stay} {later : ℤ}

/-- The same stay, paid at another time. -/
def paidAt (stay : Stay) (time : ℤ) : Stay := { stay with currentTime := time }

/-- At the same minute no less time is left to the later pay time. -/
theorem minutesLeft_le (hlater : minute stay.currentTime ≤ minute later) {pt pt' : ℤ}
    (hminute : minute pt = minute pt') :
    stay.minutesLeft pt ≤ (stay.paidAt later).minutesLeft pt' := by
  unfold minutesLeft diffmin
  rw [hminute]
  exact Int.sub_le_sub_right hlater _

/-! ## The free periods -/

/-- The free periods of the two calculations: they go on alike, or the earlier one ends. -/
def FreePair (first second : FreePeriods) : Prop :=
  (first.ended = false ∧ second.ended = false ∧ minute first.pt = minute second.pt ∧
      first.zoneFee = second.zoneFee ∧ first.freed = second.freed) ∨
    (first.ended = true ∧ first.zoneFee ≤ second.zoneFee)

section FreePeriods

variable (hlater : minute stay.currentTime ≤ minute later) {zone next : Zone} {pt pt' : ℤ}
  (hminute : minute pt = minute pt')

include hlater hminute

theorem freePair_endFreePeriods (fee : ℚ) (freed : Bool) :
    FreePair (stay.endFreePeriods pt fee freed)
      ((stay.paidAt later).endFreePeriods pt' fee freed) := by
  have hleft := minutesLeft_le hlater hminute
  unfold endFreePeriods
  split_ifs with hfirst hsecond hsecond
  · exact Or.inr ⟨rfl, le_rfl⟩
  · exact Or.inr ⟨rfl, le_rfl⟩
  · exact absurd (hleft.trans hsecond) hfirst
  · exact Or.inl ⟨rfl, rfl, hminute, rfl, rfl⟩

theorem freePair_thirdOverBoundary (iZoneCutoff : ℤ) (fee : ℚ) :
    FreePair (stay.thirdOverBoundary zone next iZoneCutoff pt fee)
      ((stay.paidAt later).thirdOverBoundary zone next iZoneCutoff pt' fee) := by
  have hparas : (stay.paidAt later).tables = stay.tables := rfl
  simp only [thirdOverBoundary, hparas, diffmin_congr hminute]
  split_ifs
  · exact Or.inl ⟨rfl, rfl, hminute, rfl, rfl⟩
  · refine freePair_endFreePeriods hlater ?_ _ _
    rw [minute_add_minutes, minute_add_minutes, hminute]
  · exact Or.inl ⟨rfl, rfl, hminute, rfl, rfl⟩

omit hlater hminute in
theorem le_thirdOverBoundary_zoneFee (stay : Stay) (hzone : zone.Amounts) (iZoneCutoff pt : ℤ)
    (fee : ℚ) : fee ≤ (stay.thirdOverBoundary zone next iZoneCutoff pt fee).zoneFee := by
  have hthird := hzone.thirdAdd
  unfold thirdOverBoundary
  split_ifs
  · exact le_rfl
  · rw [endFreePeriods_zoneFee]
    linarith
  · exact le_rfl

/-- A free period after which others come: the earlier calculation may end with it. -/
theorem freePair_ite {fee : ℚ} {first second : FreePeriods} (hle : fee ≤ second.zoneFee)
    (hpair : FreePair first second) :
    FreePair (if stay.minutesLeft pt ≤ 0 then ⟨pt, fee, true, false⟩ else first)
      (if (stay.paidAt later).minutesLeft pt' ≤ 0 then ⟨pt', fee, true, false⟩ else second) := by
  have hleft := minutesLeft_le hlater hminute
  split_ifs with hfirst hsecond hsecond
  · exact Or.inr ⟨rfl, le_rfl⟩
  · exact Or.inr ⟨rfl, hle⟩
  · exact absurd (hleft.trans hsecond) hfirst
  · exact hpair

theorem freePair_secondOverBoundary (hzone : zone.Amounts) (iZoneCutoff : ℤ) :
    FreePair (stay.secondOverBoundary zone next iZoneCutoff pt)
      ((stay.paidAt later).secondOverBoundary zone next iZoneCutoff pt') := by
  have hparas : (stay.paidAt later).tables = stay.tables := rfl
  have hminute' : minute (pt + zone.secondFree * 60) = minute (pt' + zone.secondFree * 60) := by
    rw [minute_add_minutes, minute_add_minutes, hminute]
  simp only [secondOverBoundary, hparas, diffmin_congr hminute]
  split
  · split
    · exact Or.inl ⟨rfl, rfl, hminute, rfl, rfl⟩
    · exact freePair_ite hlater hminute' (le_thirdOverBoundary_zoneFee _ hzone _ _ _)
        (freePair_thirdOverBoundary hlater hminute' _ _)
  · exact Or.inl ⟨rfl, rfl, hminute, rfl, rfl⟩

omit hlater in
theorem minute_cutFree (next : Zone) (iZoneCutoff free : ℤ) :
    minute (cutFree next iZoneCutoff pt free) = minute (cutFree next iZoneCutoff pt' free) := by
  unfold cutFree
  split
  · rfl
  · rw [minute_add_minutes, minute_add_minutes, hminute]

theorem freePair_thirdFreePeriod (iZoneCutoff : ℤ) :
    FreePair (stay.thirdFreePeriod zone next iZoneCutoff pt)
      ((stay.paidAt later).thirdFreePeriod zone next iZoneCutoff pt') := by
  have hparas : (stay.paidAt later).tables = stay.tables := rfl
  simp only [thirdFreePeriod, hparas, diffmin_congr hminute]
  split
  · refine freePair_endFreePeriods hlater ?_ _ _
    split
    · exact minute_cutFree hminute _ _ _
    · rw [minute_add_minutes, minute_add_minutes, hminute]
  · exact Or.inl ⟨rfl, rfl, hminute, rfl, rfl⟩

omit hlater hminute in
/-- What the free periods have added stays added. -/
theorem le_zoneFee_rest (stay : Stay) (hzone : zone.Amounts) (iZoneCutoff pt : ℤ) :
    zone.firstAdd ≤ (stay.secondOverBoundary zone next iZoneCutoff pt).zoneFee ∧
      zone.firstAdd + zone.secondAdd ≤ (stay.thirdFreePeriod zone next iZoneCutoff pt).zoneFee ∧
      zone.firstAdd ≤ (stay.secondFreePeriod zone next iZoneCutoff pt).zoneFee := by
  obtain ⟨-, -, hsecond, hthird⟩ := hzone
  refine ⟨?_, ?_, ?_⟩
  · simp only [secondOverBoundary, thirdOverBoundary]
    split_ifs <;> simp only [endFreePeriods_zoneFee] <;> linarith
  · simp only [thirdFreePeriod]
    split_ifs <;> simp only [endFreePeriods_zoneFee] <;> linarith
  · simp only [secondFreePeriod, thirdOverBoundary, thirdFreePeriod]
    split_ifs <;> simp only [endFreePeriods_zoneFee] <;> linarith

theorem freePair_secondFreePeriod (hzone : zone.Amounts) (iZoneCutoff : ℤ) :
    FreePair (stay.secondFreePeriod zone next iZoneCutoff pt)
      ((stay.paidAt later).secondFreePeriod zone next iZoneCutoff pt') := by
  have hparas : (stay.paidAt later).tables = stay.tables := rfl
  have hminute' : minute (pt + zone.secondFree * 60) = minute (pt' + zone.secondFree * 60) := by
    rw [minute_add_minutes, minute_add_minutes, hminute]
  have hcut := minute_cutFree hminute next iZoneCutoff zone.secondFree
  simp only [secondFreePeriod, hparas, diffmin_congr hminute]
  split
  · split
    · exact freePair_ite hlater hcut (le_thirdOverBoundary_zoneFee _ hzone _ _ _)
        (freePair_thirdOverBoundary hlater hcut _ _)
    · exact freePair_ite hlater hminute' (le_zoneFee_rest _ hzone _ _).2.1
        (freePair_thirdFreePeriod hlater hminute' _)
  · exact Or.inl ⟨rfl, rfl, hminute, rfl, rfl⟩

theorem freePair_freePeriods (hzone : zone.Amounts) (iZoneCutoff : ℤ) :
    FreePair (stay.freePeriods zone next iZoneCutoff pt)
      ((stay.paidAt later).freePeriods zone next iZoneCutoff pt') := by
  have hminute' : minute (pt + zone.firstFree * 60) = minute (pt' + zone.firstFree * 60) := by
    rw [minute_add_minutes, minute_add_minutes, hminute]
  have hcut := minute_cutFree hminute next iZoneCutoff zone.firstFree
  simp only [freePeriods, diffmin_congr hminute]
  split
  · exact freePair_ite hlater hcut (le_zoneFee_rest _ hzone _ _).1
      (freePair_secondOverBoundary hlater hcut hzone _)
  · exact freePair_ite hlater hminute' (le_zoneFee_rest _ hzone _ _).2.2
      (freePair_secondFreePeriod hlater hminute' hzone _)

end FreePeriods

/-! ## The zone cut-off -/

/-- Both stays are on the same side of `giHr2PEAllowance`. -/
def SameSide (stay : Stay) (later : ℤ) : Prop :=
  0 < stay.tables.paras.giHr2PEAllowance →
    (stay.tables.paras.giHr2PEAllowance < diffmin stay.entryTime stay.currentTime ↔
      stay.tables.paras.giHr2PEAllowance < diffmin stay.entryTime later)

/-- Every zone ends where the next one begins. -/
def CutsOff (stay : Stay) (iZoneCutoff : ℤ) : Prop :=
  iZoneCutoff = 1 ∧ (stay.tables.paras.giHr2PEAllowance ≤ 0 ∨
    stay.tables.paras.giHr2PEAllowance < diffmin stay.entryTime stay.currentTime)

theorem CutsOff.paidAt {iZoneCutoff : ℤ} (hside : stay.SameSide later)
    (hcut : stay.CutsOff iZoneCutoff) : (stay.paidAt later).CutsOff iZoneCutoff := by
  refine ⟨hcut.1, ?_⟩
  change stay.tables.paras.giHr2PEAllowance ≤ 0 ∨
    stay.tables.paras.giHr2PEAllowance < diffmin stay.entryTime later
  rcases le_or_gt stay.tables.paras.giHr2PEAllowance 0 with hnone | hsome
  · exact Or.inl hnone
  · exact Or.inr ((hside hsome).mp (hcut.2.resolve_left (not_le.mpr hsome)))

section CutZone

variable {next : Zone} {iZoneCutoff pt pt' : ℤ}

theorem cutZone_paidAt (hside : stay.SameSide later) :
    (stay.paidAt later).cutZone next iZoneCutoff pt = stay.cutZone next iZoneCutoff pt := by
  have hparas : (stay.paidAt later).tables = stay.tables := rfl
  have hentry : (stay.paidAt later).entryTime = stay.entryTime := rfl
  have htime : (stay.paidAt later).currentTime = later := rfl
  simp only [cutZone, hparas, hentry, htime]
  by_cases hallowance : stay.tables.paras.giHr2PEAllowance > 0 ∧ next.rateType = 2
  · simp only [if_pos hallowance, gt_iff_lt, hside hallowance.1]
  · simp only [if_neg hallowance]

/-- The cut-off either leaves the point where it is, or brings it back to the end of the zone. -/
theorem cutZone_cases (stay : Stay) (next : Zone) (iZoneCutoff pt : ℤ) :
    stay.cutZone next iZoneCutoff pt = pt ∨
      (minute next.zoneTime < minute pt ∧
        stay.cutZone next iZoneCutoff pt = next.zoneTime) := by
  unfold cutZone diffmin
  split_ifs with hcut hallowance hlong
  · exact Or.inr ⟨by omega, rfl⟩
  · exact Or.inl rfl
  · exact Or.inr ⟨by omega, rfl⟩
  · exact Or.inl rfl

theorem cutZone_of_le (hle : minute pt ≤ minute next.zoneTime) :
    stay.cutZone next iZoneCutoff pt = pt := by
  rcases stay.cutZone_cases next iZoneCutoff pt with hsame | ⟨hlt, -⟩
  · exact hsame
  · exact absurd hle (not_le.mpr hlt)

theorem minute_cutZone_mono (hle : minute pt ≤ minute pt') :
    minute (stay.cutZone next iZoneCutoff pt) ≤ minute (stay.cutZone next iZoneCutoff pt') := by
  unfold cutZone diffmin
  split_ifs <;> omega

theorem minute_cutZone_of_cutsOff (hcut : stay.CutsOff iZoneCutoff)
    (hle : minute next.zoneTime ≤ minute pt) :
    minute (stay.cutZone next iZoneCutoff pt) = minute next.zoneTime := by
  obtain ⟨hone, hnone⟩ := hcut
  unfold cutZone
  split_ifs with hover hallowance hlong
  · rfl
  · exact absurd (hnone.resolve_left (not_le.mpr hallowance.1)) hlong
  · rfl
  · refine le_antisymm (not_lt.mp fun hlt => hover ⟨hone, ?_⟩) hle
    unfold diffmin
    omega

end CutZone

/-! ## The zone loop -/

/-- The two zone fees are alike up to blocks that are within the allowance of the earlier
calculation only.  `charged` says that something has been charged before the zone. -/
structure FeePair (zone : Zone) (charged : Prop) (fee fee' : ℚ) : Prop where
  nonneg : 0 ≤ fee
  le : fee ≤ fee'
  same : fee = fee' ∨ 0 < zone.iAllowance
  charged_iff : charged ∨ 0 < fee ↔ charged ∨ 0 < fee'

/-- How the two zone loops end, as the limits and the cut-off of the zone leave it. -/
structure LoopPair (stay : Stay) (zone next : Zone) (iZoneCutoff : ℤ) (charged : Prop)
    (result result' : ℤ × ℚ) : Prop where
  nonneg : 0 ≤ result.2 ∧ 0 ≤ result'.2
  limit_le : limitFee zone.zoneMin zone.zoneMax result.2 ≤
    limitFee zone.zoneMin zone.zoneMax result'.2
  point : (minute (stay.cutZone next iZoneCutoff result.1) =
        minute (stay.cutZone next iZoneCutoff result'.1) ∧
      (charged ∨ 0 < result.2 ↔ charged ∨ 0 < result'.2)) ∨
    (stay.minutesLeft (stay.cutZone next iZoneCutoff result.1) ≤ 0 ∧
      minute (stay.cutZone next iZoneCutoff result.1) ≤
        minute (stay.cutZone next iZoneCutoff result'.1))

section ZoneLoop

variable {zone next : Zone} {iZoneCutoff pt pt' : ℤ} {fee fee' : ℚ} {state state' : FeeState}
  {charged : Prop}

theorem LoopPair.of_same (hpair : FeePair zone charged fee fee') (hminute : minute pt = minute pt') :
    stay.LoopPair zone next iZoneCutoff charged (pt, fee) (pt', fee') where
  nonneg := ⟨hpair.nonneg, hpair.nonneg.trans hpair.le⟩
  limit_le := limitFee_mono hpair.le
  point := Or.inl ⟨le_antisymm (minute_cutZone_mono hminute.le) (minute_cutZone_mono hminute.ge),
    hpair.charged_iff⟩

/-- Another block in both calculations: what is within the allowance of the later one is
within that of the earlier one. -/
theorem FeePair.chargeBlock (hlater : minute stay.currentTime ≤ minute later)
    (hrate : 0 ≤ zone.chargeRate) (hstate : state.Charged ↔ charged)
    (hstate' : state'.Charged ↔ charged) (hminute : minute pt = minute pt')
    (hpair : FeePair zone charged fee fee') :
    FeePair zone charged (stay.chargeBlock zone state pt fee)
      ((stay.paidAt later).chargeBlock zone state' pt' fee') := by
  obtain ⟨hnonneg, hle, hsame, hiff⟩ := hpair
  have hleft := minutesLeft_le hlater hminute
  have hwithin : (stay.paidAt later).WithinAllowance zone (state'.Charged ∨ 0 < fee') pt' →
      stay.WithinAllowance zone (state.Charged ∨ 0 < fee) pt := fun ⟨hzone, hsome, hleft'⟩ =>
    ⟨hzone, (or_congr_left hstate).mpr (hiff.mpr ((or_congr_left hstate').mp hsome)), hleft.trans hleft'⟩
  unfold Stay.chargeBlock
  split_ifs with hfirst hsecond hsecond
  · exact ⟨hnonneg, hle, hsame, hiff⟩
  · -- free for the earlier calculation only: something has been charged in both
    refine ⟨hnonneg, hle.trans (by linarith), Or.inr hfirst.1,
      fun hsome => ?_, fun _ => (or_congr_left hstate).mp hfirst.2.1⟩
    rcases hiff.mp hsome with hcharged | hpos
    · exact Or.inl hcharged
    · exact Or.inr (by linarith)
  · exact absurd (hwithin hsecond) hfirst
  · refine ⟨by linarith, by linarith, ?_, ?_⟩
    · exact hsame.imp_left fun hsame => by rw [hsame]
    · by_cases hcharged : charged
      · exact iff_of_true (Or.inl hcharged) (Or.inl hcharged)
      · simp only [hcharged, false_or] at hiff ⊢
        constructor
        · intro hpos
          linarith
        · intro hpos
          rcases hnonneg.lt_or_eq with hfee | hfee
          · linarith
          · have hzero : fee' = 0 := by
              by_contra hne
              have := hiff.mpr ((hnonneg.trans hle).lt_of_ne' hne)
              linarith
            linarith

/-- The later calculation has jumped to the end of the zone at its maximum. -/
theorem LoopPair.of_jump (hcut : stay.CutsOff iZoneCutoff) (hmin : zone.zoneMin ≤ zone.zoneMax)
    (hpos : 0 < zone.zoneMax) (hmax : zone.zoneMax ≤ fee') (hnonneg : 0 ≤ fee)
    (hcharged : charged ∨ 0 < fee)
    (hpt : minute next.zoneTime ≤ minute pt ∨ stay.minutesLeft pt ≤ 0) :
    stay.LoopPair zone next iZoneCutoff charged (pt, fee) (next.zoneTime, fee') where
  nonneg := ⟨hnonneg, hpos.le.trans hmax⟩
  limit_le := (limitFee_le hpos hmin fee).trans (max_le_limitFee hmax)
  point := by
    have hend : stay.cutZone next iZoneCutoff next.zoneTime = next.zoneTime :=
      cutZone_of_le le_rfl
    rw [hend]
    rcases le_or_gt (minute next.zoneTime) (minute pt) with hle | hlt
    · exact Or.inl ⟨minute_cutZone_of_cutsOff hcut hle,
        iff_of_true hcharged (Or.inr (hpos.trans_le hmax))⟩
    · rw [cutZone_of_le hlt.le]
      exact Or.inr ⟨hpt.resolve_left (not_le.mpr hlt), hlt.le⟩

/-- The earlier loop has been left at the pay time, the later one goes on. -/
structure Behind (stay : Stay) (zone next : Zone) (charged : Prop) (result point' : ℤ × ℚ) :
    Prop where
  left : stay.minutesLeft result.1 ≤ 0
  nonneg : 0 ≤ result.2
  le : result.2 ≤ point'.2
  minute_le : minute result.1 ≤ minute point'.1
  beyond : minute next.zoneTime ≤ minute result.1 → minute result.1 = minute point'.1 ∧
    (charged ∨ 0 < result.2 ↔ charged ∨ 0 < point'.2)

theorem Behind.loopPair (hbehind : stay.Behind zone next charged (pt, fee) (pt', fee'))
    {result' : ℤ × ℚ} (hle : fee' ≤ result'.2)
    (hresult : result' = (pt', fee') ∨ minute pt < minute next.zoneTime)
    (hpt : minute pt ≤ minute result'.1) :
    stay.LoopPair zone next iZoneCutoff charged (pt, fee) result' where
  nonneg := ⟨hbehind.nonneg, hbehind.nonneg.trans (hbehind.le.trans hle)⟩
  limit_le := limitFee_mono (hbehind.le.trans hle)
  point := by
    rcases le_or_gt (minute next.zoneTime) (minute pt) with hover | hlt
    · obtain rfl := hresult.resolve_right (not_lt.mpr hover)
      obtain ⟨hminute, hiff⟩ := hbehind.beyond hover
      exact Or.inl ⟨le_antisymm (minute_cutZone_mono hminute.le) (minute_cutZone_mono hminute.ge),
        hiff⟩
    · refine Or.inr ⟨?_, minute_cutZone_mono hpt⟩
      rw [cutZone_of_le hlt.le]
      exact hbehind.left

/-- What holds of the earlier loop while the later one has jumped. -/
structure Jumped (stay : Stay) (zone next : Zone) (iZoneCutoff : ℤ) (charged : Prop)
    (point result' : ℤ × ℚ) : Prop where
  cutsOff : stay.CutsOff iZoneCutoff
  pos : 0 < zone.zoneMax
  max_le : zone.zoneMax ≤ result'.2
  result : result'.1 = next.zoneTime
  nonneg : 0 ≤ point.2
  charged : charged ∨ 0 < point.2

/-- The two zone loops. -/
theorem coupled_zoneTurn (hlater : minute stay.currentTime ≤ minute later)
    (hrate : 0 ≤ zone.chargeRate) (hctb : 0 < zone.ctb)
    (hmin : 0 < zone.zoneMax → zone.zoneMin ≤ zone.zoneMax)
    (hallow : 0 < zone.zoneMax → 0 < zone.iAllowance → stay.CutsOff iZoneCutoff)
    (hstate : state.Charged ↔ charged) (hstate' : state'.Charged ↔ charged) :
    Coupled (fun point => some (stay.zoneTurn zone next state point))
      (fun point => some ((stay.paidAt later).zoneTurn zone next state' point))
      (fun point point' => minute point.1 = minute point'.1 ∧
        FeePair zone charged point.2 point'.2)
      (stay.Behind zone next charged) (stay.Jumped zone next iZoneCutoff charged)
      (stay.LoopPair zone next iZoneCutoff charged) := by
  refine ⟨?_, ?_, ?_⟩
  · rintro ⟨pt, fee⟩ ⟨pt', fee'⟩ out out' ⟨hminute, hpair⟩ hturn hturn'
    change minute pt = minute pt' at hminute
    change FeePair zone charged fee fee' at hpair
    have hblock := hpair.chargeBlock hlater hrate hstate hstate' hminute
    have hnext : minute (pt + zone.ctb * 60) = minute (pt' + zone.ctb * 60) := by
      rw [minute_add_minutes, minute_add_minutes, hminute]
    have hleft := minutesLeft_le hlater hnext
    obtain rfl := Option.some.inj hturn
    obtain rfl := Option.some.inj hturn'
    obtain ⟨hend, heq⟩ | ⟨hahead, charge, rfl, hrest⟩ := stay.zoneTurn_cases zone next state pt fee
      <;> obtain ⟨hend', heq'⟩ | ⟨hahead', charge', rfl, hrest'⟩ :=
        (stay.paidAt later).zoneTurn_cases zone next state' pt' fee'
    · -- both are at the end of the zone
      rw [heq, heq']
      exact LoopPair.of_same hpair hminute
    · exact absurd (hminute ▸ hend) (not_le.mpr hahead')
    · exact absurd (hminute ▸ hend') (not_le.mpr hahead)
    · rcases hrest with ⟨hpos, hmax, heq⟩ | ⟨hmax, hrest⟩
      · -- a maximum the earlier fee reaches, the later one reaches as well
        have hmax' := hmax.trans hblock.le
        rcases hrest' with ⟨-, -, heq'⟩ | ⟨hnot', -⟩
        · rw [heq, heq']
          exact LoopPair.of_same hblock rfl
        · exact absurd ⟨hpos, hmax'⟩ hnot'
      · rcases hrest' with ⟨hpos', hmax', heq'⟩ | ⟨hnot', hrest'⟩
        · -- the later calculation alone has reached the maximum
          have hcut : stay.CutsOff iZoneCutoff := by
            refine hallow hpos' (hblock.same.resolve_left fun hsame => ?_)
            rw [hsame] at hmax
            exact hmax ⟨hpos', hmax'⟩
          have hcharged := hblock.charged_iff.mpr (Or.inr (hpos'.trans_le hmax'))
          rcases hrest with ⟨hdone, heq⟩ | ⟨-, heq⟩
          · rw [heq, heq']
            exact LoopPair.of_jump hcut (hmin hpos') hpos' hmax' hblock.nonneg hcharged (Or.inr hdone)
          · rw [heq, heq']
            exact ⟨hcut, hpos', hmax', rfl, hblock.nonneg, hcharged⟩
        · rcases hrest with ⟨hdone, heq⟩ | ⟨hmore, heq⟩
          · rcases hrest' with ⟨-, heq'⟩ | ⟨-, heq'⟩
            · rw [heq, heq']
              exact LoopPair.of_same hblock hnext
            · rw [heq, heq']
              exact ⟨hdone, hblock.nonneg, hblock.le, hnext.le,
                fun _ => ⟨hnext, hblock.charged_iff⟩⟩
          · rcases hrest' with ⟨hdone', -⟩ | ⟨-, heq'⟩
            · exact absurd (hleft.trans hdone') (not_le.mpr hmore)
            · rw [heq, heq']
              exact ⟨hnext, hblock⟩
  · rintro ⟨pt, fee⟩ ⟨pt', fee'⟩ hbehind
    have hcharge := (stay.paidAt later).le_chargeBlock state' hrate pt' fee'
    have hpt : minute pt ≤ minute pt' := hbehind.minute_le
    constructor
    · rintro next' hturn'
      obtain ⟨-, heq'⟩ | ⟨hahead', charge', rfl, ⟨-, -, heq'⟩ | ⟨-, ⟨-, heq'⟩ | ⟨-, heq'⟩⟩⟩ :=
        (stay.paidAt later).zoneTurn_cases zone next state' pt' fee' <;>
        rw [heq'] at hturn' <;> cases hturn'
      refine ⟨hbehind.left, hbehind.nonneg, hbehind.le.trans hcharge, ?_, fun hover => ?_⟩
      · simp only [minute_add_minutes]
        omega
      · exact absurd (hover.trans hpt) (not_le.mpr hahead')
    · rintro result' hturn'
      obtain ⟨hend', heq'⟩ | ⟨hahead', charge', rfl, ⟨-, -, heq'⟩ | ⟨-, ⟨-, heq'⟩ | ⟨-, heq'⟩⟩⟩ :=
        (stay.paidAt later).zoneTurn_cases zone next state' pt' fee' <;>
        rw [heq'] at hturn' <;> cases hturn'
      · exact hbehind.loopPair le_rfl (Or.inl rfl) hpt
      · exact hbehind.loopPair hcharge (Or.inr (hpt.trans_lt hahead')) (hpt.trans hahead'.le)
      · refine hbehind.loopPair hcharge (Or.inr (hpt.trans_lt hahead')) ?_
        simp only [minute_add_minutes]
        omega
  · rintro ⟨pt, fee⟩ ⟨pt', fee'⟩ ⟨hcut, hpos, hmax', hresult, hnonneg, hcharged⟩
    change pt' = next.zoneTime at hresult
    change zone.zoneMax ≤ fee' at hmax'
    change 0 ≤ fee at hnonneg
    change charged ∨ 0 < fee at hcharged
    have hcharge := stay.le_chargeBlock state hrate pt fee
    have hcharged' : charged ∨ 0 < stay.chargeBlock zone state pt fee :=
      hcharged.imp_right fun hfee => hfee.trans_le hcharge
    constructor
    · rintro next' hturn
      obtain ⟨-, heq⟩ | ⟨hahead, charge, rfl, ⟨-, -, heq⟩ | ⟨-, ⟨-, heq⟩ | ⟨-, heq⟩⟩⟩ :=
        stay.zoneTurn_cases zone next state pt fee <;>
        rw [heq] at hturn <;> cases hturn
      exact ⟨hcut, hpos, hmax', hresult, hnonneg.trans hcharge, hcharged'⟩
    · rintro result hturn
      rw [hresult]
      obtain ⟨hend, heq⟩ | ⟨hahead, charge, rfl, ⟨-, -, heq⟩ | ⟨-, ⟨hdone, heq⟩ | ⟨-, heq⟩⟩⟩ :=
        stay.zoneTurn_cases zone next state pt fee <;>
        rw [heq] at hturn <;> cases hturn
      · exact LoopPair.of_jump hcut (hmin hpos) hpos hmax' hnonneg hcharged (Or.inl hend)
      · exact LoopPair.of_jump hcut (hmin hpos) hpos hmax' (hnonneg.trans hcharge) hcharged'
          (Or.inl le_rfl)
      · exact LoopPair.of_jump hcut (hmin hpos) hpos hmax' (hnonneg.trans hcharge) hcharged'
          (Or.inr hdone)

theorem zoneLoop_of_end {fuel : ℕ} {result : ℤ × ℚ} (hend : minute next.zoneTime ≤ minute pt)
    (hloop : stay.zoneLoop zone next state fuel pt fee = some result) : result = (pt, fee) := by
  have hturn : stay.zoneTurn zone next state (pt, fee) = .error (pt, fee) := by
    obtain ⟨-, heq⟩ | ⟨hahead, -⟩ := stay.zoneTurn_cases zone next state pt fee
    · exact heq
    · exact absurd hend (not_le.mpr hahead)
  obtain ⟨fuel', -, hleft | ⟨next', hnext, -⟩⟩ := loop_eq_some hloop
  · rw [hturn] at hleft
    exact (Except.error.inj (Option.some.inj hleft)).symm
  · rw [hturn] at hnext
    cases hnext

theorem loopPair_zoneLoop (hlater : minute stay.currentTime ≤ minute later)
    (hrate : 0 ≤ zone.chargeRate) (hctb : minute pt < minute next.zoneTime → 0 < zone.ctb)
    (hmin : 0 < zone.zoneMax → zone.zoneMin ≤ zone.zoneMax)
    (hallow : minute pt < minute next.zoneTime → 0 < zone.zoneMax → 0 < zone.iAllowance →
      stay.CutsOff iZoneCutoff)
    (hstate : state.Charged ↔ charged) (hstate' : state'.Charged ↔ charged)
    (hminute : minute pt = minute pt') (hpair : FeePair zone charged fee fee')
    {fuel fuel' : ℕ} {result result' : ℤ × ℚ}
    (hloop : stay.zoneLoop zone next state fuel pt fee = some result)
    (hloop' : (stay.paidAt later).zoneLoop zone next state' fuel' pt' fee' = some result') :
    stay.LoopPair zone next iZoneCutoff charged result result' := by
  rcases le_or_gt (minute next.zoneTime) (minute pt) with hend | hahead
  · rw [zoneLoop_of_end hend hloop, zoneLoop_of_end (hminute ▸ hend) hloop']
    exact LoopPair.of_same hpair hminute
  · have hstart : minute (pt, fee).1 = minute (pt', fee').1 ∧
        FeePair zone charged (pt, fee).2 (pt', fee').2 := ⟨hminute, hpair⟩
    exact (coupled_zoneTurn hlater hrate (hctb hahead) hmin (hallow hahead) hstate hstate').loop
      hstart hloop hloop'

end ZoneLoop

end Stay

end LinuxPBS.Tariff

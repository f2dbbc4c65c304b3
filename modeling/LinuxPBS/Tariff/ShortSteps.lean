import LinuxPBS.Tariff.Accesses

/-!
# Tariffs that keep to the day

A pass moves `pt` by blocks, by free times, by the allowance of a per-entry zone, or by
24 hours.  When none of these is longer than a day, and every day of the tariff begins
at the same time, `pt` stays in front of the boundary of the day in hand:

```text
boundary PD       the start of the first zone of the day after PD
at the head       pt < boundary PD
behind a pass     pt < boundary PD + 24 hours = boundary (PD + 1)
```

and the zone search always finds a zone.  This is the invariant of the run.
-/

namespace LinuxPBS.Tariff

open CxxText Loop

/-- The minutes of a day. -/
def dayMinutes : ℤ := 1440

/-- The free times are not negative, and neither they together nor a block is longer than a day. -/
structure Zone.Short (zone : Zone) : Prop where
  freeTimes : zone.FreeTimes
  free_le : zone.firstFree + zone.secondFree + zone.thirdFree ≤ dayMinutes
  ctb_le : zone.ctb ≤ dayMinutes

/-- A tariff whose days have at most eight zones and begin at one time, with short steps. -/
structure Tables.ShortSteps (tables : Tables) (iTransType : ℤ) : Prop where
  eight : ∀ dayType, (tables.gtariff iTransType dayType).maxZone ≤ 8
  short : ∀ dayType, ∀ k < 9, ∀ numbers ∈ ((tables.gtariff iTransType dayType).period k).numbers,
    numbers.Short
  allowance : tables.paras.giPEAllowance ≤ dayMinutes
  start : ∃ time, ∀ dayType,
    timeOfDay ((tables.gtariff iTransType dayType).period 0).startTime = some time
  cutoff : ∃ cut, ∀ dayType, stoi (tables.gtariff iTransType dayType).dayCutoff = some cut

namespace Stay

variable {stay : Stay} {state : FeeState} {zone next : Zone} {iZoneCutoff pt bound : ℤ} {fee : ℚ}

/-! ## The free periods

`bound` is a minute that the current point does not reach by the free times that are left. -/

theorem thirdOverBoundary_lt (hpt : minute pt < bound)
    (hthird : iZoneCutoff = 0 → minute pt + zone.thirdFree < bound) :
    minute (stay.thirdOverBoundary zone next iZoneCutoff pt fee).pt < bound := by
  unfold thirdOverBoundary
  split_ifs with hfirstHour hnext
  · exact hpt
  · rw [endFreePeriods_pt, minute_add_minutes]
    exact hthird hfirstHour.2
  · exact hpt

theorem secondOverBoundary_lt (hfree : zone.FreeTimes) (hpt : minute pt < bound)
    (hsecond : iZoneCutoff = 0 → minute pt + zone.secondFree + zone.thirdFree < bound) :
    minute (stay.secondOverBoundary zone next iZoneCutoff pt).pt < bound := by
  obtain ⟨-, -, hthird⟩ := hfree
  simp only [secondOverBoundary]
  split_ifs with hfirstHour hnext hleft
  · exact hpt
  · have := hsecond hfirstHour.2
    rw [minute_add_minutes]
    omega
  · have := hsecond hfirstHour.2
    refine thirdOverBoundary_lt ?_ fun _ => ?_ <;> rw [minute_add_minutes] <;> omega
  · exact hpt

theorem cutFree_lt {free : ℤ} (hnext : minute next.zoneTime < bound)
    (hpt : minute pt + free < bound) : minute (cutFree next iZoneCutoff pt free) < bound := by
  unfold cutFree
  split
  · exact hnext
  · rw [minute_add_minutes]
    exact hpt

theorem cutFree_of_noCutoff {free : ℤ} (hcutoff : iZoneCutoff = 0) :
    cutFree next iZoneCutoff pt free = pt + free * 60 := by
  unfold cutFree
  rw [if_neg (by omega)]

theorem thirdFreePeriod_lt (hnext : minute next.zoneTime < bound) (hpt : minute pt < bound)
    (hthird : minute pt + zone.thirdFree < bound) :
    minute (stay.thirdFreePeriod zone next iZoneCutoff pt).pt < bound := by
  simp only [thirdFreePeriod]
  split_ifs
  · rw [endFreePeriods_pt]
    exact cutFree_lt hnext hthird
  · rw [endFreePeriods_pt, minute_add_minutes]
    exact hthird
  · exact hpt

theorem secondFreePeriod_lt (hfree : zone.FreeTimes) (hnext : minute next.zoneTime < bound)
    (hpt : minute pt < bound)
    (hsecond : minute pt + zone.secondFree + zone.thirdFree < bound) :
    minute (stay.secondFreePeriod zone next iZoneCutoff pt).pt < bound := by
  obtain ⟨-, -, hthird⟩ := hfree
  have hcut : minute (cutFree next iZoneCutoff pt zone.secondFree) < bound :=
    cutFree_lt hnext (by omega)
  simp only [secondFreePeriod]
  split_ifs
  · exact hcut
  · refine thirdOverBoundary_lt hcut fun hcutoff => ?_
    rw [cutFree_of_noCutoff hcutoff, minute_add_minutes]
    exact hsecond
  · rw [minute_add_minutes]
    omega
  · refine thirdFreePeriod_lt hnext ?_ ?_ <;> rw [minute_add_minutes] <;> omega
  · exact hpt

theorem freePeriods_lt (hfree : zone.FreeTimes) (hnext : minute next.zoneTime < bound)
    (hfirst : minute pt + zone.firstFree + zone.secondFree + zone.thirdFree < bound) :
    minute (stay.freePeriods zone next iZoneCutoff pt).pt < bound := by
  have hsecond := hfree.2.1
  have hthird := hfree.2.2
  have hcut : minute (cutFree next iZoneCutoff pt zone.firstFree) < bound :=
    cutFree_lt hnext (by omega)
  simp only [freePeriods]
  split_ifs
  · exact hcut
  · refine secondOverBoundary_lt hfree hcut fun hcutoff => ?_
    rw [cutFree_of_noCutoff hcutoff, minute_add_minutes]
    exact hfirst
  · rw [minute_add_minutes]
    omega
  · refine secondFreePeriod_lt hfree hnext ?_ ?_ <;> rw [minute_add_minutes] <;> omega

/-! ## The zone -/

theorem zoneLoop_lt {fuel : ℕ} {pt' : ℤ} {fee' : ℚ}
    (hctb : zone.ctb ≤ dayMinutes) (hpt : minute pt < minute next.zoneTime + dayMinutes)
    (hloop : stay.zoneLoop zone next state fuel pt fee = some (pt', fee')) :
    minute pt' < minute next.zoneTime + dayMinutes := by
  have hday : (0 : ℤ) < dayMinutes := by decide
  refine loop_invariant (fun point : ℤ × ℚ => minute point.1 < minute next.zoneTime + dayMinutes)
    (fun point : ℤ × ℚ => minute point.1 < minute next.zoneTime + dayMinutes) ?_ ?_ hpt hloop
  · rintro ⟨now, fee⟩ later hpoint hturn
    obtain ⟨-, heq⟩ | ⟨hbefore, fee', -, ⟨-, -, heq⟩ | ⟨-, ⟨-, heq⟩ | ⟨-, heq⟩⟩⟩ :=
      stay.zoneTurn_cases zone next state now fee <;>
      rw [heq] at hturn <;> cases hturn
    simp only [minute_add_minutes]
    omega
  · rintro ⟨now, fee⟩ later hpoint hturn
    obtain ⟨-, heq⟩ | ⟨hbefore, fee', -, ⟨-, -, heq⟩ | ⟨-, ⟨-, heq⟩ | ⟨-, heq⟩⟩⟩ :=
      stay.zoneTurn_cases zone next state now fee <;>
      rw [heq] at hturn <;> cases hturn
    · exact hpoint
    · simp only
      omega
    · simp only [minute_add_minutes]
      omega

/-- The fee of a zone brings the current point at most a day behind the end of the zone. -/
theorem zoneFee_lt {fuel : ℕ} {moved : FeeState} (hshort : state.zone.Short)
    (hallowance : stay.tables.paras.giPEAllowance ≤ dayMinutes)
    (hrate : state.currentRateType = 1 ∨ state.currentRateType = 2)
    (hahead : minute state.pt < minute state.nextZone.zoneTime)
    (hfee : stay.zoneFee fuel state = some (.ok (moved, fee))) :
    minute moved.pt < minute state.nextZone.zoneTime + dayMinutes := by
  have hday : (0 : ℤ) < dayMinutes := by decide
  have hsum := hshort.free_le
  unfold zoneFee at hfee
  split_ifs at hfee with hhourly hentry
  · obtain ⟨-, -, -, pt, hloop, rfl⟩ := hourly_eq_ok hfee
    have hfree : minute (stay.freeOf state).pt < minute state.nextZone.zoneTime + dayMinutes := by
      unfold freeOf
      split
      · exact freePeriods_lt hshort.freeTimes (by omega) (by omega)
      · simp only
        omega
    have hpt := zoneLoop_lt hshort.ctb_le hfree hloop
    simp only [cutZone]
    split_ifs <;> omega
  · obtain ⟨rfl, -⟩ := Prod.mk.inj (Except.ok.inj (Option.some.inj hfee))
    simp only [leavePerEntry]
    split_ifs with hwithin
    · rw [minute_add_minutes]
      omega
    · omega
  · exact absurd hrate (by simp [hhourly, hentry])

/-! ## The day -/

/-- The start of the first zone of the day after `date`, `offset` behind midnight. -/
def boundary (stay : Stay) (offset date : ℤ) : ℤ :=
  stay.tables.timeZone.midnight (date + 1) + offset

theorem boundary_succ (offset date : ℤ) :
    minute (stay.boundary offset (date + 1)) = minute (stay.boundary offset date) + dayMinutes := by
  have hsucc := stay.tables.timeZone.midnight_succ (date + 1)
  unfold boundary minute dayMinutes
  omega

/-- The arrays hold a short day whose zones end at its boundary at the latest. -/
structure ShortDay (stay : Stay) (offset date : ℤ) (day : Day) : Prop where
  short : ∀ k ≤ day.maxZone, (day.zones k).Short
  ends : ∀ k ≤ day.maxZone + 1, (day.zones k).zoneTime ≤ stay.boundary offset date
  boundary_eq : (day.zones (day.maxZone + 1)).zoneTime = stay.boundary offset date

/-- How far behind midnight the days of a tariff begin. -/
def Begins (stay : Stay) (offset : ℤ) : Prop :=
  0 ≤ offset ∧ ∃ time : TimeOfDay, ∃ cut,
    (∀ dayType, timeOfDay ((stay.tables.gtariff stay.iTransType dayType).period 0).startTime =
      some time) ∧
    (∀ dayType, stoi (stay.tables.gtariff stay.iTransType dayType).dayCutoff = some cut) ∧
    offset = if cut = 1 then 0 else time.seconds

theorem begins_of_shortSteps (hsteps : stay.tables.ShortSteps stay.iTransType) :
    ∃ offset, stay.Begins offset := by
  obtain ⟨time, htime⟩ := hsteps.start
  obtain ⟨cut, hcut⟩ := hsteps.cutoff
  refine ⟨_, ?_, time, cut, htime, hcut, rfl⟩
  have hnonneg := time.nonneg
  split <;> omega

/-- Where the boundary of a day that has just been filled lies. -/
theorem boundary_of_getDayInfo {offset date : ℤ} {before day : Day} (hbegins : stay.Begins offset)
    (hday : stay.tables.getDayInfo stay.iTransType date before = .ok day) :
    (day.zones (day.maxZone + 1)).zoneTime = stay.boundary offset date := by
  obtain ⟨-, time, cut, htime, hcut, rfl⟩ := hbegins
  simp only [Tables.getDayInfo, bind_eq_ok, orThrow_eq_ok, Prod.exists] at hday
  obtain ⟨lastZone, -, zone, zt₁, -, maxZone, -, zones, zt₂, -, dayMin, -, dayMax, -,
    iZoneCutoff, -, iDayCutoff, hcutoff, hday⟩ := hday
  have hsame : iDayCutoff = cut := Option.some.inj (hcutoff.symm.trans (hcut _))
  split at hday
  · cases hday
  · simp only [bind_eq_ok, orThrow_eq_ok] at hday
    obtain ⟨iNextGT, -, iNextRT, -, hday⟩ := hday
    have hnext : timeOfDay ((stay.tables.tariffOf stay.iTransType (date + 1)).period 0).startTime =
        some time := htime _
    split at hday <;>
      (obtain rfl := Except.ok.inj hday
       simp only [Function.update_self, boundary, hsame, hnext, Option.getD_some])

theorem shortDay_of_getDayInfo {offset date : ℤ} {before day : Day}
    (hsteps : stay.tables.ShortSteps stay.iTransType) (hbegins : stay.Begins offset)
    (hday : stay.tables.getDayInfo stay.iTransType date before = .ok day) :
    stay.ShortDay offset date day := by
  have hspec := Tables.getDayInfo_spec hday
  have hboundary := boundary_of_getDayInfo hbegins hday
  refine ⟨fun k hk => ?_, fun k hk => hboundary ▸ zoneTime_le_boundary hspec hk, hboundary⟩
  obtain ⟨d, -, j, hj, numbers, hnumbers, time, hzone⟩ := hspec.cell hk
  have hshort := hsteps.short _ j hj numbers hnumbers
  rw [hzone]
  exact ⟨hshort.freeTimes, hshort.free_le, hshort.ctb_le⟩

/-! ## The run -/

/-- The invariant of the run. -/
structure BeforeBoundary (stay : Stay) (offset : ℤ) (state : FeeState) : Prop where
  pt_lt : minute state.pt < minute (stay.boundary offset state.pd)
  day : state.bGotDayInfo = true → stay.ShortDay offset state.pd state.day

theorem beforeBoundary_start {offset : ℤ} (hbegins : stay.Begins offset) (bNoGT : Bool) :
    stay.BeforeBoundary offset (stay.start bNoGT) := by
  refine ⟨?_, fun hgot => by cases hgot⟩
  have hlt := stay.tables.timeZone.day_le_iff.mp (le_refl (stay.tables.timeZone.day stay.entryTime))
  have hmidnight := stay.tables.timeZone.minute_lt_midnight_iff.mpr hlt
  refine hmidnight.trans_le (minute_mono ?_)
  have hoffset := hbegins.1
  simp only [boundary, start]
  omega

/-- The day in hand when the zone search begins. -/
theorem BeforeBoundary.loaded {offset : ℤ} (hsteps : stay.tables.ShortSteps stay.iTransType)
    (hbegins : stay.Begins offset) (hbefore : stay.BeforeBoundary offset state)
    {loaded : FeeState} (hget : stay.getDay state = .ok loaded) :
    loaded.pd = state.pd ∧ loaded.pt = state.pt ∧ stay.ShortDay offset state.pd loaded.day := by
  unfold getDay at hget
  split at hget
  · rename_i hgot
    obtain rfl := Except.ok.inj hget
    exact ⟨rfl, rfl, hbefore.day hgot⟩
  · obtain ⟨day, hday, heq⟩ := bind_eq_ok.mp hget
    obtain rfl := Except.ok.inj heq
    exact ⟨rfl, rfl, shortDay_of_getDayInfo hsteps hbegins (orEnd_eq_ok.mp hday)⟩

/-- A pass brings the current point at most a day behind the boundary. -/
theorem BeforeBoundary.moved_lt {offset : ℤ} (hsteps : stay.tables.ShortSteps stay.iTransType)
    {loaded selected moved : FeeState} {fuel : ℕ}
    (hlt : minute loaded.pt < minute (stay.boundary offset loaded.pd))
    (hday : stay.ShortDay offset loaded.pd loaded.day)
    (hselect : stay.selectZone loaded = .ok selected)
    (hfee : stay.zoneFee fuel { selected with bNoGT := true } = some (.ok (moved, fee))) :
    minute moved.pt < minute (stay.boundary offset loaded.pd) + dayMinutes := by
  obtain ⟨-, rfl⟩ | ⟨-, zone, rfl, hone, htwo, rfl⟩ := selectZone_eq_ok hselect
  · -- a 24-hour block
    have hmoved : moved.pt = loaded.pt + 86400 := by
      obtain ⟨rfl, -⟩ := Prod.mk.inj (Except.ok.inj (Option.some.inj hfee))
      rfl
    rw [hmoved]
    unfold minute dayMinutes at *
    omega
  · obtain ⟨hmax, hahead⟩ | ⟨-, hbehind⟩ := searchZone_cases loaded
    · have hend := minute_mono (hday.ends _ (Nat.succ_le_succ hmax))
      have hshort := hday.short _ hmax
      have hrate : (loaded.day.zones (searchZone loaded)).rateType = 1 ∨
          (loaded.day.zones (searchZone loaded)).rateType = 2 := by omega
      refine (zoneFee_lt ?_ hsteps.allowance ?_ ?_ hfee).trans_le ?_
      · exact hshort
      · exact hrate
      · exact hahead
      · exact add_le_add_left hend dayMinutes
    · have hlast := hbehind _ le_rfl
      rw [hday.boundary_eq] at hlast
      omega

/-- The invariant is kept. -/
theorem BeforeBoundary.turn {offset : ℤ} (hsteps : stay.tables.ShortSteps stay.iTransType)
    (hbegins : stay.Begins offset) (hbefore : stay.BeforeBoundary offset state) {fuel : ℕ}
    {next : FeeState} (hturn : stay.turn fuel state = some (.ok next)) :
    stay.BeforeBoundary offset next := by
  obtain ⟨entered, henter, moved, fee, hfee, hsettle⟩ := turn_eq_ok hturn
  obtain ⟨-, loaded, hget, selected, hselect, rfl⟩ := enterZone_eq_ok henter
  obtain ⟨hpd, hpt, hday⟩ := hbefore.loaded hsteps hbegins hget
  have hlt := hbefore.pt_lt
  rw [← hpd] at hday hlt
  rw [← hpt] at hlt
  have hmoved := moved_lt hsteps hlt hday hselect hfee
  have hsame : selected.day = loaded.day ∧ selected.pd = loaded.pd := by
    obtain ⟨-, rfl⟩ | ⟨-, zone, -, -, -, rfl⟩ := selectZone_eq_ok hselect <;> exact ⟨rfl, rfl⟩
  obtain ⟨pt, bFirstFreed, bMCPerDayChecked, rfl⟩ := zoneFee_moved hfee
  obtain ⟨rfl, -⟩ := settle_eq_ok hsettle
  unfold settleDay
  split
  · refine ⟨?_, fun hgot => by cases hgot⟩
    simp only [addZoneFee, hsame.2]
    rw [boundary_succ]
    exact hmoved
  · rename_i hinside
    have hmidnight := stay.tables.timeZone.minute_lt_midnight_iff.mpr
      (stay.tables.timeZone.day_le_iff.mp (not_lt.mp hinside))
    have hoffset := hbegins.1
    refine ⟨hmidnight.trans_le (minute_mono ?_), fun _ => ?_⟩
    · simp only [boundary, addZoneFee]
      omega
    · simpa only [addZoneFee, hsame.1, hsame.2] using hday

/-- With short steps every pass keeps to its day. -/
theorem keepsToDay_of_shortSteps (hsteps : stay.tables.ShortSteps stay.iTransType) (fuel : ℕ)
    (bNoGT : Bool) : ∀ state ∈ stay.feeHeads fuel bNoGT, stay.KeepsToDay state := by
  obtain ⟨offset, hbegins⟩ := begins_of_shortSteps hsteps
  have hinv : ∀ state ∈ stay.feeHeads fuel bNoGT, stay.BeforeBoundary offset state :=
    heads_invariant _ (fun _ _ hbefore hturn => hbefore.turn hsteps hbegins hturn)
      (beforeBoundary_start hbegins bNoGT)
  intro state hstate _
  constructor
  · rintro ⟨lastZone, -, -, hcheck, -⟩
    have hnine : (stay.tables.tariffOf stay.iTransType state.pd).maxZone = 9 := by
      unfold TariffStruct.check at hcheck
      split_ifs at hcheck
      exact Except.ok.inj hcheck
    have height := hsteps.eight (stay.tables.getDayType state.pd)
    unfold Tables.tariffOf at hnine
    omega
  · intro loaded hget _
    have hbefore := hinv state hstate
    obtain ⟨hpd, hpt, hday⟩ := hbefore.loaded hsteps hbegins hget
    rw [hpt, hday.boundary_eq]
    exact hbefore.pt_lt

end Stay

/-! ## The calculation -/

/-- The states at the head of the passes of `CalFeeRAM2GR`, which does not begin when the pay time
lies in front of the entry. -/
def Tables.passes (tables : Tables) (fuel : ℕ) (entryTime payDT iTransType : ℤ) (bNoGT : Bool) :
    List FeeState :=
  if diffmin entryTime payDT < 0 then []
  else (tables.stay entryTime payDT iTransType).feeHeads fuel bNoGT

/-- Every array access of the calculation is by an assigned index inside of the array. -/
def Tables.AccessesSafe (tables : Tables) (entryTime payDT iTransType : ℤ) (bNoGT : Bool) : Prop :=
  ∀ fuel, ∀ state ∈ tables.passes fuel entryTime payDT iTransType bNoGT,
    ∀ access ∈ (tables.stay entryTime payDT iTransType).passAccesses state, access.Safe

/-- The accesses are safe exactly when every pass keeps to its day; with at most eight zones and
steps of at most a day all passes do. -/
theorem accessesSafe_iff (tables : Tables) (entryTime payDT iTransType : ℤ) (bNoGT : Bool) :
    (tables.AccessesSafe entryTime payDT iTransType bNoGT ↔
      ∀ fuel, ∀ state ∈ tables.passes fuel entryTime payDT iTransType bNoGT,
        (tables.stay entryTime payDT iTransType).KeepsToDay state) ∧
    (tables.ShortSteps iTransType → tables.AccessesSafe entryTime payDT iTransType bNoGT) := by
  have hiff : tables.AccessesSafe entryTime payDT iTransType bNoGT ↔
      ∀ fuel, ∀ state ∈ tables.passes fuel entryTime payDT iTransType bNoGT,
        (tables.stay entryTime payDT iTransType).KeepsToDay state := by
    refine forall_congr' fun fuel => ?_
    unfold Tables.passes
    split
    · simp
    · exact Stay.passes_safe_iff _ fuel bNoGT
  refine ⟨hiff, fun hsteps => hiff.mpr fun fuel state hstate => ?_⟩
  unfold Tables.passes at hstate
  split at hstate
  · cases hstate
  · exact Stay.keepsToDay_of_shortSteps hsteps fuel bNoGT state hstate

theorem shortSteps_dayAndNight : (Tables.ofRow dayAndNight {}).ShortSteps 0 where
  eight := by
    have height : dayAndNight.maxZone ≤ 8 := by decide +kernel
    exact fun _ => height
  short := fun _ k hk numbers hnumbers => by
    have hshort : ∀ k < 9, ∀ numbers ∈ (dayAndNight.period k).numbers, numbers.FreeTimes ∧
        numbers.firstFree + numbers.secondFree + numbers.thirdFree ≤ dayMinutes ∧
        numbers.ctb ≤ dayMinutes := by
      decide +kernel
    obtain ⟨hfree, hsum, hctb⟩ := hshort k hk numbers hnumbers
    exact ⟨hfree, hsum, hctb⟩
  allowance := by decide
  start := by
    have htime : (timeOfDay (dayAndNight.period 0).startTime).isSome := by decide +kernel
    obtain ⟨time, htime⟩ := Option.isSome_iff_exists.mp htime
    exact ⟨time, fun _ => htime⟩
  cutoff := by
    have hcut : stoi dayAndNight.dayCutoff = some 0 := by decide +kernel
    exact ⟨0, fun _ => hcut⟩

/-- Two days with an hourly and a per-entry zone. -/
theorem accessesSafe_dayAndNight :
    (Tables.ofRow dayAndNight {}).AccessesSafe 1767258000 1767430800 0 false :=
  (accessesSafe_iff _ _ _ _ _).2 shortSteps_dayAndNight

/-- Nine zones, each with blocks of an hour. -/
def nineZones : TariffStruct :=
  .plain [.plain "00:00:00" "01:00:00" "1" "60" "1", .plain "01:00:00" "02:00:00" "1" "60" "1",
    .plain "02:00:00" "03:00:00" "1" "60" "1", .plain "03:00:00" "04:00:00" "1" "60" "1",
    .plain "04:00:00" "05:00:00" "1" "60" "1", .plain "05:00:00" "06:00:00" "1" "60" "1",
    .plain "06:00:00" "07:00:00" "1" "60" "1", .plain "07:00:00" "08:00:00" "1" "60" "1",
    .plain "08:00:00" "00:00:00" "1" "60" "1"]

/-- One zone with a charge for every three days. -/
def threeDayBlocks : TariffStruct := .plain [.plain "00:00:00" "00:00:00" "1" "4320" "10"]

/-- One hour under nine zones writes behind `chargeRate`; five days in blocks of three read with
a zone that the second pass has not assigned. -/
theorem not_accessesSafe :
    ¬(Tables.ofRow nineZones {}).AccessesSafe 1767258000 1767261600 0 false ∧
      ¬(Tables.ofRow threeDayBlocks {}).AccessesSafe 1767258000 1767690000 0 false := by
  constructor
  · intro hsafe
    exact absurd (hsafe 1) (by decide +kernel)
  · intro hsafe
    exact absurd (hsafe 3) (by decide +kernel)

end LinuxPBS.Tariff

import Mathlib.Data.Prod.Lex
import LinuxPBS.Tariff.Turn

/-!
# The loops end

The current point does not only move forward: a free period that has run over a
zone boundary, the zone cut-off and a per-entry zone set it back to the boundary.
What decreases from one turn of the outer loop to the next is the triple

```text
( days left from PD to the pay time,  0 once the day is loaded and 1 before,
  minutes left from pt to the end of the day PD )
```

in lexicographic order.  The two cases of a turn:

* the zone search finds a zone of the loaded day.  Then `pt` lies in front of the
  end of that zone and comes out of the turn later than it went in
  (`minute_lt_of_zoneFee`);
* the search fails, because `pt` has left the day `PD` behind.  The zone of an
  earlier day is used again, with cells that may stem from two rows, but its end
  lies behind `pt` already (`search_cases`) and the zone loop is left at once.
  This only happens in the turn that loads the day.
-/

namespace LinuxPBS.Tariff

open Loop

/-! ## What the tables have to satisfy -/

/-- No free time is negative. -/
def Zone.FreeTimes (zone : Zone) : Prop :=
  0 ≤ zone.firstFree ∧ 0 ≤ zone.secondFree ∧ 0 ≤ zone.thirdFree

/-- An hourly zone charges blocks of positive length. -/
def Zone.Blocks (zone : Zone) : Prop := zone.rateType = 1 → 0 < zone.ctb

instance (zone : Zone) : Decidable zone.FreeTimes := inferInstanceAs (Decidable (_ ∧ _ ∧ _))

instance (zone : Zone) : Decidable zone.Blocks := inferInstanceAs (Decidable (_ → _))

/-- Every zone that can be read for a transaction type has free times of at least 0, and
blocks of positive length when it is hourly. -/
def Tables.Advances (tables : Tables) (iTransType : ℤ) : Prop :=
  ∀ dayType, ∀ k < 9, ∀ numbers ∈ ((tables.gtariff iTransType dayType).period k).numbers,
    numbers.FreeTimes ∧ numbers.Blocks

theorem Tables.advances_ofRow {row : TariffStruct} (paras : TParas) (iTransType : ℤ)
    (hrow : ∀ k < 9, ∀ numbers ∈ (row.period k).numbers, numbers.FreeTimes ∧ numbers.Blocks) :
    (Tables.ofRow row paras).Advances iTransType :=
  fun _ => hrow

namespace Stay

variable {stay : Stay} {state : FeeState}

/-! ## The zone loop -/

/-- A zone loop ends when its blocks have a positive length, and also when the current
point is not in front of the end of the zone. -/
theorem zoneLoop_terminates (stay : Stay) {zone next : Zone} (state : FeeState) {pt : ℤ} (fee : ℚ)
    (hzone : 0 < zone.ctb ∨ minute next.zoneTime ≤ minute pt) :
    ∃ fuel result, stay.zoneLoop zone next state fuel pt fee = some result := by
  refine @loop_terminates (ℤ × ℚ) (ℤ × ℚ) (pt, fee) ℕ _ _
    (fun point => 0 < zone.ctb ∨ minute next.zoneTime ≤ minute point.1)
    (fun point => (minute next.zoneTime - minute point.1).toNat)
    (fun _ point => some (stay.zoneTurn zone next state point)) ?_ ?_ hzone
  · exact fun _ _ _ _ _ hbody => hbody
  · rintro ⟨now, fee⟩ hpoint
    refine ⟨0, _, rfl, ?_⟩
    rintro later hturn
    obtain ⟨-, heq⟩ | ⟨hbefore, fee', -, ⟨-, -, heq⟩ | ⟨-, ⟨-, heq⟩ | ⟨-, heq⟩⟩⟩ :=
      stay.zoneTurn_cases zone next state now fee <;>
      rw [heq] at hturn <;> cases hturn
    -- another block: the zone is not one whose end has gone by
    have hctb : 0 < zone.ctb := by
      rcases hpoint with hctb | hbehind
      · exact hctb
      · exact absurd hbefore (not_lt.mpr hbehind)
    refine ⟨Or.inl hctb, ?_⟩
    simp only [minute_add_minutes]
    omega

/-- From in front of the end of the zone, the zone loop moves the current point forward. -/
theorem minute_lt_of_zoneLoop {zone next : Zone} {fuel : ℕ} {start pt pt' : ℤ} {fee fee' : ℚ}
    (hctb : 0 < zone.ctb) (hstart : minute start < minute next.zoneTime)
    (hle : minute start ≤ minute pt)
    (hloop : stay.zoneLoop zone next state fuel pt fee = some (pt', fee')) :
    minute start < minute pt' := by
  refine loop_invariant (fun point : ℤ × ℚ => minute start ≤ minute point.1)
    (fun point : ℤ × ℚ => minute start < minute point.1) ?_ ?_ hle hloop
  · rintro ⟨now, fee⟩ later hpoint hturn
    change minute start ≤ minute now at hpoint
    obtain ⟨-, heq⟩ | ⟨-, fee', -, ⟨-, -, heq⟩ | ⟨-, ⟨-, heq⟩ | ⟨-, heq⟩⟩⟩ :=
      stay.zoneTurn_cases zone next state now fee <;>
      rw [heq] at hturn <;> cases hturn
    simp only [minute_add_minutes]
    omega
  · rintro ⟨now, fee⟩ later hpoint hturn
    change minute start ≤ minute now at hpoint
    obtain ⟨hend, heq⟩ | ⟨-, fee', -, ⟨-, -, heq⟩ | ⟨-, ⟨-, heq⟩ | ⟨-, heq⟩⟩⟩ :=
      stay.zoneTurn_cases zone next state now fee <;>
      rw [heq] at hturn <;> cases hturn
    · exact hstart.trans_le hend
    · exact hstart
    · simp only [minute_add_minutes]
      omega

/-! ## The free periods

They never bring the current point in front of a minute that neither it nor the end of
the zone was in front of. -/

section FreePeriods

variable {zone next : Zone} {iZoneCutoff pt bound : ℤ} {fee : ℚ}

theorem le_cutFree (iZoneCutoff : ℤ) {free : ℤ} (hfree : 0 ≤ free) (hnext : bound ≤ minute next.zoneTime)
    (hpt : bound ≤ minute pt) : bound ≤ minute (cutFree next iZoneCutoff pt free) := by
  unfold cutFree
  split
  · exact hnext
  · rw [minute_add_minutes]
    omega

@[simp] theorem endFreePeriods_pt {freed : Bool} :
    (stay.endFreePeriods pt fee freed).pt = pt := by
  unfold endFreePeriods
  split <;> rfl

theorem le_thirdOverBoundary (hfree : zone.FreeTimes) (hpt : bound ≤ minute pt) :
    bound ≤ minute (stay.thirdOverBoundary zone next iZoneCutoff pt fee).pt := by
  have hthird := hfree.2.2
  unfold thirdOverBoundary
  split_ifs
  · exact hpt
  · rw [endFreePeriods_pt, minute_add_minutes]
    omega
  · exact hpt

theorem le_secondOverBoundary (hfree : zone.FreeTimes) (hpt : bound ≤ minute pt) :
    bound ≤ minute (stay.secondOverBoundary zone next iZoneCutoff pt).pt := by
  have hsecond : bound ≤ minute (pt + zone.secondFree * 60) := by
    rw [minute_add_minutes]
    exact hpt.trans (by simpa using hfree.2.1)
  simp only [secondOverBoundary]
  split_ifs
  · exact hpt
  · exact hsecond
  · exact le_thirdOverBoundary hfree hsecond
  · exact hpt

theorem le_thirdFreePeriod (hfree : zone.FreeTimes) (hnext : bound ≤ minute next.zoneTime)
    (hpt : bound ≤ minute pt) :
    bound ≤ minute (stay.thirdFreePeriod zone next iZoneCutoff pt).pt := by
  simp only [thirdFreePeriod]
  split_ifs
  · rw [endFreePeriods_pt]
    exact le_cutFree iZoneCutoff hfree.2.2 hnext hpt
  · rw [endFreePeriods_pt, minute_add_minutes]
    exact hpt.trans (by simpa using hfree.2.2)
  · exact hpt

theorem le_secondFreePeriod (hfree : zone.FreeTimes) (hnext : bound ≤ minute next.zoneTime)
    (hpt : bound ≤ minute pt) :
    bound ≤ minute (stay.secondFreePeriod zone next iZoneCutoff pt).pt := by
  have hcut := le_cutFree iZoneCutoff hfree.2.1 hnext hpt
  have hsecond : bound ≤ minute (pt + zone.secondFree * 60) := by
    rw [minute_add_minutes]
    exact hpt.trans (by simpa using hfree.2.1)
  simp only [secondFreePeriod]
  split_ifs
  · exact hcut
  · exact le_thirdOverBoundary hfree hcut
  · exact hsecond
  · exact le_thirdFreePeriod hfree hnext hsecond
  · exact hpt

theorem le_freePeriods (hfree : zone.FreeTimes) (hnext : bound ≤ minute next.zoneTime)
    (hpt : bound ≤ minute pt) :
    bound ≤ minute (stay.freePeriods zone next iZoneCutoff pt).pt := by
  have hcut := le_cutFree iZoneCutoff hfree.1 hnext hpt
  have hfirst : bound ≤ minute (pt + zone.firstFree * 60) := by
    rw [minute_add_minutes]
    exact hpt.trans (by simpa using hfree.1)
  simp only [freePeriods]
  split_ifs
  · exact hcut
  · exact le_secondOverBoundary hfree hcut
  · exact hfirst
  · exact le_secondFreePeriod hfree hnext hfirst

theorem le_freeOf (hfree : state.zone.FreeTimes) (hnext : bound ≤ minute state.nextZone.zoneTime)
    (hpt : bound ≤ minute state.pt) : bound ≤ minute (stay.freeOf state).pt := by
  unfold freeOf
  split
  · exact le_freePeriods hfree hnext hpt
  · exact hpt

end FreePeriods

/-! ## The fee of a zone -/

/-- The end of the selected zone lies ahead, and it is a zone of the table; or it has gone by. -/
def Selected (state : FeeState) : Prop :=
  state.zone.FreeTimes ∧
    ((minute state.pt < minute state.nextZone.zoneTime ∧
        state.currentZone ≤ state.day.maxZone ∧
        (state.currentRateType = 1 → 0 < state.zone.ctb)) ∨
      minute state.nextZone.zoneTime ≤ minute state.pt)

theorem zoneFee_terminates (hselected : Selected state) :
    ∃ fuel out, stay.zoneFee fuel state = some out := by
  obtain ⟨hfree, hzone⟩ := hselected
  unfold zoneFee
  split
  · rename_i hrate
    have hloop : ∃ fuel result, stay.zoneLoop state.zone state.nextZone state fuel
        (stay.freeOf state).pt (stay.freeOf state).zoneFee = some result := by
      refine stay.zoneLoop_terminates state _ ?_
      rcases hzone with ⟨-, -, hctb⟩ | hbehind
      · exact Or.inl (hctb hrate)
      · exact Or.inr (le_freeOf hfree le_rfl hbehind)
    obtain ⟨fuel, result, hresult⟩ := hloop
    refine ⟨fuel, ?_⟩
    simp only [hourly]
    split_ifs
    · exact ⟨_, rfl⟩
    · exact ⟨_, rfl⟩
    · exact ⟨_, rfl⟩
    · exact ⟨_, by rw [hresult, Option.map_some]⟩
  · split
    · exact ⟨0, _, rfl⟩
    · exact ⟨0, _, rfl⟩

/-- A zone whose end lies ahead is left at a later minute. -/
theorem minute_lt_of_zoneFee {fuel : ℕ} {next : FeeState} {fee : ℚ} (hselected : Selected state)
    (hahead : minute state.pt < minute state.nextZone.zoneTime)
    (hrate : state.currentRateType = 1 ∨ state.currentRateType = 2)
    (hfee : stay.zoneFee fuel state = some (.ok (next, fee))) :
    minute state.pt < minute next.pt := by
  obtain ⟨hfree, hzone⟩ := hselected
  unfold zoneFee at hfee
  split_ifs at hfee with hhourly hentry
  · have hctb : 0 < state.zone.ctb := by
      rcases hzone with ⟨-, -, hctb⟩ | hbehind
      · exact hctb hhourly
      · exact absurd hahead (not_lt.mpr hbehind)
    obtain ⟨-, -, -, pt, hloop, rfl⟩ := hourly_eq_ok hfee
    have hpt : minute state.pt < minute pt :=
      minute_lt_of_zoneLoop hctb hahead (le_freeOf hfree hahead.le le_rfl) hloop
    -- the cut-off moves the point to the end of the zone, if it moves it
    simp only [cutZone]
    split_ifs
    · exact hahead
    · exact hpt
    · exact hahead
    · exact hpt
  · obtain ⟨rfl, -⟩ := Prod.mk.inj (Except.ok.inj (Option.some.inj hfee))
    simp only [leavePerEntry]
    split_ifs with hallowance
    · rw [minute_add_minutes]
      omega
    · exact hahead
  · exact absurd hrate (by simp [hhourly, hentry])

/-! ## The zones of a loaded day -/

/-- The cells a zone search can select, and the end of the last of them. -/
structure Loaded (stay : Stay) (day : Day) (pd : ℤ) : Prop where
  two_le : 2 ≤ day.maxZone + 1
  advances : ∀ k ≤ day.maxZone, (day.zones k).Blocks
  lt_dayAfter : ∀ k ≤ day.maxZone + 1,
    (day.zones k).zoneTime < stay.tables.timeZone.midnight (pd + 1 + 1)
  boundary : stay.tables.timeZone.midnight (pd + 1) ≤ (day.zones (day.maxZone + 1)).zoneTime

theorem loaded_of_dayInfo (hadvances : stay.tables.Advances stay.iTransType) {before day : Day} {pd : ℤ}
    (hday : stay.tables.DayInfo stay.iTransType pd before day) : stay.Loaded day pd := by
  have hsucc := stay.tables.timeZone.midnight_succ
  obtain ⟨rateType, gt, zoneTime, hle, hlt, hboundary⟩ := hday.boundary
  refine ⟨by have := hday.maxZone_bounds.1; omega, ?_, ?_, by rw [hboundary]; exact hle⟩
  · intro k hk
    obtain ⟨d, -, j, hj, numbers, hnumbers, time, hzone⟩ := hday.cell hk
    rw [hzone]
    exact (hadvances _ j hj numbers hnumbers).2
  · intro k hk
    rcases Nat.le_succ_iff.mp hk with hk | rfl
    · obtain ⟨d, hd, j, -, hput⟩ := hday.cell hk
      have htime := hput.zoneTime_bounds.2
      have hmidnight : stay.tables.timeZone.midnight d ≤ stay.tables.timeZone.midnight pd :=
        stay.tables.timeZone.midnight_mono (by omega)
      have := hsucc pd
      have := hsucc (pd + 1)
      omega
    · rw [hboundary]
      exact hlt

/-- What holds when the arrays have been filled for the day `PD`.  Cells behind
`maxZone + 1` stem from earlier days; they are only in reach when `pt` is still inside of
the day, or when they end before it does. -/
structure Ready (stay : Stay) (state : FeeState) : Prop where
  free : ∀ k, (state.day.zones k).FreeTimes
  loaded : stay.Loaded state.day state.pd
  lt_dayAfter : ∀ k, 2 < k → k ≤ state.currentZone + 1 →
    (state.day.zones k).zoneTime < stay.tables.timeZone.midnight (state.pd + 1 + 1)
  reach : stay.tables.timeZone.day state.pt ≤ state.pd ∨
    ∀ k, state.day.maxZone + 1 < k → k ≤ state.currentZone + 1 →
      (state.day.zones k).zoneTime < stay.tables.timeZone.midnight (state.pd + 1)

/-- The zone search finds a zone whose end lies ahead, or stays with a zone whose end has
gone by.  Inside of the day it does not fail. -/
theorem search_cases (hready : stay.Ready state) :
    (searchZone state ≤ state.day.maxZone ∧
      minute state.pt < minute (state.day.zones (searchZone state + 1)).zoneTime) ∨
    (state.pd < stay.tables.timeZone.day state.pt ∧ searchZone state = state.currentZone ∧
      minute (state.day.zones (searchZone state + 1)).zoneTime ≤ minute state.pt) := by
  obtain hfound | ⟨hsame, hfailed⟩ := searchZone_cases state
  · exact Or.inl hfound
  · have hbehind : minute (stay.tables.timeZone.midnight (state.pd + 1)) ≤ minute state.pt :=
      (minute_mono hready.loaded.boundary).trans (hfailed _ le_rfl)
    have hday : state.pd < stay.tables.timeZone.day state.pt := by
      have hle := stay.tables.timeZone.day_le_of_minute_le hbehind
      rw [TimeZone.day_midnight] at hle
      omega
    refine Or.inr ⟨hday, hsame, ?_⟩
    rw [hsame]
    rcases le_or_gt state.currentZone state.day.maxZone with hzone | hzone
    · exact hfailed _ hzone
    · rcases hready.reach with hinside | hreach
      · omega
      · exact (minute_mono (hreach _ (by omega) le_rfl).le).trans hbehind

/-! ## The turn -/

/-- What holds at the head of the outer loop. -/
structure Steady (stay : Stay) (state : FeeState) : Prop where
  free : ∀ k, (state.day.zones k).FreeTimes
  loaded : state.bGotDayInfo = true →
    stay.Loaded state.day state.pd ∧ stay.tables.timeZone.day state.pt ≤ state.pd
  lt_dayAfter : ∀ k, 2 < k → k ≤ state.currentZone + 1 → (state.day.zones k).zoneTime <
    stay.tables.timeZone.midnight (if state.bGotDayInfo then state.pd + 1 + 1 else state.pd + 1)

theorem steady_start (stay : Stay) (bNoGT : Bool) : stay.Steady (stay.start bNoGT) where
  free := fun k => ⟨le_rfl, le_rfl, le_rfl⟩
  loaded := fun hgot => by cases hgot
  lt_dayAfter := fun k hk hle => by
    simp only [start] at hle
    omega

theorem ready_of_getDay (hadvances : stay.tables.Advances stay.iTransType) {loaded : FeeState}
    (hsteady : stay.Steady state) (hget : stay.getDay state = .ok loaded) :
    stay.Ready loaded := by
  obtain ⟨hgot, rfl⟩ | ⟨hgot, day, hday, rfl⟩ := getDay_eq_ok hget
  · obtain ⟨hloaded, hinside⟩ := hsteady.loaded hgot
    refine ⟨hsteady.free, hloaded, ?_, Or.inl hinside⟩
    have hlt := hsteady.lt_dayAfter
    rwa [hgot] at hlt
  · have hloaded := loaded_of_dayInfo hadvances hday
    have hold : ∀ k, 2 < k → day.maxZone + 1 < k → k ≤ state.currentZone + 1 →
        (day.zones k).zoneTime < stay.tables.timeZone.midnight (state.pd + 1) := by
      intro k htwo hk hle
      have hlt := hsteady.lt_dayAfter k htwo hle
      rw [hgot] at hlt
      rw [hday.behind k hk]
      exact hlt
    have hfree := hday.forall_zones (fun _ _ _ _ hzone => hzone)
      (fun dayType k hk numbers hnumbers => (hadvances dayType k hk numbers hnumbers).1)
      hsteady.free
    refine ⟨hfree, hloaded, ?_, Or.inr ?_⟩
    · intro k htwo hle
      rcases le_or_gt k (day.maxZone + 1) with hk | hk
      · exact hloaded.lt_dayAfter k hk
      · exact (hold k htwo hk hle).trans_le (stay.tables.timeZone.midnight_mono (by simp))
    · intro k hk hle
      exact hold k (hloaded.two_le.trans_lt hk) hk hle

/-- What holds when a turn that began in `state` comes to the fee of the zone: a block has
been charged, or a zone has been selected. -/
structure Entered (stay : Stay) (state entered : FeeState) : Prop where
  pd_eq : entered.pd = state.pd
  got : entered.bGotDayInfo = true
  free : ∀ k, (entered.day.zones k).FreeTimes
  loaded : stay.Loaded entered.day entered.pd
  lt_dayAfter : ∀ k, 2 < k → k ≤ entered.currentZone + 1 →
    (entered.day.zones k).zoneTime < stay.tables.timeZone.midnight (entered.pd + 1 + 1)
  zone : (entered.currentRateType = 0 ∧ minute state.pt < minute entered.pt) ∨
    ((entered.currentRateType = 1 ∨ entered.currentRateType = 2) ∧ Selected entered ∧
      entered.pt = state.pt ∧
      (stay.tables.timeZone.day state.pt ≤ state.pd →
        minute entered.pt < minute entered.nextZone.zoneTime))

theorem entered_of_enterZone (hadvances : stay.tables.Advances stay.iTransType) {entered : FeeState}
    (hsteady : stay.Steady state) (henter : stay.enterZone state = .ok entered) :
    stay.Entered state entered := by
  obtain ⟨-, loaded, hget, selected, hselect, rfl⟩ := enterZone_eq_ok henter
  have hready := ready_of_getDay hadvances hsteady hget
  have hsame : loaded.pd = state.pd ∧ loaded.pt = state.pt ∧ loaded.bGotDayInfo = true := by
    obtain ⟨hgot, rfl⟩ | ⟨-, day, -, rfl⟩ := getDay_eq_ok hget
    · exact ⟨rfl, rfl, hgot⟩
    · exact ⟨rfl, rfl, rfl⟩
  obtain ⟨hpd, hpt, hgot⟩ := hsame
  obtain ⟨-, rfl⟩ | ⟨-, zone, hzone, hone, htwo, rfl⟩ := selectZone_eq_ok hselect
  · refine ⟨hpd, hgot, hready.free, hready.loaded, hready.lt_dayAfter, Or.inl ⟨rfl, ?_⟩⟩
    change minute state.pt < minute (loaded.pt + 86400)
    rw [hpt]
    unfold minute
    omega
  · have hsearch := search_cases hready
    refine ⟨hpd, hgot, hready.free, hready.loaded, ?_, Or.inr ⟨?_, ⟨hready.free _, ?_⟩, hpt, ?_⟩⟩
    · intro k hk hle
      obtain ⟨hzone, -⟩ | ⟨-, hsame, -⟩ := hsearch
      · exact hready.loaded.lt_dayAfter k (hle.trans (Nat.succ_le_succ hzone))
      · exact hready.lt_dayAfter k hk (hsame ▸ hle)
    · change zone.rateType = 1 ∨ zone.rateType = 2
      omega
    · obtain ⟨hmax, hahead⟩ | ⟨-, -, hbehind⟩ := hsearch
      · exact Or.inl ⟨hahead, hmax, fun hrate => hready.loaded.advances _ hmax (hzone ▸ hrate)⟩
      · exact Or.inr hbehind
    · intro hinside
      obtain ⟨-, hahead⟩ | ⟨houtside, -, -⟩ := hsearch
      · exact hahead
      · rw [hpd, hpt] at houtside
        exact absurd hinside (not_le.mpr houtside)

/-- What gets smaller from turn to turn. -/
def measure (stay : Stay) (state : FeeState) : ℕ ×ₗ ℕ ×ₗ ℕ :=
  toLex ((stay.tables.timeZone.day stay.currentTime + 1 - state.pd).toNat,
    toLex (if state.bGotDayInfo then 0 else 1,
      (minute (stay.tables.timeZone.midnight (state.pd + 1)) - minute state.pt).toNat))

/-- A turn that goes round again keeps `Steady` and makes the measure smaller. -/
theorem turn_decreases (hadvances : stay.tables.Advances stay.iTransType) {fuel : ℕ} {next : FeeState}
    (hsteady : stay.Steady state) (hturn : stay.turn fuel state = some (.ok next)) :
    stay.Steady next ∧ stay.measure next < stay.measure state := by
  obtain ⟨entered, henter, moved, fee, hfee, hsettle⟩ := turn_eq_ok hturn
  have hentered := entered_of_enterZone hadvances hsteady henter
  obtain ⟨hpd, -⟩ := enterZone_eq_ok henter
  -- inside of the day the current point moves forward
  have hforward : stay.tables.timeZone.day state.pt ≤ state.pd →
      minute state.pt < minute moved.pt := by
    intro hinside
    obtain ⟨hrate, hlt⟩ | ⟨hrate, hselected, hpt, hahead⟩ := hentered.zone
    · have hsame : moved = entered := by
        unfold zoneFee at hfee
        rw [if_neg (by omega), if_neg (by omega)] at hfee
        exact (Prod.mk.inj (Except.ok.inj (Option.some.inj hfee))).1.symm
      rw [hsame]
      exact hlt
    · rw [← hpt]
      exact minute_lt_of_zoneFee hselected (hahead hinside) hrate hfee
  obtain ⟨pt, bFirstFreed, bMCPerDayChecked, rfl⟩ := zoneFee_moved hfee
  obtain ⟨rfl, -⟩ := settle_eq_ok hsettle
  have hgot := hentered.got
  have hpdEq := hentered.pd_eq
  unfold settleDay
  split
  · -- the day is settled: one day less is left
    constructor
    · exact ⟨hentered.free, (fun hgot => by cases hgot), hentered.lt_dayAfter⟩
    · refine Prod.Lex.toLex_lt_toLex.mpr (Or.inl ?_)
      simp only [addZoneFee, hpdEq]
      omega
  · rename_i hinside
    simp only [addZoneFee, gt_iff_lt, not_lt] at hinside
    constructor
    · refine ⟨hentered.free, fun _ => ⟨hentered.loaded, hinside⟩, ?_⟩
      simp only [addZoneFee, hgot, if_true]
      exact hentered.lt_dayAfter
    · refine Prod.Lex.toLex_lt_toLex.mpr (Or.inr ⟨?_, Prod.Lex.toLex_lt_toLex.mpr ?_⟩)
      · simp only [addZoneFee, hpdEq]
      · cases hstate : state.bGotDayInfo with
        | false =>
            refine Or.inl ?_
            simp [addZoneFee, hgot]
        | true =>
            refine Or.inr ⟨by simp [addZoneFee, hgot], ?_⟩
            have hday := (hsteady.loaded hstate).2
            have hlt := hforward hday
            have hmidnight := (stay.tables.timeZone.minute_lt_midnight_iff).mpr
              (stay.tables.timeZone.day_le_iff.mp hday)
            simp only [addZoneFee, hpdEq] at hlt ⊢
            omega

theorem turn_terminates (hadvances : stay.tables.Advances stay.iTransType) (hsteady : stay.Steady state) :
    ∃ fuel out, stay.turn fuel state = some out := by
  cases henter : stay.enterZone state with
  | error exit => exact ⟨0, .error exit, by simp only [turn, henter]⟩
  | ok entered =>
      have hentered := entered_of_enterZone hadvances hsteady henter
      have hfee : ∃ fuel out, stay.zoneFee fuel entered = some out := by
        obtain ⟨hrate, -⟩ | ⟨-, hselected, -⟩ := hentered.zone
        · refine ⟨0, .ok (entered, 0), ?_⟩
          unfold zoneFee
          rw [if_neg (by omega), if_neg (by omega)]
        · exact zoneFee_terminates hselected
      obtain ⟨fuel, out, hout⟩ := hfee
      refine ⟨fuel, ?_⟩
      cases out with
      | error exit => exact ⟨.error exit, by simp only [turn, henter, hout]⟩
      | ok moved => exact ⟨stay.settle moved.1 moved.2, by simp only [turn, henter, hout]⟩

theorem run_terminates (stay : Stay) (hadvances : stay.tables.Advances stay.iTransType) (bNoGT : Bool) :
    ∃ fuel exit, stay.run fuel bNoGT = some exit := by
  refine loop_terminates stay.Steady stay.measure ?_ ?_ (stay.steady_start bNoGT)
  · exact fun _ _ _ _ hfuel hout => turn_mono hfuel hout
  · intro state hsteady
    obtain ⟨fuel, out, hout⟩ := turn_terminates hadvances hsteady
    refine ⟨fuel, out, hout, ?_⟩
    rintro next rfl
    exact turn_decreases hadvances hsteady hout

end Stay

/-- The fee loop and the zone loop inside of it end: from some fuel on the calculation has
one result. -/
theorem calFeeRAM2GR_terminates (tables : Tables) (iTransType : ℤ)
    (hadvances : tables.Advances iTransType) (entryTime payDT : ℤ) (bNoGT : Bool) :
    ∃ enough result, ∀ fuel ≥ enough,
      calFeeRAM2GR tables fuel entryTime payDT iTransType bNoGT = some result := by
  simp only [calFeeRAM2GR]
  split
  · exact ⟨0, some 0, fun _ _ => rfl⟩
  · obtain ⟨enough, exit, hrun⟩ := Stay.run_terminates
      (tables.stay entryTime payDT iTransType) hadvances bNoGT
    refine ⟨enough, Stay.value _ exit, fun fuel hfuel => Option.map_eq_some_iff.mpr ⟨exit, ?_, rfl⟩⟩
    exact loop_mono (fun _ _ hbody => Stay.turn_mono hfuel hbody) hfuel hrun

/-- An hourly zone in the day and a per-entry zone in the night. -/
def dayAndNight : TariffStruct :=
  .plain [.plain "08:00:00" "19:00:00" "1" "60" "1.2", .plain "19:00:00" "08:00:00" "2" "0" "4"]

theorem calFeeRAM2GR_terminates_dayAndNight :
    ∃ enough result, ∀ fuel ≥ enough,
      calFeeRAM2GR (.ofRow dayAndNight {}) fuel 1767258000 1767430800 0 false = some result :=
  calFeeRAM2GR_terminates _ _ (Tables.advances_ofRow _ _ (by decide +kernel)) _ _ _

end LinuxPBS.Tariff

import LinuxPBS.Tariff.CalFee

/-!
# What one turn does

The inversion lemmas of the outer loop.  A turn that goes round again, or leaves
the loop by a `break`, went through these states:

```text
state    --getDay-->      the arrays are those of the day PD
         --selectZone-->  a block is charged, or a zone is selected
         --checkGrace-->  bNoGT is set
         --zoneFee-->     only pt and the two flags `FeeState.Moved` names change
         --settle-->      the fee is added, the day is settled or not
```

Everything that is proved about the calculation goes through these lemmas, so
that the pieces of a turn are unfolded here and not again.
-/

namespace LinuxPBS.Tariff

open Loop

/-- `after` is `before` but for the current point and the two flags that are set once. -/
def FeeState.Moved (before after : FeeState) : Prop :=
  ∃ pt bFirstFreed bMCPerDayChecked,
    after = { before with pt, bFirstFreed, bMCPerDayChecked }

namespace Stay

variable {stay : Stay} {fuel : ℕ} {state next : FeeState}

/-! ## The pieces -/

/-- The zone search finds a zone whose end lies ahead, or no zone of the day ends ahead and
the zone stays as it was. -/
theorem searchZone_cases (state : FeeState) :
    (searchZone state ≤ state.day.maxZone ∧
      minute state.pt < minute (state.day.zones (searchZone state + 1)).zoneTime) ∨
    (searchZone state = state.currentZone ∧ ∀ k ≤ state.day.maxZone,
      minute (state.day.zones (k + 1)).zoneTime ≤ minute state.pt) := by
  unfold searchZone
  cases hfind : (List.range (state.day.maxZone + 1)).find? fun k =>
      decide (diffmin state.pt (state.day.zones (k + 1)).zoneTime > 0) with
  | some zone =>
      have hahead : diffmin state.pt (state.day.zones (zone + 1)).zoneTime > 0 := by
        simpa using List.find?_some hfind
      have hmem := List.mem_range.mp (List.mem_of_find?_eq_some hfind)
      unfold diffmin at hahead
      exact Or.inl ⟨by rw [Option.getD_some]; omega, by rw [Option.getD_some]; omega⟩
  | none =>
      refine Or.inr ⟨rfl, fun k hk => ?_⟩
      have hbehind := List.find?_eq_none.mp hfind k (List.mem_range.mpr (by omega))
      have hle : ¬ diffmin state.pt (state.day.zones (k + 1)).zoneTime > 0 := by
        simpa using hbehind
      unfold diffmin at hle
      omega

theorem orEnd_eq_ok {α : Type} {result : Except Ending α} {value : α} :
    orEnd result = .ok value ↔ result = .ok value := by
  cases result with
  | error ending => simp [orEnd]
  | ok other => simp [orEnd]

theorem orEnd_eq_error {α : Type} {result : Except Ending α} {exit : Exit} :
    orEnd result = .error exit ↔ ∃ ending, result = .error ending ∧ exit = .ended ending := by
  cases result with
  | error ending => simp [orEnd, eq_comm]
  | ok value => simp [orEnd]

theorem getDay_eq_ok (hget : stay.getDay state = .ok next) :
    (state.bGotDayInfo = true ∧ next = state) ∨
      (state.bGotDayInfo = false ∧
        ∃ day, stay.tables.DayInfo stay.iTransType state.pd state.day day ∧
          next = { state with day, dayFee := 0, bGotDayInfo := true }) := by
  unfold getDay at hget
  split at hget
  · rename_i hgot
    obtain rfl := Except.ok.inj hget
    exact Or.inl ⟨hgot, rfl⟩
  · rename_i hgot
    obtain ⟨day, hday, heq⟩ := bind_eq_ok.mp hget
    obtain rfl := Except.ok.inj heq
    exact Or.inr ⟨by simpa using hgot, day, Tables.getDayInfo_spec (orEnd_eq_ok.mp hday), rfl⟩

theorem selectZone_eq_ok (hselect : stay.selectZone state = .ok next) :
    (0 < stay.blocksLeft state ∧
      next = { state with
        s24HourCharges := state.s24HourCharges + state.day.s24HourFee
        pt := state.pt + 86400
        currentRateType := 0
        bNoGT := true }) ∨
    (¬ 0 < stay.blocksLeft state ∧
      ∃ zone, zone = state.day.zones (searchZone state) ∧ 1 ≤ zone.rateType ∧ zone.rateType ≤ 2 ∧
        next = { state with
          currentZone := searchZone state
          currentRateType := zone.rateType
          currentMin := zone.zoneMin
          currentMax := zone.zoneMax }) := by
  simp only [selectZone] at hselect
  split at hselect
  · rename_i hblocks
    exact Or.inl ⟨hblocks, (Except.ok.inj hselect).symm⟩
  · rename_i hblocks
    split at hselect
    · cases hselect
    · rename_i hrate
      exact Or.inr ⟨hblocks, _, rfl, by omega, by omega, (Except.ok.inj hselect).symm⟩

theorem checkGrace_eq_ok (hgrace : stay.checkGrace state = .ok next) :
    next = { state with bNoGT := true } := by
  unfold checkGrace at hgrace
  split at hgrace
  · cases hgrace
  · exact (Except.ok.inj hgrace).symm

/-- What a turn has gone through when it comes to the fee of the zone. -/
theorem enterZone_eq_ok (henter : stay.enterZone state = .ok next) :
    state.pd ≤ stay.tables.timeZone.day stay.currentTime ∧
      ∃ loaded, stay.getDay state = .ok loaded ∧
        ∃ selected, stay.selectZone loaded = .ok selected ∧
          next = { selected with bNoGT := true } := by
  unfold enterZone at henter
  split at henter
  · cases henter
  · rename_i hday
    obtain ⟨loaded, hloaded, hrest⟩ := bind_eq_ok.mp henter
    obtain ⟨selected, hselected, hgrace⟩ := bind_eq_ok.mp hrest
    exact ⟨not_lt.mp hday, loaded, hloaded, selected, hselected, checkGrace_eq_ok hgrace⟩

/-- How a turn ends before it comes to the fee of the zone: at its head, with an error, or
within the grace time. -/
theorem enterZone_eq_error {exit : Exit} (henter : stay.enterZone state = .error exit) :
    (stay.tables.timeZone.day stay.currentTime < state.pd ∧ exit = .broke state) ∨
      (state.pd ≤ stay.tables.timeZone.day stay.currentTime ∧
        ((∃ ending, exit = .ended ending ∧ ending.IsError) ∨
          ∃ loaded, stay.getDay state = .ok loaded ∧
            ∃ selected, stay.selectZone loaded = .ok selected ∧
              selected.bNoGT = false ∧ 0 < selected.zone.gt ∧
              stay.minutesLeft selected.pt ≤ selected.zone.gt ∧
              exit = .ended (.returned 0))) := by
  unfold enterZone at henter
  split at henter
  · rename_i hday
    exact Or.inl ⟨hday, (Except.error.inj henter).symm⟩
  · rename_i hday
    refine Or.inr ⟨not_lt.mp hday, ?_⟩
    obtain hget | ⟨loaded, hget, hrest⟩ := bind_eq_error.mp henter
    · refine Or.inl ?_
      unfold getDay at hget
      split at hget
      · cases hget
      · obtain hinfo | ⟨_, -, hrest⟩ := bind_eq_error.mp hget
        · obtain ⟨ending, hending, rfl⟩ := orEnd_eq_error.mp hinfo
          exact ⟨ending, rfl, Tables.isError_of_getDayInfo hending⟩
        · cases hrest
    · obtain hselect | ⟨selected, hselect, hgrace⟩ := bind_eq_error.mp hrest
      · refine Or.inl ⟨.returned (-3), ?_, fun value hvalue => by cases hvalue; decide⟩
        simp only [selectZone] at hselect
        split_ifs at hselect
        exact (Except.error.inj hselect).symm
      · refine Or.inr ⟨loaded, hget, selected, hselect, ?_⟩
        unfold checkGrace at hgrace
        split at hgrace
        · rename_i hwithin
          exact ⟨hwithin.1, hwithin.2.1, hwithin.2.2, (Except.error.inj hgrace).symm⟩
        · cases hgrace

/-- The four ways one turn of the zone loop goes. -/
theorem zoneTurn_cases (stay : Stay) (zone next : Zone) (state : FeeState) (pt : ℤ) (fee : ℚ) :
    (minute next.zoneTime ≤ minute pt ∧
      stay.zoneTurn zone next state (pt, fee) = .error (pt, fee)) ∨
    (minute pt < minute next.zoneTime ∧
      ∃ fee', fee' = stay.chargeBlock zone state pt fee ∧
        ((0 < zone.zoneMax ∧ zone.zoneMax ≤ fee' ∧
            stay.zoneTurn zone next state (pt, fee) = .error (next.zoneTime, fee')) ∨
          (¬ (0 < zone.zoneMax ∧ zone.zoneMax ≤ fee') ∧
            ((stay.minutesLeft (pt + zone.ctb * 60) ≤ 0 ∧
                stay.zoneTurn zone next state (pt, fee) = .error (pt + zone.ctb * 60, fee')) ∨
              (0 < stay.minutesLeft (pt + zone.ctb * 60) ∧
                stay.zoneTurn zone next state (pt, fee) = .ok (pt + zone.ctb * 60, fee')))))) := by
  simp only [zoneTurn]
  by_cases hend : diffmin pt next.zoneTime ≤ 0
  · refine Or.inl ⟨by unfold diffmin at hend; omega, ?_⟩
    rw [if_pos hend]
  · refine Or.inr ⟨by unfold diffmin at hend; omega, _, rfl, ?_⟩
    rw [if_neg hend]
    by_cases hmax : 0 < zone.zoneMax ∧ zone.zoneMax ≤ stay.chargeBlock zone state pt fee
    · exact Or.inl ⟨hmax.1, hmax.2, if_pos hmax⟩
    · refine Or.inr ⟨hmax, ?_⟩
      rw [if_neg hmax]
      by_cases hleft : stay.minutesLeft (pt + zone.ctb * 60) ≤ 0
      · exact Or.inl ⟨hleft, if_pos hleft⟩
      · exact Or.inr ⟨not_le.mp hleft, if_neg hleft⟩

theorem hourly_eq_ok {zoneFee : ℚ} (hhourly : stay.hourly fuel state = some (.ok (next, zoneFee))) :
    state.zone.ctb ≠ 0 ∧ ¬ stay.WithinAllowance state.zone state.Charged state.pt ∧
      (stay.freeOf state).ended = false ∧
      ∃ pt, stay.zoneLoop state.zone state.nextZone state fuel (stay.freeOf state).pt
          (stay.freeOf state).zoneFee = some (pt, zoneFee) ∧
        next = { state with
          bFirstFreed := state.bFirstFreed ||
            ((stay.freeOf state).freed && stay.tables.paras.giFirstHourMode == 1)
          pt := stay.cutZone state.nextZone state.day.iZoneCutoff pt } := by
  simp only [hourly] at hhourly
  split at hhourly
  · cases hhourly
  · rename_i hctb
    split at hhourly
    · cases hhourly
    · rename_i hallowance
      split at hhourly
      · cases hhourly
      · rename_i hended
        obtain ⟨⟨pt, fee⟩, hloop, heq⟩ := Option.map_eq_some_iff.mp hhourly
        obtain ⟨rfl, rfl⟩ := Prod.mk.inj (Except.ok.inj heq)
        exact ⟨hctb, hallowance, by simpa using hended, pt, hloop, rfl⟩

theorem hourly_eq_error {exit : Exit} (hhourly : stay.hourly fuel state = some (.error exit)) :
    (state.zone.ctb = 0 ∧ exit = .ended (.returned (-3))) ∨
      (state.zone.ctb ≠ 0 ∧
        ((stay.WithinAllowance state.zone state.Charged state.pt ∧ exit = .broke state) ∨
          (¬ stay.WithinAllowance state.zone state.Charged state.pt ∧
            (stay.freeOf state).ended = true ∧
            exit = .broke { state with
              pt := (stay.freeOf state).pt
              dayFee := state.dayFee + (stay.freeOf state).zoneFee }))) := by
  simp only [hourly] at hhourly
  split at hhourly
  · rename_i hctb
    exact Or.inl ⟨hctb, (Except.error.inj (Option.some.inj hhourly)).symm⟩
  · rename_i hctb
    refine Or.inr ⟨hctb, ?_⟩
    split at hhourly
    · rename_i hallowance
      exact Or.inl ⟨hallowance, (Except.error.inj (Option.some.inj hhourly)).symm⟩
    · rename_i hallowance
      split at hhourly
      · rename_i hended
        exact Or.inr ⟨hallowance, hended, (Except.error.inj (Option.some.inj hhourly)).symm⟩
      · obtain ⟨_, -, heq⟩ := Option.map_eq_some_iff.mp hhourly
        cases heq

/-- The fee of a zone moves the current point and nothing else that counts. -/
theorem zoneFee_moved {fee : ℚ} (hfee : stay.zoneFee fuel state = some (.ok (next, fee))) :
    state.Moved next := by
  unfold zoneFee at hfee
  split at hfee
  · obtain ⟨-, -, -, pt, -, rfl⟩ := hourly_eq_ok hfee
    exact ⟨_, _, _, rfl⟩
  · split at hfee
    · obtain ⟨rfl, -⟩ := Prod.mk.inj (Except.ok.inj (Option.some.inj hfee))
      exact ⟨_, _, _, rfl⟩
    · obtain ⟨rfl, -⟩ := Prod.mk.inj (Except.ok.inj (Option.some.inj hfee))
      exact ⟨_, _, _, rfl⟩

/-- Inside of the fee of a zone a turn leaves with an error, within the allowance, or out of
the free periods. -/
theorem zoneFee_eq_error {exit : Exit} (hfee : stay.zoneFee fuel state = some (.error exit)) :
    state.currentRateType = 1 ∧
      ((∃ ending, exit = .ended ending ∧ ending.IsError ∧ state.zone.ctb = 0) ∨
        (stay.WithinAllowance state.zone state.Charged state.pt ∧ exit = .broke state) ∨
        (¬ stay.WithinAllowance state.zone state.Charged state.pt ∧
          (stay.freeOf state).ended = true ∧
          exit = .broke { state with
            pt := (stay.freeOf state).pt
            dayFee := state.dayFee + (stay.freeOf state).zoneFee })) := by
  unfold zoneFee at hfee
  split_ifs at hfee with hrate hentry
  · refine ⟨hrate, ?_⟩
    obtain ⟨hctb, rfl⟩ | ⟨-, hbroke⟩ := hourly_eq_error hfee
    · exact Or.inl ⟨_, rfl, (fun value hvalue => by cases hvalue; decide), hctb⟩
    · exact Or.inr hbroke
  all_goals cases hfee

theorem settle_eq_ok {fee : ℚ} (hsettle : stay.settle state fee = .ok next) :
    next = stay.settleDay (addZoneFee state fee) ∧ 0 < stay.minutesLeft next.pt := by
  simp only [settle] at hsettle
  split at hsettle
  · cases hsettle
  · rename_i hleft
    obtain rfl := Except.ok.inj hsettle
    exact ⟨rfl, not_le.mp hleft⟩

theorem settle_eq_error {fee : ℚ} {exit : Exit} (hsettle : stay.settle state fee = .error exit) :
    exit = .broke (stay.settleDay (addZoneFee state fee)) ∧
      stay.minutesLeft (stay.settleDay (addZoneFee state fee)).pt ≤ 0 := by
  simp only [settle] at hsettle
  split at hsettle
  · rename_i hleft
    exact ⟨(Except.error.inj hsettle).symm, hleft⟩
  · cases hsettle

@[simp] theorem settleDay_pt : (stay.settleDay state).pt = state.pt := by
  unfold settleDay
  split <;> rfl

/-! ## The turn -/

theorem turn_eq_ok (hturn : stay.turn fuel state = some (.ok next)) :
    ∃ entered, stay.enterZone state = .ok entered ∧
      ∃ moved fee, stay.zoneFee fuel entered = some (.ok (moved, fee)) ∧
        stay.settle moved fee = .ok next := by
  unfold turn at hturn
  split at hturn
  · cases hturn
  · rename_i entered henter
    split at hturn
    · cases hturn
    · cases hturn
    · rename_i moved fee hfee
      exact ⟨entered, henter, moved, fee, hfee, Option.some.inj hturn⟩

theorem turn_eq_error {exit : Exit} (hturn : stay.turn fuel state = some (.error exit)) :
    stay.enterZone state = .error exit ∨
      ∃ entered, stay.enterZone state = .ok entered ∧
        (stay.zoneFee fuel entered = some (.error exit) ∨
          ∃ moved fee, stay.zoneFee fuel entered = some (.ok (moved, fee)) ∧
            stay.settle moved fee = .error exit) := by
  unfold turn at hturn
  split at hturn
  · rename_i left henter
    obtain rfl := Except.error.inj (Option.some.inj hturn)
    exact Or.inl henter
  · rename_i entered henter
    refine Or.inr ⟨entered, henter, ?_⟩
    split at hturn
    · cases hturn
    · rename_i left hfee
      obtain rfl := Except.error.inj (Option.some.inj hturn)
      exact Or.inl hfee
    · rename_i moved fee hfee
      exact Or.inr ⟨moved, fee, hfee, Option.some.inj hturn⟩

/-- The end of a turn whose zone is known. -/
theorem turn_eq_of_enterZone {entered : FeeState} {out : Except Exit FeeState}
    (henter : stay.enterZone state = .ok entered) (hturn : stay.turn fuel state = some out) :
    (∃ exit, stay.zoneFee fuel entered = some (.error exit) ∧ out = .error exit) ∨
      ∃ moved fee, stay.zoneFee fuel entered = some (.ok (moved, fee)) ∧
        out = stay.settle moved fee := by
  unfold turn at hturn
  rw [henter] at hturn
  cases hfee : stay.zoneFee fuel entered with
  | none =>
      simp only [hfee] at hturn
      cases hturn
  | some result =>
      simp only [hfee] at hturn
      cases result with
      | error exit => exact Or.inl ⟨exit, rfl, (Option.some.inj hturn).symm⟩
      | ok result => exact Or.inr ⟨result.1, result.2, rfl, (Option.some.inj hturn).symm⟩

/-- A turn that ends the whole calculation does so with an error, or returns `0` within the
grace time of the zone that has been selected. -/
theorem turn_eq_ended {ending : Ending}
    (hturn : stay.turn fuel state = some (.error (.ended ending))) :
    ending.IsError ∨
      (ending = .returned 0 ∧ state.pd ≤ stay.tables.timeZone.day stay.currentTime ∧
        ∃ loaded, stay.getDay state = .ok loaded ∧
          ∃ selected, stay.selectZone loaded = .ok selected ∧
            selected.bNoGT = false ∧ 0 < selected.zone.gt ∧
            stay.minutesLeft selected.pt ≤ selected.zone.gt) := by
  obtain henter | ⟨entered, -, hfee | ⟨moved, fee, -, hsettle⟩⟩ := turn_eq_error hturn
  · obtain ⟨-, hexit⟩ | ⟨hpd, ⟨ending', hexit, herror⟩ | ⟨loaded, hget, selected, hselect, hgrace,
      hgt, hleft, hexit⟩⟩ := enterZone_eq_error henter <;> cases hexit
    · exact Or.inl herror
    · exact Or.inr ⟨rfl, hpd, loaded, hget, selected, hselect, hgrace, hgt, hleft⟩
  · obtain ⟨-, ⟨ending', hexit, herror, -⟩ | ⟨-, hexit⟩ | ⟨-, -, hexit⟩⟩ := zoneFee_eq_error hfee <;>
      cases hexit
    exact Or.inl herror
  · cases (settle_eq_error hsettle).1

/-- Grace time is only in front of the first charge. -/
theorem bNoGT_of_turn (hturn : stay.turn fuel state = some (.ok next)) : next.bNoGT = true := by
  obtain ⟨entered, henter, moved, fee, hfee, hsettle⟩ := turn_eq_ok hturn
  obtain ⟨-, loaded, -, selected, -, rfl⟩ := enterZone_eq_ok henter
  obtain ⟨pt, bFirstFreed, bMCPerDayChecked, rfl⟩ := zoneFee_moved hfee
  obtain ⟨rfl, -⟩ := settle_eq_ok hsettle
  unfold settleDay
  split <;> rfl

/-- Loading a day and selecting a zone leave the grace flag alone, unless a block is charged. -/
theorem bNoGT_of_selectZone {loaded selected : FeeState} (hget : stay.getDay state = .ok loaded)
    (hselect : stay.selectZone loaded = .ok selected) (hgrace : selected.bNoGT = false) :
    state.bNoGT = false ∧ ¬ 0 < stay.blocksLeft loaded := by
  obtain ⟨-, rfl⟩ | ⟨hnone, zone, -, -, -, rfl⟩ := selectZone_eq_ok hselect
  · cases hgrace
  · refine ⟨?_, hnone⟩
    obtain ⟨-, rfl⟩ | ⟨-, day, -, rfl⟩ := getDay_eq_ok hget
    · exact hgrace
    · exact hgrace

/-! ## More fuel -/

theorem hourly_mono {fuel' : ℕ} (hfuel : fuel ≤ fuel') {out : Except Exit (FeeState × ℚ)}
    (hout : stay.hourly fuel state = some out) : stay.hourly fuel' state = some out := by
  simp only [hourly] at hout ⊢
  split_ifs at hout ⊢ with hctb hallowance hended
  · exact hout
  · exact hout
  · exact hout
  · obtain ⟨result, hloop, heq⟩ := Option.map_eq_some_iff.mp hout
    exact Option.map_eq_some_iff.mpr ⟨result, loop_mono (fun _ _ hbody => hbody) hfuel hloop, heq⟩

theorem turn_mono {fuel' : ℕ} (hfuel : fuel ≤ fuel') {out : Except Exit FeeState}
    (hout : stay.turn fuel state = some out) : stay.turn fuel' state = some out := by
  unfold turn at hout ⊢
  split at hout
  · exact hout
  · rename_i entered henter
    have hfee : ∀ result, stay.zoneFee fuel entered = some result →
        stay.zoneFee fuel' entered = some result := by
      intro result hresult
      unfold zoneFee at hresult ⊢
      split_ifs at hresult ⊢ with hhourly hentry
      · exact hourly_mono hfuel hresult
      · exact hresult
      · exact hresult
    cases hresult : stay.zoneFee fuel entered with
    | none =>
        rw [hresult] at hout
        cases hout
    | some result =>
        rw [hfee result hresult]
        rw [hresult] at hout
        exact hout

end Stay

/-! ## The pay time -/

/-- The pay time is not rounded over the minute it is in. -/
theorem minute_le_of_lt_roundUp {entryTime payDT pt : ℤ}
    (hlt : 0 < diffmin pt (roundUp entryTime payDT)) : minute pt ≤ minute payDT := by
  unfold diffmin minute roundUp at hlt
  unfold minute
  split at hlt <;> omega

theorem TimeZone.day_le_roundUp (zone : TimeZone) (entryTime payDT : ℤ) :
    zone.day payDT ≤ zone.day (roundUp entryTime payDT) ∧
      zone.day (roundUp entryTime payDT) ≤ zone.day payDT + 1 := by
  unfold TimeZone.day roundUp
  split <;> omega

end LinuxPBS.Tariff

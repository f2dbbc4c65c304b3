import LinuxPBS.Tariff.BlockCharges
import LinuxPBS.Tariff.Termination

/-!
# The array accesses of the fee calculation

The local arrays of `CalFeeRAM2GR` have nine or ten cells, and the cells 0 to `maxZone + 1` are
used.  The accesses of a pass of the outer loop are an observation of the states that are there
anyway:

```text
dayAccesses       the cells filled when the pass loads its day
searchAccesses    the boundaries the zone search looks at
selectedAccesses  the cells of the zone it has found
zoneAccesses      the cells the charge of this zone may look at
```

`currentZone` is assigned by the zone search, if it finds a zone.  An access by a
`currentZone` that the pass has not assigned has no index.

Two things go wrong.  A day may have nine zones, and nine of the arrays have no cell for the ninth.
And the pass before may have carried `pt` over the whole of the new day, so that the
search finds nothing and the zone of an earlier pass is used again.
-/

namespace LinuxPBS.Tariff

open CxxText Loop

/-! ## The accesses -/

/-- The local arrays the calculation uses. -/
inductive LocalArray
  | rateType
  | gt
  | zoneTime
  | chargeRate
  | ctb
  | zoneMin
  | zoneMax
  | firstAdd
  | secondAdd
  | thirdAdd
  | firstFree
  | secondFree
  | thirdFree
  | iAllowance
  deriving DecidableEq

/-- The declared size. -/
def LocalArray.size : LocalArray → ℕ
  | .rateType | .gt | .zoneTime => 10
  | _ => 9

/-- An access of a local array; `none` for an index that has not been assigned. -/
structure Access where
  array : LocalArray
  index : Option ℕ
  deriving DecidableEq

/-- The index has been assigned and lies in the array. -/
def Access.Safe (access : Access) : Prop := ∃ index ∈ access.index, index < access.array.size

instance (access : Access) : Decidable access.Safe :=
  decidable_of_iff (access.index.any (· < access.array.size)) (by
    cases hindex : access.index <;> simp [Access.Safe, hindex])

/-- The conversions of a period in their order, and whether they succeed. -/
def TariffPeriod.conversions (period : TariffPeriod) : List (LocalArray × Bool) :=
  [(.rateType, (stoi period.rateType).isSome),
    (.chargeRate, (stod period.chargeRate).isSome),
    (.ctb, (stoi period.chargeTimeBlock).isSome),
    (.zoneMin, (stod period.minCharge).isSome),
    (.zoneMax, (stod period.maxCharge).isSome),
    (.gt, (stoi period.graceTime).isSome),
    (.firstAdd, (stod period.firstAdd).isSome),
    (.firstFree, (stoi period.firstFree).isSome),
    (.secondAdd, (stod period.secondAdd).isSome),
    (.secondFree, (stoi period.secondFree).isSome),
    (.thirdAdd, (stod period.thirdAdd).isSome),
    (.thirdFree, (stoi period.thirdFree).isSome),
    (.iAllowance, (stoi period.allowance).isSome)]

/-- The cells assigned for a period at the index `k`, up to the first conversion that throws. -/
def TariffPeriod.accesses (period : TariffPeriod) (k : ℕ) : List Access :=
  ((period.conversions.takeWhile (·.2)).map fun conversion => ⟨conversion.1, some k⟩) ++
    if period.numbers.isSome then [⟨.zoneTime, some k⟩] else []

/-- The numbers of the first `count` periods can be read. -/
def TariffStruct.ReadUpTo (tariff : TariffStruct) (count : ℕ) : Prop :=
  ∀ k < count, (tariff.period k).numbers.isSome

instance (tariff : TariffStruct) (count : ℕ) : Decidable (tariff.ReadUpTo count) :=
  inferInstanceAs (Decidable (∀ _ < _, _))

/-- The cells the loop over the zones of the day assigns. -/
def TariffStruct.fillAccesses (tariff : TariffStruct) : ℕ → List Access
  | 0 => []
  | count + 1 =>
      fillAccesses tariff count ++
        if tariff.ReadUpTo count then (tariff.period count).accesses (count + 1) else []

/-- The cells behind the last zone of the day. -/
def boundaryAccesses (maxZone : ℕ) : List Access :=
  [⟨.zoneTime, some (maxZone + 1)⟩, ⟨.gt, some (maxZone + 1)⟩, ⟨.rateType, some (maxZone + 1)⟩]

/-- The cells assigned under `bGotDayInfo == false`. -/
def Tables.dayAccesses (tables : Tables) (iTransType date : ℤ) (day : Day) : List Access :=
  match (tables.tariffOf iTransType (date - 1)).check with
  | .error _ => []
  | .ok lastZone =>
      let last := (tables.tariffOf iTransType (date - 1)).period (lastZone - 1)
      let tariff := tables.tariffOf iTransType date
      last.accesses 0 ++
        if last.numbers.isSome then
          match tariff.check with
          | .error _ => []
          | .ok maxZone =>
              tariff.fillAccesses maxZone ++
                match tables.getDayInfo iTransType date day with
                | .error _ => []
                | .ok _ => boundaryAccesses maxZone
        else []

/-- The zone the search of this pass assigns. -/
def foundZone (state : FeeState) : Option ℕ :=
  (List.range (state.day.maxZone + 1)).find? fun k =>
    decide (diffmin state.pt (state.day.zones (k + 1)).zoneTime > 0)

/-- The boundaries the zone search looks at. -/
def searchAccesses (state : FeeState) : List Access :=
  (List.range ((foundZone state).getD state.day.maxZone + 1)).map fun k => ⟨.zoneTime, some (k + 1)⟩

/-- The cells read with `currentZone` behind the search. -/
def selectedAccesses (state : FeeState) : List Access :=
  [.rateType, .chargeRate, .ctb, .zoneMin, .zoneMax, .gt, .firstAdd, .firstFree, .secondAdd,
    .secondFree, .thirdAdd, .thirdFree, .iAllowance].map fun array => ⟨array, foundZone state⟩

/-- The cells the charge of the zone may look at. -/
def zoneAccesses (state : FeeState) : List Access :=
  [⟨.zoneTime, foundZone state⟩, ⟨.zoneTime, (foundZone state).map (· + 1)⟩,
    ⟨.rateType, (foundZone state).map (· + 1)⟩]

/-- The accesses of the pass that begins in `state`. -/
def Stay.passAccesses (stay : Stay) (state : FeeState) : List Access :=
  if stay.tables.timeZone.day stay.currentTime < state.pd then []
  else
    (if state.bGotDayInfo then []
      else stay.tables.dayAccesses stay.iTransType state.pd state.day) ++
      match stay.getDay state with
      | .error _ => []
      | .ok loaded =>
          if stay.blocksLeft loaded > 0 then []
          else searchAccesses loaded ++ selectedAccesses loaded ++ zoneAccesses loaded

/-! ## The cells of one index -/

variable {tables : Tables} {iTransType date : ℤ} {day : Day}

theorem safe_some {array : LocalArray} {index : ℕ} :
    Access.Safe ⟨array, some index⟩ ↔ index < array.size := by
  simp [Access.Safe]

theorem not_safe_none {array : LocalArray} : ¬Access.Safe ⟨array, none⟩ := by
  simp [Access.Safe]

theorem LocalArray.nine_le_size (array : LocalArray) : 9 ≤ array.size := by
  cases array <;> decide

/-- Every array has a cell at the index. -/
theorem TariffPeriod.safe_accesses (period : TariffPeriod) {k : ℕ} (hk : k < 9) :
    ∀ access ∈ period.accesses k, access.Safe := by
  intro access haccess
  unfold TariffPeriod.accesses at haccess
  rcases List.mem_append.mp haccess with hconverted | hplaced
  · obtain ⟨conversion, -, rfl⟩ := List.mem_map.mp hconverted
    exact safe_some.mpr (hk.trans_le conversion.1.nine_le_size)
  · split at hplaced
    · obtain rfl := List.mem_singleton.mp hplaced
      exact safe_some.mpr (hk.trans_le (LocalArray.nine_le_size _))
    · cases hplaced

/-- A rate type and a rate are read: the arrays the rates go to have nine cells. -/
def TariffPeriod.HasRate (period : TariffPeriod) : Prop :=
  (stoi period.rateType).isSome ∧ (stod period.chargeRate).isSome

instance (period : TariffPeriod) : Decidable period.HasRate :=
  inferInstanceAs (Decidable (_ ∧ _))

theorem TariffPeriod.hasRate_of_numbers {period : TariffPeriod}
    (hnumbers : period.numbers.isSome) : period.HasRate := by
  unfold TariffPeriod.numbers at hnumbers
  constructor
  · cases hrateType : stoi period.rateType with
    | none => rw [hrateType] at hnumbers; cases hnumbers
    | some rateType => rfl
  · cases hrateType : stoi period.rateType with
    | none => rw [hrateType] at hnumbers; cases hnumbers
    | some rateType =>
        cases hchargeRate : stod period.chargeRate with
        | none => rw [hrateType, hchargeRate] at hnumbers; cases hnumbers
        | some chargeRate => rfl

/-- At the index 9 the cells are safe when the rate is not read. -/
theorem TariffPeriod.safe_accesses_nine_iff (period : TariffPeriod) :
    (∀ access ∈ period.accesses 9, access.Safe) ↔ ¬period.HasRate := by
  constructor
  · rintro hsafe ⟨hrateType, hchargeRate⟩
    have hmem : (⟨.chargeRate, some 9⟩ : Access) ∈ period.accesses 9 := by
      refine List.mem_append_left _ (List.mem_map.mpr ⟨(.chargeRate, true), ?_, rfl⟩)
      simp [TariffPeriod.conversions, hrateType, hchargeRate, List.takeWhile]
    exact absurd (safe_some.mp (hsafe _ hmem)) (by decide)
  · intro hrate access haccess
    have hunread : period.numbers.isSome = false :=
      Bool.eq_false_iff.mpr fun hread => hrate (period.hasRate_of_numbers hread)
    simp only [TariffPeriod.accesses, hunread, Bool.false_eq_true, if_false, List.append_nil,
      TariffPeriod.conversions] at haccess
    cases hrateType : (stoi period.rateType).isSome with
    | false => simp [List.takeWhile, hrateType] at haccess
    | true =>
        have hchargeRate : (stod period.chargeRate).isSome = false :=
          Bool.eq_false_iff.mpr fun hread => hrate ⟨hrateType, hread⟩
        simp only [List.takeWhile, hrateType, hchargeRate, List.map_cons, List.map_nil,
          List.mem_singleton] at haccess
        exact haccess ▸ safe_some.mpr (by decide)

/-! ## The day -/

/-- The loop over the zones of the day comes to the rate of the ninth one. -/
def Tables.ReadsNinth (tables : Tables) (iTransType date : ℤ) : Prop :=
  ∃ lastZone, (tables.tariffOf iTransType (date - 1)).check = .ok lastZone ∧
    ((tables.tariffOf iTransType (date - 1)).period (lastZone - 1)).numbers.isSome ∧
    (tables.tariffOf iTransType date).check = .ok 9 ∧
    (tables.tariffOf iTransType date).ReadUpTo 8 ∧
    ((tables.tariffOf iTransType date).period 8).HasRate

theorem TariffStruct.safe_fillAccesses (tariff : TariffStruct) {count : ℕ} (hcount : count ≤ 8) :
    ∀ access ∈ tariff.fillAccesses count, access.Safe := by
  induction count with
  | zero => exact fun access haccess => by cases haccess
  | succ count ih =>
      intro access haccess
      rcases List.mem_append.mp haccess with hbefore | hlast
      · exact ih (by omega) access hbefore
      · split at hlast
        · exact TariffPeriod.safe_accesses _ (by omega) access hlast
        · cases hlast

theorem TariffStruct.safe_fillAccesses_nine_iff (tariff : TariffStruct) :
    (∀ access ∈ tariff.fillAccesses 9, access.Safe) ↔
      ¬(tariff.ReadUpTo 8 ∧ (tariff.period 8).HasRate) := by
  have hbefore := tariff.safe_fillAccesses le_rfl
  rw [TariffStruct.fillAccesses]
  constructor
  · rintro hsafe ⟨hread, hrate⟩
    refine (TariffPeriod.safe_accesses_nine_iff _).mp (fun access haccess => ?_) hrate
    exact hsafe access (List.mem_append_right _ (by rwa [if_pos hread]))
  · intro hnot access haccess
    rcases List.mem_append.mp haccess with hearlier | hlast
    · exact hbefore access hearlier
    · split at hlast
      · rename_i hread
        exact (TariffPeriod.safe_accesses_nine_iff _).mpr (fun hrate => hnot ⟨hread, hrate⟩)
          access hlast
      · cases hlast

/-- The rows a day was filled from have passed their checks. -/
theorem Tables.checks_of_getDayInfo {before : Day}
    (hday : tables.getDayInfo iTransType date before = .ok day) :
    ∃ lastZone, (tables.tariffOf iTransType (date - 1)).check = .ok lastZone ∧
      ((tables.tariffOf iTransType (date - 1)).period (lastZone - 1)).numbers.isSome ∧
      (tables.tariffOf iTransType date).check = .ok day.maxZone := by
  simp only [Tables.getDayInfo, bind_eq_ok, orThrow_eq_ok, Prod.exists] at hday
  obtain ⟨lastZone, hlastZone, zone, zt₁, hzone, maxZone, hcheck, zones, zt₂, hfill, dayMin, hmin,
    dayMax, hmax, iZoneCutoff, hcutoff, iDayCutoff, -, hday⟩ := hday
  obtain ⟨numbers, hnumbers, -⟩ := TariffPeriod.putOn_zone hzone
  refine ⟨lastZone, hlastZone, by rw [hnumbers]; rfl, ?_⟩
  have hmaxZone : day.maxZone = maxZone := by
    split at hday
    · cases hday
    · simp only [bind_eq_ok, orThrow_eq_ok] at hday
      obtain ⟨iNextGT, -, iNextRT, -, hday⟩ := hday
      split at hday <;> exact (congrArg Day.maxZone (Except.ok.inj hday)).symm
  rw [hmaxZone, hcheck]

/-- Where a day has been filled, every zone of its row has been read. -/
theorem Tables.readUpTo_of_getDayInfo {before : Day}
    (hday : tables.getDayInfo iTransType date before = .ok day) :
    (tables.tariffOf iTransType date).ReadUpTo day.maxZone := by
  intro k hk
  obtain ⟨numbers, hnumbers, -⟩ := (Tables.getDayInfo_spec hday).own k hk
  rw [hnumbers]
  rfl

/-- A day with nine zones cannot be filled without the ninth. -/
theorem Tables.maxZone_le_of_getDayInfo {before : Day}
    (hday : tables.getDayInfo iTransType date before = .ok day)
    (hninth : ¬tables.ReadsNinth iTransType date) : day.maxZone ≤ 8 := by
  obtain ⟨lastZone, hlast, hnumbers, hcheck⟩ := Tables.checks_of_getDayInfo hday
  have hread := Tables.readUpTo_of_getDayInfo hday
  have hle := (TariffStruct.bounds_of_check hcheck).2
  by_contra hgt
  have hnine : day.maxZone = 9 := by omega
  rw [hnine] at hcheck hread
  exact hninth ⟨lastZone, hlast, hnumbers, hcheck, fun k hk => hread k (by omega),
    TariffPeriod.hasRate_of_numbers (hread 8 (by omega))⟩

theorem safe_boundaryAccesses {maxZone : ℕ} (hmaxZone : maxZone ≤ 8) :
    ∀ access ∈ boundaryAccesses maxZone, access.Safe := by
  intro access haccess
  simp only [boundaryAccesses, List.mem_cons, List.not_mem_nil, or_false] at haccess
  rcases haccess with rfl | rfl | rfl <;> exact safe_some.mpr (by simp [LocalArray.size]; omega)

/-- Filling the day is safe when it does not come to a ninth zone. -/
theorem Tables.safe_dayAccesses_iff (tables : Tables) (iTransType date : ℤ) (before : Day) :
    (∀ access ∈ tables.dayAccesses iTransType date before, access.Safe) ↔
      ¬tables.ReadsNinth iTransType date := by
  constructor
  · rintro hsafe ⟨lastZone, hlast, hnumbers, hcheck, hread, hrate⟩
    refine (TariffStruct.safe_fillAccesses_nine_iff _).mp (fun access haccess => ?_) ⟨hread, hrate⟩
    refine hsafe access ?_
    simp only [Tables.dayAccesses, hlast, hnumbers, if_true, hcheck]
    exact List.mem_append_right _ (List.mem_append_left _ haccess)
  · intro hninth access haccess
    unfold Tables.dayAccesses at haccess
    split at haccess
    · cases haccess
    · rename_i lastZone hlast
      rcases List.mem_append.mp haccess with hyesterday | htoday
      · exact TariffPeriod.safe_accesses _ (by decide) access hyesterday
      · split at htoday
        · rename_i hnumbers
          split at htoday
          · cases htoday
          · rename_i maxZone hcheck
            rcases List.mem_append.mp htoday with hfill | hbehind
            · have hle := (TariffStruct.bounds_of_check hcheck).2
              rcases Nat.lt_succ_iff_lt_or_eq.mp (Nat.lt_succ_iff.mpr hle) with hlt | rfl
              · exact TariffStruct.safe_fillAccesses _ (by omega) access hfill
              · exact (TariffStruct.safe_fillAccesses_nine_iff _).mpr
                  (fun hread => hninth ⟨lastZone, hlast, hnumbers, hcheck, hread⟩) access hfill
            · split at hbehind
              · cases hbehind
              · rename_i day hday
                obtain ⟨-, -, -, hsame⟩ := Tables.checks_of_getDayInfo hday
                obtain rfl : maxZone = day.maxZone := Except.ok.inj (hcheck.symm.trans hsame)
                exact safe_boundaryAccesses (Tables.maxZone_le_of_getDayInfo hday hninth) access
                  hbehind
        · cases htoday

/-! ## The pass -/

namespace Stay

variable {stay : Stay} {state : FeeState}

/-- The pass does not leave at its head and loads its day. -/
def LoadsDay (stay : Stay) (state : FeeState) : Prop :=
  state.pd ≤ stay.tables.timeZone.day stay.currentTime ∧ state.bGotDayInfo = false

/-- A pass that loads its day does not come to a ninth zone of it, and the zone search of
this pass, if there is one, begins in front of the first zone of the day after. -/
def KeepsToDay (stay : Stay) (state : FeeState) : Prop :=
  stay.LoadsDay state →
    ¬stay.tables.ReadsNinth stay.iTransType state.pd ∧
      ∀ loaded, stay.getDay state = .ok loaded → stay.blocksLeft loaded ≤ 0 →
        minute loaded.pt < minute (loaded.day.zones (loaded.day.maxZone + 1)).zoneTime

/-- The arrays hold the day `PD`, and `pt` lies in it. -/
structure InDay (stay : Stay) (state : FeeState) : Prop where
  maxZone_le : state.day.maxZone ≤ 8
  boundary : stay.tables.timeZone.midnight (state.pd + 1) ≤
    (state.day.zones (state.day.maxZone + 1)).zoneTime
  inside : stay.tables.timeZone.day state.pt ≤ state.pd

theorem foundZone_lt {zone : ℕ} (hfound : foundZone state = some zone) :
    zone ≤ state.day.maxZone ∧
      minute state.pt < minute (state.day.zones (zone + 1)).zoneTime := by
  have hmem := List.mem_range.mp (List.mem_of_find?_eq_some hfound)
  have hahead := List.find?_some hfound
  simp only [decide_eq_true_eq] at hahead
  unfold diffmin at hahead
  exact ⟨by omega, by omega⟩

theorem foundZone_isSome
    (hahead : minute state.pt < minute (state.day.zones (state.day.maxZone + 1)).zoneTime) :
    ∃ zone, foundZone state = some zone := by
  refine Option.isSome_iff_exists.mp (List.find?_isSome.mpr ⟨state.day.maxZone, ?_, ?_⟩)
  · exact List.mem_range.mpr (Nat.lt_succ_self _)
  · simp only [decide_eq_true_eq]
    unfold diffmin
    omega

/-- When the search finds a zone, its accesses and those of the zone are safe. -/
theorem safe_zone (hmaxZone : state.day.maxZone ≤ 8) {zone : ℕ} (hfound : foundZone state = some zone) :
    ∀ access ∈ searchAccesses state ++ selectedAccesses state ++ zoneAccesses state,
      access.Safe := by
  have hle := (foundZone_lt hfound).1
  intro access haccess
  simp only [List.mem_append, searchAccesses, selectedAccesses, zoneAccesses, hfound,
    Option.getD_some, Option.map_some] at haccess
  rcases haccess with (hsearch | hselected) | hzone
  · obtain ⟨k, hk, rfl⟩ := List.mem_map.mp hsearch
    have hlt := List.mem_range.mp hk
    exact safe_some.mpr (by simp [LocalArray.size]; omega)
  · obtain ⟨array, -, rfl⟩ := List.mem_map.mp hselected
    exact safe_some.mpr (lt_of_lt_of_le (by omega) array.nine_le_size)
  · simp only [List.mem_cons, List.not_mem_nil, or_false] at hzone
    rcases hzone with rfl | rfl | rfl <;> exact safe_some.mpr (by simp [LocalArray.size]; omega)

/-- What a loaded day looks like: it was loaded in this pass, or it is the day `pt` lies in. -/
theorem loaded_of_keepsToDay (hhead : state.pd ≤ stay.tables.timeZone.day stay.currentTime)
    (hkeeps : stay.KeepsToDay state) (hinDay : state.bGotDayInfo = true → stay.InDay state)
    {loaded : FeeState} (hget : stay.getDay state = .ok loaded) :
    loaded.pd = state.pd ∧ loaded.pt = state.pt ∧ loaded.day.maxZone ≤ 8 ∧
      stay.tables.timeZone.midnight (state.pd + 1) ≤
        (loaded.day.zones (loaded.day.maxZone + 1)).zoneTime := by
  unfold getDay at hget
  split at hget
  · rename_i hgot
    obtain rfl := Except.ok.inj hget
    exact ⟨rfl, rfl, (hinDay hgot).maxZone_le, (hinDay hgot).boundary⟩
  · rename_i hgot
    obtain ⟨day, hday, heq⟩ := bind_eq_ok.mp hget
    have hinfo := orEnd_eq_ok.mp hday
    obtain ⟨hninth, -⟩ := hkeeps ⟨hhead, by simpa using hgot⟩
    obtain rfl := Except.ok.inj heq
    obtain ⟨rateType, gt, zoneTime, hle, -, hboundary⟩ := (Tables.getDayInfo_spec hinfo).boundary
    exact ⟨rfl, rfl, Tables.maxZone_le_of_getDayInfo hinfo hninth, by rw [hboundary]; exact hle⟩

/-- In a pass that keeps to its day the search finds a zone. -/
theorem foundZone_of_keepsToDay (hhead : state.pd ≤ stay.tables.timeZone.day stay.currentTime)
    (hkeeps : stay.KeepsToDay state) (hinDay : state.bGotDayInfo = true → stay.InDay state)
    {loaded : FeeState} (hget : stay.getDay state = .ok loaded)
    (hblocks : stay.blocksLeft loaded ≤ 0) : ∃ zone, foundZone loaded = some zone := by
  obtain ⟨-, hpt, -, hboundary⟩ := loaded_of_keepsToDay hhead hkeeps hinDay hget
  cases hgot : state.bGotDayInfo with
  | false => exact foundZone_isSome ((hkeeps ⟨hhead, hgot⟩).2 loaded hget hblocks)
  | true =>
      have hinside := stay.tables.timeZone.day_le_iff.mp (hinDay hgot).inside
      have hlt := stay.tables.timeZone.minute_lt_midnight_iff.mpr hinside
      refine foundZone_isSome ?_
      rw [hpt]
      exact hlt.trans_le (minute_mono hboundary)

theorem passAccesses_safe (hkeeps : stay.KeepsToDay state)
    (hinDay : state.bGotDayInfo = true → stay.InDay state) :
    ∀ access ∈ stay.passAccesses state, access.Safe := by
  intro access haccess
  unfold passAccesses at haccess
  split at haccess
  · cases haccess
  · rename_i hhead
    have hhead := not_lt.mp hhead
    rcases List.mem_append.mp haccess with hday | hzone
    · split at hday
      · cases hday
      · rename_i hgot
        have hninth := (hkeeps ⟨hhead, by simpa using hgot⟩).1
        exact (Tables.safe_dayAccesses_iff _ _ _ _).mpr hninth access hday
    · split at hzone
      · cases hzone
      · rename_i loaded hget
        split at hzone
        · cases hzone
        · rename_i hblocks
          obtain ⟨zone, hfound⟩ :=
            foundZone_of_keepsToDay hhead hkeeps hinDay hget (not_lt.mp hblocks)
          obtain ⟨-, -, hmaxZone, -⟩ := loaded_of_keepsToDay hhead hkeeps hinDay hget
          exact safe_zone hmaxZone hfound access hzone

/-- The zones of a day that has just been loaded begin in front of the boundary to the day
after. -/
theorem zoneTime_le_boundary {date : ℤ} {before day : Day}
    (hday : stay.tables.DayInfo stay.iTransType date before day) {k : ℕ} (hk : k ≤ day.maxZone + 1) :
    (day.zones k).zoneTime ≤ (day.zones (day.maxZone + 1)).zoneTime := by
  rcases Nat.lt_succ_iff_lt_or_eq.mp (Nat.lt_succ_iff.mpr hk) with hlt | rfl
  · obtain ⟨d, hd, j, -, hput⟩ := hday.cell (Nat.lt_succ_iff.mp hlt)
    obtain ⟨rateType, gt, zoneTime, hle, -, hboundary⟩ := hday.boundary
    have hmidnight := stay.tables.timeZone.midnight_mono (show d + 1 ≤ date + 1 by omega)
    have hbefore := hput.zoneTime_bounds.2
    rw [← stay.tables.timeZone.midnight_succ] at hbefore
    rw [hboundary]
    exact (hbefore.le.trans hmidnight).trans hle
  · exact le_rfl

/-- A pass whose accesses are safe keeps to its day. -/
theorem keepsToDay_of_safe (hsafe : ∀ access ∈ stay.passAccesses state, access.Safe) :
    stay.KeepsToDay state := by
  rintro ⟨hhead, hgot⟩
  unfold passAccesses at hsafe
  rw [if_neg (not_lt.mpr hhead), hgot] at hsafe
  constructor
  · refine (Tables.safe_dayAccesses_iff _ _ _ state.day).mp fun access haccess => ?_
    exact hsafe access (List.mem_append_left _ haccess)
  · intro loaded hget hblocks
    rw [hget] at hsafe
    simp only [gt_iff_lt, if_neg (not_lt.mpr hblocks)] at hsafe
    cases hfound : foundZone loaded with
    | none =>
        -- the rate type is read with a `currentZone` that has not been assigned
        have hmem : (⟨.rateType, none⟩ : Access) ∈ selectedAccesses loaded := by
          rw [selectedAccesses, hfound]
          exact List.mem_cons_self
        have hunsafe := hsafe _
          (List.mem_append_right _ (List.mem_append_left _ (List.mem_append_right _ hmem)))
        exact absurd hunsafe not_safe_none
    | some zone =>
        obtain ⟨hgot', -⟩ | ⟨-, day, hday, rfl⟩ := getDay_eq_ok hget
        · rw [hgot] at hgot'
          cases hgot'
        · obtain ⟨hle, hahead⟩ := foundZone_lt hfound
          exact hahead.trans_le (minute_mono (zoneTime_le_boundary hday (Nat.succ_le_succ hle)))

/-- What a pass that goes round again leaves: the day is still the one `pt` lies in, or the next
pass loads another one. -/
theorem inDay_of_turn {fuel : ℕ} {next : FeeState}
    (hinDay : state.bGotDayInfo = true → stay.InDay state) (hkeeps : stay.KeepsToDay state)
    (hturn : stay.turn fuel state = some (.ok next)) :
    next.bGotDayInfo = true → stay.InDay next := by
  obtain ⟨entered, henter, moved, fee, hfee, hsettle⟩ := turn_eq_ok hturn
  obtain ⟨hhead, loaded, hget, selected, hselect, rfl⟩ := enterZone_eq_ok henter
  obtain ⟨hpd, -, hmaxZone, hboundary⟩ := loaded_of_keepsToDay hhead hkeeps hinDay hget
  have hsame : selected.day = loaded.day ∧ selected.pd = loaded.pd := by
    obtain ⟨-, rfl⟩ | ⟨-, zone, -, -, -, rfl⟩ := selectZone_eq_ok hselect <;> exact ⟨rfl, rfl⟩
  obtain ⟨pt, bFirstFreed, bMCPerDayChecked, rfl⟩ := zoneFee_moved hfee
  obtain ⟨rfl, -⟩ := settle_eq_ok hsettle
  intro hgot
  unfold settleDay at hgot ⊢
  split at hgot
  · cases hgot
  · rename_i hinside
    rw [if_neg hinside]
    refine ⟨?_, ?_, not_lt.mp hinside⟩
    · simpa only [addZoneFee, hsame.1] using hmaxZone
    · simpa only [addZoneFee, hsame.1, hsame.2, hpd] using hboundary

/-- Every access of a calculation is safe exactly when every pass keeps to its day. -/
theorem passes_safe_iff (stay : Stay) (fuel : ℕ) (bNoGT : Bool) :
    (∀ state ∈ stay.feeHeads fuel bNoGT, ∀ access ∈ stay.passAccesses state, access.Safe) ↔
      ∀ state ∈ stay.feeHeads fuel bNoGT, stay.KeepsToDay state := by
  constructor
  · exact fun hsafe state hstate => keepsToDay_of_safe (hsafe state hstate)
  · intro hkeeps state hstate
    have hinDay : ∀ head ∈ stay.feeHeads fuel bNoGT, head.bGotDayInfo = true → stay.InDay head :=
      heads_invariant_of _ stay.KeepsToDay
        (fun _ _ hinDay hwell hturn => inDay_of_turn hinDay hwell hturn) hkeeps
        (fun hgot => by cases hgot)
    exact passAccesses_safe (hkeeps state hstate) (hinDay state hstate)

end Stay

end LinuxPBS.Tariff

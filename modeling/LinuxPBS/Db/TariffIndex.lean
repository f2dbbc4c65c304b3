import LinuxPBS.Db.Reload
import LinuxPBS.Tariff.Accesses
import LinuxPBS.Tariff.TariffTypes

/-!
# The indices of `gtariff`

`gtariff[300][10]` is written by `WriteTariff2RAM` at an index computed from a day type
of the table `tariff_setup`, and read by the fee calculation:

```text
WriteTariff2RAM   [dtype / 8][dtype % 8], or the eighth day of the group before
CalFeeRAM2G       [transType][1]
CalFeeRAM2GR      [transType + 40 * tariff type][day type]
```

The day types of a holiday list are always columns.  The rows are whatever the database,
a season's rate type or a fee test says; nothing looks at them first.
`gtariff_inside_iff` is the arithmetic that was left out.
-/

namespace LinuxPBS.Db

open CxxText Common Tariff Loop

/-- An index of `gtariff`. -/
abbrev Cell := ℤ × ℤ

/-- The index is one of `gtariff[300][10]`. -/
def InTable (cell : Cell) : Prop := (0 ≤ cell.1 ∧ cell.1 < 300) ∧ 0 ≤ cell.2 ∧ cell.2 < 10

instance (cell : Cell) : Decidable (InTable cell) := inferInstanceAs (Decidable (_ ∧ _))

/-! ## `LoadTariff` -/

/-- The cells `LoadTariff` writes. -/
def writtenCells (rows : List ReaderItem) : List Cell := (tariffWrites rows).1.map (·.1)

/-- The day types `LoadTariff` reads: those of all rows, up to the first that is no number. -/
def readDayTypes : List String → List ℤ
  | [] => []
  | dayType :: rest =>
      if dayType = "" then readDayTypes rest
      else
        match stoi dayType with
        | none => []
        | some dtype => dtype :: readDayTypes rest

/-- The day type belongs to one of the 300 groups of eight. -/
def HasCell (dtype : ℤ) : Prop := dtype ≤ 2400 ∧ (0 ≤ dtype ∨ 8 ∣ dtype)

instance (dtype : ℤ) : Decidable (HasCell dtype) := inferInstanceAs (Decidable (_ ∧ _))

theorem tariffPosition_inside_iff (dtype : ℤ) :
    InTable (tariffPosition dtype) ↔ HasCell dtype := by
  unfold tariffPosition InTable HasCell
  split_ifs with heighth
  · have hdvd : (8 : ℤ) ∣ dtype := Int.dvd_of_tmod_eq_zero heighth
    obtain ⟨group, rfl⟩ := hdvd
    rw [Int.mul_tdiv_cancel_left _ (by decide)]
    dsimp only
    omega
  · have hdvd : ¬(8 : ℤ) ∣ dtype := fun hdvd => heighth (Int.tmod_eq_zero_of_dvd hdvd)
    dsimp only
    rcases le_or_gt 0 dtype with hnonneg | hneg
    · rw [Int.tdiv_eq_ediv_of_nonneg hnonneg, Int.tmod_eq_emod_of_nonneg hnonneg]
      omega
    · -- the remainder of a negative day type is no column
      have hrem : dtype.tmod 8 = -((-dtype) % 8) := by
        rw [← Int.tmod_eq_emod_of_nonneg (by omega), Int.neg_tmod, neg_neg]
      omega

/-- The numbers of one row are written one after the other, and the next row is read when all of
them could be. -/
theorem writeTariff_append (cell : TariffCell) (dayTypes rest : List String) :
    (writeTariff cell dayTypes).1.map (·.1) ++
        (if (writeTariff cell dayTypes).2 then (readDayTypes rest).map tariffPosition else []) =
      (readDayTypes (dayTypes ++ rest)).map tariffPosition := by
  induction dayTypes with
  | nil => rfl
  | cons dayType others ih =>
      rw [List.cons_append, writeTariff, readDayTypes]
      by_cases hempty : dayType = ""
      · rw [if_pos hempty, if_pos hempty]
        exact ih
      · rw [if_neg hempty, if_neg hempty]
        cases stoi dayType with
        | none => rfl
        | some dtype =>
            dsimp only
            rw [List.map_cons, List.map_cons, ← ih]
            rfl

theorem writtenCells_eq (rows : List ReaderItem) :
    writtenCells rows = (readDayTypes (rows.flatMap dayTypes)).map tariffPosition := by
  induction rows with
  | nil => rfl
  | cons row rest ih =>
      rw [List.flatMap_cons, ← writeTariff_append (readTariff row), ← ih, writtenCells,
        tariffWrites]
      dsimp only
      split_ifs with hread
      · rw [List.map_append]
        rfl
      · rw [List.append_nil]

/-- `LoadTariff` writes to cells of the table when every day type it reads has one. -/
theorem writtenCells_inside_iff (rows : List ReaderItem) :
    (∀ cell ∈ writtenCells rows, InTable cell) ↔
      ∀ dtype ∈ readDayTypes (rows.flatMap dayTypes), HasCell dtype := by
  rw [writtenCells_eq, List.forall_mem_map]
  exact forall₂_congr fun dtype _ => tariffPosition_inside_iff dtype

/-! ## The fee calculation -/

/-- The cells read under `bGotDayInfo == false`. -/
def dayCells (tables : Tables) (iTransType date : ℤ) : List Cell :=
  let cell (day : ℤ) : Cell := (iTransType, tables.getDayType day)
  let lastTariff := tables.tariffOf iTransType (date - 1)
  let tariff := tables.tariffOf iTransType date
  cell (date - 1) ::
    match lastTariff.check with
    | .error _ => []
    | .ok lastZone =>
        if (lastTariff.period (lastZone - 1)).numbers.isSome then
          cell date ::
            match tariff.check with
            | .error _ => []
            | .ok maxZone =>
                if tariff.ReadUpTo maxZone ∧ (stod tariff.wholeDayMin).isSome ∧
                    (stod tariff.wholeDayMax).isSome ∧ (stoi tariff.zoneCutoff).isSome ∧
                    (stoi tariff.dayCutoff).isSome then [cell (date + 1)]
                else []
        else []

/-- The cells read by the pass that begins in `state`. -/
def passCells (stay : Stay) (state : FeeState) : List Cell :=
  if stay.tables.timeZone.day stay.currentTime < state.pd ∨ state.bGotDayInfo = true then []
  else dayCells stay.tables stay.iTransType state.pd

/-- The cells `CalFeeRAM2GR` reads in the first `fuel` passes. -/
def partCells (tables : Tables) (fuel : ℕ) (entryTime payDT iTransType : ℤ) (bNoGT : Bool) :
    List Cell :=
  if diffmin entryTime payDT < 0 then []
  else
    let stay := tables.stay entryTime payDT iTransType
    (heads (stay.turn fuel) fuel (stay.start bNoGT)).flatMap (passCells stay)

section CalFee

variable (tables : TypedTables) (fuel : ℕ) (entryTime payTime : String) (transType : ℤ)

/-- The cells of a part without grace time. -/
def ungracedCells (begins ends : String) (iTransType : ℤ) : List Cell :=
  partCells tables.toTables fuel (tables.setTime begins) (tables.setTime ends) iTransType true

/-- The cells of the second part; an exception in the first one leaves it out. -/
def lateCells (early : Option (Option ℚ)) : List Cell :=
  match early, tables.tariffTypeOffset 1 with
  | some (some _), some currentOffset =>
      ungracedCells tables fuel (tables.gtarifftypeinfo 1).startTime payTime
        (transType + currentOffset)
  | _, _ => []

/-- The cells read by "Cross two tariff types". -/
def crossCells : List Cell :=
  (transType, 1) ::
    match stoi ((tables.gtariff transType 1).period 0).graceTime with
    | none => []
    | some graceTime =>
        if diffmin (tables.setTime entryTime) (tables.setTime payTime) ≤ graceTime then []
        else
          match tables.tariffTypeOffset 0 with
          | none => []
          | some earlyOffset =>
              let ends := (tables.gtarifftypeinfo 0).endTime
              ungracedCells tables fuel entryTime ends (transType + earlyOffset) ++
                lateCells tables fuel payTime transType
                  (tables.partFee fuel entryTime ends (transType + earlyOffset) true)

/-- The cells read by "Use one tariff type". -/
def singleCells (index : Fin 2) (noGraceTime : Bool) : List Cell :=
  match tables.tariffTypeOffset index with
  | none => []
  | some offset =>
      partCells tables.toTables fuel (tables.setTime entryTime) (tables.setTime payTime)
        (transType + offset) noGraceTime

/-- The cells `CalFeeRAM2G` reads. -/
def readCells (noGraceTime : Bool) : List Cell :=
  match usedTariff tables.gtarifftypeinfo entryTime payTime with
  | none => []
  | some used =>
      if used = (true, true) then crossCells tables fuel entryTime payTime transType
      else singleCells tables fuel entryTime payTime transType (if used.1 then 0 else 1) noGraceTime

end CalFee

/-! ## The columns -/

theorem getweekday_le (day : ℤ) : getweekday day ≤ 7 := by
  unfold getweekday
  dsimp only
  generalize Int.toNat _ = remainder
  rcases Nat.lt_or_ge remainder 7 with hlt | hge
  · have hall : ∀ r < 7, [6, 7, 1, 2, 3, 4, 5].getD r 0 ≤ 7 := by decide
    exact hall remainder hlt
  · rw [List.getD_eq_getElem?_getD, List.getElem?_eq_none hge]
    decide

/-- Every day type is a column, for every list of holidays. -/
theorem getDayType_lt (tables : Tables) (day : ℤ) : tables.getDayType day < 10 := by
  have hweekday := getweekday_le day
  unfold Tables.getDayType Tables.getDayTypeWithHE Tables.getDayTypeNoPE
  dsimp only
  split_ifs <;> omega

/-! ## The rows -/

/-- The row index is one of `gtariff`. -/
def InRows (iTransType : ℤ) : Prop := 0 ≤ iTransType ∧ iTransType < 300

instance (iTransType : ℤ) : Decidable (InRows iTransType) := inferInstanceAs (Decidable (_ ∧ _))

/-- The part of a stay is calculated from a row of `gtariff`, or it is left at once because it ends
before it begins. -/
def PartInRows (tables : TypedTables) (entryTime payTime : String) (iTransType : ℤ) : Prop :=
  0 ≤ diffmin (tables.setTime entryTime) (tables.setTime payTime) → InRows iTransType

theorem fst_of_mem_dayCells {tables : Tables} {iTransType date : ℤ} {cell : Cell}
    (hcell : cell ∈ dayCells tables iTransType date) :
    ∃ day, cell = (iTransType, (tables.getDayType day : ℤ)) := by
  unfold dayCells at hcell
  dsimp only at hcell
  rcases List.mem_cons.mp hcell with rfl | hcell
  · exact ⟨_, rfl⟩
  split at hcell
  · cases hcell
  split_ifs at hcell
  · rcases List.mem_cons.mp hcell with rfl | hcell
    · exact ⟨_, rfl⟩
    split at hcell
    · cases hcell
    split_ifs at hcell
    · obtain rfl := List.mem_singleton.mp hcell
      exact ⟨_, rfl⟩
    · cases hcell
  · cases hcell

/-- All cells of a part are in one row of the table. -/
theorem inTable_of_mem_partCells {tables : Tables} {fuel : ℕ} {entryTime payDT iTransType : ℤ}
    {bNoGT : Bool} {cell : Cell}
    (hcell : cell ∈ partCells tables fuel entryTime payDT iTransType bNoGT)
    (hrow : InRows iTransType) : InTable cell := by
  unfold partCells at hcell
  split_ifs at hcell
  · cases hcell
  obtain ⟨state, -, hpass⟩ := List.mem_flatMap.mp hcell
  unfold passCells at hpass
  split_ifs at hpass
  · cases hpass
  obtain ⟨day, rfl⟩ := fst_of_mem_dayCells hpass
  exact ⟨hrow, Int.natCast_nonneg _, Int.ofNat_lt.mpr (getDayType_lt _ day)⟩

/-- The first pass of a part reads the day before the entry. -/
theorem mem_partCells {tables : Tables} {entryTime payDT iTransType : ℤ} {bNoGT : Bool}
    (hstays : 0 ≤ diffmin entryTime payDT) (fuel : ℕ) :
    (iTransType, (tables.getDayType (tables.timeZone.day entryTime - 1) : ℤ)) ∈
      partCells tables (fuel + 1) entryTime payDT iTransType bNoGT := by
  unfold partCells
  rw [if_neg (by omega)]
  refine List.mem_flatMap.mpr ⟨_, List.mem_cons_self, ?_⟩
  have hle : tables.timeZone.day entryTime ≤
      tables.timeZone.day (roundUp entryTime payDT) :=
    (tables.timeZone.day_le_of_minute_le (by unfold diffmin at hstays; omega)).trans
      (tables.timeZone.day_le_roundUp entryTime payDT).1
  unfold passCells
  rw [if_neg (by simpa [Stay.start, Tables.stay] using hle)]
  exact List.mem_cons_self

theorem PartInRows.of_partCells {tables : TypedTables} {entryTime payTime : String}
    {iTransType : ℤ} {bNoGT : Bool} {fuel : ℕ}
    (hinside : ∀ cell ∈ partCells tables.toTables (fuel + 1) (tables.setTime entryTime)
      (tables.setTime payTime) iTransType bNoGT, InTable cell) :
    PartInRows tables entryTime payTime iTransType :=
  fun hstays => (hinside _ (mem_partCells hstays fuel)).1

theorem partCells_inside_iff (tables : TypedTables) (entryTime payTime : String) (iTransType : ℤ)
    (bNoGT : Bool) :
    (∀ fuel, ∀ cell ∈ partCells tables.toTables fuel (tables.setTime entryTime)
        (tables.setTime payTime) iTransType bNoGT, InTable cell) ↔
      PartInRows tables entryTime payTime iTransType := by
  constructor
  · intro hinside
    exact PartInRows.of_partCells (hinside 1)
  · intro hrow fuel cell hcell
    by_cases hstays : 0 ≤ diffmin (tables.setTime entryTime) (tables.setTime payTime)
    · exact inTable_of_mem_partCells hcell (hrow hstays)
    · unfold partCells at hcell
      rw [if_pos (by omega)] at hcell
      cases hcell

/-! ## The whole calculation -/

section Condition

variable (tables : TypedTables) (entryTime payTime : String) (transType : ℤ)

/-- The calculation of a part with this row comes to a value. -/
def PartEnds (begins ends : String) (iTransType : ℤ) : Prop :=
  ∃ fuel fee, tables.partFee fuel begins ends iTransType true = some (some fee)

/-- The rows of a stay across the two tariff types: the one without a type, whose grace time is
read, that of the first part behind this time, and that of the second part when the first one has
come to a value. -/
def CrossInRows : Prop :=
  InRows transType ∧
    ∀ graceTime, stoi ((tables.gtariff transType 1).period 0).graceTime = some graceTime →
      graceTime < diffmin (tables.setTime entryTime) (tables.setTime payTime) →
      ∀ earlyOffset, tables.tariffTypeOffset 0 = some earlyOffset →
        PartInRows tables entryTime (tables.gtarifftypeinfo 0).endTime (transType + earlyOffset) ∧
          (PartEnds tables entryTime (tables.gtarifftypeinfo 0).endTime (transType + earlyOffset) →
            ∀ currentOffset, tables.tariffTypeOffset 1 = some currentOffset →
              PartInRows tables (tables.gtarifftypeinfo 1).startTime payTime
                (transType + currentOffset))

/-- The row of a stay in one tariff type. -/
def SingleInRows (index : Fin 2) : Prop :=
  ∀ offset, tables.tariffTypeOffset index = some offset →
    PartInRows tables entryTime payTime (transType + offset)

/-- The transaction type with the tariff types that apply to the stay names rows of `gtariff`. -/
def StayInRows : Prop :=
  ∀ used, usedTariff tables.gtarifftypeinfo entryTime payTime = some used →
    if used = (true, true) then CrossInRows tables entryTime payTime transType
    else SingleInRows tables entryTime payTime transType (if used.1 then 0 else 1)

end Condition

section ReadCells

variable {tables : TypedTables} {entryTime payTime : String} {transType : ℤ}

theorem singleCells_inside_iff (index : Fin 2) (noGraceTime : Bool) :
    (∀ fuel, ∀ cell ∈ singleCells tables fuel entryTime payTime transType index noGraceTime,
        InTable cell) ↔ SingleInRows tables entryTime payTime transType index := by
  unfold SingleInRows singleCells
  cases tables.tariffTypeOffset index with
  | none => simp
  | some offset =>
      simp only [Option.some.injEq, forall_eq']
      exact partCells_inside_iff tables entryTime payTime (transType + offset) noGraceTime

/-- A value needs a pass, unless the part is left at once. -/
theorem PartEnds.succ {begins ends : String} {iTransType : ℤ}
    (hends : PartEnds tables begins ends iTransType) :
    ∃ fuel fee, tables.partFee (fuel + 1) begins ends iTransType true = some (some fee) := by
  obtain ⟨fuel, fee, hfee⟩ := hends
  cases fuel with
  | succ fuel => exact ⟨fuel, fee, hfee⟩
  | zero =>
      unfold TypedTables.partFee calFeeRAM2GR at hfee ⊢
      split_ifs at hfee ⊢ with hnegative
      · exact ⟨0, fee, hfee⟩
      · cases hfee

theorem lateCells_inside_iff (begins ends : String) (iTransType : ℤ) :
    (∀ fuel, ∀ cell ∈ lateCells tables fuel payTime transType
        (tables.partFee fuel begins ends iTransType true), InTable cell) ↔
      (PartEnds tables begins ends iTransType →
        ∀ currentOffset, tables.tariffTypeOffset 1 = some currentOffset →
          PartInRows tables (tables.gtarifftypeinfo 1).startTime payTime
            (transType + currentOffset)) := by
  constructor
  · intro hinside hends currentOffset hoffset
    obtain ⟨fuel, fee, hfee⟩ := hends.succ
    have hlate := hinside (fuel + 1)
    simp only [lateCells, hfee, hoffset] at hlate
    exact PartInRows.of_partCells hlate
  · intro hrows fuel cell hcell
    unfold lateCells at hcell
    split at hcell
    · next fee currentOffset hfee hoffset =>
      have hrow := hrows ⟨fuel, fee, hfee⟩ currentOffset hoffset
      exact (partCells_inside_iff tables _ _ _ true).mpr hrow fuel cell hcell
    · cases hcell

theorem crossCells_inside_iff :
    (∀ fuel, ∀ cell ∈ crossCells tables fuel entryTime payTime transType, InTable cell) ↔
      CrossInRows tables entryTime payTime transType := by
  have hfirst : InTable (transType, 1) ↔ InRows transType := by simp [InTable, InRows]
  unfold crossCells CrossInRows
  simp only [List.forall_mem_cons, hfirst]
  rw [forall_and, forall_const]
  refine and_congr_right fun _ => ?_
  cases stoi ((tables.gtariff transType 1).period 0).graceTime with
  | none => simp
  | some graceTime =>
      simp only [Option.some.injEq, forall_eq']
      split_ifs with hgrace
      · refine ⟨fun _ hlonger => absurd hgrace (not_le.mpr hlonger), fun _ _ cell hcell => ?_⟩
        cases hcell
      · simp only [not_le.mp hgrace, forall_const]
        cases tables.tariffTypeOffset 0 with
        | none => simp
        | some earlyOffset =>
            simp only [Option.some.injEq, forall_eq', List.forall_mem_append]
            rw [forall_and]
            exact and_congr (partCells_inside_iff tables _ _ _ true) (lateCells_inside_iff _ _ _)

theorem readCells_inside_iff (noGraceTime : Bool) :
    (∀ fuel, ∀ cell ∈ readCells tables fuel entryTime payTime transType noGraceTime,
        InTable cell) ↔ StayInRows tables entryTime payTime transType := by
  unfold StayInRows readCells
  cases usedTariff tables.gtarifftypeinfo entryTime payTime with
  | none => simp
  | some used =>
      simp only [Option.some.injEq, forall_eq']
      split_ifs with hcross
      · exact crossCells_inside_iff
      · exact singleCells_inside_iff 0 noGraceTime
      · exact singleCells_inside_iff 1 noGraceTime

end ReadCells

/-- Every access of `gtariff`, when the rows are loaded and when a fee is calculated, is inside of
it just when the day types of the rows have a cell and the stay names rows of it. -/
theorem gtariff_inside_iff (rows : List ReaderItem) (tables : TypedTables)
    (entryTime payTime : String) (transType : ℤ) (noGraceTime : Bool) :
    ((∀ cell ∈ writtenCells rows, InTable cell) ∧
        ∀ fuel, ∀ cell ∈ readCells tables fuel entryTime payTime transType noGraceTime,
          InTable cell) ↔
      (∀ dtype ∈ readDayTypes (rows.flatMap dayTypes), HasCell dtype) ∧
        StayInRows tables entryTime payTime transType :=
  and_congr (writtenCells_inside_iff rows) (readCells_inside_iff noGraceTime)

/-- One tariff type for all times. -/
def oneTypeTables : TypedTables where
  toTables := Tables.ofRow { period := fun _ => {} } {}
  gtarifftypeinfo := fun _ => { tariffType := "0", startTime := "2000", endTime := "2100" }
  setTime := fun _ => 0

/-- The row of day type 2401, and a fee test with the fee type 1000. -/
theorem not_gtariff_inside :
    (∃ cell ∈ writtenCells [List.replicate 141 "" ++ ["2401"]], ¬InTable cell) ∧
      ∃ cell ∈ readCells oneTypeTables 1 "2026-01-01 10:00:00" "2026-01-01 11:00:00" 1000 false,
        ¬InTable cell := by
  constructor
  · rw [writtenCells_eq]
    exact ⟨(300, 1), by decide +kernel, by decide⟩
  · refine ⟨(1000, 3), ?_, by decide⟩
    decide +kernel

end LinuxPBS.Db

import LinuxPBS.Common
import LinuxPBS.Db.InsertTrans
import LinuxPBS.Tariff.TariffTypes

/-!
# Reloading the configuration

The update commands of the PMS download a table into the local database and then call
the loader that has also filled the memory at the program start.  The loaders do not
treat what is already in memory alike:

```text
LoadHoliday, LoadXTariff   clear, then append
LoadTariff                 overwrite the cells the table names
LoadTariffTypeInfo         overwrite as many of the two entries as the table has rows
loadvehicletype, loadTR    append
```

and all of them leave everything as it is when there are no rows.  So what a reload
leaves depends on what was there before: cells the new table does not name keep their
tariff, `FnGetVehicleType` finds the old types first, and every receipt line is there
twice.  `reload_sameAsFresh_iff` says for which memories a reload is as good as a
start.

A selected row is the list of its texts; `GetDataItem` of a column that is not there is
the empty text.  The loaders run on the thread of the operation module, where its shared
data is always at hand.
-/

namespace LinuxPBS.Db

open CxxText Common Tariff

/-- `ReaderItem` -/
abbrev ReaderItem := List String

/-- `GetDataItem` -/
def ReaderItem.getDataItem (row : ReaderItem) (i : ℕ) : String := List.getD row i ""

/-- What the `SELECT` of a loader returns at its first attempt, and at the second one after a
download: nothing when it fails. -/
structure SelectAnswer where
  first : Option (List ReaderItem)
  second : Option (List ReaderItem) := some []
  deriving DecidableEq

/-- The rows a loader with two attempts loads. -/
def SelectAnswer.rows (answer : SelectAnswer) : Except DBError (List ReaderItem) :=
  match answer.first with
  | none => .error .iLocalFail
  | some (row :: rest) => .ok (row :: rest)
  | some [] =>
      match answer.second with
      | none => .error .iLocalFail
      | some [] => .error .iNoData
      | some (row :: rest) => .ok (row :: rest)

/-- The rows a loader with one attempt loads. -/
def SelectAnswer.rowsOnce (answer : SelectAnswer) : Except DBError (List ReaderItem) :=
  match answer.first with
  | none => .error .iLocalFail
  | some [] => .error .iNoData
  | some (row :: rest) => .ok (row :: rest)

/-! ## The memory -/

/-- A cell of `gtariff`. -/
structure TariffCell where
  tariffId : String := ""
  dayIndex : String := ""
  dayType : String := ""
  tariff : TariffStruct := { period := fun _ => {} }

/-- One of the five slots of `XTariff_Struct`. -/
structure XTariffSlot where
  time : String := ""
  autocharge : String := ""
  fee : String := ""
  deriving DecidableEq

/-- `XTariff_Struct` -/
structure XTariff where
  dayIndex : String
  slots : List XTariffSlot
  deriving DecidableEq

/-- `tVType_Struct` -/
structure VType where
  iIUCode : ℤ
  iType : ℤ
  deriving DecidableEq

/-- `tTR_struc` -/
structure TR where
  gsTR0 : String
  gsTR1 : String
  giTRF : ℤ
  giTRA : ℤ
  deriving DecidableEq

/-- What the loaders write.  A cell of `gtariff` is named by its two indices. -/
structure Memory where
  gtariff : ℤ × ℤ → TariffCell := fun _ => {}
  gtarifftypeinfo : Fin 2 → TariffTypeInfo := fun _ => {}
  msholiday : List String := []
  msxtariff : List XTariff := []
  tVType : List VType := []
  tTR : List TR := []

/-! ## `LoadTariff` -/

/-- The fifteen columns of a period. -/
def readPeriod (row : ReaderItem) (period : ℕ) : TariffPeriod :=
  let item (i : ℕ) : String := row.getDataItem (2 + 15 * period + i)
  let time (i : ℕ) : String := if item i = "NULL" then "" else item i
  { startTime := time 0
    endTime := time 1
    rateType := item 2
    chargeTimeBlock := item 3
    chargeRate := item 4
    graceTime := item 5
    minCharge := item 6
    maxCharge := item 7
    firstFree := item 8
    firstAdd := item 9
    secondFree := item 10
    secondAdd := item 11
    thirdFree := item 12
    thirdAdd := item 13
    allowance := item 14 }

/-- "Load tariff records", without the day types. -/
def readTariff (row : ReaderItem) : TariffCell where
  tariffId := row.getDataItem 0
  dayIndex := row.getDataItem 1
  tariff :=
    { period := fun k => if k < 9 then readPeriod row k else {}
      wholeDayMax := row.getDataItem 137
      wholeDayMin := row.getDataItem 138
      zoneCutoff := row.getDataItem 139
      dayCutoff := row.getDataItem 140 }

/-- The day types of a row. -/
def dayTypes (row : ReaderItem) : List String := split ',' (row.getDataItem 141)

/-- The cell `WriteTariff2RAM` writes for a day type. -/
def tariffPosition (dtype : ℤ) : ℤ × ℤ :=
  if dtype.tmod 8 = 0 then (max 0 (dtype.tdiv 8 - 1), 8) else (dtype.tdiv 8, dtype.tmod 8)

/-- One call of `WriteTariff2RAM`: the cell and what is written to it.  Indices outside of
`gtariff[300][10]`, which the source does not exclude, name no cell of it. -/
abbrev TariffWrite := (ℤ × ℤ) × TariffCell

/-- The calls of `WriteTariff2RAM` for one row, and whether the row was read to its end. -/
def writeTariff (cell : TariffCell) : List String → List TariffWrite × Bool
  | [] => ([], true)
  | dayType :: rest =>
      if dayType = "" then writeTariff cell rest
      else
        match stoi dayType with
        | none => ([], false)
        | some dtype =>
            let others := writeTariff cell rest
            ((tariffPosition dtype, { cell with dayType := toString dtype }) :: others.1, others.2)

/-- The calls of `WriteTariff2RAM` for all rows: an exception ends them. -/
def tariffWrites : List ReaderItem → List TariffWrite × Bool
  | [] => ([], true)
  | row :: rest =>
      let written := writeTariff (readTariff row) (dayTypes row)
      if written.2 then
        let others := tariffWrites rest
        (written.1 ++ others.1, others.2)
      else written

/-- `WriteTariff2RAM` -/
def writeTariff2RAM (gtariff : ℤ × ℤ → TariffCell) (write : TariffWrite) : ℤ × ℤ → TariffCell :=
  fun position => if position = write.1 then write.2 else gtariff position

/-- `LoadTariff` -/
def loadTariff (answer : SelectAnswer) (memory : Memory) : Memory × DBError :=
  match answer.rows with
  | .error code => (memory, code)
  | .ok rows =>
      let written := tariffWrites rows
      ({ memory with gtariff := written.1.foldl writeTariff2RAM memory.gtariff },
        if written.2 then .iDBSuccess else .iLocalFail)

/-! ## The other loaders -/

/-- `LoadTariffTypeInfo` -/
def loadTariffTypeInfo (answer : SelectAnswer) (memory : Memory) : Memory × DBError :=
  match answer.rows with
  | .error code => (memory, code)
  | .ok rows =>
      ({ memory with
        gtarifftypeinfo := fun i =>
          match rows[i.val]? with
          | some row =>
              { tariffType := row.getDataItem 0
                startTime := row.getDataItem 1
                endTime := row.getDataItem 2 }
          | none => memory.gtarifftypeinfo i }, .iDBSuccess)

/-- `LoadHoliday` -/
def loadHoliday (answer : SelectAnswer) (memory : Memory) : Memory × DBError :=
  match answer.rows with
  | .error code => (memory, code)
  | .ok rows =>
      ({ memory with
        msholiday := (rows.filter fun row => decide (row.length ≥ 1)).map
          fun row => row.getDataItem 0 }, .iDBSuccess)

/-- A row of `X_Tariff`. -/
def readXTariff (row : ReaderItem) : XTariff where
  dayIndex := row.getDataItem 0
  slots :=
    { autocharge := row.getDataItem 1, fee := row.getDataItem 2 } ::
      [3, 6, 9, 12].map fun baseColumn =>
        let time := row.getDataItem baseColumn
        { time := if time = "" then "23:59" else time
          autocharge := row.getDataItem (baseColumn + 1)
          fee := row.getDataItem (baseColumn + 2) }

/-- `LoadXTariff` -/
def loadXTariff (answer : SelectAnswer) (memory : Memory) : Memory × DBError :=
  match answer.rows with
  | .error code => (memory, code)
  | .ok rows => ({ memory with msxtariff := rows.map readXTariff }, .iDBSuccess)

/-- The vehicle types of the selected rows; `none` when a number cannot be read. -/
def readVehicleTypes : List ReaderItem → Option (List VType)
  | [] => some []
  | row :: rest =>
      if row.length ≠ 2 then readVehicleTypes rest
      else do
        let iIUCode ← stoi (row.getDataItem 0)
        let iType ← stoi (row.getDataItem 1)
        let others ← readVehicleTypes rest
        pure (⟨iIUCode, iType⟩ :: others)

/-- `loadvehicletype` -/
def loadvehicletype (answer : SelectAnswer) (memory : Memory) : Memory × DBError :=
  match answer.rowsOnce with
  | .error code => (memory, code)
  | .ok rows =>
      match readVehicleTypes rows with
      | none => (memory, .iLocalFail)
      | some vehicleTypes =>
          ({ memory with tVType := memory.tVType ++ vehicleTypes }, .iDBSuccess)

/-- The receipt lines of the selected rows; `none` when a number cannot be read. -/
def readTR : List ReaderItem → Option (List TR)
  | [] => some []
  | row :: rest =>
      if row.length < 4 then readTR rest
      else do
        let giTRF ← stoi (row.getDataItem 2)
        let giTRA ← stoi (row.getDataItem 3)
        let others ← readTR rest
        pure (⟨row.getDataItem 0, row.getDataItem 1, giTRF, giTRA⟩ :: others)

/-- `loadTR` -/
def loadTR (answer : SelectAnswer) (memory : Memory) : Memory × DBError :=
  match answer.rowsOnce with
  | .error code => (memory, code)
  | .ok rows =>
      match readTR rows with
      | none => (memory, .iLocalFail)
      | some trItems => ({ memory with tTR := memory.tTR ++ trItems }, .iDBSuccess)

/-- `FnGetVehicleType` -/
def fnGetVehicleType (tVType : List VType) (iuCode : String) : ℤ :=
  match stoi iuCode with
  | none => 1
  | some iuCodeValue =>
      match tVType.find? fun item => item.iIUCode == iuCodeValue with
      | some item => item.iType
      | none => 1

/-- The contents of the local tables, as the loaders come to see them. -/
structure TableAnswers where
  tariff : SelectAnswer
  tariffTypeInfo : SelectAnswer
  holiday : SelectAnswer
  xTariff : SelectAnswer
  vehicleType : SelectAnswer
  tr : SelectAnswer
  deriving DecidableEq

/-- All loaders, one after the other. -/
def reload (tables : TableAnswers) (memory : Memory) : Memory :=
  let memory := (loadvehicletype tables.vehicleType memory).1
  let memory := (loadTR tables.tr memory).1
  let memory := (loadTariffTypeInfo tables.tariffTypeInfo memory).1
  let memory := (loadHoliday tables.holiday memory).1
  let memory := (loadTariff tables.tariff memory).1
  (loadXTariff tables.xTariff memory).1

/-! ## What a reload makes of the memory -/

/-- The rows that are loaded, none when the loader gives up. -/
def SelectAnswer.loaded (answer : SelectAnswer) : List ReaderItem := answer.rows.toOption.getD []

/-- The calls of `WriteTariff2RAM` in a reload. -/
def newTariff (tables : TableAnswers) : List TariffWrite := (tariffWrites tables.tariff.loaded).1

/-- The entry of `gtarifftypeinfo` a reload writes. -/
def newTariffTypeInfo (tables : TableAnswers) (i : Fin 2) : Option TariffTypeInfo :=
  (tables.tariffTypeInfo.loaded[i.val]?).map fun row =>
    { tariffType := row.getDataItem 0
      startTime := row.getDataItem 1
      endTime := row.getDataItem 2 }

/-- The holidays a reload puts in the place of the old ones. -/
def newHolidays (tables : TableAnswers) : Option (List String) :=
  tables.holiday.rows.toOption.map fun rows =>
    (rows.filter fun row => decide (row.length ≥ 1)).map fun row => row.getDataItem 0

/-- The entries of `msxtariff` a reload puts in the place of the old ones. -/
def newXTariff (tables : TableAnswers) : Option (List XTariff) :=
  tables.xTariff.rows.toOption.map fun rows => rows.map readXTariff

/-- The vehicle types a reload appends. -/
def newVehicleTypes (tables : TableAnswers) : List VType :=
  (tables.vehicleType.rowsOnce.toOption.bind readVehicleTypes).getD []

/-- The receipt lines a reload appends. -/
def newTR (tables : TableAnswers) : List TR := (tables.tr.rowsOnce.toOption.bind readTR).getD []

section Reload

variable (tables : TableAnswers) (memory : Memory)

theorem loadTariff_memory : (loadTariff tables.tariff memory).1 =
    { memory with gtariff := (newTariff tables).foldl writeTariff2RAM memory.gtariff } := by
  unfold loadTariff newTariff SelectAnswer.loaded
  cases tables.tariff.rows <;> rfl

theorem loadTariffTypeInfo_memory : (loadTariffTypeInfo tables.tariffTypeInfo memory).1 =
    { memory with
      gtarifftypeinfo := fun i => (newTariffTypeInfo tables i).getD (memory.gtarifftypeinfo i) } := by
  unfold loadTariffTypeInfo newTariffTypeInfo SelectAnswer.loaded
  cases tables.tariffTypeInfo.rows with
  | error code => rfl
  | ok rows =>
      show { memory with gtarifftypeinfo := _ } = { memory with gtarifftypeinfo := _ }
      congr 1
      funext i
      simp only [Except.toOption, Option.getD_some]
      cases rows[i.val]? <;> rfl

theorem loadHoliday_memory : (loadHoliday tables.holiday memory).1 =
    { memory with msholiday := (newHolidays tables).getD memory.msholiday } := by
  unfold loadHoliday newHolidays
  cases tables.holiday.rows <;> rfl

theorem loadXTariff_memory : (loadXTariff tables.xTariff memory).1 =
    { memory with msxtariff := (newXTariff tables).getD memory.msxtariff } := by
  unfold loadXTariff newXTariff
  cases tables.xTariff.rows <;> rfl

theorem loadvehicletype_memory : (loadvehicletype tables.vehicleType memory).1 =
    { memory with tVType := memory.tVType ++ newVehicleTypes tables } := by
  unfold loadvehicletype newVehicleTypes
  cases tables.vehicleType.rowsOnce with
  | error code => simp [Except.toOption]
  | ok rows =>
      cases hread : readVehicleTypes rows <;> simp [Except.toOption, hread]

theorem loadTR_memory : (loadTR tables.tr memory).1 =
    { memory with tTR := memory.tTR ++ newTR tables } := by
  unfold loadTR newTR
  cases tables.tr.rowsOnce with
  | error code => simp [Except.toOption]
  | ok rows =>
      cases hread : readTR rows <;> simp [Except.toOption, hread]

/-- Every part of the memory is treated on its own. -/
theorem reload_eq : reload tables memory =
    { gtariff := (newTariff tables).foldl writeTariff2RAM memory.gtariff
      gtarifftypeinfo := fun i => (newTariffTypeInfo tables i).getD (memory.gtarifftypeinfo i)
      msholiday := (newHolidays tables).getD memory.msholiday
      msxtariff := (newXTariff tables).getD memory.msxtariff
      tVType := memory.tVType ++ newVehicleTypes tables
      tTR := memory.tTR ++ newTR tables } := by
  simp only [reload, loadvehicletype_memory, loadTR_memory, loadTariffTypeInfo_memory,
    loadHoliday_memory, loadTariff_memory, loadXTariff_memory]

end Reload

/-! ## The cells of `gtariff` -/

/-- The cells of `gtariff[300][10]` the fee calculation can read: a transaction type and a day
type from 1 to 8. -/
def Used (position : ℤ × ℤ) : Prop :=
  0 ≤ position.1 ∧ position.1 < 300 ∧ 1 ≤ position.2 ∧ position.2 ≤ 8

/-- A cell that is written. -/
def Written (writes : List TariffWrite) (position : ℤ × ℤ) : Prop :=
  position ∈ writes.map Prod.fst

theorem foldl_writeTariff2RAM_of_not_written {writes : List TariffWrite} {position : ℤ × ℤ}
    (hnot : ¬Written writes position) (gtariff : ℤ × ℤ → TariffCell) :
    writes.foldl writeTariff2RAM gtariff position = gtariff position := by
  induction writes generalizing gtariff with
  | nil => rfl
  | cons write rest ih =>
      simp only [Written, List.map_cons, List.mem_cons, not_or] at hnot
      rw [List.foldl_cons, ih hnot.2, writeTariff2RAM, if_neg hnot.1]

/-- What is written to a cell does not depend on what was there. -/
theorem foldl_writeTariff2RAM_congr {writes : List TariffWrite} {position : ℤ × ℤ}
    {first second : ℤ × ℤ → TariffCell}
    (hsame : Written writes position ∨ first position = second position) :
    writes.foldl writeTariff2RAM first position =
      writes.foldl writeTariff2RAM second position := by
  induction writes generalizing first second with
  | nil => exact hsame.resolve_left (by simp [Written])
  | cons write rest ih =>
      refine ih ?_
      by_cases hhead : position = write.1
      · right
        rw [writeTariff2RAM, writeTariff2RAM, if_pos hhead, if_pos hhead]
      · rw [writeTariff2RAM, writeTariff2RAM, if_neg hhead, if_neg hhead]
        refine hsame.imp_left fun hwritten => ?_
        rcases List.mem_cons.mp hwritten with heq | hrest
        · exact absurd heq hhead
        · exact hrest

/-! ## The vehicle types -/

/-- The type of an IU code. -/
def typeOf (tVType : List VType) (iuCode : ℤ) : Option ℤ :=
  (tVType.find? fun item => item.iIUCode == iuCode).map VType.iType

theorem fnGetVehicleType_eq (tVType : List VType) (iuCode : String) :
    fnGetVehicleType tVType iuCode = ((stoi iuCode).bind (typeOf tVType)).getD 1 := by
  unfold fnGetVehicleType typeOf
  cases stoi iuCode with
  | none => rfl
  | some iuCodeValue =>
      simp only [Option.bind_some]
      cases tVType.find? fun item => item.iIUCode == iuCodeValue <;> rfl

/-- The old types are found first. -/
theorem typeOf_append (old new : List VType) (iuCode : ℤ) :
    typeOf (old ++ new) iuCode = (typeOf old iuCode).or (typeOf new iuCode) := by
  unfold typeOf
  rw [List.find?_append]
  cases old.find? fun item => item.iIUCode == iuCode <;> simp

theorem fitsInt_of_stoi {text : String} {value : ℤ} (hread : stoi text = some value) :
    FitsInt value := by
  unfold stoi at hread
  obtain ⟨number, -, hfits⟩ := Option.bind_eq_some_iff.mp hread
  split at hfits
  next h =>
    obtain rfl := Option.some.inj hfits
    exact h
  next => cases hfits

/-- For which old types every IU has the type it has after a start. -/
theorem fnGetVehicleType_append_iff (old new : List VType) :
    (∀ iuCode, fnGetVehicleType (old ++ new) iuCode = fnGetVehicleType new iuCode) ↔
      ∀ iuCode, FitsInt iuCode → ∀ iType, typeOf old iuCode = some iType →
        (typeOf new iuCode).getD 1 = iType := by
  simp only [fnGetVehicleType_eq]
  constructor
  · intro hsame iuCode hfits iType hold
    have hread : stoi (toString iuCode) = some iuCode := by rw [stoi_toString, if_pos hfits]
    have htypes := hsame (toString iuCode)
    rw [hread, Option.bind_some, Option.bind_some, typeOf_append, hold] at htypes
    exact htypes.symm
  · intro hagree iuCode
    cases hread : stoi iuCode with
    | none => rfl
    | some value =>
        rw [Option.bind_some, Option.bind_some, typeOf_append]
        cases hold : typeOf old value with
        | none => rfl
        | some iType => exact (hagree value (fitsInt_of_stoi hread) iType hold).symm

/-! ## A reload against a start -/

/-- After a reload of the tables everything is as after a start with them. -/
def SameAsFresh (tables : TableAnswers) (memory : Memory) : Prop :=
  (∀ position, Used position →
      (reload tables memory).gtariff position = (reload tables {}).gtariff position) ∧
    (reload tables memory).gtarifftypeinfo = (reload tables {}).gtarifftypeinfo ∧
    (reload tables memory).msholiday = (reload tables {}).msholiday ∧
    (reload tables memory).msxtariff = (reload tables {}).msxtariff ∧
    (∀ iuCode, fnGetVehicleType (reload tables memory).tVType iuCode =
      fnGetVehicleType (reload tables {}).tVType iuCode) ∧
    (reload tables memory).tTR = (reload tables {}).tTR

/-- The memory has nothing that a reload of the tables would leave in its place: cells of the
tariff and entries of the tariff types that the tables do not name are empty, so are the
holidays and the X tariff when the tables have none, an old vehicle type is the one the tables
give its IU code, or the default, and there is no receipt line. -/
structure NothingLeft (tables : TableAnswers) (memory : Memory) : Prop where
  gtariff : ∀ position, Used position → ¬Written (newTariff tables) position →
    memory.gtariff position = {}
  gtarifftypeinfo : ∀ i, newTariffTypeInfo tables i = none → memory.gtarifftypeinfo i = {}
  msholiday : newHolidays tables = none → memory.msholiday = []
  msxtariff : newXTariff tables = none → memory.msxtariff = []
  tVType : ∀ iuCode, FitsInt iuCode → ∀ iType, typeOf memory.tVType iuCode = some iType →
    (typeOf (newVehicleTypes tables) iuCode).getD 1 = iType
  tTR : memory.tTR = []

theorem getD_eq_getD_iff {α : Type*} (value : Option α) (first second : α) :
    value.getD first = value.getD second ↔ (value = none → first = second) := by
  cases value <;> simp

/-- A reload equals a start exactly when nothing of the old memory is left. -/
theorem reload_sameAsFresh_iff (tables : TableAnswers) (memory : Memory) :
    SameAsFresh tables memory ↔ NothingLeft tables memory := by
  have htypes := fnGetVehicleType_append_iff memory.tVType (newVehicleTypes tables)
  unfold SameAsFresh
  simp only [reload_eq, funext_iff, getD_eq_getD_iff, List.nil_append, htypes]
  constructor
  · rintro ⟨hcells, hinfo, hholiday, hxtariff, hvehicle, htr⟩
    refine ⟨fun position hused hnot => ?_, hinfo, hholiday, hxtariff, hvehicle, ?_⟩
    · have hcell := hcells position hused
      rwa [foldl_writeTariff2RAM_of_not_written hnot,
        foldl_writeTariff2RAM_of_not_written hnot] at hcell
    · exact List.append_left_eq_self.mp htr
  · intro hnothing
    refine ⟨fun position hused => ?_, hnothing.gtarifftypeinfo, hnothing.msholiday,
      hnothing.msxtariff, hnothing.tVType, ?_⟩
    · by_cases hwritten : Written (newTariff tables) position
      · exact foldl_writeTariff2RAM_congr (Or.inl hwritten)
      · exact foldl_writeTariff2RAM_congr (Or.inr (hnothing.gtariff position hused hwritten))
    · rw [hnothing.tTR, List.nil_append]

/-! ## A vehicle type that has changed -/

/-- Tables without anything but a vehicle type and a receipt line. -/
def smallTables (transType : String) : TableAnswers where
  tariff := ⟨some [], some []⟩
  tariffTypeInfo := ⟨some [], some []⟩
  holiday := ⟨some [], some []⟩
  xTariff := ⟨some [], some []⟩
  vehicleType := ⟨some [["109", transType]], none⟩
  tr := ⟨some [["Thank You", "", "0", "1"]], none⟩

/-- The IUs 109… were of type 1 at the start of the program and are of type 4 in the new
table: the old type is still found, and the receipt line is there twice. -/
theorem not_sameAsFresh_newType :
    fnGetVehicleType (reload (smallTables "4") (reload (smallTables "1") {})).tVType "109" = 1 ∧
      fnGetVehicleType (reload (smallTables "4") {}).tVType "109" = 4 ∧
      (reload (smallTables "4") (reload (smallTables "1") {})).tTR.length = 2 ∧
      ¬SameAsFresh (smallTables "4") (reload (smallTables "1") {}) := by
  have hold : fnGetVehicleType (reload (smallTables "4") (reload (smallTables "1") {})).tVType
      "109" = 1 := by decide +kernel
  have hnew : fnGetVehicleType (reload (smallTables "4") {}).tVType "109" = 4 := by decide +kernel
  refine ⟨hold, hnew, by decide +kernel, ?_⟩
  rintro ⟨-, -, -, -, hvehicle, -⟩
  have hsame := hvehicle "109"
  rw [hold, hnew] at hsame
  exact absurd hsame (by decide)

end LinuxPBS.Db

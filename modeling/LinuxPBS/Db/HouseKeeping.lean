import LinuxPBS.Db.MoveOffline

/-!
# The daily process

`handleDailyProcessTimer` runs every five seconds while no vehicle is on loop A.  It
uploads the offline transactions with `moveOfflineTransToCentral`, if the central
database answers and there are some, and once a day it calls `HouseKeeping`:

```text
DELETE FROM Exit_Trans
WHERE send_status = true OR TIMESTAMPDIFF(HOUR, exit_time, NOW()) >= 24 * DataKeepDays
```

The upload deletes what it has sent, and no statement of the program sets
`send_status`, so what `HouseKeeping` finds are the rows that were not sent.  It keeps
them for `giDataKeepDays` days and no longer, whatever has become of the upload:
`dailyProcess_keeps_iff` says which rows survive a run.

The queries about seasons, the clock and the devices are left out: they touch neither
the transaction tables nor what decides about them.
-/

namespace LinuxPBS.Db

variable {κ τ : Type*} [DecidableEq κ]

/-! ## `HouseKeeping` -/

/-- `DELETE … WHERE`, with a condition on a column that no `INSERT` of the program writes. -/
def LocalTable.deleteRows (table : LocalTable κ) (matching : LocalRow κ → Bool) : LocalTable κ where
  rows := table.rows.filter fun row => !matching row
  nextId := table.nextId
  id_lt row hrow := table.id_lt row (List.mem_of_mem_filter hrow)
  nodup := (List.filter_sublist.map _).nodup table.nodup

omit [DecidableEq κ] in
theorem LocalTable.mem_deleteRows {table : LocalTable κ} {matching : LocalRow κ → Bool}
    {row : LocalRow κ} :
    row ∈ (table.deleteRows matching).rows ↔ row ∈ table.rows ∧ matching row = false := by
  simp [deleteRows, List.mem_filter]

/-- The clock of the local database: `TIMESTAMPDIFF(HOUR, time, NOW())` of a stored time, NULL
where the text is no time. -/
abbrev Clock := String → Option ℤ

/-- `TIMESTAMPDIFF(HOUR, column, NOW()) >= hours` -/
def Clock.isOld (clock : Clock) (column : κ) (hours : ℤ) (row : LocalRow κ) : Bool :=
  match row.values column with
  | .null => false
  | .text stored => (clock stored).any fun age => hours ≤ age

/-- `send_status = true` in a row of a table. -/
abbrev SendStatus (κ : Type*) := LocalRow κ → Bool

/-- The outcomes of the statements of `HouseKeeping`. -/
structure HouseKeepingAnswers where
  clearExpiredSeason : SqlOutcome
  deleteEntries : SqlOutcome
  deleteExits : SqlOutcome
  deriving DecidableEq, Repr

/-- `giDataKeepDays * 24`, an `int`. -/
def dataKeepHours (giDataKeepDays : ℤ) : ℤ := (giDataKeepDays * 24).bmod (2 ^ 32)

/-- `executeHouseKeeping`, and the flag it sets. -/
def houseKeepingFlag (outcome : SqlOutcome) : ℤ := if outcome.code = 0 then 0 else 1

/-- `HouseKeeping`; its return code is not used. -/
def houseKeeping (clock : Clock) (entrySent : SendStatus EntryColumn)
    (exitSent : SendStatus ExitColumn) (answers : HouseKeepingAnswers) (state : State) : State :=
  let state := { state with localDbErrFlag := houseKeepingFlag answers.clearExpiredSeason }
  match state.operation with
  | none => state
  | some data =>
      let hours := dataKeepHours data.tParas.giDataKeepDays
      if data.stationType = .tientry then
        { state with
          entryTrans := answers.deleteEntries.apply
            (fun table => table.deleteRows fun row =>
              entrySent row || clock.isOld .entryTime hours row) state.entryTrans
          localDbErrFlag := houseKeepingFlag answers.deleteEntries }
      else
        -- the entries of an exit station are copies for the matching of exits
        { state with
          exitTrans := answers.deleteExits.apply
            (fun table => table.deleteRows fun row =>
              exitSent row || clock.isOld .exitTime hours row) state.exitTrans
          entryTrans := answers.deleteEntries.apply
            (fun table => table.deleteRows fun row => clock.isOld .entryTime hours row)
            state.entryTrans
          localDbErrFlag := houseKeepingFlag answers.deleteEntries }

/-! ## `handleDailyProcessTimer` -/

/-- What the handler is told. -/
structure DailyAnswers where
  /-- the timer was not cancelled, its error code is clear and the module is not stopping -/
  timerOK : Bool
  isOperationInitialized : Bool
  gbLoopApresent : Bool
  ping : Bool
  move : MoveAnswers
  currentDay : ℤ
  houseKeeping : HouseKeepingAnswers

/-- The databases a station works with. -/
structure Databases where
  entryTypes : ColumnTypes EntryColumn
  exitTypes : ColumnTypes ExitColumn
  entryOrdering : Ordering EntryColumn
  exitOrdering : Ordering ExitColumn
  clock : Clock
  entrySent : SendStatus EntryColumn
  exitSent : SendStatus ExitColumn

/-- `giSystemOnline` after the ping: `0` when the central database can be used. -/
def systemOnline (answers : DailyAnswers) (process : TProcess) : ℤ :=
  if process.giSystemOnline = 1 ∧ answers.ping then 0 else process.giSystemOnline

/-- The upload of the handler. -/
def dailyUpload (databases : Databases) (answers : DailyAnswers) (process : TProcess)
    (state : State) : Moved :=
  let state := state.updateProcess fun process =>
    { process with giSystemOnline := systemOnline answers process }
  if systemOnline answers process = 0 ∧ process.glNoofOfflineData > 0 then
    moveOfflineTransToCentral databases.entryTypes databases.exitTypes databases.entryOrdering
      databases.exitOrdering answers.move state
  else ⟨state, [], []⟩

/-- The housekeeping of the handler. -/
def dailyHouseKeeping (databases : Databases) (answers : DailyAnswers) (process : TProcess)
    (state : State) : State :=
  if process.giLastHousekeepingDate ≠ answers.currentDay then
    (houseKeeping databases.clock databases.entrySent databases.exitSent answers.houseKeeping
      state).updateProcess fun process =>
        { process with giLastHousekeepingDate := answers.currentDay }
  else state

/-- `handleDailyProcessTimer`, with the rows its upload has inserted centrally. -/
def dailyProcess (databases : Databases) (answers : DailyAnswers) (state : State) : Moved :=
  match state.operation with
  | none => ⟨state, [], []⟩
  | some data =>
      if answers.timerOK ∧ answers.isOperationInitialized ∧ answers.gbLoopApresent = false then
        let moved := dailyUpload databases answers data.tProcess state
        { moved with state := dailyHouseKeeping databases answers data.tProcess moved.state }
      else ⟨state, [], []⟩

/-! ## What the upload keeps -/

namespace UploadKind

variable {kind : UploadKind κ τ} {types : ColumnTypes κ} {row : LocalRow κ}

/-- A row is in the local table, or has been inserted centrally. -/
def Held (row : LocalRow κ) (run : Uploading κ) : Prop :=
  row ∈ run.localTrans.rows ∨ row ∈ run.uploaded

/-- The loop keeps a row that no other row deletes. -/
theorem Held.uploadRows (answers : ℕ → RowAnswers) {rows : List (LocalRow κ)}
    (halone : ∀ other ∈ rows, kind.Deletes types other row → other = row) {run : Uploading κ}
    (hheld : Held row run) : Held row (kind.uploadRows types answers rows run) := by
  induction rows generalizing run with
  | nil => exact hheld
  | cons other rest ih =>
      unfold UploadKind.uploadRows
      cases hread : kind.readRow types other with
      | none => exact hheld
      | some record =>
          refine ih (fun next hnext => halone next (List.mem_cons_of_mem _ hnext)) ?_
          rcases hheld with hlocal | huploaded
          · rcases mem_uploadRow_or (answers other.id) hlocal with hstays | ⟨hmatching, hdone⟩
            · exact Or.inl hstays
            · have hself := halone other List.mem_cons_self ⟨record, hread, hmatching⟩
              refine Or.inr (mem_uploaded_uploadRow_iff.mpr (Or.inr ⟨hself.symm, ?_⟩))
              rw [hdone]
              decide
          · exact Or.inr (mem_uploaded_uploadRow_iff.mpr (Or.inl huploaded))

theorem Held.move (ordering : Ordering κ) (answers : MoveAnswers) {run : Uploading κ}
    (halone : ∀ other ∈ run.localTrans.rows, kind.Deletes types other row → other = row)
    (hheld : Held row run) : Held row (kind.move types ordering answers run) := by
  unfold UploadKind.move
  split
  · exact hheld
  · split
    · exact hheld
    · split
      · exact hheld
      · simp only
        split
        · exact hheld
        · refine Held.uploadRows answers.rows (fun other hother => halone other ?_) hheld
          exact (ordering.perm _).mem_iff.mp hother

end UploadKind

/-- The upload of no other row of the table deletes `row`. -/
def Alone (kind : UploadKind κ τ) (types : ColumnTypes κ) (table : LocalTable κ)
    (row : LocalRow κ) : Prop :=
  ∀ other ∈ table.rows, kind.Deletes types other row → other = row

/-! ## What the housekeeping keeps -/

omit [DecidableEq κ] in
theorem mem_apply_deleteRows {outcome : SqlOutcome} {table : LocalTable κ}
    {matching : LocalRow κ → Bool} {row : LocalRow κ} :
    row ∈ (outcome.apply (fun table => table.deleteRows matching) table).rows ↔
      row ∈ table.rows ∧ ¬(outcome.Executed ∧ matching row = true) := by
  by_cases hexecuted : outcome.Executed
  · rw [SqlOutcome.apply_of_executed hexecuted, LocalTable.mem_deleteRows]
    simp [hexecuted]
  · rw [SqlOutcome.apply_of_not_executed hexecuted]
    simp [hexecuted]

variable (databases : Databases) (answers : DailyAnswers)

/-- The run comes to `HouseKeeping`. -/
def KeepsHouse (data : OperationSharedData) : Prop :=
  answers.timerOK ∧ answers.isOperationInitialized ∧ answers.gbLoopApresent = false ∧
    data.tProcess.giLastHousekeepingDate ≠ answers.currentDay

/-- `HouseKeeping` deletes the row of an entry station. -/
def EntryExpires (data : OperationSharedData) (row : LocalRow EntryColumn) : Prop :=
  KeepsHouse answers data ∧ answers.houseKeeping.deleteEntries.Executed ∧
    (databases.entrySent row = true ∨
      databases.clock.isOld .entryTime (dataKeepHours data.tParas.giDataKeepDays) row = true)

/-- `HouseKeeping` deletes the row of an exit station. -/
def ExitExpires (data : OperationSharedData) (row : LocalRow ExitColumn) : Prop :=
  KeepsHouse answers data ∧ answers.houseKeeping.deleteExits.Executed ∧
    (databases.exitSent row = true ∨
      databases.clock.isOld .exitTime (dataKeepHours data.tParas.giDataKeepDays) row = true)

section HouseKeeping

variable {state : State} {data : OperationSharedData} {process : TProcess}

theorem mem_entryTrans_dailyHouseKeeping (hdata : state.operation = some data)
    (hstation : data.stationType = .tientry) {row : LocalRow EntryColumn} :
    row ∈ (dailyHouseKeeping databases answers process state).entryTrans.rows ↔
      row ∈ state.entryTrans.rows ∧ ¬(process.giLastHousekeepingDate ≠ answers.currentDay ∧
        answers.houseKeeping.deleteEntries.Executed ∧ (databases.entrySent row = true ∨
          databases.clock.isOld .entryTime (dataKeepHours data.tParas.giDataKeepDays) row =
            true)) := by
  unfold dailyHouseKeeping
  by_cases hday : process.giLastHousekeepingDate ≠ answers.currentDay
  · rw [if_pos hday]
    simp only [houseKeeping, hdata, hstation, if_true, State.updateProcess]
    rw [mem_apply_deleteRows, Bool.or_eq_true, and_iff_right hday]
  · rw [if_neg hday, and_iff_left]
    exact fun h => hday h.1

theorem mem_exitTrans_dailyHouseKeeping (hdata : state.operation = some data)
    (hstation : data.stationType = .tiExit) {row : LocalRow ExitColumn} :
    row ∈ (dailyHouseKeeping databases answers process state).exitTrans.rows ↔
      row ∈ state.exitTrans.rows ∧ ¬(process.giLastHousekeepingDate ≠ answers.currentDay ∧
        answers.houseKeeping.deleteExits.Executed ∧ (databases.exitSent row = true ∨
          databases.clock.isOld .exitTime (dataKeepHours data.tParas.giDataKeepDays) row =
            true)) := by
  unfold dailyHouseKeeping
  by_cases hday : process.giLastHousekeepingDate ≠ answers.currentDay
  · rw [if_pos hday]
    simp only [houseKeeping, hdata, hstation, reduceCtorEq, if_false, State.updateProcess]
    rw [mem_apply_deleteRows, Bool.or_eq_true, and_iff_right hday]
  · rw [if_neg hday, and_iff_left]
    exact fun h => hday h.1

/-! ## What the upload keeps -/

/-- The upload leaves the kind of the station and its parameters alone. -/
theorem dailyUpload_operation (process : TProcess) (hdata : state.operation = some data) :
    ∃ after, (dailyUpload databases answers process state).state.operation = some after ∧
      after.stationType = data.stationType ∧ after.tParas = data.tParas := by
  unfold dailyUpload
  simp only
  split
  · unfold moveOfflineTransToCentral
    simp only [State.updateProcess, hdata, Option.map_some]
    cases data.stationType <;> simp
  · simp [State.updateProcess, hdata]

theorem mem_entryTrans_dailyUpload (hdata : state.operation = some data)
    (hstation : data.stationType = .tientry) {row : LocalRow EntryColumn}
    (hrow : row ∈ state.entryTrans.rows)
    (halone : Alone entryUpload databases.entryTypes state.entryTrans row)
    (hnot : row ∉ (dailyUpload databases answers process state).uploadedEntries) :
    row ∈ (dailyUpload databases answers process state).state.entryTrans.rows := by
  unfold dailyUpload at hnot ⊢
  simp only at hnot ⊢
  split
  next hmoves =>
    rw [if_pos hmoves] at hnot
    simp only [moveOfflineTransToCentral, State.updateProcess, hdata, Option.map_some,
      hstation] at hnot ⊢
    have hheld : UploadKind.Held row (entryUpload.move databases.entryTypes
        databases.entryOrdering answers.move ⟨state.entryTrans, state.entryTransTmp, 0,
          state.localDbErrFlag, state.remoteDbErrFlag, []⟩) :=
      UploadKind.Held.move _ _ halone (Or.inl hrow)
    exact hheld.resolve_right hnot
  next => exact hrow

theorem mem_exitTrans_dailyUpload (hdata : state.operation = some data)
    (hstation : data.stationType = .tiExit) {row : LocalRow ExitColumn}
    (hrow : row ∈ state.exitTrans.rows)
    (halone : Alone exitUpload databases.exitTypes state.exitTrans row)
    (hnot : row ∉ (dailyUpload databases answers process state).uploadedExits) :
    row ∈ (dailyUpload databases answers process state).state.exitTrans.rows := by
  unfold dailyUpload at hnot ⊢
  simp only at hnot ⊢
  split
  next hmoves =>
    rw [if_pos hmoves] at hnot
    simp only [moveOfflineTransToCentral, State.updateProcess, hdata, Option.map_some,
      hstation] at hnot ⊢
    have hheld : UploadKind.Held row (exitUpload.move databases.exitTypes
        databases.exitOrdering answers.move ⟨state.exitTrans, state.exitTransTmp, 0,
          state.localDbErrFlag, state.remoteDbErrFlag, []⟩) :=
      UploadKind.Held.move _ _ halone (Or.inl hrow)
    exact hheld.resolve_right hnot
  next => exact hrow

end HouseKeeping

/-! ## A run of the handler -/

/-- A transaction that has not been inserted into the central database, and that is not deleted
together with another one of the same number and time, is still there after a run of the daily
process exactly when `HouseKeeping` has not deleted it as sent or as too old. -/
theorem dailyProcess_keeps_iff (state : State) (data : OperationSharedData)
    (hdata : state.operation = some data) :
    (data.stationType = .tientry → ∀ row ∈ state.entryTrans.rows,
        row ∉ (dailyProcess databases answers state).uploadedEntries →
        Alone entryUpload databases.entryTypes state.entryTrans row →
          (row ∈ (dailyProcess databases answers state).state.entryTrans.rows ↔
            ¬EntryExpires databases answers data row)) ∧
      (data.stationType = .tiExit → ∀ row ∈ state.exitTrans.rows,
        row ∉ (dailyProcess databases answers state).uploadedExits →
        Alone exitUpload databases.exitTypes state.exitTrans row →
          (row ∈ (dailyProcess databases answers state).state.exitTrans.rows ↔
            ¬ExitExpires databases answers data row)) := by
  obtain ⟨after, hafter, hstays, hparas⟩ :=
    dailyUpload_operation databases answers data.tProcess hdata
  unfold dailyProcess EntryExpires ExitExpires KeepsHouse
  rw [hdata]
  by_cases hruns : answers.timerOK ∧ answers.isOperationInitialized ∧ answers.gbLoopApresent = false
  · simp only [hruns.1, hruns.2.1, hruns.2.2, true_and, if_true]
    constructor
    · intro hstation row hrow hnot halone
      rw [mem_entryTrans_dailyHouseKeeping databases answers hafter (hstays.trans hstation), hparas]
      exact and_iff_right
        (mem_entryTrans_dailyUpload databases answers hdata hstation hrow halone hnot)
    · intro hstation row hrow hnot halone
      rw [mem_exitTrans_dailyHouseKeeping databases answers hafter (hstays.trans hstation), hparas]
      exact and_iff_right
        (mem_exitTrans_dailyUpload databases answers hdata hstation hrow halone hnot)
  · simp only [if_neg hruns]
    constructor
    · intro _ row hrow _ _
      exact ⟨fun _ h => hruns ⟨h.1.1, h.1.2.1, h.1.2.2.1⟩, fun _ => hrow⟩
    · intro _ row hrow _ _
      exact ⟨fun _ h => hruns ⟨h.1.1, h.1.2.1, h.1.2.2.1⟩, fun _ => hrow⟩

/-! ## An entry of thirty days -/

/-- An entry station that keeps data for thirty days, with one entry that was saved while the
central database was down. -/
def onceSaved : State :=
  let tEntry : TEntryTrans :=
    { esid := "1", sSerialNo := "0", sIUTKNo := "1234567890", sEntryTime := "2026-01-01 08:00:00" }
  let data : OperationSharedData :=
    { tParas := { giDataKeepDays := 30 }, tProcess := { glNoofOfflineData := 1 } }
  ⟨some data, [], [], LocalTable.empty.insert (insertedRow (localEntryInsert "t" "" tEntry)),
    .empty, 0, 0⟩

/-- Local tables without sent rows, and a clock that shows the same age for every time. -/
def databasesAt (hours : ℤ) : Databases where
  entryTypes := plainTypes _
  exitTypes := plainTypes _
  entryOrdering := keyOrdering _
  exitOrdering := keyOrdering _
  clock _ := some hours
  entrySent _ := false
  exitSent _ := false

/-- A first run of the day in which no row can be inserted centrally. -/
def centralDown : DailyAnswers where
  timerOK := true
  isOperationInitialized := true
  gbLoopApresent := false
  ping := true
  move := ⟨true, true, fun _ => ⟨.failed, .failed⟩⟩
  currentDay := 31
  houseKeeping := ⟨.done, .done, .done⟩

/-- One hour before the thirty days are over the entry is kept. -/
theorem dailyProcess_keeps_before :
    onceSaved.entryTrans.rows.length = 1 ∧ ∀ row ∈ onceSaved.entryTrans.rows,
      row ∈ (dailyProcess (databasesAt 719) centralDown onceSaved).state.entryTrans.rows := by
  refine ⟨by decide +kernel, fun row hrow => ?_⟩
  have hkeeps := (dailyProcess_keeps_iff (databasesAt 719) centralDown onceSaved
    { tParas := { giDataKeepDays := 30 }, tProcess := { glNoofOfflineData := 1 } } rfl).1 rfl row hrow
  have hnone : (dailyProcess (databasesAt 719) centralDown onceSaved).uploadedEntries.map
      LocalRow.id = [] := by decide +kernel
  refine (hkeeps ?_ ?_).mpr ?_
  · rw [List.map_eq_nil_iff.mp hnone]
    exact List.not_mem_nil
  · intro other hother _
    have hid : ∀ row ∈ onceSaved.entryTrans.rows.map LocalRow.id, row = 1 := by decide +kernel
    refine LocalTable.eq_of_id_eq hother hrow ?_
    rw [hid _ (List.mem_map_of_mem hother), hid _ (List.mem_map_of_mem hrow)]
  · rintro ⟨-, -, hsent | hold⟩
    · exact Bool.false_ne_true hsent
    · unfold Clock.isOld at hold
      split at hold
      · exact Bool.false_ne_true hold
      · have hage : dataKeepHours 30 ≤ 719 := of_decide_eq_true hold
        exact absurd hage (by decide +kernel)

/-- When they are over it is deleted, although it was never inserted centrally. -/
theorem not_dailyProcess_keeps_after :
    let moved := dailyProcess (databasesAt 720) centralDown onceSaved
    onceSaved.entryTrans.rows.map LocalRow.id = [1] ∧
      moved.uploadedEntries.map LocalRow.id = [] ∧
      moved.state.entryTransTmp.length = 0 ∧
      moved.state.entryTrans.rows.map LocalRow.id = [] := by
  decide +kernel

end LinuxPBS.Db

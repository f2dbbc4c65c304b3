import LinuxPBS.Db.Broadcast

/-!
# The shared table `Entry_Trans`

A row of `Entry_Trans` is either one the station has stored itself, an entry it could
not save centrally, or one it has received in a broadcast.  The table does not tell;
here the keys of the received rows and of the uploaded ones are kept as history, so
that the two things that should never happen can be said:

* a packet or the end of an exit takes or changes an own row that is not uploaded;
* an upload inserts a received row into `Entry_Trans_tmp`.

`broadcasts_spare_own_iff` gives the exact conditions.  At an exit station both always
hold as long as it saves no entries: it has no own rows in the table and uploads another
one.
-/

namespace LinuxPBS.Db

/-! ## The history of the rows -/

/-- The tables of a station with the origin of the rows of `Entry_Trans`: the keys of the
rows received in broadcasts and those of the rows whose central `INSERT` was executed. -/
structure SharedTable where
  state : State
  received : List ℕ
  uploaded : List ℕ
  received_lt : ∀ id ∈ received, id < state.entryTrans.nextId
  uploaded_lt : ∀ id ∈ uploaded, id < state.entryTrans.nextId

/-- What the databases of a station are like. -/
structure StationDatabases where
  entryTypes : ColumnTypes EntryColumn
  exitTypes : ColumnTypes ExitColumn
  entryOrdering : Ordering EntryColumn
  exitOrdering : Ordering ExitColumn

/-- What happens to the local tables.  `saveExit` stands for `SaveExit`; `UpdateExit`,
which leaves `Entry_Trans` alone, does what `saveExit` does with a failed `UPDATE`. -/
inductive SharedEvent
  | broadcast (zoneEntries dateTime : String) (answers : BroadcastAnswers) (fields : List String)
  | saveEntry (now : String) (centraldb localdb : ConnectionAnswers) (tEntry : TEntryTrans)
  | saveExit (centraldb localdb : ConnectionAnswers) (update : SqlOutcome)
      (exitTrans : TExitTrans)
  | upload (answers : MoveAnswers)

namespace StationDatabases

variable (databases : StationDatabases)

/-- `moveOfflineTransToCentral` -/
def move (answers : MoveAnswers) (state : State) : Moved :=
  moveOfflineTransToCentral databases.entryTypes databases.exitTypes databases.entryOrdering
    databases.exitOrdering answers state

/-- The tables after an event. -/
def changed (state : State) : SharedEvent → State
  | .broadcast zoneEntries dateTime answers fields =>
      { state with
        entryTrans := broadcastSaveTrans databases.entryTypes zoneEntries dateTime answers fields
          state.entryTrans }
  | .saveEntry now centraldb localdb tEntry =>
      (insertEntryTrans now centraldb localdb state tEntry).1
  | .saveExit centraldb localdb update exitTrans =>
      let saved := insertExitTrans centraldb localdb state exitTrans
      { saved.1 with
        entryTrans := (updateLocalEntry databases.entryTypes update saved.2.1.sIUNo
          saved.1.entryTrans).1 }
  | .upload answers => (databases.move answers state).state

/-- The keys an event adds to the received ones. -/
def receivedBy (state : State) : SharedEvent → List ℕ
  | .broadcast zoneEntries _ answers fields =>
      if EntryBroadcast zoneEntries fields ∧ answers.insert.Executed then
        [state.entryTrans.nextId]
      else []
  | _ => []

/-- The rows of `Entry_Trans` an event inserts centrally. -/
def uploadedBy (state : State) : SharedEvent → List (LocalRow EntryColumn)
  | .upload answers => (databases.move answers state).uploadedEntries
  | _ => []

end StationDatabases

/-! ## Keys are not used again -/

section NextId

variable {κ τ : Type*} {kind : UploadKind κ τ} {types : ColumnTypes κ}

@[simp] theorem LocalTable.nextId_apply_delete (outcome : SqlOutcome) (table : LocalTable κ)
    (matching : (κ → SqlValue) → Bool) :
    (outcome.apply (fun table => table.delete matching) table).nextId = table.nextId := by
  unfold SqlOutcome.apply
  split <;> rfl

@[simp] theorem LocalTable.nextId_apply_update (outcome : SqlOutcome) (table : LocalTable κ)
    (matching : (κ → SqlValue) → Bool) (change : (κ → SqlValue) → κ → SqlValue) :
    (outcome.apply (fun table => table.update matching change) table).nextId = table.nextId := by
  unfold SqlOutcome.apply
  split <;> rfl

theorem LocalTable.nextId_apply_insert (outcome : SqlOutcome) (table : LocalTable κ)
    (values : κ → SqlValue) :
    (outcome.apply (fun table => table.insert values) table).nextId =
      if outcome.Executed then table.nextId + 1 else table.nextId := by
  unfold SqlOutcome.apply
  split <;> rfl

variable [DecidableEq κ]

theorem UploadKind.nextId_uploadRows (answers : ℕ → RowAnswers) (rows : List (LocalRow κ))
    (run : Uploading κ) :
    (kind.uploadRows types answers rows run).localTrans.nextId = run.localTrans.nextId := by
  induction rows generalizing run with
  | nil => rfl
  | cons row rest ih =>
      unfold uploadRows
      cases hread : kind.readRow types row with
      | none => rfl
      | some record =>
          rw [ih, uploadRow_localTrans]
          split
          · rw [LocalTable.nextId_apply_delete]
          · rfl

theorem UploadKind.nextId_move (ordering : Ordering κ) (answers : MoveAnswers)
    (run : Uploading κ) :
    (kind.move types ordering answers run).localTrans.nextId = run.localTrans.nextId := by
  unfold move
  split
  · rfl
  · split
    · rfl
    · split
      · rfl
      · simp only
        split
        · rfl
        · rw [nextId_uploadRows]

end NextId

/-! What the saves do to the local tables. -/

theorem insertEntryTrans_tables (now : String) (centraldb localdb : ConnectionAnswers)
    (state : State) (tEntry : TEntryTrans) :
    ((insertEntryTrans now centraldb localdb state tEntry).1.entryTrans = state.entryTrans ∨
        ∃ values, (insertEntryTrans now centraldb localdb state tEntry).1.entryTrans =
          state.entryTrans.insert values) ∧
      (insertEntryTrans now centraldb localdb state tEntry).1.exitTrans = state.exitTrans := by
  unfold insertEntryTrans
  cases state.operation with
  | none => exact ⟨Or.inl rfl, rfl⟩
  | some data =>
      simp only
      split
      · unfold insertEntryLocal
        split
        · exact ⟨Or.inl rfl, rfl⟩
        · by_cases hexecuted : localdb.insert.Executed
          · refine ⟨Or.inr ⟨insertedRow (localEntryInsert data.tProcess.gsTransID
              (lprNumber (prepareEntry now tEntry)) (prepareEntry now tEntry)), ?_⟩, ?_⟩ <;>
              simp only [SqlOutcome.apply_of_executed hexecuted] <;> split <;> rfl
          · refine ⟨Or.inl ?_, ?_⟩ <;>
              simp only [SqlOutcome.apply_of_not_executed hexecuted] <;> split <;> rfl
      · exact ⟨Or.inl rfl, rfl⟩

theorem insertExitTrans_tables (centraldb localdb : ConnectionAnswers) (state : State)
    (exitTrans : TExitTrans) :
    (insertExitTrans centraldb localdb state exitTrans).1.entryTrans = state.entryTrans ∧
      ((insertExitTrans centraldb localdb state exitTrans).1.exitTrans = state.exitTrans ∨
        ∃ values, (insertExitTrans centraldb localdb state exitTrans).1.exitTrans =
          state.exitTrans.insert values) := by
  unfold insertExitTrans
  cases state.operation with
  | none => exact ⟨rfl, Or.inl rfl⟩
  | some data =>
      simp only
      split
      · unfold insertExitLocal
        split
        · exact ⟨rfl, Or.inl rfl⟩
        · by_cases hexecuted : localdb.insert.Executed
          · refine ⟨?_, Or.inr ⟨insertedRow (localExitInsert data.tProcess.gsTransID
              (formatExit exitTrans)), ?_⟩⟩ <;>
              simp only [SqlOutcome.apply_of_executed hexecuted] <;> split <;> rfl
          · refine ⟨?_, Or.inl ?_⟩ <;>
              simp only [SqlOutcome.apply_of_not_executed hexecuted] <;> split <;> rfl
      · exact ⟨rfl, Or.inl rfl⟩

theorem insertExitTrans_iuNo (centraldb localdb : ConnectionAnswers) (state : State)
    (exitTrans : TExitTrans) :
    (insertExitTrans centraldb localdb state exitTrans).2.1.sIUNo = exitTrans.sIUNo := by
  unfold insertExitTrans
  cases state.operation with
  | none => rfl
  | some data =>
      simp only
      split
      · rfl
      · unfold clampParkedTime
        split <;> rfl

/-- The local tables `moveOfflineTransToCentral` leaves at an entry station. -/
theorem move_nextId (databases : StationDatabases) (answers : MoveAnswers) (state : State) :
    (databases.move answers state).state.entryTrans.nextId = state.entryTrans.nextId := by
  unfold StationDatabases.move moveOfflineTransToCentral
  cases state.operation with
  | none => rfl
  | some data =>
      cases hstation : data.stationType with
      | tientry =>
          simp only [hstation]
          exact UploadKind.nextId_move _ _ _
      | tiExit => simp only [hstation, State.updateProcess]
      | tiAPS => simp only [hstation]

namespace StationDatabases

variable (databases : StationDatabases)

theorem nextId_broadcast (zoneEntries dateTime : String) (answers : BroadcastAnswers)
    (fields : List String) (state : State) :
    (databases.changed state (.broadcast zoneEntries dateTime answers fields)).entryTrans.nextId =
      if EntryBroadcast zoneEntries fields ∧ answers.insert.Executed then
        state.entryTrans.nextId + 1
      else state.entryTrans.nextId := by
  unfold changed
  simp only [broadcastSaveTrans_eq]
  by_cases hentry : EntryBroadcast zoneEntries fields
  · simp [hentry, insertbroadcasttrans, LocalTable.nextId_apply_insert]
  · simp only [hentry, false_and, if_false]
    split
    · exact LocalTable.nextId_apply_update _ _ _ _
    · rfl

theorem nextId_le (state : State) (event : SharedEvent) :
    state.entryTrans.nextId ≤ (databases.changed state event).entryTrans.nextId := by
  cases event with
  | broadcast zoneEntries dateTime answers fields =>
      rw [nextId_broadcast]
      split <;> omega
  | saveEntry now centraldb localdb tEntry =>
      have htables := (insertEntryTrans_tables now centraldb localdb state tEntry).1
      rcases htables with hsame | ⟨values, hinsert⟩
      · exact le_of_eq (congrArg LocalTable.nextId hsame).symm
      · change _ ≤ (insertEntryTrans now centraldb localdb state tEntry).1.entryTrans.nextId
        rw [hinsert]
        exact Nat.le_succ _
  | saveExit centraldb localdb update exitTrans =>
      have hsame := (insertExitTrans_tables centraldb localdb state exitTrans).1
      simp [changed, updateLocalEntry, hsame]
  | upload answers => exact le_of_eq (move_nextId databases answers state).symm

end StationDatabases

/-! ## What an upload sends -/

namespace UploadKind

variable {κ τ : Type*} [DecidableEq κ] {kind : UploadKind κ τ} {types : ColumnTypes κ}

/-- The loop inserts the rows it reaches, as far as the central database takes them. -/
theorem mem_uploadRows_uploaded_iff (answers : ℕ → RowAnswers) (rows : List (LocalRow κ))
    (run : Uploading κ) (row : LocalRow κ) :
    row ∈ (kind.uploadRows types answers rows run).uploaded ↔
      row ∈ run.uploaded ∨
        (row ∈ kind.reached types rows ∧ (answers row.id).insert.Executed) := by
  induction rows generalizing run with
  | nil => simp [uploadRows, reached]
  | cons first rest ih =>
      unfold uploadRows
      cases hread : kind.readRow types first with
      | none => simp [reached_cons_none hread]
      | some record =>
          rw [ih, mem_uploaded_uploadRow_iff, reached_cons_some hread, List.mem_cons, or_assoc]
          refine or_congr_right ?_
          constructor
          · rintro (⟨rfl, hexecuted⟩ | ⟨hreached, hexecuted⟩)
            · exact ⟨Or.inl rfl, hexecuted⟩
            · exact ⟨Or.inr hreached, hexecuted⟩
          · rintro ⟨rfl | hreached, hexecuted⟩
            · exact Or.inl ⟨rfl, hexecuted⟩
            · exact Or.inr ⟨hreached, hexecuted⟩

theorem mem_move_uploaded_iff (ordering : Ordering κ) (answers : MoveAnswers)
    {run : Uploading κ} (huploaded : run.uploaded = []) (row : LocalRow κ) :
    row ∈ (kind.move types ordering answers run).uploaded ↔
      answers.counts = true ∧ answers.selects = true ∧
        0 < pendingRows kind.iuColumn run.localTrans ∧
          pendingRows kind.iuColumn run.localTrans < 2 ^ 31 ∧
            row ∈ kind.reached types (ordering.select run.localTrans.rows) ∧
              (answers.rows row.id).insert.Executed := by
  unfold move
  by_cases hcounts : answers.counts = false
  · simp [hcounts, huploaded]
  rw [if_neg hcounts, stoi_pendingText]
  by_cases hlt : pendingRows kind.iuColumn run.localTrans < 2 ^ 31
  · rw [if_pos hlt]
    simp only
    by_cases hpos : 0 < pendingRows kind.iuColumn run.localTrans
    · rw [if_neg (by omega)]
      by_cases hselects : answers.selects = false
      · simp [hselects, huploaded]
      · rw [if_neg hselects, mem_uploadRows_uploaded_iff]
        simp_all
    · rw [if_pos (by omega)]
      simp [hpos, huploaded]
  · rw [if_neg hlt]
    simp only [huploaded, List.not_mem_nil, hlt, false_and, and_false]

end UploadKind

namespace StationDatabases

variable (databases : StationDatabases)

/-- The entries an upload inserts centrally. -/
theorem mem_uploadedEntries_iff (answers : MoveAnswers) (state : State)
    (row : LocalRow EntryColumn) :
    row ∈ (databases.move answers state).uploadedEntries ↔
      state.operation.map OperationSharedData.stationType = some .tientry ∧
        answers.counts = true ∧ answers.selects = true ∧
          0 < pendingRows .iuTkNo state.entryTrans ∧
            pendingRows .iuTkNo state.entryTrans < 2 ^ 31 ∧
              row ∈ entryUpload.reached databases.entryTypes
                (databases.entryOrdering.select state.entryTrans.rows) ∧
                (answers.rows row.id).insert.Executed := by
  unfold move moveOfflineTransToCentral
  cases hoperation : state.operation with
  | none => simp
  | some data =>
      cases hstation : data.stationType with
      | tientry =>
          simp only [hstation, Option.map_some, true_and]
          exact UploadKind.mem_move_uploaded_iff _ _ rfl row
      | tiExit => simp [hstation]
      | tiAPS => simp [hstation]

theorem id_lt_of_mem_uploadedBy {state : State} {event : SharedEvent}
    {row : LocalRow EntryColumn} (hrow : row ∈ databases.uploadedBy state event) :
    row.id < state.entryTrans.nextId := by
  cases event with
  | upload answers =>
      obtain ⟨-, -, -, -, -, hreached, -⟩ := (databases.mem_uploadedEntries_iff _ _ _).mp hrow
      have hselected := (List.takeWhile_sublist _).subset hreached
      exact state.entryTrans.id_lt row ((databases.entryOrdering.perm _).mem_iff.mp hselected)
  | _ => exact absurd hrow List.not_mem_nil

end StationDatabases

/-! ## Steps -/

namespace SharedTable

/-- One event. -/
def step (databases : StationDatabases) (table : SharedTable) (event : SharedEvent) :
    SharedTable where
  state := databases.changed table.state event
  received := table.received ++ StationDatabases.receivedBy table.state event
  uploaded := table.uploaded ++ (databases.uploadedBy table.state event).map LocalRow.id
  received_lt id hid := by
    have hle := databases.nextId_le table.state event
    rcases List.mem_append.mp hid with hold | hnew
    · exact lt_of_lt_of_le (table.received_lt id hold) hle
    · cases event with
      | broadcast zoneEntries dateTime answers fields =>
          rw [StationDatabases.nextId_broadcast]
          simp only [StationDatabases.receivedBy] at hnew
          by_cases hinserted : EntryBroadcast zoneEntries fields ∧ answers.insert.Executed
          · rw [if_pos hinserted] at hnew ⊢
            rw [List.mem_singleton.mp hnew]
            exact Nat.lt_succ_self _
          · exact absurd hnew (by simp [hinserted])
      | _ => exact absurd hnew List.not_mem_nil
  uploaded_lt id hid := by
    have hle := databases.nextId_le table.state event
    rcases List.mem_append.mp hid with hold | hnew
    · exact lt_of_lt_of_le (table.uploaded_lt id hold) hle
    · obtain ⟨row, hrow, rfl⟩ := List.mem_map.mp hnew
      exact lt_of_lt_of_le (databases.id_lt_of_mem_uploadedBy hrow) hle

/-- A row of the station's own that is not uploaded. -/
def Own (table : SharedTable) (row : LocalRow EntryColumn) : Prop :=
  row.id ∉ table.received ∧ row.id ∉ table.uploaded

instance (table : SharedTable) (row : LocalRow EntryColumn) : Decidable (table.Own row) :=
  inferInstanceAs (Decidable (_ ∧ _))

/-- The rows the station has stored itself and not uploaded are still there, unchanged. -/
structure OwnKept (table : SharedTable) (after : State) : Prop where
  entries : ∀ row ∈ table.state.entryTrans.rows, table.Own row → row ∈ after.entryTrans.rows
  exits : ∀ row ∈ table.state.exitTrans.rows, row ∈ after.exitTrans.rows

/-- An event respects the origin of the rows: an upload sends no received row, and every
other event leaves the own rows alone. -/
def Respects (databases : StationDatabases) (table : SharedTable) : SharedEvent → Prop
  | .upload answers =>
      ∀ row ∈ (databases.move answers table.state).uploadedEntries, row.id ∉ table.received
  | event => OwnKept table (databases.changed table.state event)

/-- No own row of the vehicle is stored. -/
def NoOwn (databases : StationDatabases) (table : SharedTable) (iuNo : String) : Prop :=
  ∀ row ∈ table.state.entryTrans.rows, table.Own row →
    isVehicle databases.entryTypes iuNo row.values = false

/-- Every own row of the vehicle has the status `3` already. -/
def OwnClosed (databases : StationDatabases) (table : SharedTable) (iuNo : String) : Prop :=
  ∀ row ∈ table.state.entryTrans.rows, table.Own row →
    isVehicle databases.entryTypes iuNo row.values = true → row.values .status = .text "3"

/-- An upload sees no received row, as far as it gets and as far as the central database
takes the rows. -/
def NoneReceived (databases : StationDatabases) (table : SharedTable) (answers : MoveAnswers) :
    Prop :=
  table.state.operation.map OperationSharedData.stationType = some .tientry →
    answers.counts = true → answers.selects = true →
      0 < pendingRows .iuTkNo table.state.entryTrans →
        pendingRows .iuTkNo table.state.entryTrans < 2 ^ 31 →
          ∀ row ∈ entryUpload.reached databases.entryTypes
              (databases.entryOrdering.select table.state.entryTrans.rows),
            row.id ∈ table.received → ¬(answers.rows row.id).insert.Executed

/-- The event does not reach a row it should not reach. -/
def Spared (databases : StationDatabases) (table : SharedTable) : SharedEvent → Prop
  | .broadcast zoneEntries _ answers fields =>
      (EntryBroadcast zoneEntries fields → answers.delete.Executed →
          table.NoOwn databases (vehicleOf fields)) ∧
        (ExitBroadcast fields → answers.update.Executed →
          table.OwnClosed databases (vehicleOf fields))
  | .saveEntry .. => True
  | .saveExit _ _ update exitTrans =>
      update.Executed → table.OwnClosed databases exitTrans.sIUNo
  | .upload answers => table.NoneReceived databases answers

end SharedTable

/-! What the two functions do to a row that is in the table. -/

section Rows

variable {types : ColumnTypes EntryColumn} {table : LocalTable EntryColumn}
  {row : LocalRow EntryColumn}

theorem mem_insertbroadcasttrans_iff {answers : BroadcastAnswers}
    {dateTime sid iuNo cardNo paidAmt iType : String} (hrow : row ∈ table.rows) :
    row ∈ (insertbroadcasttrans types answers dateTime sid iuNo cardNo paidAmt iType table).1.rows ↔
      (answers.delete.Executed → isVehicle types iuNo row.values = false) := by
  have hdeleted : row ∈ (answers.delete.apply
      (fun table => table.delete (isVehicle types iuNo)) table).rows ↔
        (answers.delete.Executed → isVehicle types iuNo row.values = false) := by
    unfold SqlOutcome.apply
    split
    · rename_i hexecuted
      rw [LocalTable.mem_delete]
      exact ⟨fun h _ => h.2, fun h => ⟨hrow, h hexecuted⟩⟩
    · rename_i hexecuted
      exact iff_of_true hrow fun h => absurd h hexecuted
  -- the new row has a key of its own
  have hfresh : row.id ≠ table.nextId := Nat.ne_of_lt (table.id_lt row hrow)
  rw [← hdeleted]
  unfold insertbroadcasttrans
  simp only
  by_cases hinsert : answers.insert.Executed
  · rw [SqlOutcome.apply_of_executed hinsert, LocalTable.insert, List.mem_append,
      List.mem_singleton]
    refine or_iff_left fun hnew => hfresh ?_
    rw [hnew]
    exact LocalTable.nextId_apply_delete _ _ _
  · rw [SqlOutcome.apply_of_not_executed hinsert]

theorem closedEntry_eq_iff {values : EntryColumn → SqlValue} :
    closedEntry values = values ↔ values .status = .text "3" := by
  unfold closedEntry
  rw [Function.update_eq_self_iff, eq_comm]

theorem mem_updateLocalEntry_iff {update : SqlOutcome} {iuTkNo : String}
    (hrow : row ∈ table.rows) :
    row ∈ (updateLocalEntry types update iuTkNo table).1.rows ↔
      (update.Executed → isVehicle types iuTkNo row.values = true →
        row.values .status = .text "3") := by
  unfold updateLocalEntry SqlOutcome.apply
  split
  · rename_i hexecuted
    rw [LocalTable.mem_update_iff hrow, closedEntry_eq_iff]
    exact ⟨fun h _ => h, fun h => h hexecuted⟩
  · rename_i hexecuted
    exact iff_of_true hrow fun h => absurd h hexecuted

end Rows

namespace SharedTable

variable {databases : StationDatabases} {table : SharedTable}

/-- Broadcasts do not reach the exits. -/
theorem ownKept_broadcast_iff {zoneEntries dateTime : String} {answers : BroadcastAnswers}
    {fields : List String} :
    table.OwnKept (databases.changed table.state
        (.broadcast zoneEntries dateTime answers fields)) ↔
      table.Spared databases (.broadcast zoneEntries dateTime answers fields) := by
  have hrow : ∀ row ∈ table.state.entryTrans.rows,
      (row ∈ (databases.changed table.state
          (.broadcast zoneEntries dateTime answers fields)).entryTrans.rows ↔
        (EntryBroadcast zoneEntries fields → answers.delete.Executed →
            isVehicle databases.entryTypes (vehicleOf fields) row.values = false) ∧
          (ExitBroadcast fields → answers.update.Executed →
            isVehicle databases.entryTypes (vehicleOf fields) row.values = true →
              row.values .status = .text "3")) := by
    intro row hmem
    unfold StationDatabases.changed
    simp only [broadcastSaveTrans_eq]
    by_cases hentry : EntryBroadcast zoneEntries fields
    · have hexit : ¬ExitBroadcast fields := hentry.not_exit
      rw [if_pos hentry, mem_insertbroadcasttrans_iff hmem]
      simp [hentry, hexit]
    · rw [if_neg hentry]
      by_cases hexit : ExitBroadcast fields
      · rw [if_pos hexit, mem_updateLocalEntry_iff hmem]
        simp [hentry, hexit]
      · simp [hentry, hexit, hmem]
  constructor
  · intro hkept
    exact ⟨fun hentry hexecuted row hmem hown =>
        ((hrow row hmem).mp (hkept.entries row hmem hown)).1 hentry hexecuted,
      fun hexit hexecuted row hmem hown =>
        ((hrow row hmem).mp (hkept.entries row hmem hown)).2 hexit hexecuted⟩
  · intro hspared
    exact ⟨fun row hmem hown => (hrow row hmem).mpr
        ⟨fun hentry hexecuted => hspared.1 hentry hexecuted row hmem hown,
          fun hexit hexecuted => hspared.2 hexit hexecuted row hmem hown⟩,
      fun row hmem => hmem⟩

/-- A save only adds rows. -/
theorem ownKept_saveEntry {now : String} {centraldb localdb : ConnectionAnswers}
    {tEntry : TEntryTrans} :
    table.OwnKept (databases.changed table.state (.saveEntry now centraldb localdb tEntry)) := by
  obtain ⟨hentries, hexits⟩ := insertEntryTrans_tables now centraldb localdb table.state tEntry
  refine ⟨fun row hmem _ => ?_, fun row hmem => ?_⟩
  · change row ∈ (insertEntryTrans now centraldb localdb table.state tEntry).1.entryTrans.rows
    rcases hentries with hsame | ⟨values, hinsert⟩
    · rwa [hsame]
    · rw [hinsert]
      exact List.mem_append_left _ hmem
  · change row ∈ (insertEntryTrans now centraldb localdb table.state tEntry).1.exitTrans.rows
    rwa [hexits]

theorem ownKept_saveExit_iff {centraldb localdb : ConnectionAnswers} {update : SqlOutcome}
    {exitTrans : TExitTrans} :
    table.OwnKept (databases.changed table.state
        (.saveExit centraldb localdb update exitTrans)) ↔
      (update.Executed → table.OwnClosed databases exitTrans.sIUNo) := by
  obtain ⟨hentries, hexits⟩ := insertExitTrans_tables centraldb localdb table.state exitTrans
  have hrow : ∀ row ∈ table.state.entryTrans.rows,
      (row ∈ (databases.changed table.state
          (.saveExit centraldb localdb update exitTrans)).entryTrans.rows ↔
        (update.Executed → isVehicle databases.entryTypes exitTrans.sIUNo row.values = true →
          row.values .status = .text "3")) := by
    intro row hmem
    simp only [StationDatabases.changed, insertExitTrans_iuNo, hentries]
    exact mem_updateLocalEntry_iff hmem
  constructor
  · intro hkept hexecuted row hmem hown
    exact (hrow row hmem).mp (hkept.entries row hmem hown) hexecuted
  · intro hclosed
    refine ⟨fun row hmem hown => (hrow row hmem).mpr fun hexecuted =>
      hclosed hexecuted row hmem hown, fun row hmem => ?_⟩
    change row ∈ (insertExitTrans centraldb localdb table.state exitTrans).1.exitTrans.rows
    rcases hexits with hsame | ⟨values, hinsert⟩
    · rwa [hsame]
    · rw [hinsert]
      exact List.mem_append_left _ hmem

/-- An event respects the origin of the rows exactly if it reaches none it should not. -/
theorem respects_iff (event : SharedEvent) :
    table.Respects databases event ↔ table.Spared databases event := by
  cases event with
  | broadcast zoneEntries dateTime answers fields => exact ownKept_broadcast_iff
  | saveEntry now centraldb localdb tEntry => exact iff_of_true ownKept_saveEntry trivial
  | saveExit centraldb localdb update exitTrans => exact ownKept_saveExit_iff
  | upload answers =>
      simp only [Respects, Spared, databases.mem_uploadedEntries_iff]
      constructor
      · intro hnone hstation hcounts hselects hpos hlt row hreached hreceived hexecuted
        exact hnone row ⟨hstation, hcounts, hselects, hpos, hlt, hreached, hexecuted⟩ hreceived
      · rintro hnone row ⟨hstation, hcounts, hselects, hpos, hlt, hreached, hexecuted⟩ hreceived
        exact hnone hstation hcounts hselects hpos hlt row hreached hreceived hexecuted

/-- In a run of broadcasts, saves and uploads with any outcomes, every event respects the
origin of the rows exactly if every event reaches none it should not. -/
theorem broadcasts_spare_own_iff (databases : StationDatabases) (table : SharedTable)
    (events : List SharedEvent) :
    Machine.Meets (step databases) (Respects databases) table events ↔
      Machine.Meets (step databases) (Spared databases) table events :=
  Machine.meets_congr fun _ event => respects_iff event

/-! ## A broadcast that deletes an own entry -/

/-- Databases that give back what was written. -/
def plainStation : StationDatabases :=
  ⟨plainTypes _, plainTypes _, keyOrdering _, keyOrdering _⟩

/-- An entry station that could not save the entry of a vehicle centrally. -/
def oneUnsent : SharedTable where
  state :=
    { emptyState {} with
      entryTrans := LocalTable.empty.insert (insertedRow (localEntryInsert "t" ""
        { esid := "1", sSerialNo := "0", sIUTKNo := "1234567890",
          sEntryTime := "2026-01-01 08:00:00" })) }
  received := []
  uploaded := []
  received_lt := by simp
  uploaded_lt := by simp

/-- The same vehicle is reported by another entry station of the zone. -/
def sameVehicleElsewhere : SharedEvent :=
  .broadcast ",1,2," "2026-01-01 09:00:00" ⟨.done, .done, .done⟩
    ["PMS", "2", "90", "1234567890,,,Entry OK"]

/-- The packet deletes the unsent entry. -/
theorem not_broadcasts_spare_own :
    ¬∀ (databases : StationDatabases) (table : SharedTable) (events : List SharedEvent),
        Machine.Meets (step databases) (Respects databases) table events := by
  intro hall
  have hfirst := (hall plainStation oneUnsent [sameVehicleElsewhere]).1
  have hnone := (@respects_iff plainStation _ sameVehicleElsewhere).mp hfirst
  have hvehicle := hnone.1 (by decide +kernel) (by decide) ⟨1, _⟩ (List.mem_singleton.mpr rfl)
    (by decide)
  exact absurd hvehicle (by decide +kernel)

end SharedTable

end LinuxPBS.Db

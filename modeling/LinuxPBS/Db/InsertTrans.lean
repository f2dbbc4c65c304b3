import LinuxPBS.Db.Trans

/-!
# Saving a transaction

`insertentrytrans` and `insertexittrans`.  Both try the central database first
and are meant to fall back to a table of the local database, from which
`moveOfflineTransToCentral` uploads later:

```text
operation module stopped            iLocalFail     nothing stored
central cannot be connected         → local INSERT
central connected, INSERT fails     iCentralFail   nothing stored
central connected, INSERT executed  stored centrally
```

The third line is the hole: the fallback hangs on the connection test alone, and
a statement that fails after a successful test is not retried locally.  The main
result `insertTrans_saved_iff` says that, with a local database that accepts the
row, the two functions keep the transaction exactly when that line and the first
one are avoided.

The two functions test the connection differently.  `insertexittrans` compares
`IsConnected()`, which is `0` or `1`, with `-1`, so that it disconnects and
connects again every time.
-/

namespace LinuxPBS.Db

open CxxText

/-- `DBError` -/
inductive DBError
  | iCentralFail
  | iLocalFail
  | iDBSuccess
  | iNoData
  | iUpdateFail
  | iNoentry
  | iOpen
  | iClose
  | iCentralSuccess
  | iLocalSuccess
  deriving DecidableEq, Repr

/-- The state the transaction code works on: the operation module's data, `none`
when that module is not running, the two central tables, the two local ones and
the error flags of the `db` object. -/
structure State where
  operation : Option OperationSharedData
  entryTransTmp : List (EntryColumn → SqlValue)
  exitTransTmp : List (ExitColumn → SqlValue)
  entryTrans : LocalTable EntryColumn
  exitTrans : LocalTable ExitColumn
  localDbErrFlag : ℤ
  remoteDbErrFlag : ℤ

namespace State

/-- `FnUpdateProcess`; it does nothing when the operation module is not running. -/
def updateProcess (state : State) (change : TProcess → TProcess) : State :=
  { state with
    operation := state.operation.map fun data => { data with tProcess := change data.tProcess } }

/-- `FnUpdateEntry` -/
def updateEntry (state : State) (change : TEntryTrans → TEntryTrans) : State :=
  { state with
    operation := state.operation.map fun data => { data with tEntry := change data.tEntry } }

end State

/-! ## `insertentrytrans` -/

/-- `TK_SerialNo` is an integer column: anything `std::stoi` refuses becomes `0`. -/
def serialNumber (sSerialNo : String) : String :=
  if sSerialNo = "" then "0"
  else if (stoi sSerialNo).isSome then sSerialNo else "0"

/-- The plate that is recorded: the rear one for motorcycle transactions. -/
def lprNumber (tEntry : TEntryTrans) : String :=
  if tEntry.sLPN0 ≠ "" ∨ tEntry.sLPN1 ≠ "" then
    if tEntry.iTransType = 7 ∨ tEntry.iTransType = 8 ∨ tEntry.iTransType = 22 then tEntry.sLPN1
    else tEntry.sLPN0
  else ""

/-- "Prepare entry data" -/
def prepareEntry (now : String) (tEntry : TEntryTrans) : TEntryTrans :=
  { tEntry with sEntryTime := now, sSerialNo := serialNumber tEntry.sSerialNo }

/-- The part of `insertentrytrans` at the label `processLocal`. -/
def insertEntryLocal (localdb : ConnectionAnswers) (transId : String) (tEntry : TEntryTrans)
    (state : State) : State × DBError :=
  if localdb.isConnected ≠ 1 ∧ localdb.connect ≠ 0 then (state, .iLocalFail)
  else
    let row := insertedRow (localEntryInsert transId (lprNumber tEntry) tEntry)
    let state :=
      { state with
        entryTrans := localdb.insert.apply (fun table => table.insert row) state.entryTrans }
    if localdb.insert.code ≠ 0 then (state, .iLocalFail)
    else
      (state.updateProcess fun process =>
        { process with glNoofOfflineData := process.glNoofOfflineData + 1 }, .iDBSuccess)

/-- The part of `insertentrytrans` with a connected central database. -/
def insertEntryCentral (centraldb : ConnectionAnswers) (transId : String) (tEntry : TEntryTrans)
    (state : State) : State × DBError :=
  let state := state.updateProcess fun process => { process with giSystemOnline := 0 }
  let row := insertedRow (centralEntryInsert transId (lprNumber tEntry) tEntry)
  let state :=
    { state with entryTransTmp := centraldb.insert.apply (· ++ [row]) state.entryTransTmp }
  (state, if centraldb.insert.code ≠ 0 then .iCentralFail else .iDBSuccess)

/-- `insertentrytrans`, with the entry record as the call leaves it. -/
def insertEntryTrans (now : String) (centraldb localdb : ConnectionAnswers) (state : State)
    (tEntry : TEntryTrans) : State × TEntryTrans × DBError :=
  match state.operation with
  | none => (state, tEntry, .iLocalFail)
  | some data =>
      let transId := data.tProcess.gsTransID
      let tEntry := prepareEntry now tEntry
      let state := state.updateEntry fun entry =>
        { entry with sEntryTime := tEntry.sEntryTime, sSerialNo := tEntry.sSerialNo }
      let saved :=
        if centraldb.isConnected ≠ 1 ∧ centraldb.connect ≠ 0 then
          insertEntryLocal localdb transId tEntry
            (state.updateProcess fun process => { process with giSystemOnline := 1 })
        else insertEntryCentral centraldb transId tEntry state
      (saved.1, tEntry, saved.2)

/-! ## `insertexittrans` -/

/-- "Format transaction amounts" -/
def formatExit (exitTrans : TExitTrans) : TExitTrans :=
  { exitTrans with
    sFee := gfeeFormat exitTrans.sFee
    sPaidAmt := gfeeFormat exitTrans.sPaidAmt
    sRedeemAmt := gfeeFormat exitTrans.sRedeemAmt
    sGSTAmt := gfeeFormat exitTrans.sGSTAmt }

/-- "Central DB parked_time is SMALLINT" -/
def clampParkedTime (exitTrans : TExitTrans) : TExitTrans :=
  if exitTrans.lParkedTime ≥ 32000 then { exitTrans with lParkedTime := 32000 } else exitTrans

/-- The part of `insertexittrans` under "Central unavailable". -/
def insertExitLocal (localdb : ConnectionAnswers) (transId : String) (exitTrans : TExitTrans)
    (state : State) : State × DBError :=
  if localdb.isConnected ≠ 1 ∧ localdb.connect ≠ 0 then (state, .iLocalFail)
  else
    let row := insertedRow (localExitInsert transId exitTrans)
    let state :=
      { state with
        exitTrans := localdb.insert.apply (fun table => table.insert row) state.exitTrans }
    if localdb.insert.code ≠ 0 then (state, .iLocalFail)
    else
      (state.updateProcess fun process =>
        { process with glNoofOfflineData := process.glNoofOfflineData + 1 }, .iLocalSuccess)

/-- The part of `insertexittrans` under "Insert into Central DB", after the clamping. -/
def insertExitCentral (centraldb : ConnectionAnswers) (transId : String) (exitTrans : TExitTrans)
    (state : State) : State × DBError :=
  let state := state.updateProcess fun process => { process with giSystemOnline := 0 }
  let row := insertedRow (centralExitInsert transId exitTrans)
  let state :=
    { state with exitTransTmp := centraldb.insert.apply (· ++ [row]) state.exitTransTmp }
  (state, if centraldb.insert.code ≠ 0 then .iCentralFail else .iCentralSuccess)

/-- `insertexittrans`, with the exit record as the call leaves it. -/
def insertExitTrans (centraldb localdb : ConnectionAnswers) (state : State)
    (exitTrans : TExitTrans) : State × TExitTrans × DBError :=
  match state.operation with
  | none => (state, exitTrans, .iLocalFail)
  | some data =>
      let transId := data.tProcess.gsTransID
      let exitTrans := formatExit exitTrans
      let useLocalDb := centraldb.isConnected ≠ -1 ∧ centraldb.connect ≠ 0
      if useLocalDb then
        let saved := insertExitLocal localdb transId exitTrans
          (state.updateProcess fun process => { process with giSystemOnline := 1 })
        (saved.1, exitTrans, saved.2)
      else
        let exitTrans := clampParkedTime exitTrans
        let saved := insertExitCentral centraldb transId exitTrans state
        (saved.1, exitTrans, saved.2)

/-! ## When the transaction is kept -/

/-- The call has put the entry transaction into one of its two tables. -/
def EntrySaved (before : State) (result : State × TEntryTrans × DBError) : Prop :=
  ∃ transId,
    result.1.entryTransTmp = before.entryTransTmp ++
        [insertedRow (centralEntryInsert transId (lprNumber result.2.1) result.2.1)] ∨
      result.1.entryTrans = before.entryTrans.insert
        (insertedRow (localEntryInsert transId (lprNumber result.2.1) result.2.1))

/-- The call has put the exit transaction into one of its two tables. -/
def ExitSaved (before : State) (result : State × TExitTrans × DBError) : Prop :=
  ∃ transId,
    result.1.exitTransTmp = before.exitTransTmp ++
        [insertedRow (centralExitInsert transId result.2.1)] ∨
      result.1.exitTrans = before.exitTrans.insert
        (insertedRow (localExitInsert transId result.2.1))

namespace ConnectionAnswers

/-- A local database that takes the row it is given. -/
def Accepts (answers : ConnectionAnswers) : Prop :=
  (answers.alive ∨ answers.connects) ∧ answers.insert.Executed

instance (answers : ConnectionAnswers) : Decidable answers.Accepts :=
  inferInstanceAs (Decidable (_ ∧ _))

variable {answers : ConnectionAnswers}

@[simp] theorem isConnected_ne_one_iff : answers.isConnected ≠ 1 ↔ answers.alive = false := by
  unfold isConnected
  cases answers.alive <;> decide

/-- The test of `insertexittrans`: it never fails. -/
@[simp] theorem isConnected_ne_neg_one : answers.isConnected ≠ -1 := by
  unfold isConnected
  cases answers.alive <;> decide

@[simp] theorem connect_ne_zero_iff : answers.connect ≠ 0 ↔ answers.connects = false := by
  unfold connect
  cases answers.connects <;> decide

theorem Accepts.connected (haccepts : answers.Accepts) :
    ¬(answers.alive = false ∧ answers.connects = false) := by
  rintro ⟨halive, hconnects⟩
  rcases haccepts.1 with h | h
  · exact absurd h (by simp [halive])
  · exact absurd h (by simp [hconnects])

end ConnectionAnswers

theorem SqlOutcome.apply_of_executed {σ : Type*} {outcome : SqlOutcome}
    (hexecuted : outcome.Executed) (statement : σ → σ) (table : σ) :
    outcome.apply statement table = statement table := if_pos hexecuted

theorem SqlOutcome.apply_of_not_executed {σ : Type*} {outcome : SqlOutcome}
    (hexecuted : ¬outcome.Executed) (statement : σ → σ) (table : σ) :
    outcome.apply statement table = table := if_neg hexecuted

theorem LocalTable.insert_ne {κ : Type*} (table : LocalTable κ) (values : κ → SqlValue) :
    table ≠ table.insert values := by
  intro h
  have hlength := congrArg (fun table => table.rows.length) h
  simp [LocalTable.insert] at hlength

/-! What each of the four `INSERT`s does to its table. -/

theorem insertEntryLocal_entryTrans {localdb : ConnectionAnswers} (haccepts : localdb.Accepts)
    (transId : String) (tEntry : TEntryTrans) (state : State) :
    (insertEntryLocal localdb transId tEntry state).1.entryTrans =
      state.entryTrans.insert
        (insertedRow (localEntryInsert transId (lprNumber tEntry) tEntry)) := by
  unfold insertEntryLocal
  rw [if_neg (by simpa using haccepts.connected)]
  simp only [SqlOutcome.apply_of_executed haccepts.2]
  split <;> rfl

theorem insertExitLocal_exitTrans {localdb : ConnectionAnswers} (haccepts : localdb.Accepts)
    (transId : String) (exitTrans : TExitTrans) (state : State) :
    (insertExitLocal localdb transId exitTrans state).1.exitTrans =
      state.exitTrans.insert (insertedRow (localExitInsert transId exitTrans)) := by
  unfold insertExitLocal
  rw [if_neg (by simpa using haccepts.connected)]
  simp only [SqlOutcome.apply_of_executed haccepts.2]
  split <;> rfl

theorem insertEntryCentral_tables (centraldb : ConnectionAnswers) (transId : String)
    (tEntry : TEntryTrans) (state : State) :
    (insertEntryCentral centraldb transId tEntry state).1.entryTransTmp =
        centraldb.insert.apply
          (· ++ [insertedRow (centralEntryInsert transId (lprNumber tEntry) tEntry)])
          state.entryTransTmp ∧
      (insertEntryCentral centraldb transId tEntry state).1.entryTrans = state.entryTrans :=
  ⟨rfl, rfl⟩

theorem insertExitCentral_tables (centraldb : ConnectionAnswers) (transId : String)
    (exitTrans : TExitTrans) (state : State) :
    (insertExitCentral centraldb transId exitTrans state).1.exitTransTmp =
        centraldb.insert.apply (· ++ [insertedRow (centralExitInsert transId exitTrans)])
          state.exitTransTmp ∧
      (insertExitCentral centraldb transId exitTrans state).1.exitTrans = state.exitTrans :=
  ⟨rfl, rfl⟩

/-- An entry is kept exactly when the operation module runs and the central
database either cannot be connected or executes the `INSERT`. -/
theorem insertEntryTrans_saved_iff (now : String) (centraldb : ConnectionAnswers)
    {localdb : ConnectionAnswers} (haccepts : localdb.Accepts) (state : State)
    (tEntry : TEntryTrans) :
    EntrySaved state (insertEntryTrans now centraldb localdb state tEntry) ↔
      state.operation.isSome ∧
        ((centraldb.alive = false ∧ centraldb.connects = false) ∨ centraldb.insert.Executed) := by
  cases hoperation : state.operation with
  | none =>
      simp [insertEntryTrans, hoperation, EntrySaved, LocalTable.insert_ne]
  | some data =>
      simp only [insertEntryTrans, hoperation, ConnectionAnswers.isConnected_ne_one_iff,
        ConnectionAnswers.connect_ne_zero_iff, Option.isSome_some, true_and]
      by_cases hdown : centraldb.alive = false ∧ centraldb.connects = false
      · rw [if_pos hdown]
        refine ⟨fun _ => Or.inl hdown, fun _ => ⟨data.tProcess.gsTransID, Or.inr ?_⟩⟩
        exact insertEntryLocal_entryTrans haccepts _ _ _
      · rw [if_neg hdown]
        by_cases hexecuted : centraldb.insert.Executed
        · refine ⟨fun _ => Or.inr hexecuted, fun _ => ⟨data.tProcess.gsTransID, Or.inl ?_⟩⟩
          rw [(insertEntryCentral_tables _ _ _ _).1, SqlOutcome.apply_of_executed hexecuted]
          rfl
        · simp [EntrySaved, insertEntryCentral_tables,
            SqlOutcome.apply_of_not_executed hexecuted, State.updateEntry, LocalTable.insert_ne,
            hdown, hexecuted]

/-- An exit is kept exactly when the operation module runs and the central database
either cannot be connected again or executes the `INSERT`. -/
theorem insertExitTrans_saved_iff (centraldb : ConnectionAnswers) {localdb : ConnectionAnswers}
    (haccepts : localdb.Accepts) (state : State) (exitTrans : TExitTrans) :
    ExitSaved state (insertExitTrans centraldb localdb state exitTrans) ↔
      state.operation.isSome ∧ (centraldb.connects = false ∨ centraldb.insert.Executed) := by
  cases hoperation : state.operation with
  | none =>
      simp [insertExitTrans, hoperation, ExitSaved, LocalTable.insert_ne]
  | some data =>
      simp only [insertExitTrans, hoperation, ne_eq, ConnectionAnswers.isConnected_ne_neg_one,
        not_false_eq_true, true_and, Option.isSome_some]
      by_cases hdown : centraldb.connects = false
      · rw [if_pos (ConnectionAnswers.connect_ne_zero_iff.mpr hdown)]
        refine ⟨fun _ => Or.inl hdown, fun _ => ⟨data.tProcess.gsTransID, Or.inr ?_⟩⟩
        exact insertExitLocal_exitTrans haccepts _ _ _
      · rw [if_neg (mt ConnectionAnswers.connect_ne_zero_iff.mp hdown)]
        by_cases hexecuted : centraldb.insert.Executed
        · refine ⟨fun _ => Or.inr hexecuted, fun _ => ⟨data.tProcess.gsTransID, Or.inl ?_⟩⟩
          rw [(insertExitCentral_tables _ _ _ _).1, SqlOutcome.apply_of_executed hexecuted]
        · simp [ExitSaved, insertExitCentral_tables,
            SqlOutcome.apply_of_not_executed hexecuted, LocalTable.insert_ne, hdown, hexecuted]

/-- With a local database that accepts the row, neither function loses a
transaction exactly when the operation module runs and the central database, where
it can be connected, executes the `INSERT`. -/
theorem insertTrans_saved_iff (now : String) (centraldb localdb : ConnectionAnswers)
    (haccepts : localdb.Accepts) (state : State) (tEntry : TEntryTrans)
    (exitTrans : TExitTrans) :
    (EntrySaved state (insertEntryTrans now centraldb localdb state tEntry) ↔
        state.operation.isSome ∧
          ((centraldb.alive = false ∧ centraldb.connects = false) ∨ centraldb.insert.Executed)) ∧
      (ExitSaved state (insertExitTrans centraldb localdb state exitTrans) ↔
        state.operation.isSome ∧ (centraldb.connects = false ∨ centraldb.insert.Executed)) :=
  ⟨insertEntryTrans_saved_iff now centraldb haccepts state tEntry,
    insertExitTrans_saved_iff centraldb haccepts state exitTrans⟩

/-- A running station with empty tables. -/
def emptyState (data : OperationSharedData) : State :=
  ⟨some data, [], [], .empty, .empty, 0, 0⟩

/-- Transactions saved while the central database is down are in the local tables. -/
theorem insertTrans_saved_offline :
    EntrySaved (emptyState {})
        (insertEntryTrans "2026-01-01 08:00:00" ⟨false, false, .failed⟩ ⟨true, true, .done⟩
          (emptyState {}) { sIUTKNo := "1234567890" }) ∧
      ExitSaved (emptyState {})
        (insertExitTrans ⟨false, false, .failed⟩ ⟨true, true, .done⟩ (emptyState {})
          { sIUNo := "1234567890" }) :=
  have hiff := insertTrans_saved_iff "2026-01-01 08:00:00" ⟨false, false, .failed⟩
    ⟨true, true, .done⟩ (by decide) (emptyState {}) { sIUTKNo := "1234567890" }
    { sIUNo := "1234567890" }
  ⟨hiff.1.mpr (by decide), hiff.2.mpr (by decide)⟩

/-- A central database that is connected but refuses the `INSERT`, and a local one
that would have taken the row: both transactions are lost. -/
theorem not_saved_of_central_insert_failed :
    ConnectionAnswers.Accepts ⟨true, true, .done⟩ ∧
      ¬EntrySaved (emptyState {})
        (insertEntryTrans "2026-01-01 08:00:00" ⟨true, true, .failed⟩ ⟨true, true, .done⟩
          (emptyState {}) { sIUTKNo := "1234567890" }) ∧
      ¬ExitSaved (emptyState {})
        (insertExitTrans ⟨true, true, .failed⟩ ⟨true, true, .done⟩ (emptyState {})
          { sIUNo := "1234567890" }) := by
  have haccepts : ConnectionAnswers.Accepts ⟨true, true, .done⟩ := by decide
  refine ⟨haccepts, ?_, ?_⟩
  · rw [insertEntryTrans_saved_iff _ _ haccepts]
    decide
  · rw [insertExitTrans_saved_iff _ haccepts]
    decide

end LinuxPBS.Db

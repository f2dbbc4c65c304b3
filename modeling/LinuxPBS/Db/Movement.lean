import Mathlib
import LinuxPBS.Db.MoveOffline
import LinuxPBS.Library.Machine

/-!
# Closing the movement of an exit

`movement_trans_tmp` of the central database has a row for every vehicle that came in.  A
row is open while its `exit_time` is NULL.  Three functions close it:

```text
updatemovementtrans     after an exit with a known entry     UPDATE the open rows that match
insert2movementtrans    without one, or when none matched    INSERT a row with the exit
DeleteBeforeInsertMT    in the offline upload                DELETE the open rows, then INSERT
```

`recorded_exit_closes` says when the rows are in order after every recorded exit: the
vehicle has no open row with the entry time of the exit, and exactly one row has the exit.
No statement is repeated, so each must reach the database, the `UPDATE` must match no more
than one row, and an open row must not lie outside of the zone, or beside an exit whose
entry was not found.
-/

namespace LinuxPBS.Db

open CxxText

/-! ## The table -/

/-- The columns of `movement_trans_tmp` that the program writes or compares. -/
inductive MovementColumn
  | iuTkNo
  | entryTime
  | entryStation
  | exitLpn
  | exitStation
  | exitTime
  | transType
  | cardMcNo
  | parkingFee
  | paidAmt
  | parkedTime
  | receiptNo
  | redeemAmt
  | redeemTime
  | cardType
  | topUpAmt
  | updateDt
  deriving DecidableEq, Repr

abbrev MovementRow := MovementColumn → SqlValue

/-- The row an `UPDATE … SET` leaves. -/
def updatedRow {κ : Type*} [DecidableEq κ] (columns : Insert κ) (row : κ → SqlValue)
    (column : κ) : SqlValue :=
  match columns.lookup column with
  | some literal => .text literal.value
  | none => row column

/-- "Determine Exit LPN" -/
def exitLprNo (exitTrans : TExit) : String :=
  if exitTrans.sLPN0 ≠ "" ∨ exitTrans.sLPN1 ≠ "" then
    if exitTrans.iTransType = 7 ∨ exitTrans.iTransType = 8 ∨ exitTrans.iTransType = 22 then
      exitTrans.sLPN1
    else exitTrans.sLPN0
  else ""

/-- The `SET` of `updatemovementtrans`. -/
def movementUpdate (updateTime : String) (exitTrans : TExit) : Insert MovementColumn :=
  [(.exitLpn, .quoted (exitLprNo exitTrans)),
    (.exitStation, .quoted exitTrans.xsid),
    (.exitTime, .quoted exitTrans.sExitTime),
    (.transType, .quoted (toString exitTrans.iTransType)),
    (.cardMcNo, .quoted exitTrans.sCardNo),
    (.parkingFee, .quoted (toStringFloat exitTrans.sFee)),
    (.paidAmt, .quoted (toStringFloat exitTrans.sPaidAmt)),
    (.parkedTime, .quoted (toString exitTrans.lParkedTime)),
    (.receiptNo, .quoted exitTrans.sReceiptNo),
    (.redeemAmt, .quoted (toStringFloat exitTrans.sRedeemAmt)),
    (.redeemTime, .quoted (toString exitTrans.iRedeemTime)),
    (.cardType, .quoted (toString exitTrans.iCardType)),
    (.topUpAmt, .quoted (toStringFloat exitTrans.sTopupAmt)),
    (.updateDt, .quoted updateTime)]

/-- The `INSERT` of `insert2movementtrans`. -/
def movementInsert (exitTrans : TExit) : Insert MovementColumn :=
  [(.exitLpn, .quoted (exitLprNo exitTrans)),
    (.exitStation, .bare exitTrans.xsid),
    (.exitTime, .quoted exitTrans.sExitTime),
    (.transType, .bare (toString exitTrans.iTransType)),
    (.cardMcNo, .quoted exitTrans.sCardNo),
    (.iuTkNo, .quoted exitTrans.sIUNo),
    (.parkingFee, .bare (toStringFloat exitTrans.sFee)),
    (.paidAmt, .bare (toStringFloat exitTrans.sPaidAmt)),
    (.parkedTime, .bare (toString exitTrans.lParkedTime)),
    (.receiptNo, .quoted exitTrans.sReceiptNo),
    (.redeemAmt, .bare (toStringFloat exitTrans.sRedeemAmt)),
    (.redeemTime, .bare (toString exitTrans.iRedeemTime)),
    (.cardType, .bare (toString exitTrans.iCardType)),
    (.topUpAmt, .bare (toStringFloat exitTrans.sTopupAmt))] ++
    if exitTrans.sEntryTime ≠ "" then
      [(.entryTime, .quoted exitTrans.sEntryTime),
        (.entryStation, .bare (toString exitTrans.iEntryID))]
    else []

/-- An open row, as an entry leaves it. -/
def entryRow (iuTkNo entryTime entryStation : String) : MovementRow :=
  insertedRow [(.iuTkNo, .quoted iuTkNo), (.entryTime, .quoted entryTime),
    (.entryStation, .bare entryStation)]

theorem entryRow_exitTime (iuTkNo entryTime entryStation : String) :
    entryRow iuTkNo entryTime entryStation .exitTime = .null := rfl

/-! ## The statements -/

/-- `CAST(… AS varchar(2))`: an integer that does not fit becomes a star. -/
def castVarchar2 (number : String) : String := if number.length ≤ 2 then number else "*"

/-- `CHARINDEX(',' + CAST(entry_station AS varchar(2)) + ',', zoneEntries) > 0` -/
def inZone (zoneEntries : String) (row : MovementRow) : Bool :=
  match row .entryStation with
  | .null => false
  | .text station =>
      decide (("," ++ castVarchar2 station ++ ",").toList <:+: zoneEntries.toList)

/-- The `WHERE` of `updatemovementtrans`; a late transaction has no entry time of its own. -/
def matchesMovement (zoneEntries : String) (exitTrans : TExit) (row : MovementRow) : Bool :=
  row .iuTkNo = .text exitTrans.sIUNo &&
    (exitTrans.sEntryTime = exitTrans.sExitTime || row .entryTime = .text exitTrans.sEntryTime) &&
    row .exitTime = .null && inZone zoneEntries row

/-- The outcomes of the statements about the movement of one exit. -/
structure MovementAnswers where
  update : SqlOutcome
  insert : SqlOutcome
  delete : SqlOutcome
  deriving DecidableEq, Repr

/-- "Format fee values" -/
def formatTExit (exitTrans : TExit) : TExit :=
  { exitTrans with toTExitTrans := formatExit exitTrans.toTExitTrans }

/-- `insert2movementtrans` -/
def insert2movementtrans (answers : MovementAnswers) (exitTrans : TExit)
    (movements : List MovementRow) : DBError × List MovementRow :=
  let row := insertedRow (movementInsert (formatTExit exitTrans))
  (if answers.insert.code ≠ 0 then .iCentralFail else .iCentralSuccess,
    answers.insert.apply (· ++ [row]) movements)

/-- `updatemovementtrans` -/
def updatemovementtrans (zoneEntries updateTime : String) (answers : MovementAnswers)
    (exitTrans : TExit) (movements : List MovementRow) : DBError × List MovementRow :=
  let exitTrans := formatTExit exitTrans
  let affected := movements.countP (matchesMovement zoneEntries exitTrans)
  let movements := answers.update.apply
    (fun movements => movements.map fun row =>
      if matchesMovement zoneEntries exitTrans row then
        updatedRow (movementUpdate updateTime exitTrans) row
      else row) movements
  if answers.update.code ≠ 0 then (.iCentralFail, movements)
  else if 0 < affected then (.iCentralSuccess, movements)
  else (.iCentralSuccess, (insert2movementtrans answers exitTrans movements).2)

/-- The row is open and has the entry of the exit: the `WHERE` of `DeleteBeforeInsertMT`. -/
def opened (exitTrans : TExitTrans) (row : MovementRow) : Bool :=
  row .iuTkNo = .text exitTrans.sIUNo && row .entryTime = .text exitTrans.sEntryTime &&
    row .exitTime = .null

/-- `DeleteBeforeInsertMT` -/
def deleteBeforeInsertMT (answers : MovementAnswers) (exitTrans : TExitTrans)
    (movements : List MovementRow) : List MovementRow :=
  answers.delete.apply (fun movements => movements.filter fun row => !opened exitTrans row)
    movements

/-- The rows after the statements of `SaveExit`. -/
def closedMovements (zoneEntries updateTime : String) (answers : MovementAnswers)
    (exitTrans : TExit) (movements : List MovementRow) : List MovementRow :=
  if exitTrans.bNoEntryRecord = 0 then
    (updatemovementtrans zoneEntries updateTime answers exitTrans movements).2
  else (insert2movementtrans answers exitTrans movements).2

/-! ## Saving and uploading -/

/-- The tables of the two databases.  `exits` is history: the exits whose `INSERT` into
`exit_trans_tmp` was executed, in order. -/
structure Ledger where
  state : State
  movements : List MovementRow
  exits : List TExitTrans

/-- What the databases of a station are like. -/
structure ExitDatabases where
  zoneEntries : String
  entryTypes : ColumnTypes EntryColumn
  exitTypes : ColumnTypes ExitColumn
  entryOrdering : Ordering EntryColumn
  exitOrdering : Ordering ExitColumn

/-- The `INSERT` of `insertexittrans` reaches the central database. -/
def StoresCentrally (centraldb : ConnectionAnswers) (state : State) : Prop :=
  state.operation.isSome ∧ centraldb.connect = 0 ∧ centraldb.insert.Executed

instance (centraldb : ConnectionAnswers) (state : State) :
    Decidable (StoresCentrally centraldb state) := inferInstanceAs (Decidable (_ ∧ _ ∧ _))

/-- The statements of `SaveExit` about the exit and its movement. -/
def saveExitTrans (databases : ExitDatabases) (centraldb localdb : ConnectionAnswers)
    (answers : MovementAnswers) (updateTime : String) (exitTrans : TExit) (ledger : Ledger) :
    Ledger :=
  let saved := insertExitTrans centraldb localdb ledger.state exitTrans.toTExitTrans
  let stored := { exitTrans with toTExitTrans := saved.2.1 }
  { state := saved.1
    movements :=
      if saved.2.2 = .iCentralSuccess then
        closedMovements databases.zoneEntries updateTime answers stored ledger.movements
      else ledger.movements
    exits := if StoresCentrally centraldb ledger.state then ledger.exits ++ [saved.2.1]
      else ledger.exits }

/-- What one turn of the upload does to the movements, and the history. -/
def uploadMovement (answers : RowAnswers) (movement : MovementAnswers) (record : TExitTrans)
    (books : List MovementRow × List TExitTrans) : List MovementRow × List TExitTrans :=
  (if answers.insert.code ≠ 0 then books.1
    else (insert2movementtrans movement { toTExitTrans := record }
      (deleteBeforeInsertMT movement record books.1)).2,
    answers.insert.apply (· ++ [record]) books.2)

/-- The turns of `uploadRows`, with what they do to the movements. -/
def uploadMovements (types : ColumnTypes ExitColumn) (answers : ℕ → RowAnswers)
    (movement : ℕ → MovementAnswers) :
    List (LocalRow ExitColumn) → List MovementRow × List TExitTrans →
      List MovementRow × List TExitTrans
  | [], books => books
  | row :: rest, books =>
      match exitUpload.readRow types row with
      | none => books
      | some record =>
          uploadMovements types answers movement rest
            (uploadMovement (answers row.id) (movement row.id) record books)

/-- The rows `moveOfflineTransToCentral` goes through at an exit. -/
def uploadedRows (databases : ExitDatabases) (answers : MoveAnswers) (state : State) :
    List (LocalRow ExitColumn) :=
  match state.operation with
  | some data =>
      if data.stationType = .tiExit ∧ answers.counts = true ∧ answers.selects = true ∧
          0 < (stoi (pendingText ExitColumn.iuTkNo state.exitTrans)).getD 0 then
        databases.exitOrdering.select state.exitTrans.rows
      else []
  | none => []

/-- `moveOfflineTransToCentral` with the calls about the movements. -/
def uploadExits (databases : ExitDatabases) (answers : MoveAnswers)
    (movement : ℕ → MovementAnswers) (ledger : Ledger) : Ledger :=
  let books := uploadMovements databases.exitTypes answers.rows movement
    (uploadedRows databases answers ledger.state) (ledger.movements, ledger.exits)
  { state := (moveOfflineTransToCentral databases.entryTypes databases.exitTypes
      databases.entryOrdering databases.exitOrdering answers ledger.state).state
    movements := books.1
    exits := books.2 }

/-- What happens to the tables. -/
inductive MovementEvent
  /-- the central server has recorded an entry -/
  | entry (iuTkNo entryTime entryStation : String)
  | saveExit (centraldb localdb : ConnectionAnswers) (answers : MovementAnswers)
      (updateTime : String) (exitTrans : TExit)
  | upload (answers : MoveAnswers) (movement : ℕ → MovementAnswers)

namespace Ledger

def step (databases : ExitDatabases) (ledger : Ledger) : MovementEvent → Ledger
  | .entry iuTkNo entryTime entryStation =>
      { ledger with
        movements := ledger.movements ++ [entryRow iuTkNo entryTime entryStation] }
  | .saveExit centraldb localdb answers updateTime exitTrans =>
      saveExitTrans databases centraldb localdb answers updateTime exitTrans ledger
  | .upload answers movement => uploadExits databases answers movement ledger

end Ledger

/-! ## Rows in order -/

/-- The row has the exit. -/
def closedBy (exitTrans : TExitTrans) (row : MovementRow) : Bool :=
  row .iuTkNo = .text exitTrans.sIUNo && row .exitTime = .text exitTrans.sExitTime

/-- The movement of an exit is closed. -/
structure MovementClosed (movements : List MovementRow) (exitTrans : TExitTrans) : Prop where
  noneOpen : ∀ row ∈ movements, opened exitTrans row = false
  once : movements.countP (closedBy exitTrans) = 1

/-- No row has the exit yet. -/
def Unrecorded (movements : List MovementRow) (exitTrans : TExitTrans) : Prop :=
  ∀ row ∈ movements, closedBy exitTrans row = false

/-- What a statement about an exit does to the rows of the others. -/
structure SparesOthers (exitTrans : TExitTrans) (before after : List MovementRow) : Prop where
  opened : ∀ row ∈ after, row .exitTime = .null → row ∈ before
  closed : ∀ other : TExitTrans,
    ¬(other.sIUNo = exitTrans.sIUNo ∧ other.sExitTime = exitTrans.sExitTime) →
      after.countP (closedBy other) = before.countP (closedBy other)

section Rows

variable {exitTrans other : TExitTrans} {row : MovementRow} {before after : List MovementRow}

theorem opened_iff : opened exitTrans row = true ↔
    row .iuTkNo = .text exitTrans.sIUNo ∧ row .entryTime = .text exitTrans.sEntryTime ∧
      row .exitTime = .null := by
  simp [opened, and_assoc]

theorem closedBy_iff : closedBy exitTrans row = true ↔
    row .iuTkNo = .text exitTrans.sIUNo ∧ row .exitTime = .text exitTrans.sExitTime := by
  simp [closedBy]

/-- An exit that no row has is not one whose movement is closed. -/
theorem ne_of_unrecorded (hunrecorded : Unrecorded before exitTrans)
    (hsettled : MovementClosed before other) :
    ¬(other.sIUNo = exitTrans.sIUNo ∧ other.sExitTime = exitTrans.sExitTime) := by
  rintro ⟨hiu, htime⟩
  have hpos : 0 < before.countP (closedBy other) := by rw [hsettled.once]; decide
  obtain ⟨row, hrow, hclosed⟩ := List.countP_pos_iff.mp hpos
  have hfalse := hunrecorded row hrow
  rw [closedBy_iff, hiu, htime, ← closedBy_iff, hfalse] at hclosed
  exact absurd hclosed (by decide)

/-- Two records of one exit. -/
structure SameExit (first second : TExitTrans) : Prop where
  iuNo : first.sIUNo = second.sIUNo
  entryTime : first.sEntryTime = second.sEntryTime
  exitTime : first.sExitTime = second.sExitTime

namespace SameExit

theorem opened_eq (hsame : SameExit other exitTrans) : opened other = opened exitTrans := by
  unfold opened
  rw [hsame.iuNo, hsame.entryTime]

theorem closedBy_eq (hsame : SameExit other exitTrans) : closedBy other = closedBy exitTrans := by
  unfold closedBy
  rw [hsame.iuNo, hsame.exitTime]

theorem unrecorded_iff (hsame : SameExit other exitTrans) :
    Unrecorded before other ↔ Unrecorded before exitTrans := by
  unfold Unrecorded
  rw [hsame.closedBy_eq]

theorem settled (hsame : SameExit other exitTrans) (hsettled : MovementClosed before other) :
    MovementClosed before exitTrans where
  noneOpen := hsame.opened_eq ▸ hsettled.noneOpen
  once := hsame.closedBy_eq ▸ hsettled.once

theorem spares (hsame : SameExit other exitTrans) (hspares : SparesOthers other before after) :
    SparesOthers exitTrans before after where
  opened := hspares.opened
  closed third hne := hspares.closed third (by rwa [hsame.iuNo, hsame.exitTime])

end SameExit

theorem SparesOthers.refl : SparesOthers exitTrans before before :=
  ⟨fun _ hrow _ => hrow, fun _ _ => rfl⟩

theorem SparesOthers.trans {middle : List MovementRow}
    (hfirst : SparesOthers exitTrans before middle)
    (hsecond : SparesOthers exitTrans middle after) : SparesOthers exitTrans before after where
  opened row hrow hopen := hfirst.opened row (hsecond.opened row hrow hopen) hopen
  closed other hne := (hsecond.closed other hne).trans (hfirst.closed other hne)

/-- The movements that are closed stay closed. -/
theorem MovementClosed.of_spares (hspares : SparesOthers exitTrans before after)
    (hunrecorded : Unrecorded before exitTrans) (hsettled : MovementClosed before other) :
    MovementClosed after other where
  noneOpen row hrow := by
    by_contra hopened
    rw [Bool.not_eq_false, opened_iff] at hopened
    have hfalse := hsettled.noneOpen row (hspares.opened row hrow hopened.2.2)
    rw [← opened_iff, hfalse] at hopened
    exact absurd hopened (by decide)
  once := by
    rw [hspares.closed other (ne_of_unrecorded hunrecorded hsettled), hsettled.once]

end Rows

/-! ## The statements one by one -/

section Statements

variable {answers : MovementAnswers} {movements : List MovementRow}

/-! The update. -/

section Update

variable {zoneEntries updateTime : String} {exitTrans : TExit} {row : MovementRow}

theorem matchesMovement_iff : matchesMovement zoneEntries exitTrans row = true ↔
    row .iuTkNo = .text exitTrans.sIUNo ∧
      (exitTrans.sEntryTime = exitTrans.sExitTime ∨
        row .entryTime = .text exitTrans.sEntryTime) ∧
      row .exitTime = .null ∧ inZone zoneEntries row = true := by
  simp [matchesMovement, and_assoc]

@[simp] theorem updatedRow_iuTkNo :
    updatedRow (movementUpdate updateTime exitTrans) row .iuTkNo = row .iuTkNo := rfl

@[simp] theorem updatedRow_exitTime :
    updatedRow (movementUpdate updateTime exitTrans) row .exitTime =
      .text exitTrans.sExitTime := rfl

/-- The rows after the `UPDATE`. -/
def updatedRows (zoneEntries updateTime : String) (exitTrans : TExit)
    (movements : List MovementRow) : List MovementRow :=
  movements.map fun row =>
    if matchesMovement zoneEntries exitTrans row then
      updatedRow (movementUpdate updateTime exitTrans) row
    else row

/-- A row that is open after the `UPDATE` was open before and did not match. -/
theorem open_of_mem_updatedRows
    (hrow : row ∈ updatedRows zoneEntries updateTime exitTrans movements)
    (hopen : row .exitTime = .null) :
    row ∈ movements ∧ matchesMovement zoneEntries exitTrans row = false := by
  obtain ⟨old, hold, rfl⟩ := List.mem_map.mp hrow
  split_ifs at hopen ⊢ with hmatches
  · rw [updatedRow_exitTime] at hopen
    exact absurd hopen (by simp)
  · exact ⟨hold, by simpa using hmatches⟩

theorem spares_updatedRows : SparesOthers exitTrans.toTExitTrans movements
    (updatedRows zoneEntries updateTime exitTrans movements) where
  opened row hrow hopen := (open_of_mem_updatedRows hrow hopen).1
  closed other hne := by
    unfold updatedRows
    rw [List.countP_map]
    apply List.countP_congr
    intro row _
    rw [Function.comp_apply]
    split_ifs with hmatches
    · obtain ⟨hiu, -, hopen, -⟩ := matchesMovement_iff.mp hmatches
      rw [closedBy_iff, closedBy_iff, updatedRow_iuTkNo, updatedRow_exitTime, hiu, hopen]
      simp only [SqlValue.text.injEq, reduceCtorEq, and_false, iff_false]
      exact fun h => hne ⟨h.1.symm, h.2.symm⟩
    · rfl

/-- The rows that match have the exit afterwards, and no others. -/
theorem countP_updatedRows (hunrecorded : Unrecorded movements exitTrans.toTExitTrans) :
    (updatedRows zoneEntries updateTime exitTrans movements).countP
        (closedBy exitTrans.toTExitTrans) =
      movements.countP (matchesMovement zoneEntries exitTrans) := by
  unfold updatedRows
  rw [List.countP_map]
  apply List.countP_congr
  intro row hrow
  rw [Function.comp_apply]
  split_ifs with hmatches
  · obtain ⟨hiu, -, -, -⟩ := matchesMovement_iff.mp hmatches
    rw [closedBy_iff, updatedRow_iuTkNo, updatedRow_exitTime, hiu]
    simp [hmatches]
  · simp [hunrecorded row hrow, hmatches]

end Update

/-! The insert. -/

section Insert

variable {exitTrans : TExit}

theorem insertedRow_iuTkNo :
    insertedRow (movementInsert exitTrans) .iuTkNo = .text exitTrans.sIUNo := rfl

theorem insertedRow_exitTime :
    insertedRow (movementInsert exitTrans) .exitTime = .text exitTrans.sExitTime := rfl

theorem spares_inserted (exitTrans : TExit) : SparesOthers exitTrans.toTExitTrans movements
    (insert2movementtrans answers exitTrans movements).2 := by
  unfold insert2movementtrans SqlOutcome.apply
  dsimp only
  split_ifs with hexecuted
  · constructor
    · intro row hrow hopen
      rcases List.mem_append.mp hrow with hold | hnew
      · exact hold
      · rw [List.mem_singleton.mp hnew, insertedRow_exitTime] at hopen
        exact absurd hopen (by simp)
    · intro other hne
      have hfalse : closedBy other (insertedRow (movementInsert (formatTExit exitTrans))) =
          false := by
        rw [← Bool.not_eq_true, closedBy_iff, insertedRow_iuTkNo, insertedRow_exitTime]
        simp only [SqlValue.text.injEq]
        exact fun h => hne ⟨h.1.symm, h.2.symm⟩
      rw [List.countP_append, List.countP_singleton, hfalse]
      rfl
  · exact SparesOthers.refl

theorem countP_inserted (hexecuted : answers.insert.Executed) :
    (insert2movementtrans answers exitTrans movements).2.countP
        (closedBy exitTrans.toTExitTrans) =
      movements.countP (closedBy exitTrans.toTExitTrans) + 1 := by
  have hnew : closedBy exitTrans.toTExitTrans
      (insertedRow (movementInsert (formatTExit exitTrans))) = true :=
    closedBy_iff.mpr ⟨rfl, rfl⟩
  unfold insert2movementtrans
  dsimp only
  rw [SqlOutcome.apply_of_executed hexecuted, List.countP_append, List.countP_singleton, hnew]
  rfl

end Insert

/-! The delete. -/

section Delete

variable {exitTrans : TExitTrans}

theorem spares_deleted :
    SparesOthers exitTrans movements (deleteBeforeInsertMT answers exitTrans movements) := by
  unfold deleteBeforeInsertMT SqlOutcome.apply
  split_ifs with hexecuted
  · constructor
    · intro row hrow _
      exact List.mem_of_mem_filter hrow
    · intro other _
      rw [List.countP_filter]
      apply List.countP_congr
      intro row _
      simp only [Bool.and_eq_true, Bool.not_eq_true', and_iff_left_iff_imp]
      intro hclosed
      rw [← Bool.not_eq_true, opened_iff, (closedBy_iff.mp hclosed).2]
      simp
  · exact SparesOthers.refl

end Delete

end Statements

/-! ## When the movement is closed -/

/-- No open row has the entry of the exit. -/
def NoneOpen (movements : List MovementRow) (exitTrans : TExitTrans) : Prop :=
  ∀ row ∈ movements, opened exitTrans row = false

/-- The statements of `SaveExit` close the movement: every open row with the entry is in the
zone, at most one row matches, and the statements that are needed are executed. -/
def ClosesMovement (zoneEntries : String) (answers : MovementAnswers)
    (movements : List MovementRow) (exitTrans : TExit) : Prop :=
  if exitTrans.bNoEntryRecord = 0 then
    (∀ row ∈ movements, opened exitTrans.toTExitTrans row = true →
        matchesMovement zoneEntries exitTrans row = true) ∧
      (movements.countP (matchesMovement zoneEntries exitTrans) = 1 ∧ answers.update.Executed ∨
        movements.countP (matchesMovement zoneEntries exitTrans) = 0 ∧
          answers.update = .done ∧ answers.insert.Executed)
  else NoneOpen movements exitTrans.toTExitTrans ∧ answers.insert.Executed

/-- The statements of the upload close it. -/
def UploadCloses (movement : MovementAnswers) (movements : List MovementRow)
    (exitTrans : TExitTrans) : Prop :=
  (movement.delete.Executed ∨ NoneOpen movements exitTrans) ∧ movement.insert.Executed

section Closing

variable {zoneEntries updateTime : String} {answers : MovementAnswers}
  {movements : List MovementRow}

/-- Rounding the amounts leaves the exit the same. -/
theorem sameExit_formatTExit (exitTrans : TExit) :
    SameExit (formatTExit exitTrans).toTExitTrans exitTrans.toTExitTrans := ⟨rfl, rfl, rfl⟩

theorem updatemovementtrans_snd (exitTrans : TExit) :
    (updatemovementtrans zoneEntries updateTime answers exitTrans movements).2 =
      if answers.update = .done ∧
          movements.countP (matchesMovement zoneEntries exitTrans) = 0 then
        (insert2movementtrans answers (formatTExit exitTrans) (answers.update.apply
          (updatedRows zoneEntries updateTime (formatTExit exitTrans)) movements)).2
      else answers.update.apply
        (updatedRows zoneEntries updateTime (formatTExit exitTrans)) movements := by
  have hmatches : matchesMovement zoneEntries (formatTExit exitTrans) =
      matchesMovement zoneEntries exitTrans := rfl
  unfold updatemovementtrans
  dsimp only
  rw [hmatches]
  by_cases hdone : answers.update = .done
  · rw [if_neg (by simpa using hdone)]
    by_cases hnone : movements.countP (matchesMovement zoneEntries exitTrans) = 0
    · rw [if_neg (by omega), if_pos ⟨hdone, hnone⟩]
      rfl
    · rw [if_pos (by omega), if_neg (fun h => hnone h.2)]
      rfl
  · rw [if_pos (by simpa using hdone), if_neg (fun h => hdone h.1)]
    rfl

theorem unrecorded_iff {exitTrans : TExitTrans} :
    Unrecorded movements exitTrans ↔ movements.countP (closedBy exitTrans) = 0 := by
  simp [Unrecorded, List.countP_eq_zero]

/-- An `INSERT` beside no open row. -/
theorem settled_inserted {exitTrans : TExit} (hnone : NoneOpen movements exitTrans.toTExitTrans)
    (hunrecorded : Unrecorded movements exitTrans.toTExitTrans)
    (hexecuted : answers.insert.Executed) :
    MovementClosed (insert2movementtrans answers exitTrans movements).2 exitTrans.toTExitTrans where
  noneOpen row hrow := by
    by_contra hopened
    rw [Bool.not_eq_false] at hopened
    have hfalse := hnone row
      ((spares_inserted _).opened row hrow (opened_iff.mp hopened).2.2)
    rw [hopened] at hfalse
    exact absurd hfalse (by decide)
  once := by
    rw [countP_inserted hexecuted, unrecorded_iff.mp hunrecorded]

theorem spares_updatemovementtrans (exitTrans : TExit) :
    SparesOthers exitTrans.toTExitTrans movements
      (updatemovementtrans zoneEntries updateTime answers exitTrans movements).2 := by
  have hupdated : SparesOthers exitTrans.toTExitTrans movements (answers.update.apply
      (updatedRows zoneEntries updateTime (formatTExit exitTrans)) movements) := by
    unfold SqlOutcome.apply
    split_ifs
    · exact (sameExit_formatTExit _).spares spares_updatedRows
    · exact SparesOthers.refl
  rw [updatemovementtrans_snd]
  split_ifs
  · exact hupdated.trans ((sameExit_formatTExit _).spares (spares_inserted _))
  · exact hupdated

/-- An `UPDATE` that matches the open rows with the entry, and no more than one row. -/
theorem settled_updatemovementtrans {exitTrans : TExit}
    (hunrecorded : Unrecorded movements exitTrans.toTExitTrans)
    (hzone : ∀ row ∈ movements, opened exitTrans.toTExitTrans row = true →
      matchesMovement zoneEntries exitTrans row = true)
    (hone : movements.countP (matchesMovement zoneEntries exitTrans) = 1 ∧
        answers.update.Executed ∨
      movements.countP (matchesMovement zoneEntries exitTrans) = 0 ∧
        answers.update = .done ∧ answers.insert.Executed) :
    MovementClosed (updatemovementtrans zoneEntries updateTime answers exitTrans movements).2
      exitTrans.toTExitTrans := by
  have hexecuted : answers.update.Executed := by
    rcases hone with ⟨-, hexecuted⟩ | ⟨-, hdone, -⟩
    · exact hexecuted
    · rw [hdone]
      decide
  have hsame := sameExit_formatTExit exitTrans
  have hcount : (updatedRows zoneEntries updateTime (formatTExit exitTrans) movements).countP
      (closedBy (formatTExit exitTrans).toTExitTrans) =
        movements.countP (matchesMovement zoneEntries exitTrans) :=
    countP_updatedRows (hsame.unrecorded_iff.mpr hunrecorded)
  have hnone : NoneOpen (updatedRows zoneEntries updateTime (formatTExit exitTrans) movements)
      (formatTExit exitTrans).toTExitTrans := by
    intro row hrow
    by_contra hopened
    rw [Bool.not_eq_false, hsame.opened_eq] at hopened
    obtain ⟨hbefore, hunmatched⟩ := open_of_mem_updatedRows hrow (opened_iff.mp hopened).2.2
    have hmatched : matchesMovement zoneEntries (formatTExit exitTrans) row = true :=
      hzone row hbefore hopened
    rw [hunmatched] at hmatched
    exact absurd hmatched (by decide)
  apply hsame.settled
  rw [updatemovementtrans_snd, SqlOutcome.apply_of_executed hexecuted]
  rcases hone with ⟨hmatch, -⟩ | ⟨hmatch, hdone, hinserted⟩
  · rw [if_neg (by rw [hmatch]; simp)]
    exact ⟨hnone, hcount.trans hmatch⟩
  · rw [if_pos ⟨hdone, hmatch⟩]
    exact settled_inserted hnone (unrecorded_iff.mpr (hcount.trans hmatch)) hinserted

theorem spares_closing (exitTrans : TExit) : SparesOthers exitTrans.toTExitTrans movements
    (closedMovements zoneEntries updateTime answers exitTrans movements) := by
  unfold closedMovements
  split_ifs
  · exact spares_updatemovementtrans exitTrans
  · exact spares_inserted exitTrans

theorem settled_closing (updateTime : String) {exitTrans : TExit}
    (hunrecorded : Unrecorded movements exitTrans.toTExitTrans)
    (hcloses : ClosesMovement zoneEntries answers movements exitTrans) :
    MovementClosed (closedMovements zoneEntries updateTime answers exitTrans movements)
      exitTrans.toTExitTrans := by
  unfold closedMovements
  unfold ClosesMovement at hcloses
  split_ifs at hcloses ⊢
  · exact settled_updatemovementtrans hunrecorded hcloses.1 hcloses.2
  · exact settled_inserted hcloses.1 hunrecorded hcloses.2

/-- The condition is about the vehicle and the two times. -/
theorem ClosesMovement.of_sameExit {exitTrans other : TExit}
    (hcloses : ClosesMovement zoneEntries answers movements exitTrans)
    (hsame : SameExit other.toTExitTrans exitTrans.toTExitTrans)
    (hentry : other.bNoEntryRecord = exitTrans.bNoEntryRecord) :
    ClosesMovement zoneEntries answers movements other := by
  have hmatches : matchesMovement zoneEntries other = matchesMovement zoneEntries exitTrans := by
    unfold matchesMovement
    rw [hsame.iuNo, hsame.entryTime, hsame.exitTime]
  unfold ClosesMovement NoneOpen
  rw [hmatches, hsame.opened_eq, hentry]
  exact hcloses

/-- The upload of an exit. -/
theorem settled_uploaded (exitTrans : TExit)
    (hunrecorded : Unrecorded movements exitTrans.toTExitTrans)
    (hcloses : UploadCloses answers movements exitTrans.toTExitTrans) :
    MovementClosed (insert2movementtrans answers exitTrans
      (deleteBeforeInsertMT answers exitTrans.toTExitTrans movements)).2
        exitTrans.toTExitTrans := by
  apply settled_inserted _ _ hcloses.2
  · intro row hrow
    rcases hcloses.1 with hdeleted | hnone
    · unfold deleteBeforeInsertMT at hrow
      rw [SqlOutcome.apply_of_executed hdeleted, List.mem_filter] at hrow
      simpa using hrow.2
    · by_contra hopened
      rw [Bool.not_eq_false] at hopened
      have hfalse := hnone row (spares_deleted.opened row hrow (opened_iff.mp hopened).2.2)
      rw [hopened] at hfalse
      exact absurd hfalse (by decide)
  · intro row hrow
    apply hunrecorded row
    unfold deleteBeforeInsertMT SqlOutcome.apply at hrow
    split_ifs at hrow
    · exact List.mem_of_mem_filter hrow
    · exact hrow

end Closing

/-! ## Whole runs -/

/-- The rows of an upload that reach `exit_trans_tmp` close their movements, one after the
other. -/
def UploadsClose (types : ColumnTypes ExitColumn) (answers : ℕ → RowAnswers)
    (movement : ℕ → MovementAnswers) :
    List (LocalRow ExitColumn) → List MovementRow × List TExitTrans → Prop
  | [], _ => True
  | row :: rest, books =>
      match exitUpload.readRow types row with
      | none => True
      | some record =>
          ((answers row.id).insert.Executed →
            (answers row.id).insert = .done ∧ Unrecorded books.1 record ∧
              UploadCloses (movement row.id) books.1 record) ∧
          UploadsClose types answers movement rest
            (uploadMovement (answers row.id) (movement row.id) record books)

/-- The movement of every exit that an event records is closed with it; an entry that is
recorded later is not that of an exit. -/
def Ledger.Closes (databases : ExitDatabases) (ledger : Ledger) : MovementEvent → Prop
  | .entry iuTkNo entryTime _ =>
      ∀ exitTrans ∈ ledger.exits,
        ¬(exitTrans.sIUNo = iuTkNo ∧ exitTrans.sEntryTime = entryTime)
  | .saveExit centraldb _ answers _ exitTrans =>
      StoresCentrally centraldb ledger.state →
        centraldb.insert = .done ∧ Unrecorded ledger.movements exitTrans.toTExitTrans ∧
          ClosesMovement databases.zoneEntries answers ledger.movements exitTrans
  | .upload answers movement =>
      UploadsClose databases.exitTypes answers.rows movement
        (uploadedRows databases answers ledger.state) (ledger.movements, ledger.exits)

/-- Every exit that has been recorded has its movement closed. -/
def AllClosed (movements : List MovementRow) (exits : List TExitTrans) : Prop :=
  ∀ exitTrans ∈ exits, MovementClosed movements exitTrans

section Runs

variable {movements after : List MovementRow} {exits : List TExitTrans} {exitTrans : TExitTrans}

/-- One more exit. -/
theorem AllClosed.append (hall : AllClosed movements exits)
    (hunrecorded : Unrecorded movements exitTrans)
    (hspares : SparesOthers exitTrans movements after)
    (hsettled : MovementClosed after exitTrans) : AllClosed after (exits ++ [exitTrans]) := by
  intro other hother
  rcases List.mem_append.mp hother with hold | hnew
  · exact (hall other hold).of_spares hspares hunrecorded
  · rw [List.mem_singleton.mp hnew]
    exact hsettled

theorem AllClosed.entry (hall : AllClosed movements exits) {iuTkNo entryTime : String}
    (hlater : ∀ exitTrans ∈ exits,
      ¬(exitTrans.sIUNo = iuTkNo ∧ exitTrans.sEntryTime = entryTime)) (entryStation : String) :
    AllClosed (movements ++ [entryRow iuTkNo entryTime entryStation]) exits := by
  intro other hother
  have hsettled := hall other hother
  have hclosed : closedBy other (entryRow iuTkNo entryTime entryStation) = false := by
    rw [← Bool.not_eq_true, closedBy_iff, entryRow_exitTime]
    simp
  constructor
  · intro row hrow
    rcases List.mem_append.mp hrow with hold | hnew
    · exact hsettled.noneOpen row hold
    · rw [List.mem_singleton.mp hnew, ← Bool.not_eq_true, opened_iff]
      intro h
      have hiu : SqlValue.text iuTkNo = .text other.sIUNo := h.1
      have htime : SqlValue.text entryTime = .text other.sEntryTime := h.2.1
      exact hlater other hother ⟨(SqlValue.text.inj hiu).symm, (SqlValue.text.inj htime).symm⟩
  · rw [List.countP_append, List.countP_singleton, hclosed, hsettled.once]
    rfl

theorem AllClosed.uploadMovement {answers : RowAnswers} {movement : MovementAnswers}
    (hall : AllClosed movements exits)
    (hcloses : answers.insert.Executed → answers.insert = .done ∧
      Unrecorded movements exitTrans ∧ UploadCloses movement movements exitTrans) :
    AllClosed (uploadMovement answers movement exitTrans (movements, exits)).1
      (uploadMovement answers movement exitTrans (movements, exits)).2 := by
  unfold Db.uploadMovement
  dsimp only
  by_cases hexecuted : answers.insert.Executed
  · obtain ⟨hdone, hunrecorded, hcloses⟩ := hcloses hexecuted
    rw [if_neg (by simpa using hdone), SqlOutcome.apply_of_executed hexecuted]
    exact hall.append hunrecorded
      (spares_deleted.trans (spares_inserted { toTExitTrans := exitTrans }))
      (settled_uploaded { toTExitTrans := exitTrans } hunrecorded hcloses)
  · have hfailed : answers.insert.code ≠ 0 := by
      rw [ne_eq, SqlOutcome.code_eq_zero_iff]
      intro hdone
      exact hexecuted (by rw [hdone]; decide)
    rw [if_pos hfailed, SqlOutcome.apply_of_not_executed hexecuted]
    exact hall

theorem AllClosed.uploadMovements {types : ColumnTypes ExitColumn} {answers : ℕ → RowAnswers}
    {movement : ℕ → MovementAnswers} {rows : List (LocalRow ExitColumn)}
    (hall : AllClosed movements exits)
    (hcloses : UploadsClose types answers movement rows (movements, exits)) :
    AllClosed (uploadMovements types answers movement rows (movements, exits)).1
      (uploadMovements types answers movement rows (movements, exits)).2 := by
  induction rows generalizing movements exits with
  | nil => exact hall
  | cons row rest ih =>
      unfold UploadsClose at hcloses
      unfold Db.uploadMovements
      cases hread : exitUpload.readRow types row with
      | none => exact hall
      | some record =>
          rw [hread] at hcloses
          exact ih (hall.uploadMovement hcloses.1) hcloses.2

/-- The exit that `insertexittrans` stores, its amounts and its parked time apart. -/
theorem sameExit_insertExitTrans (centraldb localdb : ConnectionAnswers) (state : State)
    (exitTrans : TExitTrans) :
    SameExit (insertExitTrans centraldb localdb state exitTrans).2.1 exitTrans := by
  have hclamp (record : TExitTrans) : SameExit (clampParkedTime record) record := by
    unfold clampParkedTime
    split_ifs <;> exact ⟨rfl, rfl, rfl⟩
  unfold insertExitTrans
  cases state.operation with
  | none => exact ⟨rfl, rfl, rfl⟩
  | some data =>
      dsimp only
      split_ifs
      · exact ⟨rfl, rfl, rfl⟩
      · have hrecord := hclamp (formatExit exitTrans)
        exact ⟨hrecord.iuNo, hrecord.entryTime, hrecord.exitTime⟩

theorem insertExitTrans_central_iff (centraldb localdb : ConnectionAnswers) (state : State)
    (exitTrans : TExitTrans) :
    (insertExitTrans centraldb localdb state exitTrans).2.2 = .iCentralSuccess ↔
      StoresCentrally centraldb state ∧ centraldb.insert = .done := by
  unfold insertExitTrans StoresCentrally
  cases hoperation : state.operation with
  | none => simp
  | some data =>
      simp only [ne_eq, ConnectionAnswers.isConnected_ne_neg_one, not_false_eq_true, true_and,
        Option.isSome_some]
      by_cases hconnect : centraldb.connect = 0
      · rw [if_neg (not_not.mpr hconnect)]
        cases hinsert : centraldb.insert <;>
          simp [insertExitCentral, hinsert, hconnect, SqlOutcome.code, SqlOutcome.Executed]
      · rw [if_pos hconnect]
        simp only [hconnect, false_and, iff_false]
        unfold insertExitLocal
        dsimp only
        split_ifs <;> simp

theorem AllClosed.saveExitTrans {databases : ExitDatabases} {centraldb localdb : ConnectionAnswers}
    {answers : MovementAnswers} {updateTime : String} {exitTrans : TExit} {ledger : Ledger}
    (hall : AllClosed ledger.movements ledger.exits)
    (hcloses : ledger.Closes databases
      (.saveExit centraldb localdb answers updateTime exitTrans)) :
    AllClosed
      (saveExitTrans databases centraldb localdb answers updateTime exitTrans ledger).movements
      (saveExitTrans databases centraldb localdb answers updateTime exitTrans ledger).exits := by
  have hsame := sameExit_insertExitTrans centraldb localdb ledger.state exitTrans.toTExitTrans
  unfold Db.saveExitTrans
  dsimp only
  by_cases hstores : StoresCentrally centraldb ledger.state
  · obtain ⟨hdone, hunrecorded, hmovement⟩ := hcloses hstores
    rw [if_pos ((insertExitTrans_central_iff _ _ _ _).mpr ⟨hstores, hdone⟩), if_pos hstores]
    generalize (insertExitTrans centraldb localdb ledger.state exitTrans.toTExitTrans).2.1 =
      stored at hsame
    have hstored := hsame.unrecorded_iff.mpr hunrecorded
    have hcloses : ClosesMovement databases.zoneEntries answers ledger.movements
        { exitTrans with toTExitTrans := stored } := hmovement.of_sameExit hsame rfl
    have hsettled := settled_closing updateTime hstored hcloses
    exact hall.append hstored (spares_closing { exitTrans with toTExitTrans := stored }) hsettled
  · rw [if_neg (fun h => hstores ((insertExitTrans_central_iff _ _ _ _).mp h).1),
      if_neg hstores]
    exact hall

end Runs

/-! The history is what the central table has received. -/

section History

/-- The number and the time of the exits in `exit_trans_tmp`. -/
def storedExits (state : State) : List (SqlValue × SqlValue) :=
  state.exitTransTmp.map fun row => (row .iuTkNo, row .exitTime)

/-- The same of the history. -/
def exitKeys (exits : List TExitTrans) : List (SqlValue × SqlValue) :=
  exits.map fun exitTrans => (.text exitTrans.sIUNo, .text exitTrans.sExitTime)

theorem exitKeys_append (first second : List TExitTrans) :
    exitKeys (first ++ second) = exitKeys first ++ exitKeys second := List.map_append

theorem exitTransTmp_insertExitTrans (centraldb localdb : ConnectionAnswers) (state : State)
    (exitTrans : TExitTrans) :
    storedExits (insertExitTrans centraldb localdb state exitTrans).1 =
      storedExits state ++
        if StoresCentrally centraldb state then
          exitKeys [(insertExitTrans centraldb localdb state exitTrans).2.1]
        else [] := by
  by_cases hstores : StoresCentrally centraldb state
  · rw [if_pos hstores]
    obtain ⟨hoperation, hconnect, hexecuted⟩ := hstores
    obtain ⟨data, hdata⟩ := Option.isSome_iff_exists.mp hoperation
    unfold insertExitTrans
    simp only [hdata, hconnect, ne_eq, not_true_eq_false, and_false, if_false]
    unfold storedExits
    rw [(insertExitCentral_tables _ _ _ _).1, SqlOutcome.apply_of_executed hexecuted,
      List.map_append]
    rfl
  · rw [if_neg hstores, List.append_nil]
    unfold insertExitTrans
    cases hoperation : state.operation with
    | none => rfl
    | some data =>
        dsimp only
        split_ifs with hlocal
        · unfold insertExitLocal
          dsimp only
          split_ifs <;> rfl
        · have hconnect : centraldb.connect = 0 := by
            by_contra hdown
            exact hlocal ⟨ConnectionAnswers.isConnected_ne_neg_one, hdown⟩
          have hfailed : ¬centraldb.insert.Executed := fun hexecuted =>
            hstores ⟨by rw [hoperation]; rfl, hconnect, hexecuted⟩
          unfold storedExits
          rw [(insertExitCentral_tables _ _ _ _).1, SqlOutcome.apply_of_not_executed hfailed]

theorem central_uploadMovements {types : ColumnTypes ExitColumn} {answers : ℕ → RowAnswers}
    {movement : ℕ → MovementAnswers} {rows : List (LocalRow ExitColumn)}
    {run : Uploading ExitColumn} {books : List MovementRow × List TExitTrans}
    {before : List (SqlValue × SqlValue)}
    (hsame : run.central.map (fun row => (row .iuTkNo, row .exitTime)) =
      before ++ exitKeys books.2) :
    (exitUpload.uploadRows types answers rows run).central.map
        (fun row => (row .iuTkNo, row .exitTime)) =
      before ++ exitKeys (uploadMovements types answers movement rows books).2 := by
  induction rows generalizing run books with
  | nil => exact hsame
  | cons row rest ih =>
      unfold UploadKind.uploadRows uploadMovements
      cases hread : exitUpload.readRow types row with
      | none => exact hsame
      | some record =>
          apply ih
          rw [UploadKind.uploadRow_central]
          unfold uploadMovement
          dsimp only
          by_cases hexecuted : (answers row.id).insert.Executed
          · rw [SqlOutcome.apply_of_executed hexecuted, SqlOutcome.apply_of_executed hexecuted,
              List.map_append, hsame, exitKeys_append, List.append_assoc]
            rfl
          · rw [SqlOutcome.apply_of_not_executed hexecuted,
              SqlOutcome.apply_of_not_executed hexecuted]
            exact hsame

theorem central_move {types : ColumnTypes ExitColumn} {ordering : Ordering ExitColumn}
    {answers : MoveAnswers} {movement : ℕ → MovementAnswers} {run : Uploading ExitColumn}
    {books : List MovementRow × List TExitTrans} {before : List (SqlValue × SqlValue)}
    (hsame : run.central.map (fun row => (row .iuTkNo, row .exitTime)) =
      before ++ exitKeys books.2) :
    (exitUpload.move types ordering answers run).central.map
        (fun row => (row .iuTkNo, row .exitTime)) =
      before ++ exitKeys (uploadMovements types answers.rows movement
        (if answers.counts = true ∧ answers.selects = true ∧
            0 < (stoi (pendingText ExitColumn.iuTkNo run.localTrans)).getD 0 then
          ordering.select run.localTrans.rows
        else []) books).2 := by
  have hcolumn : exitUpload.iuColumn = .iuTkNo := rfl
  unfold UploadKind.move
  rw [hcolumn]
  cases answers.counts with
  | false => simpa [uploadMovements] using hsame
  | true =>
      cases stoi (pendingText ExitColumn.iuTkNo run.localTrans) with
      | none => simpa [uploadMovements] using hsame
      | some pendingCount =>
          cases answers.selects with
          | false =>
              dsimp only
              split_ifs <;> simp_all [uploadMovements]
          | true =>
              by_cases hpending : pendingCount ≤ 0
              · simpa [uploadMovements, hpending, not_lt.mpr hpending] using hsame
              · simp only [hpending, not_le.mp hpending, and_self, if_true, if_false,
                  Bool.true_eq_false, Option.getD_some]
                exact central_uploadMovements hsame

theorem storedExits_uploadExits (databases : ExitDatabases) (answers : MoveAnswers)
    (movement : ℕ → MovementAnswers) {ledger : Ledger} {before : List (SqlValue × SqlValue)}
    (hsame : storedExits ledger.state = before ++ exitKeys ledger.exits) :
    storedExits (uploadExits databases answers movement ledger).state =
      before ++ exitKeys (uploadExits databases answers movement ledger).exits := by
  unfold uploadExits moveOfflineTransToCentral uploadedRows
  cases hoperation : ledger.state.operation with
  | none => exact hsame
  | some data =>
      cases hstation : data.stationType with
      | tientry =>
          simp only [hstation, reduceCtorEq, false_and, if_false]
          exact hsame
      | tiAPS =>
          simp only [hstation, reduceCtorEq, false_and, if_false]
          exact hsame
      | tiExit =>
          simp only [hstation, true_and]
          exact central_move hsame

/-- The history lists the exits in `exit_trans_tmp`. -/
theorem storedExits_run (databases : ExitDatabases) (ledger : Ledger) (hnone : ledger.exits = [])
    (events : List MovementEvent) :
    storedExits (Machine.run (Ledger.step databases) ledger events).state =
      storedExits ledger.state ++
        exitKeys (Machine.run (Ledger.step databases) ledger events).exits := by
  have hstart : storedExits ledger.state = storedExits ledger.state ++ exitKeys ledger.exits := by
    rw [hnone, exitKeys, List.map_nil, List.append_nil]
  have hstep : ∀ (current : Ledger) event,
      storedExits current.state = storedExits ledger.state ++ exitKeys current.exits →
        storedExits (current.step databases event).state =
          storedExits ledger.state ++ exitKeys (current.step databases event).exits := by
    intro current event hsame
    cases event with
    | entry => exact hsame
    | saveExit centraldb localdb answers updateTime exitTrans =>
        unfold Ledger.step saveExitTrans
        dsimp only
        rw [exitTransTmp_insertExitTrans, hsame, List.append_assoc]
        split_ifs
        · rw [← exitKeys_append]
        · rw [List.append_nil]
    | upload answers movement => exact storedExits_uploadExits databases answers movement hsame
  exact Machine.run_keeps hstep hstart events

end History

/-- In every run whose events close the movements of the exits they record, every exit that
has been recorded, at once or by a later upload, leaves no open row with its entry and is in
exactly one row. -/
theorem recorded_exit_closes (databases : ExitDatabases) {ledger : Ledger}
    (hnone : ledger.exits = []) {events : List MovementEvent}
    (hcloses : Machine.Meets (Ledger.step databases) (Ledger.Closes databases) ledger events) :
    ∀ exitTrans ∈ (Machine.run (Ledger.step databases) ledger events).exits,
      MovementClosed (Machine.run (Ledger.step databases) ledger events).movements exitTrans := by
  have hstart : AllClosed ledger.movements ledger.exits := by
    intro exitTrans hexit
    rw [hnone] at hexit
    exact absurd hexit (by simp)
  have hstep : ∀ (ledger : Ledger) event, AllClosed ledger.movements ledger.exits →
      ledger.Closes databases event →
        AllClosed (ledger.step databases event).movements (ledger.step databases event).exits := by
    intro ledger event hall hallowed
    cases event with
    | entry iuTkNo entryTime entryStation => exact hall.entry hallowed entryStation
    | saveExit centraldb localdb answers updateTime exitTrans =>
        exact hall.saveExitTrans hallowed
    | upload answers movement => exact hall.uploadMovements hallowed
  exact Machine.run_invariant hstep hstart hcloses

/-! ## A vehicle that leaves at noon -/

instance (movements : List MovementRow) (exitTrans : TExitTrans) :
    Decidable (Unrecorded movements exitTrans) := by unfold Unrecorded; infer_instance

instance (movements : List MovementRow) (exitTrans : TExitTrans) :
    Decidable (NoneOpen movements exitTrans) := by unfold NoneOpen; infer_instance

instance (zoneEntries : String) (answers : MovementAnswers) (movements : List MovementRow)
    (exitTrans : TExit) : Decidable (ClosesMovement zoneEntries answers movements exitTrans) := by
  unfold ClosesMovement
  infer_instance

/-- An exit station of the zone of entry 1, whose databases keep what is written. -/
def plainDatabases : ExitDatabases :=
  ⟨",1,", plainTypes _, plainTypes _, keyOrdering _, keyOrdering _⟩

def plainLedger : Ledger := ⟨emptyState { stationType := .tiExit }, [], []⟩

def noonExit : TExit :=
  { sIUNo := "1234567890", sEntryTime := "2026-01-01 08:00:00",
    sExitTime := "2026-01-01 12:00:00", bNoEntryRecord := 0 }

/-- A vehicle comes in at eight and leaves at noon. -/
def noonEvents (update : SqlOutcome) : List MovementEvent :=
  [.entry "1234567890" "2026-01-01 08:00:00" "1",
    .saveExit ⟨true, true, .done⟩ ⟨true, true, .done⟩ ⟨update, .done, .done⟩
      "2026-01-01 12:00:00" noonExit]

/-- The tables after it. -/
def noonLedger (update : SqlOutcome) : Ledger :=
  Machine.run (Ledger.step plainDatabases) plainLedger (noonEvents update)

/-- The theorem for that vehicle, with every statement executed. -/
theorem recorded_exit_closes_noon :
    (noonLedger .done).exits.length = 1 ∧ ∀ exitTrans ∈ (noonLedger .done).exits,
      MovementClosed (noonLedger .done).movements exitTrans :=
  ⟨by decide +kernel, recorded_exit_closes plainDatabases rfl
    ⟨fun _ hexit => absurd hexit List.not_mem_nil, fun _ => by decide +kernel, trivial⟩⟩

/-- The exit is stored, the `UPDATE` after it fails, and the movement stays open. -/
theorem not_recorded_exit_closes :
    ¬∀ events : List MovementEvent,
      ∀ exitTrans ∈ (Machine.run (Ledger.step plainDatabases) plainLedger events).exits,
        MovementClosed (Machine.run (Ledger.step plainDatabases) plainLedger events).movements
          exitTrans := by
  intro h
  have hrows : (noonLedger .failed).exits.map (fun exitTrans =>
      (noonLedger .failed).movements.countP (closedBy exitTrans)) = [0] := by decide +kernel
  have hzero := List.mem_singleton.mpr (rfl : 0 = 0)
  rw [← hrows, List.mem_map] at hzero
  obtain ⟨exitTrans, hexit, hcount⟩ := hzero
  have hclosed : MovementClosed (noonLedger .failed).movements exitTrans := h _ exitTrans hexit
  rw [hclosed.once] at hcount
  exact absurd hcount (by decide)

end LinuxPBS.Db

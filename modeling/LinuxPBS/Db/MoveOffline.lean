import LinuxPBS.Db.InsertTrans

/-!
# Uploading the offline transactions

`moveOfflineTransToCentral` selects the whole local table once and then, row by
row, reads the row back, inserts it into the central table and, when that
returned `0`, deletes it locally with `deleteLocalTrans`:

```text
DELETE FROM Entry_Trans WHERE iu_tk_no = '…' AND Entry_Time = '…'
```

The pair in the `WHERE` is no key.  A delete that follows the upload of one row
takes every other row with the same number and time along, whether or not that
row was or ever will be inserted centrally.  `moveOffline_noneLost_iff` says that
this is the only way to lose a row: a run can lose nothing, whatever calls fail,
exactly when no row the loop can reach deletes another one.

A conversion that throws ends the loop and leaves the rest of the rows for the
next run, so only the rows before the first unreadable one are reached.

The entry and the exit loop are one definition, `uploadRows`, over the parts in
which they differ.  The calls of `DeleteBeforeInsertMT` and
`insert2movementtrans` in the exit loop are left out: they catch every exception
and touch neither of the two tables.
-/

namespace LinuxPBS.Db

open CxxText

variable {κ τ : Type*} [DecidableEq κ]

/-! ## The loop -/

/-- What the entry and the exit loop of `moveOfflineTransToCentral` do not share. -/
structure UploadKind (κ τ : Type*) where
  /-- the conversions of the selected columns, which may throw -/
  read : (κ → String) → Option τ
  insert : τ → Insert κ
  iuColumn : κ
  timeColumn : κ
  iuNo : τ → String
  transTime : τ → String

/-- The branch of `tientry` with `insertTransToCentralEntryTransTmp`. -/
def entryUpload : UploadKind EntryColumn TEntryTrans where
  read := readEntryTrans
  insert := uploadEntryInsert
  iuColumn := .iuTkNo
  timeColumn := .entryTime
  iuNo := TEntryTrans.sIUTKNo
  transTime := TEntryTrans.sEntryTime

/-- The branch of `tiExit` with `insertTransToCentralExitTransTmp`. -/
def exitUpload : UploadKind ExitColumn TExitTrans where
  read := readExitTrans
  insert := uploadExitInsert
  iuColumn := .iuTkNo
  timeColumn := .exitTime
  iuNo := TExitTrans.sIUNo
  transTime := TExitTrans.sExitTime

/-- The outcomes of the two statements about one row. -/
structure RowAnswers where
  insert : SqlOutcome
  delete : SqlOutcome
  deriving DecidableEq, Repr

/-- The state of a run.  `uploaded` is history: the rows whose `INSERT` was
executed, in order. -/
structure Uploading (κ : Type*) where
  localTrans : LocalTable κ
  central : List (κ → SqlValue)
  offlineStatus : ℤ
  localDbErrFlag : ℤ
  remoteDbErrFlag : ℤ
  uploaded : List (LocalRow κ)

namespace UploadKind

variable (kind : UploadKind κ τ) (types : ColumnTypes κ)

/-- The transaction the loop makes of a row. -/
def readRow (row : LocalRow κ) : Option τ := kind.read (types.getDataItem row.values)

/-- The `WHERE` of `deleteLocalTrans`. -/
def matching (record : τ) (values : κ → SqlValue) : Bool :=
  types.isEqual values kind.iuColumn (kind.iuNo record) &&
    types.isEqual values kind.timeColumn (kind.transTime record)

/-- `insertTransToCentralEntryTransTmp` and its exit twin. -/
def insertCentral (outcome : SqlOutcome) (row : LocalRow κ) (record : τ) (run : Uploading κ) :
    Uploading κ :=
  { run with
    central := outcome.apply (· ++ [insertedRow (kind.insert record)]) run.central
    uploaded := outcome.apply (· ++ [row]) run.uploaded
    remoteDbErrFlag := if outcome.code = 0 then 0 else 1 }

/-- `deleteLocalTrans` and the flags set after it. -/
def deleteLocal (outcome : SqlOutcome) (record : τ) (run : Uploading κ) : Uploading κ :=
  { run with
    localTrans := outcome.apply (fun table => table.delete (kind.matching types record))
      run.localTrans
    localDbErrFlag := if outcome.code = 0 then 0 else 1
    remoteDbErrFlag := 0 }

/-- One turn of the loop for a row that could be read. -/
def uploadRow (answers : RowAnswers) (row : LocalRow κ) (record : τ) (run : Uploading κ) :
    Uploading κ :=
  let run := kind.insertCentral answers.insert row record run
  if answers.insert.code ≠ 0 then { run with remoteDbErrFlag := 1 }
  else kind.deleteLocal types answers.delete record run

/-- The loop over the selected rows.  A conversion that throws is caught outside of
the loop. -/
def uploadRows (answers : ℕ → RowAnswers) : List (LocalRow κ) → Uploading κ → Uploading κ
  | [], run => run
  | row :: rest, run =>
      match kind.readRow types row with
      | none => { run with localDbErrFlag := 1 }
      | some record => uploadRows answers rest (kind.uploadRow types (answers row.id) row record run)

end UploadKind

/-! ## The whole function -/

/-- The rows a `SELECT` without `WHERE` returns: all of them, in an order of the
database's choice.  The query asks for descending times; nothing depends on it. -/
structure Ordering (κ : Type*) where
  select : List (LocalRow κ) → List (LocalRow κ)
  perm : ∀ rows, (select rows).Perm rows

/-- The outcomes of the calls of one run. -/
structure MoveAnswers where
  /-- the `SELECT count(iu_tk_no)` returns `0` -/
  counts : Bool
  /-- the `SELECT` of the rows returns `0` -/
  selects : Bool
  rows : ℕ → RowAnswers

/-- The rows `count(iu_tk_no)` counts: those where it is not NULL. -/
def pendingRows (iuColumn : κ) (table : LocalTable κ) : ℕ :=
  table.rows.countP fun row => decide (row.values iuColumn ≠ .null)

/-- The answer to `SELECT count(iu_tk_no)`. -/
def pendingText (iuColumn : κ) (table : LocalTable κ) : String :=
  toString (pendingRows iuColumn table : ℤ)

/-- `moveOfflineTransToCentral` after the reset of the offline status, for one of the
two kinds of station. -/
def UploadKind.move (kind : UploadKind κ τ) (types : ColumnTypes κ) (ordering : Ordering κ)
    (answers : MoveAnswers) (run : Uploading κ) : Uploading κ :=
  if answers.counts = false then { run with localDbErrFlag := 1 }
  else
    match stoi (pendingText kind.iuColumn run.localTrans) with
    | none => { run with localDbErrFlag := 1 }
    | some pendingCount =>
        if pendingCount ≤ 0 then { run with localDbErrFlag := 0 }
        else
          let run := { run with offlineStatus := 1 }
          if answers.selects = false then { run with localDbErrFlag := 1 }
          else
            kind.uploadRows types answers.rows (ordering.select run.localTrans.rows)
              { run with localDbErrFlag := 0 }

/-- What `moveOfflineTransToCentral` leaves, with the rows it has inserted centrally. -/
structure Moved where
  state : State
  uploadedEntries : List (LocalRow EntryColumn)
  uploadedExits : List (LocalRow ExitColumn)

/-- `moveOfflineTransToCentral` -/
def moveOfflineTransToCentral (entryTypes : ColumnTypes EntryColumn)
    (exitTypes : ColumnTypes ExitColumn) (entryOrdering : Ordering EntryColumn)
    (exitOrdering : Ordering ExitColumn) (answers : MoveAnswers) (state : State) : Moved :=
  match state.operation with
  | none => ⟨state, [], []⟩
  | some data =>
      match data.stationType with
      | .tientry =>
          let run := entryUpload.move entryTypes entryOrdering answers
            ⟨state.entryTrans, state.entryTransTmp, 0, state.localDbErrFlag,
              state.remoteDbErrFlag, []⟩
          let state := state.updateProcess fun process =>
            { process with offlineStatus := run.offlineStatus }
          ⟨{ state with
              entryTrans := run.localTrans
              entryTransTmp := run.central
              localDbErrFlag := run.localDbErrFlag
              remoteDbErrFlag := run.remoteDbErrFlag }, run.uploaded, []⟩
      | .tiExit =>
          let run := exitUpload.move exitTypes exitOrdering answers
            ⟨state.exitTrans, state.exitTransTmp, 0, state.localDbErrFlag,
              state.remoteDbErrFlag, []⟩
          let state := state.updateProcess fun process =>
            { process with offlineStatus := run.offlineStatus }
          ⟨{ state with
              exitTrans := run.localTrans
              exitTransTmp := run.central
              localDbErrFlag := run.localDbErrFlag
              remoteDbErrFlag := run.remoteDbErrFlag }, [], run.uploaded⟩
      | .tiAPS => ⟨state, [], []⟩

/-! ## What the loop keeps -/

namespace UploadKind

variable {kind : UploadKind κ τ} {types : ColumnTypes κ}

/-- The upload of `row` deletes `other`. -/
def Deletes (kind : UploadKind κ τ) (types : ColumnTypes κ) (row other : LocalRow κ) : Prop :=
  ∃ record, kind.readRow types row = some record ∧ kind.matching types record other.values = true

/-- No row is lost: what was in the table still is, or has been uploaded. -/
def Kept (table : LocalTable κ) (run : Uploading κ) : Prop :=
  ∀ row ∈ table.rows, row ∈ run.localTrans.rows ∨ row ∈ run.uploaded

/-- The rows in front of the first one that cannot be read. -/
def reached (kind : UploadKind κ τ) (types : ColumnTypes κ) (rows : List (LocalRow κ)) :
    List (LocalRow κ) :=
  rows.takeWhile fun row => (kind.readRow types row).isSome

omit [DecidableEq κ] in
theorem reached_cons_none {row : LocalRow κ} {rest : List (LocalRow κ)}
    (hread : kind.readRow types row = none) : kind.reached types (row :: rest) = [] := by
  simp [reached, hread]

omit [DecidableEq κ] in
theorem reached_cons_some {row : LocalRow κ} {rest : List (LocalRow κ)} {record : τ}
    (hread : kind.readRow types row = some record) :
    kind.reached types (row :: rest) = row :: kind.reached types rest := by
  simp [reached, hread]

/-! What one turn does to the local table and to the history. -/

theorem uploadRow_localTrans (answers : RowAnswers) (row : LocalRow κ) (record : τ)
    (run : Uploading κ) :
    (kind.uploadRow types answers row record run).localTrans =
      if answers.insert = .done then
        answers.delete.apply (fun table => table.delete (kind.matching types record))
          run.localTrans
      else run.localTrans := by
  unfold uploadRow
  by_cases hdone : answers.insert = .done
  · rw [if_neg (by simpa using hdone), if_pos hdone]
    rfl
  · rw [if_pos (by simpa using hdone), if_neg hdone]
    rfl

theorem uploadRow_uploaded (answers : RowAnswers) (row : LocalRow κ) (record : τ)
    (run : Uploading κ) :
    (kind.uploadRow types answers row record run).uploaded =
      answers.insert.apply (· ++ [row]) run.uploaded := by
  unfold uploadRow
  split <;> rfl

theorem uploadRow_central (answers : RowAnswers) (row : LocalRow κ) (record : τ)
    (run : Uploading κ) :
    (kind.uploadRow types answers row record run).central =
      answers.insert.apply (· ++ [insertedRow (kind.insert record)]) run.central := by
  unfold uploadRow
  split <;> rfl

/-- A row leaves the local table in a turn only through the delete of that turn. -/
theorem mem_uploadRow_or (answers : RowAnswers) {row other : LocalRow κ} {record : τ}
    {run : Uploading κ} (hother : other ∈ run.localTrans.rows) :
    other ∈ (kind.uploadRow types answers row record run).localTrans.rows ∨
      (kind.matching types record other.values = true ∧ answers.insert = .done) := by
  rw [uploadRow_localTrans]
  by_cases hdone : answers.insert = .done
  · rw [if_pos hdone]
    unfold SqlOutcome.apply
    split
    · rw [LocalTable.mem_delete]
      cases hmatching : kind.matching types record other.values with
      | true => exact Or.inr ⟨rfl, hdone⟩
      | false => exact Or.inl ⟨hother, rfl⟩
    · exact Or.inl hother
  · rw [if_neg hdone]
    exact Or.inl hother

/-- Nothing ever comes back to the local table. -/
theorem mem_of_mem_uploadRow {answers : RowAnswers} {row other : LocalRow κ} {record : τ}
    {run : Uploading κ}
    (hother : other ∈ (kind.uploadRow types answers row record run).localTrans.rows) :
    other ∈ run.localTrans.rows := by
  rw [uploadRow_localTrans] at hother
  split at hother
  · unfold SqlOutcome.apply at hother
    split at hother
    · exact (LocalTable.mem_delete.mp hother).1
    · exact hother
  · exact hother

theorem mem_uploaded_uploadRow_iff {answers : RowAnswers} {row other : LocalRow κ} {record : τ}
    {run : Uploading κ} :
    other ∈ (kind.uploadRow types answers row record run).uploaded ↔
      other ∈ run.uploaded ∨ (other = row ∧ answers.insert.Executed) := by
  rw [uploadRow_uploaded]
  unfold SqlOutcome.apply
  split <;> simp_all

/-- One turn loses nothing when it deletes no row but its own. -/
theorem Kept.uploadRow {table : LocalTable κ} {run : Uploading κ} (hkept : Kept table run)
    {row : LocalRow κ} {record : τ} (hread : kind.readRow types row = some record)
    (hsafe : ∀ other ∈ table.rows, kind.Deletes types row other → other = row)
    (answers : RowAnswers) : Kept table (kind.uploadRow types answers row record run) := by
  intro other hother
  rcases hkept other hother with hlocal | huploaded
  · rcases mem_uploadRow_or answers hlocal with hstays | ⟨hmatching, hdone⟩
    · exact Or.inl hstays
    · have hself := hsafe other hother ⟨record, hread, hmatching⟩
      exact Or.inr (mem_uploaded_uploadRow_iff.mpr (Or.inr ⟨hself, by rw [hdone]; decide⟩))
  · exact Or.inr (mem_uploaded_uploadRow_iff.mpr (Or.inl huploaded))

/-- A whole run loses nothing when no row it reaches deletes another one. -/
theorem Kept.uploadRows {table : LocalTable κ} (answers : ℕ → RowAnswers)
    {rows : List (LocalRow κ)}
    (hsafe : ∀ row ∈ kind.reached types rows, ∀ other ∈ table.rows,
      kind.Deletes types row other → other = row)
    {run : Uploading κ} (hkept : Kept table run) :
    Kept table (kind.uploadRows types answers rows run) := by
  induction rows generalizing run with
  | nil => exact hkept
  | cons row rest ih =>
      unfold UploadKind.uploadRows
      cases hread : kind.readRow types row with
      | none => exact hkept
      | some record =>
          rw [reached_cons_some hread] at hsafe
          refine ih (fun next hnext => hsafe next (List.mem_cons_of_mem _ hnext)) ?_
          exact hkept.uploadRow hread (hsafe row List.mem_cons_self) (answers row.id)

/-! ## What the loop can lose -/

theorem mem_of_mem_uploadRows {answers : ℕ → RowAnswers} {rows : List (LocalRow κ)}
    {run : Uploading κ} {other : LocalRow κ}
    (hother : other ∈ (kind.uploadRows types answers rows run).localTrans.rows) :
    other ∈ run.localTrans.rows := by
  induction rows generalizing run with
  | nil => exact hother
  | cons row rest ih =>
      unfold uploadRows at hother
      cases hread : kind.readRow types row with
      | none =>
          rw [hread] at hother
          exact hother
      | some record =>
          rw [hread] at hother
          exact mem_of_mem_uploadRow (ih hother)

/-- Only rows whose `INSERT` was executed enter the history. -/
theorem executed_of_mem_uploaded {answers : ℕ → RowAnswers} {rows : List (LocalRow κ)}
    {run : Uploading κ} {other : LocalRow κ}
    (hother : other ∈ (kind.uploadRows types answers rows run).uploaded) :
    other ∈ run.uploaded ∨ (answers other.id).insert.Executed := by
  induction rows generalizing run with
  | nil => exact Or.inl hother
  | cons row rest ih =>
      unfold uploadRows at hother
      cases hread : kind.readRow types row with
      | none =>
          rw [hread] at hother
          exact Or.inl hother
      | some record =>
          rw [hread] at hother
          rcases ih hother with hturn | hexecuted
          · rcases mem_uploaded_uploadRow_iff.mp hturn with hbefore | ⟨rfl, hexecuted⟩
            · exact Or.inl hbefore
            · exact Or.inr hexecuted
          · exact Or.inr hexecuted

/-- The run in which every call about `row` succeeds and every other `INSERT` fails. -/
def onlyRow (row : LocalRow κ) (id : ℕ) : RowAnswers :=
  if id = row.id then ⟨.done, .done⟩ else ⟨.failed, .failed⟩

/-- In that run everything `row` deletes is gone. -/
theorem not_mem_of_deletes {row other : LocalRow κ} (hdeletes : kind.Deletes types row other)
    {rows : List (LocalRow κ)} (hrow : row ∈ kind.reached types rows) (run : Uploading κ) :
    other ∉ (kind.uploadRows types (onlyRow row) rows run).localTrans.rows := by
  induction rows generalizing run with
  | nil => exact absurd hrow (by simp [reached])
  | cons first rest ih =>
      cases hread : kind.readRow types first with
      | none => simp [reached_cons_none hread] at hrow
      | some record =>
          rw [reached_cons_some hread] at hrow
          unfold uploadRows
          rw [hread]
          rcases List.mem_cons.mp hrow with rfl | hlater
          · intro hother
            obtain ⟨record', hread', hmatching⟩ := hdeletes
            obtain rfl : record = record' := Option.some.inj (hread.symm.trans hread')
            have hstays := mem_of_mem_uploadRows hother
            rw [uploadRow_localTrans, onlyRow, if_pos rfl, if_pos rfl,
              SqlOutcome.apply_of_executed (by decide), LocalTable.mem_delete] at hstays
            exact absurd hmatching (by simp [hstays.2])
          · exact ih hlater _

/-- The loop loses nothing, whatever calls fail, exactly when no row it reaches
deletes another one. -/
theorem uploadRows_kept_iff {table : LocalTable κ} {rows : List (LocalRow κ)}
    (hperm : rows.Perm table.rows) (run : Uploading κ) (hlocal : run.localTrans = table)
    (huploaded : run.uploaded = []) :
    (∀ answers, Kept table (kind.uploadRows types answers rows run)) ↔
      ∀ row ∈ kind.reached types rows, ∀ other ∈ table.rows,
        kind.Deletes types row other → other = row := by
  constructor
  · intro hall row hrow other hother hdeletes
    rcases hall (onlyRow row) other hother with hstays | hup
    · exact absurd hstays (not_mem_of_deletes hdeletes hrow run)
    · rcases executed_of_mem_uploaded hup with hbefore | hexecuted
      · simp [huploaded] at hbefore
      · have hid : other.id = row.id := by
          by_contra hne
          simp [onlyRow, hne, SqlOutcome.Executed] at hexecuted
        have hmem : row ∈ table.rows := hperm.mem_iff.mp (List.takeWhile_sublist _ |>.subset hrow)
        exact LocalTable.eq_of_id_eq hother hmem hid
  · intro hsafe answers
    exact Kept.uploadRows answers hsafe fun row hrow => Or.inl (hlocal ▸ hrow)

/-- No reached row deletes another one, unless nothing is reached: `std::stoi` of the
count throws from `2 ^ 31` rows on, and a count of `0` ends the run. -/
def Safe (kind : UploadKind κ τ) (types : ColumnTypes κ) (ordering : Ordering κ)
    (table : LocalTable κ) : Prop :=
  0 < pendingRows kind.iuColumn table → pendingRows kind.iuColumn table < 2 ^ 31 →
    ∀ row ∈ kind.reached types (ordering.select table.rows), ∀ other ∈ table.rows,
      kind.Deletes types row other → other = row

omit [DecidableEq κ] in
theorem Kept.of_localTrans_eq {table : LocalTable κ} {run : Uploading κ}
    (hlocal : run.localTrans = table) : Kept table run :=
  fun _ hrow => Or.inl (hlocal ▸ hrow)

omit [DecidableEq κ] in
theorem stoi_pendingText (iuColumn : κ) (table : LocalTable κ) :
    stoi (pendingText iuColumn table) =
      if pendingRows iuColumn table < 2 ^ 31 then some (pendingRows iuColumn table : ℤ)
      else none := by
  have hfits : FitsInt (pendingRows iuColumn table : ℤ) ↔ pendingRows iuColumn table < 2 ^ 31 := by
    unfold FitsInt
    omega
  rw [pendingText, stoi_toString, if_congr hfits rfl rfl]

theorem move_kept_iff (ordering : Ordering κ) {table : LocalTable κ} (run : Uploading κ)
    (hlocal : run.localTrans = table) (huploaded : run.uploaded = []) :
    (∀ answers, Kept table (kind.move types ordering answers run)) ↔
      kind.Safe types ordering table := by
  subst hlocal
  have hloop : (∀ rows, Kept run.localTrans (kind.uploadRows types rows
      (ordering.select run.localTrans.rows) { run with offlineStatus := 1, localDbErrFlag := 0 })) ↔
        ∀ row ∈ kind.reached types (ordering.select run.localTrans.rows),
          ∀ other ∈ run.localTrans.rows, kind.Deletes types row other → other = row :=
    uploadRows_kept_iff (ordering.perm run.localTrans.rows) _ rfl huploaded
  constructor
  · intro hall hpos hlt
    refine hloop.mp fun rows => ?_
    have hrun := hall ⟨true, true, rows⟩
    simp only [move, stoi_pendingText, if_pos hlt] at hrun
    rwa [if_neg (by decide), if_neg (by omega), if_neg (by decide)] at hrun
  · intro hsafe answers
    unfold move
    by_cases hcounts : answers.counts = false
    · rw [if_pos hcounts]
      exact Kept.of_localTrans_eq rfl
    rw [if_neg hcounts, stoi_pendingText]
    by_cases hlt : pendingRows kind.iuColumn run.localTrans < 2 ^ 31
    · rw [if_pos hlt]
      simp only
      by_cases hpos : 0 < pendingRows kind.iuColumn run.localTrans
      · rw [if_neg (by omega)]
        by_cases hselects : answers.selects = false
        · rw [if_pos hselects]
          exact Kept.of_localTrans_eq rfl
        · rw [if_neg hselects]
          exact hloop.mpr (hsafe hpos hlt) answers.rows
      · rw [if_pos (by omega)]
        exact Kept.of_localTrans_eq rfl
    · rw [if_neg hlt]
      exact Kept.of_localTrans_eq rfl

/-! The history is what the central table has received. -/

/-- The central row the upload makes of a local one. -/
def centralRow (kind : UploadKind κ τ) (types : ColumnTypes κ) (row : LocalRow κ) :
    Option (κ → SqlValue) :=
  (kind.readRow types row).map fun record => insertedRow (kind.insert record)

theorem uploadRows_central (answers : ℕ → RowAnswers) (rows : List (LocalRow κ))
    {run : Uploading κ} {before : List (κ → SqlValue)}
    (hcentral : run.central = before ++ run.uploaded.filterMap (kind.centralRow types)) :
    (kind.uploadRows types answers rows run).central = before ++
      (kind.uploadRows types answers rows run).uploaded.filterMap (kind.centralRow types) := by
  induction rows generalizing run with
  | nil => exact hcentral
  | cons row rest ih =>
      unfold uploadRows
      cases hread : kind.readRow types row with
      | none => exact hcentral
      | some record =>
          refine ih ?_
          rw [uploadRow_central, uploadRow_uploaded]
          by_cases hexecuted : (answers row.id).insert.Executed
          · rw [SqlOutcome.apply_of_executed hexecuted, SqlOutcome.apply_of_executed hexecuted,
              hcentral]
            simp [centralRow, hread]
          · rw [SqlOutcome.apply_of_not_executed hexecuted,
              SqlOutcome.apply_of_not_executed hexecuted, hcentral]

theorem move_central (ordering : Ordering κ) (answers : MoveAnswers) {run : Uploading κ}
    (huploaded : run.uploaded = []) :
    (kind.move types ordering answers run).central = run.central ++
      (kind.move types ordering answers run).uploaded.filterMap (kind.centralRow types) := by
  unfold move
  split
  · simp [huploaded]
  · split
    · simp [huploaded]
    · split
      · simp [huploaded]
      · simp only
        split
        · simp [huploaded]
        · exact uploadRows_central answers.rows _ (by simp [huploaded])

end UploadKind

/-! ## The two tables of a station -/

namespace Moved

/-- Every row of the two local tables is still there or has been inserted centrally. -/
def NoneLost (before : State) (moved : Moved) : Prop :=
  (∀ row ∈ before.entryTrans.rows,
      row ∈ moved.state.entryTrans.rows ∨ row ∈ moved.uploadedEntries) ∧
    ∀ row ∈ before.exitTrans.rows,
      row ∈ moved.state.exitTrans.rows ∨ row ∈ moved.uploadedExits

end Moved

/-- A run of `moveOfflineTransToCentral` can lose nothing, whatever calls fail, exactly
when the table of the station's own kind is safe. -/
theorem moveOffline_noneLost_iff (entryTypes : ColumnTypes EntryColumn)
    (exitTypes : ColumnTypes ExitColumn) (entryOrdering : Ordering EntryColumn)
    (exitOrdering : Ordering ExitColumn) (state : State) :
    (∀ answers, (moveOfflineTransToCentral entryTypes exitTypes entryOrdering exitOrdering
        answers state).NoneLost state) ↔
      ∀ data, state.operation = some data →
        (data.stationType = .tientry →
          entryUpload.Safe entryTypes entryOrdering state.entryTrans) ∧
        (data.stationType = .tiExit →
          exitUpload.Safe exitTypes exitOrdering state.exitTrans) := by
  have hstays {κ : Type} {table : LocalTable κ} {uploaded : List (LocalRow κ)} :
      ∀ row ∈ table.rows, row ∈ table.rows ∨ row ∈ uploaded := fun _ hrow => Or.inl hrow
  unfold moveOfflineTransToCentral Moved.NoneLost
  cases hoperation : state.operation with
  | none => simp
  | some data =>
      cases hstation : data.stationType with
      | tientry =>
          simp only [Option.some.injEq, forall_eq', hstation, forall_const, reduceCtorEq,
            false_implies, and_true, State.updateProcess]
          rw [← UploadKind.move_kept_iff entryOrdering
            ⟨state.entryTrans, state.entryTransTmp, 0, state.localDbErrFlag,
              state.remoteDbErrFlag, []⟩ rfl rfl]
          exact forall_congr' fun answers => and_iff_left hstays
      | tiExit =>
          simp only [Option.some.injEq, forall_eq', hstation, forall_const, reduceCtorEq,
            false_implies, true_and, State.updateProcess]
          rw [← UploadKind.move_kept_iff exitOrdering
            ⟨state.exitTrans, state.exitTransTmp, 0, state.localDbErrFlag,
              state.remoteDbErrFlag, []⟩ rfl rfl]
          exact forall_congr' fun answers => and_iff_right hstays
      | tiAPS =>
          simp [hstation]

/-- The uploaded rows are what the two central tables have received, in that order. -/
theorem moveOffline_central (entryTypes : ColumnTypes EntryColumn)
    (exitTypes : ColumnTypes ExitColumn) (entryOrdering : Ordering EntryColumn)
    (exitOrdering : Ordering ExitColumn) (answers : MoveAnswers) (state : State) :
    let moved := moveOfflineTransToCentral entryTypes exitTypes entryOrdering exitOrdering
      answers state
    moved.state.entryTransTmp = state.entryTransTmp ++
        moved.uploadedEntries.filterMap (entryUpload.centralRow entryTypes) ∧
      moved.state.exitTransTmp = state.exitTransTmp ++
        moved.uploadedExits.filterMap (exitUpload.centralRow exitTypes) := by
  unfold moveOfflineTransToCentral
  cases state.operation with
  | none => simp
  | some data =>
      cases hstation : data.stationType with
      | tientry =>
          simp only [hstation, State.updateProcess, List.filterMap_nil, List.append_nil, and_true]
          exact UploadKind.move_central entryOrdering answers rfl
      | tiExit =>
          simp only [hstation, State.updateProcess, List.filterMap_nil, List.append_nil, true_and]
          exact UploadKind.move_central exitOrdering answers rfl
      | tiAPS => simp [hstation]

/-! ## Two entries of the same second -/

/-- A database whose columns give back what was written. -/
def plainTypes (κ : Type*) : ColumnTypes κ where
  print _ stored := stored
  equal _ stored text := stored == text

/-- The rows in the order of their keys. -/
def keyOrdering (κ : Type*) : Ordering κ := ⟨id, fun _ => List.Perm.refl _⟩

/-- The same IU saved twice within one second while the central database was down. -/
def twiceSaved : State :=
  let tEntry : TEntryTrans :=
    { esid := "1", sSerialNo := "0", sIUTKNo := "1234567890", sEntryTime := "2026-01-01 08:00:00" }
  let row := insertedRow (localEntryInsert "t" "" tEntry)
  ⟨some {}, [], [], (LocalTable.empty.insert row).insert row, .empty, 0, 0⟩

/-- The first `INSERT` succeeds and its delete removes both rows; the second `INSERT`
fails, and the second transaction is nowhere. -/
theorem not_noneLost_twiceSaved :
    ¬(moveOfflineTransToCentral (plainTypes _) (plainTypes _) (keyOrdering _) (keyOrdering _)
        ⟨true, true, fun id => if id = 1 then ⟨.done, .done⟩ else ⟨.failed, .failed⟩⟩
        twiceSaved).NoneLost twiceSaved := by
  have hrun : ((moveOfflineTransToCentral (plainTypes _) (plainTypes _) (keyOrdering _)
      (keyOrdering _) ⟨true, true, fun id => if id = 1 then ⟨.done, .done⟩ else ⟨.failed, .failed⟩⟩
      twiceSaved).state.entryTrans.rows.map LocalRow.id,
    (moveOfflineTransToCentral (plainTypes _) (plainTypes _) (keyOrdering _) (keyOrdering _)
      ⟨true, true, fun id => if id = 1 then ⟨.done, .done⟩ else ⟨.failed, .failed⟩⟩
      twiceSaved).uploadedEntries.map LocalRow.id) = ([], [1]) := by decide +kernel
  intro hnone
  rcases hnone.1 ⟨2, _⟩ (List.mem_cons_of_mem _ (List.mem_singleton.mpr rfl)) with hlocal | hup
  · have hid := List.mem_map_of_mem (f := LocalRow.id) hlocal
    rw [(Prod.mk.inj hrun).1] at hid
    exact absurd hid (by decide)
  · have hid := List.mem_map_of_mem (f := LocalRow.id) hup
    rw [(Prod.mk.inj hrun).2] at hid
    exact absurd hid (by decide)

end LinuxPBS.Db

import LinuxPBS.Db.MoveOffline

/-!
# A row that cannot be read

The conversions of `moveOfflineTransToCentral` throw on NULL, which `GetDataItem` returns
as the text `NULL`, and on other texts that are no numbers.  The `catch` is outside of the loop
over the rows: the row that throws ends the loop, and the rows behind it wait for the next run,
which meets the same row first again.

With a central database that executes every `INSERT`, `uploadRows_uploaded` and
`mem_uploadRows_localTrans` say what one run does to each row: what stands in front of the first
row that cannot be read is inserted, and is deleted if the `WHERE` of one of the deletes executed
matches it.
-/

namespace LinuxPBS.Db

open CxxText

namespace UploadKind

variable {κ τ : Type*} [DecidableEq κ] {kind : UploadKind κ τ} {types : ColumnTypes κ}
  {answers : ℕ → RowAnswers}

/-! ## The loop -/

/-- One of the deletes executed for the rows matches `row`. -/
def Cleared (kind : UploadKind κ τ) (types : ColumnTypes κ) (answers : ℕ → RowAnswers)
    (rows : List (LocalRow κ)) (row : LocalRow κ) : Prop :=
  ∃ other ∈ kind.reached types rows,
    (answers other.id).delete.Executed ∧ kind.Deletes types other row

/-- The rows in front of the first unreadable one are inserted, in their order. -/
theorem uploadRows_uploaded (hinserts : ∀ id, (answers id).insert = .done)
    (rows : List (LocalRow κ)) (run : Uploading κ) :
    (kind.uploadRows types answers rows run).uploaded =
      run.uploaded ++ kind.reached types rows := by
  induction rows generalizing run with
  | nil => exact (List.append_nil _).symm
  | cons row rest ih =>
      unfold uploadRows
      cases hread : kind.readRow types row with
      | none => rw [reached_cons_none hread, List.append_nil]
      | some record =>
          simp only
          rw [ih, uploadRow_uploaded, reached_cons_some hread, hinserts,
            SqlOutcome.apply_of_executed SqlOutcome.executed_done, List.append_assoc]
          rfl

/-- A turn takes the rows its delete matches. -/
theorem mem_uploadRow_localTrans {row other : LocalRow κ} {record : τ} {answers : RowAnswers}
    (hinsert : answers.insert = .done) {run : Uploading κ} :
    other ∈ (kind.uploadRow types answers row record run).localTrans.rows ↔
      other ∈ run.localTrans.rows ∧
        ¬(answers.delete.Executed ∧ kind.matching types record other.values = true) := by
  rw [uploadRow_localTrans, if_pos hinsert]
  by_cases hexecuted : answers.delete.Executed
  · rw [SqlOutcome.apply_of_executed hexecuted, LocalTable.mem_delete, ← Bool.not_eq_true]
    simp only [hexecuted, true_and]
  · rw [SqlOutcome.apply_of_not_executed hexecuted]
    simp only [hexecuted, false_and, not_false_eq_true, and_true]

theorem mem_uploadRows_localTrans (hinserts : ∀ id, (answers id).insert = .done)
    (rows : List (LocalRow κ)) {row : LocalRow κ} {run : Uploading κ} :
    row ∈ (kind.uploadRows types answers rows run).localTrans.rows ↔
      row ∈ run.localTrans.rows ∧ ¬kind.Cleared types answers rows row := by
  induction rows generalizing run with
  | nil =>
      have hnone : ¬kind.Cleared types answers [] row := by
        rintro ⟨other, hmem, -⟩
        exact absurd hmem List.not_mem_nil
      exact (and_iff_left hnone).symm
  | cons first rest ih =>
      unfold uploadRows
      cases hread : kind.readRow types first with
      | none =>
          have hnone : ¬kind.Cleared types answers (first :: rest) row := by
            rintro ⟨other, hmem, -⟩
            rw [reached_cons_none hread] at hmem
            exact absurd hmem List.not_mem_nil
          exact (and_iff_left hnone).symm
      | some record =>
          have hdeletes : kind.Deletes types first row ↔
              kind.matching types record row.values = true := by
            constructor
            · rintro ⟨other, hother, hmatching⟩
              rw [hread, Option.some.injEq] at hother
              rwa [hother]
            · intro hmatching
              exact ⟨record, hread, hmatching⟩
          have hcleared : kind.Cleared types answers (first :: rest) row ↔
              ((answers first.id).delete.Executed ∧ kind.matching types record row.values = true) ∨
                kind.Cleared types answers rest row := by
            unfold Cleared
            simp only [reached_cons_some hread, List.exists_mem_cons_iff, hdeletes]
          simp only
          rw [ih, mem_uploadRow_localTrans (hinserts _), hcleared, not_or, and_assoc]

/-! ## One run -/

/-- The run comes to the loop. -/
def Loops (kind : UploadKind κ τ) (answers : MoveAnswers) (table : LocalTable κ) : Prop :=
  answers.counts = true ∧ answers.selects = true ∧
    0 < pendingRows kind.iuColumn table ∧ pendingRows kind.iuColumn table < 2 ^ 31

instance (kind : UploadKind κ τ) (answers : MoveAnswers) (table : LocalTable κ) :
    Decidable (kind.Loops answers table) :=
  inferInstanceAs (Decidable (_ ∧ _ ∧ _ ∧ _))

theorem move_of_loops {ordering : Ordering κ} {answers : MoveAnswers} {run : Uploading κ}
    (hloops : kind.Loops answers run.localTrans) :
    kind.move types ordering answers run =
      kind.uploadRows types answers.rows (ordering.select run.localTrans.rows)
        { run with offlineStatus := 1, localDbErrFlag := 0 } := by
  obtain ⟨hcounts, hselects, hpos, hlt⟩ := hloops
  rw [move, if_neg (by rw [hcounts]; decide), stoi_pendingText, if_pos hlt]
  simp only
  rw [if_neg (by omega), if_neg (by rw [hselects]; decide)]

/-- A run that does not come to the loop touches no table. -/
theorem move_of_not_loops {ordering : Ordering κ} {answers : MoveAnswers} {run : Uploading κ}
    (hloops : ¬kind.Loops answers run.localTrans) :
    (kind.move types ordering answers run).uploaded = run.uploaded := by
  unfold move
  split
  · rfl
  rename_i hcounts
  rw [stoi_pendingText]
  split
  · rfl
  rename_i pendingCount hpending
  split
  · rfl
  rename_i hpos
  dsimp only
  split
  · rfl
  rename_i hselects
  by_cases hlt : pendingRows kind.iuColumn run.localTrans < 2 ^ 31
  · rw [if_pos hlt, Option.some.injEq] at hpending
    exact absurd ⟨Bool.eq_true_of_not_eq_false hcounts, Bool.eq_true_of_not_eq_false hselects,
      by omega, hlt⟩ hloops
  · rw [if_neg hlt] at hpending
    cases hpending

/-- The row is inserted centrally, and it is deleted locally. -/
def Moves (after : Uploading κ) (row : LocalRow κ) : Prop :=
  row ∈ after.uploaded ∧ row ∉ after.localTrans.rows

/-- The run comes to the loop, no row in front of `row` is unreadable, and a delete that is executed
matches it. -/
structure Passes (kind : UploadKind κ τ) (types : ColumnTypes κ) (ordering : Ordering κ)
    (answers : MoveAnswers) (table : LocalTable κ) (row : LocalRow κ) : Prop where
  loops : kind.Loops answers table
  reached : row ∈ kind.reached types (ordering.select table.rows)
  cleared : kind.Cleared types answers.rows (ordering.select table.rows) row

theorem moves_iff (ordering : Ordering κ) {answers : MoveAnswers}
    (hinserts : ∀ id, (answers.rows id).insert = .done) {run : Uploading κ}
    (huploaded : run.uploaded = []) {row : LocalRow κ} (hrow : row ∈ run.localTrans.rows) :
    Moves (kind.move types ordering answers run) row ↔
      kind.Passes types ordering answers run.localTrans row := by
  rw [Moves]
  by_cases hloops : kind.Loops answers run.localTrans
  · rw [move_of_loops hloops, uploadRows_uploaded hinserts, mem_uploadRows_localTrans hinserts]
    simp only [huploaded, List.nil_append, hrow, true_and, not_not]
    exact ⟨fun ⟨hreached, hcleared⟩ => ⟨hloops, hreached, hcleared⟩,
      fun h => ⟨h.reached, h.cleared⟩⟩
  · refine iff_of_false (fun h => ?_) fun h => hloops h.loops
    rw [move_of_not_loops hloops, huploaded] at h
    exact absurd h.1 List.not_mem_nil

end UploadKind

/-! ## The two tables of a station -/

section Station

variable (entryTypes : ColumnTypes EntryColumn) (exitTypes : ColumnTypes ExitColumn)
  (entryOrdering : Ordering EntryColumn) (exitOrdering : Ordering ExitColumn)

/-- Every readable row of the station's own table is inserted centrally and deleted locally. -/
def Moved.NoneBlocked (data : OperationSharedData) (before : State) (moved : Moved) : Prop :=
  (data.stationType = .tientry → ∀ row ∈ before.entryTrans.rows,
      (entryUpload.readRow entryTypes row).isSome →
        row ∈ moved.uploadedEntries ∧ row ∉ moved.state.entryTrans.rows) ∧
    (data.stationType = .tiExit → ∀ row ∈ before.exitTrans.rows,
      (exitUpload.readRow exitTypes row).isSome →
        row ∈ moved.uploadedExits ∧ row ∉ moved.state.exitTrans.rows)

/-- Every readable row of the station's own table passes. -/
def AllPass (answers : MoveAnswers) (data : OperationSharedData) (state : State) : Prop :=
  (data.stationType = .tientry → ∀ row ∈ state.entryTrans.rows,
      (entryUpload.readRow entryTypes row).isSome →
        entryUpload.Passes entryTypes entryOrdering answers state.entryTrans row) ∧
    (data.stationType = .tiExit → ∀ row ∈ state.exitTrans.rows,
      (exitUpload.readRow exitTypes row).isSome →
        exitUpload.Passes exitTypes exitOrdering answers state.exitTrans row)

/-- With a central database that executes every `INSERT`, no row blocks another exactly if every
readable row passes. -/
theorem moveOffline_noneBlocked_iff {answers : MoveAnswers}
    (hinserts : ∀ id, (answers.rows id).insert = .done) {state : State} {data : OperationSharedData}
    (hdata : state.operation = some data) :
    (moveOfflineTransToCentral entryTypes exitTypes entryOrdering exitOrdering answers
        state).NoneBlocked entryTypes exitTypes data state ↔
      AllPass entryTypes exitTypes entryOrdering exitOrdering answers data state := by
  unfold Moved.NoneBlocked AllPass moveOfflineTransToCentral
  simp only [hdata]
  cases hstation : data.stationType with
  | tientry =>
      simp only [State.updateProcess, reduceCtorEq, false_implies, and_true, forall_const]
      refine forall₂_congr fun row hrow => imp_congr_right fun _ => ?_
      exact UploadKind.moves_iff entryOrdering hinserts rfl hrow
  | tiExit =>
      simp only [State.updateProcess, reduceCtorEq, false_implies, true_and, forall_const]
      refine forall₂_congr fun row hrow => imp_congr_right fun _ => ?_
      exact UploadKind.moves_iff exitOrdering hinserts rfl hrow
  | tiAPS => simp only [reduceCtorEq, false_implies, and_self]

end Station

/-! ## An amount that is NULL -/

/-- The table of an entry station: an entry whose `paid_amt` is what it is given, and one behind
it. -/
def twoEntries (paidAmt : SqlValue) : State :=
  let first := insertedRow (localEntryInsert "t" ""
    { esid := "1", sSerialNo := "0", sIUTKNo := "1234567890", sEntryTime := "2026-01-01 08:00:00" })
  let second := insertedRow (localEntryInsert "t" ""
    { esid := "1", sSerialNo := "0", sIUTKNo := "1234567891", sEntryTime := "2026-01-01 07:00:00" })
  let values := fun column => if column = .paidAmt then paidAmt else first column
  ⟨some {}, [], [], (LocalTable.empty.insert values).insert second, .empty, 0, 0⟩

/-- A run in which every call succeeds. -/
def allDone : MoveAnswers := ⟨true, true, fun _ => ⟨.done, .done⟩⟩

/-- What is left of the two. -/
def movedTwo (paidAmt : SqlValue) : Moved :=
  moveOfflineTransToCentral (plainTypes _) (plainTypes _) (keyOrdering _) (keyOrdering _) allDone
    (twoEntries paidAmt)

theorem moveOffline_noneBlocked_twoEntries :
    (movedTwo (.text "0.00")).NoneBlocked (plainTypes _) (plainTypes _) {}
      (twoEntries (.text "0.00")) := by
  refine (moveOffline_noneBlocked_iff (plainTypes _) (plainTypes _) (keyOrdering _) (keyOrdering _)
    (fun _ => rfl) rfl).mpr ⟨fun _ row hrow _ => ?_, nofun⟩
  have hall : ∀ row ∈ (twoEntries (.text "0.00")).entryTrans.rows,
      ((entryUpload.readRow (plainTypes _) row).any fun record =>
        entryUpload.matching (plainTypes _) record row.values) = true := by decide +kernel
  have hwhole : entryUpload.reached (plainTypes _) (twoEntries (.text "0.00")).entryTrans.rows =
      (twoEntries (.text "0.00")).entryTrans.rows := by
    refine List.takeWhile_eq_self_iff.mpr fun other hother => ?_
    obtain ⟨record, hread, -⟩ := (Option.any_eq_true _ _).mp (hall other hother)
    rw [hread, Option.isSome_some]
  have hreached := hwhole.symm ▸ hrow
  obtain ⟨record, hread, hmatching⟩ := (Option.any_eq_true _ _).mp (hall row hrow)
  exact ⟨by decide +kernel, hreached, row, hreached, SqlOutcome.executed_done, record, hread,
    hmatching⟩

/-- The entry behind the one that cannot be read stays where it is. -/
theorem not_moveOffline_noneBlocked :
    ¬(movedTwo .null).NoneBlocked (plainTypes _) (plainTypes _) {} (twoEntries .null) := by
  intro hnone
  have hids : ((twoEntries .null).entryTrans.rows.map LocalRow.id,
      (movedTwo .null).uploadedEntries.map LocalRow.id) = ([1, 2], []) := by decide +kernel
  have hread : ∀ row ∈ (twoEntries .null).entryTrans.rows, row.id = 2 →
      (entryUpload.readRow (plainTypes _) row).isSome := by decide +kernel
  obtain ⟨hrows, huploaded⟩ := Prod.mk.inj hids
  have hsecond : 2 ∈ (twoEntries .null).entryTrans.rows.map LocalRow.id := by
    rw [hrows]
    decide
  obtain ⟨row, hrow, hid⟩ := List.mem_map.mp hsecond
  have hmoved := (hnone.1 rfl row hrow (hread row hrow hid)).1
  have hmem := List.mem_map_of_mem (f := LocalRow.id) hmoved
  rw [huploaded] at hmem
  exact absurd hmem List.not_mem_nil

end LinuxPBS.Db

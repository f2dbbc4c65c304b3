import LinuxPBS.Db.SharedTable

/-!
# The payment of an exit that comes later

An OBU may answer a deduction with "payment later": the exit is closed, and a later message
with the same serial number brings the payment.  `UpdateEEPExitTrans` writes it into the
central tables.  The `WHERE` names the OBU, the serial number and the station, and excludes
only the results 1 and 2, so that

```text
the record is still local                     no row is found, the payment is lost
another record awaits a payment of the OBU    every such row of the table is changed
under the same serial number
```

What the payments should do is said on a list of all the records (`settle`): the latest
record of the OBU and the serial number takes the payment, if it still awaits one.  The
tables hold these records, each once, centrally or locally (`ExitTables.held`).
-/

namespace LinuxPBS.Db

open CxxText

/-! ## `UpdateEEPExitTrans` -/

/-- What `UpdateEEPExitTrans` is told. -/
structure EepPayment where
  obu : String
  dSerialNo : String
  cardNo : String
  fee : ℚ
  topupAmt : ℚ
  transRoute : ℤ
  result : ℤ

/-- `column != text`; NULL is not different from anything. -/
def ColumnTypes.isDistinct {κ : Type*} (types : ColumnTypes κ) (row : κ → SqlValue) (column : κ)
    (text : String) : Bool :=
  match row column with
  | .null => false
  | .text stored => !types.equal column stored text

/-- The outcomes of the statements about `Exit_trans_tmp` and `Exit_trans`. -/
structure PaymentAnswers where
  tmp : SqlOutcome
  main : SqlOutcome
  deriving DecidableEq, Repr

/-- The central tables of the exits and the local one. -/
structure ExitTables where
  tmp : List (ExitColumn → SqlValue)
  main : List (ExitColumn → SqlValue)
  localTrans : LocalTable ExitColumn

/-- The station that calls `UpdateEEPExitTrans`, and the columns of the central tables. -/
structure PaymentSetting where
  central : ColumnTypes ExitColumn
  gfGSTRate : ℚ
  iSID : ℤ

namespace EepPayment

variable (setting : PaymentSetting) (payment : EepPayment)

/-- The record has the serial number, the OBU and the station of the `WHERE`. -/
def names (row : ExitColumn → SqlValue) : Bool :=
  setting.central.isEqual row .eepDSerialNo payment.dSerialNo &&
    setting.central.isEqual row .iuTkNo payment.obu &&
      setting.central.isEqual row .stationId (toString setting.iSID)

/-- The record has neither of the results 1 and 2. -/
def awaits (row : ExitColumn → SqlValue) : Bool :=
  setting.central.isDistinct row .eepPaymentResult "1" &&
    setting.central.isDistinct row .eepPaymentResult "2"

/-- The `WHERE`. -/
def finds (row : ExitColumn → SqlValue) : Bool := payment.names setting row && awaits setting row

/-- The `SET`. -/
def pay (row : ExitColumn → SqlValue) : ExitColumn → SqlValue
  | .paidAmt => .text (toStringFloat payment.fee)
  | .cardMcNo => .text payment.cardNo
  | .eepTransRoute => .text (toString payment.transRoute)
  | .eepPaymentResult => .text (toString payment.result)
  | .topUpAmt => .text (toStringFloat payment.topupAmt)
  | .gstAmt =>
      .text (toStringFloat (payment.fee * setting.gfGSTRate / (1 + setting.gfGSTRate)))
  | column => row column

/-- The statement for one row. -/
def payFound (row : ExitColumn → SqlValue) : ExitColumn → SqlValue :=
  if payment.finds setting row then payment.pay setting row else row

/-- `UpdateEEPExitTrans` -/
def updateEEPExitTrans (answers : PaymentAnswers) (tables : ExitTables) : ExitTables × ℤ :=
  let tmp := answers.tmp.apply (List.map (payment.payFound setting)) tables.tmp
  let numberOfRowsAffected := tables.tmp.countP (payment.finds setting)
  if answers.tmp.code ≠ 0 then ({ tables with tmp := tmp }, answers.tmp.code)
  else if numberOfRowsAffected > 0 then ({ tables with tmp := tmp }, answers.tmp.code)
  else
    ({ tables with
        tmp := tmp
        main := answers.main.apply (List.map (payment.payFound setting)) tables.main },
      answers.main.code)

/-! ## What a payment should do -/

/-- The latest record of the OBU and the serial number awaits its payment; the latest
record is the first. -/
def due : List (ExitColumn → SqlValue) → Bool
  | [] => false
  | row :: older => if payment.names setting row then awaits setting row else due older

/-- That record takes the payment, and no other. -/
def settle : List (ExitColumn → SqlValue) → List (ExitColumn → SqlValue)
  | [] => []
  | row :: older =>
      if payment.names setting row then
        (if awaits setting row then payment.pay setting row else row) :: older
      else row :: settle older

end EepPayment

/-- A local record as the upload will write it, if it can. -/
def shown (types : ColumnTypes ExitColumn) (row : LocalRow ExitColumn) : ExitColumn → SqlValue :=
  (exitUpload.centralRow types row).getD row.values

/-- All the records of the exits, wherever they are. -/
def ExitTables.held (types : ColumnTypes ExitColumn) (tables : ExitTables) :
    List (ExitColumn → SqlValue) :=
  tables.main ++ (tables.tmp ++ tables.localTrans.rows.map (shown types))

/-- The records that a station has saved between two states of its tables. -/
def newRecords (types : ColumnTypes ExitColumn) (before after : State) :
    List (ExitColumn → SqlValue) :=
  after.exitTransTmp.drop before.exitTransTmp.length ++
    (after.exitTrans.rows.drop before.exitTrans.rows.length).map (shown types)

/-- The station does nothing to the exits but save some. -/
structure ExitsGrow (before after : State) : Prop where
  tmp : before.exitTransTmp <+: after.exitTransTmp
  localTrans : before.exitTrans.rows <+: after.exitTrans.rows

namespace EepPayment

variable {setting : PaymentSetting} {payment : EepPayment} {answers : PaymentAnswers}
  {tables : ExitTables} {ledger : List (ExitColumn → SqlValue)}

/-! ## A payment that finds its record -/

theorem map_payFound_of_none (hnone : ledger.countP (payment.finds setting) = 0) :
    ledger.map (payment.payFound setting) = ledger := by
  rw [List.countP_eq_zero] at hnone
  refine (List.map_congr_left fun row hrow => ?_).trans (List.map_id ledger)
  exact if_neg (hnone row hrow)

/-- Where no record but the latest awaits a payment under the serial number, the `WHERE`
finds what should be settled. -/
theorem settle_eq_map
    (hunique : ledger.countP (payment.finds setting) =
      if payment.due setting ledger then 1 else 0) :
    payment.settle setting ledger = ledger.map (payment.payFound setting) := by
  induction ledger with
  | nil => rfl
  | cons row older ih =>
      rw [List.countP_cons, due] at hunique
      rw [settle, List.map_cons]
      by_cases hnames : payment.names setting row = true
      · rw [if_pos hnames] at hunique ⊢
        by_cases hawaits : awaits setting row = true
        · have hfinds : payment.finds setting row = true := by rw [finds, hnames, hawaits]; rfl
          rw [hawaits, if_pos rfl, if_pos hfinds] at hunique
          rw [if_pos hawaits, payFound, if_pos hfinds, map_payFound_of_none (by omega)]
        · have hfinds : ¬payment.finds setting row = true := by simp [finds, hawaits]
          rw [if_neg hawaits, if_neg hfinds] at hunique
          rw [if_neg hawaits, payFound, if_neg hfinds, map_payFound_of_none (by omega)]
      · have hfinds : ¬payment.finds setting row = true := by simp [finds, hnames]
        rw [if_neg hnames, if_neg hfinds] at hunique
        rw [if_neg hnames, payFound, if_neg hfinds, ih (by omega)]

/-- A payment that is due changes one record. -/
theorem settle_of_due (hdue : payment.due setting ledger = true) :
    ∃ newer row older, ledger = newer ++ row :: older ∧ payment.finds setting row = true ∧
      (∀ other ∈ newer, payment.names setting other = false) ∧
      payment.settle setting ledger = newer ++ payment.pay setting row :: older := by
  induction ledger with
  | nil => exact absurd hdue Bool.false_ne_true
  | cons row older ih =>
      unfold due at hdue
      unfold settle
      by_cases hnames : payment.names setting row = true
      · rw [if_pos hnames] at hdue
        rw [if_pos hnames, if_pos hdue]
        exact ⟨[], row, older, rfl, by rw [finds, hnames, hdue]; rfl, by simp, rfl⟩
      · rw [if_neg hnames] at hdue
        rw [if_neg hnames]
        obtain ⟨newer, latest, rest, hledger, hfinds, hothers, hsettle⟩ := ih hdue
        refine ⟨row :: newer, latest, rest, by rw [hledger]; rfl, hfinds, ?_, by rw [hsettle]; rfl⟩
        intro other hother
        rcases List.mem_cons.mp hother with rfl | hnewer
        · exact Bool.eq_false_iff.mpr hnames
        · exact hothers other hnewer

/-- The records that the `WHERE` describes are in a central table whose statement is
executed. -/
structure Reaches (setting : PaymentSetting) (payment : EepPayment) (types : ColumnTypes ExitColumn)
    (answers : PaymentAnswers) (tables : ExitTables) : Prop where
  tmp : ∀ row ∈ tables.tmp, payment.finds setting row = true → answers.tmp.Executed
  main : ∀ row ∈ tables.main, payment.finds setting row = true →
    answers.tmp = .done ∧ answers.main.Executed ∧ tables.tmp.countP (payment.finds setting) = 0
  localTrans : ∀ row ∈ tables.localTrans.rows, payment.finds setting (shown types row) = false

theorem apply_payFound {outcome : SqlOutcome} {rows : List (ExitColumn → SqlValue)}
    (hexecuted : ∀ row ∈ rows, payment.finds setting row = true → outcome.Executed) :
    outcome.apply (List.map (payment.payFound setting)) rows =
      rows.map (payment.payFound setting) := by
  by_cases hdone : outcome.Executed
  · exact SqlOutcome.apply_of_executed hdone _ _
  · rw [SqlOutcome.apply_of_not_executed hdone, map_payFound_of_none]
    exact List.countP_eq_zero.mpr fun row hrow hfinds => hdone (hexecuted row hrow hfinds)

/-- Then every record that the `WHERE` describes takes the payment. -/
theorem held_updateEEPExitTrans {types : ColumnTypes ExitColumn}
    (hreaches : payment.Reaches setting types answers tables) :
    (payment.updateEEPExitTrans setting answers tables).1.held types =
      (tables.held types).map (payment.payFound setting) := by
  have htmp := apply_payFound hreaches.tmp
  have hlocal : (tables.localTrans.rows.map (shown types)).map (payment.payFound setting) =
      tables.localTrans.rows.map (shown types) := by
    refine map_payFound_of_none (List.countP_eq_zero.mpr ?_)
    intro made hmade hfinds
    obtain ⟨row, hrow, rfl⟩ := List.mem_map.mp hmade
    exact absurd hfinds (by rw [hreaches.localTrans row hrow]; decide)
  -- a statement about the main table that is not made would have changed nothing
  have hmain (hskipped : ¬(answers.tmp = .done ∧ answers.main.Executed ∧
      tables.tmp.countP (payment.finds setting) = 0)) :
      tables.main.map (payment.payFound setting) = tables.main :=
    map_payFound_of_none (List.countP_eq_zero.mpr fun row hrow hfinds =>
      hskipped (hreaches.main row hrow hfinds))
  unfold updateEEPExitTrans ExitTables.held
  simp only [List.map_append, hlocal]
  split
  · rename_i hcode
    rw [hmain fun h => hcode (SqlOutcome.code_eq_zero_iff.mpr h.1), htmp]
  split
  · rename_i hcount
    rw [hmain fun h => absurd hcount (by rw [h.2.2]; decide), htmp]
  · rw [htmp, apply_payFound fun row hrow hfinds => (hreaches.main row hrow hfinds).2.1]

/-- The tables follow the records. -/
theorem perm_settle {types : ColumnTypes ExitColumn} (hheld : (tables.held types).Perm ledger)
    (hunique : ledger.countP (payment.finds setting) = if payment.due setting ledger then 1 else 0)
    (hreaches : payment.Reaches setting types answers tables) :
    ((payment.updateEEPExitTrans setting answers tables).1.held types).Perm
      (payment.settle setting ledger) := by
  rw [held_updateEEPExitTrans hreaches, settle_eq_map hunique]
  exact hheld.map _

end EepPayment

/-! ## An upload moves the records, each once -/

namespace UploadKind

variable {κ τ : Type*} [DecidableEq κ] {kind : UploadKind κ τ} {types : ColumnTypes κ}

/-- Each row that is uploaded is deleted, and no other row with it. -/
def DeletesOwn (kind : UploadKind κ τ) (types : ColumnTypes κ) (answers : ℕ → RowAnswers)
    (rows : List (LocalRow κ)) (table : List (LocalRow κ)) : Prop :=
  ∀ row ∈ kind.reached types rows, (answers row.id).insert.Executed →
    (answers row.id).insert = .done ∧ (answers row.id).delete.Executed ∧
      ∀ other ∈ table, kind.Deletes types row other ↔ other = row

omit [DecidableEq κ] in
theorem nodup_rows (table : LocalTable κ) : table.rows.Nodup := table.nodup.of_map _

omit [DecidableEq κ] in
/-- Deleting one row takes one row away. -/
theorem perm_delete {table : LocalTable κ} {row : LocalRow κ} {matching : (κ → SqlValue) → Bool}
    (hrow : row ∈ table.rows)
    (hown : ∀ other ∈ table.rows, matching other.values = true ↔ other = row) :
    (row :: (table.delete matching).rows).Perm table.rows := by
  have hmem (other : LocalRow κ) : other ∈ (table.delete matching).rows ↔
      other ∈ table.rows ∧ other ≠ row := by
    rw [LocalTable.mem_delete]
    refine and_congr_right fun hother => ?_
    rw [← Bool.not_eq_true, not_congr (hown other hother)]
  refine (List.perm_ext_iff_of_nodup ?_ (nodup_rows table)).mpr fun other => ?_
  · exact List.nodup_cons.mpr ⟨fun h => ((hmem row).mp h).2 rfl, nodup_rows _⟩
  · rw [List.mem_cons, hmem]
    constructor
    · rintro (rfl | hother)
      · exact hrow
      · exact hother.1
    · intro hother
      by_cases hsame : other = row
      · exact Or.inl hsame
      · exact Or.inr ⟨hother, hsame⟩

/-- One turn of the loop. -/
theorem perm_uploadRow {answers : RowAnswers} {row : LocalRow κ} {record : τ} {run : Uploading κ}
    (hread : kind.readRow types row = some record) (hrow : row ∈ run.localTrans.rows)
    (hown : answers.insert.Executed → answers.insert = .done ∧ answers.delete.Executed ∧
      ∀ other ∈ run.localTrans.rows, kind.Deletes types row other ↔ other = row) :
    ((kind.uploadRow types answers row record run).uploaded ++
      (kind.uploadRow types answers row record run).localTrans.rows).Perm
        (run.uploaded ++ run.localTrans.rows) := by
  rw [uploadRow_uploaded, uploadRow_localTrans]
  by_cases hexecuted : answers.insert.Executed
  · obtain ⟨hdone, hdeleted, hdeletes⟩ := hown hexecuted
    rw [if_pos hdone, SqlOutcome.apply_of_executed hexecuted,
      SqlOutcome.apply_of_executed hdeleted, List.append_assoc]
    refine List.Perm.append_left _ (perm_delete hrow fun other hother => ?_)
    rw [← hdeletes other hother]
    exact ⟨fun hmatching => ⟨record, hread, hmatching⟩, fun ⟨record', hread', hmatching⟩ =>
      (Option.some.inj (hread.symm.trans hread')) ▸ hmatching⟩
  · have hdone : answers.insert ≠ .done := fun h => hexecuted (by rw [h]; decide)
    rw [if_neg hdone, SqlOutcome.apply_of_not_executed hexecuted]

/-- The whole loop. -/
theorem perm_uploadRows {answers : ℕ → RowAnswers} {rows : List (LocalRow κ)} {run : Uploading κ}
    (hnodup : rows.Nodup) (hrows : ∀ row ∈ rows, row ∈ run.localTrans.rows)
    (hown : kind.DeletesOwn types answers rows run.localTrans.rows) :
    ((kind.uploadRows types answers rows run).uploaded ++
      (kind.uploadRows types answers rows run).localTrans.rows).Perm
        (run.uploaded ++ run.localTrans.rows) := by
  induction rows generalizing run with
  | nil => exact List.Perm.refl _
  | cons row rest ih =>
      unfold uploadRows
      cases hread : kind.readRow types row with
      | none => exact List.Perm.refl _
      | some record =>
          unfold DeletesOwn at hown
          rw [reached_cons_some hread] at hown
          have hrow := hrows row List.mem_cons_self
          have hfirst := hown row List.mem_cons_self
          refine (ih (List.nodup_cons.mp hnodup).2 ?_ ?_).trans (perm_uploadRow hread hrow hfirst)
          · intro next hnext
            have hlocal := hrows next (List.mem_cons_of_mem _ hnext)
            have hor : next ∈ (kind.uploadRow types (answers row.id) row record
                run).localTrans.rows ∨ kind.matching types record next.values = true ∧
                  (answers row.id).insert = .done := mem_uploadRow_or _ hlocal
            rcases hor with hstays | ⟨hmatching, hdone⟩
            · exact hstays
            · have hsame := (hfirst (by rw [hdone]; decide)).2.2 next hlocal
              exact absurd (hsame.mp ⟨record, hread, hmatching⟩ ▸ hnext)
                (List.nodup_cons.mp hnodup).1
          · intro next hnext hexecuted
            obtain ⟨hdone, hdeleted, hdeletes⟩ := hown next (List.mem_cons_of_mem _ hnext) hexecuted
            exact ⟨hdone, hdeleted, fun other hother =>
              hdeletes other (mem_of_mem_uploadRow hother)⟩

/-- `move` -/
theorem perm_move (ordering : Ordering κ) {answers : MoveAnswers} {run : Uploading κ}
    (huploaded : run.uploaded = [])
    (hown : kind.DeletesOwn types answers.rows (ordering.select run.localTrans.rows)
      run.localTrans.rows) :
    ((kind.move types ordering answers run).uploaded ++
      (kind.move types ordering answers run).localTrans.rows).Perm run.localTrans.rows := by
  have hselect := ordering.perm run.localTrans.rows
  unfold move
  split
  · rw [huploaded]
    exact List.Perm.refl _
  split
  · rw [huploaded]
    exact List.Perm.refl _
  split
  · rw [huploaded]
    exact List.Perm.refl _
  simp only
  split
  · rw [huploaded]
    exact List.Perm.refl _
  · refine (perm_uploadRows ?_ ?_ ?_).trans ?_
    · exact hselect.symm.nodup (nodup_rows _)
    · exact fun row hrow => hselect.mem_iff.mp hrow
    · exact hown
    · rw [huploaded]
      exact List.Perm.refl _

end UploadKind

/-! ## What keeps the records -/

/-- A row that was uploaded could be read. -/
theorem isSome_of_mem_uploaded {answers : MoveAnswers} {ordering : Ordering ExitColumn}
    {types : ColumnTypes ExitColumn} {run : Uploading ExitColumn} (huploaded : run.uploaded = [])
    {row : LocalRow ExitColumn}
    (hrow : row ∈ (exitUpload.move types ordering answers run).uploaded) :
    exitUpload.centralRow types row = some (shown types row) := by
  obtain ⟨-, -, -, -, hreached, -⟩ :=
    (UploadKind.mem_move_uploaded_iff ordering answers huploaded row).mp hrow
  have hread : (exitUpload.readRow types row).isSome = true := by
    have hall := List.mem_takeWhile_imp hreached
    exact hall
  obtain ⟨record, hrecord⟩ := Option.isSome_iff_exists.mp hread
  unfold shown UploadKind.centralRow
  rw [hrecord]
  rfl

/-- The exits that a run of the upload moves. -/
theorem perm_moveOffline (databases : StationDatabases) {answers : MoveAnswers} {state : State}
    (hown : exitUpload.DeletesOwn databases.exitTypes answers.rows
      (databases.exitOrdering.select state.exitTrans.rows) state.exitTrans.rows) :
    ∃ uploaded : List (LocalRow ExitColumn),
      (databases.move answers state).state.exitTransTmp =
          state.exitTransTmp ++ uploaded.map (shown databases.exitTypes) ∧
        (uploaded ++ (databases.move answers state).state.exitTrans.rows).Perm
          state.exitTrans.rows := by
  unfold StationDatabases.move moveOfflineTransToCentral
  cases state.operation with
  | none => exact ⟨[], by simp, List.Perm.refl _⟩
  | some data =>
      cases hstation : data.stationType with
      | tiExit =>
          simp only [hstation, State.updateProcess]
          refine ⟨_, ?_, UploadKind.perm_move databases.exitOrdering ?_ hown⟩
          · rw [UploadKind.move_central _ _ rfl]
            refine congrArg _ ((List.filterMap_congr fun row hrow => ?_).trans
              (congrFun List.filterMap_eq_map _))
            exact isSome_of_mem_uploaded rfl hrow
          · rfl
      | tientry =>
          simp only [hstation, State.updateProcess]
          exact ⟨[], by simp, List.Perm.refl _⟩
      | tiAPS =>
          simp only [hstation]
          exact ⟨[], by simp, List.Perm.refl _⟩

/-- An upload keeps the records. -/
theorem held_move (databases : StationDatabases) {answers : MoveAnswers} (state : State)
    (main : List (ExitColumn → SqlValue))
    (hown : exitUpload.DeletesOwn databases.exitTypes answers.rows
      (databases.exitOrdering.select state.exitTrans.rows) state.exitTrans.rows) :
    (ExitTables.held databases.exitTypes ⟨(databases.move answers state).state.exitTransTmp, main,
      (databases.move answers state).state.exitTrans⟩).Perm
        (ExitTables.held databases.exitTypes ⟨state.exitTransTmp, main, state.exitTrans⟩) := by
  obtain ⟨uploaded, htmp, hperm⟩ := perm_moveOffline databases hown
  unfold ExitTables.held
  rw [htmp, List.append_assoc, ← List.map_append]
  exact ((hperm.map _).append_left _).append_left _

/-- A transfer keeps the records. -/
theorem held_transfer (types : ColumnTypes ExitColumn) (tables : ExitTables) :
    ExitTables.held types { tables with tmp := [], main := tables.main ++ tables.tmp } =
      tables.held types := by
  simp [ExitTables.held]

/-- What is saved is added to the records. -/
theorem held_grow {types : ColumnTypes ExitColumn} {before after : State}
    (hgrow : ExitsGrow before after) (main : List (ExitColumn → SqlValue)) :
    (ExitTables.held types ⟨after.exitTransTmp, main, after.exitTrans⟩).Perm
      (newRecords types before after ++
        ExitTables.held types ⟨before.exitTransTmp, main, before.exitTrans⟩) := by
  obtain ⟨tmp, htmp⟩ := hgrow.tmp
  obtain ⟨rows, hrows⟩ := hgrow.localTrans
  unfold ExitTables.held newRecords
  simp only [← htmp, ← hrows, List.drop_left, List.map_append]
  classical
  rw [List.perm_iff_count]
  intro row
  simp only [List.count_append]
  omega

/-! ## What a save adds -/

/-- At most one exit is saved, with a record that has a property. -/
def SavesOne (marked : (ExitColumn → SqlValue) → Prop) (before after : State) : Prop :=
  (after.exitTransTmp = before.exitTransTmp ∧ after.exitTrans = before.exitTrans) ∨
    (∃ row, marked row ∧ after.exitTransTmp = before.exitTransTmp ++ [row] ∧
      after.exitTrans = before.exitTrans) ∨
      ∃ values, marked values ∧ after.exitTransTmp = before.exitTransTmp ∧
        after.exitTrans = before.exitTrans.insert values

theorem SavesOne.grow {marked : (ExitColumn → SqlValue) → Prop} {before after : State}
    (hsaves : SavesOne marked before after) : ExitsGrow before after := by
  rcases hsaves with ⟨htmp, hlocal⟩ | ⟨row, -, htmp, hlocal⟩ | ⟨values, -, htmp, hlocal⟩
  · exact ⟨by rw [htmp], by rw [hlocal]⟩
  · exact ⟨by rw [htmp]; exact List.prefix_append _ _, by rw [hlocal]⟩
  · exact ⟨by rw [htmp], by rw [hlocal]; exact List.prefix_append _ _⟩

/-- The record is that of the deduction of an OBU. -/
def DeductionOf (iuNo dSerialNo : String) (result : ℤ) (row : ExitColumn → SqlValue) : Prop :=
  row .iuTkNo = .text iuNo ∧ row .eepDSerialNo = .text dSerialNo ∧
    row .eepPaymentResult = .text (toString result)

/-- `insertexittrans` saves the exit that it is given. -/
theorem insertExitTrans_savesOne (centraldb localdb : ConnectionAnswers) (state : State)
    (exitTrans : TExitTrans) :
    SavesOne (DeductionOf exitTrans.sIUNo exitTrans.sDSerialNo exitTrans.iEEPPaymentResult) state
      (insertExitTrans centraldb localdb state exitTrans).1 := by
  have hmarked (transId : String) : DeductionOf exitTrans.sIUNo exitTrans.sDSerialNo
      exitTrans.iEEPPaymentResult
        (insertedRow (centralExitInsert transId (clampParkedTime (formatExit exitTrans)))) := by
    unfold clampParkedTime
    split <;> exact ⟨rfl, rfl, rfl⟩
  unfold insertExitTrans
  cases state.operation with
  | none => exact Or.inl ⟨rfl, rfl⟩
  | some data =>
      simp only
      split
      · unfold insertExitLocal
        split
        · exact Or.inl ⟨rfl, rfl⟩
        · by_cases hexecuted : localdb.insert.Executed
          · simp only [SqlOutcome.apply_of_executed hexecuted]
            split <;> exact Or.inr (Or.inr ⟨_, ⟨rfl, rfl, rfl⟩, rfl, rfl⟩)
          · simp only [SqlOutcome.apply_of_not_executed hexecuted]
            split <;> exact Or.inl ⟨rfl, rfl⟩
      · by_cases hexecuted : centraldb.insert.Executed
        · simp only [insertExitCentral, SqlOutcome.apply_of_executed hexecuted]
          exact Or.inr (Or.inl ⟨_, hmarked _, rfl, rfl⟩)
        · simp only [insertExitCentral, SqlOutcome.apply_of_not_executed hexecuted]
          exact Or.inl ⟨rfl, rfl⟩

end LinuxPBS.Db

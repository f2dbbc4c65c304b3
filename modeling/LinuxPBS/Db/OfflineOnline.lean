import LinuxPBS.Db.MoveOffline

/-!
# The offline row against the online row

A transaction reaches the central table on two paths: directly, or through the
local table and the upload.  Four hand-written column lists are involved, and
they do not agree:

```text
                   online                offline
entry_lpn_SID      transaction id        not written
VCC (entry)        VCC                   'NULL': the local INSERT leaves it out
exit_lpn_SID       transaction id        not written
uposbatchno        uposbatchno           not written
feefrom            feefrom               not written
parked_time        at most 32000         as it is
```

The serial identifier is missing for every transaction, so the two rows never
agree (`paths_disagree`).  All other columns do, for a local database that gives
back the texts that were written (`upload_entry_agrees`, `upload_exit_agrees`).
-/

namespace LinuxPBS.Db

open CxxText

/-- A central database that answers every call. -/
def online : ConnectionAnswers := ⟨true, true, .done⟩

/-- A central database that cannot be reached. -/
def offline : ConnectionAnswers := ⟨false, false, .failed⟩

/-- The row an entry has in the central table after a save with a reachable central
database, and the one the upload makes of the local row that is saved with an
unreachable one, have the same value in every column the former writes. -/
def EntryPathsAgree (types : ColumnTypes EntryColumn) (now : String)
    (localdb : ConnectionAnswers) (state : State) (tEntry : TEntryTrans) : Prop :=
  ∃ onlineRow localRow offlineRow,
    (insertEntryTrans now online localdb state tEntry).1.entryTransTmp =
        state.entryTransTmp ++ [onlineRow] ∧
      (insertEntryTrans now offline localdb state tEntry).1.entryTrans.rows =
        state.entryTrans.rows ++ [localRow] ∧
      entryUpload.centralRow types localRow = some offlineRow ∧
      ∀ column, onlineRow column ≠ .null → offlineRow column = onlineRow column

/-- The same for an exit. -/
def ExitPathsAgree (types : ColumnTypes ExitColumn) (localdb : ConnectionAnswers)
    (state : State) (exitTrans : TExitTrans) : Prop :=
  ∃ onlineRow localRow offlineRow,
    (insertExitTrans online localdb state exitTrans).1.exitTransTmp =
        state.exitTransTmp ++ [onlineRow] ∧
      (insertExitTrans offline localdb state exitTrans).1.exitTrans.rows =
        state.exitTrans.rows ++ [localRow] ∧
      exitUpload.centralRow types localRow = some offlineRow ∧
      ∀ column, onlineRow column ≠ .null → offlineRow column = onlineRow column

/-! ## The serial identifier -/

/-- The upload of an entry never writes the serial identifier. -/
theorem centralRow_entryLpnSid {types : ColumnTypes EntryColumn} {row : LocalRow EntryColumn}
    {offlineRow : EntryColumn → SqlValue}
    (hupload : entryUpload.centralRow types row = some offlineRow) :
    offlineRow .entryLpnSid = .null := by
  obtain ⟨entryTrans, -, rfl⟩ := Option.map_eq_some_iff.mp hupload
  rfl

/-- The upload of an exit never writes the serial identifier. -/
theorem centralRow_exitLpnSid {types : ColumnTypes ExitColumn} {row : LocalRow ExitColumn}
    {offlineRow : ExitColumn → SqlValue}
    (hupload : exitUpload.centralRow types row = some offlineRow) :
    offlineRow .exitLpnSid = .null := by
  obtain ⟨exitTrans, -, rfl⟩ := Option.map_eq_some_iff.mp hupload
  rfl

/-- The online save of an entry writes the transaction id there. -/
theorem insertEntryTrans_entryLpnSid {now : String} {localdb : ConnectionAnswers} {state : State}
    {tEntry : TEntryTrans} {onlineRow : EntryColumn → SqlValue}
    (hsaved : (insertEntryTrans now online localdb state tEntry).1.entryTransTmp =
      state.entryTransTmp ++ [onlineRow]) :
    ∃ transId, onlineRow .entryLpnSid = .text transId := by
  unfold insertEntryTrans at hsaved
  cases hoperation : state.operation with
  | none => simp [hoperation] at hsaved
  | some data =>
      rw [hoperation] at hsaved
      obtain rfl := List.singleton_inj.mp (List.append_cancel_left hsaved)
      exact ⟨data.tProcess.gsTransID, rfl⟩

/-- The online save of an exit writes the transaction id there. -/
theorem insertExitTrans_exitLpnSid {localdb : ConnectionAnswers} {state : State}
    {exitTrans : TExitTrans} {onlineRow : ExitColumn → SqlValue}
    (hsaved : (insertExitTrans online localdb state exitTrans).1.exitTransTmp =
      state.exitTransTmp ++ [onlineRow]) :
    ∃ transId, onlineRow .exitLpnSid = .text transId := by
  unfold insertExitTrans at hsaved
  cases hoperation : state.operation with
  | none => simp [hoperation] at hsaved
  | some data =>
      rw [hoperation] at hsaved
      obtain rfl := List.singleton_inj.mp (List.append_cancel_left hsaved)
      exact ⟨data.tProcess.gsTransID, rfl⟩

/-- No transaction is recorded alike on the two paths. -/
theorem paths_disagree (entryTypes : ColumnTypes EntryColumn) (exitTypes : ColumnTypes ExitColumn)
    (now : String) (localdb : ConnectionAnswers) (state : State) (tEntry : TEntryTrans)
    (exitTrans : TExitTrans) :
    ¬EntryPathsAgree entryTypes now localdb state tEntry ∧
      ¬ExitPathsAgree exitTypes localdb state exitTrans := by
  constructor
  · rintro ⟨onlineRow, localRow, offlineRow, hsaved, -, hupload, hagree⟩
    obtain ⟨transId, hsid⟩ := insertEntryTrans_entryLpnSid hsaved
    have hcolumn := hagree .entryLpnSid (by simp [hsid])
    rw [centralRow_entryLpnSid hupload, hsid] at hcolumn
    cases hcolumn
  · rintro ⟨onlineRow, localRow, offlineRow, hsaved, -, hupload, hagree⟩
    obtain ⟨transId, hsid⟩ := insertExitTrans_exitLpnSid hsaved
    have hcolumn := hagree .exitLpnSid (by simp [hsid])
    rw [centralRow_exitLpnSid hupload, hsid] at hcolumn
    cases hcolumn

/-! ## The columns that do agree -/

/-- An amount `std::to_string` prints without loss. -/
def Printable (amount : ℚ) : Prop := ∃ micros : ℕ, amount = micros / 10 ^ 6

theorem stof_toStringFloat_of_printable {amount : ℚ} (hprintable : Printable amount) :
    stof (toStringFloat amount) = some amount := by
  obtain ⟨micros, rfl⟩ := hprintable
  have hnonneg : (0 : ℚ) ≤ micros / 10 ^ 6 := by positivity
  have hmicros : |(micros : ℚ) / 10 ^ 6| * 10 ^ 6 = (micros : ℚ) := by
    rw [abs_of_nonneg hnonneg]
    field_simp
  have hround : roundHalfEven (micros : ℚ) = micros := by
    unfold roundHalfEven
    rw [Int.fract_natCast, if_neg (by norm_num), Int.floor_eq_iff]
    constructor <;> push_cast <;> linarith
  rw [stof_toStringFloat, hmicros, hround, decide_eq_false (not_lt.mpr hnonneg)]
  rfl

/-- An entry record whose numbers survive being printed and read. -/
structure EntryReadable (tEntry : TEntryTrans) : Prop where
  iTransType : FitsInt tEntry.iTransType
  iStatus : FitsInt tEntry.iStatus
  iCardType : FitsInt tEntry.iCardType
  sPaidAmt : Printable tEntry.sPaidAmt
  sFee : Printable tEntry.sFee
  sGSTAmt : Printable tEntry.sGSTAmt

/-- An exit record whose numbers survive being printed and read. -/
structure ExitReadable (exitTrans : TExitTrans) : Prop where
  iTransType : FitsInt exitTrans.iTransType
  iStatus : FitsInt exitTrans.iStatus
  lParkedTime : FitsInt exitTrans.lParkedTime
  iRedeemTime : FitsInt exitTrans.iRedeemTime
  iCardType : FitsInt exitTrans.iCardType
  iEntryID : FitsInt exitTrans.iEntryID
  iEEPTransRoute : FitsInt exitTrans.iEEPTransRoute
  iEEPPaymentResult : FitsInt exitTrans.iEEPPaymentResult
  sFee : Printable exitTrans.sFee
  sPaidAmt : Printable exitTrans.sPaidAmt
  sRedeemAmt : Printable exitTrans.sRedeemAmt
  sGSTAmt : Printable exitTrans.sGSTAmt
  sTopupAmt : Printable exitTrans.sTopupAmt

/-- What a `SELECT` shows of an entry saved locally. -/
def selectedEntry (transId lprNo : String) (tEntry : TEntryTrans) : EntryColumn → String
  | .stationId => tEntry.esid
  | .entryTime => tEntry.sEntryTime
  | .iuTkNo => tEntry.sIUTKNo
  | .transType => toString tEntry.iTransType
  | .status => toString tEntry.iStatus
  | .tkSerialNo => tEntry.sSerialNo
  | .cardType => toString tEntry.iCardType
  | .cardNo => tEntry.sCardNo
  | .paidAmt => toStringFloat tEntry.sPaidAmt
  | .parkingFee => toStringFloat tEntry.sFee
  | .vcc => "NULL"
  | .gstAmt => toStringFloat tEntry.sGSTAmt
  | .entryLpnSid => transId
  | .lpn => lprNo

/-- What a `SELECT` shows of an exit saved locally. -/
def selectedExit (transId : String) (exitTrans : TExitTrans) : ExitColumn → String
  | .stationId => exitTrans.xsid
  | .exitTime => exitTrans.sExitTime
  | .iuTkNo => exitTrans.sIUNo
  | .cardMcNo => exitTrans.sCardNo
  | .transType => toString exitTrans.iTransType
  | .parkedTime => toString exitTrans.lParkedTime
  | .parkingFee => toStringFloat exitTrans.sFee
  | .paidAmt => toStringFloat exitTrans.sPaidAmt
  | .receiptNo => exitTrans.sReceiptNo
  | .status => toString exitTrans.iStatus
  | .redeemAmt => toStringFloat exitTrans.sRedeemAmt
  | .redeemTime => toString exitTrans.iRedeemTime
  | .redeemNo => exitTrans.sRedeemNo
  | .gstAmt => toStringFloat exitTrans.sGSTAmt
  | .chuDebitCode => exitTrans.sCHUDebitCode
  | .cardType => toString exitTrans.iCardType
  | .topUpAmt => toStringFloat exitTrans.sTopupAmt
  | .uposbatchno => exitTrans.uposbatchno
  | .feefrom => exitTrans.feefrom
  | .lpn => exitTrans.lpn
  | .entryId => toString exitTrans.iEntryID
  | .entryTime => exitTrans.sEntryTime
  | .exitLpnSid => transId
  | .eepDSerialNo => exitTrans.sDSerialNo
  | .eepTransRoute => toString exitTrans.iEEPTransRoute
  | .eepPaymentResult => toString exitTrans.iEEPPaymentResult
  | .eepPaymentTime => exitTrans.sEEPpaymentTime
  | .vcc => exitTrans.vcc

theorem getDataItem_localEntryInsert (transId lprNo : String) (tEntry : TEntryTrans) :
    (plainTypes EntryColumn).getDataItem
        (insertedRow (localEntryInsert transId lprNo tEntry)) =
      selectedEntry transId lprNo tEntry := by
  funext column
  cases column <;> rfl

theorem getDataItem_localExitInsert (transId : String) (exitTrans : TExitTrans) :
    (plainTypes ExitColumn).getDataItem (insertedRow (localExitInsert transId exitTrans)) =
      selectedExit transId exitTrans := by
  funext column
  cases column <;> rfl

theorem stoi_toString_of_fits {value : ℤ} (hfits : FitsInt value) :
    stoi (toString value) = some value := by
  rw [stoi_toString, if_pos hfits]

/-- The upload reads an entry saved locally back, but for the VCC, which the local
`INSERT` leaves NULL, and with the recorded plate as the first one. -/
theorem readEntryTrans_selectedEntry {tEntry : TEntryTrans} (hreadable : EntryReadable tEntry)
    (transId lprNo : String) :
    readEntryTrans (selectedEntry transId lprNo tEntry) =
      some { tEntry with sLPN0 := lprNo, sLPN1 := "", vcc := "NULL" } := by
  unfold readEntryTrans
  simp only [selectedEntry, stoi_toString_of_fits hreadable.iTransType,
    stoi_toString_of_fits hreadable.iStatus, stoi_toString_of_fits hreadable.iCardType,
    stof_toStringFloat_of_printable hreadable.sPaidAmt,
    stof_toStringFloat_of_printable hreadable.sFee,
    stof_toStringFloat_of_printable hreadable.sGSTAmt]
  rfl

/-- The upload reads an exit saved locally back, with the recorded plate as the first
one, but it selects neither the UPOS batch number nor where the fee is from. -/
theorem readExitTrans_selectedExit {exitTrans : TExitTrans} (hreadable : ExitReadable exitTrans)
    (transId : String) :
    readExitTrans (selectedExit transId exitTrans) =
      some { exitTrans with
        sLPN0 := exitTrans.lpn
        lpn := ""
        uposbatchno := ""
        feefrom := ""
        sEntryTime := if exitTrans.iEntryID < 1 then "" else exitTrans.sEntryTime } := by
  unfold readExitTrans
  simp only [selectedExit, stoi_toString_of_fits hreadable.iTransType,
    stoi_toString_of_fits hreadable.iStatus, stoi_toString_of_fits hreadable.lParkedTime,
    stoi_toString_of_fits hreadable.iRedeemTime, stoi_toString_of_fits hreadable.iCardType,
    stoi_toString_of_fits hreadable.iEntryID, stoi_toString_of_fits hreadable.iEEPTransRoute,
    stoi_toString_of_fits hreadable.iEEPPaymentResult,
    stof_toStringFloat_of_printable hreadable.sFee,
    stof_toStringFloat_of_printable hreadable.sPaidAmt,
    stof_toStringFloat_of_printable hreadable.sRedeemAmt,
    stof_toStringFloat_of_printable hreadable.sGSTAmt,
    stof_toStringFloat_of_printable hreadable.sTopupAmt]
  rfl

/-- An entry uploaded from the local table has the online row's value in every column
but the serial identifier and the VCC. -/
theorem upload_entry_agrees (tEntry : TEntryTrans) (hreadable : EntryReadable tEntry)
    (transId : String) (id : ℕ) :
    ∃ offlineRow,
      entryUpload.centralRow (plainTypes _)
          ⟨id, insertedRow (localEntryInsert transId (lprNumber tEntry) tEntry)⟩ =
        some offlineRow ∧
      offlineRow .vcc = .text "NULL" ∧
      ∀ column, column ≠ .entryLpnSid → column ≠ .vcc →
        insertedRow (centralEntryInsert transId (lprNumber tEntry) tEntry) column ≠ .null →
        offlineRow column =
          insertedRow (centralEntryInsert transId (lprNumber tEntry) tEntry) column := by
  refine ⟨insertedRow (uploadEntryInsert
    { tEntry with sLPN0 := lprNumber tEntry, sLPN1 := "", vcc := "NULL" }), ?_, rfl, ?_⟩
  · unfold UploadKind.centralRow UploadKind.readRow
    rw [getDataItem_localEntryInsert]
    exact congrArg _ (readEntryTrans_selectedEntry hreadable transId _)
  · intro column hsid hvcc hwritten
    cases column with
    | entryLpnSid => exact absurd rfl hsid
    | vcc => exact absurd rfl hvcc
    | lpn =>
        by_cases hlpr : lprNumber tEntry = ""
        · refine absurd ?_ hwritten
          unfold centralEntryInsert
          rw [if_neg (not_not.mpr hlpr)]
          rfl
        · unfold centralEntryInsert
          rw [if_pos hlpr]
          rfl
    | _ => rfl

/-- The clamping changes nothing but the parked time, and that only above the limit. -/
theorem clampParkedTime_eq (exitTrans : TExitTrans) :
    ∃ parked, (exitTrans.lParkedTime ≤ 32000 → parked = exitTrans.lParkedTime) ∧
      clampParkedTime exitTrans = { exitTrans with lParkedTime := parked } := by
  unfold clampParkedTime
  split
  · exact ⟨32000, fun hle => by omega, rfl⟩
  · exact ⟨exitTrans.lParkedTime, fun _ => rfl, rfl⟩

/-- An exit uploaded from the local table has the online row's value in every column
but the serial identifier, the UPOS batch number, the origin of the fee and, from
32000 minutes on, the parked time. -/
theorem upload_exit_agrees (exitTrans : TExitTrans) (hreadable : ExitReadable exitTrans)
    (transId : String) (id : ℕ) :
    ∃ offlineRow,
      exitUpload.centralRow (plainTypes _)
          ⟨id, insertedRow (localExitInsert transId exitTrans)⟩ = some offlineRow ∧
      offlineRow .uposbatchno = .null ∧ offlineRow .feefrom = .null ∧
      ∀ column, column ≠ .exitLpnSid → column ≠ .uposbatchno → column ≠ .feefrom →
        (column = .parkedTime → exitTrans.lParkedTime ≤ 32000) →
        insertedRow (centralExitInsert transId (clampParkedTime exitTrans)) column ≠ .null →
        offlineRow column =
          insertedRow (centralExitInsert transId (clampParkedTime exitTrans)) column := by
  refine ⟨insertedRow (uploadExitInsert
    { exitTrans with
      sLPN0 := exitTrans.lpn
      lpn := ""
      uposbatchno := ""
      feefrom := ""
      sEntryTime := if exitTrans.iEntryID < 1 then "" else exitTrans.sEntryTime }),
    ?_, rfl, rfl, ?_⟩
  · unfold UploadKind.centralRow UploadKind.readRow
    rw [getDataItem_localExitInsert]
    exact congrArg _ (readExitTrans_selectedExit hreadable transId)
  · intro column hsid hbatch hfeefrom hparked hwritten
    obtain ⟨parked, hsame, hclamp⟩ := clampParkedTime_eq exitTrans
    rw [hclamp] at hwritten ⊢
    cases column with
    | exitLpnSid => exact absurd rfl hsid
    | uposbatchno => exact absurd rfl hbatch
    | feefrom => exact absurd rfl hfeefrom
    | parkedTime =>
        rw [hsame (hparked rfl)]
        rfl
    | eepPaymentTime =>
        by_cases hpaid : hasEepPaymentTime { exitTrans with lParkedTime := parked } = true
        · unfold centralExitInsert
          rw [if_pos hpaid]
          rfl
        · refine absurd ?_ hwritten
          unfold centralExitInsert
          rw [if_neg hpaid]
          rfl
    | entryId =>
        refine absurd ?_ hwritten
        unfold centralExitInsert
        split <;> rfl
    | entryTime =>
        refine absurd ?_ hwritten
        unfold centralExitInsert
        split <;> rfl
    | _ => rfl

/-! ## Both paths taken -/

/-- An entry and an exit for which both rows exist, and differ in the identifier. -/
theorem paths_disagree_on_lpn_sid :
    (∃ onlineRow localRow offlineRow,
      (insertEntryTrans "2026-01-01 08:00:00" online online (emptyState {}) { esid := "1" }
          ).1.entryTransTmp = [onlineRow] ∧
        (insertEntryTrans "2026-01-01 08:00:00" offline online (emptyState {}) { esid := "1" }
          ).1.entryTrans.rows = [localRow] ∧
        entryUpload.centralRow (plainTypes _) localRow = some offlineRow ∧
        offlineRow .entryLpnSid ≠ onlineRow .entryLpnSid) ∧
      ∃ onlineRow localRow offlineRow,
        (insertExitTrans online online (emptyState {}) { xsid := "2" }).1.exitTransTmp =
            [onlineRow] ∧
          (insertExitTrans offline online (emptyState {}) { xsid := "2" }).1.exitTrans.rows =
            [localRow] ∧
          exitUpload.centralRow (plainTypes _) localRow = some offlineRow ∧
          offlineRow .exitLpnSid ≠ onlineRow .exitLpnSid := by
  have hzero : Printable 0 := ⟨0, by norm_num⟩
  have hformat : gfeeFormat 0 = 0 := by decide +kernel
  constructor
  · obtain ⟨offlineRow, hupload, -⟩ := upload_entry_agrees
      (prepareEntry "2026-01-01 08:00:00" { esid := "1" })
      ⟨by decide, by decide, by decide, hzero, hzero, hzero⟩ "" 1
    refine ⟨_, _, offlineRow, rfl, rfl, hupload, ?_⟩
    rw [centralRow_entryLpnSid hupload]
    exact SqlValue.noConfusion
  · obtain ⟨offlineRow, hupload, -⟩ := upload_exit_agrees
      (formatExit { xsid := "2" })
      ⟨by decide, by decide, by decide, by decide, by decide, by decide, by decide, by decide,
        by rwa [formatExit, hformat], by rwa [formatExit, hformat], by rwa [formatExit, hformat],
        by rwa [formatExit, hformat], hzero⟩ "" 1
    refine ⟨_, _, offlineRow, rfl, rfl, hupload, ?_⟩
    rw [centralRow_exitLpnSid hupload]
    exact SqlValue.noConfusion

end LinuxPBS.Db

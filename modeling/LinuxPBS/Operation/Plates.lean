import LinuxPBS.Db.Plates
import LinuxPBS.Operation.Remembered
import LinuxPBS.Operation.Underway

/-!
# Plates at a station without OBU

The run of `Db/Plates.lean` with the procedures of the operation module: `LoopACome` makes
a transaction id, `ReceivedLPR` takes an answer for it, the saves hand the plate to the
database, `Clearme` forgets it.  Whatever else the station does in between leaves the id,
the plates and the tables alone; only an OBU would bring another plate.

The plate in memory is the one of the last answer until the vehicle is saved, provided no
answer came while the loop was free and the id was not used before.  An entry hands it to
both databases.  An exit hands over `tExit.lpn`, which is empty without an OBU, so an exit
is right only if no plate has come yet.
-/

set_option synthInstance.maxSize 10000

namespace LinuxPBS.Operation

open Handler Db

/-! ## What the procedures do -/

/-- What a station keeps of a transaction and its plate, with the tables. -/
@[reducible] def plateView (s : Station) :
    TStationType × String × Bool × String × String × String × String × Db.State :=
  (s.gtStation.iType, s.tProcess.gsTransID, s.tProcess.gbsavedtrans, s.tEntry.sLPN0,
    s.tEntry.sLPN1, s.tExit.lpn, s.tExit1.lpn, s.db)

/-- The same without the mark that the transaction is saved. -/
@[reducible] def plateViewUnsaved (s : Station) :
    TStationType × String × String × String × String × String × Db.State :=
  (s.gtStation.iType, s.tProcess.gsTransID, s.tEntry.sLPN0, s.tEntry.sLPN1, s.tExit.lpn,
    s.tExit1.lpn, s.db)

/-- What the database module is given. -/
def databaseOf (s : Station) : Db.State := { s.db with operation := some (sharedData s) }

instance : Frames plateViewUnsaved printReceipt := by
  unfold printReceipt
  infer_instance

instance (iRet : DBError) : Frames plateViewUnsaved (followUp iRet) := by
  unfold followUp takeAmounts
  dsimp only
  infer_instance

instance (iRet : DBError) : Frames plateViewUnsaved (reportExit iRet) := by
  unfold reportExit
  infer_instance

/-- `insertentrytrans`, as `SaveEntry` calls it. -/
theorem insertentrytrans_plates (s : Station) :
    ∃ ret t, insertentrytrans s = .ok ret t ∧ plateViewUnsaved t =
      (s.gtStation.iType, s.tProcess.gsTransID, s.tEntry.sLPN0, s.tEntry.sLPN1, s.tExit.lpn,
        s.tExit1.lpn, (insertEntryTrans (s.env.now s.asked) (s.env.centraldb (s.asked + 1))
          (s.env.localdb (s.asked + 2)) (databaseOf s) s.tEntry.toTEntryTrans).1) :=
  ⟨_, _, rfl, rfl⟩

/-- `SaveEntry` from the answer of the database on. -/
def entryEnd (iRet : DBError) : Op Unit := do
  let steady ← ask Env.steadyClock
  if iRet = .iDBSuccess then
    modify fun s => { s with
      tProcess.gsLastIUNo := s.tEntry.sIUTKNo
      tProcess.lastIUEntryTime := steady }
  modify fun s => { s with
    dbErrNo := if iRet = .iDBSuccess then 0 else if iRet = .iCentralFail then -1 else -2 }
  let s ← get
  let sMsg2Send := if iRet = .iDBSuccess then "Entry OK"
    else if iRet = .iCentralFail then "Entry Central Failed" else "Entry Local Failed"
  if s.tEntry.iStatus = 0 then
    sendMsg2Server "90" (s.tEntry.sIUTKNo ++ ",,," ++
      reportedLPN s.tEntry.iTransType s.tEntry.sLPN0 s.tEntry.sLPN1 ++ "," ++
      toString s.tProcess.giShowType ++ "," ++ sMsg2Send)
  modify fun s => { s with tProcess.gbsavedtrans := true }

theorem after_saveEntry {s : Station} (hIU : s.tEntry.sIUTKNo ≠ "") :
    plateView (after saveEntry s) =
      (s.gtStation.iType, s.tProcess.gsTransID, true, s.tEntry.sLPN0, s.tEntry.sLPN1,
        s.tExit.lpn, s.tExit1.lpn,
        (insertEntryTrans (s.env.now s.asked) (s.env.centraldb (s.asked + 1))
          (s.env.localdb (s.asked + 2)) (databaseOf s) s.tEntry.toTEntryTrans).1) := by
  have hend (iRet : DBError) (t : Station) : plateView (after (entryEnd iRet) t) =
      (t.gtStation.iType, t.tProcess.gsTransID, true, t.tEntry.sLPN0, t.tEntry.sLPN1,
        t.tExit.lpn, t.tExit1.lpn, t.db) := by
    unfold entryEnd sendMsg2Server
    by_cases hret : iRet = .iDBSuccess <;> by_cases hstatus : t.tEntry.iStatus = 0 <;>
      simp [hret, hstatus]
  obtain ⟨ret, t, hok, ht⟩ := insertentrytrans_plates s
  have hsave : after saveEntry s = after (insertentrytrans >>= entryEnd) s := by
    unfold saveEntry
    rw [after_get_bind, if_neg hIU]
    rfl
  rw [hsave, after_bind_of_ok hok, hend]
  simp only [Prod.mk.injEq] at ht ⊢
  obtain ⟨h₁, h₂, h₃, h₄, h₅, h₆, h₇⟩ := ht
  exact ⟨h₁, h₂, trivial, h₃, h₄, h₅, h₆, h₇⟩

/-- `insertexittrans`, as `SaveExit` calls it. -/
theorem insertexittrans_plates (s : Station) :
    ∃ ret t, insertexittrans s = .ok ret t ∧ plateViewUnsaved t =
      (s.gtStation.iType, s.tProcess.gsTransID, s.tEntry.sLPN0, s.tEntry.sLPN1, s.tExit.lpn,
        s.tExit1.lpn, (insertExitTrans (s.env.centraldb s.asked) (s.env.localdb (s.asked + 1))
          (databaseOf s) s.tExit.toTExitTrans).1) :=
  ⟨_, _, rfl, rfl⟩

instance : Frames plateViewUnsaved saveEnd := by
  unfold saveEnd
  infer_instance

/-- The mark that the transaction is saved. -/
@[reducible] def savedMark (s : Station) : Bool := s.tProcess.gbsavedtrans

instance : Frames savedMark printReceipt := by
  unfold printReceipt
  infer_instance

theorem savedMark_saveEnd (s : Station) : savedMark (after saveEnd s) = true := by
  unfold saveEnd
  rw [after_modify_bind]
  exact Frames.after_eq savedMark _ _

theorem after_saveExit_plates {s : Station} (hIU : s.tExit.sIUNo ≠ "") :
    plateView (after saveExit s) =
      (s.gtStation.iType, s.tProcess.gsTransID, true, s.tEntry.sLPN0, s.tEntry.sLPN1,
        s.tExit.lpn, s.tExit1.lpn,
        (insertExitTrans (s.env.centraldb s.asked) (s.env.localdb (s.asked + 1))
          (databaseOf { s with tExit := settleExit s }) (settleExit s).toTExitTrans).1) := by
  obtain ⟨ret, t, hok, ht⟩ := insertexittrans_plates { s with tExit := settleExit s }
  have hsave : after saveExit s = after (insertexittrans >>= fun iRet => followUp iRet >>=
      fun iRet => reportExit iRet >>= fun _ => saveEnd) { s with tExit := settleExit s } := by
    unfold saveExit
    rw [after_get_bind, if_neg hIU]
    rfl
  have hframes : Frames plateViewUnsaved (followUp ret >>=
      fun iRet => reportExit iRet >>= fun _ => saveEnd) := inferInstance
  obtain ⟨iRet, hfollow⟩ := Returns.after_bind (m := followUp ret)
    (fun iRet => reportExit iRet >>= fun _ => saveEnd) t
  obtain ⟨_, hreport⟩ := Returns.after_bind (m := reportExit iRet) (fun _ => saveEnd)
    (after (followUp ret) t)
  have hmark := savedMark_saveEnd (after (reportExit iRet) (after (followUp ret) t))
  rw [← hreport, ← hfollow] at hmark
  have hview := (hframes.frames t).trans ht
  rw [hsave, after_bind_of_ok hok]
  simp only [Prod.mk.injEq] at hview ⊢
  obtain ⟨h₁, h₂, h₃, h₄, h₅, h₆, h₇⟩ := hview
  exact ⟨h₁, h₂, hmark, h₃, h₄, h₅, h₆, h₇⟩

/-- `tExit1` as `UpdateExit` hands it to the database. -/
def taxedExit1 (s : Station) : TExit :=
  { s.tExit1 with
    sGSTAmt := s.tExit1.sPaidAmt * s.tParas.gfGSTRate / (1 + s.tParas.gfGSTRate) }

/-- `UpdateExit` saves the record of another vehicle under the current transaction id. -/
theorem after_updateExit_plates {s : Station} (hIU : s.tExit1.sIUNo ≠ "") :
    plateView (after updateExit s) =
      (s.gtStation.iType, s.tProcess.gsTransID, s.tProcess.gbsavedtrans, s.tEntry.sLPN0,
        s.tEntry.sLPN1, s.tExit.lpn, s.tExit1.lpn,
        (insertExitTrans (s.env.centraldb s.asked) (s.env.localdb (s.asked + 1))
          (databaseOf s) (taxedExit1 s).toTExitTrans).1) := by
  unfold updateExit insertexitrecord
  rw [after_get_bind, if_neg hIU]
  rfl

/-- `Clearme` forgets the transaction and its plate. -/
theorem after_clearme (s : Station) :
    plateView (after clearme s) =
      (s.gtStation.iType, "", false,
        if s.gtStation.iType = .tientry then ("", "", s.tExit.lpn, s.tExit1.lpn, s.db)
        else (s.tEntry.sLPN0, s.tEntry.sLPN1, "", "", s.db)) := by
  unfold clearme
  by_cases htype : s.gtStation.iType = .tientry <;> simp [htype, clearedEntry, clearedExit]

/-- Nothing is looked up for a vehicle without a plate. -/
theorem plateView_enableCashcardAt {s : Station} (hnone : lookUpLPN s = "") (depth : ℕ)
    (bEnable : Bool) : plateView (after (enableCashcardAt depth bEnable) s) = plateView s := by
  cases depth with
  | zero => rfl
  | succ depth =>
      have hfinds : FindsNone bEnable s := by
        right
        intro n
        rw [lookedUp, if_neg (not_not.mpr hnone)]
        decide
      have hunsent := congrArg plateView (unsent_enableCashcardAt hfinds depth)
      refine hunsent.trans ?_
      unfold switched
      split <;> rfl

/-- The id of a transaction that begins now. -/
def newTransID (s : Station) : String :=
  s.tParas.gscarparkcode ++ "-" ++ toString s.gtStation.iSID ++ "-" ++ s.env.nowDigits s.asked

instance : Returns clearme := by
  have hcall : Returns (call .clearme) := ⟨fun s => ⟨_, _, rfl⟩⟩
  unfold clearme
  infer_instance

/-- `Clearme` leaves no plate that could be looked up, whatever the id. -/
theorem lookUpLPN_clearme (s : Station) (gsTransID : String) :
    lookUpLPN { after clearme s with
      asked := (after clearme s).asked + 1
      tProcess.gsTailgateOBU := "", tProcess.gsTransID := gsTransID
      sent := .transIDToLPR gsTransID :: (after clearme s).sent } = "" := by
  unfold clearme
  by_cases htype : s.gtStation.iType = .tientry <;>
    simp [htype, lookUpLPN, clearedEntry, clearedExit]

/-- What `Clearme` leaves alone. -/
@[reducible] def surroundings (s : Station) : Env × ℕ × TParas × TStation :=
  (s.env, s.asked, s.tParas, s.gtStation)

instance : Frames surroundings clearme := by
  have hcall : Frames surroundings (call .clearme) := ⟨fun _ => rfl⟩
  unfold clearme
  infer_instance

instance (delay : ℕ) : Frames plateView (eepInq delay) := by
  unfold eepInq
  infer_instance

/-- `LoopACome` forgets the transaction before and makes an id for the new one. -/
theorem after_loopACome (depth : ℕ) (s : Station) :
    plateView (after (loopACome (enableCashcardAt depth)) s) =
      (s.gtStation.iType, newTransID s, false,
        if s.gtStation.iType = .tientry then ("", "", s.tExit.lpn, s.tExit1.lpn, s.db)
        else (s.tEntry.sLPN0, s.tEntry.sLPN1, "", "", s.db)) := by
  obtain ⟨_, hclear⟩ := Returns.after_bind (m := clearme) (fun _ => do
    modify fun s => { s with tProcess.gsTailgateOBU := "" }
    let nowDigits ← ask Env.nowDigits
    modify fun s => { s with
      tProcess.gsTransID :=
        s.tParas.gscarparkcode ++ "-" ++ toString s.gtStation.iSID ++ "-" ++ nowDigits }
    let s ← get
    send (.transIDToLPR s.tProcess.gsTransID)
    if s.tParas.giEPS = 3 then eepInq 0
    else if antennaOK s.tParas then send .antennaReadIU
    else enableCashcardAt depth true) s
  have hcleared := after_clearme s
  have hkept : surroundings (after clearme s) = surroundings s := Frames.after_eq _ _ _
  have hnone := lookUpLPN_clearme s
  rw [loopACome, hclear]
  generalize after clearme s = t at hcleared hkept hnone
  simp only [after_modify_bind, after_ask_bind, after_get_bind, after_send_bind]
  simp only [Prod.mk.injEq] at hkept
  obtain ⟨henv, hasked, hparas, hstation⟩ := hkept
  have hid : t.tParas.gscarparkcode ++ "-" ++ toString t.gtStation.iSID ++ "-" ++
      t.env.nowDigits t.asked = newTransID s := by
    rw [newTransID, henv, hasked, hparas, hstation]
  have hreaders (c c' : Prop) [Decidable c] [Decidable c'] (u : Station)
      (hu : lookUpLPN u = "") : plateView (after (if c then eepInq 0
        else if c' then send .antennaReadIU else enableCashcardAt depth true) u) = plateView u := by
    split
    · exact Frames.after_eq plateView _ _
    · split
      · exact Frames.after_eq plateView _ _
      · exact plateView_enableCashcardAt hu depth true
  rw [hid, hreaders _ _ _ (hnone _)]
  simp only [Prod.mk.injEq] at hcleared ⊢
  exact ⟨hcleared.1, trivial, hcleared.2.2⟩

/-- The answer is taken for the vehicle on the loop. -/
def TakesPlate (s : Station) (sTransid : String) : Prop :=
  s.tProcess.gsTransID = sTransid ∧ s.env.gbLoopApresent s.asked = true ∧
    s.tProcess.gbsavedtrans = false

instance (s : Station) (sTransid : String) : Decidable (TakesPlate s sTransid) :=
  inferInstanceAs (Decidable (_ ∧ _))

/-- `ReceivedLPR` sets the plates of `tEntry`, or those of `tExit` that no statement stores. -/
theorem after_receivedLPR (LPN sTransid : String) (s : Station) :
    plateView (after (receivedLPR LPN sTransid) s) =
      (s.gtStation.iType, s.tProcess.gsTransID, s.tProcess.gbsavedtrans,
        if TakesPlate s sTransid ∧ s.gtStation.iType = .tientry then
          (LPN, LPN, s.tExit.lpn, s.tExit1.lpn, s.db)
        else (s.tEntry.sLPN0, s.tEntry.sLPN1, s.tExit.lpn, s.tExit1.lpn, s.db)) := by
  unfold receivedLPR sendMsg2Server TakesPlate
  by_cases hid : s.tProcess.gsTransID = sTransid <;>
    by_cases hpresent : s.env.gbLoopApresent s.asked = true <;>
    by_cases hsaved : s.tProcess.gbsavedtrans = false <;>
    by_cases htype : s.gtStation.iType = .tientry <;>
    by_cases hIU : s.tEntry.sIUTKNo = "" <;>
    simp [hid, hpresent, hsaved, htype, hIU]

/-! ## The runs -/

/-- The databases of a station with the columns of the central tables. -/
structure PlateDatabases extends StationDatabases where
  centralEntryTypes : ColumnTypes EntryColumn
  centralExitTypes : ColumnTypes ExitColumn

/-- A station with the tables into which the server moves its rows; as history, the local
rows that were uploaded and the plates that came for each transaction id. -/
structure PlateRun where
  station : Station
  entryMain : List (EntryColumn → SqlValue)
  exitMain : List (ExitColumn → SqlValue)
  uploadedEntries : List (LocalRow EntryColumn)
  uploadedExits : List (LocalRow ExitColumn)
  answers : List (String × String)

/-- What happens to the plates.  `work` stands for everything else, which leaves them, the
transaction id and the tables alone. -/
inductive PlateEvent
  | loopACome
  | clearme
  | lpr (LPN sTransid : String) (outcomes : UpdateAnswers)
  | saveEntry
  | saveExit
  | updateExit
  | upload (answers : MoveAnswers)
  | transfer
  | work (other : { f : Station → Station // ∀ s, plateView (f s) = plateView s })

namespace PlateRun

/-- The records of the entries. -/
def entries (run : PlateRun) : Records EntryColumn :=
  ⟨run.station.db.entryTransTmp, run.entryMain, run.station.db.entryTrans, run.uploadedEntries⟩

/-- The records of the exits. -/
def exits (run : PlateRun) : Records ExitColumn :=
  ⟨run.station.db.exitTransTmp, run.exitMain, run.station.db.exitTrans, run.uploadedExits⟩

/-- `updateEntryTrans` or `updateExitTrans`, whichever the station calls for a late answer. -/
def updateTrans (databases : PlateDatabases) (outcomes : UpdateAnswers) (LPN sTransid : String)
    (run : PlateRun) : PlateRun :=
  let flag (ret : ℤ) : ℤ := if ret ≠ 0 then 1 else 0
  if run.station.gtStation.iType = .tientry then
    let (records, ret) := entryPlates.updateTrans databases.centralEntryTypes outcomes LPN sTransid
      run.entries
    { run with
      station.db.entryTransTmp := records.tmp
      station.db.remoteDbErrFlag := flag ret
      entryMain := records.main }
  else
    let (records, ret) := exitPlates.updateTrans databases.centralExitTypes outcomes LPN sTransid
      run.exits
    { run with
      station.db.exitTransTmp := records.tmp
      station.db.remoteDbErrFlag := flag ret
      exitMain := records.main }

/-- An LPR answer; the statements come before the message of `ReceivedLPR`, which does not
depend on them. -/
def receive (databases : PlateDatabases) (outcomes : UpdateAnswers) (LPN sTransid : String)
    (run : PlateRun) : PlateRun :=
  let updated := if TakesPlate run.station sTransid then run
    else run.updateTrans databases outcomes LPN sTransid
  { updated with
    station := after (receivedLPR LPN sTransid) updated.station
    answers := (sTransid, LPN) :: updated.answers }

/-- `moveOfflineTransToCentral` -/
def move (databases : PlateDatabases) (answers : MoveAnswers) (run : PlateRun) : PlateRun :=
  let moved := databases.move answers (databaseOf run.station)
  { run with
    station := storeBack moved.state run.station
    uploadedEntries := run.uploadedEntries ++ moved.uploadedEntries
    uploadedExits := run.uploadedExits ++ moved.uploadedExits }

/-- One event. -/
def step (databases : PlateDatabases) (depth : ℕ) (run : PlateRun) : PlateEvent → PlateRun
  | .loopACome => { run with station := after (loopACome (enableCashcardAt depth)) run.station }
  | .clearme => { run with station := after Operation.clearme run.station }
  | .lpr LPN sTransid outcomes => run.receive databases outcomes LPN sTransid
  | .saveEntry => { run with station := after Operation.saveEntry run.station }
  | .saveExit => { run with station := after Operation.saveExit run.station }
  | .updateExit => { run with station := after Operation.updateExit run.station }
  | .upload answers => run.move databases answers
  | .transfer =>
      { run with
        station.db.entryTransTmp := []
        station.db.exitTransTmp := []
        entryMain := run.entryMain ++ run.station.db.entryTransTmp
        exitMain := run.exitMain ++ run.station.db.exitTransTmp }
  | .work other => { run with station := other.1 run.station }

/-- Every record carries the plate of the last answer for its transaction id. -/
structure PlatesRight (databases : PlateDatabases) (run : PlateRun) : Prop where
  entries : entryPlates.Carried databases.entryTypes run.answers run.entries
  exits : exitPlates.Carried databases.exitTypes run.answers run.exits

/-- The columns of both tables give back what was written. -/
structure ReadsBack (databases : PlateDatabases) : Prop where
  entries : entryPlates.ReadsBack databases.entryTypes databases.centralEntryTypes
  exits : exitPlates.ReadsBack databases.exitTypes databases.centralExitTypes

/-- The records that a late answer finds: those of the station's own kind, if the
statements are executed and no record of the id is local or was uploaded. -/
def Finds (outcomes : UpdateAnswers) (sTransid : String) (run : PlateRun) : Prop :=
  if run.station.gtStation.iType = .tientry then
    entryPlates.Reached outcomes sTransid run.entries ∧ exitPlates.NoneSaved sTransid run.exits
  else
    exitPlates.Reached outcomes sTransid run.exits ∧ entryPlates.NoneSaved sTransid run.entries

/-- The vehicle on the loop is an entry that is not saved yet. -/
def Unsaved (s : Station) : Prop :=
  s.gtStation.iType = .tientry ∧ s.tProcess.gbsavedtrans = false

/-- The plate is in time at an event: a new transaction has a new id; an answer says what
the last one said, or comes before its vehicle is saved, or finds the record; and a save
hands over the plate in memory, which for an exit is none at all. -/
def InTime (run : PlateRun) : PlateEvent → Prop
  | .loopACome => lastPlate (newTransID run.station) run.answers = ""
  | .lpr LPN sTransid outcomes =>
      sTransid = "" ∨ LPN = lastPlate sTransid run.answers ∨
        if TakesPlate run.station sTransid then
          entryPlates.NoneSaved sTransid run.entries ∧ exitPlates.NoneSaved sTransid run.exits
        else
          (sTransid = run.station.tProcess.gsTransID → ¬Unsaved run.station) ∧
            run.Finds outcomes sTransid
  | .saveEntry =>
      run.station.tEntry.sIUTKNo = "" ∨ run.station.tProcess.gsTransID = "" ∨
        Unsaved run.station ∨ lprNumber run.station.tEntry.toTEntryTrans =
          lastPlate run.station.tProcess.gsTransID run.answers
  | .saveExit =>
      run.station.tExit.sIUNo = "" ∨ run.station.tProcess.gsTransID = "" ∨
        lastPlate run.station.tProcess.gsTransID run.answers = ""
  | .updateExit =>
      run.station.tExit1.sIUNo = "" ∨ run.station.tProcess.gsTransID = "" ∨
        lastPlate run.station.tProcess.gsTransID run.answers = ""
  | _ => True

/-- The plate in memory is that of the last answer, and no OBU brought another. -/
structure Memory (s : Station) (answers : List (String × String)) : Prop where
  plate0 : s.tProcess.gsTransID ≠ "" → Unsaved s →
    s.tEntry.sLPN0 = lastPlate s.tProcess.gsTransID answers
  plate1 : s.tProcess.gsTransID ≠ "" → Unsaved s →
    s.tEntry.sLPN1 = lastPlate s.tProcess.gsTransID answers
  obu : s.tExit.lpn = ""
  obu1 : s.tExit1.lpn = ""

end PlateRun

/-! ## What one event keeps -/

/-- `updateTrans` changes the two central tables only. -/
theorem updateTrans_eq {κ τ : Type*} [DecidableEq κ] (columns : PlateColumns κ τ)
    (central : ColumnTypes κ) (outcomes : UpdateAnswers) (lpn transId : String)
    (records : Records κ) :
    (columns.updateTrans central outcomes lpn transId records).1 =
      { records with
        tmp := (columns.updateTrans central outcomes lpn transId records).1.tmp
        main := (columns.updateTrans central outcomes lpn transId records).1.main } := by
  unfold PlateColumns.updateTrans
  simp only
  split
  · rfl
  · split <;> rfl

namespace PlateRun

variable {databases : PlateDatabases} {depth : ℕ} {run : PlateRun} {s t : Station}
  {answers : List (String × String)}

/-- What is known of the view of a station is known of its plates. -/
theorem memory_of_view {iType : TStationType} {gbsavedtrans : Bool}
    {gsTransID plate0 plate1 lpn lpn1 : String} {db : Db.State}
    (hview : plateView t = (iType, gsTransID, gbsavedtrans, plate0, plate1, lpn, lpn1, db))
    (hplates : gsTransID ≠ "" → iType = .tientry → gbsavedtrans = false →
      plate0 = lastPlate gsTransID answers ∧ plate1 = lastPlate gsTransID answers)
    (hlpn : lpn = "") (hlpn1 : lpn1 = "") : Memory t answers := by
  simp only [Prod.mk.injEq] at hview
  obtain ⟨rfl, rfl, rfl, rfl, rfl, rfl, rfl, -⟩ := hview
  exact ⟨fun hid hunsaved => (hplates hid hunsaved.1 hunsaved.2).1,
    fun hid hunsaved => (hplates hid hunsaved.1 hunsaved.2).2, hlpn, hlpn1⟩

theorem Memory.plates (hmemory : Memory s answers) (hid : s.tProcess.gsTransID ≠ "")
    (htype : s.gtStation.iType = .tientry) (hsaved : s.tProcess.gbsavedtrans = false) :
    s.tEntry.sLPN0 = lastPlate s.tProcess.gsTransID answers ∧
      s.tEntry.sLPN1 = lastPlate s.tProcess.gsTransID answers :=
  ⟨hmemory.plate0 hid ⟨htype, hsaved⟩, hmemory.plate1 hid ⟨htype, hsaved⟩⟩

theorem Memory.of_view (hmemory : Memory s answers) (hview : plateView t = plateView s) :
    Memory t answers :=
  memory_of_view hview hmemory.plates hmemory.obu hmemory.obu1

theorem PlatesRight.of_db (hright : PlatesRight databases run) (hdb : s.db = run.station.db) :
    PlatesRight databases { run with station := s } := by
  constructor
  · rw [PlateRun.entries, hdb]
    exact hright.entries
  · rw [PlateRun.exits, hdb]
    exact hright.exits

/-- Either plate in memory is what the entry hands over. -/
theorem lprNumber_of_same {tEntry : TEntryTrans} {plate : String} (h0 : tEntry.sLPN0 = plate)
    (h1 : tEntry.sLPN1 = plate) : lprNumber tEntry = plate := by
  unfold lprNumber
  by_cases hplate : plate = ""
  · simp [h0, h1, hplate]
  · rw [h0, h1, if_pos (Or.inl hplate), ite_self]

theorem plates_loopACome (hright : PlatesRight databases run)
    (hmemory : Memory run.station run.answers)
    (hnew : lastPlate (newTransID run.station) run.answers = "") :
    PlatesRight databases (run.step databases depth .loopACome) ∧
      Memory (run.step databases depth .loopACome).station run.answers := by
  have hview := after_loopACome depth run.station
  by_cases htype : run.station.gtStation.iType = .tientry
  · rw [if_pos htype] at hview
    exact ⟨hright.of_db (congrArg (·.2.2.2.2.2.2.2) hview),
      memory_of_view hview (fun _ _ _ => ⟨hnew.symm, hnew.symm⟩) hmemory.obu hmemory.obu1⟩
  · rw [if_neg htype] at hview
    exact ⟨hright.of_db (congrArg (·.2.2.2.2.2.2.2) hview),
      memory_of_view hview (fun _ hentry => absurd hentry htype) rfl rfl⟩

theorem plates_clearme (hright : PlatesRight databases run)
    (hmemory : Memory run.station run.answers) :
    PlatesRight databases (run.step databases depth .clearme) ∧
      Memory (run.step databases depth .clearme).station run.answers := by
  have hview := after_clearme run.station
  by_cases htype : run.station.gtStation.iType = .tientry
  · rw [if_pos htype] at hview
    exact ⟨hright.of_db (congrArg (·.2.2.2.2.2.2.2) hview),
      memory_of_view hview (fun hid => absurd rfl hid) hmemory.obu hmemory.obu1⟩
  · rw [if_neg htype] at hview
    exact ⟨hright.of_db (congrArg (·.2.2.2.2.2.2.2) hview),
      memory_of_view hview (fun hid => absurd rfl hid) rfl rfl⟩

theorem plates_saveEntry (hright : PlatesRight databases run)
    (hmemory : Memory run.station run.answers) (hintime : run.InTime .saveEntry) :
    PlatesRight databases (run.step databases depth .saveEntry) ∧
      Memory (run.step databases depth .saveEntry).station run.answers := by
  by_cases hIU : run.station.tEntry.sIUTKNo = ""
  · have hsame : plateView (after Operation.saveEntry run.station) = plateView run.station := by
      unfold Operation.saveEntry
      rw [after_get_bind, if_pos hIU]
      rfl
    exact ⟨hright.of_db (congrArg (·.2.2.2.2.2.2.2) hsame), hmemory.of_view hsame⟩
  have hview := after_saveEntry hIU
  have hplate : run.station.tProcess.gsTransID ≠ "" →
      lprNumber run.station.tEntry.toTEntryTrans =
        lastPlate run.station.tProcess.gsTransID run.answers := by
    intro hid
    rcases hintime with h | h | hunsaved | hsame
    · exact absurd h hIU
    · exact absurd h hid
    · exact lprNumber_of_same (hmemory.plate0 hid hunsaved) (hmemory.plate1 hid hunsaved)
    · exact hsame
  refine ⟨?_, memory_of_view hview (fun _ _ hsaved => nomatch hsaved) hmemory.obu hmemory.obu1⟩
  have hdb : (after Operation.saveEntry run.station).db = _ := congrArg (·.2.2.2.2.2.2.2) hview
  have hdata : (databaseOf run.station).operation = some (sharedData run.station) := rfl
  have hsave := insertEntryTrans_savesPlate (run.station.env.now run.station.asked)
    (run.station.env.centraldb (run.station.asked + 1))
    (run.station.env.localdb (run.station.asked + 2)) hdata
    run.station.tEntry.toTEntryTrans run.entryMain run.uploadedEntries
  have hexits := insertEntryTrans_exits (run.station.env.now run.station.asked)
    (run.station.env.centraldb (run.station.asked + 1))
    (run.station.env.localdb (run.station.asked + 2)) (databaseOf run.station)
    run.station.tEntry.toTEntryTrans
  constructor
  · rw [step, entries, hdb]
    exact hright.entries.save hsave hplate
  · rw [step, exits, hdb, hexits.1, hexits.2]
    exact hright.exits

/-- An exit is saved with no plate. -/
theorem PlatesRight.exit (hright : PlatesRight databases run)
    (centraldb localdb : ConnectionAnswers) {state : Db.State} (exitTrans : TExitTrans)
    (hdata : state.operation = some (sharedData run.station))
    (htables : { state with operation := none } = { run.station.db with operation := none })
    (hlpn : exitTrans.lpn = "")
    (hplate : run.station.tProcess.gsTransID ≠ "" →
      lastPlate run.station.tProcess.gsTransID run.answers = "")
    (hdb : s.db = (insertExitTrans centraldb localdb state exitTrans).1) :
    PlatesRight databases { run with station := s } := by
  simp only [State.mk.injEq, true_and] at htables
  obtain ⟨hentryTmp, hexitTmp, hentry, hexit, -⟩ := htables
  have hsave := insertExitTrans_savesPlate centraldb localdb hdata exitTrans run.exitMain
    run.uploadedExits
  have hentries := insertExitTrans_entries centraldb localdb state exitTrans
  constructor
  · rw [PlateRun.entries, hdb, hentries.1, hentries.2, hentryTmp, hentry]
    exact hright.entries
  · rw [PlateRun.exits, hdb]
    rw [hexitTmp, hexit] at hsave
    exact hright.exits.save hsave fun hid => hlpn.trans (hplate hid).symm

theorem plates_saveExit (hright : PlatesRight databases run)
    (hmemory : Memory run.station run.answers) (hintime : run.InTime .saveExit) :
    PlatesRight databases (run.step databases depth .saveExit) ∧
      Memory (run.step databases depth .saveExit).station run.answers := by
  by_cases hIU : run.station.tExit.sIUNo = ""
  · have hsame : plateView (after Operation.saveExit run.station) = plateView run.station := by
      unfold Operation.saveExit
      rw [after_get_bind, if_pos hIU]
      rfl
    exact ⟨hright.of_db (congrArg (·.2.2.2.2.2.2.2) hsame), hmemory.of_view hsame⟩
  have hview := after_saveExit_plates hIU
  refine ⟨?_, memory_of_view hview (fun _ _ hsaved => nomatch hsaved) hmemory.obu hmemory.obu1⟩
  have hdb : (after Operation.saveExit run.station).db = _ := congrArg (·.2.2.2.2.2.2.2) hview
  refine hright.exit _ _ (settleExit run.station).toTExitTrans ?_ ?_ hmemory.obu ?_ hdb
  · rfl
  · rfl
  · intro hid
    rcases hintime with h | h | hnone
    · exact absurd h hIU
    · exact absurd h hid
    · exact hnone

theorem plates_updateExit (hright : PlatesRight databases run)
    (hmemory : Memory run.station run.answers) (hintime : run.InTime .updateExit) :
    PlatesRight databases (run.step databases depth .updateExit) ∧
      Memory (run.step databases depth .updateExit).station run.answers := by
  by_cases hIU : run.station.tExit1.sIUNo = ""
  · have hsame : plateView (after Operation.updateExit run.station) = plateView run.station := by
      unfold Operation.updateExit
      rw [after_get_bind, if_pos hIU]
      rfl
    exact ⟨hright.of_db (congrArg (·.2.2.2.2.2.2.2) hsame), hmemory.of_view hsame⟩
  have hview := after_updateExit_plates hIU
  refine ⟨?_, memory_of_view hview hmemory.plates hmemory.obu hmemory.obu1⟩
  have hdb : (after Operation.updateExit run.station).db = _ := congrArg (·.2.2.2.2.2.2.2) hview
  refine hright.exit _ _ (taxedExit1 run.station).toTExitTrans ?_ ?_ hmemory.obu1 ?_ hdb
  · rfl
  · rfl
  · intro hid
    rcases hintime with h | h | hnone
    · exact absurd h hIU
    · exact absurd h hid
    · exact hnone

/-- The statements of a late answer concern the records of the station's own kind. -/
theorem tables_updateTrans (databases : PlateDatabases) (outcomes : UpdateAnswers)
    (LPN sTransid : String) (run : PlateRun) :
    (run.updateTrans databases outcomes LPN sTransid).entries =
        (if run.station.gtStation.iType = .tientry then
          (entryPlates.updateTrans databases.centralEntryTypes outcomes LPN sTransid run.entries).1
        else run.entries) ∧
      (run.updateTrans databases outcomes LPN sTransid).exits =
        if run.station.gtStation.iType = .tientry then run.exits
        else
          (exitPlates.updateTrans databases.centralExitTypes outcomes LPN sTransid
            run.exits).1 := by
  unfold updateTrans
  split
  · exact ⟨(updateTrans_eq _ _ _ _ _ _).symm, rfl⟩
  · exact ⟨rfl, (updateTrans_eq _ _ _ _ _ _).symm⟩

/-- What an LPR answer does to the records. -/
theorem tables_receive (databases : PlateDatabases) (outcomes : UpdateAnswers)
    (LPN sTransid : String) (run : PlateRun) :
    (run.receive databases outcomes LPN sTransid).entries =
        (if ¬TakesPlate run.station sTransid ∧ run.station.gtStation.iType = .tientry then
          (entryPlates.updateTrans databases.centralEntryTypes outcomes LPN sTransid run.entries).1
        else run.entries) ∧
      (run.receive databases outcomes LPN sTransid).exits =
        if ¬TakesPlate run.station sTransid ∧ run.station.gtStation.iType ≠ .tientry then
          (exitPlates.updateTrans databases.centralExitTypes outcomes LPN sTransid run.exits).1
        else run.exits := by
  have hdb (s : Station) : (after (receivedLPR LPN sTransid) s).db = s.db := by
    have hview := congrArg (·.2.2.2.2.2.2.2) (after_receivedLPR LPN sTransid s)
    simp only at hview
    rw [hview]
    split <;> rfl
  unfold receive
  by_cases htakes : TakesPlate run.station sTransid
  · simp [htakes, entries, exits, hdb]
  · obtain ⟨hentries, hexits⟩ := tables_updateTrans databases outcomes LPN sTransid run
    simp only [htakes, if_false, not_false_eq_true, true_and]
    rw [ite_not, ← hentries, ← hexits]
    simp [entries, exits, hdb]

/-- An LPR answer changes no record but those saved under its transaction id. -/
theorem othersKept_receive (hreads : ReadsBack databases) (outcomes : UpdateAnswers)
    (LPN sTransid : String) (run : PlateRun) :
    entryPlates.OthersKept sTransid run.entries
        (run.receive databases outcomes LPN sTransid).entries ∧
      exitPlates.OthersKept sTransid run.exits
        (run.receive databases outcomes LPN sTransid).exits := by
  have hsame {κ τ : Type} [DecidableEq κ] (columns : PlateColumns κ τ) (records : Records κ) :
      columns.OthersKept sTransid records records :=
    ⟨List.forall₂_same.mpr fun _ _ _ => rfl, List.forall₂_same.mpr fun _ _ _ => rfl, rfl⟩
  obtain ⟨hentries, hexits⟩ := tables_receive databases outcomes LPN sTransid run
  rw [hentries, hexits]
  constructor
  · split
    · exact PlateColumns.othersKept_updateTrans hreads.entries outcomes
    · exact hsame _ _
  · split
    · exact PlateColumns.othersKept_updateTrans hreads.exits outcomes
    · exact hsame _ _

theorem plates_lpr (hreads : ReadsBack databases) (hright : PlatesRight databases run)
    {LPN sTransid : String} {outcomes : UpdateAnswers}
    (hintime : run.InTime (.lpr LPN sTransid outcomes)) :
    PlatesRight databases (run.receive databases outcomes LPN sTransid) := by
  obtain ⟨hentries, hexits⟩ := tables_receive databases outcomes LPN sTransid run
  have hanswers : (run.receive databases outcomes LPN sTransid).answers =
      (sTransid, LPN) :: run.answers := by
    unfold receive updateTrans
    split
    · rfl
    · split <;> rfl
  -- the answer is repeated or, unless it is for no transaction, finds what it should
  have hfound (hid : sTransid ≠ "") : LPN = lastPlate sTransid run.answers ∨
      if TakesPlate run.station sTransid then
        entryPlates.NoneSaved sTransid run.entries ∧ exitPlates.NoneSaved sTransid run.exits
      else run.Finds outcomes sTransid := by
    rcases hintime with h | hrepeated | htimely
    · exact absurd h hid
    · exact Or.inl hrepeated
    · right
      split
      · rwa [if_pos ‹_›] at htimely
      · rw [if_neg ‹_›] at htimely
        exact htimely.2
  constructor
  · rw [hanswers, hentries]
    split
    · rename_i hlate
      refine hright.entries.answer_updated hreads.entries fun hid => (hfound hid).imp_right ?_
      intro hfinds
      rw [if_neg hlate.1, Finds, if_pos hlate.2] at hfinds
      exact hfinds.1
    · rename_i hother
      refine hright.entries.answer_none hreads.entries fun hid => (hfound hid).imp_right ?_
      intro hfinds
      split at hfinds
      · exact hfinds.1
      · rename_i htakes
        rw [Finds, if_neg fun htype => hother ⟨htakes, htype⟩] at hfinds
        exact hfinds.2
  · rw [hanswers, hexits]
    split
    · rename_i hlate
      refine hright.exits.answer_updated hreads.exits fun hid => (hfound hid).imp_right ?_
      intro hfinds
      rw [if_neg hlate.1, Finds, if_neg hlate.2] at hfinds
      exact hfinds.1
    · rename_i hother
      refine hright.exits.answer_none hreads.exits fun hid => (hfound hid).imp_right ?_
      intro hfinds
      split at hfinds
      · exact hfinds.2
      · rename_i htakes
        rw [Finds, if_pos (by_contra fun htype => hother ⟨htakes, htype⟩)] at hfinds
        exact hfinds.2

/-- The memory follows an answer that it takes, and needs no other. -/
theorem memory_receivedLPR (hmemory : Memory s answers) {LPN sTransid : String}
    (hlate : sTransid ≠ "" → sTransid = s.tProcess.gsTransID → Unsaved s →
      TakesPlate s sTransid ∨ LPN = lastPlate sTransid answers) :
    Memory (after (receivedLPR LPN sTransid) s) ((sTransid, LPN) :: answers) := by
  have hview := after_receivedLPR LPN sTransid s
  by_cases htakes : TakesPlate s sTransid ∧ s.gtStation.iType = .tientry
  · rw [if_pos htakes] at hview
    refine memory_of_view hview (fun _ _ _ => ?_) hmemory.obu hmemory.obu1
    rw [lastPlate_cons, if_pos htakes.1.1.symm]
    exact ⟨rfl, rfl⟩
  · rw [if_neg htakes] at hview
    refine memory_of_view hview (fun hid htype hsaved => ?_) hmemory.obu hmemory.obu1
    obtain ⟨hplate0, hplate1⟩ := hmemory.plates hid htype hsaved
    have hsame : lastPlate s.tProcess.gsTransID ((sTransid, LPN) :: answers) =
        lastPlate s.tProcess.gsTransID answers := by
      by_cases hanswered : sTransid = s.tProcess.gsTransID
      · rcases hlate (hanswered ▸ hid) hanswered ⟨htype, hsaved⟩ with h | hrepeated
        · exact absurd ⟨h, htype⟩ htakes
        · exact lastPlate_repeated hrepeated _
      · rw [lastPlate_cons, if_neg hanswered]
    rw [hsame]
    exact ⟨hplate0, hplate1⟩

theorem memory_lpr (hmemory : Memory run.station run.answers) {LPN sTransid : String}
    {outcomes : UpdateAnswers} (hintime : run.InTime (.lpr LPN sTransid outcomes)) :
    Memory (run.receive databases outcomes LPN sTransid).station
      (run.receive databases outcomes LPN sTransid).answers := by
  have hlate : sTransid ≠ "" → sTransid = run.station.tProcess.gsTransID →
      Unsaved run.station →
        TakesPlate run.station sTransid ∨ LPN = lastPlate sTransid run.answers := by
    intro hid hsame hunsaved
    rcases hintime with h | hrepeated | htimely
    · exact absurd h hid
    · exact Or.inr hrepeated
    · by_cases htakes : TakesPlate run.station sTransid
      · exact Or.inl htakes
      · rw [if_neg htakes] at htimely
        exact absurd hunsaved (htimely.1 hsame)
  unfold receive
  by_cases htakes : TakesPlate run.station sTransid
  · rw [if_pos htakes]
    exact memory_receivedLPR hmemory hlate
  · rw [if_neg htakes]
    have hupdated : Memory (run.updateTrans databases outcomes LPN sTransid).station
        run.answers := by
      unfold updateTrans
      split <;> exact ⟨hmemory.plate0, hmemory.plate1, hmemory.obu, hmemory.obu1⟩
    have hanswers : (run.updateTrans databases outcomes LPN sTransid).answers = run.answers := by
      unfold updateTrans
      split <;> rfl
    simp only
    rw [hanswers]
    refine memory_receivedLPR hupdated ?_
    unfold updateTrans
    split <;> exact hlate

theorem plates_upload (hreads : ReadsBack databases) (hright : PlatesRight databases run)
    (hmemory : Memory run.station run.answers) (answers : MoveAnswers) :
    PlatesRight databases (run.move databases answers) ∧
      Memory (run.move databases answers).station run.answers := by
  obtain ⟨⟨hsentEntries, hleftEntries⟩, hsentExits, hleftExits⟩ :=
    move_rows databases.toStationDatabases answers (databaseOf run.station)
  obtain ⟨hentries, hexits⟩ := moveOffline_central databases.entryTypes databases.exitTypes
    databases.entryOrdering databases.exitOrdering answers (databaseOf run.station)
  refine ⟨⟨?_, ?_⟩, hmemory.plate0, hmemory.plate1, hmemory.obu, hmemory.obu1⟩
  · have hcarried := hright.entries.upload hreads.entries hsentEntries hleftEntries
    have htmp : (databases.move answers (databaseOf run.station)).state.entryTransTmp = _ :=
      hentries
    rw [move, PlateRun.entries]
    simp only [storeBack, htmp]
    exact hcarried
  · have hcarried := hright.exits.upload hreads.exits hsentExits hleftExits
    have htmp : (databases.move answers (databaseOf run.station)).state.exitTransTmp = _ := hexits
    rw [move, PlateRun.exits]
    simp only [storeBack, htmp]
    exact hcarried

/-- One event keeps the plates, in the tables and in memory. -/
theorem plates_step (hreads : ReadsBack databases) {event : PlateEvent}
    (hright : PlatesRight databases run) (hmemory : Memory run.station run.answers)
    (hintime : run.InTime event) :
    PlatesRight databases (run.step databases depth event) ∧
      Memory (run.step databases depth event).station (run.step databases depth event).answers := by
  cases event with
  | loopACome => exact plates_loopACome hright hmemory hintime
  | clearme => exact plates_clearme hright hmemory
  | lpr LPN sTransid outcomes =>
      exact ⟨plates_lpr hreads hright hintime, memory_lpr hmemory hintime⟩
  | saveEntry => exact plates_saveEntry hright hmemory hintime
  | saveExit => exact plates_saveExit hright hmemory hintime
  | updateExit => exact plates_updateExit hright hmemory hintime
  | upload answers => exact plates_upload hreads hright hmemory answers
  | transfer =>
      exact ⟨⟨hright.entries.transfer, hright.exits.transfer⟩, hmemory.plate0, hmemory.plate1,
        hmemory.obu, hmemory.obu1⟩
  | work other =>
      have hview := other.2 run.station
      exact ⟨hright.of_db (congrArg (·.2.2.2.2.2.2.2) hview), hmemory.of_view hview⟩

/-- A station at which no transaction is underway, and no OBU was read. -/
structure Begins (databases : PlateDatabases) (run : PlateRun) : Prop where
  right : PlatesRight databases run
  gsTransID : run.station.tProcess.gsTransID = ""
  lpn : run.station.tExit.lpn = ""
  lpn1 : run.station.tExit1.lpn = ""

/-- In every state reached, an LPR answer changes no record but those saved under its
transaction id; and after a run in which the plates are in time, every record carries the
plate of the last answer for its id. -/
theorem plates_right (databases : PlateDatabases) (hreads : ReadsBack databases) (depth : ℕ)
    {run : PlateRun} (hbegins : Begins databases run) (events : List PlateEvent) :
    (∀ LPN sTransid outcomes,
      let reached := Machine.run (step databases depth) run events
      let answered := Machine.run (step databases depth) run
        (events ++ [.lpr LPN sTransid outcomes])
      entryPlates.OthersKept sTransid reached.entries answered.entries ∧
        exitPlates.OthersKept sTransid reached.exits answered.exits) ∧
      (Machine.Meets (step databases depth) InTime run events →
        PlatesRight databases (Machine.run (step databases depth) run events)) := by
  constructor
  · intro LPN sTransid outcomes
    simp only [Machine.run_append]
    exact othersKept_receive hreads outcomes LPN sTransid _
  · intro hmeets
    have hstart : PlatesRight databases run ∧ Memory run.station run.answers :=
      ⟨hbegins.right, fun hid => absurd hbegins.gsTransID hid,
        fun hid => absurd hbegins.gsTransID hid, hbegins.lpn, hbegins.lpn1⟩
    have hstep (run : PlateRun) (event : PlateEvent)
        (hkept : PlatesRight databases run ∧ Memory run.station run.answers)
        (hintime : run.InTime event) :
        PlatesRight databases (run.step databases depth event) ∧
          Memory (run.step databases depth event).station
            (run.step databases depth event).answers :=
      plates_step hreads hkept.1 hkept.2 hintime
    exact (Machine.run_invariant hstep hstart hmeets).1

/-! ## One vehicle at each station -/

/-- Databases that give back what was written, also centrally. -/
def plainPlates : PlateDatabases :=
  { SharedTable.plainStation with
    centralEntryTypes := plainTypes _
    centralExitTypes := plainTypes _ }

theorem readsBack_plainPlates : ReadsBack plainPlates :=
  ⟨⟨fun _ => rfl, fun _ _ => beq_iff_eq⟩, ⟨fun _ => rfl, fun _ _ => beq_iff_eq⟩⟩

/-- A station with nothing in the tables. -/
def emptyRun (station : Station) : PlateRun := ⟨station, [], [], [], [], []⟩

theorem begins_emptyRun {station : Station} (hdb : station.db = emptyState {})
    (hid : station.tProcess.gsTransID = "") (hlpn : station.tExit.lpn = "")
    (hlpn1 : station.tExit1.lpn = "") : Begins plainPlates (emptyRun station) := by
  refine ⟨⟨⟨?_, ?_, ?_⟩, ?_, ?_, ?_⟩, hid, hlpn, hlpn1⟩ <;>
    simp [emptyRun, PlateRun.entries, PlateRun.exits, hdb, emptyState, LocalTable.empty]

/-- Nothing is saved under an id where nothing is saved. -/
theorem noneSaved_of_isEmpty {κ τ : Type*} [DecidableEq κ] {columns : PlateColumns κ τ}
    {records : Records κ} (hcentral : (records.tmp ++ records.main).isEmpty)
    (hlocal : records.localTrans.rows.isEmpty) (huploaded : records.uploaded.isEmpty)
    (transId : String) : columns.NoneSaved transId records := by
  rw [List.isEmpty_iff] at hcentral hlocal huploaded
  refine ⟨?_, ?_, ?_⟩
  · simp [hcentral]
  · simp [hlocal]
  · simp [huploaded]

/-- An entry at which a reader gives the IU after the camera has answered; the camera
answers once more when the vehicle is saved. -/
def entryPlateRun : List PlateEvent :=
  [.loopACome, .lpr "SBA1234A" "-0-" ⟨.done, .done⟩,
    .work ⟨fun s => { s with tEntry.sIUTKNo := "1234567890" }, fun _ => rfl⟩, .saveEntry,
    .lpr "SBA1234A" "-0-" ⟨.done, .done⟩, .clearme]

/-- The entry carries the plate. -/
theorem plates_right_entry :
    let step := step plainPlates 0
    let start := emptyRun { gtStation := { iType := .tientry } }
    PlatesRight plainPlates (Machine.run step start entryPlateRun) ∧
      (Machine.run step start entryPlateRun).entries.tmp.map
        (fun row => (row .entryLpnSid, plateOf (row .lpn))) = [(.text "-0-", "SBA1234A")] := by
  refine ⟨(plates_right plainPlates readsBack_plainPlates 0
    (begins_emptyRun rfl rfl rfl rfl) entryPlateRun).2 ?_, by decide +kernel⟩
  refine ⟨rfl, Or.inr (Or.inr ?_), trivial, Or.inr (Or.inr (Or.inl ?_)), Or.inr (Or.inl ?_),
    trivial, trivial⟩
  · rw [if_pos (by decide +kernel)]
    exact ⟨noneSaved_of_isEmpty (by decide +kernel) (by decide +kernel) (by decide +kernel) _,
      noneSaved_of_isEmpty (by decide +kernel) (by decide +kernel) (by decide +kernel) _⟩
  · constructor <;> decide +kernel
  · decide +kernel

/-- An exit at which the camera answers before the vehicle is saved. -/
def exitPlateRun : List PlateEvent :=
  [.loopACome, .lpr "SBA1234A" "-0-" ⟨.done, .done⟩,
    .work ⟨fun s => { s with tExit.sIUNo := "1234567890" }, fun _ => rfl⟩, .saveExit]

/-- The exit is saved without its plate. -/
theorem not_plates_right :
    ¬∀ databases, ReadsBack databases → ∀ depth run, Begins databases run → ∀ events,
        PlatesRight databases (Machine.run (step databases depth) run events) := by
  intro hall
  have hright := (hall plainPlates readsBack_plainPlates 0 (emptyRun emptyExit)
    (begins_emptyRun rfl rfl rfl rfl) exitPlateRun).exits
  have hrow : (Machine.run (step plainPlates 0) (emptyRun emptyExit) exitPlateRun).exits.tmp.map
      (fun row => (row .exitLpnSid, plateOf (row .lpn))) = [(.text "-0-", "")] := by
    decide +kernel
  obtain ⟨row, hmem, hvalues⟩ := List.mem_map.mp (hrow ▸ List.mem_singleton.mpr rfl)
  obtain ⟨hsid, hplate⟩ := Prod.mk.inj hvalues
  have hcarried := hright.central row (List.mem_append_left _ hmem) "-0-" (by decide) hsid
  exact absurd (hplate.symm.trans hcarried) (by decide +kernel)

end PlateRun

end LinuxPBS.Operation

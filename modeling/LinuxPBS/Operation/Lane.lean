import LinuxPBS.Operation.Events

/-!
# What most of the code leaves alone

The properties of a station speak about a few fields: the flags of the transaction, the
number of the vehicle, the state of the deduction, the memory of the last card and the
calls that have been made.  They are its `Lane`.  Most procedures compute amounts, ask
questions and show texts; they leave the lane alone.

A property is `Settled` when it depends on the lane only.  Those procedures keep every
settled property, and so the walk through the rest of the code is the same for all of
them: it is in `Walk.lean`.
-/

-- the instance of a procedure is as long as its text
set_option synthInstance.maxSize 1000

namespace LinuxPBS.Operation

open Handler Db

/-- The part of the state the properties of a station speak about. -/
structure Lane where
  env : Env
  iType : TStationType
  tParas : TParas
  calls : List Call
  entryIU : String
  gbEntryOK : Bool
  gbsavedtrans : Bool
  gsTransID : String
  gsTailgateOBU : String
  gsLastCardNo : String
  gfLastCardBal : ℚ
  gbLastPaidStatus : Bool
  gsLastPaidTrans : String
  lastTransTime : ℤ
  exitIU : String
  exitLPN : String
  giDeductionStatus : EProcessStatus
  gbPaid : Bool

/-- The lane of a station. -/
@[reducible] def lane (s : Station) : Lane where
  env := s.env
  iType := s.gtStation.iType
  tParas := s.tParas
  calls := s.calls
  entryIU := s.tEntry.sIUTKNo
  gbEntryOK := s.tEntry.gbEntryOK
  gbsavedtrans := s.tProcess.gbsavedtrans
  gsTransID := s.tProcess.gsTransID
  gsTailgateOBU := s.tProcess.gsTailgateOBU
  gsLastCardNo := s.tProcess.gsLastCardNo
  gfLastCardBal := s.tProcess.gfLastCardBal
  gbLastPaidStatus := s.tProcess.gbLastPaidStatus
  gsLastPaidTrans := s.tProcess.gsLastPaidTrans
  lastTransTime := s.tProcess.lastTransTime
  exitIU := s.tExit.sIUNo
  exitLPN := s.tExit.sLPN0
  giDeductionStatus := s.tExit.giDeductionStatus
  gbPaid := s.tExit.gbPaid

/-- An exit station that has just been started. -/
structure NewExit (s : Station) : Prop where
  iType : s.gtStation.iType = .tiExit
  noEntry : s.tEntry.sIUTKNo = ""
  unsaved : s.tProcess.gbsavedtrans = false
  unpaid : s.tExit.gbPaid = false
  giDeductionStatus : s.tExit.giDeductionStatus = .init
  noCard : s.tProcess.gsLastCardNo = ""
  noCalls : s.calls = []

/-- An exit that has just been started. -/
def emptyExit : Station where
  gtStation := { iType := .tiExit }
  tExit := clearedExit {}

theorem newExit_emptyExit : NewExit emptyExit := by constructor <;> rfl

/-- A property of the lane. -/
class Settled (P : Station → Prop) : Prop where
  settled : ∀ s s', lane s' = lane s → P s → P s'

instance {α : Type} {P Q : Station → Prop} [hP : Settled P] [hPQ : Entails P Q] (m : Op α)
    [hm : Frames lane m] : Leads P Q m :=
  ⟨fun s hs => hPQ.entails _ (hP.settled s _ (hm.frames s) hs)⟩

/-! ## Asking and telling -/

section Views

variable {α τ : Type} {view : Station → τ}

instance (question : Env → ℕ → α) [Same (fun s => view { s with asked := s.asked + 1 }) view] :
    Frames view (ask question) := by
  unfold ask
  infer_instance

instance (message : Message)
    [hview : Same (fun s => view { s with sent := message :: s.sent }) view] :
    Frames view (send message) :=
  ⟨fun s => congrFun hview.same s⟩

instance (cmdcode dstr : String)
    [Same (fun s => view { s with sent := .server cmdcode dstr :: s.sent }) view] :
    Frames view (sendMsg2Server cmdcode dstr) := by
  unfold sendMsg2Server
  infer_instance

instance (value : Option α) : Frames view (orThrow value) := by
  unfold orThrow
  split <;> infer_instance

instance (tokens : List String) (i : ℕ) : Frames view (index tokens i) := by
  unfold index
  split <;> infer_instance

instance (text : String) : Frames view (feeOf text) := by
  unfold feeOf
  infer_instance

instance (m : Op Unit) [Frames view m] : Frames view (catchException m) := by
  unfold catchException
  infer_instance

end Views

/-! ## Inquiries and displays -/

instance (delay : ℕ) : Frames lane (eepInq delay) := by
  unfold eepInq
  infer_instance

instance (obu : String) : Frames lane (sendMsg2OBU obu) := by
  unfold sendMsg2OBU
  infer_instance

instance (sData : String) : Frames lane (sendMsg2CHU .iEntryInq sData) := by
  unfold sendMsg2CHU
  simp only [reduceCtorEq, if_false]
  infer_instance

instance (delay : ℕ) : Frames lane (chuInq delay) := by
  unfold chuInq
  infer_instance

instance : Frames lane closeBarrier := by
  unfold closeBarrier
  infer_instance

instance : Frames lane manualCloseBarrier := by
  unfold manualCloseBarrier
  infer_instance

instance : Frames lane continueOpenBarrier := by
  unfold continueOpenBarrier
  infer_instance

instance (eepDelay chuDelay : ℕ) : Frames lane (inquireAgain eepDelay chuDelay) := by
  unfold inquireAgain
  infer_instance

instance (bEnable : Bool) : Frames lane (switchReaders bEnable) := by
  unfold switchReaders
  infer_instance

/-! ## Saving -/

instance (exitTrans : TExitTrans) : Frames lane (insertexitrecord exitTrans) := by
  show Frames lane (do
    let centraldb ← ask Env.centraldb
    let localdb ← ask Env.localdb
    let s ← get
    let saved := insertExitTrans centraldb localdb
      { s.db with operation := some (sharedData s) } exitTrans
    modify (storeBack saved.1)
    pure saved.2)
  unfold storeBack
  infer_instance

instance (iRet : DBError) : Frames lane (followUp iRet) := by
  unfold followUp takeAmounts
  dsimp only
  infer_instance

/-- The lane without the memory of the last transaction. -/
@[reducible] def laneBefore (s : Station) : Lane :=
  { lane s with gsLastPaidTrans := "", lastTransTime := 0 }

instance (iRet : DBError) : Frames laneBefore (reportExit iRet) := by
  unfold reportExit
  infer_instance

instance : Frames lane printReceipt := by
  unfold printReceipt
  infer_instance

/-! ## The fee -/

/-- The fields of an exit that belong to its lane. -/
@[reducible] def exitLane (tExit : TExit) : String × String × EProcessStatus × Bool :=
  (tExit.sIUNo, tExit.sLPN0, tExit.giDeductionStatus, tExit.gbPaid)

theorem exitLane_takeEntryRow (row : EntryRow) (tExit : TExit) :
    exitLane ((takeEntryRow row tExit).getD tExit) = exitLane tExit := by
  cases htaken : takeEntryRow row tExit with
  | none => rfl
  | some taken =>
      simp only [takeEntryRow, bind, pure, Option.bind_eq_some_iff, Option.some.injEq] at htaken
      obtain ⟨transType, -, oweAmt, -, entryId, -, rfl⟩ := htaken
      rfl

theorem exitLane_fetchEntryinfo (answer : EntryAnswer) (tExit : TExit) :
    exitLane (fetchEntryinfo answer tExit) = exitLane tExit := by
  unfold fetchEntryinfo
  split
  · exact exitLane_takeEntryRow _ _
  · split
    · exact exitLane_takeEntryRow _ _
    · rfl

theorem exitLane_hasValidTicket (answer : TicketAnswer) (tExit : TExit) :
    exitLane (hasValidTicket answer tExit).1 = exitLane tExit := by
  unfold hasValidTicket
  split
  · rfl
  · rfl
  · split
    · split <;> rfl
    · rfl

/-- An update of the exit that leaves its part of the lane alone. -/
theorem frames_modify_exit {update : TExit → TExit}
    (hupdate : ∀ tExit, exitLane (update tExit) = exitLane tExit) :
    Frames lane (modify fun s => { s with tExit := update s.tExit } : Op Unit) where
  frames s := by
    have hexit := hupdate s.tExit
    simp only [Prod.mk.injEq] at hexit
    obtain ⟨hIU, hLPN, hstatus, hpaid⟩ := hexit
    simp only [after_modify, lane, hIU, hLPN, hstatus, hpaid]

instance (answer : EntryAnswer) :
    Frames lane (modify fun s => { s with tExit := fetchEntryinfo answer s.tExit } : Op Unit) :=
  frames_modify_exit (exitLane_fetchEntryinfo answer)

instance (answer : TicketAnswer) :
    Frames lane (modify fun s => { s with tExit := (hasValidTicket answer s.tExit).1 } : Op Unit) :=
  frames_modify_exit (exitLane_hasValidTicket answer)

instance (sIU : String) : Frames lane (getEntryTime sIU) := by
  unfold getEntryTime
  infer_instance

instance : Frames lane getVTypeFromLoop := by
  unfold getVTypeFromLoop
  infer_instance

instance : Frames lane formatSeasonMsg := by
  unfold formatSeasonMsg
  infer_instance

instance (sIU : String) (iInOut : ℤ) : Frames lane (checkSeason sIU iInOut) := by
  unfold checkSeason
  infer_instance

instance (iuNo lpn : String) (usedBy : ℤ) : Frames lane (lookForTicket iuNo lpn usedBy) := by
  unfold lookForTicket
  dsimp only
  infer_instance

instance (eTime payTime : String) (iTransType : ℤ) :
    Frames lane (calFeeRAM eTime payTime iTransType) := by
  unfold calFeeRAM
  infer_instance

instance (redeemed sTmpTime : String) : Frames lane (sameBlock redeemed sTmpTime) := by
  unfold sameBlock
  infer_instance

instance : Frames lane redeemTime2Amt := by
  unfold redeemTime2Amt
  dsimp only
  infer_instance

instance : Frames lane showFee2User := by
  unfold showFee2User
  infer_instance

instance (iRet : ℤ) : Frames lane (stayFee iRet) := by
  unfold stayFee
  infer_instance

instance (sIU : String) : Frames lane (exitTransType sIU) := by
  unfold exitTransType
  infer_instance

instance (sIU : String) : Frames lane (entryTransType sIU) := by
  unfold entryTransType
  infer_instance

instance : Frames lane refuseEntry := by
  unfold refuseEntry
  infer_instance

end LinuxPBS.Operation

import LinuxPBS.Operation.Station

/-!
# Clearing the lane and opening the barrier

`Clearme` forgets the vehicle.  `Openbarrier` ends a transaction; under EEP it also
tells the OBU, and when the OBU of the next vehicle has been seen meanwhile
(`gsTailgateOBU`) it clears the lane and asks for that one.
-/

namespace LinuxPBS.Operation

open CxxText

/-- `tEntry` as `Clearme` leaves it. -/
def clearedEntry (gtStation : TStation) : TEntry :=
  { esid := toString gtStation.iSID, iTransType := 1 }

/-- `tExit` as `Clearme` leaves it. -/
def clearedExit (gtStation : TStation) : TExit :=
  { xsid := toString gtStation.iSID, feefrom := "EPS", bNoEntryRecord := -1, iCardStatus := 1 }

/-- `Clearme` -/
def clearme : Op Unit := do
  call .clearme
  modify fun s => { s with
    tProcess.giShowType := 1
    tProcess.giCardIsIn := 0
    tProcess.gbsavedtrans := false
    tProcess.sEnableReader := false
    tProcess.gbBarrierOpened := false
    tProcess.fiLastEEPCmd := .EEP_idle
    tProcess.fiLastCHUCmd := .iInit
    tProcess.gsTransID := "" }
  if (← get).gtStation.iType = .tientry then
    modify fun s => { s with tEntry := clearedEntry s.gtStation }
  else
    modify fun s => { s with tExit := clearedExit s.gtStation, tExit1 := clearedExit s.gtStation }

/-! ## Inquiries -/

/-- `EEPInq` -/
def eepInq (delay : ℕ) : Op Unit := do
  if !(← ask Env.gbLoopApresent) then return
  let s ← get
  if s.tExit.giDeductionStatus = .Doingdeduction then return
  if s.tProcess.fiLastEEPCmd = .GET_OBU_INFO_REQ_CMD then return
  if delay > 0 then
    if (← ask Env.cardIn) then return
  send .obuInfoReq
  modify fun s => { s with tProcess.fiLastEEPCmd := .GET_OBU_INFO_REQ_CMD }

/-- `SendMsg2OBU` -/
def sendMsg2OBU (obu : String) : Op Unit := do
  send (.cpoInfoDisplayReq obu)
  modify fun s => { s with tProcess.fiLastEEPCmd := .CPO_INFO_DISPLAY_REQ_CMD }

/-- The numbers of `eCHUCmd`. -/
def chuCode : ECHUCmd → ℤ
  | .iInit => 0
  | .iEntryInq => 100
  | .iRes_EntryInq => 101
  | .iDebit => 102
  | .iRes_Debit => 103
  | .iRes_Comm => 105

/-- `SendMsg2CHU` -/
def sendMsg2CHU (sCmd : ECHUCmd) (sData : String) : Op Unit := do
  if !(← ask Env.gbLoopApresent) then return
  let s ← get
  send (.chu ("[" ++ s.gtStation.sName ++ "|" ++ toString s.gtStation.iSID ++ "|" ++
    toString (chuCode sCmd) ++ "|" ++ sData ++ "|]"))
  if sCmd = .iDebit then call (.deduct .CHU s.tExit.sCardNo sData)
  modify fun s => { s with tProcess.fiLastCHUCmd := sCmd }

/-- `CHUInq` -/
def chuInq (delay : ℕ) : Op Unit := do
  if (← get).tProcess.fiLastCHUCmd = .iEntryInq then return
  if delay > 0 then
    if (← ask Env.cardIn) then return
  sendMsg2CHU .iEntryInq (toString (← get).gtStation.iAntID)

/-! ## The barrier -/

/-- `EndEEPprocess` -/
def endEEPprocess (processingResult : ℤ) : Op Unit := do
  let s ← get
  let gsIUNo := if s.gtStation.iType = .tientry then s.tEntry.sIUTKNo else s.tExit.sIUNo
  let sFee := if s.gtStation.iType = .tientry then "00" else toStringFloat (s.tExit.sPaidAmt * 100)
  modify fun s => { s with
    tProcess.fiLastEEPCmd := .CARPARK_PROCESS_COMPLETE_NOTIFICATION_REQ_CMD }
  send (.carparkProcessComplete gsIUNo (toString processingResult) sFee)
  if s.gtStation.iType = .tientry then sendMsg2OBU gsIUNo
  else if processingResult < 2 then sendMsg2OBU gsIUNo
  modify fun s => { s with
    tProcess.fiLastEEPCmd := .DSRC_PROCESS_COMPLETE_NOTIFICATION_REQ_CMD }
  send (.dsrcProcessComplete gsIUNo)
  if (← get).tProcess.gsTailgateOBU ≠ "" then
    clearme
    eepInq 0

/-- `Openbarrier` -/
def openbarrier (iReason : ℤ) : Op Unit := do
  let s ← get
  if s.tProcess.giCardIsIn = 1 then return
  if s.tProcess.giBarrierContinueOpened = 1 then return
  modify fun s => { s with tProcess.gbBarrierOpened := true }
  call (.openBarrier iReason)
  if s.tParas.giEPS = 3 then endEEPprocess iReason

/-- `closeBarrier` -/
def closeBarrier : Op Unit := do
  send .closeBarrier
  modify fun s => { s with tProcess.giBarrierContinueOpened := 0 }

/-- `continueOpenBarrier` -/
def continueOpenBarrier : Op Unit := do
  send .continueOpenBarrier
  modify fun s => { s with tProcess.giBarrierContinueOpened := 1 }

/-- `ManualCloseBarrier` -/
def manualCloseBarrier : Op Unit := do
  send (.addRemoteControl "Manual close barrier" "")
  closeBarrier

end LinuxPBS.Operation

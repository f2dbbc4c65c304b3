import LinuxPBS.Operation.Devices

/-!
# The events of a station

The handlers of the loops, of the barrier and of the PMS, and `handleEvent`, which
gives every event to its handler.  A station serves one event after the other; its
run is `Handler.run` of `serve`.
-/

namespace LinuxPBS.Operation

open CxxText Common

section Handlers

variable (enableCashcard : Bool → Op Unit)

/-! ## The loops -/

/-- `AntennaOK` -/
def antennaOK (tParas : TParas) : Bool :=
  tParas.giEPS ≠ 0 && tParas.giEPS ≠ 3 && tParas.giCommPortAntenna ≠ 0

/-- `LoopACome` -/
def loopACome : Op Unit := do
  clearme
  modify fun s => { s with tProcess.gsTailgateOBU := "" }
  let nowDigits ← ask Env.nowDigits
  modify fun s => { s with
    tProcess.gsTransID :=
      s.tParas.gscarparkcode ++ "-" ++ toString s.gtStation.iSID ++ "-" ++ nowDigits }
  let s ← get
  send (.transIDToLPR s.tProcess.gsTransID)
  if s.tParas.giEPS = 3 then eepInq 0
  else if antennaOK s.tParas then send .antennaReadIU
  else enableCashcard true

/-- `LoopAGone`, an EZ-Link or AXS member leaves without having scanned a ticket. -/
def closeLeavingMember : Op Unit := do
  let s ← get
  if s.tExit.sRedeemAmt = 0 ∧ s.tProcess.gbsavedtrans = false then
    if s.tExit.bPayByEZPay then
      enableCashcard false
      closeExitOperation .EZPayParking
    else if s.tExit.bPayByAXS then
      enableCashcard false
      closeExitOperation .AXSParking

/-- `LoopAGone` -/
def loopAGone : Op Unit := do
  let s ← get
  if s.gtStation.iType = .tientry then
    if s.tEntry.sIUTKNo = "" then send .antennaStopRead
  else
    if s.tExit.sIUNo = "" then send .antennaStopRead
    closeLeavingMember enableCashcard
  enableCashcard false
  if (← get).tParas.giEPS = 3 then send .obuInfoStopReq

/-- `LoopCGone` -/
def loopCGone : Op Unit := do
  if (← get).tProcess.gbsavedtrans = false then
    if (← ask Env.gbLoopApresent) then return
  clearme
  if (← ask Env.gbLoopApresent) then
    let s ← get
    if s.tParas.giEPS = 3 then send (.stopReqOfRelatedInfoDistribution s.tProcess.gsLastIUNo)
    loopACome enableCashcard

/-- `loopATimeoutHandler` -/
def loopATimeoutHandler : Op Unit := do
  send .antennaStopRead
  enableCashcard false
  if (← ask Env.gbLoopApresent) then loopACome enableCashcard

/-! ## The barrier -/

/-- `ManualOpenBarrier` at an exit.  The test is about `tEntry`. -/
def manualOpenExit : Op Unit := do
  if (← get).tEntry.sIUTKNo ≠ "" then
    if (← ask Env.gbLoopApresent) then
      if (← get).tExit.sExitTime = "" then
        let now ← ask Env.now
        modify fun s => { s with tExit.sExitTime := now }
      send (.addRemoteControl "Manual open barrier"
        ("Auto save for IU:" ++ (← get).tExit.sIUNo))
      closeExitOperation .Manualopen
      return
  openbarrier 0

/-- `ManualOpenBarrier` -/
def manualOpenBarrier : Op Unit := do
  let s ← get
  if s.gtStation.iType = .tientry ∧ s.tEntry.sIUTKNo ≠ "" then
    if (← ask Env.gbLoopApresent) then
      let now ← ask Env.now
      modify fun s => { s with tEntry.sEntryTime := now, tEntry.iStatus := 4 }
      send (.addRemoteControl "Manual open barrier"
        ("Auto save for IU:" ++ s.tEntry.sIUTKNo))
      saveEntry
      openbarrier 0
      return
  manualOpenExit

/-- `handleDioEventOnIo` -/
def handleDioEvent : DioEvent → Op Unit
  | .LOOP_A_ON_EVENT => loopACome enableCashcard
  | .LOOP_A_OFF_EVENT => loopAGone enableCashcard
  | .LOOP_C_OFF_EVENT => loopCGone enableCashcard
  | .BARRIER_STATUS_ON_EVENT => do
      if (← get).tProcess.gbBarrierOpened then return
      manualOpenBarrier
  | .PRINT_RECEIPT_ON_EVENT => do
      modify fun s => { s with tExit.iflag4Receipt := 1 }
      printReceipt
  | .other => pure ()

/-! ## The antenna, the cash card reader and the camera -/

/-- `handleAntennaFailOnIo` -/
def handleAntennaFail (errorCode : ℤ) : Op Unit := do
  if errorCode = 2 then
    if (← ask Env.gbLoopApresent) then
      if (← get).tProcess.sEnableReader = false then enableCashcard true
      return
  if (← ask Env.gbLoopApresent) then
    send .antennaStopRead
    enableCashcard true

/-- `handleAntennaIUComeOnIo` -/
def handleAntennaIUCome (iuNo : String) : Op Unit := do
  let steady ← ask Env.steadyClock
  let s ← get
  if iuNo.length = 10 ∧ s.tProcess.gsLastIUNo = iuNo ∧
      seconds s.tProcess.lastIUEntryTime steady ≤ s.tParas.giMaxTransInterval ∧
      s.gtStation.iType = .tientry then
    openbarrier 0
  else
    vehicleCome enableCashcard iuNo

/-- `KSM_CardIn` -/
def ksmCardIn : Op Unit := do
  modify fun s => { s with tProcess.giCardIsIn := 1 }
  send .ksmReadCardInfo

/-- `KSM_CardInfo` -/
def ksmCardInfo (sKSMCardNo : String) : Op Unit := do
  if sKSMCardNo.length ≠ 16 ∨ substr sKSMCardNo 5 4 = some "0005" then
    sendMsg2Server "90" ",,,,,Wrong Card Insertion"
    send .ksmEjectToFront
  else if (← get).tEntry.sIUTKNo = "" then vehicleCome enableCashcard sKSMCardNo
  else send .ksmEjectToFront

/-- `KSM_CardTakeAway` -/
def ksmCardTakeAway : Op Unit := do
  modify fun s => { s with tProcess.giCardIsIn := 2 }
  let s ← get
  if s.gtStation.iType = .tientry ∧ s.tEntry.gbEntryOK then
    openbarrier 0
    enableCashcard false

/-- `ReceivedLPR`: the plate belongs to the vehicle on the loop, or to an earlier one. -/
def receivedLPR (LPN sTransid : String) : Op Unit := do
  let s ← get
  let present ← if s.tProcess.gsTransID = sTransid then ask Env.gbLoopApresent else pure false
  if present ∧ s.tProcess.gbsavedtrans = false then
    if s.gtStation.iType = .tientry then
      modify fun s => { s with tEntry.sLPN0 := LPN, tEntry.sLPN1 := LPN }
    else
      modify fun s => { s with tExit.sLPN0 := LPN, tExit.sLPN1 := LPN }
  else if s.gtStation.iType = .tientry then send (.updateEntryTrans LPN sTransid)
  else send (.updateExitTrans LPN sTransid)
  if s.tEntry.sIUTKNo ≠ "" then
    sendMsg2Server "90" (s.tEntry.sIUTKNo ++ ",,," ++ LPN ++ ",,Entry OK")

/-! ## The PMS -/

/-- `ReceivedEntryRecord` -/
def receivedEntryRecord : Op Unit := do
  let now ← ask Env.now
  modify fun s => { s with tExit.sExitTime := now }
  let s ← get
  let fee ← calFeeRAM s.tExit.sEntryTime s.tExit.sExitTime s.tExit.iVehicleType
  modify fun s => { s with tExit.sFee := fee }
  if (← get).tExit.iRedeemTime > 0 then redeemTime2Amt
  modify fun s => { s with
    tExit.sPaidAmt := max 0 (gfeeFormat
      (s.tExit.sFee - s.tExit.sRebateAmt - s.tExit.sRedeemAmt + s.tExit.sOweAmt)) }
  showFee2User
  if (← get).tExit.sPaidAmt > 0 then
    modify fun s => { s with tExit.giDeductionStatus := .WaitingCard }
    enableCashcard true
  else
    closeExitOperation .FreeParking

/-- `processPmsUdpPacketOnIo`, `TimeForNoEntry` -/
def timeForNoEntry (data : String) : Op Unit := do
  if (← ask Env.gbLoopApresent) then
    let tokens := split ',' data
    if tokens.length < 2 then return
    modify fun s => { s with
      tExit.sEntryTime := tokens.getD 1 "", tExit.bNoEntryRecord := 0 }
    receivedEntryRecord enableCashcard

/-- `processPmsUdpPacketOnIo`, `CarparkFull` -/
def setCarparkFull (data : String) : Op Unit := do
  let rawValue := parseUdpInt data
  if rawValue = none then return
  let carparkFull := decide (rawValue ≠ some 0)
  if carparkFull = (← get).tProcess.gbcarparkfull then return
  modify fun s => { s with tProcess.gbcarparkfull := carparkFull }
  if carparkFull = false then
    let iuNumber := (← get).tEntry.sIUTKNo
    if (← ask Env.gbLoopApresent) then
      if iuNumber ≠ "" then pbsEntry iuNumber

/-- `processPmsUdpPacketOnIo` -/
def processPms (command : UdpRxCommand) (data : String) : Op Unit :=
  catchException <| match command with
    | .UpdateParam => do
        let tParas ← ask Env.loadParam
        modify fun s => { s with tParas := tParas }
    | .CarparkFull => setCarparkFull data
    | .OpenBarrier => manualOpenBarrier
    | .ContinueOpenBarrier => continueOpenBarrier
    | .TimeForNoEntry => timeForNoEntry enableCashcard data
    | .CloseBarrier => manualCloseBarrier
    | .UpdateSetting => do
        let gtStation ← ask Env.loadstationsetup
        modify fun s => { s with gtStation := { gtStation with iType := s.gtStation.iType } }
    | .other => pure ()

/-! ## Every event -/

/-- `handleEventOnIo`, `processPmsUdpPacketOnIo` and the loop A timer. -/
def handleEvent : Event → Op Unit
  | .antennaFail errorCode => handleAntennaFail enableCashcard errorCode
  | .antennaIUCome iuNo => handleAntennaIUCome enableCashcard iuNo
  | .lcsc eventData => processLCSC enableCashcard eventData
  | .upt cmd eventData => processUPT enableCashcard cmd eventData
  | .dio event => handleDioEvent enableCashcard event
  | .ksmCardIn => ksmCardIn
  | .ksmCardTakeAway => ksmCardTakeAway enableCashcard
  | .ksmCardInfo cardNo => ksmCardInfo enableCashcard cardNo
  | .lprReceive LPN sTransid => receivedLPR LPN sTransid
  | .barcodeReceived sBarcodedata => ticketScan enableCashcard sBarcodedata
  | .eep event => processEEP enableCashcard event
  | .chu eventData => processCHU enableCashcard eventData
  | .pms command data => processPms enableCashcard command data
  | .loopATimeout => loopATimeoutHandler enableCashcard

end Handlers

/-- Serve an event on a stack with room for `depth` nested activations of `EnableCashcard`. -/
def serve (depth : ℕ) (event : Event) : Op Unit := do
  call (.handleEvent event)
  handleEvent (enableCashcardAt depth) event

/-- The station after a list of events. -/
def history (depth : ℕ) (events : List Event) (s : Station) : Station :=
  Handler.after (Handler.run (serve depth) events) s

end LinuxPBS.Operation

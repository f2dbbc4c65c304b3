import LinuxPBS.Operation.Barrier
import LinuxPBS.Tariff.CeTime

/-!
# Saving a transaction

`SaveEntry` and `SaveExit` hand `tEntry` and `tExit` to the database and report to
the server.  `CloseExitOperation` is `SaveExit` with the status of the exit before
and the barrier after it, `DebitOK` closes the exit of a deduction that succeeded.

`SaveExit` computes `sPaidAmt` again, from the fee, the rebate, the redemption and
the amount owed.
-/

namespace LinuxPBS.Operation

open CxxText Common Db

/-! ## The two inserts -/

/-- `OperationSharedData`: what the database module sees of the state. -/
def sharedData (s : Station) : OperationSharedData :=
  { stationType := s.gtStation.iType
    tParas := s.tParas
    tProcess := s.tProcess
    tEntry := s.tEntry.toTEntryTrans }

/-- The database state after a call, and the two counters it keeps in `tProcess`. -/
def storeBack (store : Db.State) (s : Station) : Station :=
  let tProcess := (store.operation.map (·.tProcess)).getD s.tProcess
  { s with
    db := store
    tProcess.giSystemOnline := tProcess.giSystemOnline
    tProcess.glNoofOfflineData := tProcess.glNoofOfflineData }

/-- `insertentrytrans(tEntry)`; it leaves the entry time and the serial number in `tEntry`. -/
def insertentrytrans : Op DBError := do
  let now ← ask Env.now
  let centraldb ← ask Env.centraldb
  let localdb ← ask Env.localdb
  let s ← get
  let (store, tEntry, ret) := insertEntryTrans now centraldb localdb
    { s.db with operation := some (sharedData s) } s.tEntry.toTEntryTrans
  modify fun s => { storeBack store s with
    tEntry.sEntryTime := tEntry.sEntryTime
    tEntry.sSerialNo := tEntry.sSerialNo }
  call (.insertentrytrans tEntry ret)
  pure ret

/-- `insertexittrans` of a record; it rounds the amounts and may cut the parked time. -/
def insertexitrecord (exitTrans : TExitTrans) : Op (TExitTrans × DBError) := do
  let centraldb ← ask Env.centraldb
  let localdb ← ask Env.localdb
  let s ← get
  let (store, exitTrans, ret) := insertExitTrans centraldb localdb
    { s.db with operation := some (sharedData s) } exitTrans
  modify (storeBack store)
  pure (exitTrans, ret)

/-- The amounts and the parked time of a record that comes back from the database. -/
def takeAmounts (tExit : TExit) (exitTrans : TExitTrans) : TExit :=
  { tExit with
    sFee := exitTrans.sFee
    sPaidAmt := exitTrans.sPaidAmt
    sRedeemAmt := exitTrans.sRedeemAmt
    sGSTAmt := exitTrans.sGSTAmt
    lParkedTime := exitTrans.lParkedTime }

/-- `insertexittrans(tExit)` -/
def insertexittrans : Op DBError := do
  let (exitTrans, ret) ← insertexitrecord (← get).tExit.toTExitTrans
  modify fun s => { s with tExit := takeAmounts s.tExit exitTrans }
  call (.insertexittrans exitTrans ret)
  pure ret

/-! ## `SaveEntry` -/

/-- The plate that is reported: the rear one for motorcycle transactions. -/
def reportedLPN (iTransType : ℤ) (sLPN0 sLPN1 : String) : String :=
  if sLPN0 ≠ "" ∨ sLPN1 ≠ "" then
    if iTransType = 7 ∨ iTransType = 8 ∨ iTransType = 22 then sLPN1 else sLPN0
  else ""

/-- `SaveEntry` -/
def saveEntry : Op Unit := do
  if (← get).tEntry.sIUTKNo = "" then return
  let iRet ← insertentrytrans
  let steady ← ask Env.steadyClock
  if iRet = .iDBSuccess then
    modify fun s => { s with
      tProcess.gsLastIUNo := s.tEntry.sIUTKNo
      tProcess.lastIUEntryTime := steady }
  modify fun s => { s with
    dbErrNo := if iRet = .iDBSuccess then 0 else if iRet = .iCentralFail then -1 else -2 }
  let s ← get
  let sMsg2Send := if iRet = .iDBSuccess then "Entry OK"
    else if iRet = .iCentralFail then "Entry Central Failed" else "Entry Local Failed"
  if s.tEntry.iStatus = 0 then
    sendMsg2Server "90" (s.tEntry.sIUTKNo ++ ",,," ++
      reportedLPN s.tEntry.iTransType s.tEntry.sLPN0 s.tEntry.sLPN1 ++ "," ++
      toString s.tProcess.giShowType ++ "," ++ sMsg2Send)
  modify fun s => { s with tProcess.gbsavedtrans := true }

/-! ## `SaveExit` -/

/-- `PrintReceipt` -/
def printReceipt : Op Unit := do
  if (← get).tExit.iflag4Receipt = 0 then return
  if (← ask Env.printerErrNo) ≠ 0 then return
  let s ← get
  if s.tExit.iflag4Receipt = 1 ∧ s.tExit.gbPaid ∧ s.tExit.sPaidAmt > 0 then
    send .printTR
    modify fun s => { s with tExit.iflag4Receipt := 2 }

/-- The amount owed before the redemption. -/
def amountDue (tExit : TExit) : ℚ := tExit.sFee - tExit.sRebateAmt + tExit.sOweAmt

/-- `SaveExit` computes the redemption and the paid amount again. -/
def settleAmounts (tExit : TExit) : TExit :=
  let sRedeemAmt := if gfeeFormat tExit.sRedeemAmt > gfeeFormat (amountDue tExit)
    then gfeeFormat (amountDue tExit) else tExit.sRedeemAmt
  { tExit with
    sRedeemAmt := sRedeemAmt
    sPaidAmt := gfeeFormat (tExit.sFee - tExit.sRebateAmt - sRedeemAmt + tExit.sOweAmt) }

/-- `diffmin` between two points in time given as text. -/
def parkedMinutes (env : Env) (sEntryTime sExitTime : String) : ℤ :=
  Tariff.diffmin (env.unixTimestamp sEntryTime) (env.unixTimestamp sExitTime)

/-- `SaveExit`: the record before it is inserted. -/
def settleExit (s : Station) : TExit :=
  let tExit := settleAmounts s.tExit
  let lParkedTime := if tExit.lParkedTime ≤ 0 ∧ tExit.sEntryTime ≠ ""
    then parkedMinutes s.env tExit.sEntryTime tExit.sExitTime else tExit.lParkedTime
  { tExit with
    lParkedTime := lParkedTime
    sGSTAmt := gfeeFormat (tExit.sPaidAmt * s.tParas.gfGSTRate / (1 + s.tParas.gfGSTRate)) }

/-- `updatemovementtrans` or `insert2movementtrans`, then `updateUsedTicket`; all of them
return what `iRet` becomes. -/
def followUp (iRet : DBError) : Op DBError := do
  if iRet = .iCentralSuccess then
    let moved ← if (← get).tExit.bNoEntryRecord = 0 then ask Env.updatemovementtrans
      else ask Env.insert2movementtrans
    modify fun s => { s with tExit := takeAmounts s.tExit (formatExit s.tExit.toTExitTrans) }
    let s ← get
    if s.tExit.sRedeemAmt > 0 ∨ s.tExit.iTransType = 10 then
      modify fun s => { s with
        tExit.iUsedTicketBy := if s.tExit.iUsedTicketBy = 0 then 1 else s.tExit.iUsedTicketBy }
      ask Env.updateUsedTicket
    else pure moved
  else pure iRet

/-- What `SaveExit` does after the inserts. -/
def reportExit (iRet : DBError) : Op Unit := do
  let s ← get
  send (.updateLocalEntry s.tExit.sIUNo)
  let steady ← ask Env.steadyClock
  if iRet = .iCentralSuccess ∨ iRet = .iLocalSuccess then
    modify fun s => { s with
      tProcess.gsLastIUNo := s.tExit.sIUNo
      tProcess.gsLastPaidTrans := s.tExit.sIUNo
      tProcess.lastTransTime := steady }
  modify fun s => { s with
    dbErrNo := if iRet = .iCentralSuccess ∨ iRet = .iLocalSuccess then 0
      else if iRet = .iCentralFail then -1 else -2 }
  let sMsg2Send := if iRet = .iCentralSuccess ∨ iRet = .iLocalSuccess then "Exit OK"
    else if iRet = .iCentralFail then "Exit Central Failed" else "Exit Local Failed"
  if s.tExit.iStatus = 0 then
    sendMsg2Server "90" (s.tExit.sIUNo ++ "," ++ s.tExit.sCardNo ++ "," ++
      setFeeFormat s.tExit.sPaidAmt ++ "," ++
      reportedLPN s.tExit.iTransType s.tExit.sLPN0 s.tExit.sLPN1 ++ "," ++
      toString s.tProcess.giShowType ++ "," ++ sMsg2Send)

/-- `SaveExit` -/
def saveExit : Op Unit := do
  if (← get).tExit.sIUNo = "" then return
  modify fun s => { s with tExit := settleExit s }
  let iRet ← insertexittrans
  let iRet ← followUp iRet
  reportExit iRet
  modify fun s => { s with tProcess.gbsavedtrans := true, tExit.gbPaid := true }
  if (← get).tExit.sPaidAmt = 0 then
    modify fun s => { s with
      tProcess.gsLastCardNo := s.tExit.sCardNo
      tProcess.gbLastPaidStatus := true }
  printReceipt

/-! ## Closing an exit -/

/-- What `CloseExitOperation` sets in `tExit`; `EZPayParking` falls through to `AXSParking`. -/
def closingStatus (iStatus : TransType) (tExit : TExit) : TExit :=
  match iStatus with
  | .DeductionFail => tExit
  | .UpdateCHUTrans => tExit
  | .Manualopen => { tExit with iStatus := 4 }
  | .BalanceChange => { tExit with iStatus := 3 }
  | .RejectCode7 => { tExit with iStatus := 3 }
  | .EZPayParking => { tExit with iStatus := 0, iCardType := 4 }
  | .AXSParking => { tExit with iStatus := 0, iCardType := 4 }
  | .FreeParking | .SeasonParking | .GracePeriod | .DeductionOK | .Complimentary =>
      { tExit with iStatus := 0 }

/-- `CloseExitOperation` -/
def closeExitOperation (iStatus : TransType) : Op Unit := do
  let s ← get
  call (.closeExitOperation iStatus s.tExit s.tParas.gfGSTRate)
  modify fun s => { s with tExit := closingStatus iStatus s.tExit }
  saveExit
  if iStatus ≠ .UpdateCHUTrans ∧ iStatus ≠ .EZPayParking ∧ iStatus ≠ .AXSParking then
    openbarrier 0

/-- `GfeeFormat(std::stof(text))` -/
def feeOf (text : String) : Op ℚ := do
  pure (gfeeFormat (← orThrow (stof text)))

/-- `DebitOK`; the argument `sTransTime` is not used. -/
def debitOK (sIUNO sCardNo sPaidAmt sBal : String) (iCardType : ℤ) (sTopupAmt : String)
    (iDevicetype : DeviceType) : Op Unit := do
  call (.debitOK iDevicetype sPaidAmt)
  modify fun s => { s with tExit.gbPaid := true, tExit.sCardNo := sCardNo }
  if sPaidAmt ≠ "" then
    let fee ← feeOf sPaidAmt
    modify fun s => { s with tExit.sPaidAmt := fee }
  modify fun s => { s with tExit.iCardType := iCardType }
  if sTopupAmt ≠ "" then
    let amount ← feeOf sTopupAmt
    modify fun s => { s with tExit.sTopupAmt := amount }
  modify fun s => { s with
    tProcess.gsLastPaidTrans := s.tExit.sIUNo
    tProcess.gbLastPaidStatus := true
    tProcess.gsLastCardNo := sCardNo }
  if sBal ≠ "" then
    let balance ← feeOf sBal
    modify fun s => { s with tProcess.gfLastCardBal := balance }
  else
    modify fun s => { s with tProcess.gfLastCardBal := 0 }
  modify fun s => { s with tExit.giDeductionStatus := .DeductionSuccessed }
  if sIUNO ≠ "" ∧ (← get).tExit.sIUNo ≠ sIUNO ∧ iDevicetype = .CHU then
    modify fun s => { s with tExit.sIUNo := sIUNO }
    closeExitOperation .UpdateCHUTrans
  else
    closeExitOperation .DeductionOK

/-- `UpdateExit` -/
def updateExit : Op Unit := do
  if (← get).tExit1.sIUNo = "" then return
  modify fun s => { s with
    tExit1.sGSTAmt := s.tExit1.sPaidAmt * s.tParas.gfGSTRate / (1 + s.tParas.gfGSTRate) }
  let (exitTrans, ret) ← insertexitrecord (← get).tExit1.toTExitTrans
  modify fun s => { s with tExit1 := takeAmounts s.tExit1 exitTrans }
  call (.updateExit exitTrans ret)

end LinuxPBS.Operation

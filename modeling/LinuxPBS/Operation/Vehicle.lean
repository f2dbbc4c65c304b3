import LinuxPBS.Operation.Fee

/-!
# A vehicle or a card has been read

`VehicleCome` takes every number that is read: an IU, an OBU label or a card.  At an
entry it ends in `PBSEntry`, at an exit in `CheckIUorCardStatus`, which decides with
`tExit.giDeductionStatus`, `tExit.gbPaid` and the memory of the last payment what
the read means, and in `PBSExit`, which computes the fee and asks a device for it.

`EnableCashcard` is called by all of them.  While no IU is known it looks one up
under the plate and, if there is one, calls `VehicleCome` with it: the procedures
are recursive.  They take `EnableCashcard` as an argument here, and
`enableCashcard` ties the knot for a given depth of the stack.
-/

namespace LinuxPBS.Operation

open CxxText Common

variable (enableCashcard : Bool → Op Unit)

/-! ## Requests for a deduction -/

/-- `ideductAmt`: the cents of a fee, cut off the `float` product. -/
def ideductAmt (lFee : ℚ) : ℤ := toLong (toFloat (lFee * 100))

/-- `lAmt` -/
def lAmt (lFee sFee sRedeemAmt : ℚ) : ℤ :=
  if lFee = 0 then toLong (toFloat (toFloat (sFee - sRedeemAmt) * 100))
  else toLong (toFloat (lFee * 100))

/-- `glDebitAmt` -/
def glDebitAmt (sFee : ℚ) : ℤ := toLong (toFloat (sFee * 100))

/-- `EEPDebit` -/
def eepDebit (obu : String) (lFee : ℚ) (entryTime exitTime : String) : Op Unit := do
  if !(← ask Env.gbLoopApresent) then return
  if (← get).tExit.giDeductionStatus = .Doingdeduction then return
  enableCashcard false
  modify fun s => { s with
    tExit.giDeductionStatus := .Doingdeduction
    tProcess.gbLastPaidStatus := false }
  let entryTime ← if entryTime = "" then ask Env.now else pure entryTime
  call (.deduct .EEP (← get).tExit.sCardNo (obu ++ "," ++ toString (ideductAmt lFee) ++ "," ++
    entryTime ++ "," ++ exitTime))
  modify fun s => { s with tProcess.fiLastEEPCmd := .DEDUCT_REQ_CMD }

/-- `CHUDebit` -/
def chuDebit (obu : String) (lFee : ℚ) (sCardNo : String) (sCardBal : ℚ) : Op Unit := do
  let s ← get
  if s.tExit.giDeductionStatus = .Doingdeduction then return
  let lAmt := lAmt lFee s.tExit.sFee s.tExit.sRedeemAmt
  if lAmt = 0 then return
  modify fun s => { s with
    tExit.giDeductionStatus := .Doingdeduction
    tExit.sCardNo := sCardNo
    tProcess.gbLastPaidStatus := false
    tProcess.gsLastCardNo := sCardNo
    tProcess.gfLastCardBal := gfeeFormat sCardBal }
  sendMsg2CHU .iDebit (toString s.gtStation.iAntID ++ "," ++ obu ++ "," ++ toString lAmt)

/-- `debitfromReader` -/
def debitfromReader (cardNo : String) (sFee : ℚ) (iDevicetype : DeviceType) (sCardType : ℤ)
    (sCardBal : ℚ) : Op Unit := do
  if (← get).tExit.giDeductionStatus = .Doingdeduction then return
  modify fun s => { s with
    tExit.giDeductionStatus := .Doingdeduction
    tProcess.gbLastPaidStatus := false
    tProcess.gsLastCardNo := cardNo
    tProcess.gfLastCardBal := gfeeFormat sCardBal
    tExit.sCardNo := cardNo
    tExit.iCardType := sCardType }
  if iDevicetype = .UPOS then
    call (.deduct .UPOS cardNo (toString (glDebitAmt sFee)))
    send (.enableLCSC false)
  else
    send .uptCancelCommand
    call (.deduct .LCSC cardNo (toString (glDebitAmt sFee)))

/-- The EEP branch that `CheckIUorCardStatus` and `PBSExit` have in common: an OBU that can
debit and has an account or a valid card. -/
def obuCanDebit (tExit : TExit) : Prop :=
  tExit.iBackendAccount = 1 ∨ (tExit.sCardNo ≠ "" ∧ tExit.iCardStatus = 0)

instance (tExit : TExit) : Decidable (obuCanDebit tExit) := inferInstanceAs (Decidable (_ ∨ _))

/-- `EEPDebit` for the vehicle in `tExit`, after its card has been remembered. -/
def eepDebitCard (sCardNo : String) (sCardBal : ℚ) : Op Unit := do
  if sCardNo ≠ "" then
    modify fun s => { s with
      tProcess.gsLastCardNo := sCardNo
      tProcess.gfLastCardBal := gfeeFormat sCardBal }
  let s ← get
  eepDebit enableCashcard s.tExit.sIUNo s.tExit.sPaidAmt s.tExit.sEntryTime s.tExit.sExitTime

/-! ## `PBSExit` -/

/-- The part of `PBSExit` that releases an EZ-Link or AXS member. -/
def releaseMember (member : TExit → TExit) (iStatus : TransType) : Op Unit := do
  let s ← get
  if s.tExit.sPaidAmt > 500 then
    sendMsg2Server "90" (s.tExit.sIUNo ++ ",," ++ setFeeFormat s.tExit.sPaidAmt ++
      ",,,Fee To High")
    return
  modify fun s => { s with tExit := member s.tExit }
  if s.tExit.sRedeemAmt = 0 then enableCashcard true
  else closeExitOperation iStatus
  openbarrier 0

/-- `HasEZpay`: the vehicle is released as an EZ-Link member. -/
def payByEZPay : Op Unit :=
  releaseMember enableCashcard (fun tExit => { tExit with bPayByEZPay := true }) .EZPayParking

/-- `HasAXS`: the vehicle is released as an AXS member. -/
def payByAXS : Op Unit :=
  releaseMember enableCashcard (fun tExit => { tExit with bPayByAXS := true }) .AXSParking

/-- The last part of `PBSExit`: the device that has read the vehicle is asked for the fee. -/
def payByDevice (iDevicetype : DeviceType) (sCardNo : String) (sCardType : ℤ) (sCardBal : ℚ) :
    Op Unit := do
  let s ← get
  if iDevicetype = .Ant then
    chuDebit s.tExit.sIUNo s.tExit.sPaidAmt sCardNo sCardBal
  else if iDevicetype = .EEP then
    if s.tExit.iBFunctionStatus = 1 then
      if obuCanDebit s.tExit then
        eepDebitCard enableCashcard sCardNo sCardBal
      else
        modify fun s => { s with tExit.giDeductionStatus := .WaitingCard }
        eepInq 1
    else
      modify fun s => { s with tExit.giDeductionStatus := .WaitingCard }
      enableCashcard true
  else if iDevicetype = .LCSC ∨ iDevicetype = .UPOS then
    if gfeeFormat s.tExit.sPaidAmt ≤ gfeeFormat sCardBal then
      debitfromReader s.tExit.sIUNo s.tExit.sPaidAmt iDevicetype sCardType sCardBal
    else
      modify fun s => { s with tExit.giDeductionStatus := .WaitingCard }
      enableCashcard true

/-- The part of `PBSExit` for an amount to be paid. -/
def payAmount (iDevicetype : DeviceType) (sCardNo : String) (sCardType : ℤ) (sCardBal : ℚ) :
    Op Unit := do
  let s ← get
  if s.tParas.giEPS ≠ 3 ∧ s.tExit.sIUNo.length = 10 then
    if (← ask fun env n => env.hasEZpay n s.tExit.sIUNo) = 1 then
      payByEZPay enableCashcard
      return
    if (← ask fun env n => env.hasAXS n s.tExit.sIUNo) = 1 then
      payByAXS enableCashcard
      return
  payByDevice enableCashcard iDevicetype sCardNo sCardType sCardBal

/-- The part of `PBSExit` from "Total paid Amt" on. -/
def payFee (iDevicetype : DeviceType) (sCardNo : String) (sCardType : ℤ) (sCardBal : ℚ) :
    Op Unit := do
  if (← get).tExit.iRedeemTime > 0 then redeemTime2Amt
  modify fun s => { s with
    tExit.sPaidAmt := max 0 (gfeeFormat
      (s.tExit.sFee - s.tExit.sRebateAmt - s.tExit.sRedeemAmt + s.tExit.sOweAmt)) }
  showFee2User
  let s ← get
  if s.tExit.sRedeemNo ≠ "" ∧ s.tExit.sRedeemAmt = 0 then
    -- complimentary ticket
    modify fun s => { s with
      tExit.iTransType := 10, tExit.sPaidAmt := 0, tExit.sCardNo := s.tExit.sRedeemNo }
    closeExitOperation .FreeParking
    enableCashcard false
  else if s.tExit.sPaidAmt > 0 then
    payAmount enableCashcard iDevicetype sCardNo sCardType sCardBal
  else
    closeExitOperation .FreeParking

/-- The part of `PBSExit` without an entry record. -/
def chargeWithoutEntry (sIU : String) (iDevicetype : DeviceType) (sCardNo : String)
    (sCardType : ℤ) (sCardBal : ℚ) : Op Unit := do
  let s ← get
  if s.tExit.sRedeemNo ≠ "" ∧ s.tExit.sRedeemAmt = 0 then
    modify fun s => { s with
      tExit.iTransType := 10, tExit.sPaidAmt := 0, tExit.sCardNo := s.tExit.sRedeemNo }
    closeExitOperation .FreeParking
    enableCashcard false
  else
    let (iAutoDebit, sAmt) ← ask Env.getXTariff
    if iAutoDebit > 0 then
      let now ← ask Env.now
      modify fun s => { s with tExit.sFee := gfeeFormat sAmt, tExit.sExitTime := now }
      payFee enableCashcard iDevicetype sCardNo sCardType sCardBal
    else
      sendMsg2Server "07" sIU
      if s.tParas.giEPS = 3 then sendMsg2OBU s.tExit.sIUNo

/-- The fee of a stay; the season's return code becomes `8` when the season starts later. -/
def stayFee (iRet : ℤ) : Op ℤ := do
  let s ← get
  if iRet = 1 then
    let rate ← orThrow (stoi s.tSeason.rate_type)
    if rate ≠ 0 then
      let fee ← calFeeRAM s.tExit.sEntryTime s.tExit.sExitTime rate
      modify fun s => { s with tExit.sFee := fee }
      pure iRet
    else if s.tExit.sEntryTime < s.tSeason.date_from then
      let fee ← calFeeRAM s.tExit.sEntryTime s.tSeason.date_from s.tExit.iVehicleType
      modify fun s => { s with tExit.sFee := fee }
      pure 8
    else
      let fee ← calFeeRAM s.tExit.sEntryTime s.tExit.sExitTime s.tExit.iVehicleType
      modify fun s => { s with tExit.sFee := fee }
      pure iRet
  else if iRet = 2 ∧ s.tSeason.date_to > s.tExit.sEntryTime then
    let fee ← calFeeRAM s.tSeason.date_to s.tExit.sExitTime s.tExit.iVehicleType
    modify fun s => { s with tExit.sFee := fee }
    pure iRet
  else
    let fee ← calFeeRAM s.tExit.sEntryTime s.tExit.sExitTime s.tExit.iVehicleType
    modify fun s => { s with tExit.sFee := fee }
    pure iRet

/-- The part of `PBSExit` with an entry record. -/
def chargeStay (iRet : ℤ) (iDevicetype : DeviceType) (sCardNo : String) (sCardType : ℤ)
    (sCardBal : ℚ) : Op Unit := do
  let now ← ask Env.now
  modify fun s => { s with tExit.sExitTime := now }
  modify fun s => { s with
    tExit.lParkedTime := parkedMinutes s.env s.tExit.sEntryTime s.tExit.sExitTime }
  let iRet ← stayFee iRet
  let wholeDay ←
    if iRet = 1 then
      let rate ← orThrow (stoi (← get).tSeason.rate_type)
      pure (decide (rate = 0))
    else pure false
  if wholeDay ∨ iRet = 9 ∨ iRet = 12 then
    -- whole day season
    if iRet = 9 then modify fun s => { s with tExit.iTransType := 10 }
    modify fun s => { s with tExit.sPaidAmt := 0 }
    closeExitOperation .SeasonParking
  else if (← get).tExit.iTransType = 10 then
    closeExitOperation .Complimentary
  else
    payFee enableCashcard iDevicetype sCardNo sCardType sCardBal

/-- The type of the vehicle: by the OBU's VCC, by the IU or by the loops. -/
def exitTransType (sIU : String) : Op ℤ := do
  let s ← get
  if sIU.length = 10 then
    if s.tParas.giEPS = 3 ∧ s.tExit.vcc ≠ "" then
      ask fun env n => env.getVehicleType n (substr0 s.tExit.vcc 3)
    else ask fun env n => env.getVehicleType n (substr0 sIU 3)
  else getVTypeFromLoop

/-- The IU is one of those that are not let through. -/
def isBlocked (env : Env) (sIU : String) : Bool :=
  contains env.blockIUPrefix (substr0 sIU 3) && sIU.length = 10

/-- `PBSExit` from the transaction type on. -/
def chargeVehicle (sIU : String) (iDevicetype : DeviceType) (sCardNo : String) (sCardType : ℤ)
    (sCardBal : ℚ) : Op Unit := do
  let iTransType ← exitTransType sIU
  modify fun s => { s with tExit.iTransType := iTransType }
  if iTransType = 9 then
    closeExitOperation .FreeParking
    return
  modify fun s => { s with tExit.iVehicleType := (s.tExit.iTransType - 1).tdiv 3 }
  let iRet ← checkSeason sIU 2
  let s ← get
  if (iRet = 1 ∨ iRet = 12 ∨ iRet = 9) ∧
      (s.tParas.giSeasonCharge = 0 ∨ s.tExit.bNoEntryRecord = 1) then
    if iRet = 9 then modify fun s => { s with tExit.iTransType := 10 }
    let now ← ask Env.now
    modify fun s => { s with tExit.sFee := 0, tExit.sPaidAmt := 0, tExit.sExitTime := now }
    closeExitOperation .SeasonParking
  else if s.tExit.bNoEntryRecord = 1 then
    chargeWithoutEntry enableCashcard sIU iDevicetype sCardNo sCardType sCardBal
  else
    chargeStay enableCashcard iRet iDevicetype sCardNo sCardType sCardBal

/-- `PBSExit` -/
def pbsExit (sIU : String) (iDevicetype : DeviceType) (sCardNo : String) (sCardType : ℤ)
    (sCardBal : ℚ) : Op Unit := do
  if sIU = (← get).tExit.sIUNo then return
  modify fun s => { s with tExit.sIUNo := sIU }
  let iRet ← ask fun env n => env.isBlackListIU n sIU
  if iRet ≥ 0 then sendMsg2Server "90" (sIU ++ ",,,,,Blacklist IU")
  if iRet = 0 then return
  if isBlocked (← get).env sIU then
    sendMsg2Server "90" (sIU ++ ",,,,,Block IU")
    return
  getEntryTime sIU
  chargeVehicle enableCashcard sIU iDevicetype sCardNo sCardType sCardBal

/-! ## `CheckIUorCardStatus` -/

/-- The last card did not do. -/
def cardRefused : EProcessStatus → Bool
  | .CardExpired | .CardFault | .InsufficientBalance => true
  | _ => false

/-- The test of `CheckIUorCardStatus` under "check balance". -/
def balanceChanged (s : Station) (sCardNo : String) (sCardBal : ℚ) : Prop :=
  sCardNo ≠ "" ∧ gfeeFormat sCardBal ≠ gfeeFormat s.tProcess.gfLastCardBal ∧
    sCardNo = s.tProcess.gsLastCardNo ∧ s.tProcess.gbLastPaidStatus = false

instance (s : Station) (sCardNo : String) (sCardBal : ℚ) :
    Decidable (balanceChanged s sCardNo sCardBal) := inferInstanceAs (Decidable (_ ∧ _))

/-- The branch under "balance change case." -/
def releaseBalanceChange (sCardNo : String) (sCardBal : ℚ) : Op Unit := do
  modify fun s => { s with tProcess.gfLastCardBal := gfeeFormat sCardBal }
  enableCashcard false
  call (.balanceChange sCardNo sCardBal)
  if (← get).tExit.sPaidAmt = 0 then openbarrier 2
  else closeExitOperation .BalanceChange

/-- The branch for a vehicle that waits for a card and has none. -/
def askForCard (iDevicetype : DeviceType) : Op Unit := do
  enableCashcard true
  if iDevicetype = .EEP then eepInq 2
  else if iDevicetype = .CHU then chuInq 2

/-- The branch for a vehicle that waits for a card, under "check card OK!". -/
def cardForFee (iDevicetype : DeviceType) (sCardNo : String) (sCardType : ℤ) (sCardBal : ℚ) :
    Op Unit := do
  let iRet ← ask fun env n => env.checkCardOK n sCardNo
  if iRet > 0 then
    modify fun s => { s with
      tExit.iTransType := if iRet = 5 then 2 else 10
      tExit.sCardNo := sCardNo
      tExit.iCardType := sCardType
      tExit.sPaidAmt := 0 }
    closeExitOperation .FreeParking
    return
  let s ← get
  if s.tExit.iCardStatus = 0 ∧ sCardNo ≠ "" then
    if iDevicetype = .EEP then
      modify fun s => { s with
        tExit.sCardNo := sCardNo
        tProcess.gsLastCardNo := sCardNo
        tProcess.gfLastCardBal := gfeeFormat sCardBal }
      eepDebit enableCashcard s.tExit.sIUNo s.tExit.sPaidAmt s.tExit.sEntryTime s.tExit.sExitTime
    else if iDevicetype = .CHU ∧ sCardType = 1 then
      chuDebit s.tExit.sIUNo s.tExit.sPaidAmt sCardNo sCardBal
    else if gfeeFormat s.tExit.sPaidAmt ≤ gfeeFormat sCardBal then
      if iDevicetype = .CHU then chuDebit s.tExit.sIUNo s.tExit.sPaidAmt sCardNo sCardBal
      else debitfromReader s.tExit.sIUNo s.tExit.sPaidAmt iDevicetype sCardType sCardBal
    else
      enableCashcard true
  else
    if iDevicetype = .EEP then eepInq 1
    else chuInq 1
    enableCashcard true

/-- The branch for the number of the last transaction, which is not paid. -/
def lastTransUnpaid (sCheckNo : String) (iDevicetype : DeviceType) (sCardNo : String)
    (sCardType : ℤ) (sCardBal : ℚ) : Op Unit := do
  let s ← get
  if s.tExit.sPaidAmt > 0 then
    if iDevicetype = .Ant then
      chuDebit s.tExit.sIUNo s.tExit.sPaidAmt sCardNo sCardBal
    else if iDevicetype = .EEP then
      if s.tExit.iBFunctionStatus = 1 then
        if obuCanDebit s.tExit then
          eepDebitCard enableCashcard sCardNo sCardBal
        else
          modify fun s => { s with tExit.giDeductionStatus := .WaitingCard }
          eepInq 1
          enableCashcard true
      else
        modify fun s => { s with tExit.giDeductionStatus := .WaitingCard }
        enableCashcard true
    else if iDevicetype = .CHU then
      if sCardNo = "" then chuInq 1
      else chuDebit s.tExit.sIUNo s.tExit.sPaidAmt sCardNo sCardBal
    else
      debitfromReader s.tExit.sIUNo s.tExit.sPaidAmt iDevicetype sCardType sCardBal
  else
    pbsExit enableCashcard sCheckNo iDevicetype sCardNo sCardType sCardBal

/-- Whole seconds between two points of the steady clock. -/
def seconds (from_ until_ : ℤ) : ℤ := (until_ - from_).tdiv (10 ^ 9)

/-- The branch for a vehicle that does not wait for a card. -/
def firstRead (sCheckNo : String) (iDevicetype : DeviceType) (sCardNo : String) (sCardType : ℤ)
    (sCardBal : ℚ) : Op Unit := do
  let steady ← ask Env.steadyClock
  let s ← get
  if sCheckNo = s.tProcess.gsLastPaidTrans ∧
      seconds s.tProcess.lastTransTime steady ≤ s.tParas.giMaxTransInterval then
    if s.tProcess.gbLastPaidStatus then
      enableCashcard false
      openbarrier 2
    else
      lastTransUnpaid enableCashcard sCheckNo iDevicetype sCardNo sCardType sCardBal
  else
    pbsExit enableCashcard sCheckNo iDevicetype sCardNo sCardType sCardBal

/-- `CheckIUorCardStatus` from the paid status on. -/
def checkPaid (sCheckNo : String) (iDevicetype : DeviceType) (sCardNo : String) (sCardType : ℤ)
    (sCardBal : ℚ) : Op Unit := do
  let s ← get
  if s.tExit.gbPaid then
    enableCashcard false
    openbarrier 2
  else if balanceChanged s sCardNo sCardBal then
    releaseBalanceChange enableCashcard sCardNo sCardBal
  else if s.tExit.giDeductionStatus = .WaitingCard ∧ s.tExit.iCardStatus ≠ 0 then
    askForCard enableCashcard iDevicetype
  else if s.tExit.giDeductionStatus = .WaitingCard then
    cardForFee enableCashcard iDevicetype sCardNo sCardType sCardBal
  else
    firstRead enableCashcard sCheckNo iDevicetype sCardNo sCardType sCardBal

/-- `CheckIUorCardStatus` -/
def checkIUorCardStatus (sCheckNo : String) (iDevicetype : DeviceType) (sCardNo : String)
    (sCardType : ℤ) (sCardBal : ℚ) : Op Unit := do
  let s ← get
  if cardRefused s.tExit.giDeductionStatus then
    if s.tProcess.gsLastCardNo = sCheckNo then
      enableCashcard true
      eepInq 2
    else
      modify fun s => { s with tExit.giDeductionStatus := .WaitingCard }
      checkPaid enableCashcard sCheckNo iDevicetype sCardNo sCardType sCardBal
  else
    checkPaid enableCashcard sCheckNo iDevicetype sCardNo sCardType sCardBal

/-! ## `PBSEntry` -/

/-- The part of `PBSEntry` that sets the transaction type; under EEP it sets the one of `tExit`. -/
def entryTransType (sIU : String) : Op Unit := do
  let s ← get
  if sIU.length = 10 then
    if s.tParas.giEPS = 3 ∧ s.tEntry.vcc ≠ "" then
      let iTransType ← ask fun env n => env.getVehicleType n (substr0 s.tEntry.vcc 3)
      modify fun s => { s with tExit.iTransType := iTransType }
    else
      let iTransType ← ask fun env n => env.getVehicleType n (substr0 sIU 3)
      modify fun s => { s with tEntry.iTransType := iTransType }
  else
    let iTransType ← getVTypeFromLoop
    modify fun s => { s with tEntry.iTransType := iTransType }

/-- The last part of `PBSEntry`: the vehicle is let in. -/
def letIn (sIU : String) (iRet : ℤ) : Op Unit := do
  if iRet = 1 ∨ iRet = 4 ∨ iRet = 6 then modify fun s => { s with tProcess.giShowType := 0 }
  if iRet = 10 then modify fun s => { s with tProcess.giShowType := 2 }
  if iRet ≠ 1 then
    if (← get).tParas.giEPS ≠ 3 then
      if (← ask fun env n => env.hasEZpay n sIU) ≠ 1 then
        let _ ← ask fun env n => env.hasAXS n sIU
    modify fun s => { s with tEntry.iTransType := 1, tProcess.giShowType := 1 }
  saveEntry
  modify fun s => { s with tEntry.gbEntryOK := true }
  openbarrier 0

/-- `PBSEntry` refuses a vehicle with a display on its OBU. -/
def refuseEntry : Op Unit := do
  let s ← get
  if s.tParas.giEPS = 3 then sendMsg2OBU s.tExit.sIUNo

/-- `PBSEntry` from the season on. -/
def admitBySeason (sIU : String) : Op Unit := do
  let iRet ← checkSeason sIU 1
  if iRet ≠ 1 then
    let notAllowHourly ← orThrow (stoi (← get).env.notAllowHourly)
    if notAllowHourly = 1 then
      refuseEntry
      return
  if (← get).tProcess.gbcarparkfull then
    if iRet = 1 then
      let rate ← orThrow (stoi (← get).tSeason.rate_type)
      if rate ≠ 0 ∧ (← get).tParas.giFullAction = .iNoPartial then
        refuseEntry
        return
    else
      refuseEntry
      return
  if iRet = 6 ∧ sIU.length > 10 then
    sendMsg2Server "90" (sIU ++ ",,,,,Season Passback")
    return
  letIn sIU iRet

/-- `PBSEntry` -/
def pbsEntry (sIU : String) : Op Unit := do
  let now ← ask Env.now
  modify fun s => { s with tEntry.sIUTKNo := sIU, tEntry.sEntryTime := now }
  if sIU = "" then return
  sendMsg2Server "90" ("," ++ sIU ++ ",," ++ (← get).tEntry.sLPN0 ++ ",,PMS_DVR")
  let iRet ← ask fun env n => env.isBlackListIU n sIU
  if iRet ≥ 0 then sendMsg2Server "90" (sIU ++ ",,,,,Blacklist IU")
  if iRet = 0 then return
  if isBlocked (← get).env sIU then
    sendMsg2Server "90" (sIU ++ ",,,,,Block IU")
    return
  entryTransType sIU
  let s ← get
  if s.tEntry.iTransType = 9 then
    modify fun s => { s with tEntry.iStatus := 0 }
    saveEntry
    openbarrier 0
    return
  if s.tProcess.gbcarparkfull ∧ s.tParas.giFullAction = .iLock then return
  modify fun s => { s with tEntry.iVehicleType := (s.tEntry.iTransType - 1).tdiv 3 }
  admitBySeason sIU

/-! ## `VehicleCome` and `EnableCashcard` -/

/-- The entry side of `VehicleCome`. -/
def enterVehicle (sNo : String) : Op Unit := do
  let steady ← ask Env.steadyClock
  let s ← get
  if sNo.length = 10 ∧ s.tProcess.gsLastIUNo = sNo ∧
      seconds s.tProcess.lastIUEntryTime steady ≤ s.tParas.giMaxTransInterval then
    openbarrier 2
  else if s.tEntry.gbEntryOK = false then
    pbsEntry sNo

/-- `VehicleCome` -/
def vehicleCome (sNo : String) : Op Unit := do
  if sNo = "" then return
  if sNo.length ≠ 10 then send .antennaStopRead
  if sNo.length = 10 ∧ sNo = (← get).tProcess.gsDefaultIU then
    sendMsg2Server "90" (sNo ++ ",,,,,Default IU")
    return
  if sNo.length = 10 then enableCashcard false
  if (← get).gtStation.iType = .tientry then
    enterVehicle sNo
  else
    checkIUorCardStatus enableCashcard sNo .Ant "" 0 0

/-- The readers and the barcode reader are switched. -/
def switchReaders (bEnable : Bool) : Op Unit := do
  let s ← get
  if !s.tExit.bPayByAXS ∧ !s.tExit.bPayByEZPay then
    send (.enableLCSC bEnable)
    send (.enableKDE bEnable)
    send (.enableUPOS bEnable)
  send (.barcodeRead bEnable)

/-- The plate `EnableCashcard` looks an IU up for; none when it does not. -/
def lookUpLPN (s : Station) : String :=
  if s.tProcess.gsTransID ≠ "" ∧ (s.gtStation.iType = .tientry ∨ s.tExit.sIUNo = "") then
    let sLPN := if s.gtStation.iType = .tientry then s.tEntry.sLPN0 else s.tExit.sLPN0
    if sLPN = "0000000000" then "" else sLPN
  else ""

/-- One activation of `EnableCashcard`; `vehicleCome` is what it calls with an IU. -/
def enableCashcardBody (vehicleCome : String → Op Unit) (bEnable : Bool) : Op Unit := do
  if bEnable = (← get).tProcess.sEnableReader then return
  modify fun s => { s with tProcess.sEnableReader := bEnable }
  let sLPN := lookUpLPN (← get)
  let sIU ← if sLPN ≠ "" then ask fun env n => env.getIUByLPN n sLPN else pure ""
  if sIU.length = 10 then vehicleCome sIU
  else switchReaders bEnable

/-- `EnableCashcard`, with room for `depth` nested activations on the stack. -/
def enableCashcardAt : ℕ → Bool → Op Unit
  | 0, _ => throw .overflow
  | depth + 1, bEnable => enableCashcardBody (vehicleCome (enableCashcardAt depth)) bEnable

end LinuxPBS.Operation

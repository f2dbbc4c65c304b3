import LinuxPBS.Operation.Vehicle

/-!
# What the devices report

The handlers of the barcode reader (`ticketScan`), of the card readers
(`ProcessLCSC`, `processUPT`), of the EEP client (`processEEP`) and of the CHU
(`processCHU`).

The events of `ProcessLCSC`, `processUPT` and `processCHU` are texts which the
handlers take apart.  Only some of the readings are inside a `try` block; an
exception elsewhere leaves the handler and ends the program.
-/

namespace LinuxPBS.Operation

open CxxText Common

variable (enableCashcard : Bool → Op Unit)

/-- A new inquiry under EEP (`giEPS = 3`) or CHU (`giEPS = 2`). -/
def inquireAgain (eepDelay chuDelay : ℕ) : Op Unit := do
  let s ← get
  if s.tParas.giEPS = 3 then eepInq eepDelay
  else if s.tParas.giEPS = 2 then chuInq chuDelay

/-! ## `ticketScan` -/

/-- The ticket number `ticketScan` makes of what was scanned. -/
structure TicketNo where
  sCardTkNo : String := ""
  isRedemptionTicket : Bool := false
  /-- a redemption ticket while `giExitTicketRedemption` is `0` -/
  isRefused : Bool := false
  deriving DecidableEq

/-- A ticket of 9 or 15 digits; its type is the eighth character. -/
def typedTicket (giExitTicketRedemption : ℤ) (skeyedNo : String) (count : ℕ) : TicketNo :=
  let sCardTkNo := toUpper (substr0 skeyedNo count)
  let isRedemptionTicket := decide (sCardTkNo.toList[7]? = some 'V' ∨ sCardTkNo.toList[7]? = some 'W')
  { sCardTkNo, isRedemptionTicket
    isRefused := isRedemptionTicket && giExitTicketRedemption = 0 }

/-- The first part of `ticketScan`. -/
def readTicketNo (giExitTicketRedemption : ℤ) (skeyedNo : String) : TicketNo :=
  let kind := toUpper (substr0 skeyedNo 2)
  if skeyedNo.length ≥ 12 then
    if kind = "SC" ∨ kind = "SR" then
      { sCardTkNo := toUpper (substr0 skeyedNo 12), isRedemptionTicket := kind = "SR" }
    else if skeyedNo.length = 15 then typedTicket giExitTicketRedemption skeyedNo 15
    else {}
  else if skeyedNo.length = 9 then typedTicket giExitTicketRedemption skeyedNo 9
  else {}

/-- What the server is told about a ticket that is not valid. -/
def invalidTicket (iRet : ℤ) (isRedemptionTicket : Bool) : Option String :=
  if iRet = -1 then some "Central DB Error"
  else if iRet = 0 then
    some (if isRedemptionTicket then "Redemption Expired" else "Complimentary Expired")
  else if iRet = 2 then some "Used Ticket"
  else if iRet = 4 then some "Ticket Not Found"
  else if iRet = 6 then some "Ticket Not Start"
  else none

/-- The end of `ticketScan` at the label `Exit_Sub`. -/
def exitSub : Op Unit := do
  showFee2User
  enableCashcard true
  inquireAgain 2 1

/-- A member's exit is closed when the ticket is scanned after the release. -/
def closeMember : Op Unit := do
  if (← get).tExit.bPayByAXS then closeExitOperation .AXSParking
  else closeExitOperation .EZPayParking

/-- A valid redemption ticket. -/
def redeemTicket (sCardTkNo : String) (answer : BarCodeAnswer) : Op Unit := do
  if answer.redeemTime > 0 then
    modify fun s => { s with tExit.iRedeemTime := answer.redeemTime }
    if (← get).tExit.sPaidAmt > 0 then redeemTime2Amt
  else
    modify fun s => { s with tExit.sRedeemAmt := gfeeFormat answer.redeemAmount }
  let s ← get
  if s.tExit.bPayByAXS ∨ s.tExit.bPayByEZPay then
    if gfeeFormat s.tExit.sFee < gfeeFormat (s.tExit.sRedeemAmt + s.tExit.sRebateAmt) then
      modify fun s => { s with
        tExit.sRedeemAmt := gfeeFormat (s.tExit.sFee - s.tExit.sRebateAmt) }
    closeMember
  else if s.tExit.sIUNo = "" ∧ s.tExit.sCardNo = "" then
    sendMsg2Server "90" (sCardTkNo ++ ",,,,,Redemption. Ticket Wait for Card")
    enableCashcard true
  else
    showFee2User
    let s ← get
    let fee := (stof (setFeeFormat
      (s.tExit.sFee - s.tExit.sRedeemAmt - s.tExit.sRebateAmt + s.tExit.sOweAmt))).getD 0
    if fee ≤ 0 then ticketOK
    else
      if s.tParas.giEPS = 3 then sendMsg2OBU s.tExit.sIUNo
      enableCashcard true
      inquireAgain 2 1

/-- A valid complimentary ticket. -/
def complimentaryTicket (sCardTkNo : String) : Op Unit := do
  let s ← get
  if s.tExit.bPayByAXS ∨ s.tExit.bPayByEZPay then
    modify fun s => { s with
      tExit.sRedeemAmt := gfeeFormat (s.tExit.sFee - s.tExit.sRebateAmt)
      tExit.iTransType := 10
      tExit.sCardNo := s.tExit.sRedeemNo }
    closeMember
  else if s.tParas.giNeedCard4Complimentary ≠ 0 ∧ s.tExit.sIUNo = "" then
    sendMsg2Server "90" (sCardTkNo ++ ",,,,,Compl. Ticket Wait for Card")
    enableCashcard true
  else
    if s.tExit.sIUNo = "" then modify fun s => { s with tExit.sIUNo := "N/A" }
    ticketOK

/-- The second part of `ticketScan`: the ticket is looked up. -/
def useTicket (skeyedNo : String) (ticket : TicketNo) : Op Unit := do
  if ticket.isRefused then
    exitSub enableCashcard
    return
  if ticket.sCardTkNo.length ≠ 9 ∧ ticket.sCardTkNo.length ≠ 12 ∧
      ticket.sCardTkNo.length ≠ 15 then
    sendMsg2Server "90" (skeyedNo ++ ",,,,,Invalid Ticket (Wrong Len)")
    exitSub enableCashcard
    return
  let answer ← ask fun env n => env.isValidBarCodeTicket n ticket.isRedemptionTicket skeyedNo
  if answer.iRet = 1 then
    modify fun s => { s with tExit.sRedeemNo := ticket.sCardTkNo }
    if ticket.isRedemptionTicket then redeemTicket enableCashcard ticket.sCardTkNo answer
    else complimentaryTicket enableCashcard ticket.sCardTkNo
  else
    let s ← get
    if s.tParas.giEPS = 3 then sendMsg2OBU s.tExit.sIUNo
    let reason := invalidTicket answer.iRet ticket.isRedemptionTicket
    if reason.isSome then
      sendMsg2Server "90" (ticket.sCardTkNo ++ ",,,,," ++ reason.getD "")
    exitSub enableCashcard

/-- `ticketScan` -/
def ticketScan (skeyedNo : String) : Op Unit := do
  let s ← get
  if s.tExit.sRedeemAmt > 0 then
    if s.tExit.sFee ≥ 1 / 100 ∧
        s.tExit.sFee - s.tExit.sRedeemAmt - s.tExit.sRebateAmt + s.tExit.sOweAmt ≤ 0 then
      ticketOK
    else
      showFee2User
  else
    enableCashcard false
    useTicket enableCashcard skeyedNo (readTicketNo s.tParas.giExitTicketRedemption skeyedNo)

/-! ## `ProcessLCSC` -/

/-- The value of the last pair with a name, as a `try` block around the loop leaves it: a
value that cannot be read ends the loop. -/
def lastRead {α : Type} (read : String → Option α) (param : String) :
    α → List (String × String) → α
  | found, [] => found
  | found, (name, value) :: rest =>
      if name = param then
        match read value with
        | some next => lastRead read param next rest
        | none => found
      else lastRead read param found rest

/-- The text of the last pair with a name. -/
def lastText (param : String) (event : List (String × String)) : String :=
  lastRead some param "" event

/-- `RetryLCSCLastCommand` -/
def retryLCSCLastCommand : Op Unit := do
  if (← ask Env.gbLoopApresent) then
    let s ← get
    let doing := s.tExit.giDeductionStatus = .Doingdeduction
    sendMsg2Server "90" (s.tProcess.gsLastCardNo ++ ",,,,," ++
      if doing then "Deduction Error" else "Reading Card^Error")
    modify fun s => { s with tExit.giDeductionStatus := .WaitingCard }
    if doing then showFee2User
    enableCashcard true
    inquireAgain 3 3
  else
    enableCashcard false

/-- A card number that is not one. -/
def wrongCardNo (sCardNo : String) : Op Unit := do
  sendMsg2Server "90" (sCardNo ++ ",,,,,Wrong Card No")
  send (.enableLCSC true)

/-- `ProcessLCSC`, `sGetIDSuccess` -/
def lcscCardID (sCardNo : String) : Op Unit := do
  if (← get).gtStation.iType = .tiExit then return
  if sCardNo.length ≠ 16 then wrongCardNo sCardNo
  else if (← get).tEntry.sIUTKNo = "" then
    enableCashcard false
    vehicleCome enableCashcard sCardNo

/-- `ProcessLCSC`, `sGetBlcSuccess` -/
def lcscBalance (sCardNo sBal : String) : Op Unit := do
  if (← get).gtStation.iType = .tientry then return
  if sCardNo.length ≠ 16 then wrongCardNo sCardNo
  else
    enableCashcard false
    send .antennaStopRead
    modify fun s => { s with tExit.iCardStatus := 0 }
    let balance ← orThrow (stof sBal)
    checkIUorCardStatus enableCashcard sCardNo .LCSC sCardNo 1 (balance / 100)

/-- `ProcessLCSC`, `sGetDeductSuccess` -/
def lcscDeducted (sCardNo sBalanceAfterTrans : String) : Op Unit := do
  if (← get).gtStation.iType = .tientry then return
  debitOK "" sCardNo "" (formatToFloatString sBalanceAfterTrans) 1 "" .LCSC

/-- The deduction is given up because of the card. -/
def cardRejected (status : EProcessStatus) (reason : String) : Op Unit := do
  modify fun s => { s with tExit.giDeductionStatus := status }
  sendMsg2Server "90" ((← get).tProcess.gsLastCardNo ++ ",,,,," ++ reason)
  enableCashcard true

/-- The `mCSCEvents` without an action. -/
def lcscIdle : List ℤ := [1, 2, 5, 9, 10, 11, 12, 13, 14, 15, -27, -31, -32, -33]

/-- `ProcessLCSC`; a missing status is `sWrongCmd`. -/
def processLCSC (eventData : String) : Op Unit := do
  let event := pairs eventData
  let msg_status := lastRead stoi "msgStatus" (-101) event
  if msg_status = 0 then
    if lastRead stoi "readerMode" 0 event ≠ 1 then send .lcscLogin
  else if msg_status = 3 then lcscCardID enableCashcard (lastText "CAN" event)
  else if msg_status = 4 then
    lcscBalance enableCashcard (lastText "CAN" event) (lastText "cardBalance" event)
  else if msg_status = 6 then
    lcscDeducted (lastText "CAN" event) (lastText "BalanceAfterTrans" event)
  else if msg_status = 7 then
    let seed := stoulHex (lastText "seed" event)
    if seed.isSome then send (.lcscCardFlush (seed.getD 0))
  else if msg_status = 8 then
    if (← get).tProcess.gbBarrierOpened = false then retryLCSCLastCommand enableCashcard
  else if msg_status = -22 then send .lcscCardRecord
  else if msg_status = -18 then cardRejected enableCashcard .CardExpired "Card Expired"
  else if msg_status ∈ lcscIdle then pure ()
  else retryLCSCLastCommand enableCashcard

/-! ## `processUPT` -/

/-- The value of the last pair with a name; every value with the name has to be readable. -/
def allRead {α : Type} (read : String → Option α) (param : String) :
    α → List (String × String) → Option α
  | found, [] => some found
  | found, (name, value) :: rest =>
      if name = param then (read value).bind fun next => allRead read param next rest
      else allRead read param found rest

/-- An amount in cents; an empty value is ignored. -/
def centsOf (param : String) (event : List (String × String)) : Option ℕ :=
  allRead stoull param 0 (event.filter fun pair => pair.2 ≠ "")

/-- `processUPT`, a card has been detected. -/
def uptCardDetected (event : List (String × String)) : Op Unit := do
  let card_balance ← orThrow (allRead stof "cardBalance" 0 event)
  let card_can := lastText "cardCan" event
  send (.enableLCSC false)
  send .antennaStopRead
  modify fun s => { s with tExit.iCardStatus := 0 }
  let card_type ← orThrow (stoi (lastText "cardType" event))
  checkIUorCardStatus enableCashcard card_can .UPOS card_can (card_type + 6)
    (roundHalfAway card_balance / 100)

/-- `processUPT`, a payment has been made. -/
def uptPaid (event : List (String × String)) : Op Unit := do
  let card_fee ← orThrow (centsOf "cardFee" event)
  let card_balance ← orThrow (centsOf "cardBalance" event)
  let card_can := lastText "cardCan" event
  let s ← get
  let paid : ℚ := if card_can = "" then toLong (s.tExit.sPaidAmt * 100) else card_fee
  let card_no := if card_can = ""
    then padLeft0 2 s.gtStation.iSID ++ "20" ++ lastText "cardReferenceNo" event else card_can
  let card_type ← orThrow (stoi (lastText "cardType" event))
  debitOK "" card_no (setFeeFormat (toFloat (paid / 100)))
    (setFeeFormat (toFloat (card_balance / 100))) (card_type + 6) "" .UPOS

/-- `processUPT`, `CARD_DETECT_REQUEST` -/
def uptCardDetect (msg_status : ℕ) (event : List (String × String)) : Op Unit := do
  if msg_status = 0 then
    catchException (uptCardDetected enableCashcard event)
  else if msg_status = 2 then
    if (← ask Env.gbLoopApresent) then
      if (← get).tExit.gbPaid = false then send (.enableUPOS true)
  else if msg_status = 0x40000000 then
    if (← ask Env.gbLoopApresent) then
      let s ← get
      if s.tExit.gbPaid = false ∧ s.tExit.sPaidAmt > 0 ∧
          s.tExit.giDeductionStatus = .WaitingCard then
        debitfromReader "" s.tExit.sPaidAmt .UPOS 0 0

/-- `processUPT`, `PAYMENT_MODE_AUTO_REQUEST` -/
def uptPayment (msg_status : ℕ) (event : List (String × String)) : Op Unit := do
  if msg_status = 0 then
    catchException (uptPaid event)
  else if msg_status = 2 then
    if (← ask Env.gbLoopApresent) then
      let s ← get
      if s.tExit.gbPaid = false ∨ s.tExit.giDeductionStatus = .Doingdeduction then
        modify fun s => { s with tExit.giDeductionStatus := .WaitingCard }
        enableCashcard true
  else if msg_status = 0x20000004 then
    cardRejected enableCashcard .CardExpired "Card Expired"
  else if 0x20000000 < msg_status ∧ msg_status ≤ 0x2000000E then
    cardRejected enableCashcard .CardFault "Card Fault"
  else
    cardRejected enableCashcard .WaitingCard "Deduction Error"

/-- `processUPT`; a missing status is `PARSE_FAILED`. -/
def processUPT (cmd : UptCmd) (eventData : String) : Op Unit := do
  let event := pairs eventData
  let msg_status := lastRead (fun value => (stoull value).map (· % 2 ^ 32)) "msgStatus" 8 event
  if cmd = .CARD_DETECT_REQUEST then uptCardDetect enableCashcard msg_status event
  else if cmd = .PAYMENT_MODE_AUTO_REQUEST then uptPayment enableCashcard msg_status event

/-! ## `processEEP` -/

/-- The card number of an EEP message; sixteen zeros are no card. -/
def eepCardNo (can : String) : String := if can = "0000000000000000" then "" else can

/-- The part of `processEEPTransData` for a successful deduction of this vehicle. -/
def eepDeducted (transData : TransactionData) : Op Unit := do
  modify fun s => { s with
    tExit.sCardNo := eepCardNo transData.can
    tExit.sPaidAmt := (transData.paymentFee : ℚ) / 100
    tExit.sDSerialNo := toString transData.deductCommandSerialNum
    tExit.iEEPPaymentResult := transData.resultDeduction
    tExit.sTopupAmt := if transData.indicationLastAutoLoad > 0
      then (transData.autoLoadAmount : ℚ) / 100 else s.tExit.sTopupAmt
    tExit.iEEPTransRoute := transData.transactionRoute
    tExit.sEEPpaymentTime := stringConvertDBTime
      (if transData.resultDeduction = 1 then longToHex transData.fepTime
        else if transData.resultDeduction = 2 then transData.bepTimeOfReport else "") }
  let s ← get
  debitOK s.tExit.sIUNo s.tExit.sCardNo (setFeeFormat s.tExit.sPaidAmt)
    (setFeeFormat ((transData.purseBalanceAfterTransaction : ℚ) / 100)) 1
    (setFeeFormat s.tExit.sTopupAmt) .EEP

/-- The part of `processEEPTransData` for a deduction that was refused. -/
def eepRefused (status : EProcessStatus) (reason : String) : Op Unit := do
  let s ← get
  sendMsg2Server "90" (s.tExit.sIUNo ++ ",,,,," ++ reason)
  sendMsg2OBU s.tExit.sIUNo
  modify fun s => { s with tExit.giDeductionStatus := status }
  enableCashcard true
  eepInq 2

/-- The results 1, 2 and 8 of `processEEPTransData`. -/
def eepSuccess (transData : TransactionData) : Op Unit := do
  if decimalIntToHexString transData.obuLabel 5 = (← get).tExit.sIUNo then
    if (← ask Env.gbLoopApresent) then eepDeducted transData
    else send (.updateEEPExitTrans transData)
  else send (.updateEEPExitTrans transData)

/-- The result 7 of `processEEPTransData`. -/
def eepRejectCode7 (transData : TransactionData) : Op Unit := do
  modify fun s => { s with
    tExit.sIUNo := decimalIntToHexString transData.obuLabel 5
    tExit.iEEPPaymentResult := transData.resultDeduction
    tExit.sCardNo := eepCardNo transData.can
    tExit.iCardType := if eepCardNo transData.can = "" then s.tExit.iCardType else 1 }
  closeExitOperation .RejectCode7

/-- `processEEPTransData` -/
def processEEPTransData (transData : TransactionData) : Op Unit := do
  if transData.resultDeduction = 1 ∨ transData.resultDeduction = 2 ∨
      transData.resultDeduction = 8 then
    eepSuccess transData
  else if transData.resultDeduction = 7 then
    eepRejectCode7 transData
  else if transData.resultDeduction = 9 then
    enableCashcard true
    eepInq 2
  else if transData.resultDeduction = 5 then
    modify fun s => { s with
      tExit.iEEPPaymentResult := 5, tProcess.fiLastEEPCmd := .GET_OBU_INFO_REQ_CMD }
  else if transData.resultDeduction = 0 then
    if transData.frontendPaymentViolation = 8 then
      eepRefused enableCashcard .InsufficientBalance "Insufficient Balance"
    else if transData.frontendPaymentViolation ≠ 0 then
      eepRefused enableCashcard .CardFault "Invalid card"
    else if transData.backendPaymentViolation ≠ 0 then
      eepRefused enableCashcard .WaitingCard "Invalid Backend Payment"

/-- What `ProcessOUBInformation` stores in `tExit`. -/
def takeObuInformation (info : ObuInformation) (tExit : TExit) : TExit :=
  { tExit with
    iBackendAccount := info.backendAccount
    iBackendSetting := info.backendSetting
    iBFunctionStatus := info.businessFunctionStatus
    iOBUType := info.typeObu
    lpn := info.vechicleNumber
    sLPN0 := info.vechicleNumber
    sLPN1 := info.vechicleNumber
    vcc := info.vcc
    sCardNo := eepCardNo info.can
    iCardStatus := info.cardValidity }

/-- `ProcessOUBInformation` -/
def processOUBInformation (info : ObuInformation) : Op Unit := do
  let gsOBU := longToHex info.obulabel
  if (← get).tExit.giDeductionStatus = .Doingdeduction then return
  if (← get).tProcess.gsTailgateOBU = gsOBU then
    modify fun s => { s with tProcess.gsTailgateOBU := "" }
  if (← get).gtStation.iType = .tientry then
    modify fun s => { s with
      tEntry.sLPN0 := info.vechicleNumber
      tEntry.sLPN1 := info.vechicleNumber
      tEntry.vcc := info.vcc }
    vehicleCome enableCashcard gsOBU
  else
    modify fun s => { s with tExit := takeObuInformation info s.tExit }
    let s ← get
    if s.tExit.iEEPPaymentResult = 5 ∧ s.tExit.sDSerialNo ≠ "" then
      send (.transactionReq gsOBU s.tExit.sDSerialNo)
    else
      checkIUorCardStatus enableCashcard gsOBU .EEP s.tExit.sCardNo 1 info.cardBalance

/-- The answer that ends a command and sets `fiLastEEPCmd` back. -/
def endsCommand : CommandType → EepMessage → Bool
  | .GET_OBU_INFO_REQ_CMD, .OBU_INFORMATION_NOTIFICATION _ => true
  | .GET_OBU_INFO_STOP_REQ_CMD, .ACK _ => true
  | .DEDUCT_REQ_CMD, .TRANSACTION_DATA _ => true
  | .TRANSACTION_REQ_CMD, .TRANSACTION_DATA _ => true
  | .CPO_INFO_DISPLAY_REQ_CMD, .CPO_INFORMATION_DISPLAY_RESULT => true
  | .CARPARK_PROCESS_COMPLETE_NOTIFICATION_REQ_CMD, .CARPARK_PROCESS_COMPLETE_RESULT => true
  | .DSRC_PROCESS_COMPLETE_NOTIFICATION_REQ_CMD, .ACK _ => true
  | .STOP_REQ_OF_RELATED_INFO_DISTRIBUTION_CMD, .ACK _ => true
  | .SET_CARPARK_AVAIL_REQ_CMD, .ACK _ => true
  | .CD_DOWNLOAD_REQ_CMD, .ACK _ => true
  | _, _ => false

/-- `processEEP`, an answer has come: `fiLastEEPCmd` is set back. -/
def endCommand (cmd : CommandType) (message : EepMessage) : Op Unit :=
  modify fun s => { s with
    tProcess.fiLastEEPCmd := if endsCommand cmd message ∧ s.tProcess.fiLastEEPCmd = cmd
      then .EEP_idle else s.tProcess.fiLastEEPCmd }

/-- `processEEP`, information about an OBU that was not asked for: the first one on loop A is
noted, a second one from it is processed. -/
def eepTailgate (info : ObuInformation) : Op Unit := do
  let present ← ask Env.gbLoopApresent
  let gsOBU := longToHex info.obulabel
  let gsTailgateOBU := (← get).tProcess.gsTailgateOBU
  if present ∧ gsTailgateOBU = "" then
    modify fun s => { s with tProcess.gsTailgateOBU := gsOBU }
  else if gsTailgateOBU = gsOBU then
    processOUBInformation enableCashcard info

/-- `processEEP`, information about the OBU that was asked for. -/
def eepObuInformation (message : EepMessage) (info : ObuInformation) : Op Unit := do
  enableCashcard false
  endCommand .GET_OBU_INFO_REQ_CMD message
  if (← ask Env.gbLoopApresent) then processOUBInformation enableCashcard info

/-- `processEEP`, a notification. -/
def eepNotification : EepMessage → Op Unit
  | .TRANSACTION_DATA transData => processEEPTransData enableCashcard transData
  | .OBU_INFORMATION_NOTIFICATION info => eepTailgate enableCashcard info
  | _ => pure ()

/-- `processEEP`, the answer to a command. -/
def eepResponse (cmd : CommandType) (message : EepMessage) : Op Unit :=
  match cmd, message with
  | .GET_OBU_INFO_REQ_CMD, .OBU_INFORMATION_NOTIFICATION info =>
      eepObuInformation enableCashcard message info
  | .DEDUCT_REQ_CMD, .TRANSACTION_DATA transData => do
      endCommand cmd message
      processEEPTransData enableCashcard transData
  | .TRANSACTION_REQ_CMD, .TRANSACTION_DATA transData => do
      endCommand cmd message
      processEEPTransData enableCashcard transData
  | .DEDUCT_REQ_CMD, .ACK deductSerialNo =>
      modify fun s => { s with tExit.sDSerialNo := toString deductSerialNo }
  | _, _ => endCommand cmd message

/-- `processEEP`, a command that was not answered. -/
def eepFailure (cmd : CommandType) (messageStatus : EepStatus) : Op Unit := do
  if cmd = .GET_OBU_INFO_REQ_CMD then
    if (← ask Env.gbLoopApresent) then
      sendMsg2Server "90" ",,,,,No OBU Detected"
      enableCashcard true
  else if cmd = .DEDUCT_REQ_CMD ∧ messageStatus = .RSP_TIMEOUT then
    if (← ask Env.gbLoopApresent) then
      let s ← get
      if s.tExit.gbPaid = false ∨ s.tExit.giDeductionStatus = .Doingdeduction then
        modify fun s => { s with tExit.giDeductionStatus := .WaitingCard }
        enableCashcard true

/-- `processEEP` -/
def processEEP (event : EepEvent) : Op Unit :=
  catchException <|
    if event.messageStatus = .SUCCESS then
      if event.commandReqType = .UNKNOWN_REQ_CMD then
        eepNotification enableCashcard event.message
      else eepResponse enableCashcard event.commandReqType event.message
    else eepFailure enableCashcard event.commandReqType event.messageStatus

/-! ## `processCHU` -/

/-- An amount of a CHU message, from cents. -/
def chuAmount (tmpStr : List String) (i : ℕ) : Op String := do
  let cents ← orThrow (stoi (← index tmpStr i))
  pure (setFeeFormat (cents / 100))

/-- `DebitOK` for a debit-OK message. -/
def chuDebitOK (tmpStr : List String) : Op Unit := do
  let paid ← chuAmount tmpStr 3
  let balance ← chuAmount tmpStr 5
  let cardType ← orThrow (stoi (← index tmpStr 7))
  let topup ← chuAmount tmpStr 8
  debitOK (← index tmpStr 2) (← index tmpStr 4) paid balance cardType topup .CHU

/-- `processCHU`, the answer to an inquiry. -/
def chuInquired (iRC : ℤ) (tmpStr : List String) : Op Unit := do
  if (← get).tExit.giDeductionStatus = .Doingdeduction then return
  -- `ChuRC_EntryWithCashcard`, `ChuRC_EntryWithoutCashcard`
  if iRC = 14 ∨ iRC = 15 then
    let antID ← orThrow (stoi (← index tmpStr 1))
    if antID ≠ (← get).gtStation.iAntID then
      modify fun s => { s with tProcess.fiLastCHUCmd := .iInit }
      chuInq 3
    else
      let sIUNo ← index tmpStr 2
      modify fun s => { s with tExit.sIUNo := sIUNo }
      if iRC = 14 then
        let sCardNo ← index tmpStr 3
        modify fun s => { s with tExit.sCardNo := sCardNo, tExit.iCardStatus := 0 }
      else
        modify fun s => { s with tExit.sCardNo := "", tExit.iCardStatus := 1 }
      let cardType ← orThrow (stoi (← index tmpStr 5))
      let balance ← orThrow (stof (← index tmpStr 4))
      let s ← get
      checkIUorCardStatus enableCashcard s.tExit.sIUNo .CHU s.tExit.sCardNo cardType
        (balance / 100)
  else
    modify fun s => { s with tProcess.fiLastCHUCmd := .iInit }
    chuInq 2

/-- `processCHU`, the two words of the error code of a failed debit. -/
def chuErrorCode (tmpStr : List String) (l4 r4 : String) : Op Unit := do
  if r4 = "0004" then
    if (← get).tParas.giProcessReversedCMD = 0 then
      let cardType ← orThrow (stoi (← index tmpStr 7))
      debitOK (← index tmpStr 2) (← index tmpStr 4) "" "" cardType "" .CHU
      return
  else
    -- `R4.substr(R4.length() - 1, 1)` throws for the empty text
    let lastOfR4 ← orThrow r4.toList.getLast?
    if lastOfR4 ≠ '8' ∧ (l4 = "0004" ∨ r4 = "0010") then
      modify fun s => { s with
        tExit.giDeductionStatus := .InsufficientBalance, tProcess.gsLastCardNo := "" }
  enableCashcard true

/-- `processCHU`, a debit has failed and the error code is known. -/
def chuDebitFail (tmpStr : List String) : Op Unit := do
  let sCHUDebitCode ← index tmpStr 6
  if sCHUDebitCode = "00000001" then
    modify fun s => { s with tExit.giDeductionStatus := .WaitingCard }
    enableCashcard true
    chuInq 2
    return
  modify fun s => { s with tExit.sCHUDebitCode := sCHUDebitCode }
  sendMsg2Server "90" ((← index tmpStr 2) ++ "," ++ (← index tmpStr 4) ++ ",,,1, Debit Fail: " ++
    sCHUDebitCode)
  modify fun s => { s with tExit.giDeductionStatus := .WaitingCard }
  let l4 ← orThrow (substr sCHUDebitCode 1 4)
  let r4 ← orThrow (substr sCHUDebitCode 5 8)
  chuErrorCode enableCashcard tmpStr l4 r4

/-- `processCHU`, the answer to a debit. -/
def chuDebited (iRC : ℤ) (tmpStr : List String) : Op Unit := do
  -- `ChuRC_DebitOk`
  if iRC = 12 then
    let antID ← orThrow (stoi (← index tmpStr 1))
    let s ← get
    if antID ≠ s.gtStation.iAntID then
      modify fun s => { s with tProcess.fiLastCHUCmd := .iInit }
      chuInq 2
    else if s.tExit.sIUNo ≠ (← index tmpStr 2) then
      modify fun s => { s with tProcess.fiLastCHUCmd := .iInit }
      chuInq 2
    else
      let _ ← index tmpStr 9
      chuDebitOK tmpStr
  -- `ChuRC_DebitFail`
  else if iRC = 13 then
    chuDebitFail enableCashcard tmpStr
  else
    modify fun s => { s with tExit.giDeductionStatus := .WaitingCard }
    enableCashcard true
    -- `ChuRC_NAK`
    if iRC = 2 then chuInq 3

/-- `processCHU`, a debit-OK message that was not expected. -/
def chuLateDebit (tmpStr : List String) : Op Unit := do
  let sCHUDebitTime := stringConvertDBTime (← index tmpStr 9)
  if (← get).tExit.sIUNo = (← index tmpStr 2) then
    chuDebitOK tmpStr
  else
    let sIUNo ← index tmpStr 2
    modify fun s => { s with tExit1.sIUNo := sIUNo }
    let sCardNo ← index tmpStr 4
    modify fun s => { s with tExit1.sCardNo := sCardNo }
    let paid ← orThrow (stoi (← index tmpStr 3))
    modify fun s => { s with
      tExit1.sPaidAmt := (paid : ℚ) / 100, tExit1.sFee := (paid : ℚ) / 100 }
    let cardType ← orThrow (stoi (← index tmpStr 7))
    modify fun s => { s with tExit1.iCardType := cardType }
    let topup ← orThrow (stoi (← index tmpStr 8))
    modify fun s => { s with
      tExit1.sTopupAmt := (topup : ℚ) / 100
      tExit1.sExitTime := sCHUDebitTime
      tExit1.sEntryTime := sCHUDebitTime }
    updateExit
    modify fun s => { s with tProcess.fiLastCHUCmd := .iInit }
    chuInq 2

/-- `processCHU` -/
def processCHU (eventData : String) : Op Unit := do
  if (← get).tProcess.gbBarrierOpened then return
  let fields := parseData '[' ']' '|' eventData
  if fields.length < 4 then return
  let rxcmd ← orThrow (stoi (fields.getD 2 ""))
  let tmpStr := split ',' (fields.getD 3 "")
  let iRC ← orThrow (stoi (← index tmpStr 0))
  -- `ChuRC_CNNBroken`
  if iRC = 24 then
    modify fun s => { s with tProcess.fiLastCHUCmd := .iInit }
    sendMsg2Server "90" ",,,,,CHU Connection Down"
    return
  if chuCode (← get).tProcess.fiLastCHUCmd + 1 = rxcmd then
    modify fun s => { s with tProcess.fiLastCHUCmd := .iInit }
    if rxcmd = 101 then chuInquired enableCashcard iRC tmpStr
    else if rxcmd = 103 then chuDebited enableCashcard iRC tmpStr
  else if rxcmd = 103 ∧ iRC = 12 then
    chuLateDebit tmpStr

end LinuxPBS.Operation

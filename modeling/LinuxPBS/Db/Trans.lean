import LinuxPBS.Db.Odbc
import LinuxPBS.Library.CxxText
import LinuxPBS.StructureData

/-!
# The transaction tables

The columns of the central tables `Entry_Trans_tmp` and `exit_trans_tmp` and of
the local tables `Entry_Trans` and `Exit_Trans`, and the column lists of the six
`INSERT`s that fill them:

```text
                   entry                     exit
online             centralEntryInsert        centralExitInsert
local fallback     localEntryInsert          localExitInsert
upload             uploadEntryInsert         uploadExitInsert
```

together with the reading of a local row back into a transaction, which
`moveOfflineTransToCentral` does with `std::stoi` and `std::stof`, so that it may
throw.
-/

namespace LinuxPBS.Db

open CxxText

/-! ## Entry transactions -/

/-- The columns of `Entry_Trans_tmp` and of `Entry_Trans`. -/
inductive EntryColumn
  | stationId
  | entryTime
  | iuTkNo
  | transType
  | status
  | tkSerialNo
  | cardType
  | cardNo
  | paidAmt
  | parkingFee
  | vcc
  | gstAmt
  | entryLpnSid
  | lpn
  deriving DecidableEq, Repr

/-- The `INSERT INTO Entry_Trans_tmp` of `insertentrytrans`. -/
def centralEntryInsert (transId lprNo : String) (tEntry : TEntryTrans) : Insert EntryColumn :=
  [(.stationId, .quoted tEntry.esid),
    (.entryTime, .datetime tEntry.sEntryTime),
    (.iuTkNo, .quoted tEntry.sIUTKNo),
    (.transType, .quoted (toString tEntry.iTransType)),
    (.status, .quoted (toString tEntry.iStatus)),
    (.tkSerialNo, .quoted tEntry.sSerialNo),
    (.cardType, .quoted (toString tEntry.iCardType)),
    (.cardNo, .quoted tEntry.sCardNo),
    (.paidAmt, .quoted (toStringFloat tEntry.sPaidAmt)),
    (.parkingFee, .quoted (toStringFloat tEntry.sFee)),
    (.vcc, .quoted tEntry.vcc),
    (.gstAmt, .quoted (toStringFloat tEntry.sGSTAmt)),
    (.entryLpnSid, .quoted transId)] ++
    if lprNo ≠ "" then [(.lpn, .quoted lprNo)] else []

/-- The `INSERT INTO Entry_Trans` of `insertentrytrans`. -/
def localEntryInsert (transId lprNo : String) (tEntry : TEntryTrans) : Insert EntryColumn :=
  [(.stationId, .quoted tEntry.esid),
    (.entryTime, .quoted tEntry.sEntryTime),
    (.iuTkNo, .quoted tEntry.sIUTKNo),
    (.transType, .quoted (toString tEntry.iTransType)),
    (.status, .quoted (toString tEntry.iStatus)),
    (.tkSerialNo, .quoted tEntry.sSerialNo),
    (.cardType, .quoted (toString tEntry.iCardType)),
    (.cardNo, .quoted tEntry.sCardNo),
    (.paidAmt, .quoted (toStringFloat tEntry.sPaidAmt)),
    (.parkingFee, .quoted (toStringFloat tEntry.sFee)),
    (.gstAmt, .quoted (toStringFloat tEntry.sGSTAmt)),
    (.entryLpnSid, .quoted transId),
    (.lpn, .quoted lprNo)]

/-- The `INSERT` of `insertTransToCentralEntryTransTmp`. -/
def uploadEntryInsert (entryTrans : TEntryTrans) : Insert EntryColumn :=
  [(.stationId, .quoted entryTrans.esid),
    (.entryTime, .datetime entryTrans.sEntryTime),
    (.iuTkNo, .quoted entryTrans.sIUTKNo),
    (.transType, .quoted (toString entryTrans.iTransType)),
    (.status, .quoted (toString entryTrans.iStatus)),
    (.tkSerialNo, .quoted entryTrans.sSerialNo),
    (.cardType, .quoted (toString entryTrans.iCardType)),
    (.cardNo, .quoted entryTrans.sCardNo),
    (.paidAmt, .quoted (toStringFloat entryTrans.sPaidAmt)),
    (.parkingFee, .quoted (toStringFloat entryTrans.sFee)),
    (.vcc, .quoted entryTrans.vcc),
    (.gstAmt, .quoted (toStringFloat entryTrans.sGSTAmt)),
    (.lpn, .quoted entryTrans.sLPN0)]

/-- A row selected from `Entry_Trans`, read back; `none` when a conversion throws. -/
def readEntryTrans (item : EntryColumn → String) : Option TEntryTrans := do
  let iTransType ← stoi (item .transType)
  let iStatus ← stoi (item .status)
  let iCardType ← stoi (item .cardType)
  let sPaidAmt ← stof (item .paidAmt)
  let sFee ← stof (item .parkingFee)
  let sGSTAmt ← stof (item .gstAmt)
  return {
    esid := item .stationId
    sEntryTime := item .entryTime
    sIUTKNo := item .iuTkNo
    iTransType, iStatus
    sSerialNo := item .tkSerialNo
    iCardType
    sCardNo := item .cardNo
    sPaidAmt, sFee, sGSTAmt
    sLPN0 := item .lpn
    vcc := item .vcc }

/-! ## Exit transactions -/

/-- The columns of `exit_trans_tmp` and of `Exit_Trans`. -/
inductive ExitColumn
  | stationId
  | exitTime
  | iuTkNo
  | cardMcNo
  | transType
  | parkedTime
  | parkingFee
  | paidAmt
  | receiptNo
  | status
  | redeemAmt
  | redeemTime
  | redeemNo
  | gstAmt
  | chuDebitCode
  | cardType
  | topUpAmt
  | uposbatchno
  | feefrom
  | lpn
  | entryId
  | entryTime
  | exitLpnSid
  | eepDSerialNo
  | eepTransRoute
  | eepPaymentResult
  | eepPaymentTime
  | vcc
  deriving DecidableEq, Repr

/-- `hasEepPaymentTime` -/
def hasEepPaymentTime (exitTrans : TExitTrans) : Bool :=
  exitTrans.iEEPPaymentResult = 1 || exitTrans.iEEPPaymentResult = 2

/-- The `INSERT INTO exit_trans_tmp` of `insertexittrans`. -/
def centralExitInsert (transId : String) (exitTrans : TExitTrans) : Insert ExitColumn :=
  [(.stationId, .bare exitTrans.xsid),
    (.exitTime, .quoted exitTrans.sExitTime),
    (.iuTkNo, .quoted exitTrans.sIUNo),
    (.cardMcNo, .quoted exitTrans.sCardNo),
    (.transType, .bare (toString exitTrans.iTransType)),
    (.parkedTime, .bare (toString exitTrans.lParkedTime)),
    (.parkingFee, .bare (toStringFloat exitTrans.sFee)),
    (.paidAmt, .bare (toStringFloat exitTrans.sPaidAmt)),
    (.receiptNo, .quoted exitTrans.sReceiptNo),
    (.status, .bare (toString exitTrans.iStatus)),
    (.redeemAmt, .bare (toStringFloat exitTrans.sRedeemAmt)),
    (.redeemTime, .bare (toString exitTrans.iRedeemTime)),
    (.redeemNo, .quoted exitTrans.sRedeemNo),
    (.gstAmt, .bare (toStringFloat exitTrans.sGSTAmt)),
    (.chuDebitCode, .quoted exitTrans.sCHUDebitCode),
    (.cardType, .bare (toString exitTrans.iCardType)),
    (.topUpAmt, .bare (toStringFloat exitTrans.sTopupAmt)),
    (.uposbatchno, .quoted exitTrans.uposbatchno),
    (.feefrom, .quoted exitTrans.feefrom),
    (.lpn, .quoted exitTrans.lpn),
    (.exitLpnSid, .quoted transId),
    (.eepDSerialNo, .quoted exitTrans.sDSerialNo),
    (.eepTransRoute, .bare (toString exitTrans.iEEPTransRoute)),
    (.eepPaymentResult, .bare (toString exitTrans.iEEPPaymentResult)),
    (.vcc, .quoted exitTrans.vcc)] ++
    if hasEepPaymentTime exitTrans then [(.eepPaymentTime, .quoted exitTrans.sEEPpaymentTime)]
    else []

/-- The `INSERT INTO Exit_Trans` of `insertexittrans`. -/
def localExitInsert (transId : String) (exitTrans : TExitTrans) : Insert ExitColumn :=
  [(.stationId, .bare exitTrans.xsid),
    (.exitTime, .quoted exitTrans.sExitTime),
    (.iuTkNo, .quoted exitTrans.sIUNo),
    (.cardMcNo, .quoted exitTrans.sCardNo),
    (.transType, .bare (toString exitTrans.iTransType)),
    (.parkedTime, .bare (toString exitTrans.lParkedTime)),
    (.parkingFee, .bare (toStringFloat exitTrans.sFee)),
    (.paidAmt, .bare (toStringFloat exitTrans.sPaidAmt)),
    (.receiptNo, .quoted exitTrans.sReceiptNo),
    (.status, .bare (toString exitTrans.iStatus)),
    (.redeemAmt, .bare (toStringFloat exitTrans.sRedeemAmt)),
    (.redeemTime, .bare (toString exitTrans.iRedeemTime)),
    (.redeemNo, .quoted exitTrans.sRedeemNo),
    (.gstAmt, .bare (toStringFloat exitTrans.sGSTAmt)),
    (.chuDebitCode, .quoted exitTrans.sCHUDebitCode),
    (.cardType, .bare (toString exitTrans.iCardType)),
    (.topUpAmt, .bare (toStringFloat exitTrans.sTopupAmt)),
    (.uposbatchno, .quoted exitTrans.uposbatchno),
    (.feefrom, .quoted exitTrans.feefrom),
    (.lpn, .quoted exitTrans.lpn),
    (.entryId, .bare (toString exitTrans.iEntryID)),
    (.entryTime, .quoted exitTrans.sEntryTime),
    (.exitLpnSid, .quoted transId),
    (.eepDSerialNo, .quoted exitTrans.sDSerialNo),
    (.eepTransRoute, .bare (toString exitTrans.iEEPTransRoute)),
    (.eepPaymentResult, .bare (toString exitTrans.iEEPPaymentResult)),
    (.eepPaymentTime, .quoted exitTrans.sEEPpaymentTime),
    (.vcc, .quoted exitTrans.vcc)]

/-- The `INSERT` of `insertTransToCentralExitTransTmp`. -/
def uploadExitInsert (exitTrans : TExitTrans) : Insert ExitColumn :=
  [(.stationId, .quoted exitTrans.xsid),
    (.exitTime, .datetime exitTrans.sExitTime),
    (.iuTkNo, .quoted exitTrans.sIUNo),
    (.cardMcNo, .quoted exitTrans.sCardNo),
    (.transType, .quoted (toString exitTrans.iTransType)),
    (.parkedTime, .quoted (toString exitTrans.lParkedTime)),
    (.parkingFee, .quoted (toStringFloat exitTrans.sFee)),
    (.paidAmt, .quoted (toStringFloat exitTrans.sPaidAmt)),
    (.receiptNo, .quoted exitTrans.sReceiptNo),
    (.status, .quoted (toString exitTrans.iStatus)),
    (.redeemAmt, .quoted (toStringFloat exitTrans.sRedeemAmt)),
    (.redeemTime, .quoted (toString exitTrans.iRedeemTime)),
    (.redeemNo, .quoted exitTrans.sRedeemNo),
    (.gstAmt, .quoted (toStringFloat exitTrans.sGSTAmt)),
    (.chuDebitCode, .quoted exitTrans.sCHUDebitCode),
    (.cardType, .quoted (toString exitTrans.iCardType)),
    (.topUpAmt, .quoted (toStringFloat exitTrans.sTopupAmt)),
    (.lpn, .quoted exitTrans.sLPN0),
    (.vcc, .quoted exitTrans.vcc),
    (.eepDSerialNo, .quoted exitTrans.sDSerialNo),
    (.eepTransRoute, .quoted (toString exitTrans.iEEPTransRoute)),
    (.eepPaymentResult, .quoted (toString exitTrans.iEEPPaymentResult)),
    (.eepPaymentTime, .datetime exitTrans.sEEPpaymentTime)]

/-- A row selected from `Exit_Trans`, read back; `none` when a conversion throws. -/
def readExitTrans (item : ExitColumn → String) : Option TExitTrans := do
  let iTransType ← stoi (item .transType)
  let iStatus ← stoi (item .status)
  let lParkedTime ← stoi (item .parkedTime)
  let sFee ← stof (item .parkingFee)
  let sPaidAmt ← stof (item .paidAmt)
  let sRedeemAmt ← stof (item .redeemAmt)
  let iRedeemTime ← stoi (item .redeemTime)
  let sGSTAmt ← stof (item .gstAmt)
  let iCardType ← stoi (item .cardType)
  let sTopupAmt ← stof (item .topUpAmt)
  let iEntryID ← stoi (item .entryId)
  let iEEPTransRoute ← stoi (item .eepTransRoute)
  let iEEPPaymentResult ← stoi (item .eepPaymentResult)
  return {
    xsid := item .stationId
    sExitTime := item .exitTime
    sIUNo := item .iuTkNo
    sCardNo := item .cardMcNo
    iTransType, iStatus, lParkedTime, sFee, sPaidAmt
    sReceiptNo := item .receiptNo
    sRedeemAmt, iRedeemTime
    sRedeemNo := item .redeemNo
    sGSTAmt
    sCHUDebitCode := item .chuDebitCode
    iCardType, sTopupAmt
    sLPN0 := item .lpn
    iEntryID
    sEntryTime := if iEntryID < 1 then "" else item .entryTime
    vcc := item .vcc
    sDSerialNo := item .eepDSerialNo
    iEEPTransRoute, iEEPPaymentResult
    sEEPpaymentTime := item .eepPaymentTime }

end LinuxPBS.Db

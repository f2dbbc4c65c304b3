import LinuxPBS.Operation.Save

/-!
# The fee of an exit

What `PBSExit`, `ReceivedEntryRecord` and `ticketScan` compute before money is
asked for: the entry record, the season, the fee of the tariff, the redemption a
ticket is worth and the amount shown to the user.

A fee is whatever `CalFeeRAM2G` answers, its negative error codes included.
-/

namespace LinuxPBS.Operation

open CxxText Common Db

/-! ## The entry record -/

/-- `FetchEntryinfo` takes an entry over, or nothing if a number of it cannot be read. -/
def takeEntryRow (row : EntryRow) (tExit : TExit) : Option TExit := do
  let transType ← stoi row.transType
  let oweAmt ← stof row.oweAmt
  let entryId ← stoi row.entryStation
  pure { tExit with
    sEntryTime := row.entryTime, iTransType := transType, sOweAmt := oweAmt, iEntryID := entryId }

/-- `FetchEntryinfo`; its return code is not used. -/
def fetchEntryinfo (answer : EntryAnswer) (tExit : TExit) : TExit :=
  match answer.central with
  | some (some row) => (takeEntryRow row tExit).getD tExit
  | _ =>
      match answer.localdb with
      | some (some row) => (takeEntryRow row tExit).getD tExit
      | _ => tExit

/-- The part of `PBSExit` under "Get Entry time". -/
def getEntryTime (sIU : String) : Op Unit := do
  if (← get).tExit.bNoEntryRecord = -1 then
    let answer ← ask fun env n => env.fetchEntryinfo n sIU
    modify fun s => { s with tExit := fetchEntryinfo answer s.tExit }
    if (← get).tExit.sEntryTime = "" then
      modify fun s => { s with tExit.bNoEntryRecord := 1, tExit.lParkedTime := -1 }
    else
      modify fun s => { s with tExit.bNoEntryRecord := 0 }

/-! ## The transaction type -/

/-- `GetVTypeFromLoop` -/
def getVTypeFromLoop : Op ℤ := do
  if (← ask Env.lorrySensor) then return 4
  if !(← ask Env.loopBStatus) then return 7
  if (← ask Env.loopAStatus) then return 1
  return 7

/-- `GetSeasonTransType`: three numbers for every partial season from 50 on. -/
def getSeasonTransType (vehicleType seasonType transType : ℤ) : ℤ :=
  if 3 ≤ seasonType ∧ seasonType ≤ 18 then
    if 0 ≤ vehicleType ∧ vehicleType ≤ 2 then 50 + 3 * (seasonType - 3) + vehicleType
    else if seasonType = 7 ∧ vehicleType = 14 then 62
    else transType + 1
  else if transType = 9 then 9
  else transType + 1

/-- `FormatSeasonMsg`, without its texts. -/
def formatSeasonMsg : Op Unit := do
  let seasonRateType ← orThrow (stoi (← get).tSeason.rate_type)
  if (← get).gtStation.iType = .tientry then
    modify fun s => { s with
      tEntry.iTransType :=
        getSeasonTransType s.tEntry.iVehicleType seasonRateType s.tEntry.iTransType }
  else
    modify fun s => { s with
      tExit.iTransType :=
        getSeasonTransType s.tExit.iVehicleType seasonRateType s.tExit.iTransType }
  modify fun s => { s with tProcess.giShowType := 0 }

/-- `CheckSeason` -/
def checkSeason (sIU : String) (iInOut : ℤ) : Op ℤ := do
  let answer ← ask fun env n => env.isvalidseason n sIU iInOut
  modify fun s => { s with tSeason := answer.2.getD s.tSeason }
  if answer.1 ≠ 8 then formatSeasonMsg
  pure answer.1

/-! ## Tickets -/

/-- `HasValidTicket`, with its return code. -/
def hasValidTicket (answer : TicketAnswer) (tExit : TExit) : TExit × ℤ :=
  match answer.complimentary with
  | none => (tExit, -1)
  | some (some complimentaryNo) =>
      ({ tExit with iTransType := 10, sPaidAmt := 0, sCardNo := complimentaryNo }, 0)
  | some none =>
      match answer.redemption with
      | some (some row) =>
          match stof row.redeem_amt, stoi row.redeem_time with
          | some redeemAmount, some redeemTime =>
              ({ tExit with
                sRedeemNo := row.redeem_no, sRedeemAmt := redeemAmount, iRedeemTime := redeemTime },
                0)
          | _, _ => (tExit, -1)
      | _ => (tExit, -1)

/-- `HasValidTicket` called by `CalFeeRAM`: a ticket that is found is noted. -/
def lookForTicket (iuNo lpn : String) (usedBy : ℤ) : Op Bool := do
  let answer ← ask fun env n => env.hasValidTicket n iuNo lpn
  let found := decide ((hasValidTicket answer (← get).tExit).2 = 0)
  modify fun s => { s with tExit := (hasValidTicket answer s.tExit).1 }
  if found then modify fun s => { s with tExit.iUsedTicketBy := usedBy }
  pure found

/-- `CalFeeRAM` -/
def calFeeRAM (eTime payTime : String) (iTransType : ℤ) : Op ℚ := do
  let parkingfee ← ask fun env n => env.calFeeRAM2G n eTime payTime iTransType
  let s ← get
  if parkingfee ≥ 1 / 100 ∧ s.tExit.sRedeemAmt = 0 ∧ s.tExit.iRedeemTime = 0 then
    if s.tExit.sIUNo.length = 10 then
      let found ← lookForTicket s.tExit.sIUNo "" 2
      let sLPN0 := (← get).tExit.sLPN0
      if found = false ∧ sLPN0 ≠ "" ∧ sLPN0 ≠ "0000000000" then
        let _ ← lookForTicket "" sLPN0 3
  pure parkingfee

/-- The last part of `RedeemTime2Amt`: the redeemed time and the rest share a block. -/
def sameBlock (redeemed sTmpTime : String) : Op Unit := do
  let s ← get
  if gfeeFormat (s.tExit.sFee - s.tExit.sRedeemAmt) = 0 then
    let sAddFee ← calFeeRAM redeemed sTmpTime s.tExit.iVehicleType
    if sAddFee > 0 then
      modify fun s => { s with
        tExit.sRedeemAmt := max 0 (gfeeFormat (s.tExit.sRedeemAmt - sAddFee)) }

/-- `RedeemTime2Amt` -/
def redeemTime2Amt : Op Unit := do
  let s ← get
  if s.tExit.sRedeemAmt > 0 then return
  if s.tExit.iRedeemTime > 0 then
    let sTmpTime ← if s.tExit.sExitTime = "" then ask Env.now else pure s.tExit.sExitTime
    if s.tExit.bNoEntryRecord ≠ 0 then
      let pt := s.env.unixTimestamp sTmpTime - s.tExit.iRedeemTime * 60
      let fee ← calFeeRAM (s.env.dateTimeString pt) sTmpTime s.tExit.iVehicleType
      modify fun s => { s with tExit.sRedeemAmt := fee }
    else
      if s.tExit.lParkedTime = 0 then
        modify fun s => { s with
          tExit.lParkedTime := parkedMinutes s.env s.tExit.sEntryTime sTmpTime }
      if s.tExit.iRedeemTime ≥ (← get).tExit.lParkedTime then
        modify fun s => { s with tExit.sRedeemAmt := s.tExit.sFee }
      else
        let pt := s.env.unixTimestamp s.tExit.sEntryTime + s.tExit.iRedeemTime * 60
        let redeemed := s.env.dateTimeString pt
        let fee ← calFeeRAM s.tExit.sEntryTime redeemed s.tExit.iVehicleType
        modify fun s => { s with tExit.sRedeemAmt := fee }
        sameBlock redeemed sTmpTime

/-! ## What the user is told -/

/-- The amount to be paid, which is not negative. -/
def sFee2Pay (tExit : TExit) : ℚ :=
  max 0 (gfeeFormat (tExit.sFee - tExit.sRedeemAmt - tExit.sRebateAmt + tExit.sOweAmt))

/-- `showFee2User`; it also sets `sPaidAmt`. -/
def showFee2User : Op Unit := do
  let s ← get
  let exit_entry_time :=
    if s.tExit.sEntryTime = "" then "00:00" else s.env.formatDateTime s.tExit.sEntryTime
  sendMsg2Server "90" (s.tExit.sIUNo ++ ", E=" ++ exit_entry_time ++ "~T=" ++
    s.env.calParkedTime s.tExit.lParkedTime ++ "," ++ setFeeFormat (sFee2Pay s.tExit) ++ ",," ++
    toString s.tProcess.giShowType ++ ",Fee OK")
  if s.tParas.giEPS = 3 then sendMsg2OBU s.tExit.sIUNo
  modify fun s => { s with tExit.sPaidAmt := gfeeFormat (sFee2Pay s.tExit) }

/-- `ticketOK` -/
def ticketOK : Op Unit := do
  modify fun s => { s with tExit.sPaidAmt := 0 }
  let s ← get
  if s.tExit.sRedeemAmt = 0 ∧ s.tExit.sRedeemNo ≠ "" then
    modify fun s => { s with tExit.iTransType := 10, tExit.sCardNo := s.tExit.sRedeemNo }
  closeExitOperation .FreeParking

end LinuxPBS.Operation

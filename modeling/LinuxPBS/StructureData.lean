import Mathlib.Data.Rat.Floor
import Mathlib.Algebra.Order.Floor.Ring

/-!
# The shared records

The parts of `structuredata.h` that the modelled functions read or write.  Field
names are the source's.  Every field has the value the empty initialiser `{}`
gives it, so a record literal names only what differs.

Amounts are exact rationals; where the source rounds a `float` to cents it calls
`GfeeFormat`, and so does the model.
-/

namespace LinuxPBS

/-- `std::round`: to the nearest integer, halves away from zero. -/
def roundHalfAway (value : ℚ) : ℤ := if value < 0 then -⌊-value + 1 / 2⌋ else ⌊value + 1 / 2⌋

/-- `operation::GfeeFormat` -/
def gfeeFormat (value : ℚ) : ℚ := roundHalfAway (value * 100) / 100

theorem roundHalfAway_intCast (n : ℤ) : roundHalfAway n = n := by
  have hhalf : (1 : ℚ) / 2 < 1 := by norm_num
  unfold roundHalfAway
  split
  · rw [show (-(n : ℚ) + 1 / 2) = ((-n : ℤ) : ℚ) + 1 / 2 by push_cast; ring, Int.floor_intCast_add]
    norm_num
  · rw [Int.floor_intCast_add]
    norm_num

theorem roundHalfAway_mono {first second : ℚ} (hle : first ≤ second) :
    roundHalfAway first ≤ roundHalfAway second := by
  unfold roundHalfAway
  split_ifs with hfirst hsecond hsecond
  · exact neg_le_neg (Int.floor_le_floor (by linarith))
  · have hlow : 0 ≤ ⌊-first + 1 / 2⌋ := Int.floor_nonneg.mpr (by linarith)
    have hhigh : 0 ≤ ⌊second + 1 / 2⌋ := Int.floor_nonneg.mpr (by linarith)
    omega
  · linarith
  · exact Int.floor_le_floor (by linarith)

@[simp] theorem gfeeFormat_gfeeFormat (value : ℚ) :
    gfeeFormat (gfeeFormat value) = gfeeFormat value := by
  unfold gfeeFormat
  rw [div_mul_cancel₀ _ (by norm_num : (100 : ℚ) ≠ 0), roundHalfAway_intCast]

theorem gfeeFormat_mono {first second : ℚ} (hle : first ≤ second) :
    gfeeFormat first ≤ gfeeFormat second := by
  have hround := roundHalfAway_mono (show first * 100 ≤ second * 100 by linarith)
  unfold gfeeFormat
  gcongr

@[simp] theorem gfeeFormat_zero : gfeeFormat 0 = 0 := by
  have hround := roundHalfAway_intCast 0
  rw [gfeeFormat, zero_mul, ← Int.cast_zero, hround]
  norm_num

/-- What is rounded to a positive amount is positive. -/
theorem pos_of_gfeeFormat_pos {value : ℚ} (hpos : 0 < gfeeFormat value) : 0 < value := by
  by_contra hle
  have hmono := gfeeFormat_mono (not_lt.mp hle)
  rw [gfeeFormat_zero] at hmono
  exact absurd hpos (not_lt.mpr hmono)

/-- `eProcessStatus` -/
inductive EProcessStatus
  | init
  | WaitingCard
  | Doingdeduction
  | DeductionSuccessed
  | Deductionfailed
  | CardExpired
  | CardFault
  | InsufficientBalance
  deriving DecidableEq, Repr

/-- `eCHUCmd` -/
inductive ECHUCmd
  | iInit
  | iEntryInq
  | iRes_EntryInq
  | iDebit
  | iRes_Debit
  | iRes_Comm
  deriving DecidableEq, Repr

/-- `EEPClient::CommandType` -/
inductive CommandType
  | UNKNOWN_REQ_CMD
  | ACK
  | NAK
  | HEALTH_STATUS_REQ_CMD
  | WATCHDOG_REQ_CMD
  | START_REQ_CMD
  | STOP_REQ_CMD
  | DI_REQ_CMD
  | DO_REQ_CMD
  | SET_DI_PORT_CONFIG_CMD
  | GET_OBU_INFO_REQ_CMD
  | GET_OBU_INFO_STOP_REQ_CMD
  | DEDUCT_REQ_CMD
  | DEDUCT_STOP_REQ_CMD
  | TRANSACTION_REQ_CMD
  | CPO_INFO_DISPLAY_REQ_CMD
  | CARPARK_PROCESS_COMPLETE_NOTIFICATION_REQ_CMD
  | DSRC_PROCESS_COMPLETE_NOTIFICATION_REQ_CMD
  | STOP_REQ_OF_RELATED_INFO_DISTRIBUTION_CMD
  | DSRC_STATUS_REQ_CMD
  | TIME_CALIBRATION_REQ_CMD
  | SET_CARPARK_AVAIL_REQ_CMD
  | CD_DOWNLOAD_REQ_CMD
  | EEP_RESTART_INQUIRY_REQ_CMD
  | EEP_idle
  deriving DecidableEq, Repr

/-- `eFullAction` -/
inductive EFullAction
  | iNoAct
  | iallowseason
  | iNoPartial
  | iLock
  deriving DecidableEq, Repr

/-- `tEntryTrans_Struct`: the fields of a stored entry. -/
structure TEntryTrans where
  esid : String := ""
  sSerialNo : String := ""
  sIUTKNo : String := ""
  sEntryTime : String := ""
  iTransType : ℤ := 0
  iStatus : ℤ := 0
  sCardNo : String := ""
  sFee : ℚ := 0
  sPaidAmt : ℚ := 0
  sGSTAmt : ℚ := 0
  iCardType : ℤ := 0
  /-- `sLPN[0]` -/
  sLPN0 : String := ""
  /-- `sLPN[1]` -/
  sLPN1 : String := ""
  vcc : String := ""
  deriving DecidableEq

/-- `tExitTrans_Struct`: the fields of a stored exit. -/
structure TExitTrans where
  xsid : String := ""
  sIUNo : String := ""
  sCardNo : String := ""
  iTransType : ℤ := 0
  iCardType : ℤ := 0
  iEntryID : ℤ := 0
  sEntryTime : String := ""
  sExitTime : String := ""
  lParkedTime : ℤ := 0
  sFee : ℚ := 0
  sPaidAmt : ℚ := 0
  sGSTAmt : ℚ := 0
  sReceiptNo : String := ""
  iStatus : ℤ := 0
  sRedeemAmt : ℚ := 0
  iRedeemTime : ℤ := 0
  sRedeemNo : String := ""
  sCHUDebitCode : String := ""
  sTopupAmt : ℚ := 0
  uposbatchno : String := ""
  feefrom : String := ""
  lpn : String := ""
  /-- `sLPN[0]` -/
  sLPN0 : String := ""
  sDSerialNo : String := ""
  iEEPTransRoute : ℤ := 0
  iEEPPaymentResult : ℤ := 0
  sEEPpaymentTime : String := ""
  vcc : String := ""
  deriving DecidableEq

/-- `tEntryTrans_Struct` with the fields that no statement stores. -/
structure TEntry extends TEntryTrans where
  iVehicleType : ℤ := 0
  gbEntryOK : Bool := false
  deriving DecidableEq

/-- `tExitTrans_Struct` with the fields that no statement stores. -/
structure TExit extends TExitTrans where
  iVehicleType : ℤ := 0
  sOweAmt : ℚ := 0
  iflag4Receipt : ℤ := 0
  sRebateAmt : ℚ := 0
  /-- `1`: no entry record, `0`: one was found, `-1`: not asked yet -/
  bNoEntryRecord : ℤ := 0
  /-- `sLPN[1]` -/
  sLPN1 : String := ""
  /-- `1`: no card, `0`: valid card, other: invalid card -/
  iCardStatus : ℤ := 0
  iBackendAccount : ℤ := 0
  iBackendSetting : ℤ := 0
  iBFunctionStatus : ℤ := 0
  iOBUType : ℤ := 0
  giDeductionStatus : EProcessStatus := .init
  gbPaid : Bool := false
  bPayByEZPay : Bool := false
  bPayByAXS : Bool := false
  /-- `0`: not used, `1`: scanned ticket, `2`: by IU, `3`: by LPN -/
  iUsedTicketBy : ℤ := 0
  deriving DecidableEq

/-- `tParas_Struct` -/
structure TParas where
  gsLocalIP : String := ""
  giEPS : ℤ := 0
  giCommPortAntenna : ℤ := 0
  gscarparkcode : String := ""
  giFullAction : EFullAction := .iNoAct
  giHasHolidayEve : ℤ := 0
  giTariffFeeMode : ℤ := 0
  giFirstHourMode : ℤ := 0
  giFirstHour : ℤ := 0
  giPEAllowance : ℤ := 0
  giHr2PEAllowance : ℤ := 0
  giMCyclePerDay : ℤ := 0
  giProcessReversedCMD : ℤ := 0
  giMaxTransInterval : ℤ := 0
  giSeasonCharge : ℤ := 0
  gfGSTRate : ℚ := 0
  giNeedCard4Complimentary : ℤ := 0
  giExitTicketRedemption : ℤ := 0
  giDataKeepDays : ℤ := 0
  deriving DecidableEq

/-- `tStationType` -/
inductive TStationType
  | tientry
  | tiExit
  | tiAPS
  deriving DecidableEq, Repr

/-- `tstation_struct` -/
structure TStation where
  iSID : ℤ := 0
  sName : String := ""
  iType : TStationType := .tientry
  iAntID : ℤ := 0
  deriving DecidableEq

/-- `tseason_struct` -/
structure TSeason where
  date_from : String := ""
  date_to : String := ""
  rate_type : String := ""
  deriving DecidableEq

/-- `tProcess_Struct`.  A point in time of the steady clock is its number of nanoseconds. -/
structure TProcess where
  gbsavedtrans : Bool := false
  gbcarparkfull : Bool := false
  sEnableReader : Bool := false
  gsLastPaidTrans : String := ""
  gsLastCardNo : String := ""
  gfLastCardBal : ℚ := 0
  gbLastPaidStatus : Bool := false
  giShowType : ℤ := 0
  gsDefaultIU : String := ""
  gsTransID : String := ""
  giCardIsIn : ℤ := 0
  giBarrierContinueOpened : ℤ := 0
  fiLastEEPCmd : CommandType := .UNKNOWN_REQ_CMD
  gsTailgateOBU : String := ""
  lastTransTime : ℤ := 0
  fiLastCHUCmd : ECHUCmd := .iInit
  gsLastIUNo : String := ""
  lastIUEntryTime : ℤ := 0
  gbBarrierOpened : Bool := false
  giSystemOnline : ℤ := 0
  glNoofOfflineData : ℤ := 0
  offlineStatus : ℤ := 0
  giLastHousekeepingDate : ℤ := 0
  deriving DecidableEq

/-- `OperationSharedData`: the copy of its state the operation module hands out. -/
structure OperationSharedData where
  stationType : TStationType := .tientry
  tParas : TParas := {}
  tProcess : TProcess := {}
  tEntry : TEntryTrans := {}
  deriving DecidableEq

end LinuxPBS

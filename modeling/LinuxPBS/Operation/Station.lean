import LinuxPBS.Common
import LinuxPBS.Db.InsertTrans
import LinuxPBS.Library.Handler

/-!
# The state of a station

The operation module runs on one thread, `OP_IO`: it takes one event after the
other, and the handler of an event works on the records `tProcess`, `tEntry`,
`tExit`, … until it returns or throws.

What a handler is told by other threads, by the clocks and by the databases comes
from an `Env`, which has an answer for every question that will ever be asked; the
questions are numbered.  `tProcess.gbLoopApresent` is among them, since the DIO
thread sets it at any time.

What a handler does outside of its records is kept in two lists, the newest entry
first: `calls` has what the properties speak about, `sent` the messages to the
server and the commands to the devices.  Texts for the displays and the log are
left out.
-/

namespace LinuxPBS.Operation

open Db

/-- `TransType` -/
inductive TransType
  | FreeParking
  | SeasonParking
  | GracePeriod
  | DeductionOK
  | Complimentary
  | AXSParking
  | EZPayParking
  | DeductionFail
  | Manualopen
  | BalanceChange
  | RejectCode7
  | UpdateCHUTrans
  deriving DecidableEq, Repr

/-- `DeviceType` -/
inductive DeviceType
  | PMSEntrytime
  | Ant
  | CHU
  | EEP
  | LCSC
  | UPOS
  deriving DecidableEq, Repr

/-! ## Events -/

/-- `EEPClient::transactionData`; the byte vectors as the hexadecimal texts they are printed as. -/
structure TransactionData where
  deductCommandSerialNum : ℕ := 0
  resultDeduction : ℕ := 0
  obuLabel : ℕ := 0
  transactionRoute : ℕ := 0
  frontendPaymentViolation : ℕ := 0
  backendPaymentViolation : ℕ := 0
  paymentFee : ℕ := 0
  fepTime : ℕ := 0
  indicationLastAutoLoad : ℕ := 0
  can : String := "0000000000000000"
  autoLoadAmount : ℕ := 0
  bepTimeOfReport : String := ""
  purseBalanceAfterTransaction : ℕ := 0
  deriving DecidableEq

/-- `EEPClient::obuInformationNotification` -/
structure ObuInformation where
  obulabel : ℕ := 0
  typeObu : ℕ := 0
  vcc : String := ""
  vechicleNumber : String := ""
  cardValidity : ℕ := 0
  can : String := "0000000000000000"
  cardBalance : ℕ := 0
  backendAccount : ℕ := 0
  backendSetting : ℕ := 0
  businessFunctionStatus : ℕ := 0
  deriving DecidableEq

/-- `EEPClient::MSG_STATUS` -/
inductive EepStatus
  | SUCCESS
  | SEND_FAILED
  | ACK_TIMEOUT
  | RSP_TIMEOUT
  | PARSE_FAILED
  deriving DecidableEq, Repr

/-- The message code of an EEP event with its payload. -/
inductive EepMessage
  | ACK (deductSerialNo : ℕ)
  | NAK
  | TRANSACTION_DATA (data : TransactionData)
  | OBU_INFORMATION_NOTIFICATION (info : ObuInformation)
  | CPO_INFORMATION_DISPLAY_RESULT
  | CARPARK_PROCESS_COMPLETE_RESULT
  | other
  deriving DecidableEq

/-- `EEPClient::EEPEventWrapper` -/
structure EepEvent where
  commandReqType : CommandType := .UNKNOWN_REQ_CMD
  messageStatus : EepStatus := .SUCCESS
  message : EepMessage
  deriving DecidableEq

/-- The commands of `Upt::UPT_CMD` whose answers change the state. -/
inductive UptCmd
  | CARD_DETECT_REQUEST
  | PAYMENT_MODE_AUTO_REQUEST
  | other
  deriving DecidableEq, Repr

/-- The `DIO::DIO_EVENT`s with an action. -/
inductive DioEvent
  | LOOP_A_ON_EVENT
  | LOOP_A_OFF_EVENT
  | LOOP_C_OFF_EVENT
  | BARRIER_STATUS_ON_EVENT
  | PRINT_RECEIPT_ON_EVENT
  | other
  deriving DecidableEq, Repr

/-- The commands of `UdpRxCommand` that change the state. -/
inductive UdpRxCommand
  | UpdateParam
  | CarparkFull
  | OpenBarrier
  | ContinueOpenBarrier
  | TimeForNoEntry
  | CloseBarrier
  | UpdateSetting
  | other
  deriving DecidableEq, Repr

/-- What `OP_IO` is given to handle: the `OperationEvent`s, a packet of the PMS with its
command and its field 3, and an overdue loop A timer. -/
inductive Event
  | antennaFail (errorCode : ℤ)
  | antennaIUCome (iuNo : String)
  | lcsc (eventData : String)
  | upt (cmd : UptCmd) (eventData : String)
  | dio (event : DioEvent)
  | ksmCardIn
  | ksmCardTakeAway
  | ksmCardInfo (cardNo : String)
  | lprReceive (LPN sTransid : String)
  | barcodeReceived (sBarcodedata : String)
  | eep (event : EepEvent)
  | chu (eventData : String)
  | pms (command : UdpRxCommand) (data : String)
  | loopATimeout
  deriving DecidableEq

/-! ## Answers -/

/-- A row with an open entry, as text. -/
structure EntryRow where
  entryTime : String
  transType : String
  oweAmt : String
  entryStation : String
  deriving DecidableEq

/-- What the two queries of `FetchEntryinfo` find: nothing when one fails. -/
structure EntryAnswer where
  central : Option (Option EntryRow) := none
  localdb : Option (Option EntryRow) := none

/-- A row of the table `redemption`, as text. -/
structure RedemptionRow where
  redeem_no : String
  redeem_amt : String
  redeem_time : String
  deriving DecidableEq

/-- What the two queries of `HasValidTicket` find. -/
structure TicketAnswer where
  complimentary : Option (Option String) := none
  redemption : Option (Option RedemptionRow) := none

/-- What `isValidBarCodeTicket` returns, and the two amounts it sets for a valid ticket. -/
structure BarCodeAnswer where
  iRet : ℤ := -1
  redeemAmount : ℚ := 0
  redeemTime : ℤ := 0

/-- The surroundings of a station: the answer to every numbered question, the settings of
the INI file and the conversions of points in time. -/
structure Env where
  gbLoopApresent : ℕ → Bool := fun _ => true
  loopAStatus : ℕ → Bool := fun _ => true
  loopBStatus : ℕ → Bool := fun _ => true
  lorrySensor : ℕ → Bool := fun _ => false
  now : ℕ → String := fun _ => ""
  /-- the time as fourteen digits -/
  nowDigits : ℕ → String := fun _ => ""
  steadyClock : ℕ → ℤ := fun _ => 0
  /-- a ticket or a card arrives while an inquiry is delayed -/
  cardIn : ℕ → Bool := fun _ => false
  printerErrNo : ℕ → ℤ := fun _ => 0
  centraldb : ℕ → ConnectionAnswers := fun _ => ⟨true, true, .done⟩
  localdb : ℕ → ConnectionAnswers := fun _ => ⟨true, true, .done⟩
  isBlackListIU : ℕ → String → ℤ := fun _ _ => -1
  fetchEntryinfo : ℕ → String → EntryAnswer := fun _ _ => {}
  getVehicleType : ℕ → String → ℤ := fun _ _ => 1
  /-- the return code, and the season that was loaded -/
  isvalidseason : ℕ → String → ℤ → ℤ × Option TSeason := fun _ _ _ => (8, none)
  /-- `iAutoDebit` and `sAmt` after the call, set or not -/
  getXTariff : ℕ → ℤ × ℚ := fun _ => (0, 0)
  calFeeRAM2G : ℕ → String → String → ℤ → ℚ := fun _ _ _ _ => 0
  hasValidTicket : ℕ → String → String → TicketAnswer := fun _ _ _ => {}
  hasEZpay : ℕ → String → ℤ := fun _ _ => 0
  hasAXS : ℕ → String → ℤ := fun _ _ => 0
  checkCardOK : ℕ → String → ℤ := fun _ _ => 0
  isValidBarCodeTicket : ℕ → Bool → String → BarCodeAnswer := fun _ _ _ => {}
  getIUByLPN : ℕ → String → String := fun _ _ => ""
  updatemovementtrans : ℕ → DBError := fun _ => .iCentralSuccess
  insert2movementtrans : ℕ → DBError := fun _ => .iCentralSuccess
  updateUsedTicket : ℕ → DBError := fun _ => .iCentralSuccess
  loadParam : ℕ → TParas := fun _ => {}
  /-- a station never changes its type -/
  loadstationsetup : ℕ → TStation := fun _ => {}
  blockIUPrefix : String := ""
  notAllowHourly : String := "0"
  unixTimestamp : String → ℤ := fun _ => 0
  dateTimeString : ℤ → String := fun _ => ""
  /-- the texts of a parked time and of an entry time in a fee message -/
  calParkedTime : ℤ → String := fun _ => ""
  formatDateTime : String → String := fun _ => "00:00"

/-! ## Effects -/

/-- The calls the properties speak about. -/
inductive Call
  | handleEvent (event : Event)
  | clearme
  | insertentrytrans (tEntry : TEntryTrans) (ret : DBError)
  | insertexittrans (tExit : TExitTrans) (ret : DBError)
  /-- `insertexittrans(tExit1)` -/
  | updateExit (tExit1 : TExitTrans) (ret : DBError)
  | debitOK (iDevicetype : DeviceType) (sPaidAmt : String)
  /-- `CloseExitOperation` of the exit `tExit`, at a GST rate -/
  | closeExitOperation (iStatus : TransType) (tExit : TExit) (gfGSTRate : ℚ)
  /-- "balance change case." -/
  | balanceChange (sCardNo : String) (sCardBal : ℚ)
  /-- a request for a deduction is handed to its device; `sCardNo` is `tExit.sCardNo` -/
  | deduct (device : DeviceType) (sCardNo request : String)
  | openBarrier (iReason : ℤ)
  deriving DecidableEq

/-- Messages to the server and commands to the devices. -/
inductive Message
  | server (cmdcode dstr : String)
  | chu (sMsg : String)
  | obuInfoReq
  | obuInfoStopReq
  | transactionReq (obu sDSerialNo : String)
  | stopReqOfRelatedInfoDistribution (obu : String)
  | cpoInfoDisplayReq (obu : String)
  | carparkProcessComplete (obu processingResult fee : String)
  | dsrcProcessComplete (obu : String)
  | uptCancelCommand
  | lcscLogin
  | lcscCardRecord
  | lcscCardFlush (seed : ℕ)
  | enableLCSC (bEnable : Bool)
  | enableKDE (bEnable : Bool)
  | enableUPOS (bEnable : Bool)
  | barcodeRead (start : Bool)
  | antennaReadIU
  | antennaStopRead
  | ksmReadCardInfo
  | ksmEjectToFront
  | transIDToLPR (transID : String)
  | updateEntryTrans (LPN transID : String)
  | updateExitTrans (LPN transID : String)
  | updateEEPExitTrans (data : TransactionData)
  | updateLocalEntry (iuNo : String)
  | addRemoteControl (action description : String)
  | printTR
  | closeBarrier
  | continueOpenBarrier
  deriving DecidableEq

/-- The state of the operation module, with its surroundings and what it has done. -/
structure Station where
  env : Env := {}
  asked : ℕ := 0
  gtStation : TStation := {}
  tParas : TParas := {}
  tSeason : TSeason := {}
  tProcess : TProcess := {}
  tEntry : TEntry := {}
  tExit : TExit := {}
  tExit1 : TExit := {}
  /-- `tPBSError[iDB].ErrNo` -/
  dbErrNo : ℤ := 0
  db : Db.State := Db.emptyState {}
  calls : List Call := []
  sent : List Message := []

/-- How a handler can be left before its end. -/
inductive Stop
  /-- an exception -/
  | threw
  /-- an index outside of a vector -/
  | undefined
  /-- a recursion that exhausts the stack -/
  | overflow
  deriving DecidableEq, Repr

/-- A procedure of the operation module. -/
abbrev Op := Handler Stop Station

/-! ## Asking and acting -/

/-- The answer to the next question. -/
def ask {α : Type} (question : Env → ℕ → α) : Op α := do
  let s ← get
  modify fun s => { s with asked := s.asked + 1 }
  pure (question s.env s.asked)

def call (c : Call) : Op Unit := modify fun s => { s with calls := c :: s.calls }

def send (message : Message) : Op Unit := modify fun s => { s with sent := message :: s.sent }

/-- The value of a function that may throw. -/
def orThrow {α : Type} (value : Option α) : Op α :=
  if h : value.isSome then pure (value.get h) else throw .threw

/-- An element of a vector; nothing checks the index. -/
def index (tokens : List String) (i : ℕ) : Op String :=
  if h : i < tokens.length then pure tokens[i] else throw .undefined

/-- `catch (const std::exception&)`: only exceptions are caught. -/
def catchException (m : Op Unit) : Op Unit :=
  tryCatch m fun stop => if stop = .threw then pure () else throw stop

/-- `SendMsg2Server` -/
def sendMsg2Server (cmdcode dstr : String) : Op Unit := send (.server cmdcode dstr)

section Equations

variable {α β : Type} (s : Station)

theorem ask_bind (question : Env → ℕ → α) (k : α → Op β) :
    (ask question >>= k) s = k (question s.env s.asked) { s with asked := s.asked + 1 } := rfl

@[simp] theorem after_ask_bind (question : Env → ℕ → α) (k : α → Op β) :
    Handler.after (ask question >>= k) s =
      Handler.after (k (question s.env s.asked)) { s with asked := s.asked + 1 } := rfl

@[simp] theorem after_call (c : Call) :
    Handler.after (call c) s = { s with calls := c :: s.calls } := rfl

@[simp] theorem after_call_bind (c : Call) (k : Unit → Op β) :
    Handler.after (call c >>= k) s =
      Handler.after (k ()) { s with calls := c :: s.calls } := rfl

@[simp] theorem after_send (message : Message) :
    Handler.after (send message) s = { s with sent := message :: s.sent } := rfl

@[simp] theorem after_send_bind (message : Message) (k : Unit → Op β) :
    Handler.after (send message >>= k) s =
      Handler.after (k ()) { s with sent := message :: s.sent } := rfl

@[simp] theorem orThrow_some (value : α) : orThrow (some value) = pure value := rfl

@[simp] theorem orThrow_none : orThrow (none : Option α) = throw .threw := rfl

theorem after_catchException (m : Op Unit) :
    Handler.after (catchException m) s = Handler.after m s := by
  simp only [catchException, Handler.after, MonadExcept.tryCatch, tryCatchThe,
    MonadExceptOf.tryCatch, EStateM.tryCatch]
  cases m s with
  | ok a s' => rfl
  | error stop s' =>
      dsimp only
      split_ifs <;> rfl

theorem index_of_lt {tokens : List String} {i : ℕ} (hi : i < tokens.length) :
    index tokens i = pure (tokens.getD i "") := by
  rw [index, dif_pos hi]
  simp [hi]

theorem index_of_le {tokens : List String} {i : ℕ} (hi : tokens.length ≤ i) :
    index tokens i = throw .undefined := by
  rw [index, dif_neg (by omega)]

end Equations

/-- `long` of a number: the fraction is cut off. -/
def toLong (value : ℚ) : ℤ := value.num.tdiv value.den

end LinuxPBS.Operation

import LinuxPBS.Ksm.Frame
import LinuxPBS.Library.CxxText
import LinuxPBS.Library.Digits

/-!
# The KSM reader

One coroutine, `commandLoop`, takes the commands from the front of the queue.
It writes a command, waits for its `ACK`, writes `ENQ` and reads a frame, and
`handleCommandResponse` does what the two code bytes of the frame say: it
raises events, keeps what a card answered and enqueues the next command of the
chain.  Only for the code `37 31`, which four commands share, does it look at the
command that is being executed.

`step` is one resumption of the coroutine or one call from outside.  What the
serial port delivers is given with the resumption, so the bytes that stand in its
buffer while nothing reads are those that the next read is resumed with.  The
port is open until a stop is requested.
-/

namespace LinuxPBS.Ksm

open CxxText

/-! ## State -/

/-- The events `Evt_handleKSMReader…`. -/
inductive Evt
  | readerInit
  | cardProhibited
  | cardAllowed
  | cardIn
  | cardTakeAway
  | cardOnIc
  | icPowerOn
  | warmReset
  | selectFile1
  | selectFile2
  | readCardInfo
  | readCardBalance
  | cardInfo
  | icPowerOff
  | ejectToFront
  | cardOut
  | getStatus
  deriving DecidableEq, Repr

/-- `CardData` -/
structure CardData where
  cardNum : String := ""
  expiryYearMonth : ℤ := 0
  expired : Bool := false
  balance : ℤ := 0
  deriving DecidableEq, Repr

/-- `KSM_Reader`, with the events it has raised so far. -/
structure Reader where
  stopRequested : Bool := false
  cardPresented : Bool := false
  continueReadCard : Bool := false
  commandQueue : List CmdId := []
  cardData : CardData := {}
  events : List (Evt × Bool) := []
  deriving DecidableEq, Repr

/-- `FnEnqueueEvent` -/
def Reader.raise (r : Reader) (evt : Evt) (value : Bool) : Reader :=
  { r with events := r.events ++ [(evt, value)] }

/-- `KSM_Reader::enqueueCommandOnIoThread` -/
def Reader.enqueueCommandOnIoThread (r : Reader) (cmd : CmdId) : Reader :=
  if r.stopRequested then r
  else if cmd = .getStatusCmd ∧ cmd ∈ r.commandQueue then r
  else { r with commandQueue := r.commandQueue ++ [cmd] }

/-- `KSM_Reader::removeQueuedGetStatusCommands` -/
def Reader.removeQueuedGetStatusCommands (r : Reader) : Reader :=
  { r with commandQueue := r.commandQueue.filter (· ≠ .getStatusCmd) }

/-- `KSM_Reader::updateCardInfo` -/
def Reader.updateCardInfo (r : Reader) (cardNum : String) (expiryYearMonth : ℤ) (expired : Bool) :
    Reader :=
  { r with cardData := { r.cardData with cardNum, expiryYearMonth, expired } }

/-- `KSM_Reader::updateCardBalance` -/
def Reader.updateCardBalance (r : Reader) (balance : ℤ) : Reader :=
  { r with cardData := { r.cardData with balance } }

/-! ## Card data -/

/-- `FnGetVectorCharToHexString`; `char` is unsigned. -/
def getVectorCharToHexString (data : List UInt8) : List Char := Digits.hexText data

/-- `std::atoi` and `std::atol` of a short text -/
def atoi (text : List Char) : ℤ := (readInteger text).getD 0

/-- `FnGetDateTimeFormat_yyyymm` of a year with four digits -/
def dateTimeFormat_yyyymm (year month : ℕ) : String :=
  String.ofList (Nat.toDigits 10 year ++
    (List.replicate (2 - (Nat.toDigits 10 month).length) '0' ++ Nat.toDigits 10 month))

/-- The `expiryYearMonth` of a date text. -/
def expiryYearMonthOf (expireDateStr : List Char) : ℤ :=
  let year2 := atoi (expireDateStr.take 2)
  let month := atoi ((expireDateStr.drop 2).take 2)
  let expiryMonths := atoi ((expireDateStr.drop 4).take 2)
  let fullYear := if year2 > 90 then 1900 + year2 else 2000 + year2
  let expiryMonths := expiryMonths + month
  let expiryYear := fullYear + expiryMonths.tdiv 12
  let expiryMonth := expiryMonths.tmod 12
  expiryYear * 100 + expiryMonth

/-- The branch of a `READ_CARD_INFO` response. -/
def Reader.readCardInfo (r : Reader) (yyyymm : String) (recvCmd : List UInt8) : RetCode × Reader :=
  if recvCmd.length < 22 then (.recvCmdNotFound, r)
  else
    let cardNum := getVectorCharToHexString ((recvCmd.drop 8).take 8)
    let expireDateStr := getVectorCharToHexString ((recvCmd.drop 19).take 3)
    if expireDateStr.length < 6 then (.recvCmdNotFound, r)
    else
      let expiryYearMonth := expiryYearMonthOf expireDateStr
      let expired := decide (toString expiryYearMonth ≤ yyyymm)
      let r := r.updateCardInfo (String.ofList cardNum) expiryYearMonth expired
      (.recvAck, (r.raise .readCardInfo true).enqueueCommandOnIoThread .readCardBalanceCmd)

/-- The branch of a `READ_CARD_BALANCE` response. -/
def Reader.readCardBalance (r : Reader) (recvCmd : List UInt8) : RetCode × Reader :=
  if recvCmd.length < 11 then (.recvCmdNotFound, r)
  else
    let balance := atoi (getVectorCharToHexString ((recvCmd.drop 8).take 3))
    let balance := if balance < 0 then 65536 + balance else balance
    let r := ((r.updateCardBalance balance).raise .readCardBalance true).raise .cardInfo true
    (.recvAck, r.enqueueCommandOnIoThread .icPowerOffCmd)

/-! ## Responses -/

/-- The branch of a `GET_STATUS` response. -/
def Reader.getStatus (r : Reader) (recvCmd : List UInt8) : RetCode × Reader :=
  if recvCmd.length < 5 then (.recvCmdNotFound, r)
  else
    let status := recvCmd.getD 4 0
    if status = 0x4A ∨ status = 0x4B then
      if !r.cardPresented then
        let r := { r with cardPresented := true, continueReadCard := false }
        (.recvAck, r.removeQueuedGetStatusCommands.raise .cardIn true)
      else (.recvAck, r)
    else if status = 0x4E then
      if r.cardPresented then
        (.recvAck, { r with cardPresented := false }.raise .cardTakeAway true)
      else if r.continueReadCard then (.recvAck, r.enqueueCommandOnIoThread .getStatusCmd)
      else (.recvAck, r)
    else if r.continueReadCard then (.recvAck, r.enqueueCommandOnIoThread .getStatusCmd)
    else (.recvAck, r)

/-- The branch of the code `37 31`. -/
def Reader.cardCommand (r : Reader) (cmd : CmdId) (yyyymm : String) (recvCmd : List UInt8) :
    RetCode × Reader :=
  if recvCmd.length < 5 then (.recvCmdNotFound, r)
  else if recvCmd.getD 4 0 = 0x4E then (.recvNoResp, r)
  else
    match cmd with
    | .selectFile1Cmd =>
        (.recvAck, (r.raise .selectFile1 true).enqueueCommandOnIoThread .selectFile2Cmd)
    | .selectFile2Cmd =>
        (.recvAck, (r.raise .selectFile2 true).enqueueCommandOnIoThread .readCardInfoCmd)
    | .readCardInfoCmd => r.readCardInfo yyyymm recvCmd
    | .readCardBalanceCmd => r.readCardBalance recvCmd
    | _ => (.recvCmdNotFound, r)

/-- What `handleCommandResponse` does with the payload of a frame. -/
def Reader.respond (r : Reader) (cmd : CmdId) (yyyymm : String) (recvCmd : List UInt8) :
    RetCode × Reader :=
  let cmdCodeMSB := recvCmd.getD 2 0
  let cmdCodeLSB := recvCmd.getD 3 0
  if cmdCodeMSB = 0x2F then
    if cmdCodeLSB = 0x31 then (.recvAck, r.raise .cardProhibited true)
    else if cmdCodeLSB = 0x33 then (.recvAck, r.raise .cardAllowed true)
    else (.recvCmdNotFound, r)
  else if cmdCodeMSB = 0x30 then
    if cmdCodeLSB = 0x31 then (.recvAck, r.raise .readerInit true) else (.recvNak, r)
  else if cmdCodeMSB = 0x31 ∧ cmdCodeLSB = 0x30 then r.getStatus recvCmd
  else if cmdCodeMSB = 0x32 then
    if cmdCodeLSB = 0x2F then
      (.recvAck, (r.raise .cardOnIc true).enqueueCommandOnIoThread .icPowerOnCmd)
    else if cmdCodeLSB = 0x31 then (.recvAck, (r.raise .ejectToFront true).raise .cardOut true)
    else (.recvCmdNotFound, r)
  else if cmdCodeMSB = 0x33 then
    if cmdCodeLSB = 0x30 then
      (.recvAck, (r.raise .icPowerOn true).enqueueCommandOnIoThread .warmResetCmd)
    else if cmdCodeLSB = 0x31 then
      (.recvAck, (r.raise .icPowerOff true).enqueueCommandOnIoThread .ejectToFrontCmd)
    else (.recvCmdNotFound, r)
  else if cmdCodeMSB = 0x37 then
    if cmdCodeLSB = 0x2F then
      (.recvAck, (r.raise .warmReset true).enqueueCommandOnIoThread .selectFile1Cmd)
    else if cmdCodeLSB = 0x31 then r.cardCommand cmd yyyymm recvCmd
    else (.recvCmdNotFound, r)
  else (.recvCmdNotFound, r)

/-- `KSM_Reader::handleCommandResponse` -/
def Reader.handleCommandResponse (r : Reader) (cmd : CmdId) (yyyymm : String)
    (dataBuff : List UInt8) : RetCode × Reader :=
  match recvCmd dataBuff with
  | .error result => (result, r)
  | .ok recvCmd => r.respond cmd yyyymm recvCmd

/-- The event of a command that has failed. -/
def failureEvent : CmdId → Evt
  | .initCmd => .readerInit
  | .cardProhibitedCmd => .cardProhibited
  | .cardAllowedCmd => .cardAllowed
  | .cardOnIcCmd => .cardOnIc
  | .icPowerOnCmd => .icPowerOn
  | .warmResetCmd => .warmReset
  | .selectFile1Cmd => .selectFile1
  | .selectFile2Cmd => .selectFile2
  | .readCardInfoCmd => .readCardInfo
  | .readCardBalanceCmd => .readCardBalance
  | .icPowerOffCmd => .icPowerOff
  | .ejectToFrontCmd => .ejectToFront
  | .getStatusCmd => .getStatus

/-- `KSM_Reader::handleCommandFailure` -/
def Reader.handleCommandFailure (r : Reader) (cmd : CmdId) : Reader :=
  let r := r.raise (failureEvent cmd) false
  if cmd = .getStatusCmd ∧ r.continueReadCard then r.enqueueCommandOnIoThread .getStatusCmd
  else r

/-! ## The command loop -/

/-- `ACK` -/
def ack : UInt8 := 0x06

/-- `NAK` -/
def nak : UInt8 := 0x15

/-- What `commandLoop` waits for. -/
inductive Task
  /-- the top of the loop, or the wake timer -/
  | waiting
  /-- the frame of a command to be written -/
  | writing (cmd : CmdId)
  /-- a byte in `waitForAck` -/
  | acking (cmd : CmdId)
  /-- `ENQ` to be written -/
  | writingEnq (cmd : CmdId)
  /-- a byte in `readResponseFrame` -/
  | receiving (cmd : CmdId) (receiver : Receiver)
  /-- nothing, after a stop -/
  | ended
  deriving DecidableEq, Repr

/-- The reader and its coroutine. -/
structure Loop where
  reader : Reader := {}
  task : Task := .waiting
  deriving DecidableEq, Repr

/-- A call from outside, or what the coroutine is resumed with. -/
inductive Input
  /-- `FnKSMReaderEnable` -/
  | enable (enable : Bool)
  /-- `postCommand` -/
  | post (cmd : CmdId)
  /-- `FnKSMReaderStartGetStatus` -/
  | startGetStatus
  /-- `requestStopOnIoThread` -/
  | stop
  /-- the loop looks into the queue -/
  | wake
  /-- a write completes -/
  | written (success : Bool)
  /-- a read completes, in the month given; `sentFor` is the command to which the frame that
  ends with the byte was the answer -/
  | read (read : Read) (yyyymm : String) (sentFor : Option CmdId)
  deriving DecidableEq, Repr

/-- `requestStopOnIoThread` -/
def Reader.requestStop (r : Reader) : Reader :=
  { r with stopRequested := true, continueReadCard := false, commandQueue := [] }

/-- What `FnKSMReaderEnable` posts. -/
def Reader.enable (r : Reader) (enable : Bool) : Reader :=
  if r.stopRequested then r
  else if enable then
    let r := { r with continueReadCard := true }
    (r.enqueueCommandOnIoThread .cardAllowedCmd).enqueueCommandOnIoThread .getStatusCmd
  else
    let r := { r with continueReadCard := false }
    r.removeQueuedGetStatusCommands.enqueueCommandOnIoThread .cardProhibitedCmd

/-- What `FnKSMReaderStartGetStatus` posts. -/
def Reader.startGetStatus (r : Reader) : Reader :=
  if r.stopRequested then r
  else { r with continueReadCard := true }.enqueueCommandOnIoThread .getStatusCmd

/-- The end of a round of `commandLoop`. -/
def Loop.finish (r : Reader) (cmd : CmdId) (result : RetCode) : Loop :=
  if r.stopRequested then ⟨r, .ended⟩
  else if result ≠ .recvAck then ⟨r.handleCommandFailure cmd, .waiting⟩
  else ⟨r, .waiting⟩

/-- The end of `writeBytes`, with the check at the start of what follows it. -/
def Loop.onWritten (r : Reader) (cmd : CmdId) (success : Bool) (next : Task) : Loop :=
  if !success then Loop.finish r cmd .sendFailed
  else if r.stopRequested then Loop.finish r cmd .commError
  else ⟨r, next⟩

/-- A byte, a time-out or an error in `waitForAck`. -/
def Loop.onAckRead (r : Reader) (cmd : CmdId) : Read → Loop
  | .byte byte =>
      if byte = ack then
        if r.stopRequested then Loop.finish r cmd .sendFailed else ⟨r, .writingEnq cmd⟩
      else if byte = nak then Loop.finish r cmd .recvNak
      else ⟨r, .acking cmd⟩
  | .timedOut => Loop.finish r cmd .recvNak
  | .failed => Loop.finish r cmd .commError

/-- A byte, a time-out or an error in `readResponseFrame`. -/
def Loop.onResponseRead (r : Reader) (cmd : CmdId) (receiver : Receiver) (yyyymm : String) :
    Read → Loop
  | .byte byte =>
      match receiver.onByte byte with
      | .inl receiver => ⟨r, .receiving cmd receiver⟩
      | .inr ⟨.recvAck, frame⟩ =>
          let (result, r) := r.handleCommandResponse cmd yyyymm frame
          Loop.finish r cmd result
      | .inr ⟨result, _⟩ => Loop.finish r cmd result
  | .timedOut => Loop.finish r cmd .recvNoResp
  | .failed => Loop.finish r cmd .commError

/-- One step; what the coroutine does not wait for does not occur. -/
def Loop.step (s : Loop) : Input → Loop
  | .enable enable => { s with reader := s.reader.enable enable }
  | .post cmd => { s with reader := s.reader.enqueueCommandOnIoThread cmd }
  | .startGetStatus => { s with reader := s.reader.startGetStatus }
  | .stop => { s with reader := s.reader.requestStop }
  | .wake =>
      match s.task with
      | .waiting =>
          if s.reader.stopRequested then { s with task := .ended }
          else
            match s.reader.commandQueue with
            | [] => s
            | cmd :: queue => ⟨{ s.reader with commandQueue := queue }, .writing cmd⟩
      | _ => s
  | .written success =>
      match s.task with
      | .writing cmd => Loop.onWritten s.reader cmd success (.acking cmd)
      | .writingEnq cmd => Loop.onWritten s.reader cmd success (.receiving cmd {})
      | _ => s
  | .read read yyyymm _ =>
      match s.task with
      | .acking cmd => Loop.onAckRead s.reader cmd read
      | .receiving cmd receiver => Loop.onResponseRead s.reader cmd receiver yyyymm read
      | _ => s

/-- Step after step. -/
def Loop.run (s : Loop) (inputs : List Input) : Loop := inputs.foldl Loop.step s

end LinuxPBS.Ksm

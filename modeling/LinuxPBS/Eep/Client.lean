import LinuxPBS.Eep.Frame
import LinuxPBS.Library.Machine

/-!
# The EEP client

The state machine of `eep_client.cpp` on its `io_context`.  Everything the client
does is a handler that the one thread of the context takes from a queue: the events
posted by `processEvent`, the calls of other threads, the completions of the TCP
client and the expiries of the timers.  `posted` is that queue and an `Input` is
what the outside world does: let the thread take the next handler, let an armed
timer expire, complete a connect, a write or a read, call a function of the client.

```text
IDLE -CONNECT-> CONNECTING -CONNECT_SUCCESS-> CONNECTED -WRITE_COMMAND-> WRITING_REQUEST
WRITING_REQUEST -WRITE_COMPLETED-> WAITING_FOR_RESPONSE -(response, time-out)-> CONNECTED
```

An expiry that is already queued is not taken back by `cancel`, as with the timers
of the context; a queued event is looked up in the table when its turn comes, in the
state of that time.  `log` records what the client raises and sends.  Shutting down,
log texts, the decoding of the bodies for the events and the settlement files are
left out.
-/

namespace LinuxPBS.Eep

open LinuxPBS.Bytes

/-! ## Data -/

/-- `EEPClient::STATE` -/
inductive State
  | idle
  | connecting
  | connected
  | writingRequest
  | waitingForResponse
  deriving DecidableEq, Repr

/-- `EEPClient::EVENT` -/
inductive Event
  | connect
  | connectSuccess
  | connectFail
  | checkCommand
  | writeCommand
  | writeCompleted
  | writeTimeout
  | ackTimerCancelledAckReceived
  | ackAsRspReceived
  | ackTimeout
  | responseTimerCancelledRspReceived
  | responseTimeout
  | reconnectRequest
  | unsolicitedRequestDone
  deriving DecidableEq, Repr

/-- The failures among `EEPClient::MSG_STATUS`. -/
inductive MsgStatus
  | sendFailed
  | ackTimeout
  | rspTimeout
  deriving DecidableEq, Repr

/-- `EEPClient::Command` -/
structure Command where
  type : CommandType := .watchdogReqCmd
  priority : ℕ := 1
  sequence : ℕ := 0
  data : Option CommandData := none
  deriving DecidableEq, Repr

/-- The `steady_timer` members. -/
inductive Timer
  | reconnect
  | connect
  | send
  | response
  | ack
  | watchdog
  | healthStatus
  deriving DecidableEq, Repr

/-- What is posted to the context. -/
inductive Handler
  | event (event : Event)
  | checkCommandQueue
  | enqueueCommand (type : CommandType) (priority : ℕ) (data : Option CommandData)
  | commandFailure (type : CommandType) (status : MsgStatus)
  | handleConnect (success : Bool)
  | handleSend (success : Bool)
  | received (data : List UInt8)
  | receiveFailed
  | clientConnect
  | clientSend (message : List UInt8)
  | clientClose
  | expired (timer : Timer)
  deriving DecidableEq, Repr

/-- What the client does to a request and raises to the outside. -/
inductive Outcome
  | dequeued (cmd : Command)
  | handled (header : MessageHeader) (body : List UInt8)
  | acknowledged (cmd : Command)
  | completed (cmd : Command)
  | sentAck (seqNo : UInt16) (reqDataTypeCode : UInt8)
  | sentNak (seqNo : UInt16) (reqDataTypeCode reasonCode : UInt8)
  | failure (cmd : Command) (status : MsgStatus)
  | rejected (type : CommandType) (status : MsgStatus)
  | connectionState (connected : Bool)
  deriving DecidableEq, Repr

/-- The state of `EEPClient` and of its `AppTcpClient`. -/
structure Client where
  config : ClientConfig
  now : LocalTime
  currentState : State := .idle
  /-- sorted, the top of the priority queue first -/
  commandQueue : List Command := []
  commandSequence : ℕ := 0
  currentCmd : Command := {}
  currentCmdRequested : Command := {}
  sequenceNo : UInt16 := 0
  expectedResponseSeqNo : Option UInt16 := none
  watchdogMissedRspCount : ℕ := 0
  lastConnectionState : Bool := false
  armed : Timer → Bool := fun _ => false
  posted : List Handler := []
  /-- `AppTcpClient::connectedSnapshot_`, `connecting_` and `writeQueue_` -/
  isConnected : Bool := false
  connecting : Bool := false
  writeQueue : List (List UInt8) := []
  log : List Outcome := []

namespace Client

/-- `boost::asio::post` -/
def post (c : Client) (handler : Handler) : Client := { c with posted := c.posted ++ [handler] }

/-- `EEPClient::processEvent` -/
def processEvent (c : Client) (event : Event) : Client := c.post (.event event)

/-- One more entry of the log. -/
def note (c : Client) (outcome : Outcome) : Client := { c with log := outcome :: c.log }

/-- `expires_after` and `async_wait` -/
def start (c : Client) (timer : Timer) : Client :=
  { c with armed := Function.update c.armed timer true }

/-- `cancel` -/
def cancel (c : Client) (timer : Timer) : Client :=
  { c with armed := Function.update c.armed timer false }

/-- `EEPClient::enqueueCommand` -/
def enqueueCommand (c : Client) (type : CommandType) (priority : ℕ) (data : Option CommandData) :
    Client :=
  c.post (.enqueueCommand type priority data)

/-- `FnSendAck` -/
def sendAck (c : Client) (seqNo : UInt16) (reqDataTypeCode : UInt8) : Client :=
  (c.note (.sentAck seqNo reqDataTypeCode)).enqueueCommand .ack 0
    (some (.ackData seqNo reqDataTypeCode (.replicate 3 0x00)))

/-- `FnSendNak` -/
def sendNak (c : Client) (seqNo : UInt16) (reqDataTypeCode reasonCode : UInt8) : Client :=
  (c.note (.sentNak seqNo reqDataTypeCode reasonCode)).enqueueCommand .nak 0
    (some (.nakData seqNo reqDataTypeCode reasonCode (.replicate 2 0x00)))

/-! ## Failures -/

end Client

/-- The commands for which `handleCommandErrorOrTimeout` raises an event. -/
def CommandType.raisesFailure : CommandType → Bool
  | .ack | .nak | .watchdogReqCmd | .healthStatusReqCmd | .unknownReqCmd | .eepIdle => false
  | _ => true

/-- The control replies. -/
def CommandType.isControl (type : CommandType) : Bool := type = .ack || type = .nak

namespace Client

/-- `EEPClient::handleCommandErrorOrTimeout` -/
def handleCommandErrorOrTimeout (c : Client) (cmd : Command) (status : MsgStatus) : Client :=
  if cmd.type = .watchdogReqCmd then
    if c.watchdogMissedRspCount + 1 ≥ 4 then
      { c with watchdogMissedRspCount := 0 }.processEvent .reconnectRequest
    else { c with watchdogMissedRspCount := c.watchdogMissedRspCount + 1 }
  else if cmd.type.raisesFailure then c.note (.failure cmd status)
  else c

/-- `EEPClient::clearCommandQueue` -/
def clearCommandQueue (c : Client) : Client :=
  c.commandQueue.foldl (fun c cmd => c.handleCommandErrorOrTimeout cmd .sendFailed)
    { c with commandQueue := [] }

/-- `EEPClient::notifyConnectionState` -/
def notifyConnectionState (c : Client) (connected : Bool) : Client :=
  if c.lastConnectionState ≠ connected then
    { c with lastConnectionState := connected }.note (.connectionState connected)
  else c

/-- The end of `beginReconnect`, behind the failure of the active request. -/
def dropConnection (c : Client) : Client :=
  ((c.clearCommandQueue.notifyConnectionState false).post .clientClose).start .reconnect

/-- `EEPClient::beginReconnect` -/
def beginReconnect (c : Client) (failActiveRequest : Bool) : Client :=
  let c := (((((c.cancel .connect).cancel .send).cancel .ack).cancel .response).cancel
    .watchdog).cancel .healthStatus
  let c := { c with expectedResponseSeqNo := none }
  if failActiveRequest && !c.currentCmdRequested.type.isControl then
    (c.handleCommandErrorOrTimeout c.currentCmdRequested .sendFailed).dropConnection
  else c.dropConnection

/-! ## The command queue -/

/-- `EEPClient::CompareCommand`: whether the first command goes out before the second. -/
def before (a b : Command) : Bool :=
  if a.priority = b.priority then decide (a.sequence < b.sequence)
  else decide (a.priority < b.priority)

/-- `priority_queue::push` -/
def push (cmd : Command) : List Command → List Command
  | [] => [cmd]
  | first :: rest => if before cmd first then cmd :: first :: rest else first :: push cmd rest

/-- `EEPClient::checkCommandQueue` -/
def checkCommandQueue (c : Client) : Client :=
  if c.currentState ≠ .connected then c
  else if c.commandQueue ≠ [] then c.processEvent .writeCommand
  else c

/-- The handler that `enqueueCommand` posts. -/
def runEnqueueCommand (c : Client) (type : CommandType) (priority : ℕ) (data : Option CommandData) :
    Client :=
  let command : Command :=
    { type := type, priority := priority, sequence := c.commandSequence, data := data }
  let c := { c with commandSequence := c.commandSequence + 1 }
  if !c.isConnected then c.handleCommandErrorOrTimeout command .sendFailed
  else { c with commandQueue := push command c.commandQueue }.checkCommandQueue

/-- The rest of `popFromCommandQueueAndEnqueueWrite`, with the command that was popped. -/
def write (c : Client) (cmd : Command) : Client :=
  let (packet, ok) := prepareCmd c.config c.now c.sequenceNo cmd.type cmd.data
  let c :=
    -- a control reply echoes the sequence number of the peer and uses none of its own
    if ok && !packet.isEmpty && !cmd.type.isControl then
      { c with expectedResponseSeqNo := some c.sequenceNo, sequenceNo := c.sequenceNo + 1 }
    else c
  if !ok then c.processEvent .writeTimeout else c.post (.clientSend packet)

/-- `EEPClient::popFromCommandQueueAndEnqueueWrite` -/
def popFromCommandQueueAndEnqueueWrite (c : Client) : Client :=
  match c.commandQueue with
  | [] => c
  | cmd :: rest =>
      let c := { c with commandQueue := rest, currentCmd := cmd }
      -- ACK and NAK do not overwrite the request that is being correlated
      if cmd.type.isControl then c.write cmd
      else ({ c with currentCmdRequested := cmd }.note (.dequeued cmd)).write cmd

/-- `EEPClient::startWatchdogTimer` -/
def startWatchdogTimer (c : Client) : Client :=
  ((c.cancel .watchdog).enqueueCommand .watchdogReqCmd 2 none).start .watchdog

/-- `EEPClient::startHealthStatusTimer` -/
def startHealthStatusTimer (c : Client) : Client :=
  ((c.cancel .healthStatus).enqueueCommand .healthStatusReqCmd 4 none).start .healthStatus

/-! ## The state handlers -/

/-- `EEPClient::handleConnectingState` -/
def handleConnectingState (c : Client) (event : Event) : Client :=
  if event = .connectSuccess then
    let c := (c.notifyConnectionState true).enqueueCommand .startReqCmd 1 none
    c.startHealthStatusTimer.startWatchdogTimer.processEvent .checkCommand
  else if event = .connectFail then (c.notifyConnectionState false).start .reconnect
  else c

/-- `EEPClient::handleConnectedState` -/
def handleConnectedState (c : Client) (event : Event) : Client :=
  if event = .checkCommand then
    if !c.isConnected then c.processEvent .reconnectRequest else c.checkCommandQueue
  else if event = .writeCommand then
    if !c.isConnected then c.processEvent .reconnectRequest
    else c.popFromCommandQueueAndEnqueueWrite.start .send
  else if event = .reconnectRequest then c.beginReconnect false
  else c

/-- `EEPClient::handleWritingRequestState` -/
def handleWritingRequestState (c : Client) (event : Event) : Client :=
  if event = .writeCompleted then
    if c.currentCmd.type.isControl then c.processEvent .unsolicitedRequestDone else c.start .ack
  else if event = .writeTimeout then
    let c := if !c.isConnected then c.processEvent .reconnectRequest else c
    c.handleCommandErrorOrTimeout c.currentCmdRequested .sendFailed
  else if event = .reconnectRequest then c.beginReconnect true
  else c

/-- `EEPClient::handleWaitingForResponseState` -/
def handleWaitingForResponseState (c : Client) (event : Event) : Client :=
  if event = .ackTimerCancelledAckReceived then c.start .response
  else if event = .ackTimeout then
    { c with expectedResponseSeqNo := none }.handleCommandErrorOrTimeout c.currentCmdRequested
      .ackTimeout
  else if event = .responseTimeout then
    let c := { c with expectedResponseSeqNo := none }
    let c := if !c.isConnected then c.processEvent .reconnectRequest else c
    c.handleCommandErrorOrTimeout c.currentCmdRequested .rspTimeout
  else if event = .reconnectRequest then c.beginReconnect true
  else c

end Client

/-- `EEPClient::stateTransitionTable`: the next state of an event that a state knows. -/
def stateTransitionTable : State → Event → Option State
  | .idle, .connect => some .connecting
  | .connecting, .connectSuccess => some .connected
  | .connecting, .connectFail => some .idle
  | .connected, .checkCommand => some .connected
  | .connected, .writeCommand => some .writingRequest
  | .connected, .reconnectRequest => some .idle
  | .writingRequest, .writeCompleted => some .waitingForResponse
  | .writingRequest, .writeTimeout => some .connected
  | .writingRequest, .reconnectRequest => some .idle
  | .waitingForResponse, .ackTimerCancelledAckReceived => some .waitingForResponse
  | .waitingForResponse, .ackAsRspReceived => some .connected
  | .waitingForResponse, .ackTimeout => some .connected
  | .waitingForResponse, .responseTimerCancelledRspReceived => some .connected
  | .waitingForResponse, .responseTimeout => some .connected
  | .waitingForResponse, .reconnectRequest => some .idle
  | .waitingForResponse, .unsolicitedRequestDone => some .connected
  | _, _ => none

namespace Client

/-- The event handler the table names for a state. -/
def eventHandler (c : Client) (event : Event) : Client :=
  match c.currentState with
  | .idle => (c.post .clientConnect).start .connect
  | .connecting => c.handleConnectingState event
  | .connected => c.handleConnectedState event
  | .writingRequest => c.handleWritingRequestState event
  | .waitingForResponse => c.handleWaitingForResponseState event

/-- The state after a transition; in `CONNECTED` the queue is looked at once more. -/
def enter (c : Client) (next : State) : Client :=
  let c := { c with currentState := next }
  if next = .connected then c.post .checkCommandQueue else c

/-- The handler that `processEvent` posts. -/
def runEvent (c : Client) (event : Event) : Client :=
  match stateTransitionTable c.currentState event with
  | none => c
  | some next => (c.eventHandler event).enter next

end Client

/-! ## Received data -/

/-- `EEPClient::isValidSourceDestination` -/
def ClientConfig.isValidSourceDestination (config : ClientConfig) (source destination : UInt8) :
    Bool :=
  decide ((source.toNat : ℤ) = config.eepDestinationId) &&
    decide ((destination.toNat : ℤ) = config.eepSourceId)

/-- What `handleReceivedData` makes of the bytes of a read: a message, or the arguments of the
call of `handleInvalidMessage`. -/
def receivedMessage (config : ClientConfig) (data : List UInt8) :
    (MessageHeader × List UInt8) ⊕ UInt8 :=
  if !isValidCheckSum data then .inr 0x03
  else
    match parseMessage (withoutCheckSum data) with
    | none => .inr 0x02
    | some (header, body) =>
        if config.isValidSourceDestination header.sourceID header.destinationID then
          .inl (header, body)
        else .inr 0x04

/-- The `validResponses` of `isResponseMatchedDataTypeCode`. -/
def validResponses : CommandType → List MessageCode
  | .healthStatusReqCmd => [.healthStatusResponse, .nak]
  | .watchdogReqCmd => [.watchdogResponse, .nak]
  | .startReqCmd => [.startResponse, .nak]
  | .stopReqCmd => [.stopResponse, .nak]
  | .diReqCmd => [.diStatusResponse, .nak]
  | .dsrcStatusReqCmd => [.dsrcStatusResponse, .nak]
  | .timeCalibrationReqCmd => [.timeCalibrationResponse, .nak]
  | .unknownReqCmd | .ack | .nak | .eepIdle => []
  | _ => [.ack, .nak]

/-- Its `validAckNakRspRequestedDataType`. -/
def requestedDataType : CommandType → Option MessageCode
  | .healthStatusReqCmd => some .healthStatusRequest
  | .watchdogReqCmd => some .watchdogRequest
  | .startReqCmd => some .startRequest
  | .stopReqCmd => some .stopRequest
  | .diReqCmd => some .diStatusRequest
  | .doReqCmd => some .setDoRequest
  | .setDiPortConfigCmd => some .setDiPortConfiguration
  | .getObuInfoReqCmd => some .getObuInformationRequest
  | .getObuInfoStopReqCmd => some .getObuInformationStop
  | .deductReqCmd => some .deductRequest
  | .deductStopReqCmd => some .deductStopRequest
  | .transactionReqCmd => some .transactionRequest
  | .cpoInfoDisplayReqCmd => some .cpoInformationDisplayRequest
  | .carparkProcessCompleteNotificationReqCmd => some .carparkProcessCompleteNotification
  | .dsrcProcessCompleteNotificationReqCmd => some .dsrcProcessCompleteNotification
  | .stopReqOfRelatedInfoDistributionCmd => some .stopRequestOfRelatedInformationDistribution
  | .dsrcStatusReqCmd => some .dsrcStatusRequest
  | .timeCalibrationReqCmd => some .timeCalibrationRequest
  | .setCarparkAvailReqCmd => some .setParkingAvailable
  | .cdDownloadReqCmd => some .cdDownloadRequest
  | .eepRestartInquiryReqCmd => some .eepRestartInquiryResponse
  | .unknownReqCmd | .ack | .nak | .eepIdle => none

/-- `EEPClient::isResponseMatchedDataTypeCode` -/
def isResponseMatchedDataTypeCode (cmd : Command) (dataTypeCode : UInt8) (msgBody : List UInt8) :
    Bool :=
  if !((validResponses cmd.type).map MessageCode.toUInt8).contains dataTypeCode then false
  else if dataTypeCode = MessageCode.ack.toUInt8 ∨ dataTypeCode = MessageCode.nak.toUInt8 then
    -- ACK and NAK also carry the type of the request they refer to
    match msgBody, requestedDataType cmd.type with
    | first :: _, some requested => decide (first = requested.toUInt8)
    | _, _ => false
  else true

/-- `EEPClient::doesCmdRequireNotification` -/
def doesCmdRequireNotification (cmd : Command) : Bool :=
  match cmd.type with
  | .getObuInfoReqCmd | .deductReqCmd | .transactionReqCmd | .cpoInfoDisplayReqCmd
  | .carparkProcessCompleteNotificationReqCmd => true
  | _ => false

/-- `EEPClient::isNotificationReceived` -/
def isNotificationReceived (dataTypeCode : UInt8) : Bool :=
  ([.diStatusNotification, .obuInformationNotification, .transactionData,
    .cpoInformationDisplayResult, .carparkProcessCompleteResult, .eepRestartInquiry,
    .notificationLog].map MessageCode.toUInt8).contains dataTypeCode

/-- The table of `isResponseNotificationComplete`. -/
def completingNotification : CommandType → Option MessageCode
  | .getObuInfoReqCmd => some .obuInformationNotification
  | .deductReqCmd => some .transactionData
  | .transactionReqCmd => some .transactionData
  | .cpoInfoDisplayReqCmd => some .cpoInformationDisplayResult
  | .carparkProcessCompleteNotificationReqCmd => some .carparkProcessCompleteResult
  | _ => none

/-- `EEPClient::isResponseNotificationComplete` -/
def isResponseNotificationComplete (cmd : Command) (dataTypeCode : UInt8) : Bool :=
  (completingNotification cmd.type).map MessageCode.toUInt8 = some dataTypeCode

namespace Client

/-- `EEPClient::handleInvalidMessage` -/
def handleInvalidMessage (c : Client) (data : List UInt8) (reasonCode : UInt8) : Client :=
  if data.length ≥ headerSize then c.sendNak (readUint16 data 12) (data.getD 2 0) reasonCode else c

/-- What `handleParsedResponseMessage` changes in the client. -/
def handleParsedResponseMessage (c : Client) (header : MessageHeader) (body : List UInt8) : Client :=
  if header.dataTypeCode = MessageCode.watchdogResponse.toUInt8 then
    { c with watchdogMissedRspCount := 0 }
  else if header.dataTypeCode = MessageCode.healthStatusResponse.toUInt8 ∧ 64 ≤ body.length then
    { c with config := { c.config with eepCarparkID := readUint16 body 6 } }
  else c

/-- The part of `handleReceivedData` for a response to the current request. -/
def handleResponse (c : Client) (header : MessageHeader) (body : List UInt8) : Client :=
  if c.expectedResponseSeqNo ≠ some header.seqNo then c
  else
    let c := (c.cancel .ack).handleParsedResponseMessage header body
    let c := { c with expectedResponseSeqNo := none }
    -- a positive ACK does not complete a request that is followed up by a notification
    if header.dataTypeCode = MessageCode.ack.toUInt8 ∧
        doesCmdRequireNotification c.currentCmdRequested then
      (c.note (.acknowledged c.currentCmdRequested)).processEvent .ackTimerCancelledAckReceived
    else (c.note (.completed c.currentCmdRequested)).processEvent .ackAsRspReceived

/-- The part of `handleReceivedData` for a notification. -/
def handleNotification (c : Client) (header : MessageHeader) : Client :=
  let c :=
    if isResponseNotificationComplete c.currentCmdRequested header.dataTypeCode then
      ((c.note (.completed c.currentCmdRequested)).cancel .response).processEvent
        .responseTimerCancelledRspReceived
    else c
  c.sendAck header.seqNo header.dataTypeCode

/-- `EEPClient::handleReceivedData` for data that was read. -/
def handleReceivedData (c : Client) (data : List UInt8) : Client :=
  match receivedMessage c.config data with
  | .inr reasonCode => c.handleInvalidMessage data reasonCode
  | .inl (header, body) =>
      let c := c.note (.handled header body)
      if isResponseMatchedDataTypeCode c.currentCmdRequested header.dataTypeCode body then
        c.handleResponse header body
      else if isNotificationReceived header.dataTypeCode then c.handleNotification header
      else c.handleInvalidMessage data 0x01

/-! ## Handlers and inputs -/

/-- `AppTcpClient::connectOnIoThread` -/
def clientConnect (c : Client) : Client :=
  if c.isConnected || c.connecting then c
  else { c with connecting := true, isConnected := false, writeQueue := [] }

/-- `AppTcpClient::enqueueSendOnIoThread` -/
def clientSend (c : Client) (message : List UInt8) : Client :=
  if !c.isConnected then c.post (.handleSend false)
  else { c with writeQueue := c.writeQueue ++ [message] }

/-- `AppTcpClient::closeOnIoThread`, and what a transport failure does to the socket. -/
def clientClose (c : Client) : Client :=
  { c with connecting := false, isConnected := false, writeQueue := [] }

/-- The completion handler of a timer. -/
def runExpired (c : Client) : Timer → Client
  | .reconnect => c.processEvent .connect
  | .connect => c.processEvent .connectFail
  | .send => c.processEvent .writeTimeout
  | .response => c.processEvent .responseTimeout
  | .ack => c.processEvent .ackTimeout
  | .watchdog => c.startWatchdogTimer
  | .healthStatus => c.startHealthStatusTimer

/-- One handler on the thread of the context. -/
def runHandler (c : Client) : Handler → Client
  | .event event => c.runEvent event
  | .checkCommandQueue => c.checkCommandQueue
  | .enqueueCommand type priority data => c.runEnqueueCommand type priority data
  | .commandFailure type status => c.note (.rejected type status)
  | .handleConnect success =>
      (c.cancel .connect).processEvent (if success then .connectSuccess else .connectFail)
  | .handleSend success =>
      (c.cancel .send).processEvent (if success then .writeCompleted else .writeTimeout)
  | .received data => c.handleReceivedData data
  | .receiveFailed => c.processEvent .reconnectRequest
  | .clientConnect => c.clientConnect
  | .clientSend message => c.clientSend message
  | .clientClose => c.clientClose
  | .expired timer => c.runExpired timer

end Client

/-- What happens to the client from outside. -/
inductive Input
  | run
  | expire (timer : Timer)
  | connectDone (success : Bool)
  | writeDone (success : Bool)
  | readDone (data : List UInt8)
  | readFailed
  | enqueue (type : CommandType) (priority : ℕ) (data : Option CommandData)
  | reject (type : CommandType)
  | clock (now : LocalTime)
  deriving DecidableEq, Repr

namespace Client

/-- One input.  Completions only come for what is under way. -/
def step (c : Client) : Input → Client
  | .run =>
      match c.posted with
      | [] => c
      | handler :: rest => { c with posted := rest }.runHandler handler
  | .expire timer => if c.armed timer then (c.cancel timer).post (.expired timer) else c
  | .connectDone success =>
      if c.connecting then
        { c with connecting := false, isConnected := success }.post (.handleConnect success)
      else c
  | .writeDone success =>
      if c.writeQueue = [] then c
      else if success then { c with writeQueue := c.writeQueue.tail }.post (.handleSend true)
      else (c.post (.handleSend false)).clientClose
  | .readDone data => if c.isConnected then c.post (.received data) else c
  | .readFailed => if c.isConnected then c.clientClose.post .receiveFailed else c
  | .enqueue type priority data => c.enqueueCommand type priority data
  | .reject type => c.post (.commandFailure type .sendFailed)
  | .clock now => { c with now := now }

/-- The client behind `FnEEPClientInit`. -/
def init (config : ClientConfig) (now : LocalTime) : Client :=
  { config := config, now := now, posted := [.event .connect] }

end Client

end LinuxPBS.Eep

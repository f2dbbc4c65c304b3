import LinuxPBS.Upt.Command
import LinuxPBS.Upt.Payment
import LinuxPBS.Library.Machine

/-!
# The client of the terminal

The state machine of `upt.cpp` on its `io_context`.  As with the EEP client everything
is a handler that the one thread of the context takes from a queue, and an `Input` is
what the outside world does.

```text
IDLE -COMMAND_ENQUEUED-> SENDING_REQUEST_ASYNC -WRITE_COMPLETED-> WAITING_FOR_ACK
WAITING_FOR_ACK -(ACK)-> WAITING_FOR_RESPONSE -(RSP)-> IDLE
CANCEL_COMMAND: each but IDLE -> CANCEL_COMMAND_REQUEST -(clean-up)-> IDLE
```

A frame waits in `writeQueue_` until the line has been silent for two seconds, then it
is the buffer of one `async_write`; its completion handler takes it from the queue.
Cancelling a timer runs its handler with `operation_aborted`, which only the handler of
the write-gap timer notices; an expiry that is already queued is not taken back.  The
timers of the context give no other error.

Every frame carries the number of the command it was prepared for, which the code does
not keep.  Left out are initialising and closing, log texts and the events of the other
responses.
-/

namespace LinuxPBS.Upt

/-! ## Data -/

/-- `Upt::STATE` -/
inductive State
  | idle
  | sendingRequestAsync
  | waitingForAck
  | waitingForResponse
  | cancelCommandRequest
  deriving DecidableEq, Repr

/-- The events of `Upt::EVENT` that are raised. -/
inductive Event
  | commandEnqueued
  | writeCompleted
  | writeFailed
  | ackTimeout
  | ackTimerCancelledAckReceived
  | responseTimeout
  | responseTimerCancelledRspReceived
  | cancelCommand
  | cancelCommandCleanUpAndEnqueue
  | writeTimeout
  deriving DecidableEq, Repr

/-- `Upt::CommandWithData` -/
structure CommandWithData where
  cmd : UptCmd
  data : Option CommandData := none
  deriving DecidableEq, Repr

/-- A frame to send, with the number of its command. -/
structure TxFrame where
  number : ℕ
  bytes : List UInt8
  deriving DecidableEq, Repr

/-- The `steady_timer` members. -/
inductive Timer
  | ack
  | rsp
  | serialWriteDelay
  | serialWrite
  deriving DecidableEq, Repr

/-- The error a write completes with. -/
inductive WriteError
  | none
  | operationAborted
  | other
  deriving DecidableEq, Repr

/-- What is posted to the context. -/
inductive Handler
  | event (event : Event)
  | checkCommandQueue
  | enqueueCommandOnIoThread (cmd : UptCmd) (data : Option CommandData) (front : Bool)
  | expired (timer : Timer)
  /-- the handler of the write-gap timer, with `operation_aborted` -/
  | delayAborted
  | writeEnd (error : WriteError)
  | readEnd (data : List UInt8)
  | readFailed
  deriving DecidableEq, Repr

/-- What the client hands on and raises. -/
inductive Outcome
  | dequeued (cmd : UptCmd) (frame : TxFrame)
  /-- the buffer of an `async_write` -/
  | handed (frame : TxFrame)
  /-- an `async_write` has written all of its buffer -/
  | written (frame : TxFrame)
  /-- the event of `handleCmdErrorOrTimeout` -/
  | failure (cmd : UptCmd) (msgStatus : MsgStatus)
  /-- `Evt_handleUPTPaymentAuto`, from a response -/
  | paymentAuto (eventData : String)
  deriving DecidableEq, Repr

/-- The state of `Upt` and of its serial port. -/
structure Client where
  clock : Clock
  /-- `steady_clock::now`, in milliseconds -/
  now : ℕ
  currentState : State := .idle
  commandQueue : List CommandWithData := []
  currentCmd : UptCmd := .deviceStatusRequest
  sequenceNo : UInt32 := 0
  writeQueue : List TxFrame := []
  writeInProgress : Bool := false
  writeDelayActive : Bool := false
  writeTimedOut : Bool := false
  receiver : Receiver := {}
  lastSerialReadTime : ℕ
  armed : Timer → Bool := fun _ => false
  posted : List Handler := []
  /-- the operations that are under way on the port -/
  writing : Option TxFrame := none
  reading : Bool := true
  /-- how many commands have been dequeued -/
  count : ℕ := 0
  log : List Outcome := []

namespace Client

/-- `boost::asio::post` -/
def post (c : Client) (handler : Handler) : Client := { c with posted := c.posted ++ [handler] }

/-- `Upt::processEvent` -/
def processEvent (c : Client) (event : Event) : Client := c.post (.event event)

/-- One more entry of the log. -/
def note (c : Client) (outcome : Outcome) : Client := { c with log := outcome :: c.log }

/-- `cancel`; the handler of the write-gap timer runs, the others return at once. -/
def cancel (c : Client) (timer : Timer) : Client :=
  let aborted := c.armed timer && timer = .serialWriteDelay
  let c := { c with armed := Function.update c.armed timer false }
  if aborted then c.post .delayAborted else c

/-- `expires_after`, which cancels the wait before, and `async_wait` -/
def start (c : Client) (timer : Timer) : Client :=
  let c := c.cancel timer
  { c with armed := Function.update c.armed timer true }

/-- `enqueueCommand` -/
def enqueueCommand (c : Client) (cmd : UptCmd) (data : Option CommandData) : Client :=
  c.post (.enqueueCommandOnIoThread cmd data false)

/-- `enqueueCommandToFront` -/
def enqueueCommandToFront (c : Client) (cmd : UptCmd) : Client :=
  c.post (.enqueueCommandOnIoThread cmd none true)

/-! ## Writing -/

/-- `kSerialWriteGap` -/
def serialWriteGap : ℕ := 2000

/-- `Upt::startWrite` -/
def startWrite (c : Client) : Client :=
  match c.writeQueue with
  | [] => { c with writeInProgress := false }
  | front :: _ =>
      let c := { c with writeInProgress := true }
      if c.now - c.lastSerialReadTime < serialWriteGap then
        { c with writeDelayActive := true }.start .serialWriteDelay
      else { c with writeDelayActive := false, writing := some front }.note (.handed front)

/-- `Upt::enqueueWrite` -/
def enqueueWrite (c : Client) (data : TxFrame) : Client :=
  if data.bytes = [] then c
  else
    let wasWriting := c.writeInProgress
    let c := { c with writeQueue := c.writeQueue ++ [data] }
    if !wasWriting then c.startWrite else c

/-- `Upt::writeEnd` -/
def writeEnd (c : Client) (error : WriteError) : Client :=
  let popped := { c with writeQueue := c.writeQueue.tail, writeInProgress := false }
  if c.writeTimedOut then { popped with writeTimedOut := false }.processEvent .writeTimeout
  else if error = .none then popped.processEvent .writeCompleted
  else popped.processEvent .writeFailed

/-- `Upt::stopSerialWriteDelayTimer` -/
def stopSerialWriteDelayTimer (c : Client) : Client :=
  if !c.writeDelayActive then c
  else
    { c.cancel .serialWriteDelay with
      writeDelayActive := false
      writeQueue := c.writeQueue.tail
      writeInProgress := false }

/-- `serialPort_.cancel` -/
def cancelPort (c : Client) : Client :=
  let c := if c.reading then { c with reading := false }.post .readFailed else c
  if c.writing.isSome then { c with writing := none }.post (.writeEnd .operationAborted) else c

/-- `Upt::handleSerialWriteTimeout` -/
def handleSerialWriteTimeout (c : Client) : Client :=
  if !c.writeInProgress then c
  -- the front of the queue stays alive until `writeEnd` runs
  else { c with writeTimedOut := true }.cancelPort

/-! ## The command queue -/

/-- `Upt::checkCommandQueue` -/
def checkCommandQueue (c : Client) : Client :=
  if c.currentState ≠ .idle then c
  else if c.commandQueue ≠ [] then c.processEvent .commandEnqueued
  else c

/-- `Upt::enqueueCommandOnIoThread`; every command is one that `checkCmd` knows. -/
def enqueueCommandOnIoThread (c : Client) (cmd : UptCmd) (data : Option CommandData)
    (front : Bool) : Client :=
  let queue : List CommandWithData :=
    if c.sequenceNo + 1 = 0xFFFFFFFF ∧ cmd ≠ .deviceResetSequenceNumberRequest then
      ⟨.deviceResetSequenceNumberRequest, none⟩ :: c.commandQueue
    else c.commandQueue
  let entry : CommandWithData := ⟨cmd, data⟩
  { c with commandQueue := if front then entry :: queue else queue ++ [entry] }.checkCommandQueue

/-- `Upt::popFromCommandQueueAndEnqueueWrite` -/
def popFromCommandQueueAndEnqueueWrite (c : Client) : Client :=
  match c.commandQueue with
  | [] => c
  | cmdData :: rest =>
      let prepared := prepareCmd c.clock c.sequenceNo cmdData.cmd cmdData.data
      let frame : TxFrame := ⟨c.count + 1, prepared.1⟩
      ({ c with
        commandQueue := rest
        currentCmd := cmdData.cmd
        sequenceNo := prepared.2
        count := c.count + 1 }.note (.dequeued cmdData.cmd frame)).enqueueWrite frame

/-! ## The state handlers -/

/-- The commands for which `handleCmdErrorOrTimeout` raises an event. -/
def raisesFailure : UptCmd → Bool
  | .deviceStatusRequest | .deviceResetRequest | .deviceTimeSyncRequest | .deviceLogonRequest
  | .deviceTmsRequest | .deviceSettlementRequest | .deviceRetrieveLastSettlementRequest
  | .cardDetectRequest | .paymentModeAutoRequest | .cancelCommandRequest => true
  | _ => false

/-- `Upt::handleCmdErrorOrTimeout`, for the current command -/
def handleCmdErrorOrTimeout (c : Client) (msgStatus : MsgStatus) : Client :=
  if raisesFailure c.currentCmd then c.note (.failure c.currentCmd msgStatus) else c

/-- `Upt::handleIdleState` -/
def handleIdleState (c : Client) (event : Event) : Client :=
  if event = .commandEnqueued then c.popFromCommandQueueAndEnqueueWrite.start .serialWrite
  else if event = .cancelCommand then c.enqueueCommandToFront .cancelCommandRequest
  else c

/-- `Upt::handleSendingRequestAsyncState` -/
def handleSendingRequestAsyncState (c : Client) (event : Event) : Client :=
  if event = .writeCompleted then (c.cancel .serialWrite).start .ack
  else if event = .writeFailed then (c.cancel .serialWrite).handleCmdErrorOrTimeout .sendFailed
  else if event = .cancelCommand then c.processEvent .cancelCommandCleanUpAndEnqueue
  else if event = .writeTimeout then c.handleCmdErrorOrTimeout .sendFailed
  else c

/-- `Upt::handleWaitingForAckState` -/
def handleWaitingForAckState (c : Client) (event : Event) : Client :=
  if event = .ackTimerCancelledAckReceived then c.start .rsp
  else if event = .ackTimeout then c.handleCmdErrorOrTimeout .ackTimeout
  else if event = .cancelCommand then c.processEvent .cancelCommandCleanUpAndEnqueue
  else c

/-- `Upt::handleWaitingForResponseState` -/
def handleWaitingForResponseState (c : Client) (event : Event) : Client :=
  if event = .responseTimerCancelledRspReceived then c
  else if event = .responseTimeout then c.handleCmdErrorOrTimeout .rspTimeout
  else if event = .cancelCommand then c.processEvent .cancelCommandCleanUpAndEnqueue
  else c

/-- `Upt::handleCancelCommandRequestState` -/
def handleCancelCommandRequestState (c : Client) (event : Event) : Client :=
  if event = .cancelCommandCleanUpAndEnqueue then
    (((c.cancel .ack).cancel .rsp).cancel .serialWrite).stopSerialWriteDelayTimer.processEvent
      .cancelCommand
  else c

end Client

/-- `Upt::stateTransitionTable`: the next state of an event that a state knows. -/
def stateTransitionTable : State → Event → Option State
  | .idle, .commandEnqueued => some .sendingRequestAsync
  | .idle, .cancelCommand => some .idle
  | .sendingRequestAsync, .writeCompleted => some .waitingForAck
  | .sendingRequestAsync, .writeFailed => some .idle
  | .sendingRequestAsync, .cancelCommand => some .cancelCommandRequest
  | .sendingRequestAsync, .writeTimeout => some .idle
  | .waitingForAck, .ackTimerCancelledAckReceived => some .waitingForResponse
  | .waitingForAck, .ackTimeout => some .idle
  | .waitingForAck, .cancelCommand => some .cancelCommandRequest
  | .waitingForResponse, .responseTimerCancelledRspReceived => some .idle
  | .waitingForResponse, .responseTimeout => some .idle
  | .waitingForResponse, .cancelCommand => some .cancelCommandRequest
  | .cancelCommandRequest, .cancelCommandCleanUpAndEnqueue => some .idle
  | _, _ => none

namespace Client

/-- The event handler the table names for a state. -/
def eventHandler (c : Client) (event : Event) : Client :=
  match c.currentState with
  | .idle => c.handleIdleState event
  | .sendingRequestAsync => c.handleSendingRequestAsyncState event
  | .waitingForAck => c.handleWaitingForAckState event
  | .waitingForResponse => c.handleWaitingForResponseState event
  | .cancelCommandRequest => c.handleCancelCommandRequestState event

/-- The state after a transition; in `IDLE` the queue is looked at. -/
def enter (c : Client) (next : State) : Client :=
  let c := { c with currentState := next }
  if next = .idle then c.post .checkCommandQueue else c

/-- The handler that `processEvent` posts. -/
def runEvent (c : Client) (event : Event) : Client :=
  match stateTransitionTable c.currentState event with
  | none => c
  | some next => (c.eventHandler event).enter next

end Client

/-! ## Received frames -/

/-- `Upt::isMsgStatusValid` -/
def isMsgStatusValid (msgStatus : UInt32) : Bool :=
  !((0x10000000 ≤ msgStatus && msgStatus ≤ 0x10000012) ||
    (0x11000001 ≤ msgStatus && msgStatus ≤ 0x11000007))

/-- `MSG_CLASS_ACK` -/
def msgClassAck : UInt16 := 0x0002

/-- `MSG_CLASS_RSP` -/
def msgClassRsp : UInt16 := 0x0003

/-- `MSG_STATUS::INVALID_PARAMETER` -/
def msgStatusInvalidParameter : UInt32 := 0x00000003

/-- `MSG_STATUS::SOF_LOGON_REQUIRED` -/
def msgStatusSofLogonRequired : UInt32 := 0x40000008

namespace Client

/-- `Upt::handleCmdResponse`, as far as payments go -/
def handleCmdResponse (c : Client) (msg : Message) : Client :=
  match paymentEvent msg with
  | some eventData => c.note (.paymentAuto eventData)
  | none => c

/-- The part of `handleReceivedCmd` for an `ACK`. -/
def handleAck (c : Client) (msg : Message) : Client :=
  let c := c.cancel .ack
  if isMsgStatusValid msg.header.msgStatus then c.processEvent .ackTimerCancelledAckReceived
  -- an invalid ACK ends the wait as a failure
  else c.processEvent .ackTimeout

/-- The part of `handleReceivedCmd` for a `RSP`. -/
def handleRsp (c : Client) (msg : Message) : Client :=
  ((c.handleCmdResponse msg).cancel .rsp).processEvent .responseTimerCancelledRspReceived

/-- The message `handleReceivedCmd` looks into: parsed, and with the number of the last request. -/
def receivedMessage (c : Client) (msgDataBuff : List UInt8) : Option Message :=
  let parsed := fnParseMsgData msgDataBuff
  if parsed.1 = .success ∧ parsed.2.header.msgSequence = c.sequenceNo then some parsed.2 else none

/-- `Upt::handleReceivedCmd` -/
def handleReceivedCmd (c : Client) (msgDataBuff : List UInt8) : Client :=
  match c.receivedMessage msgDataBuff with
  | none => c
  | some msg =>
      let c :=
        if msg.header.msgClass = msgClassAck then c.handleAck msg
        else if msg.header.msgClass = msgClassRsp then c.handleRsp msg
        else c
      let c :=
        if msg.header.msgStatus = msgStatusInvalidParameter then
          c.enqueueCommand .deviceResetSequenceNumberRequest none
        else c
      if msg.header.msgStatus = msgStatusSofLogonRequired then
        c.enqueueCommand .deviceLogonRequest none
      else c

/-- The frames that end in the bytes of a read, one after the other. -/
def handleFrames (c : Client) (frames : List (List UInt8)) : Client :=
  frames.foldl handleReceivedCmd c

/-- `Upt::readEnd` without an error -/
def readEnd (c : Client) (data : List UInt8) : Client :=
  let received := consumeReceivedBytes c.receiver data
  let c := { c with lastSerialReadTime := c.now, receiver := received.1 }.handleFrames received.2
  { c with reading := true }

/-! ## Handlers and inputs -/

/-- The completion handler of a timer that has expired. -/
def runExpired (c : Client) : Timer → Client
  | .ack => c.processEvent .ackTimeout
  | .rsp => c.processEvent .responseTimeout
  | .serialWriteDelay => { c with writeDelayActive := false }.startWrite
  | .serialWrite => c.handleSerialWriteTimeout

/-- One handler on the thread of the context. -/
def runHandler (c : Client) : Handler → Client
  | .event event => c.runEvent event
  | .checkCommandQueue => c.checkCommandQueue
  | .enqueueCommandOnIoThread cmd data front => c.enqueueCommandOnIoThread cmd data front
  | .expired timer => c.runExpired timer
  | .delayAborted => { c with writeDelayActive := false }
  | .writeEnd error => c.writeEnd error
  | .readEnd data => c.readEnd data
  | .readFailed => { c with reading := true }

end Client

/-- What happens to the client from outside. -/
inductive Input
  | run
  | expire (timer : Timer)
  | writeDone (success : Bool)
  | readDone (data : List UInt8)
  | readFailed
  | enqueue (cmd : UptCmd) (data : Option CommandData)
  | cancelCommand
  | clock (clock : Clock)
  | elapse (milliseconds : ℕ)

namespace Client

/-- One input.  Completions only come for what is under way. -/
def step (c : Client) : Input → Client
  | .run =>
      match c.posted with
      | [] => c
      | handler :: rest => { c with posted := rest }.runHandler handler
  | .expire timer =>
      if c.armed timer then
        { c with armed := Function.update c.armed timer false }.post (.expired timer)
      else c
  | .writeDone success =>
      match c.writing with
      | none => c
      | some frame =>
          let c := { c with writing := none }
          if success then (c.note (.written frame)).post (.writeEnd .none)
          else c.post (.writeEnd .other)
  | .readDone data => if c.reading then { c with reading := false }.post (.readEnd data) else c
  | .readFailed => if c.reading then { c with reading := false }.post .readFailed else c
  | .enqueue cmd data => c.enqueueCommand cmd data
  | .cancelCommand => c.processEvent .cancelCommand
  | .clock clock => { c with clock := clock }
  | .elapse milliseconds => { c with now := c.now + milliseconds }

/-- The client behind `initOnIoThread`. -/
def init (clock : Clock) : Client :=
  ({ clock := clock, now := 0, lastSerialReadTime := 0 : Client }.enqueueCommandOnIoThread
    .deviceResetSequenceNumberRequest none false).enqueueCommandOnIoThread .deviceLogonRequest none
    false

end Client

end LinuxPBS.Upt

import Mathlib.Logic.Function.Basic
import LinuxPBS.Lcsc.Command
import LinuxPBS.Library.Machine

/-!
# The client of the contactless smart card reader

The state machine of `lcsc.cpp` on its `io_context`: everything is a handler that the one
thread of the context takes from a queue, and an `Input` is what the outside world does.

```text
IDLE -COMMAND_ENQUEUED-> SENDING_REQUEST_ASYNC -WRITE_COMPLETED-> WAITING_FOR_RESPONSE
IDLE -CHUNK_COMMAND_ENQUEUED-> SENDING_CHUNK.. -WRITE_COMPLETED-> WAITING_FOR_CHUNK..
WAITING_FOR_RESPONSE -RESPONSE_HANDLED / REJECTED / TIMEOUT-> IDLE
WAITING_FOR_CHUNK.. -SEND_NEXT_CHUNK_COMMAND-> SENDING_CHUNK..
```

A frame is handed to the port at once if the line has been silent for 200 ms, and waits for
`serialWriteDelayTimer_` otherwise, without a write being in progress.  A cancelled timer
runs its handler with `operation_aborted`, which all of them ignore; an expiry that is
already queued is not taken back, and the timers give no other error.  The port is open from
initialising to closing, which are left out, as are log texts, the settlement records and
the workflow that downloads and deletes the files to upload.

Every frame has a number, which the code does not keep, and a completed read carries the
number of the frame that had been written last.
-/

namespace LinuxPBS.Lcsc

/-! ## Data -/

/-- `LCSCReader::STATE` -/
inductive State
  | idle
  | sendingRequestAsync
  | waitingForResponse
  | sendingChunkCommandRequestAsync
  | waitingForChunkCommandResponse
  deriving DecidableEq, Repr

/-- `LCSCReader::EVENT` -/
inductive Event
  | commandEnqueued
  | chunkCommandEnqueued
  | writeCompleted
  | writeFailed
  | responseTimeout
  | responseReceived
  | responseHandled
  | responseRejected
  | sendNextChunkCommand
  | allChunkCommandCompleted
  | chunkCommandError
  | writeTimeout
  deriving DecidableEq, Repr

/-- The events for the upload workflow that the answers of the reader give rise to. -/
inductive UploadEvent
  | cdfileUploaded
  | cdfileUploadFailed
  deriving DecidableEq, Repr

/-- `LCSCReader::CommandWithData` -/
structure CommandWithData where
  cmd : Cmd
  data : PayloadData := .null
  deriving DecidableEq, Repr

/-- A frame to send, with its number. -/
structure TxFrame where
  number : ℕ
  bytes : List UInt8
  deriving DecidableEq, Repr

/-- The `steady_timer` members. -/
inductive Timer
  | rsp
  | serialWriteDelay
  | serialWrite
  deriving DecidableEq, Repr

/-- The error a write completes with. -/
inductive WriteError
  | none
  | operationAborted
  | other
  deriving DecidableEq, Repr

/-- What is posted to the context. -/
inductive Handler
  | event (event : Event)
  | checkCommandQueue
  | enqueueCommandOnIoThread (command : CommandWithData)
  | expired (timer : Timer)
  | writeEnd (error : WriteError)
  | readEnd (data : List UInt8) (lastWritten : ℕ)
  | readFailed
  deriving DecidableEq, Repr

/-- The response an event is made from, and the frame written last when it had come. -/
structure Response where
  payload : List UInt8
  lastWritten : ℕ
  deriving DecidableEq, Repr

/-- What the client takes up, hands on and raises. -/
inductive Outcome
  /-- a command is taken from `commandQueue_` -/
  | dequeued (command : CommandWithData)
  /-- a frame is prepared from a command or from a chunk of it -/
  | prepared (command : CommandWithData) (frame : TxFrame)
  /-- the buffer of an `async_write` -/
  | handed (frame : TxFrame)
  /-- an `async_write` has written all of its buffer -/
  | written (frame : TxFrame)
  /-- the reader has taken a chunk and waits for more -/
  | acknowledged (cmd : Cmd)
  /-- `handleCmdErrorOrTimeout` -/
  | failed (cmd : Cmd) (msgStatus : CscEvents)
  /-- the event of a command, from a response or of a failure -/
  | event (cmd : Cmd) (msgStatus : CscEvents) (response : Option Response)
  /-- an event for the upload workflow -/
  | upload (event : UploadEvent)
  deriving DecidableEq, Repr

/-- The state of `LCSCReader` and of its serial port. -/
structure Client where
  evp : Evp
  epochSeconds : UInt32
  /-- `steady_clock::now`, in milliseconds -/
  now : ℕ
  currentState : State := .idle
  currentCmd : Cmd := .getStatusCmd
  commandQueue : List CommandWithData := []
  chunkCommandQueue : List CommandWithData := []
  continueReadFlag : Bool := false
  writeQueue : List TxFrame := []
  writeInProgress : Bool := false
  writeTimedOut : Bool := false
  receiver : Receiver := {}
  lastSerialReadTime : Option ℕ := none
  armed : Timer → Bool := fun _ => false
  posted : List Handler := []
  /-- the operations that are under way on the port -/
  writing : List TxFrame := []
  reading : Bool := true
  /-- how many frames have been prepared -/
  count : ℕ := 0
  /-- the numbers of the frame written last, now and when the last response had come -/
  lastWritten : ℕ := 0
  receivedAfter : ℕ := 0
  log : List Outcome := []

namespace Client

/-- `boost::asio::post` -/
def post (c : Client) (handler : Handler) : Client := { c with posted := c.posted ++ [handler] }

/-- `LCSCReader::processEvent` -/
def processEvent (c : Client) (event : Event) : Client := c.post (.event event)

/-- One more entry of the log. -/
def note (c : Client) (outcome : Outcome) : Client := { c with log := outcome :: c.log }

/-- `cancel` -/
def cancel (c : Client) (timer : Timer) : Client :=
  { c with armed := Function.update c.armed timer false }

/-- `expires_after`, which cancels the wait before, and `async_wait` -/
def start (c : Client) (timer : Timer) : Client :=
  { c with armed := Function.update c.armed timer true }

/-! ## Writing -/

/-- `minimumRxToTxGap` -/
def minimumRxToTxGap : ℕ := 200

/-- The line has not been silent for long enough. -/
def tooEarly (c : Client) : Bool :=
  match c.lastSerialReadTime with
  | none => false
  | some time => c.now - time < minimumRxToTxGap

/-- `LCSCReader::startWrite` -/
def startWrite (c : Client) : Client :=
  match c.writeQueue with
  | [] => { c with writeInProgress := false }
  | front :: _ =>
      if c.tooEarly then c.start .serialWriteDelay
      else
        { c with
          writeInProgress := true
          writeTimedOut := false
          writing := c.writing ++ [front] }.note (.handed front)

/-- `LCSCReader::enqueueWrite` on the thread of the context -/
def enqueueWrite (c : Client) (data : TxFrame) : Client :=
  let wasWriting := c.writeInProgress
  let c := { c with writeQueue := c.writeQueue ++ [data] }
  if !wasWriting then c.startWrite else c

/-- `LCSCReader::writeEnd` -/
def writeEnd (c : Client) (error : WriteError) : Client :=
  let c := { c.cancel .serialWrite with writeQueue := c.writeQueue.tail, writeInProgress := false }
  if c.writeTimedOut then { c with writeTimedOut := false }.processEvent .writeTimeout
  else
    match error with
    | .none => c.processEvent .writeCompleted
    | .operationAborted => c
    | .other => c.processEvent .writeFailed

/-- `pSerialPort_->cancel` -/
def cancelPort (c : Client) : Client :=
  let c := if c.reading then { c with reading := false }.post .readFailed else c
  { c with
    writing := []
    posted := c.posted ++ c.writing.map fun _ => .writeEnd .operationAborted }

/-- `LCSCReader::handleSerialWriteTimeout` -/
def handleSerialWriteTimeout (c : Client) : Client :=
  if !c.writeInProgress then c.processEvent .writeTimeout
  -- the front of the queue stays alive until `writeEnd` runs
  else { c with writeTimedOut := true }.cancelPort

/-- The frame that `prepareCmd` makes of a command, with its number. -/
def nextFrame (c : Client) (command : CommandWithData) : TxFrame :=
  ⟨c.count + 1, prepareCmd c.evp c.epochSeconds command.cmd command.data⟩

/-- `enqueueWrite(prepareCmd(..))` -/
def prepareAndWrite (c : Client) (command : CommandWithData) : Client :=
  let frame := c.nextFrame command
  ({ c with count := c.count + 1 }.note (.prepared command frame)).enqueueWrite frame

/-! ## The command queues -/

/-- `LCSCReader::checkCommandQueue` -/
def checkCommandQueue (c : Client) : Client :=
  if c.currentState ≠ .idle then c
  else
    match c.commandQueue with
    | [] => c
    | front :: _ =>
        if isChunkedCommand front.cmd then c.processEvent .chunkCommandEnqueued
        else c.processEvent .commandEnqueued

/-- `LCSCReader::enqueueCommandOnIoThread` -/
def enqueueCommandOnIoThread (c : Client) (command : CommandWithData) : Client :=
  { c with commandQueue := c.commandQueue ++ [command] }.checkCommandQueue

/-- `LCSCReader::enqueueCommandToFrontOnIoThread` -/
def enqueueCommandToFrontOnIoThread (c : Client) (command : CommandWithData) : Client :=
  if c.commandQueue.head?.map CommandWithData.cmd = some command.cmd then c
  else { c with commandQueue := command :: c.commandQueue }.checkCommandQueue

/-- `LCSCReader::popFromCommandQueueAndEnqueueWrite` -/
def popFromCommandQueueAndEnqueueWrite (c : Client) : Client :=
  match c.commandQueue with
  | [] => c
  | cmdData :: rest =>
      ({ c with commandQueue := rest, currentCmd := cmdData.cmd }.note
        (.dequeued cmdData)).prepareAndWrite cmdData

/-- `LCSCReader::sendNextChunkCommandData` -/
def sendNextChunkCommandData (c : Client) : Client :=
  match c.chunkCommandQueue with
  | [] => c
  | cmdData :: rest => { c with chunkCommandQueue := rest }.prepareAndWrite cmdData

/-- The chunks of a command, one command each. -/
def chunksOf (cmdData : CommandWithData) : List CommandWithData :=
  match cmdData.data with
  | .chunks chunks => chunks.map fun chunk => ⟨cmdData.cmd, .bytes chunk⟩
  | _ => []

/-- `LCSCReader::popFromChunkCommandQueueAndEnqueueWrite` -/
def popFromChunkCommandQueueAndEnqueueWrite (c : Client) : Client :=
  match c.commandQueue with
  | [] => c
  | cmdData :: rest =>
      let c := { c with commandQueue := rest, currentCmd := cmdData.cmd }.note (.dequeued cmdData)
      let chunks := chunksOf cmdData
      if chunks = [] then c.processEvent .chunkCommandError
      else
        { c with chunkCommandQueue := c.chunkCommandQueue ++ chunks }.sendNextChunkCommandData

/-- `LCSCReader::clearChunkCommandQueue` -/
def clearChunkCommandQueue (c : Client) : Client := { c with chunkCommandQueue := [] }

/-- `LCSCReader::processUploadLcscFilesEvent` -/
def processUploadLcscFilesEvent (c : Client) (event : UploadEvent) : Client :=
  c.note (.upload event)

/-- `LCSCReader::FnSendGetCardBalance` on the thread of the context -/
def sendGetCardBalance (c : Client) : Client :=
  { c with continueReadFlag := true }.enqueueCommandOnIoThread ⟨.cardBalance, .null⟩

/-- `LCSCReader::handleCmdErrorOrTimeout`, for the current command; a poll is repeated without
an event. -/
def handleCmdErrorOrTimeout (c : Client) (msgStatus : CscEvents) : Client :=
  let c := c.note (.failed c.currentCmd msgStatus)
  match c.currentCmd with
  | .getCardId =>
      if c.continueReadFlag then c.enqueueCommandToFrontOnIoThread ⟨.getCardId, .null⟩ else c
  | .cardBalance =>
      if c.continueReadFlag then c.enqueueCommandToFrontOnIoThread ⟨.cardBalance, .null⟩ else c
  | cmd => c.note (.event cmd msgStatus none)

end Client

/-! ## Responses -/

/-- The status that `handleCmdResponse` names for a command and the result byte of its
response; `none` is an empty text.  Polls are treated apart, and a chunk that is not the last
has no status either.  The texts of `GET_TIME` run into each other, the first one counts. -/
def resultStatus : Cmd → UInt8 → Option CscEvents
  | .getStatusCmd, 0x00 => some .sGetStatusOK
  | .getStatusCmd, 0x01 => some .sCorruptedCmd
  | .getStatusCmd, 0x02 => some .sIncompleteCmd
  | .getStatusCmd, 0x1C => some .sUnknown
  | .login1, 0x00 => some .sLogin1Success
  | .login1, 0x01 => some .sCorruptedCmd
  | .login1, 0x02 => some .sIncompleteCmd
  | .login1, 0x03 => some .sUnsupportedCmd
  | .login1, 0x04 => some .sUnsupportedMode
  | .login1, 0x1D => some .sLoginAlready
  | .login2, 0x00 => some .sLoginSuccess
  | .login2, 0x01 => some .sCorruptedCmd
  | .login2, 0x02 => some .sIncompleteCmd
  | .login2, 0x03 => some .sUnsupportedCmd
  | .login2, 0x04 => some .sUnsupportedMode
  | .login2, 0x05 => some .sLoginAuthFail
  | .logout, 0x00 => some .sLogoutSuccess
  | .logout, 0x01 => some .sCorruptedCmd
  | .logout, 0x02 => some .sIncompleteCmd
  | .logout, 0x03 => some .sUnsupportedCmd
  | .logout, 0x13 => some .sRecordNotFlush
  | .cardDeduct, 0x00 => some .sGetDeductSuccess
  | .cardDeduct, 0x01 => some .sCorruptedCmd
  | .cardDeduct, 0x02 => some .sIncompleteCmd
  | .cardDeduct, 0x03 => some .sUnsupportedCmd
  | .cardDeduct, 0x06 => some .sNoCard
  | .cardDeduct, 0x07 => some .sCardError
  | .cardDeduct, 0x08 => some .sRFError
  | .cardDeduct, 0x09 => some .sExpiredCard
  | .cardDeduct, 0x0A => some .sCardAuthError
  | .cardDeduct, 0x0B => some .sLockedCard
  | .cardDeduct, 0x0C => some .sInadequatePurse
  | .cardDeduct, 0x0D => some .sCryptoError
  | .cardDeduct, 0x0E => some .sCardParaError
  | .cardDeduct, 0x0F => some .sChangedCard
  | .cardDeduct, 0x10 => some .sMultiCard
  | .cardDeduct, 0x11 => some .sBlackCard
  | .cardDeduct, 0x12 => some .sCardnotinlist
  | .cardDeduct, 0x13 => some .sRecordNotFlush
  -- the configuration file is not loaded
  | .cardDeduct, 0x1E => none
  | .cardRecord, 0x00 => some .sGetCardRecord
  | .cardRecord, 0x01 => some .sCorruptedCmd
  | .cardRecord, 0x02 => some .sIncompleteCmd
  | .cardRecord, 0x03 => some .sUnsupportedCmd
  | .cardRecord, 0x14 => some .sNoLastTrans
  | .cardFlush, 0x00 => some .sCardFlushed
  | .cardFlush, 0x01 => some .sCorruptedCmd
  | .cardFlush, 0x02 => some .sIncompleteCmd
  | .cardFlush, 0x03 => some .sUnsupportedCmd
  | .cardFlush, 0x15 => some .sNoNeedFlush
  | .cardFlush, 0x16 => some .sWrongSeed
  | .getTime, 0x00 => some .sGetTimeSuccess
  | .getTime, 0x01 => some .sCorruptedCmd
  | .getTime, 0x02 => some .sIncompleteCmd
  | .getTime, 0x03 => some .sUnsupportedCmd
  | .getTime, 0x1C => some .sUnknown
  | .setTime, 0x00 => some .sSetTimeSuccess
  | .setTime, 0x01 => some .sCorruptedCmd
  | .setTime, 0x02 => some .sIncompleteCmd
  | .setTime, 0x03 => some .sUnsupportedCmd
  | .setTime, 0x1C => some .sUnknown
  | .uploadBlFile, 0x00 => some .sBLUploadSuccess
  | .uploadBlFile, 0x01 => some .sCorruptedCmd
  | .uploadBlFile, 0x02 => some .sIncompleteCmd
  | .uploadBlFile, 0x03 => some .sUnsupportedCmd
  | .uploadBlFile, 0x17 => some .sIncorrectIndex
  | .uploadBlFile, 0x19 => some .sBLUploadCorrupt
  | .uploadBlFile, 0x1C => some .sUnknown
  | .uploadCilFile, 0x00 => some .sCILUploadSuccess
  | .uploadCilFile, 0x01 => some .sCorruptedCmd
  | .uploadCilFile, 0x02 => some .sIncompleteCmd
  | .uploadCilFile, 0x03 => some .sUnsupportedCmd
  | .uploadCilFile, 0x17 => some .sIncorrectIndex
  | .uploadCilFile, 0x19 => some .sCILUploadCorrupt
  | .uploadCilFile, 0x1C => some .sUnknown
  | .uploadCfgFile, 0x00 => some .sCFGUploadSuccess
  | .uploadCfgFile, 0x01 => some .sCorruptedCmd
  | .uploadCfgFile, 0x02 => some .sIncompleteCmd
  | .uploadCfgFile, 0x03 => some .sUnsupportedCmd
  | .uploadCfgFile, 0x13 => some .sRecordNotFlush
  | .uploadCfgFile, 0x1B => some .sCFGUploadCorrupt
  | .uploadCfgFile, 0x1C => some .sUnknown
  | _, _ => none

/-- The version of an uploaded file is `"0000"`: the reader waits for more chunks. -/
def awaitsMore (payload : List UInt8) : Bool := (payload.drop 1).take 2 = [0x00, 0x00]

/-- The checks of `handleReceivedCmd`: the message for the current command, or what it is
rejected with. -/
def checkResponse (currentCmd : Cmd) (msgDataBuff : List UInt8) : Except CscEvents CscPacket :=
  match parseFrame msgDataBuff with
  | .error status => .error status
  | .ok msg =>
      if msg.code = false then .error .rNotRespCmd
      else if !isCurrentCmdResponse currentCmd msg.type then .error .rNotRespCmd
      else if msg.payload = [] then .error .rCorruptedCmd
      else .ok msg

namespace Client

/-- The number that `stoul` makes of the seed in a response, if that is long enough. -/
def seedOf (payload : List UInt8) : Option UInt32 :=
  match payload with
  | _ :: a :: b :: c :: d :: _ =>
      some ((a.toUInt32 <<< 24) ||| (b.toUInt32 <<< 16) ||| (c.toUInt32 <<< 8) ||| d.toUInt32)
  | _ => none

/-- `handleCmdResponse` for the answer to a poll: the card is there, or the poll is repeated. -/
def handlePollResponse (c : Client) (result : UInt8) (success : Client → Client)
    (status : CscEvents) : Client × Option CscEvents :=
  if !c.continueReadFlag then (c, none)
  else if result = 0x00 then (success { c with continueReadFlag := false }, some status)
  else (c.enqueueCommandToFrontOnIoThread ⟨c.currentCmd, .null⟩, none)

/-- `handleCmdResponse` for the answer to a chunk. -/
def handleChunkResponse (c : Client) (payload : List UInt8) : Client × Option CscEvents :=
  let result := payload.headD 0
  let status := resultStatus c.currentCmd result
  if result = 0x00 then
    if awaitsMore payload then
      ((c.note (.acknowledged c.currentCmd)).processEvent .sendNextChunkCommand, none)
    else
      ((c.processEvent .allChunkCommandCompleted).processUploadLcscFilesEvent .cdfileUploaded,
        status)
  else
    let c := (c.processEvent .chunkCommandError).processUploadLcscFilesEvent .cdfileUploadFailed
    (if result = 0x03 then c.enqueueCommandOnIoThread ⟨.login1, .null⟩ else c, status)

/-- `LCSCReader::handleCmdResponse`, and the status of the event it returns the text of.  What
a response is too short for is read beyond its end in the source, and as zero here. -/
def handleCmdResponse (c : Client) (payload : List UInt8) : Client × Option CscEvents :=
  let result := payload.headD 0
  let status := resultStatus c.currentCmd result
  match c.currentCmd with
  | .login1 =>
      (if result = 0x00 then
        c.enqueueCommandOnIoThread ⟨.login2, .bytes ((payload.drop 17).take 16)⟩ else c, status)
  | .getCardId => c.handlePollResponse result sendGetCardBalance .sGetIDSuccess
  | .cardBalance => c.handlePollResponse result id .sGetBlcSuccess
  | .cardDeduct =>
      (if result = 0x00 then
        match seedOf payload with
        | some seed => c.enqueueCommandToFrontOnIoThread ⟨.cardFlush, .amount seed⟩
        | none => c
      else c, status)
  | .uploadCfgFile | .uploadCilFile | .uploadBlFile => c.handleChunkResponse payload
  | _ => (c, status)

/-- `LCSCReader::handleReceivedCmd` -/
def handleReceivedCmd (c : Client) (msgDataBuff : List UInt8) : Client :=
  match checkResponse c.currentCmd msgDataBuff with
  | .error status =>
      let c := (c.cancel .rsp).handleCmdErrorOrTimeout status
      let c :=
        if isChunkedCommand c.currentCmd then c.processUploadLcscFilesEvent .cdfileUploadFailed
        else c
      c.processEvent .responseRejected
  | .ok msg =>
      let (c, status) := (c.cancel .rsp).handleCmdResponse msg.payload
      let c :=
        match status with
        | some status =>
            c.note (.event c.currentCmd status (some ⟨msg.payload, c.receivedAfter⟩))
        | none => c
      if !isChunkedCommand c.currentCmd then c.processEvent .responseHandled else c

/-! ## The state handlers -/

/-- `LCSCReader::handleIdleState` -/
def handleIdleState (c : Client) (event : Event) : Client :=
  if event = .commandEnqueued then c.popFromCommandQueueAndEnqueueWrite.start .serialWrite
  else if event = .chunkCommandEnqueued then
    c.popFromChunkCommandQueueAndEnqueueWrite.start .serialWrite
  else c

/-- `LCSCReader::handleSendingRequestAsyncState` -/
def handleSendingRequestAsyncState (c : Client) (event : Event) : Client :=
  if event = .writeCompleted then (c.cancel .serialWrite).start .rsp
  else if event = .writeFailed then (c.cancel .serialWrite).handleCmdErrorOrTimeout .sSendcmdfail
  else if event = .writeTimeout then c.handleCmdErrorOrTimeout .sSendcmdfail
  else c

/-- The current frame is taken out of the receive buffer. -/
def handleRxBuffer (c : Client) : Client :=
  let frame := c.receiver.rxBuffer
  { c with receiver := { c.receiver with rxBuffer := [] } }.handleReceivedCmd frame

/-- `LCSCReader::handleWaitingForResponseState` -/
def handleWaitingForResponseState (c : Client) (event : Event) : Client :=
  if event = .responseTimeout then c.handleCmdErrorOrTimeout .sTimeout
  else if event = .responseReceived then c.handleRxBuffer
  else c

/-- What a chunk command ends with that has failed. -/
def failChunks (c : Client) (msgStatus : CscEvents) : Client :=
  (c.handleCmdErrorOrTimeout msgStatus).clearChunkCommandQueue.processUploadLcscFilesEvent
    .cdfileUploadFailed

/-- `LCSCReader::handleSendingChunkCommandRequestAsyncState` -/
def handleSendingChunkCommandRequestAsyncState (c : Client) (event : Event) : Client :=
  if event = .writeCompleted then (c.cancel .serialWrite).start .rsp
  else if event = .writeFailed then (c.cancel .serialWrite).failChunks .sSendcmdfail
  else if event = .writeTimeout then c.failChunks .sSendcmdfail
  else if event = .chunkCommandError then (c.cancel .serialWrite).failChunks .rNotRespCmd
  else c

/-- `LCSCReader::handleWaitingForChunkCommandResponseState` -/
def handleWaitingForChunkCommandResponseState (c : Client) (event : Event) : Client :=
  if event = .responseTimeout then c.failChunks .sTimeout
  else if event = .responseReceived then c.handleRxBuffer
  else if event = .responseRejected then c.clearChunkCommandQueue
  else if event = .sendNextChunkCommand then c.sendNextChunkCommandData.start .serialWrite
  -- the chunks that may be left stay in the queue
  else if event = .allChunkCommandCompleted then c
  else if event = .chunkCommandError then
    (c.handleCmdErrorOrTimeout .rNotRespCmd).clearChunkCommandQueue
  else c

end Client

/-- `LCSCReader::stateTransitionTable`: the next state of an event that a state knows. -/
def stateTransitionTable : State → Event → Option State
  | .idle, .commandEnqueued => some .sendingRequestAsync
  | .idle, .chunkCommandEnqueued => some .sendingChunkCommandRequestAsync
  | .sendingRequestAsync, .writeCompleted => some .waitingForResponse
  | .sendingRequestAsync, .writeFailed => some .idle
  | .sendingRequestAsync, .writeTimeout => some .idle
  | .waitingForResponse, .responseReceived => some .waitingForResponse
  | .waitingForResponse, .responseHandled => some .idle
  | .waitingForResponse, .responseRejected => some .idle
  | .waitingForResponse, .responseTimeout => some .idle
  | .sendingChunkCommandRequestAsync, .writeCompleted => some .waitingForChunkCommandResponse
  | .sendingChunkCommandRequestAsync, .writeFailed => some .idle
  | .sendingChunkCommandRequestAsync, .writeTimeout => some .idle
  | .sendingChunkCommandRequestAsync, .chunkCommandError => some .idle
  | .waitingForChunkCommandResponse, .responseReceived => some .waitingForChunkCommandResponse
  | .waitingForChunkCommandResponse, .responseRejected => some .idle
  | .waitingForChunkCommandResponse, .responseTimeout => some .idle
  | .waitingForChunkCommandResponse, .sendNextChunkCommand => some .sendingChunkCommandRequestAsync
  | .waitingForChunkCommandResponse, .allChunkCommandCompleted => some .idle
  | .waitingForChunkCommandResponse, .chunkCommandError => some .idle
  | _, _ => none

namespace Client

/-- The event handler the table names for a state. -/
def eventHandler (c : Client) (event : Event) : Client :=
  match c.currentState with
  | .idle => c.handleIdleState event
  | .sendingRequestAsync => c.handleSendingRequestAsyncState event
  | .waitingForResponse => c.handleWaitingForResponseState event
  | .sendingChunkCommandRequestAsync => c.handleSendingChunkCommandRequestAsyncState event
  | .waitingForChunkCommandResponse => c.handleWaitingForChunkCommandResponseState event

/-- The state after a transition; in `IDLE` the queue is looked at. -/
def enter (c : Client) (next : State) : Client :=
  let c := { c with currentState := next }
  if next = .idle then c.post .checkCommandQueue else c

/-- The handler that `processEvent` posts. -/
def runEvent (c : Client) (event : Event) : Client :=
  match stateTransitionTable c.currentState event with
  | none => c
  | some next => (c.eventHandler event).enter next

/-! ## Handlers and inputs -/

/-- `LCSCReader::readEnd` without an error -/
def readEnd (c : Client) (data : List UInt8) (lastWritten : ℕ) : Client :=
  let c := if data ≠ [] then { c with lastSerialReadTime := some c.now } else c
  let received := isRxResponseComplete c.receiver data
  let c := { c with receiver := received.1 }
  let c :=
    if received.2 then { c with receivedAfter := lastWritten }.processEvent .responseReceived
    else c
  { c with reading := true }

/-- The completion handler of a timer that has expired. -/
def runExpired (c : Client) : Timer → Client
  | .rsp => c.processEvent .responseTimeout
  | .serialWriteDelay => c.startWrite
  | .serialWrite => c.handleSerialWriteTimeout

/-- One handler on the thread of the context. -/
def runHandler (c : Client) : Handler → Client
  | .event event => c.runEvent event
  | .checkCommandQueue => c.checkCommandQueue
  | .enqueueCommandOnIoThread command => c.enqueueCommandOnIoThread command
  | .expired timer => c.runExpired timer
  | .writeEnd error => c.writeEnd error
  | .readEnd data lastWritten => c.readEnd data lastWritten
  | .readFailed => { c with reading := true }

end Client

/-- The functions of `LCSCReader` that send a command. -/
inductive Request
  | getStatusCmd
  | getLoginCmd
  | getLogoutCmd
  | getCardIdCmd
  | getCardBalance
  | cardDeduct (amount : UInt32)
  | cardRecord
  | cardFlush (seed : UInt32)
  | getTime
  | setTime
  | uploadCfgFile (fileData : List UInt8)
  | uploadCilFile (fileData : List UInt8)
  | uploadBlFile (fileData : List UInt8)
  deriving DecidableEq, Repr

/-- What a function enqueues; a file of six bytes or less is refused. -/
def Request.command : Request → Option CommandWithData
  | .getStatusCmd => some ⟨.getStatusCmd, .null⟩
  | .getLoginCmd => some ⟨.login1, .null⟩
  | .getLogoutCmd => some ⟨.logout, .null⟩
  | .getCardIdCmd => some ⟨.getCardId, .null⟩
  | .getCardBalance => some ⟨.cardBalance, .null⟩
  | .cardDeduct amount => some ⟨.cardDeduct, .amount amount⟩
  | .cardRecord => some ⟨.cardRecord, .null⟩
  | .cardFlush seed => some ⟨.cardFlush, .amount seed⟩
  | .getTime => some ⟨.getTime, .null⟩
  | .setTime => some ⟨.setTime, .null⟩
  | .uploadCfgFile fileData =>
      if fileData.length > 6 then some ⟨.uploadCfgFile, .chunks (cfgChunks fileData)⟩ else none
  | .uploadCilFile fileData =>
      if fileData.length > 6 then some ⟨.uploadCilFile, .chunks (cilChunks fileData)⟩ else none
  | .uploadBlFile fileData =>
      if fileData.length > 6 then some ⟨.uploadBlFile, .chunks (blChunks fileData)⟩ else none

/-- The requests that turn the continuous reading on. -/
def Request.polls : Request → Bool
  | .getCardIdCmd | .getCardBalance => true
  | _ => false

/-- What happens to the client from outside. -/
inductive Input
  | run
  | expire (timer : Timer)
  | writeDone (success : Bool)
  | readDone (data : List UInt8)
  | readFailed
  | send (request : Request)
  /-- `FnLCSCReaderStopRead` -/
  | stopRead
  | clock (epochSeconds : UInt32)
  | elapse (milliseconds : ℕ)

namespace Client

/-- A command from another thread, which sets the flag of the continuous reading itself. -/
def send (c : Client) (request : Request) : Client :=
  let c := if request.polls then { c with continueReadFlag := true } else c
  match request.command with
  | none => c
  | some command => c.post (.enqueueCommandOnIoThread command)

/-- One input.  Completions only come for what is under way. -/
def step (c : Client) : Input → Client
  | .run =>
      match c.posted with
      | [] => c
      | handler :: rest => { c with posted := rest }.runHandler handler
  | .expire timer => if c.armed timer then (c.cancel timer).post (.expired timer) else c
  | .writeDone success =>
      match c.writing with
      | [] => c
      | frame :: rest =>
          let c := { c with writing := rest }
          if success then
            ({ c with lastWritten := frame.number }.note (.written frame)).post (.writeEnd .none)
          else c.post (.writeEnd .other)
  | .readDone data =>
      if c.reading then { c with reading := false }.post (.readEnd data c.lastWritten) else c
  | .readFailed => if c.reading then { c with reading := false }.post .readFailed else c
  | .send request => c.send request
  | .stopRead => { c with continueReadFlag := false }
  | .clock epochSeconds => { c with epochSeconds := epochSeconds }
  | .elapse milliseconds => { c with now := c.now + milliseconds }

/-- The client behind `FnLCSCReaderInit`. -/
def init (evp : Evp) (epochSeconds : UInt32) : Client :=
  ({ evp := evp, epochSeconds := epochSeconds, now := 0 } : Client).enqueueCommandOnIoThread
    ⟨.login1, .null⟩

end Client

end LinuxPBS.Lcsc

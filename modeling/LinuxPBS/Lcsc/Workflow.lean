import Mathlib.Data.Int.Notation
import LinuxPBS.Lcsc.Client

/-!
# The upload workflow of the card reader

The workflow of `lcsc.cpp` that fetches the CD files, uploads one after the other to the reader
and deletes it, and writes the acknowledgement (CDACK) when none is left.

```text
IDLE -ALLOW_DOWNLOAD / CONTINUE_UPLOAD-> DOWNLOAD_CDFILES -CDFILES_DOWNLOADED-> UPLOAD_CDFILES
UPLOAD_CDFILES -CDFILE_CLEANUP_COMPLETED / FAILED-> IDLE
UPLOAD_CDFILES -GET_LCSC_DEVICE_STATUS-> GENERATE_CDACKFILES -GET_LCSC_DEVICE_STATUS_OK->
MOVE_CDACKFILES -CDACK_FINALIZE_COMPLETED / FAILED-> IDLE
```

Its handlers share the context with those of `Client`.  They have a queue of their own here, and
which of the two queues comes next is left to the inputs, so that the orders of the one queue
are among the runs.  The work on files is done by the two workers of `filePool_`, whose jobs
end in any order; what a job finds comes with the input that ends it.

The reader is initialised and not yet closed, and has its workers.  The texts of the log, the
share the files come from and the content of the acknowledgement are left out.
-/

namespace LinuxPBS.Lcsc

/-! ## Data -/

/-- `LCSCReader::UPLOAD_LCSC_FILES_STATE` -/
inductive UploadLcscFilesState
  | idle
  | downloadCdfiles
  | uploadCdfiles
  | generateCdackfiles
  | moveCdackfiles
  deriving DecidableEq, Repr

/-- `LCSCReader::UPLOAD_LCSC_FILES_EVENT`, with the path that goes with it -/
inductive UploadLcscFilesEvent
  | checkCondition
  | allowDownload
  | continueUpload
  | cdfilesDownloaded
  | noCdfilesDownloaded
  | cdfilesUploading (path : List Char)
  | getLcscDeviceStatus
  | cdfileUploaded
  | cdfileUploadFailed
  | cdfileCleanupCompleted
  | cdfileCleanupFailed
  | getLcscDeviceStatusOk
  | getLcscDeviceStatusFailed
  | cdackFinalizeCompleted
  | cdackFinalizeFailed
  deriving DecidableEq, Repr

/-- What the workflow posts to the context. -/
inductive FilesHandler
  | event (event : UploadLcscFilesEvent)
  /-- `startScanDownloadedCdFilesJob` has found a file; the empty path is none -/
  | scanned (cdFileName : List Char)
  /-- `postFailure` of `FnUploadCDFile2` -/
  | failed (cmd : Cmd)
  deriving DecidableEq, Repr

/-- What is posted to `filePool_`. -/
inductive FileJob
  | downloadCdFiles
  | scanDownloadedCdFiles
  | uploadCdFile (path : List Char)
  | cleanupCdFile (path : List Char)
  | finalizeCdAckFiles
  deriving DecidableEq, Repr

/-- What a job finds. -/
structure FileAnswer where
  /-- the result of `FnDownloadCDFiles` -/
  downloaded : Bool := false
  /-- the names in the local folder, as far as they can be read -/
  names : List (List Char) := []
  /-- the bytes of a file, none if it cannot be read -/
  fileData : List UInt8 := []
  /-- the error of `std::filesystem::remove` -/
  failed : Bool := false
  /-- the result of `FnGenerateCDAckFile` and `FnMoveCDAckFile` -/
  success : Bool := false

/-- What the workflow does about a file, and about the acknowledgement. -/
inductive FileOutcome
  /-- the upload of a file is started -/
  | started (path : List Char)
  /-- the event of a command that has not been sent -/
  | failed (cmd : Cmd) (msgStatus : CscEvents)
  /-- `CDFILE_UPLOADED` or `CDFILE_UPLOAD_FAILED` is posted -/
  | ended (event : UploadEvent)
  /-- the cleanup of a file is started -/
  | cleanup (path : List Char)
  /-- a file is removed -/
  | removed (path : List Char)
  /-- a cleanup has ended -/
  | cleaned
  /-- the acknowledgement is begun, and it is done with -/
  | generating
  | generated
  deriving DecidableEq, Repr

/-- The members of `LCSCReader` that the workflow works on, and the clock. -/
structure Workflow where
  client : Client
  commPortLCSC : ℤ
  currentHour : ℕ
  currentDay : ℕ
  currentUploadLcscFilesState : UploadLcscFilesState := .idle
  hasCDFileToUpload : Bool := false
  lastCDUploadDate : ℕ := 0
  lastCDUploadTime : ℕ := 0
  uploadLcscFileName : List Char := []
  posted : List FilesHandler := []
  filePool : List FileJob := []
  log : List FileOutcome := []

/-- `LOCAL_LCSC_FOLDER_PATH` -/
def localLcscFolderPath : List Char := "/home/root/carpark/LTA".toList

/-- The names that `startScanDownloadedCdFilesJob` takes. -/
def isCdFile (filename : List Char) : Bool :=
  (decide (4 ≤ filename.length) && !(['.', 'l', 'c', 's'].isSuffixOf filename)) &&
    (decide (6 ≤ filename.length) && !(['.', 'c', 'd', 'a', 'c', 'k'].isSuffixOf filename)) &&
    (decide (4 ≤ filename.length) && !(['.', 'c', 'f', 'g'].isSuffixOf filename))

/-- The path of the first file to upload. -/
def scanDownloadedCdFiles (names : List (List Char)) : List Char :=
  match names.find? isCdFile with
  | some filename => localLcscFolderPath ++ '/' :: filename
  | none => []

/-- The function that uploads a file with this extension. -/
def uploadRequest (path : List Char) (fileData : List UInt8) : Option Request :=
  if ['.', 'z', 'i', 'p'].isSuffixOf path then some (.uploadCfgFile fileData)
  else if ['.', 's', 'y', 's'].isSuffixOf path then some (.uploadCilFile fileData)
  else if ['.', 'b', 'l', 'k'].isSuffixOf path then some (.uploadBlFile fileData)
  else none

/-- The command of a request. -/
def Request.cmd : Request → Cmd
  | .getStatusCmd => .getStatusCmd
  | .getLoginCmd => .login1
  | .getLogoutCmd => .logout
  | .getCardIdCmd => .getCardId
  | .getCardBalance => .cardBalance
  | .cardDeduct _ => .cardDeduct
  | .cardRecord => .cardRecord
  | .cardFlush _ => .cardFlush
  | .getTime => .getTime
  | .setTime => .setTime
  | .uploadCfgFile _ => .uploadCfgFile
  | .uploadCilFile _ => .uploadCilFile
  | .uploadBlFile _ => .uploadBlFile

/-- `LCSCReader::UploadLcscStateTransitionTable` -/
def uploadLcscStateTransitionTable :
    UploadLcscFilesState → UploadLcscFilesEvent → Option UploadLcscFilesState
  | .idle, .checkCondition => some .idle
  | .idle, .allowDownload => some .downloadCdfiles
  | .idle, .continueUpload => some .downloadCdfiles
  | .downloadCdfiles, .cdfilesDownloaded => some .uploadCdfiles
  | .downloadCdfiles, .noCdfilesDownloaded => some .idle
  | .uploadCdfiles, .cdfilesUploading _ => some .uploadCdfiles
  | .uploadCdfiles, .getLcscDeviceStatus => some .generateCdackfiles
  -- the upload has ended, and the state is kept until the file has been cleaned up
  | .uploadCdfiles, .cdfileUploaded => some .uploadCdfiles
  | .uploadCdfiles, .cdfileUploadFailed => some .uploadCdfiles
  | .uploadCdfiles, .cdfileCleanupCompleted => some .idle
  | .uploadCdfiles, .cdfileCleanupFailed => some .idle
  | .generateCdackfiles, .getLcscDeviceStatusOk => some .moveCdackfiles
  | .generateCdackfiles, .getLcscDeviceStatusFailed => some .idle
  | .moveCdackfiles, .cdackFinalizeCompleted => some .idle
  | .moveCdackfiles, .cdackFinalizeFailed => some .idle
  | _, _ => none

namespace Workflow

/-- `boost::asio::post` -/
def post (w : Workflow) (handler : FilesHandler) : Workflow :=
  { w with posted := w.posted ++ [handler] }

/-- One more entry of the log. -/
def note (w : Workflow) (outcome : FileOutcome) : Workflow := { w with log := outcome :: w.log }

/-- `boost::asio::post` to `filePool_` -/
def startJob (w : Workflow) (job : FileJob) : Workflow :=
  { w with filePool := w.filePool ++ [job] }

/-- `LCSCReader::processUploadLcscFilesEvent`; the two events that end an upload are logged. -/
def processUploadLcscFilesEvent (w : Workflow) (event : UploadLcscFilesEvent) : Workflow :=
  let w := w.post (.event event)
  match event with
  | .cdfileUploaded => w.note (.ended .cdfileUploaded)
  | .cdfileUploadFailed => w.note (.ended .cdfileUploadFailed)
  | _ => w

/-! ## The jobs -/

/-- `LCSCReader::FnUploadCDFile2` -/
def uploadCdFile2 (w : Workflow) (path : List Char) (fileData : List UInt8) : Workflow :=
  if path = [] then w.processUploadLcscFilesEvent .cdfileUploadFailed
  else
    match uploadRequest path fileData with
    | none => w.processUploadLcscFilesEvent .cdfileUploadFailed
    | some request =>
        -- the functions that send a file refuse one of six bytes or less
        if request.command = none then w.post (.failed request.cmd)
        else { w with client := w.client.send request }

/-- `LCSCReader::startCleanupCdFileJob` -/
def startCleanupCdFileJob (w : Workflow) (path : List Char) : Workflow :=
  let w := w.note (.cleanup path)
  if path = [] then w.processUploadLcscFilesEvent .cdfileCleanupCompleted
  else w.startJob (.cleanupCdFile path)

/-- A worker has done a job. -/
def finishJob (w : Workflow) (answer : FileAnswer) : FileJob → Workflow
  | .downloadCdFiles =>
      w.processUploadLcscFilesEvent
        (if answer.downloaded then .cdfilesDownloaded else .noCdfilesDownloaded)
  | .scanDownloadedCdFiles => w.post (.scanned (scanDownloadedCdFiles answer.names))
  | .uploadCdFile path => w.uploadCdFile2 path answer.fileData
  | .cleanupCdFile path =>
      (w.note (.removed path)).processUploadLcscFilesEvent
        (if answer.failed then .cdfileCleanupFailed else .cdfileCleanupCompleted)
  | .finalizeCdAckFiles =>
      w.processUploadLcscFilesEvent
        (if answer.success then .cdackFinalizeCompleted else .cdackFinalizeFailed)

/-! ## The state handlers -/

/-- `LCSCReader::handleUploadLcscIdleState` -/
def handleUploadLcscIdleState (w : Workflow) : UploadLcscFilesEvent → Workflow
  | .checkCondition =>
      if 0 < w.commPortLCSC ∧ w.currentHour < 20 then
        if w.hasCDFileToUpload = false ∧ w.lastCDUploadDate ≠ w.currentDay ∧
            w.lastCDUploadTime ≠ w.currentHour then
          { w with lastCDUploadTime := w.currentHour }.processUploadLcscFilesEvent .allowDownload
        else if w.hasCDFileToUpload then w.processUploadLcscFilesEvent .continueUpload
        else w
      else w
  | .allowDownload => w.startJob .downloadCdFiles
  | .continueUpload => w.processUploadLcscFilesEvent .cdfilesDownloaded
  | _ => w

/-- `LCSCReader::handleDownloadCDFilesState` -/
def handleDownloadCDFilesState (w : Workflow) : UploadLcscFilesEvent → Workflow
  | .cdfilesDownloaded => { w with hasCDFileToUpload := true }.startJob .scanDownloadedCdFiles
  | _ => w

/-- `LCSCReader::handleUploadCDFilesState` -/
def handleUploadCDFilesState (w : Workflow) : UploadLcscFilesEvent → Workflow
  | .cdfilesUploading path => (w.note (.started path)).startJob (.uploadCdFile path)
  | .getLcscDeviceStatus =>
      { w.note .generating with
        client := w.client.enqueueCommandOnIoThread ⟨.getStatusCmd, .null⟩ }
  | .cdfileUploaded | .cdfileUploadFailed => w.startCleanupCdFileJob w.uploadLcscFileName
  | .cdfileCleanupCompleted | .cdfileCleanupFailed =>
      { w.note .cleaned with uploadLcscFileName := [] }
  | _ => w

/-- `LCSCReader::handleGenerateCDAckFilesState`; the versions in the answer are those of the
acknowledgement. -/
def handleGenerateCDAckFilesState (w : Workflow) : UploadLcscFilesEvent → Workflow
  | .getLcscDeviceStatusFailed => w.note .generated
  | .getLcscDeviceStatusOk => w.startJob .finalizeCdAckFiles
  | _ => w

/-- `LCSCReader::handleMoveCDAckFilesState` -/
def handleMoveCDAckFilesState (w : Workflow) : UploadLcscFilesEvent → Workflow
  | .cdackFinalizeCompleted =>
      { w.note .generated with hasCDFileToUpload := false, lastCDUploadDate := w.currentDay }
  | .cdackFinalizeFailed => w.note .generated
  | _ => w

/-- The event handler the table names for a state. -/
def lcscEventHandler (w : Workflow) (event : UploadLcscFilesEvent) : Workflow :=
  match w.currentUploadLcscFilesState with
  | .idle => w.handleUploadLcscIdleState event
  | .downloadCdfiles => w.handleDownloadCDFilesState event
  | .uploadCdfiles => w.handleUploadCDFilesState event
  | .generateCdackfiles => w.handleGenerateCDAckFilesState event
  | .moveCdackfiles => w.handleMoveCDAckFilesState event

/-- The handler that `processUploadLcscFilesEvent` posts. -/
def runEvent (w : Workflow) (event : UploadLcscFilesEvent) : Workflow :=
  match uploadLcscStateTransitionTable w.currentUploadLcscFilesState event with
  | none => w
  | some next => { w.lcscEventHandler event with currentUploadLcscFilesState := next }

/-- One handler of the workflow on the thread of the context. -/
def runHandler (w : Workflow) : FilesHandler → Workflow
  | .event event => w.runEvent event
  | .scanned cdFileName =>
      if cdFileName = [] then w.processUploadLcscFilesEvent .getLcscDeviceStatus
      else
        { w with uploadLcscFileName := cdFileName }.processUploadLcscFilesEvent
          (.cdfilesUploading cdFileName)
  | .failed cmd =>
      (w.note (.failed cmd .sSendcmdfail)).processUploadLcscFilesEvent .cdfileUploadFailed

/-! ## What the client tells the workflow -/

/-- The events that an entry of the log of the client stands for; a status command that fails
releases the workflow only while that waits for it. -/
def raisedBy (state : UploadLcscFilesState) : Outcome → List UploadLcscFilesEvent
  | .upload .cdfileUploaded => [.cdfileUploaded]
  | .upload .cdfileUploadFailed => [.cdfileUploadFailed]
  | .failed .getStatusCmd _ =>
      if state = .generateCdackfiles then [.getLcscDeviceStatusFailed] else []
  | _ => []

/-- `LCSCReader::handleUploadLcscGetStatusCmdResponse`, when an input makes the client handle the
answer to a status command. -/
def statusRaised (c : Client) (input : Input) : List UploadLcscFilesEvent :=
  match input, c.posted with
  | .run, .event .responseReceived :: _ =>
      if c.currentState = .waitingForResponse ∧ c.currentCmd = .getStatusCmd then
        match checkResponse c.currentCmd c.receiver.rxBuffer with
        | .ok msg =>
            if resultStatus .getStatusCmd (msg.payload.headD 0) = some .sGetStatusOK then
              [.getLcscDeviceStatusOk]
            else [.getLcscDeviceStatusFailed]
        | .error _ => []
      else []
  | _, _ => []

/-- The entries that a step of the client adds to its log, the oldest first. -/
def added (c c' : Client) : List Outcome := (c'.log.take (c'.log.length - c.log.length)).reverse

/-- An input of the client, and the events it raises. -/
def stepClient (w : Workflow) (input : Input) : Workflow :=
  let client := w.client.step input
  let events := (added w.client client).flatMap (raisedBy w.currentUploadLcscFilesState) ++
    statusRaised w.client input
  events.foldl processUploadLcscFilesEvent { w with client := client }

end Workflow

/-- The requests that upload a file. -/
def Request.uploads : Request → Bool
  | .uploadCfgFile _ | .uploadCilFile _ | .uploadBlFile _ => true
  | _ => false

/-- An input that asks for an upload. -/
def Input.uploads : Input → Bool
  | .send request => request.uploads
  | _ => false

/-- The inputs of the client that come from elsewhere: only the workflow uploads files. -/
abbrev OuterInput : Type := { input : Input // input.uploads = false }

/-- What happens to the workflow from outside. -/
inductive FilesInput
  | client (input : OuterInput)
  /-- the next handler of the workflow is run -/
  | run
  /-- a worker ends a job -/
  | work (index : ℕ) (answer : FileAnswer)
  /-- `FnUploadLCSCCDFiles` -/
  | uploadLcscCdFiles
  | clock (hour day : ℕ)

namespace Workflow

/-- One input. -/
def step (w : Workflow) : FilesInput → Workflow
  | .client input => w.stepClient input.val
  | .run =>
      match w.posted with
      | [] => w
      | handler :: rest => { w with posted := rest }.runHandler handler
  | .work index answer =>
      match w.filePool[index]? with
      | none => w
      | some job => { w with filePool := w.filePool.eraseIdx index }.finishJob answer job
  | .uploadLcscCdFiles => w.processUploadLcscFilesEvent .checkCondition
  | .clock hour day => { w with currentHour := hour, currentDay := day }

/-- The workflow behind `FnLCSCReaderInit`. -/
def init (evp : Evp) (epochSeconds : UInt32) (commPortLCSC : ℤ) (hour day : ℕ) : Workflow where
  client := Client.init evp epochSeconds
  commPortLCSC := commPortLCSC
  currentHour := hour
  currentDay := day

end Workflow

end LinuxPBS.Lcsc

import LinuxPBS.Lcsc.Stage

/-!
# What failures and responses leave alone

A command that has failed, and a response, are handled while the client is busy.  What they
do to it stands aside from its transitions (`Aside`): they write reports, they may put a
command into `commandQueue_`, which is not looked at before the client is idle, and a
response posts one event that ends the wait for it.
-/

namespace LinuxPBS.Lcsc

/-- A report on a command. -/
def Outcome.isReportOf (cmd : Cmd) : Outcome → Bool
  | .failed _ msgStatus => msgStatus ≠ .sSendcmdfail
  | .event other _ _ => other = cmd
  | .acknowledged _ | .upload .cdfileUploaded => isChunkedCommand cmd
  | .upload .cdfileUploadFailed => true
  | _ => false

theorem Outcome.isReport_of {cmd : Cmd} {outcome : Outcome}
    (hreport : outcome.isReportOf cmd = true) : outcome.isReport = true := by
  cases outcome with
  | failed cmd msgStatus => cases msgStatus <;> simp_all [isReportOf, isReport]
  | _ => simp_all [isReportOf, isReport]

theorem lastPrepared_reports {cmd : Cmd} {newer : List Outcome}
    (hreports : ∀ outcome ∈ newer, outcome.isReportOf cmd = true) (log : List Outcome) :
    lastPrepared (newer ++ log) = lastPrepared log := by
  induction newer with
  | nil => rfl
  | cons outcome newer ih =>
      rw [List.cons_append, lastPrepared_cons
        (Outcome.isReport_of (hreports outcome List.mem_cons_self))]
      exact ih fun other hmem => hreports other (List.mem_cons_of_mem _ hmem)

theorem LastWritten.reports {cmd : Cmd} {newer log : List Outcome} (hwritten : LastWritten log)
    (hreports : ∀ outcome ∈ newer, outcome.isReportOf cmd = true) :
    LastWritten (newer ++ log) := by
  induction newer with
  | nil => exact hwritten
  | cons outcome newer ih =>
      exact (ih fun other hmem => hreports other (List.mem_cons_of_mem _ hmem)).cons
        (Outcome.isReport_of (hreports outcome List.mem_cons_self))

theorem SentLast.reports {cmd : Cmd} {newer log : List Outcome} (hsent : SentLast log)
    (hreports : ∀ outcome ∈ newer, outcome.isReportOf cmd = true) : SentLast (newer ++ log) := by
  induction newer with
  | nil => exact hsent
  | cons outcome newer ih =>
      have hreport := hreports outcome List.mem_cons_self
      refine (ih fun other hmem => hreports other (List.mem_cons_of_mem _ hmem)).cons ?_ ?_
      · rintro frame rfl
        exact absurd hreport Bool.false_ne_true
      · rintro frame rfl
        exact absurd hreport Bool.false_ne_true

/-- The events that end the wait for a response, to a chunk or to another command. -/
def Event.endsWait (chunked : Bool) : Event → Bool
  | .responseRejected => true
  | .responseHandled => !chunked
  | .sendNextChunkCommand | .allChunkCommandCompleted | .chunkCommandError => chunked
  | _ => false

theorem Event.kind_of_endsWait {chunked : Bool} {event : Event}
    (hends : event.endsWait chunked = true) : event.kind = .settle := by
  cases event <;> first | rfl | exact absurd hends Bool.false_ne_true

/-- The commands of the second list are those of the first one, and some that are no uploads. -/
def Extends (commands commands' : List CommandWithData) : Prop :=
  ∀ command ∈ commands', command ∈ commands ∨ isChunkedCommand command.cmd = false

theorem Extends.refl (commands : List CommandWithData) : Extends commands commands :=
  fun _ hmem => .inl hmem

theorem Extends.trans {first second third : List CommandWithData}
    (hfirst : Extends first second) (hsecond : Extends second third) : Extends first third :=
  fun command hmem => (hsecond command hmem).elim (hfirst command) .inr

theorem Extends.front {commands : List CommandWithData} {command : CommandWithData}
    (hplain : isChunkedCommand command.cmd = false) : Extends commands (command :: commands) := by
  intro other hmem
  rcases List.mem_cons.mp hmem with rfl | hold
  · exact .inr hplain
  · exact .inl hold

theorem Extends.back {commands : List CommandWithData} {command : CommandWithData}
    (hplain : isChunkedCommand command.cmd = false) :
    Extends commands (commands ++ [command]) := by
  intro other hmem
  rcases List.mem_append.mp hmem with hold | hnew
  · exact .inl hold
  · exact .inr (List.mem_singleton.mp hnew ▸ hplain)

namespace Client

/-- The second client is the first one but for reports, commands to come and the flag. -/
def Aside (c c' : Client) : Prop :=
  ∃ newer commandQueue continueReadFlag,
    c' = { c with
      log := newer ++ c.log
      commandQueue := commandQueue
      continueReadFlag := continueReadFlag } ∧
    (∀ outcome ∈ newer, outcome.isReportOf c.currentCmd = true) ∧
    Extends c.commandQueue commandQueue

variable {c c' c'' : Client}

theorem Aside.refl (c : Client) : c.Aside c :=
  ⟨[], c.commandQueue, c.continueReadFlag, rfl, by simp, .refl _⟩

theorem Aside.trans (hfirst : c.Aside c') (hsecond : c'.Aside c'') : c.Aside c'' := by
  obtain ⟨newer, commandQueue, flag, rfl, hnewer, hqueue⟩ := hfirst
  obtain ⟨newest, commandQueue', flag', rfl, hnewest, hqueue'⟩ := hsecond
  refine ⟨newest ++ newer, commandQueue', flag', by simp, ?_, hqueue.trans hqueue'⟩
  intro outcome hmem
  rcases List.mem_append.mp hmem with hmem | hmem
  · exact hnewest outcome hmem
  · exact hnewer outcome hmem

theorem Aside.state (haside : c.Aside c') : c'.currentState = c.currentState := by
  obtain ⟨_, _, _, rfl, -⟩ := haside
  rfl

theorem Aside.cmd (haside : c.Aside c') : c'.currentCmd = c.currentCmd := by
  obtain ⟨_, _, _, rfl, -⟩ := haside
  rfl

theorem aside_note {outcome : Outcome} (hreport : outcome.isReportOf c.currentCmd = true) :
    c.Aside (c.note outcome) :=
  ⟨[outcome], c.commandQueue, c.continueReadFlag, rfl, by simpa using hreport, .refl _⟩

theorem aside_flag (flag : Bool) : c.Aside { c with continueReadFlag := flag } :=
  ⟨[], c.commandQueue, flag, rfl, by simp, .refl _⟩

/-! ## Commands to come -/

theorem aside_enqueueCommandOnIoThread (hbusy : c.currentState ≠ .idle)
    {command : CommandWithData} (hplain : isChunkedCommand command.cmd = false) :
    c.Aside (c.enqueueCommandOnIoThread command) := by
  have hsame : c.enqueueCommandOnIoThread command =
      { c with commandQueue := c.commandQueue ++ [command] } := if_pos hbusy
  rw [hsame]
  exact ⟨[], _, c.continueReadFlag, rfl, by simp, .back hplain⟩

/-- While the client is busy a command is only put into the queue. -/
theorem enqueueCommandToFrontOnIoThread_busy (hbusy : c.currentState ≠ .idle)
    (command : CommandWithData) :
    ∃ commandQueue, c.enqueueCommandToFrontOnIoThread command =
      { c with commandQueue := commandQueue } := by
  unfold enqueueCommandToFrontOnIoThread
  split
  · exact ⟨c.commandQueue, rfl⟩
  · exact ⟨command :: c.commandQueue, if_pos hbusy⟩

theorem aside_enqueueCommandToFrontOnIoThread (hbusy : c.currentState ≠ .idle)
    {command : CommandWithData} (hplain : isChunkedCommand command.cmd = false) :
    c.Aside (c.enqueueCommandToFrontOnIoThread command) := by
  unfold enqueueCommandToFrontOnIoThread
  split
  · exact .refl c
  · have hsame : { c with commandQueue := command :: c.commandQueue }.checkCommandQueue =
        { c with commandQueue := command :: c.commandQueue } := if_pos hbusy
    rw [hsame]
    exact ⟨[], _, c.continueReadFlag, rfl, by simp, .front hplain⟩

/-! ## Failures -/

/-- What is left to do when a failure has been noted. -/
theorem aside_handleCmdErrorOrTimeout (hbusy : c.currentState ≠ .idle) (msgStatus : CscEvents) :
    (c.note (.failed c.currentCmd msgStatus)).Aside (c.handleCmdErrorOrTimeout msgStatus) := by
  unfold handleCmdErrorOrTimeout
  simp only
  split
  · split
    · refine aside_enqueueCommandToFrontOnIoThread ?_ rfl
      exact hbusy
    · exact .refl _
  · split
    · refine aside_enqueueCommandToFrontOnIoThread ?_ rfl
      exact hbusy
    · exact .refl _
  · exact aside_note (by simp [Outcome.isReportOf, note])

theorem aside_failure (hbusy : c.currentState ≠ .idle) {msgStatus : CscEvents}
    (hstatus : msgStatus ≠ .sSendcmdfail) : c.Aside (c.handleCmdErrorOrTimeout msgStatus) :=
  (aside_note (by simpa [Outcome.isReportOf] using hstatus)).trans
    (aside_handleCmdErrorOrTimeout hbusy msgStatus)

/-! ## Responses -/

theorem checkResponse_error {currentCmd : Cmd} {msgDataBuff : List UInt8} {status : CscEvents}
    (herror : checkResponse currentCmd msgDataBuff = .error status) : status ≠ .sSendcmdfail := by
  unfold checkResponse parseFrame at herror
  rintro rfl
  grind

theorem aside_handlePollResponse (hbusy : c.currentState ≠ .idle)
    (hplain : isChunkedCommand c.currentCmd = false) (result : UInt8) {success : Client → Client}
    (hsuccess : ∀ d : Client, d.currentState ≠ .idle → d.Aside (success d)) (status : CscEvents) :
    c.Aside (c.handlePollResponse result success status).1 := by
  unfold handlePollResponse
  split
  · exact .refl c
  · split
    · exact (aside_flag false).trans (hsuccess _ hbusy)
    · exact aside_enqueueCommandToFrontOnIoThread hbusy hplain

theorem aside_sendGetCardBalance (hbusy : c.currentState ≠ .idle) :
    c.Aside c.sendGetCardBalance := by
  refine (aside_flag true).trans (aside_enqueueCommandOnIoThread ?_ rfl)
  exact hbusy

theorem aside_handleCmdResponse (hbusy : c.currentState ≠ .idle)
    (hplain : isChunkedCommand c.currentCmd = false) (payload : List UInt8) :
    c.Aside (c.handleCmdResponse payload).1 := by
  unfold handleCmdResponse
  simp only
  split
  · split
    · exact aside_enqueueCommandOnIoThread hbusy rfl
    · exact .refl c
  · exact aside_handlePollResponse hbusy hplain _ (fun d hd => aside_sendGetCardBalance hd) _
  · exact aside_handlePollResponse hbusy hplain _ (fun d _ => .refl d) _
  · split
    · split
      · exact aside_enqueueCommandToFrontOnIoThread hbusy rfl
      · exact .refl c
    · exact .refl c
  · exact absurd hplain (by simp_all [isChunkedCommand])
  · exact absurd hplain (by simp_all [isChunkedCommand])
  · exact absurd hplain (by simp_all [isChunkedCommand])
  · exact .refl c

/-- The event that the answer to a chunk posts. -/
def chunkEvent (payload : List UInt8) : Event :=
  if payload.headD 0 = 0x00 then
    if awaitsMore payload then .sendNextChunkCommand else .allChunkCommandCompleted
  else .chunkCommandError

/-- The reports on the answer to a chunk. -/
def chunkReport (cmd : Cmd) (payload : List UInt8) : Outcome :=
  if payload.headD 0 = 0x00 then
    if awaitsMore payload then .acknowledged cmd else .upload .cdfileUploaded
  else .upload .cdfileUploadFailed

theorem handleChunkResponse_eq (hbusy : c.currentState ≠ .idle) (payload : List UInt8) :
    ∃ d, (c.note (chunkReport c.currentCmd payload)).Aside d ∧ d.log =
        chunkReport c.currentCmd payload :: c.log ∧
      (c.handleChunkResponse payload).1 = d.processEvent (chunkEvent payload) := by
  unfold handleChunkResponse chunkReport chunkEvent
  by_cases hresult : payload.headD 0 = 0x00
  · by_cases hmore : awaitsMore payload
    · simp only [if_pos hresult, if_pos hmore]
      exact ⟨_, .refl _, rfl, rfl⟩
    · simp only [if_pos hresult, if_neg hmore]
      exact ⟨_, .refl _, rfl, rfl⟩
  · simp only [if_neg hresult]
    split
    · refine ⟨{ c.note (.upload .cdfileUploadFailed) with
        commandQueue := c.commandQueue ++ [⟨.login1, .null⟩] }, ?_, rfl, ?_⟩
      · exact ⟨[], _, c.continueReadFlag, rfl, by simp, .back rfl⟩
      · exact if_pos hbusy
    · exact ⟨_, .refl _, rfl, rfl⟩

theorem handleCmdResponse_chunk (hchunk : isChunkedCommand c.currentCmd = true)
    (payload : List UInt8) : c.handleCmdResponse payload = c.handleChunkResponse payload := by
  unfold handleCmdResponse
  split <;> simp_all [isChunkedCommand]

/-- The event for a response, if there is one. -/
def noteStatus (c : Client) (status : Option CscEvents) (payload : List UInt8) : Client :=
  match status with
  | some status => c.note (.event c.currentCmd status (some ⟨payload, c.receivedAfter⟩))
  | none => c

theorem aside_noteStatus (status : Option CscEvents) (payload : List UInt8) :
    c.Aside (c.noteStatus status payload) := by
  unfold noteStatus
  split
  · exact aside_note (by simp [Outcome.isReportOf])
  · exact .refl c

theorem noteStatus_processEvent (status : Option CscEvents) (payload : List UInt8)
    (event : Event) : (c.processEvent event).noteStatus status payload =
      (c.noteStatus status payload).processEvent event := by
  cases status <;> rfl

theorem handleReceivedCmd_error {msgDataBuff : List UInt8} {status : CscEvents}
    (hstatus : checkResponse c.currentCmd msgDataBuff = .error status) :
    c.handleReceivedCmd msgDataBuff =
      (if isChunkedCommand ((c.cancel .rsp).handleCmdErrorOrTimeout status).currentCmd then
        ((c.cancel .rsp).handleCmdErrorOrTimeout status).processUploadLcscFilesEvent
          .cdfileUploadFailed
      else (c.cancel .rsp).handleCmdErrorOrTimeout status).processEvent .responseRejected := by
  simp only [handleReceivedCmd, hstatus]

theorem handleReceivedCmd_ok {msgDataBuff : List UInt8} {msg : CscPacket}
    (hmsg : checkResponse c.currentCmd msgDataBuff = .ok msg) :
    c.handleReceivedCmd msgDataBuff =
      let handled := (c.cancel .rsp).handleCmdResponse msg.payload
      let d := handled.1.noteStatus handled.2 msg.payload
      if !isChunkedCommand d.currentCmd then d.processEvent .responseHandled else d := by
  simp only [handleReceivedCmd, hmsg]
  rfl

theorem endsWait_chunkEvent (payload : List UInt8) :
    (chunkEvent payload).endsWait true = true := by
  unfold chunkEvent
  split
  · split <;> rfl
  · rfl

/-- A response is handled aside, and one event ends the wait for it. -/
theorem handleReceivedCmd_eq (hbusy : c.currentState ≠ .idle) (msgDataBuff : List UInt8) :
    ∃ settle d, settle.endsWait (isChunkedCommand c.currentCmd) = true ∧ (c.cancel .rsp).Aside d ∧
      c.handleReceivedCmd msgDataBuff = d.processEvent settle := by
  have hbusy' : (c.cancel .rsp).currentState ≠ .idle := hbusy
  cases hcheck : checkResponse c.currentCmd msgDataBuff with
  | error status =>
      refine ⟨.responseRejected, _, rfl, ?_, handleReceivedCmd_error hcheck⟩
      refine (aside_failure hbusy' (checkResponse_error hcheck)).trans ?_
      split
      · exact aside_note rfl
      · exact .refl _
  | ok msg =>
      rw [handleReceivedCmd_ok hcheck]
      by_cases hchunk : isChunkedCommand c.currentCmd = true
      · obtain ⟨e, haside, -, heq⟩ := handleChunkResponse_eq hbusy' msg.payload
        have hreport : (c.cancel .rsp).Aside ((c.cancel .rsp).note
            (chunkReport (c.cancel .rsp).currentCmd msg.payload)) := by
          refine aside_note ?_
          unfold chunkReport
          split
          · split
            · exact hchunk
            · exact hchunk
          · rfl
        have haside := hreport.trans haside
        have hstill := haside.trans (aside_noteStatus
          ((c.cancel .rsp).handleChunkResponse msg.payload).2 msg.payload)
        refine ⟨chunkEvent msg.payload, _, ?_, hstill, ?_⟩
        · rw [hchunk]
          exact endsWait_chunkEvent msg.payload
        · have hcmd : isChunkedCommand (e.noteStatus
              ((c.cancel .rsp).handleChunkResponse msg.payload).2 msg.payload).currentCmd = true := by
            rw [hstill.cmd]
            exact hchunk
          simp only [handleCmdResponse_chunk (c := c.cancel .rsp) hchunk, heq,
            noteStatus_processEvent]
          exact if_neg (by simpa [processEvent, post] using hcmd)
      · have hplain : isChunkedCommand (c.cancel .rsp).currentCmd = false :=
          Bool.eq_false_iff.mpr hchunk
        have hstill := (aside_handleCmdResponse hbusy' hplain msg.payload).trans
          (aside_noteStatus ((c.cancel .rsp).handleCmdResponse msg.payload).2 msg.payload)
        refine ⟨.responseHandled, _, ?_, hstill, if_pos ?_⟩
        · rw [show isChunkedCommand c.currentCmd = false from hplain]
          rfl
        · rw [hstill.cmd, hplain]
          rfl

/-- The client that turns to the frame it has received: the buffer is empty, the timer stopped. -/
def answering (c : Client) : Client :=
  { c with receiver := { c.receiver with rxBuffer := [] } }.cancel .rsp

theorem handleRxBuffer_eq (hbusy : c.currentState ≠ .idle) :
    ∃ settle d, settle.endsWait (isChunkedCommand c.currentCmd) = true ∧ c.answering.Aside d ∧
      c.handleRxBuffer = d.processEvent settle := by
  refine handleReceivedCmd_eq (c := { c with receiver := { c.receiver with rxBuffer := [] } })
    ?_ c.receiver.rxBuffer
  exact hbusy

end Client

end LinuxPBS.Lcsc

import LinuxPBS.Lcsc.Moves
import LinuxPBS.Lcsc.Uploads
import LinuxPBS.Lcsc.Workflow

/-!
# One end for an upload

An upload that the client has been asked for is told to have ended once: its first frame or a
later one is not written, an answer does not come or is rejected, or an answer ends it.  The
uploads asked for and the ends told add up (`uploads_step`), in an orderly client whose
response timer does not run out behind an answer that has ended the upload: the time-out would
tell of another end.
-/

namespace LinuxPBS.Lcsc

open Machine

/-- An upload is told to have ended. -/
def Outcome.endsUpload : Outcome → Bool
  | .upload _ => true
  | _ => false

/-- How many uploads have been told to have ended. -/
def uploadsEnded (log : List Outcome) : ℕ := log.countP Outcome.endsUpload

theorem uploadsEnded_append (newer log : List Outcome) :
    uploadsEnded (newer ++ log) = uploadsEnded newer + uploadsEnded log := List.countP_append

theorem uploadsEnded_wires {newer : List Outcome}
    (hwires : ∀ outcome ∈ newer, outcome.isWire = true) (log : List Outcome) :
    uploadsEnded (newer ++ log) = uploadsEnded log := by
  have hnone : uploadsEnded newer = 0 := by
    refine List.countP_eq_zero.mpr fun outcome hmem hends => ?_
    have hwire := hwires outcome hmem
    cases outcome with
    | upload event => exact absurd hwire Bool.false_ne_true
    | _ => exact absurd hends Bool.false_ne_true
  rw [uploadsEnded_append, hnone, Nat.zero_add]

/-- The requests that upload a file are those whose command is sent in chunks. -/
theorem Request.plain_of_command {request : Request} {command : CommandWithData}
    (hcommand : request.command = some command) (hplain : request.uploads = false) :
    isChunkedCommand command.cmd = false := by
  cases request with
  | uploadCfgFile fileData | uploadCilFile fileData | uploadBlFile fileData =>
      exact absurd hplain (by simp [Request.uploads])
  | _ =>
      obtain rfl := Option.some.inj hcommand
      rfl

theorem Request.chunked_of_command {request : Request} {command : CommandWithData}
    (hcommand : request.command = some command) (huploads : request.uploads = true) :
    isChunkedCommand command.cmd = true := by
  cases request with
  | uploadCfgFile fileData | uploadCilFile fileData | uploadBlFile fileData =>
      simp only [Request.command] at hcommand
      split at hcommand
      · obtain rfl := Option.some.inj hcommand
        rfl
      · exact absurd hcommand (by simp)
  | _ => exact absurd huploads Bool.false_ne_true

namespace Client

/-- An upload is outstanding: its answers so far wait for more. -/
def outstanding (c : Client) : Bool :=
  decide (c.currentState ≠ .idle) && isChunkedCommand c.currentCmd &&
    (settles c.posted).all fun handler => handler = .event .sendNextChunkCommand

/-- All uploads that have been asked for and not ended. -/
def uploadsRequested (c : Client) : ℕ := c.asked isChunkedCommand + c.outstanding.toNat

/-- No time-out is run for an upload that has been told to have ended, and no frame is left behind
a command that has failed. -/
def Timely (c : Client) (input : Input) : Prop :=
  Patient c input ∧
    match input, c.posted with
    | .run, .event .responseTimeout :: _ =>
        c.currentState = .waitingForChunkCommandResponse → c.outstanding = true
    | _, _ => True

theorem timely_iff (c : Client) (input : Input) :
    Timely c input ↔ Patient c input ∧ (ranEvent c input = some .responseTimeout →
      c.currentState = .waitingForChunkCommandResponse → c.outstanding = true) := by
  unfold Timely ranEvent
  refine and_congr_right fun _ => ?_
  cases input with
  | run =>
    rcases c.posted with _ | ⟨handler, rest⟩
    · simp
    · cases handler with
      | event event => cases event <;> simp
      | _ => simp
  | _ => simp

instance (c : Client) (input : Input) : Decidable (Timely c input) :=
  decidable_of_iff _ (timely_iff c input).symm

variable {c c' : Client} {rest : List Handler} {inFront behind : List CommandWithData}

/-! ## When an upload is outstanding -/

theorem outstanding_enter_idle (c : Client) : (c.enter .idle).outstanding = false := by
  simp [outstanding, enter_state]

theorem outstanding_of_plain (hplain : isChunkedCommand c.currentCmd = false) :
    c.outstanding = false := by
  simp [outstanding, hplain]

theorem outstanding_of_idle (hidle : c.currentState = .idle) : c.outstanding = false := by
  simp [outstanding, hidle]

/-- While a frame is sent, and until an answer has been handled, an upload is outstanding. -/
theorem outstanding_of_busy (hbusy : c.currentState ≠ .idle) (hnone : settles c.posted = []) :
    c.outstanding = isChunkedCommand c.currentCmd := by
  simp [outstanding, hbusy, hnone]

/-- An answer has ended the upload. -/
theorem outstanding_of_ended {event : Event} (hmem : .event event ∈ c.posted)
    (hkind : event.kind = .settle) (hends : event ≠ .sendNextChunkCommand) :
    c.outstanding = false := by
  have hsettle := mem_settles.mpr ⟨hmem, hkind⟩
  rw [Bool.eq_false_iff]
  intro houtstanding
  have hall := List.all_eq_true.mp (Bool.and_elim_right houtstanding) _ hsettle
  exact hends (Handler.event.inj (of_decide_eq_true hall))

/-- The next chunk is due. -/
theorem outstanding_of_next (hbusy : c.currentState ≠ .idle)
    (hchunk : isChunkedCommand c.currentCmd = true)
    (honly : settles c.posted = [.event .sendNextChunkCommand]) : c.outstanding = true := by
  simp [outstanding, hbusy, hchunk, honly]

theorem Asks.uploads (hasks : Asks c c' inFront behind) :
    c'.asked isChunkedCommand = c.asked isChunkedCommand := by
  have hnone : ∀ commands : List CommandWithData,
      (∀ command ∈ commands, isChunkedCommand command.cmd = false) →
        countIn isChunkedCommand commands = 0 :=
    fun commands hplain => List.countP_eq_zero.mpr fun command hmem => by
      rw [hplain command hmem]
      decide
  rw [hasks.asked, hnone inFront fun command hmem =>
    hasks.plain command (List.mem_append_left _ hmem), hnone behind fun command hmem =>
    hasks.plain command (List.mem_append_right _ hmem), Nat.add_zero]

/-! ## What is told of an upload -/

theorem log_checkCommandQueue (c : Client) : c.checkCommandQueue.log = c.log := by
  unfold checkCommandQueue
  split
  · rfl
  · split
    · rfl
    · split <;> rfl

theorem log_enqueueCommandToFrontOnIoThread (c : Client) (command : CommandWithData) :
    (c.enqueueCommandToFrontOnIoThread command).log = c.log := by
  unfold enqueueCommandToFrontOnIoThread
  split
  · rfl
  · exact log_checkCommandQueue _

theorem ended_handleCmdErrorOrTimeout (c : Client) (msgStatus : CscEvents) :
    uploadsEnded (c.handleCmdErrorOrTimeout msgStatus).log = uploadsEnded c.log := by
  have hrepeat : ∀ command, uploadsEnded ((c.note (.failed c.currentCmd
      msgStatus)).enqueueCommandToFrontOnIoThread command).log = uploadsEnded c.log := by
    intro command
    rw [log_enqueueCommandToFrontOnIoThread]
    rfl
  unfold handleCmdErrorOrTimeout
  simp only
  split
  · split
    · exact hrepeat _
    · rfl
  · split
    · exact hrepeat _
    · rfl
  · rfl

/-- What fails a chunk tells that the upload has ended. -/
theorem ended_failChunks (c : Client) (msgStatus : CscEvents) :
    uploadsEnded (c.failChunks msgStatus).log = uploadsEnded c.log + 1 := by
  have hfailed := ended_handleCmdErrorOrTimeout c msgStatus
  have hcons : uploadsEnded (c.failChunks msgStatus).log =
      uploadsEnded (c.handleCmdErrorOrTimeout msgStatus).log + 1 :=
    List.countP_cons_of_pos rfl
  rw [hcons, hfailed]

theorem ended_prepareAndWrite (hresting : Resting c.transmission) (command : CommandWithData) :
    uploadsEnded (c.prepareAndWrite command).log = uploadsEnded c.log := by
  rw [prepareAndWrite_eq hresting]
  obtain ⟨newer, hlog, hwires⟩ := (between_startWrite (c.prepared command)).log
  rw [hlog, uploadsEnded_wires hwires]
  rfl

/-- An answer to another command tells nothing of an upload. -/
theorem log_handleCmdResponse (hplain : isChunkedCommand c.currentCmd = false)
    (payload : List UInt8) : (c.handleCmdResponse payload).1.log = c.log := by
  have hpoll : ∀ (success : Client → Client) (status : CscEvents),
      (∀ d, (success d).log = d.log) →
        (c.handlePollResponse (payload.headD 0) success status).1.log = c.log := by
    intro success status hsuccess
    unfold handlePollResponse
    split
    · rfl
    · split
      · exact hsuccess _
      · exact log_enqueueCommandToFrontOnIoThread _ _
  unfold handleCmdResponse
  simp only
  split
  · split
    · exact log_checkCommandQueue _
    · rfl
  · exact hpoll _ _ fun d => log_checkCommandQueue _
  · exact hpoll _ _ fun _ => rfl
  · split
    · split
      · exact log_enqueueCommandToFrontOnIoThread _ _
      · rfl
    · rfl
  · exact absurd hplain (by simp_all [isChunkedCommand])
  · exact absurd hplain (by simp_all [isChunkedCommand])
  · exact absurd hplain (by simp_all [isChunkedCommand])
  · rfl

theorem ended_noteStatus (c : Client) (status : Option CscEvents) (payload : List UInt8) :
    uploadsEnded (c.noteStatus status payload).log = uploadsEnded c.log := by
  cases status <;> rfl

/-- The answer to a chunk ends the upload unless it waits for more. -/
theorem ended_handleReceivedCmd (hbusy : c.currentState ≠ .idle)
    (hchunk : isChunkedCommand c.currentCmd = true) (msgDataBuff : List UInt8) :
    uploadsEnded (c.handleReceivedCmd msgDataBuff).log = uploadsEnded c.log +
      (decide ((chunkAnswer c.currentCmd msgDataBuff).1 ≠ .sendNextChunkCommand)).toNat := by
  have hbusy' : (c.cancel .rsp).currentState ≠ .idle := hbusy
  unfold chunkAnswer
  cases hcheck : checkResponse c.currentCmd msgDataBuff with
  | error status =>
      have haside := aside_failure hbusy' (checkResponse_error hcheck)
      have hcmd : isChunkedCommand
          ((c.cancel .rsp).handleCmdErrorOrTimeout status).currentCmd = true := by
        rw [haside.cmd]
        exact hchunk
      have hfailed := ended_handleCmdErrorOrTimeout (c.cancel .rsp) status
      rw [handleReceivedCmd_error hcheck, if_pos hcmd]
      have hcons : uploadsEnded
          (.upload .cdfileUploadFailed :: ((c.cancel .rsp).handleCmdErrorOrTimeout status).log) =
          uploadsEnded ((c.cancel .rsp).handleCmdErrorOrTimeout status).log + 1 :=
        List.countP_cons_of_pos rfl
      exact hcons.trans (congrArg (· + 1) hfailed)
  | ok msg =>
      obtain ⟨d, haside, hlog, heq⟩ := handleChunkResponse_eq hbusy' msg.payload
      have hreport : uploadsEnded d.log = uploadsEnded c.log +
          (decide (chunkEvent msg.payload ≠ .sendNextChunkCommand)).toNat := by
        rw [hlog]
        unfold chunkReport chunkEvent
        split
        · split
          · exact List.countP_cons_of_neg (by simp [Outcome.endsUpload])
          · exact List.countP_cons_of_pos rfl
        · exact List.countP_cons_of_pos rfl
      have hnoted := ended_noteStatus d ((c.cancel .rsp).handleChunkResponse msg.payload).2
        msg.payload
      rw [handleReceivedCmd_ok hcheck]
      simp only [handleCmdResponse_chunk (c := c.cancel .rsp) hchunk, heq,
        noteStatus_processEvent]
      split
      · exact hnoted.trans hreport
      · exact hnoted.trans hreport

/-- The answer to another command tells nothing of an upload. -/
theorem ended_handleReceivedCmd_plain (hplain : isChunkedCommand c.currentCmd = false)
    (msgDataBuff : List UInt8) :
    uploadsEnded (c.handleReceivedCmd msgDataBuff).log = uploadsEnded c.log := by
  cases hcheck : checkResponse c.currentCmd msgDataBuff with
  | error status =>
      obtain ⟨inFront, hasks⟩ := asks_handleCmdErrorOrTimeout (c := c.cancel .rsp) status
      have hcmd : ¬ isChunkedCommand
          ((c.cancel .rsp).handleCmdErrorOrTimeout status).currentCmd = true := by
        rw [hasks.cmd]
        exact Bool.eq_false_iff.mp hplain
      rw [handleReceivedCmd_error hcheck, if_neg hcmd]
      exact ended_handleCmdErrorOrTimeout (c.cancel .rsp) status
  | ok msg =>
      have hlog := log_handleCmdResponse (c := c.cancel .rsp) hplain msg.payload
      have hnoted := ended_noteStatus ((c.cancel .rsp).handleCmdResponse msg.payload).1
        ((c.cancel .rsp).handleCmdResponse msg.payload).2 msg.payload
      rw [handleReceivedCmd_ok hcheck]
      simp only
      split
      · exact hnoted.trans (congrArg uploadsEnded hlog)
      · exact hnoted.trans (congrArg uploadsEnded hlog)

/-! ## The uploads add up -/

/-- The uploads that have been told to have ended, and those that are still to end. -/
def uploadsCounted (c : Client) : ℕ := uploadsEnded c.log + c.uploadsRequested

theorem counted_eq (hasked : c'.asked isChunkedCommand = c.asked isChunkedCommand)
    (hended : uploadsEnded c'.log + c'.outstanding.toNat =
      uploadsEnded c.log + c.outstanding.toNat) : c'.uploadsCounted = c.uploadsCounted := by
  unfold uploadsCounted uploadsRequested
  omega

theorem kind_chunkAnswer (cmd : Cmd) (msgDataBuff : List UInt8) :
    (chunkAnswer cmd msgDataBuff).1.kind = .settle := by
  unfold chunkAnswer
  split
  · rfl
  · exact Event.kind_of_endsWait (endsWait_chunkEvent _)

/-- A response is handled. -/
theorem counted_respond (horderly : Orderly c) (hwaiting : c.currentState.phase = .waiting)
    (hposted : c.posted = .event .responseReceived :: rest) :
    (c.taken rest).handleRxBuffer.uploadsCounted = c.uploadsCounted := by
  have hbusy : c.currentState ≠ .idle := by
    intro hidle
    rw [hidle] at hwaiting
    exact absurd hwaiting (by decide)
  have hsorted := horderly.sorted
  rw [hwaiting, kinds_of_posted hposted] at hsorted
  have hrest : settles rest = [] := settles_eq_nil (c := c.taken rest)
    (hsorted.head (by simp [Ordered, Handler.kind, Event.kind]))
  have hnone : settles c.posted = [] := by
    have hbetween : Between c (c.taken rest) := between_taken hposted (by decide)
    exact hbetween.settles.symm.trans hrest
  have htaken : Steady c (c.taken rest) := steady_taken hposted rfl
  obtain ⟨inFront, behind, hasks⟩ := asks_handleRxBuffer (c := c.taken rest)
  have hasked := (htaken.then hasks).uploads
  by_cases hchunk : isChunkedCommand c.currentCmd = true
  · obtain ⟨newer, d, -, haside, -, heq⟩ := handleReceivedCmd_chunk
      (c := { c.taken rest with receiver := { c.receiver with rxBuffer := [] } }) hbusy hchunk
      c.receiver.rxBuffer
    have hended := ended_handleReceivedCmd
      (c := { c.taken rest with receiver := { c.receiver with rxBuffer := [] } }) hbusy hchunk
      c.receiver.rxBuffer
    have hsame : (c.taken rest).handleRxBuffer =
        d.processEvent (chunkAnswer c.currentCmd c.receiver.rxBuffer).1 := heq
    have hnow : c.outstanding = true := (outstanding_of_busy hbusy hnone).trans hchunk
    have hposts : d.posted = rest := by
      obtain ⟨_, _, _, rfl, -⟩ := haside
      rfl
    have hkind := kind_chunkAnswer c.currentCmd c.receiver.rxBuffer
    have hsettles : settles (c.taken rest).handleRxBuffer.posted =
        [.event (chunkAnswer c.currentCmd c.receiver.rxBuffer).1] := by
      have hconcat : settles (d.posted ++ [.event (chunkAnswer c.currentCmd
          c.receiver.rxBuffer).1]) =
          settles d.posted ++ [.event (chunkAnswer c.currentCmd c.receiver.rxBuffer).1] := by
        simp [settles, Handler.kind, hkind]
      rw [hposts, hrest] at hconcat
      rw [hsame]
      exact (congrArg (fun posted => settles (posted ++ _)) hposts).trans hconcat
    have hstate : (c.taken rest).handleRxBuffer.currentState ≠ .idle := by
      rw [handleRxBuffer_state (c := c.taken rest) hbusy]
      exact hbusy
    have hcmd : isChunkedCommand (c.taken rest).handleRxBuffer.currentCmd = true := by
      rw [hasks.cmd]
      exact hchunk
    refine counted_eq hasked ?_
    rw [hnow, outstanding, hsettles, hcmd, decide_eq_true hstate]
    refine (congrArg (· + _) hended).trans ?_
    cases hanswer : (chunkAnswer c.currentCmd c.receiver.rxBuffer).1 <;> simp_all [taken]
  · have hplain : isChunkedCommand c.currentCmd = false := Bool.eq_false_iff.mpr hchunk
    have hplain' : isChunkedCommand (c.taken rest).handleRxBuffer.currentCmd = false := by
      rw [hasks.cmd]
      exact hplain
    refine counted_eq hasked ?_
    rw [outstanding_of_plain hplain, outstanding_of_plain hplain']
    exact congrArg (· + _) (ended_handleReceivedCmd_plain
      (c := { c.taken rest with receiver := { c.receiver with rxBuffer := [] } }) hplain
      c.receiver.rxBuffer)

/-- An upload is sent, and no event that ends a wait is queued. -/
theorem outstanding_enter_sending {d : Client} {next : State} (hnext : next ≠ .idle)
    (hnone : settles d.posted = []) :
    (d.enter next).outstanding = isChunkedCommand d.currentCmd := by
  rw [outstanding_of_busy (by rwa [enter_state]) (by rwa [settles_enter]), enter_cmd]

/-- What a turn tells to have ended was outstanding, and it is told once. -/
theorem counted_turn (horderly : Orderly c) (hsettling : Settling c) {event : Event}
    (hposted : c.posted = .event event :: rest) (htimely : Timely c .run)
    (hturn : Turn c rest event c') : c'.uploadsCounted = c.uploadsCounted := by
  have htaken : Steady c (c.taken rest) := steady_taken hposted rfl
  have hsorted := horderly.sorted
  have hsuited := horderly.suited
  have hbusy {state : State} (hstate : c.currentState = state) (hstate' : state ≠ .idle) :
      c.currentState ≠ .idle := hstate ▸ hstate'
  -- while a frame is sent, no event that ends a wait is queued
  have hsending (hphase : c.currentState.phase = .sending) : settles c.posted = [] := by
    rw [hphase] at hsorted
    exact settles_eq_nil hsorted.content.2.2
  have hidle {d : Client} (hasked : d.asked isChunkedCommand = c.asked isChunkedCommand)
      (hended : uploadsEnded d.log = uploadsEnded c.log + c.outstanding.toNat) :
      (d.enter .idle).uploadsCounted = c.uploadsCounted := by
    refine counted_eq (((steady_enter .idle).asked _).trans hasked) ?_
    rw [outstanding_enter_idle, enter_log, hended]
    rfl
  -- a frame of the command under way is sent or has been written
  have hsend {d : Client} {next : State} (hsteady : Steady c d)
      (hended : uploadsEnded d.log = uploadsEnded c.log) (hnext : next ≠ .idle)
      (hnone : settles d.posted = []) (hnow : c.outstanding = isChunkedCommand c.currentCmd) :
      (d.enter next).uploadsCounted = c.uploadsCounted := by
    refine counted_eq ((hsteady.trans (steady_enter next)).asked _) ?_
    rw [outstanding_enter_sending hnext hnone, hnow, enter_log, hended, hsteady.cmd]
  -- a command that is taken up is outstanding instead of queued
  have htake {command : CommandWithData} {others : List CommandWithData} {d : Client}
      (hstate : c.currentState = .idle) (hqueue : c.commandQueue = command :: others)
      (hsteady : Steady ((c.taken rest).dequeued command others) d)
      (hended : uploadsEnded d.log = uploadsEnded c.log)
      (hnow : d.outstanding = isChunkedCommand command.cmd) :
      d.uploadsCounted = c.uploadsCounted := by
    have hdequeued := asked_dequeued hposted hqueue isChunkedCommand
    have hasked := hsteady.asked isChunkedCommand
    have hbefore := outstanding_of_idle hstate
    unfold uploadsCounted uploadsRequested
    rw [hended, hnow, hbefore, hasked, Bool.toNat_false]
    omega
  -- the event that has ended the upload is in front
  have hover (hkind : event.kind = .settle) (hends : event ≠ .sendNextChunkCommand) :
      c.outstanding = false :=
    outstanding_of_ended (hposted ▸ List.mem_cons_self) hkind hends
  -- the next chunk of the upload is due
  have hdue (hstate : c.currentState = .waitingForChunkCommandResponse)
      (hnext : event = .sendNextChunkCommand) (hrest : settles rest = []) :
      c.outstanding = isChunkedCommand c.currentCmd := by
    rw [hstate] at hsuited
    have honly : settles c.posted = [.event .sendNextChunkCommand] := by
      rw [hposted, hnext]
      exact congrArg (Handler.event .sendNextChunkCommand :: ·) hrest
    rw [show isChunkedCommand c.currentCmd = true from hsuited]
    exact outstanding_of_next (hbusy hstate (by decide)) hsuited honly
  cases hturn with
  | ignored hnone =>
      refine counted_eq (htaken.asked _) ?_
      rcases hsettling.ignored horderly hposted hnone with hstate | hsettles
      · rw [outstanding_of_idle hstate, outstanding_of_idle (c := c.taken rest) hstate]
        rfl
      · rw [outstanding, hsettles]
        rfl
  | @launch command others hstate hqueue hplain =>
      obtain ⟨hresting, -, -⟩ := horderly.begin hstate hposted rfl
      have hresting : Resting ((c.taken rest).dequeued command others).transmission := hresting
      have hsteady := ((steady_prepareAndWrite command).trans (steady_start .serialWrite)).trans
        (steady_enter .sendingRequestAsync) (c := (c.taken rest).dequeued command others)
      refine htake hstate hqueue hsteady ?_ ?_
      · rw [enter_log]
        exact ended_prepareAndWrite hresting command
      · rw [hplain, outstanding_of_plain]
        rw [hsteady.cmd]
        exact hplain
  | @launchChunks command chunk others chunks hstate hqueue hchunk =>
      obtain ⟨hresting, hsorted, -⟩ := horderly.begin hstate hposted rfl
      have hresting : Resting
          (((c.taken rest).dequeued command others).withChunks chunks).transmission := hresting
      have hchunks : Steady ((c.taken rest).dequeued command others)
          (((c.taken rest).dequeued command others).withChunks chunks) :=
        steady_of_same rfl rfl rfl rfl rfl
      have hsteady := ((hchunks.trans (steady_prepareAndWrite chunk)).trans
        (steady_start .serialWrite)).trans (steady_enter .sendingChunkCommandRequestAsync)
      obtain ⟨hcmd, hsettles⟩ := prepareAndWrite_cmd hresting chunk
      refine htake hstate hqueue hsteady ?_ ?_
      · rw [enter_log]
        exact ended_prepareAndWrite hresting chunk
      · have hbusy : State.sendingChunkCommandRequestAsync ≠ .idle := by decide
        refine (outstanding_enter_sending hbusy (hsettles.trans ?_)).trans ?_
        · exact settles_eq_nil (c := c.taken rest) hsorted.content.2.2
        · exact congrArg isChunkedCommand hcmd
  | complete hphase =>
      have hnotIdle : c.currentState ≠ .idle := by
        intro hidle
        rw [hidle] at hphase
        exact absurd hphase (by decide)
      have hnext : waitingState c.currentState ≠ .idle := by cases c.currentState <;> decide
      have hsteady : Steady c (((c.taken rest).cancel .serialWrite).start .rsp) :=
        (htaken.trans (steady_cancel _)).trans (steady_start _)
      have hnow := outstanding_of_busy hnotIdle (hsending hphase)
      rw [hphase, kinds_of_posted hposted] at hsorted
      have hrest : settles rest = [] := settles_eq_nil (c := c.taken rest) hsorted.content.tail.2.2
      exact hsend hsteady rfl hnext hrest hnow
  | fail hstate =>
      rw [hstate] at hsuited
      obtain ⟨inFront, hasks⟩ := asks_handleCmdErrorOrTimeout (c := c.taken rest) .sSendcmdfail
      refine hidle (htaken.then hasks).uploads ?_
      rw [outstanding_of_plain hsuited]
      exact ended_handleCmdErrorOrTimeout (c.taken rest) _
  | failChunks hstate =>
      rw [hstate] at hsuited
      have hphase : c.currentState.phase = .sending := by rw [hstate]; rfl
      obtain ⟨inFront, behind, hasks⟩ := asks_failChunks (c := c.taken rest) .sSendcmdfail
      refine hidle (htaken.then hasks).uploads ?_
      rw [outstanding_of_busy (hbusy hstate (by decide)) (hsending hphase),
        show isChunkedCommand c.currentCmd = true from hsuited]
      exact ended_failChunks (c.taken rest) _
  | timeout hstate =>
      rw [hstate] at hsuited
      obtain ⟨inFront, hasks⟩ := asks_handleCmdErrorOrTimeout (c := c.taken rest) .sTimeout
      refine hidle (htaken.then hasks).uploads ?_
      rw [outstanding_of_plain hsuited]
      exact ended_handleCmdErrorOrTimeout (c.taken rest) _
  | timeoutChunks hstate =>
      have hrule := htimely.2
      rw [hposted] at hrule
      obtain ⟨inFront, behind, hasks⟩ := asks_failChunks (c := c.taken rest) .sTimeout
      refine hidle (htaken.then hasks).uploads ?_
      rw [hrule hstate]
      exact ended_failChunks (c.taken rest) _
  | respond hwaiting => exact counted_respond horderly hwaiting hposted
  | finish hstate =>
      rw [hstate] at hsuited
      refine hidle (htaken.asked _) ?_
      rw [outstanding_of_plain hsuited]
      rfl
  | rejectChunks hstate =>
      have hcleared : Steady (c.taken rest) (c.taken rest).clearChunkCommandQueue :=
        steady_of_same rfl rfl rfl rfl rfl
      refine hidle ((htaken.trans hcleared).asked _) ?_
      rw [hover rfl (by decide)]
      rfl
  | completeChunks hstate =>
      refine hidle (htaken.asked _) ?_
      rw [hover rfl (by decide)]
      rfl
  | breakChunks hstate =>
      obtain ⟨inFront, hasks⟩ := asks_handleCmdErrorOrTimeout (c := c.taken rest) .rNotRespCmd
      have hcleared : Steady ((c.taken rest).handleCmdErrorOrTimeout .rNotRespCmd)
          ((c.taken rest).handleCmdErrorOrTimeout .rNotRespCmd).clearChunkCommandQueue :=
        steady_of_same rfl rfl rfl rfl rfl
      refine hidle (htaken.then (hasks.steady hcleared)).uploads ?_
      rw [hover rfl (by decide)]
      exact ended_handleCmdErrorOrTimeout (c.taken rest) _
  | @next chunk chunks hstate =>
      have hwaiting : c.currentState.phase = .waiting := by rw [hstate]; rfl
      obtain ⟨hresting, hsorted', -⟩ := horderly.resume hwaiting hposted rfl
      have hresting : Resting ((c.taken rest).withChunks chunks).transmission := hresting
      have hrest : settles rest = [] := settles_eq_nil (c := c.taken rest) hsorted'.content.2.2
      have hchunks : Steady (c.taken rest) ((c.taken rest).withChunks chunks) :=
        steady_of_same rfl rfl rfl rfl rfl
      have hsteady := ((htaken.trans hchunks).trans (steady_prepareAndWrite chunk)).trans
        (steady_start .serialWrite)
      obtain ⟨-, hsettles⟩ := prepareAndWrite_cmd hresting chunk
      have hended := ended_prepareAndWrite hresting chunk
      exact hsend hsteady hended (by decide) (hsettles.trans hrest) (hdue hstate rfl hrest)
  | nextNone hstate =>
      have hwaiting : c.currentState.phase = .waiting := by rw [hstate]; rfl
      obtain ⟨-, hsorted', -⟩ := horderly.resume hwaiting hposted rfl
      have hrest : settles rest = [] := settles_eq_nil (c := c.taken rest) hsorted'.content.2.2
      have hsteady := htaken.trans (steady_start .serialWrite)
      exact hsend hsteady rfl (by decide) hrest (hdue hstate rfl hrest)

/-- The uploads told to have ended and those still to end stay as many, as long as no other one is
asked for. -/
theorem counted_step (horderly : Orderly c) (hsettling : Settling c) {input : Input}
    (htimely : Timely c input) (houter : input.uploads = false) :
    (c.step input).uploadsCounted = c.uploadsCounted := by
  by_cases hevent : ∃ event rest, input = .run ∧ c.posted = .event event :: rest
  · obtain ⟨event, rest, rfl, hposted⟩ := hevent
    have hsame : c.step .run = (c.taken rest).runEvent event := by
      simp [step, hposted, taken, runHandler]
    rw [hsame]
    exact counted_turn horderly hsettling hposted htimely (horderly.turn hposted)
  · have hbetween : Between c (c.step input) := by
      refine between_step fun hrun event hhead => hevent ?_
      obtain ⟨rest, hposted⟩ := List.head?_eq_some_iff.mp hhead
      exact ⟨event, rest, hrun, hposted⟩
    obtain ⟨newer, hlog, hwires⟩ := hbetween.log
    have hnow : (c.step input).outstanding = c.outstanding := by
      rw [outstanding, hbetween.state, hbetween.cmd, hbetween.settles]
      rfl
    refine counted_eq ?_ ?_
    · cases step_move c input with
      | steady hsteady => exact hsteady.asked _
      | @send request command hcommand =>
          have hplain := Request.plain_of_command hcommand houter
          exact (asked_send hcommand _).trans (by rw [hplain]; rfl)
      | enqueue hposted hsteady => exact (hsteady.asked _).trans (asked_enqueued hposted _)
      | take hposted => exact absurd ⟨_, _, rfl, hposted⟩ hevent
      | ask hposted => exact absurd ⟨_, _, rfl, hposted⟩ hevent
      | stop => rfl
    · rw [hlog, uploadsEnded_wires hwires, hnow]

/-- An upload is asked for. -/
theorem requested_send_chunks {request : Request} {command : CommandWithData}
    (hcommand : request.command = some command)
    (hchunk : isChunkedCommand command.cmd = true) :
    (c.send request).uploadsRequested = c.uploadsRequested + 1 := by
  have hbetween := between_send c request
  have hnow : (c.send request).outstanding = c.outstanding := by
    rw [outstanding, hbetween.state, hbetween.cmd, hbetween.settles]
    rfl
  unfold uploadsRequested
  rw [hnow, asked_send hcommand, hchunk, Bool.toNat_true]
  omega

/-- Another command is put behind the queue on the thread of the context. -/
theorem requested_enqueueCommandOnIoThread {command : CommandWithData}
    (hplain : isChunkedCommand command.cmd = false) :
    (c.enqueueCommandOnIoThread command).uploadsRequested = c.uploadsRequested := by
  have hbetween := between_enqueueCommandOnIoThread c command
  have hnow : (c.enqueueCommandOnIoThread command).outstanding = c.outstanding := by
    rw [outstanding, hbetween.state, hbetween.cmd, hbetween.settles]
    rfl
  have hasked : (c.enqueueCommandOnIoThread command).asked isChunkedCommand =
      c.asked isChunkedCommand := by
    refine (steady_checkCommandQueue.asked _).trans ?_
    rw [Client.asked, countIn_append, countIn_singleton, hplain]
    rfl
  rw [uploadsRequested, hasked, hnow]
  rfl

/-- The log of the client only grows. -/
theorem log_step (c : Client) (input : Input) : ∃ newer, (c.step input).log = newer ++ c.log := by
  have hsteadily {d d' : Client} (hsteady : Steady d d') : ∃ newer, d'.log = newer ++ d.log := by
    obtain ⟨newer, hlog, -⟩ := hsteady.log
    exact ⟨newer, hlog⟩
  cases step_move c input with
  | steady hsteady => exact hsteadily hsteady
  | @send request command hcommand =>
      obtain ⟨newer, hlog, -⟩ := (between_send c request).log
      exact ⟨newer, hlog⟩
  | enqueue hposted hsteady =>
      obtain ⟨newer, hlog⟩ := hsteadily hsteady
      exact ⟨newer, hlog⟩
  | @take event command rest others _ hposted hqueue hsteady =>
      obtain ⟨newer, hlog⟩ := hsteadily hsteady
      exact ⟨newer ++ [.dequeued command], hlog.trans (List.append_assoc _ [_] _).symm⟩
  | ask hposted hbusy hasks =>
      obtain ⟨newer, hlog, -⟩ := hasks.log
      exact ⟨newer, hlog⟩
  | stop => exact ⟨[], rfl⟩

end Client

end LinuxPBS.Lcsc

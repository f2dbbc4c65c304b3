import LinuxPBS.Lcsc.Orderly

/-!
# The transitions of the client of the card reader

`Turn` lists what an event can do to an orderly client: the state machine has found that
event in its table, and the handler of the state has run.  Whatever is said later about
failures, responses and chunks is a case analysis of it.
-/

namespace LinuxPBS.Lcsc

open Machine

namespace Client

/-- A command is taken from the queue. -/
def dequeued (c : Client) (command : CommandWithData) (others : List CommandWithData) : Client :=
  { c with commandQueue := others, currentCmd := command.cmd }.note (.dequeued command)

/-- The chunks that are left to send. -/
def withChunks (c : Client) (chunks : List CommandWithData) : Client :=
  { c with chunkCommandQueue := chunks }

/-- What an event does that is the first handler of an orderly client. -/
inductive Turn (c : Client) (rest : List Handler) : Event → Client → Prop
  /-- the state does not know the event -/
  | ignored {event : Event} (hnone : stateTransitionTable c.currentState event = none) :
      Turn c rest event (c.taken rest)
  /-- a command is taken up -/
  | launch {command : CommandWithData} {others : List CommandWithData}
      (hstate : c.currentState = .idle) (hqueue : c.commandQueue = command :: others)
      (hplain : isChunkedCommand command.cmd = false) :
      Turn c rest .commandEnqueued
        (((((c.taken rest).dequeued command others).prepareAndWrite command).start
          .serialWrite).enter .sendingRequestAsync)
  /-- an upload is taken up; its chunks come behind those that may have been left -/
  | launchChunks {command chunk : CommandWithData} {others chunks : List CommandWithData}
      (hstate : c.currentState = .idle) (hqueue : c.commandQueue = command :: others)
      (hchunk : isChunkedCommand command.cmd = true)
      (hchunks : c.chunkCommandQueue ++ chunksOf command = chunk :: chunks) :
      Turn c rest .chunkCommandEnqueued
        ((((((c.taken rest).dequeued command others).withChunks chunks).prepareAndWrite
          chunk).start .serialWrite).enter .sendingChunkCommandRequestAsync)
  /-- the frame has been written -/
  | complete (hsending : c.currentState.phase = .sending) :
      Turn c rest .writeCompleted
        ((((c.taken rest).cancel .serialWrite).start .rsp).enter (waitingState c.currentState))
  /-- the frame of a command has not been written -/
  | fail {event : Event} (hstate : c.currentState = .sendingRequestAsync)
      (hevent : event = .writeFailed ∨ event = .writeTimeout) :
      Turn c rest event (((c.taken rest).handleCmdErrorOrTimeout .sSendcmdfail).enter .idle)
  /-- the frame of a chunk has not been written -/
  | failChunks {event : Event} (hstate : c.currentState = .sendingChunkCommandRequestAsync)
      (hevent : event = .writeFailed ∨ event = .writeTimeout) :
      Turn c rest event (((c.taken rest).failChunks .sSendcmdfail).enter .idle)
  /-- no response has come -/
  | timeout (hstate : c.currentState = .waitingForResponse) :
      Turn c rest .responseTimeout
        (((c.taken rest).handleCmdErrorOrTimeout .sTimeout).enter .idle)
  | timeoutChunks (hstate : c.currentState = .waitingForChunkCommandResponse) :
      Turn c rest .responseTimeout (((c.taken rest).failChunks .sTimeout).enter .idle)
  /-- a response is handled -/
  | respond (hwaiting : c.currentState.phase = .waiting) :
      Turn c rest .responseReceived (c.taken rest).handleRxBuffer
  /-- the response of a command has been handled -/
  | finish {event : Event} (hstate : c.currentState = .waitingForResponse)
      (hevent : event = .responseHandled ∨ event = .responseRejected) :
      Turn c rest event ((c.taken rest).enter .idle)
  /-- the response to a chunk has been rejected -/
  | rejectChunks (hstate : c.currentState = .waitingForChunkCommandResponse) :
      Turn c rest .responseRejected ((c.taken rest).clearChunkCommandQueue.enter .idle)
  /-- the reader has taken the upload; what is left in the queue stays there -/
  | completeChunks (hstate : c.currentState = .waitingForChunkCommandResponse) :
      Turn c rest .allChunkCommandCompleted ((c.taken rest).enter .idle)
  /-- the reader refuses a chunk -/
  | breakChunks (hstate : c.currentState = .waitingForChunkCommandResponse) :
      Turn c rest .chunkCommandError
        (((c.taken rest).handleCmdErrorOrTimeout .rNotRespCmd).clearChunkCommandQueue.enter .idle)
  /-- the next chunk is sent -/
  | next {chunk : CommandWithData} {chunks : List CommandWithData}
      (hstate : c.currentState = .waitingForChunkCommandResponse)
      (hchunks : c.chunkCommandQueue = chunk :: chunks) :
      Turn c rest .sendNextChunkCommand
        (((((c.taken rest).withChunks chunks).prepareAndWrite chunk).start .serialWrite).enter
          .sendingChunkCommandRequestAsync)
  /-- there is no next chunk, and the write timer will run out -/
  | nextNone (hstate : c.currentState = .waitingForChunkCommandResponse)
      (hchunks : c.chunkCommandQueue = []) :
      Turn c rest .sendNextChunkCommand
        (((c.taken rest).start .serialWrite).enter .sendingChunkCommandRequestAsync)

variable {c : Client} {rest : List Handler}

theorem runEvent_none {event : Event} (hnone : stateTransitionTable c.currentState event = none) :
    c.runEvent event = c := by
  rw [runEvent, hnone]

theorem runEvent_some {event : Event} {next : State}
    (hsome : stateTransitionTable c.currentState event = some next) :
    c.runEvent event = (c.eventHandler event).enter next := by
  rw [runEvent, hsome]

/-- A timer that does not run cannot be cancelled. -/
theorem cancel_of_unarmed {timer : Timer} (hunarmed : c.armed timer = false) :
    c.cancel timer = c := by
  have hsame : Function.update c.armed timer false = c.armed := by
    rw [← hunarmed]
    exact Function.update_eq_self timer c.armed
  rw [cancel, hsame]

/-- When the verdict on a write is run the write timer has stopped. -/
theorem Orderly.untimed (horderly : Orderly c) (hsending : c.currentState.phase = .sending)
    {event : Event} (hposted : c.posted = .event event :: rest) (hkind : event.kind = .write) :
    (c.taken rest).cancel .serialWrite = c.taken rest := by
  have hcarried := horderly.carried
  rw [hsending] at hcarried
  have hwrite : isWrite (.event event) = true := by simp [isWrite, Handler.kind, hkind]
  exact cancel_of_unarmed (Stage.ends hcarried (queued_taken hposted hwrite)).1.timed

theorem turn_ignored {event : Event} (hnone : stateTransitionTable c.currentState event = none) :
    Turn c rest event ((c.taken rest).runEvent event) := by
  rw [runEvent_none (c := c.taken rest) hnone]
  exact .ignored hnone

theorem turn_some {event : Event} {next : State}
    (hsome : stateTransitionTable c.currentState event = some next)
    (hturn : Turn c rest event (((c.taken rest).eventHandler event).enter next)) :
    Turn c rest event ((c.taken rest).runEvent event) := by
  rw [runEvent_some (c := c.taken rest) hsome]
  exact hturn

theorem popFromCommandQueueAndEnqueueWrite_cons {command : CommandWithData}
    {others : List CommandWithData} (hqueue : c.commandQueue = command :: others) :
    c.popFromCommandQueueAndEnqueueWrite =
      (c.dequeued command others).prepareAndWrite command := by
  rw [popFromCommandQueueAndEnqueueWrite, hqueue]
  rfl

theorem sendNextChunkCommandData_cons {chunk : CommandWithData} {chunks : List CommandWithData}
    (hchunks : c.chunkCommandQueue = chunk :: chunks) :
    c.sendNextChunkCommandData = (c.withChunks chunks).prepareAndWrite chunk := by
  rw [sendNextChunkCommandData, hchunks]
  rfl

theorem popFromChunkCommandQueueAndEnqueueWrite_cons {command : CommandWithData}
    {others : List CommandWithData} (hqueue : c.commandQueue = command :: others)
    (hloaded : chunksOf command ≠ []) :
    c.popFromChunkCommandQueueAndEnqueueWrite = ((c.dequeued command others).withChunks
      (c.chunkCommandQueue ++ chunksOf command)).sendNextChunkCommandData := by
  rw [popFromChunkCommandQueueAndEnqueueWrite, hqueue]
  exact if_neg hloaded

theorem Orderly.turn_idle (horderly : Orderly c) (hstate : c.currentState = .idle) {event : Event}
    (hposted : c.posted = .event event :: rest) :
    Turn c rest event ((c.taken rest).runEvent event) := by
  have hhandler : (c.taken rest).eventHandler event = (c.taken rest).handleIdleState event := by
    rw [eventHandler, show (c.taken rest).currentState = _ from hstate]
  obtain ⟨hcommand, hchunks⟩ := horderly.fronted hstate
  cases event with
  | commandEnqueued =>
      obtain ⟨front, others, hqueue, hplain⟩ := hcommand (hposted ▸ List.mem_cons_self)
      refine turn_some (by rw [hstate]; rfl) ?_
      rw [hhandler, handleIdleState, if_pos rfl,
        popFromCommandQueueAndEnqueueWrite_cons (c := c.taken rest) hqueue]
      exact .launch hstate hqueue hplain
  | chunkCommandEnqueued =>
      obtain ⟨front, others, hqueue, hchunk⟩ := hchunks (hposted ▸ List.mem_cons_self)
      have hloaded : chunksOf front ≠ [] :=
        chunksOf_ne_nil (horderly.loaded front (hqueue ▸ List.mem_cons_self)) hchunk
      obtain ⟨chunk, chunks, hfirst⟩ :=
        List.exists_cons_of_ne_nil (List.append_ne_nil_of_right_ne_nil c.chunkCommandQueue hloaded)
      refine turn_some (by rw [hstate]; rfl) ?_
      rw [hhandler, handleIdleState, if_neg (by decide), if_pos rfl,
        popFromChunkCommandQueueAndEnqueueWrite_cons (c := c.taken rest) hqueue hloaded,
        sendNextChunkCommandData_cons (c := ((c.taken rest).dequeued front others).withChunks
          ((c.taken rest).chunkCommandQueue ++ chunksOf front)) hfirst]
      exact .launchChunks hstate hqueue hchunk hfirst
  | _ => exact turn_ignored (by rw [hstate]; rfl)

theorem Orderly.turn_sending (horderly : Orderly c) (hstate : c.currentState = .sendingRequestAsync)
    {event : Event} (hposted : c.posted = .event event :: rest) :
    Turn c rest event ((c.taken rest).runEvent event) := by
  have hhandler : (c.taken rest).eventHandler event =
      (c.taken rest).handleSendingRequestAsyncState event := by
    rw [eventHandler, show (c.taken rest).currentState = _ from hstate]
  have hsending : c.currentState.phase = .sending := by rw [hstate]; rfl
  cases event with
  | writeCompleted =>
      refine turn_some (by rw [hstate]; rfl) ?_
      have hturn : Turn c rest .writeCompleted _ := .complete hsending
      rw [hstate] at hturn
      rw [hhandler]
      exact hturn
  | writeFailed =>
      refine turn_some (by rw [hstate]; rfl) ?_
      rw [hhandler, handleSendingRequestAsyncState, if_neg (by decide), if_pos rfl,
        horderly.untimed hsending hposted rfl]
      exact .fail hstate (.inl rfl)
  | writeTimeout =>
      refine turn_some (by rw [hstate]; rfl) ?_
      rw [hhandler]
      exact .fail hstate (.inr rfl)
  | _ => exact turn_ignored (by rw [hstate]; rfl)

theorem Orderly.turn_sendingChunk (horderly : Orderly c)
    (hstate : c.currentState = .sendingChunkCommandRequestAsync)
    {event : Event} (hposted : c.posted = .event event :: rest) :
    Turn c rest event ((c.taken rest).runEvent event) := by
  have hhandler : (c.taken rest).eventHandler event =
      (c.taken rest).handleSendingChunkCommandRequestAsyncState event := by
    rw [eventHandler, show (c.taken rest).currentState = _ from hstate]
  have hsending : c.currentState.phase = .sending := by rw [hstate]; rfl
  cases event with
  | writeCompleted =>
      refine turn_some (by rw [hstate]; rfl) ?_
      have hturn : Turn c rest .writeCompleted _ := .complete hsending
      rw [hstate] at hturn
      rw [hhandler]
      exact hturn
  | writeFailed =>
      refine turn_some (by rw [hstate]; rfl) ?_
      rw [hhandler, handleSendingChunkCommandRequestAsyncState, if_neg (by decide), if_pos rfl,
        horderly.untimed hsending hposted rfl]
      exact .failChunks hstate (.inl rfl)
  | writeTimeout =>
      refine turn_some (by rw [hstate]; rfl) ?_
      rw [hhandler]
      exact .failChunks hstate (.inr rfl)
  | chunkCommandError =>
      -- this state is entered with a chunk only, so that the event cannot come
      have hsorted := horderly.sorted
      rw [hsending, kinds_of_posted hposted] at hsorted
      exact absurd List.mem_cons_self hsorted.content.2.2
  | _ => exact turn_ignored (by rw [hstate]; rfl)

/-- In a state that is kept nothing is posted. -/
theorem enter_same {state : State} (hstate : c.currentState = state) (hbusy : state ≠ .idle) :
    c.enter state = c := by
  subst hstate
  exact if_neg hbusy

theorem handleRxBuffer_state (hbusy : c.currentState ≠ .idle) :
    c.handleRxBuffer.currentState = c.currentState := by
  obtain ⟨settle, d, -, haside, hsame⟩ := handleRxBuffer_eq hbusy
  exact (congrArg currentState hsame).trans haside.state

theorem turn_waiting (hstate : c.currentState = .waitingForResponse) (event : Event) :
    Turn c rest event ((c.taken rest).runEvent event) := by
  have hhandler : (c.taken rest).eventHandler event =
      (c.taken rest).handleWaitingForResponseState event := by
    rw [eventHandler, show (c.taken rest).currentState = _ from hstate]
  have hbusy : (c.taken rest).currentState ≠ .idle := by
    rw [show (c.taken rest).currentState = _ from hstate]
    decide
  cases event with
  | responseTimeout =>
      refine turn_some (by rw [hstate]; rfl) ?_
      rw [hhandler]
      exact .timeout hstate
  | responseReceived =>
      refine turn_some (by rw [hstate]; rfl) ?_
      rw [hhandler]
      have hsame := enter_same ((handleRxBuffer_state hbusy).trans hstate) (by decide)
      exact hsame.symm ▸ .respond (by rw [hstate]; rfl)
  | responseHandled =>
      refine turn_some (by rw [hstate]; rfl) ?_
      rw [hhandler]
      exact .finish hstate (.inl rfl)
  | responseRejected =>
      refine turn_some (by rw [hstate]; rfl) ?_
      rw [hhandler]
      exact .finish hstate (.inr rfl)
  | _ => exact turn_ignored (by rw [hstate]; rfl)

theorem turn_waitingChunk (hstate : c.currentState = .waitingForChunkCommandResponse)
    (event : Event) : Turn c rest event ((c.taken rest).runEvent event) := by
  have hhandler : (c.taken rest).eventHandler event =
      (c.taken rest).handleWaitingForChunkCommandResponseState event := by
    rw [eventHandler, show (c.taken rest).currentState = _ from hstate]
  have hbusy : (c.taken rest).currentState ≠ .idle := by
    rw [show (c.taken rest).currentState = _ from hstate]
    decide
  cases event with
  | responseTimeout =>
      refine turn_some (by rw [hstate]; rfl) ?_
      rw [hhandler]
      exact .timeoutChunks hstate
  | responseReceived =>
      refine turn_some (by rw [hstate]; rfl) ?_
      rw [hhandler]
      have hsame := enter_same ((handleRxBuffer_state hbusy).trans hstate) (by decide)
      exact hsame.symm ▸ .respond (by rw [hstate]; rfl)
  | responseRejected =>
      refine turn_some (by rw [hstate]; rfl) ?_
      rw [hhandler]
      exact .rejectChunks hstate
  | sendNextChunkCommand =>
      refine turn_some (by rw [hstate]; rfl) ?_
      rw [hhandler, handleWaitingForChunkCommandResponseState, if_neg (by decide),
        if_neg (by decide), if_neg (by decide), if_pos rfl]
      by_cases hchunks : c.chunkCommandQueue = []
      · have hnone : (c.taken rest).sendNextChunkCommandData = c.taken rest := by
          rw [sendNextChunkCommandData, show (c.taken rest).chunkCommandQueue = _ from hchunks]
        rw [hnone]
        exact .nextNone hstate hchunks
      · obtain ⟨chunk, chunks, hfirst⟩ := List.exists_cons_of_ne_nil hchunks
        rw [sendNextChunkCommandData_cons (c := c.taken rest) hfirst]
        exact .next hstate hfirst
  | allChunkCommandCompleted =>
      refine turn_some (by rw [hstate]; rfl) ?_
      rw [hhandler]
      exact .completeChunks hstate
  | chunkCommandError =>
      refine turn_some (by rw [hstate]; rfl) ?_
      rw [hhandler]
      exact .breakChunks hstate
  | _ => exact turn_ignored (by rw [hstate]; rfl)

/-- Whatever an event does to an orderly client is one of the turns. -/
theorem Orderly.turn (horderly : Orderly c) {event : Event}
    (hposted : c.posted = .event event :: rest) :
    Turn c rest event ((c.taken rest).runEvent event) := by
  cases hstate : c.currentState with
  | idle => exact horderly.turn_idle hstate hposted
  | sendingRequestAsync => exact horderly.turn_sending hstate hposted
  | waitingForResponse => exact turn_waiting hstate event
  | sendingChunkCommandRequestAsync => exact horderly.turn_sendingChunk hstate hposted
  | waitingForChunkCommandResponse => exact turn_waitingChunk hstate event

/-! ## Every turn keeps the order -/

/-- Outside of a write at most a late time-out of one is taken from the queue. -/
theorem Orderly.taken_resting (horderly : Orderly c) {handler : Handler}
    (hphase : c.currentState.phase ≠ .sending) (hposted : c.posted = handler :: rest) :
    Orderly (c.taken rest) := by
  by_cases hwrite : isWrite handler = true
  · have htail := (kinds_of_posted hposted ▸ horderly.sorted).tail
    refine ⟨htail, ?_, horderly.sent, fun hidle => (horderly.fronted hidle).sublist fun _ hmem =>
      hposted ▸ List.mem_cons_of_mem _ hmem, horderly.loaded, fun command hmem =>
      horderly.announced command (hposted ▸ List.mem_cons_of_mem _ hmem), horderly.suited⟩
    have hcarried := horderly.carried
    have hqueued := queued_taken hposted hwrite
    change Carried c.currentState.phase _ c.log
    cases hcase : c.currentState.phase with
    | idle =>
        rw [hcase] at hcarried
        exact (Resting.late hcarried hqueued).2
    | sending => exact absurd hcase hphase
    | waiting =>
        rw [hcase] at hcarried
        exact ⟨(hcarried.1.late hqueued).2, hcarried.2⟩
  · exact horderly.taken hposted (Bool.eq_false_iff.mpr hwrite)

theorem Orderly.ignore (horderly : Orderly c) {event : Event}
    (hposted : c.posted = .event event :: rest)
    (hnone : stateTransitionTable c.currentState event = none) : Orderly (c.taken rest) := by
  by_cases hphase : c.currentState.phase = .sending
  · refine horderly.taken hposted ?_
    cases hstate : c.currentState with
    | sendingRequestAsync | sendingChunkCommandRequestAsync =>
        rw [hstate] at hnone
        cases event <;> first | rfl | exact absurd hnone (by decide)
    | _ => exact absurd (hstate ▸ hphase) (by decide)
  · exact horderly.taken_resting hphase hposted

/-- What is there when a command is taken up. -/
theorem Orderly.begin (horderly : Orderly c) (hstate : c.currentState = .idle) {event : Event}
    (hposted : c.posted = .event event :: rest) (hkind : event.kind = .launch) :
    Resting (c.taken rest).transmission ∧
      Sorted .sending (c.armed .rsp) c.reading (c.taken rest).kinds ∧
      .write ∉ (c.taken rest).kinds := by
  have hsorted := horderly.sorted
  have hcarried := horderly.carried
  rw [hstate, kinds_of_posted hposted] at hsorted
  rw [hstate] at hcarried
  simp only [Handler.kind, hkind] at hsorted
  have hother : isWrite (.event event) = false := by simp [isWrite, Handler.kind, hkind]
  exact ⟨(transmission_taken hposted hother).symm ▸ hcarried, hsorted.begin⟩

/-- What is there when the next chunk is due. -/
theorem Orderly.resume (horderly : Orderly c) (hwaiting : c.currentState.phase = .waiting)
    {event : Event} (hposted : c.posted = .event event :: rest) (hkind : event.kind = .settle) :
    Resting (c.taken rest).transmission ∧
      Sorted .sending (c.armed .rsp) c.reading (c.taken rest).kinds ∧
      .write ∉ (c.taken rest).kinds := by
  have hsorted := horderly.sorted
  have hcarried := horderly.carried
  rw [hwaiting, kinds_of_posted hposted] at hsorted
  rw [hwaiting] at hcarried
  simp only [Handler.kind, hkind] at hsorted
  have hother : isWrite (.event event) = false := by simp [isWrite, Handler.kind, hkind]
  exact ⟨(transmission_taken hposted hother).symm ▸ hcarried.1, hsorted.next⟩

/-- Without a chunk the write timer runs for nothing. -/
theorem Orderly.unsent (horderly : Orderly c) (hwaiting : c.currentState.phase = .waiting)
    (hposted : c.posted = .event .sendNextChunkCommand :: rest)
    (hsuited : isChunkedCommand c.currentCmd = true) :
    Orderly (((c.taken rest).start .serialWrite).enter .sendingChunkCommandRequestAsync) := by
  obtain ⟨hresting, hsorted, hnone⟩ := horderly.resume hwaiting hposted rfl
  have hqueued : writeHandlers rest = [] := by
    refine List.filter_eq_nil_iff.mpr fun handler hmem hwrite => hnone ?_
    exact List.mem_map.mpr ⟨handler, hmem, by simpa [isWrite] using hwrite⟩
  refine ⟨hsorted, ?_, horderly.sent, fun hidle => absurd hidle (by simp [enter]),
    horderly.loaded, fun command hmem => ?_, hsuited⟩
  · exact .unsent hresting.queue hresting.progress hresting.writing hresting.delayed
      (.inl (.inl ⟨rfl, hqueued⟩))
  · exact horderly.announced command (hposted ▸ List.mem_cons_of_mem _ hmem)

/-- `failChunks` is the failure of a command, and no chunk is left. -/
theorem failChunks_eq (c : Client) (msgStatus : CscEvents) : c.failChunks msgStatus =
    ((c.handleCmdErrorOrTimeout msgStatus).processUploadLcscFilesEvent
      .cdfileUploadFailed).withChunks [] := rfl

theorem Orderly.turned (horderly : Orderly c) {event : Event} {c' : Client}
    (hposted : c.posted = .event event :: rest) (hturn : Turn c rest event c') : Orderly c' := by
  have hannounced : ∀ command, .enqueueCommandOnIoThread command ∈ rest → Loaded command :=
    fun command hmem => horderly.announced command (hposted ▸ List.mem_cons_of_mem _ hmem)
  have hbusy : ∀ state, c.currentState = state → state ≠ .idle →
      (c.taken rest).currentState ≠ .idle := by
    rintro _ rfl hbusy
    exact hbusy
  cases hturn with
  | ignored hnone => exact horderly.ignore hposted hnone
  | @launch command others hstate hqueue hplain =>
      obtain ⟨hresting, hsorted, hnone⟩ := horderly.begin hstate hposted rfl
      refine orderly_prepareAndWrite (c := (c.taken rest).dequeued command others) hresting hsorted
        hnone horderly.sent (fun other hmem => ?_) hannounced .sendingRequestAsync
        rfl hplain command
      exact horderly.loaded other (hqueue ▸ List.mem_cons_of_mem _ hmem)
  | @launchChunks command chunk others chunks hstate hqueue hchunk hchunks =>
      obtain ⟨hresting, hsorted, hnone⟩ := horderly.begin hstate hposted rfl
      refine orderly_prepareAndWrite (c := ((c.taken rest).dequeued command others).withChunks
        chunks) hresting hsorted hnone horderly.sent (fun other hmem => ?_) hannounced
        .sendingChunkCommandRequestAsync rfl hchunk chunk
      exact horderly.loaded other (hqueue ▸ List.mem_cons_of_mem _ hmem)
  | complete hsending => exact horderly.complete hsending hposted
  | fail hstate hevent =>
      have hsending : c.currentState.phase = .sending := by rw [hstate]; rfl
      have hkind : event.kind = .write := by rcases hevent with rfl | rfl <;> rfl
      refine horderly.fail hsending hposted hkind (d := (c.taken rest).handleCmdErrorOrTimeout
        .sSendcmdfail) ?_ _
      rw [horderly.untimed hsending hposted hkind]
      exact aside_handleCmdErrorOrTimeout (hbusy _ hstate (by decide)) _
  | failChunks hstate hevent =>
      have hsending : c.currentState.phase = .sending := by rw [hstate]; rfl
      have hkind : event.kind = .write := by rcases hevent with rfl | rfl <;> rfl
      rw [failChunks_eq]
      refine horderly.fail hsending hposted hkind (d := ((c.taken rest).handleCmdErrorOrTimeout
        .sSendcmdfail).processUploadLcscFilesEvent .cdfileUploadFailed) ?_ []
      rw [horderly.untimed hsending hposted hkind]
      exact (aside_handleCmdErrorOrTimeout (hbusy _ hstate (by decide)) _).trans (aside_note rfl)
  | timeout hstate =>
      refine horderly.endWait (by rw [hstate]; rfl) hposted (.inl rfl)
        (d := (c.taken rest).handleCmdErrorOrTimeout .sTimeout) ?_ _
      exact aside_failure (hbusy _ hstate (by decide)) (by decide)
  | timeoutChunks hstate =>
      rw [failChunks_eq]
      refine horderly.endWait (by rw [hstate]; rfl) hposted (.inl rfl)
        (d := ((c.taken rest).handleCmdErrorOrTimeout .sTimeout).processUploadLcscFilesEvent
          .cdfileUploadFailed) ?_ []
      exact (aside_failure (hbusy _ hstate (by decide)) (by decide)).trans (aside_note rfl)
  | respond hwaiting => exact horderly.respond hwaiting hposted
  | finish hstate hevent =>
      refine horderly.endWait (by rw [hstate]; rfl) hposted (.inr ?_) (d := c.taken rest)
        (.refl _) _
      rcases hevent with rfl | rfl <;> rfl
  | rejectChunks hstate =>
      exact horderly.endWait (by rw [hstate]; rfl) hposted (.inr rfl) (d := c.taken rest)
        (.refl _) []
  | completeChunks hstate =>
      exact horderly.endWait (by rw [hstate]; rfl) hposted (.inr rfl) (d := c.taken rest)
        (.refl _) _
  | breakChunks hstate =>
      refine horderly.endWait (by rw [hstate]; rfl) hposted (.inr rfl)
        (d := (c.taken rest).handleCmdErrorOrTimeout .rNotRespCmd) ?_ []
      exact aside_failure (hbusy _ hstate (by decide)) (by decide)
  | @next chunk chunks hstate hchunks =>
      have hwaiting : c.currentState.phase = .waiting := by rw [hstate]; rfl
      have hsuited : isChunkedCommand c.currentCmd = true := by
        have hsuited := horderly.suited
        rw [hstate] at hsuited
        exact hsuited
      obtain ⟨hresting, hsorted, hnone⟩ := horderly.resume hwaiting hposted rfl
      exact orderly_prepareAndWrite (c := (c.taken rest).withChunks chunks) hresting hsorted hnone
        horderly.sent horderly.loaded hannounced .sendingChunkCommandRequestAsync rfl hsuited chunk
  | nextNone hstate hchunks =>
      have hsuited := horderly.suited
      rw [hstate] at hsuited
      exact horderly.unsent (by rw [hstate]; rfl) hposted hsuited

/-! ## Every handler keeps the order -/

/-- A handler that belongs to a frame is run while that is being sent. -/
theorem Orderly.sending (horderly : Orderly c) {handler : Handler}
    (hposted : c.posted = handler :: rest) (hwrite : isWrite handler = true)
    (hlate : handler ≠ .event .writeTimeout) :
    c.currentState.phase = .sending ∧ Stage c.transmission c.log := by
  have hcarried := horderly.carried
  have hqueued := queued_taken hposted hwrite
  cases hphase : c.currentState.phase with
  | sending =>
      rw [hphase] at hcarried
      exact ⟨rfl, hcarried⟩
  | idle =>
      rw [hphase] at hcarried
      exact absurd (Resting.late hcarried hqueued).1 hlate
  | waiting =>
      rw [hphase] at hcarried
      exact absurd (Resting.late hcarried.1 hqueued).1 hlate

/-- The client goes on with a frame. -/
theorem Orderly.keep_sending (horderly : Orderly c) {c' : Client}
    (hsending : c.currentState.phase = .sending) (hstate : c'.currentState = c.currentState)
    (hcmd : c'.currentCmd = c.currentCmd) (hqueue : c'.commandQueue = c.commandQueue)
    (hsorted : Sorted .sending (c'.armed .rsp) c'.reading c'.kinds)
    (hstage : Stage c'.transmission c'.log) (hsent : SentLast c'.log)
    (hannounced : ∀ command, .enqueueCommandOnIoThread command ∈ c'.posted → Loaded command) :
    Orderly c' := by
  have hphase : c'.currentState.phase = .sending := by rw [hstate, hsending]
  refine ⟨hphase ▸ hsorted, ?_, hsent, fun hidle => ?_, hqueue ▸ horderly.loaded, hannounced, ?_⟩
  · rw [hphase]
    exact hstage
  · rw [hidle] at hphase
    exact absurd hphase (by decide)
  · rw [hstate, hcmd]
    exact horderly.suited

/-- The queue of a client that goes on with a frame, without its first handler. -/
theorem Orderly.sorted_taken (horderly : Orderly c) {handler : Handler}
    (hsending : c.currentState.phase = .sending) (hposted : c.posted = handler :: rest) :
    Sorted .sending (c.armed .rsp) c.reading (c.taken rest).kinds := by
  have hsorted := horderly.sorted
  rw [hsending, kinds_of_posted hposted] at hsorted
  exact hsorted.tail

theorem Orderly.announced_taken (horderly : Orderly c) {handler : Handler}
    (hposted : c.posted = handler :: rest) :
    ∀ command, .enqueueCommandOnIoThread command ∈ rest → Loaded command :=
  fun command hmem => horderly.announced command (hposted ▸ List.mem_cons_of_mem _ hmem)

/-- The silence of the line is over, or has been broken again. -/
theorem Orderly.startWrite (horderly : Orderly c)
    (hposted : c.posted = .expired .serialWriteDelay :: rest) :
    Orderly (c.taken rest).startWrite := by
  obtain ⟨hsending, hstage⟩ := horderly.sending hposted rfl (by simp)
  obtain ⟨frame, hqueue, hlast, hprogress, hwriting, hdelayed, htimer⟩ :=
    hstage.delayEnds (queued_taken hposted rfl)
  have hsorted := horderly.sorted_taken hsending hposted
  have hannounced := horderly.announced_taken hposted
  have hfront : (c.taken rest).writeQueue = [frame] := hqueue
  rcases startWrite_cases hfront with hwait | hhanded
  · rw [hwait]
    refine horderly.keep_sending hsending rfl rfl rfl hsorted ?_ horderly.sent hannounced
    exact .delayed frame hqueue hlast hprogress hwriting (.inl ⟨rfl, htimer⟩)
  · rw [hhanded]
    refine horderly.keep_sending hsending rfl rfl rfl hsorted ?_ ⟨hlast, horderly.sent⟩ hannounced
    have hbuffer : c.writing ++ [frame] = [frame] := by
      rw [show c.writing = [] from hwriting]
      rfl
    exact .writing frame hqueue hlast rfl hbuffer hdelayed rfl htimer

/-- What `cancel` of the port posts. -/
def aborts (c : Client) : List Handler := c.writing.map fun _ => .writeEnd .operationAborted

theorem cancelPort_eq (c : Client) : c.cancelPort = { c with
    reading := false
    writing := []
    posted := c.posted ++ (if c.reading then [.readFailed] else []) ++ c.aborts } := by
  cases hreading : c.reading <;> simp [cancelPort, aborts, hreading, Client.post]

theorem writeHandlers_cancelPort (c : Client) : writeHandlers c.cancelPort.posted =
    writeHandlers c.posted ++ c.aborts := by
  have haborts : c.aborts.filter isWrite = c.aborts := by
    refine List.filter_eq_self.mpr fun handler hmem => ?_
    obtain ⟨frame, -, rfl⟩ := List.mem_map.mp hmem
    rfl
  have hread : (if c.reading then [Handler.readFailed] else []).filter isWrite = [] := by
    split <;> rfl
  simp only [cancelPort_eq, writeHandlers, List.filter_append, hread, haborts, List.append_nil]

theorem sorted_cancelPort (hsorted : Sorted .sending (c.armed .rsp) c.reading c.kinds) :
    Sorted .sending (c.cancelPort.armed .rsp) c.cancelPort.reading c.cancelPort.kinds := by
  have hwrites : ∀ kind ∈ c.aborts.map Handler.kind, kind = .write := by
    intro kind hmem
    obtain ⟨handler, hhandler, rfl⟩ := List.mem_map.mp hmem
    obtain ⟨frame, -, rfl⟩ := List.mem_map.mp hhandler
    rfl
  have hread : Sorted .sending (c.armed .rsp) false
      (c.kinds ++ (if c.reading then [Handler.readFailed] else []).map Handler.kind) := by
    cases hreading : c.reading with
    | false => simpa [hreading] using hsorted
    | true =>
        rw [hreading] at hsorted
        exact hsorted.read
  have hall := hread.writes hwrites
  simpa [cancelPort_eq, kinds] using hall

/-- The write timer runs out. -/
theorem Orderly.writeTimeout (horderly : Orderly c)
    (hposted : c.posted = .expired .serialWrite :: rest)
    (hpatient : c.writeInProgress = true ∨ c.writeQueue = []) :
    Orderly (c.taken rest).handleSerialWriteTimeout := by
  obtain ⟨hsending, hstage⟩ := horderly.sending hposted rfl (by simp)
  have hqueued := queued_taken hposted rfl
  have hsorted := horderly.sorted_taken hsending hposted
  have hannounced := horderly.announced_taken hposted
  unfold handleSerialWriteTimeout
  split
  · next hnot =>
      have hprogress : c.writeInProgress = false := by simpa [Client.taken] using hnot
      have hqueue : c.writeQueue = [] := by
        rcases hpatient with hyes | hqueue
        · exact absurd (hprogress.symm.trans hyes) (by decide)
        · exact hqueue
      refine horderly.keep_sending hsending rfl rfl rfl ?_ ?_ horderly.sent
        (announced_post hannounced (by simp))
      · exact kinds_post (c.taken rest) _ ▸ hsorted.write
      · have hjudged := hstage.timedOut hprogress hqueue hqueued
        have htx : ((c.taken rest).processEvent .writeTimeout).transmission =
            { c.transmission with queued := writeHandlers rest ++ [.event .writeTimeout] } :=
          transmission_post_write rfl
        exact htx ▸ hjudged
  · next hyes =>
      have hprogress : c.writeInProgress = true := by simpa [Client.taken] using hyes
      have hcancelled := hstage.cancelled hprogress hqueued
      have hsame : ({ c.taken rest with writeTimedOut := true }.cancelPort).transmission =
          { c.transmission with
            writeTimedOut := true
            writing := []
            queued := writeHandlers rest ++ c.aborts } := by
        rw [transmission, writeHandlers_cancelPort, cancelPort_eq]
        rfl
      refine horderly.keep_sending hsending ?_ ?_ ?_ (sorted_cancelPort hsorted) ?_ ?_ ?_
      · rw [cancelPort_eq]; rfl
      · rw [cancelPort_eq]; rfl
      · rw [cancelPort_eq]; rfl
      · rw [hsame, cancelPort_eq]
        exact hcancelled
      · rw [cancelPort_eq]
        exact horderly.sent
      · intro command hmem
        rw [cancelPort_eq] at hmem
        rcases List.mem_append.mp hmem with hmem | habort
        · rcases List.mem_append.mp hmem with hold | hread
          · exact hannounced command hold
          · split at hread <;> simp at hread
        · simp [aborts] at habort

/-- The completion handler of a write posts its verdict. -/
theorem writeEnd_eq {error : WriteError} {event : Event}
    (hverdict : verdict c.writeTimedOut error = some event) :
    c.writeEnd error = { c.cancel .serialWrite with
      writeQueue := c.writeQueue.tail
      writeInProgress := false
      writeTimedOut := false }.processEvent event := by
  unfold writeEnd
  cases htimedOut : c.writeTimedOut with
  | true => cases error <;> simp_all [verdict, cancel]
  | false => cases error <;> simp_all [verdict, cancel]

theorem Orderly.writeEnd (horderly : Orderly c) {error : WriteError}
    (hposted : c.posted = .writeEnd error :: rest) : Orderly ((c.taken rest).writeEnd error) := by
  obtain ⟨hsending, hstage⟩ := horderly.sending hposted rfl (by simp)
  obtain ⟨event, hverdict, hjudged⟩ := hstage.writeEnd (queued_taken hposted rfl)
  have hsorted := horderly.sorted_taken hsending hposted
  have hkind : event.kind = .write := by
    cases error <;> cases htimedOut : c.transmission.writeTimedOut <;>
      simp_all [verdict] <;> subst hverdict <;> rfl
  have hwrite : isWrite (.event event) = true := by simp [isWrite, Handler.kind, hkind]
  rw [writeEnd_eq (c := c.taken rest) hverdict]
  refine horderly.keep_sending hsending rfl rfl rfl ?_ ?_ horderly.sent
    (announced_post (horderly.announced_taken hposted) (by simp))
  · have hposts := hsorted.write
    rw [← hkind] at hposts
    exact kinds_post _ (.event event) ▸ hposts
  · have htx : ({ (c.taken rest).cancel .serialWrite with
        writeQueue := c.writeQueue.tail
        writeInProgress := false
        writeTimedOut := false }.processEvent event).transmission = { c.transmission with
        writeQueue := c.writeQueue.tail
        writeInProgress := false
        writeTimedOut := false
        timed := false
        queued := writeHandlers rest ++ [.event event] } := transmission_post_write hwrite
    exact htx ▸ hjudged

/-- A read has completed, perhaps with the end of a frame, and the next one is started. -/
theorem Orderly.readEnd (horderly : Orderly c) {data : List UInt8} {lastWritten : ℕ}
    (hposted : c.posted = .readEnd data lastWritten :: rest) :
    Orderly ((c.taken rest).readEnd data lastWritten) := by
  have hsorted := horderly.sorted
  rw [kinds_of_posted hposted] at hsorted
  have hreceived : .received ∉ (c.taken rest).kinds := hsorted.head (by simp [Ordered, Handler.kind])
  have hread : .read ∉ (c.taken rest).kinds := hsorted.head (by simp [Ordered, Handler.kind])
  have htaken := horderly.taken hposted rfl
  have hreading : ∀ d : Client, Orderly d → .read ∉ d.kinds → Orderly { d with reading := true } :=
    fun d hd hnone => ⟨⟨hd.sorted.order, hd.sorted.content, fun _ => hnone⟩, hd.carried, hd.sent,
      hd.fronted, hd.loaded, hd.announced, hd.suited⟩
  have hseen : ∀ (receiver : Receiver) (time : Option ℕ) (after : ℕ),
      Orderly { c.taken rest with
        receiver := receiver
        lastSerialReadTime := time
        receivedAfter := after } := fun _ _ _ =>
    ⟨htaken.sorted, htaken.carried, htaken.sent, htaken.fronted, htaken.loaded, htaken.announced,
      htaken.suited⟩
  have hposts : ∀ d : Client, Orderly d → d.kinds = (c.taken rest).kinds →
      Orderly { d.processEvent .responseReceived with reading := true } := by
    intro d hd hkinds
    rw [← hkinds] at hreceived hread
    refine hreading _ (hd.post rfl (by decide) (by simp) (hd.sorted.received hreceived hread)) ?_
    rw [show (d.processEvent .responseReceived).kinds = _ from kinds_post d _]
    simpa [Handler.kind, Event.kind] using hread
  unfold Client.readEnd
  simp only
  split
  · split
    · exact hposts _ (hseen _ (some c.now) lastWritten) rfl
    · exact hreading _ (hseen _ (some c.now) c.receivedAfter) hread
  · split
    · exact hposts _ (hseen _ c.lastSerialReadTime lastWritten) rfl
    · exact hreading _ (hseen _ c.lastSerialReadTime c.receivedAfter) hread

theorem Orderly.readFailed (horderly : Orderly c) (hposted : c.posted = .readFailed :: rest) :
    Orderly { c.taken rest with reading := true } := by
  have hsorted := horderly.sorted
  rw [kinds_of_posted hposted] at hsorted
  have htaken := horderly.taken hposted rfl
  exact ⟨hsorted.readEnd, htaken.carried, htaken.sent, htaken.fronted, htaken.loaded,
    htaken.announced, htaken.suited⟩

theorem Orderly.runHandler (horderly : Orderly c) {handler : Handler}
    (hposted : c.posted = handler :: rest)
    (hpatient : handler = .expired .serialWrite → c.writeInProgress = true ∨ c.writeQueue = []) :
    Orderly ((c.taken rest).runHandler handler) := by
  cases handler with
  | event raised => exact horderly.turned hposted (horderly.turn hposted)
  | checkCommandQueue => exact (horderly.taken hposted rfl).checkCommandQueue
  | enqueueCommandOnIoThread command =>
      exact (horderly.taken hposted rfl).enqueueCommandOnIoThread
        (horderly.announced command (hposted ▸ List.mem_cons_self))
  | expired timer =>
      cases timer with
      | rsp =>
          have hsorted := horderly.sorted
          rw [kinds_of_posted hposted] at hsorted
          exact (horderly.taken hposted rfl).post rfl (by decide) (by simp) hsorted.rspExpired
      | serialWriteDelay => exact horderly.startWrite hposted
      | serialWrite => exact horderly.writeTimeout hposted (hpatient rfl)
  | writeEnd error => exact horderly.writeEnd hposted
  | readEnd data lastWritten => exact horderly.readEnd hposted
  | readFailed => exact horderly.readFailed hposted

/-! ## Every step keeps the order -/

/-- A timer expires. -/
theorem Orderly.expire (horderly : Orderly c) {timer : Timer} (harmed : c.armed timer = true) :
    Orderly ((c.cancel timer).post (.expired timer)) := by
  have hcarried := horderly.carried
  have hsorted := horderly.sorted
  have hannounced : ∀ command, .enqueueCommandOnIoThread command ∈
      c.posted ++ [.expired timer] → Loaded command :=
    announced_post horderly.announced (by simp)
  cases timer with
  | rsp =>
      have hsorted := horderly.sorted
      rw [harmed] at hsorted
      have hposts := hsorted.rspExpires
      have htx : ((c.cancel .rsp).post (.expired .rsp)).transmission = c.transmission :=
        transmission_post rfl
      exact ⟨kinds_post _ _ ▸ hposts, htx.symm ▸ horderly.carried, horderly.sent,
        fun hidle => (horderly.fronted hidle).post (by decide), horderly.loaded, hannounced,
        horderly.suited⟩
  | serialWriteDelay =>
      have hsending : c.currentState.phase = .sending := by
        cases hphase : c.currentState.phase with
        | sending => rfl
        | idle =>
            rw [hphase] at hcarried
            exact absurd (Resting.delayed hcarried) (by simp [transmission, harmed])
        | waiting =>
            rw [hphase] at hcarried
            exact absurd hcarried.1.delayed (by simp [transmission, harmed])
      rw [hsending] at hcarried hsorted
      refine horderly.keep_sending hsending rfl rfl rfl ?_ ?_ horderly.sent hannounced
      · exact kinds_post _ _ ▸ hsorted.write
      · have hstage := Stage.delayExpires hcarried harmed
        have htx : ((c.cancel .serialWriteDelay).post (.expired .serialWriteDelay)).transmission =
            { c.transmission with
              delayed := false
              queued := c.transmission.queued ++ [.expired .serialWriteDelay] } :=
          transmission_post_write rfl
        exact htx ▸ hstage
  | serialWrite =>
      have hsending : c.currentState.phase = .sending := by
        cases hphase : c.currentState.phase with
        | sending => rfl
        | idle =>
            rw [hphase] at hcarried
            exact absurd (Resting.timed hcarried) (by simp [transmission, harmed])
        | waiting =>
            rw [hphase] at hcarried
            exact absurd hcarried.1.timed (by simp [transmission, harmed])
      rw [hsending] at hcarried hsorted
      refine horderly.keep_sending hsending rfl rfl rfl ?_ ?_ horderly.sent hannounced
      · exact kinds_post _ _ ▸ hsorted.write
      · have hstage := Stage.writeExpires hcarried harmed
        have htx : ((c.cancel .serialWrite).post (.expired .serialWrite)).transmission =
            { c.transmission with
              timed := false
              queued := c.transmission.queued ++ [.expired .serialWrite] } :=
          transmission_post_write rfl
        exact htx ▸ hstage

/-- What is being written is the frame prepared last. -/
theorem Orderly.writing (horderly : Orderly c) {frame : TxFrame} {others : List TxFrame}
    (hwriting : c.writing = frame :: others) :
    c.currentState.phase = .sending ∧ Stage c.transmission c.log ∧ others = [] ∧
      (lastPrepared c.log).map Prod.snd = some frame := by
  have hcarried := horderly.carried
  cases hphase : c.currentState.phase with
  | sending =>
      rw [hphase] at hcarried
      exact ⟨rfl, hcarried, Stage.writing_eq hcarried hwriting⟩
  | idle =>
      rw [hphase] at hcarried
      exact absurd (Resting.writing hcarried) (by simp [transmission, hwriting])
  | waiting =>
      rw [hphase] at hcarried
      exact absurd hcarried.1.writing (by simp [transmission, hwriting])

/-- A write completes. -/
theorem Orderly.writeDone (horderly : Orderly c) {frame : TxFrame} {others : List TxFrame}
    (hwriting : c.writing = frame :: others) (success : Bool) :
    Orderly (c.step (.writeDone success)) := by
  obtain ⟨hsending, hstage, rfl, hlast⟩ := horderly.writing hwriting
  have hsome : c.transmission.writing ≠ [] := by simp [transmission, hwriting]
  have hsorted := horderly.sorted
  rw [hsending] at hsorted
  have hannounced : ∀ error command, .enqueueCommandOnIoThread command ∈
      c.posted ++ [.writeEnd error] → Loaded command :=
    fun error => announced_post horderly.announced (by simp)
  cases success with
  | true =>
      have hsame : c.step (.writeDone true) =
          ({ c with writing := [], lastWritten := frame.number }.note (.written frame)).post
            (.writeEnd .none) := by
        simp [step, hwriting]
      rw [hsame]
      refine horderly.keep_sending hsending rfl rfl rfl ?_ ?_ ⟨hlast, horderly.sent⟩
        (hannounced _)
      · exact kinds_post _ _ ▸ hsorted.write
      · have hended : Stage _ (.written frame :: c.log) :=
          hstage.writeDone hsome (show WriteError.none ≠ .operationAborted by decide) rfl
            fun _ => .inl hlast
        have htx : (({ c with writing := [], lastWritten := frame.number }.note
            (.written frame)).post (.writeEnd .none)).transmission = { c.transmission with
              writing := []
              queued := c.transmission.queued ++ [.writeEnd .none] } :=
          transmission_post_write rfl
        exact htx ▸ hended
  | false =>
      have hsame : c.step (.writeDone false) =
          { c with writing := [] }.post (.writeEnd .other) := by
        simp [step, hwriting]
      rw [hsame]
      refine horderly.keep_sending hsending rfl rfl rfl ?_ ?_ horderly.sent (hannounced _)
      · exact kinds_post _ _ ▸ hsorted.write
      · have hended : Stage _ c.log :=
          hstage.writeDone hsome (show WriteError.other ≠ .operationAborted by decide) rfl
            (by simp)
        have htx : ({ c with writing := [] }.post (.writeEnd .other)).transmission =
            { c.transmission with
              writing := []
              queued := c.transmission.queued ++ [.writeEnd .other] } :=
          transmission_post_write rfl
        exact htx ▸ hended

theorem Orderly.send (horderly : Orderly c) (request : Request) : Orderly (c.send request) := by
  have hflag : ∀ flag : Bool, Orderly { c with continueReadFlag := flag } := fun _ =>
    ⟨horderly.sorted, horderly.carried, horderly.sent, horderly.fronted, horderly.loaded,
      horderly.announced, horderly.suited⟩
  have hpolls : Orderly (if request.polls then { c with continueReadFlag := true } else c) := by
    split
    · exact hflag true
    · exact horderly
  unfold Client.send
  cases hcommand : request.command with
  | none => exact hpolls
  | some command =>
      refine hpolls.post rfl (by simp [Handler.kind]) (fun other heq => ?_) hpolls.sorted.other
      obtain rfl := (Handler.enqueueCommandOnIoThread.inj heq)
      exact fun _ => ⟨request, hcommand⟩

/-- A read completes. -/
theorem Orderly.reads (horderly : Orderly c) (hreading : c.reading = true) {handler : Handler}
    (hkind : handler.kind = .read) : Orderly ({ c with reading := false }.post handler) := by
  have hother : isWrite handler = false := by simp [isWrite, hkind]
  have hsorted := horderly.sorted
  rw [hreading] at hsorted
  have hposts := hsorted.read
  rw [← hkind] at hposts
  have htx : ({ c with reading := false }.post handler).transmission = c.transmission :=
    transmission_post hother
  refine ⟨kinds_post _ handler ▸ hposts, htx.symm ▸ horderly.carried, horderly.sent,
    fun hidle => (horderly.fronted hidle).post (by simp [hkind]), horderly.loaded, ?_,
    horderly.suited⟩
  refine announced_post horderly.announced fun command heq => ?_
  rw [heq] at hkind
  exact absurd hkind (by simp [Handler.kind])

theorem Orderly.step (horderly : Orderly c) {input : Input} (hpatient : Patient c input) :
    Orderly (c.step input) := by
  cases input with
  | run =>
      by_cases hnone : c.posted = []
      · have hsame : c.step .run = c := by simp [Client.step, hnone]
        rw [hsame]
        exact horderly
      · obtain ⟨handler, rest, hposted⟩ := List.exists_cons_of_ne_nil hnone
        have hsame : c.step .run = (c.taken rest).runHandler handler := by
          simp [Client.step, hposted, Client.taken]
        rw [hsame]
        refine horderly.runHandler hposted fun hhandler => ?_
        subst hhandler
        simpa [Patient, hposted] using hpatient
  | expire timer =>
      by_cases harmed : c.armed timer = true
      · have hsame : c.step (.expire timer) = (c.cancel timer).post (.expired timer) := if_pos harmed
        exact hsame ▸ horderly.expire harmed
      · have hsame : c.step (.expire timer) = c := if_neg harmed
        rw [hsame]
        exact horderly
  | writeDone success =>
      by_cases hnone : c.writing = []
      · have hsame : c.step (.writeDone success) = c := by simp [Client.step, hnone]
        rw [hsame]
        exact horderly
      · obtain ⟨frame, others, hwriting⟩ := List.exists_cons_of_ne_nil hnone
        exact horderly.writeDone hwriting success
  | readDone data =>
      by_cases hreading : c.reading = true
      · have hsame : c.step (.readDone data) =
            { c with reading := false }.post (.readEnd data c.lastWritten) := if_pos hreading
        exact hsame ▸ horderly.reads hreading rfl
      · have hsame : c.step (.readDone data) = c := if_neg hreading
        rw [hsame]
        exact horderly
  | readFailed =>
      by_cases hreading : c.reading = true
      · have hsame : c.step .readFailed = { c with reading := false }.post .readFailed :=
          if_pos hreading
        exact hsame ▸ horderly.reads hreading rfl
      · have hsame : c.step .readFailed = c := if_neg hreading
        rw [hsame]
        exact horderly
  | send request => exact horderly.send request
  | stopRead | clock _ | elapse _ =>
      exact ⟨horderly.sorted, horderly.carried, horderly.sent, horderly.fronted, horderly.loaded,
        horderly.announced, horderly.suited⟩

theorem orderly_init (evp : Evp) (epochSeconds : UInt32) : Orderly (init evp epochSeconds) := by
  have hresting : Resting
      (transmission { evp := evp, epochSeconds := epochSeconds, now := 0 }) :=
    ⟨rfl, rfl, rfl, rfl, rfl, .inl rfl⟩
  have hidle : Orderly { evp := evp, epochSeconds := epochSeconds, now := 0 } :=
    ⟨⟨.nil, ⟨rfl, by simp [kinds]⟩, by simp [kinds]⟩, hresting, trivial,
      fun _ => ⟨by simp, by simp⟩, by simp, by simp, trivial⟩
  exact hidle.enqueueCommandOnIoThread fun hchunk => absurd hchunk (by decide)

end Client

end LinuxPBS.Lcsc

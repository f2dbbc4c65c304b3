import LinuxPBS.Upt.Writing

/-!
# What a step does to the frames

A `Flight` is what can be seen of the frames: those in `writeQueue_`, the buffer of the
write that is under way, the command dequeued last and the log.  A step of the client
does one of a few things to it (`Move`), and `step_move` finds out which; the
invariants about frames are then proved move by move.

`Booked` is the first of them, and holds in every run.  The frames are queued in the
order of their numbers, the newest number is that of the current command, and a frame
that has been completely written leaves the queue at the next completion.
-/

namespace LinuxPBS.Upt

open Machine

/-- What can be seen of the frames. -/
structure Flight where
  writeQueue : List TxFrame
  writeInProgress : Bool
  writeDelayActive : Bool
  writing : Option TxFrame
  currentCmd : UptCmd
  count : ℕ
  log : List Outcome

namespace Flight

/-- A command is taken from the queue. -/
def dequeued (flight : Flight) (cmd : UptCmd) (frame : TxFrame) : Flight :=
  { flight with
    currentCmd := cmd
    count := flight.count + 1
    log := .dequeued cmd frame :: flight.log }

/-- A frame is put into the queue. -/
def queued (flight : Flight) (frame : TxFrame) : Flight :=
  { flight with writeQueue := flight.writeQueue ++ [frame] }

/-- The wait for the write gap is over. -/
def waited (flight : Flight) : Flight := { flight with writeDelayActive := false }

/-- There is nothing to write. -/
def rested (flight : Flight) : Flight := { flight with writeInProgress := false }

/-- The write begins with the write gap. -/
def delayed (flight : Flight) : Flight :=
  { flight with writeInProgress := true, writeDelayActive := true }

/-- A frame is handed to the port. -/
def handed (flight : Flight) (frame : TxFrame) : Flight :=
  { flight with
    writeInProgress := true
    writeDelayActive := false
    writing := some frame
    log := .handed frame :: flight.log }

/-- The port gives the buffer of a write back. -/
def givenUp (flight : Flight) : Flight := { flight with writing := none }

/-- The port has written the buffer of a write. -/
def written (flight : Flight) (frame : TxFrame) : Flight :=
  { flight with writing := none, log := .written frame :: flight.log }

/-- The front of the queue is dropped, and no write is in progress any more. -/
def popped (flight : Flight) : Flight :=
  { flight with writeQueue := flight.writeQueue.tail, writeInProgress := false }

/-- The completion of a write is to come. -/
def Ended (flight : Flight) : Prop :=
  flight.writeInProgress = true ∧ flight.writeDelayActive = false ∧ flight.writing = none

/-- What `startWrite` does. -/
inductive Started (flight : Flight) : Flight → Prop
  | rested (hqueue : flight.writeQueue = []) : Started flight flight.rested
  | delayed {front : TxFrame} {rest : List TxFrame} (hqueue : flight.writeQueue = front :: rest) :
      Started flight flight.delayed
  | handed {front : TxFrame} {rest : List TxFrame} (hqueue : flight.writeQueue = front :: rest) :
      Started flight (flight.handed front)

/-- What `enqueueWrite` does. -/
inductive Enqueued (flight : Flight) (frame : TxFrame) : Flight → Prop
  | empty (hframe : frame.bytes = []) : Enqueued flight frame flight
  | behind (hbusy : flight.writeInProgress = true) : Enqueued flight frame (flight.queued frame)
  | started (hfree : flight.writeInProgress = false) {after : Flight}
      (hstarted : Started (flight.queued frame) after) : Enqueued flight frame after

end Flight

/-- The handlers that bring word of a write: its completion, and what that is judged to be. -/
def isMark : Handler → Bool
  | .writeEnd _ => true
  | .event event => event.isVerdict
  | _ => false

theorem Plain.isMark {state : State} {handler : Handler} (hplain : Plain state handler) :
    isMark handler = false := by
  cases handler with
  | event event =>
      cases hverdict : event.isVerdict with
      | false => exact hverdict
      | true => exact absurd rfl (hplain.ne_verdict hverdict)
  | writeEnd error => exact Bool.noConfusion (hplain : true = false)
  | _ => rfl

namespace Client

/-- What can be seen of the frames of the client. -/
def flight (c : Client) : Flight :=
  ⟨c.writeQueue, c.writeInProgress, c.writeDelayActive, c.writing, c.currentCmd, c.count,
    wire c.log⟩

/-- What `writeEnd` takes the end of a write for. -/
def verdict (c : Client) (error : WriteError) : Event :=
  if c.writeTimedOut then .writeTimeout
  else if error = .none then .writeCompleted
  else .writeFailed

/-- No word of a write but that in a list. -/
def MarksFrom (posted : List Handler) (d : Client) : Prop :=
  ∀ handler ∈ d.posted, isMark handler = true → handler ∈ posted

/-- What a step does to the frames and to the state of the automaton. -/
inductive Move (c : Client) : Input → Client → Prop
  | quiet {input : Input} {d : Client} (hflight : d.flight = c.flight)
      (hmarks : d.MarksFrom c.posted)
      (hstate : d.currentState = c.currentState ∨ d.currentState = .idle ∨
        d.currentState = .cancelCommandRequest) : Move c input d
  | completed {d : Client} (hflight : d.flight = c.flight) (hmarks : d.MarksFrom c.posted)
      (hmark : .event .writeCompleted ∈ c.posted) (hfrom : c.currentState = .sendingRequestAsync)
      (hto : d.currentState = .waitingForAck) : Move c .run d
  | acknowledged {d : Client} (hflight : d.flight = c.flight) (hmarks : d.MarksFrom c.posted)
      (hfrom : c.currentState = .waitingForAck)
      (hto : d.currentState = .waitingForResponse) : Move c .run d
  /-- `COMMAND_ENQUEUED` with an empty queue -/
  | restarted {d : Client} {rest : List Handler} (hflight : d.flight = c.flight)
      (hposted : c.posted = .event .commandEnqueued :: rest) (hmarks : d.MarksFrom rest)
      (hfrom : c.currentState = .idle) (hqueue : c.commandQueue = [])
      (hto : d.currentState = .sendingRequestAsync) : Move c .run d
  | dequeued {d : Client} {rest : List Handler} {cmdData : CommandWithData}
      {commands : List CommandWithData}
      (hflight : (c.flight.dequeued cmdData.cmd (c.nextFrame cmdData)).Enqueued
        (c.nextFrame cmdData) d.flight)
      (hposted : c.posted = .event .commandEnqueued :: rest) (hmarks : d.MarksFrom rest)
      (hfrom : c.currentState = .idle) (hqueue : c.commandQueue = cmdData :: commands)
      (hto : d.currentState = .sendingRequestAsync) : Move c .run d
  | started {d : Client} (hfrom : ¬ c.flight.Ended)
      (hplace : c.writeInProgress = true ∨ c.currentState = .idle)
      (hflight : c.flight.waited.Started d.flight) (hmarks : d.MarksFrom c.posted)
      (hstate : d.currentState = c.currentState) : Move c .run d
  | givenUp {input : Input} {d : Client} {error : WriteError} (herror : error ≠ .none)
      (hfrom : Writing c.transmission (writeHandlers c.posted))
      (hflight : d.flight = c.flight.givenUp) (hmarks : d.MarksFrom (.writeEnd error :: c.posted))
      (hstate : d.currentState = c.currentState) : Move c input d
  | written {input : Input} {d : Client} {frame : TxFrame} (hframe : c.writing = some frame)
      (hfrom : Writing c.transmission (writeHandlers c.posted))
      (hflight : d.flight = c.flight.written frame)
      (hmarks : d.MarksFrom (.writeEnd .none :: c.posted))
      (hstate : d.currentState = c.currentState) : Move c input d
  | ended {d : Client} {error : WriteError} {rest : List Handler}
      (hposted : c.posted = .writeEnd error :: rest) (hfrom : c.flight.Ended)
      (hrest : writeHandlers rest = []) (hflight : d.flight = c.flight.popped)
      (hmarks : d.MarksFrom (.event (c.verdict error) :: rest))
      (hstate : d.currentState = c.currentState) : Move c .run d
  /-- the clean-up of a cancelled command takes the frame that waits for the write gap away -/
  | dropped {d : Client} (hfrom : Delayed c.transmission (writeHandlers c.posted))
      (hflight : d.flight = c.flight.popped.waited) (hmarks : d.MarksFrom c.posted)
      (hto : d.currentState = .idle) : Move c .run d

/-! ## Every step is a move -/

variable {c d : Client}

theorem Still.flight (hstill : Still c d) : d.flight = c.flight := by
  obtain ⟨htx, -, ⟨hcmd, hcount⟩, hwire, -⟩ := hstill
  have hqueue : d.writeQueue = c.writeQueue := congrArg Transmission.writeQueue htx
  have hprogress : d.writeInProgress = c.writeInProgress :=
    congrArg Transmission.writeInProgress htx
  have hactive : d.writeDelayActive = c.writeDelayActive :=
    congrArg Transmission.writeDelayActive htx
  have hwriting : d.writing = c.writing := congrArg Transmission.writing htx
  unfold Client.flight
  rw [hqueue, hprogress, hactive, hwriting, hcmd, hcount, hwire]

theorem MarksFrom.refl (c : Client) : c.MarksFrom c.posted := fun _ hmem _ => hmem

theorem MarksFrom.mono {first second : List Handler} (hmarks : d.MarksFrom first)
    (hsubset : first ⊆ second) : d.MarksFrom second :=
  fun handler hmem hmark => hsubset (hmarks handler hmem hmark)

theorem MarksFrom.trans {posted : List Handler} {e : Client} (hmarks : e.MarksFrom d.posted)
    (hbefore : d.MarksFrom posted) : e.MarksFrom posted :=
  fun handler hmem hmark => hbefore handler (hmarks handler hmem hmark) hmark

/-- What has been posted besides is no word of a write. -/
theorem MarksFrom.append {posted : List Handler} (more : List Handler) (hposted : d.posted = posted ++ more)
    (hmore : ∀ handler ∈ more, isMark handler = false) : d.MarksFrom posted := by
  intro handler hmem hmark
  rw [hposted, List.mem_append] at hmem
  refine hmem.resolve_right fun hnew => ?_
  rw [hmore handler hnew] at hmark
  cases hmark

theorem Still.marks (hstill : Still c d) : d.MarksFrom c.posted := by
  obtain ⟨-, -, -, -, more, hposted, hmore⟩ := hstill
  exact .append more hposted fun handler hmem => (hmore handler hmem).isMark

theorem Still.move (hstill : Still c d) (input : Input) : Move c input d :=
  .quiet hstill.flight hstill.marks (.inl hstill.2.1)

/-- A handler is taken, and what it does is plain. -/
theorem Still.moveTaken {handler : Handler} {rest : List Handler}
    (hposted : c.posted = handler :: rest) (hstill : Still (c.taken rest) d) :
    Move c .run d :=
  .quiet hstill.flight (hstill.marks.mono (hposted ▸ List.subset_cons_self handler rest))
    (.inl hstill.2.1)

theorem enter_flight (c : Client) (next : State) : (c.enter next).flight = c.flight := by
  unfold Client.enter
  split_ifs
  · rfl
  · rfl

theorem enter_currentState (c : Client) (next : State) : (c.enter next).currentState = next := by
  unfold Client.enter
  split_ifs
  · rfl
  · rfl

theorem enter_marks (c : Client) (next : State) : (c.enter next).MarksFrom c.posted := by
  unfold Client.enter
  split_ifs
  · exact MarksFrom.append [.checkCommandQueue] rfl (List.forall_mem_singleton.mpr rfl)
  · exact MarksFrom.refl c

theorem cancel_flight (c : Client) (timer : Timer) : (c.cancel timer).flight = c.flight := by
  unfold Client.cancel
  dsimp only
  split_ifs
  · rfl
  · rfl

theorem start_flight (c : Client) (timer : Timer) : (c.start timer).flight = c.flight :=
  cancel_flight c timer

theorem startWrite_flight (c : Client) : c.flight.Started c.startWrite.flight := by
  unfold Client.startWrite
  split
  · rename_i hqueue
    exact .rested hqueue
  · rename_i front rest hqueue
    dsimp only
    split_ifs
    · rw [start_flight]
      exact .delayed hqueue
    · exact .handed hqueue

theorem enqueueWrite_flight (c : Client) (data : TxFrame) :
    c.flight.Enqueued data (c.enqueueWrite data).flight := by
  by_cases hdata : data.bytes = []
  · rw [Client.enqueueWrite, if_pos hdata]
    exact .empty hdata
  · cases hbusy : c.writeInProgress with
    | true =>
        rw [enqueueWrite_of_busy hdata hbusy]
        exact .behind hbusy
    | false =>
        rw [enqueueWrite_of_free hdata hbusy]
        exact .started hbusy (startWrite_flight { c with writeQueue := c.writeQueue ++ [data] })

/-! ### Events -/

theorem cancel_marks (c : Client) (timer : Timer) : (c.cancel timer).MarksFrom c.posted := by
  unfold Client.cancel
  dsimp only
  split_ifs
  · exact MarksFrom.append [.delayAborted] rfl (List.forall_mem_singleton.mpr rfl)
  · exact MarksFrom.refl c

theorem start_marks (c : Client) (timer : Timer) : (c.start timer).MarksFrom c.posted :=
  cancel_marks c timer

theorem stopSerialWriteDelayTimer_marks (c : Client) :
    c.stopSerialWriteDelayTimer.MarksFrom c.posted := by
  unfold Client.stopSerialWriteDelayTimer
  split_ifs
  · exact MarksFrom.refl c
  · exact cancel_marks c .serialWriteDelay

theorem stopSerialWriteDelayTimer_flight (hactive : c.writeDelayActive = true) :
    c.stopSerialWriteDelayTimer.flight = c.flight.popped.waited := by
  rw [stopSerialWriteDelayTimer_of_active hactive]
  cases harmed : c.armed .serialWriteDelay with
  | false =>
      rw [cancel_of_idle harmed]
      rfl
  | true =>
      rw [cancel_of_armed harmed]
      rfl

theorem Orderly.delayed_of_active (horderly : Orderly c) (hactive : c.writeDelayActive = true) :
    Delayed c.transmission (writeHandlers c.posted) := by
  have hne : ¬ c.writeDelayActive = false := by simp [hactive]
  rcases horderly.phase with (hresting | hdelayed | hwriting | hended) | hleftover
  · exact absurd hresting.2.1 hne
  · exact hdelayed
  · exact absurd hwriting.2.1 hne
  · exact absurd hended.2.1 hne
  · exact absurd hleftover.2.2.1.2.1 hne

/-- Where the events but a cancel request lead while a command is under way. -/
theorem stateTransitionTable_next {state next : State} {event : Event} (hidle : state ≠ .idle)
    (hevent : event ≠ .cancelCommand) (hnext : stateTransitionTable state event = some next) :
    next = .idle ∨
      state = .sendingRequestAsync ∧ event = .writeCompleted ∧ next = .waitingForAck ∨
      state = .waitingForAck ∧ next = .waitingForResponse := by
  cases state <;> cases event <;> simp_all [stateTransitionTable]

/-- The clean-up gives a wait for the write gap up, and leaves every other write alone. -/
theorem Orderly.cleanUp_move {rest : List Handler} {handler : Handler} (horderly : Orderly c)
    (hposted : c.posted = handler :: rest) :
    Move c .run (((c.taken rest).handleCancelCommandRequestState
      .cancelCommandCleanUpAndEnqueue).enter .idle) := by
  have hidle := enter_currentState
    ((c.taken rest).handleCancelCommandRequestState
      .cancelCommandCleanUpAndEnqueue) .idle
  have hstopped := stopSerialWriteDelayTimer_marks
    ((c.taken rest).disarm.inState .idle)
  have htail : rest ⊆ c.posted := hposted ▸ List.subset_cons_self handler rest
  have hmarks : (((((c.taken rest).disarm.inState
      .idle).stopSerialWriteDelayTimer).processEvent .cancelCommand).post
        .checkCommandQueue).MarksFrom c.posted := by
    refine MarksFrom.mono (fun other hmem hmark => ?_) htail
    refine hstopped other ?_ hmark
    have hone := (List.mem_append.mp hmem).resolve_right fun hnew => by
      rw [List.mem_singleton.mp hnew] at hmark
      cases hmark
    exact (List.mem_append.mp hone).resolve_right fun hnew => by
      rw [List.mem_singleton.mp hnew] at hmark
      cases hmark
  rw [cleanUp_eq] at hidle ⊢
  by_cases hactive : c.writeDelayActive = true
  · exact .dropped (horderly.delayed_of_active hactive)
      (stopSerialWriteDelayTimer_flight (c := (c.taken rest).disarm.inState .idle) hactive) hmarks
      hidle
  · refine .quiet ?_ hmarks (.inr (.inl hidle))
    have hsame := stopSerialWriteDelayTimer_of_inactive (c := (c.taken rest).disarm.inState .idle)
      (Bool.eq_false_iff.mpr hactive)
    rw [hsame]
    rfl

/-- The next command is taken from the queue, if there is one. -/
theorem Orderly.command_move {rest : List Handler} (horderly : Orderly c)
    (hposted : c.posted = .event .commandEnqueued :: rest) (hidle : c.currentState = .idle) :
    Move c .run (((c.taken rest).handleIdleState .commandEnqueued).enter .sendingRequestAsync) := by
  have hphase := (horderly.take hposted rfl).phase.resolve_right (horderly.ready hposted)
  obtain ⟨hpopped, -, -⟩ := popFromCommandQueueAndEnqueueWrite_spec hphase
  have hstarted := (start_marks (c.taken rest).popFromCommandQueueAndEnqueueWrite .serialWrite)
  rw [Client.handleIdleState, if_pos rfl]
  have hmarks := (enter_marks _ .sendingRequestAsync).trans hstarted
  rw [hpopped] at hmarks
  by_cases hqueue : c.commandQueue = []
  · refine .restarted ?_ hposted hmarks hidle hqueue (enter_currentState _ _)
    rw [enter_flight, start_flight,
      popFromCommandQueueAndEnqueueWrite_nil (c := c.taken rest) hqueue]
    rfl
  · obtain ⟨cmdData, commands, hcons⟩ := List.exists_cons_of_ne_nil hqueue
    refine .dequeued ?_ hposted hmarks hidle hcons (enter_currentState _ _)
    rw [enter_flight, start_flight,
      popFromCommandQueueAndEnqueueWrite_cons (c := c.taken rest) hcons]
    exact enqueueWrite_flight ((c.taken rest).dequeue cmdData commands) (c.nextFrame cmdData)

theorem Orderly.event_move {event : Event} {rest : List Handler} (horderly : Orderly c)
    (hposted : c.posted = .event event :: rest) : Move c .run ((c.taken rest).runEvent event) := by
  have htail : rest ⊆ c.posted := hposted ▸ List.subset_cons_self _ rest
  unfold Client.runEvent
  cases hnext : stateTransitionTable (c.taken rest).currentState event with
  | none => exact Still.moveTaken hposted (Still.refl _)
  | some next =>
      dsimp only
      by_cases hidle : (c.taken rest).currentState = .idle
      · rw [eventHandler_idle hidle]
        rcases stateTransitionTable_idle (hidle ▸ hnext) with ⟨rfl, rfl⟩ | ⟨rfl, rfl⟩
        · exact horderly.command_move hposted hidle
        · have hqueued : Still (c.taken rest)
              ((c.taken rest).enqueueCommandToFront .cancelCommandRequest) := (Still.refl _).post rfl
          exact .quiet ((enter_flight _ _).trans hqueued.flight)
            (((enter_marks _ _).trans hqueued.marks).mono htail)
            (.inr (.inl (enter_currentState _ _)))
      · by_cases hcancel : (c.taken rest).currentState = .cancelCommandRequest
        · obtain ⟨rfl, rfl⟩ := stateTransitionTable_cancel (hcancel ▸ hnext)
          rw [eventHandler_cancelCommandRequest hcancel]
          exact horderly.cleanUp_move hposted
        · rcases stateTransitionTable_busy hidle hcancel hnext with ⟨rfl, rfl⟩ | ⟨hne, -⟩
          · rw [eventHandler_cancelCommand hidle hcancel]
            refine .quiet (enter_flight _ _) (MarksFrom.mono ?_ htail)
              (.inr (.inr (enter_currentState _ _)))
            exact (enter_marks _ _).trans (MarksFrom.append [_] rfl
              (List.forall_mem_singleton.mpr rfl))
          · have hstill := still_eventHandler (c := c.taken rest) hidle hcancel hne
            have hflight := (enter_flight _ next).trans hstill.flight
            have hmarks := ((enter_marks _ next).trans hstill.marks).mono htail
            have hstate := enter_currentState ((c.taken rest).eventHandler event) next
            rcases stateTransitionTable_next hidle hne hnext with
              rfl | ⟨hfrom, rfl, rfl⟩ | ⟨hfrom, rfl⟩
            · exact .quiet hflight hmarks (.inr (.inl hstate))
            · exact .completed hflight hmarks (hposted ▸ List.mem_cons_self) hfrom hstate
            · exact .acknowledged hflight hmarks hfrom hstate

/-! ### Handlers and inputs -/

theorem Orderly.writeEnd_move {error : WriteError} {rest : List Handler} (horderly : Orderly c)
    (hposted : c.posted = .writeEnd error :: rest) : Move c .run ((c.taken rest).writeEnd error) := by
  obtain ⟨hqueued, hwriting, -, hended, -⟩ := horderly.takeWrite hposted rfl
  have hfrom : c.flight.Ended := ⟨(hended rfl).1, (hended rfl).2, hwriting⟩
  have hmarks : ∀ {d : Client} {event : Event}, d.posted = rest → event = c.verdict error →
      (d.processEvent event).MarksFrom (.event (c.verdict error) :: rest) := by
    rintro d _ hrest rfl handler hmem -
    rcases List.mem_append.mp hmem with hold | hnew
    · exact List.mem_cons_of_mem _ (hrest ▸ hold)
    · rw [List.mem_singleton.mp hnew]
      exact List.mem_cons_self
  have hverdict : c.verdict error = (c.taken rest).verdict error := rfl
  unfold Client.writeEnd
  dsimp only
  split_ifs with htimedOut hok
  · refine .ended hposted hfrom hqueued rfl (hmarks rfl ?_) rfl
    rw [hverdict, Client.verdict, if_pos htimedOut]
  · refine .ended hposted hfrom hqueued rfl (hmarks rfl ?_) rfl
    rw [hverdict, Client.verdict, if_neg htimedOut, if_pos hok]
  · refine .ended hposted hfrom hqueued rfl (hmarks rfl ?_) rfl
    rw [hverdict, Client.verdict, if_neg htimedOut, if_neg hok]

theorem Orderly.writing (horderly : Orderly c) {frame : TxFrame} (hframe : c.writing = some frame) :
    Writing c.transmission (writeHandlers c.posted) := by
  rcases horderly.phase with (hresting | hdelayed | hwriting | hended) | hleftover
  · exact absurd (hframe.symm.trans hresting.2.2.1) (Option.some_ne_none _)
  · exact absurd (hframe.symm.trans hdelayed.2.2.1) (Option.some_ne_none _)
  · exact hwriting
  · exact absurd (hframe.symm.trans hended.2.2.1) (Option.some_ne_none _)
  · exact absurd (hframe.symm.trans hleftover.2.2.1.2.2.1) (Option.some_ne_none _)

theorem cancelPort_of_writing {frame : TxFrame} (hframe : c.writing = some frame) :
    c.cancelPort.flight = c.flight.givenUp ∧
      c.cancelPort.MarksFrom (.writeEnd .operationAborted :: c.posted) ∧
        c.cancelPort.currentState = c.currentState := by
  have hmarks : ∀ (more : List Handler) {d : Client}, d.posted = c.posted ++ more →
      (∀ handler ∈ more, isMark handler = true → handler = .writeEnd .operationAborted) →
        d.MarksFrom (.writeEnd .operationAborted :: c.posted) := by
    intro more d hposted hmore handler hmem hmark
    rw [hposted, List.mem_append] at hmem
    rcases hmem with hold | hnew
    · exact List.mem_cons_of_mem _ hold
    · rw [hmore handler hnew hmark]
      exact List.mem_cons_self
  unfold Client.cancelPort
  dsimp only
  split_ifs with hreading hbusy hbusy
  · refine ⟨rfl, hmarks [.readFailed, .writeEnd .operationAborted]
      (List.append_assoc _ _ _) ?_, rfl⟩
    simp [isMark]
  · exact absurd (Option.isSome_of_eq_some hframe) hbusy
  · refine ⟨rfl, hmarks [.writeEnd .operationAborted] rfl ?_, rfl⟩
    simp
  · exact absurd (Option.isSome_of_eq_some hframe) hbusy

theorem cancelPort_of_idle (hidle : c.writing = none) : Still c c.cancelPort := by
  unfold Client.cancelPort
  dsimp only
  split_ifs with hreading hbusy hbusy
  · exact absurd hbusy (by simp [Client.post, hidle])
  · exact (Still.refl c).post rfl
  · exact absurd hbusy (by simp [hidle])
  · exact Still.refl c

/-- When a handler of the write-gap timer runs no completion is queued, and the write in
progress, if there is none, has been given up in `IDLE`. -/
theorem Orderly.delay_from {handler : Handler} {rest : List Handler} (horderly : Orderly c)
    (hposted : c.posted = handler :: rest) (hhandler : LinuxPBS.Upt.ofWrite handler = true)
    (hdelay : isDelay handler = true) :
    ¬ c.flight.Ended ∧ (c.writeInProgress = true ∨ c.currentState = .idle) := by
  have hqueued : writeHandlers c.posted = handler :: writeHandlers rest := by
    rw [hposted]
    simp [writeHandlers, hhandler]
  rcases horderly.phase with (hresting | hdelayed | hwriting | hended) | hleftover
  · have hnil := hresting.2.2.2.2
    rw [hqueued] at hnil
    cases hnil
  · exact ⟨fun hended => absurd (hended.2.1.symm.trans hdelayed.2.1) Bool.false_ne_true,
      .inl hdelayed.1⟩
  · have hnil := hwriting.2.2.2.1
    rw [hqueued] at hnil
    cases hnil
  · obtain ⟨-, -, -, -, -, error, hone⟩ := hended
    rw [hqueued] at hone
    rw [(List.cons.inj hone).1] at hdelay
    cases hdelay
  · exact ⟨fun hended => absurd (hleftover.2.2.1.1.symm.trans hended.1) Bool.false_ne_true,
      .inr hleftover.1⟩

/-- The write timer gives up the write that is under way. -/
theorem Orderly.timeout_move {rest : List Handler} {handler : Handler} (horderly : Orderly c)
    (hposted : c.posted = handler :: rest) :
    Move c .run (c.taken rest).handleSerialWriteTimeout := by
  have htail : rest ⊆ c.posted := hposted ▸ List.subset_cons_self handler rest
  unfold Client.handleSerialWriteTimeout
  split_ifs
  · exact Still.moveTaken hposted (Still.refl _)
  · by_cases hidle : c.writing = none
    · exact Still.moveTaken hposted
        (cancelPort_of_idle (c := { c.taken rest with writeTimedOut := true }) hidle)
    · obtain ⟨frame, hframe⟩ := Option.ne_none_iff_exists'.mp hidle
      obtain ⟨hflight, hmarks, hstate⟩ :=
        cancelPort_of_writing (c := { c.taken rest with writeTimedOut := true }) hframe
      exact .givenUp (by decide) (horderly.writing hframe) hflight
        (hmarks.mono (List.cons_subset_cons _ htail)) hstate

theorem Orderly.handler_move {handler : Handler} {rest : List Handler} (horderly : Orderly c)
    (hposted : c.posted = handler :: rest) : Move c .run ((c.taken rest).runHandler handler) := by
  have htail : rest ⊆ c.posted := hposted ▸ List.subset_cons_self handler rest
  cases handler with
  | event event => exact horderly.event_move hposted
  | checkCommandQueue => exact Still.moveTaken hposted (Still.refl _).checkCommandQueue
  | enqueueCommandOnIoThread cmd data front =>
      exact Still.moveTaken hposted ((Still.refl _).enqueueCommandOnIoThread cmd data front)
  | expired timer =>
      cases timer with
      | ack => exact Still.moveTaken hposted ((Still.refl _).processEvent rfl)
      | rsp => exact Still.moveTaken hposted ((Still.refl _).processEvent rfl)
      | serialWriteDelay =>
          obtain ⟨hafter, hstate, -⟩ := startWrite_spec
            (c := { c.taken rest with writeDelayActive := false }) rfl
            (horderly.takeWrite hposted rfl).2.1 (horderly.takeWrite hposted rfl).2.2.1
          obtain ⟨hfrom, hplace⟩ := horderly.delay_from hposted rfl rfl
          refine .started hfrom hplace
            (startWrite_flight { c.taken rest with writeDelayActive := false }) ?_ hstate
          exact (MarksFrom.refl _).mono (hafter ▸ htail)
      | serialWrite => exact horderly.timeout_move hposted
  | delayAborted =>
      obtain ⟨-, hactive⟩ := (horderly.takeWrite hposted rfl).2.2.2.2 rfl
      refine .quiet ?_ ((MarksFrom.refl (c.taken rest)).mono htail) (.inl rfl)
      exact congrArg (Flight.mk _ _ · _ _ _ _) hactive.symm
  | writeEnd error => exact horderly.writeEnd_move hposted
  | readEnd data => exact Still.moveTaken hposted ((Still.refl _).readEnd data)
  | readFailed =>
      exact .quiet rfl ((MarksFrom.refl (c.taken rest)).mono htail) (.inl rfl)

theorem step_move (horderly : Orderly c) (input : Input) : Move c input (c.step input) := by
  cases input with
  | run =>
      cases hposted : c.posted with
      | nil =>
          have hsame : c.step .run = c := by
            simp only [Client.step, hposted]
          rw [hsame]
          exact (Still.refl c).move _
      | cons handler rest =>
          have hsame : c.step .run = (c.taken rest).runHandler handler := by
            simp only [Client.step, hposted, Client.taken]
          rw [hsame]
          exact horderly.handler_move hposted
  | expire timer =>
      unfold Client.step
      dsimp only
      split_ifs
      · exact .quiet rfl (MarksFrom.append [.expired timer] rfl
          (List.forall_mem_singleton.mpr rfl)) (.inl rfl)
      · exact (Still.refl c).move _
  | writeDone success =>
      cases hframe : c.writing with
      | none =>
          have hsame : c.step (.writeDone success) = c := by
            simp only [Client.step, hframe]
          rw [hsame]
          exact (Still.refl c).move _
      | some frame =>
          have hmarks : ∀ {d : Client} {error : WriteError},
              d.posted = c.posted ++ [.writeEnd error] →
                d.MarksFrom (.writeEnd error :: c.posted) := by
            intro d error hposted handler hmem _
            rw [hposted] at hmem
            exact List.mem_cons.mpr ((List.mem_append.mp hmem).symm.imp List.mem_singleton.mp id)
          cases success with
          | true =>
              have hsame : c.step (.writeDone true) =
                  (({ c with writing := none } : Client).note (.written frame)).post
                    (.writeEnd .none) := by
                simp only [Client.step, hframe, if_true]
              rw [hsame]
              exact .written hframe (horderly.writing hframe) rfl (hmarks rfl) rfl
          | false =>
              have hsame : c.step (.writeDone false) =
                  ({ c with writing := none } : Client).post (.writeEnd .other) := by
                simp only [Client.step, hframe]
                rfl
              rw [hsame]
              exact .givenUp (by decide) (horderly.writing hframe) rfl (hmarks rfl) rfl
  | readDone data =>
      unfold Client.step
      dsimp only
      split_ifs
      · exact (Still.post (d := { c with reading := false }) (Still.refl c)
          (show Plain c.currentState (.readEnd data) from rfl)).move _
      · exact (Still.refl c).move _
  | readFailed =>
      unfold Client.step
      dsimp only
      split_ifs
      · exact (Still.post (d := { c with reading := false }) (Still.refl c)
          (show Plain c.currentState .readFailed from rfl)).move _
      · exact (Still.refl c).move _
  | enqueue cmd data => exact ((Still.refl c).enqueueCommand cmd data).move _
  | cancelCommand =>
      have hplain : Plain c.currentState (.event .cancelCommand) := rfl
      exact ((Still.refl c).processEvent hplain).move _
  | clock clock => exact .quiet rfl (MarksFrom.refl c) (.inl rfl)
  | elapse milliseconds => exact .quiet rfl (MarksFrom.refl c) (.inl rfl)

/-! ## The books -/

/-- The frames are queued by their numbers, up to that of the current command, and a current
frame that has been written waits for its completion at most. -/
structure Booked (flight : Flight) (posted : List Handler) : Prop where
  current : ∀ dequeued ∈ lastDequeued flight.log,
    dequeued.1 = flight.currentCmd ∧ dequeued.2.number = flight.count
  below : ∀ frame ∈ flight.writeQueue, frame.number ≤ flight.count
  increasing : flight.writeQueue.Pairwise fun first second => first.number < second.number
  written : CurrentWritten flight.log →
    flight.writeQueue = [] ∨ flight.Ended ∧ flight.writeQueue.tail = []
  lost : ∀ error ≠ WriteError.none, .writeEnd error ∈ posted → ¬ CurrentWritten flight.log

variable {flight after : Flight} {posted : List Handler}

theorem Booked.marks (hbooked : Booked flight posted) (hmarks : d.MarksFrom posted) :
    Booked flight d.posted :=
  ⟨hbooked.current, hbooked.below, hbooked.increasing, hbooked.written,
    fun error hne hmem => hbooked.lost error hne (hmarks _ hmem rfl)⟩

/-- A write begins where none is under way. -/
theorem Booked.started (hbooked : Booked flight posted) (hfrom : ¬ flight.Ended)
    (hstarted : flight.waited.Started after) : Booked after posted := by
  have hunwritten : ∀ {front : TxFrame} {rest : List TxFrame},
      flight.writeQueue = front :: rest → ¬ CurrentWritten flight.log := by
    intro front rest hqueue hwritten
    rcases hbooked.written hwritten with hnil | ⟨hended, -⟩
    · rw [hqueue] at hnil
      cases hnil
    · exact hfrom hended
  cases hstarted with
  | rested hqueue =>
      exact ⟨hbooked.current, hbooked.below, hbooked.increasing, fun _ => .inl hqueue,
        hbooked.lost⟩
  | delayed hqueue =>
      exact ⟨hbooked.current, hbooked.below, hbooked.increasing,
        fun hwritten => absurd hwritten (hunwritten hqueue), hbooked.lost⟩
  | handed hqueue =>
      exact ⟨hbooked.current, hbooked.below, hbooked.increasing,
        fun hwritten => absurd hwritten (hunwritten hqueue), hbooked.lost⟩

/-- A command is taken from the queue. -/
theorem Booked.dequeued (hbooked : Booked flight posted) (cmd : UptCmd) {frame : TxFrame}
    (hnumber : frame.number = flight.count + 1) : Booked (flight.dequeued cmd frame) posted := by
  refine ⟨?_, fun other hmem => Nat.le_succ_of_le (hbooked.below other hmem), hbooked.increasing,
    False.elim, fun error _ _ => id⟩
  intro dequeued hdequeued
  obtain rfl := Option.some.inj hdequeued
  exact ⟨rfl, hnumber⟩

/-- The frame of the command is put behind the others. -/
theorem Booked.queued (hbooked : Booked flight posted) {frame : TxFrame}
    (hnumber : frame.number = flight.count) (hlower : ∀ other ∈ flight.writeQueue,
      other.number < flight.count) (hunwritten : ¬ CurrentWritten flight.log) :
    Booked (flight.queued frame) posted := by
  refine ⟨hbooked.current, ?_, ?_, fun hwritten => absurd hwritten hunwritten, hbooked.lost⟩
  · intro other hmem
    rcases List.mem_append.mp hmem with hold | hnew
    · exact hbooked.below other hold
    · rw [List.mem_singleton.mp hnew]
      exact hnumber.le
  · refine List.pairwise_append.mpr ⟨hbooked.increasing, List.pairwise_singleton _ _, ?_⟩
    intro other hmem last hlast
    rw [List.mem_singleton.mp hlast, hnumber]
    exact hlower other hmem

theorem Booked.enqueued (hbooked : Booked flight posted) (cmd : UptCmd) {frame : TxFrame}
    (hnumber : frame.number = flight.count + 1)
    (henqueued : (flight.dequeued cmd frame).Enqueued frame after) : Booked after posted := by
  have hdequeued := hbooked.dequeued cmd hnumber
  have hqueued := hdequeued.queued hnumber
    (fun other hmem => Nat.lt_succ_of_le (hbooked.below other hmem)) id
  cases henqueued with
  | empty => exact hdequeued
  | behind => exact hqueued
  | started hfree hstarted =>
      have hunwritten : ¬ CurrentWritten (flight.dequeued cmd frame).log := id
      cases hstarted with
      | rested hqueue => exact absurd hqueue (List.append_ne_nil_of_right_ne_nil _
          (List.cons_ne_nil _ _))
      | delayed =>
          exact ⟨hqueued.current, hqueued.below, hqueued.increasing,
            fun hwritten => absurd hwritten hunwritten, hqueued.lost⟩
      | handed =>
          exact ⟨hqueued.current, hqueued.below, hqueued.increasing,
            fun hwritten => absurd hwritten hunwritten, hqueued.lost⟩

theorem notMem_of_writeHandlers_nil {handler : Handler} (hnil : writeHandlers posted = [])
    (hhandler : LinuxPBS.Upt.ofWrite handler = true) : handler ∉ posted := by
  intro hmem
  have hin : handler ∈ writeHandlers posted := List.mem_filter.mpr ⟨hmem, hhandler⟩
  rw [hnil] at hin
  cases hin

theorem Delayed.no_writeEnd (hdelayed : Delayed c.transmission (writeHandlers posted))
    (error : WriteError) : .writeEnd error ∉ posted := by
  intro hmem
  have hin : .writeEnd error ∈ writeHandlers posted := List.mem_filter.mpr ⟨hmem, rfl⟩
  obtain ⟨-, -, -, -, ⟨-, hqueued⟩ | ⟨-, hqueued⟩⟩ := hdelayed
  · rw [hqueued] at hin
    cases hin
  · rw [hqueued] at hin
    cases List.mem_singleton.mp hin

theorem Booked.unwritten (hbooked : Booked c.flight posted)
    (hfrom : Writing c.transmission (writeHandlers c.posted)) :
    ¬ CurrentWritten c.flight.log := by
  obtain ⟨-, -, -, -, frame, hframe, hfront⟩ := hfrom
  intro hwritten
  rcases hbooked.written hwritten with hnil | ⟨⟨-, -, hnone⟩, -⟩
  · have hqueue : c.transmission.writeQueue = [] := hnil
    rw [hqueue] at hfront
    cases hfront
  · exact absurd (hnone.symm.trans hframe) (Option.some_ne_none _).symm

theorem Booked.givenUp (hbooked : Booked c.flight c.posted) {error : WriteError}
    (hfrom : Writing c.transmission (writeHandlers c.posted)) :
    Booked c.flight.givenUp (.writeEnd error :: c.posted) :=
  ⟨hbooked.current, hbooked.below, hbooked.increasing,
    fun hwritten => absurd hwritten (hbooked.unwritten hfrom),
    fun _ _ _ => hbooked.unwritten hfrom⟩

/-- A frame that is the current one has been alone in the queue. -/
theorem Booked.alone (hbooked : Booked flight posted) {frame : TxFrame}
    (hfront : flight.writeQueue.head? = some frame) (hnumber : frame.number = flight.count) :
    flight.writeQueue.tail = [] := by
  cases hqueue : flight.writeQueue with
  | nil => rfl
  | cons front rest =>
      rw [hqueue] at hfront
      obtain rfl := Option.some.inj hfront
      refine List.eq_nil_iff_forall_not_mem.mpr fun other hmem => ?_
      have hbelow : other.number ≤ flight.count :=
        hbooked.below other (hqueue ▸ List.mem_cons_of_mem _ hmem)
      have hincreasing := hbooked.increasing
      rw [hqueue] at hincreasing
      have habove : front.number < other.number := List.rel_of_pairwise_cons hincreasing hmem
      omega

theorem Booked.complete (hbooked : Booked c.flight c.posted) {frame : TxFrame}
    (hframe : c.writing = some frame) (hfrom : Writing c.transmission (writeHandlers c.posted)) :
    Booked (c.flight.written frame) (.writeEnd .none :: c.posted) := by
  have hunwritten := hbooked.unwritten hfrom
  obtain ⟨hprogress, hactive, -, hqueued, front, hwriting, hfront⟩ := hfrom
  obtain rfl : frame = front := Option.some.inj (hframe.symm.trans hwriting)
  refine ⟨hbooked.current, hbooked.below, hbooked.increasing, ?_, ?_⟩
  · rintro (hcurrent | hwritten)
    · obtain ⟨dequeued, hdequeued, rfl⟩ := Option.map_eq_some_iff.mp hcurrent
      exact .inr ⟨⟨hprogress, hactive, rfl⟩,
        hbooked.alone hfront (hbooked.current dequeued hdequeued).2⟩
    · exact absurd hwritten hunwritten
  · intro error hne hmem
    rcases List.mem_cons.mp hmem with heq | hold
    · exact absurd (Handler.writeEnd.inj heq) hne
    · exact absurd hold (notMem_of_writeHandlers_nil hqueued rfl)

theorem Booked.popped (hbooked : Booked flight posted) (more : List Handler) (hends : ∀ error, .writeEnd error ∉ more) :
    Booked flight.popped more := by
  refine ⟨hbooked.current, fun frame hmem => hbooked.below frame (List.mem_of_mem_tail hmem), ?_,
    ?_, fun error _ hmem => absurd hmem (hends error)⟩
  · exact hbooked.increasing.sublist (List.tail_sublist _)
  · intro hwritten
    rcases hbooked.written hwritten with hnil | ⟨-, htail⟩
    · exact .inl (congrArg List.tail hnil)
    · exact .inl htail

theorem Booked.move (hbooked : Booked c.flight c.posted) {input : Input} (hmove : Move c input d) :
    Booked d.flight d.posted := by
  have hsame : d.flight = c.flight → d.MarksFrom c.posted → Booked d.flight d.posted := by
    intro hflight hmarks
    rw [hflight]
    exact hbooked.marks hmarks
  cases hmove with
  | quiet hflight hmarks => exact hsame hflight hmarks
  | completed hflight hmarks => exact hsame hflight hmarks
  | acknowledged hflight hmarks => exact hsame hflight hmarks
  | restarted hflight hposted hmarks =>
      exact hsame hflight (hmarks.mono (hposted ▸ List.subset_cons_self _ _))
  | dequeued hflight hposted hmarks =>
      have hafter := hbooked.enqueued _ rfl hflight
      exact hafter.marks (hmarks.mono (hposted ▸ List.subset_cons_self _ _))
  | started hfrom _ hflight hmarks => exact (hbooked.started hfrom hflight).marks hmarks
  | givenUp herror hfrom hflight hmarks =>
      rw [hflight]
      exact (hbooked.givenUp hfrom).marks hmarks
  | written hframe hfrom hflight hmarks =>
      rw [hflight]
      exact (hbooked.complete hframe hfrom).marks hmarks
  | ended hposted hfrom hrest hflight hmarks =>
      rw [hflight]
      refine hbooked.popped _ fun error hmem => ?_
      rcases List.mem_cons.mp (hmarks _ hmem rfl) with heq | hold
      · cases heq
      · exact notMem_of_writeHandlers_nil hrest rfl hold
  | dropped hfrom hflight hmarks =>
      rw [hflight]
      have hpopped := hbooked.popped d.posted fun error hmem =>
        hfrom.no_writeEnd error (hmarks _ hmem rfl)
      exact ⟨hpopped.current, hpopped.below, hpopped.increasing,
        fun hwritten => (hpopped.written hwritten).imp id fun hended =>
          absurd hended.1.1 Bool.false_ne_true, hpopped.lost⟩

/-- What holds of the frames in every run. -/
structure Kept (c : Client) : Prop where
  orderly : Orderly c
  booked : Booked c.flight c.posted

theorem Kept.step (hkept : Kept c) (input : Input) : Kept (c.step input) :=
  ⟨hkept.orderly.step input, hkept.booked.move (step_move hkept.orderly input)⟩

theorem kept_init (clock : Clock) : Kept (init clock) := by
  have hempty : Booked (Client.flight { clock := clock, now := 0, lastSerialReadTime := 0 }) [] :=
    ⟨fun _ hmem => absurd hmem (Option.not_mem_none _),
      fun _ hmem => absurd hmem List.not_mem_nil, List.Pairwise.nil, False.elim, fun _ _ _ => id⟩
  have hstill : Still { clock := clock, now := 0, lastSerialReadTime := 0 } (init clock) :=
    ((Still.refl _).enqueueCommandOnIoThread _ _ _).enqueueCommandOnIoThread _ _ _
  refine ⟨orderly_init clock, ?_⟩
  rw [hstill.flight]
  exact hempty.marks hstill.marks

end Client

end LinuxPBS.Upt

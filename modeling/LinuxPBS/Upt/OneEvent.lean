import Mathlib
import LinuxPBS.Upt.WireSound

/-!
# One payment event for a request

A payment event has two sources.  `handleReceivedCmd` raises the one of a response when
it reads the response, in whatever state the automaton is, and the time-outs and failed
writes raise theirs when the automaton handles them.  Nothing makes the two exclude each
other: a response that overtakes its ACK is a success, and the ACK that does not come is
a failure of the same request (`not_oneEvent`).

`oneEvent_of_regular` is about the runs in which they do.  What is asked of a response
is that the events queued behind it lead out of the wait (`Released`): then no time-out
is met on the way.  What is asked of the writes is that a verdict is not taken for that
of another frame.
-/

namespace LinuxPBS.Upt

open Machine

/-! ## What the log says about payments -/

/-- The command dequeued last is a payment. -/
def CurrentPayment (log : List Outcome) : Prop :=
  (lastDequeued log).map Prod.fst = some .paymentModeAutoRequest

/-- A payment event has been raised since a command was dequeued. -/
def Raised : List Outcome → Prop
  | [] => False
  | .dequeued _ _ :: _ => False
  | .paymentAuto _ :: _ => True
  | .failure .paymentModeAutoRequest _ :: _ => True
  | _ :: older => Raised older

/-- Every payment event is the first one of its request, and `SEND_FAILED` is raised only for a
frame that has not been completely written. -/
def OneEvent : List Outcome → Prop
  | [] => True
  | .paymentAuto _ :: older => (CurrentPayment older → ¬ Raised older) ∧ OneEvent older
  | .failure .paymentModeAutoRequest msgStatus :: older =>
      ¬ Raised older ∧ (msgStatus = .sendFailed → ¬ CurrentWritten older) ∧ OneEvent older
  | _ :: older => OneEvent older

instance decidableRaised : ∀ log, Decidable (Raised log)
  | [] => inferInstanceAs (Decidable False)
  | entry :: older =>
      haveI := decidableRaised older
      match entry with
      | .dequeued _ _ => inferInstanceAs (Decidable False)
      | .paymentAuto _ => inferInstanceAs (Decidable True)
      | .failure cmd _ => by cases cmd <;> unfold Raised <;> infer_instance
      | .handed _ | .written _ => inferInstanceAs (Decidable (Raised older))

instance decidableOneEvent : ∀ log, Decidable (OneEvent log)
  | [] => inferInstanceAs (Decidable True)
  | entry :: older =>
      haveI := decidableOneEvent older
      haveI : Decidable (CurrentPayment older) :=
        inferInstanceAs (Decidable ((lastDequeued older).map Prod.fst = _))
      match entry with
      | .paymentAuto _ =>
          inferInstanceAs (Decidable ((CurrentPayment older → ¬ Raised older) ∧ OneEvent older))
      | .failure cmd _ => by cases cmd <;> unfold OneEvent <;> infer_instance
      | .dequeued _ _ | .handed _ | .written _ => inferInstanceAs (Decidable (OneEvent older))

/-! ## The events that are queued -/

/-- The states in which a command is under way. -/
def State.waits : State → Bool
  | .sendingRequestAsync | .waitingForAck | .waitingForResponse => true
  | _ => false

/-- The events with which a wait ends as a failure. -/
def Event.fails : Event → Bool
  | .writeFailed | .writeTimeout | .ackTimeout | .responseTimeout => true
  | _ => false

/-- The events that are queued lead out of the wait, and not by a failure. -/
def Released : List Handler → State → Prop
  | [], state => state.waits = false
  | .event event :: rest, state =>
      state.waits = false ∨
        match stateTransitionTable state event with
        | none => Released rest state
        | some next => event.fails = false ∧ Released rest next
  | _ :: rest, state => Released rest state

theorem released_of_not_waits {state : State} (hwaits : state.waits = false)
    (posted : List Handler) : Released posted state := by
  induction posted with
  | nil => exact hwaits
  | cons handler rest ih =>
      cases handler with
      | event event => exact .inl hwaits
      | _ => exact ih

theorem Released.append {posted : List Handler} {state : State} (hreleased : Released posted state)
    (more : List Handler) : Released (posted ++ more) state := by
  induction posted generalizing state with
  | nil => exact released_of_not_waits hreleased more
  | cons handler rest ih =>
      cases handler with
      | event event =>
          refine hreleased.imp id fun hnext => ?_
          cases htable : stateTransitionTable state event with
          | none =>
              rw [htable] at hnext
              exact ih hnext
          | some next =>
              rw [htable] at hnext
              exact ⟨hnext.1, ih hnext.2⟩
      | _ => exact ih hreleased

instance decidableReleased : ∀ posted state, Decidable (Released posted state)
  | [], state => inferInstanceAs (Decidable (state.waits = false))
  | handler :: rest, state =>
      haveI := fun next => decidableReleased rest next
      match handler with
      | .event event => by unfold Released; split <;> infer_instance
      | .checkCommandQueue | .enqueueCommandOnIoThread _ _ _ | .expired _ | .delayAborted
      | .writeEnd _ | .readEnd _ | .readFailed => inferInstanceAs (Decidable (Released rest state))

namespace Client

/-! ## The condition -/

/-- A response to a payment request is the first event of the request, and the queued events
lead the automaton with it out of its wait. -/
def FrameAllowed (c : Client) (msgDataBuff : List UInt8) : Prop :=
  ∀ msg ∈ c.receivedMessage msgDataBuff, msg.header.msgClass = msgClassRsp →
    (paymentEvent msg).isSome → c.currentCmd = .paymentModeAutoRequest →
      ¬ Raised c.log ∧
        Released (c.posted ++ [.event .responseTimerCancelledRspReceived]) c.currentState

/-- The frames of a read are allowed one after the other, the write timer has not given up a
payment request that has been completely written, and one is taken from the queue with no
failure of another write queued; `COMMAND_ENQUEUED` finds a command behind a payment. -/
def Regular (c : Client) (input : Input) : Prop :=
  match input, c.posted with
  | .run, .readEnd data :: rest =>
      Meets handleReceivedCmd FrameAllowed
        { c.taken rest with
          lastSerialReadTime := c.now
          receiver := (consumeReceivedBytes c.receiver data).1 }
        (consumeReceivedBytes c.receiver data).2
  | .run, .writeEnd .none :: _ =>
      c.currentCmd = .paymentModeAutoRequest → CurrentWritten c.log → c.writeTimedOut = false
  | .run, .event .commandEnqueued :: rest =>
      c.currentState = .idle →
        match c.commandQueue with
        | [] => c.currentCmd ≠ .paymentModeAutoRequest
        | cmdData :: _ => cmdData.cmd = .paymentModeAutoRequest →
            .event .writeFailed ∉ rest ∧ .event .writeTimeout ∉ rest
  | _, _ => True

instance (c : Client) (msgDataBuff : List UInt8) : Decidable (FrameAllowed c msgDataBuff) := by
  unfold FrameAllowed
  infer_instance

instance (c : Client) (input : Input) : Decidable (Regular c input) := by
  unfold Regular
  generalize c.posted = posted
  generalize c.commandQueue = commandQueue
  cases input with
  | run =>
    rcases posted with _ | ⟨handler, rest⟩
    · infer_instance
    · cases handler with
      | event event => cases event <;> cases commandQueue <;> infer_instance
      | writeEnd writeError => cases writeError <;> infer_instance
      | _ => infer_instance
  | _ => infer_instance

/-! ## Verdicts on the current frame -/

variable {c d : Client} {flight after : Flight} {posted : List Handler} {state : State}

/-- While a payment request is being sent, a failure of its write is queued only when the write
is over and has not been completed. -/
def Unsent (flight : Flight) (posted : List Handler) (state : State) : Prop :=
  flight.currentCmd = .paymentModeAutoRequest → state = .sendingRequestAsync →
    .event .writeFailed ∈ posted ∨ .event .writeTimeout ∈ posted →
      flight.writeInProgress = false ∧ ¬ CurrentWritten flight.log

theorem Unsent.marks (hunsent : Unsent flight posted state) (hmarks : d.MarksFrom posted) :
    Unsent flight d.posted state :=
  fun hpayment hsending hmem => hunsent hpayment hsending
    (hmem.imp (fun hfailed => hmarks _ hfailed rfl) fun htimeout => hmarks _ htimeout rfl)

theorem unsent_of_ne {next : State} (hne : next ≠ .sendingRequestAsync) :
    Unsent flight posted next :=
  fun _ hsending => absurd hsending hne

theorem unsent_of_busy (hunsent : Unsent flight posted state)
    (hbusy : flight.writeInProgress = true) (hpayment : flight.currentCmd = .paymentModeAutoRequest)
    (hsending : state = .sendingRequestAsync) :
    .event .writeFailed ∉ posted ∧ .event .writeTimeout ∉ posted :=
  ⟨fun hfailed => absurd ((hunsent hpayment hsending (.inl hfailed)).1.symm.trans hbusy)
      Bool.false_ne_true,
    fun htimeout => absurd ((hunsent hpayment hsending (.inr htimeout)).1.symm.trans hbusy)
      Bool.false_ne_true⟩

theorem started_currentCmd (hstarted : flight.Started after) :
    after.currentCmd = flight.currentCmd := by
  cases hstarted <;> rfl

theorem enqueued_currentCmd {frame : TxFrame} (henqueued : flight.Enqueued frame after) :
    after.currentCmd = flight.currentCmd := by
  cases henqueued with
  | empty => rfl
  | behind => rfl
  | started _ hstarted =>
      have hsame := started_currentCmd hstarted
      exact hsame

/-- The verdict on a write that has ended is a failure: the current frame has not been written. -/
theorem Booked.unwritten_of_verdict (hbooked : Booked c.flight c.posted) {error : WriteError}
    {rest : List Handler} (hposted : c.posted = .writeEnd error :: rest)
    (hregular : Regular c .run) (hpayment : c.currentCmd = .paymentModeAutoRequest)
    (hverdict : c.verdict error = .writeFailed ∨ c.verdict error = .writeTimeout) :
    ¬ CurrentWritten c.flight.log := by
  by_cases herror : error = .none
  · subst herror
    unfold Regular at hregular
    rw [hposted] at hregular
    intro hwritten
    have htimedOut := hregular hpayment ((currentWritten_wire c.log).mp hwritten)
    simp [Client.verdict, htimedOut] at hverdict
  · exact hbooked.lost error herror (hposted ▸ List.mem_cons_self)

theorem Unsent.move (hunsent : Unsent c.flight c.posted c.currentState) (hkept : Kept c)
    {input : Input} (hregular : Regular c input) (hmove : Move c input d) :
    Unsent d.flight d.posted d.currentState := by
  cases hmove with
  | quiet hflight hmarks hstate =>
      rw [hflight]
      rcases hstate with hsame | hidle | hcancel
      · rw [hsame]
        exact hunsent.marks hmarks
      · exact unsent_of_ne (hidle ▸ by decide)
      · exact unsent_of_ne (hcancel ▸ by decide)
  | completed _ _ _ _ hto => exact unsent_of_ne (hto ▸ by decide)
  | acknowledged _ _ _ hto => exact unsent_of_ne (hto ▸ by decide)
  | restarted hflight hposted hmarks hfrom hqueue hto =>
      unfold Regular at hregular
      rw [hposted] at hregular
      have hother := hregular hfrom
      rw [hqueue] at hother
      rw [hflight]
      exact fun hpayment => absurd hpayment hother
  | @dequeued d rest cmdData commands hflight hposted hmarks hfrom hqueue hto =>
      unfold Regular at hregular
      rw [hposted] at hregular
      have hnone := hregular hfrom
      rw [hqueue] at hnone
      intro hpayment _ hmem
      have hcmd : cmdData.cmd = .paymentModeAutoRequest :=
        (enqueued_currentCmd hflight).symm.trans hpayment
      obtain ⟨hfailed, htimeout⟩ := hnone hcmd
      rcases hmem with hmem | hmem
      · exact absurd (hmarks _ hmem rfl) hfailed
      · exact absurd (hmarks _ hmem rfl) htimeout
  | started _ hplace hflight hmarks hstate =>
      rw [hstate]
      intro hpayment hsending hmem
      have hbusy : c.flight.writeInProgress = true := hplace.resolve_right fun hidle => by
        rw [hsending] at hidle
        cases hidle
      obtain ⟨hfailed, htimeout⟩ :=
        unsent_of_busy hunsent hbusy ((started_currentCmd hflight).symm.trans hpayment) hsending
      rcases hmem with hmem | hmem
      · exact absurd (hmarks _ hmem rfl) hfailed
      · exact absurd (hmarks _ hmem rfl) htimeout
  | givenUp _ hfrom hflight hmarks hstate =>
      rw [hflight, hstate]
      intro hpayment hsending hmem
      obtain ⟨hfailed, htimeout⟩ := unsent_of_busy hunsent hfrom.1 hpayment hsending
      rcases hmem with hmem | hmem
      · exact absurd ((List.mem_cons.mp (hmarks _ hmem rfl)).resolve_left (by simp)) hfailed
      · exact absurd ((List.mem_cons.mp (hmarks _ hmem rfl)).resolve_left (by simp)) htimeout
  | written _ hfrom hflight hmarks hstate =>
      rw [hflight, hstate]
      intro hpayment hsending hmem
      obtain ⟨hfailed, htimeout⟩ := unsent_of_busy hunsent hfrom.1 hpayment hsending
      rcases hmem with hmem | hmem
      · exact absurd ((List.mem_cons.mp (hmarks _ hmem rfl)).resolve_left (by simp)) hfailed
      · exact absurd ((List.mem_cons.mp (hmarks _ hmem rfl)).resolve_left (by simp)) htimeout
  | @ended d error rest hposted hfrom _ hflight hmarks hstate =>
      rw [hflight, hstate]
      intro hpayment hsending hmem
      obtain ⟨hfailed, htimeout⟩ := unsent_of_busy hunsent hfrom.1 hpayment hsending
      have hverdict : c.verdict error = .writeFailed ∨ c.verdict error = .writeTimeout := by
        refine hmem.imp (fun hmem => ?_) fun hmem => ?_
        · refine (Handler.event.inj ((List.mem_cons.mp (hmarks _ hmem rfl)).resolve_right
            fun hold => hfailed ?_)).symm
          exact hposted ▸ List.mem_cons_of_mem _ hold
        · refine (Handler.event.inj ((List.mem_cons.mp (hmarks _ hmem rfl)).resolve_right
            fun hold => htimeout ?_)).symm
          exact hposted ▸ List.mem_cons_of_mem _ hold
      exact ⟨rfl, hkept.booked.unwritten_of_verdict hposted hregular hpayment hverdict⟩
  | dropped _ _ _ hto => exact unsent_of_ne (hto ▸ by decide)

/-! ## Who raises events -/

/-- Every event so far is the first one of its request, and a request that has had one is
released from its wait. -/
structure Single (c : Client) : Prop where
  one : OneEvent c.log
  payment : CurrentPayment c.log → c.currentCmd = .paymentModeAutoRequest
  released : c.currentCmd = .paymentModeAutoRequest → Raised c.log →
    Released c.posted c.currentState

/-- No event has been raised, and nothing but handlers at the end has been posted. -/
def Silent (c d : Client) : Prop :=
  (OneEvent c.log → OneEvent d.log) ∧ (Raised d.log → Raised c.log) ∧
    lastDequeued d.log = lastDequeued c.log ∧ d.currentCmd = c.currentCmd ∧
    d.currentState = c.currentState ∧ ∃ more, d.posted = c.posted ++ more

theorem Silent.refl (c : Client) : Silent c c :=
  ⟨id, id, rfl, rfl, rfl, [], (List.append_nil _).symm⟩

theorem Silent.post (hsilent : Silent c d) (handler : Handler) : Silent c (d.post handler) := by
  obtain ⟨hone, hraised, hlast, hcmd, hstate, more, hposted⟩ := hsilent
  refine ⟨hone, hraised, hlast, hcmd, hstate, more ++ [handler], ?_⟩
  show d.posted ++ [handler] = _
  rw [hposted, List.append_assoc]

theorem Silent.processEvent (hsilent : Silent c d) (event : Event) :
    Silent c (d.processEvent event) :=
  hsilent.post _

theorem Silent.enqueueCommand (hsilent : Silent c d) (cmd : UptCmd) (data : Option CommandData) :
    Silent c (d.enqueueCommand cmd data) :=
  hsilent.post _

theorem Silent.ite {other : Client} (hsilent : Silent c d) (hother : Silent c other) (p : Prop)
    [Decidable p] : Silent c (if p then d else other) := by
  split
  · exact hsilent
  · exact hother

theorem Silent.cancel (hsilent : Silent c d) (timer : Timer) : Silent c (d.cancel timer) := by
  unfold Client.cancel
  dsimp only
  split_ifs
  · exact Silent.post (d := { d with armed := Function.update d.armed timer false }) hsilent _
  · exact hsilent

theorem Silent.start (hsilent : Silent c d) (timer : Timer) : Silent c (d.start timer) :=
  hsilent.cancel timer

theorem Silent.startWrite (hsilent : Silent c d) : Silent c d.startWrite := by
  unfold Client.startWrite
  split
  · exact hsilent
  · dsimp only
    split_ifs
    · exact Silent.start (d := { d with writeInProgress := true, writeDelayActive := true })
        hsilent _
    · exact hsilent

theorem Silent.enqueueWrite (hsilent : Silent c d) (data : TxFrame) :
    Silent c (d.enqueueWrite data) := by
  unfold Client.enqueueWrite
  dsimp only
  split_ifs
  · exact hsilent
  · exact Silent.startWrite (d := { d with writeQueue := d.writeQueue ++ [data] }) hsilent
  · exact hsilent

theorem Silent.checkCommandQueue (hsilent : Silent c d) : Silent c d.checkCommandQueue := by
  unfold Client.checkCommandQueue
  split_ifs
  · exact hsilent
  · exact hsilent.processEvent _
  · exact hsilent

theorem Silent.writeEnd (hsilent : Silent c d) (error : WriteError) :
    Silent c (d.writeEnd error) := by
  unfold Client.writeEnd
  dsimp only
  split_ifs
  · exact Silent.processEvent (d := { d with
      writeQueue := d.writeQueue.tail, writeInProgress := false, writeTimedOut := false }) hsilent _
  · exact Silent.processEvent (d := { d with
      writeQueue := d.writeQueue.tail, writeInProgress := false }) hsilent _
  · exact Silent.processEvent (d := { d with
      writeQueue := d.writeQueue.tail, writeInProgress := false }) hsilent _

theorem Silent.stopSerialWriteDelayTimer (hsilent : Silent c d) :
    Silent c d.stopSerialWriteDelayTimer := by
  unfold Client.stopSerialWriteDelayTimer
  split_ifs
  · exact hsilent
  · exact hsilent.cancel .serialWriteDelay

theorem Silent.cancelPort (hsilent : Silent c d) : Silent c d.cancelPort := by
  have hread : Silent c (({ d with reading := false } : Client).post .readFailed) :=
    Silent.post (d := { d with reading := false }) hsilent _
  unfold Client.cancelPort
  dsimp only
  split_ifs
  · exact Silent.post (d := { ({ d with reading := false } : Client).post .readFailed with
      writing := none }) hread _
  · exact hread
  · exact Silent.post (d := { d with writing := none }) hsilent _
  · exact hsilent

theorem Silent.handleSerialWriteTimeout (hsilent : Silent c d) :
    Silent c d.handleSerialWriteTimeout := by
  unfold Client.handleSerialWriteTimeout
  split_ifs
  · exact hsilent
  · exact Silent.cancelPort (d := { d with writeTimedOut := true }) hsilent

theorem Silent.runExpired (hsilent : Silent c d) (timer : Timer) :
    Silent c (d.runExpired timer) := by
  cases timer with
  | ack => exact hsilent.processEvent _
  | rsp => exact hsilent.processEvent _
  | serialWriteDelay => exact Silent.startWrite (d := { d with writeDelayActive := false }) hsilent
  | serialWrite => exact hsilent.handleSerialWriteTimeout

theorem Single.silent (hsingle : Single c) (hsilent : Silent c d) : Single d := by
  obtain ⟨hone, hraised, hlast, hcmd, hstate, more, hposted⟩ := hsilent
  refine ⟨hone hsingle.one, fun hpayment => ?_, fun hpayment hover => ?_⟩
  · rw [hcmd]
    unfold CurrentPayment at hpayment
    rw [hlast] at hpayment
    exact hsingle.payment hpayment
  · rw [hposted, hstate]
    exact (hsingle.released (hcmd.symm.trans hpayment) (hraised hover)).append more

/-- Every event of a client is the first one of its request, whatever its state. -/
def Firsts (c : Client) : Prop :=
  OneEvent c.log ∧ (CurrentPayment c.log → c.currentCmd = .paymentModeAutoRequest)

theorem Firsts.silent (hfirsts : Firsts c) (hsilent : Silent c d) : Firsts d := by
  obtain ⟨hone, -, hlast, hcmd, -⟩ := hsilent
  refine ⟨hone hfirsts.1, fun hpayment => ?_⟩
  rw [hcmd]
  unfold CurrentPayment at hpayment
  rw [hlast] at hpayment
  exact hfirsts.2 hpayment

theorem Firsts.enter (hfirsts : Firsts c) {next : State}
    (hreleased : c.currentCmd = .paymentModeAutoRequest → Raised c.log → Released c.posted next) :
    Single (c.enter next) := by
  have hentered : Single { c with currentState := next } := ⟨hfirsts.1, hfirsts.2, hreleased⟩
  unfold Client.enter
  split_ifs
  · exact hentered.silent ((Silent.refl _).post _)
  · exact hentered

/-! ### Events -/

/-- A command is taken from the queue; with none there the command before is no payment. -/
theorem Firsts.commandEvent (hfirsts : Firsts c)
    (hqueue : c.commandQueue = [] → c.currentCmd ≠ .paymentModeAutoRequest) :
    Single ((c.handleIdleState .commandEnqueued).enter .sendingRequestAsync) := by
  rw [Client.handleIdleState, if_pos rfl]
  cases hcommands : c.commandQueue with
  | nil =>
      rw [popFromCommandQueueAndEnqueueWrite_nil hcommands]
      have hsilent : Silent c (c.start .serialWrite) := (Silent.refl c).start _
      obtain ⟨-, -, -, hcmd, -⟩ := id hsilent
      exact (hfirsts.silent hsilent).enter fun hpayment =>
        absurd (hcmd.symm.trans hpayment) (hqueue hcommands)
  | cons cmdData rest =>
      rw [popFromCommandQueueAndEnqueueWrite_cons hcommands]
      have hdequeued : Firsts (c.dequeue cmdData rest) :=
        ⟨hfirsts.1, fun hpayment => Option.some.inj hpayment⟩
      have hsilent : Silent (c.dequeue cmdData rest)
          (((c.dequeue cmdData rest).enqueueWrite (c.nextFrame cmdData)).start .serialWrite) :=
        ((Silent.refl _).enqueueWrite _).start _
      exact (hdequeued.silent hsilent).enter fun _ hover => (hsilent.2.1 hover).elim

theorem oneEvent_failure {log : List Outcome} (hone : OneEvent log) {cmd : UptCmd}
    {msgStatus : MsgStatus} (hfree : cmd = .paymentModeAutoRequest →
      ¬ Raised log ∧ (msgStatus = .sendFailed → ¬ CurrentWritten log)) :
    OneEvent (.failure cmd msgStatus :: log) := by
  by_cases hpayment : cmd = .paymentModeAutoRequest
  · subst hpayment
    exact ⟨(hfree rfl).1, (hfree rfl).2, hone⟩
  · cases cmd with
    | paymentModeAutoRequest => exact absurd rfl hpayment
    | _ => exact hone

/-- A wait ends as a failure, which is the first event of the request. -/
theorem Firsts.failureEvent (hfirsts : Firsts c) (msgStatus : MsgStatus)
    (hfree : c.currentCmd = .paymentModeAutoRequest →
      ¬ Raised c.log ∧ (msgStatus = .sendFailed → ¬ CurrentWritten c.log)) :
    Single ((c.handleCmdErrorOrTimeout msgStatus).enter .idle) := by
  have hfailed : Firsts (c.handleCmdErrorOrTimeout msgStatus) := by
    unfold Client.handleCmdErrorOrTimeout
    split_ifs
    · exact ⟨oneEvent_failure hfirsts.1 hfree, hfirsts.2⟩
    · exact hfirsts
  exact hfailed.enter fun _ _ => released_of_not_waits rfl _

theorem cancel_log (c : Client) (timer : Timer) : (c.cancel timer).log = c.log := by
  unfold Client.cancel
  dsimp only
  split_ifs
  · rfl
  · rfl

/-- The automaton ends a wait with a failure. -/
def Fails (c : Client) (event : Event) : Prop :=
  ∃ d msgStatus, Silent c d ∧ d.log = c.log ∧
    c.eventHandler event = d.handleCmdErrorOrTimeout msgStatus ∧
      (msgStatus = .sendFailed → c.currentState = .sendingRequestAsync ∧
        (event = .writeFailed ∨ event = .writeTimeout))

/-- What the automaton does while a command is under way: it goes on silently, or it ends the
wait with a failure. -/
theorem eventHandler_wait {event : Event} {next : State} (hidle : c.currentState ≠ .idle)
    (hcancel : c.currentState ≠ .cancelCommandRequest)
    (hnext : stateTransitionTable c.currentState event = some next) :
    event.fails = false ∧ Silent c (c.eventHandler event) ∨
      event.fails = true ∧ next = .idle ∧ Fails c event := by
  have hhandler : c.eventHandler event = match c.currentState with
      | .sendingRequestAsync => c.handleSendingRequestAsyncState event
      | .waitingForAck => c.handleWaitingForAckState event
      | .waitingForResponse => c.handleWaitingForResponseState event
      | _ => c.eventHandler event := by
    unfold Client.eventHandler
    cases hstate : c.currentState <;> rfl
  cases hstate : c.currentState with
  | idle => exact absurd hstate hidle
  | cancelCommandRequest => exact absurd hstate hcancel
  | sendingRequestAsync =>
      rw [hstate] at hnext hhandler
      cases event with
      | writeCompleted =>
          refine .inl ⟨rfl, ?_⟩
          rw [hhandler]
          exact ((Silent.refl c).cancel .serialWrite).start .ack
      | cancelCommand =>
          refine .inl ⟨rfl, ?_⟩
          rw [hhandler]
          exact (Silent.refl c).processEvent .cancelCommandCleanUpAndEnqueue
      | writeFailed =>
          exact .inr ⟨rfl, (Option.some.inj hnext).symm, c.cancel .serialWrite, .sendFailed,
            (Silent.refl c).cancel _, cancel_log c _, hhandler, fun _ => ⟨hstate, .inl rfl⟩⟩
      | writeTimeout =>
          exact .inr ⟨rfl, (Option.some.inj hnext).symm, c, .sendFailed, Silent.refl c, rfl,
            hhandler, fun _ => ⟨hstate, .inr rfl⟩⟩
      | _ => cases hnext
  | waitingForAck =>
      rw [hstate] at hnext hhandler
      cases event with
      | ackTimerCancelledAckReceived =>
          refine .inl ⟨rfl, ?_⟩
          rw [hhandler]
          exact (Silent.refl c).start .rsp
      | cancelCommand =>
          refine .inl ⟨rfl, ?_⟩
          rw [hhandler]
          exact (Silent.refl c).processEvent .cancelCommandCleanUpAndEnqueue
      | ackTimeout =>
          exact .inr ⟨rfl, (Option.some.inj hnext).symm, c, .ackTimeout, Silent.refl c, rfl,
            hhandler, fun hfalse => MsgStatus.noConfusion hfalse⟩
      | _ => cases hnext
  | waitingForResponse =>
      rw [hstate] at hnext hhandler
      cases event with
      | responseTimerCancelledRspReceived =>
          refine .inl ⟨rfl, ?_⟩
          rw [hhandler]
          exact Silent.refl c
      | cancelCommand =>
          refine .inl ⟨rfl, ?_⟩
          rw [hhandler]
          exact (Silent.refl c).processEvent .cancelCommandCleanUpAndEnqueue
      | responseTimeout =>
          exact .inr ⟨rfl, (Option.some.inj hnext).symm, c, .rspTimeout, Silent.refl c, rfl,
            hhandler, fun hfalse => MsgStatus.noConfusion hfalse⟩
      | _ => cases hnext

/-- Taking an event the state does not know. -/
theorem Single.takeUnknown {event : Event} {rest : List Handler} (hsingle : Single c)
    (hposted : c.posted = .event event :: rest)
    (hnext : stateTransitionTable c.currentState event = none) : Single (c.taken rest) := by
  refine ⟨hsingle.one, hsingle.payment, fun hpayment hover => ?_⟩
  have hreleased := hsingle.released hpayment hover
  rw [hposted] at hreleased
  rcases hreleased with hwaits | hrest
  · exact released_of_not_waits hwaits rest
  · rw [hnext] at hrest
    exact hrest

theorem waits_of_busy (hidle : state ≠ .idle) (hcancel : state ≠ .cancelCommandRequest) :
    state.waits = true := by
  cases state with
  | idle => exact absurd rfl hidle
  | cancelCommandRequest => exact absurd rfl hcancel
  | _ => rfl

/-- A request that has had an event leaves its wait as the queued events say. -/
theorem Single.leaves {event : Event} {rest : List Handler} {next : State} (hsingle : Single c)
    (hposted : c.posted = .event event :: rest) (hwaits : c.currentState.waits = true)
    (hnext : stateTransitionTable c.currentState event = some next)
    (hpayment : c.currentCmd = .paymentModeAutoRequest) (hover : Raised c.log) :
    event.fails = false ∧ Released rest next := by
  have hreleased := hsingle.released hpayment hover
  rw [hposted] at hreleased
  rcases hreleased with hidle | hrest
  · exact absurd (hidle.symm.trans hwaits) Bool.false_ne_true
  · rw [hnext] at hrest
    exact hrest

/-- An event while a command is under way. -/
theorem Single.waitEvent {event : Event} {rest : List Handler} {next : State}
    (hsingle : Single c) (hunsent : Unsent c.flight c.posted c.currentState)
    (hposted : c.posted = .event event :: rest) (hidle : c.currentState ≠ .idle)
    (hcancel : c.currentState ≠ .cancelCommandRequest)
    (hnext : stateTransitionTable c.currentState event = some next) :
    Single (((c.taken rest).eventHandler event).enter next) := by
  have hfirsts : Firsts (c.taken rest) := ⟨hsingle.one, hsingle.payment⟩
  have hleaves := hsingle.leaves hposted (waits_of_busy hidle hcancel) hnext
  rcases @eventHandler_wait (c.taken rest) event next hidle hcancel hnext with
    ⟨-, hsilent⟩ | ⟨hfails, rfl, d, msgStatus, hsilent, hlog, hhandler, hstatus⟩
  · refine (hfirsts.silent hsilent).enter fun hpayment hover => ?_
    obtain ⟨-, hraised, -, hcmd, -, more, hmore⟩ := hsilent
    rw [hmore]
    exact (hleaves (hcmd.symm.trans hpayment) (hraised hover)).2.append more
  · rw [hhandler]
    obtain ⟨-, -, -, hcmd, -⟩ := id hsilent
    refine (hfirsts.silent hsilent).failureEvent msgStatus fun hpayment => ?_
    have hcurrent : c.currentCmd = .paymentModeAutoRequest := hcmd.symm.trans hpayment
    rw [hlog]
    refine ⟨fun hover => ?_, fun hsendFailed hwritten => ?_⟩
    · exact absurd ((hleaves hcurrent hover).1.symm.trans hfails) Bool.false_ne_true
    · obtain ⟨hsending, hevent⟩ := hstatus hsendFailed
      have hmem : .event .writeFailed ∈ c.posted ∨ .event .writeTimeout ∈ c.posted := by
        rw [hposted]
        rcases hevent with rfl | rfl
        · exact .inl List.mem_cons_self
        · exact .inr List.mem_cons_self
      exact (hunsent hcurrent hsending hmem).2 ((currentWritten_wire c.log).mpr hwritten)

theorem Single.runEvent {event : Event} {rest : List Handler} (hsingle : Single c)
    (hunsent : Unsent c.flight c.posted c.currentState)
    (hposted : c.posted = .event event :: rest) (hregular : Regular c .run) :
    Single ((c.taken rest).runEvent event) := by
  unfold Client.runEvent
  cases hnext : stateTransitionTable (c.taken rest).currentState event with
  | none => exact hsingle.takeUnknown hposted hnext
  | some next =>
      dsimp only
      have hfirsts : Firsts (c.taken rest) := ⟨hsingle.one, hsingle.payment⟩
      by_cases hidle : (c.taken rest).currentState = .idle
      · rw [eventHandler_idle hidle]
        rcases stateTransitionTable_idle (hidle ▸ hnext) with ⟨rfl, rfl⟩ | ⟨rfl, rfl⟩
        · refine hfirsts.commandEvent fun hqueue => ?_
          have hempty : c.commandQueue = [] := hqueue
          unfold Regular at hregular
          rw [hposted] at hregular
          have hother := hregular hidle
          rw [hempty] at hother
          exact hother
        · exact (hfirsts.silent ((Silent.refl _).post _)).enter
            fun _ _ => released_of_not_waits rfl _
      · by_cases hcancel : (c.taken rest).currentState = .cancelCommandRequest
        · obtain ⟨rfl, rfl⟩ := stateTransitionTable_cancel (hcancel ▸ hnext)
          rw [eventHandler_cancelCommandRequest hcancel, cleanUp_eq]
          have hidled : Single ((c.taken rest).disarm.inState .idle) :=
            ⟨hfirsts.1, hfirsts.2, fun _ _ => released_of_not_waits rfl _⟩
          exact hidled.silent ((((Silent.refl _).stopSerialWriteDelayTimer).processEvent _).post _)
        · exact hsingle.waitEvent hunsent hposted hidle hcancel hnext

/-! ### Responses -/

theorem Silent.handleAck (hsilent : Silent c d) (msg : Message) : Silent c (d.handleAck msg) := by
  unfold Client.handleAck
  split_ifs
  · exact (hsilent.cancel _).processEvent _
  · exact (hsilent.cancel _).processEvent _

/-- The event of a response is the first one of its request, and the automaton leaves its wait
with it. -/
theorem Single.handleRsp (hsingle : Single c) (msg : Message)
    (hallowed : (paymentEvent msg).isSome → c.currentCmd = .paymentModeAutoRequest →
      ¬ Raised c.log ∧
        Released (c.posted ++ [.event .responseTimerCancelledRspReceived]) c.currentState) :
    Single (c.handleRsp msg) := by
  unfold Client.handleRsp Client.handleCmdResponse
  cases hevent : paymentEvent msg with
  | none => exact hsingle.silent (((Silent.refl c).cancel _).processEvent _)
  | some eventData =>
      dsimp only
      rw [hevent] at hallowed
      rw [cancel_of_ne (by decide)]
      exact ⟨⟨fun hcurrent => (hallowed rfl (hsingle.payment hcurrent)).1, hsingle.one⟩,
        hsingle.payment, fun hpayment _ => (hallowed rfl hpayment).2⟩

theorem Single.handleReceivedCmd (hsingle : Single c) (msgDataBuff : List UInt8)
    (hallowed : FrameAllowed c msgDataBuff) : Single (c.handleReceivedCmd msgDataBuff) := by
  unfold Client.handleReceivedCmd
  cases hmessage : c.receivedMessage msgDataBuff with
  | none => exact hsingle
  | some msg =>
      have hclass : Single (if msg.header.msgClass = msgClassAck then c.handleAck msg
          else if msg.header.msgClass = msgClassRsp then c.handleRsp msg else c) := by
        split_ifs with hack hrsp
        · exact hsingle.silent ((Silent.refl c).handleAck msg)
        · exact hsingle.handleRsp msg (hallowed msg hmessage hrsp)
        · exact hsingle
      have henqueue : ∀ (d : Client) (cmd : UptCmd) (p : Prop) [Decidable p],
          Silent d (if p then d.enqueueCommand cmd none else d) :=
        fun d cmd p _ => ((Silent.refl d).enqueueCommand cmd none).ite (Silent.refl d) p
      exact (hclass.silent (henqueue _ _ _)).silent (henqueue _ _ _)

theorem Single.handleFrames (hsingle : Single c) (frames : List (List UInt8))
    (hmeets : Meets Client.handleReceivedCmd FrameAllowed c frames) :
    Single (c.handleFrames frames) := by
  induction frames generalizing c with
  | nil => exact hsingle
  | cons frame rest ih => exact ih (hsingle.handleReceivedCmd frame hmeets.1) hmeets.2

/-! ### Steps -/

/-- Taking a handler that is no event. -/
theorem Single.take {handler : Handler} {rest : List Handler} (hsingle : Single c)
    (hposted : c.posted = handler :: rest) (hhandler : ∀ event, handler ≠ .event event) :
    Single (c.taken rest) := by
  refine ⟨hsingle.one, hsingle.payment, fun hpayment hover => ?_⟩
  have hreleased := hsingle.released hpayment hover
  rw [hposted] at hreleased
  cases handler with
  | event event => exact absurd rfl (hhandler event)
  | _ => exact hreleased

theorem Single.runHandler {handler : Handler} {rest : List Handler} (hsingle : Single c)
    (hunsent : Unsent c.flight c.posted c.currentState) (hposted : c.posted = handler :: rest)
    (hregular : Regular c .run) : Single ((c.taken rest).runHandler handler) := by
  have htaken : (∀ event, handler ≠ .event event) → Single (c.taken rest) :=
    hsingle.take hposted
  cases handler with
  | event event => exact hsingle.runEvent hunsent hposted hregular
  | checkCommandQueue => exact (htaken (by simp)).silent (Silent.refl _).checkCommandQueue
  | enqueueCommandOnIoThread cmd data front =>
      exact (htaken (by simp)).silent (Silent.checkCommandQueue (Silent.refl _))
  | expired timer => exact (htaken (by simp)).silent ((Silent.refl _).runExpired timer)
  | delayAborted => exact (htaken (by simp)).silent (Silent.refl _)
  | writeEnd error => exact (htaken (by simp)).silent ((Silent.refl _).writeEnd error)
  | readEnd data =>
      have hread : Single (c.taken rest) := htaken (by simp)
      unfold Regular at hregular
      rw [hposted] at hregular
      have hframes : Single { c.taken rest with
          lastSerialReadTime := c.now
          receiver := (consumeReceivedBytes c.receiver data).1 } :=
        ⟨hread.one, hread.payment, hread.released⟩
      have hafter := hframes.handleFrames _ hregular
      exact ⟨hafter.one, hafter.payment, hafter.released⟩
  | readFailed => exact (htaken (by simp)).silent (Silent.refl _)

theorem Single.step (hsingle : Single c) (hunsent : Unsent c.flight c.posted c.currentState)
    (input : Input) (hregular : Regular c input) : Single (c.step input) := by
  cases input with
  | run =>
      cases hposted : c.posted with
      | nil =>
          have hsame : c.step .run = c := by simp only [Client.step, hposted]
          rw [hsame]
          exact hsingle
      | cons handler rest =>
          have hsame : c.step .run = (c.taken rest).runHandler handler := by
            simp only [Client.step, hposted, Client.taken]
          rw [hsame]
          exact hsingle.runHandler hunsent hposted hregular
  | expire timer =>
      unfold Client.step
      dsimp only
      split_ifs
      · exact hsingle.silent (Silent.post (d := { c with
          armed := Function.update c.armed timer false }) (Silent.refl c) _)
      · exact hsingle
  | writeDone success =>
      unfold Client.step
      cases hwriting : c.writing with
      | none => exact hsingle
      | some frame =>
          dsimp only
          split_ifs
          · exact hsingle.silent (Silent.post (d := ({ c with writing := none } : Client).note
              (.written frame)) (Silent.refl c) _)
          · exact hsingle.silent (Silent.post (d := { c with writing := none }) (Silent.refl c) _)
  | readDone data =>
      unfold Client.step
      dsimp only
      split_ifs
      · exact hsingle.silent (Silent.post (d := { c with reading := false }) (Silent.refl c) _)
      · exact hsingle
  | readFailed =>
      unfold Client.step
      dsimp only
      split_ifs
      · exact hsingle.silent (Silent.post (d := { c with reading := false }) (Silent.refl c) _)
      · exact hsingle
  | enqueue cmd data => exact hsingle.silent ((Silent.refl c).enqueueCommand cmd data)
  | cancelCommand => exact hsingle.silent ((Silent.refl c).processEvent _)
  | clock clock => exact hsingle.silent (Silent.refl c)
  | elapse milliseconds => exact hsingle.silent (Silent.refl c)

/-- What the regular steps keep. -/
structure OneEventInv (c : Client) : Prop where
  kept : Kept c
  unsent : Unsent c.flight c.posted c.currentState
  single : Single c

theorem OneEventInv.step (hinv : OneEventInv c) {input : Input} (hregular : Regular c input) :
    OneEventInv (c.step input) :=
  ⟨hinv.kept.step input,
    hinv.unsent.move hinv.kept hregular (step_move hinv.kept.orderly input),
    hinv.single.step hinv.unsent input hregular⟩

theorem oneEventInv_init (clock : Clock) : OneEventInv (init clock) := by
  have hsilent : Silent { clock := clock, now := 0, lastSerialReadTime := 0 } (init clock) :=
    Silent.checkCommandQueue (Silent.checkCommandQueue (Silent.refl _))
  have hstart : Single { clock := clock, now := 0, lastSerialReadTime := 0 } :=
    ⟨trivial, fun hpayment => absurd hpayment (by simp [CurrentPayment, lastDequeued]),
      fun _ hover => hover.elim⟩
  refine ⟨kept_init clock, ?_, hstart.silent hsilent⟩
  have hidle : (init clock).currentState = .idle := hsilent.2.2.2.2.1
  exact unsent_of_ne (hidle ▸ by decide)

/-- In the runs in which responses come while they are waited for and a verdict on a write is
that of the frame it is taken for, every payment event is the first one of its request. -/
theorem oneEvent_of_regular (clock : Clock) (inputs : List Input)
    (hmeets : Meets step Regular (init clock) inputs) :
    OneEvent (run step (init clock) inputs).log :=
  (run_invariant (fun _ _ hinv hregular => hinv.step hregular) (oneEventInv_init clock)
    hmeets).single.one

/-! ## Runs -/

-- the runs below are evaluated by the kernel only
attribute [local irreducible] OneEvent Raised

/-- What the terminal sends for a payment: an `ACK`, or the `RSP` of a payment that went well. -/
def terminalFrame (msgClass : UInt16) (sequenceNo : UInt32) : List UInt8 :=
  let msg := commonMessage morning sequenceNo
  let answer : Message := { msg with header := { msg.header with msgClass := msgClass } }
  fnAddDataTransparency (answer.request msgTypePayment msgCodePaymentAuto [] 64).completeMsg

/-- The commands of the start are over, and a payment request has been sent. -/
def paymentSent : List Input :=
  firstCommand ++ .writeDone true :: runs 2 ++ .expire .ack :: runs 4 ++
    .writeDone true :: runs 2 ++ .expire .ack :: runs 3 ++
    .enqueue .paymentModeAutoRequest (some (.payment 250 "REF000000001")) :: runs 2 ++
    .writeDone true :: runs 2

/-- A payment with its `ACK` and its `RSP`. -/
def paymentAnswered : List Input :=
  paymentSent ++ .readDone (terminalFrame msgClassAck 2) :: runs 2 ++
    .readDone (terminalFrame msgClassRsp 2) :: runs 2

theorem oneEvent_paymentAnswered :
    Raised (run step (init morning) paymentAnswered).log ∧
      OneEvent (run step (init morning) paymentAnswered).log := by
  have hmeets : Meets step Regular (init morning) paymentAnswered := by decide +kernel
  have hraised : Raised (run step (init morning) paymentAnswered).log := by decide +kernel
  have hone := oneEvent_of_regular morning paymentAnswered hmeets
  exact ⟨hraised, hone⟩

/-- The `RSP` comes without an `ACK` before it, and the wait for the `ACK` ends. -/
def paymentUnacknowledged : List Input :=
  paymentSent ++ .readDone (terminalFrame msgClassRsp 2) :: runs 2 ++ .expire .ack :: runs 2

/-- The payment is reported as paid, then as failed. -/
theorem not_oneEvent : ¬ OneEvent (run step (init morning) paymentUnacknowledged).log := by
  decide +kernel

end Client

end LinuxPBS.Upt

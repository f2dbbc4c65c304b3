import LinuxPBS.Upt.WireSound

/-!
# The client never stops in the middle

A command that is under way ends: the client is in `IDLE` again, and takes the next one, after
whatever has happened.  Three things could keep it from that.  A timer may be cancelled whose
expiry it waits for, an event may come up in a state that does not know it and be dropped, and a
`COMMAND_ENQUEUED` may find an empty queue and begin to send nothing.

`Awake` says for each state what gets the client out of it: something outside (a timer, the port)
or a handler that is queued.  The third case is the reason for `Spare`: there can be more
`COMMAND_ENQUEUED` queued than commands, but then a write is in progress, or its outcome is queued
behind them.

`idle_of_atRest` follows: a client with nothing to do and nothing to wait for has no command
either.
-/

namespace LinuxPBS.Upt

open Machine

/-! ## What gets the client on -/

/-- The handlers that get the client on in a state. -/
def spurs : State → Handler → Bool
  | .idle, .checkCommandQueue => true
  | .idle, .event event => event = .commandEnqueued
  | .sendingRequestAsync, .event event => event.isVerdict
  | .waitingForAck, .expired timer => timer = .ack
  | .waitingForAck, .event event =>
      event = .ackTimeout || event = .ackTimerCancelledAckReceived
  | .waitingForResponse, .expired timer => timer = .rsp
  | .waitingForResponse, .event event =>
      event = .responseTimeout || event = .responseTimerCancelledRspReceived
  | .cancelCommandRequest, .event event => event = .cancelCommandCleanUpAndEnqueue
  | _, _ => false

/-- The timer that ends a state. -/
def timerOf : State → Option Timer
  | .waitingForAck => some .ack
  | .waitingForResponse => some .rsp
  | _ => none

/-- An outcome of a write stands behind every `COMMAND_ENQUEUED`. -/
def Covered : List Handler → Prop
  | [] => True
  | handler :: rest =>
      (handler = .event .commandEnqueued → ∃ event, event.isVerdict = true ∧ .event event ∈ rest) ∧
        Covered rest

namespace Client

/-- What the client waits for in its state will come from outside; in `IDLE` it has no command. -/
def Waits (c : Client) : Prop :=
  match c.currentState with
  | .idle => c.commandQueue = []
  | .sendingRequestAsync => c.writeInProgress = true
  | .waitingForAck => c.armed .ack = true
  | .waitingForResponse => c.armed .rsp = true
  | .cancelCommandRequest => False

/-- The client waits for something outside, or a handler that gets it on is queued. -/
def Awake (c : Client) : Prop :=
  c.Waits ∨ ∃ handler ∈ c.posted, spurs c.currentState handler = true

/-- A `COMMAND_ENQUEUED` for which there is no command does no harm. -/
def Spare (c : Client) : Prop :=
  c.commandQueue = [] → c.writeInProgress = true ∨ Covered c.posted

/-- The client gets on, and stays so. -/
structure Lively (c : Client) : Prop where
  awake : c.Awake
  spare : c.Spare

/-- Nothing is queued, no timer is armed and nothing is being written. -/
def AtRest (c : Client) : Prop :=
  c.posted = [] ∧ (∀ timer, c.armed timer = false) ∧ c.writing = none

end Client

theorem covered_of_notMem {posted : List Handler} (hnone : .event .commandEnqueued ∉ posted) :
    Covered posted := by
  induction posted with
  | nil => trivial
  | cons handler rest ih =>
      rw [List.mem_cons, not_or] at hnone
      exact ⟨fun heq => absurd heq.symm hnone.1, ih hnone.2⟩

theorem Covered.append {posted more : List Handler} (hcovered : Covered posted)
    (hmore : .event .commandEnqueued ∉ more) : Covered (posted ++ more) := by
  induction posted with
  | nil => exact covered_of_notMem hmore
  | cons handler rest ih =>
      refine ⟨fun heq => ?_, ih hcovered.2⟩
      obtain ⟨event, hverdict, hmem⟩ := hcovered.1 heq
      exact ⟨event, hverdict, List.mem_append_left _ hmem⟩

/-- The outcome of a write is posted: it stands behind everything. -/
theorem covered_concat (posted : List Handler) {event : Event} (hverdict : event.isVerdict = true) :
    Covered (posted ++ [.event event]) := by
  induction posted with
  | nil =>
      refine ⟨fun heq => ?_, trivial⟩
      rw [Handler.event.inj heq] at hverdict
      cases hverdict
  | cons handler rest ih =>
      exact ⟨fun _ => ⟨event, hverdict, List.mem_append_right _ List.mem_cons_self⟩, ih⟩

/-- An event that gets the client on is one its state knows. -/
theorem known_of_spurs {state : State} {event : Event}
    (hspurs : spurs state (.event event) = true) : stateTransitionTable state event ≠ none := by
  cases state <;> cases event <;>
    first | exact Bool.noConfusion hspurs | exact Option.some_ne_none _

namespace Client

variable {c d e : Client}

/-! ## Going on -/

/-- The commands are the same, a write is not given up, and there is a command for every
`COMMAND_ENQUEUED` that has been posted. -/
def Behind (c d : Client) : Prop :=
  d.commandQueue = c.commandQueue ∧ (c.writeInProgress = true → d.writeInProgress = true) ∧
    ∃ more, d.posted = c.posted ++ more ∧
      (.event .commandEnqueued ∈ more → c.commandQueue ≠ [])

/-- The client goes on in its state, with something to wait for if it had. -/
structure Follows (c d : Client) : Prop where
  behind : c.Behind d
  state : d.currentState = c.currentState
  waits : c.Waits → d.Awake

theorem Behind.refl (c : Client) : c.Behind c :=
  ⟨rfl, id, [], (List.append_nil _).symm, fun hmem => absurd hmem List.not_mem_nil⟩

theorem Behind.trans (hfirst : c.Behind d) (hsecond : d.Behind e) : c.Behind e := by
  obtain ⟨hqueue, hprogress, more, hposted, hmore⟩ := hfirst
  obtain ⟨hqueue', hprogress', more', hposted', hmore'⟩ := hsecond
  refine ⟨hqueue'.trans hqueue, hprogress' ∘ hprogress, more ++ more', ?_, fun hmem => ?_⟩
  · rw [hposted', hposted, List.append_assoc]
  · rcases List.mem_append.mp hmem with hold | hnew
    · exact hmore hold
    · exact hqueue ▸ hmore' hnew

theorem Behind.post (hbehind : c.Behind d) {handler : Handler}
    (hhandler : handler ≠ .event .commandEnqueued) : c.Behind (d.post handler) :=
  hbehind.trans ⟨rfl, id, [handler], rfl, fun hmem =>
    absurd (List.mem_singleton.mp hmem).symm hhandler⟩

theorem Spare.behind (hspare : c.Spare) (hbehind : c.Behind d) : d.Spare := by
  obtain ⟨hqueue, hprogress, more, hposted, hmore⟩ := hbehind
  intro hempty
  rw [hqueue] at hempty
  refine (hspare hempty).imp hprogress fun hcovered => ?_
  rw [hposted]
  exact hcovered.append fun hmem => hmore hmem hempty

theorem awake_of_mem (handler : Handler) (hmem : handler ∈ c.posted)
    (hspurs : spurs c.currentState handler = true) : c.Awake :=
  .inr ⟨handler, hmem, hspurs⟩

theorem awake_post {handler : Handler} (hspurs : spurs c.currentState handler = true) :
    (c.post handler).Awake :=
  awake_of_mem handler (List.mem_append_right _ List.mem_cons_self) hspurs

theorem Awake.follows (hawake : c.Awake) (hfollows : c.Follows d) : d.Awake := by
  rcases hawake with hwaits | ⟨handler, hmem, hspurs⟩
  · exact hfollows.waits hwaits
  · obtain ⟨-, -, more, hposted, -⟩ := hfollows.behind
    refine awake_of_mem handler ?_ (hfollows.state ▸ hspurs)
    rw [hposted]
    exact List.mem_append_left _ hmem

theorem Follows.refl (c : Client) : c.Follows c := ⟨.refl c, rfl, .inl⟩

theorem Follows.trans (hfirst : c.Follows d) (hsecond : d.Follows e) : c.Follows e :=
  ⟨hfirst.behind.trans hsecond.behind, hsecond.state.trans hfirst.state,
    fun hwaits => (hfirst.waits hwaits).follows hsecond⟩

theorem Follows.post (hfollows : c.Follows d) {handler : Handler}
    (hhandler : handler ≠ .event .commandEnqueued) : c.Follows (d.post handler) :=
  hfollows.trans ⟨(Behind.refl d).post hhandler, rfl, .inl⟩

/-- Each state waits for one thing only. -/
theorem Waits.congr (hwaits : c.Waits) (hstate : d.currentState = c.currentState)
    (hqueue : c.currentState = .idle → d.commandQueue = c.commandQueue)
    (hprogress : c.currentState = .sendingRequestAsync → c.writeInProgress = true →
      d.writeInProgress = true) (harmed : d.armed = c.armed) : d.Waits := by
  unfold Waits at hwaits ⊢
  rw [hstate, harmed]
  cases hcurrent : c.currentState with
  | idle =>
      rw [hcurrent] at hwaits
      exact (hqueue hcurrent).trans hwaits
  | sendingRequestAsync =>
      rw [hcurrent] at hwaits
      exact hprogress hcurrent hwaits
  | _ =>
      rw [hcurrent] at hwaits
      exact hwaits

/-- Whatever else changes in the client. -/
theorem follows_of_same (hstate : d.currentState = c.currentState)
    (hqueue : d.commandQueue = c.commandQueue)
    (hprogress : c.writeInProgress = true → d.writeInProgress = true)
    (harmed : d.armed = c.armed) (hposted : d.posted = c.posted) : c.Follows d := by
  refine ⟨⟨hqueue, hprogress, [], ?_, fun hmem => absurd hmem List.not_mem_nil⟩, hstate,
    fun hwaits => .inl (hwaits.congr hstate (fun _ => hqueue) (fun _ => hprogress) harmed)⟩
  rw [hposted, List.append_nil]

theorem Follows.ite (hfollows : c.Follows d) (hother : c.Follows e) (p : Prop) [Decidable p] :
    c.Follows (if p then d else e) := by
  split
  · exact hfollows
  · exact hother

/-- A timer of another state is cancelled or armed. -/
theorem Waits.arm (hwaits : c.Waits) {timer : Timer} {value : Bool}
    (hother : value = false → timerOf c.currentState ≠ some timer) :
    Waits { c with armed := Function.update c.armed timer value } := by
  unfold Waits at hwaits ⊢
  have hupdate : ∀ own, timerOf c.currentState = some own → c.armed own = true →
      Function.update c.armed timer value own = true := by
    intro own hown harmed
    by_cases hsame : own = timer
    · subst hsame
      rw [Function.update_self]
      exact eq_true_of_ne_false fun hoff => hother hoff hown
    · rw [Function.update_of_ne hsame]
      exact harmed
  dsimp only
  cases hstate : c.currentState with
  | waitingForAck =>
      rw [hstate] at hwaits hupdate
      exact hupdate .ack rfl hwaits
  | waitingForResponse =>
      rw [hstate] at hwaits hupdate
      exact hupdate .rsp rfl hwaits
  | _ =>
      rw [hstate] at hwaits
      exact hwaits

theorem follows_arm {timer : Timer} (value : Bool)
    (hother : value = false → timerOf c.currentState ≠ some timer) :
    c.Follows { c with armed := Function.update c.armed timer value } :=
  ⟨.refl c, rfl, fun hwaits => .inl (hwaits.arm hother)⟩

theorem follows_cancel {timer : Timer} (hother : timerOf c.currentState ≠ some timer) :
    c.Follows (c.cancel timer) := by
  have harmed := follows_arm false fun _ => hother
  exact (harmed.post Handler.noConfusion).ite harmed _

theorem follows_start (timer : Timer) : c.Follows (c.start timer) := by
  by_cases htimer : timer = .serialWriteDelay
  · have hother : timerOf c.currentState ≠ some timer := by
      rw [htimer]
      cases c.currentState <;> decide
    exact (follows_cancel hother).trans (follows_arm _ fun hoff => by cases hoff)
  · have hstart : c.start timer = { c with armed := Function.update c.armed timer true } := by
      rw [Client.start, cancel_of_ne htimer]
      dsimp only
      rw [Function.update_idem]
    rw [hstart]
    exact follows_arm _ fun hoff => by cases hoff

/-- The answer that is waited for is there. -/
theorem follows_answered {timer : Timer} (htimer : timer ≠ .serialWriteDelay) {event : Event}
    (hevent : event ≠ .commandEnqueued)
    (hspurs : ∀ state, timerOf state = some timer → spurs state (.event event) = true) :
    c.Follows ((c.cancel timer).processEvent event) := by
  have hcommand : Handler.event event ≠ .event .commandEnqueued :=
    fun heq => hevent (Handler.event.inj heq)
  by_cases hown : timerOf c.currentState = some timer
  · rw [cancel_of_ne htimer]
    refine ⟨(Behind.refl c).post hcommand, rfl, fun _ => ?_⟩
    exact awake_post (hspurs _ hown)
  · exact (follows_cancel hown).post hcommand

theorem follows_note (entry : Outcome) : c.Follows (c.note entry) :=
  follows_of_same rfl rfl id rfl rfl

theorem follows_handleCmdErrorOrTimeout (msgStatus : MsgStatus) :
    c.Follows (c.handleCmdErrorOrTimeout msgStatus) :=
  (follows_note _).ite (.refl c) _

theorem follows_enqueueCommand (cmd : UptCmd) (data : Option CommandData) :
    c.Follows (c.enqueueCommand cmd data) :=
  (Follows.refl c).post Handler.noConfusion

/-! ## What does not end a command -/

theorem follows_handleAck (msg : Message) : c.Follows (c.handleAck msg) := by
  have hspurs : ∀ state, timerOf state = some .ack →
      spurs state (.event .ackTimerCancelledAckReceived) = true ∧
        spurs state (.event .ackTimeout) = true := by
    intro state hown
    cases state <;> first | exact ⟨rfl, rfl⟩ | cases hown
  exact (follows_answered (by decide) (by decide) fun state hown => (hspurs state hown).1).ite
    (follows_answered (by decide) (by decide) fun state hown => (hspurs state hown).2) _

theorem follows_handleRsp (msg : Message) : c.Follows (c.handleRsp msg) := by
  have hspurs : ∀ state, timerOf state = some .rsp →
      spurs state (.event .responseTimerCancelledRspReceived) = true := by
    intro state hown
    cases state <;> first | rfl | cases hown
  have hresponse : c.Follows (c.handleCmdResponse msg) := by
    unfold Client.handleCmdResponse
    split
    · exact follows_note _
    · exact .refl c
  exact hresponse.trans (follows_answered (by decide) (by decide) hspurs)

theorem follows_handleReceivedCmd (msgDataBuff : List UInt8) :
    c.Follows (c.handleReceivedCmd msgDataBuff) := by
  unfold Client.handleReceivedCmd
  cases c.receivedMessage msgDataBuff with
  | none => exact .refl c
  | some msg =>
      have hclass := (follows_handleAck msg).ite ((follows_handleRsp msg).ite (.refl c)
        (msg.header.msgClass = msgClassRsp)) (msg.header.msgClass = msgClassAck)
      have hreset := (hclass.trans (follows_enqueueCommand .deviceResetSequenceNumberRequest
        none)).ite hclass (msg.header.msgStatus = msgStatusInvalidParameter)
      exact (hreset.trans (follows_enqueueCommand .deviceLogonRequest none)).ite hreset
        (msg.header.msgStatus = msgStatusSofLogonRequired)

theorem follows_handleFrames (frames : List (List UInt8)) : c.Follows (c.handleFrames frames) := by
  induction frames generalizing c with
  | nil => exact .refl c
  | cons frame rest ih => exact (follows_handleReceivedCmd frame).trans ih

theorem follows_readEnd (data : List UInt8) : c.Follows (c.readEnd data) := by
  have hread : c.Follows { c with
      lastSerialReadTime := c.now
      receiver := (consumeReceivedBytes c.receiver data).1 } :=
    follows_of_same rfl rfl id rfl rfl
  have hframes := hread.trans (follows_handleFrames (consumeReceivedBytes c.receiver data).2)
  exact hframes.trans (follows_of_same rfl rfl id rfl rfl)

theorem follows_cancelPort : c.Follows c.cancelPort := by
  have hread : c.Follows (if c.reading then ({ c with reading := false } : Client).post .readFailed
      else c) := by
    have hcancelled : c.Follows { c with reading := false } := follows_of_same rfl rfl id rfl rfl
    exact (hcancelled.post Handler.noConfusion).ite (.refl c) _
  have hwrite (d : Client) : d.Follows (if d.writing.isSome then
      ({ d with writing := none } : Client).post (.writeEnd .operationAborted) else d) := by
    have hcancelled : d.Follows { d with writing := none } := follows_of_same rfl rfl id rfl rfl
    exact (hcancelled.post Handler.noConfusion).ite (.refl d) _
  exact hread.trans (hwrite _)

theorem follows_handleSerialWriteTimeout : c.Follows c.handleSerialWriteTimeout := by
  have htimedOut : c.Follows { c with writeTimedOut := true } :=
    follows_of_same rfl rfl id rfl rfl
  exact Follows.ite (.refl c) (htimedOut.trans follows_cancelPort) _

/-- While a frame is in the queue a write that is in progress stays in progress. -/
theorem follows_startWrite (hqueue : c.writeInProgress = true → c.writeQueue ≠ []) :
    c.Follows c.startWrite := by
  unfold Client.startWrite
  split
  next hempty => exact follows_of_same rfl rfl (fun hbusy => absurd hempty (hqueue hbusy)) rfl rfl
  next front _ _ =>
    have hdelayed : c.Follows { c with writeInProgress := true, writeDelayActive := true } :=
      follows_of_same rfl rfl (fun _ => rfl) rfl rfl
    have hhanded : c.Follows { c with
        writeInProgress := true, writeDelayActive := false, writing := some front } :=
      follows_of_same rfl rfl (fun _ => rfl) rfl rfl
    exact (hdelayed.trans (follows_start _)).ite (hhanded.trans (follows_note _))
      (c.now - c.lastSerialReadTime < serialWriteGap)

/-! ## Events -/

/-- Behind a change to `IDLE` the queue is looked at. -/
theorem awake_enter_idle (c : Client) : (c.enter .idle).Awake := by
  unfold Client.enter
  rw [if_pos rfl]
  exact awake_post rfl

theorem behind_enter (c : Client) (next : State) : c.Behind (c.enter next) := by
  have hstate : c.Behind { c with currentState := next } := .refl c
  unfold Client.enter
  split_ifs
  · exact hstate.post Handler.noConfusion
  · exact hstate

/-- A handler is taken that does not get the client on. -/
theorem Awake.take (hawake : c.Awake) {handler : Handler} {rest : List Handler}
    (hposted : c.posted = handler :: rest) (hspurs : spurs c.currentState handler = false) :
    (c.taken rest).Awake := by
  refine hawake.imp id ?_
  rintro ⟨other, hmem, hother⟩
  rw [hposted] at hmem
  rcases List.mem_cons.mp hmem with rfl | hrest
  · rw [hspurs] at hother
    cases hother
  · exact ⟨other, hrest, hother⟩

theorem Spare.take (hspare : c.Spare) {handler : Handler} {rest : List Handler}
    (hposted : c.posted = handler :: rest) : (c.taken rest).Spare := by
  intro hempty
  refine (hspare hempty).imp id fun hcovered => ?_
  rw [hposted] at hcovered
  exact hcovered.2

/-- What an event does while a command is under way. -/
theorem behind_eventHandler (hidle : c.currentState ≠ .idle)
    (hcancel : c.currentState ≠ .cancelCommandRequest) (event : Event) :
    c.Behind (c.eventHandler event) := by
  have hfailed (msgStatus : MsgStatus) : c.Behind (c.handleCmdErrorOrTimeout msgStatus) :=
    (follows_handleCmdErrorOrTimeout msgStatus).behind
  have hcleanUp : c.Behind (c.processEvent .cancelCommandCleanUpAndEnqueue) :=
    (Behind.refl c).post (by decide)
  have hdisarmed : c.Behind (c.cancel .serialWrite) := by
    rw [cancel_of_ne (by decide)]
    exact .refl c
  unfold Client.eventHandler
  cases hstate : c.currentState with
  | idle => exact absurd hstate hidle
  | cancelCommandRequest => exact absurd hstate hcancel
  | sendingRequestAsync =>
      dsimp only
      unfold Client.handleSendingRequestAsyncState
      split_ifs
      · exact hdisarmed.trans (follows_start _).behind
      · exact hdisarmed.trans (follows_handleCmdErrorOrTimeout _).behind
      · exact hcleanUp
      · exact hfailed _
      · exact .refl c
  | waitingForAck =>
      dsimp only
      unfold Client.handleWaitingForAckState
      split_ifs
      · exact (follows_start _).behind
      · exact hfailed _
      · exact hcleanUp
      · exact .refl c
  | waitingForResponse =>
      dsimp only
      unfold Client.handleWaitingForResponseState
      split_ifs
      · exact .refl c
      · exact hfailed _
      · exact hcleanUp
      · exact .refl c

theorem start_armed (timer : Timer) : (c.start timer).armed timer = true :=
  Function.update_self _ _ _

/-- Where an event leads while a command is under way, the client has something to wait for. -/
theorem awake_busyEvent (hidle : c.currentState ≠ .idle)
    (hcancel : c.currentState ≠ .cancelCommandRequest) {event : Event} {next : State}
    (hnext : stateTransitionTable c.currentState event = some next) :
    ((c.eventHandler event).enter next).Awake := by
  by_cases hevent : event = .cancelCommand
  · subst hevent
    have hto : next = .cancelCommandRequest := by
      rcases stateTransitionTable_busy hidle hcancel hnext with ⟨-, hto⟩ | ⟨hne, -⟩
      · exact hto
      · exact absurd rfl hne
    rw [eventHandler_cancelCommand hidle hcancel, hto]
    exact awake_of_mem (.event .cancelCommandCleanUpAndEnqueue)
      (List.mem_append_right _ List.mem_cons_self) rfl
  · rcases stateTransitionTable_next hidle hevent hnext with
      rfl | ⟨hfrom, rfl, rfl⟩ | ⟨hfrom, rfl⟩
    · exact awake_enter_idle _
    · have harmed : (c.eventHandler .writeCompleted).armed .ack = true := by
        rw [Client.eventHandler, hfrom]
        exact start_armed (c := c.cancel .serialWrite) .ack
      exact .inl harmed
    · have hanswered : event = .ackTimerCancelledAckReceived := by
        rw [hfrom] at hnext
        cases event <;> first | rfl | cases hnext
      have harmed : (c.eventHandler event).armed .rsp = true := by
        rw [Client.eventHandler, hfrom, hanswered]
        exact start_armed (c := c) .rsp
      exact .inl harmed

/-- Every command has a frame. -/
theorem nextFrame_ne_nil (c : Client) (cmdData : CommandWithData) :
    (c.nextFrame cmdData).bytes ≠ [] :=
  List.cons_ne_nil _ _

/-- With a frame in the queue a write is in progress. -/
theorem writeInProgress_startWrite (hqueue : c.writeQueue ≠ []) :
    c.startWrite.writeInProgress = true := by
  unfold Client.startWrite
  split
  next hempty => exact absurd hempty hqueue
  next =>
    dsimp only
    split_ifs
    · exact congrArg Flight.writeInProgress (start_flight _ _)
    · rfl

theorem writeInProgress_enqueueWrite {data : TxFrame} (hdata : data.bytes ≠ []) :
    (c.enqueueWrite data).writeInProgress = true := by
  cases hbusy : c.writeInProgress with
  | true =>
      rw [enqueueWrite_of_busy hdata hbusy]
      exact hbusy
  | false =>
      rw [enqueueWrite_of_free hdata hbusy]
      exact writeInProgress_startWrite (List.append_ne_nil_of_right_ne_nil _ (List.cons_ne_nil _ _))

/-- `COMMAND_ENQUEUED` in `IDLE`, where there may be no command any more. -/
theorem commandEvent_keeps (hspare : c.Spare)
    (hcovered : c.commandQueue = [] → c.writeInProgress = true ∨
      ∃ event, event.isVerdict = true ∧ .event event ∈ c.posted) :
    ((c.handleIdleState .commandEnqueued).enter .sendingRequestAsync).Lively := by
  have hafter : (c.handleIdleState .commandEnqueued).enter .sendingRequestAsync =
      (c.popFromCommandQueueAndEnqueueWrite.start .serialWrite).inState .sendingRequestAsync := by
    rw [Client.handleIdleState, if_pos rfl, Client.enter, if_neg (by decide)]
    rfl
  rw [hafter]
  cases hqueue : c.commandQueue with
  | nil =>
      rw [popFromCommandQueueAndEnqueueWrite_nil hqueue]
      have hbehind : c.Behind ((c.start .serialWrite).inState .sendingRequestAsync) :=
        (follows_start (c := c) .serialWrite).behind
      refine ⟨?_, hspare.behind hbehind⟩
      obtain ⟨-, hprogress, more, hposted, -⟩ := hbehind
      rcases hcovered hqueue with hbusy | ⟨event, hverdict, hmem⟩
      · exact .inl (hprogress hbusy)
      · refine awake_of_mem (.event event) ?_ hverdict
        rw [hposted]
        exact List.mem_append_left _ hmem
  | cons cmdData commands =>
      have hbusy : ((c.popFromCommandQueueAndEnqueueWrite.start .serialWrite).inState
          .sendingRequestAsync).writeInProgress = true := by
        refine (congrArg Flight.writeInProgress (start_flight _ _)).trans ?_
        rw [popFromCommandQueueAndEnqueueWrite_cons hqueue]
        exact writeInProgress_enqueueWrite (nextFrame_ne_nil c cmdData)
      exact ⟨.inl hbusy, fun _ => .inl hbusy⟩

/-- The clean-up of a cancelled command, behind which no command is queued. -/
theorem cleanUpEvent_spare (hcommand : .event .commandEnqueued ∉ c.posted) :
    ((c.handleCancelCommandRequestState .cancelCommandCleanUpAndEnqueue).enter .idle).Spare := by
  rw [cleanUp_eq]
  have hstopped : .event .commandEnqueued ∉
      (c.disarm.inState .idle).stopSerialWriteDelayTimer.posted := by
    unfold Client.stopSerialWriteDelayTimer Client.cancel
    dsimp only
    split_ifs
    · exact hcommand
    · intro hmem
      rcases List.mem_append.mp hmem with hold | hnew
      · exact hcommand hold
      · cases List.mem_singleton.mp hnew
    · exact hcommand
  intro _
  refine .inr (covered_of_notMem ?_)
  intro hmem
  rcases List.mem_append.mp hmem with hold | hnew
  · rcases List.mem_append.mp hold with hstop | hcancel
    · exact hstopped hstop
    · cases List.mem_singleton.mp hcancel
  · cases List.mem_singleton.mp hnew

theorem event_keeps (horderly : c.Orderly) (hlively : c.Lively) {event : Event}
    {rest : List Handler} (hposted : c.posted = .event event :: rest) :
    ((c.taken rest).runEvent event).Lively := by
  obtain ⟨hawake, hspare⟩ := hlively
  have htaken : (c.taken rest).Spare := hspare.take hposted
  have hsame : (c.taken rest).currentState = c.currentState := rfl
  unfold Client.runEvent
  cases hnext : stateTransitionTable (c.taken rest).currentState event with
  | none =>
      have hspurs : spurs c.currentState (.event event) = false :=
        eq_false_of_ne_true fun hspurs => known_of_spurs hspurs hnext
      exact ⟨hawake.take hposted hspurs, htaken⟩
  | some next =>
      dsimp only
      by_cases hidle : c.currentState = .idle
      · rw [eventHandler_idle (c := c.taken rest) hidle]
        rw [hsame, hidle] at hnext
        rcases stateTransitionTable_idle hnext with ⟨rfl, rfl⟩ | ⟨rfl, rfl⟩
        · refine commandEvent_keeps htaken fun hempty => (hspare hempty).imp id fun hcovered => ?_
          rw [hposted] at hcovered
          exact hcovered.1 rfl
        · have hfront : (c.taken rest).Behind
              ((c.taken rest).enqueueCommandToFront .cancelCommandRequest) :=
            (Behind.refl _).post Handler.noConfusion
          exact ⟨awake_enter_idle _, htaken.behind (hfront.trans (behind_enter _ _))⟩
      · by_cases hcancel : c.currentState = .cancelCommandRequest
        · rw [hsame, hcancel] at hnext
          obtain ⟨rfl, rfl⟩ := stateTransitionTable_cancel hnext
          rw [eventHandler_cancelCommandRequest (c := c.taken rest) hcancel]
          have hlast := horderly.cleanUpLast
          rw [hposted] at hlast
          exact ⟨awake_enter_idle _, cleanUpEvent_spare (hlast.1 rfl).1⟩
        · have hbehind := behind_eventHandler (c := c.taken rest) hidle hcancel event
          exact ⟨awake_busyEvent (c := c.taken rest) hidle hcancel hnext,
            htaken.behind (hbehind.trans (behind_enter _ _))⟩

/-! ## Every run -/

/-- The queue is looked at: in `IDLE` that is what gets the client on. -/
theorem awake_checkCommandQueue (hbusy : c.currentState ≠ .idle → c.Awake) :
    c.checkCommandQueue.Awake := by
  unfold Client.checkCommandQueue
  split_ifs with hstate hqueue
  · exact hbusy hstate
  · have hspurs : spurs c.currentState (.event .commandEnqueued) = true := by
      rw [not_not.mp hstate]
      rfl
    exact awake_post hspurs
  · refine .inl ?_
    unfold Waits
    rw [not_not.mp hstate]
    exact not_not.mp hqueue

theorem behind_checkCommandQueue (c : Client) : c.Behind c.checkCommandQueue := by
  unfold Client.checkCommandQueue
  split_ifs with hstate hqueue
  · exact .refl c
  · exact ⟨rfl, id, [.event .commandEnqueued], rfl, fun _ => hqueue⟩
  · exact .refl c

/-- A command behind the others, or in front of them. -/
theorem enqueue_keeps (hawake : c.currentState ≠ .idle → c.Awake) (cmd : UptCmd)
    (data : Option CommandData) (front : Bool) :
    (c.enqueueCommandOnIoThread cmd data front).Lively := by
  have hqueued : ∀ queue : List CommandWithData, queue ≠ [] →
      ({ c with commandQueue := queue } : Client).checkCommandQueue.Lively := by
    intro queue hne
    refine ⟨awake_checkCommandQueue fun hbusy => ?_, fun hempty => ?_⟩
    · refine (hawake hbusy).imp (fun hwaits => ?_) id
      exact hwaits.congr rfl (fun hidle => absurd hidle hbusy) (fun _ => id) rfl
    · exact absurd ((behind_checkCommandQueue _).1.symm.trans hempty) hne
  unfold Client.enqueueCommandOnIoThread
  refine hqueued _ ?_
  split_ifs
  · exact List.cons_ne_nil _ _
  · exact List.cons_ne_nil _ _
  · exact List.append_ne_nil_of_right_ne_nil _ (List.cons_ne_nil _ _)
  · exact List.append_ne_nil_of_right_ne_nil _ (List.cons_ne_nil _ _)

/-- The end of a write: its outcome stands behind everything that is queued. -/
theorem writeEnd_keeps (hawake : c.Awake) (error : WriteError) :
    (c.writeEnd error).Lively := by
  have hended : ∀ (timedOut : Bool) (event : Event), event.isVerdict = true →
      (Client.processEvent { c with
        writeQueue := c.writeQueue.tail, writeInProgress := false
        writeTimedOut := timedOut } event).Lively := by
    intro timedOut event hverdict
    refine ⟨?_, fun _ => .inr (covered_concat _ hverdict)⟩
    rcases hawake with hwaits | ⟨handler, hmem, hspurs⟩
    · by_cases hsending : c.currentState = .sendingRequestAsync
      · have hspurs : spurs c.currentState (.event event) = true := by
          rw [hsending]
          exact hverdict
        exact awake_post hspurs
      · exact .inl (hwaits.congr rfl (fun _ => rfl) (fun hstate => absurd hstate hsending) rfl)
    · exact awake_of_mem handler (List.mem_append_left _ hmem) hspurs
  unfold Client.writeEnd
  dsimp only
  split_ifs
  · exact hended false _ rfl
  · exact hended c.writeTimedOut _ rfl
  · exact hended c.writeTimedOut _ rfl

/-- While a write is in progress its frame is in the queue. -/
theorem Orderly.queue_ne_nil (horderly : c.Orderly) (hbusy : c.writeInProgress = true) :
    c.writeQueue ≠ [] := by
  rcases horderly.phase with (hresting | hdelayed | hwriting | hended) | hleftover
  · exact absurd hbusy (ne_of_eq_of_ne hresting.1 Bool.false_ne_true)
  · exact hdelayed.2.2.2.1
  · obtain ⟨-, -, -, -, front, -, hfront⟩ := hwriting
    intro hempty
    rw [Client.transmission, hempty] at hfront
    cases hfront
  · exact hended.2.2.2.2.1
  · exact absurd hbusy (ne_of_eq_of_ne hleftover.2.2.1.1 Bool.false_ne_true)

/-- A write that is in progress has its timer, its buffer at the port or its handler queued. -/
theorem Orderly.write_pending (horderly : c.Orderly) (hbusy : c.writeInProgress = true) :
    c.armed .serialWriteDelay = true ∨ c.writing ≠ none ∨ c.posted ≠ [] := by
  have hqueued {handlers : List Handler} (hne : handlers ≠ [])
      (hposted : writeHandlers c.posted = handlers) : c.posted ≠ [] := by
    intro hempty
    rw [hempty] at hposted
    exact hne hposted.symm
  rcases horderly.phase with (hresting | hdelayed | hwriting | hended) | hleftover
  · exact absurd hbusy (ne_of_eq_of_ne hresting.1 Bool.false_ne_true)
  · obtain ⟨-, -, -, -, ⟨harmed, -⟩ | ⟨-, hone⟩⟩ := hdelayed
    · exact .inl harmed
    · exact .inr (.inr (hqueued (List.cons_ne_nil _ _) hone))
  · obtain ⟨-, -, -, -, front, hfront, -⟩ := hwriting
    refine .inr (.inl fun hnone => ?_)
    cases hnone.symm.trans hfront
  · obtain ⟨-, -, -, -, -, error, hone⟩ := hended
    exact .inr (.inr (hqueued (List.cons_ne_nil _ _) hone))
  · exact absurd hbusy (ne_of_eq_of_ne hleftover.2.2.1.1 Bool.false_ne_true)

/-- An expiry that has been queued ends its state. -/
theorem awake_expired (hawake : c.Awake) {timer : Timer} {event : Event} {rest : List Handler}
    (hposted : c.posted = .expired timer :: rest)
    (hspurs : ∀ state, spurs state (.expired timer) = true → spurs state (.event event) = true)
    (hevent : event ≠ .commandEnqueued) : ((c.taken rest).processEvent event).Awake := by
  cases hown : spurs c.currentState (.expired timer) with
  | true =>
      exact awake_post (hspurs _ hown)
  | false =>
      exact (hawake.take hposted hown).follows ((Follows.refl _).post fun heq =>
        hevent (Handler.event.inj heq))

theorem runHandler_keeps (horderly : c.Orderly) (hlively : c.Lively) {handler : Handler}
    {rest : List Handler} (hposted : c.posted = handler :: rest) :
    ((c.taken rest).runHandler handler).Lively := by
  obtain ⟨hawake, hspare⟩ := hlively
  have htaken : (c.taken rest).Spare := hspare.take hposted
  have hneutral (hspurs : spurs c.currentState handler = false) {d : Client}
      (hfollows : (c.taken rest).Follows d) : d.Lively :=
    ⟨(hawake.take hposted hspurs).follows hfollows, htaken.behind hfollows.behind⟩
  cases handler with
  | event event => exact event_keeps horderly ⟨hawake, hspare⟩ hposted
  | checkCommandQueue =>
      refine ⟨awake_checkCommandQueue fun hbusy => hawake.take hposted ?_,
        htaken.behind (behind_checkCommandQueue _)⟩
      have hstate : c.currentState ≠ .idle := hbusy
      cases hcurrent : c.currentState with
      | idle => exact absurd hcurrent hstate
      | _ => rfl
  | enqueueCommandOnIoThread cmd data front =>
      refine enqueue_keeps (fun _ => hawake.take hposted ?_) cmd data front
      cases c.currentState <;> rfl
  | expired timer =>
      cases timer with
      | ack =>
          refine ⟨awake_expired hawake hposted (fun state hspurs => ?_) (by decide),
            htaken.behind ((Behind.refl _).post (by decide))⟩
          cases state <;> first | rfl | cases hspurs
      | rsp =>
          refine ⟨awake_expired hawake hposted (fun state hspurs => ?_) (by decide),
            htaken.behind ((Behind.refl _).post (by decide))⟩
          cases state <;> first | rfl | cases hspurs
      | serialWriteDelay =>
          have hover : (c.taken rest).Follows { c.taken rest with writeDelayActive := false } :=
            follows_of_same rfl rfl id rfl rfl
          exact hneutral (by cases c.currentState <;> rfl)
            (hover.trans (follows_startWrite horderly.queue_ne_nil))
      | serialWrite =>
          exact hneutral (by cases c.currentState <;> rfl) follows_handleSerialWriteTimeout
  | delayAborted =>
      exact hneutral (by cases c.currentState <;> rfl) (follows_of_same rfl rfl id rfl rfl)
  | writeEnd error =>
      exact writeEnd_keeps (hawake.take hposted (by cases c.currentState <;> rfl)) error
  | readEnd data => exact hneutral (by cases c.currentState <;> rfl) (follows_readEnd data)
  | readFailed =>
      exact hneutral (by cases c.currentState <;> rfl) (follows_of_same rfl rfl id rfl rfl)

/-- A timer expires. -/
theorem expire_keeps (hlively : c.Lively) (timer : Timer) :
    Lively (({ c with armed := Function.update c.armed timer false } : Client).post
      (.expired timer)) := by
  have hbehind : c.Behind { c with armed := Function.update c.armed timer false } := .refl c
  refine ⟨?_, hlively.spare.behind (hbehind.post Handler.noConfusion)⟩
  by_cases hown : timerOf c.currentState = some timer
  · have hspurs : spurs c.currentState (.expired timer) = true := by
      cases hstate : c.currentState <;> rw [hstate] at hown <;> cases hown <;> rfl
    exact awake_post hspurs
  · exact hlively.awake.follows ((follows_arm _ fun _ => hown).post Handler.noConfusion)

theorem step_keeps (horderly : c.Orderly) (hlively : c.Lively) (input : Input) :
    (c.step input).Lively := by
  have hgoes {d : Client} (hfollows : c.Follows d) : d.Lively :=
    ⟨hlively.awake.follows hfollows, hlively.spare.behind hfollows.behind⟩
  have hsame {d : Client} (hfollows : c.Follows d) {handler : Handler}
      (hhandler : handler ≠ .event .commandEnqueued) (p : Prop) [Decidable p] :
      (if p then d.post handler else c).Lively :=
    hgoes ((hfollows.post hhandler).ite (.refl c) p)
  cases input with
  | run =>
      cases hposted : c.posted with
      | nil => simpa only [Client.step, hposted] using hlively
      | cons handler rest =>
          simp only [Client.step, hposted]
          exact runHandler_keeps horderly hlively hposted
  | expire timer =>
      unfold Client.step
      dsimp only
      split_ifs
      · exact expire_keeps hlively timer
      · exact hlively
  | writeDone success =>
      unfold Client.step
      cases c.writing with
      | none => exact hlively
      | some frame =>
          have hfree : c.Follows { c with writing := none } := follows_of_same rfl rfl id rfl rfl
          exact hgoes (Follows.ite ((hfree.trans (follows_note _)).post Handler.noConfusion)
            (hfree.post Handler.noConfusion) _)
  | readDone data =>
      exact hsame (d := { c with reading := false }) (follows_of_same rfl rfl id rfl rfl)
        Handler.noConfusion _
  | readFailed =>
      exact hsame (d := { c with reading := false }) (follows_of_same rfl rfl id rfl rfl)
        Handler.noConfusion _
  | enqueue cmd data => exact hgoes (follows_enqueueCommand cmd data)
  | cancelCommand => exact hgoes ((Follows.refl c).post (by decide))
  | clock clock => exact hgoes (follows_of_same rfl rfl id rfl rfl)
  | elapse milliseconds => exact hgoes (follows_of_same rfl rfl id rfl rfl)

/-- Whatever happens, the client waits for something, or what gets it on is queued. -/
theorem lively_run (clock : Clock) (inputs : List Input) :
    (run step (init clock) inputs).Orderly ∧ (run step (init clock) inputs).Lively := by
  refine @run_keeps _ _ step (fun c => c.Orderly ∧ c.Lively) ?_ _
    ⟨orderly_init clock, enqueue_keeps (fun hbusy => absurd rfl hbusy) _ _ _⟩ inputs
  intro c input ⟨horderly, hlively⟩
  exact ⟨horderly.step input, step_keeps horderly hlively input⟩

/-- In every run, when nothing is queued, no timer is armed and nothing is being written any more,
the client is in `IDLE`, and every command has been taken from the queue. -/
theorem idle_of_atRest (clock : Clock) (inputs : List Input)
    (hrest : (run step (init clock) inputs).AtRest) :
    (run step (init clock) inputs).currentState = .idle ∧
      (run step (init clock) inputs).commandQueue = [] := by
  obtain ⟨horderly, ⟨hawake, -⟩⟩ := lively_run clock inputs
  generalize run step (init clock) inputs = c at hrest hawake horderly ⊢
  obtain ⟨hposted, htimers, hwriting⟩ := hrest
  have hwaits : c.Waits := by
    refine hawake.resolve_right ?_
    rintro ⟨handler, hmem, -⟩
    rw [hposted] at hmem
    cases hmem
  unfold Waits at hwaits
  cases hstate : c.currentState with
  | idle =>
      rw [hstate] at hwaits
      exact ⟨rfl, hwaits⟩
  | sendingRequestAsync =>
      rw [hstate] at hwaits
      rcases horderly.write_pending hwaits with harmed | hbusy | hqueued
      · exact absurd harmed (ne_of_eq_of_ne (htimers _) Bool.false_ne_true)
      · exact absurd hwriting hbusy
      · exact absurd hposted hqueued
  | waitingForAck =>
      rw [hstate] at hwaits
      exact absurd hwaits (ne_of_eq_of_ne (htimers _) Bool.false_ne_true)
  | waitingForResponse =>
      rw [hstate] at hwaits
      exact absurd hwaits (ne_of_eq_of_ne (htimers _) Bool.false_ne_true)
  | cancelCommandRequest =>
      rw [hstate] at hwaits
      exact hwaits.elim

/-- The terminal answers neither of the first two commands. -/
def firstUnanswered : List Input :=
  firstCommand ++ [.writeDone true] ++ runs 6 ++ [.expire .ack] ++ runs 6 ++ [.writeDone true] ++
    runs 6 ++ [.expire .ack] ++ runs 6

theorem idle_of_atRest_first :
    (run step (init morning) firstUnanswered).currentState = .idle ∧
      (run step (init morning) firstUnanswered).commandQueue = [] := by
  refine idle_of_atRest morning firstUnanswered
    ⟨by decide +kernel, fun timer => ?_, by decide +kernel⟩
  cases timer <;> decide +kernel

end Client

end LinuxPBS.Upt

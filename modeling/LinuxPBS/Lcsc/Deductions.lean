import Mathlib
import LinuxPBS.Lcsc.Reads
import LinuxPBS.Lcsc.RoundTrip

/-!
# One outcome of a deduction

A deduction that is taken from the queue raises one event: its write fails, no response comes
in time, the response is rejected, or it names a result.  There are two ways out of that.  A
result that `handleCmdResponse` has no status for, such as 0x1E for a reader without its
configuration file, raises none (`not_oneDeduction`); and a response that is handled while the
time-out is already posted raises two.

`oneDeduction_of_regular` is about the runs without either, and without a frame that is left
behind a failed command (`Patient`).
-/

namespace LinuxPBS.Lcsc

open Machine

/-- Whether the last command taken from the queue is a deduction without an event yet; `none` if
an event has been raised without one, or a command taken before there was one. -/
def deductOpen : List Outcome → Option Bool
  | [] => some false
  | .dequeued command :: older =>
      if deductOpen older = some false then some (command.cmd = .cardDeduct) else none
  | .event .cardDeduct _ _ :: older => if deductOpen older = some true then some false else none
  | _ :: older => deductOpen older

/-- A success is raised for a response only that came after the frame of the deduction had been
written. -/
def SuccessAfterRequest : List Outcome → Prop
  | [] => True
  | .event .cardDeduct .sGetDeductSuccess response :: older =>
      (∃ command frame payload, lastPrepared older = some (command, frame) ∧
        command.cmd = .cardDeduct ∧ LastWritten older ∧
        response = some ⟨payload, frame.number⟩) ∧ SuccessAfterRequest older
  | _ :: older => SuccessAfterRequest older

/-- The outcomes raised so far, with the one that is due or not. -/
def Told (log : List Outcome) (due : Bool) : Prop :=
  deductOpen log = some due ∧ SuccessAfterRequest log

variable {log newer : List Outcome} {due : Bool} {cmd : Cmd}

/-- An entry that is neither a command taken up nor the event of a deduction. -/
theorem Told.cons (htold : Told log due) {outcome : Outcome}
    (hcommand : ∀ command, outcome ≠ .dequeued command)
    (hevent : ∀ status response, outcome ≠ .event .cardDeduct status response) :
    Told (outcome :: log) due := by
  cases outcome with
  | dequeued command => exact absurd rfl (hcommand command)
  | event other status response =>
      cases other with
      | cardDeduct => exact absurd rfl (hevent status response)
      | _ => exact htold
  | _ => exact htold

theorem Told.reports (htold : Told log due) (hcmd : cmd ≠ .cardDeduct)
    (hreports : ∀ outcome ∈ newer, outcome.isReportOf cmd = true) : Told (newer ++ log) due := by
  induction newer with
  | nil => exact htold
  | cons outcome newer ih =>
      have hreport := hreports outcome List.mem_cons_self
      refine (ih fun other hmem => hreports other (List.mem_cons_of_mem _ hmem)).cons ?_ ?_
      · rintro command rfl
        exact absurd hreport Bool.false_ne_true
      · rintro status response rfl
        exact hcmd (of_decide_eq_true hreport).symm

theorem Told.wires (htold : Told log due)
    (hwires : ∀ outcome ∈ newer, outcome.isWire = true) : Told (newer ++ log) due := by
  induction newer with
  | nil => exact htold
  | cons outcome newer ih =>
      have hwire := hwires outcome List.mem_cons_self
      refine (ih fun other hmem => hwires other (List.mem_cons_of_mem _ hmem)).cons ?_ ?_
      · rintro command rfl
        exact absurd hwire Bool.false_ne_true
      · rintro status response rfl
        exact absurd hwire Bool.false_ne_true

/-- A command is taken up when there is nothing due. -/
theorem Told.dequeued (htold : Told log false) (command : CommandWithData) :
    Told (.dequeued command :: log) (command.cmd = .cardDeduct) :=
  ⟨if_pos htold.1, htold.2⟩

/-- The event of a deduction that is due is raised, and it is no success. -/
theorem Told.failure (htold : Told log true) {status : CscEvents}
    (hstatus : status ≠ .sGetDeductSuccess) (response : Option Response) :
    Told (.event .cardDeduct status response :: log) false := by
  refine ⟨if_pos htold.1, ?_⟩
  cases status with
  | sGetDeductSuccess => exact absurd rfl hstatus
  | _ => exact htold.2

/-- The event of a deduction that is due is raised for a response to its frame. -/
theorem Told.response (htold : Told log true) (status : CscEvents) {command : CommandWithData}
    {frame : TxFrame} (hlast : lastPrepared log = some (command, frame))
    (hcmd : command.cmd = .cardDeduct) (hwritten : LastWritten log) (payload : List UInt8) :
    Told (.event .cardDeduct status (some ⟨payload, frame.number⟩) :: log) false := by
  refine ⟨if_pos htold.1, ?_⟩
  cases status with
  | sGetDeductSuccess => exact ⟨⟨command, frame, payload, hlast, hcmd, hwritten, rfl⟩, htold.2⟩
  | _ => exact htold.2

namespace Client

/-- A deduction is under way whose event has not been raised. -/
def deducting (c : Client) : Bool :=
  decide (c.currentState ≠ .idle) && decide (c.currentCmd = .cardDeduct) &&
    (settles c.posted).isEmpty

/-- Every deduction taken from the queue has raised one event, the one under way excepted, and
there has been no other; a success stands for a response to the deduction. -/
def OneDeduction (c : Client) : Prop :=
  deductOpen c.log = some c.deducting ∧ SuccessAfterRequest c.log

/-- The result of a deduction has a status. -/
def Listed (c : Client) : Prop :=
  match checkResponse c.currentCmd c.receiver.rxBuffer with
  | .ok msg => resultStatus c.currentCmd (msg.payload.headD 0) ≠ none
  | .error _ => True

instance (c : Client) : Decidable (Listed c) := by
  unfold Listed
  cases checkResponse c.currentCmd c.receiver.rxBuffer <;> infer_instance

/-- The response to a deduction names a result with a status, and no time-out is run for a
deduction whose response has been handled. -/
def Regular (c : Client) (input : Input) : Prop :=
  Patient c input ∧
    match input, c.posted with
    | .run, .event .responseReceived :: _ =>
        c.currentState.phase = .waiting → c.currentCmd = .cardDeduct → Listed c
    | .run, .event .responseTimeout :: rest =>
        c.currentState.phase = .waiting → c.currentCmd = .cardDeduct → settles rest = []
    | _, _ => True

instance (c : Client) (input : Input) : Decidable (Regular c input) := by
  unfold Regular
  refine @instDecidableAnd _ _ inferInstance ?_
  generalize c.posted = posted
  cases input with
  | run =>
    rcases posted with _ | ⟨handler, rest⟩
    · infer_instance
    · cases handler with
      | event event => cases event <;> infer_instance
      | _ => infer_instance
  | _ => infer_instance

/-! ## The events that end a wait -/

/-- While the client waits, the queued events that end the wait fit its command. -/
def Settling (c : Client) : Prop :=
  c.currentState.phase = .waiting → ∀ event, .event event ∈ c.posted → event.kind = .settle →
    event.endsWait (isChunkedCommand c.currentCmd) = true

variable {c c' : Client} {rest : List Handler} {handler : Handler}

theorem mem_settles {event : Event} {posted : List Handler} :
    .event event ∈ settles posted ↔ .event event ∈ posted ∧ event.kind = .settle := by
  rw [settles, List.mem_filter]
  exact and_congr_right fun _ => decide_eq_true_iff

theorem Settling.between (hsettling : Settling c) (hbetween : Between c c') : Settling c' := by
  intro hwaiting event hmem hkind
  rw [hbetween.state] at hwaiting
  rw [hbetween.cmd]
  have hmem' : .event event ∈ settles c'.posted := mem_settles.mpr ⟨hmem, hkind⟩
  rw [hbetween.settles] at hmem'
  exact hsettling hwaiting event (mem_settles.mp hmem').1 hkind

/-- A client that does not wait. -/
theorem settling_of_ne (hphase : c.currentState.phase ≠ .waiting) : Settling c :=
  fun hwaiting => absurd hwaiting hphase

theorem enter_state (c : Client) (next : State) : (c.enter next).currentState = next := by
  unfold enter
  simp only
  split <;> rfl

theorem enter_cmd (c : Client) (next : State) : (c.enter next).currentCmd = c.currentCmd := by
  unfold enter
  simp only
  split <;> rfl

theorem enter_log (c : Client) (next : State) : (c.enter next).log = c.log := by
  unfold enter
  simp only
  split <;> rfl

theorem settles_enter (c : Client) (next : State) :
    settles (c.enter next).posted = settles c.posted := by
  unfold enter
  simp only
  split
  · exact settles_concat (by decide) c.posted
  · rfl

/-- A client that is idle or sends does not wait. -/
theorem settling_enter (c : Client) {next : State} (hnext : next.phase ≠ .waiting) :
    Settling (c.enter next) :=
  settling_of_ne (by rwa [enter_state])

/-- Behind the front no event is queued that ends a wait. -/
theorem settles_eq_nil (hnone : .settle ∉ c.kinds) : settles c.posted = [] := by
  refine List.filter_eq_nil_iff.mpr fun handler hmem hkind => hnone ?_
  exact List.mem_map.mpr ⟨handler, hmem, of_decide_eq_true hkind⟩

theorem Settling.turn (hsettling : Settling c) (horderly : Orderly c) {event : Event}
    (hposted : c.posted = .event event :: rest) (hturn : Turn c rest event c') :
    Settling c' := by
  have htaken : Settling (c.taken rest) := fun hwaiting event hmem hkind =>
    hsettling hwaiting event (hposted ▸ List.mem_cons_of_mem _ hmem) hkind
  cases hturn with
  | ignored => exact htaken
  | launch | launchChunks | fail | failChunks | timeout | timeoutChunks | finish | rejectChunks
  | completeChunks | breakChunks | next | nextNone => exact settling_enter _ (by decide)
  | complete hsending =>
      have hsorted := horderly.sorted
      rw [hsending, kinds_of_posted hposted] at hsorted
      have hnone := settles_eq_nil hsorted.content.tail.2.2
      intro _ event hmem hkind
      have hsettle := mem_settles.mpr ⟨hmem, hkind⟩
      rw [settles_enter] at hsettle
      exact absurd (hnone ▸ hsettle) List.not_mem_nil
  | respond hwaiting =>
      have hbusy : (c.taken rest).currentState ≠ .idle := by
        intro hidle
        rw [show c.currentState = _ from hidle] at hwaiting
        exact absurd hwaiting (by decide)
      obtain ⟨settle, d, hends, haside, hsame⟩ := handleRxBuffer_eq hbusy
      rw [hsame]
      intro hphase event hmem hkind
      rw [show (d.processEvent settle).currentCmd = _ from haside.cmd]
      rcases List.mem_append.mp hmem with hold | hnew
      · obtain ⟨_, _, _, rfl, -⟩ := haside
        exact htaken hwaiting event hold hkind
      · obtain rfl : event = settle := by simpa using hnew
        exact hends

theorem Settling.step (hsettling : Settling c) (horderly : Orderly c) (input : Input) :
    Settling (c.step input) := by
  rcases horderly.step_cases input with ⟨event, rest, -, hposted, hturn⟩ | hbetween
  · exact hsettling.turn horderly hposted hturn
  · exact hsettling.between hbetween

/-- The reader is initialised: the login command is announced. -/
theorem init_eq (evp : Evp) (epochSeconds : UInt32) :
    init evp epochSeconds = { ({ evp := evp, epochSeconds := epochSeconds, now := 0 } : Client) with
      commandQueue := [⟨.login1, .null⟩]
      posted := [.event .commandEnqueued] } := rfl

theorem settling_init (evp : Evp) (epochSeconds : UInt32) : Settling (init evp epochSeconds) :=
  settling_of_ne (by simp [init_eq, State.phase])

/-- While the client waits it knows every queued event that ends the wait. -/
theorem Settling.known (hsettling : Settling c) (horderly : Orderly c)
    (hwaiting : c.currentState.phase = .waiting) {event : Event}
    (hmem : .event event ∈ c.posted) (hkind : event.kind = .settle) :
    stateTransitionTable c.currentState event ≠ none := by
  have hends := hsettling hwaiting event hmem hkind
  have hsuited := horderly.suited
  cases hstate : c.currentState with
  | waitingForResponse =>
      rw [hstate] at hsuited
      rw [show isChunkedCommand c.currentCmd = false from hsuited] at hends
      cases event <;> first | exact absurd hends Bool.false_ne_true | simp [stateTransitionTable]
  | waitingForChunkCommandResponse =>
      rw [hstate] at hsuited
      rw [show isChunkedCommand c.currentCmd = true from hsuited] at hends
      cases event <;> first | exact absurd hends Bool.false_ne_true | simp [stateTransitionTable]
  | _ => exact absurd (hstate ▸ hwaiting) (by decide)

/-- An event that the state does not know ends no wait. -/
theorem Settling.ignored (hsettling : Settling c) (horderly : Orderly c) {event : Event}
    (hposted : c.posted = .event event :: rest)
    (hnone : stateTransitionTable c.currentState event = none) :
    c.currentState = .idle ∨ settles (c.taken rest).posted = settles c.posted := by
  by_cases hkind : event.kind = .settle
  · refine .inl ?_
    have hmem : .event event ∈ c.posted := hposted ▸ List.mem_cons_self
    cases hstate : c.currentState with
    | idle => rfl
    | sendingRequestAsync | sendingChunkCommandRequestAsync =>
        have hsorted := horderly.sorted
        rw [hstate, kinds_of_posted hposted] at hsorted
        simp only [Handler.kind, hkind] at hsorted
        exact absurd List.mem_cons_self hsorted.content.2.2
    | waitingForResponse | waitingForChunkCommandResponse =>
        have hwaiting : c.currentState.phase = .waiting := by rw [hstate]; rfl
        exact absurd hnone (hsettling.known horderly hwaiting hmem hkind)
  · have hbetween : Between c (c.taken rest) := between_taken hposted hkind
    exact .inr hbetween.settles

/-! ## What a failure and a response tell -/

theorem handleCmdErrorOrTimeout_deduct (hcmd : c.currentCmd = .cardDeduct) (status : CscEvents) :
    c.handleCmdErrorOrTimeout status =
      (c.note (.failed .cardDeduct status)).note (.event .cardDeduct status none) := by
  unfold handleCmdErrorOrTimeout
  simp only [note, hcmd]

/-- A failure raises the event of a deduction that is due. -/
theorem told_failure (hbusy : c.currentState ≠ .idle) (status : CscEvents)
    (hstatus : status ≠ .sGetDeductSuccess) (htold : Told c.log (c.currentCmd = .cardDeduct)) :
    Told (c.handleCmdErrorOrTimeout status).log false := by
  by_cases hcmd : c.currentCmd = .cardDeduct
  · rw [handleCmdErrorOrTimeout_deduct hcmd]
    rw [decide_eq_true hcmd] at htold
    have hfailed : Told (.failed .cardDeduct status :: c.log) true :=
      htold.cons (by simp) (by simp)
    exact hfailed.failure hstatus none
  · obtain ⟨newer, _, _, heq, hreports, -⟩ := aside_handleCmdErrorOrTimeout hbusy status
    rw [decide_eq_false hcmd] at htold
    rw [heq]
    have hfailed : Told (.failed c.currentCmd status :: c.log) false :=
      htold.cons (by simp) (by simp)
    exact hfailed.reports hcmd hreports

theorem checkResponse_error_deduct {currentCmd : Cmd} {msgDataBuff : List UInt8}
    {status : CscEvents} (herror : checkResponse currentCmd msgDataBuff = .error status) :
    status ≠ .sGetDeductSuccess := by
  unfold checkResponse parseFrame at herror
  rintro rfl
  grind

/-- What the response to a deduction with a listed result does to the log. -/
theorem handleCmdResponse_deduct (hbusy : c.currentState ≠ .idle)
    (hcmd : c.currentCmd = .cardDeduct) (payload : List UInt8) :
    (c.handleCmdResponse payload).2 = resultStatus .cardDeduct (payload.headD 0) ∧
      (c.handleCmdResponse payload).1.log = c.log ∧
      (c.handleCmdResponse payload).1.currentCmd = .cardDeduct ∧
      (c.handleCmdResponse payload).1.receivedAfter = c.receivedAfter := by
  unfold handleCmdResponse
  simp only [hcmd]
  refine ⟨trivial, ?_⟩
  split
  · split
    · next seed _ =>
        obtain ⟨commandQueue, hfront⟩ :=
          enqueueCommandToFrontOnIoThread_busy hbusy ⟨.cardFlush, .amount seed⟩
        rw [hfront]
        exact ⟨rfl, hcmd, rfl⟩
    · exact ⟨rfl, hcmd, rfl⟩
  · exact ⟨rfl, hcmd, rfl⟩

theorem told_handleReceivedCmd (hbusy : c.currentState ≠ .idle) (hcmd : c.currentCmd = .cardDeduct)
    (htold : Told c.log true) {command : CommandWithData} {frame : TxFrame}
    (hlast : lastPrepared c.log = some (command, frame)) (hcommand : command.cmd = .cardDeduct)
    (hwritten : LastWritten c.log) (hafter : c.receivedAfter = frame.number)
    {msgDataBuff : List UInt8}
    (hlisted : ∀ msg, checkResponse c.currentCmd msgDataBuff = .ok msg →
      resultStatus c.currentCmd (msg.payload.headD 0) ≠ none) :
    Told (c.handleReceivedCmd msgDataBuff).log false := by
  have hbusy' : (c.cancel .rsp).currentState ≠ .idle := hbusy
  have hcmd' : (c.cancel .rsp).currentCmd = .cardDeduct := hcmd
  cases hcheck : checkResponse c.currentCmd msgDataBuff with
  | error status =>
      rw [handleReceivedCmd_error hcheck, handleCmdErrorOrTimeout_deduct hcmd']
      have hplain : ¬ isChunkedCommand (((c.cancel .rsp).note (.failed .cardDeduct status)).note
          (.event .cardDeduct status none)).currentCmd = true := by
        rw [show (((c.cancel .rsp).note (.failed .cardDeduct status)).note
          (.event .cardDeduct status none)).currentCmd = _ from hcmd]
        decide
      rw [if_neg hplain]
      have hfailed : Told (.failed .cardDeduct status :: c.log) true :=
        htold.cons (by simp) (by simp)
      exact hfailed.failure (checkResponse_error_deduct hcheck) none
  | ok msg =>
      obtain ⟨hstatus, hlog, hcurrent, hreceived⟩ :=
        handleCmdResponse_deduct hbusy' hcmd' msg.payload
      have hsome := hlisted msg hcheck
      rw [hcmd] at hsome
      obtain ⟨status, hresult⟩ := Option.ne_none_iff_exists'.mp hsome
      have hnoted : ((c.cancel .rsp).handleCmdResponse msg.payload).1.noteStatus
          ((c.cancel .rsp).handleCmdResponse msg.payload).2 msg.payload =
          ((c.cancel .rsp).handleCmdResponse msg.payload).1.note (.event .cardDeduct status
            (some ⟨msg.payload, frame.number⟩)) := by
        rw [hstatus, hresult]
        simp only [noteStatus]
        rw [hcurrent, hreceived, show (c.cancel .rsp).receivedAfter = _ from hafter]
      rw [handleReceivedCmd_ok hcheck]
      simp only
      rw [hnoted, if_pos (by rw [show (Client.note _ _).currentCmd = _ from hcurrent]; rfl)]
      have hresponse := htold.response status hlast hcommand hwritten msg.payload
      simp only [processEvent, post, note, hlog]
      exact hresponse

/-- A response raises the event of a deduction that is due. -/
theorem told_respond (horderly : Orderly c) (hcurrent : Current c)
    (hheard : Heard c c.currentState.phase) (hwaiting : c.currentState.phase = .waiting)
    (hposted : c.posted = .event .responseReceived :: rest)
    (hlisted : c.currentCmd = .cardDeduct → Listed c)
    (htold : Told c.log (c.currentCmd = .cardDeduct)) :
    Told (c.taken rest).handleRxBuffer.log false := by
  have hbusy : (c.taken rest).currentState ≠ .idle := by
    intro hidle
    rw [show c.currentState = _ from hidle] at hwaiting
    exact absurd hwaiting (by decide)
  by_cases hcmd : c.currentCmd = .cardDeduct
  · rw [decide_eq_true hcmd] at htold
    obtain ⟨command, frame, hlast, hafter⟩ := hheard.received horderly hwaiting hposted
    have hcommand : command.cmd = .cardDeduct :=
      ((hcurrent command frame hlast).1 (by rw [hcmd]; rfl)).trans hcmd
    have hcarried := horderly.carried
    rw [hwaiting] at hcarried
    refine told_handleReceivedCmd (c := { c.taken rest with
      receiver := { c.receiver with rxBuffer := [] } }) hbusy hcmd htold hlast hcommand
      hcarried.2 hafter fun msg hmsg => ?_
    have hresult := hlisted hcmd
    unfold Listed at hresult
    rw [show checkResponse c.currentCmd c.receiver.rxBuffer = _ from hmsg] at hresult
    exact hresult
  · rw [decide_eq_false hcmd] at htold
    obtain ⟨settle, d, -, ⟨newer, _, _, rfl, hreports, -⟩, hsame⟩ := handleRxBuffer_eq hbusy
    rw [hsame]
    exact htold.reports hcmd hreports

/-! ## Every step tells what is due -/

theorem deducting_enter_idle (c : Client) : (c.enter .idle).deducting = false := by
  simp [deducting, enter_state]

/-- Before the response has been handled a deduction that is under way is due. -/
theorem deducting_of_busy (hbusy : c.currentState ≠ .idle) (hnone : settles c.posted = []) :
    c.deducting = decide (c.currentCmd = .cardDeduct) := by
  simp [deducting, hbusy, hnone]

/-- When the response has been handled nothing is due. -/
theorem deducting_of_settled {event : Event} (hmem : .event event ∈ c.posted)
    (hkind : event.kind = .settle) : c.deducting = false := by
  have hsome : settles c.posted ≠ [] := List.ne_nil_of_mem (mem_settles.mpr ⟨hmem, hkind⟩)
  simp [deducting, hsome]

theorem told_prepareAndWrite {d : Client} (hresting : Resting d.transmission)
    (command : CommandWithData) {due : Bool} (htold : Told d.log due) :
    Told (d.prepareAndWrite command).log due := by
  rw [prepareAndWrite_eq hresting]
  have hprepared : Told (d.prepared command).log due := htold.cons (by simp) (by simp)
  obtain ⟨newer, hlog, hwires⟩ := (between_startWrite (d.prepared command)).log
  rw [hlog]
  exact hprepared.wires hwires

/-- A client that has become idle has nothing due. -/
theorem told_enter_idle {d : Client} (htold : Told d.log false) : OneDeduction (d.enter .idle) := by
  rw [OneDeduction, deducting_enter_idle, enter_log]
  exact htold

/-- A client that sends has its command due. -/
theorem told_enter_sending {d : Client} {next : State} (hnext : next ≠ .idle)
    (hnone : settles d.posted = []) (htold : Told d.log (d.currentCmd = .cardDeduct)) :
    OneDeduction (d.enter next) := by
  rw [OneDeduction, deducting_of_busy (by rwa [enter_state]) (by rwa [settles_enter]), enter_cmd,
    enter_log]
  exact htold

theorem prepareAndWrite_cmd {d : Client} (hresting : Resting d.transmission)
    (command : CommandWithData) :
    (d.prepareAndWrite command).currentCmd = d.currentCmd ∧
      settles (d.prepareAndWrite command).posted = settles d.posted := by
  rw [prepareAndWrite_eq hresting]
  have hbetween := between_startWrite (d.prepared command)
  exact ⟨hbetween.cmd, hbetween.settles⟩

theorem OneDeduction.turn (hone : OneDeduction c) (horderly : Orderly c) (hcurrent : Current c)
    (hheard : Heard c c.currentState.phase) (hsettling : Settling c) {event : Event}
    (hposted : c.posted = .event event :: rest) (hregular : Regular c .run)
    (hturn : Turn c rest event c') : OneDeduction c' := by
  have hbusy : ∀ state, c.currentState = state → state ≠ .idle →
      (c.taken rest).currentState ≠ .idle := by
    rintro _ rfl hbusy
    exact hbusy
  have hsorted := horderly.sorted
  have hsuited := horderly.suited
  have htold : Told c.log c.deducting := hone
  -- while a frame is sent, and while a response is in front, the command is due
  have hdue : c.currentState ≠ .idle → .settle ∉ c.kinds →
      Told c.log (c.currentCmd = .cardDeduct) := fun hbusy hnone =>
    deducting_of_busy hbusy (settles_eq_nil hnone) ▸ htold
  have hplain : isChunkedCommand c.currentCmd = true → c.currentCmd ≠ .cardDeduct := by
    intro hchunk hcmd
    rw [hcmd] at hchunk
    exact absurd hchunk (by decide)
  have hidle : c.currentState = .idle → Told c.log false := by
    intro hstate
    have hnone : c.deducting = false := by simp [deducting, hstate]
    exact hnone ▸ htold
  -- the event that ends the wait has been taken, so that nothing was due
  have hsettled : event.kind = .settle → Told c.log false := fun hkind =>
    deducting_of_settled (hposted ▸ List.mem_cons_self) hkind ▸ htold
  -- an upload is no deduction
  have hchunked : isChunkedCommand c.currentCmd = true → Told c.log false := by
    intro hchunk
    have hnone : c.deducting = false := by simp [deducting, hplain hchunk]
    exact hnone ▸ htold
  cases hturn with
  | ignored hnone =>
      rcases hsettling.ignored horderly hposted hnone with hstate | hsettles
      · have hsame : (c.taken rest).deducting = false := by simp [deducting, taken, hstate]
        rw [OneDeduction, hsame]
        exact hidle hstate
      · have hsame : (c.taken rest).deducting = c.deducting := by
          simp only [deducting, hsettles]
          rfl
        rw [OneDeduction, hsame]
        exact htold
  | @launch command others hstate =>
      obtain ⟨hresting, hsorted, -⟩ := horderly.begin hstate hposted rfl
      have hresting : Resting ((c.taken rest).dequeued command others).transmission := hresting
      obtain ⟨hcmd, hsettles⟩ := prepareAndWrite_cmd hresting command
      refine told_enter_sending (by decide) (hsettles.trans ?_) ?_
      · exact settles_eq_nil (c := c.taken rest) hsorted.content.2.2
      · have hnew := told_prepareAndWrite hresting command ((hidle hstate).dequeued command)
        exact (congrArg (fun cmd => decide (cmd = Cmd.cardDeduct)) hcmd).symm ▸ hnew
  | @launchChunks command chunk others chunks hstate hqueue hchunk =>
      obtain ⟨hresting, hsorted, -⟩ := horderly.begin hstate hposted rfl
      have hresting : Resting
          (((c.taken rest).dequeued command others).withChunks chunks).transmission := hresting
      obtain ⟨hcmd, hsettles⟩ := prepareAndWrite_cmd hresting chunk
      refine told_enter_sending (by decide) (hsettles.trans ?_) ?_
      · exact settles_eq_nil (c := c.taken rest) hsorted.content.2.2
      · have hnew := told_prepareAndWrite hresting chunk ((hidle hstate).dequeued command)
        exact (congrArg (fun cmd => decide (cmd = Cmd.cardDeduct)) hcmd).symm ▸ hnew
  | complete hsending =>
      have hphase := hsending
      rw [hsending] at hsorted
      have hnone := hsorted.content.2.2
      rw [kinds_of_posted hposted] at hnone
      refine told_enter_sending ?_ ?_ ?_
      · cases c.currentState <;> decide
      · exact settles_eq_nil (c := c.taken rest) fun hmem => hnone (List.mem_cons_of_mem _ hmem)
      · refine hdue (fun hidle => ?_) hsorted.content.2.2
        rw [hidle] at hphase
        exact absurd hphase (by decide)
  | fail hstate =>
      rw [show c.currentState.phase = .sending by rw [hstate]; rfl] at hsorted
      have hbusy := hbusy _ hstate (by decide)
      exact told_enter_idle (told_failure hbusy _ (by decide) (hdue hbusy hsorted.content.2.2))
  | failChunks hstate =>
      rw [show c.currentState.phase = .sending by rw [hstate]; rfl] at hsorted
      have hbusy := hbusy _ hstate (by decide)
      have hfailed := told_failure (c := c.taken rest) hbusy .sSendcmdfail (by decide)
        (hdue hbusy hsorted.content.2.2)
      have huploaded : Told ((c.taken rest).failChunks .sSendcmdfail).log false :=
        hfailed.cons (by simp) (by simp)
      exact told_enter_idle huploaded
  | timeout hstate =>
      have hbusy := hbusy _ hstate (by decide)
      have hwaiting : c.currentState.phase = .waiting := by rw [hstate]; rfl
      have hnow : Told c.log (c.currentCmd = .cardDeduct) := by
        by_cases hcmd : c.currentCmd = .cardDeduct
        · have hrest : settles rest = [] := by
            have hrule := hregular.2
            rw [hposted] at hrule
            exact hrule hwaiting hcmd
          have hbetween : Between c (c.taken rest) := between_taken hposted (by decide)
          have hnone : settles c.posted = [] := hbetween.settles.symm.trans hrest
          exact (deducting_of_busy (c := c) hbusy hnone) ▸ htold
        · have hnone : c.deducting = false := by simp [deducting, hcmd]
          rw [decide_eq_false hcmd]
          exact hnone ▸ htold
      exact told_enter_idle (told_failure hbusy _ (by decide) hnow)
  | timeoutChunks hstate =>
      have hbusy := hbusy _ hstate (by decide)
      rw [hstate] at hsuited
      have hnow : Told c.log (c.currentCmd = .cardDeduct) :=
        (decide_eq_false (hplain hsuited)).symm ▸ hchunked hsuited
      have hfailed := told_failure (c := c.taken rest) hbusy .sTimeout (by decide) hnow
      have huploaded : Told ((c.taken rest).failChunks .sTimeout).log false :=
        hfailed.cons (by simp) (by simp)
      exact told_enter_idle huploaded
  | respond hwaiting =>
      have hbusy : (c.taken rest).currentState ≠ .idle := by
        intro hidle
        rw [show c.currentState = _ from hidle] at hwaiting
        exact absurd hwaiting (by decide)
      rw [hwaiting, kinds_of_posted hposted] at hsorted
      have hnone : .settle ∉ c.kinds := by
        rw [kinds_of_posted hposted, List.mem_cons, not_or]
        exact ⟨by decide, hsorted.head (by simp [Ordered, Handler.kind, Event.kind])⟩
      have hlisted : c.currentCmd = .cardDeduct → Listed c := by
        have hrule := hregular.2
        rw [hposted] at hrule
        exact hrule hwaiting
      have hnow := told_respond horderly hcurrent hheard hwaiting hposted hlisted
        (hdue hbusy hnone)
      obtain ⟨settle, d, hends, -, hsame⟩ := handleRxBuffer_eq hbusy
      have hsettle : .event settle ∈ (c.taken rest).handleRxBuffer.posted := by
        rw [hsame]
        exact List.mem_append_right _ (List.mem_singleton.mpr rfl)
      rw [OneDeduction, deducting_of_settled hsettle (Event.kind_of_endsWait hends)]
      exact hnow
  | finish hstate hevent =>
      exact told_enter_idle (d := c.taken rest) (hsettled (by rcases hevent with rfl | rfl <;> rfl))
  | completeChunks => exact told_enter_idle (d := c.taken rest) (hsettled rfl)
  | rejectChunks => exact told_enter_idle (d := (c.taken rest).withChunks []) (hsettled rfl)
  | breakChunks hstate =>
      have hbusy := hbusy _ hstate (by decide)
      rw [hstate] at hsuited
      have hnow : Told c.log (c.currentCmd = .cardDeduct) :=
        (decide_eq_false (hplain hsuited)).symm ▸ hchunked hsuited
      have hfailed := told_failure (c := c.taken rest) hbusy .rNotRespCmd (by decide)
        hnow
      exact told_enter_idle (d := Client.withChunks _ []) hfailed
  | @next chunk chunks hstate hchunks =>
      have hwaiting : c.currentState.phase = .waiting := by rw [hstate]; rfl
      rw [hstate] at hsuited
      have hnow : Told c.log (c.currentCmd = .cardDeduct) :=
        (decide_eq_false (hplain hsuited)).symm ▸ hchunked hsuited
      obtain ⟨hresting, hsorted, -⟩ := horderly.resume hwaiting hposted rfl
      have hresting : Resting ((c.taken rest).withChunks chunks).transmission := hresting
      obtain ⟨hcmd, hsettles⟩ := prepareAndWrite_cmd hresting chunk
      refine told_enter_sending (by decide) (hsettles.trans ?_) ?_
      · exact settles_eq_nil (c := c.taken rest) hsorted.content.2.2
      · have hnew := told_prepareAndWrite hresting chunk hnow
        exact (congrArg (fun cmd => decide (cmd = Cmd.cardDeduct)) hcmd).symm ▸ hnew
  | nextNone hstate =>
      have hwaiting : c.currentState.phase = .waiting := by rw [hstate]; rfl
      rw [hstate] at hsuited
      have hnow : Told c.log (c.currentCmd = .cardDeduct) :=
        (decide_eq_false (hplain hsuited)).symm ▸ hchunked hsuited
      obtain ⟨-, hsorted, -⟩ := horderly.resume hwaiting hposted rfl
      refine told_enter_sending (by decide) ?_ hnow
      exact settles_eq_nil (c := c.taken rest) hsorted.content.2.2

theorem OneDeduction.step (hone : OneDeduction c) (horderly : Orderly c) (hcurrent : Current c)
    (hheard : Heard c c.currentState.phase) (hsettling : Settling c) {input : Input}
    (hregular : Regular c input) : OneDeduction (c.step input) := by
  rcases horderly.step_cases input with ⟨event, rest, rfl, hposted, hturn⟩ | hbetween
  · exact hone.turn horderly hcurrent hheard hsettling hposted hregular hturn
  · obtain ⟨newer, hlog, hwires⟩ := hbetween.log
    have hsame : (c.step input).deducting = c.deducting := by
      simp only [deducting, hbetween.state, hbetween.cmd, hbetween.settles]
    have htold : Told c.log c.deducting := hone
    rw [OneDeduction, hsame, hlog]
    exact htold.wires hwires

/-- In the runs without a result that has no status and without a time-out behind a response, every
deduction raises one event, and a success is raised for a response to it only. -/
theorem oneDeduction_of_regular (evp : Evp) (epochSeconds : UInt32) (inputs : List Input)
    (hregular : Meets step Regular (init evp epochSeconds) inputs) :
    OneDeduction (run step (init evp epochSeconds) inputs) := by
  have hstep : ∀ (c : Client) (input : Input),
      (Orderly c ∧ Current c) ∧ (Heard c c.currentState.phase ∧ Settling c) ∧ OneDeduction c →
      Regular c input → (Orderly (c.step input) ∧ Current (c.step input)) ∧
        (Heard (c.step input) (c.step input).currentState.phase ∧ Settling (c.step input)) ∧
        OneDeduction (c.step input) := by
    rintro c input ⟨⟨horderly, hcurrent⟩, ⟨hheard, hsettling⟩, hone⟩ hregular
    exact ⟨⟨horderly.step hregular.1, hcurrent.step horderly input⟩,
      ⟨hheard.step horderly input, hsettling.step horderly input⟩,
      hone.step horderly hcurrent hheard hsettling hregular⟩
  refine (run_invariant hstep ⟨⟨orderly_init evp epochSeconds, current_init evp epochSeconds⟩,
    ⟨heard_init evp epochSeconds, settling_init evp epochSeconds⟩, ?_⟩ hregular).2.2
  rw [init_eq]
  exact ⟨rfl, trivial⟩

/-- The write of the first command fails; a deduction is taken up and its frame written. -/
def deductionSent : List Input :=
  runs 1 ++ .writeDone false :: runs 3 ++ .send (.cardDeduct 500) :: runs 2 ++
    .writeDone true :: runs 2

/-- The response to a deduction with a result byte and nothing else. -/
def deductionResponse (result : UInt8) : List UInt8 := (packetOf true 0x22 [result]).serialize

theorem oneDeduction_success :
    ((run step (init plainEvp 0) (deductionSent ++ .readDone (deductionResponse 0x00) ::
        runs 2)).log.head? =
      some (.event .cardDeduct .sGetDeductSuccess (some ⟨[0x00], 2⟩))) ∧
    OneDeduction (run step (init plainEvp 0)
      (deductionSent ++ .readDone (deductionResponse 0x00) :: runs 2)) :=
  ⟨by decide +kernel, oneDeduction_of_regular plainEvp 0 _ (by decide +kernel)⟩

/-- The response names a result without a status, or the response timer runs out while the
response is queued. -/
theorem not_oneDeduction :
    ¬ OneDeduction (run step (init plainEvp 0)
      (deductionSent ++ .readDone (deductionResponse 0x1E) :: runs 2)) ∧
    ¬ OneDeduction (run step (init plainEvp 0)
      (deductionSent ++ .readDone (deductionResponse 0x00) :: .expire .rsp :: runs 4)) := by
  constructor
  · intro hone
    have hopen : deductOpen (run step (init plainEvp 0)
        (deductionSent ++ .readDone (deductionResponse 0x1E) :: runs 2)).log = some true ∧
        (run step (init plainEvp 0) (deductionSent ++ .readDone (deductionResponse 0x1E) ::
          runs 2)).deducting = false := by
      decide +kernel
    have htold := hone.1
    rw [hopen.1, hopen.2] at htold
    exact absurd htold (by decide)
  · intro hone
    have hopen : deductOpen (run step (init plainEvp 0) (deductionSent ++
        .readDone (deductionResponse 0x00) :: .expire .rsp :: runs 4)).log = none := by
      decide +kernel
    have htold := hone.1
    rw [hopen] at htold
    exact absurd htold (by simp)

end Client

end LinuxPBS.Lcsc

import LinuxPBS.Upt.WireSound

/-!
# The sequence numbers of the requests

`prepareCmd` gives a request the number after `sequenceNo_`, and a sequence reset the
number `0xFFFFFFFF`; the number after that is `1`.  So that no other request gets
`0xFFFFFFFF`, `enqueueCommandOnIoThread` puts a reset in front of the queue when
`sequenceNo_` is `0xFFFFFFFE`.  But it looks at the number when a command is
*enqueued*, and the number changes when one is *dequeued*.

A command therefore gets `0xFFFFFFFF` if it was already in the queue, or if it is put
in front of the reset, as the cancel command is.  `numbersRight_iff`: in every run this
is the only way for a number to be wrong.
-/

namespace LinuxPBS.Upt

open Machine Bytes

/-! ## The numbers of the requests -/

/-- The bytes of `msgSequence` in a stuffed frame. -/
def TxFrame.msgSequence (frame : TxFrame) : ℕ :=
  ofLeBytes (((fnRemoveDataTransparency frame.bytes).2.drop 18).take 4)

/-- A request: its command and the sequence number it carries. -/
structure Request where
  cmd : UptCmd
  msgSequence : ℕ
  deriving DecidableEq, Repr

/-- A request for a sequence reset. -/
def Request.IsReset (request : Request) : Prop := request.cmd = .deviceResetSequenceNumberRequest

instance (request : Request) : Decidable request.IsReset := inferInstanceAs (Decidable (_ = _))

/-- The request of a log entry. -/
def requestOf : Outcome → Option Request
  | .dequeued cmd frame => some ⟨cmd, frame.msgSequence⟩
  | _ => none

/-- The requests of a log, the newest first. -/
def requests (log : List Outcome) : List Request := log.filterMap requestOf

/-- The number after a request: one more, and `1` after a reset. -/
def Request.next (previous : Request) : ℕ :=
  if previous.IsReset then 1 else previous.msgSequence + 1

/-- A request carries the number after the one before it, unless it is a reset. -/
def Request.Succeeds (request previous : Request) : Prop :=
  ¬request.IsReset → request.msgSequence = previous.next

/-- The requests down to the last reset. -/
def sinceReset : List Request → List Request
  | [] => []
  | request :: rest => if request.IsReset then [request] else request :: sinceReset rest

/-- The numbers of the requests are as they should be. -/
structure NumbersRight (requests : List Request) : Prop where
  consecutive : requests.IsChain Request.Succeeds
  reserved : ∀ request ∈ requests, request.msgSequence = 0xFFFFFFFF → request.IsReset
  distinct : ((sinceReset requests).map Request.msgSequence).Nodup

/-! ## The number in the bytes of a frame -/

@[simp] theorem commandMessage_msgSequence (msg : Message) (clock : Clock) (cmd : UptCmd)
    (payloadData : Option CommandData) :
    (commandMessage msg clock cmd payloadData).header.msgSequence = msg.header.msgSequence := by
  cases cmd <;> rfl

theorem completeMsg_msgSequence (msg : Message) :
    (msg.completeMsg.drop 18).take 4 = leBytes 4 msg.header.msgSequence.toNat := by
  unfold Message.completeMsg Message.getHeaderMsgVector MessageHeader.toByteArray
  simp only [List.append_assoc]
  -- the length, the checksum, the version, the direction and the time come first
  rw [show 18 = 4 + (4 + (1 + (1 + 8))) from rfl, ← List.drop_drop, ← List.drop_drop,
    ← List.drop_drop, ← List.drop_drop, List.drop_left' (length_leBytes _ _),
    List.drop_left' (length_leBytes _ _), List.drop_left' (length_leBytes _ _),
    List.drop_left' (length_leBytes _ _), List.drop_left' (length_leBytes _ _),
    List.take_left' (length_leBytes _ _)]

/-- The frame of `prepareCmd` carries the number that `prepareCmd` leaves in `sequenceNo_`. -/
theorem prepareCmd_msgSequence (number : ℕ) (clock : Clock) (sequenceNo : UInt32) (cmd : UptCmd)
    (payloadData : Option CommandData) :
    TxFrame.msgSequence ⟨number, (prepareCmd clock sequenceNo cmd payloadData).1⟩ =
      (nextSequenceNo sequenceNo cmd).toNat := by
  have hlt := (nextSequenceNo sequenceNo cmd).toNat_lt
  unfold TxFrame.msgSequence prepareCmd
  dsimp only
  rw [fnRemove_fnAddDataTransparency, completeMsg_msgSequence, prepareMsg,
    commandMessage_msgSequence]
  exact ofLeBytes_leBytes_of_lt hlt

/-! ## What a step does to the numbers -/

namespace Client

variable {c : Client}

/-- What can be seen of the numbers. -/
def numbering (c : Client) : UInt32 × List Request := (c.sequenceNo, requests c.log)

@[simp] theorem post_numbering (c : Client) (handler : Handler) :
    (c.post handler).numbering = c.numbering := rfl

@[simp] theorem processEvent_numbering (c : Client) (event : Event) :
    (c.processEvent event).numbering = c.numbering := rfl

@[simp] theorem enqueueCommand_numbering (c : Client) (cmd : UptCmd) (data : Option CommandData) :
    (c.enqueueCommand cmd data).numbering = c.numbering := rfl

theorem note_numbering (c : Client) {outcome : Outcome} (hnone : requestOf outcome = none) :
    (c.note outcome).numbering = c.numbering := by
  unfold note numbering requests
  rw [List.filterMap_cons_none hnone]

theorem ite_numbering {p : Prop} [Decidable p] {d e : Client} (hd : d.numbering = c.numbering)
    (he : e.numbering = c.numbering) : (if p then d else e).numbering = c.numbering := by
  split
  · exact hd
  · exact he

@[simp] theorem cancel_numbering (c : Client) (timer : Timer) :
    (c.cancel timer).numbering = c.numbering := ite_numbering rfl rfl

@[simp] theorem start_numbering (c : Client) (timer : Timer) :
    (c.start timer).numbering = c.numbering := cancel_numbering c timer

@[simp] theorem startWrite_numbering (c : Client) : c.startWrite.numbering = c.numbering := by
  unfold startWrite
  split
  · rfl
  · exact ite_numbering (start_numbering _ _) (note_numbering _ rfl)

@[simp] theorem enqueueWrite_numbering (c : Client) (data : TxFrame) :
    (c.enqueueWrite data).numbering = c.numbering :=
  ite_numbering rfl (ite_numbering (startWrite_numbering _) rfl)

@[simp] theorem writeEnd_numbering (c : Client) (error : WriteError) :
    (c.writeEnd error).numbering = c.numbering :=
  ite_numbering rfl (ite_numbering rfl rfl)

@[simp] theorem stopSerialWriteDelayTimer_numbering (c : Client) :
    c.stopSerialWriteDelayTimer.numbering = c.numbering :=
  ite_numbering rfl (cancel_numbering c .serialWriteDelay)

@[simp] theorem cancelPort_numbering (c : Client) : c.cancelPort.numbering = c.numbering :=
  have hread : (if c.reading then { c with reading := false }.post .readFailed else c).numbering =
      c.numbering := ite_numbering rfl rfl
  ite_numbering hread hread

@[simp] theorem checkCommandQueue_numbering (c : Client) :
    c.checkCommandQueue.numbering = c.numbering :=
  ite_numbering rfl (ite_numbering rfl rfl)

@[simp] theorem enqueueCommandOnIoThread_numbering (c : Client) (cmd : UptCmd)
    (data : Option CommandData) (front : Bool) :
    (c.enqueueCommandOnIoThread cmd data front).numbering = c.numbering :=
  checkCommandQueue_numbering _

@[simp] theorem handleCmdErrorOrTimeout_numbering (c : Client) (msgStatus : MsgStatus) :
    (c.handleCmdErrorOrTimeout msgStatus).numbering = c.numbering :=
  ite_numbering (note_numbering _ rfl) rfl

@[simp] theorem handleSerialWriteTimeout_numbering (c : Client) :
    c.handleSerialWriteTimeout.numbering = c.numbering :=
  ite_numbering rfl (cancelPort_numbering _)

@[simp] theorem runExpired_numbering (c : Client) (timer : Timer) :
    (c.runExpired timer).numbering = c.numbering := by
  cases timer with
  | serialWriteDelay => exact startWrite_numbering _
  | serialWrite => exact handleSerialWriteTimeout_numbering c
  | _ => rfl

@[simp] theorem handleReceivedCmd_numbering (c : Client) (msgDataBuff : List UInt8) :
    (c.handleReceivedCmd msgDataBuff).numbering = c.numbering := by
  unfold handleReceivedCmd
  split
  · rfl
  · next msg _ =>
      have hack : (c.handleAck msg).numbering = c.numbering :=
        ite_numbering (cancel_numbering c .ack) (cancel_numbering c .ack)
      have hrsp : (c.handleRsp msg).numbering = c.numbering := by
        unfold handleRsp handleCmdResponse
        rw [processEvent_numbering, cancel_numbering]
        split
        · exact note_numbering _ rfl
        · rfl
      have hclass := ite_numbering (p := msg.header.msgClass = msgClassAck) hack
        (ite_numbering (p := msg.header.msgClass = msgClassRsp) hrsp rfl)
      dsimp only
      have hreset := ite_numbering (p := msg.header.msgStatus = msgStatusInvalidParameter)
        (d := Client.enqueueCommand _ .deviceResetSequenceNumberRequest none) hclass hclass
      exact ite_numbering hreset hreset

@[simp] theorem readEnd_numbering (c : Client) (data : List UInt8) :
    (c.readEnd data).numbering = c.numbering := by
  have hframes (frames : List (List UInt8)) (d : Client) :
      (d.handleFrames frames).numbering = d.numbering := by
    induction frames generalizing d with
    | nil => rfl
    | cons frame rest ih => exact (ih _).trans (handleReceivedCmd_numbering d frame)
  exact hframes _ _

@[simp] theorem enter_numbering (c : Client) (next : State) :
    (c.enter next).numbering = c.numbering :=
  ite_numbering rfl rfl

/-- The numbers after a command has been dequeued. -/
def numbered (c : Client) (cmd : UptCmd) : UInt32 × List Request :=
  (nextSequenceNo c.sequenceNo cmd,
    ⟨cmd, (nextSequenceNo c.sequenceNo cmd).toNat⟩ :: requests c.log)

/-- The command that a step dequeues. -/
def dequeuedCmd (c : Client) (input : Input) : Option UptCmd :=
  match input, c.posted with
  | .run, .event .commandEnqueued :: _ =>
      if c.currentState = .idle then c.commandQueue.head?.map CommandWithData.cmd else none
  | _, _ => none

theorem popFromCommandQueueAndEnqueueWrite_numbering (c : Client) :
    c.popFromCommandQueueAndEnqueueWrite.numbering =
      match c.commandQueue.head?.map CommandWithData.cmd with
      | none => c.numbering
      | some cmd => c.numbered cmd := by
  unfold popFromCommandQueueAndEnqueueWrite
  split
  · next hqueue =>
      rw [hqueue]
      rfl
  · next cmdData rest hqueue =>
      rw [hqueue]
      dsimp only [List.head?_cons, Option.map_some]
      rw [enqueueWrite_numbering]
      unfold numbering numbered note requests
      dsimp only
      rw [List.filterMap_cons]
      dsimp only [requestOf]
      rw [prepareCmd_msgSequence]
      rfl

theorem eventHandler_numbering {event : Event}
    (hother : c.currentState ≠ .idle ∨ event ≠ .commandEnqueued) :
    (c.eventHandler event).numbering = c.numbering := by
  unfold eventHandler
  cases hstate : c.currentState with
  | idle =>
      have hevent : event ≠ .commandEnqueued := hother.resolve_left fun h => h hstate
      dsimp only
      unfold handleIdleState
      rw [if_neg hevent]
      exact ite_numbering rfl rfl
  | sendingRequestAsync =>
      refine ite_numbering ?_ (ite_numbering ?_ (ite_numbering rfl (ite_numbering ?_ rfl)))
      · simp
      · simp
      · simp
  | waitingForAck =>
      refine ite_numbering ?_ (ite_numbering ?_ (ite_numbering rfl rfl))
      · simp
      · simp
  | waitingForResponse =>
      refine ite_numbering rfl (ite_numbering ?_ (ite_numbering rfl rfl))
      simp
  | cancelCommandRequest =>
      refine ite_numbering ?_ rfl
      simp

theorem runEvent_numbering {event : Event}
    (hother : c.currentState ≠ .idle ∨ event ≠ .commandEnqueued) :
    (c.runEvent event).numbering = c.numbering := by
  unfold runEvent
  split
  · rfl
  · rw [enter_numbering, eventHandler_numbering hother]

theorem runEvent_command_numbering (hidle : c.currentState = .idle) :
    (c.runEvent .commandEnqueued).numbering =
      match c.commandQueue.head?.map CommandWithData.cmd with
      | none => c.numbering
      | some cmd => c.numbered cmd := by
  unfold runEvent eventHandler
  rw [hidle]
  dsimp only [stateTransitionTable]
  rw [enter_numbering]
  exact (start_numbering _ _).trans (popFromCommandQueueAndEnqueueWrite_numbering c)

/-- The numbers change when a command is dequeued, and at no other step. -/
theorem step_numbering (c : Client) (input : Input) :
    (c.step input).numbering =
      match c.dequeuedCmd input with
      | none => c.numbering
      | some cmd => c.numbered cmd := by
  cases input with
  | run =>
      unfold step dequeuedCmd
      cases hposted : c.posted with
      | nil => rfl
      | cons handler rest =>
          dsimp only
          cases handler with
          | event event =>
              cases event with
              | commandEnqueued =>
                  by_cases hidle : c.currentState = .idle
                  · rw [if_pos hidle]
                    exact @runEvent_command_numbering { c with posted := rest } hidle
                  · rw [if_neg hidle]
                    exact @runEvent_numbering { c with posted := rest } _ (.inl hidle)
              | _ => exact @runEvent_numbering { c with posted := rest } _ (.inr (by decide))
          | checkCommandQueue => exact checkCommandQueue_numbering _
          | enqueueCommandOnIoThread cmd data front =>
              exact enqueueCommandOnIoThread_numbering _ cmd data front
          | expired timer => exact runExpired_numbering _ timer
          | writeEnd error => exact writeEnd_numbering _ error
          | readEnd data => exact readEnd_numbering _ data
          | delayAborted => rfl
          | readFailed => rfl
  | expire timer => exact ite_numbering rfl rfl
  | writeDone success =>
      unfold step
      dsimp only
      split
      · rfl
      · next frame _ =>
          have hwritten := @note_numbering { c with writing := none } (.written frame) rfl
          exact ite_numbering hwritten rfl
  | readDone data => exact ite_numbering rfl rfl
  | readFailed => exact ite_numbering rfl rfl
  | enqueue cmd data => rfl
  | cancelCommand => rfl
  | clock clock => rfl
  | elapse milliseconds => rfl

/-! ## Runs -/

/-- What holds in every run: `sequenceNo_` is the last number, and resets carry `0xFFFFFFFF`. -/
structure Chained (c : Client) : Prop where
  last : ∀ request ∈ (requests c.log).head?, request.msgSequence = c.sequenceNo.toNat
  resets : ∀ request ∈ requests c.log, request.IsReset → request.msgSequence = 0xFFFFFFFF

theorem chained_init (clock : Clock) : Chained (init clock) :=
  ⟨by rintro request ⟨⟩, by rintro request ⟨⟩⟩

theorem Chained.step (hchained : Chained c) (input : Input) : Chained (c.step input) := by
  have hstep := step_numbering c input
  cases hcmd : c.dequeuedCmd input with
  | none =>
      rw [hcmd] at hstep
      obtain ⟨hnumber, hrequests⟩ := Prod.mk.inj hstep
      exact ⟨by rw [hnumber, hrequests]; exact hchained.last,
        by rw [hrequests]; exact hchained.resets⟩
  | some cmd =>
      rw [hcmd] at hstep
      obtain ⟨hnumber, hrequests⟩ := Prod.mk.inj hstep
      constructor
      · rw [hnumber, hrequests]
        rintro request hhead
        cases hhead
        rfl
      · rw [hrequests]
        intro request hmem hreset
        rcases List.mem_cons.mp hmem with rfl | hold
        · have hcmd : cmd = .deviceResetSequenceNumberRequest := hreset
          rw [hcmd]
          rfl
        · exact hchained.resets request hold hreset

end Client

/-- The requests since a reset are behind the newest one; the number of the reset counts as zero. -/
theorem next_le_of_mem_sinceReset {request : Request} {rest : List Request}
    (hchain : (request :: rest).IsChain Request.Succeeds) :
    ∀ earlier ∈ sinceReset (request :: rest), earlier.next ≤ request.next := by
  induction rest generalizing request with
  | nil =>
      intro earlier hearlier
      have : earlier = request := by simpa [sinceReset] using hearlier
      rw [this]
  | cons previous rest ih =>
      obtain ⟨hsucceeds, hrest⟩ := List.isChain_cons_cons.mp hchain
      intro earlier hearlier
      rw [sinceReset] at hearlier
      split_ifs at hearlier with hreset
      · rw [List.mem_singleton.mp hearlier]
      · rcases List.mem_cons.mp hearlier with rfl | hearlier
        · exact le_rfl
        · have hle := ih hrest earlier hearlier
          have hnext : request.next = request.msgSequence + 1 := if_neg hreset
          rw [← hsucceeds hreset] at hle
          omega

theorem mem_of_mem_sinceReset {requests : List Request} :
    ∀ request ∈ sinceReset requests, request ∈ requests := by
  induction requests with
  | nil => exact fun request hmem => hmem
  | cons first rest ih =>
      intro request hmem
      rw [sinceReset] at hmem
      split_ifs at hmem
      · rw [List.mem_singleton.mp hmem]
        exact List.mem_cons_self
      · rcases List.mem_cons.mp hmem with rfl | hmem
        · exact List.mem_cons_self
        · exact List.mem_cons_of_mem _ (ih request hmem)

/-- Consecutive numbers are different, as long as only resets carry `0xFFFFFFFF`. -/
theorem nodup_sinceReset {requests : List Request}
    (hchain : requests.IsChain Request.Succeeds)
    (hreserved : ∀ request ∈ requests, request.msgSequence = 0xFFFFFFFF ↔ request.IsReset) :
    ((sinceReset requests).map Request.msgSequence).Nodup := by
  induction requests with
  | nil => exact List.nodup_nil
  | cons request rest ih =>
      rw [sinceReset]
      split_ifs with hreset
      · exact List.nodup_singleton _
      · have hrest := ih hchain.tail fun earlier hearlier =>
          hreserved earlier (List.mem_cons_of_mem _ hearlier)
        rw [List.map_cons, List.nodup_cons]
        refine ⟨?_, hrest⟩
        intro hmem
        obtain ⟨earlier, hearlier, heq⟩ := List.mem_map.mp hmem
        have hmine := hreserved request List.mem_cons_self
        have hearlierReserved := hreserved earlier
          (List.mem_cons_of_mem _ (mem_of_mem_sinceReset earlier hearlier))
        cases rest with
        | nil => cases hearlier
        | cons previous rest =>
            obtain ⟨hsucceeds, hchain⟩ := List.isChain_cons_cons.mp hchain
            have hle := next_le_of_mem_sinceReset hchain earlier hearlier
            rw [← hsucceeds hreset, ← heq] at hle
            by_cases hearlierReset : earlier.IsReset
            · exact hreset (hmine.mp (heq ▸ hearlierReserved.mpr hearlierReset))
            · rw [Request.next, if_neg hearlierReset] at hle
              omega

theorem Client.Chained.numbersRight_requests_iff {c : Client} (hchained : c.Chained) :
    NumbersRight (requests c.log) ↔ (requests c.log).IsChain Request.Succeeds ∧
      ∀ request ∈ requests c.log, request.msgSequence = 0xFFFFFFFF → request.IsReset := by
  constructor
  · intro hright
    exact ⟨hright.consecutive, hright.reserved⟩
  · rintro ⟨hchain, hreserved⟩
    refine ⟨hchain, hreserved, nodup_sinceReset hchain fun request hmem => ?_⟩
    exact ⟨hreserved request hmem, hchained.resets request hmem⟩

namespace Client

variable {c : Client}

/-- Only a reset is dequeued when the next number is `0xFFFFFFFF`. -/
def InTime (c : Client) (input : Input) : Prop :=
  ∀ cmd ∈ c.dequeuedCmd input,
    c.sequenceNo = 0xFFFFFFFE → cmd = .deviceResetSequenceNumberRequest

theorem toNat_nextSequenceNo (sequenceNo : UInt32) {cmd : UptCmd}
    (hcmd : cmd ≠ .deviceResetSequenceNumberRequest) :
    (nextSequenceNo sequenceNo cmd).toNat =
      if sequenceNo.toNat = 0xFFFFFFFF then 1 else sequenceNo.toNat + 1 := by
  have hmax : sequenceNo = 0xFFFFFFFF ↔ sequenceNo.toNat = 0xFFFFFFFF := UInt32.toNat_inj.symm
  have hlt := sequenceNo.toNat_lt
  unfold nextSequenceNo incrementSequenceNo
  rw [if_neg hcmd]
  by_cases hwraps : sequenceNo = 0xFFFFFFFF
  · rw [if_pos hwraps, if_pos (hmax.mp hwraps)]
    rfl
  · have hne : ¬sequenceNo.toNat = 0xFFFFFFFF := fun h => hwraps (hmax.mpr h)
    rw [if_neg hwraps, if_neg hne, UInt32.toNat_add]
    change (sequenceNo.toNat + 1) % 2 ^ 32 = sequenceNo.toNat + 1
    omega

/-- A step keeps the numbers right exactly if it dequeues nothing but a reset at the limit. -/
theorem Chained.numbersRight_step (hchained : Chained c) (input : Input) :
    NumbersRight (requests (c.step input).log) ↔
      NumbersRight (requests c.log) ∧ c.InTime input := by
  rw [(hchained.step input).numbersRight_requests_iff, hchained.numbersRight_requests_iff]
  have hstep := step_numbering c input
  unfold InTime
  cases hcmd : c.dequeuedCmd input with
  | none =>
      rw [hcmd] at hstep
      obtain ⟨-, hrequests⟩ := Prod.mk.inj hstep
      rw [hrequests]
      exact (and_iff_left fun cmd hnone => absurd hnone (by simp)).symm
  | some cmd =>
      rw [hcmd] at hstep
      obtain ⟨-, hrequests⟩ := Prod.mk.inj hstep
      rw [hrequests, List.forall_mem_cons, List.isChain_cons]
      by_cases hreset : cmd = .deviceResetSequenceNumberRequest
      · have hsucceeds : ∀ previous ∈ (requests c.log).head?, Request.Succeeds
            ⟨cmd, (nextSequenceNo c.sequenceNo cmd).toNat⟩ previous :=
          fun previous _ hnot => absurd hreset hnot
        constructor
        · rintro ⟨⟨-, hchain⟩, -, hreserved⟩
          exact ⟨⟨hchain, hreserved⟩, fun cmd' hcmd' _ => (Option.some.inj hcmd').symm.trans hreset⟩
        · rintro ⟨⟨hchain, hreserved⟩, -⟩
          exact ⟨⟨hsucceeds, hchain⟩, fun _ => hreset, hreserved⟩
      · have hnumber := toNat_nextSequenceNo c.sequenceNo hreset
        have hlimit : c.sequenceNo = 0xFFFFFFFE ↔ c.sequenceNo.toNat = 0xFFFFFFFE :=
          UInt32.toNat_inj.symm
        constructor
        · rintro ⟨⟨-, hchain⟩, hnew, hreserved⟩
          refine ⟨⟨hchain, hreserved⟩, fun cmd' hcmd' hatLimit => ?_⟩
          refine absurd (hnew ?_) hreset
          rw [hnumber, hlimit.mp hatLimit]
          rfl
        · rintro ⟨⟨hchain, hreserved⟩, hinTime⟩
          have hbelow : c.sequenceNo.toNat ≠ 0xFFFFFFFE := fun h =>
            hreset (hinTime cmd rfl (hlimit.mpr h))
          refine ⟨⟨fun previous hprevious _ => ?_, hchain⟩, fun hmax => ?_, hreserved⟩
          · have hlast := hchained.last previous hprevious
            have hmem := List.mem_of_mem_head? hprevious
            unfold Request.next
            by_cases hprev : previous.IsReset
            · rw [if_pos hprev]
              rw [← hlast, hchained.resets previous hmem hprev] at hnumber
              exact hnumber
            · have hne : c.sequenceNo.toNat ≠ 0xFFFFFFFF := fun h =>
                hprev (hreserved previous hmem (hlast.trans h))
              rw [if_neg hprev, hlast]
              rw [if_neg hne] at hnumber
              exact hnumber
          · dsimp only at hmax
            rw [hnumber] at hmax
            split_ifs at hmax
            · omega
            · omega

/-- **Sequence numbers.**  The numbers of a run are right exactly if every command dequeued at
`0xFFFFFFFE` is a reset. -/
theorem numbersRight_iff (clock : Clock) (inputs : List Input) :
    NumbersRight (requests (run step (init clock) inputs).log) ↔
      Meets step InTime (init clock) inputs := by
  have hright : NumbersRight (requests (init clock).log) :=
    ⟨List.IsChain.nil, by rintro request ⟨⟩, List.nodup_nil⟩
  have hiff := @run_iff_of_keeps _ _ step InTime Chained (fun c => NumbersRight (requests c.log))
    (fun _ input hchained => hchained.step input)
    (fun _ input hchained => hchained.numbersRight_step input) _ (chained_init clock) inputs
  exact hiff.trans (and_iff_right hright)

/-! ### A run to the limit -/

/-- The client has nothing to do, and the line is silent. -/
structure Ready (c : Client) (sequenceNo : UInt32) : Prop where
  state : c.currentState = .idle
  posted : c.posted = []
  commands : c.commandQueue = []
  frames : c.writeQueue = []
  free : c.writeInProgress = false
  inTime : c.writeTimedOut = false
  quiet : ¬c.now - c.lastSerialReadTime < serialWriteGap
  sequenceNo : c.sequenceNo = sequenceNo

/-- A status request that is written and never answered. -/
def unanswered : List Input :=
  [.enqueue .deviceStatusRequest none, .run, .run, .writeDone true, .run, .run, .expire .ack, .run,
    .run, .run]

theorem prepareCmd_ne_nil (clock : Clock) (sequenceNo : UInt32) (cmd : UptCmd)
    (payloadData : Option CommandData) : (prepareCmd clock sequenceNo cmd payloadData).1 ≠ [] := by
  simp [prepareCmd, fnAddDataTransparency]

theorem prepareCmd_sequenceNo (clock : Clock) (sequenceNo : UInt32) (cmd : UptCmd)
    (payloadData : Option CommandData) :
    (prepareCmd clock sequenceNo cmd payloadData).2 = nextSequenceNo sequenceNo cmd := rfl

/-- It uses up one number. -/
theorem Ready.unanswered {sequenceNo : UInt32} (hready : c.Ready sequenceNo)
    (hlimit : sequenceNo + 1 ≠ 0xFFFFFFFF) :
    (run step c unanswered).Ready (nextSequenceNo sequenceNo .deviceStatusRequest) := by
  obtain ⟨hstate, hposted, hcommands, hframes, hfree, hinTime, hquiet, rfl⟩ := hready
  unfold Client.unanswered
  simp only [run_cons, run_nil]
  constructor <;>
    simp [step, post, enqueueCommand, runHandler, enqueueCommandOnIoThread, checkCommandQueue,
      processEvent, hstate, hposted, hcommands, hframes, hfree, hinTime, hquiet, hlimit, runEvent,
      stateTransitionTable, eventHandler, handleIdleState, popFromCommandQueueAndEnqueueWrite,
      prepareCmd_ne_nil, prepareCmd_sequenceNo, enqueueWrite, startWrite, note, start, cancel,
      enter, writeEnd, handleSendingRequestAsyncState, handleWaitingForAckState, runExpired,
      handleCmdErrorOrTimeout, raisesFailure]

/-- Any number up to `0xFFFFFFFE` is reached. -/
theorem Ready.unanswered_iterate (hready : c.Ready 1) (count : ℕ) (hcount : count < 0xFFFFFFFE) :
    (run step c (List.replicate count Client.unanswered).flatten).Ready (.ofNat (count + 1)) := by
  induction count with
  | zero => exact hready
  | succ count ih =>
      have hnumber : (UInt32.ofNat (count + 1)).toNat = count + 1 := by
        rw [UInt32.toNat_ofNat']
        omega
      have hlimit : UInt32.ofNat (count + 1) + 1 ≠ 0xFFFFFFFF := by
        intro heq
        have hlast := congrArg UInt32.toNat heq
        rw [UInt32.toNat_add, hnumber] at hlast
        change (count + 1 + 1) % 2 ^ 32 = 0xFFFFFFFF at hlast
        omega
      have hnext : nextSequenceNo (.ofNat (count + 1)) .deviceStatusRequest =
          .ofNat (count + 1 + 1) := by
        rw [← UInt32.toNat_inj, toNat_nextSequenceNo _ (by decide), hnumber, if_neg (by omega),
          UInt32.toNat_ofNat']
        omega
      rw [List.replicate_succ', List.flatten_append, run_append, List.flatten_singleton, ← hnext]
      exact (ih (by omega)).unanswered hlimit

/-- At `0xFFFFFFFE` the cancel command goes in front of the reset. -/
theorem Ready.cancelCommand (hready : c.Ready 0xFFFFFFFE) :
    let d := run step c (.cancelCommand :: runs 3)
    d.dequeuedCmd .run = some .cancelCommandRequest ∧ d.sequenceNo = 0xFFFFFFFE := by
  obtain ⟨hstate, hposted, hcommands, hframes, hfree, hinTime, hquiet, hnumber⟩ := hready
  simp [runs, List.replicate, run_cons, run_nil, step, post, runHandler, enqueueCommandOnIoThread,
    checkCommandQueue, processEvent, hstate, hposted, hcommands, hnumber, runEvent,
    stateTransitionTable, eventHandler, handleIdleState, enqueueCommandToFront, enter, dequeuedCmd]

/-- The two commands of the start, unanswered too. -/
def started : List Input :=
  firstCommand ++ .writeDone true :: runs 2 ++ .expire .ack :: runs 4 ++
    .writeDone true :: runs 2 ++ .expire .ack :: runs 3

theorem ready_started : (run step (init morning) started).Ready 1 := by
  constructor <;> decide +kernel

/-- The numbers are used up, and a cancel request arrives. -/
def cancelledAtLimit : List Input :=
  started ++ ((List.replicate 0xFFFFFFFD unanswered).flatten ++ .cancelCommand :: runs 3) ++ [.run]

/-- The cancel command carries `0xFFFFFFFF`. -/
theorem not_numbersRight :
    ¬∀ (clock : Clock) (inputs : List Input),
      NumbersRight (requests (run step (init clock) inputs).log) := by
  intro hall
  have hready := ready_started.unanswered_iterate 0xFFFFFFFD (by decide)
  obtain ⟨hcmd, hnumber⟩ := hready.cancelCommand
  have hright := hall morning cancelledAtLimit
  have hchained : Chained (run step (run step (run step (init morning) started)
      (List.replicate 0xFFFFFFFD unanswered).flatten) (.cancelCommand :: runs 3)) := by
    rw [← run_append, ← run_append]
    exact run_keeps (fun _ input hchained => hchained.step input) (chained_init morning) _
  unfold cancelledAtLimit at hright
  rw [run_append, run_append, run_append, run_cons, run_nil, hchained.numbersRight_step] at hright
  exact absurd (hright.2 _ hcmd hnumber) (by decide)

end Client

end LinuxPBS.Upt

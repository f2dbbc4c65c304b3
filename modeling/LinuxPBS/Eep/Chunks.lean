import Mathlib
import LinuxPBS.Eep.Client

/-!
# One read is taken for one frame

The read loop of `AppTcpClient` passes every chunk that `async_read_some` returns to
`handleReceivedData`, and `handleReceivedData` checks and parses the chunk as if it
were one frame.  TCP promises no such thing: it may cut a frame in two or return two
frames at once.

`handled_iff_reads_eq_frames` is the exact condition: the messages of a sequence of
valid frames are handled, and nothing is answered with a NAK, if and only if every
read is one frame.  An accepted read has at least the bytes of the frame whose
message it is taken for (`le_length_of_accepted`), and together the reads have no
more bytes than the frames, so none of them can be longer and none can be left over.
-/

namespace LinuxPBS.Eep

/-- `kReceiveBufferSize` -/
def receiveBufferSize : ℕ := 2048

/-- The message of a read that passes the checks. -/
def accepted (config : ClientConfig) (data : List UInt8) : Option (MessageHeader × List UInt8) :=
  (receivedMessage config data).getLeft?

/-- A frame with a valid check code, for this station, of exactly the length it states. -/
def ValidFrame (config : ClientConfig) (frame : List UInt8) : Prop :=
  ∃ header body, accepted config frame = some (header, body) ∧
    frame.length = headerSize + header.dataLen.toNat + 4

/-- The two identifiers of the link, which nothing changes. -/
def Client.link (c : Client) : ℤ × ℤ := (c.config.eepSourceId, c.config.eepDestinationId)

/-! ## The identifiers along a run -/

namespace Client

@[simp] theorem link_post (c : Client) (handler : Handler) : (c.post handler).link = c.link := rfl

@[simp] theorem link_processEvent (c : Client) (event : Event) : (c.processEvent event).link = c.link :=
  rfl

@[simp] theorem link_note (c : Client) (outcome : Outcome) : (c.note outcome).link = c.link := rfl

@[simp] theorem link_start (c : Client) (timer : Timer) : (c.start timer).link = c.link := rfl

@[simp] theorem link_cancel (c : Client) (timer : Timer) : (c.cancel timer).link = c.link := rfl

@[simp] theorem link_enqueueCommand (c : Client) (type : CommandType) (priority : ℕ)
    (data : Option CommandData) : (c.enqueueCommand type priority data).link = c.link := rfl

@[simp] theorem link_expectedResponseSeqNo (c : Client) (expected : Option UInt16) :
    ({ c with expectedResponseSeqNo := expected } : Client).link = c.link := rfl

@[simp] theorem link_handleCommandErrorOrTimeout (c : Client) (cmd : Command) (status : MsgStatus) :
    (c.handleCommandErrorOrTimeout cmd status).link = c.link := by
  unfold handleCommandErrorOrTimeout
  split_ifs <;> rfl

@[simp] theorem link_clearCommandQueue (c : Client) : c.clearCommandQueue.link = c.link := by
  have hfold (queue : List Command) (start : Client) :
      (queue.foldl (fun c cmd => c.handleCommandErrorOrTimeout cmd .sendFailed) start).link =
        start.link := by
    induction queue generalizing start with
    | nil => rfl
    | cons cmd rest ih => rw [List.foldl_cons, ih, link_handleCommandErrorOrTimeout]
  exact hfold _ _

@[simp] theorem link_notifyConnectionState (c : Client) (connected : Bool) :
    (c.notifyConnectionState connected).link = c.link := by
  unfold notifyConnectionState
  split_ifs <;> rfl

@[simp] theorem link_dropConnection (c : Client) : c.dropConnection.link = c.link := by
  simp [dropConnection]

@[simp] theorem link_beginReconnect (c : Client) (failActiveRequest : Bool) :
    (c.beginReconnect failActiveRequest).link = c.link := by
  unfold beginReconnect
  extract_lets c₁ c₂
  have hlink : c₂.link = c.link := by simp only [c₂, c₁, link_expectedResponseSeqNo, link_cancel]
  split_ifs
  · rw [link_dropConnection, link_handleCommandErrorOrTimeout, hlink]
  · rw [link_dropConnection, hlink]

@[simp] theorem link_checkCommandQueue (c : Client) : c.checkCommandQueue.link = c.link := by
  unfold checkCommandQueue
  split_ifs <;> rfl

@[simp] theorem link_write (c : Client) (cmd : Command) : (c.write cmd).link = c.link := by
  unfold write
  dsimp only
  split_ifs <;> rfl

@[simp] theorem link_popFromCommandQueueAndEnqueueWrite (c : Client) :
    c.popFromCommandQueueAndEnqueueWrite.link = c.link := by
  unfold popFromCommandQueueAndEnqueueWrite
  split
  · rfl
  · dsimp only
    split_ifs <;> rw [link_write] <;> rfl

@[simp] theorem link_runEnqueueCommand (c : Client) (type : CommandType) (priority : ℕ)
    (data : Option CommandData) : (c.runEnqueueCommand type priority data).link = c.link := by
  unfold runEnqueueCommand
  dsimp only
  split_ifs
  · rw [link_handleCommandErrorOrTimeout]; rfl
  · rw [link_checkCommandQueue]; rfl

theorem link_runEvent (c : Client) (event : Event) : (c.runEvent event).link = c.link := by
  have hhandler : (c.eventHandler event).link = c.link := by
    unfold eventHandler
    split
    · rfl
    · unfold handleConnectingState
      split_ifs
      · simp [startWatchdogTimer, startHealthStatusTimer]
      · simp
      · rfl
    · unfold handleConnectedState
      split_ifs <;> simp
    · unfold handleWritingRequestState
      dsimp only
      split_ifs <;> simp
    · unfold handleWaitingForResponseState
      dsimp only
      split_ifs <;> simp
  unfold runEvent
  cases stateTransitionTable c.currentState event with
  | none => rfl
  | some next =>
      rw [← hhandler]
      unfold enter
      dsimp only
      split_ifs <;> rfl

@[simp] theorem link_handleParsedResponseMessage (c : Client) (header : MessageHeader)
    (body : List UInt8) : (c.handleParsedResponseMessage header body).link = c.link := by
  unfold handleParsedResponseMessage
  split_ifs <;> rfl

theorem link_handleResponse (c : Client) (header : MessageHeader) (body : List UInt8) :
    (c.handleResponse header body).link = c.link := by
  unfold handleResponse
  dsimp only
  split_ifs <;> simp

theorem link_handleNotification (c : Client) (header : MessageHeader) :
    (c.handleNotification header).link = c.link := by
  unfold handleNotification
  dsimp only
  split_ifs <;> rfl

theorem link_handleInvalidMessage (c : Client) (data : List UInt8) (reasonCode : UInt8) :
    (c.handleInvalidMessage data reasonCode).link = c.link := by
  unfold handleInvalidMessage
  split_ifs <;> rfl

/-- A response may bring a carpark identifier, never one of the link. -/
theorem link_handleReceivedData (c : Client) (data : List UInt8) :
    (c.handleReceivedData data).link = c.link := by
  unfold handleReceivedData
  split
  · exact link_handleInvalidMessage c data _
  · dsimp only
    split_ifs
    · rw [link_handleResponse]; rfl
    · rw [link_handleNotification]; rfl
    · rw [link_handleInvalidMessage]; rfl

theorem link_step (c : Client) (input : Input) : (c.step input).link = c.link := by
  cases input with
  | run =>
      cases hposted : c.posted with
      | nil => simp only [step, hposted]
      | cons handler rest =>
        have hrest : ({ c with posted := rest } : Client).link = c.link := rfl
        simp only [step, hposted]
        rw [← hrest]
        cases handler with
        | event event => exact link_runEvent _ event
        | checkCommandQueue => exact link_checkCommandQueue _
        | enqueueCommand type priority data => exact link_runEnqueueCommand _ type priority data
        | received data => exact link_handleReceivedData _ data
        | clientConnect => unfold runHandler clientConnect; split_ifs <;> rfl
        | clientSend message => unfold runHandler clientSend; split_ifs <;> rfl
        | expired timer => cases timer <;> rfl
        | _ => rfl
  | expire timer => simp only [step]; split_ifs <;> rfl
  | connectDone success => simp only [step]; split_ifs <;> rfl
  | writeDone success => simp only [step]; split_ifs <;> rfl
  | readDone data => simp only [step]; split_ifs <;> rfl
  | readFailed => simp only [step]; split_ifs <;> rfl
  | _ => rfl

end Client

/-- The message among the outcomes of a read. -/
def Outcome.message : Outcome → Option (MessageHeader × List UInt8)
  | .handled header body => some (header, body)
  | _ => none

instance (config : ClientConfig) (frame : List UInt8) : Decidable (ValidFrame config frame) :=
  decidable_of_iff
    (∃ message ∈ accepted config frame, frame.length = headerSize + message.1.dataLen.toNat + 4)
    ⟨fun ⟨(header, body), hmessage, hlength⟩ => ⟨header, body, hmessage, hlength⟩,
      fun ⟨header, body, hmessage, hlength⟩ => ⟨(header, body), hmessage, hlength⟩⟩

/-- What the handling of a read adds to the log, the oldest first. -/
def Client.outcomes (c : Client) (data : List UInt8) : List Outcome :=
  let log := (c.handleReceivedData data).log
  (log.take (log.length - c.log.length)).reverse

/-- The messages a read is handled as. -/
def Client.messagesHandled (c : Client) (data : List UInt8) : List (MessageHeader × List UInt8) :=
  (c.outcomes data).filterMap Outcome.message

/-- A NAK is sent for a read. -/
def Client.SendsNak (c : Client) (data : List UInt8) : Prop :=
  ∃ seqNo reqDataTypeCode reasonCode, Outcome.sentNak seqNo reqDataTypeCode reasonCode ∈ c.outcomes data

/-- The client knows the message in its state: a response to the current request, or one of the
notifications. -/
def Client.Knows (c : Client) (header : MessageHeader) (body : List UInt8) : Prop :=
  isResponseMatchedDataTypeCode c.currentCmdRequested header.dataTypeCode body = true ∨
    isNotificationReceived header.dataTypeCode = true

/-! ## A single read -/

theorem accepted_congr {config other : ClientConfig}
    (hsource : other.eepSourceId = config.eepSourceId)
    (hdestination : other.eepDestinationId = config.eepDestinationId) (data : List UInt8) :
    accepted other data = accepted config data := by
  unfold accepted receivedMessage ClientConfig.isValidSourceDestination
  rw [hsource, hdestination]

/-- A read that is accepted has at least the bytes its header states. -/
theorem le_length_of_accepted {config : ClientConfig} {data body : List UInt8}
    {header : MessageHeader} (haccepted : accepted config data = some (header, body)) :
    headerSize + header.dataLen.toNat + 4 ≤ data.length := by
  unfold accepted receivedMessage at haccepted
  split_ifs at haccepted with hsum
  · cases haccepted
  · have hfour : 4 ≤ data.length := by
      by_contra hshort
      exact hsum (by rw [isValidCheckSum, if_pos (by omega)]; rfl)
    have hwithout : (withoutCheckSum data).length = data.length - 4 := by
      rw [withoutCheckSum, List.length_take]
      omega
    cases hparse : parseMessage (withoutCheckSum data) with
    | none => rw [hparse] at haccepted; cases haccepted
    | some parsed =>
        obtain ⟨parsedHeader, parsedBody⟩ := parsed
        rw [hparse] at haccepted
        dsimp only at haccepted
        split_ifs at haccepted
        · obtain ⟨rfl, rfl⟩ := haccepted
          -- the parser has compared the length with what the header states
          unfold parseMessage at hparse
          cases hheader : MessageHeader.deserialize (withoutCheckSum data) with
          | none => rw [hheader] at hparse; cases hparse
          | some found =>
              rw [hheader] at hparse
              dsimp only [Option.bind_eq_bind, Option.bind_some] at hparse
              split_ifs at hparse with hlong
              obtain ⟨rfl, -⟩ := hparse
              omega
        · cases haccepted

/-! ## What a read adds to the log -/

theorem Client.outcomes_of_log {c : Client} {data : List UInt8} {new : List Outcome}
    (hlog : (c.handleReceivedData data).log = new ++ c.log) : c.outcomes data = new.reverse := by
  unfold outcomes
  dsimp only
  rw [hlog, List.length_append, Nat.add_sub_cancel, List.take_left' rfl]

theorem handleInvalidMessage_log (c : Client) (data : List UInt8) (reasonCode : UInt8) :
    (c.handleInvalidMessage data reasonCode).log =
      (if headerSize ≤ data.length then
        [Outcome.sentNak (readUint16 data 12) (data.getD 2 0) reasonCode] else []) ++ c.log := by
  unfold Client.handleInvalidMessage
  split_ifs <;> rfl

/-- A response adds its completion at most. -/
theorem handleResponse_log (c : Client) (header : MessageHeader) (body : List UInt8) :
    ∃ new, (c.handleResponse header body).log = new ++ c.log ∧
      ∀ outcome ∈ new, ∃ cmd, outcome = .acknowledged cmd ∨ outcome = .completed cmd := by
  have hparsed : (((c.cancel .ack).handleParsedResponseMessage header body)).log = c.log := by
    unfold Client.handleParsedResponseMessage
    split_ifs <;> rfl
  unfold Client.handleResponse
  dsimp only
  split_ifs
  · exact ⟨[], rfl, by simp⟩
  · exact ⟨[.acknowledged _], congrArg (_ :: ·) hparsed, by simp⟩
  · exact ⟨[.completed _], congrArg (_ :: ·) hparsed, by simp⟩

/-- A notification adds its acknowledgement, and the completion if the request was waiting for it. -/
theorem handleNotification_log (c : Client) (header : MessageHeader) :
    ∃ new, (c.handleNotification header).log = new ++ c.log ∧
      ∀ outcome ∈ new, (∃ cmd, outcome = .completed cmd) ∨
        outcome = .sentAck header.seqNo header.dataTypeCode := by
  unfold Client.handleNotification
  dsimp only
  split_ifs
  · exact ⟨[_, .completed _], rfl, by simp⟩
  · exact ⟨[_], rfl, by simp⟩

/-- A read that is rejected handles nothing and is answered with a NAK if it has a header. -/
theorem handled_of_accepted_eq_none {c : Client} {data : List UInt8}
    (hnone : accepted c.config data = none) :
    c.messagesHandled data = [] ∧ (c.SendsNak data ↔ headerSize ≤ data.length) := by
  obtain ⟨reasonCode, hreason⟩ : ∃ reasonCode, receivedMessage c.config data = .inr reasonCode := by
    cases hmessage : receivedMessage c.config data with
    | inl message => rw [accepted, hmessage] at hnone; cases hnone
    | inr reasonCode => exact ⟨reasonCode, rfl⟩
  have hdata : c.handleReceivedData data = c.handleInvalidMessage data reasonCode := by
    rw [Client.handleReceivedData, hreason]
  have houtcomes := Client.outcomes_of_log (hdata ▸ handleInvalidMessage_log c data reasonCode)
  unfold Client.messagesHandled Client.SendsNak
  rw [houtcomes]
  split_ifs with hlong <;> simp [hlong, Outcome.message]

/-- What is done with an accepted message. -/
theorem handleReceivedData_of_accepted {c : Client} {data body : List UInt8} {header : MessageHeader}
    (hsome : accepted c.config data = some (header, body)) :
    c.handleReceivedData data =
      if isResponseMatchedDataTypeCode c.currentCmdRequested header.dataTypeCode body then
        (c.note (.handled header body)).handleResponse header body
      else if isNotificationReceived header.dataTypeCode then
        (c.note (.handled header body)).handleNotification header
      else (c.note (.handled header body)).handleInvalidMessage data 0x01 := by
  cases hmessage : receivedMessage c.config data with
  | inr reasonCode => rw [accepted, hmessage] at hsome; cases hsome
  | inl message =>
      rw [accepted, hmessage] at hsome
      obtain rfl := Option.some.inj hsome
      rw [Client.handleReceivedData, hmessage]
      rfl

/-- A read that is accepted handles its message, and a NAK says that the client does not know it. -/
theorem handled_of_accepted_eq_some {c : Client} {data body : List UInt8} {header : MessageHeader}
    (hsome : accepted c.config data = some (header, body)) :
    c.messagesHandled data = [(header, body)] ∧ (c.SendsNak data ↔ ¬c.Knows header body) := by
  have hhandle := handleReceivedData_of_accepted hsome
  -- in every case the message is the first of what is added
  suffices ∃ new, (c.handleReceivedData data).log = new ++ (.handled header body :: c.log) ∧
      new.reverse.filterMap Outcome.message = [] ∧
      ((∃ seqNo code reason, .sentNak seqNo code reason ∈ new) ↔ ¬c.Knows header body) by
    obtain ⟨new, hlog, hnew, hnak⟩ := this
    have hall : (c.handleReceivedData data).log = (new ++ [.handled header body]) ++ c.log := by
      rw [hlog, List.append_assoc]
      rfl
    have houtcomes : c.outcomes data = .handled header body :: new.reverse := by
      rw [Client.outcomes_of_log hall, List.reverse_append]
      rfl
    constructor
    · have hhandled : c.messagesHandled data = (c.outcomes data).filterMap Outcome.message := rfl
      rw [hhandled, houtcomes, List.filterMap_cons, hnew]
      rfl
    · rw [← hnak]
      unfold Client.SendsNak
      rw [houtcomes]
      simp
  unfold Client.Knows
  by_cases hresponse :
      isResponseMatchedDataTypeCode c.currentCmdRequested header.dataTypeCode body = true
  · obtain ⟨new, hlog, hnew⟩ := handleResponse_log (c.note (.handled header body)) header body
    refine ⟨new, ?_, ?_, ?_⟩
    · rw [hhandle, if_pos hresponse, hlog]
      rfl
    · rw [List.filterMap_eq_nil_iff]
      intro outcome hmem
      obtain ⟨cmd, rfl | rfl⟩ := hnew outcome (List.mem_reverse.mp hmem) <;> rfl
    · refine iff_of_false ?_ (by simp [hresponse])
      rintro ⟨seqNo, code, reason, hmem⟩
      obtain ⟨cmd, h | h⟩ := hnew _ hmem <;> cases h
  · by_cases hnotification : isNotificationReceived header.dataTypeCode = true
    · obtain ⟨new, hlog, hnew⟩ := handleNotification_log (c.note (.handled header body)) header
      refine ⟨new, ?_, ?_, ?_⟩
      · rw [hhandle, if_neg hresponse, if_pos hnotification, hlog]
        rfl
      · rw [List.filterMap_eq_nil_iff]
        intro outcome hmem
        obtain ⟨cmd, rfl⟩ | rfl := hnew outcome (List.mem_reverse.mp hmem) <;> rfl
      · refine iff_of_false ?_ (by simp [hnotification])
        rintro ⟨seqNo, code, reason, hmem⟩
        obtain ⟨cmd, h⟩ | h := hnew _ hmem <;> cases h
    · -- the header is there, so the unknown message is answered
      have hlong : headerSize ≤ data.length := by
        have := le_length_of_accepted hsome
        omega
      refine ⟨[.sentNak (readUint16 data 12) (data.getD 2 0) 0x01], ?_, rfl, ?_⟩
      · rw [hhandle, if_neg hresponse, if_neg hnotification, handleInvalidMessage_log, if_pos hlong]
        rfl
      · exact iff_of_true ⟨_, _, _, List.mem_singleton_self _⟩ (by simp [hresponse, hnotification])

/-! ## Sequences of reads -/

/-- The bytes of the frame that a message comes from. -/
def frameSize (message : MessageHeader × List UInt8) : ℕ := headerSize + message.1.dataLen.toNat + 4

theorem ValidFrame.accepted {config : ClientConfig} {frame : List UInt8}
    (hvalid : ValidFrame config frame) :
    ∃ message, accepted config frame = some message ∧ frame.length = frameSize message := by
  obtain ⟨header, body, haccepted, hlength⟩ := hvalid
  exact ⟨(header, body), haccepted, hlength⟩

theorem length_flatten_frames {config : ClientConfig} {frames : List (List UInt8)}
    (hframes : ∀ frame ∈ frames, ValidFrame config frame) :
    frames.flatten.length = ((frames.filterMap (accepted config)).map frameSize).sum := by
  induction frames with
  | nil => rfl
  | cons frame rest ih =>
      obtain ⟨message, haccepted, hlength⟩ := (hframes frame (by simp)).accepted
      rw [List.flatten_cons, List.length_append, List.filterMap_cons_some haccepted, List.map_cons,
        List.sum_cons, hlength, ih fun other hother => hframes other (List.mem_cons_of_mem _ hother)]

theorem sum_frameSize_le (config : ClientConfig) (chunks : List (List UInt8)) :
    ((chunks.filterMap (accepted config)).map frameSize).sum ≤ chunks.flatten.length := by
  induction chunks with
  | nil => exact Nat.le_refl _
  | cons chunk rest ih =>
      rw [List.flatten_cons, List.length_append]
      cases haccepted : accepted config chunk with
      | none =>
          rw [List.filterMap_cons_none haccepted]
          omega
      | some message =>
          have hlength : frameSize message ≤ chunk.length := le_length_of_accepted haccepted
          rw [List.filterMap_cons_some haccepted, List.map_cons, List.sum_cons]
          omega

/-- Chunks that are taken for the messages of the frames they carry are the frames. -/
theorem chunks_eq_frames {config : ClientConfig} {chunks frames : List (List UInt8)}
    (hframes : ∀ frame ∈ frames, ValidFrame config frame) (hnonempty : ∀ chunk ∈ chunks, chunk ≠ [])
    (hbytes : chunks.flatten = frames.flatten)
    (hmessages : chunks.filterMap (accepted config) = frames.filterMap (accepted config)) :
    chunks = frames := by
  induction chunks generalizing frames with
  | nil =>
      cases frames with
      | nil => rfl
      | cons frame rest =>
          obtain ⟨message, haccepted, -⟩ := (hframes frame (by simp)).accepted
          rw [List.filterMap_nil, List.filterMap_cons_some haccepted] at hmessages
          cases hmessages
  | cons chunk rest ih =>
      have hchunk : chunk.length ≠ 0 := fun hzero =>
        hnonempty chunk (by simp) (List.length_eq_zero_iff.mp hzero)
      have htotal := congrArg List.length hbytes
      rw [List.flatten_cons, List.length_append] at htotal
      have hrest := sum_frameSize_le config rest
      cases haccepted : accepted config chunk with
      | none =>
          -- the others would have to bring all the messages with fewer bytes
          rw [List.filterMap_cons_none haccepted] at hmessages
          rw [length_flatten_frames hframes, ← hmessages] at htotal
          omega
      | some message =>
          rw [List.filterMap_cons_some haccepted] at hmessages
          cases frames with
          | nil => cases hmessages
          | cons frame later =>
              obtain ⟨first, hfirst, hlength⟩ := (hframes frame (by simp)).accepted
              have hlater : ∀ other ∈ later, ValidFrame config other := fun other hother =>
                hframes other (List.mem_cons_of_mem _ hother)
              rw [List.filterMap_cons_some hfirst] at hmessages
              obtain ⟨rfl, hothers⟩ := List.cons_eq_cons.mp hmessages
              -- no chunk has room to spare, so both start with the same frame
              have hlong : frameSize message ≤ chunk.length := le_length_of_accepted haccepted
              rw [List.flatten_cons, List.length_append, length_flatten_frames hlater, ← hothers,
                hlength] at htotal
              rw [List.flatten_cons, List.flatten_cons] at hbytes
              obtain ⟨rfl, htail⟩ := List.append_inj hbytes (by omega)
              rw [ih hlater (fun other hother => hnonempty other (List.mem_cons_of_mem _ hother)) htail
                hothers]

/-! ## The reads of a run -/

/-- The read that an input lets the client handle, with the client that handles it. -/
def Client.readOf (c : Client) (input : Input) : List (Client × List UInt8) :=
  match input, c.posted with
  | .run, .received data :: rest => [({ c with posted := rest }, data)]
  | _, _ => []

/-- The reads that are handled in a run. -/
def Client.reads (c : Client) : List Input → List (Client × List UInt8)
  | [] => []
  | input :: rest => c.readOf input ++ (c.step input).reads rest

theorem Client.link_of_mem_reads {c : Client} {inputs : List Input} {read : Client × List UInt8}
    (hmem : read ∈ c.reads inputs) : read.1.link = c.link := by
  induction inputs generalizing c with
  | nil => cases hmem
  | cons input rest ih =>
      rcases List.mem_append.mp hmem with hfirst | hlater
      · unfold readOf at hfirst
        split at hfirst
        · rw [List.mem_singleton.mp hfirst]
          rfl
        · cases hfirst
      · rw [ih hlater, link_step]

theorem Client.accepted_of_mem_reads {c : Client} {inputs : List Input} {read : Client × List UInt8}
    (hmem : read ∈ c.reads inputs) : accepted read.1.config read.2 = accepted c.config read.2 := by
  have hlink := link_of_mem_reads hmem
  exact accepted_congr (congrArg Prod.fst hlink) (congrArg Prod.snd hlink) _

/-- The messages handled in a run are those of the reads that pass the checks. -/
theorem Client.flatMap_messagesHandled (c : Client) (inputs : List Input) :
    (c.reads inputs).flatMap (fun read => read.1.messagesHandled read.2) =
      ((c.reads inputs).map Prod.snd).filterMap (accepted c.config) := by
  have hread : ∀ read ∈ c.reads inputs,
      read.1.messagesHandled read.2 = (accepted c.config read.2).toList := by
    intro read hmem
    rw [← accepted_of_mem_reads hmem]
    cases haccepted : accepted read.1.config read.2 with
    | none => rw [(handled_of_accepted_eq_none haccepted).1]; rfl
    | some message => rw [(handled_of_accepted_eq_some haccepted).1]; rfl
  generalize c.reads inputs = reads at hread
  induction reads with
  | nil => rfl
  | cons read rest ih =>
      rw [List.flatMap_cons, hread read (by simp), List.map_cons,
        ih fun other hother => hread other (List.mem_cons_of_mem _ hother)]
      cases haccepted : accepted c.config read.2 with
      | none => rw [List.filterMap_cons_none haccepted]; rfl
      | some message => rw [List.filterMap_cons_some haccepted]; rfl

/-- The frames are handled one by one, and nothing is answered with a NAK, exactly when every read
is one frame with a message that the client knows. -/
theorem handled_iff_reads_eq_frames (c : Client) (inputs : List Input) (frames : List (List UInt8))
    (hframes : ∀ frame ∈ frames, ValidFrame c.config frame)
    (hnonempty : ∀ read ∈ c.reads inputs, read.2 ≠ [])
    (hbytes : ((c.reads inputs).map Prod.snd).flatten = frames.flatten) :
    ((c.reads inputs).flatMap (fun read => read.1.messagesHandled read.2) =
        frames.filterMap (accepted c.config) ∧
      ∀ read ∈ c.reads inputs, ¬read.1.SendsNak read.2) ↔
    (c.reads inputs).map Prod.snd = frames ∧
      ∀ read ∈ c.reads inputs, ∀ header body,
        accepted c.config read.2 = some (header, body) → read.1.Knows header body := by
  rw [Client.flatMap_messagesHandled]
  constructor
  · rintro ⟨hmessages, hnak⟩
    have hchunks := chunks_eq_frames hframes
      (fun chunk hchunk => by
        obtain ⟨read, hmem, rfl⟩ := List.mem_map.mp hchunk
        exact hnonempty read hmem) hbytes hmessages
    refine ⟨hchunks, ?_⟩
    intro read hmem header body haccepted
    rw [← Client.accepted_of_mem_reads hmem] at haccepted
    by_contra hunknown
    exact hnak read hmem ((handled_of_accepted_eq_some haccepted).2.mpr hunknown)
  · rintro ⟨hchunks, hknows⟩
    rw [hchunks]
    refine ⟨rfl, ?_⟩
    intro read hmem
    have hvalid : ValidFrame c.config read.2 :=
      hframes _ (hchunks ▸ List.mem_map_of_mem hmem)
    obtain ⟨header, body, haccepted, -⟩ := hvalid
    have hknown := hknows read hmem header body haccepted
    rw [← Client.accepted_of_mem_reads hmem] at haccepted
    rw [(handled_of_accepted_eq_some haccepted).2, not_not]
    exact hknown

/-- Two notifications in two reads are handled one by one. -/
theorem handled_two_reads :
    let c := Client.init ⟨97, 33, 10⟩ ⟨3, 5, 2024, 8, 0, 0⟩
    let first : List UInt8 :=
      [97, 33, 0x60, 0, 3, 5, 232, 7, 0, 0, 0, 8, 1, 0, 4, 0, 1, 0, 0, 0, 102, 38, 76, 16]
    let second : List UInt8 :=
      [97, 33, 0x60, 0, 3, 5, 232, 7, 0, 0, 0, 8, 2, 0, 4, 0, 0, 0, 0, 0, 102, 38, 76, 16]
    let inputs := [.run, .run, .connectDone true, .readDone first, .readDone second, .run, .run, .run]
    (c.reads inputs).flatMap (fun read => read.1.messagesHandled read.2) =
        [first, second].filterMap (accepted c.config) ∧
      ∀ read ∈ c.reads inputs, ¬read.1.SendsNak read.2 := by
  intro c first second inputs
  have hframes : ∀ frame ∈ [first, second], ValidFrame c.config frame := by decide +kernel
  have hreads : (c.reads inputs).map Prod.snd = [first, second] := by decide +kernel
  have hknown : ∀ read ∈ c.reads inputs, ∀ message ∈ accepted c.config read.2,
      isNotificationReceived message.1.dataTypeCode = true := by
    decide +kernel
  refine (handled_iff_reads_eq_frames c inputs [first, second] hframes ?_ ?_).mpr ⟨hreads, ?_⟩
  · decide +kernel
  · rw [hreads]
  · intro read hmem header body haccepted
    exact Or.inr (hknown read hmem (header, body) haccepted)

/-- The same two notifications in one read: neither is handled, and the answer is a NAK. -/
theorem not_handled_merged :
    let c := Client.init ⟨97, 33, 10⟩ ⟨3, 5, 2024, 8, 0, 0⟩
    let first : List UInt8 :=
      [97, 33, 0x60, 0, 3, 5, 232, 7, 0, 0, 0, 8, 1, 0, 4, 0, 1, 0, 0, 0, 102, 38, 76, 16]
    let second : List UInt8 :=
      [97, 33, 0x60, 0, 3, 5, 232, 7, 0, 0, 0, 8, 2, 0, 4, 0, 0, 0, 0, 0, 102, 38, 76, 16]
    let inputs := [.run, .run, .connectDone true, .readDone (first ++ second), .run, .run]
    (∀ frame ∈ [first, second], ValidFrame c.config frame) ∧
      (∀ read ∈ c.reads inputs, read.2 ≠ [] ∧ read.2.length ≤ receiveBufferSize) ∧
      ((c.reads inputs).map Prod.snd).flatten = [first, second].flatten ∧
      (c.reads inputs).flatMap (fun read => read.1.outcomes read.2) = [.sentNak 1 0x60 0x03] ∧
      ¬((c.reads inputs).flatMap (fun read => read.1.messagesHandled read.2) =
          [first, second].filterMap (accepted c.config) ∧
        ∀ read ∈ c.reads inputs, ¬read.1.SendsNak read.2) := by
  intro c first second inputs
  refine ⟨by decide +kernel, by decide +kernel, by decide +kernel, by decide +kernel, ?_⟩
  have hnone : (c.reads inputs).flatMap (fun read => read.1.messagesHandled read.2) ≠
      [first, second].filterMap (accepted c.config) := by
    decide +kernel
  exact fun hboth => hnone hboth.1

end LinuxPBS.Eep

import LinuxPBS.Eep.OneOutcome

/-!
# Messages with a short body

`handleParsedResponseMessage` and `handleParsedNotificationMessage` test in each case of
their switch whether the body has the size that the case reads.  The test leaves the
switch with `break` where `ret` is still `true`, so that the event is raised all the
same, with members that no case has filled; and by then the caller has taken the
message for the answer.  `noEffect_iff`: a short message has no effect exactly if it
never gets to one of the two handlers.

The payload of an event is the decoded body in JSON; the bytes it is decoded from stand
for it here, and a settlement record is the header and the body it is made of.
-/

namespace LinuxPBS.Eep

open Machine

/-! ## The two handlers -/

/-- `EEPEventWrapper`: the message status of the one that a case fills is `SUCCESS`, the members
of the other are indeterminate. -/
inductive EventWrapper
  | filled (commandReqType : CommandType) (messageCode : MessageCode) (payload : List UInt8)
  | unfilled
  deriving DecidableEq, Repr

/-- What `processDSRCFeTx` and `processDSRCBeTx` write. -/
inductive SettlementRecord
  | frontend (header : MessageHeader) (body : List UInt8)
  | backend (header : MessageHeader) (body : List UInt8)
  deriving DecidableEq, Repr

/-- A case of the switches: the code, the size of the body, and whether the event is raised. -/
structure MessageCase where
  messageCode : MessageCode
  size : ℕ
  raised : Bool := true
  deriving DecidableEq, Repr

/-- The cases of `handleParsedResponseMessage`. -/
def responseCases : List MessageCase :=
  [{ messageCode := .ack, size := 4 },
    { messageCode := .nak, size := 4 },
    { messageCode := .watchdogResponse, size := 0, raised := false },
    { messageCode := .healthStatusResponse, size := 64, raised := false },
    { messageCode := .startResponse, size := 4 },
    { messageCode := .stopResponse, size := 4 },
    { messageCode := .diStatusResponse, size := 8 },
    { messageCode := .dsrcStatusResponse, size := 100 },
    { messageCode := .timeCalibrationResponse, size := 4 }]

/-- The cases of `handleParsedNotificationMessage`. -/
def notificationCases : List MessageCase :=
  [{ messageCode := .diStatusNotification, size := 8 },
    { messageCode := .obuInformationNotification, size := 56 },
    { messageCode := .transactionData, size := 340 },
    { messageCode := .cpoInformationDisplayResult, size := 20 },
    { messageCode := .carparkProcessCompleteResult, size := 20 },
    { messageCode := .eepRestartInquiry, size := 4 },
    { messageCode := .notificationLog, size := 12 }]

/-- The case of a switch for a code. -/
def caseOf (cases : List MessageCase) (dataTypeCode : UInt8) : Option MessageCase :=
  cases.find? fun entry => entry.messageCode.toUInt8 = dataTypeCode

/-- A case: a short body leaves it with `ret` still set and nothing filled. -/
def MessageCase.event (messageCase : MessageCase) (commandReqType : CommandType)
    (body : List UInt8) : Option EventWrapper :=
  if body.length < messageCase.size then some .unfilled
  else if messageCase.raised then some (.filled commandReqType messageCase.messageCode body)
  else none

/-- The event of `EEPClient::handleParsedResponseMessage`. -/
def responseEvent (cmd : Command) (header : MessageHeader) (body : List UInt8) :
    Option EventWrapper :=
  (caseOf responseCases header.dataTypeCode).bind fun messageCase => messageCase.event cmd.type body

/-- The commands that a notification is ascribed to. -/
def ascribedTo : MessageCode → List CommandType
  | .obuInformationNotification => [.getObuInfoReqCmd]
  | .transactionData => [.deductReqCmd, .transactionReqCmd]
  | .cpoInformationDisplayResult => [.cpoInfoDisplayReqCmd]
  | .carparkProcessCompleteResult => [.carparkProcessCompleteNotificationReqCmd]
  | _ => []

/-- The event of `EEPClient::handleParsedNotificationMessage`. -/
def notificationEvent (cmd : Command) (header : MessageHeader) (body : List UInt8) :
    Option EventWrapper :=
  (caseOf notificationCases header.dataTypeCode).bind fun messageCase =>
    messageCase.event
      (if cmd.type ∈ ascribedTo messageCase.messageCode then cmd.type else .unknownReqCmd) body

/-- The settlement record of `EEPClient::handleParsedNotificationMessage`. -/
def settlementRecord (header : MessageHeader) (body : List UInt8) : Option SettlementRecord :=
  if header.dataTypeCode = MessageCode.transactionData.toUInt8 ∧ 340 ≤ body.length then
    if body.getD 3 0 = 0x01 then some (.frontend header body)
    else if body.getD 3 0 = 0x02 then some (.backend header body)
    else none
  else none

namespace Client

/-- The `Evt_handleEEPClientResponse` that `EEPClient::handleReceivedData` raises. -/
def raisedEvent (c : Client) (data : List UInt8) : Option EventWrapper :=
  match receivedMessage c.config data with
  | .inr _ => none
  | .inl (header, body) =>
      if isResponseMatchedDataTypeCode c.currentCmdRequested header.dataTypeCode body then
        if c.expectedResponseSeqNo ≠ some header.seqNo then none
        else responseEvent c.currentCmdRequested header body
      else if isNotificationReceived header.dataTypeCode then
        notificationEvent c.currentCmdRequested header body
      else none

/-- The settlement record that `EEPClient::handleReceivedData` writes. -/
def writtenRecord (c : Client) (data : List UInt8) : Option SettlementRecord :=
  match receivedMessage c.config data with
  | .inr _ => none
  | .inl (header, body) =>
      if isResponseMatchedDataTypeCode c.currentCmdRequested header.dataTypeCode body then none
      else if isNotificationReceived header.dataTypeCode then settlementRecord header body
      else none

end Client

/-! ## Short messages -/

/-- The size that the handler of a code requires. -/
def requiredSize (dataTypeCode : UInt8) : Option ℕ :=
  (caseOf (responseCases ++ notificationCases) dataTypeCode).map MessageCase.size

/-- The frame passes the checks of the checksum and of the length, but its body is short. -/
structure ShortFrame (data : List UInt8) (header : MessageHeader) (body : List UInt8) : Prop where
  checksum : isValidCheckSum data = true
  parsed : parseMessage (withoutCheckSum data) = some (header, body)
  short : ∃ size ∈ requiredSize header.dataTypeCode, body.length < size

/-- A read has no effect on the request that is under way, and raises and writes nothing. -/
structure NoEffect (c : Client) (data : List UInt8) : Prop where
  event : c.raisedEvent data = none
  record : c.writtenRecord data = none
  request : (c.handleReceivedData data).currentCmdRequested = c.currentCmdRequested
  state : (c.handleReceivedData data).currentState = c.currentState
  timers : (c.handleReceivedData data).armed = c.armed
  expected : (c.handleReceivedData data).expectedResponseSeqNo = c.expectedResponseSeqNo
  /-- nothing is posted to the state machine -/
  posted : ∀ event, .event event ∈ (c.handleReceivedData data).posted → .event event ∈ c.posted

/-- The message is given to one of the two handlers. -/
def Handled (c : Client) (header : MessageHeader) (body : List UInt8) : Prop :=
  c.config.isValidSourceDestination header.sourceID header.destinationID = true ∧
    if isResponseMatchedDataTypeCode c.currentCmdRequested header.dataTypeCode body then
      c.expectedResponseSeqNo = some header.seqNo
    else isNotificationReceived header.dataTypeCode = true

/-! ## When a short message has no effect -/

/-- Every answer that is waited for has a case in the one switch. -/
theorem requiredSize_of_matched {cmd : Command} {dataTypeCode : UInt8} {body : List UInt8}
    (hmatched : isResponseMatchedDataTypeCode cmd dataTypeCode body = true) :
    requiredSize dataTypeCode = (caseOf responseCases dataTypeCode).map MessageCase.size := by
  have hcases : ∀ code ∈ responseCases.map MessageCase.messageCode, requiredSize code.toUInt8 =
      (caseOf responseCases code.toUInt8).map MessageCase.size := by decide
  have hvalid (type : CommandType) :
      ∀ code ∈ validResponses type, code ∈ responseCases.map MessageCase.messageCode := by
    cases type <;> decide
  have hcode : dataTypeCode ∈ (validResponses cmd.type).map MessageCode.toUInt8 := by
    unfold isResponseMatchedDataTypeCode at hmatched
    split_ifs at hmatched with hcontains
    all_goals simpa using hcontains
  obtain ⟨code, hmem, rfl⟩ := List.mem_map.mp hcode
  exact hcases code (hvalid cmd.type code hmem)

/-- Every notification has a case in the other. -/
theorem requiredSize_of_notification {dataTypeCode : UInt8}
    (hnotification : isNotificationReceived dataTypeCode = true) :
    requiredSize dataTypeCode = (caseOf notificationCases dataTypeCode).map MessageCase.size := by
  have hcases : ∀ code ∈ notificationCases.map MessageCase.messageCode,
      requiredSize code.toUInt8 = (caseOf notificationCases code.toUInt8).map MessageCase.size := by
    decide
  unfold isNotificationReceived at hnotification
  rw [List.contains_iff_mem] at hnotification
  obtain ⟨code, hmem, rfl⟩ := List.mem_map.mp hnotification
  exact hcases code hmem

/-- A short body in a case raises the event that nothing has filled. -/
theorem event_of_short {cases : List MessageCase} {dataTypeCode : UInt8} {body : List UInt8}
    (hsize : requiredSize dataTypeCode = (caseOf cases dataTypeCode).map MessageCase.size)
    (hshort : ∃ size ∈ requiredSize dataTypeCode, body.length < size)
    (commandReqType : MessageCase → CommandType) :
    (caseOf cases dataTypeCode).bind (fun entry => entry.event (commandReqType entry) body) =
      some .unfilled := by
  obtain ⟨size, hmem, hlt⟩ := hshort
  rw [hsize] at hmem
  obtain ⟨entry, hentry, rfl⟩ := Option.map_eq_some_iff.mp hmem
  rw [hentry, Option.bind_some, MessageCase.event, if_pos hlt]

namespace Client

variable {c : Client} {data : List UInt8} {header : MessageHeader} {body : List UInt8}

theorem receivedMessage_of_short (hshort : ShortFrame data header body) (config : ClientConfig) :
    receivedMessage config data =
      if config.isValidSourceDestination header.sourceID header.destinationID then
        .inl (header, body)
      else .inr 0x04 := by
  unfold receivedMessage
  rw [hshort.checksum, hshort.parsed]
  rfl

/-- A short message that is handled raises an event. -/
theorem raisedEvent_of_handled (hshort : ShortFrame data header body)
    (hhandled : Handled c header body) : c.raisedEvent data = some .unfilled := by
  obtain ⟨hvalid, hhandler⟩ := hhandled
  unfold raisedEvent
  rw [receivedMessage_of_short hshort, if_pos hvalid]
  dsimp only
  by_cases hmatched :
      isResponseMatchedDataTypeCode c.currentCmdRequested header.dataTypeCode body = true
  · rw [if_pos hmatched] at hhandler ⊢
    rw [if_neg (not_not_intro hhandler)]
    exact event_of_short (requiredSize_of_matched hmatched) hshort.short _
  · rw [if_neg hmatched] at hhandler ⊢
    rw [if_pos hhandler]
    exact event_of_short (requiredSize_of_notification hhandler) hshort.short _

/-- Nothing happens to the request that is under way. -/
def Unchanged (c d : Client) : Prop :=
  d.currentCmdRequested = c.currentCmdRequested ∧ d.currentState = c.currentState ∧
    d.armed = c.armed ∧ d.expectedResponseSeqNo = c.expectedResponseSeqNo ∧
    ∀ event, .event event ∈ d.posted → .event event ∈ c.posted

/-- A NAK leaves it alone. -/
theorem handleInvalidMessage_unchanged (c : Client) (data : List UInt8) (reasonCode : UInt8) :
    c.Unchanged (c.handleInvalidMessage data reasonCode) := by
  unfold handleInvalidMessage
  split_ifs
  · refine ⟨rfl, rfl, rfl, rfl, fun event hmem => ?_⟩
    rcases List.mem_append.mp hmem with hold | hnew
    · exact hold
    · cases List.mem_singleton.mp hnew
  · exact ⟨rfl, rfl, rfl, rfl, fun event hmem => hmem⟩

theorem noEffect_of_unchanged (hevent : c.raisedEvent data = none)
    (hrecord : c.writtenRecord data = none) (hunchanged : c.Unchanged (c.handleReceivedData data)) :
    NoEffect c data := by
  obtain ⟨hrequest, hstate, htimers, hexpected, hposted⟩ := hunchanged
  exact ⟨hevent, hrecord, hrequest, hstate, htimers, hexpected, hposted⟩

/-- A short message that is not handled is logged or turned down. -/
theorem noEffect_of_not_handled (hshort : ShortFrame data header body)
    (hnot : ¬Handled c header body) : NoEffect c data := by
  have hreceived := receivedMessage_of_short hshort c.config
  by_cases hvalid : c.config.isValidSourceDestination header.sourceID header.destinationID = true
  · rw [if_pos hvalid] at hreceived
    by_cases hmatched :
        isResponseMatchedDataTypeCode c.currentCmdRequested header.dataTypeCode body = true
    · -- an answer with another sequence number
      have hother : c.expectedResponseSeqNo ≠ some header.seqNo := fun h =>
        hnot ⟨hvalid, by rw [if_pos hmatched]; exact h⟩
      apply noEffect_of_unchanged
      · simp only [raisedEvent, hreceived, if_pos hmatched, if_pos hother]
      · simp only [writtenRecord, hreceived, if_pos hmatched]
      · have hclient : c.handleReceivedData data = c.note (.handled header body) := by
          unfold handleReceivedData
          simp only [hreceived]
          exact (if_pos hmatched).trans (if_pos hother)
        rw [hclient]
        exact ⟨rfl, rfl, rfl, rfl, fun event hmem => hmem⟩
    · -- an answer to another request
      have hother : ¬isNotificationReceived header.dataTypeCode = true := fun h =>
        hnot ⟨hvalid, by rw [if_neg hmatched]; exact h⟩
      apply noEffect_of_unchanged
      · simp only [raisedEvent, hreceived, if_neg hmatched, if_neg hother]
      · simp only [writtenRecord, hreceived, if_neg hmatched, if_neg hother]
      · have hclient : c.handleReceivedData data =
            (c.note (.handled header body)).handleInvalidMessage data 0x01 := by
          unfold handleReceivedData
          simp only [hreceived]
          exact (if_neg hmatched).trans (if_neg hother)
        rw [hclient]
        exact (c.note (.handled header body)).handleInvalidMessage_unchanged data 0x01
  · -- a message of another device
    rw [if_neg hvalid] at hreceived
    apply noEffect_of_unchanged
    · simp only [raisedEvent, hreceived]
    · simp only [writtenRecord, hreceived]
    · have hclient : c.handleReceivedData data = c.handleInvalidMessage data 0x04 := by
        unfold handleReceivedData
        simp only [hreceived]
      rw [hclient]
      exact c.handleInvalidMessage_unchanged data 0x04

/-- **Short messages.**  A short message has no effect exactly if it is given to no handler. -/
theorem noEffect_iff (hshort : ShortFrame data header body) :
    NoEffect c data ↔ ¬Handled c header body := by
  constructor
  · intro hnone hhandled
    have hevent := hnone.event
    rw [raisedEvent_of_handled hshort hhandled] at hevent
    cases hevent
  · exact noEffect_of_not_handled hshort

/-! ## A short answer -/

/-- The header of an answer to the start. -/
def startResponseHeader : MessageHeader :=
  { destinationID := 97, sourceID := 33, dataTypeCode := 0x41, rsv := 0, day := 3, month := 5
    year := 2024, rsv1 := 0, second := 0, minute := 0, hour := 8, seqNo := 0, dataLen := 0 }

/-- The answer to the start, with an empty body. -/
def shortStartResponse : List UInt8 := eepFrame atEight.now .startResponse 0 []

theorem shortFrame_shortStartResponse :
    ShortFrame shortStartResponse startResponseHeader [] :=
  ⟨by decide +kernel, by decide +kernel, by decide⟩

/-- A client that has not asked for the start turns it down. -/
theorem noEffect_atEight :
    ShortFrame shortStartResponse startResponseHeader [] ∧ NoEffect atEight shortStartResponse := by
  refine ⟨shortFrame_shortStartResponse, (noEffect_iff shortFrame_shortStartResponse).mpr ?_⟩
  unfold Handled
  decide

/-- For a client that has, it raises an event and ends the request. -/
theorem not_noEffect :
    ¬∀ (c : Client) (data : List UInt8) (header : MessageHeader) (body : List UInt8),
      ShortFrame data header body → NoEffect c data := by
  intro hall
  have hnone := (hall (run step atEight starting) _ _ _ shortFrame_shortStartResponse).event
  have hraised : (run step atEight starting).raisedEvent shortStartResponse = some .unfilled := by
    decide +kernel
  rw [hraised] at hnone
  cases hnone

end Client

end LinuxPBS.Eep

import LinuxPBS.Eep.Frame

/-!
# What is sent to the EEP can be parsed

Every packet of `prepareCmd` is a header, a content and a check code, and whatever
the content is, the check code is valid and the parser returns the header with as
much of the content as the header states (`parseMessage_packet`).  So a command
comes through whole exactly when the length that `prepareCmd` states is the length
that `serialize` appends.

The lengths agree for every command but one.  `CPOInfoDisplayData` ends in a vector
of stored data that `serialize` appends behind the 133 bytes that
`CPO_INFO_DISPLAY_REQ_CMD` states: a display request with stored data is cut.
-/

namespace LinuxPBS.Eep

open LinuxPBS.Bytes

/-! ## Any packet -/

/-- The header `appendMessageHeader` writes. -/
def builtHeader (config : ClientConfig) (now : LocalTime) (messageCode : MessageCode)
    (seqNo length : UInt16) : MessageHeader where
  destinationID := UInt8.ofInt config.eepDestinationId
  sourceID := UInt8.ofInt config.eepSourceId
  dataTypeCode := messageCode.toUInt8
  rsv := 0x00
  day := now.day
  month := now.month
  year := now.year
  rsv1 := 0x00
  second := now.second
  minute := now.minute
  hour := now.hour
  seqNo := seqNo
  dataLen := length

/-- A message with its check code, as `prepareCmd` sends it. -/
def packet (msg : List UInt8) : List UInt8 :=
  msg ++ leBytes 4 (calculateChecksumNoPadding msg).toNat

theorem length_packet (msg : List UInt8) : (packet msg).length = msg.length + 4 := by
  rw [packet, List.length_append, length_leBytes]

@[simp] theorem withoutCheckSum_packet (msg : List UInt8) : withoutCheckSum (packet msg) = msg := by
  rw [withoutCheckSum, length_packet, Nat.add_sub_cancel, packet, List.take_left' rfl]

theorem isValidCheckSum_packet (msg : List UInt8) : isValidCheckSum (packet msg) = true := by
  have hdrop : (packet msg).drop ((packet msg).length - 4) =
      leBytes 4 (calculateChecksumNoPadding msg).toNat := by
    rw [length_packet, Nat.add_sub_cancel, packet, List.drop_left' rfl]
  unfold isValidCheckSum
  rw [if_neg (by rw [length_packet]; omega), hdrop, withoutCheckSum_packet, ofLeBytes_uint32,
    UInt32.ofNat_toNat]
  exact decide_eq_true rfl

theorem length_appendMessageHeader (config : ClientConfig) (now : LocalTime)
    (messageCode : MessageCode) (seqNo length : UInt16) :
    (appendMessageHeader config now messageCode seqNo length).length = headerSize := rfl

/-- Two bytes in a row are read back as the word they were written from. -/
theorem readUint16_of_drop {data rest : List UInt8} {offset : ℕ} {value : UInt16}
    (hdrop : data.drop offset = leBytes 2 value.toNat ++ rest) : readUint16 data offset = value := by
  have hlow : data.getD offset 0 = UInt8.ofNat value.toNat := by
    rw [List.getD_eq_getElem?_getD, ← List.head?_drop, hdrop]
    rfl
  have hhigh : data.getD (offset + 1) 0 = UInt8.ofNat (value.toNat / 256) := by
    rw [List.getD_eq_getElem?_getD, ← List.head?_drop, ← List.drop_drop, hdrop]
    rfl
  have hpair : [data.getD offset 0, data.getD (offset + 1) 0] = leBytes 2 value.toNat := by
    rw [hlow, hhigh]
    rfl
  rw [readUint16, hpair, ofLeBytes_uint16, UInt16.ofNat_toNat]

theorem deserialize_appendMessageHeader (config : ClientConfig) (now : LocalTime)
    (messageCode : MessageCode) (seqNo length : UInt16) (content : List UInt8) :
    MessageHeader.deserialize (appendMessageHeader config now messageCode seqNo length ++ content) =
      some (builtHeader config now messageCode seqNo length) := by
  let data := appendMessageHeader config now messageCode seqNo length ++ content
  have hlong : ¬data.length < headerSize := by
    rw [List.length_append, length_appendMessageHeader]
    omega
  have hyear : readUint16 data 6 = now.year := readUint16_of_drop rfl
  have hseq : readUint16 data 12 = seqNo := readUint16_of_drop rfl
  have hlen : readUint16 data 14 = length := readUint16_of_drop rfl
  unfold MessageHeader.deserialize
  rw [if_neg hlong, hyear, hseq, hlen]
  rfl

/-- The parser returns the header and as much of the content as it states. -/
theorem parseMessage_packet (config : ClientConfig) (now : LocalTime) (messageCode : MessageCode)
    (seqNo length : UInt16) (content : List UInt8) (hlength : length.toNat ≤ content.length) :
    parseMessage (appendMessageHeader config now messageCode seqNo length ++ content) =
      some (builtHeader config now messageCode seqNo length, content.take length.toNat) := by
  have henough : ¬(appendMessageHeader config now messageCode seqNo length ++ content).length <
      headerSize + length.toNat := by
    rw [List.length_append, length_appendMessageHeader]
    omega
  have hstated : (builtHeader config now messageCode seqNo length).dataLen = length := rfl
  unfold parseMessage
  rw [deserialize_appendMessageHeader]
  dsimp only [Option.bind_eq_bind, Option.bind_some]
  rw [hstated, if_neg henough, List.drop_left' (length_appendMessageHeader _ _ _ _ _)]

/-! ## What a command carries -/

/-- The data a command takes: its own struct, or none. -/
def CommandType.Takes : CommandType → Option CommandData → Prop
  | .ack, some (.ackData ..) => True
  | .nak, some (.nakData ..) => True
  | .doReqCmd, some (.setDOPort ..) => True
  | .setDiPortConfigCmd, some (.setDIPortConfigData ..) => True
  | .deductReqCmd, some (.deductData ..) => True
  | .deductStopReqCmd, some (.deductStopData ..) => True
  | .transactionReqCmd, some (.transactionReqData ..) => True
  | .cpoInfoDisplayReqCmd, some (.cpoInfoDisplayData ..) => True
  | .carparkProcessCompleteNotificationReqCmd, some (.carparkProcessCompleteData ..) => True
  | .dsrcProcessCompleteNotificationReqCmd, some (.dsrcProcessCompleteData ..) => True
  | .stopReqOfRelatedInfoDistributionCmd, some (.stopReqOfRelatedInfoData ..) => True
  | .timeCalibrationReqCmd, some (.timeCalibrationData ..) => True
  | .setCarparkAvailReqCmd, some (.setParkingAvailabilityData ..) => True
  | .eepRestartInquiryReqCmd, some (.restartInquiryResponseData ..) => True
  | .healthStatusReqCmd, none | .watchdogReqCmd, none | .startReqCmd, none | .stopReqCmd, none
  | .diReqCmd, none | .getObuInfoReqCmd, none | .getObuInfoStopReqCmd, none
  | .dsrcStatusReqCmd, none | .cdDownloadReqCmd, none => True
  | _, _ => False

/-- The data type code of a command. -/
def CommandType.messageCode : CommandType → Option MessageCode
  | .ack => some .ack
  | .nak => some .nak
  | .healthStatusReqCmd => some .healthStatusRequest
  | .watchdogReqCmd => some .watchdogRequest
  | .startReqCmd => some .startRequest
  | .stopReqCmd => some .stopRequest
  | .diReqCmd => some .diStatusRequest
  | .doReqCmd => some .setDoRequest
  | .setDiPortConfigCmd => some .setDiPortConfiguration
  | .getObuInfoReqCmd => some .getObuInformationRequest
  | .getObuInfoStopReqCmd => some .getObuInformationStop
  | .deductReqCmd => some .deductRequest
  | .deductStopReqCmd => some .deductStopRequest
  | .transactionReqCmd => some .transactionRequest
  | .cpoInfoDisplayReqCmd => some .cpoInformationDisplayRequest
  | .carparkProcessCompleteNotificationReqCmd => some .carparkProcessCompleteNotification
  | .dsrcProcessCompleteNotificationReqCmd => some .dsrcProcessCompleteNotification
  | .stopReqOfRelatedInfoDistributionCmd => some .stopRequestOfRelatedInformationDistribution
  | .dsrcStatusReqCmd => some .dsrcStatusRequest
  | .timeCalibrationReqCmd => some .timeCalibrationRequest
  | .setCarparkAvailReqCmd => some .setParkingAvailable
  | .cdDownloadReqCmd => some .cdDownloadRequest
  | .eepRestartInquiryReqCmd => some .eepRestartInquiryResponse
  | .unknownReqCmd | .eepIdle => none

/-- The serialised payload of a command; a watchdog carries the carpark. -/
def CommandType.payload (config : ClientConfig) (type : CommandType) (data : Option CommandData) :
    List UInt8 :=
  if type = .watchdogReqCmd then leBytes 2 config.eepCarparkID.toNat ++ [0x00, 0x00]
  else (data.map CommandData.serialize).getD []

/-- The sequence number of a command: an ACK or a NAK has the one of the packet it answers. -/
def sentSeqNo (seqNo : UInt16) : Option CommandData → UInt16
  | some (.ackData echoed _ _) => echoed
  | some (.nakData echoed _ _ _) => echoed
  | _ => seqNo

/-- The frame of a command has a valid check code and is parsed as the header that was built,
with a body of the stated length that is the serialised payload. -/
def RoundTrips (config : ClientConfig) (now : LocalTime) (seqNo : UInt16) (type : CommandType)
    (data : Option CommandData) : Prop :=
  let frame := (prepareCmd config now seqNo type data).1
  isValidCheckSum frame = true ∧
    ∃ messageCode length, type.messageCode = some messageCode ∧
      parseMessage (withoutCheckSum frame) =
        some (builtHeader config now messageCode (sentSeqNo seqNo data) length,
          type.payload config data) ∧
      (type.payload config data).length = length.toNat

/-- The stored data of a display request. -/
def CommandData.storedData : CommandData → List UInt8
  | .cpoInfoDisplayData _ _ _ _ _ _ _ _ _ _ _ _ storedData => storedData
  | _ => []

/-- A prepared command is a packet of its code, a stated length and its payload. -/
theorem prepareCmd_eq_packet {config : ClientConfig} {seqNo : UInt16} {type : CommandType}
    {data : Option CommandData} (now : LocalTime) (htakes : type.Takes data)
    (hprepared : (prepareCmd config now seqNo type data).2 = true) :
    ∃ messageCode length, type.messageCode = some messageCode ∧
      (prepareCmd config now seqNo type data).1 =
        packet (appendMessageHeader config now messageCode (sentSeqNo seqNo data) length ++
          type.payload config data) ∧
      (type.payload config data).length =
        length.toNat + ((data.map CommandData.storedData).getD []).length := by
  cases data with
  | none =>
    cases type
    case watchdogReqCmd =>
      -- the watchdog is only prepared when the carpark is known
      by_cases hcarpark : config.eepCarparkID = 0
      · simp [prepareCmd, commandMessage, hcarpark] at hprepared
      · refine ⟨.watchdogRequest, 0x0004, rfl, ?_, by simp [CommandType.payload]⟩
        simp only [prepareCmd, commandMessage, if_pos hcarpark]
        rfl
    all_goals first
      | exact htakes.elim
      | refine ⟨_, _, rfl, rfl, ?_⟩
        simp [CommandType.payload]
  | some given =>
    cases type
    case cpoInfoDisplayReqCmd =>
      cases given
      case cpoInfoDisplayData =>
        refine ⟨_, _, rfl, rfl, ?_⟩
        simp [CommandType.payload, CommandData.serialize, CommandData.storedData]
        omega
      all_goals exact htakes.elim
    all_goals first
      | exact htakes.elim
      | cases given
        all_goals first
          | exact htakes.elim
          | refine ⟨_, _, rfl, rfl, ?_⟩
            simp [CommandType.payload, CommandData.serialize, CommandData.storedData]

/-- A command comes through whole exactly when its data has nothing stored. -/
theorem roundTrips_iff {config : ClientConfig} (now : LocalTime) {seqNo : UInt16}
    {type : CommandType} {data : Option CommandData} (htakes : type.Takes data)
    (hprepared : (prepareCmd config now seqNo type data).2 = true) :
    RoundTrips config now seqNo type data ↔ ∀ given ∈ data, given.storedData = [] := by
  obtain ⟨messageCode, length, hcode, hpacket, hlength⟩ := prepareCmd_eq_packet now htakes hprepared
  have hparse := parseMessage_packet config now messageCode (sentSeqNo seqNo data) length
    (type.payload config data) (by omega)
  have hstored : ((data.map CommandData.storedData).getD []).length = 0 ↔
      ∀ given ∈ data, given.storedData = [] := by
    cases data with
    | none => simp
    | some given => simp
  unfold RoundTrips
  dsimp only
  rw [hpacket, isValidCheckSum_packet, withoutCheckSum_packet, hparse, ← hstored]
  constructor
  · rintro ⟨-, code, stated, -, hsame, hstated⟩
    -- the parser returns no more than the stated length
    have hsame : length = stated :=
      congrArg (fun parsed => parsed.1.dataLen) (Option.some.inj hsame)
    rw [← hsame] at hstated
    omega
  · intro hnone
    refine ⟨rfl, messageCode, length, hcode, ?_, by omega⟩
    rw [List.take_of_length_le (by omega)]

/-- A deduction of 1.20 comes through. -/
theorem roundTrips_iff_deduct :
    RoundTrips ⟨97, 33, 10⟩ ⟨3, 5, 2024, 8, 0, 0⟩ 7 .deductReqCmd
      (some (.deductData #v[1, 0] (.replicate 10 0) #v[0x12, 0x34, 0x56, 0x78, 0x9A] (.replicate 3 0)
        #v[120, 0] (.replicate 2 0) 3 5 #v[0xE8, 0x07] 0 0 0 7 3 5 #v[0xE8, 0x07] 0 0 0 8)) := by
  refine (roundTrips_iff _ ?_ ?_).mpr ?_
  · trivial
  · rfl
  · simp [CommandData.storedData]

/-- A display request with one stored byte: the body that is parsed lacks it. -/
theorem not_roundTrips_storedData :
    let data : CommandData := .cpoInfoDisplayData (.replicate 8 0) (.replicate 5 0) (.replicate 3 0) 1
      (.replicate 3 0) #v[0xD0, 0x07, 0, 0] #v[1, 0, 0, 0] (.replicate 21 0x20) (.replicate 21 0x20)
      (.replicate 21 0x20) (.replicate 21 0x20) (.replicate 21 0x20) [0x41]
    CommandType.cpoInfoDisplayReqCmd.Takes (some data) ∧
      (prepareCmd ⟨97, 33, 10⟩ ⟨3, 5, 2024, 8, 0, 0⟩ 7 .cpoInfoDisplayReqCmd (some data)).2 = true ∧
      ¬RoundTrips ⟨97, 33, 10⟩ ⟨3, 5, 2024, 8, 0, 0⟩ 7 .cpoInfoDisplayReqCmd (some data) := by
  intro data
  refine ⟨trivial, rfl, ?_⟩
  rintro ⟨-, code, stated, -, hparse, hstated⟩
  have hbody : (CommandType.cpoInfoDisplayReqCmd.payload ⟨97, 33, 10⟩ (some data)).length = 134 := by
    decide +kernel
  have hparsed : (parseMessage (withoutCheckSum (prepareCmd ⟨97, 33, 10⟩ ⟨3, 5, 2024, 8, 0, 0⟩ 7
      .cpoInfoDisplayReqCmd (some data)).1)).map (fun parsed => parsed.2.length) = some 133 := by
    decide +kernel
  rw [hparse, Option.map_some, hbody] at hparsed
  exact absurd hparsed (by decide)

end LinuxPBS.Eep

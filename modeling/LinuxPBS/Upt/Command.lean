import LinuxPBS.Common
import LinuxPBS.Upt.RoundTrip

/-!
# The commands sent to the terminal

`Upt::prepareCmd`: the message of each command, with its hand-written field
lengths, padding and total length.  The commands of one shape are one definition
with the values of the command (`fixedMessage`, `acquirerMessage`, `amountMessage`).

The commands that the source leaves "to be implemented" only get the common header.
`prepareMsg_wellFormed` is about the others: whatever the amount, the host and the
twelve-character reference number, the stated lengths are true, so that
`fnParseMsgData_encode` applies to everything that is sent.
-/

namespace LinuxPBS.Upt

open LinuxPBS.Bytes LinuxPBS.Common

/-- `Upt::UPT_CMD` -/
inductive UptCmd
  | deviceStatusRequest
  | deviceResetRequest
  | deviceTimeSyncRequest
  | deviceProfileRequest
  | deviceSofListRequest
  | deviceSofSetPriorityRequest
  | deviceLogonRequest
  | deviceTmsRequest
  | deviceSettlementRequest
  | devicePreSettlementRequest
  | deviceResetSequenceNumberRequest
  | deviceRetrieveLastTransactionStatusRequest
  | deviceRetrieveLastSettlementRequest
  | mutualAuthenticationStep1Request
  | mutualAuthenticationStep2Request
  | cardDetectRequest
  | cardDetailRequest
  | cardHistoricalLogRequest
  | paymentModeAutoRequest
  | paymentModeEftRequest
  | paymentModeEftNetsQrRequest
  | paymentModeBcaRequest
  | paymentModeCreditCardRequest
  | paymentModeNccRequest
  | paymentModeNfpRequest
  | paymentModeEzLinkRequest
  | preAuthorizationRequest
  | preAuthorizationCompletionRequest
  | installationRequest
  | voidPaymentRequest
  | refundRequest
  | cancelCommandRequest
  | topUpNetsNccByNetsEftRequest
  | topUpNetsNfpByNetsEftRequest
  | caseDepositRequest
  | uobRequest
  deriving DecidableEq, Repr

/-- `Upt::HOST_ID` -/
inductive HostId
  | nets
  | upos
  deriving DecidableEq, Repr

/-- What `CommandWithData::data` can point to. -/
inductive CommandData
  | settlement (hostIdValue : HostId)
  | retrieveLastTransactionStatus (hostIdValue : HostId)
  | payment (amount : UInt32) (merRefNum : String)
  | topUp (amount : UInt32) (merRefNum : String)
  deriving DecidableEq, Repr

/-- The local time that `FnGetDate` and `FnGetTime` print; the year has four digits. -/
structure LocalTime where
  year : ℕ
  month : ℕ
  day : ℕ
  hour : ℕ
  minute : ℕ
  second : ℕ
  year_ge : 1000 ≤ year
  year_le : year ≤ 9999
  month_le : month ≤ 12
  day_le : day ≤ 31
  hour_le : hour ≤ 23
  minute_le : minute ≤ 59
  second_le : second ≤ 60

/-- `FnGetDate`: `%Y%m%d` -/
def LocalTime.getDate (now : LocalTime) : String :=
  String.ofList (Nat.toDigits 10 now.year ++ twoDigits now.month ++ twoDigits now.day)

/-- `FnGetTime`: `%H%M%S` -/
def LocalTime.getTime (now : LocalTime) : String :=
  String.ofList (twoDigits now.hour ++ twoDigits now.minute ++ twoDigits now.second)

/-- What `prepareCmd` reads of the clock: `FnGetSecondsSince1January0000` and the local time. -/
structure Clock where
  secondsSince1January0000 : UInt64
  localTime : LocalTime

/-! ## The messages -/

/-- The common message header. -/
def commonMessage (clock : Clock) (sequenceNo : UInt32) : Message :=
  let header : MessageHeader :=
    { msgVersion := 0x00
      msgDirection := 0x00
      msgTime := clock.secondsSince1January0000
      msgSequence := sequenceNo
      msgClass := 0x0001
      msgCompletion := 0x01
      msgNotification := 0x00
      msgStatus := 0x00000000
      deviceProvider := 0x0457
      deviceType := 0x0001
      deviceNumber := 0x0001B207
      encryptionAlgorithm := 0x00
      encryptionKeyIndex := 0x00 }
  { header := header.setEncryptionMAC (convertToLittleEndian (List.replicate 16 0x00)) }

/-- The type, the code and the payload of a command, then its checksum and its length. -/
def Message.request (msg : Message) (msgType msgCode : UInt32) (payloads : List PayloadField)
    (length : UInt32) : Message :=
  let msg : Message :=
    { header := { msg.header with msgType := msgType, msgCode := msgCode }
      payloads := msg.payloads ++ payloads }
  { msg with
    header := { msg.header with integrityCRC32 := msg.fnCalculateIntegrityCRC32, length := length } }

/-- A command without payload. -/
def fixedMessage (msg : Message) (msgType msgCode : UInt32) : Message :=
  msg.request msgType msgCode [] 64

/-- A command for the acquirer `NETS = 0x1000`. -/
def acquirerMessage (msg : Message) (msgType msgCode : UInt32) : Message :=
  msg.request msgType msgCode
    [createPayload 0x0000000A 0x5022 0x39 0x38 [0x10, 0x00],
      createPayload 0x00000016 0x0000 0x31 0x33 (List.replicate 14 0x00)] 96

/-- The name of a host, `NETS` unless the data says `UPOS`. -/
def hostName : Option HostId → List UInt8
  | some .upos => [0x55, 0x50, 0x4F, 0x53]
  | _ => [0x4E, 0x45, 0x54, 0x53]

/-- A command that moves an amount: its kind, and the amount and the reference number of its data. -/
def amountMessage (msg : Message) (msgType msgCode : UInt32) (paymentType : List UInt8)
    (fieldData : Option (UInt32 × String)) : Message :=
  let amount := match fieldData with
    | some (amount, _) => convertUint32ToVector amount
    | none => List.replicate 4 0x00
  let merRefNum := match fieldData with
    | some (_, merRefNum) => convertAsciiToUint8Vector merRefNum
    | none => List.replicate 12 0x00
  msg.request msgType msgCode
    [createPayload 0x0000000A 0x5000 0x00 0x38 paymentType,
      createPayload 0x0000000C 0x5001 0x00 0x38 amount,
      createPayload 0x00000014 0x500B 0x00 0x31 merRefNum,
      createPayload 0x00000009 0x5026 0x00 0x38 [0x01],
      createPayload 0x0000000D 0x0000 0x00 0x33 (List.replicate 5 0x00)] 128

/-- `DEVICE_TIME_SYNC_REQUEST` -/
def timeSyncMessage (msg : Message) (now : LocalTime) : Message :=
  msg.request 0x10000000 0x30000000
    [createPayload 0x00000010 0x1000 0x31 0x31 (convertAsciiToUint8Vector now.getDate),
      createPayload 0x0000000E 0x1001 0x31 0x31 (convertAsciiToUint8Vector now.getTime),
      createPayload 0x00000022 0x0000 0x31 0x33 (List.replicate 26 0x00)] 128

/-- `DEVICE_SETTLEMENT_REQUEST` -/
def settlementMessage (msg : Message) (hostIdValue : Option HostId) : Message :=
  msg.request 0x10000000 0x70000000
    [createPayload 0x0000000C 0x5023 0x00 0x31 (hostName hostIdValue),
      createPayload 0x00000009 0x5026 0x00 0x38 [0x01],
      createPayload 0x0000000B 0x0000 0x31 0x33 (List.replicate 3 0x00)] 96

/-- `DEVICE_RETRIEVE_LAST_TRANSACTION_STATUS_REQUEST` -/
def lastTransactionStatusMessage (msg : Message) (hostIdValue : Option HostId) : Message :=
  msg.request 0x10000000 0x70000002
    [createPayload 0x0000000C 0x5023 0x00 0x31 (hostName hostIdValue),
      createPayload 0x00000014 0x0000 0x31 0x33 (List.replicate 12 0x00)] 96

/-- The switch of `prepareCmd` over a message that has the common header. -/
def commandMessage (msg : Message) (clock : Clock) (cmd : UptCmd) (payloadData : Option CommandData) :
    Message :=
  match cmd with
  | .deviceStatusRequest => fixedMessage msg 0x10000000 0x10000000
  | .deviceResetRequest => fixedMessage msg 0x10000000 0x20000000
  | .deviceTimeSyncRequest => timeSyncMessage msg clock.localTime
  | .deviceLogonRequest => acquirerMessage msg 0x10000000 0x60000000
  | .deviceTmsRequest => acquirerMessage msg 0x10000000 0x60000001
  | .deviceSettlementRequest =>
      settlementMessage msg (match payloadData with
        | some (.settlement hostIdValue) => some hostIdValue
        | _ => none)
  | .deviceResetSequenceNumberRequest => fixedMessage msg 0x10000000 0x20000001
  | .deviceRetrieveLastTransactionStatusRequest =>
      lastTransactionStatusMessage msg (match payloadData with
        | some (.retrieveLastTransactionStatus hostIdValue) => some hostIdValue
        | _ => none)
  | .deviceRetrieveLastSettlementRequest => fixedMessage msg 0x10000000 0x70000003
  | .cardDetectRequest => fixedMessage msg 0x30000000 0x10000000
  | .paymentModeAutoRequest =>
      amountMessage msg 0x40000000 0x10000000 [0x00, 0x00] (match payloadData with
        | some (.payment amount merRefNum) => some (amount, merRefNum)
        | _ => none)
  | .cancelCommandRequest => fixedMessage msg 0x50000000 0x30000000
  | .topUpNetsNccByNetsEftRequest =>
      amountMessage msg 0x60000000 0x10000000 [0x80, 0x00] (match payloadData with
        | some (.topUp amount merRefNum) => some (amount, merRefNum)
        | _ => none)
  | .topUpNetsNfpByNetsEftRequest =>
      amountMessage msg 0x60000000 0x20000000 [0x81, 0x00] (match payloadData with
        | some (.topUp amount merRefNum) => some (amount, merRefNum)
        | _ => none)
  -- to be implemented: only the common header is sent
  | .deviceProfileRequest | .deviceSofListRequest | .deviceSofSetPriorityRequest
  | .devicePreSettlementRequest | .mutualAuthenticationStep1Request
  | .mutualAuthenticationStep2Request | .cardDetailRequest | .cardHistoricalLogRequest
  | .paymentModeEftRequest | .paymentModeEftNetsQrRequest | .paymentModeBcaRequest
  | .paymentModeCreditCardRequest | .paymentModeNccRequest | .paymentModeNfpRequest
  | .paymentModeEzLinkRequest | .preAuthorizationRequest | .preAuthorizationCompletionRequest
  | .installationRequest | .voidPaymentRequest | .refundRequest | .caseDepositRequest
  | .uobRequest => msg

/-- `incrementSequenceNo` -/
def incrementSequenceNo (sequenceNo : UInt32) : UInt32 :=
  if sequenceNo = 0xFFFFFFFF then 1 else sequenceNo + 1

/-- The sequence number `prepareCmd` leaves in `sequenceNo_`, which its message carries. -/
def nextSequenceNo (sequenceNo : UInt32) (cmd : UptCmd) : UInt32 :=
  if cmd = .deviceResetSequenceNumberRequest then 0xFFFFFFFF else incrementSequenceNo sequenceNo

/-- The message of `prepareCmd`. -/
def prepareMsg (clock : Clock) (sequenceNo : UInt32) (cmd : UptCmd)
    (payloadData : Option CommandData) : Message :=
  commandMessage (commonMessage clock (nextSequenceNo sequenceNo cmd)) clock cmd payloadData

/-- `Upt::prepareCmd`: the stuffed frame and the sequence number afterwards. -/
def prepareCmd (clock : Clock) (sequenceNo : UInt32) (cmd : UptCmd)
    (payloadData : Option CommandData) : List UInt8 × UInt32 :=
  (fnAddDataTransparency (prepareMsg clock sequenceNo cmd payloadData).completeMsg,
    nextSequenceNo sequenceNo cmd)

/-! ## The stated lengths are true -/

/-- The commands `prepareCmd` implements. -/
def UptCmd.implemented : UptCmd → Bool
  | .deviceStatusRequest | .deviceResetRequest | .deviceTimeSyncRequest | .deviceLogonRequest
  | .deviceTmsRequest | .deviceSettlementRequest | .deviceResetSequenceNumberRequest
  | .deviceRetrieveLastTransactionStatusRequest | .deviceRetrieveLastSettlementRequest
  | .cardDetectRequest | .paymentModeAutoRequest | .cancelCommandRequest
  | .topUpNetsNccByNetsEftRequest | .topUpNetsNfpByNetsEftRequest => true
  | _ => false

/-- Reference numbers have twelve characters. -/
def CommandData.MerRefNumFits : CommandData → Prop
  | .payment _ merRefNum | .topUp _ merRefNum => merRefNum.length = 12
  | _ => True

@[simp] theorem PayloadField.setFieldData_payloadFieldLength (field : PayloadField)
    (fieldData : List UInt8) :
    (field.setFieldData fieldData).payloadFieldLength = field.payloadFieldLength := by
  unfold PayloadField.setFieldData
  split_ifs <;> rfl

@[simp] theorem createPayload_payloadFieldLength (length : UInt32) (payloadFieldId : UInt16)
    (fieldReserve fieldEncoding : UInt8) (fieldData : List UInt8) :
    (createPayload length payloadFieldId fieldReserve fieldEncoding fieldData).payloadFieldLength =
      length :=
  PayloadField.setFieldData_payloadFieldLength _ _

theorem createPayload_built {length : UInt32} {fieldData : List UInt8}
    (hlength : length.toNat = 8 + fieldData.length) (payloadFieldId : UInt16)
    (fieldReserve fieldEncoding : UInt8) :
    (createPayload length payloadFieldId fieldReserve fieldEncoding fieldData).Built :=
  ⟨length, payloadFieldId, fieldReserve, fieldEncoding, fieldData, rfl, hlength⟩

/-- What the common part of `prepareCmd` leaves: no payload yet and a MAC of the right size. -/
structure Message.Common (msg : Message) : Prop where
  payloads : msg.payloads = []
  mac : msg.header.encryptionMAC.length = encryptionMACSize

theorem commonMessage_common (clock : Clock) (sequenceNo : UInt32) :
    (commonMessage clock sequenceNo).Common where
  payloads := rfl
  mac := by rfl

/-- A request is well formed if its fields are and its stated length is the sum of theirs. -/
theorem Message.Common.request {msg : Message} (hmsg : msg.Common) (msgType msgCode : UInt32)
    {payloads : List PayloadField} {length : UInt32} (hbuilt : ∀ field ∈ payloads, field.Built)
    (hlength : length.toNat =
      payloadOffset + (payloads.map fun field => field.payloadFieldLength.toNat).sum) :
    (msg.request msgType msgCode payloads length).WellFormed where
  built := by
    intro field hfield
    simp only [Message.request, hmsg.payloads, List.nil_append] at hfield
    exact hbuilt field hfield
  mac := hmsg.mac
  length := by
    simp only [Message.request, hmsg.payloads, List.nil_append]
    exact hlength
  -- the checksum is taken before the length is set, and covers neither
  crc := rfl

theorem Message.Common.fixedMessage {msg : Message} (hmsg : msg.Common) (msgType msgCode : UInt32) :
    (fixedMessage msg msgType msgCode).WellFormed :=
  hmsg.request msgType msgCode (by simp) (by rfl)

theorem Message.Common.acquirerMessage {msg : Message} (hmsg : msg.Common)
    (msgType msgCode : UInt32) : (acquirerMessage msg msgType msgCode).WellFormed := by
  apply hmsg.request
  · simp only [List.forall_mem_cons]
    exact ⟨createPayload_built rfl _ _ _, createPayload_built rfl _ _ _, by simp⟩
  · simp only [List.map_cons, List.map_nil, createPayload_payloadFieldLength]
    rfl

theorem length_hostName (hostIdValue : Option HostId) : (hostName hostIdValue).length = 4 := by
  unfold hostName
  split <;> rfl

theorem Message.Common.settlementMessage {msg : Message} (hmsg : msg.Common)
    (hostIdValue : Option HostId) : (settlementMessage msg hostIdValue).WellFormed := by
  have hname : (0x0000000C : UInt32).toNat = 8 + (hostName hostIdValue).length := by
    rw [length_hostName]
    rfl
  apply hmsg.request
  · simp only [List.forall_mem_cons]
    exact ⟨createPayload_built hname _ _ _, createPayload_built rfl _ _ _,
      createPayload_built rfl _ _ _, by simp⟩
  · simp only [List.map_cons, List.map_nil, createPayload_payloadFieldLength]
    rfl

theorem Message.Common.lastTransactionStatusMessage {msg : Message} (hmsg : msg.Common)
    (hostIdValue : Option HostId) : (lastTransactionStatusMessage msg hostIdValue).WellFormed := by
  have hname : (0x0000000C : UInt32).toNat = 8 + (hostName hostIdValue).length := by
    rw [length_hostName]
    rfl
  apply hmsg.request
  · simp only [List.forall_mem_cons]
    exact ⟨createPayload_built hname _ _ _, createPayload_built rfl _ _ _, by simp⟩
  · simp only [List.map_cons, List.map_nil, createPayload_payloadFieldLength]
    rfl

theorem Message.Common.amountMessage {msg : Message} (hmsg : msg.Common) (msgType msgCode : UInt32)
    {paymentType : List UInt8} (htype : paymentType.length = 2)
    {fieldData : Option (UInt32 × String)}
    (hfits : ∀ amount merRefNum, fieldData = some (amount, merRefNum) → merRefNum.length = 12) :
    (amountMessage msg msgType msgCode paymentType fieldData).WellFormed := by
  have hkind : (0x0000000A : UInt32).toNat = 8 + paymentType.length := by
    rw [htype]
    rfl
  cases fieldData with
  | none =>
      apply hmsg.request
      · simp only [List.forall_mem_cons]
        exact ⟨createPayload_built hkind _ _ _, createPayload_built rfl _ _ _,
          createPayload_built rfl _ _ _, createPayload_built rfl _ _ _,
          createPayload_built rfl _ _ _, by simp⟩
      · simp only [List.map_cons, List.map_nil, createPayload_payloadFieldLength]
        rfl
  | some data =>
      obtain ⟨amount, merRefNum⟩ := data
      have hamount : (0x0000000C : UInt32).toNat = 8 + (convertUint32ToVector amount).length := by
        rw [length_convertUint32ToVector]
        rfl
      have href : (0x00000014 : UInt32).toNat = 8 + (convertAsciiToUint8Vector merRefNum).length := by
        rw [length_convertAsciiToUint8Vector, hfits amount merRefNum rfl]
        rfl
      apply hmsg.request
      · simp only [List.forall_mem_cons]
        exact ⟨createPayload_built hkind _ _ _, createPayload_built hamount _ _ _,
          createPayload_built href _ _ _, createPayload_built rfl _ _ _,
          createPayload_built rfl _ _ _, by simp⟩
      · simp only [List.map_cons, List.map_nil, createPayload_payloadFieldLength]
        rfl

/-! ### The date and the time -/

theorem length_twoDigits {value : ℕ} (hlt : value < 100) : (twoDigits value).length = 2 := by
  have hdigits : (Nat.toDigits 10 value).length ≤ 2 := by
    rw [Nat.length_toDigits_le_iff (by decide) (by decide)]
    exact hlt
  rw [twoDigits, List.length_append, List.length_replicate]
  exact Nat.sub_add_cancel hdigits

theorem LocalTime.length_getDate (now : LocalTime) : now.getDate.length = 8 := by
  have hyear : (Nat.toDigits 10 now.year).length = 4 := by
    have hle : (Nat.toDigits 10 now.year).length ≤ 4 := by
      rw [Nat.length_toDigits_le_iff (by decide) (by decide)]
      exact Nat.lt_of_le_of_lt now.year_le (by decide)
    have hgt : ¬(Nat.toDigits 10 now.year).length ≤ 3 := by
      rw [Nat.length_toDigits_le_iff (by decide) (by decide)]
      exact Nat.not_lt.mpr now.year_ge
    omega
  rw [LocalTime.getDate, String.length_ofList, List.length_append, List.length_append, hyear,
    length_twoDigits (Nat.lt_of_le_of_lt now.month_le (by decide)),
    length_twoDigits (Nat.lt_of_le_of_lt now.day_le (by decide))]

theorem LocalTime.length_getTime (now : LocalTime) : now.getTime.length = 6 := by
  rw [LocalTime.getTime, String.length_ofList, List.length_append, List.length_append,
    length_twoDigits (Nat.lt_of_le_of_lt now.hour_le (by decide)),
    length_twoDigits (Nat.lt_of_le_of_lt now.minute_le (by decide)),
    length_twoDigits (Nat.lt_of_le_of_lt now.second_le (by decide))]

theorem Message.Common.timeSyncMessage {msg : Message} (hmsg : msg.Common) (now : LocalTime) :
    (timeSyncMessage msg now).WellFormed := by
  have hdate : (0x00000010 : UInt32).toNat = 8 + (convertAsciiToUint8Vector now.getDate).length := by
    rw [length_convertAsciiToUint8Vector, now.length_getDate]
    rfl
  have htime : (0x0000000E : UInt32).toNat = 8 + (convertAsciiToUint8Vector now.getTime).length := by
    rw [length_convertAsciiToUint8Vector, now.length_getTime]
    rfl
  apply hmsg.request
  · simp only [List.forall_mem_cons]
    exact ⟨createPayload_built hdate _ _ _, createPayload_built htime _ _ _,
      createPayload_built rfl _ _ _, by simp⟩
  · simp only [List.map_cons, List.map_nil, createPayload_payloadFieldLength]
    rfl

/-- Every implemented command is well formed. -/
theorem prepareMsg_wellFormed (clock : Clock) (sequenceNo : UInt32) {cmd : UptCmd}
    (hcmd : cmd.implemented = true) {payloadData : Option CommandData}
    (hfits : ∀ data ∈ payloadData, data.MerRefNumFits) :
    (prepareMsg clock sequenceNo cmd payloadData).WellFormed := by
  have hcommon := commonMessage_common clock (nextSequenceNo sequenceNo cmd)
  unfold prepareMsg
  cases cmd with
  | deviceStatusRequest => exact hcommon.fixedMessage _ _
  | deviceResetRequest => exact hcommon.fixedMessage _ _
  | deviceTimeSyncRequest => exact hcommon.timeSyncMessage _
  | deviceLogonRequest => exact hcommon.acquirerMessage _ _
  | deviceTmsRequest => exact hcommon.acquirerMessage _ _
  | deviceSettlementRequest => exact hcommon.settlementMessage _
  | deviceResetSequenceNumberRequest => exact hcommon.fixedMessage _ _
  | deviceRetrieveLastTransactionStatusRequest => exact hcommon.lastTransactionStatusMessage _
  | deviceRetrieveLastSettlementRequest => exact hcommon.fixedMessage _ _
  | cardDetectRequest => exact hcommon.fixedMessage _ _
  | cancelCommandRequest => exact hcommon.fixedMessage _ _
  | paymentModeAutoRequest =>
      apply hcommon.amountMessage _ _ rfl
      intro amount merRefNum hdata
      split at hdata
      · cases hdata
        exact hfits _ rfl
      · cases hdata
  | topUpNetsNccByNetsEftRequest =>
      apply hcommon.amountMessage _ _ rfl
      intro amount merRefNum hdata
      split at hdata
      · cases hdata
        exact hfits _ rfl
      · cases hdata
  | topUpNetsNfpByNetsEftRequest =>
      apply hcommon.amountMessage _ _ rfl
      intro amount merRefNum hdata
      split at hdata
      · cases hdata
        exact hfits _ rfl
      · cases hdata
  | _ => cases hcmd

/-- Every well formed message, and with it every implemented command, is parsed from its stuffed
bytes as it was built. -/
theorem fnParseMsgData_roundTrip :
    (∀ msg : Message, msg.WellFormed →
      fnParseMsgData (fnAddDataTransparency (msg.getHeaderMsgVector ++ msg.getPayloadMsgVector)) =
        (.success, msg)) ∧
    ∀ (clock : Clock) (sequenceNo : UInt32) (cmd : UptCmd) (payloadData : Option CommandData),
      cmd.implemented = true → (∀ data ∈ payloadData, data.MerRefNumFits) →
        (prepareMsg clock sequenceNo cmd payloadData).WellFormed := by
  constructor
  · intro msg hmsg
    exact hmsg.fnParseMsgData_encode
  · intro clock sequenceNo cmd payloadData hcmd hfits
    exact prepareMsg_wellFormed clock sequenceNo hcmd hfits

/-- A payment of 2.50 on the morning of a third of May. -/
theorem fnParseMsgData_roundTrip_payment :
    let clock : Clock :=
      { secondsSince1January0000 := 63881337600
        localTime :=
          { year := 2024, month := 5, day := 3, hour := 8, minute := 0, second := 0, year_ge := by decide,
            year_le := by decide, month_le := by decide, day_le := by decide, hour_le := by decide,
            minute_le := by decide, second_le := by decide } }
    let msg := prepareMsg clock 7 .paymentModeAutoRequest (some (.payment 250 "REF000000001"))
    msg.WellFormed ∧ fnParseMsgData (fnAddDataTransparency msg.completeMsg) = (.success, msg) := by
  intro clock msg
  have hmsg : msg.WellFormed := by
    apply fnParseMsgData_roundTrip.2 clock 7 .paymentModeAutoRequest _ rfl
    intro data hdata
    cases hdata
    rfl
  exact ⟨hmsg, fnParseMsgData_roundTrip.1 msg hmsg⟩

end LinuxPBS.Upt

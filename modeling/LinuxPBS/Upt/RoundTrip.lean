import LinuxPBS.Upt.Message

/-!
# What is sent is what is parsed

A message whose stated lengths are true is read back as it is: the three ways the
source walks over a message, `toByteArray`, the `memcpy` series of
`FnCalculateIntegrityCRC32` and the offsets of `FnParseMsgData`, agree field by
field.

The header is settled by evaluation, since its bytes are a literal list up to the
MAC.  The payload is an induction over the fields: the loop of the parser stands at
the start of the fields not yet read, with those already read in its result
(`parsePayloads_fields`).
-/

namespace LinuxPBS.Upt

open LinuxPBS.Bytes LinuxPBS.Common

/-- The unstuffed bytes of a message: what `prepareCmd` passes to `FnAddDataTransparency`. -/
def Message.completeMsg (msg : Message) : List UInt8 :=
  msg.getHeaderMsgVector ++ msg.getPayloadMsgVector

/-- A payload field made by `createPayload` from data of the stated length. -/
def PayloadField.Built (field : PayloadField) : Prop :=
  ∃ (length : UInt32) (payloadFieldId : UInt16) (fieldReserve fieldEncoding : UInt8)
    (fieldData : List UInt8),
    field = createPayload length payloadFieldId fieldReserve fieldEncoding fieldData ∧
      length.toNat = 8 + fieldData.length

/-- The fields are built with their true lengths, the MAC has its size, the header states the
length of the whole, and the checksum is the message's own. -/
structure Message.WellFormed (msg : Message) : Prop where
  built : ∀ field ∈ msg.payloads, field.Built
  mac : msg.header.encryptionMAC.length = encryptionMACSize
  length : msg.header.length.toNat =
    payloadOffset + (msg.payloads.map fun field => field.payloadFieldLength.toNat).sum
  crc : msg.header.integrityCRC32 = msg.fnCalculateIntegrityCRC32

/-! ## Payload fields -/

theorem PayloadField.setFieldData_of_length {field : PayloadField} {fieldData : List UInt8}
    (hlength : field.payloadFieldLength.toNat = 8 + fieldData.length) :
    field.setFieldData fieldData = { field with fieldData := fieldData } := by
  have hle : (8 : UInt32) ≤ field.payloadFieldLength := by
    rw [UInt32.le_iff_toNat_le, hlength]
    exact Nat.le_add_right 8 _
  have hsize : fieldData.length = (field.payloadFieldLength - 8).toNat := by
    rw [UInt32.toNat_sub_of_le _ _ hle, hlength]
    exact (Nat.add_sub_cancel_left 8 _).symm
  unfold PayloadField.setFieldData
  rw [if_neg (UInt32.not_lt.mpr hle), if_pos hsize]

theorem PayloadField.Built.size {field : PayloadField} (hbuilt : field.Built) :
    field.payloadFieldLength.toNat = 8 + field.fieldData.length := by
  obtain ⟨length, payloadFieldId, fieldReserve, fieldEncoding, fieldData, rfl, hlength⟩ := hbuilt
  unfold createPayload
  split_ifs with hlittle
  · rw [PayloadField.setFieldData_of_length (by rw [List.length_reverse]; exact hlength)]
    rw [List.length_reverse]
    exact hlength
  · rw [PayloadField.setFieldData_of_length hlength]
    exact hlength

theorem PayloadField.length_toByteArray (field : PayloadField) :
    field.toByteArray.length = 8 + field.fieldData.length := by
  simp only [PayloadField.toByteArray, List.length_append, length_leBytes]
  omega

theorem PayloadField.crcPieces_flatten (field : PayloadField) :
    field.crcPieces.flatten = field.toByteArray := by
  simp [PayloadField.crcPieces, PayloadField.toByteArray]

/-- The parser makes the field again from its own bytes. -/
theorem parseField_toByteArray {field : PayloadField} (hbuilt : field.Built) :
    parseField field.payloadFieldLength field.toByteArray = field := by
  have hsize := hbuilt.size
  have hle : (8 : UInt32) ≤ field.payloadFieldLength := by
    rw [UInt32.le_iff_toNat_le, hsize]
    exact Nat.le_add_right 8 _
  have hdata : (field.payloadFieldLength - 8).toNat = field.fieldData.length := by
    rw [UInt32.toNat_sub_of_le _ _ hle, hsize]
    exact Nat.add_sub_cancel_left 8 _
  have hid : extractSubVector field.toByteArray 4 2 = leBytes 2 field.payloadFieldId.toNat :=
    extractSubVector_append (leBytes 4 field.payloadFieldLength.toNat) _ _
  have hreserve : extractSubVector field.toByteArray 6 1 = leBytes 1 field.fieldReserve.toNat :=
    extractSubVector_append
      (leBytes 4 field.payloadFieldLength.toNat ++ leBytes 2 field.payloadFieldId.toNat) _ _
  have hencoding : extractSubVector field.toByteArray 7 1 = leBytes 1 field.fieldEncoding.toNat :=
    extractSubVector_append
      (leBytes 4 field.payloadFieldLength.toNat ++ leBytes 2 field.payloadFieldId.toNat ++
        leBytes 1 field.fieldReserve.toNat) _ _
  have hrest : extractSubVector field.toByteArray 8 field.fieldData.length = field.fieldData := by
    have hcut := extractSubVector_append
      (leBytes 4 field.payloadFieldLength.toNat ++ leBytes 2 field.payloadFieldId.toNat ++
        leBytes 1 field.fieldReserve.toNat ++ leBytes 1 field.fieldEncoding.toNat)
      field.fieldData []
    rwa [List.append_nil] at hcut
  unfold parseField
  rw [hid, hreserve, hencoding, hdata, hrest, convertToUint16_leBytes, convertToUint8_leBytes,
    convertToUint8_leBytes]
  exact PayloadField.setFieldData_of_length hsize

/-- The loop at the start of the fields not yet read. -/
theorem parsePayloads_fields {fields : List PayloadField} (hbuilt : ∀ field ∈ fields, field.Built)
    (before : List UInt8) (payloads : List PayloadField) {length : ℕ}
    (hlength : length = before.length + (fields.flatMap PayloadField.toByteArray).length) :
    parsePayloads (before ++ fields.flatMap PayloadField.toByteArray) length before.length payloads =
      (.success, payloads ++ fields) := by
  induction fields generalizing before payloads with
  | nil =>
      rw [parsePayloads, if_neg (by simpa using hlength.le), List.append_nil]
  | cons field rest ih =>
      have hfield := hbuilt field List.mem_cons_self
      have hsize := hfield.size
      have hbytes := field.length_toByteArray
      have hsplit : before ++ (field :: rest).flatMap PayloadField.toByteArray =
          before ++ (field.toByteArray ++ rest.flatMap PayloadField.toByteArray) := by
        rw [List.flatMap_cons]
      rw [List.flatMap_cons, List.length_append] at hlength
      -- the length word is the start of the field's own bytes
      have hword : extractSubVector
          (before ++ (field.toByteArray ++ rest.flatMap PayloadField.toByteArray)) before.length 4 =
          leBytes 4 field.payloadFieldLength.toNat := by
        rw [PayloadField.toByteArray, List.append_assoc]
        exact extractSubVector_append before (leBytes 4 field.payloadFieldLength.toNat) _
      have htake : ((before ++ (field.toByteArray ++ rest.flatMap PayloadField.toByteArray)).drop
          before.length).take field.payloadFieldLength.toNat = field.toByteArray := by
        rw [List.drop_left' rfl, List.take_left' (by omega)]
      have hnext : before.length + field.payloadFieldLength.toNat =
          (before ++ field.toByteArray).length := by
        rw [List.length_append]
        omega
      rw [hsplit, parsePayloads, if_pos (by omega)]
      dsimp only
      rw [hword, convertToUint32_leBytes, if_neg (by omega), if_neg (by omega), if_neg (by omega),
        htake, parseField_toByteArray hfield, hnext, ← List.append_assoc]
      rw [ih (fun other hother => hbuilt other (List.mem_cons_of_mem field hother)) _ _
        (by rw [List.length_append]; omega), List.append_assoc, List.singleton_append]

/-! ## The header -/

theorem MessageHeader.length_toByteArray {header : MessageHeader}
    (hmac : header.encryptionMAC.length = encryptionMACSize) :
    header.toByteArray.length = payloadOffset := by
  simp only [MessageHeader.toByteArray, List.length_append, length_leBytes, hmac]
  rfl

theorem MessageHeader.crcPieces_flatten (header : MessageHeader) :
    header.crcPieces.flatten = header.toByteArray.drop 8 := by
  have hdrop : header.toByteArray.drop 8 = leBytes 1 header.msgVersion.toNat ++ _ := rfl
  rw [hdrop]
  simp [MessageHeader.crcPieces]

/-- A piece that is known at its offset. -/
theorem extractSubVector_of_drop {source piece after : List UInt8} {offset : ℕ}
    (hdrop : source.drop offset = piece ++ after) :
    extractSubVector source offset piece.length = piece := by
  unfold extractSubVector
  split_ifs with hend
  · rw [List.drop_eq_nil_of_le hend] at hdrop
    exact (List.append_eq_nil_iff.mp hdrop.symm).1.symm
  · rw [hdrop, List.take_left' rfl]

/-- The parser reads the header back from the front of any message. -/
theorem parseHeader_toByteArray {header : MessageHeader} (rest : List UInt8)
    (hmac : header.encryptionMAC.length = encryptionMACSize) :
    parseHeader (header.toByteArray ++ rest) = header := by
  have hsixteen : extractSubVector (header.toByteArray ++ rest) 48 16 = header.encryptionMAC := by
    have hcut : (header.toByteArray ++ rest).drop 48 = header.encryptionMAC ++ rest := rfl
    rw [← extractSubVector_of_drop hcut, hmac]
    rfl
  have hword : ∀ (offset n value : ℕ) (after : List UInt8),
      (header.toByteArray ++ rest).drop offset = leBytes n value ++ after →
        extractSubVector (header.toByteArray ++ rest) offset n = leBytes n value := by
    intro offset n value after hdrop
    have hcut := extractSubVector_of_drop hdrop
    rwa [length_leBytes] at hcut
  unfold parseHeader
  rw [hsixteen, hword 0 4 header.length.toNat _ rfl, hword 4 4 header.integrityCRC32.toNat _ rfl,
    hword 8 1 header.msgVersion.toNat _ rfl, hword 9 1 header.msgDirection.toNat _ rfl,
    hword 10 8 header.msgTime.toNat _ rfl, hword 18 4 header.msgSequence.toNat _ rfl,
    hword 22 2 header.msgClass.toNat _ rfl, hword 24 4 header.msgType.toNat _ rfl,
    hword 28 4 header.msgCode.toNat _ rfl, hword 32 1 header.msgCompletion.toNat _ rfl,
    hword 33 1 header.msgNotification.toNat _ rfl, hword 34 4 header.msgStatus.toNat _ rfl,
    hword 38 2 header.deviceProvider.toNat _ rfl, hword 40 2 header.deviceType.toNat _ rfl,
    hword 42 4 header.deviceNumber.toNat _ rfl, hword 46 1 header.encryptionAlgorithm.toNat _ rfl,
    hword 47 1 header.encryptionKeyIndex.toNat _ rfl]
  simp only [convertToUint8_leBytes, convertToUint16_leBytes, convertToUint32_leBytes,
    convertToUint64_leBytes]
  unfold MessageHeader.setEncryptionMAC
  rw [if_pos hmac]

/-! ## The checksum -/

theorem Message.crcPieces_flatten (msg : Message)
    (hmac : msg.header.encryptionMAC.length = encryptionMACSize) :
    (msg.header.crcPieces ++ msg.payloads.flatMap PayloadField.crcPieces).flatten =
      msg.completeMsg.drop 8 := by
  have hfields : (msg.payloads.flatMap PayloadField.crcPieces).flatten = msg.getPayloadMsgVector := by
    unfold Message.getPayloadMsgVector
    induction msg.payloads with
    | nil => rfl
    | cons field rest ih =>
        rw [List.flatMap_cons, List.flatten_append, ih, field.crcPieces_flatten, List.flatMap_cons]
  have hheader : 8 ≤ msg.getHeaderMsgVector.length := by
    rw [Message.getHeaderMsgVector, MessageHeader.length_toByteArray hmac]
    decide
  rw [List.flatten_append, hfields, msg.header.crcPieces_flatten, Message.completeMsg,
    List.drop_append_of_le_length hheader]
  rfl

namespace Message.WellFormed

variable {msg : Message} (hmsg : msg.WellFormed)

include hmsg

theorem length_completeMsg : msg.completeMsg.length = msg.header.length.toNat := by
  have hfields : ∀ fields : List PayloadField, (∀ field ∈ fields, field.Built) →
      (fields.flatMap PayloadField.toByteArray).length =
        (fields.map fun field => field.payloadFieldLength.toNat).sum := by
    intro fields hbuilt
    induction fields with
    | nil => rfl
    | cons field rest ih =>
        rw [List.flatMap_cons, List.length_append, field.length_toByteArray, List.map_cons,
          List.sum_cons, (hbuilt field List.mem_cons_self).size,
          ih fun other hother => hbuilt other (List.mem_cons_of_mem field hother)]
  rw [Message.completeMsg, List.length_append, Message.getHeaderMsgVector,
    MessageHeader.length_toByteArray hmsg.mac, Message.getPayloadMsgVector,
    hfields msg.payloads hmsg.built, hmsg.length]

theorem totalLength_toNat : msg.totalLength.toNat = (msg.completeMsg.drop 8).length := by
  have hlt := msg.header.length.toNat_lt
  have hsum : (msg.payloads.map fun field => 4 + 2 + 1 + 1 + field.fieldData.length).sum =
      (msg.payloads.map fun field => field.payloadFieldLength.toNat).sum := by
    apply congrArg List.sum
    apply List.map_congr_left
    intro field hfield
    rw [(hmsg.built field hfield).size]
  rw [List.length_drop, hmsg.length_completeMsg, Message.totalLength, UInt32.toNat_ofNat', hsum,
    hmsg.mac]
  rw [hmsg.length] at hlt ⊢
  unfold payloadOffset encryptionMACSize at *
  omega

/-- The `memcpy` series computes the checksum the parser computes from the bytes on the wire. -/
theorem crc32_completeMsg :
    crc32 (msg.completeMsg.drop 8) (UInt32.ofNat (msg.completeMsg.drop 8).length) =
      msg.header.integrityCRC32 := by
  have htotal := hmsg.totalLength_toNat
  have hbuffer := Buffer.copyAll_zeroed
    (msg.header.crcPieces ++ msg.payloads.flatMap PayloadField.crcPieces)
  rw [msg.crcPieces_flatten hmsg.mac, ← htotal, Buffer.copyAll_append] at hbuffer
  rw [hmsg.crc, Message.fnCalculateIntegrityCRC32, hbuffer, ← htotal, UInt32.ofNat_toNat]

/-- A well formed message is parsed from its stuffed bytes as it is. -/
theorem fnParseMsgData_encode :
    fnParseMsgData (fnAddDataTransparency msg.completeMsg) = (.success, msg) := by
  have hlength := hmsg.length_completeMsg
  have hsize : UInt32.ofNat msg.completeMsg.length = msg.header.length := by
    rw [hlength, UInt32.ofNat_toNat]
  have hvalid : isValidHeaderSize msg.header.length = true := by
    have hge : (64 : UInt32) ≤ msg.header.length := by
      rw [UInt32.le_iff_toNat_le, hmsg.length]
      exact Nat.le_add_right payloadOffset _
    have hle : msg.header.length ≤ (4294967295 : UInt32) := by
      rw [UInt32.le_iff_toNat_le]
      exact Nat.le_of_lt_succ msg.header.length.toNat_lt
    simp only [isValidHeaderSize, ge_iff_le, hge, hle, decide_true, Bool.and_self]
  have hword : convertToUint32 (extractSubVector msg.completeMsg 0 4) = msg.header.length := by
    rw [show extractSubVector msg.completeMsg 0 4 = leBytes 4 msg.header.length.toNat from
      extractSubVector_append [] (leBytes 4 msg.header.length.toNat) _, convertToUint32_leBytes]
  have hcrc : convertToUint32 (extractSubVector msg.completeMsg 4 4) = msg.header.integrityCRC32 := by
    rw [show extractSubVector msg.completeMsg 4 4 = leBytes 4 msg.header.integrityCRC32.toNat from
      extractSubVector_append (leBytes 4 msg.header.length.toNat)
        (leBytes 4 msg.header.integrityCRC32.toNat) _, convertToUint32_leBytes]
  have hpayloads : parsePayloads msg.completeMsg msg.header.length.toNat payloadOffset [] =
      (.success, msg.payloads) := by
    have hoffset := MessageHeader.length_toByteArray hmsg.mac
    have hend : msg.header.length.toNat = msg.header.toByteArray.length +
        (msg.payloads.flatMap PayloadField.toByteArray).length := by
      rw [← hlength, ← List.length_append]
      rfl
    have hrun := parsePayloads_fields hmsg.built msg.header.toByteArray [] hend
    rwa [hoffset, List.nil_append] at hrun
  have hheader : parseHeader msg.completeMsg = msg.header :=
    parseHeader_toByteArray msg.getPayloadMsgVector hmsg.mac
  unfold fnParseMsgData
  rw [fnRemove_fnAddDataTransparency]
  dsimp only
  rw [hsize, hvalid, if_pos rfl, hword, if_pos rfl, hmsg.crc32_completeMsg, hcrc, if_pos rfl,
    hpayloads, hheader]

end Message.WellFormed

end LinuxPBS.Upt

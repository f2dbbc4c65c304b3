import Mathlib
import LinuxPBS.CommonVector
import LinuxPBS.Upt.Framing

/-!
# The terminal's messages

`MessageHeader`, `PayloadField` and `Message` of `upt.cpp`: a header of 64 bytes,
then the payload fields one after the other, all words little-endian.

```text
 0 length   4 CRC-32   8 version   9 direction  10 time (8)    18 sequence
22 class   24 type    28 code     32 completion 33 notification 34 status
38 provider 40 device type 42 device number 46 algorithm 47 key index 48 MAC (16)
64 field: length (4)  id (2)  reserve (1)  encoding (1)  data (length - 8)
```

The source serialises a message twice, with `toByteArray` for the wire and with a
series of `memcpy` in `FnCalculateIntegrityCRC32` for the checksum, and takes it
apart by offsets in `FnParseMsgData`.  `fnParseMsgData_encode` is the agreement of
the three on every message whose stated lengths are true (`WellFormed`).
-/

namespace LinuxPBS.Upt

open LinuxPBS.Bytes LinuxPBS.Common

/-! ## CRC32 -/

/-- `CRC32::mTable` -/
def crc32Table : List UInt32 :=
   [0x00000000, 0x77073096, 0xee0e612c, 0x990951ba, 0x076dc419, 0x706af48f, 0xe963a535, 0x9e6495a3,
    0x0edb8832, 0x79dcb8a4, 0xe0d5e91e, 0x97d2d988, 0x09b64c2b, 0x7eb17cbd, 0xe7b82d07, 0x90bf1d91,
    0x1db71064, 0x6ab020f2, 0xf3b97148, 0x84be41de, 0x1adad47d, 0x6ddde4eb, 0xf4d4b551, 0x83d385c7,
    0x136c9856, 0x646ba8c0, 0xfd62f97a, 0x8a65c9ec, 0x14015c4f, 0x63066cd9, 0xfa0f3d63, 0x8d080df5,
    0x3b6e20c8, 0x4c69105e, 0xd56041e4, 0xa2677172, 0x3c03e4d1, 0x4b04d447, 0xd20d85fd, 0xa50ab56b,
    0x35b5a8fa, 0x42b2986c, 0xdbbbc9d6, 0xacbcf940, 0x32d86ce3, 0x45df5c75, 0xdcd60dcf, 0xabd13d59,
    0x26d930ac, 0x51de003a, 0xc8d75180, 0xbfd06116, 0x21b4f4b5, 0x56b3c423, 0xcfba9599, 0xb8bda50f,
    0x2802b89e, 0x5f058808, 0xc60cd9b2, 0xb10be924, 0x2f6f7c87, 0x58684c11, 0xc1611dab, 0xb6662d3d,
    0x76dc4190, 0x01db7106, 0x98d220bc, 0xefd5102a, 0x71b18589, 0x06b6b51f, 0x9fbfe4a5, 0xe8b8d433,
    0x7807c9a2, 0x0f00f934, 0x9609a88e, 0xe10e9818, 0x7f6a0dbb, 0x086d3d2d, 0x91646c97, 0xe6635c01,
    0x6b6b51f4, 0x1c6c6162, 0x856530d8, 0xf262004e, 0x6c0695ed, 0x1b01a57b, 0x8208f4c1, 0xf50fc457,
    0x65b0d9c6, 0x12b7e950, 0x8bbeb8ea, 0xfcb9887c, 0x62dd1ddf, 0x15da2d49, 0x8cd37cf3, 0xfbd44c65,
    0x4db26158, 0x3ab551ce, 0xa3bc0074, 0xd4bb30e2, 0x4adfa541, 0x3dd895d7, 0xa4d1c46d, 0xd3d6f4fb,
    0x4369e96a, 0x346ed9fc, 0xad678846, 0xda60b8d0, 0x44042d73, 0x33031de5, 0xaa0a4c5f, 0xdd0d7cc9,
    0x5005713c, 0x270241aa, 0xbe0b1010, 0xc90c2086, 0x5768b525, 0x206f85b3, 0xb966d409, 0xce61e49f,
    0x5edef90e, 0x29d9c998, 0xb0d09822, 0xc7d7a8b4, 0x59b33d17, 0x2eb40d81, 0xb7bd5c3b, 0xc0ba6cad,
    0xedb88320, 0x9abfb3b6, 0x03b6e20c, 0x74b1d29a, 0xead54739, 0x9dd277af, 0x04db2615, 0x73dc1683,
    0xe3630b12, 0x94643b84, 0x0d6d6a3e, 0x7a6a5aa8, 0xe40ecf0b, 0x9309ff9d, 0x0a00ae27, 0x7d079eb1,
    0xf00f9344, 0x8708a3d2, 0x1e01f268, 0x6906c2fe, 0xf762575d, 0x806567cb, 0x196c3671, 0x6e6b06e7,
    0xfed41b76, 0x89d32be0, 0x10da7a5a, 0x67dd4acc, 0xf9b9df6f, 0x8ebeeff9, 0x17b7be43, 0x60b08ed5,
    0xd6d6a3e8, 0xa1d1937e, 0x38d8c2c4, 0x4fdff252, 0xd1bb67f1, 0xa6bc5767, 0x3fb506dd, 0x48b2364b,
    0xd80d2bda, 0xaf0a1b4c, 0x36034af6, 0x41047a60, 0xdf60efc3, 0xa867df55, 0x316e8eef, 0x4669be79,
    0xcb61b38c, 0xbc66831a, 0x256fd2a0, 0x5268e236, 0xcc0c7795, 0xbb0b4703, 0x220216b9, 0x5505262f,
    0xc5ba3bbe, 0xb2bd0b28, 0x2bb45a92, 0x5cb36a04, 0xc2d7ffa7, 0xb5d0cf31, 0x2cd99e8b, 0x5bdeae1d,
    0x9b64c2b0, 0xec63f226, 0x756aa39c, 0x026d930a, 0x9c0906a9, 0xeb0e363f, 0x72076785, 0x05005713,
    0x95bf4a82, 0xe2b87a14, 0x7bb12bae, 0x0cb61b38, 0x92d28e9b, 0xe5d5be0d, 0x7cdcefb7, 0x0bdbdf21,
    0x86d3d2d4, 0xf1d4e242, 0x68ddb3f8, 0x1fda836e, 0x81be16cd, 0xf6b9265b, 0x6fb077e1, 0x18b74777,
    0x88085ae6, 0xff0f6a70, 0x66063bca, 0x11010b5c, 0x8f659eff, 0xf862ae69, 0x616bffd3, 0x166ccf45,
    0xa00ae278, 0xd70dd2ee, 0x4e048354, 0x3903b3c2, 0xa7672661, 0xd06016f7, 0x4969474d, 0x3e6e77db,
    0xaed16a4a, 0xd9d65adc, 0x40df0b66, 0x37d83bf0, 0xa9bcae53, 0xdebb9ec5, 0x47b2cf7f, 0x30b5ffe9,
    0xbdbdf21c, 0xcabac28a, 0x53b39330, 0x24b4a3a6, 0xbad03605, 0xcdd70693, 0x54de5729, 0x23d967bf,
    0xb3667a2e, 0xc4614ab8, 0x5d681b02, 0x2a6f2b94, 0xb40bbe37, 0xc30c8ea1, 0x5a05df1b, 0x2d02ef8d]

/-- One turn of the loop of `CRC32::Update`. -/
def crc32Step (value : UInt32) (byte : UInt8) : UInt32 :=
  crc32Table.getD ((value.toUInt16.toUInt32 ^^^ byte.toUInt32) &&& 0xFF).toNat 0 ^^^
    ((value >>> 8) &&& 0x00FFFFFF)

/-- `CRC32::Init`, `CRC32::Update(data, length)` and `CRC32::Value` in a row. -/
def crc32 (data : List UInt8) (length : UInt32) : UInt32 :=
  (data.take length.toNat).foldl crc32Step 0xFFFFFFFF ^^^ 0xFFFFFFFF

/-! ## The data model -/

/-- `ENCRYPTION_MAC_SIZE` -/
def encryptionMACSize : ℕ := 16

/-- `PAYLOAD_OFFSET` -/
def payloadOffset : ℕ := 64

/-- `MessageHeader` -/
structure MessageHeader where
  length : UInt32 := 0
  integrityCRC32 : UInt32 := 0
  msgVersion : UInt8 := 0
  msgDirection : UInt8 := 0
  msgTime : UInt64 := 0
  msgSequence : UInt32 := 0
  msgClass : UInt16 := 0
  msgType : UInt32 := 0x10000000
  msgCode : UInt32 := 0x10000000
  msgCompletion : UInt8 := 0
  msgNotification : UInt8 := 0
  msgStatus : UInt32 := 0
  deviceProvider : UInt16 := 0
  deviceType : UInt16 := 0
  deviceNumber : UInt32 := 0
  encryptionAlgorithm : UInt8 := 0
  encryptionKeyIndex : UInt8 := 0
  encryptionMAC : List UInt8 := List.replicate encryptionMACSize 0
  deriving DecidableEq, Repr

/-- `MessageHeader::setEncryptionMAC` -/
def MessageHeader.setEncryptionMAC (header : MessageHeader) (encryptionMAC : List UInt8) :
    MessageHeader :=
  if encryptionMAC.length = encryptionMACSize then { header with encryptionMAC := encryptionMAC }
  else header

/-- `MessageHeader::clear` -/
def MessageHeader.cleared : MessageHeader := { msgType := 0, msgCode := 0, encryptionMAC := [] }

/-- `MessageHeader::toByteArray` -/
def MessageHeader.toByteArray (header : MessageHeader) : List UInt8 :=
  leBytes 4 header.length.toNat ++ (leBytes 4 header.integrityCRC32.toNat ++
  (leBytes 1 header.msgVersion.toNat ++ (leBytes 1 header.msgDirection.toNat ++
  (leBytes 8 header.msgTime.toNat ++ (leBytes 4 header.msgSequence.toNat ++
  (leBytes 2 header.msgClass.toNat ++ (leBytes 4 header.msgType.toNat ++
  (leBytes 4 header.msgCode.toNat ++ (leBytes 1 header.msgCompletion.toNat ++
  (leBytes 1 header.msgNotification.toNat ++ (leBytes 4 header.msgStatus.toNat ++
  (leBytes 2 header.deviceProvider.toNat ++ (leBytes 2 header.deviceType.toNat ++
  (leBytes 4 header.deviceNumber.toNat ++ (leBytes 1 header.encryptionAlgorithm.toNat ++
  (leBytes 1 header.encryptionKeyIndex.toNat ++ header.encryptionMAC))))))))))))))))

/-- `PayloadField` -/
structure PayloadField where
  payloadFieldLength : UInt32 := 0
  payloadFieldId : UInt16 := 0
  fieldReserve : UInt8 := 0
  fieldEncoding : UInt8 := 0x30
  fieldData : List UInt8 := []
  deriving DecidableEq, Repr

/-- `PayloadField::setFieldData`: data that does not fit the stated length is not stored. -/
def PayloadField.setFieldData (field : PayloadField) (fieldData : List UInt8) : PayloadField :=
  if field.payloadFieldLength < 8 then { field with fieldData := [] }
  else if fieldData.length = (field.payloadFieldLength - 8).toNat then
    { field with fieldData := fieldData }
  else field

/-- `PayloadField::toByteArray` -/
def PayloadField.toByteArray (field : PayloadField) : List UInt8 :=
  leBytes 4 field.payloadFieldLength.toNat ++ (leBytes 2 field.payloadFieldId.toNat ++
  (leBytes 1 field.fieldReserve.toNat ++ (leBytes 1 field.fieldEncoding.toNat ++ field.fieldData)))

/-- `FIELD_ENCODING_VALUE_HEX_LITTLE` -/
def fieldEncodingValueHexLittle : UInt8 := 0x38

/-- `Upt::createPayload` -/
def createPayload (length : UInt32) (payloadFieldId : UInt16) (fieldReserve fieldEncoding : UInt8)
    (fieldData : List UInt8) : PayloadField :=
  let payload : PayloadField :=
    { payloadFieldLength := length
      payloadFieldId := payloadFieldId
      fieldReserve := fieldReserve
      fieldEncoding := fieldEncoding }
  payload.setFieldData
    (if fieldEncoding = fieldEncodingValueHexLittle then fieldData.reverse else fieldData)

/-- `Message` -/
structure Message where
  header : MessageHeader := {}
  payloads : List PayloadField := []
  deriving DecidableEq, Repr

/-- `Message::getHeaderMsgVector` -/
def Message.getHeaderMsgVector (msg : Message) : List UInt8 := msg.header.toByteArray

/-- `Message::getPayloadMsgVector` -/
def Message.getPayloadMsgVector (msg : Message) : List UInt8 :=
  msg.payloads.flatMap PayloadField.toByteArray

/-! ## The checksum over a message -/

/-- The header fields `FnCalculateIntegrityCRC32` copies, in its order. -/
def MessageHeader.crcPieces (header : MessageHeader) : List (List UInt8) :=
  [leBytes 1 header.msgVersion.toNat, leBytes 1 header.msgDirection.toNat,
    leBytes 8 header.msgTime.toNat, leBytes 4 header.msgSequence.toNat,
    leBytes 2 header.msgClass.toNat, leBytes 4 header.msgType.toNat,
    leBytes 4 header.msgCode.toNat, leBytes 1 header.msgCompletion.toNat,
    leBytes 1 header.msgNotification.toNat, leBytes 4 header.msgStatus.toNat,
    leBytes 2 header.deviceProvider.toNat, leBytes 2 header.deviceType.toNat,
    leBytes 4 header.deviceNumber.toNat, leBytes 1 header.encryptionAlgorithm.toNat,
    leBytes 1 header.encryptionKeyIndex.toNat, header.encryptionMAC]

/-- The parts of a payload field it copies, in its order. -/
def PayloadField.crcPieces (field : PayloadField) : List (List UInt8) :=
  [leBytes 4 field.payloadFieldLength.toNat, leBytes 2 field.payloadFieldId.toNat,
    leBytes 1 field.fieldReserve.toNat, leBytes 1 field.fieldEncoding.toNat, field.fieldData]

/-- Its `totalLength`, a `uint32_t`: the sizes of the header fields and of the fields. -/
def Message.totalLength (msg : Message) : UInt32 :=
  UInt32.ofNat (1 + 1 + 8 + 4 + 2 + 4 + 4 + 1 + 1 + 4 + 2 + 2 + 4 + 1 + 1 +
    msg.header.encryptionMAC.length +
    (msg.payloads.map fun field => 4 + 2 + 1 + 1 + field.fieldData.length).sum)

/-- `Message::FnCalculateIntegrityCRC32` -/
def Message.fnCalculateIntegrityCRC32 (msg : Message) : UInt32 :=
  let dataBuffer := Buffer.zeroed msg.totalLength.toNat
  let dataBuffer := dataBuffer.copyAll msg.header.crcPieces
  let dataBuffer := dataBuffer.copyAll (msg.payloads.flatMap PayloadField.crcPieces)
  crc32 dataBuffer.bytes msg.totalLength

/-! ## The parser -/

/-- `Message::isValidHeaderSize`; the other bound is the largest `uint32_t`. -/
def isValidHeaderSize (size : UInt32) : Bool := decide (size ≥ 64) && decide (size ≤ 4294967295)

/-- The header as `FnParseMsgData` reads it from the unstuffed message. -/
def parseHeader (payload : List UInt8) : MessageHeader :=
  let header : MessageHeader :=
    { MessageHeader.cleared with
      length := convertToUint32 (extractSubVector payload 0 4)
      integrityCRC32 := convertToUint32 (extractSubVector payload 4 4)
      msgVersion := convertToUint8 (extractSubVector payload 8 1)
      msgDirection := convertToUint8 (extractSubVector payload 9 1)
      msgTime := convertToUint64 (extractSubVector payload 10 8)
      msgSequence := convertToUint32 (extractSubVector payload 18 4)
      msgClass := convertToUint16 (extractSubVector payload 22 2)
      msgType := convertToUint32 (extractSubVector payload 24 4)
      msgCode := convertToUint32 (extractSubVector payload 28 4)
      msgCompletion := convertToUint8 (extractSubVector payload 32 1)
      msgNotification := convertToUint8 (extractSubVector payload 33 1)
      msgStatus := convertToUint32 (extractSubVector payload 34 4)
      deviceProvider := convertToUint16 (extractSubVector payload 38 2)
      deviceType := convertToUint16 (extractSubVector payload 40 2)
      deviceNumber := convertToUint32 (extractSubVector payload 42 4)
      encryptionAlgorithm := convertToUint8 (extractSubVector payload 46 1)
      encryptionKeyIndex := convertToUint8 (extractSubVector payload 47 1) }
  header.setEncryptionMAC (extractSubVector payload 48 16)

/-- The field `FnParseMsgData` makes of the bytes of one field. -/
def parseField (payloadFieldLength : UInt32) (payloadFieldData : List UInt8) : PayloadField :=
  let field : PayloadField :=
    { payloadFieldLength := payloadFieldLength
      payloadFieldId := convertToUint16 (extractSubVector payloadFieldData 4 2)
      fieldReserve := convertToUint8 (extractSubVector payloadFieldData 6 1)
      fieldEncoding := convertToUint8 (extractSubVector payloadFieldData 7 1) }
  field.setFieldData (extractSubVector payloadFieldData 8 (payloadFieldLength - 8).toNat)

/-- The loop of `FnParseMsgData` over the payload fields. -/
def parsePayloads (payload : List UInt8) (length payloadStartIndex : ℕ)
    (payloads : List PayloadField) : MsgStatus × List PayloadField :=
  if payloadStartIndex < length then
    let remaining := length - payloadStartIndex
    if remaining < 8 then (.fieldLengthMinimum, payloads)
    else
      let payloadFieldLength := convertToUint32 (extractSubVector payload payloadStartIndex 4)
      if payloadFieldLength.toNat < 8 then (.fieldLengthMinimum, payloads)
      else if payloadFieldLength.toNat > remaining then (.fieldLengthInvalid, payloads)
      else
        let payloadFieldData := (payload.drop payloadStartIndex).take payloadFieldLength.toNat
        parsePayloads payload length (payloadStartIndex + payloadFieldLength.toNat)
          (payloads ++ [parseField payloadFieldLength payloadFieldData])
  else (.success, payloads)
termination_by length - payloadStartIndex
decreasing_by
  simp +zetaDelta only [not_lt] at *
  omega

/-- `Message::FnParseMsgData`: the status and what the message is afterwards. -/
def fnParseMsgData (msgData : List UInt8) : MsgStatus × Message :=
  let msg : Message := { header := MessageHeader.cleared }
  match fnRemoveDataTransparency msgData with
  | (.success, payload) =>
      let size := UInt32.ofNat payload.length
      if isValidHeaderSize size then
        let length := convertToUint32 (extractSubVector payload 0 4)
        if length = size then
          let calculatedCRC32 := crc32 (payload.drop 8) (UInt32.ofNat (payload.drop 8).length)
          if calculatedCRC32 = convertToUint32 (extractSubVector payload 4 4) then
            let fields := parsePayloads payload length.toNat payloadOffset []
            (fields.1, { header := parseHeader payload, payloads := fields.2 })
          else (.msgIntegrityFailed, msg)
        else (.msgLengthMismatch, msg)
      else if size < 64 then (.msgLengthMinimum, msg)
      else (.msgLengthMaximum, msg)
  | _ => (.msgDataTransparencyError, msg)

end LinuxPBS.Upt
